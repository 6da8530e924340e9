import PagedSparql.Proofs.Plan.Clients
import PagedSparql.Proofs.Plan.OptionalGroups
import PagedSparql.Proofs.Query.Hidden

/-!
# Cancellation of queries

The clients of a query may be closed at any moment: from outside, between two steps of a pull, and
while a request is under way. What is true from then on is `QueryStream.Stops`: no request is sent
any more, no pull fails, and each bound join comes to its end. If the request that was under way
fails itself, the pull that has sent it fails with it.

The run of a query is made of pulls of any number of steps and of closings
(`QueryStream.Course`). Its invariant (`QueryStream.Sound`) is that the plan is confined to the
endpoints whose clients were opened for it, unless the query has ended. It holds at first by
`Plan.opens_query`, and a step keeps it by `Stage.Confined.step`.
-/

namespace PagedSparql

variable {σ : Type}

/-- What a pull of a construction over a confined stage comes to. -/
theorem Construction.pull_confined {asked : String → Prop} {c : Construction}
    (h : c.source.Confined asked) (net : Network σ) (now : DateTime) (n : Nat) (s : Session σ) :
    s.Later net asked (c.pull net now n s).2.2 ∧
      ((∀ e, (c.pull net now n s).1 ≠ some (.fail e)) →
        (c.pull net now n s).2.1.source.Confined asked) ∧
      ∀ e, (c.pull net now n s).1 = some (.fail e) →
        Session.Failed net asked e s (c.pull net now n s).2.2 := by
  induction n generalizing c s with
  | zero => exact ⟨.refl, fun _ => h, by simp [pull]⟩
  | succ n ih =>
    obtain ⟨source, templates, pending⟩ := c
    cases pending with
    | cons t rest => exact ⟨.refl, fun _ => h, by simp [pull]⟩
    | nil =>
      have hout := h.step net now (if source.wants then some .done else none) s
      have hnone : ∀ e, (if source.wants then some Signal.done else none) ≠ some (.fail e) := by
        intro e
        split <;> simp
      rw [pull]
      simp only
      rcases hstep : source.step net now (if source.wants then some .done else none) s with
        ⟨⟨source', y?⟩, s'⟩
      rw [hstep] at hout
      rcases y? with _ | r | _ | e
      · obtain ⟨hlater, hconfined, hfails⟩ :=
          ih (c := ⟨source', templates, []⟩) (hout.confined (by simp)) s'
        exact ⟨hout.later.trans hlater, hconfined, fun e he => (hfails e he).of_later hout.later⟩
      · have hlater' : s.Later net asked (triplesOf templates r s').2 :=
          hout.later.evaluate _
        obtain ⟨hlater, hconfined, hfails⟩ :=
          ih (c := ⟨source', templates, (triplesOf templates r s').1⟩) (hout.confined (by simp))
            (triplesOf templates r s').2
        exact ⟨hlater'.trans hlater, hconfined, fun e he => (hfails e he).of_later hlater'⟩
      · exact ⟨hout.later, fun _ => hout.confined (by simp), by simp⟩
      · refine ⟨hout.later, fun hne => absurd rfl (hne e), fun e' he => ?_⟩
        obtain rfl : e = e' := by simpa using he
        exact (hout.fails e rfl).resolve_left (hnone e)

/-- A bound join is part of a plan. -/
def QueryPlan.Holds (j : BoundJoin) : QueryPlan → Prop
  | .solutions stage => stage.Holds j
  | .triples construction => construction.source.Holds j
  | .truth stage => stage.Holds j

/-- The bound joins of a confined plan are confined. -/
theorem QueryPlan.Confined.of_holds {asked : String → Prop} {plan : QueryPlan} {j : BoundJoin}
    (h : plan.Confined asked) (hj : plan.Holds j) : j.Confined asked := by
  cases plan with
  | solutions stage => exact Stage.Confined.of_holds h hj
  | triples construction => exact Stage.Confined.of_holds h hj
  | truth stage => exact Stage.Confined.of_holds h hj

namespace QueryStream

variable {net : Network σ} {now : DateTime} {asked : String → Prop} {q q' : QueryStream σ}

/-- If failures are told from all else that is pulled, so they are from all else that is brought. -/
theorem map_eq_fail_iff {α : Type} {brought : α → Pulled} {fail : TransportError → α}
    (h : ∀ x e, brought x = .fail e ↔ x = fail e) (x? : Option α) (e : TransportError) :
    x?.map brought = some (.fail e) ↔ x? = some (fail e) := by
  simp only [Option.map_eq_some_iff, h, exists_eq_right]

/-- What a pull of a confined plan comes to. -/
theorem pullPlan_confined {plan : QueryPlan} (h : plan.Confined asked) (net : Network σ)
    (now : DateTime) (steps : Nat) (hidden : List Variable) (s : Session σ) :
    s.Later net asked (pullPlan net now steps hidden plan s).2.2 ∧
      ((∀ e, (pullPlan net now steps hidden plan s).1 ≠ some (.fail e)) →
        (pullPlan net now steps hidden plan s).2.1.Confined asked) ∧
      ∀ e, (pullPlan net now steps hidden plan s).1 = some (.fail e) →
        Session.Failed net asked e s (pullPlan net now steps hidden plan s).2.2 := by
  cases plan with
  | solutions stage =>
    obtain ⟨hlater, hconfined, hfails⟩ := Stage.Confined.pull h net now steps s
    have hfail : ∀ e, (pullPlan net now steps hidden (.solutions stage) s).1 = some (.fail e) ↔
        (stage.pull net now steps s).1 = some (.fail e) :=
      map_eq_fail_iff (by rintro (r | _ | e) <;> simp) _
    exact ⟨hlater, fun hne => hconfined fun e he => hne e ((hfail e).2 he),
      fun e he => hfails e ((hfail e).1 he)⟩
  | triples construction =>
    obtain ⟨hlater, hconfined, hfails⟩ := Construction.pull_confined h net now steps s
    have hfail : ∀ e, (pullPlan net now steps hidden (.triples construction) s).1 =
        some (.fail e) ↔ (construction.pull net now steps s).1 = some (.fail e) :=
      map_eq_fail_iff (by rintro (t | _ | e) <;> simp) _
    exact ⟨hlater, fun hne => hconfined fun e he => hne e ((hfail e).2 he),
      fun e he => hfails e ((hfail e).1 he)⟩
  | truth stage =>
    obtain ⟨hlater, hconfined, hfails⟩ := Stage.Confined.pull h net now steps s
    have hfail : ∀ e, (pullPlan net now steps hidden (.truth stage) s).1 = some (.fail e) ↔
        (stage.pull net now steps s).1 = some (.fail e) :=
      map_eq_fail_iff (by rintro (r | _ | e) <;> simp) _
    exact ⟨hlater, fun hne => hconfined fun e he => hne e ((hfail e).2 he),
      fun e he => hfails e ((hfail e).1 he)⟩

/-- A query after any number of pulls, each of any number of steps, and of closings in between. -/
inductive Course (net : Network σ) (now : DateTime) (q : QueryStream σ) : QueryStream σ → Prop
  /-- Nothing has been done. -/
  | start : Course net now q q
  /-- It was pulled. -/
  | next {q' : QueryStream σ} (h : Course net now q q') (steps : Nat) :
    Course net now q (q'.next net now steps).2
  /-- It was closed. -/
  | close {q' : QueryStream σ} (h : Course net now q q') : Course net now q q'.close
  /-- Its clients were closed. -/
  | cancel {q' : QueryStream σ} (h : Course net now q q') : Course net now q q'.cancel.2

/-- The plan of a query asks some endpoints only, as long as the query has not ended. -/
def Sound (asked : String → Prop) (q : QueryStream σ) : Prop :=
  q.finished = false → q.plan.Confined asked

/-- **A pull asks open clients only, and fails only with them.** -/
theorem Sound.next (h : q.Sound asked) (net : Network σ) (now : DateTime) (steps : Nat) :
    (q.next net now steps).2.Sound asked ∧
      q.session.Later net asked (q.next net now steps).2.session ∧
      (q.next net now steps).2.closed = q.closed ∧
      ∀ e, (q.next net now steps).1 = some (.fail e) →
        Session.Failed net asked e q.session (q.next net now steps).2.session := by
  unfold QueryStream.next
  split
  · exact ⟨h, .refl, rfl, by simp⟩
  · next hworking =>
    have hfinished : q.finished = false := by
      cases hf : q.finished with
      | false => rfl
      | true => simp [hf] at hworking
    obtain ⟨hlater, hconfined, hfails⟩ :=
      pullPlan_confined (h hfinished) net now steps q.hidden q.session
    rcases hpull : pullPlan net now steps q.hidden q.plan q.session with ⟨x?, plan, session⟩
    rw [hpull] at hlater hconfined hfails
    rcases x? with _ | x | _ | e
    · exact ⟨fun _ => hconfined (by simp), hlater, rfl, by simp⟩
    · exact ⟨fun _ => hconfined (by simp), hlater.measure _, rfl, by simp⟩
    · exact ⟨fun hf => absurd hf (by simp [settle]), hlater, rfl, by simp⟩
    · exact ⟨fun hf => absurd hf (by simp [settle]), hlater, rfl,
        fun e' he => hfails e' (by simpa using he)⟩

/-- A course keeps what is known of a query. -/
theorem Sound.course (h : q.Sound asked) (hcourse : Course net now q q') :
    q'.Sound asked ∧ q.session.Later net asked q'.session ∧
      (q'.closed = true → q.closed = true ∨ q'.session.AllClosed) := by
  induction hcourse with
  | start => exact ⟨h, .refl, .inl⟩
  | next _ steps ih =>
    obtain ⟨hsound, hlater, hclosed⟩ := ih
    obtain ⟨hsound', hlater', hclosed', -⟩ := hsound.next net now steps
    refine ⟨hsound', hlater.trans hlater', fun hc => ?_⟩
    exact (hclosed (hclosed'.symm.trans hc)).imp_right hlater'.allClosed
  | @close q' _ ih =>
    obtain ⟨hsound, hlater, hclosed⟩ := ih
    unfold close
    split
    · exact ⟨hsound, hlater, hclosed⟩
    · exact ⟨hsound, hlater.closeAll, fun _ => .inr (Session.allClosed_closeAll _)⟩
  | @cancel q' _ ih =>
    obtain ⟨hsound, hlater, hclosed⟩ := ih
    exact ⟨hsound, hlater.closeAll, fun _ => .inr (Session.allClosed_closeAll _)⟩

/-- Cancellation at any moment stops a query whose first request was sent into a world. -/
structure Stops (net : Network σ) (now : DateTime) (w : σ) (q : QueryStream σ) : Prop where
  /-- The clients may be closed from outside. -/
  outside : q.cancel.2.session.AllClosed ∧ q.close.session.AllClosed
  /-- All clients are closed if they were while a request was under way, which was the last one. -/
  underway : (∀ d ∈ (net.sendAll q.session.requests w).1.dropLast, d.closing ≠ .allClients) ∧
    ((∃ d ∈ (net.sendAll q.session.requests w).1, d.closing = .allClients) → q.session.AllClosed)
  /-- From then on, whatever is done to the query, nothing is sent and nothing fails. -/
  silent : q.session.AllClosed → ∀ q', Course net now q q' →
    q'.session.requests = q.session.requests ∧ q'.session.AllClosed ∧
      ∀ steps e, (q'.next net now steps).1 ≠ some (.fail e)
  /-- A pull that fails does so by the last request. If all clients were closed while that was under
  way, it was the request itself that failed. -/
  failing : ∀ steps e, (q.next net now steps).1 = some (.fail e) →
    ∃ d, (net.sendAll (q.next net now steps).2.session.requests w).1.getLast? = some d ∧
      ((q.next net now steps).2.session.AllClosed → d.reply = .error e)
  /-- From then on the bound joins that may be pulled come to their ends, after the rows of one
  round at most, without asking anybody and without failing themselves. -/
  joins : q.session.AllClosed → q.finished = false → ∀ j, q.plan.Holds j →
    q.session.isClosed j.goal.address = true ∧ j.Ends net (max 1 j.goal.bufferSize)

/-- The last request of a failure has failed, or brought no page although not all clients are
closed. -/
theorem exists_of_failed {s₀ s s' : Session σ} {e : TransportError}
    (hbefore : s₀.Later net asked s) (hasked : ∀ a, asked a → a ∈ s₀.clients)
    (hfirst : s₀.requests = []) (hfailed : Session.Failed net asked e s s') :
    ∃ d, (net.sendAll s'.requests s₀.world).1.getLast? = some d ∧
      (s'.AllClosed → d.reply = .error e) := by
  obtain ⟨s₁, address, request, hlater, ha, hfetch⟩ := hfailed
  have hlater₁ := hbefore.trans hlater
  obtain ⟨sent, hsent⟩ := hlater₁.sent hasked
  have haddress : address ∈ s₁.clients := hlater₁.clients ▸ hasked address ha
  -- A closed client would not have failed.
  have hopen : s₁.isClosed address = false := by
    cases hc : s₁.isClosed address with
    | false => rfl
    | true =>
      rw [Session.fetch_of_closed hc] at hfetch
      exact absurd hfetch (by simp)
  have hs' : s' = (s₁.deliver net address request).2 := by
    rw [Session.fetch_of_not_closed hopen] at hfetch
    exact (Prod.mk.inj hfetch).2.symm
  refine ⟨(net.send address request s₁.world).1, ?_, fun hclosed => ?_⟩
  · have hrequests := (hsent.deliver haddress hopen request).requests
    rw [← hs', hfirst, List.nil_append] at hrequests
    rw [hrequests, Network.sendAll_snoc, ← hsent.world, List.getLast?_concat]
  · have hclosed' : (s₁.fetch net address request).2.isClosed address = true := by
      rw [hfetch]
      refine hclosed address ?_
      rw [hs']
      have hclients := Session.clients_fetch net s₁ address request
      rw [Session.fetch_of_not_closed hopen] at hclients
      rwa [hclients]
    have hresult := Session.fetch_closing hopen hclosed'
    rw [hfetch] at hresult
    cases hreply : (net.send address request s₁.world).1.reply with
    | ok response => simp [hreply] at hresult
    | error e' => simpa [hreply, eq_comm] using hresult

/-- A query that is confined to its own clients can be cancelled at any moment of its course. -/
theorem Sound.stops {q₀ : QueryStream σ} (h : q₀.Sound (· ∈ q₀.session.clients))
    (hfirst : q₀.session.requests = []) (hopen : q₀.closed = false)
    (hcourse : Course net now q₀ q) : Stops net now q₀.session.world q := by
  obtain ⟨hsound, hlater, hclosed⟩ := h.course hcourse
  obtain ⟨sent, hsent⟩ := hlater.sent fun a ha => ha
  have hrequests : q.session.requests = sent := by rw [hsent.requests, hfirst, List.nil_append]
  have hasked : ∀ a, a ∈ q₀.session.clients → a ∈ q.session.clients :=
    fun a ha => hlater.clients ▸ ha
  refine ⟨⟨Session.allClosed_closeAll _, ?_⟩, ?_, ?_, ?_, ?_⟩
  · unfold close
    split
    · next hc => exact (hclosed hc).resolve_left (by simp [hopen])
    · exact Session.allClosed_closeAll _
  · rw [hrequests]
    exact ⟨hsent.others, hsent.allClosed⟩
  · intro hall q' hcourse'
    obtain ⟨hsound', hlater', -⟩ := hsound.course hcourse'
    refine ⟨hlater'.requests_of_allClosed hasked hall, hlater'.allClosed hall, fun steps e he => ?_⟩
    obtain ⟨-, -, -, hfails⟩ := hsound'.next net now steps
    exact Session.not_failed_of_closed
      (fun a ha => hlater'.isClosed (hall a (hasked a ha))) (hfails e he)
  · intro steps e he
    obtain ⟨-, -, -, hfails⟩ := hsound.next net now steps
    exact exists_of_failed hlater (fun a ha => ha) hfirst (hfails e he)
  · intro hall hworking j hj
    have hj := (hsound hworking).of_holds hj
    exact ⟨hall _ (hasked _ hj.goal), hj.ends⟩

end QueryStream

namespace Engine

/-- A query is confined to the clients that were opened for it. -/
theorem sound_compile {engine : Engine} {net : Network σ} {world : σ} {meter? : Option Meter}
    {a : Algebra} {names : Names} {q : QueryStream σ}
    (h : engine.compile net world meter? a names = .ok q) :
    q.Sound (· ∈ q.session.clients) ∧ q.session.world = world ∧ q.session.requests = [] ∧
      q.closed = false := by
  obtain ⟨⟨plan, state⟩, hplan, h⟩ := Paths.bind_inv h
  obtain rfl := Except.ok.inj h
  refine ⟨fun _ => ?_, rfl, rfl, rfl⟩
  obtain ⟨_, n₁, hopen, hquery⟩ := Planner.bind_inv hplan
  exact (Plan.opens_query a _ _ _ _ hquery).2 (Planner.openClient_spec hopen).2

/-- **Cancellation stops traffic.** Whatever query is planned, at whatever endpoints, and whatever
the network does: at each moment of its course all its clients may be closed. From then on no
request is sent and no pull fails, however often the query is pulled; a request that was under way
is the last one, and a pull fails with it only if the request itself has failed; and all bound joins
come to their ends. -/
theorem compile_stops (engine : Engine) (net : Network σ) (world : σ) (meter? : Option Meter)
    (a : Algebra) (names : Names) (q : QueryStream σ)
    (h : engine.compile net world meter? a names = .ok q) (now : DateTime) (q' : QueryStream σ)
    (hcourse : QueryStream.Course net now q q') : QueryStream.Stops net now world q' := by
  obtain ⟨hsound, rfl, hfirst, hopen⟩ := sound_compile h
  exact hsound.stops hfirst hopen hcourse

end Engine

namespace Sample

/-- A pattern that shares a variable with the other one. -/
def linked : List TriplePattern :=
  [⟨.variable ⟨"y"⟩, .plain (.term resource), .variable ⟨"z"⟩⟩]

/-- A pattern at the endpoint, joined with one at a service. -/
def services : Algebra :=
  .join [.bgp triples, .service (.iri "http://example.org/b") false [.bgp linked]]

/-- The plan of the two patterns. -/
def servicesPlan : Stage :=
  .chain (.source [.empty] .done) (.chain (.remote (.ofPattern (goal 15)))
    (.remote (.ofPattern ⟨linked, "http://example.org/b", "http://example.org/b", 15, false⟩)))

/-- Endpoints that announce a page after each one. All clients are closed while the second request
is under way. -/
def interrupted : Network Nat where
  connect := fun _ => .ok ()
  send := fun _ _ w =>
    ({ reply := .ok ⟨[.obj [("y", .str "http://example.org/c")]], some "next", true, none⟩
       closing := if w = 1 then .allClients else .nothing }, w + 1)

/-- The query for the two patterns. -/
def servicesQuery : QueryStream Nat where
  plan := .solutions servicesPlan
  hidden := []
  session := { world := 0, clients := ["http://example.org/", "http://example.org/b"],
               evaluation := { labels := { stem := "b" } } }

/-- The query in the middle of its first pull. -/
def cutShort : QueryStream Nat := (servicesQuery.next interrupted now 5).2

/-- The second pattern is asked for as it stands. -/
theorem clear_linked : Bgp.Clear linked where
  plain := by
    intro t ht
    obtain rfl := List.mem_singleton.1 ht
    rfl
  bare := by
    simp only [show Bgp.vars linked = [⟨"y"⟩, ⟨"z"⟩] from rfl, List.forall_mem_cons]
    exact ⟨rfl, rfl, by simp⟩
  noBlanks := by
    intro t ht label
    obtain rfl := List.mem_singleton.1 ht
    exact ⟨by simp, by simp⟩

/-- The pattern at the service, planned. -/
theorem service_linked (scope : Scope) (n : PlanState) :
    (Plan.groupStage [.triples linked]) scope n = .ok (Plan.joinStage scope linked, n) := by
  show (Plan.triplesStage linked >>= fun upper => (pure (upper.andThen .input) : Planner Stage))
    scope n = _
  rw [Plan.bind_of_eq (Plan.triplesStage_of_clear clear_linked)]
  rfl

/-- The query is planned, with a client for each of its endpoints. -/
theorem compile_services :
    engine.compile interrupted 0 none services (.avoiding .null) = .ok servicesQuery := by
  let before : PlanState := ⟨⟨.avoiding .null, []⟩, ["http://example.org/"]⟩
  let after : PlanState := { before with clients := ["http://example.org/", "http://example.org/b"] }
  let place : Scope := ⟨"http://example.org/", "http://example.org/g", false, 15, interrupted.connect⟩
  let there : Scope :=
    { place with address := "http://example.org/b", graph := "http://example.org/b" }
  have haddress : Planner.ofExcept (Plan.serviceAddress (.iri "http://example.org/b")) =
      pure "http://example.org/b" := by
    rw [show Plan.serviceAddress (.iri "http://example.org/b") = .ok "http://example.org/b" by
      decide +kernel]
    rfl
  have hservice : Planner.service "http://example.org/b" (Plan.groupStage [.triples linked]) place
      before = .ok (Plan.joinStage there linked, after) := by
    refine (Plan.bind_of_eq (a := ()) (m := after) rfl).trans ?_
    refine (Plan.bind_of_eq (a := []) (m := after) rfl).trans ?_
    refine (Plan.bind_of_eq (a := ()) (m := after) rfl).trans ?_
    have hthere : Planner.within (fun scope =>
        { scope with address := "http://example.org/b", graph := "http://example.org/b" })
        (Plan.groupStage [.triples linked]) place after =
          .ok (Plan.joinStage there linked, after) := service_linked there after
    exact (Plan.bind_of_eq hthere).trans rfl
  have hstage : Plan.stage services place before =
      .ok (.chain (.remote (.ofPattern (goal 15)))
        (.remote (.ofPattern ⟨linked, "http://example.org/b", "http://example.org/b", 15, false⟩)),
        after) := by
    show (Plan.triplesStage triples >>= fun upper =>
      ((Planner.ofExcept (Plan.serviceAddress (.iri "http://example.org/b")) >>= fun address =>
        Planner.service address (Plan.groupStage [.triples linked])) >>= fun lower =>
        pure .input >>= fun lowest => pure (lower.andThen lowest)) >>= fun lower =>
          pure (upper.andThen lower) : Planner Stage)
      place before = _
    rw [Plan.bind_of_eq (Plan.triplesStage_of_clear clear), haddress, pure_bind, bind_assoc,
      Plan.bind_of_eq hservice]
    rfl
  have hplan : engine.plan interrupted.connect services (.avoiding .null) =
      .ok (.solutions servicesPlan, after) := by
    refine (Plan.bind_of_eq (a := ()) (m := before) rfl).trans ?_
    refine (Plan.bind_of_eq (a := services) (m := before) rfl).trans ?_
    exact (Plan.bind_of_eq hstage).trans rfl
  rw [Engine.compile, hplan]
  rfl

end Sample

namespace Engine

/-- Two requests are sent, both to the first endpoint. All clients are closed while the second one
is under way, and nothing more is sent. -/
theorem compile_stops_sample :
    Sample.engine.compile Sample.interrupted 0 none Sample.services (.avoiding .null) =
        .ok Sample.servicesQuery ∧
      Sample.cutShort.session.requests.map Prod.fst =
        ["http://example.org/", "http://example.org/"] ∧
      Sample.cutShort.finished = false ∧ Sample.cutShort.session.AllClosed ∧
      ∀ q, QueryStream.Course Sample.interrupted Sample.now Sample.cutShort q →
        q.session.requests = Sample.cutShort.session.requests ∧
          ∀ steps e, (q.next Sample.interrupted Sample.now steps).1 ≠ some (.fail e) := by
  have hstops : QueryStream.Stops Sample.interrupted Sample.now 0 Sample.cutShort :=
    compile_stops Sample.engine Sample.interrupted 0 none Sample.services _ _
      Sample.compile_services Sample.now _ (QueryStream.Course.start.next 5)
  have hall : Sample.cutShort.session.AllClosed := by
    intro a ha
    have hclients : a ∈ ["http://example.org/", "http://example.org/b"] := ha
    have hclosed : Sample.cutShort.session.closed =
      ["http://example.org/", "http://example.org/b"] := by decide +kernel
    rw [Session.isClosed, hclosed]
    simpa using hclients
  refine ⟨Sample.compile_services, by decide +kernel, by decide +kernel, hall, fun q hcourse => ?_⟩
  obtain ⟨hsame, -, hsucceeds⟩ := hstops.silent hall q hcourse
  exact ⟨hsame, hsucceeds⟩

end Engine

end PagedSparql
