import Mathlib.Data.List.Chain
import PagedSparql.Proofs.Protocol.Answers

/-!
# Walks over pages

A sequence of pages is pulled several times, and its client stays open. What it brings is told by
the requests that were sent and the replies to them (`PageSequence.Walks`): the requests are about
one query and graph, each carries the token of the reply before, and the pulls bring the pages of
the replies in order. The first reply that is final ends the walk; after it no request is sent.

If an endpoint always replies to a request in the same way, what a sequence still brings depends on
its next request only (`PageSequence.pulls_congr`). So a sequence that starts from the token of
another one brings what that one would have brought.
-/

namespace PagedSparql

variable {σ τ : Type}

namespace Page

/-- Rows are read one by one. -/
theorem readRows_eq_ok_iff {items : List Json} {rows : List Row} :
    readRows items = .ok rows ↔ items.map readRow = rows.map .ok := by
  induction items generalizing rows with
  | nil => cases rows <;> simp [readRows]
  | cons j rest ih =>
    have hcons : readRows (j :: rest) = (readRow j).bind fun row =>
        (readRows rest).bind fun rows => .ok (row :: rows) := rfl
    rw [hcons]
    cases hrow : readRow j with
    | error e => cases rows <;> simp [Except.bind, hrow]
    | ok row =>
      cases hrest : readRows rest with
      | error e =>
        have hne : ∀ rows : List Row, rest.map readRow ≠ rows.map .ok := fun rows h => by
          rw [ih.2 h] at hrest
          exact absurd hrest (by simp)
        cases rows with
        | nil => simp [Except.bind]
        | cons row' rows => simp [Except.bind, hrow, hne]
      | ok rows' =>
        have hrest' := ih.1 hrest
        cases rows with
        | nil => simp [Except.bind]
        | cons row' rows =>
          simp only [Except.bind, List.map_cons, hrow, hrest', List.cons.injEq, Except.ok.injEq]
          refine and_congr_right fun _ => ?_
          rw [List.map_inj_right fun _ _ h => Except.ok.inj h]

/-- A list that is not read has a row that cannot be read. -/
theorem exists_of_readRows_error {items : List Json} {e : TransportError}
    (h : readRows items = .error e) : ∃ j ∈ items, readRow j = .error e := by
  induction items with
  | nil => exact absurd h (by simp [readRows])
  | cons j rest ih =>
    have hcons : readRows (j :: rest) = (readRow j).bind fun row =>
        (readRows rest).bind fun rows => .ok (row :: rows) := rfl
    rw [hcons] at h
    cases hrow : readRow j with
    | error e' =>
      simp only [hrow, Except.bind, Except.error.injEq] at h
      exact ⟨j, List.mem_cons_self, h ▸ hrow⟩
    | ok row =>
      cases hrest : readRows rest with
      | error e' =>
        simp only [hrow, hrest, Except.bind, Except.error.injEq] at h
        obtain ⟨j', hj', hrow'⟩ := ih (h ▸ hrest)
        exact ⟨j', List.mem_cons_of_mem _ hj', hrow'⟩
      | ok rows => simp [hrow, hrest, Except.bind] at h

/-- An answer is a page of its rows, if all of them can be read and the announcement of another page
comes with a token. -/
theorem ofResponse_eq_ok_iff {r : Response} {page : Page} : ofResponse r = .ok page ↔
    (r.hasNext = true → r.token?.isSome = true) ∧ readRows r.rows = .ok page.rows ∧
      page.token? = (if r.hasNext then r.token? else none) ∧ page.hasNext = r.hasNext ∧
      page.cardinalities = (r.stats?.map (·.cardinalities)).getD [] := by
  obtain ⟨rows, token?, hasNext, cardinalities⟩ := page
  cases hguard : r.hasNext && r.token?.isNone with
  | true =>
    simp only [ofResponse, hguard, if_true]
    obtain ⟨hnext, htoken⟩ := Bool.and_eq_true_iff.1 hguard
    rw [Option.isNone_iff_eq_none] at htoken
    simp [hnext, htoken, Bind.bind, Except.bind]
  | false =>
    have htoken : r.hasNext = true → r.token?.isSome = true := by
      intro hnext
      simpa [hnext] using hguard
    simp only [ofResponse, hguard, Bool.false_eq_true, if_false]
    cases readRows r.rows with
    | error e => simp [Bind.bind, Except.bind]
    | ok rows' =>
      simp only [Bind.bind, Except.bind, Except.ok.injEq, Page.mk.injEq]
      grind

end Page

/-- A request with the reply to it. -/
structure RoundTrip where
  /-- The request. -/
  request : Request
  /-- The answer, or why there is none. -/
  reply : Except TransportError Response

namespace RoundTrip

/-- The page that the reply brings, or why it brings none. -/
def page (x : RoundTrip) : Except TransportError Page := x.reply.bind Page.ofResponse

/-- No request follows the reply. -/
inductive Final : Except TransportError Response → Prop
  /-- There was no answer. -/
  | failed (e : TransportError) : Final (.error e)
  /-- The answer announces no other page. -/
  | last {r : Response} (hnext : r.hasNext = false) : Final (.ok r)
  /-- The answer announces another page, but there is no token to ask for it. -/
  | tokenless {r : Response} (hnext : r.hasNext = true) (htoken : r.token? = none) : Final (.ok r)
  /-- A row of the answer cannot be read. -/
  | unreadable {r : Response} {j : Json} {e : TransportError} (hj : j ∈ r.rows)
    (hrow : Page.readRow j = .error e) : Final (.ok r)

/-- A reply that is not final brings a page that announces another one, and the token for it. -/
theorem page_of_not_final {x : RoundTrip} (h : ¬Final x.reply) :
    ∃ response page, x.reply = .ok response ∧ x.page = .ok page ∧ page.hasNext = true ∧
      page.token? = response.token? := by
  obtain ⟨request, reply⟩ := x
  cases reply with
  | error e => exact absurd (.failed e) h
  | ok r =>
    have hnext : r.hasNext = true := by
      cases hnext : r.hasNext with
      | false => exact absurd (.last hnext) h
      | true => rfl
    have htoken : r.token?.isSome = true := by
      cases htoken : r.token? with
      | none => exact absurd (.tokenless hnext htoken) h
      | some token => rfl
    cases hrows : Page.readRows r.rows with
    | error e =>
      obtain ⟨j, hj, hrow⟩ := Page.exists_of_readRows_error hrows
      exact absurd (.unreadable hj hrow) h
    | ok rows =>
      have hpage : Page.ofResponse r = .ok ⟨rows, r.token?, true, _⟩ :=
        Page.ofResponse_eq_ok_iff.2 ⟨fun _ => htoken, hrows, (if_pos hnext).symm, hnext.symm, rfl⟩
      exact ⟨r, _, rfl, hpage, rfl, rfl⟩

/-- A final reply brings no page, or one that announces no other. -/
theorem hasNext_of_final {x : RoundTrip} (h : Final x.reply) {page : Page}
    (hpage : x.page = .ok page) : page.hasNext = false := by
  obtain ⟨request, reply⟩ := x
  cases h with
  | failed e =>
    have hnone : (Except.error e : Except TransportError Page) = .ok page := hpage
    exact absurd hnone (by simp)
  | @last r hnext =>
    obtain ⟨-, -, -, hpage, -⟩ := Page.ofResponse_eq_ok_iff.1 hpage
    exact hpage.trans hnext
  | @tokenless r hnext htoken =>
    obtain ⟨hsome, -⟩ := Page.ofResponse_eq_ok_iff.1 hpage
    simpa [htoken] using hsome hnext
  | @unreadable r j e hj hrow =>
    obtain ⟨-, hrows, -⟩ := Page.ofResponse_eq_ok_iff.1 hpage
    have hmem : Page.readRow j ∈ page.rows.map Except.ok :=
      Page.readRows_eq_ok_iff.1 hrows ▸ List.mem_map_of_mem hj
    rw [hrow] at hmem
    exact absurd hmem (by simp)

end RoundTrip

namespace Network

/-- The endpoint with an address, to which requests are sent one after the other, replies like this.
-/
def Replies (net : Network σ) (address : String) : List RoundTrip → σ → Prop
  | [], _ => True
  | x :: rest, w => (net.send address x.request w).1.reply = x.reply ∧
      net.Replies address rest (net.send address x.request w).2

/-- The endpoint with an address always replies to a request in the same way. -/
def Serves (net : Network σ) (address : String)
    (answer : Request → Except TransportError Response) : Prop :=
  ∀ request w, (net.send address request w).1.reply = answer request

end Network

namespace Session

/-- Clients that are closed when a delivery arrives stay closed, and nothing else changes but the
meter. -/
theorem closeFor_spec (s : Session σ) (address : String) (closing : Closing) :
    (s.closeFor address closing).world = s.world ∧ (s.closeFor address closing).log = s.log ∧
      ∀ a, s.isClosed a = true → (s.closeFor address closing).isClosed a = true := by
  cases closing with
  | nothing => exact ⟨rfl, rfl, fun _ h => h⟩
  | client =>
    refine ⟨rfl, rfl, fun a h => ?_⟩
    simp_all [closeFor, close, isClosed]
  | allClients =>
    refine ⟨rfl, rfl, fun a h => ?_⟩
    simp_all [closeFor, closeAll, isClosed]

/-- A closed client stays closed when a page is fetched. -/
theorem isClosed_fetch (net : Network σ) {s : Session σ} {address a : String} {request : Request}
    (h : s.isClosed a = true) : (s.fetch net address request).2.isClosed a = true := by
  unfold fetch
  split
  · exact h
  · exact (closeFor_spec _ address _).2.2 a h

/-- A delivery to a client that is open brings the page of the reply. -/
theorem pageOfDelivery_open (request : Request) (d : Delivery) :
    pageOfDelivery d false = RoundTrip.page ⟨request, d.reply⟩ := by
  obtain ⟨reply, closing, micros⟩ := d
  cases reply <;> rfl

/-- What is fetched through a client that stays open is the page of the reply, and one request is
sent for it. -/
theorem fetch_of_open {net : Network σ} {s : Session σ} {address : String} {request : Request}
    (hopen : (s.fetch net address request).2.isClosed address = false) :
    (s.fetch net address request).1 =
        RoundTrip.page ⟨request, (net.send address request s.world).1.reply⟩ ∧
      (s.fetch net address request).2.world = (net.send address request s.world).2 ∧
      (s.fetch net address request).2.log = (address, request) :: s.log := by
  have hbefore : s.isClosed address = false := by
    cases h : s.isClosed address with
    | false => rfl
    | true =>
      have hclosed : (s.fetch net address request).2.isClosed address = true :=
        isClosed_fetch net h
      exact absurd hclosed (by simp [hopen])
  obtain ⟨hworld, hlog, -⟩ := closeFor_spec
    { s with world := (net.send address request s.world).2, log := (address, request) :: s.log }
    address (net.send address request s.world).1.closing
  simp only [fetch, hbefore, Bool.false_eq_true, if_false] at hopen ⊢
  refine ⟨?_, hworld, hlog⟩
  rw [hopen]
  exact pageOfDelivery_open request _

end Session

namespace PageSequence

variable {net : Network σ} {net' : Network τ} {p p' q : PageSequence} {s : Session σ}
  {s' : Session τ} {n k m : Nat}

/-- What so many pulls bring, one after the other, and the sequence and the session after them. -/
def pulls (net : Network σ) :
    Nat → PageSequence → Session σ →
      List (Except TransportError (Option Page)) × PageSequence × Session σ
  | 0, p, s => ([], p, s)
  | n + 1, p, s =>
    let (x, p, s) := p.next net s
    let (xs, p, s) := pulls net n p s
    (x :: xs, p, s)

/-- A sequence that is over brings nothing, and sends nothing. -/
theorem next_of_finished (h : p.finished = true) : p.next net s = (.ok none, p, s) := if_pos h

/-- A sequence that is not over brings what is fetched for its request. -/
theorem next_of_unfinished (h : p.finished = false) :
    p.next net s = ((s.fetch net p.address p.request).1.map some,
      p.advance (s.fetch net p.address p.request).1, (s.fetch net p.address p.request).2) :=
  if_neg (by simp [h])

/-- A closed client stays closed. -/
theorem isClosed_next {a : String} (h : s.isClosed a = true) :
    (p.next net s).2.2.isClosed a = true := by
  unfold next
  split
  · exact h
  · exact Session.isClosed_fetch net h

/-- The first pull, and the others. -/
theorem pulls_succ (net : Network σ) (n : Nat) (p : PageSequence) (s : Session σ) :
    pulls net (n + 1) p s =
      ((p.next net s).1 :: (pulls net n (p.next net s).2.1 (p.next net s).2.2).1,
        (pulls net n (p.next net s).2.1 (p.next net s).2.2).2) := rfl

/-- A closed client stays closed. -/
theorem isClosed_pulls {a : String} (h : s.isClosed a = true) :
    (pulls net n p s).2.2.isClosed a = true := by
  induction n generalizing p s with
  | zero => exact h
  | succ n ih => exact ih (isClosed_next h)

/-- A client that is open after several pulls was open before them. -/
theorem isClosed_of_pulls {a : String} (h : (pulls net n p s).2.2.isClosed a = false) :
    s.isClosed a = false := by
  cases hs : s.isClosed a with
  | false => rfl
  | true =>
    have hclosed : (pulls net n p s).2.2.isClosed a = true := isClosed_pulls hs
    exact absurd hclosed (by simp [h])

/-- A sequence that is over stays so. -/
theorem pulls_of_finished (h : p.finished = true) :
    pulls net n p s = (List.replicate n (.ok none), p, s) := by
  induction n with
  | zero => rfl
  | succ n ih => rw [pulls_succ, next_of_finished h, ih, List.replicate_succ]

/-- Pulls may be made in two goes. -/
theorem pulls_add (k m : Nat) (p : PageSequence) (s : Session σ) :
    pulls net (k + m) p s =
      ((pulls net k p s).1 ++ (pulls net m (pulls net k p s).2.1 (pulls net k p s).2.2).1,
        (pulls net m (pulls net k p s).2.1 (pulls net k p s).2.2).2) := by
  induction k generalizing p s with
  | zero => rw [Nat.zero_add]; rfl
  | succ k ih =>
    rw [Nat.succ_add, pulls_succ, pulls_succ, ih]
    rfl

/-- The first pull of a sequence that is not over, through a client that stays open, sends its
request and brings the page of the reply. -/
theorem pulls_of_open (hp : p.finished = false)
    (hopen : (pulls net (n + 1) p s).2.2.isClosed p.address = false) :
    ∃ page? s₁, page? = RoundTrip.page ⟨p.request, (net.send p.address p.request s.world).1.reply⟩ ∧
      s₁.world = (net.send p.address p.request s.world).2 ∧
      s₁.requests = s.requests ++ [(p.address, p.request)] ∧
      pulls net (n + 1) p s =
        (page?.map some :: (pulls net n (p.advance page?) s₁).1,
          (pulls net n (p.advance page?) s₁).2) := by
  have hpulls : pulls net (n + 1) p s =
      ((s.fetch net p.address p.request).1.map some ::
          (pulls net n (p.advance (s.fetch net p.address p.request).1)
            (s.fetch net p.address p.request).2).1,
        (pulls net n (p.advance (s.fetch net p.address p.request).1)
          (s.fetch net p.address p.request).2).2) := by
    rw [pulls_succ, next_of_unfinished hp]
  rw [hpulls] at hopen
  obtain ⟨hpage, hworld, hlog⟩ := Session.fetch_of_open (isClosed_of_pulls hopen)
  refine ⟨_, _, hpage, hworld, ?_, hpulls⟩
  rw [Session.requests, hlog, List.reverse_cons]
  rfl

/-- What so many pulls of a sequence bring, told by its round trips. -/
structure Walks (net : Network σ) (p : PageSequence) (s : Session σ) (n : Nat)
    (trips : List RoundTrip) : Prop where
  /-- The endpoint replied like this. -/
  replies : net.Replies p.address trips s.world
  /-- These requests were sent, and no others. -/
  sent : (pulls net n p s).2.2.requests =
    s.requests ++ trips.map fun x => (p.address, x.request)
  /-- All of them are about the same query and graph. -/
  same : ∀ x ∈ trips, x.request.query = p.query ∧ x.request.graph = p.graph
  /-- The first one carries the token of the sequence. -/
  first : ∀ x ∈ trips.head?, x.request.token? = p.token?
  /-- A request follows a reply that is not final, and carries its token. -/
  later : trips.IsChain fun x y => ¬RoundTrip.Final x.reply ∧
    ∃ response, x.reply = .ok response ∧ y.request.token? = response.token?
  /-- The pulls bring the pages in order, or why there are none, and after the last one nothing. -/
  brought : (pulls net n p s).1 =
    trips.map (·.page.map some) ++ List.replicate (n - trips.length) (.ok none)
  /-- Pulls that sent no request came after a final reply. -/
  ended : trips.length < n → ∃ x ∈ trips.getLast?, RoundTrip.Final x.reply

/-- A sequence is over after a final reply. -/
theorem finished_advance_of_final {x : RoundTrip} (h : RoundTrip.Final x.reply) (p : PageSequence) :
    (p.advance x.page).finished = true := by
  cases hpage : x.page with
  | error e => rfl
  | ok page => simp [advance, RoundTrip.hasNext_of_final h hpage]

/-- What several pulls of a sequence bring through a client that stays open. -/
theorem exists_walks (hp : p.finished = false)
    (hopen : (pulls net n p s).2.2.isClosed p.address = false) :
    ∃ trips, Walks net p s n trips := by
  induction n generalizing p s with
  | zero =>
    exact ⟨[], trivial, (List.append_nil _).symm, by simp, by simp, .nil, rfl, by simp⟩
  | succ n ih =>
    obtain ⟨_, s₁, rfl, hworld, hrequests, hpulls⟩ := pulls_of_open hp hopen
    rw [hpulls] at hopen
    generalize hx : RoundTrip.mk p.request (net.send p.address p.request s.world).1.reply = x at *
    -- A final reply ends the walk here; any other one hands its token to the rest of the walk.
    by_cases hfinal : RoundTrip.Final x.reply
    · rw [pulls_of_finished (finished_advance_of_final hfinal p)] at hpulls
      refine ⟨[x], ⟨hx ▸ rfl, trivial⟩, ?_, ?_, ?_, .singleton x, ?_, fun _ => ⟨x, rfl, hfinal⟩⟩
      · rw [hpulls, ← hx]
        exact hrequests
      · simp [← hx, request]
      · simp [← hx, request]
      · rw [hpulls]
        rfl
    · obtain ⟨response, page, hreply, hpage, hmore, htoken⟩ := RoundTrip.page_of_not_final hfinal
      have hadvance : p.advance x.page = { p with token? := page.token? } := by
        rw [hpage]
        exact if_pos hmore
      rw [hadvance] at hpulls hopen
      obtain ⟨trips, hreplies, hsent, hsame, hfirst, hlater, hbrought, hover⟩ :=
        ih (p := { p with token? := page.token? }) (s := s₁) hp hopen
      refine ⟨x :: trips, ⟨hx ▸ rfl, ?_⟩, ?_, ?_, ?_, ?_, ?_, ?_⟩
      · rw [← hx, ← hworld]
        exact hreplies
      · rw [hpulls, hsent, hrequests, ← hx]
        simp
      · rintro y hy
        rcases List.mem_cons.1 hy with rfl | hy
        · rw [← hx]
          exact ⟨rfl, rfl⟩
        · exact hsame y hy
      · simp [← hx, request]
      · cases trips with
        | nil => exact .singleton x
        | cons y rest =>
          exact .cons_cons ⟨hfinal, response, hreply, (hfirst y rfl).trans htoken⟩ hlater
      · rw [hpulls, hbrought]
        simp
      · intro hlength
        rw [List.length_cons, Nat.add_lt_add_iff_right] at hlength
        obtain ⟨y, hy, hfinal'⟩ := hover hlength
        refine ⟨y, ?_, hfinal'⟩
        cases trips with
        | nil => exact absurd hy (by simp)
        | cons z rest => rwa [List.getLast?_cons_cons]

/-- A sequence asks for the pages of one query about one graph at one endpoint. -/
theorem advance_about (p : PageSequence) (page? : Except TransportError Page) :
    (p.advance page?).address = p.address ∧ (p.advance page?).query = p.query ∧
      (p.advance page?).graph = p.graph := by
  cases page? with
  | error e => exact ⟨rfl, rfl, rfl⟩
  | ok page => cases hnext : page.hasNext <;> simp [advance, hnext]

/-- A sequence asks for the pages of one query about one graph at one endpoint. -/
theorem pulls_about (net : Network σ) (n : Nat) (p : PageSequence) (s : Session σ) :
    (pulls net n p s).2.1.address = p.address ∧ (pulls net n p s).2.1.query = p.query ∧
      (pulls net n p s).2.1.graph = p.graph := by
  induction n generalizing p s with
  | zero => exact ⟨rfl, rfl, rfl⟩
  | succ n ih =>
    rw [pulls_succ]
    cases hp : p.finished with
    | true =>
      rw [next_of_finished hp]
      exact ih p s
    | false =>
      rw [next_of_unfinished hp]
      obtain ⟨haddress, hquery, hgraph⟩ := ih (p.advance _) (s.fetch net p.address p.request).2
      obtain ⟨haddress', hquery', hgraph'⟩ := p.advance_about (s.fetch net p.address p.request).1
      exact ⟨haddress.trans haddress', hquery.trans hquery', hgraph.trans hgraph'⟩

/-- Each pull brings something. -/
theorem length_pulls (net : Network σ) (n : Nat) (p : PageSequence) (s : Session σ) :
    (pulls net n p s).1.length = n := by
  induction n generalizing p s with
  | zero => rfl
  | succ n ih => rw [pulls_succ, List.length_cons, ih]

/-- Sequences with the same next request still have so after the same page. -/
theorem advance_congr (hrequest : p'.request = p.request) (hfinished : p'.finished = p.finished)
    (page? : Except TransportError Page) :
    (p'.advance page?).request = (p.advance page?).request ∧
      (p'.advance page?).finished = (p.advance page?).finished := by
  obtain ⟨hquery, hgraph, htoken⟩ := Request.mk.inj hrequest
  cases page? with
  | error e => exact ⟨hrequest, rfl⟩
  | ok page => cases hnext : page.hasNext <;> simp [advance, request, *]

/-- What sequences still bring from endpoints that always reply in the same way depends on their
next request only. -/
theorem pulls_congr {answer : Request → Except TransportError Response}
    (hserves : net.Serves p.address answer) (hserves' : net'.Serves p'.address answer)
    (hrequest : p'.request = p.request) (hfinished : p'.finished = p.finished)
    (hopen : (pulls net n p s).2.2.isClosed p.address = false)
    (hopen' : (pulls net' n p' s').2.2.isClosed p'.address = false) :
    (pulls net' n p' s').1 = (pulls net n p s).1 := by
  induction n generalizing p p' s s' with
  | zero => rfl
  | succ n ih =>
    cases hp : p.finished with
    | true => rw [pulls_of_finished hp, pulls_of_finished (hfinished.trans hp)]
    | false =>
      obtain ⟨page?, s₁, hpage, -, -, hpulls⟩ := pulls_of_open hp hopen
      obtain ⟨page?', s₁', hpage', -, -, hpulls'⟩ := pulls_of_open (hfinished.trans hp) hopen'
      rw [hpulls] at hopen ⊢
      rw [hpulls'] at hopen' ⊢
      obtain rfl : page?' = page? := by rw [hpage, hpage', hserves, hserves', hrequest]
      obtain ⟨haddress, -, -⟩ := p.advance_about page?'
      obtain ⟨haddress', -, -⟩ := p'.advance_about page?'
      obtain ⟨hrequest', hfinished'⟩ := advance_congr hrequest hfinished page?'
      rw [ih (by rwa [haddress]) (by rwa [haddress']) hrequest' hfinished' (by rwa [haddress])
        (by rwa [haddress'])]

/-- A pull that fails ends a sequence, and leaves the token of the failed request. -/
theorem pulls_failed {e : TransportError}
    (h : (pulls net (k + 1) p s).1.getLast? = some (.error e)) :
    (pulls net k p s).2.1.finished = false ∧
      (pulls net (k + 1) p s).2.1.token? = (pulls net k p s).2.1.token? := by
  -- The last pull is made by itself, on what the others have left.
  rw [pulls_add] at h ⊢
  generalize pulls net k p s = before at *
  obtain ⟨xs, q, s⟩ := before
  have hone : pulls net 1 q s = ([(q.next net s).1], (q.next net s).2) := rfl
  rw [hone] at h ⊢
  simp only [List.getLast?_append, List.getLast?_singleton, Option.some_or, Option.some.injEq] at h
  cases hq : q.finished with
  | true =>
    rw [next_of_finished hq] at h
    exact absurd h (by simp)
  | false =>
    rw [next_of_unfinished hq] at h ⊢
    refine ⟨rfl, ?_⟩
    cases hfetch : (s.fetch net q.address q.request).1 with
    | ok page =>
      rw [hfetch] at h
      exact absurd h (by simp [Except.map])
    | error e' => rfl

/-- **Walks are complete and can be resumed.** What the pulls of a sequence bring through a client
that stays open is the pages of the replies to its requests, each of which carries the token of the
reply before, up to the first final reply. And if the endpoint always replies to a request in the
same way, a sequence that starts from the token of one that is not over brings what that one would
still have brought; from the token of one that has just failed, it brings what that one would have
brought from the failed request on. -/
theorem walks_resumable (net : Network σ) (address query graph : String) (token? : Option String)
    (s : Session σ) :
    (∀ n, (pulls net n (resume address query graph token?) s).2.2.isClosed address = false →
      ∃ trips, Walks net (resume address query graph token?) s n trips) ∧
    ∀ answer, net.Serves address answer →
      ∀ {τ : Type} (net' : Network τ) (address' : String) (s' : Session τ),
      net'.Serves address' answer → ∀ k m q,
      (pulls net (k + m) (resume address query graph token?) s).2.2.isClosed address = false →
      (pulls net k (resume address query graph token?) s).2.1 = q →
      (pulls net' m (resume address' query graph q.token?) s').2.2.isClosed address' = false →
        (q.finished = false → (pulls net' m (resume address' query graph q.token?) s').1 =
          (pulls net (k + m) (resume address query graph token?) s).1.drop k) ∧
        ∀ e, (pulls net k (resume address query graph token?) s).1.getLast? = some (.error e) →
          (pulls net' m (resume address' query graph q.token?) s').1 =
            (pulls net (k - 1 + m) (resume address query graph token?) s).1.drop (k - 1) := by
  refine ⟨fun n => exists_walks rfl, ?_⟩
  intro answer hserves τ net' address' s' hserves' k m q hopen hq hopen'
  -- The walk from a state on is what is left of the walk from the start on.
  have hresumed : ∀ j,
      (pulls net j (resume address query graph token?) s).2.1.finished = false →
      (pulls net j (resume address query graph token?) s).2.1.token? = q.token? →
      (pulls net (j + m) (resume address query graph token?) s).2.2.isClosed address = false →
      (pulls net' m (resume address' query graph q.token?) s').1 =
        (pulls net (j + m) (resume address query graph token?) s).1.drop j := by
    intro j hfinished htoken hopen
    obtain ⟨haddress, hquery, hgraph⟩ := pulls_about net j (resume address query graph token?) s
    have hlength := length_pulls net j (resume address query graph token?) s
    rw [pulls_add] at hopen ⊢
    rw [List.drop_left' hlength]
    generalize pulls net j (resume address query graph token?) s = before at *
    refine pulls_congr (by rwa [haddress]) hserves' ?_ hfinished.symm (by rwa [haddress]) hopen'
    simp [request, resume, hquery, hgraph, htoken]
  refine ⟨fun hfinished => hresumed k (hq ▸ hfinished) (hq ▸ rfl) hopen, ?_⟩
  intro e hlast
  -- The pull that has failed is made again, so the walk is resumed from the state before it.
  cases k with
  | zero => exact absurd hlast (by simp [pulls])
  | succ j =>
    obtain ⟨hfinished, htoken⟩ := pulls_failed hlast
    rw [Nat.add_sub_cancel]
    refine hresumed j hfinished (htoken.symm.trans (by rw [hq])) ?_
    rw [show j + 1 + m = j + m + 1 by omega, pulls_add] at hopen
    exact isClosed_of_pulls hopen

end PageSequence

namespace Sample

/-- A page with a row, a page without rows, and after that an announcement of a page that cannot be
asked for. -/
def brokenReply (_ : String) (request : Request) : Response :=
  match request.token? with
  | none => ⟨[.obj [("x", .str "http://example.org/a")]], some "1", true, none⟩
  | some "1" => ⟨[], some "2", true, none⟩
  | some _ => ⟨[], none, true, none⟩

/-- A session in which no request has been sent. -/
def idle : Session Unit := { world := (), evaluation := { labels := ⟨"b", 0, none, []⟩ } }

/-- A sequence of pages for a query. -/
def walk (token? : Option String) : PageSequence :=
  .resume "http://example.org/" "SELECT * WHERE {}" "http://example.org/g" token?

end Sample

namespace PageSequence

/-- Five pulls bring two pages and then fail, with three requests. Two pulls from the token after the
first pull bring what was left, and a pull from the token after the failure fails again. -/
theorem walks_resumable_sample :
    (∃ trips, Walks (.ofReplies Sample.brokenReply) (Sample.walk none) Sample.idle 5 trips ∧
      trips.map (·.request.token?) = [none, some "1", some "2"]) ∧
    (pulls (.ofReplies Sample.brokenReply) 2 (Sample.walk (some "1")) Sample.idle).1 =
      [.ok (some ⟨[], some "2", true, []⟩), .error (.violation .missingToken)] ∧
    (pulls (.ofReplies Sample.brokenReply) 1 (Sample.walk (some "2")) Sample.idle).1 =
      [.error (.violation .missingToken)] := by
  obtain ⟨hwalks, hresumes⟩ := walks_resumable (.ofReplies Sample.brokenReply) "http://example.org/"
    "SELECT * WHERE {}" "http://example.org/g" none Sample.idle
  obtain ⟨trips, htrips⟩ : ∃ trips,
      Walks (.ofReplies Sample.brokenReply) (Sample.walk none) Sample.idle 5 trips := hwalks 5 rfl
  have hresume := hresumes (fun request => .ok (Sample.brokenReply "http://example.org/" request))
    (fun _ _ => rfl) (.ofReplies Sample.brokenReply) "http://example.org/" Sample.idle
    fun _ _ => rfl
  refine ⟨⟨trips, htrips, ?_⟩, (hresume 1 2 _ rfl rfl rfl).1 rfl,
    (hresume 3 1 _ rfl rfl rfl).2 _ rfl⟩
  have hrequests : (pulls (.ofReplies Sample.brokenReply) 5 (Sample.walk none)
      Sample.idle).2.2.requests.map (·.2.token?) = [none, some "1", some "2"] := rfl
  rw [htrips.sent] at hrequests
  simpa [Sample.idle, Session.requests, Function.comp_def] using hrequests

end PageSequence

end PagedSparql
