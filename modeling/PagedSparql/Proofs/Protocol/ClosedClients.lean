import PagedSparql.Pipeline.BoundJoin
import PagedSparql.Proofs.Protocol.PageWalk

/-!
# Closed clients

A session goes on (`Session.Later`) by fetching pages, by evaluating, and by the closing of clients,
in any order. A client that is closed stays closed, and the record of its requests does not grow any
more (`Session.Later.sentTo_of_closed`).

If all clients are closed while a request is under way, that request is the last one
(`Session.Later.sent`).

When a client is closed while its request is under way, the reply decides. A reply with a page, even
with one that cannot be read, is dropped and gives the exhausted page; a failure of the transport is
reported all the same. `Session.fetch_of_closing` says just when the exhausted page comes, and what
the bound join that has asked for the page makes of it.
-/

namespace PagedSparql

variable {σ : Type}

namespace Session

/-- A session at a later moment. The clients that pages were fetched through are `asked`. -/
inductive Later (net : Network σ) (asked : String → Prop) (s : Session σ) : Session σ → Prop
  /-- Nothing has happened. -/
  | refl : Later net asked s s
  /-- A page was fetched. -/
  | fetch {s' : Session σ} {address : String} (h : Later net asked s s') (ha : asked address)
    (request : Request) : Later net asked s (s'.fetch net address request).2
  /-- Something was evaluated. -/
  | evaluate {s' : Session σ} (h : Later net asked s s') (evaluation : EvalState) :
    Later net asked s { s' with evaluation }
  /-- Something was measured. -/
  | measure {s' : Session σ} (h : Later net asked s s') (f : Meter → Meter) :
    Later net asked s (s'.measure f)
  /-- A client was closed. -/
  | close {s' : Session σ} (h : Later net asked s s') (address : String) :
    Later net asked s (s'.close address)
  /-- All clients were closed. -/
  | closeAll {s' : Session σ} (h : Later net asked s s') : Later net asked s s'.closeAll

variable {net : Network σ} {asked : String → Prop} {s s' s'' : Session σ}
  {address : String} {request : Request}

/-- A closed client answers with the exhausted page, and nothing is sent. -/
theorem fetch_of_closed (h : s.isClosed address = true) :
    s.fetch net address request = (.ok .exhausted, s) := if_pos h

/-- An open client sends its request, and the delivery decides. -/
theorem fetch_of_not_closed (h : s.isClosed address = false) :
    s.fetch net address request =
      (pageOfDelivery (s.deliver net address request).1
        ((s.deliver net address request).2.isClosed address),
        (s.deliver net address request).2) := if_neg (by simp [h])

/-- What was sent is on record after a fetch. -/
theorem deliver_spec (net : Network σ) (s : Session σ) (address : String) (request : Request) :
    (s.deliver net address request).2.world = (net.send address request s.world).2 ∧
      (s.deliver net address request).2.requests = s.requests ++ [(address, request)] := by
  obtain ⟨hworld, hlog, -⟩ := closeFor_spec
    { s with world := (net.send address request s.world).2, log := (address, request) :: s.log }
    address (net.send address request s.world).1.closing
  have hlog' : (s.deliver net address request).2.log = (address, request) :: s.log := hlog
  exact ⟨hworld, by rw [requests, hlog', List.reverse_cons]; rfl⟩

/-- A fetch opens no client. -/
theorem clients_fetch (net : Network σ) (s : Session σ) (address : String) (request : Request) :
    (s.fetch net address request).2.clients = s.clients := by
  cases hc : s.isClosed address with
  | true => rw [fetch_of_closed hc]
  | false =>
    rw [fetch_of_not_closed hc]
    simp only [deliver]
    cases (net.send address request s.world).1.closing <;> rfl

namespace Later

/-- The moment after a later one is later. -/
theorem trans (h : Later net asked s s') (h' : Later net asked s' s'') :
    Later net asked s s'' := by
  induction h' with
  | refl => exact h
  | fetch _ ha request ih => exact ih.fetch ha request
  | evaluate _ evaluation ih => exact ih.evaluate evaluation
  | measure _ f ih => exact ih.measure f
  | close _ address ih => exact ih.close address
  | closeAll _ ih => exact ih.closeAll

/-- No client is opened. -/
theorem clients (h : Later net asked s s') : s'.clients = s.clients := by
  induction h with
  | refl => rfl
  | fetch _ _ _ ih => exact (clients_fetch net _ _ _).trans ih
  | evaluate _ _ ih => exact ih
  | measure _ _ ih => exact ih
  | close _ _ ih => exact ih
  | closeAll _ ih => exact ih

/-- A closed client stays closed. -/
theorem isClosed {a : String} (h : Later net asked s s') (hs : s.isClosed a = true) :
    s'.isClosed a = true := by
  induction h with
  | refl => exact hs
  | fetch _ _ _ ih => exact isClosed_fetch net ih
  | evaluate _ _ ih => exact ih
  | measure _ _ ih => exact ih
  | close _ address ih => exact (closeFor_spec _ address .client).2.2 a ih
  | closeAll _ ih => exact (closeFor_spec _ "" .allClients).2.2 a ih

end Later

/-- The requests that were sent to an endpoint, in order. -/
def sentTo (s : Session σ) (address : String) : List (String × Request) :=
  s.requests.filter (·.1 == address)

/-- A fetch sends nothing to other endpoints. -/
theorem sentTo_fetch_of_ne {a : String} (h : address ≠ a) :
    (s.fetch net address request).2.sentTo a = s.sentTo a := by
  cases hc : s.isClosed address with
  | true => rw [fetch_of_closed hc]
  | false =>
    rw [fetch_of_not_closed hc]
    simp [sentTo, (deliver_spec net s address request).2, h]

/-- Nothing more is sent to an endpoint whose client is closed. -/
theorem Later.sentTo_of_closed {a : String} (h : Later net asked s s')
    (hs : s.isClosed a = true) : s'.sentTo a = s.sentTo a := by
  induction h with
  | refl => rfl
  | @fetch s' address before _ request ih =>
    by_cases ha : address = a
    · subst ha
      rw [fetch_of_closed (before.isClosed hs)]
      exact ih
    · exact (sentTo_fetch_of_ne ha).trans ih
  | evaluate _ _ ih => exact ih
  | measure _ _ ih => exact ih
  | close _ _ ih => exact ih
  | closeAll _ ih => exact ih

end Session

/-- The deliveries of requests that are sent one after the other, and the world after them. -/
def Network.sendAll (net : Network σ) : List (String × Request) → σ → List Delivery × σ
  | [], w => ([], w)
  | (address, request) :: rest, w =>
    let (delivery, w) := net.send address request w
    let (deliveries, w) := net.sendAll rest w
    (delivery :: deliveries, w)

/-- A request that is sent after others. -/
theorem Network.sendAll_snoc (net : Network σ) (sent : List (String × Request)) (address : String)
    (request : Request) (w : σ) :
    net.sendAll (sent ++ [(address, request)]) w =
      ((net.sendAll sent w).1 ++ [(net.send address request (net.sendAll sent w).2).1],
        (net.send address request (net.sendAll sent w).2).2) := by
  induction sent generalizing w with
  | nil => rfl
  | cons x rest ih =>
    simp only [List.cons_append, sendAll, ih]

namespace Session

variable {net : Network σ} {asked : String → Prop} {s s' : Session σ} {address : String}
  {request : Request}

/-- All clients are closed. -/
def AllClosed (s : Session σ) : Prop := ∀ a ∈ s.clients, s.isClosed a = true

/-- When all clients are closed, they stay so. -/
theorem Later.allClosed (h : Later net asked s s') (hs : s.AllClosed) : s'.AllClosed :=
  fun a ha => h.isClosed (hs a (h.clients ▸ ha))

/-- All clients are closed after they were. -/
theorem allClosed_closeAll (s : Session σ) : s.closeAll.AllClosed := by
  intro a ha
  have ha' : a ∈ s.clients := ha
  simp [isClosed, closeAll, ha']

/-- When all clients are closed, nothing is sent any more. -/
theorem Later.requests_of_allClosed (h : Later net asked s s')
    (hasked : ∀ a, asked a → a ∈ s.clients) (hs : s.AllClosed) : s'.requests = s.requests := by
  induction h with
  | refl => rfl
  | @fetch s' address before ha request ih =>
    rw [fetch_of_closed (before.isClosed (hs address (hasked address ha)))]
    exact ih
  | evaluate _ _ ih => exact ih
  | measure _ _ ih => exact ih
  | close _ _ ih => exact ih
  | closeAll _ ih => exact ih

/-- The requests between two moments, and that all clients were closed while one of them was under
way: then it was the last one. -/
structure Sent (net : Network σ) (s s' : Session σ) (sent : List (String × Request)) : Prop where
  /-- These requests were sent. -/
  requests : s'.requests = s.requests ++ sent
  /-- The world is as they have left it. -/
  world : s'.world = (net.sendAll sent s.world).2
  /-- Not all clients were closed while one of the others was under way. -/
  others : ∀ d ∈ (net.sendAll sent s.world).1.dropLast, d.closing ≠ .allClients
  /-- All clients are closed if they were while a request was under way. -/
  allClosed : (∃ d ∈ (net.sendAll sent s.world).1, d.closing = .allClients) → s'.AllClosed

/-- What was sent stays so while nothing is sent. -/
theorem Sent.of_eq {sent : List (String × Request)} {s'' : Session σ} (h : Sent net s s' sent)
    (hrequests : s''.requests = s'.requests) (hworld : s''.world = s'.world)
    (hclosed : s'.AllClosed → s''.AllClosed) : Sent net s s'' sent :=
  ⟨hrequests.trans h.requests, hworld.trans h.world, h.others, fun hd => hclosed (h.allClosed hd)⟩

/-- A request is sent after others, through a client that is open. -/
theorem Sent.deliver {sent : List (String × Request)} (h : Sent net s s' sent)
    (haddress : address ∈ s'.clients) (hopen : s'.isClosed address = false) (request : Request) :
    Sent net s (s'.deliver net address request).2 (sent ++ [(address, request)]) := by
  obtain ⟨hworld, hrequests⟩ := deliver_spec net s' address request
  -- All clients would be closed now if they had been before.
  have hsent : ∀ d ∈ (net.sendAll sent s.world).1, d.closing ≠ .allClients := by
    intro d hd hclosing
    have hclosed : s'.isClosed address = true := h.allClosed ⟨d, hd, hclosing⟩ address haddress
    exact absurd hclosed (by simp [hopen])
  refine ⟨?_, ?_, ?_, ?_⟩
  · rw [hrequests, h.requests, List.append_assoc]
  · rw [hworld, h.world, Network.sendAll_snoc]
  · rw [Network.sendAll_snoc, List.dropLast_concat]
    exact hsent
  · rw [Network.sendAll_snoc, ← h.world]
    rintro ⟨d, hd, hclosing⟩
    obtain rfl : d = (net.send address request s'.world).1 := by
      rcases List.mem_append.1 hd with hd | hd
      · exact absurd hclosing (hsent d hd)
      · exact List.mem_singleton.1 hd
    have hdeliver : (s'.deliver net address request).2 = (closeAll
        { s' with world := (net.send address request s'.world).2,
                  log := (address, request) :: s'.log }).measure
          (meterDelivery (net.send address request s'.world).1) := by
      simp only [Session.deliver, hclosing, closeFor]
    rw [hdeliver]
    exact allClosed_closeAll
      { s' with world := (net.send address request s'.world).2, log := (address, request) :: s'.log }

/-- **A request under way while all clients are closed is the last one.** -/
theorem Later.sent (h : Later net asked s s') (hasked : ∀ a, asked a → a ∈ s.clients) :
    ∃ sent, Sent net s s' sent := by
  induction h with
  | refl => exact ⟨[], (List.append_nil _).symm, rfl, by simp [Network.sendAll],
      by simp [Network.sendAll]⟩
  | @fetch s' address before ha request ih =>
    obtain ⟨sent, hsent⟩ := ih
    cases hclosed : s'.isClosed address with
    | true =>
      rw [fetch_of_closed hclosed]
      exact ⟨sent, hsent⟩
    | false =>
      rw [fetch_of_not_closed hclosed]
      exact ⟨_, hsent.deliver (before.clients ▸ hasked address ha) hclosed _⟩
  | @evaluate s' before evaluation ih =>
    obtain ⟨sent, hsent⟩ := ih
    exact ⟨sent, hsent.of_eq rfl rfl id⟩
  | @measure s' before f ih =>
    obtain ⟨sent, hsent⟩ := ih
    exact ⟨sent, hsent.of_eq rfl rfl id⟩
  | @close s' before address ih =>
    obtain ⟨sent, hsent⟩ := ih
    refine ⟨sent, hsent.of_eq rfl rfl fun hall => ?_⟩
    have hclose : Later net asked s' (s'.close address) := Later.refl.close address
    exact hclose.allClosed hall
  | @closeAll s' before ih =>
    obtain ⟨sent, hsent⟩ := ih
    exact ⟨sent, hsent.of_eq rfl rfl fun _ => allClosed_closeAll s'⟩

end Session

namespace BoundJoin

variable {net : Network σ} {j : BoundJoin} {round : Round} {s : Session σ}

/-- A bound join that reads a round asks for its next page. -/
theorem advance_of_reading (hp : j.pending = []) (hf : j.finished = false)
    (hr : j.round? = some round) (hpages : round.pages.finished = false) :
    let fetched := s.fetch net round.pages.address round.pages.request
    j.advance net s =
      (j.takePage { round with pages := round.pages.advance fetched.1 }
        (fetched.2.isClosed j.goal.address) (fetched.1.map some), fetched.2) := by
  simp [advance, hp, hf, hr, PageSequence.next_of_unfinished hpages]

/-- Under a closed client a bound join is over when a page comes, and fails when there is none. -/
theorem takePage_of_closed (page? : Except TransportError (Option Page)) :
    (j.takePage round true page?).2 =
      match page? with
      | .ok _ => some .done
      | .error e => some (.fail e) := by
  cases page? <;> rfl

end BoundJoin

namespace Session

variable {net : Network σ} {s : Session σ} {address : String} {request : Request}

/-- A client that is closed when its delivery arrives gives the exhausted page, unless the delivery
is a failure. -/
theorem fetch_closing (hopen : s.isClosed address = false)
    (hclosed : (s.fetch net address request).2.isClosed address = true) :
    (s.fetch net address request).1 =
      match (net.send address request s.world).1.reply with
      | .ok _ => .ok .exhausted
      | .error e => .error e := by
  rw [fetch_of_not_closed hopen] at hclosed ⊢
  simp only at hclosed ⊢
  rw [hclosed]
  have hd : (s.deliver net address request).1 = (net.send address request s.world).1 := rfl
  rw [pageOfDelivery, hd]
  cases (net.send address request s.world).1.reply <;> rfl

/-- **A closed client is exhausted, unless the transport has failed.** When a client is closed by
the time at which the outcome of a query arrives, the query gives the exhausted page just if the
client was closed before, so that nothing was sent, or if there was an answer, readable or not. If
the transport has failed meanwhile, its failure is reported instead, and a bound join that has asked
for the page fails with it; in all other cases the bound join is over. From then on all queries of
the client give the exhausted page, and nothing more is sent. -/
theorem fetch_of_closing (net : Network σ) (s : Session σ) (address : String) (request : Request)
    (hclosed : (s.fetch net address request).2.isClosed address = true) :
    ((s.fetch net address request).1 = .ok .exhausted ↔
      s.isClosed address = true ∨
        ∃ response, (net.send address request s.world).1.reply = .ok response) ∧
    (∀ e, (s.fetch net address request).1 = .error e ↔
      s.isClosed address = false ∧ (net.send address request s.world).1.reply = .error e) ∧
    (∀ (j : BoundJoin) (round : Round), j.pending = [] → j.finished = false →
      j.round? = some round → round.pages.finished = false → j.goal.address = address →
      round.pages.address = address → round.pages.request = request →
      (j.advance net s).1.2 =
        match (s.fetch net address request).1 with
        | .ok _ => some .done
        | .error e => some (.fail e)) ∧
    ∀ asked s', Later net asked (s.fetch net address request).2 s' →
      s'.sentTo address = (s.fetch net address request).2.sentTo address ∧
        ∀ request', s'.fetch net address request' = (.ok .exhausted, s') := by
  refine ⟨?_, ?_, ?_, fun asked s' hlater => ⟨hlater.sentTo_of_closed hclosed,
    fun request' => fetch_of_closed (hlater.isClosed hclosed)⟩⟩
  · cases hopen : s.isClosed address with
    | true => simp [fetch_of_closed hopen]
    | false =>
      rw [fetch_closing hopen hclosed]
      cases (net.send address request s.world).1.reply <;> simp
  · intro e
    cases hopen : s.isClosed address with
    | true => simp [fetch_of_closed hopen]
    | false =>
      rw [fetch_closing hopen hclosed]
      cases (net.send address request s.world).1.reply <;> simp
  · rintro j round hp hf hr hpages hgoal rfl rfl
    rw [BoundJoin.advance_of_reading hp hf hr hpages]
    simp only [hgoal, hclosed, BoundJoin.takePage_of_closed]
    cases (s.fetch net round.pages.address round.pages.request).1 <;> rfl

end Session

namespace Sample

/-- An endpoint that cannot be reached, while its client is being closed. -/
def failing : Network Unit where
  connect := fun _ => .ok ()
  send := fun _ _ w => ({ reply := .error (.http "boom"), closing := .client }, w)

end Sample

namespace Session

/-- A query under way when its client is closed reports the failure of the transport, and the next
one gives the exhausted page. -/
theorem fetch_of_closing_sample :
    let first := fetch Sample.failing Sample.idle "http://example.org/" ⟨"ASK {}", "", none⟩
    first.2.isClosed "http://example.org/" = true ∧ first.1 = .error (.http "boom") ∧
      ∀ s', Later Sample.failing (fun _ => True) first.2 s' → ∀ request,
        s'.fetch Sample.failing "http://example.org/" request = (.ok .exhausted, s') := by
  obtain ⟨-, hfails, -, hafter⟩ := fetch_of_closing Sample.failing Sample.idle
    "http://example.org/" ⟨"ASK {}", "", none⟩ rfl
  exact ⟨rfl, (hfails _).2 ⟨rfl, rfl⟩, fun s' h => (hafter _ s' h).2⟩

end Session

end PagedSparql
