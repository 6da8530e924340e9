import PagedSparql.Proofs.Pipeline.BoundJoinLaw
import PagedSparql.Proofs.Protocol.ClosedClients

/-!
# Interrupted stages

Clients may be closed at any moment: between the steps of a stage (`Session.Cut`), and while a
request is under way (`Network.Cuts`). A stage runs (`Stage.Runs`) from one moment to a later one
while rows come in, the world moves, and clients are closed.

A bound join that runs so has handed on, at any moment, the beginning of what it would hand on if no
client was closed (`BoundJoin.runs_spec`). As long as its client is open, it is at some place of its
work, as if nothing was closed. Whatever that place is, it can be completed (`BoundJoin.Begun`), and
from the closing on the join hands on nothing but what waits already.
-/

namespace PagedSparql

variable {σ : Type} {net cut : Network σ}

/-- A network that closes clients while requests are under way, and that does nothing else than
another one, which closes none. -/
structure Network.Cuts (net cut : Network σ) : Prop where
  /-- The other one closes no client. -/
  still : ∀ address request w, (net.send address request w).1.closing = .nothing
  /-- The replies are the same. -/
  sends : ∀ address request w, ∃ closing, cut.send address request w =
    ({ (net.send address request w).1 with closing }, (net.send address request w).2)

namespace Session

/-- What others may have done to a session: the world has moved, and clients were closed. -/
structure Cut (others : σ → σ → Prop) (s s' : Session σ) : Prop where
  /-- The world has moved. -/
  world : others s.world s'.world
  /-- No client was opened. -/
  closed : ∀ address, s.isClosed address = true → s'.isClosed address = true

variable {s s' : Session σ} {address : String} {request : Request}

/-- A client that is open was open before. -/
theorem Cut.isOpen {others : σ → σ → Prop} (h : Cut others s s')
    (hopen : s'.isClosed address = false) : s.isClosed address = false := by
  cases hs : s.isClosed address with
  | false => rfl
  | true =>
    rw [h.closed address hs] at hopen
    exact absurd hopen (by simp)

/-- A client may be closed. -/
theorem cut_close {others : σ → σ → Prop} [Std.Refl others] (s : Session σ) (address : String) :
    Cut others s (s.close address) where
  world := Std.Refl.refl s.world
  closed a ha := by
    have hmem : a ∈ s.closed := List.contains_iff_mem.1 ha
    exact List.contains_iff_mem.2 (List.mem_cons_of_mem address hmem)

/-- If no client is closed, the list of closed clients is empty. -/
theorem closed_eq_nil (hopen : ∀ a, s.isClosed a = false) : s.closed = [] := by
  rw [List.eq_nil_iff_forall_not_mem]
  intro a ha
  have hclosed : s.isClosed a = true := List.contains_iff_mem.2 ha
  rw [hopen a] at hclosed
  exact absurd hclosed (by simp)

/-- A client that is open after a fetch was open before. -/
theorem isClosed_of_fetch (hopen : (s.fetch net address request).2.isClosed address = false) :
    s.isClosed address = false := by
  cases hs : s.isClosed address with
  | false => rfl
  | true =>
    rw [fetch_of_closed hs] at hopen
    exact hs.symm.trans hopen

/-- A network that closes no client leaves the client of a request open. -/
theorem isClosed_fetch_of_still (hcuts : net.Cuts cut) (hopen : s.isClosed address = false)
    (request : Request) : (s.fetch net address request).2.isClosed address = false := by
  rw [fetch_of_not_closed hopen]
  simpa [deliver, hcuts.still, closeFor, measure, isClosed] using hopen

/-- If the client is open afterwards, what was fetched is what is fetched from the network that
closes no client. -/
theorem fetch_of_cuts (hcuts : net.Cuts cut)
    (hopen : (s.fetch cut address request).2.isClosed address = false) :
    (s.fetch cut address request).1 = (s.fetch net address request).1 ∧
      (s.fetch cut address request).2.world = (s.fetch net address request).2.world := by
  have hnet := isClosed_fetch_of_still hcuts (isClosed_of_fetch hopen) request
  obtain ⟨hpage, hworld, -⟩ := fetch_of_open hopen
  obtain ⟨hpage', hworld', -⟩ := fetch_of_open hnet
  obtain ⟨closing, hsend⟩ := hcuts.sends address request s.world
  rw [hpage, hworld, hpage', hworld', hsend]
  exact ⟨rfl, rfl⟩

/-- If no client is closed afterwards, a fetch is one from the network that closes none. -/
theorem fetch_eq_of_cuts (hcuts : net.Cuts cut)
    (hopen : ∀ a, (s.fetch cut address request).2.isClosed a = false) :
    s.fetch cut address request = s.fetch net address request := by
  have hbefore := isClosed_of_fetch (hopen address)
  obtain ⟨closing, hsend⟩ := hcuts.sends address request s.world
  have hstill := hcuts.still address request s.world
  rw [fetch_of_not_closed hbefore] at hopen ⊢
  rw [fetch_of_not_closed hbefore]
  rcases hnet : net.send address request s.world with ⟨⟨reply, still, micros⟩, w⟩
  rw [hnet] at hsend hstill
  obtain rfl : still = .nothing := hstill
  simp only [deliver, hsend, hnet] at hopen ⊢
  cases closing with
  | nothing => rfl
  | client =>
    have hclosed := hopen address
    simp [closeFor, close, measure, isClosed] at hclosed
  | allClients =>
    -- All clients are closed, but there are none.
    have hnone : s.clients = [] := by
      rw [List.eq_nil_iff_forall_not_mem]
      intro a ha
      have hclosed := hopen a
      simp [closeFor, closeAll, measure, isClosed, ha] at hclosed
    have hall : closeFor { s with world := w, log := (address, request) :: s.log } address
        .allClients = { s with world := w, log := (address, request) :: s.log } := by
      simp [closeFor, closeAll, hnone]
    rw [hall]
    rfl

end Session

/-- What has passed through a stage after it has handed on a signal, or nothing. -/
def Traffic.hand (h : Traffic) : Option Signal → Traffic
  | some (.row r) => h.give r
  | _ => h

/-- A stage runs from one moment to a later one. A failure ends the query, so that nothing comes
after it. -/
inductive Stage.Runs (net : Network σ) (now : DateTime) (others : σ → σ → Prop) (st₀ : Stage)
    (h₀ : Traffic) (s₀ : Session σ) : Stage → Traffic → Session σ → Prop
  /-- Nothing has happened. -/
  | start : Runs net now others st₀ h₀ s₀ st₀ h₀ s₀
  /-- Others have moved the world or closed clients. -/
  | others {st : Stage} {h : Traffic} {s s' : Session σ}
    (before : Runs net now others st₀ h₀ s₀ st h s) (hcut : Session.Cut others s s') :
    Runs net now others st₀ h₀ s₀ st h s'
  /-- The stage has made a step on its own. -/
  | acts {st st' : Stage} {h : Traffic} {s s' : Session σ} {y? : Option Signal}
    (before : Runs net now others st₀ h₀ s₀ st h s) (hwants : st.wants = false)
    (hstep : st.step net now none s = ((st', y?), s')) (hne : ∀ e, y? ≠ some (.fail e)) :
    Runs net now others st₀ h₀ s₀ st' (h.hand y?) s'
  /-- A row has come in. -/
  | takes {st st' : Stage} {h : Traffic} {s s' : Session σ} {y? : Option Signal} (r : Row)
    (before : Runs net now others st₀ h₀ s₀ st h s) (hwants : st.wants = true)
    (hcoming : h.ended = false) (hstep : st.step net now (some (.row r)) s = ((st', y?), s'))
    (hne : ∀ e, y? ≠ some (.fail e)) : Runs net now others st₀ h₀ s₀ st' ((h.take r).hand y?) s'
  /-- There are no more rows to come in. -/
  | ends {st st' : Stage} {h : Traffic} {s s' : Session σ} {y? : Option Signal}
    (before : Runs net now others st₀ h₀ s₀ st h s) (hwants : st.wants = true)
    (hstep : st.step net now (some .done) s = ((st', y?), s')) (hne : ∀ e, y? ≠ some (.fail e)) :
    Runs net now others st₀ h₀ s₀ st' (h.close.hand y?) s'

/-- If no client is closed afterwards, a page comes as from the network that closes none. -/
theorem PageSequence.next_eq_of_cuts (hcuts : net.Cuts cut) {p : PageSequence} {s : Session σ}
    (hopen : ∀ a, (p.next cut s).2.2.isClosed a = false) : p.next cut s = p.next net s := by
  unfold next at hopen ⊢
  split
  · rfl
  · next hmore =>
    simp only [hmore] at hopen
    rw [Session.fetch_eq_of_cuts hcuts hopen]

namespace Network

/-- An answer comes to an end. -/
theorem Answers.exists {others : σ → σ → Prop} [Std.Refl others] {address : String}
    {Q : List Page → σ → Prop} {request : Request} {w : σ}
    (h : net.Answers others address Q request w) : ∃ pages w', Q pages w' := by
  induction h with
  | @pages Q request w brings last more ih =>
    obtain ⟨page, hpage⟩ := brings w (Std.Refl.refl w)
    cases hnext : page.hasNext with
    | false => exact ⟨_, _, last w page (Std.Refl.refl w) hpage hnext⟩
    | true =>
      obtain ⟨pages, w', hQ⟩ := ih w page (Std.Refl.refl w) hpage hnext
      exact ⟨_, w', hQ⟩

end Network

namespace BoundJoin

variable {now : DateTime} {rely : σ → σ → Prop} {ready : σ → Prop} {goal : BoundPattern}
  {served : List Row → List Page → Prop} {j : BoundJoin} {h : Traffic} {s s' : Session σ}
  {given : List Row}

/-- Some rows are the beginning of what rounds yield that are the first ones of all rounds, whatever
comes in after the present rows. -/
def Begun (goal : BoundPattern) (served : List Row → List Page → Prop) (h : Traffic)
    (given : List Row) : Prop :=
  ∃ (rounds : List PastRound) (tail : List Row), (∀ r ∈ rounds, served r.1 r.2) ∧
    (∀ rest, h.Rest rest → buckets goal.bufferSize (h.taken ++ rest) =
      rounds.map Prod.fst ++ buckets goal.bufferSize (tail ++ rest)) ∧
    given <+: rounds.flatMap fun r => Round.yield goal r.1 r.2

/-- One more row changes nothing in the rounds before it. -/
theorem Begun.take (hbegun : Begun goal served h given) (hcoming : h.ended = false) (r : Row) :
    Begun goal served (h.take r) given := by
  obtain ⟨rounds, tail, hserved, hcut, hgiven⟩ := hbegun
  refine ⟨rounds, tail ++ [r], hserved, fun rest _ => ?_, hgiven⟩
  have hrest : h.Rest (r :: rest) := fun hended => absurd hended (by simp [hcoming])
  simpa [Traffic.take] using hcut (r :: rest) hrest

/-- The last row may have come in. -/
theorem Begun.close (hbegun : Begun goal served h given) : Begun goal served h.close given := by
  obtain ⟨rounds, tail, hserved, hcut, hgiven⟩ := hbegun
  refine ⟨rounds, tail, hserved, fun rest hrest => ?_, hgiven⟩
  obtain rfl := hrest rfl
  exact hcut [] fun _ => rfl

/-- Wherever a bound join stands in its work, the rest of the work can be done. -/
theorem Phase.begun [Std.Refl rely] {w : σ} (hphase : Phase net rely ready goal served j h w) :
    Begun goal served h (h.given ++ j.pending) := by
  cases hphase with
  | filling rounds past idle working coming small steady cut =>
    exact ⟨rounds, j.bucket, past.served, fun rest _ => cut rest, past.given ▸ List.prefix_rfl⟩
  | reading rounds given past bucket pages sequence round rows empty working address answer cut =>
    -- The pages that are missing come in the end.
    obtain ⟨more, hserved⟩ : ∃ more, served bucket (pages ++ more) := by
      split at answer
      · exact ⟨[], by simpa using answer.2⟩
      · obtain ⟨more, _, -, hserved⟩ := answer.exists
        exact ⟨more, hserved⟩
    obtain ⟨hpast, hgiven⟩ := past.snoc hserved
    refine ⟨rounds ++ [(bucket, pages ++ more)], [], hpast, fun rest hrest => ?_, ?_⟩
    · simpa using cut rest hrest
    · rw [rows, ← hgiven, List.prefix_append_right_inj, Round.yield, Round.absorbAll_append,
        List.append_assoc]
      exact List.prefix_append _ _
  | finished rounds past idle closed cut =>
    refine ⟨rounds, [], past.served, fun rest hrest => ?_, past.given ▸ List.prefix_rfl⟩
    obtain rfl := hrest closed
    simp [cut, buckets]

/-- Rows that are the beginning of what rounds yield are the beginning of what all rounds yield, if
the endpoint answers for all buckets. -/
theorem Begun.spec [Std.Refl rely] (hbegun : Begun goal served h given)
    (hasks : ∀ bucket, Asks net rely ready goal served bucket) {w : σ} (hready : ready w) :
    ∃ W, Spec goal served h.taken W ∧ given <+: W := by
  obtain ⟨rounds, tail, hserved, hcut, hgiven⟩ := hbegun
  have hlater : ∀ later : List (List Row), ∃ others : List PastRound,
      others.map Prod.fst = later ∧ ∀ r ∈ others, served r.1 r.2 := by
    intro later
    induction later with
    | nil => exact ⟨[], rfl, by simp⟩
    | cons bucket later ih =>
      obtain ⟨others, hothers, hall⟩ := ih
      obtain ⟨pages, _, -, hpages⟩ := (hasks bucket w hready).exists
      exact ⟨(bucket, pages) :: others, by simp [hothers], List.forall_mem_cons.2 ⟨hpages, hall⟩⟩
  obtain ⟨others, hothers, hall⟩ := hlater (buckets goal.bufferSize tail)
  refine ⟨_, ⟨rounds ++ others, ?_, ?_, rfl⟩, ?_⟩
  · have hcut' := hcut [] fun _ => rfl
    rw [List.append_nil, List.append_nil] at hcut'
    rw [hcut', List.map_append, hothers]
  · exact fun r hr => (List.mem_append.1 hr).elim (hserved r) (hall r)
  · rw [List.flatMap_append]
    exact hgiven.trans (List.prefix_append _ _)

/-- The invariant of interrupted bound joins: while the client is open, the join stands somewhere in
its work. -/
structure Interrupted (net : Network σ) (rely : σ → σ → Prop) (ready : σ → Prop)
    (goal : BoundPattern) (served : List Row → List Page → Prop) (j : BoundJoin) (h : Traffic)
    (s : Session σ) : Prop where
  /-- What the join is told does not change. -/
  told : j.goal = goal
  /-- The join knows whether more rows come in. -/
  inputDone : j.inputDone = h.ended
  /-- What was handed on, and what waits, is the beginning of what rounds yield. -/
  begun : Begun goal served h (h.given ++ j.pending)
  /-- Where the join stands. -/
  phase : s.isClosed goal.address = false → Phase net rely ready goal served j h s.world

/-- A bound join at work may be interrupted. -/
theorem Inv.interrupted [Std.Refl rely] (hinv : Inv net rely ready goal served j h s) :
    Interrupted net rely ready goal served j h s :=
  ⟨hinv.told, hinv.inputDone, hinv.phase.begun, fun _ => hinv.phase⟩

/-- An interrupted bound join whose client is open is at work. -/
theorem Interrupted.inv (hj : Interrupted net rely ready goal served j h s)
    (hopen : s.isClosed goal.address = false) : Inv net rely ready goal served j h s :=
  ⟨hj.told, hj.inputDone, hopen, hj.phase hopen⟩

/-- Others may move the world and close clients. -/
theorem Interrupted.others [Std.Refl rely] [IsTrans σ rely]
    (hsteady : ∀ w w', ready w → rely w w' → ready w')
    (hj : Interrupted net rely ready goal served j h s) (hcut : Session.Cut rely s s') :
    Interrupted net rely ready goal served j h s' := by
  refine ⟨hj.told, hj.inputDone, hj.begun, fun hopen => ?_⟩
  have hmoves : Session.Moves rely s { s with world := s'.world } := ⟨hcut.world, rfl⟩
  exact ((hj.inv (hcut.isOpen hopen)).stable hsteady hmoves).phase

/-- What comes from above does not change what waits. -/
theorem accept_spec (j : BoundJoin) (x : Signal) :
    (j.accept x).1.goal = j.goal ∧ (j.accept x).1.pending = j.pending ∧
      (j.accept x).1.inputDone = (j.inputDone || (x matches .done)) := by
  have hstart : ∀ j : BoundJoin, j.startRound.goal = j.goal ∧
      j.startRound.pending = j.pending ∧ j.startRound.inputDone = j.inputDone := by
    intro j
    unfold startRound
    split <;> exact ⟨rfl, rfl, rfl⟩
  cases x with
  | row r =>
    simp only [accept, Bool.or_false]
    split
    · exact ⟨rfl, rfl, rfl⟩
    · exact hstart _
  | done => simpa [accept] using hstart { j with inputDone := true }
  | fail e => exact ⟨rfl, rfl, by simp [accept]⟩

/-- A row goes into the bucket. -/
theorem Interrupted.take [Std.Refl rely] (hK : 0 < goal.bufferSize)
    (hasks : ∀ bucket, Asks net rely ready goal served bucket)
    (hj : Interrupted net rely ready goal served j h s) (hwants : j.wants = true)
    (hcoming : h.ended = false) (r : Row) :
    Interrupted net rely ready goal served (j.accept (.row r)).1 (h.take r) s := by
  obtain ⟨hgoal, hpending, hdone⟩ := j.accept_spec (.row r)
  refine ⟨hgoal.trans hj.told, ?_, ?_, fun hopen => ?_⟩
  · rw [hdone, hj.inputDone, Bool.or_false]
    rfl
  · rw [hpending]
    exact hj.begun.take hcoming r
  · have hall : ∀ U : List Row, True → ∀ bucket ∈ buckets goal.bufferSize U,
        Asks net rely ready goal served bucket := fun _ _ bucket _ => hasks bucket
    exact ((hj.inv hopen).take hK hall hwants ⟨[], trivial⟩).2.phase

/-- The last row has come in. -/
theorem Interrupted.close [Std.Refl rely]
    (hasks : ∀ bucket, Asks net rely ready goal served bucket)
    (hj : Interrupted net rely ready goal served j h s) (hwants : j.wants = true) :
    Interrupted net rely ready goal served (j.accept .done).1 h.close s := by
  obtain ⟨hgoal, hpending, hdone⟩ := j.accept_spec .done
  refine ⟨hgoal.trans hj.told, ?_, ?_, fun hopen => ?_⟩
  · rw [hdone, Bool.or_true]
    rfl
  · rw [hpending]
    exact hj.begun.close
  · have hall : ∀ U : List Row, True → ∀ bucket ∈ buckets goal.bufferSize U,
        Asks net rely ready goal served bucket := fun _ _ bucket _ => hasks bucket
    exact ((hj.inv hopen).close hall hwants trivial).2.phase

/-- The pages of a round come from the endpoint of the join. -/
theorem Inv.address_of_round (hinv : Inv net rely ready goal served j h s) {round : Round}
    (hr : j.round? = some round) : round.pages.address = j.goal.address := by
  cases hinv.phase with
  | filling rounds past idle working coming small steady cut =>
    exact absurd (hr.symm.trans idle) (by simp)
  | reading rounds given past bucket pages sequence hround rows empty working address answer cut =>
    obtain rfl := Option.some.inj (hr.symm.trans hround)
    exact address.trans (by rw [hinv.told])
  | finished rounds past idle closed cut => exact absurd (hr.symm.trans idle) (by simp)

/-- A closed client stays closed while the join goes on. -/
theorem isClosed_advance {a : String} (hclosed : s.isClosed a = true) :
    (j.advance cut s).2.isClosed a = true := by
  unfold advance
  split
  · exact hclosed
  · split
    · exact hclosed
    · split
      · exact PageSequence.isClosed_next hclosed
      · exact hclosed

/-- A page of a client that is open does not end a join. -/
theorem takePage_ne_done (round : Round) (page? : Except TransportError (Option Page)) :
    (j.takePage round false page?).2 ≠ some .done := by
  rcases page? with e | _ | page <;> simp [takePage]

/-- If the client is open afterwards, a page is what the network brings that closes no client. -/
theorem advance_of_cuts (hcuts : net.Cuts cut) {round : Round} (hp : j.pending = [])
    (hf : j.finished = false) (hr : j.round? = some round)
    (haddress : round.pages.address = j.goal.address)
    (hopen : (j.advance cut s).2.isClosed j.goal.address = false) :
    (j.advance cut s).1 = (j.advance net s).1 ∧
      (j.advance cut s).2.world = (j.advance net s).2.world ∧
      (j.advance cut s).1.2 ≠ some .done := by
  cases hpages : round.pages.finished with
  | true =>
    have hadvance : ∀ net : Network σ, j.advance net s =
        (j.takePage round (s.isClosed j.goal.address) (.ok none), s) := fun net => by
      simp [advance, hp, hf, hr, PageSequence.next_of_finished hpages]
    rw [hadvance] at hopen
    rw [hadvance, hadvance, hopen]
    exact ⟨rfl, rfl, takePage_ne_done round _⟩
  | false =>
    rw [advance_of_reading hp hf hr hpages] at hopen
    rw [advance_of_reading hp hf hr hpages, advance_of_reading hp hf hr hpages]
    rw [← haddress] at hopen ⊢
    obtain ⟨hpage, hworld⟩ := Session.fetch_of_cuts hcuts hopen
    have hnet := Session.isClosed_fetch_of_still hcuts (Session.isClosed_of_fetch hopen)
      round.pages.request
    refine ⟨?_, hworld, ?_⟩
    · rw [hopen, hnet, hpage]
    · rw [hopen]
      exact takePage_ne_done _ _

/-- If no client is closed afterwards, the join goes on as with the network that closes none. -/
theorem advance_eq_of_cuts (hcuts : net.Cuts cut)
    (hopen : ∀ a, (j.advance cut s).2.isClosed a = false) : j.advance cut s = j.advance net s := by
  unfold advance at hopen ⊢
  split
  · rfl
  · next hp =>
    split
    · rfl
    · next hf =>
      split
      · next round hr =>
        simp only [hp, hf, hr] at hopen
        rw [PageSequence.next_eq_of_cuts hcuts hopen]
      · rfl

/-- If the client is closed afterwards, nothing waits and nothing was handed on. -/
theorem advance_of_closing {round : Round} (hp : j.pending = []) (hf : j.finished = false)
    (hr : j.round? = some round)
    (hclosed : (j.advance cut s).2.isClosed j.goal.address = true) :
    (j.advance cut s).1.1.goal = j.goal ∧ (j.advance cut s).1.1.pending = [] ∧
      (j.advance cut s).1.1.inputDone = j.inputDone ∧
      ∀ h : Traffic, h.hand (j.advance cut s).1.2 = h := by
  rcases hnext : round.pages.next cut s with ⟨page?, pages, s'⟩
  have hadvance : j.advance cut s =
      (j.takePage { round with pages } (s'.isClosed j.goal.address) page?, s') := by
    simp [advance, hp, hf, hr, hnext]
  rw [hadvance] at hclosed ⊢
  rw [hclosed, takePage_of_closed]
  cases page? with
  | ok page => exact ⟨rfl, rfl, rfl, fun _ => rfl⟩
  | error e => exact ⟨rfl, hp, rfl, fun _ => rfl⟩

/-- What a step of an interrupted bound join on its own comes to. -/
theorem Interrupted.act [Std.Refl rely] (hcuts : net.Cuts cut)
    (hsends : ∀ address request w, rely w (net.send address request w).2)
    (hK : 0 < goal.bufferSize) (hj : Interrupted net rely ready goal served j h s)
    (hwants : j.wants = false) :
    Interrupted net rely ready goal served (j.advance cut s).1.1 (h.hand (j.advance cut s).1.2)
      (j.advance cut s).2 := by
  cases hp : j.pending with
  | cons r rest =>
    rw [advance_of_pending hp]
    refine ⟨hj.told, hj.inputDone, ?_, fun hopen => (hj.phase hopen).give hp⟩
    have hgiven : (h.give r).given ++ rest = h.given ++ j.pending := by simp [Traffic.give, hp]
    exact hgiven ▸ hj.begun
  | nil =>
    cases hf : j.finished with
    | true =>
      rw [advance_of_finished hp hf]
      exact hj
    | false =>
      cases hr : j.round? with
      | none =>
        rw [advance_of_idle hp hf hr]
        refine ⟨hj.told, hj.inputDone, hj.begun, fun hopen => ?_⟩
        cases hj.phase hopen with
        | filling rounds past idle working coming small steady cut =>
          simp [wants, hp, working, idle, hj.inputDone, coming] at hwants
        | reading rounds given past bucket pages sequence round rows empty working address answer
            cut => exact absurd (hr.symm.trans round) (by simp)
        | finished rounds past idle closed cut => exact .finished rounds past idle closed cut
      | some round =>
        cases hopen : (j.advance cut s).2.isClosed goal.address with
        | true =>
          have hclosed := hj.told.symm ▸ hopen
          obtain ⟨hgoal, hpending, hdone, hhand⟩ := advance_of_closing hp hf hr hclosed
          rw [hhand]
          refine ⟨hgoal.trans hj.told, hdone.trans hj.inputDone, ?_, fun hopen' => ?_⟩
          · rw [hpending, ← hp]
            exact hj.begun
          · rw [hopen'] at hopen
            exact absurd hopen (by simp)
        | false =>
          have hbefore : s.isClosed goal.address = false := by
            cases hs : s.isClosed goal.address with
            | false => rfl
            | true =>
              rw [isClosed_advance hs] at hopen
              exact absurd hopen (by simp)
          have hinv := hj.inv hbefore
          obtain ⟨hout, hworld, hne⟩ := advance_of_cuts hcuts hp hf hr
            (hinv.address_of_round hr) (hj.told.symm ▸ hopen)
          have hfulfils : Stage.Fulfils (fun _ => True) False (Spec goal served)
              (StageInv net rely ready goal served) h (j.advance net s).2
              (.remote (j.advance net s).1.1, (j.advance net s).1.2) :=
            (hinv.act hK hsends hwants).2
          rw [← hout] at hfulfils
          rcases hadvance : j.advance cut s with ⟨⟨j', y?⟩, s'⟩
          rw [hadvance] at hfulfils hworld hne hopen
          have hkeeps : ∀ h', StageInv net rely ready goal served (.remote j') h'
              (j.advance net s).2 → Interrupted net rely ready goal served j' h' s' := by
            rintro h' ⟨j₁, hj₁, hinv'⟩
            obtain rfl := Stage.remote.inj hj₁
            refine ⟨hinv'.told, hinv'.inputDone, hinv'.phase.begun, fun _ => ?_⟩
            rw [hworld]
            exact hinv'.phase
          rcases y? with _ | r | _ | e
          · exact hkeeps h hfulfils
          · exact hkeeps (h.give r) hfulfils
          · exact absurd rfl hne
          · exact hfulfils.elim

/-- **Interrupted bound joins.** Whatever is closed while a bound join runs, at any moment it has
handed on the beginning of what it would make of the rows that have come in if nothing was closed. -/
theorem runs_spec [Std.Refl rely] [IsTrans σ rely] (hcuts : net.Cuts cut)
    (hsends : ∀ address request w, rely w (net.send address request w).2)
    (hsteady : ∀ w w', ready w → rely w w' → ready w') (hK : 0 < goal.bufferSize)
    (hasks : ∀ bucket, Asks net rely ready goal served bucket) {s₀ : Session σ} {st₀ st : Stage}
    (hstart : StageInv net rely ready goal served st₀ {} s₀) (hready : ready s₀.world)
    (hrun : Stage.Runs cut now rely st₀ {} s₀ st h s) :
    ∃ W, Spec goal served h.taken W ∧ h.given <+: W := by
  obtain ⟨j₀, rfl, hinv⟩ := hstart
  -- The invariant of the steps holds along the run, whoever makes them.
  have hinterrupted : ∃ j, st = .remote j ∧ Interrupted net rely ready goal served j h s := by
    induction hrun with
    | start => exact ⟨j₀, rfl, hinv.interrupted⟩
    | others _ hcut ih =>
      obtain ⟨j, rfl, hj⟩ := ih
      exact ⟨j, rfl, hj.others hsteady hcut⟩
    | acts _ hwants hstep _ ih =>
      obtain ⟨j, rfl, hj⟩ := ih
      rw [step_none] at hstep
      obtain ⟨⟨rfl, rfl⟩, rfl⟩ : (_ ∧ _) ∧ _ := by simpa using hstep
      exact ⟨_, rfl, hj.act hcuts hsends hK hwants⟩
    | takes r _ hwants hcoming hstep _ ih =>
      obtain ⟨j, rfl, hj⟩ := ih
      rw [step_some] at hstep
      obtain ⟨⟨rfl, rfl⟩, rfl⟩ : (_ ∧ _) ∧ _ := by simpa using hstep
      exact ⟨_, rfl, hj.take hK hasks hwants hcoming r⟩
    | ends _ hwants hstep _ ih =>
      obtain ⟨j, rfl, hj⟩ := ih
      rw [step_some] at hstep
      obtain ⟨⟨rfl, rfl⟩, rfl⟩ : (_ ∧ _) ∧ _ := by simpa using hstep
      exact ⟨_, rfl, hj.close hasks hwants⟩
  obtain ⟨j, rfl, hj⟩ := hinterrupted
  obtain ⟨W, hspec, hW⟩ := hj.begun.spec hasks hready
  exact ⟨W, hspec, (List.prefix_append _ _).trans hW⟩

end BoundJoin

end PagedSparql
