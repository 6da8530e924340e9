import PagedSparql.Proofs.Pipeline.Contract
import PagedSparql.Proofs.Pipeline.RoundYield

/-!
# Runs of bound joins

A bound join cuts the rows that come in into buckets (`buckets`), asks for each bucket once, and
hands on what the rounds yield, in order. This is its contract (`BoundJoin.contract`), and it holds
of every endpoint that answers in the end, whatever `served` tells of its pages.

The invariant is about the rounds that are over, and about the rest of the rows: whatever comes in
after the present rows, it is cut so that those rounds come first. Between two rounds a bucket is
being filled; in a round, the pages so far have been taken in, and the endpoint still answers with
the others.
-/

namespace PagedSparql

/-- The buckets that rows are put into: all but the last one hold `K` rows, or one if `K` is 0. -/
def buckets (K : Nat) : List Row → List (List Row)
  | [] => []
  | r :: rest => (r :: rest.take (K - 1)) :: buckets K (rest.drop (K - 1))
termination_by rows => rows.length
decreasing_by simp only [List.length_cons, List.length_drop]; omega

/-- A full bucket is followed by the buckets of the other rows. -/
theorem buckets_append {K : Nat} (hK : 0 < K) {bucket : List Row} (h : bucket.length = K)
    (rest : List Row) : buckets K (bucket ++ rest) = bucket :: buckets K rest := by
  cases bucket with
  | nil => simp only [List.length_nil] at h; omega
  | cons r bucket =>
    have hlength : bucket.length = K - 1 := by
      simp only [List.length_cons] at h
      omega
    rw [List.cons_append, buckets, ← hlength, List.take_left, List.drop_left]

/-- The last bucket may hold fewer rows. -/
theorem buckets_of_length_le {K : Nat} {bucket : List Row} (hne : bucket ≠ [])
    (h : bucket.length ≤ K) : buckets K bucket = [bucket] := by
  cases bucket with
  | nil => exact absurd rfl hne
  | cons r bucket =>
    have hlength : bucket.length ≤ K - 1 := by
      simp only [List.length_cons] at h
      omega
    rw [buckets, List.take_of_length_le hlength, List.drop_of_length_le hlength, buckets]

/-- The buckets hold all rows, in order. -/
theorem flatten_buckets (K : Nat) (rows : List Row) : (buckets K rows).flatten = rows := by
  induction rows using buckets.induct K with
  | case1 => rw [buckets]; rfl
  | case2 r rest ih => rw [buckets, List.flatten_cons, ih, List.cons_append, List.take_append_drop]

namespace PageSequence

/-- A sequence stays at its endpoint. -/
theorem address_advance (p : PageSequence) (page : Page) :
    (p.advance (.ok page)).address = p.address := by
  simp only [advance]
  split <;> rfl

/-- A sequence is over after a page that announces no other. -/
theorem finished_advance {p : PageSequence} (h : p.finished = false) (page : Page) :
    (p.advance (.ok page)).finished = !page.hasNext := by
  cases hnext : page.hasNext <;> simp [advance, hnext, h]

/-- The next request carries the token of the page. -/
theorem request_advance {p : PageSequence} {page : Page} (h : page.hasNext = true) :
    (p.advance (.ok page)).request = { p.request with token? := page.token? } := by
  simp [advance, h, request]

end PageSequence

namespace BoundJoin

/-- A round that is over: its bucket and the pages of its answer. -/
abbrev PastRound := List Row × List Page

/-- The rounds of a join for some rows, and what they have handed on. -/
structure Rounds (goal : BoundPattern) (served : List Row → List Page → Prop)
    (rounds : List PastRound) (given : List Row) : Prop where
  /-- Every bucket was answered. -/
  served : ∀ r ∈ rounds, served r.1 r.2
  /-- What the rounds yield was handed on. -/
  given : given = rounds.flatMap fun r => Round.yield goal r.1 r.2

/-- What a bound join makes of rows: there is a round for each bucket, and what the rounds yield is
handed on in order. -/
def Spec (goal : BoundPattern) (served : List Row → List Page → Prop) (U W : List Row) : Prop :=
  ∃ rounds : List PastRound,
    rounds.map Prod.fst = buckets goal.bufferSize U ∧ Rounds goal served rounds W

/-- A further round. -/
theorem Rounds.snoc {goal : BoundPattern} {served : List Row → List Page → Prop}
    {rounds : List PastRound} {given bucket : List Row} {pages : List Page}
    (h : Rounds goal served rounds given) (hserved : served bucket pages) :
    Rounds goal served (rounds ++ [(bucket, pages)]) (given ++ Round.yield goal bucket pages) := by
  constructor
  · intro r hr
    rcases List.mem_append.1 hr with hr | hr
    · exact h.served r hr
    · obtain rfl := List.mem_singleton.1 hr
      exact hserved
  · simp [h.given]

variable {σ : Type}

/-- The rows are cut so that some buckets come first, then a last one, then those of what may still
come in. -/
def Cut (K : Nat) (h : Traffic) (first : List (List Row)) (bucket : List Row) : Prop :=
  ∀ rest, h.Rest rest → buckets K (h.taken ++ rest) = first ++ bucket :: buckets K rest

/-- Where a bound join stands in its work, with the rows that it has still to hand on among those
that were handed on. -/
inductive Phase (net : Network σ) (rely : σ → σ → Prop) (ready : σ → Prop) (goal : BoundPattern)
    (served : List Row → List Page → Prop) (j : BoundJoin) (h : Traffic) (w : σ) : Prop
  /-- A bucket is being filled. -/
  | filling (rounds : List PastRound) (past : Rounds goal served rounds (h.given ++ j.pending))
    (idle : j.round? = none) (working : j.finished = false) (coming : h.ended = false)
    (small : j.bucket.length < goal.bufferSize) (steady : ready w)
    (cut : ∀ rest, buckets goal.bufferSize (h.taken ++ rest) =
      rounds.map Prod.fst ++ buckets goal.bufferSize (j.bucket ++ rest))
  /-- The pages of a round are being read. -/
  | reading (rounds : List PastRound) (given : List Row) (past : Rounds goal served rounds given)
    (bucket : List Row) (pages : List Page) (sequence : PageSequence)
    (round : j.round? =
      some { ((Round.start goal bucket).absorbAll pages).2 with pages := sequence })
    (rows : h.given ++ j.pending = given ++ ((Round.start goal bucket).absorbAll pages).1)
    (empty : j.bucket = []) (working : j.finished = false)
    (address : sequence.address = goal.address)
    (answer : if sequence.finished then ready w ∧ served bucket pages else
      net.Answers rely goal.address (fun more w => ready w ∧ served bucket (pages ++ more))
        sequence.request w)
    (cut : Cut goal.bufferSize h (rounds.map Prod.fst) bucket)
  /-- All rounds are over. -/
  | finished (rounds : List PastRound) (past : Rounds goal served rounds (h.given ++ j.pending))
    (idle : j.round? = none) (closed : h.ended = true)
    (cut : rounds.map Prod.fst = buckets goal.bufferSize h.taken)

/-- The invariant of bound joins. -/
structure Inv (net : Network σ) (rely : σ → σ → Prop) (ready : σ → Prop) (goal : BoundPattern)
    (served : List Row → List Page → Prop) (j : BoundJoin) (h : Traffic) (s : Session σ) :
    Prop where
  /-- What the join is told does not change. -/
  told : j.goal = goal
  /-- The join knows whether more rows come in. -/
  inputDone : j.inputDone = h.ended
  /-- The client of its endpoint is open. -/
  isOpen : s.isClosed goal.address = false
  /-- Where the join stands. -/
  phase : Phase net rely ready goal served j h s.world

variable {net : Network σ} {now : DateTime} {rely guar : σ → σ → Prop} {ready : σ → Prop}
  {goal : BoundPattern} {served : List Row → List Page → Prop} {j : BoundJoin} {h : Traffic}
  {s : Session σ}

/-! ## Steps -/

/-- A step of a bound join on its own. -/
theorem step_none (j : BoundJoin) (s : Session σ) :
    (Stage.remote j).step net now none s =
      ((.remote (j.advance net s).1.1, (j.advance net s).1.2), (j.advance net s).2) := rfl

/-- A step of a bound join with a signal from above. -/
theorem step_some (j : BoundJoin) (x : Signal) (s : Session σ) :
    (Stage.remote j).step net now (some x) s = ((.remote (j.accept x).1, (j.accept x).2), s) := rfl

/-- A join wants a row if nothing waits and nothing is under way, and not all rows have come in. -/
theorem wants_iff : j.wants = true ↔
    j.pending = [] ∧ j.finished = false ∧ j.round? = none ∧ j.inputDone = false := by
  simp only [wants, Bool.and_eq_true, Bool.not_eq_true', List.isEmpty_iff,
    Option.isNone_iff_eq_none, and_assoc]

/-- A row goes into a bucket that it does not fill. -/
theorem accept_row_of_lt {r : Row} (h : (j.bucket ++ [r]).length < j.goal.bufferSize) :
    j.accept (.row r) = ({ j with bucket := j.bucket ++ [r] }, none) := by
  simp only [accept, h, if_true]

/-- A row that fills the bucket begins a round. -/
theorem accept_row_of_full {r : Row} (h : ¬(j.bucket ++ [r]).length < j.goal.bufferSize) :
    j.accept (.row r) =
      ({ j with bucket := [], round? := some (.start j.goal (j.bucket ++ [r])) }, none) := by
  simp only [accept, h, if_false, startRound]
  simp

/-- The end of the rows ends a join whose bucket is empty. -/
theorem accept_done_of_nil (h : j.bucket = []) :
    j.accept .done = ({ j with inputDone := true, finished := true }, none) := by
  simp [accept, startRound, h]

/-- The end of the rows begins a round for the rows of the bucket. -/
theorem accept_done_of_ne_nil (h : j.bucket ≠ []) :
    j.accept .done =
      ({ j with inputDone := true, bucket := [], round? := some (.start j.goal j.bucket) },
        none) := by
  simp [accept, startRound, h]

/-- A bucket that is full with one row more holds as many rows as it may. -/
theorem length_of_full {K : Nat} {bucket : List Row} {r : Row} (hsmall : bucket.length < K)
    (hfull : ¬(bucket ++ [r]).length < K) : (bucket ++ [r]).length = K := by
  rw [List.length_append, List.length_singleton] at hfull ⊢
  omega

/-- A row that waits is handed on. -/
theorem advance_of_pending {r : Row} {rest : List Row} (hp : j.pending = r :: rest)
    (s : Session σ) : j.advance net s = (({ j with pending := rest }, some (.row r)), s) := by
  simp only [advance, hp]

/-- A join that is finished is done. -/
theorem advance_of_finished (hp : j.pending = []) (hf : j.finished = true) (s : Session σ) :
    j.advance net s = ((j, some .done), s) := by
  simp only [advance, hp, hf, if_true]

/-- A join between two rounds that makes a step is over. -/
theorem advance_of_idle (hp : j.pending = []) (hf : j.finished = false) (hr : j.round? = none)
    (s : Session σ) : j.advance net s = (({ j with finished := true }, none), s) := by
  simp only [advance, hp, hf, hr, Bool.false_eq_true, if_false]

/-- After the last page a round hands on what no page has extended, if it is to do so. -/
theorem advance_of_last {round : Round} (hp : j.pending = []) (hf : j.finished = false)
    (hr : j.round? = some round) (hlast : round.pages.finished = true)
    (hopen : s.isClosed j.goal.address = false) :
    j.advance net s =
      (({ j with
          round? := none
          pending := if j.goal.optional then round.table.unobserved else [] }, none), s) := by
  simp only [advance, hp, hf, hr, PageSequence.next, hlast, hopen, takePage, Bool.false_eq_true,
    if_false, if_true, List.nil_append]

/-- A page that the endpoint brings is taken in. -/
theorem advance_of_brings {round : Round} {page : Page} (hp : j.pending = [])
    (hf : j.finished = false) (hr : j.round? = some round) (hmore : round.pages.finished = false)
    (haddress : round.pages.address = j.goal.address)
    (hopen : s.isClosed j.goal.address = false)
    (hpage : net.Brings j.goal.address round.pages.request s.world page) :
    ∃ s', j.advance net s =
        (({ j with round? := some { (round.absorb page).2 with
                      pages := round.pages.advance (.ok page) },
                   pending := (round.absorb page).1 }, none), s') ∧
      s'.world = (net.send j.goal.address round.pages.request s.world).2 ∧
      s'.closed = s.closed := by
  obtain ⟨s', hfetch, hworld, hclosed⟩ := Session.fetch_of_brings hopen hpage
  have hopen' : s'.isClosed j.goal.address = false := by
    simpa [Session.isClosed, hclosed] using hopen
  have hnext : round.pages.next net s =
      (.ok (some page), round.pages.advance (.ok page), s') := by
    simp only [PageSequence.next, hmore, haddress, hfetch, Bool.false_eq_true, if_false]
    rfl
  refine ⟨s', ?_, hworld, hclosed⟩
  simp only [advance, hp, hf, hr, hnext, takePage, hopen', Bool.false_eq_true, if_false,
    List.nil_append]
  rfl

/-! ## Ends -/

/-- A join comes to an end if it does so once it has handed on what waits. -/
theorem halts_of_pending [Std.Refl rely] [IsTrans σ rely]
    (hnil : ∀ s', Session.Moves rely s s' →
      Stage.Halts net now rely (.remote { j with pending := [] }) s') :
    Stage.Halts net now rely (.remote j) s := by
  obtain ⟨goal, bucket, round?, pending, inputDone, finished⟩ := j
  induction pending generalizing s with
  | nil => exact hnil s (.refl s)
  | cons r rest ih =>
    refine .acts rfl fun s' hs' _ => ?_
    rw [step_none, advance_of_pending rfl]
    exact ih fun s'' hs'' => hnil s'' (hs'.trans hs'')

/-- A join between two rounds comes to an end. -/
theorem halts_of_idle [Std.Refl rely] [IsTrans σ rely] (hr : j.round? = none) :
    Stage.Halts net now rely (.remote j) s := by
  have hfinished : ∀ (j : BoundJoin) (s : Session σ), j.pending = [] → j.finished = true →
      Stage.Halts net now rely (.remote j) s := by
    intro j s hp hf
    refine .acts (by simp [Stage.wants, wants, hf]) fun s' _ hne => ?_
    rw [step_none, advance_of_finished hp hf] at hne
    exact absurd rfl hne
  refine halts_of_pending fun s' _ => ?_
  by_cases hf : j.finished = true
  · exact hfinished _ _ rfl hf
  by_cases hd : j.inputDone = true
  · refine .acts (by simp [Stage.wants, wants, hd]) fun s'' _ _ => ?_
    rw [step_none, advance_of_idle (j := { j with pending := [] }) rfl (by simpa using hf) hr]
    exact hfinished _ _ rfl rfl
  · exact .wants (by simp [Stage.wants, wants, hf, hd, hr])

/-- A join comes to an end after the last page of a round. -/
theorem halts_of_last [Std.Refl rely] [IsTrans σ rely] {round : Round}
    (hf : j.finished = false) (hr : j.round? = some round) (hlast : round.pages.finished = true)
    (hopen : s.isClosed j.goal.address = false) : Stage.Halts net now rely (.remote j) s := by
  refine halts_of_pending fun s' hs' =>
    .acts (by simp [Stage.wants, wants, hr]) fun s'' hs'' _ => ?_
  have hopen'' : s''.isClosed j.goal.address = false := by
    rw [(hs'.trans hs'').isClosed, hopen]
  rw [step_none, advance_of_last (j := { j with pending := [] }) rfl hf hr hlast hopen'']
  exact halts_of_idle rfl

/-- A join comes to an end while the endpoint answers. -/
theorem halts_of_answers [Std.Refl rely] [IsTrans σ rely] {Q : List Page → σ → Prop}
    {round : Round} (hf : j.finished = false) (hr : j.round? = some round)
    (hmore : round.pages.finished = false) (haddress : round.pages.address = j.goal.address)
    (hopen : s.isClosed j.goal.address = false)
    (hanswers : net.Answers rely j.goal.address Q round.pages.request s.world) :
    Stage.Halts net now rely (.remote j) s := by
  -- The induction is on how the endpoint answers, so all that this is about has to be a variable.
  generalize hrequest : round.pages.request = request at hanswers
  generalize hw : s.world = w at hanswers
  generalize ha : j.goal.address = address at hanswers
  induction hanswers generalizing j s round with
  | pages brings last more ih =>
    subst hw hrequest ha
    refine halts_of_pending fun s' hs' =>
      .acts (by simp [Stage.wants, wants, hr]) fun s'' hs'' _ => ?_
    have hmoves := hs'.trans hs''
    obtain ⟨page, hpage⟩ := brings s''.world hmoves.world
    have hopen'' : s''.isClosed j.goal.address = false := by rw [hmoves.isClosed, hopen]
    obtain ⟨s₃, hadvance, hworld, hclosed⟩ :=
      advance_of_brings (j := { j with pending := [] }) rfl hf hr hmore haddress hopen'' hpage
    have hopen₃ : s₃.isClosed j.goal.address = false := by
      simpa [Session.isClosed, hclosed] using hopen''
    rw [step_none, hadvance]
    -- Either one more page is asked for, or this was the last one of the round.
    by_cases hnext : page.hasNext = true
    · refine ih s''.world page hmoves.world hpage hnext hf rfl ?_ ?_ hopen₃ ?_ hworld rfl
      · rw [PageSequence.finished_advance hmore, hnext]
        rfl
      · rw [PageSequence.address_advance, haddress]
      · exact PageSequence.request_advance hnext
    · refine halts_of_last hf rfl ?_ hopen₃
      rw [PageSequence.finished_advance hmore]
      simpa using hnext

/-! ## The contract -/

/-- The endpoint answers for a bucket in the end. -/
def Asks (net : Network σ) (rely : σ → σ → Prop) (ready : σ → Prop) (goal : BoundPattern)
    (served : List Row → List Page → Prop) (bucket : List Row) : Prop :=
  ∀ w, ready w → net.Answers rely goal.address (fun pages w' => ready w' ∧ served bucket pages)
    (Round.start goal bucket).pages.request w

/-- Others do not break the invariant. -/
theorem Inv.stable [IsTrans σ rely] (hsteady : ∀ w w', ready w → rely w w' → ready w')
    {s' : Session σ} (hinv : Inv net rely ready goal served j h s)
    (hmoves : Session.Moves rely s s') : Inv net rely ready goal served j h s' where
  told := hinv.told
  inputDone := hinv.inputDone
  isOpen := by rw [hmoves.isClosed, hinv.isOpen]
  phase := by
    cases hinv.phase with
    | filling rounds past idle working coming small steady cut =>
      exact .filling rounds past idle working coming small (hsteady _ _ steady hmoves.world) cut
    | reading rounds given past bucket pages sequence round rows empty working address answer cut =>
      refine .reading rounds given past bucket pages sequence round rows empty working address ?_
        cut
      split at answer
      · next hlast =>
        rw [if_pos hlast]
        exact ⟨hsteady _ _ answer.1 hmoves.world, answer.2⟩
      · next hlast =>
        rw [if_neg hlast]
        exact answer.move hmoves.world
    | finished rounds past idle closed cut => exact .finished rounds past idle closed cut

/-- A join that waits for a row is filling its bucket and has handed on everything else. -/
theorem Inv.of_wants (hinv : Inv net rely ready goal served j h s) (hwants : j.wants = true) :
    h.ended = false ∧ j.pending = [] ∧ j.round? = none ∧ j.finished = false ∧ ready s.world ∧
      j.bucket.length < goal.bufferSize ∧ ∃ rounds, Rounds goal served rounds h.given ∧
        ∀ rest, buckets goal.bufferSize (h.taken ++ rest) =
          rounds.map Prod.fst ++ buckets goal.bufferSize (j.bucket ++ rest) := by
  obtain ⟨hp, hf, hr, hended⟩ := wants_iff.1 hwants
  rw [hinv.inputDone] at hended
  cases hinv.phase with
  | filling rounds past idle working coming small steady cut =>
    rw [hp, List.append_nil] at past
    exact ⟨hended, hp, hr, hf, steady, small, rounds, past, cut⟩
  | reading rounds given past bucket pages sequence round rows empty working address answer cut =>
    rw [hr] at round
    exact absurd round (by simp)
  | finished rounds past idle closed cut => exact absurd closed (by simp [hended])

/-- A round has begun. -/
theorem Phase.of_start {rounds : List PastRound} {bucket : List Row} {w : σ}
    (hover : Rounds goal served rounds (h.given ++ j.pending))
    (hround : j.round? = some (.start goal bucket)) (hbucket : j.bucket = [])
    (hf : j.finished = false) (hready : ready w)
    (hasks : Asks net rely ready goal served bucket)
    (hcut : Cut goal.bufferSize h (rounds.map Prod.fst) bucket) :
    Phase net rely ready goal served j h w := by
  have hpages : (Round.start goal bucket).pages.address = goal.address ∧
      (Round.start goal bucket).pages.finished = false := by
    unfold Round.start
    split <;> exact ⟨rfl, rfl⟩
  refine .reading rounds _ hover bucket [] (Round.start goal bucket).pages hround ?_ hbucket hf
    hpages.1 ?_ hcut
  · simp [Round.absorbAll]
  · rw [if_neg (by simp [hpages.2])]
    exact hasks w hready

/-- A row goes into the bucket, and a full bucket begins a round. -/
theorem Inv.take (hK : 0 < goal.bufferSize) {inputs : List Row → Prop}
    (hasks : ∀ U, inputs U → ∀ bucket ∈ buckets goal.bufferSize U,
      Asks net rely ready goal served bucket)
    (hinv : Inv net rely ready goal served j h s) (hwants : j.wants = true) {r : Row}
    (hin : ∃ rest, inputs (h.taken ++ r :: rest)) :
    (j.accept (.row r)).2 = none ∧
      Inv net rely ready goal served (j.accept (.row r)).1 (h.take r) s := by
  obtain ⟨hended, hp, hr, hf, hready, hsmall, rounds, hover, hcut⟩ := hinv.of_wants hwants
  -- What came in is still the buckets of the past rounds and then the one that is being filled.
  have hcut' : ∀ rest, buckets goal.bufferSize ((h.take r).taken ++ rest) =
      rounds.map Prod.fst ++ buckets goal.bufferSize ((j.bucket ++ [r]) ++ rest) := fun rest => by
    simpa [Traffic.take] using hcut (r :: rest)
  by_cases hfull : (j.bucket ++ [r]).length < goal.bufferSize
  · rw [accept_row_of_lt (by rwa [hinv.told])]
    refine ⟨rfl, hinv.told, hinv.inputDone, hinv.isOpen, ?_⟩
    exact .filling rounds (by simpa [hp, Traffic.take] using hover) hr hf hended hfull hready hcut'
  · have hlength : (j.bucket ++ [r]).length = goal.bufferSize := length_of_full hsmall hfull
    -- The bucket is full now, so it is a bucket of what came in.
    have hcut'' : ∀ rest, buckets goal.bufferSize ((h.take r).taken ++ rest) =
        rounds.map Prod.fst ++ (j.bucket ++ [r]) :: buckets goal.bufferSize rest := fun rest => by
      rw [hcut', buckets_append hK hlength]
    rw [accept_row_of_full (by rwa [hinv.told]), hinv.told]
    refine ⟨rfl, rfl, hinv.inputDone, hinv.isOpen, ?_⟩
    refine .of_start (by simpa [hp, Traffic.take] using hover) rfl rfl hf hready ?_
      fun rest _ => hcut'' rest
    obtain ⟨rest, hin⟩ := hin
    refine hasks _ hin _ ?_
    have hbuckets : buckets goal.bufferSize (h.taken ++ r :: rest) =
        rounds.map Prod.fst ++ (j.bucket ++ [r]) :: buckets goal.bufferSize rest := by
      simpa [Traffic.take] using hcut'' rest
    rw [hbuckets]
    simp

/-- After the last row the rows of the bucket begin the last round. -/
theorem Inv.close {inputs : List Row → Prop}
    (hasks : ∀ U, inputs U → ∀ bucket ∈ buckets goal.bufferSize U,
      Asks net rely ready goal served bucket)
    (hinv : Inv net rely ready goal served j h s) (hwants : j.wants = true)
    (hin : inputs h.taken) :
    (j.accept .done).2 = none ∧
      Inv net rely ready goal served (j.accept .done).1 h.close s := by
  obtain ⟨hended, hp, hr, hf, hready, hsmall, rounds, hover, hcut⟩ := hinv.of_wants hwants
  have hcut' : buckets goal.bufferSize h.taken =
      rounds.map Prod.fst ++ buckets goal.bufferSize j.bucket := by
    simpa using hcut []
  have hover' : Rounds goal served rounds (h.close.given ++ j.pending) := by
    simpa [hp, Traffic.close] using hover
  by_cases hnil : j.bucket = []
  · rw [accept_done_of_nil hnil]
    refine ⟨rfl, hinv.told, rfl, hinv.isOpen, .finished rounds hover' hr rfl ?_⟩
    rw [hnil, buckets, List.append_nil] at hcut'
    exact hcut'.symm
  · have hlast : buckets goal.bufferSize h.taken = rounds.map Prod.fst ++ [j.bucket] := by
      rw [hcut', buckets_of_length_le hnil hsmall.le]
    rw [accept_done_of_ne_nil hnil, hinv.told]
    refine ⟨rfl, rfl, rfl, hinv.isOpen, .of_start hover' rfl rfl hf hready ?_ ?_⟩
    · exact hasks _ hin _ (by rw [hlast]; simp)
    · intro rest hrest
      obtain rfl := hrest rfl
      simpa [Traffic.close, buckets] using hlast

/-- The invariant of a bound join as a stage. -/
def StageInv (net : Network σ) (rely : σ → σ → Prop) (ready : σ → Prop) (goal : BoundPattern)
    (served : List Row → List Page → Prop) (st : Stage) (h : Traffic) (s : Session σ) : Prop :=
  ∃ j, st = .remote j ∧ Inv net rely ready goal served j h s

/-- A row that waits counts as handed on all the time. -/
theorem Phase.give {r : Row} {rest : List Row} {w : σ} (hp : j.pending = r :: rest)
    (hphase : Phase net rely ready goal served j h w) :
    Phase net rely ready goal served { j with pending := rest } (h.give r) w := by
  have hgiven : (h.give r).given ++ rest = h.given ++ j.pending := by
    simp [Traffic.give, hp]
  cases hphase with
  | filling rounds past idle working coming small steady cut =>
    exact .filling rounds (hgiven ▸ past) idle working coming small steady cut
  | reading rounds given past bucket pages sequence round rows empty working address answer cut =>
    exact .reading rounds given past bucket pages sequence round (hgiven.trans rows) empty working
      address answer cut
  | finished rounds past idle closed cut => exact .finished rounds (hgiven ▸ past) idle closed cut

/-- What the pages so far have handed on, and the page that the endpoint brings. -/
theorem absorb_start (goal : BoundPattern) (bucket : List Row) (pages : List Page)
    (sequence : PageSequence) (page : Page) :
    ((Round.start goal bucket).absorbAll pages).1 ++
        (Round.absorb { ((Round.start goal bucket).absorbAll pages).2 with pages := sequence }
          page).1 = ((Round.start goal bucket).absorbAll (pages ++ [page])).1 ∧
      { (Round.absorb { ((Round.start goal bucket).absorbAll pages).2 with pages := sequence }
          page).2 with pages := sequence.advance (.ok page) } =
        { ((Round.start goal bucket).absorbAll (pages ++ [page])).2 with
          pages := sequence.advance (.ok page) } := by
  rw [Round.absorbAll_append]
  simp only [Round.absorbAll, Round.absorb_eq, List.append_nil]
  exact ⟨rfl, rfl⟩

/-- After the last page of a round the next bucket is filled, or all rounds are over. -/
theorem Phase.of_last (hK : 0 < goal.bufferSize) {rounds : List PastRound} {given : List Row}
    (past : Rounds goal served rounds given) {bucket : List Row} {pages : List Page} {w : σ}
    (answer : ready w ∧ served bucket pages) (htold : j.goal = goal)
    (rows : h.given = given ++ ((Round.start goal bucket).absorbAll pages).1)
    (empty : j.bucket = []) (working : j.finished = false)
    (cut : Cut goal.bufferSize h (rounds.map Prod.fst) bucket) :
    Phase net rely ready goal served
      { j with
        round? := none
        pending := if j.goal.optional then
          ((Round.start goal bucket).absorbAll pages).2.table.unobserved else [] } h w := by
  -- With the rows that wait, the round has come to all that it yields.
  have hyield : h.given ++ (if j.goal.optional then
      ((Round.start goal bucket).absorbAll pages).2.table.unobserved else []) =
      given ++ Round.yield goal bucket pages := by
    rw [rows, htold, Round.yield, List.append_assoc]
  have hover : Rounds goal served (rounds ++ [(bucket, pages)]) _ :=
    hyield ▸ past.snoc answer.2
  by_cases hended : h.ended = true
  · refine .finished _ hover rfl hended ?_
    have := cut [] fun _ => rfl
    rw [List.append_nil] at this
    rw [this]
    simp [buckets]
  · have hended' : h.ended = false := by simpa using hended
    refine .filling _ hover rfl working hended' ?_ answer.1 fun rest => ?_
    · rw [empty]
      exact hK
    · rw [cut rest fun h' => absurd h' hended]
      simp [empty]

/-- What a step of a bound join on its own comes to. -/
theorem Inv.act [Std.Refl rely] [Std.Refl guar] (hK : 0 < goal.bufferSize)
    {inputs : List Row → Prop}
    (hguar : ∀ address request w, guar w (net.send address request w).2)
    (hinv : Inv net rely ready goal served j h s) (hwants : j.wants = false) :
    Session.Moves guar s (j.advance net s).2 ∧
      Stage.Fulfils inputs False (Spec goal served) (StageInv net rely ready goal served) h
        (j.advance net s).2 (.remote (j.advance net s).1.1, (j.advance net s).1.2) := by
  cases hp : j.pending with
  | cons r rest =>
    rw [advance_of_pending hp]
    exact ⟨.refl s, _, rfl, hinv.told, hinv.inputDone, hinv.isOpen, hinv.phase.give hp⟩
  | nil =>
    have hopen : s.isClosed j.goal.address = false := by rw [hinv.told, hinv.isOpen]
    cases hinv.phase with
    | filling rounds past idle working coming small steady cut =>
      simp [wants, hp, working, idle, hinv.inputDone, coming] at hwants
    | finished rounds past idle closed cut =>
      by_cases hf : j.finished = true
      · rw [advance_of_finished hp hf]
        refine ⟨.refl s, .inl closed, fun rest hrest _ => ?_⟩
        obtain rfl := hrest closed
        rw [hp, List.append_nil] at past
        exact ⟨rounds, by rw [cut, List.append_nil], past⟩
      · rw [advance_of_idle hp (by simpa using hf) idle]
        exact ⟨.refl s, _, rfl, hinv.told, hinv.inputDone, hinv.isOpen,
          .finished rounds past idle closed cut⟩
    | reading rounds given past bucket pages sequence round rows empty working address answer cut =>
      rw [hp, List.append_nil] at rows
      by_cases hlast : sequence.finished = true
      · -- The round is over.
        rw [if_pos hlast] at answer
        rw [advance_of_last hp working round hlast hopen]
        exact ⟨.refl s, _, rfl, hinv.told, hinv.inputDone, hinv.isOpen,
          .of_last hK past answer hinv.told rows empty working cut⟩
      · -- The endpoint brings a page.
        have hmore : sequence.finished = false := by simpa using hlast
        rw [if_neg hlast] at answer
        cases answer with
        | pages brings last more =>
          obtain ⟨page, hpage⟩ := brings s.world (Std.Refl.refl _)
          obtain ⟨s', hadvance, hworld, hclosed⟩ := advance_of_brings hp working round hmore
            (address.trans (by rw [hinv.told])) hopen (by rw [hinv.told]; exact hpage)
          rw [hadvance]
          obtain ⟨hrows, hround⟩ := absorb_start goal bucket pages sequence page
          refine ⟨⟨?_, hclosed⟩, _, rfl, hinv.told, hinv.inputDone, ?_, ?_⟩
          · rw [hworld]
            exact hguar _ _ _
          · simpa [Session.isClosed, hclosed] using hinv.isOpen
          · refine .reading rounds given past bucket (pages ++ [page])
              (sequence.advance (.ok page)) (congrArg some hround) ?_ empty working ?_ ?_ cut
            · rw [← hrows, ← List.append_assoc, ← rows]
            · rw [PageSequence.address_advance, address]
            · rw [PageSequence.finished_advance hmore]
              by_cases hnext : page.hasNext = true
              · rw [hnext, PageSequence.request_advance hnext, hworld, hinv.told]
                simpa using more s.world page (Std.Refl.refl _) hpage hnext
              · rw [hworld, hinv.told]
                simpa [hnext] using last s.world page (Std.Refl.refl _) hpage (by simpa using hnext)

/-- A join that keeps its invariant comes to an end. -/
theorem Inv.halts [Std.Refl rely] [IsTrans σ rely] (hinv : Inv net rely ready goal served j h s) :
    Stage.Halts net now rely (.remote j) s := by
  have hopen : s.isClosed j.goal.address = false := by rw [hinv.told, hinv.isOpen]
  cases hinv.phase with
  | filling rounds past idle working coming small steady cut => exact halts_of_idle idle
  | finished rounds past idle closed cut => exact halts_of_idle idle
  | reading rounds given past bucket pages sequence round rows empty working address answer cut =>
    by_cases hlast : sequence.finished = true
    · exact halts_of_last working round hlast hopen
    · rw [if_neg hlast] at answer
      rw [← hinv.told] at answer address
      exact halts_of_answers working round (by simpa using hlast) address hopen answer

/-- **The contract of bound joins.** A bound join makes one round for each bucket of the rows that
come in, and hands on what the rounds yield, if the endpoint answers for all of the buckets. -/
theorem contract [Std.Refl rely] [IsTrans σ rely] [Std.Refl guar]
    (hguar : ∀ address request w, guar w (net.send address request w).2)
    (hsteady : ∀ w w', ready w → rely w w' → ready w') (hK : 0 < goal.bufferSize)
    {inputs : List Row → Prop}
    (hasks : ∀ U, inputs U → ∀ bucket ∈ buckets goal.bufferSize U,
      Asks net rely ready goal served bucket) :
    Stage.Contract net now rely guar inputs False (Spec goal served)
      (StageInv net rely ready goal served) where
  stable := by
    rintro _ h s s' ⟨j, rfl, hinv⟩ hmoves
    exact ⟨j, rfl, hinv.stable hsteady hmoves⟩
  rests := by
    rintro _ h s ⟨j, rfl, hinv⟩ hended
    simp [Stage.wants, wants, hinv.inputDone, hended]
  acts := by
    rintro _ h s ⟨j, rfl, hinv⟩ hwants
    exact hinv.act hK hguar hwants
  takes := by
    rintro _ h s r ⟨j, rfl, hinv⟩ hwants hin
    obtain ⟨hnone, hinv'⟩ := hinv.take hK hasks hwants hin
    rw [step_some, hnone]
    exact ⟨.refl s, _, rfl, hinv'⟩
  ends := by
    rintro _ h s ⟨j, rfl, hinv⟩ hwants hin
    obtain ⟨hnone, hinv'⟩ := hinv.close hasks hwants hin
    rw [step_some, hnone]
    exact ⟨.refl s, _, rfl, hinv'⟩
  halts := by
    rintro _ h s ⟨j, rfl, hinv⟩
    exact hinv.halts

/-- A bound join that has not begun keeps its invariant. -/
theorem inv_ofPattern (goal : BoundPattern) (hopen : s.isClosed goal.address = false)
    (hready : ready s.world) :
    StageInv net rely ready { goal with bufferSize := max goal.bufferSize 1 } served
      (.remote (.ofPattern goal)) {} s := by
  refine ⟨_, rfl, rfl, rfl, hopen, .filling [] ⟨by simp, rfl⟩ rfl rfl rfl ?_ hready fun rest => ?_⟩
  · simp [ofPattern]
  · simp [ofPattern]

end BoundJoin

end PagedSparql
