import PagedSparql.Proofs.Pipeline.Carried
import PagedSparql.Proofs.Plan.Extension
import PagedSparql.Proofs.Plan.PatternAnswers

/-!
# Stages that nobody tells apart

A stage turns rows of one kind into rows of another (`Stage.Turns`) if an invariant of its steps says
so, whatever the endpoints answer. Two stages are alike for rows of a kind (`Stage.Alike`) if they
are put together in the same manner, and differ only in bound joins that have patterns which come to
the same for these rows.

A step keeps stages alike: with the same signal from above and the same session, both of them hand
on the same signal and leave the same session, which holds the log of all requests (`Alike.step`). So
no number of pulls tells them apart (`Alike.pulls`), whatever is done to the session in between; a
client may be closed there.

A round puts the rows of a bucket into a pattern. So all that it depends on is what becomes of the
pattern for these rows: two patterns that come to the same for each of them have the same round
(`Round.start_congr`), and bound joins for them take the same steps as long as their rows are such
(`BoundJoin.advance_retold`, `BoundJoin.accept_retold`). A pattern agrees in this sense with what an
inline row leaves of it, for the rows that extend the inline row (`RoundTable.build_substitute`).
-/

namespace PagedSparql

variable {σ : Type} {P : Row → Prop} {A B : Bgp} {bucket rows : List Row} {u v : Row}

namespace TriplePattern

/-- A row that extends another one may be put into a triple pattern alone. -/
theorem substitute_substitute (h : u.Extends v) (t : TriplePattern) :
    (t.substitute v).substitute u = t.substitute u := by
  obtain ⟨s, p, o⟩ := t
  cases p with
  | plain p => simp only [substitute, mapPlain, TermPattern.substitute_substitute h]
  | path kind items => simp only [substitute, mapPlain, TermPattern.substitute_substitute h]

end TriplePattern

namespace Bgp

/-- A row that extends another one may be put into a pattern alone. -/
theorem substitute_substitute (h : u.Extends v) (B : Bgp) :
    (B.substitute v).substitute u = B.substitute u := by
  rw [substitute, substitute, List.map_map]
  exact List.map_congr_left fun t _ => t.substitute_substitute h

/-- A row that extends several others may be put into a pattern alone. -/
theorem substitute_inline (h : ∀ v ∈ rows, u.Extends v) (B : Bgp) :
    (B.inline rows).substitute u = B.substitute u := by
  induction rows generalizing B with
  | nil => rw [inline_nil]
  | cons v rows ih =>
    obtain ⟨hv, hrows⟩ := List.forall_mem_cons.1 h
    rw [inline_cons, ih hrows, substitute_substitute hv]

/-- The patterns come to the same for each row with the property. -/
def Agree (P : Row → Prop) (A B : Bgp) : Prop := ∀ u, P u → A.substitute u = B.substitute u

end Bgp

/-! ## Rounds -/

namespace RoundTable

/-- Patterns that agree on a bucket are asked for in the same manner. -/
theorem patterns_congr (h : ∀ u ∈ bucket, A.substitute u = B.substitute u) :
    patterns A bucket = patterns B bucket := by
  refine List.mapIdx_eq_mapIdx_iff.2 fun key hkey => ?_
  have hrow := h bucket[key] (List.getElem_mem hkey)
  have hpattern : ∀ C : Bgp, patternFor C key bucket[key] =
      (C.substitute bucket[key]).map (·.rename (suffixed · key)) := fun C => by
    rw [patternFor, Bgp.substitute, List.map_map]
    rfl
  rw [hpattern A, hpattern B, hrow]

/-- Patterns that agree on a bucket have the same table. -/
theorem build_congr (h : ∀ u ∈ bucket, A.substitute u = B.substitute u) :
    build A bucket = build B bucket := by
  have hrenames : bucket.mapIdx (renamesOf A) = bucket.mapIdx (renamesOf B) := by
    refine List.mapIdx_eq_mapIdx_iff.2 fun key hkey => ?_
    have hrow := h bucket[key] (List.getElem_mem hkey)
    have hnames : ∀ C : Bgp, renamesOf C key bucket[key] =
        (C.substitute bucket[key]).vars.map fun v => (suffixed v key, key, v) := fun C => by
      rw [renamesOf, Bgp.vars, Bgp.substitute, List.flatMap_map]
    rw [hnames A, hnames B, hrow]
  rw [build, build, hrenames]

/-- **An inline row may be put into a pattern** before a round for rows that extend it: the round
asks for the same patterns and has the same table. -/
theorem build_substitute (h : ∀ u ∈ bucket, u.Extends v) (B : Bgp) :
    patterns (B.substitute v) bucket = patterns B bucket ∧
      build (B.substitute v) bucket = build B bucket :=
  have hagree : ∀ u ∈ bucket, (B.substitute v).substitute u = B.substitute u :=
    fun u hu => Bgp.substitute_substitute (h u hu) B
  ⟨patterns_congr hagree, build_congr hagree⟩

end RoundTable

/-- Patterns that agree on a bucket have the same round for it. -/
theorem Round.start_congr (goal : BoundPattern)
    (h : ∀ u ∈ bucket, A.substitute u = B.substitute u) :
    start { goal with triples := A } bucket = start { goal with triples := B } bucket := by
  by_cases hempty : bucket = [.empty]
  · -- The patterns are asked for as they are, so they have to be the same.
    have hAB : A = B := by simpa using h .empty (by simp [hempty])
    rw [hAB]
  · simp only [start, if_neg hempty, RoundTable.patterns_congr h, RoundTable.build_congr h]

/-! ## Bound joins -/

namespace BoundJoin

variable {j : BoundJoin}

/-- The join for another pattern. -/
def retold (j : BoundJoin) (triples : Bgp) : BoundJoin :=
  { j with goal := { j.goal with triples } }

/-- The rounds of the join for a pattern that agrees are those of the join. -/
theorem startRound_retold (hA : A.Agree P j.goal.triples) (hj : j.Carries P) :
    (j.retold A).startRound = j.startRound.retold A := by
  have hround : Round.start (j.retold A).goal j.bucket = Round.start j.goal j.bucket :=
    Round.start_congr j.goal fun u hu => hA u (hj.bucket u hu)
  unfold startRound
  by_cases hempty : j.bucket.isEmpty
  · simp only [retold, hempty, if_true]
  · simp only [retold, hempty, Bool.false_eq_true, if_false] at hround ⊢
    rw [hround]

/-- The join for a pattern that agrees takes a signal in as the join does. -/
theorem accept_retold (hA : A.Agree P j.goal.triples) (hj : j.Carries P) {x : Signal}
    (hx : ∀ r, x = .row r → P r) :
    (j.retold A).accept x = ((j.accept x).1.retold A, (j.accept x).2) := by
  cases x with
  | row r =>
    let filled : BoundJoin := { j with bucket := j.bucket ++ [r] }
    have hfilled : filled.Carries P :=
      ⟨List.forall_mem_append.2 ⟨hj.bucket, by simpa using hx r rfl⟩, hj.round, hj.pending⟩
    have haccept : (j.retold A).accept (.row r) =
        (if filled.bucket.length < filled.goal.bufferSize then filled.retold A
          else (filled.retold A).startRound, none) := rfl
    rw [haccept, startRound_retold (j := filled) hA hfilled]
    simp only [accept]
    split <;> rfl
  | done =>
    let ended : BoundJoin := { j with inputDone := true }
    have hended : ended.Carries P := ⟨hj.bucket, hj.round, hj.pending⟩
    have haccept : (j.retold A).accept .done = ((ended.retold A).startRound, none) := rfl
    rw [haccept, startRound_retold (j := ended) hA hended]
    rfl
  | fail e => rfl

/-- The join for another pattern takes in what its pages bring as the join does. -/
theorem takePage_retold (A : Bgp) (j : BoundJoin) (round : Round) (closed : Bool)
    (page? : Except TransportError (Option Page)) :
    (j.retold A).takePage round closed page? =
      ((j.takePage round closed page?).1.retold A, (j.takePage round closed page?).2) := by
  rcases page? with e | _ | page <;> cases closed <;> rfl

/-- The join for another pattern goes on without a row as the join does. -/
theorem advance_retold (net : Network σ) (A : Bgp) (j : BoundJoin) (s : Session σ) :
    (j.retold A).advance net s =
      (((j.advance net s).1.1.retold A, (j.advance net s).1.2), (j.advance net s).2) := by
  obtain ⟨goal, bucket, round?, pending, inputDone, finished⟩ := j
  match pending, finished, round? with
  | r :: rest, _, _ => rfl
  | [], true, _ => rfl
  | [], false, none => rfl
  | [], false, some round =>
    simp only [advance, Bool.false_eq_true, if_false]
    exact congrArg (·, (round.pages.next net s).2.2) (takePage_retold A _ _ _ _)

/-- A join keeps its pattern when it goes on. -/
theorem goal_advance (net : Network σ) (j : BoundJoin) (s : Session σ) :
    (j.advance net s).1.1.goal = j.goal := by
  have htake : ∀ round closed page?, (j.takePage round closed page?).1.goal = j.goal := by
    rintro round closed (e | _ | page) <;> cases closed <;> rfl
  unfold advance
  split
  · rfl
  · split
    · rfl
    · split
      · exact htake _ _ _
      · rfl

end BoundJoin

variable {P' Q Q' M : Row → Prop}

namespace Stage

variable {st st' upper upper' lower lower' : Stage}

/-! ## What a stage makes of rows -/

/-- If all rows that come in have one property, then all rows that are handed on have another. -/
def Turns (P Q : Row → Prop) (st : Stage) : Prop :=
  ∃ G : Stage → Prop, G st ∧ ∀ {st : Stage}, G st → ∀ {σ : Type} (net : Network σ) (now : DateTime)
    {x? : Option Signal}, (∀ r, x? = some (.row r) → P r) →
      ∀ s, Leaves G Q (st.step net now x? s).1

/-- The stage after a step goes on in the same manner. -/
theorem Turns.step (h : st.Turns P Q) (net : Network σ) (now : DateTime) {x? : Option Signal}
    (hx : ∀ r, x? = some (.row r) → P r) (s : Session σ) :
    Leaves (Turns P Q) Q (st.step net now x? s).1 := by
  obtain ⟨G, hst, hG⟩ := h
  obtain ⟨hnext, hrow⟩ := hG hst net now hx s
  exact ⟨⟨G, hnext, hG⟩, hrow⟩

/-- Less may be said about what is handed on. -/
theorem Turns.mono (h : st.Turns P Q) (hQ : ∀ r, Q r → Q' r) : st.Turns P Q' := by
  refine ⟨Turns P Q, h, fun hst _ net now _ hx s => ?_⟩
  obtain ⟨hnext, hrow⟩ := hst.step net now hx s
  exact ⟨hnext, fun r hr => hQ r (hrow r hr)⟩

/-- Several properties at once. -/
theorem Turns.all {ι : Type} {I : ι → Prop} {P Q : ι → Row → Prop}
    (h : ∀ i, I i → st.Turns (P i) (Q i)) :
    st.Turns (fun r => ∀ i, I i → P i r) (fun r => ∀ i, I i → Q i r) := by
  refine ⟨fun st => ∀ i, I i → st.Turns (P i) (Q i), h, fun hst _ net now _ hx s => ?_⟩
  have hstep := fun i hi => (hst i hi).step net now (fun r hr => hx r hr i hi) s
  exact ⟨fun i hi => (hstep i hi).1, fun r hr i hi => (hstep i hi).2 r hr⟩

/-- Nothing is said about what is handed on. -/
theorem turns_any (st : Stage) : st.Turns P fun _ => True :=
  ⟨fun _ => True, trivial, fun _ _ _ _ _ _ _ => ⟨trivial, fun _ _ => trivial⟩⟩

/-- A stage that grows rows keeps what rows keep when they are extended. -/
theorem Grows.turns (h : st.Grows P) (hP : Row.Upward P) : st.Turns P P :=
  ⟨Grows P, h, fun hst _ _ _ _ hx s => hst.step hP hx s⟩

/-- Rows that are joined with an inline row get what is true of the joined rows. -/
theorem turns_values {u : Row} (h : ∀ r w, P r → Row.merge r u = some w → Q w) :
    (Stage.values u).Turns P Q := by
  refine ⟨(· = .values u), rfl, ?_⟩
  rintro _ rfl σ net now x? hx s
  refine leaves_each (G := (· = .values u)) rfl rfl (fun r s hr => ?_) (fun _ => rfl)
    (fun _ => rfl) rfl hx s
  simp only [stepRow]
  cases hmerge : Row.merge r u with
  | none => exact leaves_none rfl (by simp)
  | some w => exact leaves_row rfl (h r w hr hmerge)

/-- A binding keeps what is not about its variable. -/
theorem turns_bind {v : Variable} (hv : Row.Ignores P v) (e : Expression) :
    (Stage.bind v e).Turns P P := by
  refine ⟨(· = .bind v e), rfl, ?_⟩
  rintro _ rfl σ net now x? hx s
  refine leaves_each (G := (· = .bind v e)) rfl rfl (fun r s hr => ?_) (fun _ => rfl)
    (fun _ => rfl) rfl hx s
  simp only [stepRow]
  split
  · exact leaves_row rfl (hv.insert _ hr)
  · exact leaves_none rfl (by simp)

/-! ## Alike stages -/

/-- As long as the rows that come in have one property, nobody tells the stages apart, and the rows
that they hand on have another property. -/
inductive Alike : (Row → Prop) → (Row → Prop) → Stage → Stage → Prop
  /-- The stages are the same one. -/
  | same {P Q : Row → Prop} {st : Stage} (h : st.Turns P Q) : Alike P Q st st
  /-- The stages are bound joins for patterns that agree. -/
  | remote {P Q : Row → Prop} {j : BoundJoin} {A : Bgp} (hP : Row.Upward P) (hPQ : ∀ r, P r → Q r)
    (hj : j.Carries P) (hA : A.Agree P j.goal.triples) :
    Alike P Q (.remote (j.retold A)) (.remote j)
  /-- The branches of the stages are alike. -/
  | fork {P Q : Row → Prop} {tee : Tee} {position : Nat} {pairs : List (Stage × Stage)}
    (htee : ∀ r ∈ tee.buffer, P r) (hpairs : ∀ p ∈ pairs, Alike P Q p.1 p.2) :
    Alike P Q (.fork tee position (pairs.map Prod.fst)) (.fork tee position (pairs.map Prod.snd))
  /-- The stages are put together of alike ones, one below the other. -/
  | chain {P M Q : Row → Prop} {upper upper' lower lower' : Stage}
    (hupper : Alike P M upper upper') (hlower : Alike M Q lower lower') :
    Alike P Q (.chain upper lower) (.chain upper' lower')

namespace Alike

/-- Less may be said about what is handed on. -/
theorem mono (h : Alike P Q st st') (hQ : ∀ r, Q r → Q' r) : Alike P Q' st st' := by
  induction h with
  | same h => exact .same (h.mono hQ)
  | remote hP hPQ hj hA => exact .remote hP (fun r hr => hQ r (hPQ r hr)) hj hA
  | fork htee _ ih => exact .fork htee fun p hp => ih p hp hQ
  | chain hupper _ _ ih => exact .chain hupper (ih hQ)

/-- Alike stages want rows at the same time. -/
theorem wants_eq (h : Alike P Q st st') : st.wants = st'.wants := by
  induction h with
  | same _ => rfl
  | remote _ _ _ _ => rfl
  | @fork P Q tee position pairs _ _ ih =>
    rcases pairs with _ | ⟨p, rest⟩
    · rfl
    · have hp : p.1.wants = p.2.wants := ih p List.mem_cons_self
      simp only [List.map_cons, wants, hp]
  | chain _ _ hupper hlower => simp only [wants, hupper, hlower]

/-- The stage that changes nothing is alike to itself only. -/
theorem eq_input_iff (h : Alike P Q st st') : st = .input ↔ st' = .input := by
  cases h with
  | same _ => rfl
  | remote _ _ _ _ => simp
  | fork _ _ => simp
  | chain _ _ => simp

/-- Alike stages hand on the same, leave the same session and are alike afterwards. -/
structure After (P Q : Row → Prop) (out out' : (Stage × Option Signal) × Session σ) : Prop where
  /-- What is handed on. -/
  signal : out.1.2 = out'.1.2
  /-- The session. -/
  session : out.2 = out'.2
  /-- The stages. -/
  alike : Alike P Q out.1.1 out'.1.1
  /-- A row that is handed on. -/
  row : ∀ r, out.1.2 = some (.row r) → Q r

variable {net : Network σ} {now : DateTime}

/-- Forks with alike branches make the same step. -/
theorem after_fork {tee : Tee} {position : Nat} {pairs : List (Stage × Stage)}
    (htee : ∀ r ∈ tee.buffer, P r) (hpairs : ∀ p ∈ pairs, Alike P Q p.1 p.2)
    (ih : ∀ p ∈ pairs, ∀ {x? : Option Signal}, (∀ r, x? = some (.row r) → P r) →
      ∀ s, After P Q (p.1.step net now x? s) (p.2.step net now x? s))
    {x? : Option Signal} (hx : ∀ r, x? = some (.row r) → P r) (s : Session σ) :
    After P Q ((Stage.fork tee position (pairs.map Prod.fst)).step net now x? s)
      ((Stage.fork tee position (pairs.map Prod.snd)).step net now x? s) := by
  rcases pairs with _ | ⟨⟨branch, branch'⟩, rest⟩
  · rw [List.map_nil, List.map_nil, Stage.step]
    have hnil : Alike P Q (.fork tee position []) (.fork tee position []) := .fork htee hpairs
    exact ⟨rfl, rfl, hnil, by simp⟩
  · obtain ⟨hbranch, hrest⟩ := List.forall_mem_cons.1 hpairs
    obtain ⟨hserved, hbuffer⟩ := carries_teeSignal htee position branch.wants hx
    rw [List.map_cons, List.map_cons, Fork.step_fork, Fork.step_fork, ← wants_eq hbranch]
    -- Both forks have the same tee, which serves both branches the same.
    generalize teeSignal tee position branch.wants x? = served at *
    obtain ⟨hsignal, hsession, halike, hrow⟩ := ih _ List.mem_cons_self hserved s
    rcases hstep : branch.step net now served.1 s with ⟨⟨next, y?⟩, s₁⟩
    rcases hstep' : branch'.step net now served.1 s with ⟨⟨next', y?'⟩, s₁'⟩
    simp only [hstep, hstep'] at hsignal hsession halike hrow
    subst hsignal hsession
    by_cases hdone : y? = some .done
    · subst hdone
      exact ⟨rfl, rfl, .fork hbuffer hrest, by simp [Fork.after]⟩
    · have hnext : ∀ p ∈ (next, next') :: rest, Alike P Q p.1 p.2 :=
        List.forall_mem_cons.2 ⟨halike, hrest⟩
      have hafter : ∀ {st : Stage} {rest : List Stage},
          Fork.after served.2 position rest (st, y?) =
            (.fork served.2 position (st :: rest), y?) := Fork.after_of_ne hdone
      simp only [hafter]
      exact ⟨rfl, rfl, .fork hbuffer hnext, hrow⟩

/-- Alike stages, one below the other, make the same step. -/
theorem after_chain (hupper : Alike P M upper upper') (hlower : Alike M Q lower lower')
    (ihupper : ∀ {x? : Option Signal}, (∀ r, x? = some (.row r) → P r) →
      ∀ s, After P M (upper.step net now x? s) (upper'.step net now x? s))
    (ihlower : ∀ {x? : Option Signal}, (∀ r, x? = some (.row r) → M r) →
      ∀ s, After M Q (lower.step net now x? s) (lower'.step net now x? s))
    {x? : Option Signal} (hx : ∀ r, x? = some (.row r) → P r) (s : Session σ) :
    After P Q ((Stage.chain upper lower).step net now x? s)
      ((Stage.chain upper' lower').step net now x? s) := by
  -- Alike stages want rows at the same times, so both chains go the same way.
  have hwants := wants_eq hlower
  cases hw : lower.wants with
  | false =>
    have hnone : ∀ r, none = some (Signal.row r) → M r := by simp
    obtain ⟨hsignal, hsession, halike, hrow⟩ := ihlower hnone s
    rw [step_chain_of_not_wants hw, step_chain_of_not_wants (hwants.symm.trans hw)]
    exact ⟨hsignal, hsession, .chain hupper halike, hrow⟩
  | true =>
    obtain ⟨hsignal, hsession, halike, hrow⟩ := ihupper hx s
    rcases hstep : upper.step net now x? s with ⟨⟨next, y?⟩, s₁⟩
    rcases hstep' : upper'.step net now x? s with ⟨⟨next', y?'⟩, s₁'⟩
    simp only [hstep, hstep'] at hsignal hsession halike hrow
    subst hsignal hsession
    cases y? with
    | none =>
      rw [step_chain_of_none hw hstep, step_chain_of_none (hwants.symm.trans hw) hstep']
      exact ⟨rfl, rfl, .chain halike hlower, by simp⟩
    | some y =>
      obtain ⟨hsignal', hsession', halike', hrow'⟩ := ihlower hrow s₁
      rw [step_chain_of_some hw hstep, step_chain_of_some (hwants.symm.trans hw) hstep']
      exact ⟨hsignal', hsession', .chain halike halike', hrow'⟩

/-- Bound joins for patterns that agree make the same step. -/
theorem after_remote {j : BoundJoin} {A : Bgp} (hP : Row.Upward P) (hPQ : ∀ r, P r → Q r)
    (hj : j.Carries P) (hA : A.Agree P j.goal.triples) {x? : Option Signal}
    (hx : ∀ r, x? = some (.row r) → P r) (s : Session σ) :
    After P Q ((Stage.remote (j.retold A)).step net now x? s)
      ((Stage.remote j).step net now x? s) := by
  cases x? with
  | none =>
    obtain ⟨hcarries, hrow⟩ := hj.advance hP net s
    rw [BoundJoin.step_none, BoundJoin.step_none, BoundJoin.advance_retold]
    refine ⟨rfl, rfl, .remote hP hPQ hcarries ?_, fun r hr => hPQ r (hrow r hr)⟩
    rwa [BoundJoin.goal_advance]
  | some x =>
    have hx' : ∀ r, x = .row r → P r := fun r hr => hx r (congrArg some hr)
    obtain ⟨hcarries, hne⟩ := hj.accept hx'
    rw [BoundJoin.step_some, BoundJoin.step_some, BoundJoin.accept_retold hA hj hx']
    refine ⟨rfl, rfl, .remote hP hPQ hcarries ?_, fun r hr => absurd hr (hne r)⟩
    rwa [(j.accept_spec x).1]

/-- **A step does not tell alike stages apart.** -/
theorem step (h : Alike P Q st st') (net : Network σ) (now : DateTime) {x? : Option Signal}
    (hx : ∀ r, x? = some (.row r) → P r) (s : Session σ) :
    After P Q (st.step net now x? s) (st'.step net now x? s) := by
  induction h generalizing x? s with
  | same h =>
    obtain ⟨hnext, hrow⟩ := h.step net now hx s
    exact ⟨rfl, rfl, .same hnext, hrow⟩
  | remote hP hPQ hj hA => exact after_remote hP hPQ hj hA hx s
  | fork htee hpairs ih => exact after_fork htee hpairs (fun p hp _ => ih p hp) hx s
  | chain hupper hlower ihupper ihlower =>
    exact after_chain hupper hlower ihupper ihlower hx s

/-! ## Putting alike stages together -/

/-- Alike stages, one above the other. -/
theorem andThen (hupper : Alike P M upper upper') (hlower : Alike M Q lower lower')
    (hPM : upper = .input → Alike P Q lower lower') (hMQ : ∀ r, M r → Q r) :
    Alike P Q (upper.andThen lower) (upper'.andThen lower') := by
  by_cases hl : lower = .input
  · rw [hl, (eq_input_iff hlower).1 hl, andThen_input, andThen_input]
    exact hupper.mono hMQ
  · by_cases hu : upper = .input
    · rw [hu, (eq_input_iff hupper).1 hu, input_andThen, input_andThen]
      exact hPM hu
    · have hl' : lower' ≠ .input := fun h => hl ((eq_input_iff hlower).2 h)
      have hu' : upper' ≠ .input := fun h => hu ((eq_input_iff hupper).2 h)
      rw [andThen_of_ne hu hl, andThen_of_ne hu' hl']
      exact .chain hupper hlower

/-- Alike stages, one beside the other. -/
theorem forkOf {branches branches' : List Stage}
    (h : List.Forall₂ (Alike P Q) branches branches') :
    Alike P Q (Stage.forkOf branches) (Stage.forkOf branches') := by
  have hpairs : ∀ p ∈ branches.zip branches', Alike P Q p.1 p.2 := by
    rintro ⟨b, b'⟩ hp
    exact List.forall₂_zip h hp
  have hfst : (branches.zip branches').map Prod.fst = branches := List.map_fst_zip h.length_eq.le
  have hsnd : (branches.zip branches').map Prod.snd = branches' := List.map_snd_zip h.length_eq.ge
  have hempty : ∀ r ∈ (Tee.ofReaders branches.length).buffer, P r := by simp [Tee.ofReaders]
  have hfork : Alike P Q (.fork (.ofReaders branches.length) 0 _)
      (.fork (.ofReaders branches.length) 0 _) := .fork hempty hpairs
  rw [hfst, hsnd] at hfork
  rwa [Stage.forkOf, Stage.forkOf, ← h.length_eq]

end Alike

/-! ## Pulls -/

/-- What pulls of a stage at the top of a pipeline bring, and the sessions after each of them. Each
pull has a number of steps, and something may be done to the session before it. -/
def pulls (net : Network σ) (now : DateTime) :
    List (Nat × (Session σ → Session σ)) → Stage → Session σ → List (Option Signal × Session σ)
  | [], _, _ => []
  | (steps, change) :: rest, stage, s =>
    let (y?, stage, s) := stage.pull net now steps (change s)
    (y?, s) :: pulls net now rest stage s

/-- A pull does not tell alike stages apart. -/
theorem Alike.pull (h : Alike P Q st st') (net : Network σ) (now : DateTime) (steps : Nat)
    (s : Session σ) :
    ∃ next next' y? s', st.pull net now steps s = (y?, next, s') ∧
      st'.pull net now steps s = (y?, next', s') ∧ Alike P Q next next' := by
  induction steps generalizing st st' s with
  | zero => exact ⟨st, st', none, s, rfl, rfl, h⟩
  | succ steps ih =>
    have hx : ∀ r, (if st.wants then some Signal.done else none) = some (.row r) → P r := by
      intro r hr
      split at hr <;> exact nomatch hr
    obtain ⟨hsignal, hsession, halike, -⟩ := h.step net now hx s
    rw [Stage.pull, Stage.pull, ← h.wants_eq]
    rcases hstep : st.step net now (if st.wants then some .done else none) s with ⟨⟨next, y?⟩, s₁⟩
    rcases hstep' : st'.step net now (if st.wants then some .done else none) s with
      ⟨⟨next', y?'⟩, s₁'⟩
    simp only [hstep, hstep'] at hsignal hsession halike
    subst hsignal hsession
    cases y? with
    | none => exact ih halike s₁
    | some y => exact ⟨next, next', some y, s₁, rfl, rfl, halike⟩

/-- **No number of pulls tells alike stages apart.** -/
theorem Alike.pulls (h : Alike P Q st st') (net : Network σ) (now : DateTime)
    (schedule : List (Nat × (Session σ → Session σ))) (s : Session σ) :
    st.pulls net now schedule s = st'.pulls net now schedule s := by
  induction schedule generalizing st st' s with
  | nil => rfl
  | cons first rest ih =>
    obtain ⟨next, next', y?, s', hpull, hpull', halike⟩ :=
      h.pull net now first.1 (first.2 s)
    simp only [Stage.pulls, hpull, hpull', ih halike]

end Stage

end PagedSparql
