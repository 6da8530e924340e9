import PagedSparql.Proofs.Pipeline.AlikeStages

/-!
# Stages whose rows are distinct

A stage that drops the rows which it has handed on before stands at the end of some stages, with
nothing but sections below it (`Stage.Dedups`). Its memory only grows, and a row that comes out of
the stages was not in it and then is, whether or not a section takes the row away. So no two rows
that are handed on are equal, in any number of steps and whatever the endpoints answer
(`Stage.Dedups.emits`).

What these rows do not bind is told by the last projection above: the stages below one that drop
rows or sort them hand on rows of the projection (`Stage.Turns.chain`).
-/

namespace PagedSparql

variable {σ : Type} {net : Network σ} {now : DateTime} {P Q M : Row → Prop}

namespace Stage

variable {st upper lower : Stage}

/-! ## What rows have in common -/

/-- A condition hands on rows that come in. -/
theorem turns_filter (condition : Expression) : (Stage.filter condition).Turns P P := by
  refine ⟨(· = .filter condition), rfl, ?_⟩
  rintro _ rfl σ net now x? hx s
  exact leaves_filter (G := (· = .filter condition)) rfl hx s

/-- What drops rows that were seen hands on rows that come in. -/
theorem turns_distinct (seen : List Row) : (Stage.distinct seen).Turns P P := by
  refine ⟨fun st => ∃ seen, st = .distinct seen, ⟨seen, rfl⟩, ?_⟩
  rintro _ ⟨seen, rfl⟩ σ net now x? hx s
  exact leaves_distinct (fun seen => ⟨seen, rfl⟩) hx s

/-- A section hands on rows that come in. -/
theorem turns_slice (skip : Nat) (take : Option Nat) : (Stage.slice skip take).Turns P P := by
  refine ⟨fun st => ∃ skip take, st = .slice skip take, ⟨skip, take, rfl⟩, ?_⟩
  rintro _ ⟨skip, take, rfl⟩ σ net now x? hx s
  exact leaves_slice (fun skip take => ⟨skip, take, rfl⟩) hx s

/-- Rows that are sorted are rows that come in. -/
theorem turns_sortBy (conditions : List OrderCondition) :
    (Stage.sortBy conditions).Turns P P := by
  refine ⟨fun st => ∃ taken sorted, st = .sort conditions taken sorted ∧
    (∀ k ∈ taken, P k.row) ∧ ∀ rows ∈ sorted, ∀ r ∈ rows, P r, ⟨[], none, rfl, by simp⟩, ?_⟩
  rintro _ ⟨taken, sorted, rfl, htaken, hsorted⟩ σ net now x? hx s
  exact leaves_sort (fun htaken hsorted => ⟨_, _, rfl, htaken, hsorted⟩) htaken hsorted hx s

/-- A projection hands on rows of its own. -/
theorem turns_project {columns : List Column} {hidden : List Variable}
    (h : ∀ {σ : Type} (now : DateTime) (r : Row) (s : Session σ),
      Q (projectRow now columns hidden r s).1) : (Stage.project columns hidden).Turns P Q := by
  refine ⟨(· = .project columns hidden), rfl, ?_⟩
  rintro _ rfl σ net now x? hx s
  exact leaves_each (G := (· = .project columns hidden)) rfl rfl
    (fun r s _ => leaves_row rfl (h now r s)) (fun _ => rfl) (fun _ => rfl) rfl hx s

/-- Two stages, one below the other. -/
theorem Turns.chain (hupper : upper.Turns P M) (hlower : lower.Turns M Q) :
    (Stage.chain upper lower).Turns P Q := by
  refine ⟨fun st => ∃ upper lower, st = .chain upper lower ∧ upper.Turns P M ∧ lower.Turns M Q,
    ⟨upper, lower, rfl, hupper, hlower⟩, ?_⟩
  rintro _ ⟨upper, lower, rfl, hupper, hlower⟩ σ net now x? hx s
  exact leaves_chain (fun hupper hlower => ⟨_, _, rfl, hupper, hlower⟩) hupper hlower
    (fun hx s => hupper.step net now hx s) (fun hx s => hlower.step net now hx s) hx s

/-- What a stage at the top of a pipeline hands on. -/
theorem Turns.emits (h : st.Turns P Q) {W : List Row} {st' : Stage}
    (hW : Emits net now st W st') : ∀ w ∈ W, Q w :=
  (emits_of_leaves (fun hst _ hx s => hst.step net now (fun r hr => absurd hr (hx r)) s) h hW).2

/-! ## Distinct rows -/

/-- The stage ends with one that drops the rows it has seen, and with sections of what this hands
on. -/
inductive Dedups (seen : List Row) : Stage → Prop
  /-- Rows that were seen are dropped. -/
  | distinct : Dedups seen (.distinct seen)
  /-- They are dropped below. -/
  | chain {upper lower : Stage} (h : Dedups seen lower) : Dedups seen (.chain upper lower)
  /-- They are dropped above a section. -/
  | slice {upper : Stage} {skip : Nat} {take : Option Nat} (h : Dedups seen upper) :
    Dedups seen (.chain upper (.slice skip take))

/-- A row that was not seen, and now is. -/
def Fresh (seen seen' : List Row) (r : Row) : Prop := r ∉ seen ∧ r ∈ seen'

/-- A step adds to the rows that were seen, and what it hands on is new among them. -/
theorem Dedups.step {seen : List Row} (h : st.Dedups seen) (net : Network σ) (now : DateTime)
    (x? : Option Signal) (s : Session σ) :
    ∃ seen', seen ⊆ seen' ∧ Leaves (Dedups seen') (Fresh seen seen') (st.step net now x? s).1 := by
  induction h generalizing x? s with
  | distinct =>
    -- Nothing but a row that was not seen changes what was seen.
    have hkept : ∀ {x? : Option Signal}, (∀ r, x? ≠ some (.row r)) →
        Leaves (Dedups seen) (Fresh seen seen) (Stage.distinct seen, x?) :=
      leaves_none .distinct
    rcases x? with _ | r | _ | e
    · exact ⟨seen, List.Subset.refl _, hkept (by simp)⟩
    · by_cases hr : r ∈ seen
      · refine ⟨seen, List.Subset.refl _, ?_⟩
        rw [step_leaf_some rfl, stepSignal, stepRow, if_pos (by simpa using hr)]
        exact hkept (by simp)
      · refine ⟨r :: seen, List.subset_cons_self _ _, ?_⟩
        rw [step_leaf_some rfl, stepSignal, stepRow, if_neg (by simpa using hr)]
        exact leaves_row .distinct ⟨hr, List.mem_cons_self⟩
    · exact ⟨seen, List.Subset.refl _, hkept (by simp)⟩
    · exact ⟨seen, List.Subset.refl _, hkept (by simp)⟩
  | @chain upper lower h ih =>
    cases hwants : lower.wants with
    | false =>
      obtain ⟨seen', hseen, hlower, hrow⟩ := ih none s
      rw [step_chain_of_not_wants hwants]
      exact ⟨seen', hseen, .chain hlower, hrow⟩
    | true =>
      rcases hstep : upper.step net now x? s with ⟨⟨upper', y?⟩, s'⟩
      cases y? with
      | none =>
        rw [step_chain_of_none hwants hstep]
        exact ⟨seen, List.Subset.refl _, leaves_none (.chain h) (by simp)⟩
      | some y =>
        obtain ⟨seen', hseen, hlower, hrow⟩ := ih (some y) s'
        rw [step_chain_of_some hwants hstep]
        exact ⟨seen', hseen, .chain hlower, hrow⟩
  | @slice upper skip take h ih =>
    -- A section hands on what has just come to it, which the stage above has made sure of.
    have hslice : ∀ {upper : Stage} {seen' : List Row} {y? : Option Signal}, upper.Dedups seen' →
        (∀ r, y? = some (.row r) → Fresh seen seen' r) → ∀ s : Session σ,
          Leaves (fun lower => Dedups seen' (.chain upper lower)) (Fresh seen seen')
            ((Stage.slice skip take).step net now y? s).1 :=
      fun hupper hrow s => leaves_slice (fun _ _ => .slice hupper) hrow s
    cases hwants : (Stage.slice skip take).wants with
    | false =>
      have hnone : ∀ r, none = some (Signal.row r) → Fresh seen seen r := by simp
      obtain ⟨hlower, hrow⟩ := hslice h hnone s
      rw [step_chain_of_not_wants hwants]
      exact ⟨seen, List.Subset.refl _, hlower, hrow⟩
    | true =>
      obtain ⟨seen', hseen, hupper, hrow⟩ := ih x? s
      rcases hstep : upper.step net now x? s with ⟨⟨upper', y?⟩, s'⟩
      rw [hstep] at hupper hrow
      cases y? with
      | none =>
        rw [step_chain_of_none hwants hstep]
        exact ⟨seen', hseen, leaves_none (.slice hupper) (by simp)⟩
      | some y =>
        obtain ⟨hlower, hrow⟩ := hslice hupper hrow s'
        rw [step_chain_of_some hwants hstep]
        exact ⟨seen', hseen, hlower, hrow⟩

/-- **No row is handed on twice**, in any number of steps and whatever the endpoints answer. -/
theorem Dedups.emits {seen : List Row} (h : st.Dedups seen) {W : List Row} {st' : Stage}
    (hW : Emits net now st W st') : W.Nodup ∧ ∃ seen', st'.Dedups seen' ∧ W ⊆ seen' := by
  induction hW with
  | start => exact ⟨.nil, seen, h, List.nil_subset _⟩
  | @step W st' st'' y? s s' before hstep ih =>
    obtain ⟨hnodup, seen₁, hst', hW⟩ := ih
    obtain ⟨seen₂, hseen, hout⟩ := hst'.step net now (if st'.wants then some .done else none) s
    rw [hstep] at hout
    obtain ⟨hst'', hrow⟩ := hout
    have hkept : W ⊆ seen₂ := List.Subset.trans hW hseen
    have hnew : ∀ r ∈ handedOn y?, Fresh seen₁ seen₂ r := fun r hr => hrow r (mem_handedOn.1 hr)
    -- What was handed on before had been seen, so the new row is none of it.
    refine ⟨List.nodup_append.2 ⟨hnodup, nodup_handedOn y?, ?_⟩, seen₂, hst'',
      List.append_subset.2 ⟨hkept, fun r hr => (hnew r hr).2⟩⟩
    rintro w hw _ hr rfl
    exact (hnew w hr).1 (hW hw)

end Stage

end PagedSparql
