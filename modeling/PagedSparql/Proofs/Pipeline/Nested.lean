import PagedSparql.Proofs.Pipeline.Scene

/-!
# Joins with the rows of a stage

A nested stage first pulls its right stage until that is done, and then joins each row that comes in
with each row of the table so made, in the order of the table. The right stage takes in nothing: it
stands below a source (`Stage.isSealed`).
-/

namespace PagedSparql

variable {σ : Type}

namespace Stage

/-- The stage stands below a source, so that nothing comes to it from above. -/
def isSealed : Stage → Bool
  | .source _ _ => true
  | .chain upper _ => upper.isSealed
  | _ => false

/-- A sealed stage wants nothing. -/
theorem wants_of_sealed {st : Stage} (h : st.isSealed = true) : st.wants = false := by
  induction st using isSealed.induct with
  | case1 rows ending => rfl
  | case2 upper lower ih => simp [wants, ih h]
  | case3 st h₁ h₂ => cases st <;> simp_all [isSealed]

/-- A sealed stage stays sealed. -/
theorem sealed_step (net : Network σ) (now : DateTime) {st : Stage} (h : st.isSealed = true)
    (x? : Option Signal) (s : Session σ) : (st.step net now x? s).1.1.isSealed = true := by
  induction st using isSealed.induct generalizing x? s with
  | case1 rows ending =>
    rcases x? with _ | _ | _ | _ <;> cases rows <;> rfl
  | case2 upper lower ih =>
    have hupper := ih h x? s
    rw [step]
    split
    · rcases hstep : upper.step net now x? s with ⟨⟨upper', _ | y⟩, s'⟩
      all_goals
        rw [hstep] at hupper
        exact hupper
    · exact h
  | case3 st h₁ h₂ => cases st <;> simp_all [isSealed]

/-- The join of rows with the rows of a table, in order. -/
def joinTable (table U : List Row) : List Row := U.flatMap fun u => table.filterMap (Row.merge u)

/-- A row is joined with one row of the table after the other. -/
theorem nextMerge_eq (r : Row) (rest : List Row) :
    rest.filterMap (Row.merge r) =
      match nextMerge r rest with
      | none => []
      | some (row, rest) => row :: rest.filterMap (Row.merge r) := by
  induction rest with
  | nil => rfl
  | cons right rest ih =>
    rw [nextMerge]
    cases h : Row.merge r right with
    | none => rw [List.filterMap_cons_none h, ih]
    | some row => rw [List.filterMap_cons_some h]

/-- A row that is joined leaves fewer rows to be joined with. -/
theorem length_of_nextMerge {r row : Row} {rest rest' : List Row}
    (h : nextMerge r rest = some (row, rest')) : rest'.length < rest.length := by
  induction rest with
  | nil => simp [nextMerge] at h
  | cons right rest ih =>
    rw [nextMerge] at h
    split at h
    · obtain ⟨-, rfl⟩ := Prod.mk.inj (Option.some.inj h)
      simp
    · exact (ih h).trans (by simp)

end Stage

namespace Scene

variable {E : Scene σ} {hasty : Prop} {spec : List Row → List Row → Prop}

/-- The invariant of nested stages. -/
inductive NestedInv (E : Scene σ) (hasty : Prop) (spec : List Row → List Row → Prop) :
    Stage → Traffic → Session σ → Prop
  /-- The right stage is being pulled. -/
  | loading {right : Stage} {table : List Row} {s : Session σ}
    (running : E.Running hasty spec right ⟨[], false, table.reverse⟩ s)
    (isSealed : right.isSealed = true) :
    NestedInv E hasty spec (.nested .input right false table none) {} s
  /-- The rows that come in are being joined. -/
  | joining {right : Stage} {table : List Row} {current : Option (Row × List Row)} {h : Traffic}
    {s : Session σ} (made : spec [] table) (more : h.ended = false)
    (given : h.given ++ current.elim [] (fun c => c.2.filterMap (Row.merge c.1)) =
      Stage.joinTable table h.taken) :
    NestedInv E hasty spec (.nested .input right true table current) h s

/-- A nested stage whose table is made comes to an end. -/
theorem halts_joining {net : Network σ} {now : DateTime} {rely : σ → σ → Prop} {right : Stage}
    {table : List Row} (current : Option (Row × List Row)) (s : Session σ) :
    Stage.Halts net now rely (.nested .input right true table current) s := by
  rcases current with _ | ⟨r, rest⟩
  · exact .wants rfl
  · generalize hn : rest.length = n
    induction n using Nat.strong_induction_on generalizing rest s with
    | _ n ih =>
      refine .acts rfl fun s' _ _ => ?_
      rw [Stage.step]
      split
      · next row rest' hnext => exact ih _ (hn ▸ Stage.length_of_nextMerge hnext) _ _ rfl
      · exact .wants rfl

/-- A nested stage comes to an end. -/
theorem halts_loading {right : Stage} {h : Traffic} {s : Session σ}
    {table : List Row} (running : E.Running hasty spec right h s)
    (isSealed : right.isSealed = true) :
    Stage.Halts E.net E.now E.others (.nested .input right false table none) s := by
  have hc := E.running_contract hasty spec
  have hhalts := hc.halts running
  induction hhalts generalizing h table with
  | wants hwants => exact absurd (Stage.wants_of_sealed isSealed) (by simp [hwants])
  | @acts right s hwants _ ih =>
    refine .acts (by simp [Stage.wants, hwants]) fun s' hmoves _ => ?_
    obtain ⟨-, hout⟩ := hc.acts (hc.stable running hmoves) hwants
    have hsealed := Stage.sealed_step E.net E.now isSealed none s'
    have hnext := ih s' hmoves
    rw [Stage.step]
    rcases hstep : right.step E.net E.now none s' with ⟨⟨right', y?⟩, s''⟩
    rw [hstep] at hout hsealed hnext
    cases y? with
    | none => exact hnext (by simp) hout hsealed
    | some y =>
      cases y with
      | row r => exact hnext (by simp) hout hsealed
      | done => exact halts_joining none s''
      | fail e => exact False.elim hout

/-- The contract of a nested stage. -/
theorem nested_contract (hE : E.Lawful) :
    E.Contract False (fun U W => ∃ table, spec [] table ∧ W = Stage.joinTable table U)
      (NestedInv E hasty spec) := by
  have hc := E.running_contract hasty spec
  constructor
  case stable =>
    intro st h s s' hinv hmoves
    cases hinv with
    | loading running isSealed => exact .loading (hc.stable running hmoves) isSealed
    | joining made more given => exact .joining made more given
  case rests =>
    intro st h s hinv hended
    cases hinv with
    | loading running isSealed => exact absurd hended (by simp)
    | joining made more given => exact absurd hended (by simp [more])
  case acts =>
    intro st h s hinv hwants
    cases hinv with
    | @loading right table _ running isSealed =>
      obtain ⟨hmoves, hout⟩ := hc.acts running (Stage.wants_of_sealed isSealed)
      have hsealed := Stage.sealed_step E.net E.now isSealed none s
      rw [Stage.step]
      rcases hstep : right.step E.net E.now none s with ⟨⟨right', y?⟩, s'⟩
      rw [hstep] at hmoves hout hsealed
      cases y? with
      | none => exact ⟨hmoves, .loading hout hsealed⟩
      | some y =>
        cases y with
        | row r =>
          refine ⟨hmoves, .loading ?_ hsealed⟩
          simpa [Stage.Fulfils, Traffic.give] using hout
        | done => exact ⟨hmoves, .joining (hout.2 [] (fun _ => rfl) trivial) rfl rfl⟩
        | fail e => exact False.elim hout
    | @joining right table current _ _ made more given =>
      rcases current with _ | ⟨r, rest⟩
      · exact absurd hwants (by simp [Stage.wants])
      · have hnext := Stage.nextMerge_eq r rest
        rw [Stage.step]
        split
        · next row rest' hmerge =>
          rw [hmerge] at hnext
          refine ⟨hE.moves_refl s, .joining made more ?_⟩
          simpa [Traffic.give, hnext] using given
        · next hmerge =>
          rw [hmerge] at hnext
          refine ⟨hE.moves_refl s, .joining made more ?_⟩
          simpa [hnext] using given
  case takes =>
    intro st h s r hinv hwants _
    cases hinv with
    | loading running isSealed =>
      exact absurd hwants (by simp [Stage.wants, Stage.wants_of_sealed isSealed])
    | @joining right table current _ _ made more given =>
      rcases current with _ | ⟨r', rest⟩
      · refine ⟨hE.moves_refl s, .joining made more ?_⟩
        simpa [Traffic.take, Stage.joinTable] using given
      · exact absurd hwants (by simp [Stage.wants])
  case ends =>
    intro st h s hinv hwants _
    cases hinv with
    | loading running isSealed =>
      exact absurd hwants (by simp [Stage.wants, Stage.wants_of_sealed isSealed])
    | @joining right table current _ _ made more given =>
      rcases current with _ | ⟨r', rest⟩
      · refine ⟨hE.moves_refl s, .inl rfl, fun rest hrest _ => ⟨table, made, ?_⟩⟩
        obtain rfl := hrest rfl
        simpa [Traffic.close] using given
      · exact absurd hwants (by simp [Stage.wants])
  case halts =>
    intro st h s hinv
    cases hinv with
    | loading running isSealed => exact halts_loading running isSealed
    | joining made more given => exact halts_joining _ s

/-- **Joins with the rows of a stage.** -/
theorem Meets.nested (hE : E.Lawful) {right : Stage} (hright : E.Meets hasty right spec)
    (isSealed : right.isSealed = true) :
    E.Meets False (.nested .input right false [] none)
      (fun U W => ∃ table, spec [] table ∧ W = Stage.joinTable table U) :=
  .of_contract (nested_contract hE) fun s hs => .loading (hright s hs) isSealed

end Scene

end PagedSparql
