import PagedSparql.Proofs.Pipeline.AnyAnswers
import PagedSparql.Proofs.Pipeline.Carried
import PagedSparql.Proofs.Pipeline.Leaf
import PagedSparql.Proofs.Pipeline.Optional
import PagedSparql.Proofs.Rdf.RowSet

/-!
# Stages whose rows grow

Most stages extend the rows that come in, drop them or hand them on as they are; only bindings,
projections and groupings make other rows of them. A stage without these is said to grow rows
(`Stage.Grows`). Whatever stands on the right of a join does not matter, since its rows only add to
those of the left.

If the rows that come in have a property that rows keep when they are extended, then all rows that
such a stage hands on have it (`Stage.Grows.emits`), whatever the endpoints answer. An optional stage
also puts numbers into rows and takes them away again, under a variable that the property must not
be about (`Row.Ignores`).
-/

namespace PagedSparql

variable {σ : Type} {net : Network σ} {now : DateTime} {P : Row → Prop}

/-- A property of rows is not about a variable: rows keep it when a term is put under the variable,
and when its term is taken away. -/
structure Row.Ignores (P : Row → Prop) (v : Variable) : Prop where
  /-- A term may be put under the variable. -/
  insert : ∀ {r : Row} (t : Term), P r → P (r.insert v t)
  /-- The term of the variable may be taken away. -/
  without : ∀ {r : Row}, P r → P (Row.without r [v])

/-- The rows that extend one of some rows. -/
def Row.Extending (U : List Row) (w : Row) : Prop := ∃ u ∈ U, w.Extends u

namespace Row

variable {U : List Row}

/-- A row that extends one of the rows still does when it is extended. -/
theorem upward_extending (U : List Row) : Upward (Extending U) :=
  fun ⟨u, hu, hr⟩ hw => ⟨u, hu, hw.trans hr⟩

/-- To extend a row is not about a variable that it does not bind. -/
theorem ignores_extends {u : Row} {v : Variable} (hv : u.binds v = false) :
    Ignores (Extends · u) v := by
  have hne : ∀ w t, u.get? w = some t → w ≠ v := by
    rintro w t hw rfl
    rw [VariableMap.binds_eq_false_iff.1 hv] at hw
    exact nomatch hw
  constructor
  · intro r t hr w t' hw
    rw [VariableMap.get?_insert, if_neg (hne w t' hw)]
    exact hr w t' hw
  · intro r hr w t' hw
    rw [get?_without, if_neg (by simpa using hne w t' hw)]
    exact hr w t' hw

/-- To extend one of some rows is not about a variable that none of them binds. -/
theorem ignores_extending {v : Variable} (hv : ∀ u ∈ U, u.binds v = false) :
    Ignores (Extending U) v where
  insert := by
    rintro r t ⟨u, hu, hr⟩
    exact ⟨u, hu, (ignores_extends (hv u hu)).insert t hr⟩
  without := by
    rintro r ⟨u, hu, hr⟩
    exact ⟨u, hu, (ignores_extends (hv u hu)).without hr⟩

end Row

namespace Stage

/-- The stage makes other rows of those that come in only by extending them, and all rows that it
keeps have a property. -/
inductive Grows (P : Row → Prop) : Stage → Prop
  /-- Rows that are handed on are not kept. -/
  | input : Grows P .input
  /-- The rows of a source have the property. -/
  | source {rows : List Row} (ending : Ending) (hrows : ∀ r ∈ rows, P r) :
    Grows P (.source rows ending)
  /-- A condition keeps no rows. -/
  | filter (condition : Expression) : Grows P (.filter condition)
  /-- What rows are joined with does not matter. -/
  | values (row : Row) : Grows P (.values row)
  /-- Rows that were seen are not handed on. -/
  | distinct (seen : List Row) : Grows P (.distinct seen)
  /-- A section keeps no rows. -/
  | slice (skip : Nat) (take : Option Nat) : Grows P (.slice skip take)
  /-- Rows are taken in and sorted. -/
  | sort {conditions : List OrderCondition} {taken : List KeyedRow} {sorted : Option (List Row)}
    (htaken : ∀ k ∈ taken, P k.row) (hsorted : ∀ rows ∈ sorted, ∀ r ∈ rows, P r) :
    Grows P (.sort conditions taken sorted)
  /-- A bound join keeps rows. -/
  | remote {j : BoundJoin} (h : j.Carries P) : Grows P (.remote j)
  /-- The rows of the left are joined with those of the right. -/
  | nested {left right : Stage} {loaded : Bool} {table : List Row}
    {current : Option (Row × List Row)} (hleft : Grows P left) (hcurrent : ∀ c ∈ current, P c.1) :
    Grows P (.nested left right loaded table current)
  /-- The tee of a fork keeps rows, and its branches do. -/
  | fork {tee : Tee} {position : Nat} {branches : List Stage} (htee : ∀ r ∈ tee.buffer, P r)
    (hbranches : ∀ b ∈ branches, Grows P b) : Grows P (.fork tee position branches)
  /-- Rows are numbered, and the unmatched ones are kept. -/
  | optional {tag : Variable} {inner : Stage} {next : Nat} {unmatched : List (Int × Row)}
    {leftovers : Option (List Row)} (htag : Row.Ignores P tag) (hinner : Grows P inner)
    (hunmatched : ∀ e ∈ unmatched, P e.2) (hleftovers : ∀ rows ∈ leftovers, ∀ r ∈ rows, P r) :
    Grows P (.optional tag inner next unmatched leftovers)
  /-- Two stages, one below the other, keep rows. -/
  | chain {upper lower : Stage} (hupper : Grows P upper) (hlower : Grows P lower) :
    Grows P (.chain upper lower)

variable {st : Stage}

/-- A stage that is put together as a pattern is planned grows rows. -/
theorem Carries.grows (h : st.Carries P) : st.Grows P := by
  induction h with
  | input => exact .input
  | filter condition => exact .filter condition
  | remote h => exact .remote h
  | fork htee _ ih => exact .fork htee ih
  | chain _ _ hupper hlower => exact .chain hupper hlower

/-- Of rows with the property, the first one is handed on and the others are kept. -/
theorem popRow_spec {rows : List Row} (h : ∀ r ∈ rows, P r) :
    (∀ r ∈ (popRow rows).2, P r) ∧ ∀ r, (popRow rows).1 = .row r → P r := by
  cases rows with
  | nil => exact ⟨h, by simp [popRow]⟩
  | cons r rest =>
    obtain ⟨hr, hrest⟩ := List.forall_mem_cons.1 h
    refine ⟨hrest, fun w hw => ?_⟩
    obtain rfl := Signal.row.inj hw
    exact hr

/-- What drops rows that were seen leaves rows that come in. -/
theorem leaves_distinct {G : Stage → Prop} (h : ∀ seen : List Row, G (.distinct seen))
    {seen : List Row} {x? : Option Signal} (hx : ∀ r, x? = some (.row r) → P r) (s : Session σ) :
    Leaves G P ((Stage.distinct seen).step net now x? s).1 := by
  refine leaves_each rfl (h seen) (fun r s hr => ?_) (fun _ => rfl) (fun _ => rfl) rfl hx s
  simp only [stepRow]
  split
  · exact leaves_none (h _) (by simp)
  · exact leaves_row (h _) hr

/-- A section leaves rows that come in. -/
theorem leaves_slice {G : Stage → Prop}
    (h : ∀ (skip : Nat) (take : Option Nat), G (.slice skip take)) {skip : Nat} {take : Option Nat}
    {x? : Option Signal} (hx : ∀ r, x? = some (.row r) → P r) (s : Session σ) :
    Leaves G P ((Stage.slice skip take).step net now x? s).1 := by
  refine leaves_each rfl (h skip take) (fun r s hr => ?_) (fun _ => rfl) (fun _ => rfl) rfl hx s
  cases skip with
  | zero => exact leaves_row (h _ _) hr
  | succ skip => exact leaves_none (h _ _) (by simp)

/-- Rows that are sorted leave rows that come in. -/
theorem leaves_sort {G : Stage → Prop} {conditions : List OrderCondition}
    {taken : List KeyedRow} {sorted : Option (List Row)}
    (h : ∀ {taken : List KeyedRow} {sorted : Option (List Row)}, (∀ k ∈ taken, P k.row) →
      (∀ rows ∈ sorted, ∀ r ∈ rows, P r) → G (.sort conditions taken sorted))
    (htaken : ∀ k ∈ taken, P k.row) (hsorted : ∀ rows ∈ sorted, ∀ r ∈ rows, P r)
    {x? : Option Signal} (hx : ∀ r, x? = some (.row r) → P r) (s : Session σ) :
    Leaves G P ((Stage.sort conditions taken sorted).step net now x? s).1 := by
  refine leaves_leaf rfl (fun r s hr => ?_) (fun s => ?_) (fun e => ?_) ?_ hx s
  · refine leaves_none (h (List.forall_mem_cons.2 ⟨?_, htaken⟩) hsorted) (by simp)
    exact hr
  · refine leaves_none (h (by simp) ?_) (by simp)
    rintro rows ⟨⟩ r hr
    obtain ⟨k, hk, rfl⟩ := List.mem_map.1 hr
    exact htaken k (by simpa using hk)
  · exact leaves_none (h (by simp) hsorted) (by simp)
  · cases sorted with
    | none => exact leaves_none (h htaken hsorted) (by simp)
    | some rows =>
      obtain ⟨hrest, hrow⟩ := popRow_spec (hsorted rows rfl)
      refine ⟨h htaken ?_, fun r hr => hrow r (Option.some.inj hr)⟩
      rintro rows' ⟨⟩
      exact hrest

/-- The row that a row is joined to extends it. -/
theorem extends_of_nextMerge {r row : Row} {rest rest' : List Row}
    (h : nextMerge r rest = some (row, rest')) : row.Extends r := by
  induction rest with
  | nil => exact nomatch h
  | cons right rest ih =>
    rw [nextMerge] at h
    split at h
    · next hmerge =>
      obtain ⟨rfl, -⟩ := Prod.mk.inj (Option.some.inj h)
      exact (Row.merge_eq_some_iff.1 hmerge).1
    · exact ih h

/-- A step of a join leaves the rows of its left. -/
theorem leaves_nested {left right : Stage} {loaded : Bool} {table : List Row}
    {current : Option (Row × List Row)} (hP : Row.Upward P) (hleft : left.Grows P)
    (hcurrent : ∀ c ∈ current, P c.1)
    (ih : ∀ {x? : Option Signal}, (∀ r, x? = some (.row r) → P r) →
      ∀ s, Leaves (Grows P) P (left.step net now x? s).1)
    {x? : Option Signal} (hx : ∀ r, x? = some (.row r) → P r) (s : Session σ) :
    Leaves (Grows P) P ((Stage.nested left right loaded table current).step net now x? s).1 := by
  -- Rows come from the left only: the table adds to them, and filling it hands nothing on.
  match loaded, current with
  | false, current =>
    rw [Stage.step]
    rcases right.step net now x? s with ⟨⟨right', _ | _ | _ | _⟩, s'⟩
    all_goals exact leaves_none (.nested hleft hcurrent) (by simp)
  | true, some (r, rest) =>
    have hr : P r := hcurrent _ rfl
    cases hnext : nextMerge r rest with
    | none =>
      simp only [Stage.step, hnext]
      exact leaves_none (.nested hleft (by simp)) (by simp)
    | some found =>
      obtain ⟨row, rest'⟩ := found
      simp only [Stage.step, hnext]
      refine leaves_row (.nested hleft ?_) (hP hr (extends_of_nextMerge hnext))
      rintro c ⟨⟩
      exact hr
  | true, none =>
    obtain ⟨hleft', hrow⟩ := ih hx s
    rcases hstep : left.step net now x? s with ⟨⟨left', y?⟩, s'⟩
    rw [hstep] at hleft' hrow
    simp only [Stage.step, hstep]
    rcases y? with _ | r | _ | e
    · exact leaves_none (.nested hleft' (by simp)) (by simp)
    · refine leaves_none (.nested hleft' ?_) (by simp)
      rintro c ⟨⟩
      exact hrow r rfl
    · exact leaves_none (.nested hleft' (by simp)) (by simp)
    · exact leaves_none (.nested hleft' (by simp)) (by simp)

/-- What an optional stage leaves after a step of its inner stage. -/
theorem leaves_after {tag : Variable} (htag : Row.Ignores P tag) (next : Nat)
    {unmatched : List (Int × Row)} (hunmatched : ∀ e ∈ unmatched, P e.2)
    {out : Stage × Option Signal} (hout : Leaves (Grows P) P out) :
    Leaves (Grows P) P (Optional.after tag next unmatched out) := by
  obtain ⟨inner, y?⟩ := out
  obtain ⟨hinner, hrow⟩ := hout
  rcases y? with _ | r | _ | e
  · exact leaves_none (.optional htag hinner hunmatched (by simp)) (by simp)
  · refine leaves_row (.optional htag hinner ?_ (by simp)) (htag.without (hrow r rfl))
    intro e he
    unfold untag at he
    dsimp only at he
    split at he
    · exact hunmatched e (List.mem_of_mem_filter he)
    · exact hunmatched e he
  · refine leaves_none (.optional htag hinner (by simp) ?_) (by simp)
    rintro rows ⟨⟩
    exact List.forall_mem_map.2 hunmatched
  · exact leaves_none (.optional htag hinner hunmatched (by simp)) (by simp)

/-- A step of an optional stage leaves the rows that come in. -/
theorem leaves_optional {tag : Variable} {inner : Stage} {next : Nat}
    {unmatched : List (Int × Row)} {leftovers : Option (List Row)} (htag : Row.Ignores P tag)
    (hinner : inner.Grows P) (hunmatched : ∀ e ∈ unmatched, P e.2)
    (hleftovers : ∀ rows ∈ leftovers, ∀ r ∈ rows, P r)
    (ih : ∀ {x? : Option Signal}, (∀ r, x? = some (.row r) → P r) →
      ∀ s, Leaves (Grows P) P (inner.step net now x? s).1)
    {x? : Option Signal} (hx : ∀ r, x? = some (.row r) → P r) (s : Session σ) :
    Leaves (Grows P) P
      ((Stage.optional tag inner next unmatched leftovers).step net now x? s).1 := by
  match leftovers with
  | some rows =>
    obtain ⟨hrest, hrow⟩ := popRow_spec (hleftovers rows rfl)
    refine ⟨.optional htag hinner hunmatched ?_, fun r hr => hrow r (Option.some.inj hr)⟩
    rintro rows' ⟨⟩
    exact hrest
  | none =>
    by_cases hrow : ∃ r, x? = some (.row r)
    · obtain ⟨r, rfl⟩ := hrow
      have hr : P r := hx r rfl
      rw [Optional.step_optional_row]
      refine leaves_after htag _ (List.forall_mem_append.2 ⟨hunmatched, by simpa using hr⟩) (ih ?_ s)
      intro w hw
      obtain rfl := Signal.row.inj (Option.some.inj hw)
      exact htag.insert _ hr
    · rw [Optional.step_optional _ _ _ _ _ (not_exists.1 hrow)]
      exact leaves_after htag _ hunmatched (ih hx s)

/-- Rows keep the property in a stage that grows them. -/
theorem Grows.step (hP : Row.Upward P) (h : st.Grows P) {x? : Option Signal}
    (hx : ∀ r, x? = some (.row r) → P r) (s : Session σ) :
    Leaves (Grows P) P (st.step net now x? s).1 := by
  induction h generalizing x? s with
  | input => exact leaves_input .input hx s
  | @source rows ending hrows =>
    have hst := Grows.source (P := P) ending hrows
    rcases x? with _ | r | _ | e
    · rw [Stage.step]
      cases rows with
      | nil =>
        cases ending with
        | done => exact leaves_none hst (by simp [Ending.signal])
        | failed e => exact leaves_none hst (by simp [Ending.signal])
      | cons r rest =>
        obtain ⟨hr, hrest⟩ := List.forall_mem_cons.1 hrows
        exact leaves_row (.source ending hrest) hr
      all_goals simp
    · exact leaves_none hst (by simp)
    · exact leaves_none hst (by simp)
    · exact leaves_none hst (by simp)
  | filter condition => exact leaves_filter (.filter condition) hx s
  | values row =>
    refine leaves_each rfl (.values row) (fun r s hr => ?_) (fun _ => rfl) (fun _ => rfl) rfl hx s
    simp only [stepRow]
    cases hmerge : Row.merge r row with
    | none => exact leaves_none (.values _) (by simp)
    | some w => exact leaves_row (.values _) (hP hr (Row.merge_eq_some_iff.1 hmerge).1)
  | distinct seen => exact leaves_distinct .distinct hx s
  | slice skip take => exact leaves_slice .slice hx s
  | sort htaken hsorted => exact leaves_sort .sort htaken hsorted hx s
  | remote h => exact leaves_remote .remote hP h hx s
  | nested hleft hcurrent ih => exact leaves_nested hP hleft hcurrent ih hx s
  | fork htee hbranches ih => exact leaves_fork .fork htee hbranches (fun b hb _ => ih b hb) hx s
  | optional htag hinner hunmatched hleftovers ih =>
    exact leaves_optional htag hinner hunmatched hleftovers ih hx s
  | chain hupper hlower ihupper ihlower =>
    exact leaves_chain .chain hupper hlower ihupper ihlower hx s

/-- An invariant of the steps of a stage at the top of a pipeline, to which no row comes, is one of
its runs. -/
theorem emits_of_leaves {G : Stage → Prop}
    (hG : ∀ {st : Stage}, G st → ∀ {x? : Option Signal}, (∀ r, x? ≠ some (.row r)) →
      ∀ s : Session σ, Leaves G P (st.step net now x? s).1)
    (h : G st) {W : List Row} {st' : Stage} (hW : Emits net now st W st') :
    G st' ∧ ∀ w ∈ W, P w := by
  induction hW with
  | start => exact ⟨h, by simp⟩
  | @step W st' st'' y? s s' before hstep ih =>
    have hx : ∀ r, (if st'.wants then some Signal.done else none) ≠ some (.row r) := by
      intro r hr
      split at hr <;> exact nomatch hr
    have hout : Leaves G P (st'.step net now _ s).1 := hG ih.1 hx s
    rw [hstep] at hout
    obtain ⟨hst, hrow⟩ := hout
    exact ⟨hst, List.forall_mem_append.2 ⟨ih.2, fun r hr => hrow r (mem_handedOn.1 hr)⟩⟩

/-- **A stage that grows rows** hands on rows with the property only, in any number of steps and
whatever the endpoints answer. -/
theorem Grows.emits (hP : Row.Upward P) (h : st.Grows P) {W : List Row} {st' : Stage}
    (hW : Emits net now st W st') : st'.Grows P ∧ ∀ w ∈ W, P w :=
  emits_of_leaves (fun hst _ hx s => hst.step hP (fun r hr => absurd hr (hx r)) s) h hW

end Stage

end PagedSparql
