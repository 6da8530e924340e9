import PagedSparql.Plan.Lifting

/-!
# Settled queries

A query is settled if no column, sort key or condition on groups in it has an aggregate
(`Algebra.IsSettled`). Lifting settles a query with all queries inside it, however deep they stand,
if it consists of patterns and modifiers only (`Algebra.isSettled_lift`), and it leaves a settled
query as it is and draws nothing for it (`Algebra.lift_of_isSettled`). So a query that was lifted
is not changed by lifting it again (`Algebra.liftAggregates_settles`).
-/

namespace PagedSparql

/-- The expression of a column, if it has one. -/
def Column.expression? : Column → Option Expression
  | .expression e _ => some e
  | .variable _ => none

namespace Algebra

mutual

/-- The expressions of all columns, sort keys and conditions on groups, wherever they stand. -/
def modifierExpressions : Algebra → List Expression
  | .bgp _ => []
  | .join patterns => modifierExpressionsEach patterns
  | .leftJoin patterns => modifierExpressionsEach patterns
  | .union patterns => modifierExpressionsEach patterns
  | .filter _ => []
  | .bind _ _ => []
  | .values _ => []
  | .service _ _ patterns => modifierExpressionsEach patterns
  | .groupBy input _ _ => input.modifierExpressions
  | .having input e => e :: input.modifierExpressions
  | .project input columns => columns.filterMap Column.expression? ++ input.modifierExpressions
  | .orderBy input conditions => conditions.map (·.expression) ++ input.modifierExpressions
  | .distinct input => input.modifierExpressions
  | .slice input _ _ => input.modifierExpressions
  | .construct _ input => input.modifierExpressions
  | .describe _ input => input.modifierExpressions
  | .ask input => input.modifierExpressions
  | .minus patterns => modifierExpressionsEach patterns
  | .graph _ patterns => modifierExpressionsEach patterns

/-- The expressions of the modifiers in several nodes. -/
def modifierExpressionsEach : List Algebra → List Expression
  | [] => []
  | a :: rest => a.modifierExpressions ++ modifierExpressionsEach rest

end

mutual

/-- There is no difference, no named graph and no query form in the query. -/
def isSelection : Algebra → Bool
  | .bgp _ => true
  | .join patterns => areSelections patterns
  | .leftJoin patterns => areSelections patterns
  | .union patterns => areSelections patterns
  | .filter _ => true
  | .bind _ _ => true
  | .values _ => true
  | .service _ _ patterns => areSelections patterns
  | .groupBy input _ _ => input.isSelection
  | .having input _ => input.isSelection
  | .project input _ => input.isSelection
  | .orderBy input _ => input.isSelection
  | .distinct input => input.isSelection
  | .slice input _ _ => input.isSelection
  | .construct _ _ => false
  | .describe _ _ => false
  | .ask _ => false
  | .minus _ => false
  | .graph _ _ => false

/-- There is none of these in several nodes. -/
def areSelections : List Algebra → Bool
  | [] => true
  | a :: rest => a.isSelection && areSelections rest

end

/-- No column, sort key or condition on groups in the query has an aggregate. -/
def IsSettled (a : Algebra) : Prop := ∀ e ∈ a.modifierExpressions, e.hasAggregate = false

/-- Several nodes are settled. -/
def AreSettled (patterns : List Algebra) : Prop :=
  ∀ e ∈ modifierExpressionsEach patterns, e.hasAggregate = false

end Algebra

/-! ## Expressions -/

namespace Lifting

mutual

/-- No aggregate is left in an expression. -/
theorem hasAggregate_replace : (e : Expression) → (l : Lifter) →
    (replace e l).1.hasAggregate = false
  | .leaf _, _ => by rw [replace, Expression.hasAggregate]
  | .call _ args, l => by
    rw [replace, Expression.hasAggregate]
    exact anyHasAggregate_replaceAll args l
  | .aggregate _ _ _ _, _ => by rw [replace, Expression.hasAggregate]

/-- No aggregate is left in several expressions. -/
theorem anyHasAggregate_replaceAll : (es : List Expression) → (l : Lifter) →
    Expression.anyHasAggregate (replaceAll es l).1 = false
  | [], _ => by rw [replaceAll, Expression.anyHasAggregate]
  | e :: rest, l => by
    rw [replaceAll, Expression.anyHasAggregate, hasAggregate_replace e l,
      anyHasAggregate_replaceAll rest _, Bool.or_false]

end

mutual

/-- An expression without aggregates stays as it is. -/
theorem replace_of_hasAggregate : (e : Expression) → e.hasAggregate = false → (l : Lifter) →
    replace e l = (e, l)
  | .leaf _, _, _ => by rw [replace]
  | .call _ args, h, l => by
    rw [Expression.hasAggregate] at h
    rw [replace, replaceAll_of_anyHasAggregate args h l]
  | .aggregate _ _ _ _, h, _ => absurd h (by simp [Expression.hasAggregate])

/-- Expressions without aggregates stay as they are. -/
theorem replaceAll_of_anyHasAggregate : (es : List Expression) →
    Expression.anyHasAggregate es = false → (l : Lifter) → replaceAll es l = (es, l)
  | [], _, _ => by rw [replaceAll]
  | e :: rest, h, l => by
    rw [Expression.anyHasAggregate, Bool.or_eq_false_iff] at h
    simp only [replaceAll, replace_of_hasAggregate e h.1 l,
      replaceAll_of_anyHasAggregate rest h.2 l]

end

/-- An expression without aggregates is not one itself. -/
theorem aggregate?_of_hasAggregate {e : Expression} (h : e.hasAggregate = false) :
    e.aggregate? = none := by
  cases e with
  | aggregate _ _ _ _ => exact absurd h (by simp [Expression.hasAggregate])
  | _ => rfl

/-- No aggregate is left in a column. -/
theorem hasAggregate_liftColumn (c : Column) (l : Lifter) :
    ∀ e ∈ (liftColumn c l).1.expression?, e.hasAggregate = false := by
  intro e he
  unfold liftColumn at he
  split at he
  · exact absurd he (by simp [Column.expression?])
  · split at he
    · -- What stands in the column is a variable, under its own name or under another one.
      simp only at he
      split at he
      · exact absurd he (by simp [Column.expression?])
      · obtain rfl := Option.some.inj he
        rw [Expression.hasAggregate]
    · obtain rfl := Option.some.inj he
      exact hasAggregate_replace _ l

/-- A column without aggregates stays as it is. -/
theorem liftColumn_of_hasAggregate {c : Column}
    (h : ∀ e ∈ c.expression?, e.hasAggregate = false) (l : Lifter) : liftColumn c l = (c, l) := by
  unfold liftColumn
  split
  · rfl
  · next e v =>
    have he : e.hasAggregate = false := h e rfl
    simp only [aggregate?_of_hasAggregate he, replace_of_hasAggregate e he l]

/-- No aggregate is left in several columns. -/
theorem hasAggregate_liftColumns (columns : List Column) (l : Lifter) :
    ∀ e ∈ (liftColumns columns l).1.filterMap Column.expression?, e.hasAggregate = false := by
  induction columns generalizing l with
  | nil => simp [liftColumns]
  | cons c rest ih =>
    intro e he
    obtain ⟨c', hc', he⟩ := List.mem_filterMap.1 he
    obtain rfl | hc' := List.mem_cons.1 hc'
    · exact hasAggregate_liftColumn c l e he
    · exact ih _ e (List.mem_filterMap.2 ⟨c', hc', he⟩)

/-- Columns without aggregates stay as they are. -/
theorem liftColumns_of_hasAggregate {columns : List Column}
    (h : ∀ e ∈ columns.filterMap Column.expression?, e.hasAggregate = false) (l : Lifter) :
    liftColumns columns l = (columns, l) := by
  induction columns with
  | nil => rfl
  | cons c rest ih =>
    have hc : ∀ e ∈ c.expression?, e.hasAggregate = false :=
      fun e he => h e (List.mem_filterMap.2 ⟨c, List.mem_cons_self, he⟩)
    have hrest : ∀ e ∈ rest.filterMap Column.expression?, e.hasAggregate = false := by
      intro e he
      obtain ⟨c', hc', he⟩ := List.mem_filterMap.1 he
      exact h e (List.mem_filterMap.2 ⟨c', List.mem_cons_of_mem _ hc', he⟩)
    simp only [liftColumns, liftColumn_of_hasAggregate hc l, ih hrest]

/-- No aggregate is left in sort keys. -/
theorem hasAggregate_liftConditions (conditions : List OrderCondition) (l : Lifter) :
    ∀ e ∈ (liftConditions conditions l).1.map (·.expression), e.hasAggregate = false := by
  induction conditions generalizing l with
  | nil => simp [liftConditions]
  | cons c rest ih =>
    intro e he
    obtain rfl | he := List.mem_cons.1 he
    · exact hasAggregate_replace c.expression l
    · exact ih _ e he

/-- Sort keys without aggregates stay as they are. -/
theorem liftConditions_of_hasAggregate {conditions : List OrderCondition}
    (h : ∀ e ∈ conditions.map (·.expression), e.hasAggregate = false) (l : Lifter) :
    liftConditions conditions l = (conditions, l) := by
  induction conditions with
  | nil => rfl
  | cons c rest ih =>
    obtain ⟨hc, hrest⟩ := List.forall_mem_cons.1 h
    simp only [liftConditions, replace_of_hasAggregate c.expression hc l, ih hrest]

end Lifting

/-! ## Queries -/

namespace Algebra

open Lifting

variable {a b : Algebra} {patterns : List Algebra}

/-- A new grouping has no expression of its own. -/
theorem modifierExpressions_close (a : Algebra) (waiting : List AggregateBinding) :
    (close a waiting).modifierExpressions = a.modifierExpressions := by
  rw [close]
  split
  · rfl
  · rw [modifierExpressions]

/-- A settled pattern is settled below a new grouping. -/
theorem isSettled_close (h : a.IsSettled) (waiting : List AggregateBinding) :
    (close a waiting).IsSettled := by
  rwa [IsSettled, modifierExpressions_close]

/-- A node with expressions of its own is settled if these and its input are. -/
theorem isSettled_append {es : List Expression}
    (h : a.modifierExpressions = es ++ b.modifierExpressions) :
    a.IsSettled ↔ (∀ e ∈ es, e.hasAggregate = false) ∧ b.IsSettled := by
  rw [IsSettled, h, List.forall_mem_append, IsSettled]

/-- A list of settled nodes. -/
theorem areSettled_cons : AreSettled (a :: patterns) ↔ a.IsSettled ∧ AreSettled patterns := by
  rw [AreSettled, modifierExpressionsEach, List.forall_mem_append, IsSettled, AreSettled]

mutual

/-- **Lifting leaves no aggregate in a column, a sort key or a condition on groups.** -/
theorem isSettled_lift : (a : Algebra) → a.isSelection = true → (l : Lifter) →
    (lift a l).1.IsSettled
  | .slice input _ _, h, l => isSettled_lift input h l
  | .distinct input, h, l => isSettled_lift input h l
  | .project input columns, h, l =>
    (isSettled_append rfl).2 ⟨hasAggregate_liftColumns columns l, isSettled_lift input h _⟩
  | .orderBy input conditions, h, l =>
    (isSettled_append rfl).2 ⟨hasAggregate_liftConditions conditions l, isSettled_lift input h _⟩
  | .having input condition, h, l =>
    List.forall_mem_cons.2 ⟨hasAggregate_replace condition l, isSettled_lift input h _⟩
  | .groupBy input _ _, h, l => isSettled_lift input h ⟨[], l.naming⟩
  | .join patterns, h, l =>
    isSettled_close (a := .join _) (areSettled_liftAll patterns h l.naming) l.waiting
  | .leftJoin patterns, h, l =>
    isSettled_close (a := .leftJoin _) (areSettled_liftAll patterns h l.naming) l.waiting
  | .union patterns, h, l =>
    isSettled_close (a := .union _) (areSettled_liftAll patterns h l.naming) l.waiting
  | .service name silent patterns, h, l =>
    isSettled_close (a := .service name silent _) (areSettled_liftAll patterns h l.naming) l.waiting
  | .bgp _, _, l => isSettled_close (fun _ he => absurd he List.not_mem_nil) l.waiting
  | .filter _, _, l => isSettled_close (fun _ he => absurd he List.not_mem_nil) l.waiting
  | .bind _ _, _, l => isSettled_close (fun _ he => absurd he List.not_mem_nil) l.waiting
  | .values _, _, l => isSettled_close (fun _ he => absurd he List.not_mem_nil) l.waiting
  | .construct _ _, h, _ => nomatch h
  | .describe _ _, h, _ => nomatch h
  | .ask _, h, _ => nomatch h
  | .minus _, h, _ => nomatch h
  | .graph _ _, h, _ => nomatch h

/-- Lifting leaves none in the parts of a pattern. -/
theorem areSettled_liftAll : (patterns : List Algebra) → areSelections patterns = true →
    (n : Naming) → AreSettled (liftAll patterns n).1
  | [], _, _ => by
    rw [liftAll, AreSettled, modifierExpressionsEach]
    exact nofun
  | a :: rest, h, n => by
    rw [areSelections, Bool.and_eq_true] at h
    rw [liftAll, areSettled_cons]
    exact ⟨isSettled_lift a h.1 ⟨[], n⟩, areSettled_liftAll rest h.2 _⟩

end

mutual

/-- **Lifting leaves a settled query as it is and draws nothing.** -/
theorem lift_of_isSettled : (a : Algebra) → a.IsSettled → (n : Naming) → lift a ⟨[], n⟩ = (a, n)
  | .slice input _ _, h, n => by
    rw [lift, lift_of_isSettled input h n]
  | .distinct input, h, n => by
    rw [lift, lift_of_isSettled input h n]
  | .project input columns, h, n => by
    obtain ⟨hcolumns, hinput⟩ := (isSettled_append rfl).1 h
    simp only [lift, liftColumns_of_hasAggregate hcolumns, lift_of_isSettled input hinput n]
  | .orderBy input conditions, h, n => by
    obtain ⟨hconditions, hinput⟩ := (isSettled_append rfl).1 h
    simp only [lift, liftConditions_of_hasAggregate hconditions, lift_of_isSettled input hinput n]
  | .having input condition, h, n => by
    obtain ⟨hcondition, hinput⟩ := List.forall_mem_cons.1 h
    simp only [lift, replace_of_hasAggregate condition hcondition, lift_of_isSettled input hinput n]
  | .groupBy input _ _, h, n => by
    simp only [lift, lift_of_isSettled input h n, List.append_nil]
  | .join patterns, h, n => by
    rw [lift, liftAll_of_areSettled patterns h n]
    rfl
  | .leftJoin patterns, h, n => by
    rw [lift, liftAll_of_areSettled patterns h n]
    rfl
  | .union patterns, h, n => by
    rw [lift, liftAll_of_areSettled patterns h n]
    rfl
  | .service _ _ patterns, h, n => by
    rw [lift, liftAll_of_areSettled patterns h n]
    rfl
  | .bgp _, _, _ => rfl
  | .filter _, _, _ => rfl
  | .bind _ _, _, _ => rfl
  | .values _, _, _ => rfl
  | .construct _ _, _, _ => rfl
  | .describe _ _, _, _ => rfl
  | .ask _, _, _ => rfl
  | .minus _, _, _ => rfl
  | .graph _ _, _, _ => rfl

/-- Lifting leaves the settled parts of a pattern as they are. -/
theorem liftAll_of_areSettled : (patterns : List Algebra) → AreSettled patterns → (n : Naming) →
    liftAll patterns n = (patterns, n)
  | [], _, _ => by rw [liftAll]
  | a :: rest, h, n => by
    obtain ⟨ha, hrest⟩ := areSettled_cons.1 h
    simp only [liftAll, lift_of_isSettled a ha n, liftAll_of_areSettled rest hrest n]

end

/-- **Lifting is complete, is done once, and does nothing where there is nothing to do.** A lifted
query of patterns and modifiers has no aggregate above its groupings, in the queries inside it
either. It is not changed by lifting it again, for which nothing is drawn. A query that has no such
aggregate in the first place is not changed at all. -/
theorem liftAggregates_settles (h : a.isSelection = true) (n : Naming) :
    (a.liftAggregates n).1.IsSettled ∧
      (∀ n', (a.liftAggregates n).1.liftAggregates n' = ((a.liftAggregates n).1, n')) ∧
      (a.IsSettled → a.liftAggregates n = (a, n)) :=
  have hsettled : (a.liftAggregates n).1.IsSettled := isSettled_lift a h ⟨[], n⟩
  ⟨hsettled, fun n' => lift_of_isSettled _ hsettled n', fun ha => lift_of_isSettled a ha n⟩

/-- The number of all rows as an expression. -/
def countAll : Expression := .aggregate "count" false none none

/-- A count of rows, above a query of its own with a condition on how many rows there are. -/
def countedTwice : Algebra :=
  .project
    (.join [.project (.having (.bgp []) countAll) [.expression countAll ⟨"m"⟩]])
    [.expression countAll ⟨"n"⟩]

/-- Both queries are given a grouping, once. -/
theorem countedTwice_settles :
    countedTwice.isSelection = true ∧ ¬countedTwice.IsSettled ∧
      (countedTwice.liftAggregates ⟨{}, []⟩).1.IsSettled ∧
      ∀ n', (countedTwice.liftAggregates ⟨{}, []⟩).1.liftAggregates n' =
        ((countedTwice.liftAggregates ⟨{}, []⟩).1, n') :=
  have hsettles := liftAggregates_settles (a := countedTwice) rfl ⟨{}, []⟩
  ⟨rfl, fun h => absurd (h countAll (.head _)) (by decide), hsettles.1, hsettles.2.1⟩

end Algebra

end PagedSparql
