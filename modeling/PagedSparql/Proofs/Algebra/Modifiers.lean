import PagedSparql.Proofs.Plan.Drawing
import PagedSparql.Proofs.Algebra.LiftedPlaces

/-!
# Chains of modifiers

At the top of a query stand sections, selections, orders and conditions on groups, each over the
next one (`Algebra.modifiers`), and below them the grouping or the pattern (`Algebra.core`). Lifting
goes through the modifiers from the top down and then lifts what is below them with the aggregates
that were found (`Lifting.lift_under`). What becomes of a modifier is told by the variable that each
aggregate is given (`Modifier.named`).
-/

namespace PagedSparql

namespace Expression

mutual

/-- The aggregates of an expression that are not inside another one, in the order of the text. -/
def aggregates : Expression → List Aggregate
  | .leaf _ => []
  | .call _ args => allAggregates args
  | .aggregate function distinct argument separator =>
    [⟨function, distinct, argument, separator⟩]

/-- The outermost aggregates of several expressions. -/
def allAggregates : List Expression → List Aggregate
  | [] => []
  | e :: rest => e.aggregates ++ allAggregates rest

end

mutual

/-- The expression with the variables of its outermost aggregates in their places. -/
def named (name : Aggregate → Variable) : Expression → Expression
  | .leaf p => .leaf p
  | .call operator args => .call operator (allNamed name args)
  | .aggregate function distinct argument separator =>
    .leaf (.variable (name ⟨function, distinct, argument, separator⟩))

/-- Several expressions with the variables of their outermost aggregates in their places. -/
def allNamed (name : Aggregate → Variable) : List Expression → List Expression
  | [] => []
  | e :: rest => e.named name :: allNamed name rest

end

end Expression

namespace Column

/-- The outermost aggregates of a column. -/
def aggregates : Column → List Aggregate
  | .expression e _ => e.aggregates
  | .variable _ => []

/-- The binding of an aggregate that a column is, if it is nothing but an aggregate with a name. -/
def binding? : Column → Option AggregateBinding
  | .expression e v => e.aggregate?.map fun a => ⟨v, a⟩
  | .variable _ => none

/-- The column with the variables of its outermost aggregates in their places. An aggregate whose
variable is the name of the column leaves just this variable. -/
def named (name : Aggregate → Variable) : Column → Column
  | .expression e v =>
    if e.aggregate?.map name = some v then .variable v else .expression (e.named name) v
  | .variable v => .variable v

end Column

/-- A sort key with the variables of its outermost aggregates in their places. -/
def OrderCondition.named (name : Aggregate → Variable) (c : OrderCondition) : OrderCondition :=
  { c with expression := c.expression.named name }

/-- A modifier of solutions that is not a grouping. -/
inductive Modifier where
  /-- A section of the rows. -/
  | slice (offset : UInt64) (limit : Option UInt64)
  /-- Each row once. -/
  | distinct
  /-- A selection of columns. -/
  | project (columns : List Column)
  /-- An order of rows. -/
  | orderBy (conditions : List OrderCondition)
  /-- A condition on groups. -/
  | having (condition : Expression)

namespace Modifier

/-- The node that modifies another one. -/
def wrap : Modifier → Algebra → Algebra
  | .slice offset limit, a => .slice a offset limit
  | .distinct, a => .distinct a
  | .project columns, a => .project a columns
  | .orderBy conditions, a => .orderBy a conditions
  | .having condition, a => .having a condition

/-- The outermost aggregates of a modifier. -/
def aggregates : Modifier → List Aggregate
  | .slice _ _ => []
  | .distinct => []
  | .project columns => columns.flatMap Column.aggregates
  | .orderBy conditions => conditions.flatMap fun c => c.expression.aggregates
  | .having condition => condition.aggregates

/-- The columns of a modifier that are nothing but an aggregate with a name. -/
def bindings : Modifier → List AggregateBinding
  | .project columns => columns.flatMap fun c => c.binding?.toList
  | _ => []

/-- The modifier with the variables of its outermost aggregates in their places. -/
def named (name : Aggregate → Variable) : Modifier → Modifier
  | .slice offset limit => .slice offset limit
  | .distinct => .distinct
  | .project columns => .project (columns.map (Column.named name))
  | .orderBy conditions => .orderBy (conditions.map (OrderCondition.named name))
  | .having condition => .having (condition.named name)

end Modifier

namespace Algebra

/-- The query under modifiers, the first of which is at the top. -/
def under (a : Algebra) (modifiers : List Modifier) : Algebra := modifiers.foldr Modifier.wrap a

/-- The modifiers at the top of a query, from the top down. -/
def modifiers : Algebra → List Modifier
  | .slice input offset limit => .slice offset limit :: input.modifiers
  | .distinct input => .distinct :: input.modifiers
  | .project input columns => .project columns :: input.modifiers
  | .orderBy input conditions => .orderBy conditions :: input.modifiers
  | .having input condition => .having condition :: input.modifiers
  | _ => []

/-- What is below the modifiers at the top of a query: a grouping, or a pattern. -/
def core : Algebra → Algebra
  | .slice input _ _ => input.core
  | .distinct input => input.core
  | .project input _ => input.core
  | .orderBy input _ => input.core
  | .having input _ => input.core
  | a => a

/-- The outermost aggregates of the modifiers at the top of a query. -/
def aggregates (a : Algebra) : List Aggregate := a.modifiers.flatMap Modifier.aggregates

/-- The columns at the top of a query that are nothing but an aggregate with a name. -/
def aggregateColumns (a : Algebra) : List AggregateBinding := a.modifiers.flatMap Modifier.bindings

variable {a : Algebra}

/-- A query is its core under its modifiers. -/
theorem core_under_modifiers : (a : Algebra) → a.core.under a.modifiers = a
  | .slice input _ _ => congrArg (Algebra.slice · _ _) (core_under_modifiers input)
  | .distinct input => congrArg Algebra.distinct (core_under_modifiers input)
  | .project input _ => congrArg (Algebra.project · _) (core_under_modifiers input)
  | .orderBy input _ => congrArg (Algebra.orderBy · _) (core_under_modifiers input)
  | .having input _ => congrArg (Algebra.having · _) (core_under_modifiers input)
  | .groupBy _ _ _ | .bgp _ | .join _ | .leftJoin _ | .union _ | .filter _ | .bind _ _
  | .values _ | .service _ _ _ | .construct _ _ | .describe _ _ | .ask _ | .minus _
  | .graph _ _ => rfl

/-- Below the modifiers stands a grouping, or a node that modifies no other one. -/
theorem core_cases : (a : Algebra) →
    (∃ input keys own, a.core = .groupBy input keys own) ∨ a.core.input? = none
  | .slice input _ _ => core_cases input
  | .distinct input => core_cases input
  | .project input _ => core_cases input
  | .orderBy input _ => core_cases input
  | .having input _ => core_cases input
  | .groupBy input keys own => .inl ⟨input, keys, own, rfl⟩
  | .bgp _ | .join _ | .leftJoin _ | .union _ | .filter _ | .bind _ _ | .values _
  | .service _ _ _ | .construct _ _ | .describe _ _ | .ask _ | .minus _ | .graph _ _ => .inr rfl

/-- More modifiers at the top of a query. -/
theorem modifiers_under (ms : List Modifier) : (a.under ms).modifiers = ms ++ a.modifiers := by
  induction ms with
  | nil => rfl
  | cons m rest ih => cases m <;> exact congrArg _ ih

/-- More modifiers at the top of a query do not change what is below them. -/
theorem core_under (ms : List Modifier) : (a.under ms).core = a.core := by
  induction ms with
  | nil => rfl
  | cons m rest ih => cases m <;> exact ih

/-- What is below its modifiers has no modifiers itself. -/
theorem modifiers_of_input? (h : a.input? = none) : a.modifiers = [] ∧ a.core = a := by
  cases a with
  | slice _ _ _ => exact absurd h (by simp [input?])
  | distinct _ => exact absurd h (by simp [input?])
  | project _ _ => exact absurd h (by simp [input?])
  | orderBy _ _ => exact absurd h (by simp [input?])
  | having _ _ => exact absurd h (by simp [input?])
  | _ => exact ⟨rfl, rfl⟩

end Algebra

namespace Lifting

/-- Puts variables in the place of the aggregates of a modifier, which wait from then on. -/
def liftModifier : Modifier → Lifter → Modifier × Lifter
  | .slice offset limit, l => (.slice offset limit, l)
  | .distinct, l => (.distinct, l)
  | .project columns, l =>
    let (columns, l) := liftColumns columns l
    (.project columns, l)
  | .orderBy conditions, l =>
    let (conditions, l) := liftConditions conditions l
    (.orderBy conditions, l)
  | .having condition, l =>
    let (condition, l) := replace condition l
    (.having condition, l)

/-- Puts variables in the place of the aggregates of several modifiers, the first one first. -/
def liftModifiers : List Modifier → Lifter → List Modifier × Lifter
  | [], l => ([], l)
  | m :: rest, l =>
    let (m, l) := liftModifier m l
    let (rest, l) := liftModifiers rest l
    (m :: rest, l)

/-- Lifting goes through the modifiers from the top down, and then on below them. -/
theorem lift_under (a : Algebra) (ms : List Modifier) (l : Lifter) :
    lift (a.under ms) l =
      ((lift a (liftModifiers ms l).2).1.under (liftModifiers ms l).1,
        (lift a (liftModifiers ms l).2).2) := by
  induction ms generalizing l with
  | nil => rfl
  | cons m rest ih =>
    have hwrap : lift (m.wrap (a.under rest)) l =
        ((liftModifier m l).1.wrap (lift (a.under rest) (liftModifier m l).2).1,
          (lift (a.under rest) (liftModifier m l).2).2) := by
      cases m <;> rfl
    rw [ih] at hwrap
    exact hwrap

end Lifting

end PagedSparql
