import PagedSparql.Algebra.Basic
import PagedSparql.Plan.Names

/-!
# Lifting of aggregates

Aggregates are computed where rows are grouped, while queries also write them in columns, sort keys
and conditions above the grouping. Lifting adds each of them to the grouping below, under the name
of its column or under a fresh variable, and puts the variable in its place. Equal aggregates share
one variable. If nothing groups the rows, one group of all rows is put above the pattern.

The modifiers of a query are walked from the top down with the aggregates that were found so far.
Queries inside a pattern are lifted on their own.
-/

namespace PagedSparql.Lifting

/-- The aggregates of one query that wait for its grouping, and the source of fresh variables. -/
structure Lifter where
  /-- The aggregates with their variables, in the order in which they were found. -/
  waiting : List AggregateBinding := []
  /-- The source of fresh variables. -/
  naming : Naming

/-- The variable of an aggregate: the one that it has, else the wanted one, else a fresh one. -/
def bind (a : Aggregate) (wanted? : Option Variable) (l : Lifter) : Variable × Lifter :=
  match l.waiting.find? (·.aggregate = a) with
  -- Equal aggregates share one variable, whatever name a later column wants.
  | some known => (known.target, l)
  | none =>
    match wanted? with
    | some v => (v, { l with waiting := l.waiting ++ [⟨v, a⟩] })
    | none =>
      let (v, naming) := l.naming.draw
      (v, ⟨l.waiting ++ [⟨v, a⟩], naming⟩)

mutual

/-- The expression with variables in the place of its aggregates. -/
def replace : Expression → Lifter → Expression × Lifter
  | .leaf p, l => (.leaf p, l)
  | .call operator args, l =>
    let (args, l) := replaceAll args l
    (.call operator args, l)
  | .aggregate function distinct argument separator, l =>
    let (v, l) := bind ⟨function, distinct, argument, separator⟩ none l
    (.leaf (.variable v), l)

/-- The expressions of a list with variables in the place of their aggregates. -/
def replaceAll : List Expression → Lifter → List Expression × Lifter
  | [], l => ([], l)
  | e :: rest, l =>
    let (e, l) := replace e l
    let (rest, l) := replaceAll rest l
    (e :: rest, l)

end

/-- A column without aggregates. One that is an aggregate gives it its own name. -/
def liftColumn (c : Column) (l : Lifter) : Column × Lifter :=
  match c with
  | .variable v => (.variable v, l)
  | .expression e v =>
    match e.aggregate? with
    | some a =>
      let (bound, l) := bind a (some v) l
      (if bound = v then .variable v else .expression (.leaf (.variable bound)) v, l)
    | none =>
      let (e, l) := replace e l
      (.expression e v, l)

/-- The columns of a list without aggregates. -/
def liftColumns : List Column → Lifter → List Column × Lifter
  | [], l => ([], l)
  | c :: rest, l =>
    let (c, l) := liftColumn c l
    let (rest, l) := liftColumns rest l
    (c :: rest, l)

/-- Sort keys without aggregates. -/
def liftConditions : List OrderCondition → Lifter → List OrderCondition × Lifter
  | [], l => ([], l)
  | c :: rest, l =>
    let (expression, l) := replace c.expression l
    let (rest, l) := liftConditions rest l
    ({ c with expression } :: rest, l)

/-- The pattern below the modifiers, under one group of all rows if aggregates wait for it. -/
def close (pattern : Algebra) (waiting : List AggregateBinding) : Algebra :=
  if waiting.isEmpty then pattern else .groupBy pattern [] waiting

mutual

/-- The query with its aggregates, and those that wait, in its grouping. -/
def lift : Algebra → Lifter → Algebra × Naming
  | .slice input offset limit, l =>
    let (input, n) := lift input l
    (.slice input offset limit, n)
  | .distinct input, l =>
    let (input, n) := lift input l
    (.distinct input, n)
  | .project input columns, l =>
    let (columns, l) := liftColumns columns l
    let (input, n) := lift input l
    (.project input columns, n)
  | .orderBy input conditions, l =>
    let (conditions, l) := liftConditions conditions l
    let (input, n) := lift input l
    (.orderBy input conditions, n)
  | .having input condition, l =>
    let (condition, l) := replace condition l
    let (input, n) := lift input l
    (.having input condition, n)
  -- What waits is computed here; the input has modifiers of its own, if any.
  | .groupBy input keys aggregates, l =>
    let (input, n) := lift input ⟨[], l.naming⟩
    (.groupBy input keys (aggregates ++ l.waiting), n)
  | .join patterns, l =>
    let (patterns, n) := liftAll patterns l.naming
    (close (.join patterns) l.waiting, n)
  | .leftJoin patterns, l =>
    let (patterns, n) := liftAll patterns l.naming
    (close (.leftJoin patterns) l.waiting, n)
  | .union patterns, l =>
    let (patterns, n) := liftAll patterns l.naming
    (close (.union patterns) l.waiting, n)
  | .service name silent patterns, l =>
    let (patterns, n) := liftAll patterns l.naming
    (close (.service name silent patterns) l.waiting, n)
  | pattern, l => (close pattern l.waiting, l.naming)

/-- The parts of a pattern, the queries inside them lifted on their own. -/
def liftAll : List Algebra → Naming → List Algebra × Naming
  | [], n => ([], n)
  | a :: rest, n =>
    let (a, n) := lift a ⟨[], n⟩
    let (rest, n) := liftAll rest n
    (a :: rest, n)

end

end PagedSparql.Lifting

namespace PagedSparql

/-- The query with all its aggregates in its groupings, and the source of fresh variables after
those that were needed. -/
def Algebra.liftAggregates (a : Algebra) (n : Naming) : Algebra × Naming := Lifting.lift a ⟨[], n⟩

end PagedSparql
