import PagedSparql.Algebra.Basic
import PagedSparql.Algebra.Error
import PagedSparql.Protocol.Session

/-!
# Groups and aggregates

Rows are put into groups by the values of key variables, the groups in the order in which they are
first met. Without keys there is one group, even of no rows. An aggregate folds the values of its
argument for the rows of a group; rows for which the argument has no value do not count, and an
aggregate that has no value leaves its variable unbound.
-/

namespace PagedSparql

/-- An aggregate function. -/
inductive AggregateFunction where
  /-- The number of values. -/
  | count
  /-- The sum of numbers. -/
  | sum
  /-- The average of numbers. -/
  | average
  /-- The least value. -/
  | least
  /-- The greatest value. -/
  | greatest
  /-- The values joined to one text. -/
  | concatenation (separator : String)
  /-- One of the values. -/
  | sample

/-- A group of rows. -/
structure Group where
  /-- The values of the keys. -/
  key : Row
  /-- The rows. -/
  rows : List Row

/-- An aggregate of a plan. -/
structure Fold where
  /-- The variable that is bound. -/
  target : Variable
  /-- The function. -/
  function : AggregateFunction
  /-- Equal values count once. -/
  distinct : Bool
  /-- The expression that is aggregated; none stands for whole rows. -/
  argument : Option Expression

namespace AggregateFunction

/-- The function that an aggregate names. -/
def ofAggregate (a : Aggregate) : Except BuildError AggregateFunction :=
  match a.function.toLower with
  | "count" => .ok .count
  | "sum" => .ok .sum
  | "avg" => .ok .average
  | "min" => .ok .least
  | "max" => .ok .greatest
  | "group_concat" => .ok (.concatenation (a.separator.getD " "))
  | "groupconcat" => .ok (.concatenation (a.separator.getD " "))
  | "sample" => .ok .sample
  | other => .error (.unsupportedNode ("aggregate " ++ other))

/-- A number of things as a term. -/
def countTerm (n : Nat) : Term := .literal (.integer n)

/-- The sum of numbers onto a total. -/
def sumFrom (total : Numeric) : List Term → Except EvalError Numeric
  | [] => .ok total
  | t :: rest => do
    let n ← Numeric.ofTerm t
    sumFrom (← Numeric.arithmetic .add total n) rest

/-- The sum of numbers. -/
def sumOf (values : List Term) : Except EvalError Numeric := sumFrom (.integer 0) values

/-- The average of numbers; that of none is zero. -/
def averageOf (values : List Term) : Except EvalError Numeric := do
  -- The sum of nothing could not be divided by the number of nothing.
  if values.isEmpty then .ok (.integer 0)
  else
    let total ←
      match ← sumOf values with
      -- Averages of integers are decimals.
      | .integer n => .ok (.decimal (Float.ofInt n))
      | n => .ok n
    Numeric.arithmetic .divide total (.integer values.length)

/-- The order by value where there is one, and of the lexical forms elsewhere. -/
def orderTerms (left right : Term) : Ordering :=
  match Value.compare left right with
  | .ok (some ordering) => ordering
  | _ => compare left.lexical right.lexical

/-- The value that stands in the wanted order to the one chosen before it, or else that one. -/
def better (wanted : Ordering) (best value : Term) : Term :=
  if orderTerms value best = wanted then value else best

/-- The least or the greatest value. -/
def extreme (wanted : Ordering) : List Term → Except EvalError Term
  | [] => .error (.argument (.emptyGroup "MIN/MAX"))
  | t :: rest => .ok (rest.foldl (better wanted) t)

/-- The value of the function for the values of a group. -/
def apply (values : List Term) : AggregateFunction → Except EvalError Term
  | .count => .ok (countTerm values.length)
  | .sum => (sumOf values).map Numeric.toTerm
  | .average => (averageOf values).map Numeric.toTerm
  | .least => extreme .lt values
  | .greatest => extreme .gt values
  | .concatenation separator => .ok (.string (separator.intercalate (values.map Term.lexical)))
  | .sample =>
    match values with
    | [] => .error (.argument (.emptyGroup "SAMPLE"))
    | t :: _ => .ok t

end AggregateFunction

namespace Group

/-- The groups before the first row. -/
def initial (keys : List Variable) : List Group := if keys.isEmpty then [⟨.empty, []⟩] else []

/-- Puts a row, as the last one, into the group with its key, or into a new group at the end. -/
def insert (key row : Row) : List Group → List Group
  | [] => [⟨key, [row]⟩]
  | g :: rest => if g.key = key then ⟨g.key, row :: g.rows⟩ :: rest else g :: insert key row rest

/-- The groups of a list of rows. -/
def partition (keys : List Variable) (rows : List Row) : List Group :=
  (rows.foldl (fun groups r => insert (Row.project r keys) r groups) (initial keys)).map fun g =>
    { g with rows := g.rows.reverse }

end Group

namespace Fold

variable {σ : Type}

/-- The aggregate of a plan for an aggregate of a query. -/
def ofBinding (b : AggregateBinding) : Except BuildError Fold := do
  let function ← AggregateFunction.ofAggregate b.aggregate
  .ok ⟨b.target, function, b.aggregate.distinct, b.aggregate.argument⟩

/-- The list with the first of equal items only. -/
def firsts {α : Type} [DecidableEq α] (items : List α) : List α :=
  (items.foldl (fun seen x => if x ∈ seen then seen else x :: seen) []).reverse

/-- The values of an expression for the rows of a group. -/
def values (now : DateTime) (e : Expression) : List Row → Session σ → List Term × Session σ
  | [], s => ([], s)
  | r :: rest, s =>
    let (value, s) := s.evaluateRow r (Eval.evaluate now r e)
    let (terms, s) := values now e rest s
    (value.toOption.toList ++ terms, s)

/-- The value of an aggregate for the rows of a group. -/
def apply (now : DateTime) (f : Fold) (rows : List Row) (s : Session σ) :
    Except EvalError Term × Session σ :=
  match f.argument with
  | none => (.ok (AggregateFunction.countTerm (if f.distinct then firsts rows else rows).length), s)
  | some e =>
    let (terms, s) := values now e rows s
    (f.function.apply (if f.distinct then firsts terms else terms), s)

/-- The row extended by the aggregates that have a value. -/
def extend (now : DateTime) (rows : List Row) :
    List Fold → Row → Session σ → Row × Session σ
  | [], row, s => (row, s)
  | f :: rest, row, s =>
    match f.apply now rows s with
    | (.ok t, s) => extend now rows rest (row.insert f.target t) s
    | (.error _, s) => extend now rows rest row s

/-- The rows of all groups. -/
def extendAll (now : DateTime) (folds : List Fold) :
    List Group → Session σ → List Row × Session σ
  | [], s => ([], s)
  | g :: rest, s =>
    let (row, s) := extend now g.rows folds g.key s
    let (rows, s) := extendAll now folds rest s
    (row :: rows, s)

end Fold

end PagedSparql
