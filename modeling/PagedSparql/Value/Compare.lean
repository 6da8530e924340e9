import PagedSparql.Value.Numeric
import PagedSparql.Value.DateTime

/-!
# Comparing values

The equality and the order that expressions see. Numbers, booleans and dateTimes are compared by
value, whatever their written form. Other terms are equal when they are the same term, and of these
only strings with the same language tag have an order.
-/

namespace PagedSparql.Value

/-- The value of a boolean literal. -/
def boolean? (t : Term) : Option Bool :=
  t.literal?.bind fun l =>
    if l.datatype = Vocabulary.xsdBoolean then
      if l.value = "true" ∨ l.value = "1" then some true
      else if l.value = "false" ∨ l.value = "0" then some false
      else none
    else none

/-- The order of booleans: false before true. -/
def compareBool : Bool → Bool → Ordering
  | false, true => .lt
  | true, false => .gt
  | _, _ => .eq

/-- How two values of one kind compare: not at all, or with an ordering that may be missing. -/
inductive Comparison where
  /-- Two numbers; a NaN is unordered. -/
  | numbers (ordering : Option Ordering)
  /-- Two booleans. -/
  | booleans (ordering : Ordering)
  /-- Two dateTimes; one with and one without timezone are unordered. -/
  | dateTimes (ordering : Option Ordering)
  /-- Terms that are not of one of these kinds both. -/
  | others

/-- Finds the kind that two terms share, and compares them in it. -/
def comparison (left right : Term) : Comparison :=
  match Numeric.ofTerm? left, Numeric.ofTerm? right with
  | some a, some b => .numbers (a.compare? b)
  -- Booleans and dateTimes are looked for only if the terms are not both numbers.
  | _, _ =>
    match boolean? left, boolean? right with
    | some a, some b => .booleans (compareBool a b)
    | _, _ =>
      match DateTime.ofTerm? left, DateTime.ofTerm? right with
      | some a, some b => .dateTimes (a.compare? b)
      | _, _ => .others

/-- Equality of values. -/
def equals (left right : Term) : Except EvalError Bool :=
  match comparison left right with
  | .numbers ordering => .ok (ordering == some .eq)
  | .booleans ordering => .ok (ordering == .eq)
  | .dateTimes (some ordering) => .ok (ordering == .eq)
  | .dateTimes none => .error (.type .indeterminate)
  | .others => .ok (left == right)

/-- Both terms are strings with the same language tag, or both without. -/
def sameStringKind (left right : Term) : Bool :=
  match left, right with
  | .literal a, .literal b => a.isString && b.isString && a.language? == b.language?
  | _, _ => false

/-- The order of values; there is none next to a NaN. -/
def compare (left right : Term) : Except EvalError (Option Ordering) :=
  match comparison left right with
  | .numbers ordering => .ok ordering
  | .booleans ordering => .ok (some ordering)
  | .dateTimes (some ordering) => .ok (some ordering)
  | .dateTimes none => .error (.type .indeterminate)
  | .others =>
    if sameStringKind left right then .ok (some (Ord.compare left.lexical right.lexical))
    else .error (.type (.incomparable left right))

/-- The effective boolean value of a term. -/
def effectiveBoolean (t : Term) : Except EvalError Bool :=
  match t with
  | .literal l =>
    if l.datatype = Vocabulary.xsdBoolean then
      match boolean? t with
      | some b => .ok b
      | none => .error (.type (.invalidBoolean l.value))
    else if l.isString then .ok (!l.value.isEmpty)
    else
      match Numeric.ofLiteral? l with
      | some n => .ok n.isTruthy
      | none => .error (.type (.noBoolean t))
  | _ => .error (.type (.noBoolean t))

/-- A boolean is its own truth value. -/
theorem effectiveBoolean_boolean (b : Bool) : effectiveBoolean (.boolean b) = .ok b := by
  cases b <;> rfl

end PagedSparql.Value
