/-!
# Checked numbers

Numbers are counted in types of a fixed width. A sum or a product that its type does not hold stops
the program: there is neither a value then nor an error that anybody could handle. What may come to
that is a `Checked` result, which stands outside of the errors of its own (`Checked (Except ε α)`).
-/

namespace PagedSparql

/-- Why the program stops. -/
inductive Stop where
  /-- A number that its type does not hold. -/
  | overflow
  deriving DecidableEq

/-- A result, unless the program stops. -/
abbrev Checked (α : Type) := Except Stop α

namespace Checked

/-- A number as one of 32 bits with a sign. -/
def int32 (n : Int) : Checked Int :=
  if Int32.minValue.toInt ≤ n ∧ n ≤ Int32.maxValue.toInt then .ok n else .error .overflow

/-- A number as one of 64 bits without a sign. -/
def uint64 (n : Nat) : Checked Nat := if n < UInt64.size then .ok n else .error .overflow

end Checked

end PagedSparql
