import PagedSparql.Number.Notation
import PagedSparql.Number.Reading
import PagedSparql.Value.Error

/-!
# Numbers

The four kinds of numeric literals and their arithmetic. Integers have 64 bits, and a result outside
of them is an error. Decimals are carried as doubles. Where two kinds meet, the result has the later
of the two in the order integer, decimal, float, double; the quotient of two integers is a decimal.
-/

namespace PagedSparql

/-- A numeric value. The number of a `float` is always one of single precision. -/
inductive Numeric where
  /-- An integer of 64 bits. -/
  | integer (n : Int)
  /-- A decimal, as a double. -/
  | decimal (x : Float)
  /-- A single precision number. -/
  | float (x : Float)
  /-- A double precision number. -/
  | double (x : Float)
  deriving DecidableEq

/-- The four operations. -/
inductive ArithmeticOp where
  /-- Addition. -/
  | add
  /-- Subtraction. -/
  | subtract
  /-- Multiplication. -/
  | multiply
  /-- Division. -/
  | divide
  deriving DecidableEq

namespace Numeric

/-- The integer fits in 64 bits. -/
def fits (n : Int) : Bool := Int64.minValue.toInt ≤ n && n ≤ Int64.maxValue.toInt

/-- The integer, if it fits in 64 bits. -/
def ofInt (n : Int) : Except EvalError Numeric :=
  if fits n then .ok (.integer n) else .error (.argument .integerOverflow)

/-- Reads an integer: an optional sign and ASCII digits, within 64 bits. -/
def readInteger? (text : List Char) : Option Int :=
  let (negative, digits) := Double.takeSign text
  if digits.isEmpty || !digits.all Double.isDigit then none
  else
    let n : Int := if negative then -(Double.ofDigits digits : Int) else Double.ofDigits digits
    if fits n then some n else none

/-- Reads a decimal: a number without power of ten and without words. -/
def readDecimal? (text : String) : Option Float :=
  if text.isEmpty || text.toList.any Char.isAlpha then none else Double.read? text

/-- Reads the number of a float or a double, whose only words are `INF` and `NaN`. -/
def readFloating? (text : String) : Option Float :=
  if text = "INF" ∨ text = "+INF" then some (1.0 / 0.0)
  else if text = "-INF" then some (-(1.0 / 0.0))
  else if text = "NaN" then some (0.0 / 0.0)
  else if text.toList.any (fun c => c.isAlpha && c != 'e' && c != 'E') then none
  else Double.read? text

/-- The local names of the integer datatypes. -/
def integerTypes : List String :=
  ["integer", "int", "long", "short", "byte", "nonNegativeInteger", "nonPositiveInteger",
    "positiveInteger", "negativeInteger", "unsignedLong", "unsignedInt", "unsignedShort",
    "unsignedByte"]

/-- The number that a literal stands for, if its datatype is numeric and its value is of the
datatype's form. Blanks around the value are ignored. -/
def ofLiteral? (l : Literal) : Option Numeric :=
  (Vocabulary.xsd.toList.isPrefixOf? l.datatype.toList).bind fun rest =>
    let localName := String.ofList rest
    let value := Text.trim l.value.toList
    if integerTypes.contains localName then (readInteger? value).map .integer
    else if localName = "decimal" then (readDecimal? (.ofList value)).map .decimal
    else if localName = "float" then
      (readFloating? (.ofList value)).map fun x => .float (Double.toSingle x)
    else if localName = "double" then (readFloating? (.ofList value)).map .double
    else none

/-- The number that a term stands for. -/
def ofTerm? (t : Term) : Option Numeric := t.literal?.bind ofLiteral?

/-- The number that a term stands for, or the error that it is none. -/
def ofTerm (t : Term) : Except EvalError Numeric :=
  match ofTerm? t with
  | some n => .ok n
  | none => .error (.type (.notNumeric t))

/-- The number as a double. -/
def toFloat : Numeric → Float
  | .integer n => Float.ofInt n
  | .decimal x => x
  | .float x => x
  | .double x => x

/-- The place of the number's kind in the order of promotion. -/
def rank : Numeric → Nat
  | .integer _ => 0
  | .decimal _ => 1
  | .float _ => 2
  | .double _ => 3

/-- The number is not a number. -/
def isNaN (n : Numeric) : Bool := n.toFloat.isNaN

/-- The number is neither a NaN nor zero. -/
def isTruthy (n : Numeric) : Bool := !n.isNaN && n.toFloat != 0.0

/-- The literal of a number. -/
def toLiteral : Numeric → Literal
  | .integer n => .typed (toString n) Vocabulary.xsdInteger
  | .decimal x => .typed (Double.toDecimalText x) Vocabulary.xsdDecimal
  | .float x => .typed (Double.toScientificText x) Vocabulary.xsdFloat
  | .double x => .typed (Double.toScientificText x) Vocabulary.xsdDouble

/-- The term of a number. -/
def toTerm (n : Numeric) : Term := .literal n.toLiteral

/-- Compares two numbers, two integers exactly and others as doubles; a NaN is unordered. -/
def compare? : Numeric → Numeric → Option Ordering
  | .integer a, .integer b => some (compare a b)
  | a, b => Double.compare? a.toFloat b.toFloat

/-- The number with its sign turned. -/
def negate : Numeric → Except EvalError Numeric
  | .integer n => ofInt (-n)
  | .decimal x => .ok (.decimal (-x))
  | .float x => .ok (.float (-x))
  | .double x => .ok (.double (-x))

/-- The number without its sign. -/
def abs : Numeric → Except EvalError Numeric
  | .integer n => ofInt n.natAbs
  | .decimal x => .ok (.decimal (Double.abs x))
  | .float x => .ok (.float (Double.abs x))
  | .double x => .ok (.double (Double.abs x))

/-- Applies a function that integers are fixed points of. -/
def mapFractional (f : Float → Float) : Numeric → Numeric
  | .integer n => .integer n
  | .decimal x => .decimal (f x)
  | .float x => .float (Double.toSingle (f x))
  | .double x => .double (f x)

/-- The least whole number that is not below. -/
def ceil (n : Numeric) : Numeric := n.mapFractional Double.ceil

/-- The greatest whole number that is not above. -/
def floor (n : Numeric) : Numeric := n.mapFractional Double.floor

/-- The nearest whole number, halves going up. -/
def round (n : Numeric) : Numeric := n.mapFractional fun x => Double.floor (x + 0.5)

/-- An operation on doubles. -/
def applyFloat : ArithmeticOp → Float → Float → Float
  | .add, a, b => a + b
  | .subtract, a, b => a - b
  | .multiply, a, b => a * b
  | .divide, a, b => a / b

/-- An operation on two numbers of any kinds. Division by zero is an error for every kind. -/
def arithmetic (op : ArithmeticOp) (left right : Numeric) : Except EvalError Numeric :=
  if op = .divide ∧ right.toFloat == 0.0 then .error .divisionByZero
  else
    match left, right with
    | .integer a, .integer b =>
      match op with
      | .add => ofInt (a + b)
      | .subtract => ofInt (a - b)
      | .multiply => ofInt (a * b)
      -- The quotient of integers is a decimal, even a whole one.
      | .divide => .ok (.decimal (Float.ofInt a / Float.ofInt b))
    | a, b =>
      let result := applyFloat op a.toFloat b.toFloat
      -- Two integers were handled above, so that the least kind here is the decimal.
      match max a.rank b.rank with
      | 0 => .ok (.decimal result)
      | 1 => .ok (.decimal result)
      | 2 => .ok (.float (Double.toSingle result))
      | _ => .ok (.double result)

end Numeric

end PagedSparql
