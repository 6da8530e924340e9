/-!
# Exact view of double precision numbers

A finite double is `± mantissa · 2 ^ exponent` with natural mantissa. `Double.shape` reads the parts
off the bit pattern; whatever is decided here about a double (its floor, its ceiling, its nearest
single precision number, its truncation to an integer) is decided on them in exact arithmetic.
-/

namespace PagedSparql.Double

/-- What a double stands for. -/
inductive Shape where
  /-- Not a number. -/
  | nan
  /-- An infinity. -/
  | infinite (negative : Bool)
  /-- The number `± mantissa · 2 ^ exponent`. -/
  | finite (negative : Bool) (mantissa : Nat) (exponent : Int)
  deriving DecidableEq

/-- The value of the sign bit in a bit pattern. -/
def signBit : Nat := 1 <<< 63

/-- The number of values of the fraction field, which is the value of the hidden bit. -/
def fractionSize : Nat := 1 <<< 52

/-- The number of values of the exponent field. -/
def fieldSize : Nat := 1 <<< 11

/-- The parts of a double, from its sign bit, its exponent field and its fraction field. -/
def shape (x : Float) : Shape :=
  let bits : Nat := x.toBits.toNat
  let negative := decide (signBit ≤ bits)
  let field : Nat := bits / fractionSize % fieldSize
  let fraction : Nat := bits % fractionSize
  -- The greatest exponent field is kept for infinities and NaNs.
  if field + 1 = fieldSize then
    if fraction = 0 then .infinite negative else .nan
  -- Subnormal numbers have no hidden bit.
  else if field = 0 then .finite negative fraction (-1074)
  else .finite negative (fraction + fractionSize) ((field : Int) - 1075)

/-- The double is neither an infinity nor a NaN. -/
def isFinite (x : Float) : Bool :=
  match shape x with
  | .finite _ _ _ => true
  | _ => false

/-- The double of a sign and a natural magnitude; a negative zero keeps its sign. -/
def ofSigned (negative : Bool) (magnitude : Nat) : Float :=
  let x := Float.ofNat magnitude
  if negative then -x else x

/-- Splits a magnitude at the binary point: its whole part, and whether a fraction is left. -/
def wholePart (mantissa : Nat) (exponent : Int) : Nat × Bool :=
  let unit := 1 <<< (-exponent).toNat
  let units := mantissa <<< exponent.toNat
  (units / unit, units % unit != 0)

/-- The greatest integral double that is not above the number. -/
def floor (x : Float) : Float :=
  match shape x with
  | .finite negative mantissa exponent =>
    match wholePart mantissa exponent with
    | (_, false) => x
    | (whole, true) => if negative then ofSigned true (whole + 1) else ofSigned false whole
  | _ => x

/-- The least integral double that is not below the number. -/
def ceil (x : Float) : Float :=
  match shape x with
  | .finite negative mantissa exponent =>
    match wholePart mantissa exponent with
    | (_, false) => x
    | (whole, true) => if negative then ofSigned true whole else ofSigned false (whole + 1)
  | _ => x

/-- The double without its sign. -/
def abs (x : Float) : Float := Float.ofBits (UInt64.ofNat (x.toBits.toNat % signBit))

/-- The integer that is left when the fraction of a finite double is cut off. -/
def truncate? (x : Float) : Option Int :=
  match shape x with
  | .finite negative mantissa exponent =>
    let whole := (wholePart mantissa exponent).1
    some (if negative then -(whole : Int) else whole)
  | _ => none

/-- The power of two with an exponent that single precision knows, as a double. -/
def powerOfTwo (exponent : Int) : Float :=
  Float.ofBits (UInt64.ofNat ((exponent + 1023).toNat * fractionSize))

/-- The quotient of two naturals rounded to the nearest natural, a tie going to the even one. -/
def roundDivEven (num den : Nat) : Nat :=
  let q := num / den
  let r := num % den
  if 2 * r < den then q
  else if 2 * r = den then q + q % 2
  else q + 1

/-- The nearest number with 24 significant bits and the exponents of single precision; a tie goes to
the even mantissa, and a magnitude of `2 ^ 128` or more becomes an infinity. -/
def toSingle (x : Float) : Float :=
  match shape x with
  | .finite negative mantissa exponent =>
    -- The exponent of the last place that single precision keeps.
    let coarse := max (exponent + (mantissa.log2 + 1) - 24) (-149)
    if mantissa = 0 then x
    -- Nothing is lost: all bits stand above that place and below the overflow.
    else if coarse ≤ exponent ∧ exponent + (mantissa.log2 + 1) ≤ 128 then x
    else
      let rounded := roundDivEven mantissa (1 <<< (coarse - exponent).toNat)
      -- Rounding up may carry the magnitude out of range.
      if 128 ≤ coarse ∨ 1 <<< 128 ≤ rounded <<< coarse.toNat then
        if negative then -(1.0 / 0.0) else 1.0 / 0.0
      else ofSigned negative rounded * powerOfTwo coarse
  | _ => x

/-- The order of all doubles, by the value of the bit pattern: negative zero below zero, and the
NaNs outside the infinities. -/
def totalKey (x : Float) : Int :=
  let bits : Nat := x.toBits.toNat
  if bits < signBit then bits else (signBit : Int) - 1 - bits

/-- Compares two doubles in the order of all doubles. -/
def totalCompare (x y : Float) : Ordering := compare (totalKey x) (totalKey y)

/-- Compares two doubles by value; a NaN is unordered. -/
def compare? (x y : Float) : Option Ordering :=
  if x < y then some .lt
  else if x == y then some .eq
  else if y < x then some .gt
  else none

end PagedSparql.Double
