import PagedSparql.Number.Double

/-!
# Shortest decimal digits

The reals that round to a given double form an interval around it; its ends belong to it when the
mantissa is even. `shortest` finds the decimal with the fewest digits in that interval. On the grid
of the multiples of a power of ten, if any point lies in the interval, then one of the two
neighbours of the double does; so it walks the grids from the coarsest, takes the first with a
neighbour inside, and of two such neighbours the nearer one (the upper at equal distance).

All comparisons are between natural numbers: the double and the ends of its interval are taken as
multiples of a quarter of its last binary place.
-/

namespace PagedSparql.Double

/-- A positive decimal `digits · 10 ^ exponent`. -/
structure Decimal where
  /-- The digits, as a number. -/
  digits : Nat
  /-- The power of ten. -/
  exponent : Int
  deriving DecidableEq

/-- The same decimal without trailing zero digits; at most `fuel` of them are dropped. -/
def Decimal.normalize : Nat → Decimal → Decimal
  | 0, d => d
  | fuel + 1, d =>
    if d.digits ≠ 0 ∧ d.digits % 10 = 0 then normalize fuel ⟨d.digits / 10, d.exponent + 1⟩ else d

/-- A magnitude with the interval of the reals that round to it, each a natural multiple of
`2 ^ unit`. -/
structure Interval where
  /-- The lower end. -/
  low : Nat
  /-- The magnitude. -/
  value : Nat
  /-- The upper end. -/
  high : Nat
  /-- The ends belong to the interval. -/
  closed : Bool
  /-- The exponent of the common unit. -/
  unit : Int

/-- The interval of a double: half a place to each side, but a quarter below a power of two, where
the next smaller double is nearer. -/
def interval (mantissa : Nat) (exponent : Int) : Interval :=
  let narrow := mantissa = fractionSize ∧ -1074 < exponent
  { low := 4 * mantissa - if narrow then 1 else 2
    value := 4 * mantissa
    high := 4 * mantissa + 2
    closed := mantissa % 2 = 0
    unit := exponent - 2 }

/-- The factors `(p, q)` with `2 ^ two · 10 ^ (- ten) = p / q`. -/
def scale (two ten : Int) : Nat × Nat :=
  (Nat.pow 10 (-ten).toNat <<< two.toNat, Nat.pow 10 ten.toNat <<< (-two).toNat)

/-- The neighbour of the magnitude on the grid of the multiples of `10 ^ ten` that lies in the
interval, the nearer one if both do. -/
def onGrid? (i : Interval) (ten : Int) : Option Decimal :=
  let (p, q) := scale i.unit ten
  let below := i.value * p / q
  let lowInside := if i.closed then decide (i.low * p ≤ below * q) else decide (i.low * p < below * q)
  let highInside :=
    if i.closed then decide ((below + 1) * q ≤ i.high * p) else decide ((below + 1) * q < i.high * p)
  let distance := i.value * p - below * q
  -- Of two points inside, the lower one wins only if it is strictly nearer.
  if lowInside && (!highInside || decide (2 * distance < q)) then some ⟨below, ten⟩
  else if highInside then some ⟨below + 1, ten⟩
  else none

/-- The exponent of the leading decimal digit of a positive magnitude. -/
def leadingExponent (i : Interval) : Int :=
  let (p, q) := scale i.unit 0
  let num := i.value * p
  -- At least one: count the digits of the whole part.
  if q ≤ num then (toString (num / q)).length - 1
  else
    -- Below one: the leading digit stands at one of two places, which the product tells apart.
    let c := (toString (q / num)).length
    if q ≤ num * Nat.pow 10 (c - 1) then 1 - (c : Int) else -(c : Int)

/-- The first hit on the grids with `ten`, `ten - 1`, … as exponents. -/
def searchGrids (i : Interval) : Nat → Int → Option Decimal
  | 0, _ => none
  | fuel + 1, ten => (onGrid? i ten).or (searchGrids i fuel (ten - 1))

/-- The shortest decimal that rounds to the positive double `mantissa · 2 ^ exponent`. Seventeen
digits always suffice. -/
def shortest (mantissa : Nat) (exponent : Int) : Decimal :=
  let i := interval mantissa exponent
  let ten := leadingExponent i
  ((searchGrids i 18 ten).getD ⟨mantissa, 0⟩).normalize 20

end PagedSparql.Double
