import PagedSparql.Number.Double

/-!
# Reading doubles

A number is written as an optional sign, digits with at most one point among them, and an optional
power of ten; at least one digit is needed, before or after the point. The words `inf`, `infinity`
and `nan` are numbers too, in any case. The value is the double nearest to the number written.
-/

namespace PagedSparql.Double

/-- The ASCII digits. -/
def isDigit (c : Char) : Bool := '0' ≤ c && c ≤ '9'

/-- The number that ASCII digits denote. -/
def ofDigits (digits : List Char) : Nat := digits.foldl (fun n c => 10 * n + (c.toNat - 48)) 0

/-- A sign and what follows it; without one the number is positive. -/
def takeSign : List Char → Bool × List Char
  | '-' :: rest => (true, rest)
  | '+' :: rest => (false, rest)
  | text => (false, text)

/-- The double nearest to `digits · 10 ^ exponent`. Exponents that leave the range of doubles
whatever the digits are cut off first. -/
def ofDecimal (digits : Nat) (exponent : Int) : Float :=
  let size : Int := (toString digits).length
  if digits = 0 then 0.0
  else if 400 < size + exponent then 1.0 / 0.0
  else if size + exponent < -400 then 0.0
  else if exponent < 0 then Float.ofScientific digits true exponent.natAbs
  else Float.ofScientific digits false exponent.natAbs

/-- Reads the power of ten after a mantissa: nothing, or `e` and a signed number to the end. -/
def readExponent? : List Char → Option Int
  | [] => some 0
  | c :: rest =>
    if c = 'e' ∨ c = 'E' then
      let (negative, digits) := takeSign rest
      if digits.isEmpty || !digits.all isDigit then none
      else some (if negative then -(ofDigits digits : Int) else ofDigits digits)
    else none

/-- Reads a number without sign. -/
def readMagnitude? (text : List Char) : Option Float :=
  let whole := text.takeWhile isDigit
  let rest := text.dropWhile isDigit
  let (fraction, rest) :=
    match rest with
    | '.' :: rest => (rest.takeWhile isDigit, rest.dropWhile isDigit)
    | _ => ([], rest)
  -- A lone point is no number.
  if whole.isEmpty && fraction.isEmpty then none
  else
    (readExponent? rest).map fun exponent =>
      ofDecimal (ofDigits (whole ++ fraction)) (exponent - fraction.length)

/-- Reads a number or one of the words for infinity and NaN. -/
def read? (text : String) : Option Float :=
  let (negative, rest) := takeSign text.toList
  let magnitude? :=
    match (String.ofList rest).toLower with
    | "inf" => some (1.0 / 0.0)
    | "infinity" => some (1.0 / 0.0)
    | "nan" => some (0.0 / 0.0)
    | _ => readMagnitude? rest
  magnitude?.map fun x => if negative then -x else x

end PagedSparql.Double
