import PagedSparql.Number.Shortest

/-!
# Written forms of doubles

Three forms are written, all from the shortest digits that read back: the decimal form, always
positional; the scientific form `1.5E2` of `xsd:double`, with at least one digit after the point;
and the form of numbers in JSON text, positional for exponents from -5 to 16.
-/

namespace PagedSparql.Double

/-- A text of zeros. -/
def zeros (n : Nat) : String := .ofList (List.replicate n '0')

/-- The digits of a decimal, and the number of them that stand before the point. -/
def Decimal.parts (d : Decimal) : String × Int :=
  let digits := toString d.digits
  (digits, digits.length + d.exponent)

/-- Digits with a point after the first `point` of them, filled up with zeros. A number without
fraction has no point. -/
def positional (digits : String) (point : Int) : String :=
  if point ≤ 0 then "0." ++ zeros (-point).toNat ++ digits
  else if digits.length ≤ point then digits ++ zeros (point - digits.length).toNat
  else
    .ofList (digits.toList.take point.toNat) ++ "." ++ .ofList (digits.toList.drop point.toNat)

/-- A magnitude in positional notation, a whole one without point. -/
def positionalOf (mantissa : Nat) (exponent : Int) : String :=
  if mantissa = 0 then "0"
  else
    let (digits, point) := (shortest mantissa exponent).parts
    positional digits point

/-- The form of decimals: positional, whole numbers below `10 ^ 15` with one zero after the point
and greater ones without point. -/
def toDecimalText (x : Float) : String :=
  match shape x with
  | .nan => "NaN"
  | .infinite negative => if negative then "-inf" else "inf"
  | .finite negative mantissa exponent =>
    let (whole, hasFraction) := wholePart mantissa exponent
    let small := !hasFraction && decide (whole < Nat.pow 10 15)
    (if negative then "-" else "") ++ positionalOf mantissa exponent ++ if small then ".0" else ""

/-- Digits with the point after the first, at least one digit after it, and a power of ten. -/
def scientific (digits : String) (point : Int) : String :=
  let rest := digits.toList.drop 1
  .ofList (digits.toList.take 1) ++ "." ++ (if rest.isEmpty then "0" else .ofList rest) ++ "E" ++
    toString (point - 1)

/-- The scientific form, such as `1.5E2`, `INF` and `NaN`. -/
def toScientificText (x : Float) : String :=
  match shape x with
  | .nan => "NaN"
  | .infinite negative => if negative then "-INF" else "INF"
  | .finite negative mantissa exponent =>
    let (digits, point) := if mantissa = 0 then ("0", 1) else (shortest mantissa exponent).parts
    (if negative then "-" else "") ++ scientific digits point

/-- The form of numbers in JSON text: positional while the point stands at most five zeros before or
sixteen digits after the first digit, and with a power of ten otherwise. -/
def toJsonText (x : Float) : String :=
  match shape x with
  | .finite negative mantissa exponent =>
    let (digits, point) := if mantissa = 0 then ("0", 1) else (shortest mantissa exponent).parts
    let size : Int := digits.length
    let magnitude :=
      -- Both bounds count from the first digit.
      if -5 < point ∧ point ≤ 16 then
        positional digits point ++ if size ≤ point then ".0" else ""
      else
        let rest := digits.toList.drop 1
        .ofList (digits.toList.take 1) ++ (if rest.isEmpty then "" else "." ++ .ofList rest) ++ "e" ++
          toString (point - 1)
    (if negative then "-" else "") ++ magnitude
  | _ => "null"

end PagedSparql.Double
