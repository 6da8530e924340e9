import PagedSparql.Json.Basic
import PagedSparql.Number.Reading

/-!
# Reading JSON text

The reader accepts a value with blanks around it and nothing else. Values may be nested up to 127
deep, control characters in texts must be escaped, and escaped surrogates must come in pairs. Of
several members with one key the last stays. A number that is no double is refused.

The functions take fuel; two units for each character of the text suffice, because a value and its
first part may begin at the same place but nothing else reads no character.
-/

namespace PagedSparql.Json

/-- The greatest depth to which values may be nested. -/
def maxDepth : Nat := 127

/-- The four characters that may stand between the parts of a value. -/
def isSpace (c : Char) : Bool := c == ' ' || c == '\n' || c == '\t' || c == '\r'

/-- The text without leading blanks. -/
def skipSpace (text : List Char) : List Char := text.dropWhile isSpace

/-- Reads a given word. -/
def word? (word : String) (value : Json) (text : List Char) : Option (Json × List Char) :=
  (word.toList.isPrefixOf? text).map fun rest => (value, rest)

/-- The value of a hexadecimal digit. -/
def hexValue? (c : Char) : Option Nat :=
  if Double.isDigit c then some (c.toNat - 48)
  else if 'a' ≤ c ∧ c ≤ 'f' then some (c.toNat - 87)
  else if 'A' ≤ c ∧ c ≤ 'F' then some (c.toNat - 55)
  else none

/-- Reads four hexadecimal digits. -/
def hex4? : List Char → Option (Nat × List Char)
  | a :: b :: c :: d :: rest => do
    let a ← hexValue? a
    let b ← hexValue? b
    let c ← hexValue? c
    let d ← hexValue? d
    some (((a * 16 + b) * 16 + c) * 16 + d, rest)
  | _ => none

/-- Reads the code unit after `\u`, and the second one of a surrogate pair. -/
def unicodeEscape? (text : List Char) : Option (Char × List Char) := do
  let (n, rest) ← hex4? text
  if 0xdc00 ≤ n ∧ n ≤ 0xdfff then none
  -- The first half of a pair: the second one has to follow right away.
  else if 0xd800 ≤ n ∧ n ≤ 0xdbff then
    match rest with
    | '\\' :: 'u' :: rest =>
      let (m, rest) ← hex4? rest
      if 0xdc00 ≤ m ∧ m ≤ 0xdfff then
        some (Char.ofNat (0x10000 + (n - 0xd800) * 0x400 + (m - 0xdc00)), rest)
      else none
    | _ => none
  else some (Char.ofNat n, rest)

/-- The character of a short escape. -/
def shortEscape? (c : Char) : Option Char :=
  match c with
  | '"' => some '"'
  | '\\' => some '\\'
  | '/' => some '/'
  | 'b' => some '\x08'
  | 'f' => some '\x0c'
  | 'n' => some '\n'
  | 'r' => some '\r'
  | 't' => some '\t'
  | _ => none

/-- Reads a text up to its closing quote. -/
def string? : Nat → List Char → Option (List Char × List Char)
  | 0, _ => none
  | _, [] => none
  | _, '"' :: rest => some ([], rest)
  | fuel + 1, '\\' :: 'u' :: rest =>
    (unicodeEscape? rest).bind fun (c, rest) =>
      (string? fuel rest).map fun (text, rest) => (c :: text, rest)
  | fuel + 1, '\\' :: e :: rest =>
    (shortEscape? e).bind fun c => (string? fuel rest).map fun (text, rest) => (c :: text, rest)
  | fuel + 1, c :: rest =>
    if c.toNat < 32 || c == '\\' then none
    else (string? fuel rest).map fun (text, rest) => (c :: text, rest)

/-- The digits before and after the point and the power of ten of a number. -/
structure NumberParts where
  /-- The number is negative. -/
  negative : Bool
  /-- The digits before the point. -/
  whole : List Char
  /-- The digits after the point, if there is one. -/
  fraction : Option (List Char)
  /-- The power of ten, if there is one. -/
  exponent : Option Int

/-- Reads the digits of a number. -/
def numberParts? (text : List Char) : Option (NumberParts × List Char) := do
  let (negative, rest) :=
    match text with
    | '-' :: rest => (true, rest)
    | _ => (false, text)
  let whole :=
    match rest with
    -- A number may begin with one zero only if that is its whole part.
    | '0' :: _ => ['0']
    | _ => rest.takeWhile Double.isDigit
  let rest := rest.drop whole.length
  if whole.isEmpty || rest.head?.any Double.isDigit then none
  else
    let (fraction, rest) ←
      match rest with
      | '.' :: rest =>
        let digits := rest.takeWhile Double.isDigit
        if digits.isEmpty then none else some (some digits, rest.drop digits.length)
      | _ => some (none, rest)
    let (exponent, rest) ←
      match rest with
      | c :: rest' =>
        if c = 'e' ∨ c = 'E' then
          let (below, digits) := Double.takeSign rest'
          let number := digits.takeWhile Double.isDigit
          let value : Int := Double.ofDigits number
          if number.isEmpty then none
          else some (some (if below then -value else value), digits.drop number.length)
        else some (none, rest)
      | [] => some (none, [])
    some (⟨negative, whole, fraction, exponent⟩, rest)

/-- A number with digits put behind it for as long as it fits in 64 bits, and how many of them that
were. -/
def appendDigits (n : Nat) : List Char → Nat × Nat
  | [] => (n, 0)
  | c :: rest =>
    -- Digits that do not fit any more only count as places.
    let longer := 10 * n + (c.toNat - 48)
    if longer < UInt64.size then
      let (m, taken) := appendDigits longer rest
      (m, taken + 1)
    else (n, 0)

/-- A double times a power of ten, if that is a double. Powers below `10 ^ (-308)` are divided by in
at most `steps + 1` steps, the first of them by `10 ^ 308`. -/
def scaleByTen? (steps : Nat) (x : Float) (exponent : Int) : Option Float :=
  let power (n : Nat) : Float := Float.ofScientific 1 false n
  if x == 0.0 then some x
  else if 308 < exponent then none
  else if 0 ≤ exponent then
    let y := x * power exponent.toNat
    if Double.isFinite y then some y else none
  else if -308 ≤ exponent then some (x / power exponent.natAbs)
  else
    match steps with
    | 0 => some 0.0
    | steps + 1 => scaleByTen? steps (x / power 308) (exponent + 308)

/-- The double that a number is read as: its leading digits, as many as fit in 64 bits, as a double
and then scaled by a power of ten. -/
def NumberParts.float? (n : NumberParts) : Option Float :=
  let fraction := n.fraction.getD []
  let (whole, wholeTaken) := appendDigits 0 n.whole
  let (digits, fractionTaken) := appendDigits whole fraction
  let exponent := n.exponent.getD 0 + (n.whole.length - wholeTaken : Nat) - (fractionTaken : Nat)
  (scaleByTen? 2 (Float.ofNat digits) exponent).map fun x => if n.negative then -x else x

/-- The value of a number: an integer if it is written as one and fits in 64 bits. A negative zero
is no integer. -/
def NumberParts.value? (n : NumberParts) : Option Json :=
  let integer : Int := Double.ofDigits n.whole
  let signed := if n.negative then -integer else integer
  let isInteger :=
    n.fraction.isNone && n.exponent.isNone &&
      -- A negative zero stays a double, which keeps its sign.
      if n.negative then decide (integer ≠ 0 ∧ Int64.minValue.toInt ≤ signed)
      else decide (signed < UInt64.size)
  if isInteger then some (.int signed) else n.float?.map .real

/-- Reads a number. -/
def number? (text : List Char) : Option (Json × List Char) :=
  (numberParts? text).bind fun (n, rest) => n.value?.map fun j => (j, rest)

mutual

/-- Reads a value that starts at the first character; it may be nested as deep as `depth`. -/
def value? : Nat → Nat → List Char → Option (Json × List Char)
  | 0, _, _ => none
  | fuel + 1, depth, text =>
    match text with
    | [] => none
    | '"' :: rest => (string? text.length rest).map fun (s, rest) => (.str (.ofList s), rest)
    | '[' :: rest =>
      match depth, skipSpace rest with
      | 0, _ => none
      | _, ']' :: rest => some (.arr [], rest)
      | depth + 1, rest => (items? fuel depth rest).map fun (items, rest) => (.arr items, rest)
    | '\x7b' :: rest =>
      match depth, skipSpace rest with
      | 0, _ => none
      | _, '\x7d' :: rest => some (.obj [], rest)
      | depth + 1, rest => (members? fuel depth rest).map fun (o, rest) => (mkObj o, rest)
    | 't' :: _ => word? "true" (.bool true) text
    | 'f' :: _ => word? "false" (.bool false) text
    | 'n' :: _ => word? "null" .null text
    | _ => number? text

/-- Reads the values of a list up to its closing bracket. -/
def items? : Nat → Nat → List Char → Option (List Json × List Char)
  | 0, _, _ => none
  | fuel + 1, depth, text =>
    match value? fuel depth text with
    | none => none
    | some (j, rest) =>
      match skipSpace rest with
      | ']' :: rest => some ([j], rest)
      | ',' :: rest =>
        (items? fuel depth (skipSpace rest)).map fun (items, rest) => (j :: items, rest)
      | _ => none

/-- Reads the members of an object up to its closing brace, in the order of the text. -/
def members? : Nat → Nat → List Char → Option (List (String × Json) × List Char)
  | 0, _, _ => none
  | fuel + 1, depth, text =>
    match text with
    | '"' :: rest =>
      match string? text.length rest with
      | none => none
      | some (key, rest) =>
        match skipSpace rest with
        | ':' :: rest =>
          match value? fuel depth (skipSpace rest) with
          | none => none
          | some (j, rest) =>
            match skipSpace rest with
            | '\x7d' :: rest => some ([(.ofList key, j)], rest)
            | ',' :: rest =>
              (members? fuel depth (skipSpace rest)).map fun (o, rest) =>
                ((.ofList key, j) :: o, rest)
            | _ => none
        | _ => none
    | _ => none

end

/-- Reads a value from a whole text. -/
def parse? (text : String) : Option Json :=
  let chars := skipSpace text.toList
  match value? (2 * chars.length + 2) maxDepth chars with
  | some (j, rest) => if (skipSpace rest).isEmpty then some j else none
  | none => none

end PagedSparql.Json
