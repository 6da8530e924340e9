import PagedSparql.Digest.Block

/-!
# Percent-encoding

The text is taken as UTF-8. A byte of an unreserved character (an ASCII letter or digit, `-`, `_`,
`.`, `~`) stands for itself, and every other byte for `%` and its two uppercase hexadecimal digits.
-/

namespace PagedSparql.Text

/-- The character is an ASCII letter or digit or one of `-`, `_`, `.`, `~`. -/
def isUnreserved (c : Char) : Bool :=
  c.isAlphanum || c == '-' || c == '_' || c == '.' || c == '~'

/-- The uppercase hexadecimal digit of a number below 16. -/
def upperHexDigit (n : Nat) : Char := if n < 10 then Char.ofNat (48 + n) else Char.ofNat (55 + n)

/-- The encoding of one byte. -/
def percentByte (b : UInt8) : List Char :=
  let c := Char.ofNat b.toNat
  if b < 128 && isUnreserved c then [c]
  else ['%', upperHexDigit (b.toNat / 16), upperHexDigit (b.toNat % 16)]

/-- The encoding of a text. -/
def percentEncode (text : String) : String := .ofList ((Digest.utf8 text).flatMap percentByte)

end PagedSparql.Text
