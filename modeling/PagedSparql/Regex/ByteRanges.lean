import PagedSparql.Text.CharSet

/-!
# Ranges of characters as ranges of bytes

An automaton over the bytes of a text reads a character as the bytes of its UTF-8 form. A range of
characters is cut into pieces whose encodings are exactly the sequences of bytes that lie, byte by
byte, in a sequence of ranges of bytes.
-/

namespace PagedSparql.Regex

/-- A range of bytes, with its first and its last byte. -/
abbrev ByteRange := Nat × Nat

namespace ByteRange

/-- The UTF-8 form of a code point. -/
def encode (n : Nat) : List Nat :=
  if n < 0x80 then [n]
  else if n < 0x800 then [0xc0 + n / 64, 0x80 + n % 64]
  else if n < 0x10000 then [0xe0 + n / 4096, 0x80 + n / 64 % 64, 0x80 + n % 64]
  else [0xf0 + n / 262144, 0x80 + n / 4096 % 64, 0x80 + n / 64 % 64, 0x80 + n % 64]

/-- The UTF-8 form of a text. -/
def encodeText (text : List Char) : List Nat := text.flatMap fun c => encode c.toNat

/-- Where to cut a range: the last code point of its first piece. The cuts divide encodings of
different lengths, and then the beginning and the end of the range from the full blocks of
encodings that share their leading bytes. -/
def cut? (first last : Nat) : Option Nat :=
  match [0x7f, 0x7ff, 0xffff].find? fun m => first ≤ m && m < last with
  | some m => some m
  | none =>
    if last < 0x80 then none
    else
      [64, 4096, 262144].findSome? fun block =>
        if first / block = last / block then none
        else if first % block ≠ 0 then some (first / block * block + block - 1)
        else if last % block ≠ block - 1 then some (last / block * block - 1)
        else none

/-- The pieces of a range of code points, each as a sequence of ranges of bytes. -/
def pieces (first last : Nat) : List (List ByteRange) :=
  match cut? first last with
  | some m =>
    if _h : first ≤ m ∧ m < last then pieces first m ++ pieces (m + 1) last
    else [(encode first).zip (encode last)]
  | none => [(encode first).zip (encode last)]
termination_by last - first

/-- The range of code points without the surrogates. -/
def scalars (r : Nat × Nat) : List (Nat × Nat) :=
  if r.1 < 0xe000 ∧ 0xd7ff < r.2 then
    [(r.1, 0xd7ff), (0xe000, r.2)].filter fun p => p.1 ≤ p.2
  else [r]

/-- The characters of a set as sequences of ranges of bytes, in ascending order. -/
def ofSet (set : Text.CharSet) : List (List ByteRange) :=
  set.ranges.flatMap fun r => (scalars r).flatMap fun p => pieces p.1 p.2

end ByteRange

end PagedSparql.Regex
