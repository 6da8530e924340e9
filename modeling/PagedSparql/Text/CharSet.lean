import PagedSparql.Text.CaseFold

/-!
# Sets of characters

A set of characters is kept as ranges of code points in ascending order that neither overlap nor
touch, so that a set has one form and equality of sets is equality of their ranges. `ofRanges`
brings any ranges into this form; the set operations run over both operands once.
-/

namespace PagedSparql.Text

/-- A set of characters: ranges of code points, each with its first and its last one. -/
structure CharSet where
  /-- The ranges in ascending order. -/
  ranges : List (Nat × Nat)
deriving DecidableEq

namespace CharSet

/-- The last code point. -/
def lastCode : Nat := 0x10ffff

/-- The set without characters. -/
def empty : CharSet := ⟨[]⟩

/-- The set of all characters. -/
def all : CharSet := ⟨[(0, lastCode)]⟩

/-- Puts ranges in ascending order together where they overlap or touch. -/
def merge : List (Nat × Nat) → List (Nat × Nat)
  | [] => []
  | [r] => [r]
  | a :: b :: rest =>
    if b.1 ≤ a.2 + 1 then merge ((a.1, max a.2 b.2) :: rest) else a :: merge (b :: rest)
termination_by ranges => ranges.length

/-- The set of the characters in any of some ranges. -/
def ofRanges (ranges : List (Nat × Nat)) : CharSet := ⟨merge (ranges.mergeSort fun a b => a.1 ≤ b.1)⟩

/-- The ranges of a span: one, or as many as it holds code points. -/
def rangesOfSpan (s : Span) : List (Nat × Nat) :=
  if s.2.2 = 1 then [(s.1, s.2.1)]
  else (List.range ((s.2.1 - s.1) / s.2.2 + 1)).map fun i => (s.1 + i * s.2.2, s.1 + i * s.2.2)

/-- The set of the characters of a table. -/
def ofSpans (spans : List Span) : CharSet := ofRanges (spans.flatMap rangesOfSpan)

/-- The set of the characters from one to another. -/
def range (low high : Char) : CharSet := ofRanges [(low.toNat, high.toNat)]

/-- The set of one character. -/
def single (c : Char) : CharSet := range c c

/-- The code point is in the set. -/
def has (s : CharSet) (n : Nat) : Bool := s.ranges.any fun r => r.1 ≤ n && n ≤ r.2

/-- The character is in the set. -/
def contains (s : CharSet) (c : Char) : Bool := s.has c.toNat

/-- All characters of the set are ASCII characters. -/
def isAscii (s : CharSet) : Bool := s.ranges.all fun r => r.2 < 128

/-- The characters in one of two sets. -/
def union (a b : CharSet) : CharSet := ofRanges (a.ranges ++ b.ranges)

/-- The code point of the next character; surrogates are no characters. -/
def next (n : Nat) : Nat := if n = 0xd7ff then 0xe000 else n + 1

/-- The code point of the character before. -/
def prev (n : Nat) : Nat := if n = 0xe000 then 0xd7ff else n - 1

/-- The gaps after the ranges. A gap that holds surrogates only comes out as the range of the two
characters beside it. -/
def gaps : List (Nat × Nat) → List (Nat × Nat)
  | [] => []
  | [a] => if a.2 < lastCode then [(next a.2, lastCode)] else []
  | a :: b :: rest =>
    (min (next a.2) (prev b.1), max (next a.2) (prev b.1)) :: gaps (b :: rest)

/-- The characters that are not in the set. -/
def compl (s : CharSet) : CharSet :=
  match s.ranges with
  | [] => all
  | first :: _ => ⟨(if 0 < first.1 then [(0, prev first.1)] else []) ++ gaps s.ranges⟩

/-- The set or its complement. -/
def negateIf (negated : Bool) (s : CharSet) : CharSet := if negated then s.compl else s

/-- The ranges in which two lists of ranges overlap. -/
def overlaps : List (Nat × Nat) → List (Nat × Nat) → List (Nat × Nat)
  | a :: as, b :: bs =>
    let rest := if a.2 < b.2 then overlaps as (b :: bs) else overlaps (a :: as) bs
    if max a.1 b.1 ≤ min a.2 b.2 then (max a.1 b.1, min a.2 b.2) :: rest else rest
  | _, _ => []
termination_by as bs => as.length + bs.length

/-- The characters in both of two sets. -/
def inter (a b : CharSet) : CharSet := ⟨overlaps a.ranges b.ranges⟩

/-- What is left of some ranges without some others. -/
def remains : List (Nat × Nat) → List (Nat × Nat) → List (Nat × Nat)
  | [], _ => []
  | as, [] => as
  | a :: as, b :: bs =>
    if b.2 < a.1 then remains (a :: as) bs
    else if a.2 < b.1 then a :: remains as (b :: bs)
    else
      let rest :=
        if b.2 < a.2 then remains ((next b.2, a.2) :: as) bs else remains as (b :: bs)
      if a.1 < b.1 then (a.1, prev b.1) :: rest else rest
termination_by as bs => as.length + bs.length

/-- The characters of the first set that are not in the second. -/
def diff (a b : CharSet) : CharSet := ⟨remains a.ranges b.ranges⟩

/-- The characters in exactly one of two sets. -/
def symmDiff (a b : CharSet) : CharSet := (a.union b).diff (a.inter b)

/-- The characters that fold to another one, each with that one. -/
def foldPairs : List (Nat × Nat) :=
  foldRuns.flatMap fun r =>
    (List.range ((r.2.1 - r.1) / r.2.2.1 + 1)).map fun i =>
      (r.1 + i * r.2.2.1, (((r.1 + i * r.2.2.1 : Nat) : Int) + r.2.2.2).toNat)

/-- The characters that are, up to case, in the set. -/
def foldCase (s : CharSet) : CharSet :=
  let folded := ofRanges ((foldPairs.filter fun p => s.has p.1 || s.has p.2).map fun p => (p.2, p.2))
  let variants := (foldPairs.filter fun p => folded.has p.2).map fun p => (p.1, p.1)
  ofRanges (s.ranges ++ folded.ranges ++ variants)

/-- The set with the other case of its ASCII letters. -/
def foldAscii (s : CharSet) : CharSet :=
  let letters := (List.range 26).filter fun i => s.has (65 + i) || s.has (97 + i)
  ofRanges (s.ranges ++ letters.flatMap fun i => [(65 + i, 65 + i), (97 + i, 97 + i)])

end CharSet

end PagedSparql.Text
