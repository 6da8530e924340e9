/-!
# Spans of characters

Tables of characters are lists of spans. A span holds every `step`-th code point from `first` to
`last`; letters that alternate in case make up spans with step 2.
-/

namespace PagedSparql.Text

/-- Every `step`-th code point from `first` to `last`, as `(first, last, step)`. -/
abbrev Span := Nat × Nat × Nat

/-- The code point lies in the span. -/
def Span.holds (s : Span) (n : Nat) : Bool :=
  s.1 ≤ n && n ≤ s.2.1 && (n - s.1) % s.2.2 == 0

/-- The character lies in one of the spans. -/
def inSpans (spans : List Span) (c : Char) : Bool := spans.any (·.holds c.toNat)

end PagedSparql.Text
