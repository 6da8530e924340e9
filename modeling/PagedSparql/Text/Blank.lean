import PagedSparql.Text.Span

/-!
# Blank characters

The characters that surround a term in a request or a row without being part of it: those with the
Unicode property `White_Space`. `trim` removes them at both ends of a text and nowhere else.
-/

namespace PagedSparql.Text

/-- The characters with the Unicode property `White_Space`. -/
def whiteSpace : List Span :=
  [(0x9, 0xd, 1), (0x20, 0x20, 1), (0x85, 0x85, 1), (0xa0, 0xa0, 1), (0x1680, 0x1680, 1),
    (0x2000, 0x200a, 1), (0x2028, 0x2029, 1), (0x202f, 0x202f, 1), (0x205f, 0x205f, 1),
    (0x3000, 0x3000, 1)]

/-- The character has the Unicode property `White_Space`. -/
def isBlank (c : Char) : Bool := inSpans whiteSpace c

/-- The text without its leading blanks. -/
def trimStart (text : List Char) : List Char := text.dropWhile isBlank

/-- The text without its trailing blanks. -/
def trimEnd (text : List Char) : List Char := (text.reverse.dropWhile isBlank).reverse

/-- The text without its leading and trailing blanks. -/
def trim (text : List Char) : List Char := trimEnd (trimStart text)

/-- A text that begins with a character that is not blank loses nothing at the front. -/
theorem trimStart_cons_of_not_isBlank {c : Char} {text : List Char} (h : isBlank c = false) :
    trimStart (c :: text) = c :: text := by
  simp [trimStart, List.dropWhile, h]

end PagedSparql.Text
