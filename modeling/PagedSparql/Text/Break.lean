import PagedSparql.Text.CharSet
import PagedSparql.Text.Category
import PagedSparql.Text.Script
import PagedSparql.Text.Property

/-!
# Breaks between graphemes, words and sentences

The classes of characters that decide where a grapheme, a word or a sentence ends, by the long name
of the class in lower case without separators. Most of them are made up of categories and
properties; the others are listed.
-/

namespace PagedSparql.Text.Break

open Category

/-- The modifiers of emoji. -/
def emojiModifier : CharSet := ⟨[(0x1f3fb, 0x1f3ff)]⟩

/-- The letters that stand for regions. -/
def regionalIndicator : CharSet := ⟨[(0x1f1e6, 0x1f1ff)]⟩

/-- The character that joins two others without width. -/
def joiner : CharSet := ⟨[(0x200d, 0x200d)]⟩

/-- The characters that extend a grapheme. -/
def graphemeExtend : List Span := nonspacingMark ++ enclosingMark ++ Property.otherGraphemeExtend

/-- The classes at breaks between graphemes. -/
def grapheme? (name : String) : Option CharSet :=
  let extend := (CharSet.ofSpans graphemeExtend).union emojiModifier
  match name with
  | "cr" => some ⟨[(0xd, 0xd)]⟩
  | "lf" => some ⟨[(0xa, 0xa)]⟩
  | "control" =>
    let ignored := (CharSet.ofSpans Property.defaultIgnorable).diff (.ofSpans assigned)
    let controls :=
      (CharSet.ofSpans (lineSeparator ++ paragraphSeparator ++ control ++ format)).union ignored
    let others : CharSet := ⟨[(0xa, 0xa), (0xd, 0xd), (0x200c, 0x200d)]⟩
    some (((controls.diff others).diff (.ofSpans Property.prependedConcatenationMark)).diff extend)
  | "extend" => some extend
  | "zwj" => some joiner
  | "regionalindicator" => some regionalIndicator
  | "prepend" =>
    some (.ofSpans (Property.prependedConcatenationMark ++
      [(0xd4e, 0xd4e, 1), (0x111c2, 0x111c3, 1), (0x113d1, 0x113d1, 1), (0x1193f, 0x11941, 2),
        (0x11a3a, 0x11a3a, 1), (0x11a84, 0x11a89, 1), (0x11d46, 0x11d46, 1),
        (0x11f02, 0x11f02, 1)]))
  | "spacingmark" =>
    let others : CharSet :=
      .ofSpans
        [(0x102b, 0x102c, 1), (0x1038, 0x1038, 1), (0x1062, 0x1064, 1), (0x1067, 0x106d, 1),
          (0x1083, 0x1083, 1), (0x1087, 0x108c, 1), (0x108f, 0x108f, 1), (0x109a, 0x109c, 1),
          (0x1a61, 0x1a61, 1), (0x1a63, 0x1a64, 1), (0xaa7b, 0xaa7d, 2), (0x11720, 0x11721, 1)]
    let marks : CharSet := .ofSpans (spacingMark ++ [(0xe33, 0xe33, 1), (0xeb3, 0xeb3, 1)])
    some ((marks.diff extend).diff others)
  | "l" => some ⟨[(0x1100, 0x115f), (0xa960, 0xa97c)]⟩
  | "v" => some ⟨[(0x1160, 0x11a7), (0xd7b0, 0xd7c6), (0x16d63, 0x16d63), (0x16d67, 0x16d6a)]⟩
  | "t" => some ⟨[(0x11a8, 0x11ff), (0xd7cb, 0xd7fb)]⟩
  | "lv" => some (.ofSpans [(0xac00, 0xd788, 28)])
  | "lvt" => some (CharSet.diff ⟨[(0xac00, 0xd7a3)]⟩ (.ofSpans [(0xac00, 0xd788, 28)]))
  | _ => none

/-- The characters of a script, by its short name. -/
def script (short : String) : List Span :=
  ((Script.byName.find? (·.2.1 == short)).map (·.2.2)).getD []

/-- The letters of Katakana and the signs used with them. -/
def katakana : CharSet :=
  .ofSpans (script "kana" ++
    [(0x3031, 0x3035, 1), (0x309b, 0x309c, 1), (0x30a0, 0x30a0, 1), (0x30fc, 0x30fc, 1),
      (0xff70, 0xff70, 1)])

/-- The letters of Hebrew. -/
def hebrewLetter : CharSet := (CharSet.ofSpans (script "hebr")).inter (.ofSpans otherLetter)

/-- The marks that extend a word. -/
def wordExtend : CharSet :=
  ((CharSet.ofSpans (graphemeExtend ++ spacingMark)).union emojiModifier).diff joiner

/-- The signs before digits that count as digits. -/
def numberSign : CharSet :=
  (CharSet.ofSpans Property.prependedConcatenationMark).diff ⟨[(0x70f, 0x70f)]⟩

/-- The scripts that are written without blanks between words. -/
def unspaced : List Span :=
  ["thai", "laoo", "mymr", "khmr", "tale", "talu", "lana", "tavt", "ahom"].flatMap script

/-- The letters of words. -/
def wordLetter : CharSet :=
  let letters : CharSet :=
    .ofSpans (alphabetic ++
      [(0x2c2, 0x2c5, 1), (0x2d2, 0x2d7, 1), (0x2de, 0x2df, 1), (0x2e5, 0x2eb, 1),
        (0x2ed, 0x2ed, 1), (0x2ef, 0x2ff, 1), (0x55a, 0x55c, 1), (0x55e, 0x55e, 1),
        (0x58a, 0x58a, 1), (0x5f3, 0x5f3, 1), (0x70f, 0x70f, 1), (0xa708, 0xa716, 1),
        (0xa720, 0xa721, 1), (0xa789, 0xa78a, 1), (0xab5b, 0xab5b, 1)])
  let others : CharSet := .ofSpans (Property.ideographic ++ script "hira" ++ unspaced)
  (letters.diff others).diff ((katakana.union hebrewLetter).union wordExtend)

/-- The formatting characters inside of words. -/
def wordFormat : CharSet :=
  ((CharSet.ofSpans format).diff ⟨[(0x200b, 0x200d)]⟩).diff
    (.ofSpans (graphemeExtend ++ Property.prependedConcatenationMark))

/-- The digits of words. -/
def wordNumeric : CharSet :=
  ((CharSet.ofSpans decimalNumber).union ⟨[(0x66b, 0x66b)]⟩).union numberSign

/-- The classes at breaks between words. -/
def word? (name : String) : Option CharSet :=
  match name with
  | "cr" => some ⟨[(0xd, 0xd)]⟩
  | "lf" => some ⟨[(0xa, 0xa)]⟩
  | "newline" => some ⟨[(0xb, 0xc), (0x85, 0x85), (0x2028, 0x2029)]⟩
  | "extend" => some wordExtend
  | "zwj" => some joiner
  | "format" => some wordFormat
  | "regionalindicator" => some regionalIndicator
  | "katakana" => some katakana
  | "hebrewletter" => some hebrewLetter
  | "aletter" => some wordLetter
  | "singlequote" => some ⟨[(0x27, 0x27)]⟩
  | "doublequote" => some ⟨[(0x22, 0x22)]⟩
  | "midnumlet" =>
    some ⟨[(0x2e, 0x2e), (0x2018, 0x2019), (0x2024, 0x2024), (0xfe52, 0xfe52), (0xff07, 0xff07),
      (0xff0e, 0xff0e)]⟩
  | "midletter" =>
    some ⟨[(0x3a, 0x3a), (0xb7, 0xb7), (0x387, 0x387), (0x55f, 0x55f), (0x5f4, 0x5f4),
      (0x2027, 0x2027), (0xfe13, 0xfe13), (0xfe55, 0xfe55), (0xff1a, 0xff1a)]⟩
  | "midnum" =>
    some ⟨[(0x2c, 0x2c), (0x3b, 0x3b), (0x37e, 0x37e), (0x589, 0x589), (0x60c, 0x60d),
      (0x66c, 0x66c), (0x7f8, 0x7f8), (0x2044, 0x2044), (0xfe10, 0xfe10), (0xfe14, 0xfe14),
      (0xfe50, 0xfe50), (0xfe54, 0xfe54), (0xff0c, 0xff0c), (0xff1b, 0xff1b)]⟩
  | "numeric" => some wordNumeric
  | "extendnumlet" =>
    some ⟨[(0x5f, 0x5f), (0x202f, 0x202f), (0x203f, 0x2040), (0x2054, 0x2054), (0xfe33, 0xfe34),
      (0xfe4d, 0xfe4f), (0xff3f, 0xff3f)]⟩
  | "wsegspace" =>
    some ⟨[(0x20, 0x20), (0x1680, 0x1680), (0x2000, 0x2006), (0x2008, 0x200a), (0x205f, 0x205f),
      (0x3000, 0x3000)]⟩
  | _ => none

/-- The marks that extend a part of a sentence. -/
def sentenceExtend : CharSet := (CharSet.ofSpans (graphemeExtend ++ spacingMark)).union joiner

/-- The lowercase letters of sentences; those of Georgian do not count. -/
def sentenceLower : CharSet :=
  ((CharSet.ofSpans lowercase).diff (.ofSpans graphemeExtend)).diff
    ⟨[(0x10d0, 0x10fa), (0x10fd, 0x10ff)]⟩

/-- The uppercase letters of sentences. -/
def sentenceUpper : CharSet :=
  (CharSet.ofSpans (uppercase ++ titlecaseLetter)).diff ⟨[(0x1c90, 0x1cba), (0x1cbd, 0x1cbf)]⟩

/-- The full stops. -/
def fullStop : CharSet := ⟨[(0x2e, 0x2e), (0x2024, 0x2024), (0xfe52, 0xfe52), (0xff0e, 0xff0e)]⟩

/-- The classes at breaks between sentences. -/
def sentence? (name : String) : Option CharSet :=
  match name with
  | "cr" => some ⟨[(0xd, 0xd)]⟩
  | "lf" => some ⟨[(0xa, 0xa)]⟩
  | "sep" => some ⟨[(0x85, 0x85), (0x2028, 0x2029)]⟩
  | "extend" => some sentenceExtend
  | "format" =>
    some ((CharSet.ofSpans format).diff (sentenceExtend.union numberSign))
  | "sp" =>
    some ⟨[(0x9, 0x9), (0xb, 0xc), (0x20, 0x20), (0xa0, 0xa0), (0x1680, 0x1680), (0x2000, 0x200a),
      (0x202f, 0x202f), (0x205f, 0x205f), (0x3000, 0x3000)]⟩
  | "lower" => some sentenceLower
  | "upper" => some sentenceUpper
  | "oletter" =>
    let letters := (CharSet.ofSpans alphabetic).union ⟨[(0x5f3, 0x5f3)]⟩
    some (((letters.diff sentenceLower).diff sentenceUpper).diff sentenceExtend)
  | "numeric" => some (wordNumeric.union ⟨[(0x66c, 0x66c)]⟩)
  | "aterm" => some fullStop
  | "scontinue" =>
    some ⟨[(0x2c, 0x2d), (0x3a, 0x3a), (0x55d, 0x55d), (0x60c, 0x60d), (0x7f8, 0x7f8),
      (0x1802, 0x1802), (0x1808, 0x1808), (0x2013, 0x2014), (0x3001, 0x3001), (0xfe10, 0xfe11),
      (0xfe13, 0xfe13), (0xfe31, 0xfe32), (0xfe50, 0xfe51), (0xfe55, 0xfe55), (0xfe58, 0xfe58),
      (0xfe63, 0xfe63), (0xff0c, 0xff0d), (0xff1a, 0xff1a), (0xff64, 0xff64)]⟩
  | "sterm" => some ((CharSet.ofSpans Property.sentenceTerminal).diff fullStop)
  | "close" =>
    some (.ofSpans (openPunctuation ++ closePunctuation ++ initialPunctuation ++ finalPunctuation ++
      [(0x22, 0x22, 1), (0x27, 0x27, 1), (0x275b, 0x2760, 1), (0x2e00, 0x2e01, 1),
        (0x2e06, 0x2e08, 1), (0x2e0b, 0x2e0b, 1), (0x1f676, 0x1f678, 1)]))
  | _ => none

end PagedSparql.Text.Break
