import PagedSparql.Text.CharSet
import PagedSparql.Text.Category
import PagedSparql.Text.Script
import PagedSparql.Text.ScriptExtension
import PagedSparql.Text.Property
import PagedSparql.Text.Age
import PagedSparql.Text.Break
import PagedSparql.Text.Blank

/-!
# Unicode properties in patterns

A pattern names a set of characters by a property that they have, by their category, by their script
or by a property and its value. In names, case, blanks, hyphens and underscores do not count. A
property that has a category or a script of the same name comes first.
-/

namespace PagedSparql.Regex.Property

open Text (CharSet Span)
open Text.Category

/-- A name in lower case, without separators and without a leading `is`. -/
def normalizeName (name : List Char) : String :=
  let plain (name : List Char) : List Char :=
    (name.filter fun c => c.toNat < 128 && c != ' ' && c != '_' && c != '-').map Char.toLower
  match name with
  | i :: s :: rest =>
    if i.toLower = 'i' ∧ s.toLower = 's' then
      -- `isc` is the short name of a property, not the category `c`.
      if plain rest = ['c'] then "isc" else .ofList (plain rest)
    else .ofList (plain name)
  | _ => .ofList (plain name)

/-- The long name of something that has other names too. -/
def longName (others : List (String × String)) (name : String) : String :=
  (others.lookup name).getD name

/-- Looks a table up by either of its names. -/
def findTable? (tables : List (String × String × List Span)) (name : String) :
    Option (List Span) :=
  (tables.find? fun t => t.1 == name || t.2.1 == name).map (·.2.2)

/-- Names of categories beside their long and short ones. -/
def categoryNames : List (String × String) :=
  [("unassigned", "cn"), ("other", "c"), ("cntrl", "cc"), ("digit", "nd"), ("punct", "p"),
    ("combiningmark", "m")]

/-- The characters of a general category. -/
def category? (name : String) : Option CharSet :=
  match longName categoryNames name with
  | "any" => some .all
  | "assigned" => some (.ofSpans assigned)
  | "ascii" => some (.range '\x00' '\x7f')
  | "cn" => some (CharSet.ofSpans assigned).compl
  | "c" =>
    some ((CharSet.ofSpans assigned).compl.union (.ofSpans (control ++ format ++ privateUse)))
  | name => (findTable? byName name).map .ofSpans

/-- The short names of properties that characters have or have not. -/
def binaryNames : List (String × String) :=
  [("ahex", "asciihexdigit"), ("alpha", "alphabetic"), ("bidic", "bidicontrol"),
    ("ci", "caseignorable"), ("cwcf", "changeswhencasefolded"), ("cwcm", "changeswhencasemapped"),
    ("cwl", "changeswhenlowercased"), ("cwt", "changeswhentitlecased"),
    ("cwu", "changeswhenuppercased"), ("dep", "deprecated"),
    ("di", "defaultignorablecodepoint"), ("dia", "diacritic"), ("ebase", "emojimodifierbase"),
    ("ecomp", "emojicomponent"), ("emod", "emojimodifier"), ("epres", "emojipresentation"),
    ("ext", "extender"), ("extpict", "extendedpictographic"), ("grbase", "graphemebase"),
    ("grext", "graphemeextend"), ("grlink", "graphemelink"), ("hex", "hexdigit"),
    ("idc", "idcontinue"), ("ideo", "ideographic"), ("ids", "idstart"),
    ("idsb", "idsbinaryoperator"), ("idst", "idstrinaryoperator"), ("idsu", "idsunaryoperator"),
    ("joinc", "joincontrol"), ("loe", "logicalorderexception"), ("lower", "lowercase"),
    ("mcm", "modifiercombiningmark"), ("nchar", "noncharactercodepoint"),
    ("oalpha", "otheralphabetic"), ("odi", "otherdefaultignorablecodepoint"),
    ("ogrext", "othergraphemeextend"), ("oidc", "otheridcontinue"), ("oids", "otheridstart"),
    ("olower", "otherlowercase"), ("omath", "othermath"), ("oupper", "otheruppercase"),
    ("patsyn", "patternsyntax"), ("patws", "patternwhitespace"),
    ("pcm", "prependedconcatenationmark"), ("qmark", "quotationmark"),
    ("ri", "regionalindicator"), ("sd", "softdotted"), ("space", "whitespace"),
    ("sterm", "sentenceterminal"), ("term", "terminalpunctuation"), ("uideo", "unifiedideograph"),
    ("upper", "uppercase"), ("vs", "variationselector"), ("wspace", "whitespace"),
    ("xidc", "xidcontinue"), ("xids", "xidstart")]

/-- The characters of some tables. -/
def set (spans : List Span) : CharSet := .ofSpans spans

/-- Characters beyond letters that may begin a name. -/
def otherIdStart : List Span :=
  [(0x1885, 0x1886, 1), (0x2118, 0x2118, 1), (0x212e, 0x212e, 1), (0x309b, 0x309c, 1)]

/-- Characters beyond letters, marks and digits that may go on with a name. -/
def otherIdContinue : List Span :=
  [(0xb7, 0xb7, 1), (0x387, 0x387, 1), (0x1369, 0x1371, 1), (0x19da, 0x19da, 1),
    (0x200c, 0x200d, 1), (0x30fb, 0x30fb, 1), (0xff65, 0xff65, 1)]

/-- The characters of the syntax of patterns and its blanks. -/
def patternCharacters : List Span := Text.Property.patternSyntax ++ Text.Property.patternWhiteSpace

/-- The characters that may begin a name. -/
def idStart (_ : Unit) : CharSet :=
  (set (letter ++ letterNumber ++ otherIdStart)).diff (set patternCharacters)

/-- The characters that may stand in a name. -/
def idContinue (_ : Unit) : CharSet :=
  (set (letter ++ letterNumber ++ otherIdStart ++ nonspacingMark ++ spacingMark ++ decimalNumber ++
    connectorPunctuation ++ otherIdContinue)).diff (set patternCharacters)

/-- The characters of names that are no characters of names in some compatible form. -/
def notInCompatibleNames : List Span :=
  [(0x37a, 0x37a, 1), (0x309b, 0x309c, 1), (0xfc5e, 0xfc63, 1), (0xfdfa, 0xfdfb, 1),
    (0xfe70, 0xfe7e, 2)]

/-- The characters of mathematical names that are no letters. -/
def mathNames : List Span :=
  [(0x2202, 0x2202, 1), (0x2207, 0x2207, 1), (0x221e, 0x221e, 1), (0x1d6c1, 0x1d6c1, 1),
    (0x1d6db, 0x1d6db, 1), (0x1d6fb, 0x1d6fb, 1), (0x1d715, 0x1d715, 1), (0x1d735, 0x1d735, 1),
    (0x1d74f, 0x1d74f, 1), (0x1d76f, 0x1d76f, 1), (0x1d789, 0x1d789, 1), (0x1d7a9, 0x1d7a9, 1),
    (0x1d7c3, 0x1d7c3, 1)]

/-- The characters that have a property. -/
def binary? (name : String) : Option CharSet :=
  match longName binaryNames name with
  | "alphabetic" => some (set alphabetic)
  | "asciihexdigit" => some ⟨[(48, 57), (65, 70), (97, 102)]⟩
  | "bidicontrol" => some (set Text.Property.bidiControl)
  | "caseignorable" => some (set Text.caseIgnorable)
  | "cased" => some (set Text.cased)
  | "changeswhencasefolded" => some (set Text.Property.changesWhenCasefolded)
  | "changeswhencasemapped" =>
    some (set (Text.Property.changesWhenLowercased ++ Text.Property.changesWhenTitlecased ++
      Text.Property.changesWhenUppercased))
  | "changeswhenlowercased" => some (set Text.Property.changesWhenLowercased)
  | "changeswhentitlecased" => some (set Text.Property.changesWhenTitlecased)
  | "changeswhenuppercased" => some (set Text.Property.changesWhenUppercased)
  | "dash" => some (set Text.Property.dash)
  | "defaultignorablecodepoint" => some (set Text.Property.defaultIgnorable)
  | "deprecated" => some (set Text.Property.deprecated)
  | "diacritic" => some (set Text.Property.diacritic)
  | "emoji" => some (set Text.Property.emoji)
  | "emojicomponent" => some (set Text.Property.emojiComponent)
  | "emojimodifier" => some Text.Break.emojiModifier
  | "emojimodifierbase" => some (set Text.Property.emojiModifierBase)
  | "emojipresentation" => some (set Text.Property.emojiPresentation)
  | "extendedpictographic" => some (set Text.Property.extendedPictographic)
  | "extender" => some (set Text.Property.extender)
  | "graphemebase" =>
    let others := set (control ++ format ++ privateUse ++ lineSeparator ++ paragraphSeparator ++
      Text.Break.graphemeExtend)
    some ((set assigned).diff others)
  | "graphemeextend" => some (set Text.Break.graphemeExtend)
  | "graphemelink" => some (set Text.Property.graphemeLink)
  | "hexdigit" =>
    some ⟨[(48, 57), (65, 70), (97, 102), (0xff10, 0xff19), (0xff21, 0xff26), (0xff41, 0xff46)]⟩
  | "hyphen" => some (set Text.Property.hyphen)
  | "idcompatmathcontinue" =>
    some (set (mathNames ++ [(0xb2, 0xb3, 1), (0xb9, 0xb9, 1), (0x2070, 0x2070, 1),
      (0x2074, 0x207e, 1), (0x2080, 0x208e, 1)]))
  | "idcompatmathstart" => some (set mathNames)
  | "idcontinue" => some (idContinue ())
  | "ideographic" => some (set Text.Property.ideographic)
  | "idsbinaryoperator" => some ⟨[(0x2ff0, 0x2ff1), (0x2ff4, 0x2ffd), (0x31ef, 0x31ef)]⟩
  | "idstart" => some (idStart ())
  | "idstrinaryoperator" => some ⟨[(0x2ff2, 0x2ff3)]⟩
  | "idsunaryoperator" => some ⟨[(0x2ffe, 0x2fff)]⟩
  | "joincontrol" => some ⟨[(0x200c, 0x200d)]⟩
  | "logicalorderexception" => some (set Text.Property.logicalOrderException)
  | "lowercase" => some (set lowercase)
  | "math" => some (set (mathSymbol ++ Text.Property.otherMath))
  | "modifiercombiningmark" => some (set Text.Property.modifierCombiningMark)
  | "noncharactercodepoint" => some (set Text.Property.noncharacter)
  | "otheralphabetic" => some ((set alphabetic).diff (set (letter ++ letterNumber)))
  | "otherdefaultignorablecodepoint" =>
    some (set [(0x34f, 0x34f, 1), (0x115f, 0x1160, 1), (0x17b4, 0x17b5, 1), (0x2065, 0x2065, 1),
      (0x3164, 0x3164, 1), (0xffa0, 0xffa0, 1), (0xfff0, 0xfff8, 1), (0xe0000, 0xe0000, 1),
      (0xe0002, 0xe001f, 1), (0xe0080, 0xe00ff, 1), (0xe01f0, 0xe0fff, 1)])
  | "othergraphemeextend" => some (set Text.Property.otherGraphemeExtend)
  | "otheridcontinue" => some (set otherIdContinue)
  | "otheridstart" => some (set otherIdStart)
  | "otherlowercase" => some ((set lowercase).diff (set lowercaseLetter))
  | "othermath" => some (set Text.Property.otherMath)
  | "otheruppercase" => some ((set uppercase).diff (set uppercaseLetter))
  | "patternsyntax" => some (set Text.Property.patternSyntax)
  | "patternwhitespace" => some (set Text.Property.patternWhiteSpace)
  | "prependedconcatenationmark" => some (set Text.Property.prependedConcatenationMark)
  | "quotationmark" => some (set Text.Property.quotationMark)
  | "radical" => some (set Text.Property.radical)
  | "regionalindicator" => some Text.Break.regionalIndicator
  | "sentenceterminal" => some (set Text.Property.sentenceTerminal)
  | "softdotted" => some (set Text.Property.softDotted)
  | "terminalpunctuation" => some (set Text.Property.terminalPunctuation)
  | "unifiedideograph" => some (set Text.Property.unifiedIdeograph)
  | "uppercase" => some (set uppercase)
  | "variationselector" => some (set Text.Property.variationSelector)
  | "whitespace" => some (set Text.whiteSpace)
  | "xidcontinue" => some ((idContinue ()).diff (set notInCompatibleNames))
  | "xidstart" =>
    some ((idStart ()).diff (set (notInCompatibleNames ++
      [(0xe33, 0xe33, 1), (0xeb3, 0xeb3, 1), (0xff9e, 0xff9f, 1)])))
  | _ => none

/-- Names of scripts beside their long and short ones. -/
def scriptNames : List (String × String) := [("qaac", "coptic"), ("qaai", "inherited")]

/-- The characters of a script. -/
def script? (name : String) : Option CharSet :=
  (findTable? Text.Script.byName (longName scriptNames name)).map .ofSpans

/-- The characters that a script uses: those of its own that no other script uses, and those that
are listed as shared with it. -/
def scriptExtensions? (name : String) : Option CharSet :=
  let name := longName scriptNames name
  (Text.Script.byName.find? fun t => t.1 == name || t.2.1 == name).map fun (_, short, spans) =>
    let ranges (shared : List (Nat × Nat × List String)) : CharSet :=
      .ofRanges (shared.map fun r => (r.1, r.2.1))
    let listed := Text.ScriptExtension.shared.filter fun r => r.2.2.contains short
    ((set spans).diff (ranges Text.ScriptExtension.shared)).union (ranges listed)

/-- The characters that came with a version of the standard or before it. -/
def age? (name : String) : Option CharSet :=
  let isNamed (version : String) : Bool :=
    version == name || .ofList ('v' :: version.toList.filter (· != '.')) == name
  let versions := Text.Age.versions
  (versions.findIdx? fun v => isNamed v.1).map fun i =>
    set ((versions.take (i + 1)).flatMap (·.2))

/-- The short names of classes at breaks between graphemes. -/
def graphemeNames : List (String × String) :=
  [("cn", "control"), ("ex", "extend"), ("pp", "prepend"), ("ri", "regionalindicator"),
    ("sm", "spacingmark")]

/-- The short names of classes at breaks between words. -/
def wordNames : List (String × String) :=
  [("dq", "doublequote"), ("ex", "extendnumlet"), ("fo", "format"), ("hl", "hebrewletter"),
    ("ka", "katakana"), ("le", "aletter"), ("mb", "midnumlet"), ("ml", "midletter"),
    ("mn", "midnum"), ("nl", "newline"), ("nu", "numeric"), ("ri", "regionalindicator"),
    ("sq", "singlequote")]

/-- The short names of classes at breaks between sentences. -/
def sentenceNames : List (String × String) :=
  [("at", "aterm"), ("cl", "close"), ("ex", "extend"), ("fo", "format"), ("le", "oletter"),
    ("lo", "lower"), ("nu", "numeric"), ("sc", "scontinue"), ("se", "sep"), ("st", "sterm"),
    ("up", "upper")]

/-- The short names of properties that have values. -/
def valuedNames : List (String × String) :=
  [("gc", "generalcategory"), ("sc", "script"), ("scx", "scriptextensions"),
    ("gcb", "graphemeclusterbreak"), ("wb", "wordbreak"), ("sb", "sentencebreak")]

/-- The characters for which a property has a value. -/
def valued? (property value : String) : Option CharSet :=
  match longName valuedNames property with
  | "generalcategory" => category? value
  | "script" => script? value
  | "scriptextensions" => scriptExtensions? value
  | "age" => age? value
  | "graphemeclusterbreak" => Text.Break.grapheme? (longName graphemeNames value)
  | "wordbreak" => Text.Break.word? (longName wordNames value)
  | "sentencebreak" => Text.Break.sentence? (longName sentenceNames value)
  | _ => none

/-- Cuts a text at the first occurrence of another one. -/
def cutAt? (mark : List Char) : List Char → Option (List Char × List Char)
  | [] => none
  | c :: rest =>
    if mark.isPrefixOf (c :: rest) then some ([], (c :: rest).drop mark.length)
    else (cutAt? mark rest).map fun (before, after) => (c :: before, after)

/-- The characters that a name in a pattern stands for: a property, or a property and its value. The
sign between these may be one of inequality, which does not make a difference. -/
def named? (name : List Char) : Option CharSet :=
  match ((cutAt? ['!', '='] name).or (cutAt? [':'] name)).or (cutAt? ['='] name) with
  | some (property, value) => valued? (normalizeName property) (normalizeName value)
  | none =>
    let name := normalizeName name
    ((binary? name).or (category? name)).or (script? name)

end PagedSparql.Regex.Property
