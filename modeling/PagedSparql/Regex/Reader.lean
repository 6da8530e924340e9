import PagedSparql.Regex.Pattern
import PagedSparql.Regex.Property
import PagedSparql.Number.Reading

/-!
# Reading regular expressions

The reader is a recursive descent over the characters of a pattern. It knows groups, numbered and
named, alternatives, classes with ranges, nesting and set operations, Unicode properties, anchors,
greedy and lazy repetitions, and flags that hold up to the end of their group. There is no
look-around and no back-reference. A pattern outside of this language is refused, and so is one
whose parts nest too deeply.

Most functions take fuel; one unit for each character of the pattern, and one more, suffices,
because each call reads a character before it recurs.
-/

namespace PagedSparql.Regex

open Text (CharSet)

/-- The flags that are in force at a place of a pattern. -/
structure Flags where
  /-- Letters match in any case. -/
  anyCase : Bool := false
  /-- `^` and `$` match at line ends too. -/
  multiLine : Bool := false
  /-- `.` matches line ends too. -/
  dotAll : Bool := false
  /-- Blanks and comments in the pattern are ignored. -/
  verbose : Bool := false
  /-- Greedy and lazy repetitions are swapped. -/
  swapGreed : Bool := false
  /-- Carriage returns are line ends too. -/
  crlf : Bool := false
  /-- Classes hold characters beyond ASCII. -/
  unicode : Bool := true

/-- What has been seen of the groups of a pattern. -/
structure Groups where
  /-- The number of the next group. -/
  next : Nat := 1
  /-- The names of the groups so far. -/
  names : List (String × Nat) := []

namespace Reader

/-- What one escape stands for. -/
inductive Escape where
  /-- A character. -/
  | char (c : Char)
  /-- A class. -/
  | cls (set : CharSet)
  /-- An anchor. -/
  | anchor (a : Anchor)

/-- The characters that have a meaning of their own in patterns. -/
def metaChars : List Char :=
  ['\\', '.', '+', '*', '?', '(', ')', '|', '[', ']', '\x7b', '\x7d', '^', '$', '#', '&', '-', '~']

/-- The text after a comment or after blanks, in patterns where these are ignored. -/
def skipIgnored (verbose : Bool) : Nat → List Char → List Char
  | 0, text => text
  | fuel + 1, text =>
    match text with
    | c :: rest =>
      if !verbose then text
      else if Text.isBlank c then skipIgnored verbose fuel rest
      else if c = '#' then skipIgnored verbose fuel (rest.dropWhile (· != '\n'))
      else text
    | [] => text

/-- `skipIgnored` for the whole text. -/
def skip (flags : Flags) (text : List Char) : List Char :=
  skipIgnored flags.verbose text.length text

/-- The value of a hexadecimal digit. -/
def hexValue? (c : Char) : Option Nat :=
  if Double.isDigit c then some (c.toNat - 48)
  else if 'a' ≤ c ∧ c ≤ 'f' then some (c.toNat - 87)
  else if 'A' ≤ c ∧ c ≤ 'F' then some (c.toNat - 55)
  else none

/-- The character of a number in hexadecimal digits, if there is one. -/
def hexChar? (digits : List Char) : Option Char := do
  let values ← digits.mapM hexValue?
  let n := values.foldl (fun n d => 16 * n + d) 0
  if digits.isEmpty || !decide n.isValidChar then none else some (Char.ofNat n)

/-- Reads a number of characters, leaving out what is ignored before each of them. -/
def takeKept? (flags : Flags) : Nat → List Char → Option (List Char × List Char)
  | 0, text => some ([], text)
  | n + 1, text =>
    match skip flags text with
    | c :: rest => (takeKept? flags n rest).map fun (cs, rest) => (c :: cs, rest)
    | [] => none

/-- Reads up to a closing brace, leaving out what is ignored before each character. -/
def braced? (flags : Flags) : Nat → List Char → Option (List Char × List Char)
  | 0, _ => none
  | fuel + 1, text =>
    match skip flags text with
    | '\x7d' :: rest => some ([], rest)
    | c :: rest => (braced? flags fuel rest).map fun (cs, rest) => (c :: cs, rest)
    | [] => none

/-- Reads the number of a character: digits in braces, or a fixed count of digits. Two digits alone
stand for a byte where classes hold ASCII characters only, and a byte beyond ASCII is no text. -/
def hexEscape? (flags : Flags) (count : Nat) (text : List Char) : Option (Char × List Char) :=
  match skip flags text with
  | '\x7b' :: rest => do
    let (digits, rest) ← braced? flags (rest.length + 1) rest
    some (← hexChar? digits, rest)
  | text => do
    let (digits, rest) ← takeKept? flags count text
    let c ← hexChar? digits
    if count = 2 ∧ 128 ≤ c.toNat ∧ !flags.unicode then none else some (c, rest)

/-- The set made insensitive to case where the flags ask for it, with the letters of ASCII only where
classes hold no others. -/
def folded (flags : Flags) (set : CharSet) : CharSet :=
  if !flags.anyCase then set
  else if flags.unicode then set.foldCase
  else set.foldAscii

/-- The complement of a set, if it is asked for. Where classes hold ASCII characters only, there is
none. -/
def negated? (flags : Flags) (negated : Bool) (set : CharSet) : Option CharSet :=
  if negated && !flags.unicode then none else some (set.negateIf negated)

/-- Reads the property after `\p` or `\P`: one letter, or a name in braces. Classes of ASCII
characters know no properties. -/
def propertyEscape? (flags : Flags) (negated : Bool) (text : List Char) :
    Option (Escape × List Char) := do
  let (name, rest) ←
    match skip flags text with
    | '\x7b' :: rest => braced? flags (rest.length + 1) rest
    | c :: rest => some ([c], rest)
    | [] => none
  let set ← Property.named? name
  if flags.unicode then some (.cls ((folded flags set).negateIf negated), rest) else none

/-- The set of digits, blanks or word characters, by the letter of its escape. -/
def classOfLetter (flags : Flags) (letter : Char) : CharSet :=
  if letter = 'd' then
    if flags.unicode then .ofSpans Text.Category.decimalNumber else .range '0' '9'
  else if letter = 's' then
    if flags.unicode then .ofSpans Text.whiteSpace else .ofRanges [(9, 13), (32, 32)]
  else wordSet flags.unicode

/-- Reads letters and hyphens, leaving out what is ignored after each of them. -/
def boundaryName (flags : Flags) : Nat → List Char → List Char × List Char
  | fuel + 1, c :: rest =>
    if c.isAlpha || c == '-' then
      let (name, rest) := boundaryName flags fuel (skip flags rest)
      (c :: name, rest)
    else ([], c :: rest)
  | _, text => ([], text)

/-- Reads what follows `\b`: nothing, or the name of a kind of word boundary in braces. Braces around
anything else are left to read. -/
def boundary? (flags : Flags) (text : List Char) : Option (Escape × List Char) :=
  let u := flags.unicode
  let plain : Option (Escape × List Char) := some (.anchor (.wordBoundary u), text)
  match text with
  | '\x7b' :: rest =>
    match boundaryName flags rest.length (skip flags rest) with
    | ([], _) => plain
    | (name, '\x7d' :: after) =>
      match String.ofList name with
      | "start" => some (.anchor (.wordStart u), after)
      | "end" => some (.anchor (.wordEnd u), after)
      | "start-half" => some (.anchor (.wordStartHalf u), after)
      | "end-half" => some (.anchor (.wordEndHalf u), after)
      | _ => none
    | _ => none
  | _ => plain

/-- Reads an escape after its backslash. -/
def escape? (flags : Flags) : List Char → Option (Escape × List Char)
  | [] => none
  | c :: rest =>
    if c = 'x' then (hexEscape? flags 2 rest).map fun (c, rest) => (.char c, rest)
    else if c = 'u' then (hexEscape? flags 4 rest).map fun (c, rest) => (.char c, rest)
    else if c = 'U' then (hexEscape? flags 8 rest).map fun (c, rest) => (.char c, rest)
    else if c = 'p' then propertyEscape? flags false rest
    else if c = 'P' then propertyEscape? flags true rest
    else if c = 'd' ∨ c = 's' ∨ c = 'w' then some (.cls (classOfLetter flags c), rest)
    else if c = 'D' ∨ c = 'S' ∨ c = 'W' then
      (negated? flags true (classOfLetter flags c.toLower)).map fun set => (.cls set, rest)
    else if c.toNat < 128 ∧ !c.isAlphanum ∧ c ≠ '<' ∧ c ≠ '>' then some (.char c, rest)
    else
      match c with
      | 'a' => some (.char '\x07', rest)
      | 'f' => some (.char '\x0c', rest)
      | 't' => some (.char '\t', rest)
      | 'n' => some (.char '\n', rest)
      | 'r' => some (.char '\r', rest)
      | 'v' => some (.char '\x0b', rest)
      | 'A' => some (.anchor .textStart, rest)
      | 'z' => some (.anchor .textEnd, rest)
      | 'b' => boundary? flags rest
      | 'B' => some (.anchor (.noWordBoundary flags.unicode), rest)
      | '<' => some (.anchor (.wordStart flags.unicode), rest)
      | '>' => some (.anchor (.wordEnd flags.unicode), rest)
      | _ => none

/-- The named classes of ASCII characters. -/
def asciiClasses : List (String × List (Nat × Nat)) :=
  [("alnum", [(48, 57), (65, 90), (97, 122)]), ("alpha", [(65, 90), (97, 122)]),
    ("ascii", [(0, 127)]), ("blank", [(9, 9), (32, 32)]), ("cntrl", [(0, 31), (127, 127)]),
    ("digit", [(48, 57)]), ("graph", [(33, 126)]), ("lower", [(97, 122)]), ("print", [(32, 126)]),
    ("punct", [(33, 47), (58, 64), (91, 96), (123, 126)]), ("space", [(9, 13), (32, 32)]),
    ("upper", [(65, 90)]), ("word", [(48, 57), (65, 90), (95, 95), (97, 122)]),
    ("xdigit", [(48, 57), (65, 70), (97, 102)])]

/-- Finds a named class after `[:`, up to `:]`: its ranges and whether it is negated. -/
def asciiClass? (text : List Char) : Option ((List (Nat × Nat) × Bool) × List Char) :=
  let (negated, rest) :=
    match text with
    | '^' :: rest => (true, rest)
    | _ => (false, text)
  let name := rest.takeWhile (· != ':')
  match rest.drop name.length with
  | ':' :: ']' :: after =>
    (asciiClasses.lookup (String.ofList name)).map fun ranges => ((ranges, negated), after)
  | _ => none

/-- The set operations. -/
inductive SetOp where
  /-- What both operands have. -/
  | inter
  /-- What only the left operand has. -/
  | diff
  /-- What exactly one operand has. -/
  | symmDiff

/-- How deeply some things that stand side by side nest: one level more than the deepest of them, if
they are several. -/
def heightOf (heights : List Nat) : Nat :=
  match heights with
  | [] => 0
  | [h] => h
  | _ => heights.foldl max 0 + 1

/-- The items of a class that have been read since its last operation. -/
structure ClassItems where
  /-- Their ranges. -/
  ranges : List (Nat × Nat) := []
  /-- How deeply each of them nests. -/
  heights : List Nat := []

/-- Some items and one more. -/
def ClassItems.push (items : ClassItems) (set : CharSet) (height : Nat) : ClassItems :=
  ⟨set.ranges ++ items.ranges, height :: items.heights⟩

/-- A set and how deeply the class nests that it was read from. -/
structure Operand where
  /-- The set. -/
  set : CharSet
  /-- How deeply the class nests. -/
  height : Nat

/-- The items as the right operand of the operation that waits for one. -/
def applyPending (flags : Flags) (pending : Option (SetOp × Operand)) (items : ClassItems) :
    Operand :=
  let right : Operand := ⟨.ofRanges items.ranges, heightOf items.heights⟩
  match pending with
  | none => right
  | some (op, left) =>
    let a := folded flags left.set
    let b := folded flags right.set
    let set :=
      match op with
      | .inter => a.inter b
      | .diff => a.diff b
      | .symmDiff => a.symmDiff b
    ⟨set, max left.height right.height + 1⟩

/-- Reads one item of a class: a character or an escape. Only ASCII characters can be items where
classes hold no others. -/
def classItem? (flags : Flags) (text : List Char) : Option (Escape × List Char) :=
  let read? :=
    match text with
    | '\\' :: rest => escape? flags rest
    | c :: rest => some (.char c, rest)
    | [] => none
  match read? with
  | some (.char c, rest) =>
    if 128 ≤ c.toNat ∧ !flags.unicode then none else some (.char c, rest)
  | other => other

/-- The character that decides whether a hyphen makes a range: the first one after it that is no
blank, where blanks are ignored, also not behind a sign that begins a comment. -/
def afterHyphen (flags : Flags) (text : List Char) : Option Char :=
  if !flags.verbose then text.head?
  else
    match Text.trimStart text with
    | '#' :: rest => (Text.trimStart rest).head?
    | rest => rest.head?

/-- Reads an item of a class, or a range between two characters. -/
def classRange? (flags : Flags) (text : List Char) : Option (CharSet × List Char) := do
  let (item, rest) ← classItem? flags text
  let rest := skip flags rest
  let isRange :=
    match rest with
    | '-' :: after => afterHyphen flags after != some ']' && afterHyphen flags after != some '-'
    | _ => false
  match item with
  | .anchor _ => none
  | .cls set => if isRange then none else some (set, rest)
  | .char low =>
    if isRange then
      let (last, rest) ← classItem? flags (skip flags (rest.drop 1))
      match last with
      | .char high => if low ≤ high then some (.range low high, rest) else none
      | _ => none
    else some (.single low, rest)

/-- Reads the hyphens at the start of a class, which stand for themselves. -/
def leadingHyphens (flags : Flags) : Nat → ClassItems → List Char → ClassItems × List Char
  | fuel + 1, items, '-' :: rest =>
    leadingHyphens flags fuel (items.push (.single '-') 0) (skip flags rest)
  | _, items, text => (items, text)

/-- Reads the start of a class: hyphens, or else a closing bracket, which stands for itself too. -/
def classStart (flags : Flags) (text : List Char) : ClassItems × List Char :=
  match text with
  | ']' :: rest => (({} : ClassItems).push (.single ']') 0, rest)
  | _ => leadingHyphens flags text.length {} text

mutual

/-- Reads a class after its opening bracket. It must not nest more deeply than there is room for. -/
def classOpen? (flags : Flags) : Nat → Nat → List Char → Option (Operand × List Char)
  | 0, _, _ => none
  | _, 0, _ => none
  | fuel + 1, room + 1, text =>
    let text := skip flags text
    let (negated, text) :=
      match text with
      | '^' :: rest => (true, skip flags rest)
      | _ => (false, text)
    let (items, rest) := classStart flags text
    (classBody? flags fuel room none items rest).bind fun (c, rest) =>
      (negated? flags negated (folded flags c.set)).map fun set => (⟨set, c.height + 1⟩, rest)

/-- Reads the rest of a class, up to its closing bracket. -/
def classBody? (flags : Flags) : Nat → Nat → Option (SetOp × Operand) → ClassItems → List Char →
    Option (Operand × List Char)
  | 0, _, _, _, _ => none
  | fuel + 1, room, pending, items, text =>
    match skip flags text with
    | [] => none
    | ']' :: rest => some (applyPending flags pending items, rest)
    | '&' :: '&' :: rest =>
      classBody? flags fuel room (some (.inter, applyPending flags pending items)) {} rest
    | '-' :: '-' :: rest =>
      classBody? flags fuel room (some (.diff, applyPending flags pending items)) {} rest
    | '~' :: '~' :: rest =>
      classBody? flags fuel room (some (.symmDiff, applyPending flags pending items)) {} rest
    | '[' :: rest =>
      let named? :=
        match rest with
        | ':' :: name => asciiClass? name
        | _ => none
      match named? with
      | some ((ranges, negated), rest) =>
        match negated? flags negated (folded flags (.ofRanges ranges)) with
        | some set => classBody? flags fuel room pending (items.push set 0) rest
        | none => none
      | none =>
        match classOpen? flags fuel room rest with
        | some (c, rest) => classBody? flags fuel room pending (items.push c.set c.height) rest
        | none => none
    | text =>
      match classRange? flags text with
      | some (set, rest) => classBody? flags fuel room pending (items.push set 0) rest
      | none => none

end

/-- Reads digits, leaving out what is ignored after each of them. -/
def digitsKept (flags : Flags) : Nat → List Char → List Char × List Char
  | fuel + 1, c :: rest =>
    if Double.isDigit c then
      let (digits, rest) := digitsKept flags fuel (skip flags rest)
      (c :: digits, rest)
    else ([], c :: rest)
  | _, text => ([], text)

/-- Reads a number, with blanks allowed around it, that fits in 32 bits. -/
def count? (flags : Flags) (text : List Char) : Option (Nat × List Char) :=
  let (digits, rest) := digitsKept flags text.length (Text.trimStart text)
  let n := Double.ofDigits digits
  if digits.isEmpty ∨ UInt32.size ≤ n then none else some (n, Text.trimStart rest)

/-- Reads the bounds of a counted repetition after its opening brace. -/
def bounds? (flags : Flags) (text : List Char) : Option ((Nat × Option Nat) × List Char) := do
  let (least, rest) ← count? flags (skip flags text)
  match rest with
  | '\x7d' :: rest => some ((least, some least), rest)
  | ',' :: rest =>
    match skip flags rest with
    | '\x7d' :: rest => some ((least, none), rest)
    | rest =>
      let (most, rest) ← count? flags rest
      match rest with
      | '\x7d' :: rest => if least ≤ most then some ((least, some most), rest) else none
      | _ => none
  | _ => none

/-- A flag switched on or off. -/
def setFlag? (flags : Flags) (on : Bool) (c : Char) : Option Flags :=
  match c with
  | 'i' => some { flags with anyCase := on }
  | 'm' => some { flags with multiLine := on }
  | 's' => some { flags with dotAll := on }
  | 'x' => some { flags with verbose := on }
  | 'U' => some { flags with swapGreed := on }
  | 'R' => some { flags with crlf := on }
  | 'u' => some { flags with unicode := on }
  | _ => none

/-- Reads flags up to a colon or a closing parenthesis, which is left to read. No flag may occur
twice, and the sign that switches flags off must be followed by one. -/
def flags? (seen : List Char) (off : Bool) (flags : Flags) : List Char → Option (Flags × List Char)
  | [] => none
  | c :: rest =>
    if c = ':' ∨ c = ')' then if seen.head? = some '-' then none else some (flags, c :: rest)
    else if c = '-' then if off then none else flags? ('-' :: seen) true flags rest
    else if seen.contains c then none
    else (setFlag? flags (!off) c).bind fun flags => flags? (c :: seen) off flags rest

/-- Reads the name of a group up to its closing bracket. -/
def groupName? (text : List Char) : Option (String × List Char) :=
  let name := text.takeWhile (· != '>')
  let isLetter (c : Char) : Bool := Text.inSpans Text.Category.alphabetic c
  let isInner (c : Char) : Bool :=
    c == '_' || c == '.' || c == '[' || c == ']' || isLetter c ||
      Text.inSpans Text.Category.number c
  match name, text.drop name.length with
  | first :: inner, _ :: rest =>
    if (first == '_' || isLetter first) && inner.all isInner then some (.ofList name, rest) else none
  | _, _ => none

/-- How deeply the parts of a pattern may nest. -/
def maxHeight : Nat := 250

/-- An expression that has been read. -/
structure Item where
  /-- The expression. -/
  node : Node
  /-- How deeply its parts nest. -/
  height : Nat := 0
  /-- It is an expression, not a change of flags, so that a repetition may follow it. -/
  repeatable : Bool := true

/-- The expressions of one alternative, which were collected last first. -/
def sequence (items : List Item) : Item :=
  ⟨.sequence (items.reverse.map (·.node)), heightOf (items.map (·.height)), true⟩

/-- The alternatives, which were collected last first. -/
def choice (last : Item) (alternatives : List Item) : Item :=
  match alternatives with
  | [] => last
  | _ =>
    ⟨.choice ((last :: alternatives).reverse.map (·.node)),
      heightOf ((last :: alternatives).map (·.height)), true⟩

/-- What one escape reads. -/
def escapeNode (flags : Flags) : Escape → Node
  | .char c => .ofSet (folded flags (.single c))
  | .cls set => .ofSet set
  | .anchor a => .anchor a

/-- What a character that stands alone reads. -/
def charNode? (flags : Flags) (c : Char) : Option Node :=
  match c with
  | '.' =>
    if !flags.unicode then none
    else if flags.dotAll then some (.ofSet .all)
    else if flags.crlf then some (.ofSet (CharSet.ofRanges [(10, 10), (13, 13)]).compl)
    else some (.ofSet (CharSet.single '\n').compl)
  | '^' => some (.anchor (if flags.multiLine then .lineStart flags.crlf else .textStart))
  | '$' => some (.anchor (if flags.multiLine then .lineEnd flags.crlf else .textEnd))
  | c => some (.ofSet (folded flags (.single c)))

/-- Puts a repetition around the last expression; a question mark after it makes it lazy. -/
def repeatLast? (flags : Flags) (least : Nat) (most : Option Nat) (items : List Item)
    (rest : List Char) : Option (List Item × List Char) :=
  match items with
  | ⟨node, height, true⟩ :: items =>
    let (lazy, rest) :=
      match rest with
      | '?' :: rest => (true, rest)
      | _ => (false, rest)
    some (⟨node.times least most (lazy == flags.swapGreed), height + 1, true⟩ :: items, rest)
  | _ => none

/-- How a group begins. -/
inductive Opening where
  /-- A change of flags for the rest of the group around it. -/
  | flags (flags : Flags)
  /-- A group without number. -/
  | plain (flags : Flags)
  /-- A group with the next number, and a name if it has one. -/
  | capture (name : Option String)

/-- Reads the beginning of a group after its parenthesis. -/
def opening? (flags : Flags) (text : List Char) : Option (Opening × List Char) :=
  match skip flags text with
  | '?' :: '=' :: _ => none
  | '?' :: '!' :: _ => none
  | '?' :: '<' :: '=' :: _ => none
  | '?' :: '<' :: '!' :: _ => none
  | '?' :: 'P' :: '<' :: rest => (groupName? rest).map fun (n, rest) => (.capture (some n), rest)
  | '?' :: '<' :: rest => (groupName? rest).map fun (n, rest) => (.capture (some n), rest)
  | '?' :: ')' :: _ => none
  | '?' :: rest =>
    (flags? [] false flags rest).bind fun (flags, rest) =>
      match rest with
      | ')' :: rest => some (.flags flags, rest)
      | ':' :: rest => some (.plain flags, rest)
      | _ => none
  | rest => some (.capture none, rest)

/-- Reads alternatives up to a closing parenthesis, which is left to read, or the end. Groups must not
nest more deeply than there is room for. -/
def alternatives? : Nat → Nat → Flags → Groups → List Item → List Item → List Char →
    Option (Item × Groups × List Char)
  | 0, _, _, _, _, _, _ => none
  | fuel + 1, room, flags, groups, items, done, text =>
    match skip flags text with
    | [] => some (choice (sequence items) done, groups, [])
    | ')' :: rest => some (choice (sequence items) done, groups, ')' :: rest)
    | '|' :: rest => alternatives? fuel room flags groups [] (sequence items :: done) rest
    | '(' :: rest =>
      match opening? flags rest with
      | none => none
      | some (.flags flags, rest) =>
        alternatives? fuel room flags groups (⟨.empty, 0, false⟩ :: items) done rest
      | some (.plain inner, rest) =>
        if room = 0 then none
        else
          match alternatives? fuel (room - 1) inner groups [] [] rest with
          | some (body, groups, ')' :: rest) =>
            alternatives? fuel room flags groups (⟨body.node, body.height + 1, true⟩ :: items) done
              rest
          | _ => none
      | some (.capture name, rest) =>
        if room = 0 || name.any fun n => (groups.names.lookup n).isSome then none
        else
          let index := groups.next
          let names := (name.map fun n => (n, index)).toList ++ groups.names
          match alternatives? fuel (room - 1) flags ⟨index + 1, names⟩ [] [] rest with
          | some (body, groups, ')' :: rest) =>
            alternatives? fuel room flags groups
              (⟨.group index body.node, body.height + 1, true⟩ :: items) done rest
          | _ => none
    | '[' :: rest =>
      match classOpen? flags (2 * rest.length + 2) maxHeight rest with
      | some (c, rest) =>
        alternatives? fuel room flags groups (⟨.ofSet c.set, c.height, true⟩ :: items) done rest
      | none => none
    | '?' :: rest =>
      match repeatLast? flags 0 (some 1) items rest with
      | some (items, rest) => alternatives? fuel room flags groups items done rest
      | none => none
    | '*' :: rest =>
      match repeatLast? flags 0 none items rest with
      | some (items, rest) => alternatives? fuel room flags groups items done rest
      | none => none
    | '+' :: rest =>
      match repeatLast? flags 1 none items rest with
      | some (items, rest) => alternatives? fuel room flags groups items done rest
      | none => none
    | '\x7b' :: rest =>
      match bounds? flags rest with
      | none => none
      | some ((least, most), rest) =>
        match repeatLast? flags least most items (skip flags rest) with
        | some (items, rest) => alternatives? fuel room flags groups items done rest
        | none => none
    | '\\' :: rest =>
      match escape? flags rest with
      | some (e, rest) =>
        alternatives? fuel room flags groups (⟨escapeNode flags e, 0, true⟩ :: items) done rest
      | none => none
    | c :: rest =>
      match charNode? flags c with
      | some node => alternatives? fuel room flags groups (⟨node, 0, true⟩ :: items) done rest
      | none => none

end Reader

/-- Reads a pattern under given flags. -/
def read? (flags : Flags) (pattern : List Char) : Option (Node × Groups) :=
  match Reader.alternatives? (pattern.length + 1) Reader.maxHeight flags {} [] [] pattern with
  | some (item, groups, []) =>
    if item.height ≤ Reader.maxHeight then some (item.node, groups) else none
  | _ => none

end PagedSparql.Regex
