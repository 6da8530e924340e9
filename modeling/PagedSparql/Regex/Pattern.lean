import PagedSparql.Text.CharSet
import PagedSparql.Text.Category

/-!
# Regular expressions

A regular expression as a tree. The functions that build trees keep them simple: literals that stand
side by side are one literal, sequences and alternatives do not nest, alternatives of single
characters are one class, a beginning that all alternatives share is written once, and what matches
the empty text only is not repeated. So what an expression costs does not hang on how many brackets
were written around its parts.
-/

namespace PagedSparql.Regex

open Text (CharSet)

/-- The characters of words. -/
def unicodeWord : CharSet := .ofSpans Text.Category.word

/-- The characters of words among the ASCII characters. -/
def asciiWord : CharSet := ⟨[(48, 57), (65, 90), (95, 95), (97, 122)]⟩

/-- The characters of words, all of them or those in ASCII. -/
def wordSet (unicode : Bool) : CharSet := if unicode then unicodeWord else asciiWord

/-- A place between two characters. Those that look for words take all characters of words or only
those in ASCII. -/
inductive Anchor where
  /-- Before the first character. -/
  | textStart
  /-- After the last character. -/
  | textEnd
  /-- At the start of a line; `crlf` counts a carriage return as a line end. -/
  | lineStart (crlf : Bool)
  /-- At the end of a line. -/
  | lineEnd (crlf : Bool)
  /-- Where a word begins or ends. -/
  | wordBoundary (unicode : Bool)
  /-- Where no word begins or ends. -/
  | noWordBoundary (unicode : Bool)
  /-- Where a word begins. -/
  | wordStart (unicode : Bool)
  /-- Where a word ends. -/
  | wordEnd (unicode : Bool)
  /-- After a character of no word. -/
  | wordStartHalf (unicode : Bool)
  /-- Before a character of no word. -/
  | wordEndHalf (unicode : Bool)
deriving DecidableEq

/-- The anchor holds between a character and the next one, where there is one. -/
def Anchor.holds (a : Anchor) (before after : Option Char) : Bool :=
  match a with
  | .textStart => before.isNone
  | .textEnd => after.isNone
  | .lineStart crlf =>
    before.all fun c => c == '\n' || (crlf && c == '\r' && after != some '\n')
  | .lineEnd crlf =>
    after.all fun c =>
      if crlf then c == '\r' || (c == '\n' && before != some '\r') else c == '\n'
  | .wordBoundary u => before.any (wordSet u).contains != after.any (wordSet u).contains
  | .noWordBoundary u => before.any (wordSet u).contains == after.any (wordSet u).contains
  | .wordStart u => !before.any (wordSet u).contains && after.any (wordSet u).contains
  | .wordEnd u => before.any (wordSet u).contains && !after.any (wordSet u).contains
  | .wordStartHalf u => !before.any (wordSet u).contains
  | .wordEndHalf u => !after.any (wordSet u).contains

/-- A regular expression. -/
inductive Node where
  /-- The empty text. -/
  | empty
  /-- A text. -/
  | literal (text : List Char)
  /-- One character of a set. -/
  | chars (set : CharSet)
  /-- A place between two characters. -/
  | anchor (a : Anchor)
  /-- A numbered group. -/
  | group (index : Nat) (body : Node)
  /-- One after the other. -/
  | concat (first rest : Node)
  /-- One or the other, the first one preferred. -/
  | alternative (first rest : Node)
  /-- A number of repetitions, as many as possible if greedy and as few as possible otherwise. -/
  | repetition (body : Node) (least : Nat) (most : Option Nat) (greedy : Bool)
deriving DecidableEq

namespace Node

/-- The length of the shortest text that matches, nothing if some part can never match. -/
def shortest? : Node → Option Nat
  | .empty => some 0
  | .literal text => some text.length
  | .chars set => if set.ranges.isEmpty then none else some 1
  | .anchor _ => some 0
  | .group _ body => body.shortest?
  | .concat a b => a.shortest?.bind fun m => b.shortest?.map (m + ·)
  | .alternative a b => a.shortest?.bind fun m => b.shortest?.map (min m)
  | .repetition body least _ _ => body.shortest?.map (least * ·)

/-- The expression matches no text shorter than one character. -/
def needsText (n : Node) : Bool := n.shortest?.any (0 < ·)

/-- The expression matches the empty text only. -/
def isTextless : Node → Bool
  | .empty => true
  | .literal _ => false
  | .chars _ => false
  | .anchor _ => true
  | .group _ body => body.isTextless
  | .concat a b => a.isTextless && b.isTextless
  | .alternative a b => a.isTextless && b.isTextless
  | .repetition body _ _ _ => body.isTextless

/-- The expressions that a sequence is made of. -/
def parts : Node → List Node
  | .concat first rest => first :: rest.parts
  | .empty => []
  | n => [n]

/-- The alternatives that an expression leaves the choice between. -/
def branches : Node → List Node
  | .alternative first rest => first :: rest.branches
  | n => [n]

/-- Some parts one after the other. -/
def ofParts : List Node → Node
  | [] => .empty
  | [n] => n
  | n :: rest => .concat n (ofParts rest)

/-- The choice between some branches; there is no text to choose if there is none. -/
def ofBranches : List Node → Node
  | [] => .chars .empty
  | [n] => n
  | n :: rest => .alternative n (ofBranches rest)

/-- One character of a set; a set of one character is a literal. -/
def ofSet (set : CharSet) : Node :=
  match set.ranges with
  | [(low, high)] => if low = high then .literal [Char.ofNat low] else .chars set
  | _ => .chars set

/-- Puts an expression in front of some parts; literals that come to stand side by side are one. -/
def prependPart : Node → List Node → List Node
  | .literal a, .literal b :: rest => .literal (a ++ b) :: rest
  | n, rest => n :: rest

/-- Some expressions one after the other. -/
def sequence (ns : List Node) : Node := ofParts ((ns.flatMap parts).foldr prependPart [])

/-- The character of a literal of one character. -/
def letter? : Node → Option Char
  | .literal [c] => some c
  | _ => none

/-- The set of a class. -/
def set? : Node → Option CharSet
  | .chars set => some set
  | _ => none

/-- The set of the characters that some branches match, if all are single characters or all are
classes. -/
def commonSet? (branches : List Node) : Option CharSet :=
  match branches.mapM letter? with
  | some cs => some (.ofRanges (cs.map fun c => (c.toNat, c.toNat)))
  | none => (branches.mapM set?).map fun sets => .ofRanges (sets.flatMap (·.ranges))

/-- The choice between some branches, as a class if they are one. -/
def oneOf (ns : List Node) : Node :=
  let branches := ns.flatMap branches
  match branches with
  | [n] => n
  | _ => ((commonSet? branches).map ofSet).getD (ofBranches branches)

/-- The parts that two lists begin with. -/
def sharedParts : List Node → List Node → List Node
  | a :: as, b :: bs => if a = b then a :: sharedParts as bs else []
  | _, _ => []

/-- The parts that all branches begin with, if each branch has several. -/
def sharedStart (branches : List Node) : List Node :=
  match branches.map parts with
  | [] => []
  | first :: rest =>
    if (first :: rest).all (1 < ·.length) then rest.foldl sharedParts first else []

/-- The choice between some expressions; a beginning that all of them share comes before it. -/
def choice (ns : List Node) : Node :=
  let branches := ns.flatMap branches
  match sharedStart branches with
  | [] => oneOf branches
  | start => sequence (start ++ [oneOf (branches.map fun n => ofParts (n.parts.drop start.length))])

/-- An expression repeated. What matches the empty text only is repeated at most once. -/
def times (body : Node) (least : Nat) (most : Option Nat) (greedy : Bool) : Node :=
  let (least, most) :=
    if body.isTextless then (min least 1, some (most.elim 1 (min 1))) else (least, most)
  if most = some 0 then .empty
  else if least = 1 ∧ most = some 1 then body
  else .repetition body least most greedy

end Node

end PagedSparql.Regex
