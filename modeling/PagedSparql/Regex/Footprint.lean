import Std.Data.HashMap
import PagedSparql.Regex.Pattern
import PagedSparql.Regex.ByteRanges

/-!
# The memory that a regular expression takes

An expression is refused if one of two automata over bytes would take more than ten mebibytes: the
one that reads a text forward and records groups, and the one that reads it backward. Repetitions
count as often as they are written out, so that a short pattern can be refused. Nothing is built
here: an automaton is laid out by counting its states and the entries of the lists that they hold,
and counting stops as soon as the limit is passed.

Within one class, states that read the same bytes and go on at the same place are shared, as far as
a memo of limited size remembers them. A slot of the memo holds what was put there last.
-/

namespace PagedSparql.Regex

/-- The size of the part of an automaton that has been laid out. -/
structure Footprint where
  /-- The number of states, which is also the name of the next one. -/
  states : Nat := 0
  /-- The bytes of the lists that states hold. -/
  lists : Nat := 0

namespace Footprint

/-- The bytes of a state without its lists. -/
def stateBytes : Nat := 32

/-- The bytes of an entry of a list of transitions. -/
def edgeBytes : Nat := 8

/-- The bytes of an entry of a list of alternatives. -/
def branchBytes : Nat := 4

/-- The bytes that an automaton may take. -/
def limit : Nat := 10 * 1024 * 1024

/-- All bytes of an automaton. -/
def bytes (f : Footprint) : Nat := stateBytes * f.states + f.lists

/-- Adds states that go on at some alternatives and have some transitions, if there is room. -/
def add (f : Footprint) (states branches edges : Nat) : Option Footprint :=
  let f := ⟨f.states + states, f.lists + branchBytes * branches + edgeBytes * edges⟩
  if f.bytes ≤ limit then some f else none

/-- The step taken a number of times. -/
def repeated (step : Footprint → Option Footprint) : Nat → Footprint → Option Footprint
  | 0, f => some f
  | n + 1, f => (step f).bind (repeated step n)

end Footprint

/-- A transition on a range of bytes to a state. -/
structure Edge where
  /-- The bytes. -/
  bytes : ByteRange
  /-- The state to go on at. -/
  target : Nat
deriving DecidableEq

/-- States of one class that can be shared, by the transitions they were made for. -/
structure Sharing where
  /-- What has been laid out. -/
  footprint : Footprint
  /-- The slots of the memo. -/
  memo : Std.HashMap Nat (List Edge × Nat) := {}

namespace Sharing

/-- Mixes a number into a hash. -/
def mix (hash : UInt64) (n : Nat) : UInt64 := (hash ^^^ n.toUInt64) * 1099511628211

/-- The hash of some numbers. -/
def hash (ns : List Nat) : Nat := (ns.foldl mix 14695981039346656037).toNat

/-- Finds a state for some transitions, or adds it with its list of transitions. -/
def state (s : Sharing) (slot : Nat) (key : List Edge) (edges : Nat) : Option (Nat × Sharing) :=
  match s.memo[slot]? with
  | some (known, id) => if known = key then some (id, s) else addNew
  | none => addNew
where
  /-- Adds a state and puts it into the memo. -/
  addNew : Option (Nat × Sharing) :=
    let id := s.footprint.states
    (s.footprint.add 1 0 edges).map fun f => (id, ⟨f, s.memo.insert slot (key, id)⟩)

/-- A state with a list of transitions, from a memo of ten thousand slots. -/
def listState (s : Sharing) (edges : List Edge) : Option (Nat × Sharing) :=
  let hash := hash (edges.flatMap fun e => [e.bytes.1, e.bytes.2, e.target])
  s.state (hash % 10000) edges edges.length

/-- A state with a single transition, from a memo of a thousand slots. -/
def edgeState (s : Sharing) (e : Edge) : Option (Nat × Sharing) :=
  s.state (hash [e.target, e.bytes.1, e.bytes.2] % 1000) [e] 0

end Sharing

/-- A state whose transitions are still being collected. -/
structure OpenState where
  /-- The transitions so far, the last one first. -/
  edges : List Edge := []
  /-- The bytes of the transition whose target is still open. -/
  pending : Option ByteRange := none

namespace OpenState

/-- The state after its open transition has got a target. -/
def close (n : OpenState) (target : Nat) : OpenState :=
  match n.pending with
  | some r => ⟨⟨r, target⟩ :: n.edges, none⟩
  | none => n

/-- Lays out a chain of open states, the last one first, and gives the state to enter it at. -/
def finish (target : Nat) : List OpenState → Sharing → Option (Nat × Sharing)
  | [], s => some (target, s)
  | n :: rest, s => do
    let (next, s) ← finish target rest s
    s.listState (n.close next).edges.reverse

/-- Puts a sequence of ranges of bytes into a chain of open states. What it has in common with the
sequence before it stays open; the rest of that sequence is laid out. -/
def insert (target : Nat) : List OpenState → List ByteRange → Sharing →
    Option (List OpenState × Sharing)
  | n :: rest, r :: rs, s =>
    if n.pending = some r then
      (insert target rest rs s).map fun (rest, s) => (n :: rest, s)
    else do
      let (next, s) ← finish target rest s
      some ({ n.close next with pending := some r } :: rs.map fun r => ⟨[], some r⟩, s)
  | _, rs, s => some (rs.map fun r => ⟨[], some r⟩, s)

end OpenState

namespace Footprint

/-- Lays out a class of ASCII characters: one state with a transition for each range. -/
def addAscii (set : Text.CharSet) (f : Footprint) : Option Footprint :=
  f.add 2 0 set.ranges.length

/-- Lays out a class that is read forward: a tree of the leading bytes, whose equal ends are
shared. -/
def addForward (set : Text.CharSet) (f : Footprint) : Option Footprint := do
  let target := f.states
  let s : Sharing := { footprint := ← f.add 1 0 0 }
  let (chain, s) ← (ByteRange.ofSet set).foldlM
    (fun (chain, s) sequence => OpenState.insert target chain sequence s) ([({} : OpenState)], s)
  let (_, s) ← OpenState.finish target chain s
  some s.footprint

/-- Lays out a class that is read backward: each sequence of bytes is an alternative, and equal
beginnings of the encodings are shared. -/
def addBackward (set : Text.CharSet) (f : Footprint) : Option Footprint := do
  let target := f.states + 1
  let s : Sharing := { footprint := ← f.add 2 0 0 }
  let s ← (ByteRange.ofSet set).foldlM (fun s sequence => do
    let (_, s) ← sequence.foldlM (fun ((next, s) : Nat × Sharing) r => s.edgeState ⟨r, next⟩)
      (target, s)
    some { s with footprint := ← s.footprint.add 0 1 0 }) s
  some s.footprint

end Footprint

/-- A state of the tree of some texts. The transitions are kept in groups: a text that ends at the
state closes the group so far, so that the texts keep their order of preference. -/
structure PrefixState where
  /-- The numbers of transitions in the groups that are closed. -/
  closed : List Nat := []
  /-- The transitions of the last group: bytes and states. -/
  last : List (Nat × Nat) := []

namespace PrefixState

/-- No transition leaves the state. -/
def isLeaf (n : PrefixState) : Bool := n.last.isEmpty && n.closed.all (· = 0)

/-- Marks the end of a text. -/
def mark (n : PrefixState) : PrefixState :=
  if n.isLeaf && !n.closed.isEmpty then n else ⟨n.closed ++ [n.last.length], []⟩

/-- Adds a text, given by its bytes, to a tree below one of its states. -/
def insert (tree : Array PrefixState) : Nat → List Nat → Array PrefixState
  | i, [] => tree.modify i mark
  | i, b :: bytes =>
    match (tree.getD i {}).last.lookup b with
    | some next => insert tree next bytes
    | none =>
      let next := tree.size
      let tree := tree.modify i fun n => { n with last := n.last ++ [(b, next)] }
      insert (tree.push {}) next bytes

/-- The tree of some texts. -/
def tree (texts : List (List Nat)) : Array PrefixState :=
  texts.foldl (fun tree bytes => insert tree 0 bytes) #[{}]

/-- Lays out a state: the choice between its groups and the ends of texts between them. A group of
one transition needs no list. -/
def addTo (f : Footprint) (n : PrefixState) : Option Footprint :=
  let groups := (n.closed ++ [n.last.length]).filter (0 < ·)
  let listed := (groups.filter (1 < ·)).foldl (· + ·) 0
  if n.isLeaf then some f
  else f.add (groups.length + 1) (groups.length + n.closed.length) listed

end PrefixState

/-- The direction in which an automaton reads. -/
inductive Direction where
  /-- From the first byte on. -/
  | forward
  /-- From the last byte on. -/
  | backward
deriving DecidableEq

/-- The place of an expression among the branches of a choice. -/
inductive Place where
  /-- It is no branch, or the first one. -/
  | alone
  /-- It is the second branch. -/
  | second
  /-- It is a branch after the second one. -/
  | later

namespace Place

/-- Lays out what a branch at this place adds to the choice. -/
def join : Place → Footprint → Option Footprint
  | .alone, f => some f
  | .second, f => f.add 2 2 0
  | .later, f => f.add 0 1 0

/-- The place after this one. -/
def after : Place → Place
  | .alone => .second
  | _ => .later

end Place

namespace Node

/-- The text of a literal. -/
def text? : Node → Option (List Char)
  | .literal text => some text
  | _ => none

/-- Lays out a choice between texts as the tree of their bytes. -/
def addTexts (dir : Direction) (texts : List (List Char)) (f : Footprint) : Option Footprint := do
  let bytes := texts.map ByteRange.encodeText
  let tree := PrefixState.tree (if dir = .forward then bytes else bytes.map List.reverse)
  tree.foldlM PrefixState.addTo (← f.add 1 0 0)

/-- Lays out a class. -/
def addSet (dir : Direction) (set : Text.CharSet) (f : Footprint) : Option Footprint :=
  if set.isAscii then f.addAscii set
  else if dir = .forward then f.addForward set
  else f.addBackward set

/-- Lays out an expression that stands at some place. -/
def layOut (dir : Direction) : Node → Place → Footprint → Option Footprint
  | .empty, p, f => (f.add 1 0 0).bind p.join
  | .literal text, p, f => (f.add (ByteRange.encodeText text).length 0 0).bind p.join
  | .chars set, p, f => (addSet dir set f).bind p.join
  | .anchor _, p, f => (f.add 1 0 0).bind p.join
  | .group _ body, p, f =>
    if dir = .forward then do
      let f ← layOut dir body .alone (← f.add 1 0 0)
      p.join (← f.add 1 0 0)
    else (layOut dir body .alone f).bind p.join
  | .concat first rest, p, f =>
    if dir = .forward then do
      p.join (← layOut dir rest .alone (← layOut dir first .alone f))
    else do
      p.join (← layOut dir first .alone (← layOut dir rest .alone f))
  | .alternative first rest, p, f =>
    let texts? :=
      match p with
      | .alone => (first :: rest.branches).mapM text?
      | _ => none
    match texts? with
    | some texts => addTexts dir texts f
    | none => do
      let f ← layOut dir first .alone f
      layOut dir rest p.after (← p.join f)
  | .repetition body least most _, p, f => do
    let once := layOut dir body .alone
    let f ←
      match most with
      | none =>
        if least = 0 then
          if body.needsText then do once (← f.add 1 2 0) else do (← once f).add 3 4 0
        else do (← Footprint.repeated once least f).add 1 2 0
      | some most =>
        if least = most then Footprint.repeated once least f
        else if least = 0 ∧ most = 1 then do (← once (← f.add 1 2 0)).add 1 0 0
        else do
          let f ← if least = 0 then f.add 1 0 0 else Footprint.repeated once least f
          let optional := fun (f : Footprint) => do once (← f.add 1 2 0)
          Footprint.repeated optional (most - least) (← f.add 1 0 0)
    p.join f

/-- Every match begins at the start of the text. -/
def startsText : Node → Bool
  | .anchor a => a = .textStart
  | .group _ body => body.startsText
  | .concat first rest => first.startsText || (first.isTextless && rest.startsText)
  | .alternative first rest => first.startsText && rest.startsText
  | .repetition body least _ _ => 0 < least && body.startsText
  | _ => false

/-- Every match ends at the end of the text. -/
def endsText : Node → Bool
  | .anchor a => a = .textEnd
  | .group _ body => body.endsText
  | .concat first rest => rest.endsText || (rest.isTextless && first.endsText)
  | .alternative first rest => first.endsText && rest.endsText
  | .repetition body least _ _ => 0 < least && body.endsText
  | _ => false

/-- Lays out the loop in front of an expression that reads up to the beginning of a match; one that
begins at the edge of the text needs none. -/
def lead (anchored : Bool) : Option Footprint :=
  if anchored then ({} : Footprint).add 1 0 0 else ({} : Footprint).add 3 2 1

/-- The automaton that reads forward. The whole match is a group, and the last state accepts. -/
def forward (n : Node) : Option Footprint := do
  let f ← layOut .forward n .alone (← (← lead n.startsText).add 1 0 0)
  f.add 2 0 0

/-- The automaton that reads backward. -/
def backward (n : Node) : Option Footprint := do
  (← layOut .backward n .alone (← lead n.endsText)).add 1 0 0

/-- Both automata of the expression have room. -/
def fits (n : Node) : Bool := n.forward.isSome && n.backward.isSome

end Node

end PagedSparql.Regex
