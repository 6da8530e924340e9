import PagedSparql.Regex.Program
import PagedSparql.Regex.Footprint
import PagedSparql.Regex.Reader

/-!
# Searching with regular expressions

A search runs the threads of a program side by side over the text, in the order of preference and
each place at most once, so that its time is bounded by the product of the two lengths. The match
found is the leftmost one, and of those the one that the expression prefers.

`replaceAll` replaces the matches that do not overlap, from left to right. In the replacement, `$`
and the number or name of a group stand for the text of the group, `$$` for a dollar sign.
-/

namespace PagedSparql

/-- A pattern ready to search with. -/
structure Regex where
  /-- The instructions. -/
  program : Array Regex.Inst
  /-- The number of groups, the whole match among them. -/
  groups : Nat
  /-- The names of groups. -/
  names : List (String × Nat)

namespace Regex

/-- Why a pattern cannot be used. -/
inductive Fault where
  /-- The text is not a pattern, or its automata would be too large. -/
  | malformed
  /-- A flag that is not known. -/
  | unknownFlag (flag : Char)

/-- Reads flags: `i`, `m`, `s` and `x` set modes, and `q` takes the pattern literally. -/
def readFlags : List Char → Flags × Bool → Except Fault (Flags × Bool)
  | [], acc => .ok acc
  | c :: rest, (flags, literal) =>
    if c = 'q' then readFlags rest (flags, true)
    else if c = 'i' then readFlags rest ({ flags with anyCase := true }, literal)
    else if c = 'm' then readFlags rest ({ flags with multiLine := true }, literal)
    else if c = 's' then readFlags rest ({ flags with dotAll := true }, literal)
    else if c = 'x' then readFlags rest ({ flags with verbose := true }, literal)
    else .error (.unknownFlag c)

/-- A pattern that matches a text literally. -/
def escapePattern (text : List Char) : List Char :=
  text.flatMap fun c => if Reader.metaChars.contains c then ['\\', c] else [c]

/-- Prepares a pattern under flags. -/
def compile (pattern flags : String) : Except Fault Regex := do
  let (flags, literal) ← readFlags flags.toList ({}, false)
  let text := if literal then escapePattern pattern.toList else pattern.toList
  match read? flags text with
  | some (node, groups) =>
    if node.fits then .ok ⟨node.program, groups.next, groups.names⟩ else .error .malformed
  | none => .error .malformed

/-- The recorded positions of a thread. -/
abbrev Slots := Array (Option Nat)

/-- A thread: the next instruction and the positions recorded so far. -/
structure Thread where
  /-- The index of the next instruction. -/
  pc : Nat
  /-- The recorded positions. -/
  slots : Slots

/-- Runs threads up to the instructions that read a character or accept. Each instruction is reached
at most once, by the thread that is preferred; `seen` marks those reached, and the threads that
wait are collected last first. -/
def follow (program : Array Inst) (text : Array Char) (position : Nat) :
    Nat → List Thread → Array Bool → List Thread → Array Bool × List Thread
  | 0, _, seen, waiting => (seen, waiting)
  | _, [], seen, waiting => (seen, waiting)
  | fuel + 1, t :: stack, seen, waiting =>
    if seen.getD t.pc true then follow program text position fuel stack seen waiting
    else
      let seen := seen.setIfInBounds t.pc true
      match program[t.pc]? with
      | some (.jump target) =>
        follow program text position fuel (⟨target, t.slots⟩ :: stack) seen waiting
      | some (.split first second) =>
        follow program text position fuel (⟨first, t.slots⟩ :: ⟨second, t.slots⟩ :: stack) seen
          waiting
      | some (.save slot) =>
        follow program text position fuel
          (⟨t.pc + 1, t.slots.setIfInBounds slot (some position)⟩ :: stack) seen waiting
      | some (.anchor a) =>
        let before := if position = 0 then none else text[position - 1]?
        let stack := if a.holds before text[position]? then ⟨t.pc + 1, t.slots⟩ :: stack else stack
        follow program text position fuel stack seen waiting
      | some (.chars _) => follow program text position fuel stack seen (t :: waiting)
      | some .accept => follow program text position fuel stack seen (t :: waiting)
      | none => follow program text position fuel stack seen waiting

/-- The threads that one thread leads to, added to those already waiting. -/
def spawn (program : Array Inst) (text : Array Char) (position : Nat) (t : Thread)
    (acc : Array Bool × List Thread) : Array Bool × List Thread :=
  follow program text position (2 * program.size + 2) [t] acc.1 acc.2

/-- Moves the waiting threads, in their order, over the next character. A thread that accepts ends
the less preferred ones and gives the match. -/
def advance (program : Array Inst) (text : Array Char) (position : Nat) :
    List Thread → Array Bool × List Thread → Option Slots →
      Array Bool × List Thread × Option Slots
  | [], (seen, waiting), found => (seen, waiting, found)
  | t :: rest, acc, found =>
    match program[t.pc]? with
    -- The threads after this one are less preferred than its match.
    | some .accept => (acc.1, acc.2, some t.slots)
    | some (.chars c) =>
      let acc :=
        if text[position]?.any c.contains then
          spawn program text (position + 1) ⟨t.pc + 1, t.slots⟩ acc
        else acc
      advance program text position rest acc found
    | _ => advance program text position rest acc found

/-- Runs the threads of a program from a position on, which record as many positions as there are
slots. As long as nothing is found, a new thread starts at every position. -/
def run (program : Array Inst) (slots : Nat) (text : Array Char) :
    Nat → Nat → Array Bool × List Thread → Option Slots → Option Slots
  | 0, _, _, found => found
  | fuel + 1, position, acc, found =>
    -- The new thread comes last: matches that start earlier are preferred.
    let (_, waiting) :=
      if found.isNone then spawn program text position ⟨0, Array.replicate slots none⟩ acc
      else acc
    -- No thread is left that could give a preferred match.
    if waiting.isEmpty && found.isSome then found
    else
      let (seen, waiting, found) :=
        advance program text position waiting.reverse (Array.replicate program.size false, []) found
      run program slots text fuel (position + 1) (seen, waiting) found

/-- The positions of the first match that starts at or after a position, as many as there are
slots. -/
def search (r : Regex) (slots : Nat) (text : Array Char) (start : Nat) : Option Slots :=
  run r.program slots text (text.size + 1 - start) start (Array.replicate r.program.size false, [])
    none

/-- The positions of the first match that starts at or after a position, and of its groups. -/
def find? (r : Regex) (text : Array Char) (start : Nat) : Option Slots :=
  r.search (2 * r.groups) text start

/-- The pattern matches somewhere in the text. -/
def isMatch (r : Regex) (text : String) : Bool := (r.search 0 text.toList.toArray 0).isSome

/-- The text between two recorded positions, nothing if they were not recorded. -/
def groupText (text : Array Char) (slots : Slots) (group : Nat) : List Char :=
  match slots[2 * group]?, slots[2 * group + 1]? with
  | some (some first), some (some last) => (text.extract first last).toList
  | _, _ => []

/-- A number in ASCII digits, with an optional plus sign. -/
def groupNumber? (name : List Char) : Option Nat :=
  let digits :=
    match name with
    | '+' :: rest => rest
    | _ => name
  let n := Double.ofDigits digits
  if digits.isEmpty || !digits.all Double.isDigit || decide (UInt64.size ≤ n) then none else some n

/-- The text of the group with a number or name; an unknown group has none. -/
def reference (r : Regex) (text : Array Char) (slots : Slots) (name : List Char) : List Char :=
  match groupNumber? name with
  | some n => groupText text slots n
  | none =>
    match r.names.lookup (String.ofList name) with
    | some n => groupText text slots n
    | none => []

/-- A replacement with the texts of its groups put in; a dollar sign that names no group stays. -/
def expand (r : Regex) (text : Array Char) (slots : Slots) : Nat → List Char → List Char
  | 0, _ => []
  | _, [] => []
  | fuel + 1, '$' :: rest =>
    match rest with
    | '$' :: rest => '$' :: expand r text slots fuel rest
    | '\x7b' :: after =>
      let name := after.takeWhile (· != '\x7d')
      match after.drop name.length with
      | _ :: after => r.reference text slots name ++ expand r text slots fuel after
      | [] => '$' :: expand r text slots fuel rest
    | _ =>
      let name := rest.takeWhile fun c => c.isAlphanum || c == '_'
      if name.isEmpty then '$' :: expand r text slots fuel rest
      else r.reference text slots name ++ expand r text slots fuel (rest.drop name.length)
  | fuel + 1, c :: rest => c :: expand r text slots fuel rest

/-- The ends of the whole match. -/
def ends (slots : Slots) : Nat × Nat :=
  match slots[0]?, slots[1]? with
  | some (some first), some (some last) => (first, last)
  | _, _ => (0, 0)

/-- The next match from a position on. An empty match right after the last match does not count. -/
def next? (r : Regex) (text : Array Char) (start : Nat) (last? : Option Nat) : Option Slots :=
  match r.find? text start with
  | none => none
  | some slots =>
    -- Otherwise the search would stay at one place for ever.
    if (ends slots).1 = (ends slots).2 ∧ last? = some (ends slots).2 then r.find? text (start + 1)
    else some slots

/-- The text from a position on with its matches replaced. -/
def replaceFrom (r : Regex) (text : Array Char) (replacement : List Char) :
    Nat → Nat → Option Nat → List Char
  | 0, start, _ => (text.extract start text.size).toList
  | fuel + 1, start, last? =>
    match r.next? text start last? with
    | none => (text.extract start text.size).toList
    | some slots =>
      let (first, last) := ends slots
      (text.extract start first).toList ++
        r.expand text slots (replacement.length + 1) replacement ++
        replaceFrom r text replacement fuel last (some last)

/-- The text with all matches replaced. -/
def replaceAll (r : Regex) (text replacement : String) : String :=
  let chars := text.toList.toArray
  .ofList (r.replaceFrom chars replacement.toList (2 * chars.size + 2) 0 none)

end Regex

end PagedSparql
