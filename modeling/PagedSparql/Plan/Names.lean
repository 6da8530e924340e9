import PagedSparql.Json.Basic
import PagedSparql.Rdf.Variable

/-!
# Fresh variables

Plans need variables that the query does not have. They are named `__v0`, `__v1` and so on; names
that the query uses are skipped.
-/

namespace PagedSparql

/-- A source of fresh variables. -/
structure Names where
  /-- The number of the next name. -/
  next : Nat := 0
  /-- The names that the query uses. -/
  reserved : List String := []

namespace Names

/-- The name with a number. -/
def numbered (n : Nat) : String := "__v" ++ toString n

/-- The first number, among so many from one on, whose name is not reserved. -/
def firstFree (reserved : List String) : Nat → Nat → Nat
  | 0, n => n
  | tries + 1, n =>
    if reserved.contains (numbered n) then firstFree reserved tries (n + 1) else n

/-- A variable that was not given out before and that the query does not use. -/
def fresh (names : Names) : Variable × Names :=
  let n := firstFree names.reserved names.reserved.length names.next
  (.ofText (numbered n), { names with next := n + 1 })

/-- Goes on from where the other source stopped, if that is further on. -/
def advancePast (names other : Names) : Names := { names with next := max names.next other.next }

/-- The name of a variable, if a text is one with its sigil. -/
def ofSigil? (text : String) : Option String :=
  match text.toList with
  | '?' :: name => some (.ofList name)
  | '$' :: name => some (.ofList name)
  | _ => none

mutual

/-- The names of the variables in a JSON value: all texts and keys that begin with a sigil. -/
def mentioned : Json → List String
  | .str s => (ofSigil? s).toList
  | .arr items => mentionedItems items
  | .obj members => mentionedMembers members
  | _ => []

/-- The names of the variables in the values of a list. -/
def mentionedItems : List Json → List String
  | [] => []
  | j :: rest => mentioned j ++ mentionedItems rest

/-- The names of the variables in the members of an object. -/
def mentionedMembers : List (String × Json) → List String
  | [] => []
  | (key, j) :: rest => (ofSigil? key).toList ++ mentioned j ++ mentionedMembers rest

end

/-- The source of variables that a JSON value does not mention. -/
def avoiding (j : Json) : Names := ⟨0, mentioned j⟩

end Names

/-- A source of fresh variables, with those that it gave out. -/
structure Naming where
  /-- The source. -/
  names : Names
  /-- The variables that were given out, in order. -/
  drawn : List Variable := []

namespace Naming

/-- Gives out a variable. -/
def draw (n : Naming) : Variable × Naming :=
  let (v, names) := n.names.fresh
  (v, ⟨names, n.drawn ++ [v]⟩)

end Naming

end PagedSparql
