import PagedSparql.Json.Basic

/-!
# Records in JSON

A record is an object with a member for each of its fields, or a list of its fields in order. Other
members of an object are ignored; a list may be too short, which leaves the last fields out, but not
too long.
-/

namespace PagedSparql.Json

/-- The depth to which a value is nested. -/
def depth : Json → Nat
  | .arr items => depthItems items + 1
  | .obj members => depthMembers members + 1
  | _ => 1
where
  /-- The greatest depth of the values of a list. -/
  depthItems : List Json → Nat
    | [] => 0
    | j :: rest => max j.depth (depthItems rest)
  /-- The greatest depth of the members of an object. -/
  depthMembers : List (String × Json) → Nat
    | [] => 0
    | (_, j) :: rest => max j.depth (depthMembers rest)

/-- The fields with the given names, each where it is present. -/
def fields? (names : List String) : Json → Option (List (Option Json))
  | .obj members => some (names.map fun name => members.lookup name)
  | .arr items =>
    if items.length ≤ names.length then
      some ((List.range names.length).map fun i => items[i]?)
    else none
  | _ => none

/-- The value of an optional field: absent, or as the reader has it. -/
def optional? {α : Type} (read? : Json → Option α) (default : α) : Option Json → Option α
  | none => some default
  | some j => read? j

/-- A value that may be `null`. -/
def nullable? {α : Type} (read? : Json → Option α) : Json → Option (Option α)
  | .null => some none
  | j => (read? j).map some

/-- A list of values that a reader takes. -/
def list? {α : Type} (read? : Json → Option α) : Json → Option (List α)
  | .arr items => items.mapM read?
  | _ => none

end PagedSparql.Json
