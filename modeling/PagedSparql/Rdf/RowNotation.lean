import PagedSparql.Json.Writer
import PagedSparql.Rdf.Row

/-!
# Rows in JSON

A row is written as an object from variables, with their sigil, to terms in compact form. A row is
read whether its keys have a sigil or not, and a key with the value `null` is left out. The keys are
read in order, so of several names for one variable the last one stays.
-/

namespace PagedSparql.Row

/-- The row as a JSON object. -/
def toJson (r : Row) : Json := .mkObj (r.entries.map fun e => (e.1.toText, .str e.2.toCompact))

/-- Reads the cells of a row. -/
def ofMembers (row : Row) : List (String × Json) → Except TermError Row
  | [] => .ok row
  | (_, .null) :: rest => ofMembers row rest
  | (key, .str text) :: rest => do
    let t ← Term.parse text
    ofMembers (row.insert (.ofText key) t) rest
  | (_, cell) :: _ => .error ⟨cell.render, .cellNotString⟩

/-- Reads a row from a JSON object. -/
def ofJson : Json → Except TermError Row
  | .obj members => ofMembers .empty members
  | j => .error ⟨j.render, .rowNotObject⟩

end PagedSparql.Row
