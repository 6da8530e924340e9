import PagedSparql.Algebra.Triple

/-!
# Patterns for several rows at once

One request can ask for the solutions of a pattern for several rows at once: each row is put into
the pattern, and the variables that stay free get the number of the row as a suffix, so that a
solution of the union tells which row it extends. The table of a round keeps the rows, the way back
from the new names, and which rows were extended.

A pattern for the one empty row needs no new names. Its table takes every solution for that row.
-/

namespace PagedSparql

/-- The table of one round. -/
structure RoundTable where
  /-- The rows of the round, each under the number of its place. -/
  rows : List Row
  /-- The numbers of the rows that were extended. -/
  observed : List Nat := []
  /-- The row and the old name that each new name stands for; none if nothing was renamed. -/
  renames? : Option (List (Variable × Nat × Variable))

namespace RoundTable

/-- The name of a variable in the pattern for the row with a number. -/
def suffixed (v : Variable) (key : Nat) : Variable := .ofText (v.name ++ "_" ++ toString key)

/-- The pattern for one row. -/
def patternFor (triples : List TriplePattern) (key : Nat) (row : Row) : List TriplePattern :=
  triples.map fun t => (t.substitute row).rename (suffixed · key)

/-- The new names in the pattern for one row, with what they stand for. -/
def renamesOf (triples : List TriplePattern) (key : Nat) (row : Row) :
    List (Variable × Nat × Variable) :=
  (triples.flatMap fun t => (t.substitute row).vars).map fun v => (suffixed v key, key, v)

/-- The patterns for all rows of a round. -/
def patterns (triples : List TriplePattern) (rows : List Row) : List (List TriplePattern) :=
  rows.mapIdx (patternFor triples)

/-- The table of a round that renames the variables of a pattern. -/
def build (triples : List TriplePattern) (rows : List Row) : RoundTable :=
  ⟨rows, [], some (rows.mapIdx (renamesOf triples)).flatten⟩

/-- The table of a round for one row that renames nothing. -/
def identity (row : Row) : RoundTable := ⟨[row], [], none⟩

/-- The number of rows of the round. -/
def size (t : RoundTable) : Nat := t.rows.length

/-- The row with a number. -/
def row? (t : RoundTable) (key : Nat) : Option Row := t.rows[key]?

/-- The row with a number was extended. -/
def observe (t : RoundTable) (key : Nat) : RoundTable :=
  { t with observed := key :: t.observed }

/-- The rows that were not extended, in order. -/
def unobserved (t : RoundTable) : List Row :=
  (t.rows.zipIdx.filter fun e => !t.observed.contains e.2).map (·.1)

/-- Reads the cells of a solution: all of its names have to be new names for one row. -/
def revertEntries (renames : List (Variable × Nat × Variable)) (key? : Option Nat) (row : Row) :
    List (Variable × Term) → Option (Nat × Row)
  | [] => key?.map (·, row)
  | (v, t) :: rest =>
    match renames.lookup v with
    | none => none
    | some (key, old) =>
      -- All names of a solution have to be those of one row.
      if key?.all (· == key) then revertEntries renames (some key) (row.insert old t) rest else none

/-- The number of the row that a solution extends, and what it adds under the old names. An empty
solution tells its row only if there is just one. -/
def revert? (t : RoundTable) (row : Row) : Option (Nat × Row) :=
  match t.renames? with
  | none => some (0, row)
  | some renames =>
    -- An empty solution carries no name that could tell its row.
    if row.isEmpty then if t.rows.length = 1 then some (0, .empty) else none
    else revertEntries renames none .empty row.entries

end RoundTable

end PagedSparql
