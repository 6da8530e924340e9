import PagedSparql.Rdf.Row

/-!
# Labels of new blank nodes

All blank nodes that one query makes get labels from one counter behind a fixed stem. `BNODE(key)`
names the same blank node as long as one row is evaluated; for this the counter remembers the
current row and the labels given out for its keys.
-/

namespace PagedSparql

/-- The source of the labels of new blank nodes. -/
structure Labels where
  /-- What all labels begin with. -/
  stem : String
  /-- The number of the next label. -/
  next : Nat := 0
  /-- The row being evaluated. -/
  row? : Option Row := none
  /-- The labels given out for the keys of that row. -/
  ofKeys : List (String × String) := []

namespace Labels

/-- A label that was not given out before. -/
def fresh (l : Labels) : String × Labels :=
  (l.stem ++ toString l.next, { l with next := l.next + 1 })

/-- Begins to evaluate a row; the labels of keys are kept only if it is the same row as before. -/
def enterRow (l : Labels) (row : Row) : Labels :=
  -- Equal rows that follow each other count as one row.
  if l.row? = some row then l else { l with row? := some row, ofKeys := [] }

/-- The row being evaluated is extended; the labels of its keys are kept. -/
def extendRow (l : Labels) (row : Row) : Labels := { l with row? := some row }

/-- The label of a key in the row being evaluated. -/
def ofKey (l : Labels) (key : String) : String × Labels :=
  match l.ofKeys.lookup key with
  | some label => (label, l)
  | none =>
    let (label, l) := l.fresh
    (label, { l with ofKeys := (key, label) :: l.ofKeys })

end Labels

end PagedSparql
