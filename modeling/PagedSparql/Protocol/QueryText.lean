import PagedSparql.Algebra.Triple

/-!
# Queries as text

What is sent to endpoints: one basic graph pattern, or the union of several. A union of one pattern
is the pattern itself.
-/

namespace PagedSparql.QueryText

/-- The patterns of a group, each after a blank. -/
def patterns (triples : List TriplePattern) : String :=
  String.join (triples.map fun t => " " ++ t.toQuery)

/-- The query for one basic graph pattern. -/
def ofPattern (triples : List TriplePattern) : String :=
  "SELECT * WHERE \x7b" ++ patterns triples ++ " \x7d"

/-- A basic graph pattern as an alternative of a union. -/
def alternative (triples : List TriplePattern) : String := " \x7b" ++ patterns triples ++ " \x7d"

/-- The query for the union of basic graph patterns. -/
def ofUnion : List (List TriplePattern) → String
  | [triples] => ofPattern triples
  | alternatives =>
    "SELECT * WHERE \x7b" ++ " UNION".intercalate (alternatives.map alternative) ++ " \x7d"

end PagedSparql.QueryText
