import PagedSparql.Algebra.Basic

/-!
# The order of clauses in a group

Before a group is planned, basic graph patterns that stand next to each other become one, so that
they cost one join, and then inline rows move to the front and conditions to the back. All else
keeps its order.

What is arranged is any type with a view on its basic graph patterns and with a rank, so that
clauses can be arranged before and after they are planned.
-/

namespace PagedSparql

/-- A type of clauses that can be arranged. -/
class Arrangeable (α : Type) where
  /-- The triple patterns, if the clause is a basic graph pattern. -/
  triples? : α → Option (List TriplePattern)
  /-- The clause that is a basic graph pattern. -/
  ofTriples : List TriplePattern → α
  /-- Clauses of lower rank come first: 0 for inline rows, 2 for conditions, else 1. -/
  rank : α → Nat

namespace Arrangement

variable {α : Type} [Arrangeable α]

/-- Puts a clause before others, into the first of them if both are basic graph patterns. -/
def mergeFirst (clause : α) : List α → List α
  | [] => [clause]
  | next :: rest =>
    match Arrangeable.triples? clause, Arrangeable.triples? next with
    | some a, some b => Arrangeable.ofTriples (a ++ b) :: rest
    | _, _ => clause :: next :: rest

/-- Basic graph patterns that stand next to each other become one. -/
def mergeAdjacent (clauses : List α) : List α := clauses.foldr mergeFirst []

/-- The clauses of a rank. -/
def ofRank (rank : Nat) (clauses : List α) : List α :=
  clauses.filter fun c => Arrangeable.rank c == rank

/-- The clauses in the order in which they are planned. -/
def arrange (clauses : List α) : List α :=
  let merged := mergeAdjacent clauses
  ofRank 0 merged ++ ofRank 1 merged ++ ofRank 2 merged

end Arrangement

/-- The triple patterns of a basic graph pattern. -/
def Algebra.triples? : Algebra → Option (List TriplePattern)
  | .bgp triples => some triples
  | _ => none

/-- The rank of a node in its group. -/
def Algebra.rank : Algebra → Nat
  | .values _ => 0
  | .filter _ => 2
  | _ => 1

instance : Arrangeable Algebra := ⟨Algebra.triples?, .bgp, Algebra.rank⟩

/-- The nodes of a group in the order in which they are planned. -/
def Algebra.arrange (patterns : List Algebra) : List Algebra := Arrangement.arrange patterns

end PagedSparql
