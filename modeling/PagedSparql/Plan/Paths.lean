import PagedSparql.Algebra.Basic
import PagedSparql.Algebra.Error
import PagedSparql.Plan.Names

/-!
# Property paths

Endpoints are asked for patterns without paths, so paths are resolved into patterns without:

* a sequence becomes a chain of patterns over fresh variables;
* an inverse path turns its pattern round;
* a negated set becomes a fresh variable that differs from each of its members;
* an alternative splits the pattern: there is one branch for each of its items, and the branches
  hold all other patterns too.

Patterns are resolved from left to right, the first path first.
-/

namespace PagedSparql

/-- A pattern without paths: triple patterns, or branches that hold all of them, each under the
conditions of its negated sets. -/
inductive PathFree where
  /-- Triple patterns and conditions. -/
  | flat (triples : List TriplePattern) (conditions : List Expression)
  /-- Branches, and conditions on all of them. -/
  | split (branches : List PathFree) (conditions : List Expression)

namespace PathFree

/-- The triple patterns; none if there are branches. -/
def triples : PathFree → List TriplePattern
  | .flat triples _ => triples
  | .split _ _ => []

/-- The conditions of the negated sets that stand outside all branches. -/
def conditions : PathFree → List Expression
  | .flat _ conditions => conditions
  | .split _ conditions => conditions

/-- The same with conditions before all others. -/
def addConditions (conditions : List Expression) : PathFree → PathFree
  | .flat triples rest => .flat triples (conditions ++ rest)
  | .split branches rest => .split branches (conditions ++ rest)

mutual

/-- The pattern as a group. -/
def toGroup : PathFree → Algebra
  | .flat triples conditions =>
    .join ((if triples.isEmpty then [] else [.bgp triples]) ++ conditions.map .filter)
  | .split branches conditions =>
    .join (.union (toGroups branches) :: conditions.map .filter)

/-- The patterns of a list as groups. -/
def toGroups : List PathFree → List Algebra
  | [] => []
  | b :: rest => b.toGroup :: toGroups rest

end

/-- The union of the branches, if there are any. -/
def union? : PathFree → Option Algebra
  | .flat _ _ => none
  | .split branches _ => some (.union (toGroups branches))

end PathFree

namespace Paths

mutual

/-- The number of nodes of a predicate. -/
def weight : Predicate → Nat
  | .plain _ => 1
  | .path _ items => weights items + 1

/-- The number of nodes of the predicates of a list. -/
def weights : List Predicate → Nat
  | [] => 0
  | p :: rest => weight p + weights rest

end

/-- The number of nodes of the predicates of triple patterns. -/
def size (triples : List TriplePattern) : Nat := weights (triples.map (·.predicate))

/-- Every predicate has a node. -/
theorem weight_pos (p : Predicate) : 0 < weight p := by
  cases p <;> simp [weight]

/-- The nodes of two lists are those of the one and those of the other. -/
theorem size_append (a b : List TriplePattern) : size (a ++ b) = size a + size b := by
  induction a with
  | nil => simp [size, weights]
  | cons t a ih => simp_all [size, weights, Nat.add_assoc]

/-- The nodes of a list are those of its first pattern and those of the rest. -/
theorem size_cons (t : TriplePattern) (rest : List TriplePattern) :
    size (t :: rest) = weight t.predicate + size rest := rfl

/-- A chain of patterns from a subject to an object, one for each item of a sequence, over fresh
variables. -/
def chain (object : TermPattern) (subject : TermPattern) :
    List Predicate → Naming → List TriplePattern × Naming
  | [], n => ([], n)
  | [item], n => ([⟨subject, item, object⟩], n)
  | item :: rest, n =>
    let (v, n) := n.draw
    let (triples, n) := chain object (.variable v) rest n
    (⟨subject, item, .variable v⟩ :: triples, n)

/-- The predicates of a chain are the items of its sequence. -/
theorem size_chain (object subject : TermPattern) (items : List Predicate) (n : Naming) :
    size (chain object subject items n).1 = weights items := by
  induction items generalizing subject n with
  | nil => rfl
  | cons item rest ih =>
    cases rest with
    | nil => simp [chain, size, weights]
    | cons next rest =>
      simp only [chain, size_cons, weights]
      rw [ih]
      simp [weights]

/-- The condition that a variable differs from a member of a negated set. -/
def exclusion (v : Variable) : Predicate → Except BuildError Expression
  | .plain (.term t) => .ok (.call "!=" [.leaf (.variable v), .leaf (.term t)])
  | item => .error (.unsupportedNode ("negated property set member " ++ item.toQuery))

mutual

/-- Resolves the paths of the patterns that are still to do, beside those that have none. -/
def resolve (ready todo : List TriplePattern) (n : Naming) :
    Except BuildError (PathFree × Naming) :=
  match todo with
  | [] => .ok (.flat ready [], n)
  | ⟨subject, .plain p, object⟩ :: rest => resolve (ready ++ [⟨subject, .plain p, object⟩]) rest n
  | ⟨subject, .path .sequence items, object⟩ :: rest =>
    resolve ready ((chain object subject items n).1 ++ rest) (chain object subject items n).2
  | ⟨subject, .path .inverse [item], object⟩ :: rest =>
    resolve ready (⟨object, item, subject⟩ :: rest) n
  | ⟨_, .path .inverse items, _⟩ :: _ => .error (.invalidAlgebra (.inverseArity items.length))
  -- The variable is drawn before the members are looked at.
  | ⟨subject, .path .negated items, object⟩ :: rest => do
    let (v, n) := n.draw
    let conditions ← items.mapM (exclusion v)
    let (result, n) ← resolve (ready ++ [⟨subject, .plain (.variable v), object⟩]) rest n
    .ok (result.addConditions conditions, n)
  -- Each branch resolves the rest of the pattern for itself, with fresh variables of its own.
  | ⟨subject, .path .alternative items, object⟩ :: rest => do
    let (branches, n) ← resolveEach ready subject object rest items n
    .ok (.split branches [], n)
  | ⟨_, .path (.other symbol) _, _⟩ :: _ =>
    .error (.unsupportedNode ("property path " ++ symbol))
termination_by (size todo, 0)
decreasing_by
  all_goals simp only [Prod.lex_def, size_cons, size_append, size_chain, weight, weights]
  all_goals omega

/-- Resolves the paths once for each item of an alternative. -/
def resolveEach (ready : List TriplePattern) (subject object : TermPattern)
    (rest : List TriplePattern) (items : List Predicate) (n : Naming) :
    Except BuildError (List PathFree × Naming) :=
  match items with
  | [] => .ok ([], n)
  | item :: items => do
    let (branch, n) ← resolve ready (⟨subject, item, object⟩ :: rest) n
    let (branches, n) ← resolveEach ready subject object rest items n
    .ok (branch :: branches, n)
termination_by (weights items + size rest, items.length + 1)
decreasing_by
  · simp only [Prod.lex_def, size_cons, weights, List.length_cons]
    omega
  · have := weight_pos item
    simp only [Prod.lex_def, weights, List.length_cons]
    omega

end

/-- The pattern without its paths. -/
def compile (triples : List TriplePattern) (n : Naming) : Except BuildError (PathFree × Naming) :=
  resolve [] triples n

end Paths

end PagedSparql
