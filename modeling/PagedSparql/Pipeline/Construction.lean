import PagedSparql.Pipeline.Stage
import PagedSparql.Rdf.RowNotation

/-!
# Construction of triples

A template is a list of triple patterns. Those that hold terms only, and no blank node, are handed
on once, before the first row is pulled. The others are filled in with every row, their blank nodes
relabelled for each row; a triple that would have an unbound or invalid position is left out.
-/

namespace PagedSparql

/-- The triple as JSON. -/
def Triple.toJson (t : Triple) : Json :=
  .mkObj [("subject", .str t.subject.toCompact), ("predicate", .str t.predicate.toCompact),
    ("object", .str t.object.toCompact)]

/-- The construction of triples from the rows of a stage. -/
structure Construction where
  /-- The rows. -/
  source : Stage
  /-- The patterns that are filled in with every row. -/
  templates : List TriplePattern
  /-- The triples to hand on before anything else. -/
  pending : List Triple

/-- What a pull of a construction brings. -/
inductive TripleSignal where
  /-- The next triple. -/
  | triple (t : Triple)
  /-- There are no more triples. -/
  | done
  /-- No row could be had. -/
  | fail (e : TransportError)

namespace Construction

variable {σ : Type}

/-- The position holds a term that is no blank node. -/
def isConstantPosition : TermPattern → Bool
  | .term t => !t.isBlank
  | .variable _ => false

/-- The pattern is the same triple for every row. -/
def isConstant (t : TriplePattern) : Bool :=
  isConstantPosition t.subject && t.predicate.plain?.any isConstantPosition &&
    isConstantPosition t.object

/-- The valid triple that a pattern stands for under a row. -/
def instance? (row : Row) (t : TriplePattern) : Option Triple :=
  (t.ground? row).filter Triple.isValid

/-- The construction of the triples of a template. -/
def ofTemplate (template : List TriplePattern) (source : Stage) : Construction :=
  ⟨source, template.filter (!isConstant ·),
    (template.filter isConstant).filterMap (instance? .empty)⟩

/-- The labels of the blank nodes of a template for one row, and the source of new ones. -/
abbrev Relabelling := List (String × String) × Labels

/-- A position with its blank node relabelled. -/
def relabel (p : TermPattern) (s : Relabelling) : TermPattern × Relabelling :=
  match p with
  | .term (.blank label) =>
    match s.1.lookup label with
    | some new => (.term (.blank new), s)
    | none =>
      let (new, labels) := s.2.fresh
      (.term (.blank new), (label, new) :: s.1, labels)
  | p => (p, s)

/-- A pattern with its blank nodes relabelled; a path is no pattern for triples. -/
def relabelTriple (t : TriplePattern) (s : Relabelling) : Option TriplePattern × Relabelling :=
  match t.predicate with
  -- Nothing is relabelled for a pattern that can have no triple.
  | .path _ _ => (none, s)
  | .plain predicate =>
    let (subject, s) := relabel t.subject s
    let (predicate, s) := relabel predicate s
    let (object, s) := relabel t.object s
    (some ⟨subject, .plain predicate, object⟩, s)

/-- The triples of a template for one row. -/
def instantiate (row : Row) : List TriplePattern → Relabelling → List Triple × Relabelling
  | [], s => ([], s)
  | t :: rest, s =>
    let (t?, s) := relabelTriple t s
    let (triples, s) := instantiate row rest s
    ((t?.bind (instance? row)).toList ++ triples, s)

/-- The triples of all templates for one row. -/
def triplesOf (templates : List TriplePattern) (row : Row) (s : Session σ) :
    List Triple × Session σ :=
  let (triples, _, labels) := instantiate row templates ([], s.evaluation.labels)
  (triples, { s with evaluation := { s.evaluation with labels } })

/-- Pulls the next triple, in at most so many steps. -/
def pull (net : Network σ) (now : DateTime) :
    Nat → Construction → Session σ → Option TripleSignal × Construction × Session σ
  | 0, c, s => (none, c, s)
  | n + 1, c, s =>
    match c.pending with
    | t :: rest => (some (.triple t), { c with pending := rest }, s)
    | [] =>
      match c.source.step net now (if c.source.wants then some .done else none) s with
      | ((source, none), s) => pull net now n { c with source } s
      | ((source, some (.row r)), s) =>
        let (triples, s) := triplesOf c.templates r s
        pull net now n { c with source, pending := triples } s
      | ((source, some .done), s) => (some .done, { c with source }, s)
      | ((source, some (.fail e)), s) => (some (.fail e), { c with source }, s)

end Construction

end PagedSparql
