import PagedSparql.Algebra.Triple
import PagedSparql.Server.Error

/-!
# Stores

A store holds a set of triples. What is loaded has to be RDF: IRIs are absolute, subjects are no
literals, predicates are IRIs, and language tags are well formed. Language tags are kept in lower
case.
-/

namespace PagedSparql

/-- A set of triples. -/
structure Store where
  /-- The triples, each once. -/
  triples : List Triple := []

namespace Store

/-- The characters above the blank that cannot stand in an IRI. -/
def iriDelimiters : List Char := ['<', '>', '"', '\x7b', '\x7d', '|', '^', '`', '\\']

/-- The character can stand in an IRI. -/
def isIriChar (c : Char) : Bool := decide (32 < c.toNat) && !iriDelimiters.contains c

/-- The character can stand in the scheme of an IRI after the first one. -/
def isSchemeChar (c : Char) : Bool := c.isAlphanum || ['+', '-', '.'].contains c

/-- The text is an IRI with a scheme. -/
def isAbsoluteIri (iri : String) : Bool :=
  let chars := iri.toList
  let scheme := chars.takeWhile isSchemeChar
  chars.all isIriChar && scheme.head?.any Char.isAlpha && chars[scheme.length]? == some ':'

/-- A part of a language tag. -/
def isSubtag (part : String) : Bool := 0 < part.length && part.length ≤ 8 && part.all Char.isAlphanum

/-- The text is a language tag. -/
def isLanguageTag (tag : String) : Bool :=
  let parts := tag.splitOn "-"
  parts.all isSubtag && parts.head?.any (·.all Char.isAlpha)

/-- The literal as it is kept. -/
def admitLiteral (l : Literal) : Except EndpointError Literal :=
  match l.language? with
  | some tag =>
    if isLanguageTag tag then .ok (.tagged l.value tag.toLower) else .error .load
  | none => if isAbsoluteIri l.datatype then .ok l else .error .load

/-- The term as it is kept. -/
def admitTerm : Term → Except EndpointError Term
  | .iri iri => if isAbsoluteIri iri then .ok (.iri iri) else .error .load
  | .blank label => .ok (.blank label)
  | .literal l => (admitLiteral l).map .literal

/-- The triple as it is kept. -/
def admitTriple (t : Triple) : Except EndpointError Triple := do
  -- A term in the wrong place is refused, whatever the others are.
  if !t.isValid then .error .load
  .ok ⟨← admitTerm t.subject, ← admitTerm t.predicate, ← admitTerm t.object⟩

/-- The store with a triple. -/
def insert (s : Store) (t : Triple) : Store :=
  if t ∈ s.triples then s else ⟨s.triples ++ [t]⟩

/-- The store of some triples. -/
def load (triples : List Triple) : Except EndpointError Store := do
  return (← triples.mapM admitTriple).foldl insert {}

/-- The number of triples. -/
def size (s : Store) : Nat := s.triples.length

/-- The formats that can be loaded, by what the names of their files end in. -/
def formats : List String := ["nt", "ttl", "nq", "trig", "txt"]

/-- What the name of a file has after its last point, if something stands before that point. -/
def extension? (file : String) : Option String :=
  match (file.splitOn ".").reverse with
  | [] => none
  | [_] => none
  | [_, ""] => none
  | last :: _ => some last

/-- The store of the triples in a file. The file's name tells its format. -/
def loadFile (file : String) (triples : List Triple) : Except EndpointError Store :=
  if (extension? file).any fun e => formats.contains e.toLower then load triples else .error .load

end Store

end PagedSparql
