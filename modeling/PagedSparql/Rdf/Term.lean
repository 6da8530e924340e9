import PagedSparql.Rdf.Vocabulary

/-!
# RDF terms

IRIs, blank nodes and literals. A literal has a value and one of three annotations: none, a language
tag, or a datatype other than `xsd:string`. Since `xsd:string` is what a literal without annotation
has anyway, `"a"` and `"a"^^xsd:string` are one literal, and equality of literals is equality of
their parts.
-/

namespace PagedSparql

/-- What follows the value of a literal. -/
inductive Annotation where
  /-- Nothing: the literal is a string. -/
  | plain
  /-- A language tag. -/
  | tagged (language : String)
  /-- A datatype that is not the implicit one. -/
  | typed (datatype : String) (explicit : datatype ≠ Vocabulary.xsdString)
  deriving DecidableEq

/-- A literal: its value and its annotation. -/
structure Literal where
  /-- The characters between the quotes. -/
  value : String
  /-- The language tag or datatype. -/
  annotation : Annotation
  deriving DecidableEq

namespace Literal

/-- A string without language tag. -/
def simple (value : String) : Literal := ⟨value, .plain⟩

/-- A literal of a datatype; the datatype of strings is left implicit. -/
def typed (value datatype : String) : Literal :=
  if h : datatype = Vocabulary.xsdString then simple value else ⟨value, .typed datatype h⟩

/-- A string with a language tag. -/
def tagged (value language : String) : Literal := ⟨value, .tagged language⟩

/-- An integer in its shortest decimal form. -/
def integer (value : Int) : Literal := typed (toString value) Vocabulary.xsdInteger

/-- A boolean, written `true` or `false`. -/
def boolean (value : Bool) : Literal :=
  typed (if value then "true" else "false") Vocabulary.xsdBoolean

/-- The datatype, with the implicit ones made explicit. -/
def datatype (l : Literal) : String :=
  match l.annotation with
  | .plain => Vocabulary.xsdString
  | .tagged _ => Vocabulary.rdfLangString
  | .typed datatype _ => datatype

/-- The language tag. -/
def language? (l : Literal) : Option String :=
  match l.annotation with
  | .tagged language => some language
  | _ => none

/-- The literal has neither language tag nor datatype. -/
def isPlain (l : Literal) : Bool :=
  match l.annotation with
  | .plain => true
  | _ => false

/-- The literal is a string, with or without language tag. -/
def isString (l : Literal) : Bool :=
  match l.annotation with
  | .typed _ _ => false
  | _ => true

end Literal

/-- Annotations in order: none, then language tags, then datatypes. -/
def Annotation.compare : Annotation → Annotation → Ordering
  | .plain, .plain => .eq
  | .plain, _ => .lt
  | .tagged _, .plain => .gt
  | .tagged a, .tagged b => Ord.compare a b
  | .tagged _, .typed _ _ => .lt
  | .typed a _, .typed b _ => Ord.compare a b
  | .typed _ _, _ => .gt

/-- A term that a variable can be bound to. -/
inductive Term where
  /-- An IRI. -/
  | iri (text : String)
  /-- A blank node, by its label. -/
  | blank (label : String)
  /-- A literal. -/
  | literal (content : Literal)
  deriving DecidableEq

namespace Term

/-- A string without language tag. -/
def string (value : String) : Term := .literal (.simple value)

/-- A boolean. -/
def boolean (value : Bool) : Term := .literal (.boolean value)

/-- The literal, if the term is one. -/
def literal? : Term → Option Literal
  | .literal l => some l
  | _ => none

/-- The term is an IRI. -/
def isIri : Term → Bool
  | .iri _ => true
  | _ => false

/-- The term is a blank node. -/
def isBlank : Term → Bool
  | .blank _ => true
  | _ => false

/-- The term is a literal. -/
def isLiteral : Term → Bool
  | .literal _ => true
  | _ => false

/-- The value of a literal, the IRI or the label otherwise. -/
def lexical : Term → String
  | .iri text => text
  | .blank label => label
  | .literal l => l.value

/-- The structural order: IRIs, then blank nodes, then literals by value and annotation. -/
def compare : Term → Term → Ordering
  | .iri a, .iri b => Ord.compare a b
  | .iri _, _ => .lt
  | .blank _, .iri _ => .gt
  | .blank a, .blank b => Ord.compare a b
  | .blank _, .literal _ => .lt
  | .literal a, .literal b => (Ord.compare a.value b.value).then (a.annotation.compare b.annotation)
  | .literal _, _ => .gt

end Term

end PagedSparql
