import PagedSparql.Rdf.Term
import PagedSparql.Text.Blank

/-!
# Terms as text

Terms have two written forms. The compact form travels in requests and rows: an IRI stands bare, a
blank node after `_:`, and a literal between quotes, its value as it is, before its language tag or
its bare datatype. The query form is what stands in SPARQL text: IRIs in angle brackets, and values
with their quotes, backslashes and line ends escaped.

`Term.parse` reads the compact form. It also takes IRIs and datatypes in brackets, and it lets the
value of a literal run up to the last quote, so that a value may hold quotes itself.
-/

namespace PagedSparql

/-- Why a text is not a term. -/
inductive TermFault where
  /-- Nothing but blanks. -/
  | empty
  /-- A variable where a term has to stand. -/
  | variable
  /-- `_:` with nothing after it. -/
  | unlabelledBlank
  /-- An opening angle bracket that is never closed. -/
  | unterminatedIri
  /-- An opening quote that is never closed. -/
  | unterminatedLiteral
  /-- `@` with nothing after it. -/
  | emptyLanguage
  /-- `^^` with nothing after it. -/
  | emptyDatatype
  /-- A literal followed by neither a language tag nor a datatype. -/
  | trailingText
  /-- A sigil with no name after it. -/
  | unnamedVariable
  /-- A solution row that is not an object. -/
  | rowNotObject
  /-- A cell of a solution row that is not a string. -/
  | cellNotString
  deriving DecidableEq

/-- The wording of a fault. -/
def TermFault.message : TermFault → String
  | .empty => "empty term"
  | .variable => "variables are not bound terms"
  | .unlabelledBlank => "blank node without label"
  | .unterminatedIri => "unterminated IRI"
  | .unterminatedLiteral => "unterminated literal"
  | .emptyLanguage => "empty language tag"
  | .emptyDatatype => "empty datatype"
  | .trailingText => "unexpected text after literal"
  | .unnamedVariable => "variable without name"
  | .rowNotObject => "solution row is not an object"
  | .cellNotString => "term is not a string"

/-- A text that is not a term, and why. -/
structure TermError where
  /-- The offending text. -/
  input : String
  /-- What is wrong with it. -/
  fault : TermFault
  deriving DecidableEq

/-- The text of a term error. -/
def TermError.message (e : TermError) : String :=
  "invalid RDF term '" ++ e.input ++ "': " ++ e.fault.message

/-- The parts of a text before and after its last occurrence of a character. -/
def splitLast (c : Char) : List Char → Option (List Char × List Char)
  | [] => none
  | x :: xs =>
    match splitLast c xs with
    | some (before, after) => some (x :: before, after)
    | none => if x = c then some ([], xs) else none

/-- The text inside one pair of angle brackets, or the whole text if it is not enclosed in them. -/
def unbracket (text : List Char) : List Char :=
  match text with
  | '<' :: inner => if inner.getLast? = some '>' then inner.dropLast else text
  | _ => text

/-- Reads what follows the closing quote of a literal with a given value. -/
def Literal.ofSuffix (value : String) : List Char → Except TermFault Literal
  | [] => .ok (.simple value)
  | '@' :: language =>
    if language.isEmpty then .error .emptyLanguage else .ok (.tagged value (.ofList language))
  | '^' :: '^' :: datatype =>
    if (unbracket datatype).isEmpty then .error .emptyDatatype
    else .ok (.typed value (.ofList (unbracket datatype)))
  | _ => .error .trailingText

/-- Reads a literal from the text after its opening quote. The value runs up to the last quote. -/
def Literal.ofBody (body : List Char) : Except TermFault Literal :=
  match splitLast '"' body with
  | none => .error .unterminatedLiteral
  | some (value, suffix) => Literal.ofSuffix (.ofList value) suffix

/-- Reads a term in compact form. Variables are refused. -/
def Term.parse (input : String) : Except TermError Term :=
  let text := Text.trim input.toList
  match text with
  | [] => .error ⟨input, .empty⟩
  | '?' :: _ => .error ⟨input, .variable⟩
  | '$' :: _ => .error ⟨input, .variable⟩
  | '_' :: ':' :: label =>
    if label.isEmpty then .error ⟨input, .unlabelledBlank⟩ else .ok (.blank (.ofList label))
  | '"' :: body =>
    match Literal.ofBody body with
    | .ok l => .ok (.literal l)
    | .error fault => .error ⟨.ofList text, fault⟩
  | '<' :: inner =>
    if inner.getLast? = some '>' then .ok (.iri (.ofList inner.dropLast))
    else .error ⟨input, .unterminatedIri⟩
  | _ => .ok (.iri (.ofList text))

namespace Literal

/-- The compact form: the value as it is, then the language tag or the bare datatype. -/
def toCompact (l : Literal) : String :=
  match l.annotation with
  | .plain => "\"" ++ l.value ++ "\""
  | .tagged language => "\"" ++ l.value ++ "\"@" ++ language
  | .typed datatype _ => "\"" ++ l.value ++ "\"^^" ++ datatype

/-- The characters that stand for one character of a value between the quotes of the query form. -/
def escapeChar : Char → List Char
  | '"' => ['\\', '"']
  | '\\' => ['\\', '\\']
  | '\n' => ['\\', 'n']
  | '\r' => ['\\', 'r']
  | '\t' => ['\\', 't']
  | c => [c]

/-- A value with its quotes, backslashes, line ends and tabs escaped. -/
def escape (value : String) : String := .ofList (value.toList.flatMap escapeChar)

/-- The query form: the escaped value, then the language tag or the bracketed datatype. -/
def toQuery (l : Literal) : String :=
  match l.annotation with
  | .plain => "\"" ++ escape l.value ++ "\""
  | .tagged language => "\"" ++ escape l.value ++ "\"@" ++ language
  | .typed datatype _ => "\"" ++ escape l.value ++ "\"^^<" ++ datatype ++ ">"

end Literal

namespace Term

/-- The compact form of a term, which `Term.parse` reads. -/
def toCompact : Term → String
  | .iri text => text
  | .blank label => "_:" ++ label
  | .literal l => l.toCompact

/-- The form of a term in SPARQL text. -/
def toQuery : Term → String
  | .iri text => "<" ++ text ++ ">"
  | .blank label => "_:" ++ label
  | .literal l => l.toQuery

end Term

end PagedSparql
