import PagedSparql.Rdf.Notation

/-!
# Variables and patterns

A variable is its name; the sigil `?` or `$` is notation. A pattern position holds a variable or a
term.
-/

namespace PagedSparql

/-- A query variable, by its name without sigil. -/
structure Variable where
  /-- The name without `?` or `$`. -/
  name : String
  deriving DecidableEq

namespace Variable

/-- A text without its leading sigil, if it has one. -/
def dropSigil : List Char → List Char
  | '?' :: name => name
  | '$' :: name => name
  | name => name

/-- The variable written with or without a sigil. -/
def ofText (text : String) : Variable := ⟨.ofList (dropSigil text.toList)⟩

/-- The variable with its sigil. -/
def toText (v : Variable) : String := "?" ++ v.name

end Variable

/-- A position of a pattern: a variable or a term. -/
inductive TermPattern where
  /-- A variable. -/
  | variable (name : Variable)
  /-- A term. -/
  | term (content : Term)
  deriving DecidableEq

namespace TermPattern

/-- Reads a variable with its sigil, or a term in compact form. -/
def parse (input : String) : Except TermError TermPattern :=
  let text := Text.trim input.toList
  match text with
  | ['?'] => .error ⟨input, .unnamedVariable⟩
  | ['$'] => .error ⟨input, .unnamedVariable⟩
  | '?' :: name => .ok (.variable ⟨.ofList name⟩)
  | '$' :: name => .ok (.variable ⟨.ofList name⟩)
  | _ => (Term.parse (.ofList text)).map .term

/-- The variable, if the position holds one. -/
def var? : TermPattern → Option Variable
  | .variable v => some v
  | .term _ => none

/-- The term, if the position holds one. -/
def term? : TermPattern → Option Term
  | .variable _ => none
  | .term t => some t

/-- The compact form, which `TermPattern.parse` reads. -/
def toCompact : TermPattern → String
  | .variable v => v.toText
  | .term t => t.toCompact

/-- The form in SPARQL text. -/
def toQuery : TermPattern → String
  | .variable v => v.toText
  | .term t => t.toQuery

end TermPattern

end PagedSparql
