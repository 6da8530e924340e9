import PagedSparql.Json.Reader
import PagedSparql.Rdf.Variable

/-!
# Tokens of queries

The small part of SPARQL that the endpoint understands is read in two steps. Here its text is cut
into tokens: marks, words, variables and terms. Blanks and comments stand between tokens.
-/

namespace PagedSparql

/-- A token of a query. -/
inductive QueryToken where
  /-- One of the marks `\x7b \x7d ( ) . *`. -/
  | mark (c : Char)
  /-- A word in lower case. -/
  | word (s : String)
  /-- A variable or a term. -/
  | pattern (p : TermPattern)
  deriving DecidableEq

namespace QueryToken

/-- The character can stand in a name. -/
def isNameChar (c : Char) : Bool := c.isAlphanum || c == '_' || decide (0xa1 ≤ c.toNat)

/-- The character escaped by a letter. -/
def escape? : Char → Option Char
  | 't' => some '\t'
  | 'b' => some '\x08'
  | 'n' => some '\n'
  | 'r' => some '\r'
  | 'f' => some '\x0c'
  | '"' => some '"'
  | '\'' => some '\''
  | '\\' => some '\\'
  | _ => none

/-- Reads a value up to its closing quote. -/
def quoted? : List Char → Option (List Char × List Char)
  | [] => none
  | '"' :: rest => some ([], rest)
  | '\\' :: c :: rest => do
    let c ← escape? c
    let (value, rest) ← quoted? rest
    some (c :: value, rest)
  | c :: rest =>
    if c = '\n' ∨ c = '\r' ∨ c = '\\' then none
    else do
      let (value, rest) ← quoted? rest
      some (c :: value, rest)

/-- Reads an IRI up to its closing bracket. -/
def bracketed? (text : List Char) : Option (String × List Char) :=
  match text.dropWhile (· != '>') with
  | '>' :: rest => some (.ofList (text.takeWhile (· != '>')), rest)
  | _ => none

/-- Reads what may follow the value of a literal. -/
def literal? (value : String) : List Char → Option (Literal × List Char)
  | '@' :: rest =>
    let tag := rest.takeWhile fun c => c.isAlphanum || c == '-'
    if tag.isEmpty then none
    else some (.tagged value (String.ofList tag).toLower, rest.drop tag.length)
  | '^' :: '^' :: '<' :: rest => do
    let (datatype, rest) ← bracketed? rest
    some (.typed value datatype, rest)
  | rest => some (.simple value, rest)

/-- Reads a name. -/
def name? (text : List Char) : Option (String × List Char) :=
  let name := text.takeWhile isNameChar
  if name.isEmpty then none else some (.ofList name, text.drop name.length)

/-- Reads one token. -/
def next? : List Char → Option (QueryToken × List Char)
  | '?' :: rest => (name? rest).map fun (name, rest) => (.pattern (.variable ⟨name⟩), rest)
  | '$' :: rest => (name? rest).map fun (name, rest) => (.pattern (.variable ⟨name⟩), rest)
  | '<' :: rest => (bracketed? rest).map fun (iri, rest) => (.pattern (.term (.iri iri)), rest)
  | '_' :: ':' :: rest =>
    (name? rest).map fun (label, rest) => (.pattern (.term (.blank label)), rest)
  | '"' :: rest => do
    let (value, rest) ← quoted? rest
    let (l, rest) ← literal? (.ofList value) rest
    some (.pattern (.term (.literal l)), rest)
  | c :: rest =>
    if ['\x7b', '\x7d', '(', ')', '.', '*'].contains c then some (.mark c, rest)
    else (name? (c :: rest)).map fun (name, rest) => (.word name.toLower, rest)
  | [] => none

/-- The text without the blanks and comments that it begins with. -/
def skip : Nat → List Char → List Char
  | 0, text => text
  | fuel + 1, text =>
    match text.dropWhile Json.isSpace with
    | '#' :: rest => skip fuel (rest.dropWhile (· != '\n'))
    | rest => rest

/-- Cuts a text into tokens. Every token and every comment has a character, so the number of
characters is enough fuel. -/
def scan? : Nat → List Char → Option (List QueryToken)
  | 0, _ => none
  | fuel + 1, text =>
    match skip text.length text with
    | [] => some []
    | text => do
      let (token, rest) ← next? text
      let tokens ← scan? fuel rest
      some (token :: tokens)

/-- The tokens of a text. -/
def ofText? (text : String) : Option (List QueryToken) :=
  scan? (text.length + 1) text.toList

end QueryToken

end PagedSparql
