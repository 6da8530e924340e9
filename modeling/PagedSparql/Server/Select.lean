import PagedSparql.Server.Store
import PagedSparql.Server.Token

/-!
# Queries that the endpoint understands

A query for rows has a basic graph pattern and inline tables in its group. Its solutions are the
rows that put triples of the store into the pattern, joined with the rows of the tables, and
restricted to the columns of the query. Queries for truth values or triples are recognised too, so
that they can be refused for what they are.
-/

namespace PagedSparql

/-- An inline table: its columns, and its rows with unbound cells. -/
structure InlineTable where
  /-- The columns. -/
  columns : List Variable
  /-- The rows. -/
  rows : List (List (Option Term))

/-- A group: triple patterns and inline tables. -/
structure QueryGroup where
  /-- The triple patterns. -/
  triples : List TriplePattern := []
  /-- The inline tables. -/
  tables : List InlineTable := []

/-- A query as the endpoint reads it. -/
inductive EndpointQuery where
  /-- A query for rows; without columns, for all variables. -/
  | select (columns : Option (List Variable)) (group : QueryGroup)
  /-- A query for something else. -/
  | other

namespace EndpointQuery

/-- The term may stand in a query. -/
def isAdmitted (t : Term) : Bool := (Store.admitTerm t).toOption.isSome

/-- Reads the cells of a row of an inline table up to the closing parenthesis. -/
def cells? : List QueryToken → Option (List (Option Term) × List QueryToken)
  | .mark ')' :: rest => some ([], rest)
  | .word "undef" :: rest => do
    let (cells, rest) ← cells? rest
    some (none :: cells, rest)
  | .pattern (.term t) :: rest =>
    -- Tables hold no blank nodes.
    if t.isBlank || !isAdmitted t then none
    else do
      let (cells, rest) ← cells? rest
      some (some t :: cells, rest)
  | _ => none

/-- Reads the columns of an inline table up to the closing parenthesis. -/
def columns? : List QueryToken → Option (List Variable × List QueryToken)
  | .mark ')' :: rest => some ([], rest)
  | .pattern (.variable v) :: rest => do
    let (columns, rest) ← columns? rest
    some (v :: columns, rest)
  | _ => none

/-- Reads the rows of an inline table up to the closing brace. -/
def rows? (width : Nat) : Nat → List QueryToken → Option (List (List (Option Term)) × List QueryToken)
  | 0, _ => none
  | _, .mark '\x7d' :: rest => some ([], rest)
  | fuel + 1, .mark '(' :: rest => do
    let (row, rest) ← cells? rest
    if row.length ≠ width then none
    let (rows, rest) ← rows? width fuel rest
    some (row :: rows, rest)
  | _, _ => none

/-- Reads the triple patterns and tables of a group up to the closing brace. -/
def group? : Nat → List QueryToken → Option (QueryGroup × List QueryToken)
  | 0, _ => none
  | _, .mark '\x7d' :: rest => some ({}, rest)
  | fuel + 1, .word "values" :: .mark '(' :: rest => do
    let (columns, rest) ← columns? rest
    match rest with
    | .mark '\x7b' :: rest => do
      let (rows, rest) ← rows? columns.length fuel rest
      let (group, rest) ← group? fuel rest
      some ({ group with tables := ⟨columns, rows⟩ :: group.tables }, rest)
    | _ => none
  | fuel + 1, .pattern s :: .pattern p :: .pattern o :: rest => do
    if !([s, p, o].filterMap (·.term?)).all isAdmitted then none
    if s.term?.any Term.isLiteral || !p.term?.all Term.isIri then none
    let rest ←
      match rest with
      | .mark '.' :: rest => some rest
      | .mark '\x7d' :: _ => some rest
      | _ => none
    let (group, rest) ← group? fuel rest
    some ({ group with triples := ⟨s, .plain p, o⟩ :: group.triples }, rest)
  | _, _ => none

/-- Reads a whole group, with which the text ends. -/
def whole? (tokens : List QueryToken) : Option QueryGroup :=
  let body :=
    match tokens with
    | .word "where" :: rest => rest
    | tokens => tokens
  match body with
  | .mark '\x7b' :: rest =>
    match group? (tokens.length + 1) rest with
    | some (group, []) => some group
    | _ => none
  | _ => none

/-- Reads the columns of a query, none for all variables. -/
def selection? : List QueryToken → Option (Option (List Variable) × List QueryToken)
  | .mark '*' :: rest => some (none, rest)
  | tokens =>
    let columns := tokens.takeWhile fun
      | .pattern (.variable _) => true
      | _ => false
    if columns.isEmpty then none
    else
      some (some (columns.filterMap fun
        | .pattern p => p.var?
        | _ => none), tokens.drop columns.length)

/-- Reads a query from its tokens. -/
def ofTokens? : List QueryToken → Option EndpointQuery
  | .word "select" :: rest => do
    let (columns?, rest) ← selection? rest
    let group ← whole? rest
    some (.select columns? group)
  | .word "ask" :: rest => (whole? rest).map fun _ => .other
  | .word "construct" :: .mark '\x7b' :: rest => do
    let (_, rest) ← group? (rest.length + 1) rest
    (whole? rest).map fun _ => .other
  | _ => none

/-- Reads a query. -/
def parse? (text : String) : Option EndpointQuery := (QueryToken.ofText? text).bind ofTokens?

/-- A row after a position of a pattern was put onto a term. Blank nodes are variables that no
query can name. -/
def bindPosition? (row : Row) (p : TermPattern) (t : Term) : Option Row :=
  let bindVariable (v : Variable) :=
    match row.get? v with
    | none => some (row.insert v t)
    | some u => if u = t then some row else none
  match p with
  | .variable v => bindVariable v
  | .term (.blank label) => bindVariable ⟨"_:" ++ label⟩
  | .term u => if (Store.admitTerm u).toOption = some t then some row else none

/-- A row after a pattern was put onto a triple. -/
def bindTriple? (row : Row) (pattern : TriplePattern) (t : Triple) : Option Row := do
  let row ← bindPosition? row pattern.subject t.subject
  let row ← bindPosition? row (← pattern.predicate.plain?) t.predicate
  bindPosition? row pattern.object t.object

/-- The rows of an inline table. -/
def tableRows (table : InlineTable) : List Row :=
  table.rows.map fun row =>
    .ofList ((table.columns.zip row).filterMap fun e => e.2.map fun t => (e.1, t))

/-- The variable is the place of a blank node. -/
def isBlankVariable (v : Variable) : Bool :=
  match v.name.toList with
  | '_' :: ':' :: _ => true
  | _ => false

/-- The rows of a group. -/
def groupRows (store : Store) (g : QueryGroup) : List Row :=
  let matched := g.triples.foldl (fun rows pattern =>
    rows.flatMap fun row => store.triples.filterMap (bindTriple? row pattern)) [.empty]
  g.tables.foldl (fun rows table =>
    rows.flatMap fun row => (tableRows table).filterMap (Row.merge row)) matched

/-- The solutions of a query. -/
def solutions (store : Store) : EndpointQuery → Except EndpointError (List Row)
  | .other => .error .unsupported
  | .select columns? group =>
    .ok ((groupRows store group).map fun row =>
      match columns? with
      | some columns => Row.project row columns
      | none => row.filter (!isBlankVariable ·))

end EndpointQuery

/-- The query whose solutions are the rows of a table. -/
def InlineTable.toQuery (table : InlineTable) : String :=
  let row (cells : List (Option Term)) : String :=
    " (" ++ " ".intercalate (cells.map fun c => (c.map Term.toQuery).getD "UNDEF") ++ ")"
  "SELECT * WHERE \x7b VALUES (" ++ " ".intercalate (table.columns.map Variable.toText) ++ ") \x7b" ++
    String.join (table.rows.map row) ++ " \x7d \x7d"

end PagedSparql
