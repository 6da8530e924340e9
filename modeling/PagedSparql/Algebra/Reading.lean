import PagedSparql.Algebra.Basic
import PagedSparql.Algebra.Error
import PagedSparql.Json.Fields
import PagedSparql.Json.Reader

/-!
# Reading queries

A query is read from a JSON value in two passes. The first one looks for a `type` member that names
no kind of node, anywhere in the value; the second one reads the tree. Each reader gives nothing if
the value has not the form it wants, so that forms can be tried one after the other: an expression
is a call, else an aggregate, else a term; a column an expression, else a variable; a predicate a
term, else a path.

The readers of trees take fuel, and the depth of the value is enough of it.
-/

namespace PagedSparql

/-- Reads a term or variable from its compact form. -/
def TermPattern.ofJson? (j : Json) : Option TermPattern :=
  j.str?.bind fun s => (TermPattern.parse s).toOption

/-- Reads a term from its compact form. -/
def Term.ofJson? (j : Json) : Option Term := j.str?.bind fun s => (Term.parse s).toOption

/-- Reads a variable, with or without its sigil. -/
def Variable.ofJson? (j : Json) : Option Variable := j.str?.map Variable.ofText

/-- Reads a predicate. -/
def Predicate.ofJsonWith? : Nat → Json → Option Predicate
  | 0, _ => none
  | fuel + 1, j =>
    match TermPattern.ofJson? j with
    | some p => some (.plain p)
    | none =>
      match j.fields? ["pathType", "items"] with
      | some [some (.str symbol), some items] =>
        (Json.list? (ofJsonWith? fuel) items).map fun items => .path (.ofSymbol symbol) items
      | _ => none

/-- Reads a predicate. -/
def Predicate.ofJson? (j : Json) : Option Predicate := Predicate.ofJsonWith? j.depth j

/-- Reads a triple pattern. -/
def TriplePattern.ofJson? (j : Json) : Option TriplePattern :=
  match j.fields? ["subject", "predicate", "object"] with
  | some [some subject, some predicate, some object] => do
    let subject ← TermPattern.ofJson? subject
    let predicate ← Predicate.ofJson? predicate
    let object ← TermPattern.ofJson? object
    some ⟨subject, predicate, object⟩
  | _ => none

/-- Reads a call of a function; its arguments are read by another reader. -/
def Expression.callOfJson? (readArg : Json → Option Expression) : Json → Option Expression
  | .obj members =>
    match members.lookup "operator" with
    | some (.str operator) =>
      (Json.optional? (Json.list? readArg) [] (members.lookup "args")).map fun args =>
        .call operator args
    | _ => none
  | _ => none

/-- Reads an aggregate; its argument is read by another reader. -/
def Aggregate.ofJsonWith? (readArg : Json → Option Expression) (j : Json) : Option Aggregate :=
  match j.fields? ["aggregation", "distinct", "expression", "separator"] with
  | some [some (.str function), distinct, argument, separator] => do
    let distinct ← Json.optional? Json.bool? false distinct
    let argument ← Json.optional? (Json.nullable? readArg) none argument
    let separator ← Json.optional? (Json.nullable? Json.str?) none separator
    some ⟨function, distinct, argument, separator⟩
  | _ => none

/-- Reads an expression. -/
def Expression.ofJsonWith? : Nat → Json → Option Expression
  | 0, _ => none
  | fuel + 1, j =>
    -- A call that cannot be read may still be an aggregate.
    match Expression.callOfJson? (ofJsonWith? fuel) j with
    | some e => some e
    | none =>
      match Aggregate.ofJsonWith? (ofJsonWith? fuel) j with
      | some a => some a.toExpression
      | none => (TermPattern.ofJson? j).map .leaf

/-- Reads an expression. -/
def Expression.ofJson? (j : Json) : Option Expression := Expression.ofJsonWith? j.depth j

/-- Reads an aggregate. -/
def Aggregate.ofJson? (j : Json) : Option Aggregate := Aggregate.ofJsonWith? Expression.ofJson? j

/-- Reads a group key. -/
def GroupKey.ofJson? (j : Json) : Option GroupKey :=
  match j.fields? ["expression", "variable"] with
  | some [some expression, name] => do
    let expression ← Expression.ofJson? expression
    let name ← Json.optional? (Json.nullable? Variable.ofJson?) none name
    some ⟨expression, name⟩
  | _ => none

/-- Reads an aggregate with its variable. -/
def AggregateBinding.ofJson? (j : Json) : Option AggregateBinding :=
  match j.fields? ["variable", "aggregate"] with
  | some [some target, some aggregate] => do
    let target ← Variable.ofJson? target
    let aggregate ← Aggregate.ofJson? aggregate
    some ⟨target, aggregate⟩
  | _ => none

/-- Reads a column that is an expression under a new name. -/
def Column.expressionOfJson? : Json → Option Column
  | .obj members => do
    let e ← Expression.ofJson? (← members.lookup "expression")
    let v ← Variable.ofJson? (← members.lookup "variable")
    some (.expression e v)
  | _ => none

/-- Reads a column. -/
def Column.ofJson? (j : Json) : Option Column :=
  (Column.expressionOfJson? j).or ((Variable.ofJson? j).map .variable)

/-- Reads a sort key. -/
def OrderCondition.ofJson? (j : Json) : Option OrderCondition :=
  match j.fields? ["expression", "descending"] with
  | some [some expression, descending] => do
    let expression ← Expression.ofJson? expression
    let descending ← Json.optional? Json.bool? false descending
    some ⟨expression, descending⟩
  | _ => none

/-- Reads an inline row: an object whose members are terms or `null`. -/
def valuesRowOfJson? : Json → Option (VariableMap (Option Term))
  | .obj members =>
    (members.mapM fun (key, j) =>
      (Json.nullable? Term.ofJson? j).map fun t => (Variable.ofText key, t)).map VariableMap.ofList
  | _ => none

namespace Algebra

/-- The names of the fields of a kind of node, in order. -/
def fieldNames (kind : String) : List String :=
  match kind with
  | "bgp" => ["triples"]
  | "filter" => ["expression"]
  | "bind" => ["variable", "expression"]
  | "values" => ["values"]
  | "service" => ["name", "silent", "patterns"]
  | "groupBy" => ["input", "keys", "aggregates"]
  | "having" => ["input", "condition"]
  | "project" => ["input", "variables"]
  | "orderBy" => ["input", "conditions"]
  | "distinct" => ["input"]
  | "slice" => ["input", "offset", "limit"]
  | "construct" => ["template", "input"]
  | "describe" => ["terms", "input"]
  | "ask" => ["input"]
  | "graph" => ["name", "patterns"]
  | _ => ["patterns"]

/-- Reads a node of a kind from its fields; the nodes below it are read by another reader. -/
def ofFields? (readNode : Json → Option Algebra) (kind : String) (fields : List (Option Json)) :
    Option Algebra :=
  let nodes := Json.list? readNode
  match kind, fields with
  | "bgp", [some triples] => (Json.list? TriplePattern.ofJson? triples).map .bgp
  | "join", [some patterns] => (nodes patterns).map .join
  | "leftJoin", [some patterns] => (nodes patterns).map .leftJoin
  | "union", [some patterns] => (nodes patterns).map .union
  | "filter", [some e] => (Expression.ofJson? e).map .filter
  | "bind", [some v, some e] => do some (.bind (← Variable.ofJson? v) (← Expression.ofJson? e))
  | "values", [some rows] => (Json.list? valuesRowOfJson? rows).map .values
  | "service", [some name, silent, some patterns] => do
    let name ← Term.ofJson? name
    let silent ← Json.optional? Json.bool? false silent
    some (.service name silent (← nodes patterns))
  | "groupBy", [some input, keys, aggregates] => do
    let input ← readNode input
    let keys ← Json.optional? (Json.list? GroupKey.ofJson?) [] keys
    let aggregates ← Json.optional? (Json.list? AggregateBinding.ofJson?) [] aggregates
    some (.groupBy input keys aggregates)
  | "having", [some input, some e] => do some (.having (← readNode input) (← Expression.ofJson? e))
  | "project", [some input, some columns] => do
    some (.project (← readNode input) (← Json.list? Column.ofJson? columns))
  | "orderBy", [some input, some conditions] => do
    some (.orderBy (← readNode input) (← Json.list? OrderCondition.ofJson? conditions))
  | "distinct", [some input] => (readNode input).map .distinct
  | "slice", [some input, offset, limit] => do
    let input ← readNode input
    let offset ← Json.optional? Json.uint64? 0 offset
    let limit ← Json.optional? (Json.nullable? Json.uint64?) none limit
    some (.slice input offset limit)
  | "construct", [some template, some input] => do
    some (.construct (← Json.list? TriplePattern.ofJson? template) (← readNode input))
  | "describe", [some terms, input] => do
    let terms ← Json.list? TermPattern.ofJson? terms
    let input ← Json.optional? readNode (.join []) input
    some (.describe terms input)
  | "ask", [some input] => (readNode input).map .ask
  | "minus", [some patterns] => (nodes patterns).map .minus
  | "graph", [some name, some patterns] => do
    some (.graph (← TermPattern.ofJson? name) (← nodes patterns))
  | _, _ => none

/-- The name of a kind of node, which nodes below the root may also give by its number. -/
def kindOfJson? (root : Bool) : Json → Option String
  | .str kind => some kind
  | .int n => if root || n < 0 then none else kinds[n.toNat]?
  | _ => none

/-- Reads a node. -/
def ofJsonWith? : Nat → Bool → Json → Option Algebra
  | 0, _, _ => none
  | fuel + 1, root, j =>
    -- The kind stands under `type`, or first in a list.
    let tagged? :=
      match j with
      | .obj members => (members.lookup "type").map fun tag => (tag, j)
      | .arr (tag :: items) => some (tag, Json.arr items)
      | _ => none
    tagged?.bind fun (tag, rest) =>
      (kindOfJson? root tag).bind fun kind =>
        (rest.fields? (fieldNames kind)).bind fun fields =>
          ofFields? (ofJsonWith? fuel false) kind fields

/-- Reads a query from a value whose kinds of nodes are all known. -/
def ofJson? (j : Json) : Option Algebra := ofJsonWith? j.depth true j

mutual

/-- The first name of an unknown kind of node, in the order of the text with sorted keys. -/
def unknownKind? : Json → Option String
  | .obj members =>
    -- A node is looked at before the values below it.
    let here :=
      match members.lookup "type" with
      | some (.str kind) => if kinds.contains kind then none else some kind
      | _ => none
    here.or (unknownKindMembers? members)
  | .arr items => unknownKindItems? items
  | _ => none

/-- The first name of an unknown kind of node in the values of a list. -/
def unknownKindItems? : List Json → Option String
  | [] => none
  | j :: rest => (unknownKind? j).or (unknownKindItems? rest)

/-- The first name of an unknown kind of node in the members of an object. -/
def unknownKindMembers? : List (String × Json) → Option String
  | [] => none
  | (_, j) :: rest => (unknownKind? j).or (unknownKindMembers? rest)

end

/-- Reads a query from a value. -/
def ofJson (j : Json) : Except BuildError Algebra :=
  match unknownKind? j with
  | some kind => .error (.unsupportedNode kind)
  | none =>
    match ofJson? j with
    | some a => .ok a
    | none => .error (.invalidAlgebra .malformed)

/-- Reads a query from text. -/
def parse (text : String) : Except BuildError Algebra :=
  match Json.parse? text with
  | some j => ofJson j
  | none => .error (.invalidAlgebra .malformed)

end Algebra

end PagedSparql
