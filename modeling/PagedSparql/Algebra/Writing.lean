import PagedSparql.Algebra.Basic
import PagedSparql.Json.Basic

/-!
# Writing queries

The JSON form of a query, which `Algebra.ofJson` reads. Fields with a default are always written;
the argument and separator of an aggregate and the variable of a group key are left out when there
are none.
-/

namespace PagedSparql

/-- The compact form of a term or variable. -/
def TermPattern.toJson (p : TermPattern) : Json := .str p.toCompact

/-- The compact form of a term. -/
def Term.toJson (t : Term) : Json := .str t.toCompact

/-- The variable with its sigil. -/
def Variable.toJson (v : Variable) : Json := .str v.toText

/-- The member for a field that may be absent. -/
def Json.optionalMember (key : String) : Option Json → List (String × Json)
  | none => []
  | some j => [(key, j)]

namespace Predicate

mutual

/-- The JSON form of a predicate. -/
def toJson : Predicate → Json
  | .plain p => p.toJson
  | .path kind items => .mkObj [("pathType", .str kind.symbol), ("items", .arr (toJsons items))]

/-- The JSON forms of several predicates. -/
def toJsons : List Predicate → List Json
  | [] => []
  | p :: rest => p.toJson :: toJsons rest

end

end Predicate

/-- The JSON form of a triple pattern. -/
def TriplePattern.toJson (t : TriplePattern) : Json :=
  .mkObj [("subject", t.subject.toJson), ("predicate", t.predicate.toJson),
    ("object", t.object.toJson)]

namespace Expression

mutual

/-- The JSON form of an expression. -/
def toJson : Expression → Json
  | .leaf p => p.toJson
  | .call operator args => .mkObj [("operator", .str operator), ("args", .arr (toJsons args))]
  | .aggregate function distinct argument separator =>
    .mkObj ([("aggregation", .str function), ("distinct", .bool distinct)] ++
      (match argument with
        | some e => [("expression", e.toJson)]
        | none => []) ++
      Json.optionalMember "separator" (separator.map .str))

/-- The JSON forms of several expressions. -/
def toJsons : List Expression → List Json
  | [] => []
  | e :: rest => e.toJson :: toJsons rest

end

end Expression

/-- The JSON form of an aggregate. -/
def Aggregate.toJson (a : Aggregate) : Json := a.toExpression.toJson

/-- The JSON form of a group key. -/
def GroupKey.toJson (k : GroupKey) : Json :=
  .mkObj (("expression", k.expression.toJson) ::
    Json.optionalMember "variable" (k.alias?.map Variable.toJson))

/-- The JSON form of an aggregate with its variable. -/
def AggregateBinding.toJson (b : AggregateBinding) : Json :=
  .mkObj [("variable", b.target.toJson), ("aggregate", b.aggregate.toJson)]

/-- The JSON form of a column. -/
def Column.toJson : Column → Json
  | .expression e v => .mkObj [("expression", e.toJson), ("variable", v.toJson)]
  | .variable v => v.toJson

/-- The JSON form of a sort key. -/
def OrderCondition.toJson (c : OrderCondition) : Json :=
  .mkObj [("expression", c.expression.toJson), ("descending", .bool c.descending)]

/-- The JSON form of an inline row. -/
def valuesRowToJson (row : VariableMap (Option Term)) : Json :=
  .mkObj (row.entries.map fun (v, t) => (v.toText, (t.map Term.toJson).getD .null))

/-- The JSON form of a number of 64 bits. -/
def Json.ofUInt64 (n : UInt64) : Json := .int n.toNat

namespace Algebra

/-- A node of a kind with its fields. -/
def node (kind : String) (fields : List (String × Json)) : Json :=
  .mkObj (("type", .str kind) :: fields)

mutual

/-- The JSON form of a node. -/
def toJson : Algebra → Json
  | .bgp triples => node "bgp" [("triples", .arr (triples.map TriplePattern.toJson))]
  | .join patterns => node "join" [("patterns", .arr (toJsons patterns))]
  | .leftJoin patterns => node "leftJoin" [("patterns", .arr (toJsons patterns))]
  | .union patterns => node "union" [("patterns", .arr (toJsons patterns))]
  | .filter e => node "filter" [("expression", e.toJson)]
  | .bind v e => node "bind" [("variable", v.toJson), ("expression", e.toJson)]
  | .values rows => node "values" [("values", .arr (rows.map valuesRowToJson))]
  | .service name silent patterns =>
    node "service" [("name", name.toJson), ("silent", .bool silent),
      ("patterns", .arr (toJsons patterns))]
  | .groupBy input keys aggregates =>
    node "groupBy" [("input", input.toJson), ("keys", .arr (keys.map GroupKey.toJson)),
      ("aggregates", .arr (aggregates.map AggregateBinding.toJson))]
  | .having input e => node "having" [("input", input.toJson), ("condition", e.toJson)]
  | .project input columns =>
    node "project" [("input", input.toJson), ("variables", .arr (columns.map Column.toJson))]
  | .orderBy input conditions =>
    node "orderBy" [("input", input.toJson),
      ("conditions", .arr (conditions.map OrderCondition.toJson))]
  | .distinct input => node "distinct" [("input", input.toJson)]
  | .slice input offset limit =>
    node "slice" [("input", input.toJson), ("offset", Json.ofUInt64 offset),
      ("limit", (limit.map Json.ofUInt64).getD .null)]
  | .construct template input =>
    node "construct" [("template", .arr (template.map TriplePattern.toJson)),
      ("input", input.toJson)]
  | .describe terms input =>
    node "describe" [("terms", .arr (terms.map TermPattern.toJson)), ("input", input.toJson)]
  | .ask input => node "ask" [("input", input.toJson)]
  | .minus patterns => node "minus" [("patterns", .arr (toJsons patterns))]
  | .graph name patterns =>
    node "graph" [("name", name.toJson), ("patterns", .arr (toJsons patterns))]

/-- The JSON forms of several nodes. -/
def toJsons : List Algebra → List Json
  | [] => []
  | a :: rest => a.toJson :: toJsons rest

end

end Algebra

end PagedSparql
