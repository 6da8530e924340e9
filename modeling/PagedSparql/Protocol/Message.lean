import PagedSparql.Json.Fields
import PagedSparql.Json.Record

/-!
# Messages

A request asks an endpoint for one page of the solutions of a query. It carries the continuation
token of the page before, or none for the first page. The answer carries rows, the token of the next
page, whether there is a next page, and perhaps statistics.
-/

namespace PagedSparql

/-- A request for one page. -/
structure Request where
  /-- The text of the query. -/
  query : String
  /-- The graph that the query is about. -/
  graph : String
  /-- The token of the page before. -/
  token? : Option String
  deriving DecidableEq

/-- What the endpoint tells about a page. -/
structure PageStats where
  /-- The number of solutions of each alternative of the query. -/
  cardinalities : List UInt64
  /-- Milliseconds that it took to resume the query. -/
  importTime : Float
  /-- Milliseconds that it took to suspend the query. -/
  exportTime : Float

/-- The answer to a request. -/
structure Response where
  /-- The rows, as objects or as texts of objects. -/
  rows : List Json
  /-- The token of the next page. -/
  token? : Option String
  /-- There is a next page. -/
  hasNext : Bool
  /-- Statistics of the page. -/
  stats? : Option PageStats

/-- A text or `null`. -/
def Json.ofText? : Option String → Json
  | some s => .str s
  | none => .null

/-- The request as JSON. -/
def Request.toJson (r : Request) : Json :=
  .mkObj [("query", .str r.query), ("defaultGraph", .str r.graph), ("next", .ofText? r.token?)]

/-- Reads a request at the start of a text. An object may leave the token out, but a list has all
three fields. -/
def Request.read (text : String) : Except Json.Fault Request := do
  let fields : List Json.Field :=
    [⟨"query", Json.readText⟩, ⟨"defaultGraph", Json.readText⟩, ⟨"next", Json.readTextOrNull⟩]
  let (values, _) ← Json.readRecord fields 3 text.toList
  let [some (.str query), some (.str graph), next] := values | .error .mismatched
  .ok ⟨query, graph, next.bind Json.str?⟩

/-- Reads the number of solutions of one alternative. -/
def PageStats.cardinality? (j : Json) : Option UInt64 := do
  let [cardinality] ← j.fields? ["cardinality"] | none
  Json.optional? Json.uint64? 0 cardinality

/-- Reads statistics; what is left out is empty or zero. -/
def PageStats.ofJson? (j : Json) : Option PageStats := do
  let [cardinalities, importTime, exportTime] ← j.fields? ["cardinalities", "import", "export"]
    | none
  let cardinalities ← Json.optional? (Json.list? cardinality?) [] cardinalities
  let importTime ← Json.optional? Json.float? 0 importTime
  let exportTime ← Json.optional? Json.float? 0 exportTime
  some ⟨cardinalities, importTime, exportTime⟩

/-- Reads an answer. -/
def Response.ofJson? (j : Json) : Option Response := do
  let [rows, next, hasNext, stats] ← j.fields? ["bindings", "next", "hasNext", "stats"] | none
  let rows ← (← rows).arr?
  let token? ← Json.optional? (Json.nullable? Json.str?) none next
  let hasNext ← (← hasNext).bool?
  let stats? ← Json.optional? (Json.nullable? PageStats.ofJson?) none stats
  some ⟨rows, token?, hasNext, stats?⟩

end PagedSparql
