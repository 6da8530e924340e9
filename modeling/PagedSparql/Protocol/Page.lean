import PagedSparql.Json.Reader
import PagedSparql.Protocol.Error
import PagedSparql.Protocol.Message
import PagedSparql.Rdf.RowNotation

/-!
# Pages

A page is an answer whose rows have been read. A page that announces another one always has a token
to ask for it.
-/

namespace PagedSparql

/-- A page of solutions. -/
structure Page where
  /-- The rows. -/
  rows : List Row
  /-- The token of the next page. -/
  token? : Option String
  /-- There is a next page. -/
  hasNext : Bool
  /-- The number of solutions of each alternative of the query, if the endpoint told. -/
  cardinalities : List UInt64

namespace Page

/-- The page without rows, after which none follows. -/
def exhausted : Page := ⟨[], none, false, []⟩

/-- Reads a row: an object, or the text of one. -/
def readRow (j : Json) : Except TransportError Row :=
  match j with
  | .str text =>
    match Json.parse? text with
    | some j => (Row.ofJson j).mapError (.violation <| .row ·)
    | none => .error (.violation .rowNotJson)
  | j => (Row.ofJson j).mapError (.violation <| .row ·)

/-- Reads the rows of a list, up to the first one that is none. -/
def readRows : List Json → Except TransportError (List Row)
  | [] => .ok []
  | j :: rest => do
    let row ← readRow j
    let rows ← readRows rest
    .ok (row :: rows)

/-- The page of an answer. A token is kept only if there is a next page. -/
def ofResponse (r : Response) : Except TransportError Page := do
  -- Without a token the next page could not be asked for, so no row of this one is read.
  if r.hasNext && r.token?.isNone then .error (.violation .missingToken)
  let rows ← readRows r.rows
  let cardinalities := (r.stats?.map (·.cardinalities)).getD []
  .ok ⟨rows, if r.hasNext then r.token? else none, r.hasNext, cardinalities⟩

/-- The page as JSON. -/
def toJson (p : Page) : Json :=
  .mkObj [("bindings", .arr (p.rows.map Row.toJson)), ("next", .ofText? p.token?),
    ("has_next", .bool p.hasNext), ("cardinalities", .arr (p.cardinalities.map (.int ·.toNat)))]

end Page

end PagedSparql
