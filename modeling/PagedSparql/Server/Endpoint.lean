import PagedSparql.Number.Checked
import PagedSparql.Protocol.Message
import PagedSparql.Protocol.Session
import PagedSparql.Server.Select

/-!
# Endpoints

An endpoint cuts the solutions of a query into pages of one size. The token of a page is the number
of the rows before it. Tokens are words of 64 bits, and so is the sum of a token and the page size; a
sum that does not fit stops the program.
-/

namespace PagedSparql

/-- An endpoint. -/
structure Endpoint where
  /-- The data. -/
  store : Store := {}
  /-- The greatest number of rows on a page. -/
  pageSize : UInt64
  /-- A page can hold a row. -/
  pageSize_pos : 0 < pageSize := by decide

namespace Endpoint

/-- The endpoint with pages of the given size, but of one row at least. -/
def ofStore (store : Store) (pageSize : UInt64) : Endpoint :=
  if h : 0 < pageSize then ⟨store, pageSize, h⟩ else { store, pageSize := 1 }

/-- The solutions of a query. -/
def select (e : Endpoint) (query : String) : Except EndpointError (List Row) :=
  match EndpointQuery.parse? query with
  | some q => q.solutions e.store
  | none => .error .parse

/-- The number that a token stands for. -/
def readToken? (token : String) : Option UInt64 :=
  let digits :=
    match token.toList with
    | '+' :: digits => digits
    | digits => digits
  if digits.isEmpty || !digits.all Double.isDigit then none
  else
    let n := Double.ofDigits digits
    if n < UInt64.size then some (UInt64.ofNat n) else none

/-- The number of rows before the page that a request asks for. -/
def offset (token? : Option String) : Except EndpointError UInt64 :=
  match token? with
  | none => .ok 0
  | some token =>
    match readToken? token with
    | some n => .ok n
    | none => .error (.invalidToken token)

/-- The rows of a page, and the token of the next one. -/
def section? (pageSize offset : UInt64) (rows : List Row) :
    Checked (List Row × Option String) := do
  let sum ← Checked.uint64 (offset.toNat + pageSize.toNat)
  let stop := min sum rows.length
  .ok ((rows.drop offset.toNat).take (stop - offset.toNat),
    if stop < rows.length then some (toString stop) else none)

/-- The page that a request asks for, of the rows that its query selects. -/
def pageOf (select : String → Except EndpointError (List Row)) (pageSize : UInt64) (r : Request) :
    Checked (Except EndpointError Response) :=
  -- A token that was never given out is refused before the query is read.
  match offset r.token? with
  | .error e => .ok (.error e)
  | .ok offset =>
    match select r.query with
    | .error e => .ok (.error e)
    | .ok rows => do
      let (rows, token?) ← section? pageSize offset rows
      .ok (.ok ⟨rows.map Row.toJson, token?, token?.isSome, none⟩)

/-- The answer to a request, of the rows that its query selects, as a transport brings it. -/
def answerOf (select : String → Except EndpointError (List Row)) (pageSize : UInt64) (r : Request) :
    Checked (Except TransportError Response) :=
  (pageOf select pageSize r).map (·.mapError fun error => .status 400 error.message)

/-- The page that a request asks for. -/
def page (e : Endpoint) (r : Request) : Checked (Except EndpointError Response) :=
  pageOf e.select e.pageSize r

/-- The answer to a request as a transport brings it. -/
def answer (e : Endpoint) (r : Request) : Checked (Except TransportError Response) :=
  answerOf e.select e.pageSize r

end Endpoint

/-- The answer as JSON, without statistics. -/
def Response.toJson (r : Response) : Json :=
  .mkObj [("bindings", .arr r.rows), ("next", .ofText? r.token?), ("hasNext", .bool r.hasNext)]

end PagedSparql
