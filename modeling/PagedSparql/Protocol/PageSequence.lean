import PagedSparql.Protocol.Session

/-!
# Sequences of pages

A sequence asks one endpoint for the pages of one query, each request carrying the token of the page
before. It is over after the first page that announces no other, or after the first failure. The
token of a sequence is what another one needs to go on from there.
-/

namespace PagedSparql

/-- A walk over the pages of a query. -/
structure PageSequence where
  /-- The address of the endpoint. -/
  address : String
  /-- The text of the query. -/
  query : String
  /-- The graph that the query is about. -/
  graph : String
  /-- The token of the next page. -/
  token? : Option String := none
  /-- There are no more pages. -/
  finished : Bool := false

namespace PageSequence

variable {σ : Type}

/-- The sequence of the pages from a token on; without a token, from the first page on. -/
def resume (address query graph : String) (token? : Option String) : PageSequence :=
  { address, query, graph, token? }

/-- The request for the next page. -/
def request (p : PageSequence) : Request := ⟨p.query, p.graph, p.token?⟩

/-- The sequence after what its request has brought. -/
def advance (p : PageSequence) : Except TransportError Page → PageSequence
  | .error _ => { p with finished := true }
  | .ok page =>
    -- A stray token on the last page is dropped.
    if page.hasNext then { p with token? := page.token? }
    else { p with token? := none, finished := true }

/-- The next page, if there is one. -/
def next (net : Network σ) (p : PageSequence) (s : Session σ) :
    Except TransportError (Option Page) × PageSequence × Session σ :=
  if p.finished then (.ok none, p, s)
  else
    let (result, s) := s.fetch net p.address p.request
    (result.map some, p.advance result, s)

end PageSequence

end PagedSparql
