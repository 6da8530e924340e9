import PagedSparql.Rdf.Notation

/-!
# Errors of transport

What can go wrong between a query and the answer of an endpoint.
-/

namespace PagedSparql

/-- How an answer breaks the protocol. -/
inductive Violation where
  /-- More pages are announced, but there is no token to ask for them. -/
  | missingToken
  /-- A row that is no row of terms. -/
  | row (e : TermError)
  /-- A row sent as a text that is not JSON. -/
  | rowNotJson
  /-- An answer that is not a page. -/
  | malformedAnswer
  /-- A violation that the transport noticed. -/
  | reported (text : String)
  deriving DecidableEq

/-- Why there is no page. -/
inductive TransportError where
  /-- The request could not be sent, or its answer not be read. -/
  | http (text : String)
  /-- The endpoint refused the request. -/
  | status (code : Nat) (body : String)
  /-- The answer breaks the protocol. -/
  | violation (v : Violation)
  deriving DecidableEq

/-- The wording of a violation. -/
def Violation.message : Violation → String
  | .missingToken => "hasNext is true but no continuation token was sent"
  | .row e => e.message
  | .rowNotJson => "solution row is not JSON"
  | .malformedAnswer => "malformed response"
  | .reported text => text

/-- The text of a transport error. -/
def TransportError.message : TransportError → String
  | .http text => "HTTP error: " ++ text
  | .status code body => "Query failed with status " ++ toString code ++ ": " ++ body
  | .violation v => "Protocol violation: " ++ v.message

end PagedSparql
