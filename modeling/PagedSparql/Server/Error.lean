import PagedSparql.Rdf.Notation

/-!
# Errors of an endpoint

Why an endpoint does not load its data or does not answer a request.
-/

namespace PagedSparql

/-- Why an endpoint fails. -/
inductive EndpointError where
  /-- The data cannot be loaded. -/
  | load
  /-- The text is no query. -/
  | parse
  /-- The query is not one for rows. -/
  | unsupported
  /-- The token is not one that the endpoint gave out. -/
  | invalidToken (token : String)
  deriving DecidableEq

/-- The text of an endpoint error. -/
def EndpointError.message : EndpointError → String
  | .load => "Load error"
  | .parse => "Query parse error"
  | .unsupported => "Unsupported result: only SELECT queries are served"
  | .invalidToken token => "Invalid continuation token: " ++ token

end PagedSparql
