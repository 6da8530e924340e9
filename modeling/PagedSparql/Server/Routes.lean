import PagedSparql.Server.Endpoint

/-!
# Routes

An endpoint serves two addresses over HTTP: queries are posted to `/sparql`, and `/health` tells
what the endpoint holds. Preflight requests are answered for every address.
-/

namespace PagedSparql

/-- What the endpoint answers over HTTP: a status and perhaps a body. -/
structure HttpAnswer where
  /-- The status. -/
  status : Nat
  /-- The body, if it is JSON. -/
  body? : Option Json := none
  /-- The error that the body tells. -/
  error? : Option EndpointError := none

namespace Endpoint

/-- The answer to a posted query. What follows the request in the body is not looked at. -/
def postQuery (e : Endpoint) (body : String) : Checked HttpAnswer :=
  match Request.read body with
  | .error .malformed => .ok { status := 400 }
  | .error .mismatched => .ok { status := 422 }
  | .ok r =>
    (e.page r).map fun
      | .ok response => { status := 200, body? := some response.toJson }
      | .error error =>
        { status := 400, body? := some (.mkObj [("error", .str error.message)]),
          error? := some error }

/-- What the endpoint tells about itself. -/
def health (e : Endpoint) : Json :=
  .mkObj [("message", .str "SPARQL fixture endpoint is running"),
    ("triples", .int e.store.size), ("page_size", .int e.pageSize.toNat)]

/-- The path of an address, without what follows a question mark or a number sign. -/
def pathOf (address : String) : String :=
  .ofList (address.toList.takeWhile fun c => c != '?' && c != '#')

/-- The answer to a request over HTTP. -/
def serve (e : Endpoint) (method address body : String) : Checked HttpAnswer :=
  -- Preflight requests never come to the routes.
  if method = "OPTIONS" then .ok { status := 200 }
  else
    match pathOf address, method with
    | "/sparql", "POST" => e.postQuery body
    | "/sparql", _ => .ok { status := 405 }
    | "/health", "GET" => .ok { status := 200, body? := some e.health }
    | "/health", "HEAD" => .ok { status := 200 }
    | "/health", _ => .ok { status := 405 }
    | _, _ => .ok { status := 404 }

end Endpoint

end PagedSparql
