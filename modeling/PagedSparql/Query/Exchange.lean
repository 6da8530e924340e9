import PagedSparql.Query.Stream

/-!
# Exchanges

A query that is evaluated over two streams of lines cannot send a request by itself: whoever
evaluates it writes the request down and reads the answer. An exchange holds the answers that have
come in. A pull that needs more of them notes the request that nobody has answered; since pulling
changes nothing but its result, it is repeated from where it began once the answer is there.
-/

namespace PagedSparql

/-- The answers to the requests of a query, so far as they have come in. -/
structure Exchange where
  /-- The answers to the next requests, in order. -/
  answers : List (Except TransportError Response) := []
  /-- The first request without an answer, with the address that it is for. -/
  wanted? : Option (String × Request) := none

namespace Exchange

/-- Sends a request. One without an answer fails, which nobody gets to see. -/
def send (address : String) (request : Request) (x : Exchange) : Delivery × Exchange :=
  match x.answers with
  | reply :: answers => ({ reply }, { x with answers })
  | [] => ({ reply := .error (.http "no answer") },
      { x with wanted? := x.wanted?.or (some (address, request)) })

/-- The endpoints as an exchange reaches them: there is a way to each of them. -/
def network : Network Exchange := { connect := fun _ => .ok (), send }

/-- Reads the answer to a request. -/
def readAnswer (line : String) : Except TransportError Response :=
  match (Json.parse? line).bind Response.ofJson? with
  | some r => .ok r
  | none => .error (.violation .malformedAnswer)

/-- The line for a request. -/
def requestToJson (address : String) (request : Request) : Json :=
  .mkObj [("url", .str address), ("request", request.toJson)]

end Exchange

namespace QueryStream

/-- What one more pull of a query comes to. -/
inductive Turn where
  /-- It brings something, and leaves the query as it is after it. -/
  | pulled (x : Pulled) (q : QueryStream Exchange)
  /-- It needs the answer to a request. -/
  | wants (address : String) (request : Request)
  /-- It stops the program. -/
  | stopped
  /-- It does not come to an end in so many steps. -/
  | unfinished

/-- Pulls a query with the answers that have come in since its last pull. -/
def turn (now : DateTime) (steps : Nat) (answers : List (Except TransportError Response))
    (q : QueryStream Exchange) : Turn :=
  let ready : QueryStream Exchange := { q with session := { q.session with world := { answers } } }
  -- A pull that lacks an answer is thrown away: it is made again with one more.
  let (x?, after) := ready.next Exchange.network now steps
  if after.session.evaluation.stopped then .stopped
  else
    match after.session.world.wanted?, x? with
    | some (address, request), _ => .wants address request
    | none, some x => .pulled x after
    | none, none => .unfinished

end QueryStream

end PagedSparql
