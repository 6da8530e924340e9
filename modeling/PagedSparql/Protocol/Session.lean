import PagedSparql.Eval.Evaluate
import PagedSparql.Protocol.Meter
import PagedSparql.Protocol.Page

/-!
# Sessions

A session is what one query shares with the world: its clients, one for each endpoint, its meter,
the log of its requests, and the state of evaluation. The network is a parameter, a function from
requests to deliveries over a state of its own, so that what is said about sessions holds for every
endpoint.

A client that is closed sends nothing and answers with an exhausted page. Clients may be closed
while a request is under way; an answer that arrives then is dropped in the same manner, whereas a
failure is still reported.
-/

namespace PagedSparql

/-- The clients that are closed while a request is under way. -/
inductive Closing where
  /-- None of them. -/
  | nothing
  /-- The client that sent the request. -/
  | client
  /-- All clients of the query. -/
  | allClients
  deriving DecidableEq

/-- What comes back for a request. -/
structure Delivery where
  /-- The answer, or why there is none. -/
  reply : Except TransportError Response
  /-- The clients that were closed while the request was under way. -/
  closing : Closing := .nothing
  /-- Microseconds between the request and its answer. -/
  micros : Nat := 0

/-- The endpoints that can be reached. -/
structure Network (σ : Type) where
  /-- Opens the way to the endpoint with an address. -/
  connect : String → Except TransportError Unit
  /-- Sends a request to the endpoint with an address. -/
  send : String → Request → σ → Delivery × σ

/-- What one query shares with the world. -/
structure Session (σ : Type) where
  /-- The state of the network. -/
  world : σ
  /-- The addresses of the clients, in the order in which they were opened. -/
  clients : List String := []
  /-- The addresses of the closed clients. -/
  closed : List String := []
  /-- The meter, if the query has one. -/
  meter? : Option Meter := none
  /-- The requests with the addresses that they were sent to, the latest first. -/
  log : List (String × Request) := []
  /-- The state of evaluation. -/
  evaluation : EvalState

namespace Session

variable {σ : Type}

/-- The client of an endpoint is closed. -/
def isClosed (s : Session σ) (address : String) : Bool := s.closed.contains address

/-- Closes the client of an endpoint. -/
def close (s : Session σ) (address : String) : Session σ :=
  { s with closed := address :: s.closed }

/-- Closes all clients. -/
def closeAll (s : Session σ) : Session σ := { s with closed := s.clients ++ s.closed }

/-- Closes the clients that a delivery to the client of an endpoint leaves closed. -/
def closeFor (s : Session σ) (address : String) : Closing → Session σ
  | .nothing => s
  | .client => s.close address
  | .allClients => s.closeAll

/-- Changes the meter, if there is one. -/
def measure (s : Session σ) (f : Meter → Meter) : Session σ := { s with meter? := s.meter?.map f }

/-- The requests with the addresses that they were sent to, in order. -/
def requests (s : Session σ) : List (String × Request) := s.log.reverse

/-- Evaluates for a row, which begins with this. -/
def evaluateRow {α : Type} (s : Session σ) (row : Row) (x : Eval α) :
    Except EvalError α × Session σ :=
  let (result, evaluation) := x.run.run (Eval.enterRow s.evaluation row)
  (result, { s with evaluation })

/-- What a delivery adds to a meter. -/
def meterDelivery (d : Delivery) (m : Meter) : Meter :=
  let m := m.countCall d.micros
  match d.reply with
  | .ok ⟨_, _, _, some stats⟩ => m.addServerTimes stats.importTime stats.exportTime
  | .ok _ => m
  | .error _ => m.countFailure

/-- The page that a delivery brings to a client that is now closed or not. -/
def pageOfDelivery (d : Delivery) (closed : Bool) : Except TransportError Page :=
  match d.reply with
  | .error e => .error e
  | .ok response => if closed then .ok .exhausted else Page.ofResponse response

/-- Sends a request through the client of an endpoint, and takes its delivery in. -/
def deliver (net : Network σ) (s : Session σ) (address : String) (request : Request) :
    Delivery × Session σ :=
  let (delivery, world) := net.send address request s.world
  -- The request is on record even if the clients are closed before its answer arrives.
  let s := { s with world, log := (address, request) :: s.log }
  (delivery, (s.closeFor address delivery.closing).measure (meterDelivery delivery))

/-- Asks an endpoint for one page, unless its client is closed. -/
def fetch (net : Network σ) (s : Session σ) (address : String) (request : Request) :
    Except TransportError Page × Session σ :=
  if s.isClosed address then (.ok .exhausted, s)
  else
    let (delivery, s) := s.deliver net address request
    (pageOfDelivery delivery (s.isClosed address), s)

end Session

end PagedSparql
