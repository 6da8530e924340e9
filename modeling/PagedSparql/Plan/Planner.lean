import PagedSparql.Pipeline.Construction
import PagedSparql.Plan.Names
import PagedSparql.Rdf.Vocabulary

/-!
# Planning

Planning goes over a query from left to right. It knows the endpoint and graph that patterns are
about where it stands, and whether it stands in an optional group; it draws fresh variables and
opens one client for each endpoint.
-/

namespace PagedSparql

/-- Why a query fails as a whole. -/
inductive QueryError where
  /-- It cannot be planned. -/
  | build (e : BuildError)
  /-- An endpoint does not answer as it should. -/
  | transport (e : TransportError)
  deriving DecidableEq

/-- The text of a query error. -/
def QueryError.message : QueryError → String
  | .build e => e.message
  | .transport e => e.message

/-- Where planning stands. -/
structure Scope where
  /-- The address of the endpoint. -/
  address : String
  /-- The graph that patterns are about. -/
  graph : String
  /-- Patterns keep the rows that they do not extend. -/
  optional : Bool := false
  /-- The number of rows of a round of a bound join. -/
  bufferSize : Nat
  /-- Opens the way to an endpoint. -/
  connect : String → Except TransportError Unit

/-- What planning changes. -/
structure PlanState where
  /-- The source of fresh variables, with those of the present service. -/
  naming : Naming
  /-- The addresses of the clients, in the order in which they were opened. -/
  clients : List String := []

/-- A result of planning at a place, or the reason why there is none. -/
abbrev Planner (α : Type) := ReaderT Scope (StateT PlanState (Except QueryError)) α

namespace Planner

/-- A result at another place. -/
def within {α : Type} (f : Scope → Scope) (p : Planner α) : Planner α := fun scope => p (f scope)

/-- A result inside or outside of an optional group. -/
def withOptional {α : Type} (optional : Bool) (p : Planner α) : Planner α :=
  p.within fun scope => { scope with optional }

/-- The query cannot be planned. -/
def refuse {α : Type} (e : BuildError) : Planner α := throw (.build e)

/-- The result of a computation that may show that the query cannot be planned. -/
def ofExcept {α : Type} (x : Except BuildError α) : Planner α :=
  match x with
  | .ok a => pure a
  | .error e => refuse e

/-- Draws a fresh variable. -/
def fresh : Planner Variable := do
  let s ← get
  let (v, naming) := s.naming.draw
  set { s with naming }
  pure v

/-- The variables drawn so far for the present service. -/
def drawn : Planner (List Variable) := do return (← get).naming.drawn

/-- Runs a computation that draws fresh variables and may show that the query cannot be planned. -/
def naming {α : Type} (f : Naming → Except BuildError (α × Naming)) : Planner α := do
  let s ← get
  let (a, naming) ← ofExcept (f s.naming)
  set { s with naming }
  pure a

/-- Opens a client for an endpoint, unless there is one. -/
def openClient (address : String) : Planner Unit := do
  let scope ← read
  let s ← get
  if s.clients.contains address then pure ()
  else
    match scope.connect address with
    | .ok () => set { s with clients := s.clients ++ [address] }
    | .error e => throw (.transport e)

/-- A result at another endpoint, whose address also names its graph. The variables drawn before
are not those of that service, but those drawn there are also drawn here. -/
def service {α : Type} (address : String) (p : Planner α) : Planner α := do
  openClient address
  -- A projection inside the service hides only what was drawn inside.
  let before ← drawn
  modify fun s => { s with naming := { s.naming with drawn := [] } }
  let a ← p.within fun scope => { scope with address, graph := address }
  modify fun s => { s with naming := { s.naming with drawn := before ++ s.naming.drawn } }
  pure a

end Planner

end PagedSparql
