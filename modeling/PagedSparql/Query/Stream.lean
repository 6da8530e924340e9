import PagedSparql.Algebra.Reading
import PagedSparql.Algebra.Writing
import PagedSparql.Plan.Compile
import PagedSparql.Query.Settings

/-!
# Queries

A query is planned for an endpoint and a graph; nothing is sent before it is pulled. It delivers
rows, triples or a truth value, one item at each pull, until it ends, fails or is closed. Closing it
closes all its clients, so that no more requests are sent.

The rows that are delivered do not have the variables that only the plan needed.
-/

namespace PagedSparql

/-- What a query delivers. -/
inductive QueryItem where
  /-- A row. -/
  | solution (row : Row)
  /-- A triple. -/
  | triple (t : Triple)
  /-- Whether there is a row. -/
  | truth (b : Bool)

/-- Where queries are sent, and how they are evaluated. -/
structure Engine where
  /-- The address of the endpoint. -/
  address : String
  /-- The graph that queries are about. -/
  graph : String
  /-- What is set. -/
  settings : Settings := {}
  /-- The time of the queries. -/
  now : DateTime

/-- A query being evaluated. -/
structure QueryStream (σ : Type) where
  /-- Its plan. -/
  plan : QueryPlan
  /-- The variables that only the plan needs. -/
  hidden : List Variable
  /-- What it shares with the world. -/
  session : Session σ
  /-- It has ended. -/
  finished : Bool := false
  /-- It was closed. -/
  closed : Bool := false

namespace Engine

variable {σ : Type}

/-- Plans a query with a source of fresh variables. Gives the plan, and what planning has drawn and
opened. -/
def plan (engine : Engine) (connect : String → Except TransportError Unit) (a : Algebra)
    (names : Names) : Except QueryError (QueryPlan × PlanState) :=
  let scope : Scope :=
    { address := engine.address, graph := engine.graph,
      bufferSize := engine.settings.bufferSize.toNat, connect }
  -- The client of the endpoint is opened even if no pattern needs it.
  let planner : Planner QueryPlan := do
    Planner.openClient engine.address
    Plan.query a
  (planner.run scope).run ⟨⟨names, []⟩, []⟩

/-- The query that a plan makes ready. The variables that were drawn for it are hidden. -/
def compile (engine : Engine) (net : Network σ) (world : σ) (meter? : Option Meter) (a : Algebra)
    (names : Names) : Except QueryError (QueryStream σ) := do
  let (plan, state) ← engine.plan net.connect a names
  let evaluation : EvalState := { labels := { stem := engine.settings.blankStem } }
  .ok ⟨plan, state.naming.drawn, { world, clients := state.clients, meter?, evaluation }, false,
    false⟩

/-- Plans a query that is given as a text. -/
def execute (engine : Engine) (net : Network σ) (world : σ) (meter? : Option Meter)
    (text : String) : Except QueryError (QueryStream σ) :=
  match Json.parse? text with
  | none => .error (.build (.invalidAlgebra .malformed))
  | some j =>
    match Algebra.ofJson j with
    | .error e => .error (.build e)
    | .ok a => engine.compile net world meter? a (.avoiding j)

/-- Plans a query that is given as a tree. -/
def executeAlgebra (engine : Engine) (net : Network σ) (world : σ) (meter? : Option Meter)
    (a : Algebra) : Except QueryError (QueryStream σ) :=
  engine.compile net world meter? a (.avoiding a.toJson)

end Engine

namespace QueryStream

variable {σ : Type}

/-- What a pull of a query brings. -/
inductive Pulled where
  /-- An item. -/
  | item (x : QueryItem)
  /-- The end. -/
  | done
  /-- A failure, after which nothing comes. -/
  | fail (e : TransportError)

/-- What a pull of a plan brings, in at most so many steps, and the plan after it. -/
def pullPlan (net : Network σ) (now : DateTime) (steps : Nat) (hidden : List Variable)
    (plan : QueryPlan) (s : Session σ) : Option Pulled × QueryPlan × Session σ :=
  match plan with
  | .solutions stage =>
    let (x?, stage, s) := stage.pull net now steps s
    let pulled? := x?.map fun
      | .row r => .item (.solution (Row.without r hidden))
      | .done => .done
      | .fail e => .fail e
    (pulled?, .solutions stage, s)
  | .triples construction =>
    let (x?, construction, s) := construction.pull net now steps s
    let pulled? := x?.map fun
      | .triple t => .item (.triple t)
      | .done => .done
      | .fail e => .fail e
    (pulled?, .triples construction, s)
  | .truth stage =>
    let (x?, stage, s) := stage.pull net now steps s
    let pulled? := x?.map fun
      | .row _ => .item (.truth true)
      | .done => .item (.truth false)
      | .fail e => .fail e
    (pulled?, .truth stage, s)

/-- The query delivers one item only. -/
def isSingle : QueryPlan → Bool
  | .truth _ => true
  | _ => false

/-- The query after what a pull of its plan has brought. -/
def settle (q : QueryStream σ) : Pulled → QueryStream σ
  | .item _ =>
    { q with finished := isSingle q.plan, session := q.session.measure Meter.countResult }
  | .done => { q with finished := true }
  | .fail _ => { q with finished := true }

/-- Pulls the query; nothing if so many steps do not suffice. A query that has ended or was closed
brings its end only. -/
def next (net : Network σ) (now : DateTime) (steps : Nat) (q : QueryStream σ) :
    Option Pulled × QueryStream σ :=
  if q.finished || q.closed then (some .done, q)
  else
    match pullPlan net now steps q.hidden q.plan q.session with
    | (none, plan, session) => (none, { q with plan, session })
    | (some x, plan, session) => (some x, { q with plan, session }.settle x)

/-- Closes the query and all its clients. -/
def close (q : QueryStream σ) : QueryStream σ :=
  if q.closed then q else { q with closed := true, session := q.session.closeAll }

/-- Closes all clients of the query, and tells how many there are. -/
def cancel (q : QueryStream σ) : Nat × QueryStream σ :=
  (q.session.clients.length, { q with session := q.session.closeAll })

/-- Pulls the query to its end, for at most so many items, each in at most so many steps. Gives the
items, or the first failure. -/
def collect (net : Network σ) (now : DateTime) (steps : Nat) :
    Nat → QueryStream σ → Option (Except TransportError (List QueryItem)) × QueryStream σ
  | 0, q => (none, q)
  | n + 1, q =>
    match q.next net now steps with
    | (none, q) => (none, q)
    | (some .done, q) => (some (.ok []), q)
    | (some (.fail e), q) => (some (.error e), q)
    | (some (.item x), q) =>
      let (items?, q) := collect net now steps n q
      (items?.map fun items => items.map (x :: ·), q)

end QueryStream

end PagedSparql
