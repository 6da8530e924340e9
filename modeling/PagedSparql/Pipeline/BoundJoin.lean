import PagedSparql.Pipeline.RoundTable
import PagedSparql.Pipeline.Signal
import PagedSparql.Protocol.PageSequence
import PagedSparql.Protocol.QueryText

/-!
# Bound joins

A bound join extends incoming rows by the solutions of a pattern that an endpoint answers. It works
in rounds: it fills a bucket with rows, sends one request for all of them, and reads the pages of
the answer to the end before it takes the next row.

An optional bound join also hands on, after the pages of a round, the rows that no solution has
extended. If the first page of a round holds empty rows only, the number of solutions of each
alternative tells which rows were matched.
-/

namespace PagedSparql

/-- What a bound join is told. -/
structure BoundPattern where
  /-- The pattern. -/
  triples : List TriplePattern
  /-- The address of the endpoint. -/
  address : String
  /-- The graph that the pattern is about. -/
  graph : String
  /-- The number of rows of a round. -/
  bufferSize : Nat
  /-- Rows without solution are kept. -/
  optional : Bool

/-- A round of a bound join. -/
structure Round where
  /-- The rows of the round. -/
  table : RoundTable
  /-- The pages of the answer. -/
  pages : PageSequence
  /-- No page was read yet. -/
  fresh : Bool := true

/-- A bound join at work. -/
structure BoundJoin where
  /-- What it is told. -/
  goal : BoundPattern
  /-- The rows of the next round. -/
  bucket : List Row := []
  /-- The round whose pages are being read. -/
  round? : Option Round := none
  /-- The rows to hand on. -/
  pending : List Row := []
  /-- There are no more rows coming in. -/
  inputDone : Bool := false
  /-- Nothing is handed on after the pending rows. -/
  finished : Bool := false

namespace Round

/-- The round for the rows of a bucket. The one empty row needs no new names. -/
def start (goal : BoundPattern) (bucket : List Row) : Round :=
  let sequence (query : String) : PageSequence := ⟨goal.address, query, goal.graph, none, false⟩
  -- Nothing can be put into the pattern, and nothing needs to be told apart.
  if bucket = [.empty] then
    ⟨.identity .empty, sequence (QueryText.ofPattern goal.triples), true⟩
  else
    ⟨.build goal.triples bucket,
      sequence (QueryText.ofUnion (RoundTable.patterns goal.triples bucket)), true⟩

/-- The page tells by its numbers alone which rows were matched. -/
def isCounted (round : Round) (page : Page) : Bool :=
  round.fresh && !page.rows.isEmpty && page.rows.all (·.isEmpty) && !page.cardinalities.isEmpty &&
    round.table.size > 1

/-- Takes the rows whose alternatives have solutions; the first number is that of row `key`. -/
def absorbCounts (table : RoundTable) (key : Nat) : List UInt64 → List Row × RoundTable
  | [] => ([], table)
  | count :: rest =>
    match if count = 0 then none else table.row? key with
    | none => absorbCounts table (key + 1) rest
    | some row =>
      let (rows, table) := absorbCounts (table.observe key) (key + 1) rest
      (row :: rows, table)

/-- Takes the rows that solutions extend; solutions that extend no row are left out. -/
def absorbRows (table : RoundTable) : List Row → List Row × RoundTable
  | [] => ([], table)
  | solution :: rest =>
    let extended? := do
      let (key, added) ← table.revert? solution
      let row ← table.row? key
      some (key, ← Row.merge added row)
    match extended? with
    | none => absorbRows table rest
    | some (key, row) =>
      let (rows, table) := absorbRows (table.observe key) rest
      (row :: rows, table)

/-- Takes in a page: the rows to hand on, and the round after it. -/
def absorb (round : Round) (page : Page) : List Row × Round :=
  let (rows, table) :=
    if round.isCounted page then absorbCounts round.table 0 page.cardinalities
    else absorbRows round.table page.rows
  (rows, { round with table, fresh := false })

end Round

namespace BoundJoin

variable {σ : Type}

/-- The bound join before its first row. A round has at least one row. -/
def ofPattern (goal : BoundPattern) : BoundJoin :=
  { goal := { goal with bufferSize := max goal.bufferSize 1 } }

/-- The join needs a row to go on. -/
def wants (j : BoundJoin) : Bool :=
  j.pending.isEmpty && !j.finished && j.round?.isNone && !j.inputDone

/-- The join after its bucket is full, or after the last row. -/
def startRound (j : BoundJoin) : BoundJoin :=
  if j.bucket.isEmpty then { j with finished := true }
  else { j with bucket := [], round? := some (.start j.goal j.bucket) }

/-- Takes in what comes from above. A failure is handed on, and the bucket is lost. -/
def accept (j : BoundJoin) : Signal → BoundJoin × Option Signal
  | .row r =>
    let j := { j with bucket := j.bucket ++ [r] }
    -- A request is sent as late as possible, but as soon as the bucket is full.
    (if j.bucket.length < j.goal.bufferSize then j else j.startRound, none)
  | .done => ({ j with inputDone := true }.startRound, none)
  | .fail e => ({ j with bucket := [] }, some (.fail e))

/-- The join after what the next pull of its pages has brought. -/
def takePage (j : BoundJoin) (round : Round) (closed : Bool) :
    Except TransportError (Option Page) → BoundJoin × Option Signal
  | .error e => ({ j with round? := some round }, some (.fail e))
  | .ok page? =>
    -- The page of a closed client tells nothing: what waits is dropped, and no row counts as
    -- unmatched.
    if closed then ({ j with round? := none, pending := [], finished := true }, some .done)
    else
      match page? with
      | some page =>
        let (rows, round) := round.absorb page
        ({ j with round? := some round, pending := j.pending ++ rows }, none)
      | none =>
        -- The round is over: no later page can extend its rows.
        let rows := if j.goal.optional then round.table.unobserved else []
        ({ j with round? := none, pending := j.pending ++ rows }, none)

/-- Goes on without a row from above. -/
def advance (net : Network σ) (j : BoundJoin) (s : Session σ) :
    (BoundJoin × Option Signal) × Session σ :=
  match j.pending with
  | r :: rest => (({ j with pending := rest }, some (.row r)), s)
  | [] =>
    if j.finished then ((j, some .done), s)
    else
      match j.round? with
      | some round =>
        let (page?, pages, s) := round.pages.next net s
        (j.takePage { round with pages } (s.isClosed j.goal.address) page?, s)
      | none => (({ j with finished := true }, none), s)

end BoundJoin

end PagedSparql
