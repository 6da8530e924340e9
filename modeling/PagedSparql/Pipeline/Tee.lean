import PagedSparql.Pipeline.Signal

/-!
# Tees

A tee hands the rows of one source to several readers, each of which sees all of them at its own
pace. The source is asked only for a row that no reader has seen; a row is kept until the slowest
reader has taken it. Once the source has ended or failed it is not asked again, and every reader
that has seen all rows gets that ending.
-/

namespace PagedSparql

/-- A reader of a tee. -/
structure TeeReader where
  /-- The number of rows that it has taken. -/
  taken : Nat := 0
  /-- It has seen the end. -/
  finished : Bool := false

/-- How a source has ended. -/
inductive Ending where
  /-- There are no more rows. -/
  | done
  /-- The source has failed. -/
  | failed (e : TransportError)

/-- The signal of an ending. -/
def Ending.signal : Ending → Signal
  | .done => .done
  | .failed e => .fail e

/-- The rows of one source that its readers have still to take. -/
structure Tee where
  /-- The rows that were not yet taken by every reader. -/
  buffer : List Row := []
  /-- The number of rows before those in the buffer. -/
  dropped : Nat := 0
  /-- The readers. -/
  readers : List TeeReader
  /-- The ending of the source, if it has ended. -/
  ending? : Option Ending := none

namespace Tee

/-- The tee for a number of readers, before anything was read. -/
def ofReaders (n : Nat) : Tee := { readers := List.replicate n {} }

/-- The least number of rows that a reader has taken, of those that have not seen the end. -/
def slowest? (readers : List TeeReader) : Option Nat :=
  ((readers.filter (!·.finished)).map (·.taken)).min?

/-- The tee without the rows that every reader has taken. -/
def release (t : Tee) : Tee :=
  let count := (slowest? t.readers).elim t.buffer.length fun n => min (n - t.dropped) t.buffer.length
  { t with buffer := t.buffer.drop count, dropped := t.dropped + count }

/-- The tee with one of its readers changed. -/
def settle (t : Tee) (reader : Nat) (f : TeeReader → TeeReader) : Tee :=
  release { t with readers := t.readers.modify reader f }

/-- What a reader gets without asking the source; nothing if the source has to be asked. -/
def serve? (t : Tee) (reader : Nat) : Option (Signal × Tee) := do
  let r ← t.readers[reader]?
  -- The buffer begins with the first row that some reader has not taken.
  match t.buffer[r.taken - t.dropped]? with
  | some row => some (.row row, t.settle reader fun r => { r with taken := r.taken + 1 })
  | none =>
    match ← t.ending? with
    -- A reader that has seen the end holds back no row.
    | .done => some (.done, t.settle reader fun r => { r with finished := true })
    | .failed e => some (.fail e, t)

/-- The tee after the source has been asked. -/
def receive (t : Tee) : Signal → Tee
  | .row r => { t with buffer := t.buffer ++ [r] }
  | .done => { t with ending? := some .done }
  | .fail e => { t with ending? := some (.failed e) }

/-- What the reader that asked the source gets. -/
def answer (t : Tee) (reader : Nat) (x : Signal) : Signal × Tee :=
  let t := t.receive x
  (t.serve? reader).getD (x, t)

end Tee

end PagedSparql
