import PagedSparql.Number.Double
import PagedSparql.Number.Notation

/-!
# Meters

A meter counts the requests of a query, its failures and its results, and sums up the time that
requests took. Counters are words of 64 bits. Endpoints tell their times in milliseconds; the meter
keeps whole microseconds and takes a time that is not positive for none.
-/

namespace PagedSparql

/-- Counters of one query. -/
structure Meter where
  /-- Requests that were sent. -/
  calls : UInt64 := 0
  /-- Requests that failed. -/
  failures : UInt64 := 0
  /-- Items that were delivered. -/
  results : UInt64 := 0
  /-- Microseconds between requests and answers. -/
  responseMicros : UInt64 := 0
  /-- Microseconds that endpoints took to resume queries. -/
  importMicros : UInt64 := 0
  /-- Microseconds that endpoints took to suspend queries. -/
  exportMicros : UInt64 := 0

namespace Meter

/-- The whole microseconds of a positive number of milliseconds, at most what a counter holds. -/
def microsOfMillis (ms : Float) : UInt64 :=
  if Double.isFinite ms && ms > 0 then
    match Double.truncate? (ms * 1000) with
    | some n => UInt64.ofNat (min n.toNat (UInt64.size - 1))
    | none => UInt64.ofNat (UInt64.size - 1)
  else 0

/-- A request was sent and answered after a time. -/
def countCall (m : Meter) (micros : Nat) : Meter :=
  { m with calls := m.calls + 1,
           responseMicros := m.responseMicros + UInt64.ofNat (min micros (UInt64.size - 1)) }

/-- A request failed. -/
def countFailure (m : Meter) : Meter := { m with failures := m.failures + 1 }

/-- An item was delivered. -/
def countResult (m : Meter) : Meter := { m with results := m.results + 1 }

/-- An endpoint told its times. -/
def addServerTimes (m : Meter) (importMillis exportMillis : Float) : Meter :=
  { m with importMicros := m.importMicros + microsOfMillis importMillis,
           exportMicros := m.exportMicros + microsOfMillis exportMillis }

/-- The average time between a request and its answer. -/
def averageMicros (m : Meter) : UInt64 := if m.calls = 0 then 0 else m.responseMicros / m.calls

/-- Seconds with three decimals, a half going to the even neighbour in the binary value. -/
def secondsText (micros : Nat) : String :=
  let seconds := Float.ofNat (micros / 1000000) + Float.ofNat (micros % 1000000) / 1000000
  let thousandths :=
    match Double.shape seconds with
    | .finite _ mantissa exponent =>
      -- The value is exact, so that it can be rounded once.
      if exponent < 0 then Double.roundDivEven (mantissa * 1000) (1 <<< (-exponent).toNat)
      else (mantissa * 1000) <<< exponent.toNat
    | _ => 0
  let fraction := toString (thousandths % 1000)
  toString (thousandths / 1000) ++ "." ++ Double.zeros (3 - fraction.length) ++ fraction

/-- The line that sums a query up. -/
def summary (m : Meter) (elapsedMicros : Nat) : String :=
  "SPARQL query evaluated in " ++ secondsText elapsedMicros ++ "s with " ++ toString m.calls.toNat ++
    " HTTP request(s)"

end Meter

end PagedSparql
