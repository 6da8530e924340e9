import PagedSparql.Protocol.Error
import PagedSparql.Rdf.Row

/-!
# Signals

What a stage of a pipeline hands on when it is pulled: a row, the end of the rows, or a failure.
-/

namespace PagedSparql

/-- What a pull brings. -/
inductive Signal where
  /-- The next row. -/
  | row (r : Row)
  /-- There are no more rows. -/
  | done
  /-- No row could be had. -/
  | fail (e : TransportError)

end PagedSparql
