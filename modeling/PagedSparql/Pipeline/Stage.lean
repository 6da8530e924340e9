import PagedSparql.Pipeline.BoundJoin
import PagedSparql.Pipeline.Grouping
import PagedSparql.Pipeline.Sorting
import PagedSparql.Pipeline.Tee

/-!
# Stages

A stage turns the rows that come to it from above into the rows that it hands on. It works in
steps. A stage that wants a row makes no step without one; a stage that does not makes a step on its
own. In a step it hands a signal on or hands on nothing yet.

Stages are put one below the other by `Stage.chain`. Since the lower stage asks for a row only when
it cannot go on without, nothing is done above before it is needed: no request is sent for rows that
nobody pulls.

A stage that has ended or failed may be pulled again. What it does then follows from the same rules:
most stages ask above once more.
-/

namespace PagedSparql

/-- A stage of a pipeline at work. -/
inductive Stage where
  /-- Hands on what comes from above. -/
  | input
  /-- Hands on some rows and then always the ending, whatever comes from above. -/
  | source (rows : List Row) (ending : Ending)
  /-- Keeps the rows for which a condition is true. -/
  | filter (condition : Expression)
  /-- Binds a variable to a value; rows for which there is none are dropped. -/
  | bind (v : Variable) (e : Expression)
  /-- Joins every row with one row. -/
  | values (row : Row)
  /-- Binds new columns and drops all others; a wildcard keeps all that are not hidden. -/
  | project (columns : List Column) (hidden : List Variable)
  /-- Keeps the first of equal rows. -/
  | distinct (seen : List Row)
  /-- Drops some rows and then hands on at most so many. -/
  | slice (skip : Nat) (take : Option Nat)
  /-- Sorts the rows; they are taken in until there are no more, the latest first. -/
  | sort (conditions : List OrderCondition) (taken : List KeyedRow) (sorted : Option (List Row))
  /-- Groups the rows; they are taken in until there are no more, the latest first. -/
  | group (keys : List Variable) (folds : List Fold) (taken : List Row) (groups : Option (List Row))
  /-- Joins with the solutions of a pattern at an endpoint. -/
  | remote (join : BoundJoin)
  /-- Joins every row of the left with every row of the right, which is read first; the last part is
  the row being joined with the rows that it was not yet joined with. -/
  | nested (left right : Stage) (loaded : Bool) (table : List Row) (current : Option (Row × List Row))
  /-- Hands on the rows of several branches, one branch after the other, each of which gets all rows
  from above. -/
  | fork (tee : Tee) (position : Nat) (branches : List Stage)
  /-- Numbers the rows under a variable and hands them through an inner stage; the rows whose number
  did not come out again follow in the end. -/
  | optional (tag : Variable) (inner : Stage) (next : Nat) (unmatched : List (Int × Row))
      (leftovers : Option (List Row))
  /-- Hands the rows of one stage to another. -/
  | chain (upper lower : Stage)

namespace Stage

variable {σ : Type}

/-- The stage makes no step without a signal from above. -/
def wants : Stage → Bool
  | .input => true
  | .source _ _ => false
  | .filter _ => true
  | .bind _ _ => true
  | .values _ => true
  | .project _ _ => true
  | .distinct _ => true
  | .slice _ take => take != some 0
  | .sort _ _ sorted => sorted.isNone
  | .group _ _ _ groups => groups.isNone
  | .remote join => join.wants
  | .nested left right loaded _ current =>
    if loaded then current.isNone && left.wants else right.wants
  | .fork tee position (branch :: _) => branch.wants && (tee.serve? position).isNone
  | .fork _ _ [] => false
  | .optional _ inner _ _ leftovers => leftovers.isNone && inner.wants
  | .chain upper lower => lower.wants && upper.wants

/-- The first of several rows, or the end. -/
def popRow : List Row → Signal × List Row
  | [] => (.done, [])
  | r :: rest => (.row r, rest)

/-- Evaluates the new columns of a row. -/
def extendColumns (now : DateTime) :
    List Column → Row → EvalState → Row × EvalState
  | [], row, s => (row, s)
  | .variable _ :: rest, row, s => extendColumns now rest row s
  | .expression e v :: rest, row, s =>
    match (Eval.evaluate now row e).run.run s with
    | (.ok t, s) => extendColumns now rest (row.insert v t) s
    | (.error _, s) => extendColumns now rest row s

/-- The row of a projection. -/
def projectRow (now : DateTime) (columns : List Column) (hidden : List Variable) (row : Row)
    (s : Session σ) : Row × Session σ :=
  let (extended, evaluation) := extendColumns now columns row (Eval.enterRow s.evaluation row)
  let projected :=
    -- One wildcard among the columns keeps everything that is not hidden.
    if columns.any Column.isWildcard then Row.without extended hidden
    else Row.project extended (columns.map Column.name)
  (projected, { s with evaluation })

/-- The first row that a row can be joined with, joined, and the rows after it. -/
def nextMerge (left : Row) : List Row → Option (Row × List Row)
  | [] => none
  | right :: rest =>
    match Row.merge left right with
    | some row => some (row, rest)
    | none => nextMerge left rest

/-- The number under a tag. -/
def tagOf? (tag : Variable) (row : Row) : Option Int := do
  let literal ← (← row.getNamed? tag).literal?
  Numeric.readInteger? literal.value.toList

/-- The row without its tag, and the rows that are still unmatched. -/
def untag (tag : Variable) (unmatched : List (Int × Row)) (row : Row) : Row × List (Int × Row) :=
  let unmatched :=
    match tagOf? tag row with
    | some id => unmatched.filter (·.1 != id)
    | none => unmatched
  (Row.without row [tag], unmatched)

/-- A step of a stage that keeps no row waiting. -/
def stepRow (now : DateTime) (stage : Stage) (r : Row) (s : Session σ) :
    (Stage × Option Signal) × Session σ :=
  match stage with
  | .input => ((.input, some (.row r)), s)
  | .filter condition =>
    let (value, s) := s.evaluateRow r (Eval.evaluateBool now condition r)
    match value with
    | .ok true => ((.filter condition, some (.row r)), s)
    | _ => ((.filter condition, none), s)
  | .bind v e =>
    let (value, s) := s.evaluateRow r (Eval.evaluate now r e)
    match value with
    | .ok t =>
      let row := r.insert v t
      ((.bind v e, some (.row row)), { s with evaluation := Eval.extendRow s.evaluation row })
    | .error _ => ((.bind v e, none), s)
  | .values row => ((.values row, (Row.merge r row).map .row), s)
  | .project columns hidden =>
    let (row, s) := projectRow now columns hidden r s
    ((.project columns hidden, some (.row row)), s)
  | .distinct seen =>
    if seen.contains r then ((.distinct seen, none), s)
    else ((.distinct (r :: seen), some (.row r)), s)
  | .slice (skip + 1) take => ((.slice skip take, none), s)
  | .slice 0 take => ((.slice 0 (take.map (· - 1)), some (.row r)), s)
  | .sort conditions taken sorted =>
    let (keyed, s) := KeyedRow.ofRow now conditions r s
    ((.sort conditions (keyed :: taken) sorted, none), s)
  | .group keys folds taken groups => ((.group keys folds (r :: taken) groups, none), s)
  | other => ((other, none), s)

/-- A step of a stage that keeps no row waiting, at the end of the rows from above. -/
def stepDone (now : DateTime) (stage : Stage) (s : Session σ) :
    (Stage × Option Signal) × Session σ :=
  match stage with
  | .sort conditions taken _ =>
    ((.sort conditions [] (some (KeyedRow.sort conditions taken.reverse)), none), s)
  | .group keys folds taken _ =>
    let (rows, s) := Fold.extendAll now folds (Group.partition keys taken.reverse) s
    ((.group keys folds [] (some rows), none), s)
  | other => ((other, some .done), s)

/-- A step of a stage that keeps no row waiting, at a failure above. Rows taken in are lost. -/
def stepFail (stage : Stage) (e : TransportError) : Stage × Option Signal :=
  match stage with
  | .sort conditions _ sorted => (.sort conditions [] sorted, some (.fail e))
  | .group keys folds _ groups => (.group keys folds [] groups, some (.fail e))
  | other => (other, some (.fail e))

/-- A step of a stage that keeps no row waiting, with a signal from above. -/
def stepSignal (now : DateTime) (stage : Stage) (x : Signal) (s : Session σ) :
    (Stage × Option Signal) × Session σ :=
  match x with
  | .row r => stepRow now stage r s
  | .done => stepDone now stage s
  | .fail e => (stepFail stage e, s)

/-- A step of a stage that wants nothing from above and has no stages inside. -/
def stepAlone : Stage → Stage × Option Signal
  | .source [] ending => (.source [] ending, some ending.signal)
  | .source (r :: rest) ending => (.source rest ending, some (.row r))
  | .sort conditions taken (some rows) =>
    let (x, rows) := popRow rows
    (.sort conditions taken (some rows), some x)
  | .group keys folds taken (some rows) =>
    let (x, rows) := popRow rows
    (.group keys folds taken (some rows), some x)
  | other => (other, some .done)

/-- The signal that a branch of a fork gets: none if it wants none, else what the tee has or what
has just come from above. -/
def teeSignal (tee : Tee) (position : Nat) (branchWants : Bool) (x? : Option Signal) :
    Option Signal × Tee :=
  if branchWants then
    match tee.serve? position, x? with
    | some (x, tee), _ => (some x, tee)
    | none, some x =>
      let (x, tee) := tee.answer position x
      (some x, tee)
    | none, none => (none, tee)
  else (none, tee)

/-- The signal that the inner stage of an optional gets, with the row that was numbered. -/
def tagSignal (tag : Variable) (next : Nat) : Option Signal → Option Signal × Option Row
  | some (.row r) => (some (.row (r.insert tag (.literal (.integer next)))), some r)
  | x? => (x?, none)

/-- One step of a stage, with a signal from above if and only if it wants one. -/
def step (net : Network σ) (now : DateTime) :
    Stage → Option Signal → Session σ → (Stage × Option Signal) × Session σ
  | .chain upper lower, x?, s =>
    -- The upper stage makes a step only if the lower one cannot go on without it.
    if lower.wants then
      let ((upper, y?), s) := step net now upper x? s
      match y? with
      | none => ((.chain upper lower, none), s)
      | some y =>
        let ((lower, z?), s) := step net now lower (some y) s
        ((.chain upper lower, z?), s)
    else
      let ((lower, z?), s) := step net now lower none s
      ((.chain upper lower, z?), s)
  | .nested left right false table current, x?, s =>
    let ((right, y?), s) := step net now right x? s
    match y? with
    | none => ((.nested left right false table current, none), s)
    | some (.row r) => ((.nested left right false (r :: table) current, none), s)
    -- The right stage is not needed any more.
    | some .done => ((.nested left .input true table.reverse current, none), s)
    -- A failed table is not read again; a later pull joins with what was read of it.
    | some (.fail e) => ((.nested left .input true table.reverse current, some (.fail e)), s)
  | .nested left right true table (some (r, rest)), _, s =>
    match nextMerge r rest with
    | some (row, rest) => ((.nested left right true table (some (r, rest)), some (.row row)), s)
    | none => ((.nested left right true table none, none), s)
  | .nested left right true table none, x?, s =>
    let ((left, y?), s) := step net now left x? s
    match y? with
    | none => ((.nested left right true table none, none), s)
    | some (.row r) => ((.nested left right true table (some (r, table)), none), s)
    | some y => ((.nested left right true table none, some y), s)
  | .fork tee position [], _, s => ((.fork tee position [], some .done), s)
  | .fork tee position (branch :: rest), x?, s =>
    let (x?, tee) := teeSignal tee position branch.wants x?
    let ((branch, y?), s) := step net now branch x? s
    match y? with
    -- The next branch begins; the tee keeps for it what the others have read.
    | some .done => ((.fork tee (position + 1) rest, none), s)
    | y? => ((.fork tee position (branch :: rest), y?), s)
  | .optional tag inner next unmatched (some rows), _, s =>
    let (x, rows) := popRow rows
    ((.optional tag inner next unmatched (some rows), some x), s)
  | .optional tag inner next unmatched none, x?, s =>
    let (x?, numbered?) := tagSignal tag next x?
    -- A row counts as unmatched from the moment it is handed in.
    let unmatched := unmatched ++ (numbered?.map fun r => ((next : Int), r)).toList
    let next := if numbered?.isSome then next + 1 else next
    let ((inner, y?), s) := step net now inner x? s
    match y? with
    | some (.row r) =>
      let (row, unmatched) := untag tag unmatched r
      ((.optional tag inner next unmatched none, some (.row row)), s)
    | some .done => ((.optional tag inner next [] (some (unmatched.map (·.2))), none), s)
    | y? => ((.optional tag inner next unmatched none, y?), s)
  | .remote join, some x, s =>
    let (join, y?) := join.accept x
    ((.remote join, y?), s)
  | .remote join, none, s =>
    let ((join, y?), s) := join.advance net s
    ((.remote join, y?), s)
  | stage, some x, s => stepSignal now stage x s
  | stage, none, s => (stepAlone stage, s)

/-- Pulls a stage that stands at the top of a pipeline, for at most so many steps; nothing comes
from above. Gives what it handed on, if it did in this number of steps. -/
def pull (net : Network σ) (now : DateTime) :
    Nat → Stage → Session σ → Option Signal × Stage × Session σ
  | 0, stage, s => (none, stage, s)
  | n + 1, stage, s =>
    match step net now stage (if stage.wants then some .done else none) s with
    | ((stage, some x), s) => (some x, stage, s)
    | ((stage, none), s) => pull net now n stage s

end Stage

end PagedSparql
