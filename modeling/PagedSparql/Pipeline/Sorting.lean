import PagedSparql.Algebra.Basic
import PagedSparql.Number.Reading
import PagedSparql.Protocol.Session

/-!
# Sorting

Rows are sorted by the lexical forms of their keys. The empty form, which also stands for a key
without value, comes first, then the forms that read as finite numbers, by the numbers, then all
other texts. The sort is stable: rows whose keys are equal keep their order.
-/

namespace PagedSparql

/-- What a lexical form is sorted as. -/
inductive SortKey where
  /-- The empty form. -/
  | absent
  /-- A finite number. -/
  | number (x : Float)
  /-- Any other text. -/
  | text (s : String)

/-- A row with the lexical forms that it is sorted by. -/
structure KeyedRow where
  /-- The forms, one for each condition. -/
  keys : List String
  /-- The row. -/
  row : Row

namespace SortKey

/-- What a lexical form is sorted as. -/
def ofText (text : String) : SortKey :=
  if text.isEmpty then .absent
  else
    match Double.read? text with
    | some x => if Double.isFinite x then .number x else .text text
    | none => .text text

/-- The place of the kinds of keys. -/
def rank : SortKey → Nat
  | .absent => 0
  | .number _ => 1
  | .text _ => 2

/-- The order of sort keys. -/
def compare : SortKey → SortKey → Ordering
  | .number x, .number y => Double.totalCompare x y
  | .text s, .text t => Ord.compare s t
  | a, b => Ord.compare a.rank b.rank

/-- The order of lexical forms. -/
def compareTexts (left right : String) : Ordering := (ofText left).compare (ofText right)

end SortKey

namespace KeyedRow

variable {σ : Type}

/-- The lexical forms of a row's keys; a key without value has the empty form. -/
def keysOf (now : DateTime) (row : Row) : List OrderCondition → EvalState → List String × EvalState
  | [], s => ([], s)
  | c :: rest, s =>
    let (value, s) := (Eval.evaluate now row c.expression).run.run s
    let (keys, s) := keysOf now row rest s
    ((value.toOption.map Term.lexical).getD "" :: keys, s)

/-- A row with its keys. -/
def ofRow (now : DateTime) (conditions : List OrderCondition) (row : Row) (s : Session σ) :
    KeyedRow × Session σ :=
  let (keys, evaluation) := keysOf now row conditions (Eval.enterRow s.evaluation row)
  (⟨keys, row⟩, { s with evaluation })

/-- The order of two lists of keys: that of the first keys that differ, descending if so wanted. -/
def compareKeys : List OrderCondition → List String → List String → Ordering
  | c :: rest, a :: as, b :: bs =>
    let ordering := SortKey.compareTexts a b
    (if c.descending then ordering.swap else ordering).then (compareKeys rest as bs)
  | _, _, _ => .eq

/-- The rows in order. -/
def sort (conditions : List OrderCondition) (rows : List KeyedRow) : List Row :=
  (rows.mergeSort fun a b => compareKeys conditions a.keys b.keys != .gt).map (·.row)

end KeyedRow

end PagedSparql
