import PagedSparql.Value.Compare

/-!
# Casts

A call whose name is the IRI of a datatype makes a value of that datatype. Numbers and booleans are
cast by value, other terms by their text; blank nodes have none.
-/

namespace PagedSparql.Value

/-- The integer nearest to a given one that fits in 64 bits. -/
def clamp (n : Int) : Int := max Int64.minValue.toInt (min n Int64.maxValue.toInt)

/-- A boolean as a double. -/
def boolToFloat (b : Bool) : Float := if b then 1.0 else 0.0

/-- The boolean that a term is cast to. -/
def castBoolean? (text : List Char) (number : Option Numeric) (flag : Option Bool) : Option Bool :=
  match number, flag with
  | some n, _ => some n.isTruthy
  | none, some b => some b
  | none, none =>
    if text = ['t', 'r', 'u', 'e'] ∨ text = ['1'] then some true
    else if text = ['f', 'a', 'l', 's', 'e'] ∨ text = ['0'] then some false
    else none

/-- The integer that a term is cast to; fractions are cut off. -/
def castInteger? (t : Term) (text : List Char) (number : Option Numeric) (flag : Option Bool) :
    Option Int :=
  match number, flag with
  | some (.integer n), _ => some n
  | some n, _ => (Double.truncate? n.toFloat).map clamp
  | none, some b => some (if b then 1 else 0)
  | none, none => if t.isLiteral then Numeric.readInteger? text else none

/-- The decimal that a term is cast to. -/
def castDecimal? (t : Term) (text : List Char) (number : Option Numeric) (flag : Option Bool) :
    Option Float :=
  match number, flag with
  | some n, _ => if Double.isFinite n.toFloat then some n.toFloat else none
  | none, some b => some (boolToFloat b)
  | none, none => if t.isLiteral then Numeric.readDecimal? (.ofList text) else none

/-- The double that a term is cast to. -/
def castFloating? (t : Term) (text : List Char) (number : Option Numeric) (flag : Option Bool) :
    Option Float :=
  match number, flag with
  | some n, _ => some n.toFloat
  | none, some b => some (boolToFloat b)
  | none, none => if t.isLiteral then Numeric.readFloating? (.ofList text) else none

/-- The term cast to a datatype, nothing if it has no such value; an unknown datatype is an unknown
function. -/
def castTo (datatype : String) (t : Term) : Except EvalError (Option Term) :=
  let text := Text.trim t.lexical.toList
  let number := Numeric.ofTerm? t
  let flag := boolean? t
  if t.isBlank then .ok none
  else if datatype = Vocabulary.xsdString then .ok (some (.string t.lexical))
  else if datatype = Vocabulary.xsdBoolean then .ok ((castBoolean? text number flag).map .boolean)
  else if datatype = Vocabulary.xsdInteger then
    .ok ((castInteger? t text number flag).map fun n => (Numeric.integer n).toTerm)
  else if datatype = Vocabulary.xsdDecimal then
    .ok ((castDecimal? t text number flag).map fun x => (Numeric.decimal x).toTerm)
  else if datatype = Vocabulary.xsdFloat then
    .ok ((castFloating? t text number flag).map fun x => (Numeric.float (Double.toSingle x)).toTerm)
  else if datatype = Vocabulary.xsdDouble then
    .ok ((castFloating? t text number flag).map fun x => (Numeric.double x).toTerm)
  else if datatype = Vocabulary.xsdDateTime ∧ t.isLiteral then
    .ok ((DateTime.read? (.ofList text)).map DateTime.toTerm)
  else .error (.unknownFunction datatype)

/-- The one argument cast to a datatype. -/
def cast (datatype : String) (args : List Term) : Except EvalError Term :=
  match args with
  | [t] =>
    match castTo datatype t with
    | .ok (some u) => .ok u
    | .ok none => .error (.argument (.cannotCast t datatype))
    | .error e => .error e
  | _ => .error (.arity datatype)

end PagedSparql.Value
