/-!
# JSON values

The values in which queries, rows and messages are exchanged. The members of an object are kept in
the order of their keys, each key once; `Json.mkObj` puts any list of members into that form, the
last of several with one key winning. A number is an integer if it is written as one and fits in 64
bits, and a double otherwise.
-/

namespace PagedSparql

/-- A JSON value. -/
inductive Json where
  /-- The value `null`. -/
  | null
  /-- A truth value. -/
  | bool (b : Bool)
  /-- An integer of 64 bits, with or without sign. -/
  | int (n : Int)
  /-- Any other number. -/
  | real (x : Float)
  /-- A text. -/
  | str (s : String)
  /-- A list of values. -/
  | arr (items : List Json)
  /-- Values by their keys, in the order of the keys. -/
  | obj (members : List (String × Json))

namespace Json

/-- Members in order, with one more put in its place or over the one it replaces. -/
def insertMember (key : String) (value : Json) : List (String × Json) → List (String × Json)
  | [] => [(key, value)]
  | (k, v) :: rest =>
    if key < k then (key, value) :: (k, v) :: rest
    else if key = k then (key, value) :: rest
    else (k, v) :: insertMember key value rest

/-- The object with the given members; of several with one key the last stays. -/
def mkObj (members : List (String × Json)) : Json :=
  .obj (members.foldl (fun o m => insertMember m.1 m.2 o) [])

/-- The member of an object with a given key. -/
def get? (j : Json) (key : String) : Option Json :=
  match j with
  | .obj members => members.lookup key
  | _ => none

/-- The text, if the value is one. -/
def str? : Json → Option String
  | .str s => some s
  | _ => none

/-- The truth value, if the value is one. -/
def bool? : Json → Option Bool
  | .bool b => some b
  | _ => none

/-- The list, if the value is one. -/
def arr? : Json → Option (List Json)
  | .arr items => some items
  | _ => none

/-- The natural number of 64 bits, if the value is one. -/
def uint64? : Json → Option UInt64
  | .int n => if 0 ≤ n ∧ n < UInt64.size then some (UInt64.ofNat n.toNat) else none
  | _ => none

/-- The number as a double, if the value is one. -/
def float? : Json → Option Float
  | .int n => some (Float.ofInt n)
  | .real x => some x
  | _ => none

end Json

end PagedSparql
