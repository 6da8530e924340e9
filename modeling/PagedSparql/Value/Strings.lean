import PagedSparql.Text.CaseMap
import PagedSparql.Text.UriEncoding
import PagedSparql.Value.Numeric

/-!
# String functions

The functions take strings with or without language tag; the results of most keep the tag of the
first argument. Functions of two strings want compatible tags: the same, or none on the second.
-/

namespace PagedSparql.Value

/-- The value and the language tag of a string. -/
def stringArg (t : Term) : Except EvalError (String × Option String) :=
  match t with
  | .literal l => if l.isString then .ok (l.value, l.language?) else .error (.type (.notString t))
  | _ => .error (.type (.notString t))

/-- The string with a value and an optional language tag. -/
def stringTerm (value : String) (language? : Option String) : Term :=
  match language? with
  | some language => .literal (.tagged value language)
  | none => .string value

/-- Two strings with compatible language tags. -/
structure StringPair where
  /-- The characters of the first string. -/
  first : List Char
  /-- The language tag of the first string. -/
  language? : Option String
  /-- The characters of the second string. -/
  second : List Char

/-- Two strings, if their language tags are compatible. -/
def stringPair (left right : Term) : Except EvalError StringPair := do
  let (a, languageA) ← stringArg left
  let (b, languageB) ← stringArg right
  if languageB.isNone || languageA == languageB then .ok ⟨a.toList, languageA, b.toList⟩
  else .error (.type .incompatibleStrings)

/-- The number of characters. -/
def strlen (t : Term) : Except EvalError Term := do
  let (value, _) ← stringArg t
  .ok (Numeric.integer value.length).toTerm

/-- A position as a double, rounded to a whole number. -/
def positionArg (t : Term) : Except EvalError Float := do
  let n ← Numeric.ofTerm t
  .ok n.round.toFloat

/-- The characters at the positions from `first` up to but not including `last`, counted from 1. -/
def charsBetween (first last : Float) (text : List Char) : List Char :=
  (text.zipIdx.filter fun (_, i) =>
    let position := Float.ofNat (i + 1)
    first ≤ position && position < last).map (·.1)

/-- The part of a string from a position on, up to a length. -/
def substr (t start : Term) (length? : Option Term) : Except EvalError Term := do
  let (value, language?) ← stringArg t
  let first ← positionArg start
  let last ←
    match length? with
    | some length => (positionArg length).map (first + ·)
    | none => .ok (1.0 / 0.0)
  .ok (stringTerm (.ofList (charsBetween first last value.toList)) language?)

/-- The string in upper case. -/
def ucase (t : Term) : Except EvalError Term := do
  let (value, language?) ← stringArg t
  .ok (stringTerm (Text.toUpper value) language?)

/-- The string in lower case. -/
def lcase (t : Term) : Except EvalError Term := do
  let (value, language?) ← stringArg t
  .ok (stringTerm (Text.toLower value) language?)

/-- Splits a text at the first occurrence of another one. -/
def splitFirst? (text part : List Char) : Option (List Char × List Char) :=
  match part.isPrefixOf? text with
  | some rest => some ([], rest)
  | none =>
    match text with
    | [] => none
    | c :: rest => (splitFirst? rest part).map fun (before, after) => (c :: before, after)

/-- The first string begins with the second. -/
def strstarts (left right : Term) : Except EvalError Bool := do
  let p ← stringPair left right
  .ok (p.second.isPrefixOf p.first)

/-- The first string ends with the second. -/
def strends (left right : Term) : Except EvalError Bool := do
  let p ← stringPair left right
  .ok (p.second.isSuffixOf p.first)

/-- The first string contains the second. -/
def contains (left right : Term) : Except EvalError Bool := do
  let p ← stringPair left right
  .ok (splitFirst? p.first p.second).isSome

/-- The part of the first string before the first occurrence of the second; the empty string without
language tag if there is none. -/
def strbefore (left right : Term) : Except EvalError Term := do
  let p ← stringPair left right
  match splitFirst? p.first p.second with
  | some (before, _) => .ok (stringTerm (.ofList before) p.language?)
  | none => .ok (.string "")

/-- The part of the first string after the first occurrence of the second; the empty string without
language tag if there is none. -/
def strafter (left right : Term) : Except EvalError Term := do
  let p ← stringPair left right
  match splitFirst? p.first p.second with
  | some (_, after) => .ok (stringTerm (.ofList after) p.language?)
  | none => .ok (.string "")

/-- The strings one after the other. The result has a language tag if all of them have the same. -/
def concat (args : List Term) : Except EvalError Term := do
  let parts ← args.mapM stringArg
  let language? :=
    match parts with
    | (_, first) :: rest => if rest.all (·.2 == first) then first else none
    | [] => none
  .ok (stringTerm (String.join (parts.map (·.1))) language?)

/-- The string in percent-encoding. -/
def encodeForUri (t : Term) : Except EvalError Term := do
  let (value, _) ← stringArg t
  .ok (.string (Text.percentEncode value))

/-- A text with its ASCII letters in lower case. -/
def asciiLower (text : String) : List Char := text.toList.map Char.toLower

/-- A language tag is in a range: `*` holds every tag but the empty one, and another range the tags
that equal it or go on with a hyphen after it. -/
def langmatches (tag range : Term) : Except EvalError Bool := do
  let (tag, _) ← stringArg tag
  let (range, _) ← stringArg range
  if range = "*" then .ok (!tag.isEmpty)
  else
    match (asciiLower range).isPrefixOf? (asciiLower tag) with
    | some [] => .ok true
    | some (c :: _) => .ok (c == '-')
    | none => .ok false

end PagedSparql.Value
