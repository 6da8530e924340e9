import PagedSparql.Digest.Md5
import PagedSparql.Digest.Sha
import PagedSparql.Value.Compare
import PagedSparql.Value.Strings

/-!
# Functions of values

The functions whose value depends on nothing but their arguments, in families. A family gives
nothing for a name or a form of arguments that is not its own, and then the next one is asked.
Names are in lower case.
-/

namespace PagedSparql.Functions

/-- The value of a function, or an error; nothing if the function is not in the family. -/
abbrev Family := String → List Term → Option (Except EvalError Term)

/-- A truth value as a term. -/
def truth (b : Except EvalError Bool) : Except EvalError Term := b.map .boolean

/-- An operation on two numbers. -/
def arithmetic (op : ArithmeticOp) (a b : Term) : Except EvalError Term := do
  let x ← Numeric.ofTerm a
  let y ← Numeric.ofTerm b
  (Numeric.arithmetic op x y).map Numeric.toTerm

/-- A function of one number. -/
def ofNumber (f : Numeric → Except EvalError Numeric) (a : Term) : Except EvalError Term := do
  let x ← Numeric.ofTerm a
  (f x).map Numeric.toTerm

/-- The order of two values passes a test; values without order do not. -/
def ordered (test : Ordering → Bool) (a b : Term) : Except EvalError Term :=
  truth ((Value.compare a b).map fun ordering => ordering.any test)

/-- Arithmetic and rounding. -/
def numeric : Family
  | "+", [a, b] => some (arithmetic .add a b)
  | "-", [a, b] => some (arithmetic .subtract a b)
  | "*", [a, b] => some (arithmetic .multiply a b)
  | "/", [a, b] => some (arithmetic .divide a b)
  | "+", [a] => some (ofNumber .ok a)
  | "uplus", [a] => some (ofNumber .ok a)
  | "-", [a] => some (ofNumber Numeric.negate a)
  | "uminus", [a] => some (ofNumber Numeric.negate a)
  | "abs", [a] => some (ofNumber Numeric.abs a)
  | "ceil", [a] => some (ofNumber (fun n => .ok n.ceil) a)
  | "floor", [a] => some (ofNumber (fun n => .ok n.floor) a)
  | "round", [a] => some (ofNumber (fun n => .ok n.round) a)
  | _, _ => none

/-- Comparisons and negation. -/
def logical : Family
  | "=", [a, b] => some (truth (Value.equals a b))
  | "!=", [a, b] => some (truth ((Value.equals a b).map (!·)))
  | "<", [a, b] => some (ordered (·.isLT) a b)
  | ">", [a, b] => some (ordered (·.isGT) a b)
  | "<=", [a, b] => some (ordered (·.isLE) a b)
  | ">=", [a, b] => some (ordered (·.isGE) a b)
  | "!", [a] => some (truth ((Value.effectiveBoolean a).map (!·)))
  | _, _ => none

/-- The IRI that a term names. -/
def toIri (a : Term) : Except EvalError Term :=
  match a with
  | .iri _ => .ok a
  | .literal l => if l.isPlain then .ok (.iri l.value) else .error (.type (.noIri a))
  | .blank _ => .error (.type (.noIri a))

/-- The text of an IRI or the value of a literal. -/
def toStr (a : Term) : Except EvalError Term :=
  match a with
  | .blank _ => .error (.type .stringOfBlank)
  | _ => .ok (.string a.lexical)

/-- Kinds and parts of terms. -/
def terms : Family
  | "sameterm", [a, b] => some (.ok (.boolean (a == b)))
  | "isiri", [a] => some (.ok (.boolean a.isIri))
  | "isuri", [a] => some (.ok (.boolean a.isIri))
  | "isblank", [a] => some (.ok (.boolean a.isBlank))
  | "isliteral", [a] => some (.ok (.boolean a.isLiteral))
  | "isnumeric", [a] => some (.ok (.boolean (Numeric.ofTerm? a).isSome))
  | "str", [a] => some (toStr a)
  | "lang", [.literal l] => some (.ok (.string (l.language?.getD "")))
  | "datatype", [.literal l] => some (.ok (.iri l.datatype))
  | "iri", [a] => some (toIri a)
  | "uri", [a] => some (toIri a)
  | "strdt", [.literal l, .iri datatype] =>
    if l.isPlain then some (.ok (.literal (.typed l.value datatype))) else none
  | "strlang", [.literal l, .literal language] =>
    if l.isPlain && language.isPlain && !language.value.isEmpty then
      some (.ok (.literal (.tagged l.value language.value)))
    else none
  | _, _ => none

/-- Functions of strings. -/
def strings : Family
  | "strlen", [a] => some (Value.strlen a)
  | "substr", [a, start] => some (Value.substr a start none)
  | "substr", [a, start, length] => some (Value.substr a start (some length))
  | "ucase", [a] => some (Value.ucase a)
  | "lcase", [a] => some (Value.lcase a)
  | "strstarts", [a, b] => some (truth (Value.strstarts a b))
  | "strends", [a, b] => some (truth (Value.strends a b))
  | "contains", [a, b] => some (truth (Value.contains a b))
  | "strbefore", [a, b] => some (Value.strbefore a b)
  | "strafter", [a, b] => some (Value.strafter a b)
  | "encode_for_uri", [a] => some (Value.encodeForUri a)
  | "concat", args => some (Value.concat args)
  | "langmatches", [a, b] => some (truth (Value.langmatches a b))
  | _, _ => none

/-- A function of a dateTime whose value is an integer. -/
def field (f : DateTime → Int) (a : Term) : Except EvalError Term := do
  let d ← DateTime.ofTerm a
  .ok (Numeric.integer (f d)).toTerm

/-- The offset of a dateTime as a duration. -/
def timezone (a : Term) : Except EvalError Term := do
  let d ← DateTime.ofTerm a
  match d.offset? with
  | some offset =>
    .ok (.literal (.typed (DateTime.durationText offset) Vocabulary.xsdDayTimeDuration))
  | none => .error (.argument .noTimezone)

/-- The dateTime moved to another timezone. No family has this function, since it may stop the
program. -/
def adjust (a zone : Term) : Checked (Except EvalError Term) :=
  match DateTime.ofTerm a, zone with
  | .error e, _ => .ok (.error e)
  | .ok d, .literal l => (d.adjust l.value).map (·.map DateTime.toTerm)
  | .ok _, _ => .ok (.error (.type .timezoneNotLiteral))

/-- The seconds of a dateTime with their fraction. -/
def seconds (a : Term) : Except EvalError Term := do
  let d ← DateTime.ofTerm a
  .ok (.literal (.typed d.secondsText Vocabulary.xsdDecimal))

/-- The offset of a dateTime as it is written, the empty string if it has none. -/
def tz (a : Term) : Except EvalError Term := do
  let d ← DateTime.ofTerm a
  .ok (.string ((d.offset?.map DateTime.zoneText).getD ""))

/-- Parts of dateTimes. -/
def times : Family
  | "year", [a] => some (field (·.wall.date.year) a)
  | "month", [a] => some (field (·.wall.date.month) a)
  | "day", [a] => some (field (·.wall.date.day) a)
  | "hours", [a] => some (field (·.wall.hour) a)
  | "minutes", [a] => some (field (·.wall.minute) a)
  | "seconds", [a] => some (seconds a)
  | "timezone", [a] => some (timezone a)
  | "tz", [a] => some (tz a)
  | _, _ => none

/-- The digest of a string without language tag, in hexadecimal digits. -/
def digest (algorithm : List UInt8 → List UInt8) (a : Term) : Except EvalError Term :=
  match a with
  | .literal l =>
    if l.isPlain then .ok (.string (Digest.toHex (algorithm (Digest.utf8 l.value))))
    else .error (.type (.notHashable a))
  | _ => .error (.type (.notHashable a))

/-- Digests. -/
def digests : Family
  | "md5", [a] => some (digest Digest.Md5.digest a)
  | "sha1", [a] => some (digest Digest.Sha1.digest a)
  | "sha256", [a] => some (digest Digest.Sha256.digest a)
  | "sha384", [a] => some (digest Digest.Sha512.digest384 a)
  | "sha512", [a] => some (digest Digest.Sha512.digest a)
  | _, _ => none

/-- All families together. -/
def all : Family := fun name args =>
  (numeric name args).or <| (logical name args).or <| (terms name args).or <|
    (strings name args).or <| (times name args).or (digests name args)

/-- The names of all functions that want a certain number or form of arguments. -/
def names : List String :=
  ["+", "-", "*", "/", "uplus", "uminus", "=", "!=", "<", ">", "<=", ">=", "!", "sameterm", "isiri",
    "isuri", "isblank", "isliteral", "isnumeric", "str", "lang", "datatype", "iri", "uri", "bnode",
    "strdt", "strlang", "uuid", "struuid", "strlen", "substr", "ucase", "lcase", "strstarts",
    "strends", "contains", "strbefore", "strafter", "encode_for_uri", "langmatches", "regex",
    "replace", "abs", "ceil", "floor", "round", "now", "year", "month", "day", "hours", "minutes",
    "seconds", "timezone", "tz", "adjust", "md5", "sha1", "sha256", "sha384", "sha512"]

end PagedSparql.Functions
