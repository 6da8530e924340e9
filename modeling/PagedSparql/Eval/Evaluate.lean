import PagedSparql.Algebra.Expression
import PagedSparql.Eval.Cast
import PagedSparql.Eval.Functions
import PagedSparql.Eval.Labels
import PagedSparql.Eval.PatternCache

/-!
# Evaluation

The value of an expression for a row. Besides the row it depends on the time of the query, on the
source of new blank nodes and on a supply of UUIDs; a cache of compiled patterns goes along, without
effect on any value. An error undoes none of the state: a label that was given out stays given out.

A number that does not fit its type stops the program in the middle of a query, which then delivers
nothing more. The state says so (`EvalState.stopped`), and evaluation goes on as if for an error;
whoever pulls the query looks there before handing on what the pull has brought, so that nothing
that it comes to afterwards is ever seen.

Most functions evaluate all their arguments first. The connectives go on past errors, since a later
argument may decide the value; `if`, `coalesce`, `bound` and `in` look at their arguments as they
need them.
-/

namespace PagedSparql

/-- What evaluation reads and changes besides the row. -/
structure EvalState where
  /-- The source of new blank nodes. -/
  labels : Labels
  /-- The compiled patterns. -/
  patterns : PatternCache := .empty
  /-- The number of UUIDs given out. -/
  uuids : Nat := 0
  /-- The program has stopped. -/
  stopped : Bool := false

/-- Evaluation: a value or an error, and the state in either case. -/
abbrev Eval (α : Type) := ExceptT EvalError (StateM EvalState) α

namespace Eval

/-- A value or error that needs no state. -/
def ofExcept {α : Type} (x : Except EvalError α) : Eval α := ExceptT.mk (pure x)

/-- A value or error that needs no state, unless the program stops. -/
def ofChecked {α : Type} (x : Checked (Except EvalError α)) : Eval α :=
  match x with
  | .ok x => ofExcept x
  | .error .overflow => do
    modify fun s => { s with stopped := true }
    throw (.argument .integerOverflow)

/-- The error of a pattern that cannot be used. -/
def patternError (pattern : String) : Regex.Fault → EvalError
  | .malformed => .argument (.invalidPattern pattern)
  | .unknownFlag c => .argument (.unknownFlag c)

/-- A compiled pattern. -/
def pattern (text flags : String) : Eval Regex := do
  let s ← get
  let (r, patterns) := s.patterns.get text flags
  set { s with patterns }
  match r with
  | .ok r => pure r
  | .error fault => throw (patternError text fault)

/-- The flags of a pattern: a string without language tag. -/
def flagsArg (flags? : Option Term) : Except EvalError String :=
  match flags? with
  | none => .ok ""
  | some (.literal l) => if l.isPlain then .ok l.value else .error (.type .flagsNotPlain)
  | some _ => .error (.type .flagsNotPlain)

/-- A pattern matches somewhere in a text. -/
def regex (text pat : Term) (flags? : Option Term) : Eval Term := do
  let (text, _) ← ofExcept (Value.stringArg text)
  let (pat, _) ← ofExcept (Value.stringArg pat)
  let flags ← ofExcept (flagsArg flags?)
  let r ← pattern pat flags
  pure (.boolean (r.isMatch text))

/-- The text with all matches of a pattern replaced; the pattern must not match the empty text. -/
def replace (text pat replacement : Term) (flags? : Option Term) : Eval Term := do
  let (text, language?) ← ofExcept (Value.stringArg text)
  let (pat, _) ← ofExcept (Value.stringArg pat)
  let (replacement, _) ← ofExcept (Value.stringArg replacement)
  let flags ← ofExcept (flagsArg flags?)
  let r ← pattern pat flags
  if r.isMatch "" then throw (.argument .matchesEmpty)
  else pure (Value.stringTerm (r.replaceAll text replacement) language?)

/-- A blank node with a new label. -/
def freshBlank : Eval Term := do
  let s ← get
  let (label, labels) := s.labels.fresh
  set { s with labels }
  pure (.blank label)

/-- The blank node of a key in the current row. -/
def blankOfKey (key : String) : Eval Term := do
  let s ← get
  let (label, labels) := s.labels.ofKey key
  set { s with labels }
  pure (.blank label)

/-- The text of the `n`-th UUID: the digits of a digest, marked as version 4. -/
def uuidText (n : Nat) : String :=
  let d := (Digest.toHex (Digest.Md5.digest (Digest.utf8 (toString n)))).toList
  .ofList (d.take 8 ++ '-' :: (d.drop 8).take 4 ++ '-' :: '4' :: (d.drop 13).take 3 ++
    '-' :: 'a' :: (d.drop 17).take 3 ++ '-' :: d.drop 20)

/-- A UUID that was not given out before. -/
def freshUuid : Eval String := do
  let s ← get
  set { s with uuids := s.uuids + 1 }
  pure (uuidText s.uuids)

/-- The value of a function of evaluated arguments. -/
def apply (now : DateTime) (name : String) (args : List Term) : Eval Term :=
  match name, args with
  | "bnode", [] => freshBlank
  | "bnode", [a] => do
    let (key, _) ← ofExcept (Value.stringArg a)
    blankOfKey key
  | "uuid", [] => do pure (.iri ("urn:uuid:" ++ (← freshUuid)))
  | "struuid", [] => do pure (.string (← freshUuid))
  | "now", [] => pure now.toTerm
  | "regex", [text, pat] => regex text pat none
  | "regex", [text, pat, flags] => regex text pat (some flags)
  | "replace", [text, pat, replacement] => replace text pat replacement none
  | "replace", [text, pat, replacement, flags] => replace text pat replacement (some flags)
  | "adjust", [a, zone] => ofChecked (Functions.adjust a zone)
  | _, _ =>
    match Functions.all name args with
    | some value => ofExcept value
    | none =>
      if Functions.names.contains name then throw (.arity name) else throw (.unknownFunction name)

/-- The truth value of a result. -/
def truth (x : Eval Term) : Eval Bool := do ofExcept (Value.effectiveBoolean (← x))

/-- The result of an evaluation that may fail, as a value. -/
def attempt {α : Type} (x : Eval α) : Eval (Except EvalError α) :=
  ExceptT.mk do
    let r ← x.run
    pure (.ok r)

/-- The end of a connective that nothing decided: the last error, or the value without error. -/
def undecided (error? : Option EvalError) (value : Bool) : Eval Term :=
  match error? with
  | some e => throw e
  | none => pure (.boolean value)

mutual

/-- The value of an expression for a row. -/
def evaluate (now : DateTime) (row : Row) : Expression → Eval Term
  | .leaf (.variable v) =>
    match row.getNamed? v with
    | some t => pure t
    | none => throw (.unbound v)
  | .leaf (.term t) => pure t
  | .aggregate function _ _ _ => throw (.argument (.aggregateOutsideGroup function))
  | .call operator args =>
    if operator.toList.contains ':' then do
      let values ← evaluateAll now row args
      ofExcept (Value.cast operator values)
    else
      let name := operator.toLower
      match name with
      | "||" => evaluateUntil now row true none args
      | "&&" => evaluateUntil now row false none args
      | "if" => evaluateIf now row name args
      | "coalesce" => evaluateFirst now row args
      | "bound" =>
        match args with
        | [.leaf (.variable v)] => pure (.boolean (row.getNamed? v).isSome)
        | _ => throw (.arity name)
      | "in" => evaluateIn now row name false args
      | "notin" => evaluateIn now row name true args
      | "not in" => evaluateIn now row name true args
      | _ => do
        let values ← evaluateAll now row args
        apply now name values

/-- The values of all expressions, up to the first error. -/
def evaluateAll (now : DateTime) (row : Row) : List Expression → Eval (List Term)
  | [] => pure []
  | e :: rest => do
    let value ← evaluate now row e
    let values ← evaluateAll now row rest
    pure (value :: values)

/-- Evaluates until an expression has the deciding truth value; errors are kept for the end. -/
def evaluateUntil (now : DateTime) (row : Row) (deciding : Bool) (error? : Option EvalError) :
    List Expression → Eval Term
  | [] => undecided error? (!deciding)
  | e :: rest => do
    match ← attempt (truth (evaluate now row e)) with
    | .ok b =>
      if b = deciding then pure (.boolean deciding)
      else evaluateUntil now row deciding error? rest
    | .error error => evaluateUntil now row deciding (some error) rest

/-- The second or third expression, as the first one is true or not. -/
def evaluateIf (now : DateTime) (row : Row) (name : String) : List Expression → Eval Term
  | [condition, yes, no] => do
    if ← truth (evaluate now row condition) then evaluate now row yes else evaluate now row no
  | _ => throw (.arity name)

/-- The first expression that has a value. -/
def evaluateFirst (now : DateTime) (row : Row) : List Expression → Eval Term
  | [] => throw (.argument .noAlternative)
  | e :: rest => do
    match ← attempt (evaluate now row e) with
    | .ok value => pure value
    | .error _ => evaluateFirst now row rest

/-- The first expression is, or is not, among the others. -/
def evaluateIn (now : DateTime) (row : Row) (name : String) (negated : Bool) :
    List Expression → Eval Term
  | [] => throw (.arity name)
  | e :: rest => do
    let needle ← evaluate now row e
    let found ← evaluateMember now row needle rest
    pure (.boolean (found != negated))

/-- A term is the value of one of the expressions; those without value do not count. -/
def evaluateMember (now : DateTime) (row : Row) (needle : Term) : List Expression → Eval Bool
  | [] => pure false
  | e :: rest => do
    match ← attempt (evaluate now row e) with
    | .ok value => if value = needle then pure true else evaluateMember now row needle rest
    | .error _ => evaluateMember now row needle rest

end

/-- The truth value of an expression for a row. -/
def evaluateBool (now : DateTime) (e : Expression) (row : Row) : Eval Bool :=
  truth (evaluate now row e)

/-- Begins to evaluate a row. -/
def enterRow (s : EvalState) (row : Row) : EvalState := { s with labels := s.labels.enterRow row }

/-- The row being evaluated is extended. -/
def extendRow (s : EvalState) (row : Row) : EvalState := { s with labels := s.labels.extendRow row }

end Eval

end PagedSparql
