import PagedSparql.Rdf.Row

/-!
# Expressions

An expression is a variable or a term, a call of a function by its name, or an aggregate over a
group of rows. An aggregate without argument counts the rows themselves.
-/

namespace PagedSparql

/-- An expression. -/
inductive Expression where
  /-- A variable or a term. -/
  | leaf (p : TermPattern)
  /-- A call of a function. -/
  | call (operator : String) (args : List Expression)
  /-- An aggregate over the rows of a group. -/
  | aggregate (function : String) (distinct : Bool) (argument : Option Expression)
      (separator : Option String)

/-- An aggregate on its own. -/
structure Aggregate where
  /-- The name of the function. -/
  function : String
  /-- Equal values count once. -/
  distinct : Bool
  /-- The expression that is aggregated; none stands for whole rows. -/
  argument : Option Expression
  /-- What stands between the parts of a concatenation. -/
  separator : Option String

namespace Expression

mutual

/-- Decides equality of expressions. -/
def decEq : (a b : Expression) → Decidable (a = b)
  | .leaf p, .leaf q =>
    if h : p = q then isTrue (h ▸ rfl) else isFalse fun h' => h (Expression.leaf.inj h')
  | .call f as, .call g bs =>
    if hf : f = g then
      match decEqList as bs with
      | isTrue h => isTrue (by rw [hf, h])
      | isFalse h => isFalse fun h' => h (Expression.call.inj h').2
    else isFalse fun h' => hf (Expression.call.inj h').1
  | .aggregate f d a s, .aggregate g e b t =>
    if h : f = g ∧ d = e ∧ s = t then
      match decEqOption a b with
      | isTrue h' => isTrue (by rw [h.1, h.2.1, h.2.2, h'])
      | isFalse h' => isFalse fun e => h' (Expression.aggregate.inj e).2.2.1
    else
      isFalse fun e =>
        h ⟨(Expression.aggregate.inj e).1, (Expression.aggregate.inj e).2.1,
          (Expression.aggregate.inj e).2.2.2⟩
  | .leaf _, .call _ _ => isFalse nofun
  | .leaf _, .aggregate _ _ _ _ => isFalse nofun
  | .call _ _, .leaf _ => isFalse nofun
  | .call _ _, .aggregate _ _ _ _ => isFalse nofun
  | .aggregate _ _ _ _, .leaf _ => isFalse nofun
  | .aggregate _ _ _ _, .call _ _ => isFalse nofun

/-- Decides equality of lists of expressions. -/
def decEqList : (as bs : List Expression) → Decidable (as = bs)
  | [], [] => isTrue rfl
  | [], _ :: _ => isFalse nofun
  | _ :: _, [] => isFalse nofun
  | a :: as, b :: bs =>
    match decEq a b, decEqList as bs with
    | isTrue h, isTrue h' => isTrue (by rw [h, h'])
    | isFalse h, _ => isFalse fun e => h (List.cons.inj e).1
    | _, isFalse h => isFalse fun e => h (List.cons.inj e).2

/-- Decides equality of optional expressions. -/
def decEqOption : (a b : Option Expression) → Decidable (a = b)
  | none, none => isTrue rfl
  | none, some _ => isFalse nofun
  | some _, none => isFalse nofun
  | some a, some b =>
    match decEq a b with
    | isTrue h => isTrue (by rw [h])
    | isFalse h => isFalse fun e => h (Option.some.inj e)

end

instance : DecidableEq Expression := decEq

/-- The variable, if the expression is one. -/
def var? : Expression → Option Variable
  | .leaf p => p.var?
  | _ => none

/-- The aggregate, if the expression is one. -/
def aggregate? : Expression → Option Aggregate
  | .aggregate function distinct argument separator =>
    some ⟨function, distinct, argument, separator⟩
  | _ => none

mutual

/-- An aggregate occurs in the expression. -/
def hasAggregate : Expression → Bool
  | .leaf _ => false
  | .call _ args => anyHasAggregate args
  | .aggregate _ _ _ _ => true

/-- An aggregate occurs in one of the expressions. -/
def anyHasAggregate : List Expression → Bool
  | [] => false
  | e :: rest => e.hasAggregate || anyHasAggregate rest

end

mutual

/-- The variables of the expression in the order of the text, with repetitions. -/
def occurrences : Expression → List Variable
  | .leaf p => p.var?.toList
  | .call _ args => allOccurrences args
  | .aggregate _ _ none _ => []
  | .aggregate _ _ (some e) _ => e.occurrences

/-- The variables of several expressions in the order of the text, with repetitions. -/
def allOccurrences : List Expression → List Variable
  | [] => []
  | e :: rest => e.occurrences ++ allOccurrences rest

end

/-- The variables of the expression, each once, in the order of their names. -/
def vars (e : Expression) : List Variable :=
  (VariableMap.ofList (e.occurrences.map fun v => (v, ()))).keys

mutual

/-- The expression as text. -/
def toText : Expression → String
  | .leaf p => p.toQuery
  | .call operator args => operator ++ "(" ++ ", ".intercalate (toTexts args) ++ ")"
  | .aggregate function distinct argument _ =>
    function ++ "(" ++ (if distinct then "DISTINCT " else "") ++
      (match argument with
        | some e => e.toText
        | none => "*") ++ ")"

/-- The expressions of a list as texts. -/
def toTexts : List Expression → List String
  | [] => []
  | e :: rest => e.toText :: toTexts rest

end

end Expression

namespace Aggregate

/-- The aggregate as an expression. -/
def toExpression (a : Aggregate) : Expression :=
  .aggregate a.function a.distinct a.argument a.separator

/-- Aggregates are equal when they are as expressions. -/
theorem toExpression_inj {a b : Aggregate} (h : a.toExpression = b.toExpression) : a = b := by
  cases a
  cases b
  simpa [toExpression] using h

instance : DecidableEq Aggregate := fun a b =>
  decidable_of_iff (a.toExpression = b.toExpression) ⟨toExpression_inj, fun h => h ▸ rfl⟩

end Aggregate

end PagedSparql
