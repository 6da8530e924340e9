import PagedSparql.Rdf.Row

/-!
# Triple patterns and property paths

A triple pattern has a term or a variable in each position; its predicate may also be a property
path, a tree of path operators over terms and variables. Substitution and renaming reach all plain
positions and leave paths alone.
-/

namespace PagedSparql

/-- A path operator. -/
inductive PathKind where
  /-- One step after the other. -/
  | sequence
  /-- One step or the other. -/
  | alternative
  /-- A step backwards. -/
  | inverse
  /-- A step along none of the listed predicates. -/
  | negated
  /-- An operator that plans do not know. -/
  | other (symbol : String)
  deriving DecidableEq

/-- The symbol of a path operator. -/
def PathKind.symbol : PathKind → String
  | .sequence => "/"
  | .alternative => "|"
  | .inverse => "^"
  | .negated => "!"
  | .other symbol => symbol

/-- The path operator with a symbol. -/
def PathKind.ofSymbol (symbol : String) : PathKind :=
  if symbol = "/" then .sequence
  else if symbol = "|" then .alternative
  else if symbol = "^" then .inverse
  else if symbol = "!" then .negated
  else .other symbol

/-- The predicate of a triple pattern. -/
inductive Predicate where
  /-- A term or a variable. -/
  | plain (p : TermPattern)
  /-- A property path. -/
  | path (kind : PathKind) (items : List Predicate)

namespace Predicate

mutual

/-- Decides equality of predicates. -/
def decEq : (a b : Predicate) → Decidable (a = b)
  | .plain p, .plain q =>
    if h : p = q then isTrue (h ▸ rfl) else isFalse fun h' => h (Predicate.plain.inj h')
  | .plain _, .path _ _ => isFalse nofun
  | .path _ _, .plain _ => isFalse nofun
  | .path k is, .path l js =>
    if hk : k = l then
      match decEqList is js with
      | isTrue h => isTrue (by rw [hk, h])
      | isFalse h => isFalse fun h' => h (Predicate.path.inj h').2
    else isFalse fun h' => hk (Predicate.path.inj h').1

/-- Decides equality of lists of predicates. -/
def decEqList : (as bs : List Predicate) → Decidable (as = bs)
  | [], [] => isTrue rfl
  | [], _ :: _ => isFalse nofun
  | _ :: _, [] => isFalse nofun
  | a :: as, b :: bs =>
    match decEq a b, decEqList as bs with
    | isTrue h, isTrue h' => isTrue (by rw [h, h'])
    | isFalse h, _ => isFalse fun e => h (List.cons.inj e).1
    | _, isFalse h => isFalse fun e => h (List.cons.inj e).2

end

instance : DecidableEq Predicate := decEq

/-- The plain pattern, if the predicate is no path. -/
def plain? : Predicate → Option TermPattern
  | .plain p => some p
  | .path _ _ => none

/-- The predicate is a path. -/
def isPath : Predicate → Bool
  | .plain _ => false
  | .path _ _ => true

/-- A path with its items written already. -/
def renderPath (kind : PathKind) (items : List String) : String :=
  match kind with
  | .sequence => "(" ++ "/".intercalate items ++ ")"
  | .alternative => "(" ++ "|".intercalate items ++ ")"
  | .inverse => "^" ++ String.join items
  | .negated => "!(" ++ "|".intercalate items ++ ")"
  | .other symbol => "(" ++ String.join items ++ ")" ++ symbol

mutual

/-- The predicate in SPARQL text. -/
def toQuery : Predicate → String
  | .plain p => p.toQuery
  | .path kind items => renderPath kind (toQueries items)

/-- The predicates of a list in SPARQL text. -/
def toQueries : List Predicate → List String
  | [] => []
  | p :: rest => p.toQuery :: toQueries rest

end

end Predicate

/-- A triple of terms. -/
structure Triple where
  /-- The subject. -/
  subject : Term
  /-- The predicate. -/
  predicate : Term
  /-- The object. -/
  object : Term
  deriving DecidableEq

namespace Triple

/-- The subject is no literal and the predicate is an IRI. -/
def isValid (t : Triple) : Bool := !t.subject.isLiteral && t.predicate.isIri

/-- The triple as a line of text. -/
def toText (t : Triple) : String :=
  t.subject.toQuery ++ " " ++ t.predicate.toQuery ++ " " ++ t.object.toQuery ++ " ."

end Triple

/-- A triple pattern. -/
structure TriplePattern where
  /-- The subject. -/
  subject : TermPattern
  /-- The predicate. -/
  predicate : Predicate
  /-- The object. -/
  object : TermPattern
  deriving DecidableEq

namespace TriplePattern

/-- The variables in the subject, the plain predicate and the object, in this order. -/
def vars (t : TriplePattern) : List Variable :=
  t.subject.var?.toList ++ (t.predicate.plain?.bind (·.var?)).toList ++
    t.object.var?.toList

/-- The predicate is a path. -/
def hasPath (t : TriplePattern) : Bool := t.predicate.isPath

/-- The pattern with a function applied to its plain positions. -/
def mapPlain (f : TermPattern → TermPattern) (t : TriplePattern) : TriplePattern :=
  let predicate :=
    match t.predicate with
    | .plain p => .plain (f p)
    | .path kind items => .path kind items
  ⟨f t.subject, predicate, f t.object⟩

/-- The pattern with the variables that a row binds replaced by their terms. -/
def substitute (t : TriplePattern) (r : Row) : TriplePattern := t.mapPlain r.substitute

/-- The pattern with its variables renamed. -/
def rename (f : Variable → Variable) (t : TriplePattern) : TriplePattern :=
  t.mapPlain fun
    | .variable v => .variable (f v)
    | .term u => .term u

/-- The term of a position under a row. -/
def resolve? (r : Row) : TermPattern → Option Term
  | .variable v => r.getNamed? v
  | .term t => some t

/-- The triple that the pattern stands for under a row, if the row binds all of its variables. -/
def ground? (t : TriplePattern) (r : Row) : Option Triple := do
  let subject ← resolve? r t.subject
  let predicate ← resolve? r (← t.predicate.plain?)
  let object ← resolve? r t.object
  some ⟨subject, predicate, object⟩

/-- The pattern in SPARQL text. -/
def toQuery (t : TriplePattern) : String :=
  t.subject.toQuery ++ " " ++ t.predicate.toQuery ++ " " ++ t.object.toQuery ++ " ."

end TriplePattern

end PagedSparql
