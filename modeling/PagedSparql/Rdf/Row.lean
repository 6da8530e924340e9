import PagedSparql.Rdf.VariableMap

/-!
# Solution rows

A row binds finitely many variables to terms. Two rows are compatible when they agree on the
variables that both bind; `merge` joins compatible rows by adding the smaller one to the larger, and
the empty row is compatible with every row.
-/

namespace PagedSparql

/-- One row of a solution: bindings of variables to terms. -/
abbrev Row := VariableMap Term

namespace Row

/-- The rows agree on every variable that both bind. -/
def compatible (a b : Row) : Bool :=
  a.entries.all fun e => (b.get? e.1).all (· == e.2)

/-- The row with bindings added one after the other, up to one that gives another term to a variable
that the row binds: then there is none. -/
def addAll? (r : Row) : List (Variable × Term) → Option Row
  | [] => some r
  | (v, t) :: rest =>
    match r.get? v with
    | some u => if u = t then addAll? r rest else none
    | none => addAll? (r.insert v t) rest

/-- The bindings of two compatible rows together. Those of the row with fewer bindings are added to
the other row. -/
def merge (a b : Row) : Option Row :=
  if a.size ≤ b.size then addAll? b a.entries else addAll? a b.entries

/-- The bindings of the listed variables. -/
def project (r : Row) (kept : List Variable) : Row := r.filter (kept.contains ·)

/-- The bindings of all but the listed variables. -/
def without (r : Row) (hidden : List Variable) : Row := r.filter (!hidden.contains ·)

/-- The term that the variable of a name is bound to; a leading `?` is not part of the name. -/
def getNamed? (r : Row) (v : Variable) : Option Term :=
  match v.name.toList with
  | '?' :: name => r.get? ⟨.ofList name⟩
  | _ => r.get? v

/-- The position with its variable replaced by the term it is bound to. -/
def substitute (r : Row) : TermPattern → TermPattern
  | .variable v =>
    match r.get? v with
    | some t => .term t
    | none => .variable v
  | .term t => .term t

/-- The row as text, terms in compact form. -/
def toText (r : Row) : String :=
  "\x7b" ++ ", ".intercalate (r.entries.map fun e => e.1.toText ++ ": " ++ e.2.toCompact) ++ "\x7d"

end Row

end PagedSparql
