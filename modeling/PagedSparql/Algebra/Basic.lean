import PagedSparql.Algebra.Expression
import PagedSparql.Algebra.Triple

/-!
# The query algebra

A query is a tree of graph patterns under solution modifiers, under at most one query form. A group
joins its parts from left to right; a left join keeps the rows of what stands to its left that no
row of the group extends. `minus` and `graph` can be written but not planned.
-/

namespace PagedSparql

/-- A key that rows are grouped by, with the variable that it is bound to. -/
structure GroupKey where
  /-- The value that rows are grouped by. -/
  expression : Expression
  /-- The variable that carries it. -/
  alias? : Option Variable
  deriving DecidableEq

/-- An aggregate with the variable that it is bound to. -/
structure AggregateBinding where
  /-- The variable. -/
  target : Variable
  /-- The aggregate. -/
  aggregate : Aggregate
  deriving DecidableEq

/-- A projected column. -/
inductive Column where
  /-- An expression under a new name. -/
  | expression (e : Expression) (v : Variable)
  /-- A variable; the name `*` stands for all of them. -/
  | variable (v : Variable)
  deriving DecidableEq

/-- The column stands for all variables. -/
def Column.isWildcard : Column → Bool
  | .variable v => v.name == "*"
  | .expression _ _ => false

/-- The variable that a column binds. -/
def Column.name : Column → Variable
  | .expression _ v => v
  | .variable v => v

/-- A sort key. -/
structure OrderCondition where
  /-- The value that rows are sorted by. -/
  expression : Expression
  /-- Greater values come first. -/
  descending : Bool
  deriving DecidableEq

/-- A node of the query algebra. -/
inductive Algebra where
  /-- A basic graph pattern. -/
  | bgp (triples : List TriplePattern)
  /-- A group, joined from left to right. -/
  | join (patterns : List Algebra)
  /-- An optional group. -/
  | leftJoin (patterns : List Algebra)
  /-- Alternatives. -/
  | union (patterns : List Algebra)
  /-- A condition on the rows of the group around it. -/
  | filter (condition : Expression)
  /-- A new binding. -/
  | bind (v : Variable) (e : Expression)
  /-- Inline rows; a variable without term is unbound. -/
  | values (rows : List (VariableMap (Option Term)))
  /-- A group that another endpoint answers. -/
  | service (name : Term) (silent : Bool) (patterns : List Algebra)
  /-- Groups of rows with equal keys, and aggregates over them. -/
  | groupBy (input : Algebra) (keys : List GroupKey) (aggregates : List AggregateBinding)
  /-- A condition on groups. -/
  | having (input : Algebra) (condition : Expression)
  /-- A selection of columns. -/
  | project (input : Algebra) (columns : List Column)
  /-- An order of rows. -/
  | orderBy (input : Algebra) (conditions : List OrderCondition)
  /-- Each row once. -/
  | distinct (input : Algebra)
  /-- A section of the rows. -/
  | slice (input : Algebra) (offset : UInt64) (limit : Option UInt64)
  /-- The triples of a template. -/
  | construct (template : List TriplePattern) (input : Algebra)
  /-- The triples about some terms. -/
  | describe (terms : List TermPattern) (input : Algebra)
  /-- Whether there is a row. -/
  | ask (input : Algebra)
  /-- A difference. -/
  | minus (patterns : List Algebra)
  /-- A group in a named graph. -/
  | graph (name : TermPattern) (patterns : List Algebra)

namespace Algebra

/-- The name of the kind of a node. -/
def kind : Algebra → String
  | .bgp _ => "bgp"
  | .join _ => "join"
  | .leftJoin _ => "leftJoin"
  | .union _ => "union"
  | .filter _ => "filter"
  | .bind _ _ => "bind"
  | .values _ => "values"
  | .service _ _ _ => "service"
  | .groupBy _ _ _ => "groupBy"
  | .having _ _ => "having"
  | .project _ _ => "project"
  | .orderBy _ _ => "orderBy"
  | .distinct _ => "distinct"
  | .slice _ _ _ => "slice"
  | .construct _ _ => "construct"
  | .describe _ _ => "describe"
  | .ask _ => "ask"
  | .minus _ => "minus"
  | .graph _ _ => "graph"

/-- The names of all kinds of nodes. -/
def kinds : List String :=
  ["bgp", "join", "leftJoin", "union", "filter", "bind", "values", "service", "groupBy", "having",
    "project", "orderBy", "distinct", "slice", "construct", "describe", "ask", "minus", "graph"]

/-- The name of the kind of every node is known. -/
theorem kind_mem_kinds (a : Algebra) : a.kind ∈ kinds := by
  cases a <;> simp [kind, kinds]

mutual

/-- Decides whether two nodes are equal. -/
def same : Algebra → Algebra → Bool
  | .bgp a, .bgp b => a == b
  | .join a, .join b => allSame a b
  | .leftJoin a, .leftJoin b => allSame a b
  | .union a, .union b => allSame a b
  | .filter a, .filter b => a == b
  | .bind v a, .bind w b => v == w && a == b
  | .values a, .values b => a == b
  | .service n s a, .service m t b => n == m && s == t && allSame a b
  | .groupBy a k g, .groupBy b l h => same a b && k == l && g == h
  | .having a c, .having b d => same a b && c == d
  | .project a c, .project b d => same a b && c == d
  | .orderBy a c, .orderBy b d => same a b && c == d
  | .distinct a, .distinct b => same a b
  | .slice a o l, .slice b p m => same a b && o == p && l == m
  | .construct t a, .construct u b => t == u && same a b
  | .describe t a, .describe u b => t == u && same a b
  | .ask a, .ask b => same a b
  | .minus a, .minus b => allSame a b
  | .graph n a, .graph m b => n == m && allSame a b
  | _, _ => false

/-- Decides whether two lists of nodes are equal. -/
def allSame : List Algebra → List Algebra → Bool
  | [], [] => true
  | a :: as, b :: bs => same a b && allSame as bs
  | _, _ => false

end

end Algebra

end PagedSparql
