import PagedSparql.Plan.Arrangement
import PagedSparql.Plan.Lifting
import PagedSparql.Plan.Paths
import PagedSparql.Plan.Planner

/-!
# Plans of queries

A node of the algebra is planned as a stage that takes in the rows of what stands to its left; the
whole query takes in one empty row. In a group

* basic graph patterns lose their blank nodes, which are variables that nobody sees, and their
  paths, and become bound joins;
* inline rows divide the rest of the group: there is a branch for each of them, which joins with it
  and has it put into its basic graph patterns;
* a query inside is planned on its own and joined row by row.

Inside an optional group bound joins keep the rows that they do not extend. A basic graph pattern
whose paths need more than one join, or a condition, is wrapped as a whole for the same effect.
-/

namespace PagedSparql

/-- A clause of a group, planned as far as it does not depend on the clauses around it. -/
inductive Clause where
  /-- Inline rows. -/
  | values (rows : List Row)
  /-- A basic graph pattern. -/
  | triples (triples : List TriplePattern)
  /-- A condition. -/
  | filter (condition : Expression)
  /-- Any other clause. -/
  | other (plan : Planner Stage)

/-- A planned query. -/
inductive QueryPlan where
  /-- The rows of a stage. -/
  | solutions (stage : Stage)
  /-- The triples of a construction. -/
  | triples (construction : Construction)
  /-- Whether a stage has a row. -/
  | truth (stage : Stage)

namespace Stage

/-- The first stage above the second. -/
def andThen : Stage → Stage → Stage
  | upper, .input => upper
  | .input, lower => lower
  | upper, lower => .chain upper lower

/-- The stage that one empty row comes to. -/
def fromEmptyRow (stage : Stage) : Stage := andThen (.source [.empty] .done) stage

/-- The rows of several stages, each of which takes in all rows. -/
def forkOf (branches : List Stage) : Stage := .fork (.ofReaders branches.length) 0 branches

/-- The numbering of rows around a stage. -/
def optionalOf (tag : Variable) (inner : Stage) : Stage := .optional tag inner 0 [] none

/-- The join with the rows of a stage that takes in nothing. -/
def nestedOf (right : Stage) : Stage := .nested .input right false [] none

/-- A section of the rows. -/
def sliceOf (offset : UInt64) (limit : Option UInt64) : Stage :=
  .slice offset.toNat (limit.map UInt64.toNat)

/-- The rows in order. -/
def sortBy (conditions : List OrderCondition) : Stage := .sort conditions [] none

/-- The rows in groups. -/
def groupBy (keys : List Variable) (folds : List Fold) : Stage := .group keys folds [] none

end Stage

namespace Clause

/-- The rank of a clause in its group. -/
def rank : Clause → Nat
  | .values _ => 0
  | .filter _ => 2
  | _ => 1

/-- The triple patterns of a basic graph pattern. -/
def triples? : Clause → Option (List TriplePattern)
  | Clause.triples patterns => some patterns
  | _ => none

instance : Arrangeable Clause := ⟨Clause.triples?, .triples, Clause.rank⟩

end Clause

namespace Plan

/-- A blank node as a variable, the same one for the same label. -/
def blankToVariable (p : TermPattern) (labels : List (String × Variable)) :
    Planner (TermPattern × List (String × Variable)) :=
  match p with
  | .term (.blank label) =>
    match labels.lookup label with
    | some v => pure (.variable v, labels)
    | none => do
      let v ← Planner.fresh
      pure (.variable v, (label, v) :: labels)
  | p => pure (p, labels)

/-- Triple patterns with variables in the place of blank nodes. -/
def blanksToVariables (labels : List (String × Variable)) :
    List TriplePattern → Planner (List TriplePattern)
  | [] => pure []
  | t :: rest => do
    let (subject, labels) ← blankToVariable t.subject labels
    let (object, labels) ← blankToVariable t.object labels
    let rest ← blanksToVariables labels rest
    pure (⟨subject, t.predicate, object⟩ :: rest)

/-- The bound join with triple patterns, if there are any. -/
def joinStage (scope : Scope) (triples : List TriplePattern) : Stage :=
  if triples.isEmpty then .input
  else
    .remote (.ofPattern ⟨triples, scope.address, scope.graph, scope.bufferSize, scope.optional⟩)

/-- Conditions, one below the other. -/
def filterStages (conditions : List Expression) : Stage :=
  (conditions.map Stage.filter).foldr .andThen .input

mutual

/-- The stage of a pattern without paths. Its branches do not keep rows that they do not extend. -/
def pathFreeStage (scope : Scope) : PathFree → Stage
  | .flat triples conditions => (joinStage scope triples).andThen (filterStages conditions)
  | .split branches conditions =>
    (Stage.forkOf (pathFreeStages { scope with optional := false } branches)).andThen
      (filterStages conditions)

/-- The stages of patterns without paths. -/
def pathFreeStages (scope : Scope) : List PathFree → List Stage
  | [] => []
  | p :: rest => pathFreeStage scope p :: pathFreeStages scope rest

end

/-- A pattern is one bound join without conditions. -/
def isSimple : PathFree → Bool
  | .flat _ conditions => conditions.isEmpty
  | .split _ _ => false

/-- The stage of a basic graph pattern. -/
def triplesStage (triples : List TriplePattern) : Planner Stage := do
  if triples.isEmpty then pure .input
  else
    let triples ← blanksToVariables [] triples
    let pattern ← Planner.naming (Paths.compile triples)
    let scope ← read
    -- No single join would see whether a row has a match, so rows are numbered around all of them.
    if scope.optional && !isSimple pattern then
      let tag ← Planner.fresh
      pure (.optionalOf tag (pathFreeStage { scope with optional := false } pattern))
    else pure (pathFreeStage scope pattern)

/-- The stage of the clauses of a group, with rows that are put into its basic graph patterns. -/
def clausesStage (rows : List Row) : List Clause → Planner Stage
  | [] => pure .input
  -- The rest is planned once for each row, so that each branch draws its own variables.
  | .values inline :: rest => do
    let branches ← inline.mapM fun row => do
      return (Stage.values row).andThen (← clausesStage (rows ++ [row]) rest)
    pure (.forkOf branches)
  | .triples triples :: rest => do
    let upper ← triplesStage (triples.map fun t => rows.foldl TriplePattern.substitute t)
    return upper.andThen (← clausesStage rows rest)
  | .filter condition :: rest => do
    return (Stage.filter condition).andThen (← clausesStage rows rest)
  | .other plan :: rest => do
    let upper ← plan
    return upper.andThen (← clausesStage rows rest)

/-- The stage of a group. -/
def groupStage (clauses : List Clause) : Planner Stage :=
  clausesStage [] (Arrangement.arrange clauses)

/-- The address of an endpoint begins like this. -/
def isAddress (iri : String) : Bool :=
  let lower := iri.toLower
  lower.startsWith "http://" || lower.startsWith "https://"

/-- The address that a service is at. -/
def serviceAddress (name : Term) : Except BuildError String :=
  match name with
  | .iri iri => if isAddress iri then .ok iri else .error (.invalidService iri)
  | name => .error (.invalidService name.lexical)

/-- The variable of a group key, and the stage that binds it. -/
def groupKey (key : GroupKey) : Planner (Variable × Stage) :=
  match key.expression.var?, key.alias? with
  | some v, none => pure (v, .input)
  | some v, some a =>
    if v = a then pure (v, .input) else pure (a, .bind a key.expression)
  | none, some a => pure (a, .bind a key.expression)
  | none, none => do
    let v ← Planner.fresh
    pure (v, .bind v key.expression)

/-- The variables of group keys, and the stage that binds them. -/
def groupKeys : List GroupKey → Planner (List Variable × Stage)
  | [] => pure ([], .input)
  | key :: rest => do
    let (v, upper) ← groupKey key
    let (vs, lower) ← groupKeys rest
    pure (v :: vs, upper.andThen lower)

/-- The node is a query of its own when it stands in a group. -/
def isSubquery : Algebra → Bool
  | .project _ _ => true
  | .groupBy _ _ _ => true
  | .having _ _ => true
  | .orderBy _ _ => true
  | .distinct _ => true
  | .slice _ _ _ => true
  | _ => false

/-- The inline rows of a node, without their unbound cells. -/
def inlineRows (rows : List (VariableMap (Option Term))) : List Row :=
  rows.map fun row => .ofList (row.entries.filterMap fun e => e.2.map fun t => (e.1, t))

/-- The clause of a node of a group that is planned alone as it is given. -/
def clauseOf (a : Algebra) (planned : Planner Stage) : Clause :=
  match a with
  | .values rows => .values (inlineRows rows)
  | .bgp triples => .triples triples
  | .filter condition => .filter condition
  | a =>
    if isSubquery a then
      .other do return .nestedOf (← planned.withOptional false).fromEmptyRow
    else .other planned

mutual

/-- The stage of a node. -/
def stage : Algebra → Planner Stage
  | .join patterns => (groupStage (clauses patterns)).withOptional false
  | .leftJoin patterns => (groupStage (clauses patterns)).withOptional true
  | .bgp triples => triplesStage triples
  | .filter condition => pure (.filter condition)
  | .bind v e => pure (.bind v e)
  | .values rows => clausesStage [] [.values (inlineRows rows)]
  | .union patterns => do return .forkOf (← branches patterns)
  | .service name _ patterns => do
    let address ← Planner.ofExcept (serviceAddress name)
    (groupStage (clauses patterns)).service address
  | .groupBy input keys aggregates => do
    let source ← stage input
    let (vs, binds) ← groupKeys keys
    let folds ← Planner.ofExcept (aggregates.mapM Fold.ofBinding)
    pure ((source.andThen binds).andThen (.groupBy vs folds))
  | .having input condition => do
    let source ← stage input
    pure (source.andThen (.filter condition))
  | .project input columns => do
    let source ← stage input
    -- Only now is it known which variables the input needed.
    let hidden ← Planner.drawn
    pure (source.andThen (.project columns hidden))
  | .orderBy input conditions => do
    let source ← stage input
    pure (source.andThen (.sortBy conditions))
  | .distinct input => do
    let source ← stage input
    pure (source.andThen (.distinct []))
  | .slice input offset limit => do
    let source ← stage input
    pure (source.andThen (.sliceOf offset limit))
  | .construct _ _ => Planner.refuse (.unsupportedForm "construct")
  | .describe _ _ => Planner.refuse (.unsupportedForm "describe")
  | .ask _ => Planner.refuse (.unsupportedForm "ask")
  | .minus _ => Planner.refuse (.unsupportedNode "minus")
  | .graph _ _ => Planner.refuse (.unsupportedNode "graph")

/-- The clauses of the nodes of a group. -/
def clauses : List Algebra → List Clause
  | [] => []
  | a :: rest => clauseOf a (stage a) :: clauses rest

/-- The stages of alternatives, which do not keep rows that they do not extend. -/
def branches : List Algebra → Planner (List Stage)
  | [] => pure []
  | a :: rest => do
    let branch ← (stage a).withOptional false
    let others ← branches rest
    pure (branch :: others)

end

/-- The query with its aggregates in its groupings. -/
def lifted (a : Algebra) : Planner Algebra := Planner.naming fun n => .ok (a.liftAggregates n)

/-- The patterns that describe terms: all triples about each of them. -/
def descriptions : List TermPattern → Planner (List TriplePattern)
  | [] => pure []
  | t :: rest => do
    let predicate ← Planner.fresh
    let object ← Planner.fresh
    let others ← descriptions rest
    pure (⟨t, .plain (.variable predicate), .variable object⟩ :: others)

/-- The plan of a whole query. -/
def query (a : Algebra) : Planner QueryPlan :=
  match a with
  | .construct template input => do
    let source ← stage (← lifted input)
    pure (.triples (.ofTemplate template source.fromEmptyRow))
  | .describe terms input => do
    -- The variables of the description are drawn before those of the query.
    let template ← descriptions terms
    let described := Algebra.union (template.map fun t => .bgp [t])
    let source ← stage (.join [← lifted input, described])
    pure (.triples (.ofTemplate template source.fromEmptyRow))
  | .ask input => do
    let source ← stage (← lifted input)
    pure (.truth source.fromEmptyRow)
  | select => do
    let source ← stage (← lifted select)
    pure (.solutions source.fromEmptyRow)

end Plan

end PagedSparql
