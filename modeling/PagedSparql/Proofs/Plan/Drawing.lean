import PagedSparql.Proofs.Plan.FreshNames
import PagedSparql.Proofs.Plan.Planned

/-!
# What planning draws

Planning takes down every fresh variable that it is given: after it the naming is later than before
(`Plan.draws_query`), which means that its source has given out some variables and that just these
were added to those taken down. This holds of lifting, of the resolution of paths and of each
planner. A service begins with nothing taken down, and what was taken down in it is put behind what
was taken down before.
-/

namespace PagedSparql

variable {α β : Type}

/-! ## Lifting -/

namespace Lifting

/-- The variable of an aggregate may be drawn. -/
theorem later_bind (a : Aggregate) (wanted? : Option Variable) (l : Lifter) :
    l.naming.Later (bind a wanted? l).2.naming := by
  unfold bind
  split
  · exact .refl _
  · split
    · exact .refl _
    · exact Naming.later_draw _

mutual

/-- Aggregates in an expression draw variables. -/
theorem later_replace : (e : Expression) → (l : Lifter) → l.naming.Later (replace e l).2.naming
  | .leaf _, _ => by
    rw [replace]
    exact .refl _
  | .call _ args, l => by
    rw [replace]
    exact later_replaceAll args l
  | .aggregate _ _ _ _, l => by
    rw [replace]
    exact later_bind _ none l

/-- Aggregates in expressions draw variables. -/
theorem later_replaceAll : (es : List Expression) → (l : Lifter) →
    l.naming.Later (replaceAll es l).2.naming
  | [], _ => by
    rw [replaceAll]
    exact .refl _
  | e :: rest, l => by
    rw [replaceAll]
    exact (later_replace e l).trans (later_replaceAll rest _)

end

/-- Aggregates in a column draw variables. -/
theorem later_liftColumn (c : Column) (l : Lifter) : l.naming.Later (liftColumn c l).2.naming := by
  unfold liftColumn
  split
  · exact .refl _
  · split
    · exact later_bind _ _ l
    · exact later_replace _ l

/-- Aggregates in columns draw variables. -/
theorem later_liftColumns (columns : List Column) (l : Lifter) :
    l.naming.Later (liftColumns columns l).2.naming := by
  induction columns generalizing l with
  | nil => exact .refl _
  | cons c rest ih => exact (later_liftColumn c l).trans (ih _)

/-- Aggregates in sort keys draw variables. -/
theorem later_liftConditions (conditions : List OrderCondition) (l : Lifter) :
    l.naming.Later (liftConditions conditions l).2.naming := by
  induction conditions generalizing l with
  | nil => exact .refl _
  | cons c rest ih => exact (later_replace c.expression l).trans (ih _)

mutual

/-- Lifting draws variables. -/
theorem later_lift : (a : Algebra) → (l : Lifter) → l.naming.Later (lift a l).2
  | .slice input _ _, l => by
    rw [lift]
    exact later_lift input l
  | .distinct input, l => by
    rw [lift]
    exact later_lift input l
  | .project input columns, l => by
    rw [lift]
    exact (later_liftColumns columns l).trans (later_lift input _)
  | .orderBy input conditions, l => by
    rw [lift]
    exact (later_liftConditions conditions l).trans (later_lift input _)
  | .having input condition, l => by
    rw [lift]
    exact (later_replace condition l).trans (later_lift input _)
  | .groupBy input _ _, l => by
    rw [lift]
    exact later_lift input ⟨[], l.naming⟩
  | .join patterns, l => by
    rw [lift]
    exact later_liftAll patterns l.naming
  | .leftJoin patterns, l => by
    rw [lift]
    exact later_liftAll patterns l.naming
  | .union patterns, l => by
    rw [lift]
    exact later_liftAll patterns l.naming
  | .service _ _ patterns, l => by
    rw [lift]
    exact later_liftAll patterns l.naming
  | .bgp _, _ => .refl _
  | .filter _, _ => .refl _
  | .bind _ _, _ => .refl _
  | .values _, _ => .refl _
  | .construct _ _, _ => .refl _
  | .describe _ _, _ => .refl _
  | .ask _, _ => .refl _
  | .minus _, _ => .refl _
  | .graph _ _, _ => .refl _

/-- Lifting draws variables. -/
theorem later_liftAll : (patterns : List Algebra) → (n : Naming) →
    n.Later (liftAll patterns n).2
  | [], _ => by
    rw [liftAll]
    exact .refl _
  | a :: rest, n => by
    rw [liftAll]
    exact (later_lift a ⟨[], n⟩).trans (later_liftAll rest _)

end

end Lifting

/-! ## Paths -/

namespace Paths

/-- A chain draws variables. -/
theorem later_chain (object subject : TermPattern) (items : List Predicate) (n : Naming) :
    n.Later (chain object subject items n).2 := by
  induction items generalizing subject n with
  | nil => exact .refl _
  | cons item rest ih =>
    cases rest with
    | nil => exact .refl _
    | cons next rest => exact (Naming.later_draw n).trans (ih _ _)

/-- Resolving paths draws variables. -/
theorem later_resolve {ready todo : Bgp} {n n' : Naming} {p : PathFree}
    (h : resolve ready todo n = .ok (p, n')) : n.Later n' := by
  refine resolve_ok_induct (P := fun _ _ n _ n' => n.Later n')
    (E := fun _ _ _ _ _ n _ n' => n.Later n')
    ?done ?plain ?sequence ?inverse ?negated ?alternative ?noBranch ?branch h
  case done => exact fun ready n => .refl n
  case plain => exact fun ready n subject q object rest p n' ih => ih
  case sequence =>
    exact fun ready n subject items object rest p n' _ ih =>
      (later_chain object subject items n).trans ih
  case inverse => exact fun ready n subject item object rest p n' ih => ih
  case negated =>
    exact fun ready n subject items object rest conditions p n' _ _ ih =>
      (Naming.later_draw n).trans ih
  case alternative => exact fun ready n subject items object rest ps n' ih => ih
  case noBranch => exact fun ready n subject object rest => .refl n
  case branch =>
    exact fun ready n subject object rest item items p n₁ ps n' _ ih _ ihs => ih.trans ihs

end Paths

/-! ## Planners -/

namespace Planner

/-- The computation takes down what it draws. -/
def Draws (p : Planner α) : Prop :=
  ∀ scope n a n', p scope n = .ok (a, n') → n.naming.Later n'.naming

variable {p : Planner α} {f : α → Planner β} {scope : Scope} {n n' : PlanState}

/-- What planning has changed is looked at. -/
theorem get_inv {s : PlanState} (h : (get : Planner PlanState) scope n = .ok (s, n')) :
    n = s ∧ n = n' := by
  have h' : (Except.ok (n, n) : Except QueryError (PlanState × PlanState)) = .ok (s, n') := h
  simpa using h'

/-- What planning changes is replaced. -/
theorem set_inv {s : PlanState} {u : PUnit} (h : (set s : Planner PUnit) scope n = .ok (u, n')) :
    s = n' := by
  have h' : (Except.ok (⟨⟩, s) : Except QueryError (PUnit × PlanState)) = .ok (u, n') := h
  simpa using h'

/-- What planning changes is changed. -/
theorem modify_inv {g : PlanState → PlanState} {u : PUnit}
    (h : (modify g : Planner PUnit) scope n = .ok (u, n')) : g n = n' := by
  have h' : (Except.ok (⟨⟩, g n) : Except QueryError (PUnit × PlanState)) = .ok (u, n') := h
  simpa using h'

/-- A given result draws nothing. -/
theorem draws_pure (a : α) : (pure a : Planner α).Draws := by
  intro scope n b n' h
  obtain ⟨-, rfl⟩ := pure_inv h
  exact .refl _

/-- Two computations in a row. -/
theorem Draws.bind (hp : p.Draws) (hf : ∀ a, (f a).Draws) : (p >>= f).Draws := by
  intro scope n b n' h
  obtain ⟨a, n₁, ha, hb⟩ := bind_inv h
  exact (hp _ _ _ _ ha).trans (hf a _ _ _ _ hb)

/-- A computation whose result is changed. -/
theorem Draws.map (hp : p.Draws) (g : α → β) : (do return g (← p) : Planner β).Draws :=
  hp.bind fun a => draws_pure (g a)

/-- No result at all. -/
theorem draws_refuse (e : BuildError) : (refuse e : Planner α).Draws :=
  fun _ _ _ _ h => (refuse_inv h).elim

/-- A computation that does not plan draws nothing. -/
theorem draws_ofExcept (x : Except BuildError α) : (ofExcept x).Draws := by
  intro scope n a n' h
  obtain ⟨-, rfl⟩ := ofExcept_inv h
  exact .refl _

/-- Where planning stands is looked at. -/
theorem draws_read : (read : Planner Scope).Draws := by
  intro scope n scope' n' h
  have h' : (Except.ok (scope, n) : Except QueryError (Scope × PlanState)) = .ok (scope', n') := h
  obtain ⟨-, rfl⟩ := Prod.mk.inj (Except.ok.inj h')
  exact .refl _

/-- What was taken down is looked at. -/
theorem draws_drawn : drawn.Draws := by
  intro scope n vs n' h
  obtain ⟨s, n₁, hget, h⟩ := bind_inv h
  obtain ⟨-, rfl⟩ := pure_inv h
  obtain ⟨-, rfl⟩ := get_inv hget
  exact .refl _

/-- A fresh variable is taken down. -/
theorem draws_fresh : Planner.fresh.Draws := by
  intro scope n v n' h
  have hfresh : Planner.fresh scope n = .ok (n.naming.draw.1, { n with naming := n.naming.draw.2 }) :=
    rfl
  rw [hfresh] at h
  obtain ⟨-, rfl⟩ := Prod.mk.inj (Except.ok.inj h)
  exact Naming.later_draw _

/-- A computation that draws variables. -/
theorem draws_naming {g : Naming → Except BuildError (α × Naming)}
    (hg : ∀ n a n', g n = .ok (a, n') → n.Later n') : (naming g).Draws := by
  intro scope n a n' h
  obtain ⟨s, n₁, hget, h⟩ := bind_inv h
  obtain ⟨⟨b, names⟩, n₂, hb, h⟩ := bind_inv h
  obtain ⟨_, n₃, hset, h⟩ := bind_inv h
  obtain ⟨-, rfl⟩ := pure_inv h
  obtain ⟨rfl, rfl⟩ := get_inv hget
  obtain rfl := set_inv hset
  exact hg _ _ _ (ofExcept_inv hb).1

/-- A computation inside or outside of an optional group. -/
theorem Draws.withOptional (hp : p.Draws) (optional : Bool) : (p.withOptional optional).Draws :=
  fun _ _ _ _ h => hp _ _ _ _ h

/-- A client is opened unless there is one, and nothing else changes. -/
theorem openClient_inv {address : String} {u : Unit}
    (h : openClient address scope n = .ok (u, n')) :
    address ∈ n.clients ∧ n' = n ∨
      address ∉ n.clients ∧ scope.connect address = .ok () ∧
        n' = { n with clients := n.clients ++ [address] } := by
  obtain ⟨scope', n₁, hread, h⟩ := bind_inv h
  obtain ⟨s, n₂, hget, h⟩ := bind_inv h
  have hread' : (Except.ok (scope, n) : Except QueryError (Scope × PlanState)) =
      .ok (scope', n₁) := hread
  obtain ⟨rfl, rfl⟩ := Prod.mk.inj (Except.ok.inj hread')
  obtain ⟨rfl, rfl⟩ := get_inv hget
  split at h
  · next hmem =>
    obtain ⟨-, rfl⟩ := pure_inv h
    exact .inl ⟨by simpa using hmem, rfl⟩
  · next hmem =>
    cases hconnect : scope.connect address with
    | ok =>
      rw [hconnect] at h
      exact .inr ⟨by simpa using hmem, rfl, (set_inv h).symm⟩
    | error e =>
      rw [hconnect] at h
      have h' : (Except.error (.transport e) : Except QueryError (PUnit × PlanState)) =
          .ok (u, n') := h
      exact absurd h' (by simp)

/-- A service is planned with a client of its own and with nothing taken down, and what was taken
down before comes back in front of what it draws. -/
theorem service_steps {address : String} {a : α} (h : service address p scope n = .ok (a, n')) :
    ∃ n₁ n₂, openClient address scope n = .ok ((), n₁) ∧
      p { scope with address, graph := address } ⟨⟨n₁.naming.names, []⟩, n₁.clients⟩ =
        .ok (a, n₂) ∧
      n' = ⟨⟨n₂.naming.names, n₁.naming.drawn ++ n₂.naming.drawn⟩, n₂.clients⟩ := by
  obtain ⟨_, n₁, hopen, h⟩ := bind_inv h
  obtain ⟨before, n₂, hbefore, h⟩ := bind_inv h
  obtain ⟨_, n₃, hempty, h⟩ := bind_inv h
  obtain ⟨b, n₄, hinner, h⟩ := bind_inv h
  obtain ⟨_, n₅, hafter, h⟩ := bind_inv h
  obtain ⟨rfl, rfl⟩ := pure_inv h
  obtain ⟨s, n₆, hget, hbefore⟩ := bind_inv hbefore
  obtain ⟨rfl, rfl⟩ := pure_inv hbefore
  obtain ⟨rfl, rfl⟩ := get_inv hget
  obtain rfl := modify_inv hempty
  obtain rfl := modify_inv hafter
  exact ⟨n₁, n₄, hopen, hinner, rfl⟩

/-- A client is opened without drawing anything. -/
theorem draws_openClient (address : String) : (openClient address).Draws := by
  intro scope n u n' h
  obtain ⟨-, rfl⟩ | ⟨-, -, rfl⟩ := openClient_inv h
  · exact .refl _
  · exact .refl _

/-- What a service draws is taken down behind what was taken down before. -/
theorem Draws.service (hp : p.Draws) (address : String) : (Planner.service address p).Draws := by
  intro scope n a n' h
  obtain ⟨n₁, n₂, hopen, hinner, rfl⟩ := service_steps h
  have hbegin : n.naming.Later n₁.naming := draws_openClient address _ _ _ _ hopen
  have hend : (⟨n₁.naming.names, []⟩ : Naming).Later n₂.naming := hp _ _ _ _ hinner
  exact hbegin.trans (hend.append n₁.naming.drawn)

/-- A list of results. -/
theorem draws_mapM {g : α → Planner β} {items : List α} (hg : ∀ a ∈ items, (g a).Draws) :
    (items.mapM g).Draws := by
  induction items with
  | nil =>
    rw [List.mapM_nil]
    exact draws_pure _
  | cons a rest ih =>
    obtain ⟨ha, hrest⟩ := List.forall_mem_cons.1 hg
    rw [List.mapM_cons]
    exact ha.bind fun b => (ih hrest).bind fun bs => draws_pure _

end Planner

/-! ## Clauses and nodes -/

namespace Plan

open Planner

/-- A blank node may be given a variable. -/
theorem draws_blankToVariable (p : TermPattern) (labels : List (String × Variable)) :
    (blankToVariable p labels).Draws := by
  unfold blankToVariable
  split
  · split
    · exact draws_pure _
    · exact draws_fresh.bind fun v => draws_pure _
  · exact draws_pure _

/-- Blank nodes are given variables. -/
theorem draws_blanksToVariables (triples : List TriplePattern) (labels : List (String × Variable)) :
    (blanksToVariables labels triples).Draws := by
  induction triples generalizing labels with
  | nil => exact draws_pure _
  | cons t rest ih =>
    exact (draws_blankToVariable _ _).bind fun subject => (draws_blankToVariable _ _).bind
      fun object => (ih _).bind fun rest => draws_pure _

/-- A basic graph pattern draws variables for its blank nodes and paths, and its tag. -/
theorem draws_triplesStage (triples : List TriplePattern) : (triplesStage triples).Draws := by
  unfold triplesStage
  split
  · exact draws_pure _
  · refine (draws_blanksToVariables triples []).bind fun triples => ?_
    refine (draws_naming fun n pattern n' => Paths.later_resolve).bind
      fun pattern => draws_read.bind fun scope => ?_
    split
    · exact draws_fresh.bind fun tag => draws_pure _
    · exact draws_pure _

/-- The clauses of a group draw variables if those that were planned before do. -/
theorem draws_clausesStage {clauses : List Clause}
    (hclauses : ∀ plan, Clause.other plan ∈ clauses → plan.Draws) (rows : List Row) :
    (clausesStage rows clauses).Draws := by
  induction clauses generalizing rows with
  | nil => exact draws_pure _
  | cons clause rest ih =>
    have hrest : ∀ rows, (clausesStage rows rest).Draws :=
      ih fun plan hplan => hclauses plan (List.mem_cons_of_mem _ hplan)
    cases clause with
    | values inline =>
      exact (draws_mapM fun row _ => (hrest (rows ++ [row])).map _).map _
    | triples triples => exact (draws_triplesStage _).bind fun upper => (hrest rows).map _
    | filter condition => exact (hrest rows).map _
    | other plan =>
      exact (hclauses plan List.mem_cons_self).bind fun upper => (hrest rows).map _

/-- A group draws variables if its clauses that were planned before do. -/
theorem draws_groupStage {clauses : List Clause}
    (hclauses : ∀ plan, Clause.other plan ∈ clauses → plan.Draws) :
    (groupStage clauses).Draws := by
  refine draws_clausesStage (fun plan hplan => ?_) []
  rcases Arrangement.mem_arrange hplan with hplan | ⟨triples, htriples⟩
  · exact hclauses plan hplan
  · exact absurd htriples (by simp [Arrangeable.ofTriples])

/-- Group keys without a name draw one. -/
theorem draws_groupKeys (keys : List GroupKey) : (groupKeys keys).Draws := by
  have hkey : ∀ key : GroupKey, (groupKey key).Draws := by
    intro key
    unfold groupKey
    split
    · exact draws_pure _
    · split
      · exact draws_pure _
      · exact draws_pure _
    · exact draws_pure _
    · exact draws_fresh.bind fun v => draws_pure _
  induction keys with
  | nil => exact draws_pure _
  | cons key rest ih =>
    exact (hkey key).bind fun upper => ih.bind fun lower => draws_pure _

/-- A clause that is planned before the others draws what its node does. -/
theorem draws_clauseOf {a : Algebra} {planned plan : Planner Stage} (hplanned : planned.Draws)
    (h : clauseOf a planned = .other plan) : plan.Draws := by
  unfold clauseOf at h
  split at h
  · exact absurd h (by simp)
  · exact absurd h (by simp)
  · exact absurd h (by simp)
  · split at h
    · obtain rfl := Clause.other.inj h
      exact (hplanned.withOptional false).map _
    · obtain rfl := Clause.other.inj h
      exact hplanned

mutual

/-- Planning a node takes down what it draws. -/
theorem draws_stage (a : Algebra) : (stage a).Draws := by
  match a with
  | .join patterns => exact (draws_groupStage (draws_clauses patterns)).withOptional false
  | .leftJoin patterns => exact (draws_groupStage (draws_clauses patterns)).withOptional true
  | .bgp triples => exact draws_triplesStage triples
  | .filter condition => exact draws_pure _
  | .bind v e => exact draws_pure _
  | .values rows => exact draws_clausesStage (by simp) []
  | .union patterns => exact (draws_branches patterns).map _
  | .service name silent patterns =>
    exact (draws_ofExcept _).bind fun address =>
      (draws_groupStage (draws_clauses patterns)).service address
  | .groupBy input keys aggregates =>
    exact (draws_stage input).bind fun source => (draws_groupKeys keys).bind
      fun binds => (draws_ofExcept _).bind fun folds => draws_pure _
  | .having input condition => exact (draws_stage input).map _
  | .project input columns =>
    exact (draws_stage input).bind fun source => draws_drawn.bind fun hidden => draws_pure _
  | .orderBy input conditions => exact (draws_stage input).map _
  | .distinct input => exact (draws_stage input).map _
  | .slice input offset limit => exact (draws_stage input).map _
  | .construct _ _ => exact draws_refuse _
  | .describe _ _ => exact draws_refuse _
  | .ask _ => exact draws_refuse _
  | .minus _ => exact draws_refuse _
  | .graph _ _ => exact draws_refuse _

/-- Planning the clauses of a group takes down what it draws. -/
theorem draws_clauses (patterns : List Algebra) (plan : Planner Stage)
    (h : Clause.other plan ∈ clauses patterns) : plan.Draws := by
  match patterns with
  | [] => exact absurd h List.not_mem_nil
  | a :: rest =>
    rcases List.mem_cons.1 h with h | h
    · exact draws_clauseOf (draws_stage a) h.symm
    · exact draws_clauses rest plan h

/-- Planning alternatives takes down what it draws. -/
theorem draws_branches (patterns : List Algebra) : (branches patterns).Draws := by
  match patterns with
  | [] => exact draws_pure _
  | a :: rest =>
    exact ((draws_stage a).withOptional false).bind fun branch =>
      (draws_branches rest).bind fun others => draws_pure _

end

/-- Lifting takes down what it draws. -/
theorem draws_lifted (a : Algebra) : (lifted a).Draws :=
  draws_naming fun n b n' h => by
    obtain ⟨-, rfl⟩ := Prod.mk.inj (Except.ok.inj h)
    exact Lifting.later_lift a ⟨[], n⟩

/-- The patterns that describe terms draw two variables each. -/
theorem draws_descriptions (terms : List TermPattern) : (descriptions terms).Draws := by
  induction terms with
  | nil => exact draws_pure _
  | cons t rest ih =>
    exact draws_fresh.bind fun predicate => draws_fresh.bind fun object =>
      ih.bind fun others => draws_pure _

/-- **Planning takes down all that it draws.** -/
theorem draws_query (a : Algebra) : (query a).Draws := by
  have hselect : ∀ input : Algebra, ∀ f : Stage → QueryPlan,
      (do return f (← stage (← lifted input)) : Planner QueryPlan).Draws :=
    fun input f => (draws_lifted input).bind fun b => (draws_stage b).map f
  unfold query
  split
  · exact hselect _ _
  · exact (draws_descriptions _).bind fun template => (draws_lifted _).bind
      fun b => (draws_stage _).bind fun source => draws_pure _
  · exact hselect _ _
  · exact hselect _ _

end Plan

end PagedSparql
