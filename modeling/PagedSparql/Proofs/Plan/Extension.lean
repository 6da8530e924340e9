import PagedSparql.Proofs.Pipeline.Growing
import PagedSparql.Proofs.Plan.GroupSolutions
import PagedSparql.Proofs.Plan.InterruptedPatterns

/-!
# Patterns only extend

A pattern makes other rows of those to its left only by extending them. This is so for basic graph
patterns, inline rows, conditions, groups and alternatives, optional or at an endpoint of their own.
A query inside a group is joined with the rows to its left, whatever it makes of its own rows; but
an alternative that is a query takes these rows in itself, so it must not change them
(`Algebra.isGrowing`).

The plan of such a node hands on only rows that extend one of the rows that come in, whatever the
endpoints answer (`Plan.extends_upstream`). The projection of an alternative that is a query drops
what the rows to its left bind (`Plan.projecting_alternative`).
-/

namespace PagedSparql

variable {σ α β : Type} {net : Network σ} {now : DateTime} {P : Row → Prop} {U W : List Row}

namespace Algebra

mutual

/-- The node makes other rows of those to its left only by extending them. -/
def isGrowing : Algebra → Bool
  | .bgp _ => true
  | .filter _ => true
  | .values _ => true
  | .join patterns => allClausesGrow patterns
  | .leftJoin patterns => allClausesGrow patterns
  | .service _ _ patterns => allClausesGrow patterns
  | .union patterns => allGrow patterns
  | .having input _ => input.isGrowing
  | .orderBy input _ => input.isGrowing
  | .distinct input => input.isGrowing
  | .slice input _ _ => input.isGrowing
  | _ => false

/-- The clauses of a group make other rows only by extending them. Queries among them do, since they
are joined with the rows to their left. -/
def allClausesGrow : List Algebra → Bool
  | [] => true
  | a :: rest => (Plan.isSubquery a || a.isGrowing) && allClausesGrow rest

/-- All of the nodes make other rows only by extending them. -/
def allGrow : List Algebra → Bool
  | [] => true
  | a :: rest => a.isGrowing && allGrow rest

end

end Algebra

namespace Stage

/-- Stages grow rows, one above the other. -/
theorem Grows.andThen {upper lower : Stage} (hupper : upper.Grows P) (hlower : lower.Grows P) :
    (upper.andThen lower).Grows P := by
  rcases Stage.andThen_cases upper lower with ⟨-, heq⟩ | ⟨-, heq⟩ | heq
  · rwa [heq]
  · rwa [heq]
  · rw [heq]
    exact .chain hupper hlower

/-- Stages grow rows, one beside the other. -/
theorem Grows.forkOf {branches : List Stage} (h : ∀ b ∈ branches, b.Grows P) :
    (Stage.forkOf branches).Grows P := .fork (by simp [Tee.ofReaders]) h

end Stage

namespace Planner

variable {p : Planner α} {f : α → Planner β} {Q : α → Prop} {R : β → Prop}

/-- Planning gives something of a kind, if a property of rows is not about the variables that may
still be drawn. -/
def Apart (P : Row → Prop) (p : Planner α) (Q : α → Prop) : Prop :=
  ∀ scope n a n', p scope n = .ok (a, n') →
    n.naming.Later n'.naming ∧ ((∀ v ∈ n.naming.names.Ahead, Row.Ignores P v) → Q a)

/-- What is always given is given then. -/
theorem Gives.apart (hp : p.Gives Q) (hdraws : p.Draws) : p.Apart P Q :=
  fun _ _ _ _ h => ⟨hdraws _ _ _ _ h, fun _ => hp _ _ _ _ h⟩

/-- The result is given. -/
theorem apart_pure {a : α} (h : Q a) : (pure a : Planner α).Apart P Q :=
  (gives_pure h).apart (draws_pure a)

/-- A computation whose result matters only for what comes after it. -/
theorem Draws.apart (hp : p.Draws) : p.Apart P fun _ => True :=
  fun _ _ _ _ h => ⟨hp _ _ _ _ h, fun _ => trivial⟩

/-- Two computations in a row. -/
theorem Apart.bind (hp : p.Apart P Q) (hf : ∀ a, (f a).Apart P fun b => Q a → R b) :
    (p >>= f).Apart P R := by
  intro scope n b n' h
  obtain ⟨a, n₁, ha, hb⟩ := bind_inv h
  obtain ⟨hlater, hQ⟩ := hp _ _ _ _ ha
  obtain ⟨hlater', hR⟩ := hf a _ _ _ _ hb
  exact ⟨hlater.trans hlater',
    fun hahead => hR (fun v hv => hahead v (hlater.ahead_subset hv)) (hQ hahead)⟩

/-- A computation whose result is changed. -/
theorem Apart.map (hp : p.Apart P Q) {g : α → β} (hg : ∀ {a}, Q a → R (g a)) :
    (do return g (← p) : Planner β).Apart P R :=
  hp.bind fun _ => apart_pure hg

/-- A property that is not about the variables that may be drawn is not about the one that is. -/
theorem apart_fresh : Planner.fresh.Apart P (Row.Ignores P) := by
  intro scope n v n' h
  refine ⟨draws_fresh _ _ _ _ h, fun hahead => hahead v ?_⟩
  have hfresh : Planner.fresh scope n = .ok (n.naming.draw.1, { n with naming := n.naming.draw.2 }) :=
    rfl
  rw [hfresh] at h
  obtain ⟨rfl, -⟩ := Prod.mk.inj (Except.ok.inj h)
  exact ⟨0, rfl⟩

/-- A computation inside or outside of an optional group. -/
theorem Apart.withOptional (hp : p.Apart P Q) (optional : Bool) :
    (p.withOptional optional).Apart P Q :=
  fun _ _ _ _ h => hp _ _ _ _ h

/-- A computation at an endpoint. -/
theorem Apart.service (hp : p.Apart P Q) (address : String) :
    (Planner.service address p).Apart P Q := by
  intro scope n a n' h
  obtain ⟨n₁, n₂, hopen, hinner, -⟩ := service_steps h
  refine ⟨Draws.service (fun _ _ _ _ h => (hp _ _ _ _ h).1) address _ _ _ _ h, fun hahead => ?_⟩
  have hlater := draws_openClient address _ _ _ _ hopen
  exact (hp _ _ _ _ hinner).2 fun v hv => hahead v (hlater.ahead_subset hv)

/-- A list of results. -/
theorem apart_mapM {g : α → Planner β} {items : List α} (hg : ∀ a ∈ items, (g a).Apart P R) :
    (items.mapM g).Apart P fun bs => ∀ b ∈ bs, R b := by
  induction items with
  | nil =>
    rw [List.mapM_nil]
    exact apart_pure (by simp)
  | cons a rest ih =>
    obtain ⟨ha, hrest⟩ := List.forall_mem_cons.1 hg
    rw [List.mapM_cons]
    exact ha.bind fun b => (ih hrest).bind fun bs =>
      apart_pure fun hbs hb => List.forall_mem_cons.2 ⟨hb, hbs⟩

/-- Planning gives a stage that grows rows. -/
abbrev Growing (P : Row → Prop) (p : Planner Stage) : Prop := p.Apart P fun st => st.Grows P

/-- One stage above another. -/
theorem Apart.andThen {p q : Planner Stage} (hp : p.Growing P) (hq : q.Growing P) :
    (do return (← p).andThen (← q) : Planner Stage).Growing P :=
  hp.bind fun _ => hq.bind fun _ => apart_pure fun hlower hupper => hupper.andThen hlower

end Planner

namespace Plan

open Planner

/-- A basic graph pattern only extends. -/
theorem growing_triplesStage (triples : List TriplePattern) : (triplesStage triples).Growing P := by
  unfold triplesStage
  split
  · exact apart_pure .input
  · refine (draws_blanksToVariables triples []).apart.bind fun triples => ?_
    refine (draws_naming fun n pattern n' => Paths.later_resolve).apart.bind
      fun pattern => draws_read.apart.bind fun scope => ?_
    have hpattern : ∀ scope, (pathFreeStage scope pattern).Grows P :=
      fun scope => (PathFree.carries_pathFreeStage scope pattern).grows
    split
    · exact apart_fresh.bind fun tag => apart_pure fun htag _ _ _ =>
        .optional htag (hpattern _) (by simp) nofun
    · exact apart_pure fun _ _ _ => hpattern scope

/-- The clauses of a group only extend if those that were planned before do. -/
theorem growing_clausesStage {clauses : List Clause}
    (hclauses : ∀ plan, Clause.other plan ∈ clauses → plan.Growing P) (rows : List Row) :
    (clausesStage rows clauses).Growing P := by
  induction clauses generalizing rows with
  | nil => exact apart_pure .input
  | cons clause rest ih =>
    have hrest : ∀ rows, (clausesStage rows rest).Growing P :=
      ih fun plan hplan => hclauses plan (List.mem_cons_of_mem _ hplan)
    cases clause with
    | values inline =>
      have hbranches := apart_mapM (R := fun st : Stage => st.Grows P) fun row (_ : row ∈ inline) =>
        (hrest (rows ++ [row])).map fun h => Stage.Grows.andThen (.values row) h
      exact hbranches.map Stage.Grows.forkOf
    | triples triples => exact (growing_triplesStage _).andThen (hrest rows)
    | filter condition =>
      exact (hrest rows).map fun h => Stage.Grows.andThen (.filter condition) h
    | other plan => exact (hclauses plan List.mem_cons_self).andThen (hrest rows)

/-- A group only extends if its clauses that were planned before do. -/
theorem growing_groupStage {clauses : List Clause}
    (hclauses : ∀ plan, Clause.other plan ∈ clauses → plan.Growing P) :
    (groupStage clauses).Growing P := by
  refine growing_clausesStage (fun plan hplan => ?_) []
  rcases Arrangement.mem_arrange hplan with hplan | ⟨triples, htriples⟩
  · exact hclauses plan hplan
  · exact absurd htriples (by simp [Arrangeable.ofTriples])

/-- A clause only extends if it is a query of its own or its node only extends. -/
theorem growing_clauseOf {a : Algebra} {planned plan : Planner Stage} (hdraws : planned.Draws)
    (hplanned : isSubquery a = false → planned.Growing P) (h : clauseOf a planned = .other plan) :
    plan.Growing P := by
  unfold clauseOf at h
  split at h
  · exact absurd h (by simp)
  · exact absurd h (by simp)
  · exact absurd h (by simp)
  · split at h
    · obtain rfl := Clause.other.inj h
      exact (hdraws.withOptional false).apart.map fun _ => .nested .input nofun
    · next hsub =>
      obtain rfl := Clause.other.inj h
      exact hplanned (by simpa using hsub)

mutual

/-- A node that grows rows is planned as a stage that does. -/
theorem growing_stage (a : Algebra) (ha : a.isGrowing = true) : (stage a).Growing P := by
  match a with
  | .join patterns =>
    rw [Algebra.isGrowing] at ha
    exact (growing_groupStage (growing_clauses patterns ha)).withOptional false
  | .leftJoin patterns =>
    rw [Algebra.isGrowing] at ha
    exact (growing_groupStage (growing_clauses patterns ha)).withOptional true
  | .bgp triples => exact growing_triplesStage triples
  | .filter condition => exact apart_pure (.filter condition)
  | .values rows => exact growing_clausesStage (by simp) []
  | .union patterns =>
    rw [Algebra.isGrowing] at ha
    exact (growing_branches patterns ha).map Stage.Grows.forkOf
  | .service name silent patterns =>
    rw [Algebra.isGrowing] at ha
    refine (draws_ofExcept _).apart.bind fun address => ?_
    intro scope n st n' h
    have hgroup := (growing_groupStage (growing_clauses patterns ha)).service address
    exact (hgroup scope n st n' h).imp_right fun hst hahead _ => hst hahead
  | .having input condition =>
    rw [Algebra.isGrowing] at ha
    exact (growing_stage input ha).map fun h => h.andThen (.filter condition)
  | .orderBy input conditions =>
    rw [Algebra.isGrowing] at ha
    exact (growing_stage input ha).map fun h => h.andThen (.sort (by simp) nofun)
  | .distinct input =>
    rw [Algebra.isGrowing] at ha
    exact (growing_stage input ha).map fun h => h.andThen (.distinct [])
  | .slice input offset limit =>
    rw [Algebra.isGrowing] at ha
    exact (growing_stage input ha).map fun h => h.andThen (.slice _ _)

/-- The clauses of a group that grow rows are planned as stages that do. -/
theorem growing_clauses (patterns : List Algebra)
    (ha : Algebra.allClausesGrow patterns = true) (plan : Planner Stage)
    (h : Clause.other plan ∈ clauses patterns) : plan.Growing P := by
  match patterns with
  | [] => exact absurd h List.not_mem_nil
  | a :: rest =>
    rw [Algebra.allClausesGrow, Bool.and_eq_true, Bool.or_eq_true] at ha
    rcases List.mem_cons.1 h with h | h
    · refine growing_clauseOf (draws_stage a) (fun hsub => growing_stage a ?_) h.symm
      exact ha.1.resolve_left (by simp [hsub])
    · exact growing_clauses rest ha.2 plan h

/-- Alternatives that grow rows are planned as stages that do. -/
theorem growing_branches (patterns : List Algebra) (ha : Algebra.allGrow patterns = true) :
    (branches patterns).Apart P fun stages => ∀ st ∈ stages, st.Grows P := by
  match patterns with
  | [] => exact apart_pure (by simp)
  | a :: rest =>
    rw [Algebra.allGrow, Bool.and_eq_true] at ha
    exact ((growing_stage a ha.1).withOptional false).bind fun branch =>
      (growing_branches rest ha.2).bind fun others =>
        apart_pure fun hothers hbranch => List.forall_mem_cons.2 ⟨hbranch, hothers⟩

end

/-- **Patterns only extend.** Whatever rows come in, as long as they bind no variable that is still
to be drawn, and whatever the endpoints answer: every row that the plan of a node that grows rows
hands on, in any number of steps, binds all that one of these rows binds, to the same terms. -/
theorem extends_upstream {a : Algebra} (ha : a.isGrowing = true) {scope : Scope} {n n' : PlanState}
    {st st' : Stage} (h : stage a scope n = .ok (st, n')) (hU : Fresh n U) {ending : Ending}
    (hW : Stage.Emits net now (Stage.andThen (.source U ending) st) W st') :
    ∀ w ∈ W, ∃ u ∈ U, w.Extends u := by
  have hahead : ∀ v ∈ n.naming.names.Ahead, Row.Ignores (Row.Extending U) v := by
    refine fun v hv => Row.ignores_extending fun u hu => Bool.eq_false_iff.2 fun hbinds => ?_
    exact Names.avoids_iff.1 (hU u hu) v hbinds hv
  have hgrows := (growing_stage a ha scope n st n' h).2 hahead
  have hsource : (Stage.source U ending).Grows (Row.Extending U) :=
    .source ending fun r hr => ⟨r, hr, .refl r⟩
  exact ((hsource.andThen hgrows).emits (Row.upward_extending U) hW).2

end Plan

namespace Sample

/-- A query for one inline term. -/
def subquery : Algebra :=
  .project (.values [.ofList [(⟨"y"⟩, some unknown)]]) [.variable ⟨"y"⟩]

/-- The stage of the query alone. -/
def subqueryStage : Stage :=
  .chain (.forkOf [.values (.ofList [(⟨"y"⟩, unknown)])]) (.project [.variable ⟨"y"⟩] [])

/-- The name of the variable to the left is reserved. -/
def withheld : PlanState := { naming := ⟨⟨0, ["x"]⟩, []⟩ }

/-- What is to the left has the reserved variable only. -/
theorem fresh_half : Plan.Fresh withheld [half] := by
  rintro u hu
  obtain rfl := List.mem_singleton.1 hu
  refine Names.avoids_of_reserved fun v hv => ?_
  obtain rfl := eq_of_binds_half hv
  exact List.mem_singleton_self _

end Sample

namespace Plan

open Sample

/-- A query in a group is joined with the row to its left. -/
theorem extends_upstream_sample : ∃ st st',
    Algebra.isGrowing (.join [subquery]) = true ∧
      stage (.join [subquery]) place withheld = .ok (st, withheld) ∧
      Stage.Emits (.ofReplies strangerReply) Sample.now (Stage.andThen (.source [half] .done) st)
        [half.insert ⟨"y"⟩ unknown] st' ∧
      ∀ w ∈ [half.insert ⟨"y"⟩ unknown], ∃ u ∈ [half], Row.Extends w u := by
  have hplan : stage (.join [subquery]) place withheld =
      .ok (.nestedOf subqueryStage.fromEmptyRow, withheld) := rfl
  obtain ⟨st', hW⟩ : ∃ st', Stage.Emits (.ofReplies strangerReply) Sample.now
      (Stage.andThen (.source [half] .done) (.nestedOf subqueryStage.fromEmptyRow))
      [half.insert ⟨"y"⟩ unknown] st' := ⟨_, Stage.Emits.start.pull (n := 12) (s := session) rfl⟩
  exact ⟨_, st', rfl, hplan, hW, extends_upstream rfl hplan fresh_half hW⟩

/-- An alternative that is a query takes the row to its left in itself, and its projection drops
what the row binds. -/
theorem projecting_alternative : ∃ st st',
    stage (.join [.union [subquery]]) place withheld = .ok (st, withheld) ∧
      Stage.Emits (.ofReplies strangerReply) Sample.now (Stage.andThen (.source [half] .done) st)
        [.ofList [(⟨"y"⟩, unknown)]] st' ∧
      ¬ Row.Extends (.ofList [(⟨"y"⟩, unknown)]) half := by
  have hplan : stage (.join [.union [subquery]]) place withheld =
      .ok (.forkOf [subqueryStage], withheld) := rfl
  obtain ⟨st', hW⟩ : ∃ st', Stage.Emits (.ofReplies strangerReply) Sample.now
      (Stage.andThen (.source [half] .done) (.forkOf [subqueryStage]))
      [.ofList [(⟨"y"⟩, unknown)]] st' := ⟨_, Stage.Emits.start.pull (n := 12) (s := session) rfl⟩
  refine ⟨_, st', hplan, hW, fun h => ?_⟩
  exact absurd (h ⟨"x"⟩ _ rfl) (by decide)

end Plan

end PagedSparql
