import PagedSparql.Proofs.Plan.ClauseMeaning
import PagedSparql.Proofs.Plan.OptionalGroups

/-!
# Which groups can be planned

Whether a basic graph pattern can be planned depends on its paths only: not on the terms between
them, on the variables that have been drawn, nor on inline rows that were put in. So whether a group
of basic graph patterns, groups, alternatives, bindings, inline rows and conditions can be planned
depends on its clauses only, and their order matters in one way: what comes after inline rows of
which there are none is not planned at all. A group that can be planned in the order of the query
can therefore be planned in the order in which its clauses are arranged (`Plan.exists_groupStage`).
-/

namespace PagedSparql

/-! ## Paths -/

namespace Paths

/-- The kind and the items of a path. -/
def path? : Predicate → Option (PathKind × List Predicate)
  | .plain _ => none
  | .path kind items => some (kind, items)

/-- A predicate that counts as a path is that path. -/
theorem path?_eq_some {p : Predicate} {kind : PathKind} {items : List Predicate}
    (h : path? p = path? (.path kind items)) : p = .path kind items := by
  cases p with
  | plain p => exact absurd h (by simp [path?])
  | path kind' items' =>
    obtain ⟨rfl, rfl⟩ := Prod.mk.inj (Option.some.inj h)
    rfl

/-- The paths of triple patterns, one after the other. -/
def pathsOf (B : Bgp) : List (Option (PathKind × List Predicate)) := B.map (path? ·.predicate)

/-- The paths of a first pattern and of the others. -/
theorem pathsOf_eq_cons {B B' : Bgp} {t : TriplePattern} (h : pathsOf B = pathsOf (t :: B')) :
    ∃ t' B₁, B = t' :: B₁ ∧ path? t'.predicate = path? t.predicate ∧ pathsOf B₁ = pathsOf B' :=
  List.map_eq_cons_iff.1 h

/-- The paths of two patterns. -/
theorem pathsOf_append (A B : Bgp) : pathsOf (A ++ B) = pathsOf A ++ pathsOf B := List.map_append

/-- The paths of triple patterns can be resolved, whatever stands beside them. -/
def Resolves (B : Bgp) : Prop := ∀ ready n, ∃ r, resolve ready B n = .ok r

variable {A B : Bgp} {v : Variable} {items : List Predicate} {conditions : List Expression}

/-- A negated set of which one variable can differ is one of which any can. -/
theorem exists_mapM_exclusion (h : items.mapM (exclusion v) = .ok conditions) (w : Variable) :
    ∃ conditions', items.mapM (exclusion w) = .ok conditions' := by
  induction items generalizing conditions with
  | nil => exact ⟨[], rfl⟩
  | cons item rest ih =>
    rw [List.mapM_cons] at h
    obtain ⟨c, hc, h⟩ := bind_inv h
    obtain ⟨cs, hcs, -⟩ := bind_inv h
    obtain ⟨conditions', hconditions⟩ := ih hcs
    have hitem : ∃ c', exclusion w item = .ok c' := by
      match item, hc with
      | .plain (.term t), _ => exact ⟨_, rfl⟩
      | .plain (.variable _), hc => exact absurd hc (by simp [exclusion])
      | .path _ _, hc => exact absurd hc (by simp [exclusion])
    obtain ⟨c', hc'⟩ := hitem
    refine ⟨c' :: conditions', ?_⟩
    rw [List.mapM_cons, hc', hconditions]
    rfl

/-- The paths of a chain are those among the items of its sequence. -/
theorem pathsOf_chain (object subject : TermPattern) (items : List Predicate) (n : Naming) :
    pathsOf (chain object subject items n).1 = items.map path? := by
  induction items generalizing subject n with
  | nil => rfl
  | cons item rest ih =>
    cases rest with
    | nil => rfl
    | cons next rest => exact congrArg (path? item :: ·) (ih _ _)

/-- **Paths that can be resolved** can be resolved between other terms, beside other patterns and in
front of others that can be. -/
theorem exists_resolve_append (hB : Resolves B) {ready todo : Bgp} {n : Naming}
    {r : PathFree × Naming} (h : resolve ready todo n = .ok r) : ∀ A : Bgp,
      pathsOf A = pathsOf todo → ∀ ready' n', ∃ r', resolve ready' (A ++ B) n' = .ok r' := by
  refine resolve_ok_induct
    (P := fun _ todo _ _ _ => ∀ A : Bgp, pathsOf A = pathsOf todo →
      ∀ ready' n', ∃ r', resolve ready' (A ++ B) n' = .ok r')
    (E := fun _ _ _ rest items _ _ _ => ∀ A : Bgp, pathsOf A = pathsOf rest →
      ∀ ready' subject' object' n',
        ∃ r', resolveEach ready' subject' object' (A ++ B) items n' = .ok r')
    ?done ?plain ?sequence ?inverse ?negated ?alternative ?noBranch ?branch h
  case done =>
    intro ready n A hA ready' n'
    obtain rfl : A = [] := List.map_eq_nil_iff.1 hA
    exact hB ready' n'
  case plain =>
    intro ready n subject q object rest _ _ ih A hA ready' n'
    obtain ⟨⟨s, p, o⟩, A, rfl, hp, hrest⟩ := pathsOf_eq_cons hA
    cases p with
    | path kind items => exact absurd hp (by simp [path?])
    | plain p =>
      rw [List.cons_append, resolve]
      exact ih A hrest _ n'
  case sequence =>
    intro ready n subject items object rest _ _ _ ih A hA ready' n'
    obtain ⟨⟨s, p, o⟩, A, rfl, hp, hrest⟩ := pathsOf_eq_cons hA
    obtain rfl : p = _ := path?_eq_some hp
    rw [List.cons_append, resolve, ← List.append_assoc]
    refine ih _ ?_ ready' _
    rw [pathsOf_append, pathsOf_append, pathsOf_chain, pathsOf_chain, hrest]
  case inverse =>
    intro ready n subject item object rest _ _ ih A hA ready' n'
    obtain ⟨⟨s, p, o⟩, A, rfl, hp, hrest⟩ := pathsOf_eq_cons hA
    obtain rfl : p = _ := path?_eq_some hp
    rw [List.cons_append, resolve]
    exact ih (⟨o, item, s⟩ :: A) (congrArg₂ List.cons rfl hrest) ready' n'
  case negated =>
    intro ready n subject items object rest conditions _ _ hconditions _ ih A hA ready' n'
    obtain ⟨⟨s, p, o⟩, A, rfl, hp, hrest⟩ := pathsOf_eq_cons hA
    obtain rfl : p = _ := path?_eq_some hp
    obtain ⟨conditions', hconditions'⟩ := exists_mapM_exclusion hconditions n'.draw.1
    obtain ⟨r', hr'⟩ := ih A hrest (ready' ++ [⟨s, .plain (.variable n'.draw.1), o⟩]) n'.draw.2
    rw [List.cons_append, resolve]
    simp only [hconditions', hr']
    exact ⟨_, rfl⟩
  case alternative =>
    intro ready n subject items object rest _ _ ih A hA ready' n'
    obtain ⟨⟨s, p, o⟩, A, rfl, hp, hrest⟩ := pathsOf_eq_cons hA
    obtain rfl : p = _ := path?_eq_some hp
    obtain ⟨r', hr'⟩ := ih A hrest ready' s o n'
    rw [List.cons_append, resolve, hr']
    exact ⟨_, rfl⟩
  case noBranch =>
    intro ready n subject object rest A _ ready' subject' object' n'
    rw [resolveEach]
    exact ⟨_, rfl⟩
  case branch =>
    intro ready n subject object rest item items _ _ _ _ _ ih _ ihs A hA ready' subject' object' n'
    obtain ⟨r', hr'⟩ := ih (⟨subject', item, object'⟩ :: A) (congrArg₂ List.cons rfl hA) ready' n'
    obtain ⟨rs', hrs'⟩ := ihs A hA ready' subject' object' r'.2
    rw [List.cons_append] at hr'
    rw [resolveEach, hr']
    show ∃ r, (resolveEach ready' subject' object' (A ++ B) items r'.2 >>= _) = .ok r
    rw [hrs']
    exact ⟨_, rfl⟩

/-- Whether paths can be resolved depends on the paths only. -/
theorem Resolves.of_resolve {ready : List TriplePattern} {n : Naming} {r : PathFree × Naming}
    (h : resolve ready B n = .ok r) (hA : pathsOf A = pathsOf B) : Resolves A := by
  have hnil : Resolves [] := fun ready n => ⟨(.flat ready [], n), by rw [resolve]⟩
  intro ready' n'
  obtain ⟨r', hr'⟩ := exists_resolve_append hnil h A hA ready' n'
  rw [List.append_nil] at hr'
  exact ⟨r', hr'⟩

/-- The same paths can be resolved. -/
theorem Resolves.congr (h : Resolves B) (hA : pathsOf A = pathsOf B) : Resolves A := by
  obtain ⟨r, hr⟩ := h [] ⟨⟨0, []⟩, []⟩
  exact .of_resolve hr hA

/-- The paths of two patterns can be resolved. -/
theorem Resolves.append (hA : Resolves A) (hB : Resolves B) : Resolves (A ++ B) := by
  intro ready n
  obtain ⟨r, hr⟩ := hA ready n
  exact exists_resolve_append hB hr A rfl ready n

/-- Inline rows are not put into paths. -/
theorem pathsOf_inline (rows : List Row) (B : Bgp) : pathsOf (B.inline rows) = pathsOf B := by
  induction rows generalizing B with
  | nil => rw [Bgp.inline_nil]
  | cons r rows ih =>
    rw [Bgp.inline_cons, ih, pathsOf, pathsOf, Bgp.substitute, List.map_map]
    refine List.map_congr_left fun t _ => ?_
    obtain ⟨s, p, o⟩ := t
    cases p <;> rfl

end Paths

/-! ## Planning -/

namespace Planner

variable {α β : Type} {p : Planner α} {scope : Scope}

/-- There is a result, whatever has been planned before. -/
def Succeeds (p : Planner α) (scope : Scope) : Prop := ∀ n, ∃ r, p scope n = .ok r

/-- Whether there is a result does not depend on what has been planned before. -/
def Even (p : Planner α) (scope : Scope) : Prop := ∀ n r, p scope n = .ok r → p.Succeeds scope

/-- A given result. -/
theorem succeeds_pure (a : α) : (pure a : Planner α).Succeeds scope := fun n => ⟨(a, n), rfl⟩

/-- Two computations in a row. -/
theorem Succeeds.bind {f : α → Planner β} (hp : p.Succeeds scope)
    (hf : ∀ a, (f a).Succeeds scope) : (p >>= f).Succeeds scope := by
  intro n
  obtain ⟨⟨a, n₁⟩, ha⟩ := hp n
  obtain ⟨r, hr⟩ := hf a n₁
  exact ⟨r, (Plan.bind_of_eq ha).trans hr⟩

/-- A function may be applied to the result. -/
theorem Succeeds.map (hp : p.Succeeds scope) (f : α → β) :
    (do return f (← p) : Planner β).Succeeds scope := hp.bind fun a => succeeds_pure (f a)

/-- A list of results. -/
theorem succeeds_mapM {f : α → Planner β} {items : List α}
    (h : ∀ a ∈ items, (f a).Succeeds scope) : (items.mapM f).Succeeds scope := by
  induction items with
  | nil => exact succeeds_pure []
  | cons a rest ih =>
    obtain ⟨ha, hrest⟩ := List.forall_mem_cons.1 h
    rw [List.mapM_cons]
    exact ha.bind fun b => (ih hrest).bind fun bs => succeeds_pure _

/-- A computation with a result is even. -/
theorem Succeeds.even (hp : p.Succeeds scope) : p.Even scope := fun _ _ _ => hp

end Planner

namespace Plan

open Planner
open Paths (Resolves pathsOf)

variable {scope : Scope} {n : PlanState} {B : Bgp}

/-! ## Patterns -/

/-- Variables are found for all blank nodes. -/
theorem succeeds_blanksToVariables (B : Bgp) (labels : List (String × Variable)) :
    (blanksToVariables labels B).Succeeds scope := by
  have hfresh : Planner.fresh.Succeeds scope := fun n => ⟨_, rfl⟩
  have hterm : ∀ (p : TermPattern) (labels : List (String × Variable)),
      (blankToVariable p labels).Succeeds scope := by
    intro p labels
    unfold blankToVariable
    split
    · split
      · exact succeeds_pure _
      · exact hfresh.bind fun v => succeeds_pure _
    · exact succeeds_pure _
  induction B generalizing labels with
  | nil => exact succeeds_pure _
  | cons t rest ih =>
    exact (hterm _ _).bind fun subject => (hterm _ _).bind fun object => (ih _).bind fun rest =>
      succeeds_pure _

/-- Variables in the place of blank nodes leave the paths. -/
theorem pathsOf_blanksToVariables {labels : List (String × Variable)} {B' : Bgp} {n' : PlanState}
    (h : blanksToVariables labels B scope n = .ok (B', n')) : pathsOf B' = pathsOf B := by
  induction B generalizing labels n B' with
  | nil =>
    obtain ⟨rfl, -⟩ := pure_inv h
    rfl
  | cons t rest ih =>
    obtain ⟨subject, n₁, -, h⟩ := bind_inv h
    obtain ⟨object, n₂, -, h⟩ := bind_inv h
    obtain ⟨rest', n₃, hrest, h⟩ := bind_inv h
    obtain ⟨rfl, rfl⟩ := pure_inv h
    exact congrArg (Paths.path? t.predicate :: ·) (ih hrest)

/-- A pattern that has been planned has paths that can be resolved. -/
theorem resolves_of_triplesStage {r : Stage × PlanState} (h : triplesStage B scope n = .ok r) :
    Resolves B := by
  obtain ⟨rfl, -⟩ | ⟨-, B', n₁, p, names, hblanks, hcompile, -⟩ := triplesStage_inv h
  · exact fun ready n => ⟨(.flat ready [], n), by rw [Paths.resolve]⟩
  · exact .of_resolve hcompile (pathsOf_blanksToVariables hblanks).symm

/-- A pattern whose paths can be resolved can be planned. -/
theorem succeeds_triplesStage (h : Resolves B) : (triplesStage B).Succeeds scope := by
  intro n
  unfold triplesStage
  split
  · exact ⟨_, rfl⟩
  · obtain ⟨⟨B', n₁⟩, hblanks⟩ : ∃ r, blanksToVariables [] B scope n = .ok r :=
      succeeds_blanksToVariables B [] n
    obtain ⟨⟨p, names⟩, hcompile⟩ := h.congr (pathsOf_blanksToVariables hblanks) [] n₁.naming
    have hnaming : Planner.naming (Paths.compile B') scope n₁ =
        .ok (p, { n₁ with naming := names }) := by
      rw [Planner.naming, bind_of_eq (a := n₁) (m := n₁) rfl]
      simp only [Paths.compile, hcompile]
      rfl
    rw [bind_of_eq hblanks, bind_of_eq hnaming]
    show ∃ r, (if scope.optional && !isSimple p then _ else _ : Planner Stage) scope _ = .ok r
    split
    · exact ⟨_, rfl⟩
    · exact ⟨_, rfl⟩

/-! ## Clauses -/

end Plan

/-- The clause can be planned. -/
def Clause.Plannable (scope : Scope) : Clause → Prop
  | .triples B => Paths.Resolves B
  | .other plan => plan.Succeeds scope
  | _ => True

namespace Plan

open Planner

variable {scope : Scope} {n : PlanState} {cs cs' : List Clause}

/-- All clauses can be planned, up to the first inline rows of which there are none. -/
def Plannable (scope : Scope) : List Clause → Prop
  | [] => True
  | .values [] :: _ => True
  | c :: rest => c.Plannable scope ∧ Plannable scope rest

/-- The first clause and the others. -/
theorem plannable_cons {c : Clause} (hc : c ≠ .values []) :
    Plannable scope (c :: cs) ↔ c.Plannable scope ∧ Plannable scope cs := by
  match c, hc with
  | .values [], hc => exact absurd rfl hc
  | .values (_ :: _), _ => exact .rfl
  | .triples _, _ => exact .rfl
  | .filter _, _ => exact .rfl
  | .other _, _ => exact .rfl

/-- Clauses that can be planned are planned with a result. -/
theorem succeeds_clausesStage (h : Plannable scope cs) (rows : List Row) :
    (clausesStage rows cs).Succeeds scope := by
  induction cs generalizing rows with
  | nil => exact succeeds_pure _
  | cons c rest ih =>
    match c, h with
    | .values [], _ => exact succeeds_pure _
    | .values (row :: inline), h =>
      exact (succeeds_mapM fun row _ => (ih h.2 (rows ++ [row])).map _).map _
    | .triples B, h =>
      exact (succeeds_triplesStage (h.1.congr (Paths.pathsOf_inline rows B))).bind fun upper =>
        (ih h.2 rows).map _
    | .filter c, h => exact (ih h.2 rows).map _
    | .other plan, h => exact Succeeds.bind h.1 fun upper => (ih h.2 rows).map _

/-- Clauses that have been planned can be planned, if the nodes among them are planned evenly. -/
theorem plannable_of_clausesStage (hcs : ∀ plan, Clause.other plan ∈ cs → plan.Even scope)
    {rows : List Row} {r : Stage × PlanState} (h : clausesStage rows cs scope n = .ok r) :
    Plannable scope cs := by
  induction cs generalizing rows n r with
  | nil => trivial
  | cons c rest ih =>
    have hrest : ∀ {rows : List Row} {n : PlanState} {r : Stage × PlanState},
        clausesStage rows rest scope n = .ok r → Plannable scope rest :=
      ih fun plan hplan => hcs plan (List.mem_cons_of_mem _ hplan)
    match c, h with
    | .values [], _ => trivial
    | .values (row :: inline), h =>
      obtain ⟨branches, n₁, hbranches, -⟩ := bind_inv h
      rw [List.mapM_cons] at hbranches
      obtain ⟨branch, n₂, hbranch, -⟩ := bind_inv hbranches
      obtain ⟨lower, n₃, hlower, -⟩ := bind_inv hbranch
      exact ⟨trivial, hrest hlower⟩
    | .triples B, h =>
      obtain ⟨upper, n₁, hupper, h⟩ := bind_inv h
      obtain ⟨lower, n₂, hlower, -⟩ := bind_inv h
      exact ⟨(resolves_of_triplesStage hupper).congr (Paths.pathsOf_inline rows B).symm,
        hrest hlower⟩
    | .filter c, h =>
      obtain ⟨lower, n₂, hlower, -⟩ := bind_inv h
      exact ⟨trivial, hrest hlower⟩
    | .other plan, h =>
      obtain ⟨upper, n₁, hupper, h⟩ := bind_inv h
      obtain ⟨lower, n₂, hlower, -⟩ := bind_inv h
      exact ⟨hcs plan List.mem_cons_self _ _ hupper, hrest hlower⟩

/-- If none of the clauses are no inline rows, all of them have to be planned. -/
theorem plannable_iff (hcs : .values [] ∉ cs) :
    Plannable scope cs ↔ ∀ c ∈ cs, c.Plannable scope := by
  induction cs with
  | nil => exact iff_of_true trivial fun c hc => absurd hc List.not_mem_nil
  | cons c rest ih =>
    rw [List.mem_cons, not_or] at hcs
    obtain ⟨hc, hrest⟩ := hcs
    rw [plannable_cons (Ne.symm hc), ih hrest, List.forall_mem_cons]

/-- Nothing is planned after inline rows of which there are none. -/
theorem plannable_of_mem (hcs : ∀ c ∈ cs, Arrangeable.rank c = 0) (h : .values [] ∈ cs)
    (rest : List Clause) : Plannable scope (cs ++ rest) := by
  induction cs with
  | nil => exact absurd h List.not_mem_nil
  | cons c cs ih =>
    obtain ⟨hc, hcs⟩ := List.forall_mem_cons.1 hcs
    by_cases hnone : c = .values []
    · subst hnone
      trivial
    · refine (plannable_cons hnone).2 ⟨?_, ih hcs ((List.mem_cons.1 h).resolve_left (Ne.symm hnone))⟩
      cases c with
      | values inline => trivial
      | triples B => exact absurd hc Nat.one_ne_zero
      | filter c => trivial
      | other plan => exact absurd hc Nat.one_ne_zero

/-- Clauses that are no patterns are not merged. -/
theorem mem_mergeAdjacent {c : Clause} (hc : Arrangeable.triples? c = none) (h : c ∈ cs) :
    c ∈ Arrangement.mergeAdjacent cs := by
  have hfirst : ∀ (d : Clause) (ds : List Clause), c = d ∨ c ∈ ds →
      c ∈ Arrangement.mergeFirst d ds := by
    intro d ds h
    cases ds with
    | nil => exact List.mem_cons.2 h
    | cons e ds =>
      rw [Arrangement.mergeFirst]
      split
      · next hd he =>
        rcases h with rfl | h
        · exact absurd (hc.symm.trans hd) (by simp)
        · rcases List.mem_cons.1 h with rfl | h
          · exact absurd (hc.symm.trans he) (by simp)
          · exact List.mem_cons_of_mem _ h
      · exact List.mem_cons.2 h
  induction cs with
  | nil => exact absurd h List.not_mem_nil
  | cons d ds ih => exact hfirst d _ ((List.mem_cons.1 h).imp_right ih)

/-- **Clauses that can be planned in any order** can be planned in the order in which they are
arranged. -/
theorem plannable_arrange (h : Plannable scope cs') (hmem : ∀ c, c ∈ cs' ↔ c ∈ cs) :
    Plannable scope (Arrangement.arrange cs) := by
  by_cases hnone : .values [] ∈ cs
  · rw [Arrangement.arrange, List.append_assoc]
    refine plannable_of_mem (fun c hc => ?_) (List.mem_filter.2 ⟨mem_mergeAdjacent rfl hnone, rfl⟩) _
    exact eq_of_beq (List.mem_filter.1 hc).2
  · have hnone' : .values [] ∉ cs' := fun h => hnone ((hmem _).1 h)
    have hall : ∀ c ∈ cs, c.Plannable scope := fun c hc =>
      (plannable_iff hnone').1 h c ((hmem c).2 hc)
    refine (plannable_iff fun hnone' => ?_).2
      (Arrangement.forall_arrange (fun a b A B hA hB ha hb => ?_) hall)
    · rcases Arrangement.mem_arrange hnone' with h | ⟨B, hB⟩
      · exact hnone h
      · exact absurd hB (by simp [Arrangeable.ofTriples])
    · obtain rfl : a = .triples A := by
        cases a <;> simp_all [Arrangeable.triples?, Clause.triples?]
      obtain rfl : b = .triples B := by
        cases b <;> simp_all [Arrangeable.triples?, Clause.triples?]
      exact Paths.Resolves.append ha hb

/-! ## Nodes -/

variable {V : Set Variable}

/-- Clauses are planned evenly if the nodes among them are. -/
theorem even_clausesStage (hcs : ∀ plan, Clause.other plan ∈ cs → plan.Even scope)
    (rows : List Row) : (clausesStage rows cs).Even scope := fun _ _ h =>
  succeeds_clausesStage (plannable_of_clausesStage hcs h) rows

/-- A group is planned evenly if the nodes in it are. -/
theorem even_groupStage (hcs : ∀ plan, Clause.other plan ∈ cs → plan.Even scope) :
    (groupStage cs).Even scope := by
  refine even_clausesStage (fun plan hplan => ?_) []
  rcases Arrangement.mem_arrange hplan with hplan | ⟨B, hB⟩
  · exact hcs plan hplan
  · exact absurd hB (by simp [Arrangeable.ofTriples])

/-- A clause that is planned before the others is its node. -/
theorem even_clauseOf {a : Algebra} (ha : a.Over V) (heven : (stage a).Even scope)
    {plan : Planner Stage} (h : clauseOf a (stage a) = .other plan) : plan.Even scope := by
  cases a with
  | bgp B => exact absurd h (by simp [clauseOf])
  | values rows => exact absurd h (by simp [clauseOf])
  | filter c => exact absurd h (by simp [clauseOf])
  | bind v e => exact Clause.other.inj h ▸ heven
  | join patterns => exact Clause.other.inj h ▸ heven
  | leftJoin patterns => exact Clause.other.inj h ▸ heven
  | union patterns => exact Clause.other.inj h ▸ heven
  | _ => exact ha.elim

mutual

/-- **Nodes are planned evenly.** -/
theorem even_stage (a : Algebra) (ha : a.Over V) (scope : Scope) : (stage a).Even scope := by
  match a, ha with
  | .bgp B, _ => exact fun n r h => succeeds_triplesStage (resolves_of_triplesStage h)
  | .values rows, _ => exact even_clausesStage (by simp) []
  | .filter c, _ => exact (succeeds_pure _).even
  | .bind v e, _ => exact (succeeds_pure _).even
  | .join patterns, ha => exact even_groupStage (even_clauses patterns ha _)
  | .leftJoin patterns, ha => exact even_groupStage (even_clauses patterns ha _)
  | .union patterns, ha =>
    intro n r h
    obtain ⟨sts, n₁, hsts, -⟩ := bind_inv h
    exact (even_branches patterns ha scope n _ hsts).map _
  | .service _ _ _, ha => exact ha.elim
  | .groupBy _ _ _, ha => exact ha.elim
  | .having _ _, ha => exact ha.elim
  | .project _ _, ha => exact ha.elim
  | .orderBy _ _, ha => exact ha.elim
  | .distinct _, ha => exact ha.elim
  | .slice _ _ _, ha => exact ha.elim
  | .construct _ _, ha => exact ha.elim
  | .describe _ _, ha => exact ha.elim
  | .ask _, ha => exact ha.elim
  | .minus _, ha => exact ha.elim
  | .graph _ _, ha => exact ha.elim

/-- The nodes of a group are planned evenly. -/
theorem even_clauses (as : List Algebra) (has : Algebra.OverEach V as) (scope : Scope)
    (plan : Planner Stage) (h : Clause.other plan ∈ clauses as) : plan.Even scope := by
  match as, has with
  | [], _ => exact absurd h List.not_mem_nil
  | a :: rest, has =>
    rcases List.mem_cons.1 h with h | h
    · exact even_clauseOf has.1 (even_stage a has.1 scope) h.symm
    · exact even_clauses rest has.2 scope plan h

/-- Alternatives are planned evenly. -/
theorem even_branches (as : List Algebra) (has : Algebra.OverEach V as) (scope : Scope) :
    (branches as).Even scope := by
  match as, has with
  | [], _ => exact (succeeds_pure _).even
  | a :: rest, has =>
    intro n r h
    obtain ⟨branch, n₁, hbranch, h⟩ := bind_inv h
    obtain ⟨others, n₂, hothers, -⟩ := bind_inv h
    have hfirst : ((stage a).withOptional false).Succeeds scope :=
      even_stage a has.1 { scope with optional := false } _ _ hbranch
    exact hfirst.bind fun _ => (even_branches rest has.2 scope _ _ hothers).map _

end

/-- **A group that can be planned in another order** can be planned in the order in which its clauses
are arranged. -/
theorem exists_groupStage {as : List Algebra} (has : Algebra.OverEach V as)
    (hmem : ∀ c, c ∈ cs' ↔ c ∈ clauses as) {rows : List Row} {r : Stage × PlanState}
    (h : clausesStage rows cs' scope n = .ok r) (n' : PlanState) :
    ∃ r', groupStage (clauses as) scope n' = .ok r' := by
  have hplannable := plannable_of_clausesStage
    (fun plan hplan => even_clauses as has scope plan ((hmem _).1 hplan)) h
  exact succeeds_clausesStage (plannable_arrange hplannable hmem) [] n'

end Plan

end PagedSparql
