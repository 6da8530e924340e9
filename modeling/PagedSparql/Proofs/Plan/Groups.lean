import PagedSparql.Proofs.Plan.Planned

/-!
# What groups make of rows

The clauses of a group work in the order in which they are arranged, each on what the ones before it
have handed on (`Plan.GroupRun`). Whether the group is optional makes a difference for its basic
graph patterns only, also those inside its services: in a plain group a pattern hands on the rows
that it extends rows to; in an optional one it also keeps each row that it does not extend. Groups
inside are plain or optional by themselves, and any other clause makes of rows what it makes of them
alone in a plain group. Every group that can be planned obeys this law (`Plan.groupLaw`).
-/

namespace PagedSparql

variable {σ : Type}

namespace Arrangement

variable {α β : Type} [Arrangeable α] [Arrangeable β] {R : α → β → Prop} {as : List α}
  {bs : List β}

/-- Clauses that are related, one by one, are still so when they are arranged, if related ones look
the same to the arrangement. -/
theorem forall₂_arrange
    (htriples : ∀ a b, R a b → Arrangeable.triples? a = Arrangeable.triples? b)
    (hof : ∀ ts, R (Arrangeable.ofTriples ts) (Arrangeable.ofTriples ts))
    (hrank : ∀ a b, R a b → Arrangeable.rank a = Arrangeable.rank b)
    (h : List.Forall₂ R as bs) : List.Forall₂ R (arrange as) (arrange bs) := by
  have hfirst : ∀ ⦃a b⦄, R a b → ∀ ⦃as bs⦄, List.Forall₂ R as bs →
      List.Forall₂ R (mergeFirst a as) (mergeFirst b bs) := by
    intro a b hab as bs has
    cases has with
    | nil => exact .cons hab .nil
    | @cons next next' rest rest' hnext hrest =>
      rw [mergeFirst, mergeFirst, htriples a b hab, htriples next next' hnext]
      split
      · exact .cons (hof _) hrest
      · exact .cons hab (.cons hnext hrest)
  have hmerge : List.Forall₂ R (mergeAdjacent as) (mergeAdjacent bs) :=
    List.rel_foldr (R := R) (P := List.Forall₂ R) hfirst .nil h
  have hofRank : ∀ k : Nat, List.Forall₂ R (ofRank k (mergeAdjacent as))
      (ofRank k (mergeAdjacent bs)) :=
    fun k => List.rel_filter (fun a b hab => by simp [hrank a b hab]) hmerge
  exact List.rel_append (List.rel_append (hofRank 0) (hofRank 1)) (hofRank 2)

/-- A clause may be arranged before or after something is done to all clauses, if that keeps what
clauses are arranged by. -/
theorem arrange_map {f : α → β}
    (htriples : ∀ a, Arrangeable.triples? (f a) = Arrangeable.triples? a)
    (hof : ∀ ts, f (Arrangeable.ofTriples ts) = Arrangeable.ofTriples ts)
    (hrank : ∀ a, Arrangeable.rank (f a) = Arrangeable.rank a) (clauses : List α) :
    arrange (clauses.map f) = (arrange clauses).map f := by
  have hmap : List.Forall₂ (fun a b => f a = b) clauses (clauses.map f) := by
    rw [List.forall₂_map_right_iff]
    exact List.forall₂_same.2 fun _ _ => rfl
  have harranged := forall₂_arrange (fun a b hab => hab ▸ (htriples a).symm) hof
    (fun a b hab => hab ▸ (hrank a).symm) hmap
  rw [← List.forall₂_map_left_iff, List.forall₂_eq_eq_eq] at harranged
  exact harranged.symm

end Arrangement

namespace Stage

/-- One row is joined with every row. -/
theorem eq_of_works_values {now : DateTime} {row : Row} {U W : List Row}
    (h : Works σ now (.values row) U W) : W = U.filterMap (Row.merge · row) := by
  induction U generalizing W with
  | nil => exact h.last_inv rfl fun _ => rfl
  | cons r U ih =>
    obtain ⟨s, y?, W', hrow, hrest, rfl⟩ := h.take_inv rfl
    have hmerge : (Row.merge r row).map Signal.row = y?.map .row := hrow
    obtain rfl : Row.merge r row = y? :=
      Option.map_injective (fun _ _ => Signal.row.inj) hmerge
    rw [ih hrest]
    cases hr : Row.merge r row with
    | none =>
      rw [List.filterMap_cons, hr]
      rfl
    | some w =>
      rw [List.filterMap_cons, hr]
      rfl

end Stage

namespace Plan

open Planner

/-- The clause is neither a basic graph pattern, nor a group, nor inline rows. -/
def standsAlone : Algebra → Bool
  | .bgp _ => false
  | .join _ => false
  | .leftJoin _ => false
  | .service _ _ _ => false
  | .values _ => false
  | _ => true

/-- What a basic graph pattern makes of rows, by the joins that it is compiled to. -/
def TriplesRun (E : Scene σ) (scope : Scope) (triples : List TriplePattern) (U W : List Row) :
    Prop :=
  if triples = [] then W = U
  else ∃ n triples' n₁ pattern names,
    blanksToVariables [] triples scope n = .ok (triples', n₁) ∧
    Paths.compile triples' n₁.naming = .ok (pattern, names) ∧
    if scope.optional = true then pattern.LeftJoins E scope U W
    else ∃ X, pattern.Extends E scope U X ∧ W = X.map Prod.snd

mutual

/-- What the clauses of a group, in the order in which they are arranged, make of rows; the scope
tells whether the group is optional, and `rows` are the inline rows that are put into its basic
graph patterns. -/
inductive GroupRun (E : Scene σ) :
    Scope → List Row → List Algebra → List Row → List Row → Prop
  /-- Rows that have passed all clauses are handed on. -/
  | done {scope : Scope} {rows U : List Row} : GroupRun E scope rows [] U U
  /-- A basic graph pattern. -/
  | triples {scope : Scope} {rows : List Row} {triples : List TriplePattern} {rest : List Algebra}
    {U V W : List Row}
    (first : TriplesRun E scope (triples.map fun t => rows.foldl TriplePattern.substitute t) U V)
    (others : GroupRun E scope rows rest V W) : GroupRun E scope rows (.bgp triples :: rest) U W
  /-- A plain group inside is plain, whatever the group around it is. -/
  | join {scope : Scope} {rows : List Row} {patterns rest : List Algebra} {U V W : List Row}
    (first : GroupRun E { scope with optional := false } [] (Algebra.arrange patterns) U V)
    (others : GroupRun E scope rows rest V W) : GroupRun E scope rows (.join patterns :: rest) U W
  /-- An optional group inside is optional, whatever the group around it is. -/
  | leftJoin {scope : Scope} {rows : List Row} {patterns rest : List Algebra} {U V W : List Row}
    (first : GroupRun E { scope with optional := true } [] (Algebra.arrange patterns) U V)
    (others : GroupRun E scope rows rest V W) :
    GroupRun E scope rows (.leftJoin patterns :: rest) U W
  /-- A service is a group at another endpoint, and optional if the group around it is. -/
  | service {scope : Scope} {rows : List Row} {name : Term} {silent : Bool}
    {patterns rest : List Algebra} {address : String} {U V W : List Row}
    (place : serviceAddress name = .ok address)
    (first : GroupRun E { scope with address, graph := address } [] (Algebra.arrange patterns) U V)
    (others : GroupRun E scope rows rest V W) :
    GroupRun E scope rows (.service name silent patterns :: rest) U W
  /-- The rest of the group works once for each inline row. -/
  | values {scope : Scope} {rows : List Row} {inline : List (VariableMap (Option Term))}
    {rest : List Algebra} {U W : List Row}
    (branches : BranchesRun E scope rows (inlineRows inline) rest U W) :
    GroupRun E scope rows (.values inline :: rest) U W
  /-- Any other clause makes of rows what it makes of them alone in a plain group. -/
  | alone {scope : Scope} {rows : List Row} {a : Algebra} {rest : List Algebra} {n n' : PlanState}
    {st : Stage} {U V W : List Row} (kind : standsAlone a = true)
    (plan : stage (.join [a]) scope n = .ok (st, n')) (first : st.means E U V)
    (others : GroupRun E scope rows rest V W) : GroupRun E scope rows (a :: rest) U W

/-- What clauses make of rows, once for each inline row: the rows are joined with it, and it is put
into the basic graph patterns. -/
inductive BranchesRun (E : Scene σ) :
    Scope → List Row → List Row → List Algebra → List Row → List Row → Prop
  /-- No inline rows, no rows. -/
  | nil {scope : Scope} {rows : List Row} {rest : List Algebra} {U : List Row} :
    BranchesRun E scope rows [] rest U []
  /-- The branch of an inline row hands on its rows before the others. -/
  | cons {scope : Scope} {rows : List Row} {row : Row} {inline : List Row} {rest : List Algebra}
    {U V W : List Row}
    (first : GroupRun E scope (rows ++ [row]) rest (U.filterMap (Row.merge · row)) V)
    (others : BranchesRun E scope rows inline rest U W) :
    BranchesRun E scope rows (row :: inline) rest U (V ++ W)

end

variable {E : Scene σ} {scope : Scope} {n n' : PlanState} {st : Stage} {U V W : List Row}

/-- The clauses of a group are those of its nodes. -/
theorem clauses_eq (patterns : List Algebra) :
    clauses patterns = patterns.map fun a => clauseOf a (stage a) := by
  induction patterns with
  | nil => rfl
  | cons a rest ih => rw [clauses, ih, List.map_cons]

/-- The nodes of a group may be arranged before they are planned. -/
theorem arrange_clauses (patterns : List Algebra) :
    Arrangement.arrange (clauses patterns) = clauses (Algebra.arrange patterns) := by
  rw [clauses_eq, clauses_eq]
  refine Arrangement.arrange_map (fun a => ?_) (fun _ => rfl) (fun a => ?_) patterns
  · cases a <;> rfl
  · cases a <;> rfl

/-- What a basic graph pattern is planned as makes of rows what the pattern makes of them. -/
theorem triplesRun_of_means {triples : List TriplePattern}
    (hplan : triplesStage triples scope n = .ok (st, n')) (h : st.means E U W) :
    TriplesRun E scope triples U W := by
  unfold TriplesRun
  obtain ⟨rfl, rfl⟩ | ⟨hne, triples', n₁, pattern, names, hblanks, hcompile, hst⟩ :=
    triplesStage_inv hplan
  · rw [if_pos rfl]
    exact h
  · rw [if_neg hne]
    refine ⟨n, triples', n₁, pattern, names, hblanks, hcompile, ?_⟩
    cases hopt : scope.optional with
    | false =>
      rw [if_neg (by simp [hopt])] at hst
      subst hst
      exact PathFree.means_pathFreeStage hopt pattern h
    | true =>
      rw [if_pos rfl]
      cases hsimple : isSimple pattern with
      | true =>
        rw [if_neg (by simp [hsimple])] at hst
        subst hst
        exact PathFree.leftJoins_of_isSimple hopt hsimple h
      | false =>
        rw [if_pos (by simp [hopt, hsimple])] at hst
        obtain ⟨tag, htag, rfl⟩ := hst
        exact PathFree.leftJoins_of_optional htag hsimple h

/-- Alternatives are planned alike inside and outside of optional groups. -/
theorem branches_option (patterns : List Algebra) (optional : Bool) :
    branches patterns { scope with optional } n = branches patterns scope n := by
  induction patterns generalizing n with
  | nil => rfl
  | cons a rest ih =>
    show (do
      let r ← stage a { scope with optional := false } n
      let rs ← branches rest { scope with optional } r.2
      pure (r.1 :: rs.1, rs.2) : Except QueryError (List Stage × PlanState)) = _
    simp only [ih]
    rfl

/-- A clause that stands alone is planned alike inside and outside of optional groups. -/
theorem plan_option {a : Algebra} (halone : standsAlone a = true) {plan : Planner Stage}
    (hplan : clauseOf a (stage a) = .other plan) (optional : Bool) :
    plan { scope with optional } n = plan scope n := by
  cases a with
  | bgp triples => exact absurd halone (by simp [standsAlone])
  | join patterns => exact absurd halone (by simp [standsAlone])
  | leftJoin patterns => exact absurd halone (by simp [standsAlone])
  | service name silent patterns => exact absurd halone (by simp [standsAlone])
  | values rows => exact absurd halone (by simp [standsAlone])
  | filter condition => exact absurd hplan (by simp [clauseOf])
  | union patterns =>
    obtain rfl := Clause.other.inj hplan
    show (do
      let r ← branches patterns { scope with optional } n
      pure (Stage.forkOf r.1, r.2) : Except QueryError (Stage × PlanState)) = _
    rw [branches_option]
    rfl
  | _ =>
    obtain rfl := Clause.other.inj hplan
    rfl

/-- A clause that stands alone is planned in a plain group of its own as it is in any group. -/
theorem stage_alone {a : Algebra} (halone : standsAlone a = true) {plan : Planner Stage}
    (hplan : clauseOf a (stage a) = .other plan) (h : plan scope n = .ok (st, n')) :
    stage (.join [a]) scope n = .ok (st, n') := by
  have hgroup : stage (.join [a]) scope n =
      (do
        let r ← plan { scope with optional := false } n
        pure (r.1.andThen .input, r.2) : Except QueryError (Stage × PlanState)) := by
    show groupStage (clauses [a]) { scope with optional := false } n = _
    rw [clauses_eq, List.map_singleton, hplan]
    rfl
  rw [hgroup, plan_option halone hplan, h]
  show Except.ok (st.andThen .input, n') = _
  cases st <;> rfl

/-- The stage of a group makes of rows what its clauses do, one after the other. -/
def GroupLaw (E : Scene σ) (patterns : List Algebra) : Prop :=
  ∀ scope n n' st U W, groupStage (clauses patterns) scope n = .ok (st, n') → st.means E U W →
    GroupRun E scope [] (Algebra.arrange patterns) U W

/-- The group that a node is, if it is one, obeys the law. -/
def NodeLaw (E : Scene σ) : Algebra → Prop
  | .join patterns => GroupLaw E patterns
  | .leftJoin patterns => GroupLaw E patterns
  | .service _ _ patterns => GroupLaw E patterns
  | _ => True

/-- What is planned above the rest of a group works before the rest does. -/
theorem means_above {p rest : Planner Stage}
    (hplan : (p >>= fun upper => rest >>= fun lower => pure (upper.andThen lower)) scope n =
      .ok (st, n'))
    (h : st.means E U W) :
    ∃ upper lower n₁ n₂ V, p scope n = .ok (upper, n₁) ∧ upper.means E U V ∧
      rest scope n₁ = .ok (lower, n₂) ∧ lower.means E V W := by
  obtain ⟨upper, n₁, hupper, hplan⟩ := bind_inv hplan
  obtain ⟨lower, n₂, hlower, hplan⟩ := bind_inv hplan
  obtain ⟨rfl, -⟩ := pure_inv hplan
  obtain ⟨V, hV, hW⟩ := Stage.means_andThen h
  exact ⟨upper, lower, n₁, n₂, V, hupper, hV, hlower, hW⟩

/-- Branches for inline rows make of rows what the clauses do for each inline row. -/
theorem branchesRun_of_means {rows : List Row} {rest : List Algebra}
    (hrest : ∀ {row : Row} {n n' : PlanState} {st : Stage} {U W : List Row},
      clausesStage (rows ++ [row]) (clauses rest) scope n = .ok (st, n') → st.means E U W →
        GroupRun E scope (rows ++ [row]) rest U W)
    {inline : List Row} {branches : List Stage}
    (hplan : List.Forall₂ (fun row branch => ∃ n n', (do
      return (Stage.values row).andThen (← clausesStage (rows ++ [row]) (clauses rest)) :
        Planner Stage) scope n = .ok (branch, n')) inline branches)
    (h : Stage.meansEach E branches U W) : BranchesRun E scope rows inline rest U W := by
  induction hplan generalizing W with
  | nil =>
    obtain rfl := h
    exact .nil
  | @cons row branch inline branches hrow _ ih =>
    obtain ⟨V, V', hV, hV', rfl⟩ := h
    obtain ⟨n, n', hbranch⟩ := hrow
    obtain ⟨upper, lower, n₁, n₂, U', hupper, hU', hlower, hV⟩ :=
      means_above (p := pure (.values row)) hbranch hV
    obtain ⟨rfl, -⟩ := pure_inv hupper
    obtain rfl := Stage.eq_of_works_values hU'
    exact .cons (hrest hlower hV) (ih hV')

/-- Clauses make of rows what the groups among them and the others do, if these groups obey the
law. -/
theorem groupRun_of_clauses {as : List Algebra} (hlaw : ∀ a ∈ as, NodeLaw E a) {rows : List Row}
    (hplan : clausesStage rows (clauses as) scope n = .ok (st, n')) (h : st.means E U W) :
    GroupRun E scope rows as U W := by
  induction as generalizing rows n n' st U W with
  | nil =>
    obtain ⟨rfl, -⟩ := pure_inv hplan
    obtain rfl : W = U := h
    exact .done
  | cons a rest ih =>
    obtain ⟨hnode, hrest'⟩ := List.forall_mem_cons.1 hlaw
    have hrest : ∀ {rows : List Row} {n n' : PlanState} {st : Stage} {U W : List Row},
        clausesStage rows (clauses rest) scope n = .ok (st, n') → st.means E U W →
          GroupRun E scope rows rest U W := fun hplan h => ih hrest' hplan h
    rw [clauses] at hplan
    -- A clause that is neither merged nor a group is a stage of its own, above those of the rest.
    have halone : standsAlone a = true → ∀ plan, clauseOf a (stage a) = .other plan →
        GroupRun E scope rows (a :: rest) U W := by
      intro halone plan hclause
      rw [hclause] at hplan
      obtain ⟨upper, lower, n₁, n₂, V, hupper, hV, hlower, hW⟩ := means_above hplan h
      exact .alone halone (stage_alone halone hclause hupper) hV (hrest hlower hW)
    cases a with
    | bgp triples =>
      obtain ⟨upper, lower, n₁, n₂, V, hupper, hV, hlower, hW⟩ := means_above hplan h
      exact .triples (triplesRun_of_means hupper hV) (hrest hlower hW)
    | filter condition =>
      obtain ⟨upper, lower, n₁, n₂, V, hupper, hV, hlower, hW⟩ :=
        means_above (p := pure (.filter condition)) hplan h
      exact .alone rfl hupper hV (hrest hlower hW)
    | values inline =>
      obtain ⟨branches, n₁, hbranches, hplan⟩ := bind_inv hplan
      obtain ⟨rfl, -⟩ := pure_inv hplan
      exact .values (branchesRun_of_means hrest (mapM_inv hbranches) h)
    | service name silent patterns =>
      obtain ⟨upper, lower, n₁, n₂, V, hupper, hV, hlower, hW⟩ := means_above hplan h
      obtain ⟨address, n₃, hplace, hupper⟩ := bind_inv hupper
      obtain ⟨n₄, n₅, hupper⟩ := service_inv hupper
      exact .service (ofExcept_inv hplace).1 (hnode _ _ _ _ _ _ hupper hV) (hrest hlower hW)
    | join patterns =>
      obtain ⟨upper, lower, n₁, n₂, V, hupper, hV, hlower, hW⟩ := means_above hplan h
      exact .join (hnode _ _ _ _ _ _ hupper hV) (hrest hlower hW)
    | leftJoin patterns =>
      obtain ⟨upper, lower, n₁, n₂, V, hupper, hV, hlower, hW⟩ := means_above hplan h
      exact .leftJoin (hnode _ _ _ _ _ _ hupper hV) (hrest hlower hW)
    | _ => exact halone rfl _ rfl

/-- A group obeys the law if the groups in it do. -/
theorem groupLaw_of_nodes {patterns : List Algebra} (hlaw : ∀ a ∈ patterns, NodeLaw E a) :
    GroupLaw E patterns := by
  intro scope n n' st U W hplan h
  rw [groupStage, arrange_clauses] at hplan
  refine groupRun_of_clauses (fun a ha => ?_) hplan h
  rcases Arrangement.mem_arrange ha with ha | ⟨triples, rfl⟩
  · exact hlaw a ha
  · trivial

mutual

/-- The group that a node is obeys the law. -/
theorem nodeLaw (E : Scene σ) (a : Algebra) : NodeLaw E a := by
  match a with
  | .join patterns => exact groupLaw_of_nodes (nodeLaws E patterns)
  | .leftJoin patterns => exact groupLaw_of_nodes (nodeLaws E patterns)
  | .service _ _ patterns => exact groupLaw_of_nodes (nodeLaws E patterns)
  | .bgp _ => trivial
  | .union _ => trivial
  | .filter _ => trivial
  | .bind _ _ => trivial
  | .values _ => trivial
  | .groupBy _ _ _ => trivial
  | .having _ _ => trivial
  | .project _ _ => trivial
  | .orderBy _ _ => trivial
  | .distinct _ => trivial
  | .slice _ _ _ => trivial
  | .construct _ _ => trivial
  | .describe _ _ => trivial
  | .ask _ => trivial
  | .minus _ => trivial
  | .graph _ _ => trivial

/-- The groups among the nodes of a list obey the law. -/
theorem nodeLaws (E : Scene σ) (patterns : List Algebra) : ∀ a ∈ patterns, NodeLaw E a := by
  match patterns with
  | [] => exact fun a ha => absurd ha List.not_mem_nil
  | a :: rest => exact List.forall_mem_cons.2 ⟨nodeLaw E a, nodeLaws E rest⟩

end

/-- **The law of groups** holds of every group. -/
theorem groupLaw (E : Scene σ) (patterns : List Algebra) : GroupLaw E patterns :=
  groupLaw_of_nodes (nodeLaws E patterns)

end Plan

end PagedSparql
