import PagedSparql.Proofs.Plan.ClauseMeaning

/-!
# Groups make of rows what their clauses mean

Whatever a group of basic graph patterns, optional and plain groups, alternatives, bindings, inline
rows and conditions is planned as, it makes of the rows that come in what its clauses mean
(`Plan.nodeSolves`): the same rows as often, as far as the variables of the query are concerned. What
the clauses after it rely on is that a planned clause binds nothing that is drawn later.
-/

namespace PagedSparql

open scoped RowBag

variable {σ : Type} {E : Scene σ} {scope : Scope} {names : Names} {U W : List Row}
  {n n' : PlanState} {st : Stage}

namespace Stage

/-- A steady condition as a stage keeps the rows for which it is true. -/
theorem eq_of_works_filter {now : DateTime} {c : Expression} (hc : c.isSteady = true)
    (h : Works σ now (.filter c) U W) : W = U.filter (c.isTrue now ·) := by
  rw [← map_snd_zipIdx U] at h
  obtain ⟨Y, hY, rfl⟩ := works_filter h
  conv_rhs => rw [← map_snd_zipIdx U, List.filter_map]
  rw [hY.eq_filter hc]
  rfl

/-- A binding of a steady expression as a stage adds the value to each row for which there is one. -/
theorem eq_of_works_bind {now : DateTime} {v : Variable} {e : Expression}
    (he : e.isSteady = true) (h : Works σ now (.bind v e) U W) :
    W = U.filterMap fun u => (e.value? now u).map (u.insert v ·) := by
  induction U generalizing W with
  | nil => exact h.last_inv rfl fun _ => rfl
  | cons r U ih =>
    obtain ⟨s, y?, W', hrow, hrest, rfl⟩ := h.take_inv rfl
    have hvalue := @Expression.value?_eq now e r he (Eval.enterRow s.evaluation r)
    have hstage : (stepRow now (.bind v e) r s).1.1 = .bind v e := by
      simp only [stepRow]
      split <;> rfl
    rw [hstage] at hrest
    rw [ih hrest, List.filterMap_cons]
    simp only [stepRow] at hrow
    split at hrow
    · next t ht =>
      have ht : ((Eval.evaluate now r e).run.run (Eval.enterRow s.evaluation r)).1 = .ok t := ht
      obtain rfl : y? = some (r.insert v t) := by cases y? <;> simp_all
      rw [← hvalue, ht]
      rfl
    · next e' he' =>
      have he' : ((Eval.evaluate now r e).run.run (Eval.enterRow s.evaluation r)).1 = .error e' :=
        he'
      obtain rfl : y? = none := by cases y? <;> simp_all
      rw [← hvalue, he']
      rfl

end Stage

/-- The variables of queries: they have no sigil and are not drawn. -/
def Names.Usual (names : Names) : Set Variable := {v | v.Bare ∧ v ∉ names.Ahead}

namespace Plan

open Planner
open Paths (avoids_later)

variable {F G : Row → Multiset Row} {V rows : List Row} {n₁ : PlanState}

/-! ## What clauses hand on to one another -/

/-- Rows come in that bind nothing that is drawn later. -/
def Fresh (n : PlanState) (U : List Row) : Prop :=
  ∀ u ∈ U, n.naming.names.Avoids {v | u.binds v = true}

/-- Nothing is drawn later that was not before. -/
theorem Fresh.later (h : Fresh n U) (hn : n.naming.Later n'.naming) : Fresh n' U :=
  fun u hu => avoids_later hn (h u hu)

/-- Rows that are handed on as they are. -/
theorem Solved.self (h : Fresh n U) : Solved names n (fun u => {u}) U U where
  rows := by rw [Multiset.bind_singleton, Multiset.map_id']
  avoids := h

/-- Clauses work one after the other. -/
theorem Solved.comp (hV : Solved names n₁ F U V) (hW : Solved names n' G V W) :
    Solved names n' (fun u => (F u).bind G) U W where
  rows := by rw [hW.rows, hV.rows, Multiset.bind_assoc]
  avoids := hW.avoids

/-- Clauses work side by side. -/
theorem Solved.append (hV : Solved names n₁ F U V) (hn : n₁.naming.Later n'.naming)
    (hW : Solved names n' G U W) : Solved names n' (fun u => F u + G u) U (V ++ W) where
  rows := by rw [← Multiset.coe_add, Multiset.map_add, hV.rows, hW.rows, Multiset.bind_add]
  avoids w hw := (List.mem_append.1 hw).elim (fun hw => avoids_later hn (hV.avoids w hw))
    (hW.avoids w)

/-- Nothing is handed on. -/
theorem Solved.none (n : PlanState) : Solved names n (fun _ => 0) U [] where
  rows := (Multiset.bind_zero _).symm
  avoids _ hw := absurd hw List.not_mem_nil

/-- An inline row is joined with the rows. -/
theorem solved_values (hU : Fresh n U) (hn : n.naming.names.Ahead ⊆ names.Ahead) {row : Row}
    (hrow : ∀ v, row.binds v = true → v ∈ names.Usual) :
    Solved names n (fun u => {u} * {row}) U (U.filterMap (Row.merge · row)) := by
  have hhide : row.hide names.Ahead = row := Row.hide_of_disjoint fun v hv => (hrow v hv).2
  refine ⟨?_, fun w hw => ?_⟩
  · have hbag : (U.filterMap (Row.merge · row) : Multiset Row) = {row} * (U : Multiset Row) := by
      rw [RowBag.singleton_mul, Multiset.filterMap_coe]
      exact congrArg _ (List.filterMap_congr fun u _ => Row.merge_comm u row)
    rw [hbag, ← RowBag.mul_eq_bind, mul_comm, RowBag.map_hide_mul (V := Set.univ)
      (W := names.Usual) (fun _ _ _ _ => trivial) ?_ fun v hv _ hv' => hv'.2 hv,
      Multiset.map_singleton, hhide]
    exact fun r hr v hv => hrow v (Multiset.mem_singleton.1 hr ▸ hv)
  · obtain ⟨u, hu, hw⟩ := List.mem_filterMap.1 hw
    refine Names.avoids_iff.2 fun v hv hahead => ?_
    rcases (Row.merge_eq_some_iff.1 hw).2.2 v hv with hv | hv
    · exact Names.avoids_iff.1 (hU u hu) v hv hahead
    · exact (hrow v hv).2 (hn hahead)

/-- A condition drops rows. -/
theorem solved_filter (hU : Fresh n U) {now : DateTime} {c : Expression} (hc : c.Reads names.Usual)
    (h : Stage.Works σ now (.filter c) U W) :
    Solved names n (fun u => if c.isTrue now u then {u} else 0) U W := by
  obtain rfl := Stage.eq_of_works_filter hc.steady h
  have hhide : ∀ u : Row, c.isTrue now (u.hide names.Ahead) = c.isTrue now u :=
    hc.isTrue_hide (fun v hv => hv.1) fun v hv => hv.2
  refine ⟨?_, fun w hw => hU w (List.mem_of_mem_filter hw)⟩
  rw [← Multiset.filter_eq_bind, ← RowBag.map_filter fun u _ => by rw [hhide], Multiset.filter_coe]
  simp

/-- A binding adds a term to each row. -/
theorem solved_bind (hU : Fresh n U) (hn : n.naming.names.Ahead ⊆ names.Ahead) {now : DateTime}
    {v : Variable} (hv : v ∈ names.Usual) {e : Expression} (he : e.Reads names.Usual)
    (h : Stage.Works σ now (.bind v e) U W) : Solved names n (Meaning.bind now v e).solve U W := by
  obtain rfl := Stage.eq_of_works_bind he.steady h
  have hvalue : ∀ u : Row, e.value? now (u.hide names.Ahead) = e.value? now u :=
    he.value?_hide (fun v hv => hv.1) fun v hv => hv.2
  -- The variable is none of the hidden ones, so it may be assigned before or after these are
  -- hidden.
  have hinsert : ∀ (u : Row) (t : Term),
      Row.hide names.Ahead (u.insert v t) = (u.hide names.Ahead).insert v t := by
    intro u t
    refine VariableMap.ext_get? fun w => Option.ext fun t' => ?_
    rw [Row.get?_hide_eq_some_iff, VariableMap.get?_insert, VariableMap.get?_insert]
    by_cases hw : w = v
    · subst hw
      simp [hv.2]
    · simp only [hw, if_false, Row.get?_hide_eq_some_iff]
  refine ⟨?_, fun w hw => ?_⟩
  · rw [← Multiset.filterMap_coe, Multiset.filterMap_eq_bind, Multiset.map_bind, Multiset.bind_map]
    refine Multiset.bind_congr fun u _ => ?_
    show _ = ((e.value? now (u.hide names.Ahead)).map fun t =>
      ({(u.hide names.Ahead).insert v t} : Multiset Row)).getD 0
    rw [hvalue]
    cases e.value? now u with
    | none => rfl
    | some t =>
      show Multiset.map (Row.hide names.Ahead) {u.insert v t} = {(u.hide names.Ahead).insert v t}
      rw [Multiset.map_singleton, hinsert]
  · obtain ⟨u, hu, hw⟩ := List.mem_filterMap.1 hw
    obtain ⟨t, -, rfl⟩ := Option.map_eq_some_iff.1 hw
    refine Names.avoids_iff.2 fun w hw hahead => ?_
    obtain ⟨t', ht'⟩ := VariableMap.binds_iff.1 hw
    rw [VariableMap.get?_insert] at ht'
    by_cases hwv : w = v
    · exact hv.2 (hn (hwv ▸ hahead))
    · rw [if_neg hwv] at ht'
      exact Names.avoids_iff.1 (hU u hu) w (VariableMap.binds_iff.2 ⟨t', ht'⟩) hahead

/-! ## Clauses of a group -/

/-- What is planned makes of rows what a meaning does. -/
def Solves (E : Scene σ) (names : Names) (plan : Planner Stage) (scope : Scope) (m : Meaning) :
    Prop :=
  ∀ n n' st U W, plan scope n = .ok (st, n') → n.naming.names.Ahead ⊆ names.Ahead → Fresh n U →
    m.suits ((U : Multiset Row).map (Row.hide names.Ahead)) → st.means E U W →
      Solved names n' m.solve U W

/-- A node makes of rows what it means, in plain groups and in optional ones. -/
def NodeSolves (E : Scene σ) (scope : Scope) (names : Names) (a : Algebra) : Prop :=
  ∀ optional, Solves E names (stage a) { scope with optional }
    ((a.part E scope names).meaning E scope names optional)

/-- The visible rows that are joined with an inline row. -/
theorem map_hide_filterMap_merge (hU : Fresh n U) (hn : n.naming.names.Ahead ⊆ names.Ahead)
    {row : Row} (hrow : ∀ v, row.binds v = true → v ∈ names.Usual) :
    ((U.filterMap (Row.merge · row) : List Row) : Multiset Row).map (Row.hide names.Ahead) =
      (U : Multiset Row).map (Row.hide names.Ahead) * {row} := by
  rw [(solved_values hU hn hrow).rows, RowBag.mul_eq_bind]

/-- What is planned once for each inline row makes of rows what it makes of their joins. -/
theorem solved_branches {lower : List Row → Planner Stage} {G : List Row → Row → Multiset Row}
    (hdraws : ∀ rows, (lower rows).Draws)
    {inline : List Row} (hinline : ∀ row ∈ inline, ∀ v, row.binds v = true → v ∈ names.Usual)
    (hlower : ∀ row ∈ inline, ∀ n n' st W, lower (rows ++ [row]) scope n = .ok (st, n') →
      n.naming.names.Ahead ⊆ names.Ahead → Fresh n (U.filterMap (Row.merge · row)) →
      st.means E (U.filterMap (Row.merge · row)) W →
        Solved names n' (G (rows ++ [row])) (U.filterMap (Row.merge · row)) W)
    {branches : List Stage} (hU : Fresh n U) (hn : n.naming.names.Ahead ⊆ names.Ahead)
    (hplan : (inline.mapM fun row => do
      return (Stage.values row).andThen (← lower (rows ++ [row])) : Planner (List Stage)) scope n =
        .ok (branches, n'))
    (h : Stage.meansEach E branches U W) :
    Solved names n' (fun u => (inline : Multiset Row).bind fun row =>
      ({u} * {row} : Multiset Row).bind (G (rows ++ [row]))) U W := by
  induction inline generalizing n branches W with
  | nil =>
    obtain ⟨rfl, rfl⟩ := pure_inv hplan
    obtain rfl : W = [] := h
    exact .none n
  | cons row inline ih =>
    obtain ⟨hrow, hinline⟩ := List.forall_mem_cons.1 hinline
    obtain ⟨hfirst, hothers⟩ := List.forall_mem_cons.1 hlower
    rw [List.mapM_cons] at hplan
    obtain ⟨branch, n₁, hbranch, hplan⟩ := bind_inv hplan
    obtain ⟨branches', n₂, hbranches, hplan⟩ := bind_inv hplan
    obtain ⟨rfl, rfl⟩ := pure_inv hplan
    obtain ⟨V, V', hV, hV', rfl⟩ := h
    -- Planning the other branches draws variables only, so what the first one avoids stays avoided.
    have hlater := (hdraws _).map _ _ _ _ _ hbranch
    have hlater' := draws_mapM (fun row _ => (hdraws (rows ++ [row])).map _) _ _ _ _ hbranches
    obtain ⟨st', n₃, hst', hbranch⟩ := bind_inv hbranch
    obtain ⟨rfl, rfl⟩ := pure_inv hbranch
    obtain ⟨U', hU', hV⟩ := Stage.means_andThen hV
    obtain rfl := Stage.eq_of_works_values hU'
    have hvalues := solved_values hU hn hrow
    have hhere := hvalues.comp (hfirst _ _ _ _ hst' hn hvalues.avoids hV)
    have hthere := ih hinline hothers (hU.later hlater) (hlater.ahead_subset.trans hn) hbranches hV'
    simp only [← Multiset.cons_coe, Multiset.cons_bind]
    exact hhere.append hlater' hthere

/-- The node of a basic graph pattern makes of rows what it means. -/
theorem nodeSolves_bgp (hS : (E.solutions scope.address scope.graph).Coherent) {B : Bgp}
    (hB : ∀ v ∈ B.allVars, v ∈ names.Usual) : NodeSolves E scope names (.bgp B) := by
  intro optional n n' st U W hplan hn hU hsuits h
  refine triplesStage_solves ?_ hB hn hU ?_ hplan h
  · exact hS
  · exact hsuits

/-- **Clauses make of rows what they mean**, one after the other, if the nodes among them do. -/
theorem solved_clauses (hS : (E.solutions scope.address scope.graph).Coherent) {optional : Bool}
    {as : List Algebra} (hover : ∀ a ∈ as, a.Over names.Usual)
    (hnodes : ∀ a ∈ as, NodeSolves E scope names a)
    (hplan : clausesStage rows (clauses as) { scope with optional } n = .ok (st, n'))
    (hn : n.naming.names.Ahead ⊆ names.Ahead) (hU : Fresh n U)
    (hsuits : Part.suitsAll E scope names optional rows (Algebra.parts E scope names as)
      ((U : Multiset Row).map (Row.hide names.Ahead)))
    (h : st.means E U W) :
    Solved names n'
      (Part.solveAll E scope names optional rows (Algebra.parts E scope names as)) U W := by
  induction as generalizing rows n n' st U W with
  | nil =>
    obtain ⟨rfl, rfl⟩ := pure_inv hplan
    obtain rfl : W = U := h
    exact .self hU
  | cons a rest ih =>
    obtain ⟨ha, hover'⟩ := List.forall_mem_cons.1 hover
    obtain ⟨hnode, hnodes'⟩ := List.forall_mem_cons.1 hnodes
    -- A clause that the rest of the group is planned below.
    have hstep : ∀ {p : Planner Stage}, p.Draws →
        (p >>= fun upper => clausesStage rows (clauses rest) >>= fun lower =>
          pure (upper.andThen lower)) { scope with optional } n = .ok (st, n') →
        ∀ m : Meaning, Solves E names p { scope with optional } m →
          m.suits ((U : Multiset Row).map (Row.hide names.Ahead)) ∧
            Part.suitsAll E scope names optional rows (Algebra.parts E scope names rest)
              (((U : Multiset Row).map (Row.hide names.Ahead)).bind m.solve) →
          Solved names n' (fun u => (m.solve u).bind
            (Part.solveAll E scope names optional rows (Algebra.parts E scope names rest))) U W := by
      intro p hdraws hplan m hp hsuits
      obtain ⟨upper, n₁, hupper, hplan⟩ := bind_inv hplan
      obtain ⟨lower, n₂, hlower, hplan⟩ := bind_inv hplan
      obtain ⟨rfl, rfl⟩ := pure_inv hplan
      obtain ⟨V, hV, hW⟩ := Stage.means_andThen h
      have hV := hp _ _ _ _ _ hupper hn hU hsuits.1 hV
      have hn₁ := (hdraws _ _ _ _ hupper).ahead_subset.trans hn
      exact hV.comp (ih hover' hnodes' hlower hn₁ hV.avoids (hV.rows ▸ hsuits.2) hW)
    rw [clauses] at hplan
    cases a with
    | bgp B =>
      exact hstep (draws_triplesStage _) hplan
        ((Part.triples (Bgp.inline rows B)).meaning E scope names optional)
        (nodeSolves_bgp hS (Bgp.forall_mem_allVars_inline rows ha) optional) hsuits
    | filter c =>
      exact hstep (draws_pure _) hplan ((Part.filter c).meaning E scope names optional)
        (hnode optional) hsuits
    | values inline =>
      obtain ⟨branches, n₁, hbranches, hplan⟩ := bind_inv hplan
      obtain ⟨rfl, rfl⟩ := pure_inv hplan
      refine solved_branches
        (G := fun rows => Part.solveAll E scope names optional rows (Algebra.parts E scope names rest))
        (fun rows => draws_clausesStage (draws_clauses rest) rows) (fun row hrow => (ha row hrow).2)
        (fun row hrow n₁ n' st W hlower hn₁ hfresh hW => ?_) hU hn hbranches h
      refine ih hover' hnodes' hlower hn₁ hfresh ?_ hW
      rw [map_hide_filterMap_merge hU hn (ha row hrow).2]
      exact hsuits row hrow
    | bind v e => exact hstep (draws_stage (.bind v e)) hplan _ (hnode optional) hsuits
    | join patterns => exact hstep (draws_stage (.join patterns)) hplan _ (hnode optional) hsuits
    | leftJoin patterns =>
      exact hstep (draws_stage (.leftJoin patterns)) hplan _ (hnode optional) hsuits
    | union patterns => exact hstep (draws_stage (.union patterns)) hplan _ (hnode optional) hsuits
    | _ => exact ha.elim

/-! ## Nodes -/

/-- The nodes of a group may be arranged before their clauses are. -/
theorem parts_arrange (patterns : List Algebra) :
    Algebra.parts E scope names (Algebra.arrange patterns) =
      Arrangement.arrange (Algebra.parts E scope names patterns) := by
  rw [Algebra.parts_eq, Algebra.parts_eq]
  refine (Arrangement.arrange_map (fun a => ?_) (fun _ => rfl) (fun a => ?_) patterns).symm
  · cases a <;> rfl
  · cases a <;> rfl

/-- A group makes of rows what it means if the nodes in it do. -/
theorem solves_group (hS : (E.solutions scope.address scope.graph).Coherent)
    {patterns : List Algebra} (hover : ∀ a ∈ patterns, a.Over names.Usual)
    (hnodes : ∀ a ∈ patterns, NodeSolves E scope names a) (optional : Bool) :
    Solves E names (groupStage (clauses patterns)) { scope with optional }
      (Part.group E scope names optional (Algebra.parts E scope names patterns)) := by
  intro n n' st U W hplan hn hU hsuits h
  have hall : ∀ a ∈ Algebra.arrange patterns,
      a.Over names.Usual ∧ NodeSolves E scope names a := by
    refine Arrangement.forall_arrange (P := fun a => a.Over names.Usual ∧ NodeSolves E scope names a)
      (fun a b ts us ha hb hover hover' => ?_) fun a ha => ⟨hover a ha, hnodes a ha⟩
    have hmerged : ∀ v ∈ Bgp.allVars (ts ++ us), v ∈ names.Usual := by
      obtain rfl : a = .bgp ts := by cases a <;> simp_all [Arrangeable.triples?, Algebra.triples?]
      obtain rfl : b = .bgp us := by cases b <;> simp_all [Arrangeable.triples?, Algebra.triples?]
      exact Bgp.forall_mem_allVars_append.2 ⟨hover.1, hover'.1⟩
    exact ⟨hmerged, nodeSolves_bgp hS hmerged⟩
  rw [groupStage, arrange_clauses] at hplan
  have hsolved := solved_clauses hS (fun a ha => (hall a ha).1) (fun a ha => (hall a ha).2)
    hplan hn hU (by rw [parts_arrange]; exact hsuits) h
  rw [parts_arrange] at hsolved
  exact hsolved

/-- Alternatives make of rows what all of them do. -/
theorem solved_either {as : List Algebra} (hnodes : ∀ a ∈ as, NodeSolves E scope names a)
    {optional : Bool} {sts : List Stage}
    (hplan : branches as { scope with optional } n = .ok (sts, n'))
    (hn : n.naming.names.Ahead ⊆ names.Ahead) (hU : Fresh n U)
    (hsuits : (Algebra.either E scope names as).suits
      ((U : Multiset Row).map (Row.hide names.Ahead)))
    (h : Stage.meansEach E sts U W) :
    Solved names n' (Algebra.either E scope names as).solve U W := by
  induction as generalizing n sts W with
  | nil =>
    obtain ⟨rfl, rfl⟩ := pure_inv hplan
    obtain rfl : W = [] := h
    exact .none n
  | cons a rest ih =>
    obtain ⟨hnode, hothers⟩ := List.forall_mem_cons.1 hnodes
    rw [branches] at hplan
    obtain ⟨branch, n₁, hbranch, hplan⟩ := bind_inv hplan
    obtain ⟨sts', n₂, hbranches, hplan⟩ := bind_inv hplan
    obtain ⟨rfl, rfl⟩ := pure_inv hplan
    obtain ⟨V, V', hV, hV', rfl⟩ := h
    have hlater := draws_stage a _ _ _ _ hbranch
    exact (hnode false _ _ _ _ _ hbranch hn hU hsuits.1 hV).append
      (draws_branches rest _ _ _ _ hbranches)
      (ih hothers hbranches (hlater.ahead_subset.trans hn) (hU.later hlater) hsuits.2 hV')

/-- Inline rows as a node make of rows what they mean. -/
theorem nodeSolves_values {inline : List (VariableMap (Option Term))}
    (hinline : ∀ row ∈ inlineRows inline, ∀ v, row.binds v = true → v ∈ names.Usual) :
    NodeSolves E scope names (.values inline) := by
  intro optional n n' st U W hplan hn hU _ h
  obtain ⟨branches, n₁, hbranches, hplan⟩ := bind_inv hplan
  obtain ⟨rfl, rfl⟩ := pure_inv hplan
  have hself : ∀ u : Row, ((inlineRows inline : Multiset Row).bind fun row =>
      ({u} * {row} : Multiset Row).bind fun w => {w}) = {u} * (inlineRows inline : Multiset Row) := by
    intro u
    rw [mul_comm, RowBag.mul_eq_bind]
    refine Multiset.bind_congr fun row _ => ?_
    rw [Multiset.bind_singleton, Multiset.map_id', mul_comm]
  have hsolved := solved_branches (G := fun _ w => {w})
    (fun rows => draws_clausesStage (draws_clauses []) rows) hinline
    (fun row _ n n' st W hlower _ hfresh hW => ?_) hU hn hbranches h
  · simp only [hself] at hsolved
    exact hsolved
  · obtain ⟨rfl, rfl⟩ := pure_inv hlower
    obtain rfl : W = _ := hW
    exact .self hfresh

mutual

/-- **Nodes make of rows what they mean.** -/
theorem nodeSolves (hS : (E.solutions scope.address scope.graph).Coherent) (a : Algebra)
    (ha : a.Over names.Usual) : NodeSolves E scope names a := by
  match a, ha with
  | .bgp B, ha => exact nodeSolves_bgp hS ha
  | .values inline, ha => exact nodeSolves_values fun row hrow => (ha row hrow).2
  | .filter c, ha =>
    intro optional n n' st U W hplan _ hU _ h
    obtain ⟨rfl, rfl⟩ := pure_inv hplan
    exact solved_filter hU ha h
  | .bind v e, ha =>
    intro optional n n' st U W hplan hn hU _ h
    obtain ⟨rfl, rfl⟩ := pure_inv hplan
    exact solved_bind hU hn ha.1 ha.2 h
  | .join patterns, ha =>
    intro optional
    exact solves_group hS (Algebra.overEach_iff.1 ha) (nodesSolve hS patterns ha) false
  | .leftJoin patterns, ha =>
    intro optional
    exact solves_group hS (Algebra.overEach_iff.1 ha) (nodesSolve hS patterns ha) true
  | .union patterns, ha =>
    intro optional n n' st U W hplan hn hU hsuits h
    obtain ⟨sts, n₁, hbranches, hplan⟩ := bind_inv hplan
    obtain ⟨rfl, rfl⟩ := pure_inv hplan
    exact solved_either (nodesSolve hS patterns ha) hbranches hn hU hsuits h
  | .service _ _ _, ha => exact ha.elim
  | .groupBy _ _ _, ha => exact ha.elim
  | .having _ _, ha => exact ha.elim
  | .project _ _, ha => exact ha.elim
  | .orderBy _ _, ha => exact ha.elim
  | .distinct _, ha => exact ha.elim
  | .slice _ _ _, ha => exact ha.elim
  | .construct _ _, ha => exact ha.elim
  | .describe _ _, ha => exact ha.elim
  | .ask _, ha => exact ha.elim
  | .minus _, ha => exact ha.elim
  | .graph _ _, ha => exact ha.elim

/-- The nodes of a list make of rows what they mean. -/
theorem nodesSolve (hS : (E.solutions scope.address scope.graph).Coherent) (as : List Algebra)
    (has : Algebra.OverEach names.Usual as) : ∀ a ∈ as, NodeSolves E scope names a := by
  match as, has with
  | [], _ => exact fun a ha => absurd ha List.not_mem_nil
  | a :: rest, has =>
    exact List.forall_mem_cons.2 ⟨nodeSolves hS a has.1, nodesSolve hS rest has.2⟩

end

end Plan

end PagedSparql
