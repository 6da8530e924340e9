import PagedSparql.Proofs.Algebra.Places
import PagedSparql.Proofs.Pipeline.Addressed
import PagedSparql.Proofs.Plan.Clients

/-!
# Plans of patterns at their places

Planning a node gives bound joins for its basic graph patterns only, each told the endpoint and the
graph of the place of its pattern, and opens clients for its services only, one for each endpoint
(`Plan.plans_stage`). What is known of a computation of the planner is `Planner.Plans`: it says what
the results are and which clients are opened, so that it goes through computations in a row.
-/

namespace PagedSparql

variable {α β : Type}

namespace Stage

variable {J : BoundJoin → Prop} {st : Stage}

/-- One stage above another. -/
theorem Each.andThen {upper lower : Stage} (hupper : upper.Each J) (hlower : lower.Each J) :
    (upper.andThen lower).Each J := by
  rcases Stage.andThen_cases upper lower with ⟨-, heq⟩ | ⟨-, heq⟩ | heq
  · rwa [heq]
  · rwa [heq]
  · rw [heq]
    exact .chain hupper hlower

/-- A stage that one empty row comes to. -/
theorem Each.fromEmptyRow (h : st.Each J) : st.fromEmptyRow.Each J :=
  Each.andThen (.source [.empty] .done) h

end Stage

namespace Planner

variable {p : Planner α} {f : α → Planner β} {opens opens' : String → Prop}
  {Q Q' : Scope → α → Prop} {R : Scope → β → Prop}

/-- Planning opens clients for just some endpoints, one for each, and has results of a kind. -/
def Plans (p : Planner α) (opens : String → Prop) (Q : Scope → α → Prop) : Prop :=
  ∀ scope n a n', p scope n = .ok (a, n') →
    Q scope a ∧ (n.clients.Nodup → n'.clients.Nodup) ∧
      ∀ address, address ∈ n'.clients ↔ address ∈ n.clients ∨ opens address

/-- A given result. -/
theorem plans_pure {a : α} (h : ∀ scope, Q scope a) :
    (pure a : Planner α).Plans (fun _ => False) Q := by
  intro scope n b n' hb
  obtain ⟨rfl, rfl⟩ := pure_inv hb
  exact ⟨h scope, id, by simp⟩

/-- Two computations in a row. -/
theorem Plans.bind (hp : p.Plans opens Q)
    (hf : ∀ a, (f a).Plans opens' fun scope b => Q scope a → R scope b) :
    (p >>= f).Plans (fun address => opens address ∨ opens' address) R := by
  intro scope n b n' h
  obtain ⟨a, n₁, ha, hb⟩ := bind_inv h
  obtain ⟨hQ, hnodup, hclients⟩ := hp _ _ _ _ ha
  obtain ⟨hR, hnodup', hclients'⟩ := hf a _ _ _ _ hb
  exact ⟨hR hQ, hnodup' ∘ hnodup, fun address => by rw [hclients', hclients, or_assoc]⟩

/-- The same clients, and weaker properties of results. -/
theorem Plans.congr (hp : p.Plans opens Q) (hopens : ∀ address, opens address ↔ opens' address)
    (hQ : ∀ scope a, Q scope a → Q' scope a) : p.Plans opens' Q' := by
  intro scope n a n' h
  obtain ⟨ha, hnodup, hclients⟩ := hp scope n a n' h
  exact ⟨hQ _ _ ha, hnodup, fun address => by rw [hclients, hopens]⟩

/-- A computation that opens nothing before another one, whose results are of a kind. -/
theorem Still.bind_plans_of_gives {K : α → Prop} (hp : p.Still) (hK : p.Gives K)
    (hf : ∀ a, K a → (f a).Plans opens R) : (p >>= f).Plans opens R := by
  intro scope n b n' h
  obtain ⟨a, n₁, ha, hb⟩ := bind_inv h
  have hclients := hp _ _ _ _ ha
  obtain ⟨hR, hnodup, hopens⟩ := hf a (hK _ _ _ _ ha) _ _ _ _ hb
  exact ⟨hR, hclients ▸ hnodup, hclients ▸ hopens⟩

/-- A computation that opens nothing before another one. -/
theorem Still.bind_plans (hp : p.Still) (hf : ∀ a, (f a).Plans opens R) :
    (p >>= f).Plans opens R :=
  hp.bind_plans_of_gives (K := fun _ => True) (fun _ _ _ _ _ => trivial) fun a _ => hf a

/-- A computation that opens nothing after another one. -/
theorem Plans.bind_still (hp : p.Plans opens Q)
    (hf : ∀ a, (f a).Plans (fun _ => False) fun scope b => Q scope a → R scope b) :
    (p >>= f).Plans opens R :=
  (hp.bind hf).congr (by simp) fun _ _ h => h

/-- A computation whose result is changed. -/
theorem Plans.map (hp : p.Plans opens Q) {g : α → β} (hg : ∀ scope a, Q scope a → R scope (g a)) :
    (do return g (← p) : Planner β).Plans opens R :=
  hp.bind_still fun a => plans_pure fun scope => hg scope a

/-- No result at all. -/
theorem plans_refuse (e : BuildError) : (refuse e : Planner α).Plans opens Q :=
  fun _ _ _ _ h => (refuse_inv h).elim

/-- A computation inside or outside of an optional group. -/
theorem Plans.withOptional (hp : p.Plans opens Q) (optional : Bool) :
    (p.withOptional optional).Plans opens fun scope => Q { scope with optional } :=
  fun _ _ _ _ h => hp _ _ _ _ h

/-- A client is opened unless there is one. -/
theorem plans_openClient (address : String) :
    (openClient address).Plans (fun other => other = address) fun _ _ => True := by
  intro scope n u n' h
  refine ⟨trivial, ?_⟩
  obtain ⟨hmem, rfl⟩ | ⟨hnew, -, rfl⟩ := openClient_inv h
  · exact ⟨id, fun other => by simpa using fun heq : other = address => heq ▸ hmem⟩
  · refine ⟨fun hnodup => ?_, fun other => by simp⟩
    rw [List.nodup_append]
    refine ⟨hnodup, List.nodup_singleton _, ?_⟩
    rintro other hother _ hmem rfl
    exact hnew (List.mem_singleton.1 hmem ▸ hother)

/-- A computation at another endpoint, whose client is opened first. -/
theorem Plans.service (hp : p.Plans opens Q) (address : String) :
    (Planner.service address p).Plans (fun other => other = address ∨ opens other)
      fun scope => Q { scope with address, graph := address } := by
  intro scope n a n' h
  obtain ⟨n₁, n₂, hopen, hinner, rfl⟩ := service_steps h
  obtain ⟨-, hnodup, hclients⟩ := plans_openClient address _ _ _ _ hopen
  obtain ⟨hQ, hnodup', hclients'⟩ := hp _ _ _ _ hinner
  exact ⟨hQ, hnodup' ∘ hnodup, fun other => by rw [hclients', hclients, or_assoc]⟩

/-- A list of results, if there is any item. -/
theorem plans_mapM {g : α → Planner β} (items : List α)
    (hg : ∀ a ∈ items, (g a).Plans opens R) :
    (items.mapM g).Plans (fun address => items ≠ [] ∧ opens address)
      fun scope bs => ∀ b ∈ bs, R scope b := by
  induction items with
  | nil =>
    rw [List.mapM_nil]
    exact (plans_pure (by simp)).congr (by simp) fun _ _ h => h
  | cons a rest ih =>
    obtain ⟨ha, hrest⟩ := List.forall_mem_cons.1 hg
    rw [List.mapM_cons]
    refine (ha.bind fun b => (ih hrest).bind_still fun bs => plans_pure ?_).congr
      (fun address => ?_) fun _ _ h => h
    · exact fun scope hbs hb => List.forall_mem_cons.2 ⟨hb, hbs⟩
    · constructor
      · rintro (h | ⟨-, h⟩) <;> exact ⟨by simp, h⟩
      · exact fun h => .inl h.2

end Planner

namespace Plan

open Planner PagedSparql.Algebra

/-- A new bound join of a place. -/
structure New (scope : Scope) (j : BoundJoin) : Prop where
  /-- It asks the endpoint of the place. -/
  address : j.goal.address = scope.address
  /-- It asks about the graph of the place. -/
  graph : j.goal.graph = scope.graph
  /-- It keeps rows only where the place is optional. -/
  optional : j.goal.optional = true → scope.optional = true
  /-- It has not begun. -/
  round : j.round? = none

variable {scope : Scope} {n n' : PlanState} {st : Stage} {B : List TriplePattern}
  {goal : BoundPattern}

/-- Conditions have no bound joins. -/
theorem each_filterStages {J : BoundJoin → Prop} (conditions : List Expression) :
    (filterStages conditions).Each J := by
  induction conditions with
  | nil => exact .leaf rfl
  | cons c rest ih => exact Stage.Each.andThen (.leaf rfl) ih

mutual

/-- The bound joins of a pattern without paths are new ones of its place. -/
theorem new_pathFreeStage (scope : Scope) (p : PathFree) :
    (pathFreeStage scope p).Each (New scope) := by
  match p with
  | .flat triples conditions =>
    rw [pathFreeStage]
    refine Stage.Each.andThen ?_ (each_filterStages conditions)
    unfold joinStage
    split
    · exact .leaf rfl
    · exact .remote ⟨rfl, rfl, id, rfl⟩
  | .split branches conditions =>
    rw [pathFreeStage]
    refine Stage.Each.andThen (.fork fun b hb => ?_) (each_filterStages conditions)
    have hnew := new_pathFreeStages { scope with optional := false } branches b hb
    exact hnew.mono fun j hj => ⟨hj.address, hj.graph, fun h => absurd (hj.optional h) (by simp),
      hj.round⟩

/-- The bound joins of patterns without paths are new ones of their place. -/
theorem new_pathFreeStages (scope : Scope) (ps : List PathFree) :
    ∀ st ∈ pathFreeStages scope ps, st.Each (New scope) := by
  match ps with
  | [] => simp [pathFreeStages]
  | p :: rest =>
    rw [pathFreeStages]
    exact List.forall_mem_cons.2 ⟨new_pathFreeStage scope p, new_pathFreeStages scope rest⟩

end

/-- The bound joins of a basic graph pattern are new ones of its place. -/
theorem new_triplesStage {triples : List TriplePattern}
    (h : triplesStage triples scope n = .ok (st, n')) : st.Each (New scope) := by
  obtain ⟨-, rfl⟩ | ⟨-, triples', n₁, pattern, names, -, -, hst⟩ := triplesStage_inv h
  · exact .leaf rfl
  · split at hst
    · obtain ⟨tag, -, rfl⟩ := hst
      refine .optional ((new_pathFreeStage _ pattern).mono fun j hj => ?_)
      exact ⟨hj.address, hj.graph, fun h => absurd (hj.optional h) (by simp), hj.round⟩
    · subst hst
      exact new_pathFreeStage scope pattern

/-- What a bound join is told that is part of the plan of a basic graph pattern at a place, with the
inline rows of the place put into the pattern. -/
def Tells (scope : Scope) (rows : List Row) (B : List TriplePattern) (goal : BoundPattern) : Prop :=
  ∃ (n n' : PlanState) (st : Stage) (j : BoundJoin),
    triplesStage (B.map fun t => rows.foldl TriplePattern.substitute t) scope n = .ok (st, n') ∧
      st.Holds j ∧ j.goal = goal

/-- A bound join of a pattern is told the endpoint and the graph of the place of the pattern, and to
keep rows only where the place is optional. -/
theorem Tells.about (h : Tells scope rows B goal) : goal.address = scope.address ∧
    goal.graph = scope.graph ∧ (goal.optional = true → scope.optional = true) := by
  obtain ⟨n, n', st, j, hplan, hj, rfl⟩ := h
  have hnew := (new_triplesStage hplan).of_holds hj
  exact ⟨hnew.address, hnew.graph, hnew.optional⟩

/-- What bound joins are told for the basic graph patterns that planning a node at a place comes to.
-/
def Asked (base : Scope) (place : Place) (a : Algebra) (goal : BoundPattern) : Prop :=
  ∃ place' B, a.Visits place place' (.bgp B) ∧ Tells (base.at place') place'.rows B goal

/-- The bound joins of the stage of a node are those of the basic graph patterns that planning it
comes to. -/
def Serves (a : Algebra) (scope : Scope) (st : Stage) : Prop :=
  ∀ base place, Scope.at base place = scope → place.rows = [] → st.Serves (Asked base place a)

/-- A node that is planned right below another one. -/
theorem Asked.below {base : Scope} {place place' : Place} {a b : Algebra}
    (h : Below place a place' b) (hb : Asked base place' b goal) : Asked base place a goal := by
  obtain ⟨place'', B, hvisits, htells⟩ := hb
  exact ⟨place'', B, .down h hvisits, htells⟩

/-- A basic graph pattern is planned, with some inline rows put into it. -/
theorem plans_triplesStage (B : List TriplePattern) (rows : List Row) :
    (triplesStage (B.map fun t => rows.foldl TriplePattern.substitute t)).Plans (fun _ => False)
      fun scope st => st.Serves (Tells scope rows B) := by
  have hstill : ∀ triples, (triplesStage triples).Still := by
    intro triples
    unfold triplesStage
    split
    · exact still_pure _
    · refine (still_blanksToVariables _ _).bind fun _ => (still_naming _).bind fun _ =>
        still_read.bind fun _ => ?_
      split
      · exact still_fresh.bind fun _ => still_pure _
      · exact still_pure _
  intro scope n st n' h
  have hclients := hstill _ scope n st n' h
  refine ⟨Stage.each_of_holds st fun j hj => ⟨⟨n, n', st, j, h, hj, rfl⟩, ?_⟩,
    hclients ▸ id, by simp [hclients]⟩
  rw [((new_triplesStage h).of_holds hj).round]
  exact nofun

/-- What is known of the plans of clauses behind inline rows: their bound joins are told what the
clauses tell that planning comes to. -/
def ServesClauses (rows : List Row) (as : List Algebra) (scope : Scope) (st : Stage) : Prop :=
  ∀ base place, Scope.at base place = scope → st.Serves fun goal =>
    ∃ behind a, Reached a behind as ∧ Asked base (place.clause (rows ++ behind) a) a goal

/-- The stage of a clause above that of the others. -/
theorem ServesClauses.cons {a : Algebra} {rest : List Algebra} {upper lower : Stage}
    (ha : ∀ inline, a ≠ .values inline)
    (hupper : ∀ base place, Scope.at base place = scope →
      upper.Serves (Asked base (place.clause rows a) a))
    (hlower : ServesClauses rows rest scope lower) :
    ServesClauses rows (a :: rest) scope (upper.andThen lower) := by
  intro base place hscope
  refine Stage.Each.andThen ?_ ?_
  · refine Stage.Serves.mono (hupper base place hscope) fun g hg => ⟨[], a, .head rest, ?_⟩
    rwa [List.append_nil]
  · refine Stage.Serves.mono (hlower base place hscope) fun g hg => ?_
    obtain ⟨behind, b, hb, hg⟩ := hg
    exact ⟨behind, b, .tail ha hb, hg⟩

/-- A clause that is planned before the others serves its node. -/
theorem plans_clauseOf {a : Algebra} {plan : Planner Stage}
    (ha : (stage a).Plans a.Calls (Serves a)) (h : clauseOf a (stage a) = .other plan)
    (rows : List Row) :
    plan.Plans a.Calls fun scope st => ∀ base place, Scope.at base place = scope →
      st.Serves (Asked base (place.clause rows a) a) := by
  have hrows : ∀ place : Place, (place.clause rows a).rows = [] := by
    intro place
    cases a with
    | bgp _ => exact nomatch h
    | _ => rfl
  unfold clauseOf at h
  split at h
  · exact absurd h (by simp)
  · exact absurd h (by simp)
  · exact absurd h (by simp)
  · split at h
    · next hsub =>
      obtain rfl := Clause.other.inj h
      refine (ha.withOptional false).map fun scope st hst base place hscope => ?_
      have hplace : Scope.at base (place.clause rows a) = { scope with optional := false } := by
        simp [← hscope, Scope.at, Place.clause, hsub]
      exact .nested (.leaf rfl) (Stage.Each.fromEmptyRow (hst base _ hplace (hrows place)))
    · next hsub =>
      obtain rfl := Clause.other.inj h
      refine ha.congr (fun _ => .rfl) fun scope st hst base place hscope => ?_
      have hplace : Scope.at base (place.clause rows a) = scope := by
        simp [← hscope, Scope.at, Place.clause, hsub]
      exact hst base _ hplace (hrows place)

/-- A clause that is not planned before the others. -/
theorem clauseOf_cases (a : Algebra) (planned : Planner Stage) :
    (∃ rows, a = .values rows) ∨ (∃ B, a = .bgp B) ∨ (∃ condition, a = .filter condition) ∨
      ∃ plan, clauseOf a planned = .other plan ∧ ∀ rows, a ≠ .values rows := by
  cases a with
  | values rows => exact .inl ⟨rows, rfl⟩
  | bgp B => exact .inr (.inl ⟨B, rfl⟩)
  | filter condition => exact .inr (.inr (.inl ⟨condition, rfl⟩))
  | _ => exact .inr (.inr (.inr ⟨_, rfl, nofun⟩))

/-- The clauses of a group, in order. -/
theorem plans_clausesStage {as : List Algebra}
    (has : ∀ a ∈ as, (stage a).Plans a.Calls (Serves a)) (rows : List Row) :
    (clausesStage rows (clauses as)).Plans
      (fun address => ∃ behind a, Reached a behind as ∧ a.Calls address)
      (ServesClauses rows as) := by
  induction as generalizing rows with
  | nil =>
    refine (plans_pure fun _ _ _ _ => .leaf rfl).congr (fun address => ?_) fun _ _ h => h
    refine ⟨False.elim, ?_⟩
    rintro ⟨_, _, h, -⟩
    cases h
  | cons a rest ih =>
    obtain ⟨ha, hrest⟩ := List.forall_mem_cons.1 has
    have ih := ih hrest
    rw [clauses]
    rcases clauseOf_cases a (stage a) with ⟨inline, rfl⟩ | ⟨B, rfl⟩ | ⟨c, rfl⟩ | ⟨plan, hplan, hne⟩
    · -- The rest is planned once for each inline row.
      have hbranches := plans_mapM (g := fun row =>
          (do return (Stage.values row).andThen (← clausesStage (rows ++ [row]) (clauses rest))))
        (R := fun scope st =>
          ∃ row ∈ inlineRows inline, ServesClauses (rows ++ [row]) rest scope st)
        (inlineRows inline) fun row hrow =>
          (ih (rows ++ [row])).map fun scope st hst => ⟨row, hrow, fun base place hscope =>
            Stage.Each.andThen (.leaf rfl) (hst base place hscope)⟩
      have hfork := hbranches.map (g := Stage.forkOf)
        (R := ServesClauses rows (.values inline :: rest)) fun scope sts hsts base place hscope =>
          .fork fun b hb => by
            obtain ⟨row, hrow, hst⟩ := hsts b hb
            refine Stage.Serves.mono (hst base place hscope) fun g hg => ?_
            obtain ⟨behind, c, hc, hg⟩ := hg
            rw [List.append_assoc] at hg
            exact ⟨row :: behind, c, .inline hrow hc, hg⟩
      exact hfork.congr (fun address => (calls_inline address).symm) fun _ _ h => h
    · have htriples := (plans_triplesStage B rows).bind fun upper => (ih rows).map
        (g := fun lower => upper.andThen lower)
        (R := fun scope st =>
          upper.Serves (Tells scope rows B) → ServesClauses rows (.bgp B :: rest) scope st)
        fun scope lower hlower hupper => ServesClauses.cons (by simp) (fun base place hscope => by
          subst hscope
          refine Stage.Serves.mono hupper fun g hg => ⟨_, B, .self _ _, ?_⟩
          rwa [Place.clause_bgp]) hlower
      refine htriples.congr (fun address => ?_) fun _ _ h => h
      rw [calls_cons (a := .bgp B) (by simp), iff_false_intro (not_calls rfl)]
    · have hfilter := (ih rows).map (g := fun lower => (Stage.filter c).andThen lower)
        (R := ServesClauses rows (.filter c :: rest)) fun scope lower hlower =>
          ServesClauses.cons (by simp) (fun base place hscope => .leaf rfl) hlower
      refine hfilter.congr (fun address => ?_) fun _ _ h => h
      rw [calls_cons (a := .filter c) (by simp), iff_false_intro (not_calls rfl), false_or]
    · rw [hplan]
      have hother := (plans_clauseOf ha hplan rows).bind fun upper => (ih rows).map
        (g := fun lower => upper.andThen lower)
        (R := fun scope st => (∀ base place, Scope.at base place = scope →
          upper.Serves (Asked base (place.clause rows a) a)) →
            ServesClauses rows (a :: rest) scope st)
        fun scope lower hlower hupper => ServesClauses.cons hne hupper hlower
      exact hother.congr (fun address => (calls_cons hne address).symm) fun _ _ h => h

/-- A basic graph pattern that stands alone. -/
theorem plans_bgp (B : List TriplePattern) : (stage (.bgp B)).Plans (Algebra.bgp B).Calls
    (Serves (.bgp B)) := by
  have htriples := plans_triplesStage B []
  have hB : (B.map fun t => [].foldl TriplePattern.substitute t) = B := List.map_id' B
  rw [hB] at htriples
  refine htriples.congr (fun address => (iff_false_intro (not_calls rfl)).symm)
    fun scope st hst base place hscope hrows => ?_
  subst hscope
  refine Stage.Serves.mono hst fun g hg => ⟨_, B, .self _ _, ?_⟩
  rwa [hrows]

/-- The clauses of a group, in the order in which they are arranged. -/
theorem plans_groupStage {patterns : List Algebra}
    (h : ∀ a ∈ patterns, (stage a).Plans a.Calls (Serves a)) :
    (groupStage (clauses patterns)).Plans
      (fun address => ∃ behind a, Reached a behind (arrange patterns) ∧ a.Calls address)
      (ServesClauses [] (arrange patterns)) := by
  rw [groupStage, arrange_clauses]
  refine plans_clausesStage (fun a ha => ?_) []
  rcases Arrangement.mem_arrange ha with ha | ⟨B, rfl⟩
  · exact h a ha
  · exact plans_bgp B

/-- A group asks for what its clauses ask for. -/
theorem serves_group {base : Scope} {place inside : Place} {a : Algebra} {patterns : List Algebra}
    (hgroup : a.group? place = some (inside, patterns))
    (hst : st.Serves fun goal =>
      ∃ behind b, Reached b behind (arrange patterns) ∧
        Asked base (inside.clause behind b) b goal) :
    st.Serves (Asked base place a) :=
  Stage.Serves.mono hst fun _ ⟨_, _, hb, hg⟩ => hg.below (.clause hgroup hb)

/-- A node that modifies another one by stages without bound joins asks for what this one asks for.
-/
theorem serves_input {a b : Algebra} {lower : Stage} (hinput : a.input? = some b)
    (hst : Serves b scope st) (hlower : ∀ J, lower.Each J) :
    Serves a scope (st.andThen lower) := by
  intro base place hscope hrows
  refine Stage.Each.andThen ?_ (hlower _)
  exact Stage.Serves.mono (hst base place hscope hrows) fun _ hg => hg.below (.input hinput)

/-- A node that modifies another one by one stage without bound joins. -/
theorem plans_modified {a b : Algebra} {lower : Stage} (hinput : a.input? = some b)
    (hlower : lower.isLeaf = true) (hb : (stage b).Plans b.Calls (Serves b)) :
    (do return (← stage b).andThen lower : Planner Stage).Plans a.Calls (Serves a) :=
  (hb.map fun _ _ h => serves_input hinput h fun _ => .leaf hlower).congr (calls_input hinput)
    fun _ _ h => h

/-- Group keys ask nobody. -/
theorem plans_groupKeys (keys : List GroupKey) :
    (groupKeys keys).Plans (fun _ => False) fun _ k => ∀ J, k.2.Each J := by
  have hleaf : ∀ {v : Variable} {e : Expression} (J : BoundJoin → Prop), (Stage.bind v e).Each J :=
    fun _ => .leaf rfl
  have hkey : ∀ key : GroupKey,
      (groupKey key).Plans (fun _ => False) fun _ k => ∀ J, k.2.Each J := by
    intro key
    unfold groupKey
    split
    · exact plans_pure fun _ _ => .leaf rfl
    · split
      · exact plans_pure fun _ _ => .leaf rfl
      · exact plans_pure fun _ => hleaf
    · exact plans_pure fun _ => hleaf
    · exact still_fresh.bind_plans fun v => plans_pure fun _ => hleaf
  induction keys with
  | nil => exact plans_pure fun _ _ => .leaf rfl
  | cons key rest ih =>
    exact (hkey key).bind_still fun upper => ih.bind_still fun lower =>
      plans_pure fun _ hlower hupper J => (hupper J).andThen (hlower J)

/-- Inline rows alone ask nobody. -/
theorem plans_values (rows : List (VariableMap (Option Term))) :
    (stage (.values rows)).Plans (Algebra.values rows).Calls (Serves (.values rows)) := by
  have hbranches := plans_mapM (g := fun row =>
      (do return (Stage.values row).andThen (← clausesStage ([] ++ [row]) []) : Planner Stage))
    (R := fun _ st => ∀ J, st.Each J) (inlineRows rows) fun row _ =>
      (plans_pure fun _ _ => .leaf rfl : (clausesStage ([] ++ [row]) []).Plans (fun _ => False)
        fun _ st => ∀ J, st.Each J).map fun _ _ h J => Stage.Each.andThen (.leaf rfl) (h J)
  have hfork := hbranches.map (g := Stage.forkOf) (R := Serves (.values rows))
    fun _ sts hsts base place _ _ => .fork fun b hb => hsts b hb _
  exact hfork.congr (fun address => by simp [not_calls (a := .values rows) rfl]) fun _ _ h => h

/-- Alternatives ask for what each of them asks for. -/
theorem plans_branches {patterns : List Algebra}
    (h : ∀ a ∈ patterns, (stage a).Plans a.Calls (Serves a)) :
    (branches patterns).Plans (fun address => ∃ a ∈ patterns, a.Calls address) fun scope sts =>
      ∀ base place, Scope.at base place = scope → place.rows = [] → ∀ st ∈ sts,
        st.Serves fun goal =>
          ∃ a ∈ patterns, Asked base { place with optional := false } a goal := by
  induction patterns with
  | nil =>
    exact (plans_pure (by simp)).congr (by simp) fun _ _ h => h
  | cons a rest ih =>
    obtain ⟨ha, hrest⟩ := List.forall_mem_cons.1 h
    refine ((ha.withOptional false).bind fun branch => (ih hrest).bind_still fun others =>
      plans_pure fun scope hothers hbranch base place hscope hrows => ?_).congr
        (fun address => by simp) fun _ _ h => h
    refine List.forall_mem_cons.2 ⟨?_, fun st hst => ?_⟩
    · have hbranch := hbranch base { place with optional := false } (hscope ▸ rfl) hrows
      exact Stage.Serves.mono hbranch fun g hg => ⟨a, List.mem_cons_self, hg⟩
    · refine Stage.Serves.mono (hothers base place hscope hrows st hst) fun g hg => ?_
      obtain ⟨b, hb, hg⟩ := hg
      exact ⟨b, List.mem_cons_of_mem _ hb, hg⟩

mutual

/-- **Where patterns go.** Planning a node gives bound joins for the basic graph patterns that it
comes to, each told the endpoint and the graph of the place of its pattern, and opens a client for
each of the services that it comes to. -/
theorem plans_stage (a : Algebra) : (stage a).Plans a.Calls (Serves a) := by
  match a with
  | .join patterns =>
    refine ((plans_groupStage (plans_nodes patterns)).withOptional false).congr (fun address => ?_)
      fun scope st hst base place hscope _ => ?_
    · have hgroup : (Algebra.join patterns).group? {} = some ({}, patterns) := rfl
      rw [← calls_group hgroup]
      simp [Algebra.Brings]
    · exact serves_group rfl (hst base { place with optional := false } (hscope ▸ rfl))
  | .leftJoin patterns =>
    refine ((plans_groupStage (plans_nodes patterns)).withOptional true).congr (fun address => ?_)
      fun scope st hst base place hscope _ => ?_
    · have hgroup : (Algebra.leftJoin patterns).group? {} =
          some ({ optional := true }, patterns) := rfl
      rw [← calls_group hgroup]
      simp [Algebra.Brings]
    · exact serves_group rfl (hst base { place with optional := true } (hscope ▸ rfl))
  | .bgp B => exact plans_bgp B
  | .filter condition =>
    exact (plans_pure fun _ _ _ _ _ => .leaf rfl).congr
      (fun _ => (iff_false_intro (not_calls rfl)).symm) fun _ _ h => h
  | .bind v e =>
    exact (plans_pure fun _ _ _ _ _ => .leaf rfl).congr
      (fun _ => (iff_false_intro (not_calls rfl)).symm) fun _ _ h => h
  | .values rows => exact plans_values rows
  | .union patterns =>
    refine ((plans_branches (plans_nodes patterns)).map
      fun scope sts hsts base place hscope hrows => .fork fun b hb => ?_).congr calls_union
        fun _ _ h => h
    refine Stage.Serves.mono (hsts base place hscope hrows b hb) fun g hg => ?_
    obtain ⟨c, hc, hg⟩ := hg
    exact hg.below (.branch hc)
  | .service name silent patterns =>
    refine (still_ofExcept _).bind_plans_of_gives (fun _ _ _ _ h => (ofExcept_inv h).1)
      fun address haddress => ?_
    have hgroup : ∀ place, (Algebra.service name silent patterns).group? place =
        some ({ place with service? := some address }, patterns) := by
      intro place
      rw [group?, haddress]
    refine ((plans_groupStage (plans_nodes patterns)).service address).congr (fun other => ?_)
      fun scope st hst base place hscope _ => ?_
    · rw [← calls_group (hgroup {})]
      refine or_congr_left ⟨?_, ?_⟩
      · rintro rfl
        exact ⟨name, silent, patterns, rfl, haddress⟩
      · rintro ⟨_, _, _, heq, haddress'⟩
        cases heq
        exact Except.ok.inj (haddress'.symm.trans haddress)
    · exact serves_group (hgroup place)
        (hst base { place with service? := some address } (hscope ▸ rfl))
  | .groupBy input keys aggregates =>
    refine ((plans_stage input).bind_still fun source => (plans_groupKeys keys).bind_still
      fun binds => (still_ofExcept _).bind_plans fun folds =>
        plans_pure fun scope hbinds hsource base place hscope hrows => ?_).congr (calls_input rfl)
          fun _ _ h => h
    exact Stage.Each.andThen (serves_input rfl hsource hbinds base place hscope hrows) (.leaf rfl)
  | .having input condition => exact plans_modified rfl rfl (plans_stage input)
  | .project input columns =>
    exact ((plans_stage input).bind_still fun source => still_drawn.bind_plans fun hidden =>
      plans_pure fun _ hsource => serves_input rfl hsource fun _ => .leaf rfl).congr
        (calls_input rfl) fun _ _ h => h
  | .orderBy input conditions => exact plans_modified rfl rfl (plans_stage input)
  | .distinct input => exact plans_modified rfl rfl (plans_stage input)
  | .slice input offset limit => exact plans_modified rfl rfl (plans_stage input)
  | .construct _ _ => exact plans_refuse _
  | .describe _ _ => exact plans_refuse _
  | .ask _ => exact plans_refuse _
  | .minus _ => exact plans_refuse _
  | .graph _ _ => exact plans_refuse _

/-- What is known of the plan of a node is known of each one of several. -/
theorem plans_nodes (as : List Algebra) : ∀ a ∈ as, (stage a).Plans a.Calls (Serves a) := by
  match as with
  | [] => simp
  | a :: rest => exact List.forall_mem_cons.2 ⟨plans_stage a, plans_nodes rest⟩

end

end Plan

end PagedSparql
