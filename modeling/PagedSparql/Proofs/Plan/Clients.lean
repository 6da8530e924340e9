import PagedSparql.Proofs.Pipeline.Confined
import PagedSparql.Proofs.Plan.Drawing

/-!
# The clients of a plan

Planning opens a client for every endpoint that its stages ask, and closes none: a planned query is
confined to the endpoints whose clients were opened for it (`Plan.opens_query`). This holds at any
place whose own endpoint has a client, which planning sees to for the endpoint of the query and for
that of each service.
-/

namespace PagedSparql

variable {α β : Type}

/-- A stage above another is confined if both are. -/
theorem Stage.Confined.andThen {asked : String → Prop} {upper lower : Stage}
    (hupper : upper.Confined asked) (hlower : lower.Confined asked) :
    (upper.andThen lower).Confined asked := by
  rcases Stage.andThen_cases upper lower with ⟨-, heq⟩ | ⟨-, heq⟩ | heq
  · rwa [heq]
  · rwa [heq]
  · rw [heq]
    exact .chain hupper hlower

namespace Planner

variable {p : Planner α} {f : α → Planner β} {Q : List String → α → Prop}
  {R : List String → β → Prop} {scope : Scope} {n n' : PlanState}

/-- Planning opens no client. -/
def Still (p : Planner α) : Prop :=
  ∀ scope n a n', p scope n = .ok (a, n') → n'.clients = n.clients

/-- A given result opens nothing. -/
theorem still_pure (a : α) : (pure a : Planner α).Still := by
  intro scope n b n' h
  obtain ⟨-, rfl⟩ := pure_inv h
  rfl

/-- Two computations in a row. -/
theorem Still.bind (hp : p.Still) (hf : ∀ a, (f a).Still) : (p >>= f).Still := by
  intro scope n b n' h
  obtain ⟨a, n₁, ha, hb⟩ := bind_inv h
  exact (hf a _ _ _ _ hb).trans (hp _ _ _ _ ha)

/-- A computation that does not plan opens nothing. -/
theorem still_ofExcept (x : Except BuildError α) : (ofExcept x).Still := by
  intro scope n a n' h
  obtain ⟨-, rfl⟩ := ofExcept_inv h
  rfl

/-- To look where planning stands opens nothing. -/
theorem still_read : (read : Planner Scope).Still := by
  intro scope n scope' n' h
  have h' : (Except.ok (scope, n) : Except QueryError (Scope × PlanState)) = .ok (scope', n') := h
  obtain ⟨-, rfl⟩ := Prod.mk.inj (Except.ok.inj h')
  rfl

/-- To look at what was taken down opens nothing. -/
theorem still_drawn : drawn.Still := by
  intro scope n vs n' h
  obtain ⟨s, n₁, hget, h⟩ := bind_inv h
  obtain ⟨-, rfl⟩ := pure_inv h
  obtain ⟨-, rfl⟩ := get_inv hget
  rfl

/-- To draw variables opens nothing. -/
theorem still_naming (g : Naming → Except BuildError (α × Naming)) : (naming g).Still := by
  intro scope n a n' h
  obtain ⟨s, n₁, hget, h⟩ := bind_inv h
  obtain ⟨⟨b, names⟩, n₂, hb, h⟩ := bind_inv h
  obtain ⟨_, n₃, hset, h⟩ := bind_inv h
  obtain ⟨-, rfl⟩ := pure_inv h
  obtain ⟨rfl, rfl⟩ := get_inv hget
  obtain rfl := set_inv hset
  obtain ⟨-, rfl⟩ := ofExcept_inv hb
  rfl

/-- To draw a fresh variable opens nothing. -/
theorem still_fresh : Planner.fresh.Still := still_naming fun naming => .ok naming.draw

/-- What holds of a result and the clients that are open still holds when more are. -/
def Keeps (Q : List String → α → Prop) : Prop :=
  ∀ {clients clients' a}, clients ⊆ clients' → Q clients a → Q clients' a

/-- Planning keeps the clients that are open. If the one of its own endpoint is, its result has a
property together with the clients that are open in the end. -/
def Opens (p : Planner α) (Q : List String → α → Prop) : Prop :=
  ∀ scope n a n', p scope n = .ok (a, n') →
    n.clients ⊆ n'.clients ∧ (scope.address ∈ n.clients → Q n'.clients a)

/-- A given result opens nothing. -/
theorem opens_pure {a : α} (h : ∀ clients, Q clients a) : (pure a : Planner α).Opens Q := by
  intro scope n b n' hb
  obtain ⟨rfl, rfl⟩ := pure_inv hb
  exact ⟨List.Subset.refl _, fun _ => h _⟩

/-- Two computations in a row. -/
theorem Opens.bind (hp : p.Opens Q) (hQ : Keeps Q)
    (hf : ∀ a, (f a).Opens fun clients b => Q clients a → R clients b) : (p >>= f).Opens R := by
  intro scope n b n' h
  obtain ⟨a, n₁, ha, hb⟩ := bind_inv h
  obtain ⟨hsub, ha⟩ := hp _ _ _ _ ha
  obtain ⟨hsub', hb⟩ := hf a _ _ _ _ hb
  exact ⟨List.Subset.trans hsub hsub', fun hscope => hb (hsub hscope) (hQ hsub' (ha hscope))⟩

/-- A computation whose result matters only for what comes after it. -/
theorem Opens.bind' (hp : p.Opens fun _ _ => True) (hf : ∀ a, (f a).Opens R) : (p >>= f).Opens R :=
  hp.bind (fun _ _ => trivial) fun a scope n b n' h =>
    (hf a scope n b n' h).imp_right fun hR hscope _ => hR hscope

/-- No result at all. -/
theorem opens_refuse (e : BuildError) : (refuse e : Planner α).Opens Q :=
  fun _ _ _ _ h => (refuse_inv h).elim

/-- Planning that opens nothing keeps the clients that are open. -/
theorem Still.opens (hp : p.Still) : p.Opens fun _ _ => True := fun scope n a n' h =>
  ⟨(hp scope n a n' h).symm ▸ List.Subset.refl _, fun _ => trivial⟩

/-- Where planning stands has a client. -/
theorem opens_read : (read : Planner Scope).Opens fun clients scope => scope.address ∈ clients := by
  intro scope n scope' n' h
  have hclients := still_read _ _ _ _ h
  obtain rfl := read_inv h
  exact ⟨hclients ▸ List.Subset.refl _, fun hscope => hclients ▸ hscope⟩

/-- A computation inside or outside of an optional group. -/
theorem Opens.withOptional (hp : p.Opens Q) (optional : Bool) : (p.withOptional optional).Opens Q :=
  fun scope n a n' h => hp { scope with optional } n a n' h

/-- The client that is to be open is open then. -/
theorem openClient_spec {address : String} {u : Unit}
    (h : openClient address scope n = .ok (u, n')) :
    n.clients ⊆ n'.clients ∧ address ∈ n'.clients := by
  obtain ⟨hmem, rfl⟩ | ⟨-, -, rfl⟩ := openClient_inv h
  · exact ⟨List.Subset.refl _, hmem⟩
  · exact ⟨List.subset_append_left _ _, by simp⟩

/-- A computation at another endpoint, whose client is opened first. -/
theorem Opens.service (hp : p.Opens Q) (address : String) : (Planner.service address p).Opens Q := by
  intro scope n a n' h
  obtain ⟨n₁, n₂, hopen, hinner, rfl⟩ := service_steps h
  obtain ⟨hsub, hmem⟩ := openClient_spec hopen
  obtain ⟨hsub', hQ⟩ := hp _ _ _ _ hinner
  exact ⟨List.Subset.trans hsub hsub', fun _ => hQ hmem⟩

/-- A list of results. -/
theorem opens_mapM (hR : Keeps R) {g : α → Planner β} {items : List α}
    (hg : ∀ a ∈ items, (g a).Opens R) :
    (items.mapM g).Opens fun clients bs => ∀ b ∈ bs, R clients b := by
  induction items with
  | nil =>
    rw [List.mapM_nil]
    exact opens_pure fun _ _ hb => absurd hb List.not_mem_nil
  | cons a rest ih =>
    obtain ⟨ha, hrest⟩ := List.forall_mem_cons.1 hg
    rw [List.mapM_cons]
    refine ha.bind hR fun b => (ih hrest).bind (fun hsub h b hb => hR hsub (h b hb)) fun bs =>
      opens_pure fun clients hbs hb => List.forall_mem_cons.2 ⟨hb, hbs⟩

/-- The stage that a computation gives is confined to the endpoints whose clients are open. -/
abbrev Reaches (p : Planner Stage) : Prop :=
  p.Opens fun clients st => st.Confined (· ∈ clients)

/-- A stage that is confined to some endpoints is confined to more. -/
theorem keeps_confined : Keeps fun clients (st : Stage) => st.Confined (· ∈ clients) :=
  fun hsub h => h.mono fun _ ha => hsub ha

/-- One stage above another. -/
theorem Opens.andThen {p q : Planner Stage} (hp : p.Reaches) (hq : q.Reaches) :
    (do return (← p).andThen (← q) : Planner Stage).Reaches :=
  hp.bind keeps_confined fun _ => hq.bind keeps_confined fun _ =>
    opens_pure fun _ hlower hupper => hupper.andThen hlower

/-- A stage put into another one that asks nobody else. -/
theorem Opens.map {p : Planner Stage} (hp : p.Reaches) {g : Stage → Stage}
    (hg : ∀ {asked st}, st.Confined asked → (g st).Confined asked) :
    (do return g (← p) : Planner Stage).Reaches :=
  hp.bind keeps_confined fun _ => opens_pure fun _ h => hg h

end Planner

namespace Plan

open Planner

variable {asked : String → Prop} {scope : Scope}

/-- A bound join that is planned asks the endpoint of its place. -/
theorem confined_joinStage (h : asked scope.address) (triples : List TriplePattern) :
    (joinStage scope triples).Confined asked := by
  unfold joinStage
  split
  · exact .leaf rfl
  · exact .remote ⟨h, by simp [BoundJoin.ofPattern]⟩

/-- Conditions ask nobody. -/
theorem confined_filterStages (conditions : List Expression) :
    (filterStages conditions).Confined asked := by
  induction conditions with
  | nil => exact .leaf rfl
  | cons c rest ih => exact Stage.Confined.andThen (.leaf rfl) ih

/-- Branches in a fork ask whom each of them asks. -/
theorem confined_forkOf {branches : List Stage} (h : ∀ b ∈ branches, b.Confined asked) :
    (Stage.forkOf branches).Confined asked := .fork (by simp [Tee.Unfailed, Tee.ofReaders]) h

mutual

/-- A pattern without paths asks the endpoint of its place. -/
theorem confined_pathFreeStage (scope : Scope) (h : asked scope.address) (p : PathFree) :
    (pathFreeStage scope p).Confined asked := by
  match p with
  | .flat triples conditions =>
    rw [pathFreeStage]
    exact (confined_joinStage h triples).andThen (confined_filterStages conditions)
  | .split branches conditions =>
    rw [pathFreeStage]
    exact (confined_forkOf (confined_pathFreeStages { scope with optional := false } h
      branches)).andThen (confined_filterStages conditions)

/-- Patterns without paths ask the endpoint of their place. -/
theorem confined_pathFreeStages (scope : Scope) (h : asked scope.address) (ps : List PathFree) :
    ∀ st ∈ pathFreeStages scope ps, st.Confined asked := by
  match ps with
  | [] => simp [pathFreeStages]
  | p :: rest =>
    rw [pathFreeStages]
    exact List.forall_mem_cons.2
      ⟨confined_pathFreeStage scope h p, confined_pathFreeStages scope h rest⟩

end

/-- To give variables to blank nodes opens nothing. -/
theorem still_blanksToVariables (triples : List TriplePattern) (labels : List (String × Variable)) :
    (blanksToVariables labels triples).Still := by
  have hblank : ∀ p labels, (blankToVariable p labels).Still := by
    intro p labels
    unfold blankToVariable
    split
    · split
      · exact still_pure _
      · exact still_fresh.bind fun v => still_pure _
    · exact still_pure _
  induction triples generalizing labels with
  | nil => exact still_pure _
  | cons t rest ih =>
    exact (hblank _ _).bind fun subject => (hblank _ _).bind fun object =>
      (ih _).bind fun rest => still_pure _

/-- A basic graph pattern asks the endpoint of its place. -/
theorem opens_triplesStage (triples : List TriplePattern) : (triplesStage triples).Reaches := by
  unfold triplesStage
  split
  · exact opens_pure fun _ => .leaf rfl
  · refine (still_blanksToVariables triples []).opens.bind' fun triples =>
      (still_naming _).opens.bind' fun pattern => opens_read.bind (fun hsub h => hsub h)
        fun scope => ?_
    split
    · exact still_fresh.opens.bind' fun tag => opens_pure fun _ h =>
        .optional (confined_pathFreeStage { scope with optional := false } h pattern)
    · exact opens_pure fun _ h => confined_pathFreeStage scope h pattern

/-- The clauses of a group ask whom they ask that were planned before, and the endpoint of their
place. -/
theorem opens_clausesStage {clauses : List Clause}
    (hclauses : ∀ plan, Clause.other plan ∈ clauses → plan.Reaches) (rows : List Row) :
    (clausesStage rows clauses).Reaches := by
  induction clauses generalizing rows with
  | nil => exact opens_pure fun _ => .leaf rfl
  | cons clause rest ih =>
    have hrest : ∀ rows, (clausesStage rows rest).Reaches :=
      ih fun plan hplan => hclauses plan (List.mem_cons_of_mem _ hplan)
    cases clause with
    | values inline =>
      have hbranches := opens_mapM (R := fun clients (st : Stage) => st.Confined (· ∈ clients))
        keeps_confined fun row (_ : row ∈ inline) => (hrest (rows ++ [row])).map
          fun h => Stage.Confined.andThen (.leaf (rfl : (Stage.values row).isLeaf = true)) h
      exact hbranches.bind (fun hsub h b hb => keeps_confined hsub (h b hb))
        fun branches => opens_pure fun _ h => confined_forkOf h
    | triples triples => exact (opens_triplesStage _).andThen (hrest rows)
    | filter condition =>
      exact (hrest rows).map fun h => Stage.Confined.andThen (.leaf rfl) h
    | other plan => exact (hclauses plan List.mem_cons_self).andThen (hrest rows)

/-- A group asks whom its clauses ask. -/
theorem opens_groupStage {clauses : List Clause}
    (hclauses : ∀ plan, Clause.other plan ∈ clauses → plan.Reaches) :
    (groupStage clauses).Reaches := by
  refine opens_clausesStage (fun plan hplan => ?_) []
  rcases Arrangement.mem_arrange hplan with hplan | ⟨triples, htriples⟩
  · exact hclauses plan hplan
  · exact absurd htriples (by simp [Arrangeable.ofTriples])

/-- Group keys ask nobody. -/
theorem opens_groupKeys (keys : List GroupKey) :
    (groupKeys keys).Opens fun _ k => ∀ asked, k.2.Confined asked := by
  have hkey : ∀ key : GroupKey, (groupKey key).Opens fun _ k => ∀ asked, k.2.Confined asked := by
    intro key
    unfold groupKey
    split
    · exact opens_pure fun _ _ => .leaf rfl
    · split
      · exact opens_pure fun _ _ => .leaf rfl
      · exact opens_pure fun _ _ => .leaf rfl
    · exact opens_pure fun _ _ => .leaf rfl
    · exact still_fresh.opens.bind' fun v => opens_pure fun _ _ => .leaf rfl
  induction keys with
  | nil => exact opens_pure fun _ _ => .leaf rfl
  | cons key rest ih =>
    exact (hkey key).bind (fun _ h => h) fun upper => ih.bind (fun _ h => h) fun lower =>
      opens_pure fun _ hlower hupper asked => (hupper asked).andThen (hlower asked)

/-- A clause that is planned before the others asks whom its node asks. -/
theorem opens_clauseOf {a : Algebra} {planned plan : Planner Stage} (hplanned : planned.Reaches)
    (h : clauseOf a planned = .other plan) : plan.Reaches := by
  unfold clauseOf at h
  split at h
  · exact absurd h (by simp)
  · exact absurd h (by simp)
  · exact absurd h (by simp)
  · split at h
    · obtain rfl := Clause.other.inj h
      exact (hplanned.withOptional false).map fun hst =>
        .nested (.leaf rfl) (Stage.Confined.andThen (.leaf rfl) hst)
    · obtain rfl := Clause.other.inj h
      exact hplanned

mutual

/-- A node asks endpoints only whose clients are open. -/
theorem opens_stage (a : Algebra) : (stage a).Reaches := by
  match a with
  | .join patterns => exact (opens_groupStage (opens_clauses patterns)).withOptional false
  | .leftJoin patterns => exact (opens_groupStage (opens_clauses patterns)).withOptional true
  | .bgp triples => exact opens_triplesStage triples
  | .filter condition => exact opens_pure fun _ => .leaf rfl
  | .bind v e => exact opens_pure fun _ => .leaf rfl
  | .values rows => exact opens_clausesStage (by simp) []
  | .union patterns =>
    exact (opens_branches patterns).bind (fun hsub h b hb => keeps_confined hsub (h b hb))
      fun branches => opens_pure fun _ h => confined_forkOf h
  | .service name silent patterns =>
    exact (still_ofExcept _).opens.bind' fun address =>
      (opens_groupStage (opens_clauses patterns)).service address
  | .groupBy input keys aggregates =>
    exact (opens_stage input).bind keeps_confined fun source =>
      (opens_groupKeys keys).bind (fun _ h => h) fun binds =>
        (still_ofExcept _).opens.bind' fun folds =>
          opens_pure fun _ hbinds hsource => (hsource.andThen (hbinds _)).andThen (.leaf rfl)
  | .having input condition => exact (opens_stage input).map fun h => h.andThen (.leaf rfl)
  | .project input columns =>
    exact (opens_stage input).bind keeps_confined fun source =>
      still_drawn.opens.bind' fun hidden => opens_pure fun _ h => h.andThen (.leaf rfl)
  | .orderBy input conditions => exact (opens_stage input).map fun h => h.andThen (.leaf rfl)
  | .distinct input => exact (opens_stage input).map fun h => h.andThen (.leaf rfl)
  | .slice input offset limit => exact (opens_stage input).map fun h => h.andThen (.leaf rfl)
  | .construct _ _ => exact opens_refuse _
  | .describe _ _ => exact opens_refuse _
  | .ask _ => exact opens_refuse _
  | .minus _ => exact opens_refuse _
  | .graph _ _ => exact opens_refuse _

/-- The clauses of a group ask endpoints only whose clients are open. -/
theorem opens_clauses (patterns : List Algebra) (plan : Planner Stage)
    (h : Clause.other plan ∈ clauses patterns) : plan.Reaches := by
  match patterns with
  | [] => exact absurd h List.not_mem_nil
  | a :: rest =>
    rcases List.mem_cons.1 h with h | h
    · exact opens_clauseOf (opens_stage a) h.symm
    · exact opens_clauses rest plan h

/-- Alternatives ask endpoints only whose clients are open. -/
theorem opens_branches (patterns : List Algebra) :
    (branches patterns).Opens fun clients stages => ∀ st ∈ stages, st.Confined (· ∈ clients) := by
  match patterns with
  | [] => exact opens_pure fun _ st hst => absurd hst List.not_mem_nil
  | a :: rest =>
    exact ((opens_stage a).withOptional false).bind keeps_confined fun branch =>
      (opens_branches rest).bind (fun hsub h b hb => keeps_confined hsub (h b hb)) fun others =>
        opens_pure fun _ hothers hbranch => List.forall_mem_cons.2 ⟨hbranch, hothers⟩

end

end Plan

/-- The stage of a plan asks some endpoints only. -/
def QueryPlan.Confined (asked : String → Prop) : QueryPlan → Prop
  | .solutions stage => stage.Confined asked
  | .triples construction => construction.source.Confined asked
  | .truth stage => stage.Confined asked

namespace Plan

open Planner

/-- To draw the variables of a description opens nothing. -/
theorem still_descriptions (terms : List TermPattern) : (descriptions terms).Still := by
  induction terms with
  | nil => exact still_pure _
  | cons t rest ih =>
    exact still_fresh.bind fun predicate => still_fresh.bind fun object =>
      ih.bind fun others => still_pure _

/-- **A plan asks endpoints only whose clients are open.** -/
theorem opens_query (a : Algebra) :
    (query a).Opens fun clients plan => plan.Confined (· ∈ clients) := by
  have hempty : ∀ {asked : String → Prop} {st : Stage}, st.Confined asked →
      st.fromEmptyRow.Confined asked := fun h => Stage.Confined.andThen (.leaf rfl) h
  unfold query
  split
  · exact (still_naming _).opens.bind' fun lifted =>
      (opens_stage lifted).bind keeps_confined fun source => opens_pure fun _ h => hempty h
  · exact (still_descriptions _).opens.bind' fun template =>
      (still_naming _).opens.bind' fun lifted =>
        (opens_stage _).bind keeps_confined fun source => opens_pure fun _ h => hempty h
  · exact (still_naming _).opens.bind' fun lifted =>
      (opens_stage lifted).bind keeps_confined fun source => opens_pure fun _ h => hempty h
  · exact (still_naming _).opens.bind' fun lifted =>
      (opens_stage lifted).bind keeps_confined fun source => opens_pure fun _ h => hempty h

end Plan

end PagedSparql
