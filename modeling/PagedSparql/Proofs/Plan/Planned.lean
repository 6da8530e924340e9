import PagedSparql.Proofs.Plan.OptionalRun

/-!
# Planned stages are sound

Whatever can be planned, its stage is sound (`Plan.gives_stage`): it comes to an end among endpoints
that answer and means what `Stage.means` says. Planning is a computation that may fail, so this is
said of all results it may give (`Planner.Gives`), along the recursion of `Plan.stage`.
-/

namespace PagedSparql

variable {σ : Type} {α β : Type}

namespace Planner

variable {p : Planner α} {f : α → Planner β} {scope : Scope} {n n' : PlanState}

/-- Two computations in a row give a result when the first one and then the second one do. -/
theorem bind_inv {b : β} (h : (p >>= f) scope n = .ok (b, n')) :
    ∃ a n₁, p scope n = .ok (a, n₁) ∧ f a scope n₁ = .ok (b, n') := by
  have hbind : (p >>= f) scope n =
      match p scope n with
      | .ok (a, n₁) => f a scope n₁
      | .error e => .error e := by
    show (p scope n >>= fun r => f r.1 scope r.2) = _
    cases p scope n <;> rfl
  rw [hbind] at h
  cases hp : p scope n with
  | error e => rw [hp] at h; exact absurd h (by simp)
  | ok r =>
    rw [hp] at h
    exact ⟨r.1, r.2, rfl, h⟩

/-- A given result is the result. -/
theorem pure_inv {a b : α} (h : (pure a : Planner α) scope n = .ok (b, n')) : a = b ∧ n = n' := by
  have h' : (Except.ok (a, n) : Except QueryError (α × PlanState)) = .ok (b, n') := h
  simpa using h'

/-- Planning knows where it stands. -/
theorem read_inv {scope' : Scope} (h : (read : Planner Scope) scope n = .ok (scope', n')) :
    scope = scope' := by
  have h' : (Except.ok (scope, n) : Except QueryError (Scope × PlanState)) = .ok (scope', n') := h
  simp only [Except.ok.injEq, Prod.mk.injEq] at h'
  exact h'.1

/-- A computation that is refused has no result. -/
theorem refuse_inv {e : BuildError} {a : α} (h : (refuse e : Planner α) scope n = .ok (a, n')) :
    False := by
  have h' : (Except.error (.build e) : Except QueryError (α × PlanState)) = .ok (a, n') := h
  exact absurd h' (by simp)

/-- The result of a computation that does not plan. -/
theorem ofExcept_inv {x : Except BuildError α} {a : α}
    (h : ofExcept x scope n = .ok (a, n')) : x = .ok a ∧ n = n' := by
  cases x with
  | error e => exact (refuse_inv h).elim
  | ok b =>
    obtain ⟨rfl, rfl⟩ := pure_inv h
    exact ⟨rfl, rfl⟩

/-- The result of a computation that draws fresh variables. -/
theorem naming_inv {g : Naming → Except BuildError (α × Naming)} {a : α}
    (h : naming g scope n = .ok (a, n')) : ∃ names, g n.naming = .ok (a, names) := by
  obtain ⟨s, n₁, hget, h⟩ := bind_inv h
  obtain ⟨⟨b, names⟩, n₂, hg, h⟩ := bind_inv h
  obtain ⟨-, n₃, -, h⟩ := bind_inv h
  obtain ⟨rfl, -⟩ := pure_inv h
  have hs : (Except.ok (n, n) : Except QueryError (PlanState × PlanState)) = .ok (s, n₁) := hget
  obtain ⟨rfl, rfl⟩ : n = s ∧ n = n₁ := by simpa using hs
  exact ⟨names, (ofExcept_inv hg).1⟩

/-- What a computation at an endpoint gives, it gives there. -/
theorem service_inv {address : String} {a : α} (h : service address p scope n = .ok (a, n')) :
    ∃ n₁ n₂, p { scope with address, graph := address } n₁ = .ok (a, n₂) := by
  obtain ⟨-, n₁, -, h⟩ := bind_inv h
  obtain ⟨before, n₂, -, h⟩ := bind_inv h
  obtain ⟨-, n₃, -, h⟩ := bind_inv h
  obtain ⟨b, n₄, hp, h⟩ := bind_inv h
  obtain ⟨-, n₅, -, h⟩ := bind_inv h
  obtain ⟨rfl, -⟩ := pure_inv h
  exact ⟨n₃, n₄, hp⟩

/-- A list of results has one result for each item. -/
theorem mapM_inv {g : α → Planner β} {items : List α} {bs : List β}
    (h : items.mapM g scope n = .ok (bs, n')) :
    List.Forall₂ (fun a b => ∃ n₁ n₂, g a scope n₁ = .ok (b, n₂)) items bs := by
  induction items generalizing n n' bs with
  | nil =>
    rw [List.mapM_nil] at h
    obtain ⟨rfl, -⟩ := pure_inv h
    exact .nil
  | cons a rest ih =>
    rw [List.mapM_cons] at h
    obtain ⟨b, n₁, hb, h⟩ := bind_inv h
    obtain ⟨bs', n₂, hbs, h⟩ := bind_inv h
    obtain ⟨rfl, -⟩ := pure_inv h
    exact .cons ⟨_, _, hb⟩ (ih hbs)

/-- Every result of the computation has a property. -/
def Gives (p : Planner α) (Q : α → Prop) : Prop :=
  ∀ scope n a n', p scope n = .ok (a, n') → Q a

variable {Q : α → Prop} {R : β → Prop}

/-- The result is given. -/
theorem gives_pure {a : α} (h : Q a) : (pure a : Planner α).Gives Q := by
  intro scope n b n' hb
  obtain ⟨rfl, -⟩ := pure_inv hb
  exact h

/-- Two computations in a row. -/
theorem Gives.bind (hp : p.Gives Q) (hf : ∀ a, Q a → (f a).Gives R) : (p >>= f).Gives R := by
  intro scope n b n' h
  obtain ⟨a, n₁, ha, hb⟩ := bind_inv h
  exact hf a (hp _ _ _ _ ha) _ _ _ _ hb

/-- A computation whose result matters only for what comes after it. -/
theorem gives_bind (hf : ∀ a, (f a).Gives R) : (p >>= f).Gives R := by
  intro scope n b n' h
  obtain ⟨a, n₁, -, hb⟩ := bind_inv h
  exact hf a _ _ _ _ hb

/-- A computation inside or outside of an optional group. -/
theorem Gives.withOptional (hp : p.Gives Q) (optional : Bool) : (p.withOptional optional).Gives Q :=
  fun _ _ _ _ h => hp _ _ _ _ h

/-- A computation at an endpoint. -/
theorem Gives.service (hp : p.Gives Q) (address : String) :
    (Planner.service address p).Gives Q := by
  intro scope n a n' h
  obtain ⟨n₁, n₂, ha⟩ := service_inv h
  exact hp _ _ _ _ ha

/-- No result at all. -/
theorem gives_refuse (e : BuildError) : (refuse e : Planner α).Gives Q :=
  fun _ _ _ _ h => (refuse_inv h).elim

/-- A list of results. -/
theorem gives_mapM {g : α → Planner β} {items : List α} (hg : ∀ a ∈ items, (g a).Gives R) :
    (items.mapM g).Gives fun bs => ∀ b ∈ bs, R b := by
  intro scope n bs n' h b hb
  have hall := mapM_inv h
  obtain ⟨i, hi⟩ := List.getElem?_of_mem hb
  obtain ⟨hi', rfl⟩ := List.getElem?_eq_some_iff.1 hi
  have hi'' : i < items.length := hall.length_eq ▸ hi'
  obtain ⟨n₁, n₂, hga⟩ := List.forall₂_iff_get.1 hall |>.2 i hi'' hi'
  exact hg _ (List.getElem_mem hi'') _ _ _ _ hga

/-- The variables that are given out are looked up under themselves. -/
theorem direct_numbered (k : Nat) : (Variable.ofText (Names.numbered k)).Direct := by
  intro r
  have hname : (Variable.ofText (Names.numbered k)).name.toList =
      '_' :: '_' :: 'v' :: (toString k).toList := by
    simp only [Names.numbered, Variable.ofText, String.toList_append, String.toList_ofList]
    rfl
  unfold Row.getNamed?
  rw [hname]
  rfl

/-- A fresh variable is looked up under itself. -/
theorem gives_fresh : Planner.fresh.Gives Variable.Direct := by
  intro scope n v n' h
  obtain ⟨s, n₁, -, h⟩ := bind_inv h
  obtain ⟨-, n₂, -, h⟩ := bind_inv h
  obtain ⟨rfl, -⟩ := pure_inv h
  exact direct_numbered _

end Planner

/-! ## Paths -/

namespace PathFree

/-- Conditions on a pattern change none of its triple patterns. -/
theorem plain_addConditions {p : PathFree} (conditions : List Expression) :
    (p.addConditions conditions).Plain ↔ p.Plain := by
  cases p <;> rfl

end PathFree

namespace Paths

/-- Two computations in a row succeed when the first one and then the second one do. -/
theorem bind_inv {ε α β : Type} {x : Except ε α} {f : α → Except ε β} {b : β}
    (h : (x >>= f) = .ok b) : ∃ a, x = .ok a ∧ f a = .ok b := by
  cases x with
  | error e => exact absurd h (by simp [Bind.bind, Except.bind])
  | ok a => exact ⟨a, rfl, h⟩

/-- Induction along a run of `resolve` that succeeds: only the cases that go on are left, each with
what its own runs have brought. Where fresh variables are drawn, these runs are at hand as well. -/
theorem resolve_ok_induct
    {P : Bgp → Bgp → Naming → PathFree → Naming → Prop}
    {E : Bgp → TermPattern → TermPattern → Bgp → List Predicate → Naming → List PathFree →
      Naming → Prop}
    (done : ∀ ready n, P ready [] n (.flat ready []) n)
    (plain : ∀ ready n subject q object rest p n',
      P (ready ++ [⟨subject, .plain q, object⟩]) rest n p n' →
        P ready (⟨subject, .plain q, object⟩ :: rest) n p n')
    (sequence : ∀ ready n subject items object rest p n',
      resolve ready ((chain object subject items n).1 ++ rest) (chain object subject items n).2 =
        .ok (p, n') →
      P ready ((chain object subject items n).1 ++ rest) (chain object subject items n).2 p n' →
        P ready (⟨subject, .path .sequence items, object⟩ :: rest) n p n')
    (inverse : ∀ ready n subject item object rest p n',
      P ready (⟨object, item, subject⟩ :: rest) n p n' →
        P ready (⟨subject, .path .inverse [item], object⟩ :: rest) n p n')
    (negated : ∀ ready n subject items object rest conditions p n',
      items.mapM (exclusion n.draw.1) = .ok conditions →
      resolve (ready ++ [⟨subject, .plain (.variable n.draw.1), object⟩]) rest n.draw.2 =
        .ok (p, n') →
      P (ready ++ [⟨subject, .plain (.variable n.draw.1), object⟩]) rest n.draw.2 p n' →
        P ready (⟨subject, .path .negated items, object⟩ :: rest) n (p.addConditions conditions) n')
    (alternative : ∀ ready n subject items object rest ps n',
      E ready subject object rest items n ps n' →
        P ready (⟨subject, .path .alternative items, object⟩ :: rest) n (.split ps []) n')
    (noBranch : ∀ ready n subject object rest, E ready subject object rest [] n [] n)
    (branch : ∀ ready n subject object rest item items p n₁ ps n',
      resolve ready (⟨subject, item, object⟩ :: rest) n = .ok (p, n₁) →
      P ready (⟨subject, item, object⟩ :: rest) n p n₁ →
      resolveEach ready subject object rest items n₁ = .ok (ps, n') →
      E ready subject object rest items n₁ ps n' →
        E ready subject object rest (item :: items) n (p :: ps) n')
    {ready todo : Bgp} {n n' : Naming} {p : PathFree} (h : resolve ready todo n = .ok (p, n')) :
    P ready todo n p n' := by
  refine resolve.induct
    (fun ready todo n => ∀ p n', resolve ready todo n = .ok (p, n') → P ready todo n p n')
    (fun ready subject object rest items n => ∀ ps n',
      resolveEach ready subject object rest items n = .ok (ps, n') →
        E ready subject object rest items n ps n')
    ?done ?plain ?sequence ?inverse ?badInverse ?negated ?alternative ?other ?noBranch ?branch
    ready todo n p n' h
  case done =>
    intro ready n p n' h
    rw [resolve] at h
    obtain ⟨rfl, rfl⟩ := Prod.mk.inj (Except.ok.inj h)
    exact done ready n
  case plain =>
    intro ready n subject q object rest ih p n' h
    rw [resolve] at h
    exact plain _ _ _ _ _ _ _ _ (ih p n' h)
  case sequence =>
    intro ready n subject items object rest ih p n' h
    rw [resolve] at h
    exact sequence _ _ _ _ _ _ _ _ h (ih p n' h)
  case inverse =>
    intro ready n subject item object rest ih p n' h
    rw [resolve] at h
    exact inverse _ _ _ _ _ _ _ _ (ih p n' h)
  case badInverse =>
    intro ready n subject items object rest hitems p n' h
    rw [resolve] at h
    · exact absurd h (by simp)
    · exact hitems
  case negated =>
    intro ready n subject items object rest v n₁ hdraw ih p n' h
    rw [resolve, hdraw] at h
    obtain ⟨conditions, hconditions, h⟩ := bind_inv h
    obtain ⟨⟨q, n₂⟩, hq, h⟩ := bind_inv h
    obtain ⟨rfl, rfl⟩ := Prod.mk.inj (Except.ok.inj h)
    obtain ⟨rfl, rfl⟩ : n.draw.1 = v ∧ n.draw.2 = n₁ := Prod.mk.inj hdraw
    exact negated _ _ _ _ _ _ _ _ _ hconditions hq (ih q n₂ hq)
  case alternative =>
    intro ready n subject items object rest ih p n' h
    rw [resolve] at h
    obtain ⟨⟨ps, n₂⟩, hps, h⟩ := bind_inv h
    obtain ⟨rfl, rfl⟩ := Prod.mk.inj (Except.ok.inj h)
    exact alternative _ _ _ _ _ _ _ _ (ih ps n₂ hps)
  case other =>
    intro ready n subject symbol items object rest p n' h
    rw [resolve] at h
    exact absurd h (by simp)
  case noBranch =>
    intro ready subject object rest n ps n' h
    rw [resolveEach] at h
    obtain ⟨rfl, rfl⟩ := Prod.mk.inj (Except.ok.inj h)
    exact noBranch _ _ _ _ _
  case branch =>
    intro ready subject object rest n item items ih ihs ps n' h
    rw [resolveEach] at h
    obtain ⟨⟨q, n₁⟩, hq, h⟩ := bind_inv h
    obtain ⟨⟨qs, n₂⟩, hqs, h⟩ := bind_inv h
    obtain ⟨rfl, rfl⟩ := Prod.mk.inj (Except.ok.inj h)
    exact branch _ _ _ _ _ _ _ _ _ _ _ hq (ih q n₁ hq) hqs (ihs n₁ qs n₂ hqs)

/-- A pattern without path may be added. -/
theorem plain_snoc {ready : Bgp} (h : ready.Plain) (subject p object : TermPattern) :
    Bgp.Plain (ready ++ [⟨subject, .plain p, object⟩]) := by
  intro t ht
  rcases List.mem_append.1 ht with ht | ht
  · exact h t ht
  · obtain rfl := List.mem_singleton.1 ht
    rfl

/-- Resolving leaves no paths. -/
theorem plain_resolve {ready todo : Bgp} {n n' : Naming} {p : PathFree}
    (h : resolve ready todo n = .ok (p, n')) : Bgp.Plain ready → p.Plain := by
  refine resolve_ok_induct (P := fun ready _ _ p _ => Bgp.Plain ready → p.Plain)
    (E := fun ready _ _ _ _ _ ps _ => Bgp.Plain ready → PathFree.PlainEach ps)
    ?done ?plain ?sequence ?inverse ?negated ?alternative ?noBranch ?branch h
  case done => exact fun ready n hready => hready
  case plain =>
    intro ready n subject q object rest p n' ih hready
    exact ih (plain_snoc hready subject q object)
  case sequence => exact fun ready n subject items object rest p n' _ ih => ih
  case inverse => exact fun ready n subject item object rest p n' ih => ih
  case negated =>
    intro ready n subject items object rest conditions p n' _ _ ih hready
    rw [PathFree.plain_addConditions]
    exact ih (plain_snoc hready _ _ _)
  case alternative => exact fun ready n subject items object rest ps n' ih => ih
  case noBranch => exact fun ready n subject object rest _ => trivial
  case branch =>
    intro ready n subject object rest item items p n₁ ps n' _ ih _ ihs hready
    exact ⟨ih hready, ihs hready⟩

/-- A pattern without its paths has none. -/
theorem plain_compile {triples : List TriplePattern} {n n' : Naming} {p : PathFree}
    (h : compile triples n = .ok (p, n')) : p.Plain :=
  plain_resolve h fun _ ht => absurd ht List.not_mem_nil

end Paths

/-! ## Clauses -/

namespace Arrangement

variable [Arrangeable α]

variable {P : α → Prop} {clauses : List α}

/-- What holds of every clause holds of those that they are merged to, if merging keeps it. -/
theorem forall_mergeAdjacent
    (hmerge : ∀ a b ts us, Arrangeable.triples? a = some ts → Arrangeable.triples? b = some us →
      P a → P b → P (Arrangeable.ofTriples (ts ++ us)))
    (h : ∀ c ∈ clauses, P c) : ∀ c ∈ mergeAdjacent clauses, P c := by
  have hfirst : ∀ (clause : α) (rest : List α), P clause → (∀ c ∈ rest, P c) →
      ∀ c ∈ mergeFirst clause rest, P c := by
    intro clause rest hclause hrest
    cases rest with
    | nil => exact List.forall_mem_singleton.2 hclause
    | cons next rest =>
      obtain ⟨hnext, hrest⟩ := List.forall_mem_cons.1 hrest
      rw [mergeFirst]
      split
      · next hts hus =>
        exact List.forall_mem_cons.2 ⟨hmerge _ _ _ _ hts hus hclause hnext, hrest⟩
      · exact List.forall_mem_cons.2 ⟨hclause, List.forall_mem_cons.2 ⟨hnext, hrest⟩⟩
  induction clauses with
  | nil => exact fun c hc => absurd hc List.not_mem_nil
  | cons clause rest ih =>
    obtain ⟨hclause, hrest⟩ := List.forall_mem_cons.1 h
    exact hfirst clause _ hclause (ih hrest)

/-- Arranging keeps what holds of every clause, if merging does. -/
theorem forall_arrange
    (hmerge : ∀ a b ts us, Arrangeable.triples? a = some ts → Arrangeable.triples? b = some us →
      P a → P b → P (Arrangeable.ofTriples (ts ++ us)))
    (h : ∀ c ∈ clauses, P c) : ∀ c ∈ arrange clauses, P c := by
  have hmerged := forall_mergeAdjacent hmerge h
  intro c hc
  simp only [arrange, ofRank, List.mem_append, List.mem_filter] at hc
  rcases hc with (hc | hc) | hc
  · exact hmerged c hc.1
  · exact hmerged c hc.1
  · exact hmerged c hc.1

/-- Arranging makes no clauses but basic graph patterns. -/
theorem mem_arrange {c : α} (h : c ∈ arrange clauses) :
    c ∈ clauses ∨ ∃ triples, c = Arrangeable.ofTriples triples :=
  forall_arrange (P := fun c => c ∈ clauses ∨ ∃ triples, c = Arrangeable.ofTriples triples)
    (fun _ _ _ _ _ _ _ _ => .inr ⟨_, rfl⟩) (fun _ hc => .inl hc) c h

end Arrangement

namespace Plan

open Planner

variable {E : Scene σ} {scope : Scope} {n n' : PlanState} {st : Stage}

/-- How a basic graph pattern is planned. -/
theorem triplesStage_inv {triples : List TriplePattern}
    (h : triplesStage triples scope n = .ok (st, n')) :
    triples = [] ∧ st = .input ∨
      triples ≠ [] ∧ ∃ triples' n₁ pattern names,
        blanksToVariables [] triples scope n = .ok (triples', n₁) ∧
        Paths.compile triples' n₁.naming = .ok (pattern, names) ∧
        if scope.optional && !isSimple pattern then
          ∃ tag : Variable, tag.Direct ∧
            st = .optionalOf tag (pathFreeStage { scope with optional := false } pattern)
        else st = pathFreeStage scope pattern := by
  unfold triplesStage at h
  by_cases hnil : triples = []
  · subst hnil
    exact .inl ⟨rfl, (pure_inv h).1.symm⟩
  · rw [if_neg (by simpa using hnil)] at h
    obtain ⟨triples', n₁, hblanks, h⟩ := bind_inv h
    obtain ⟨pattern, n₂, hcompile, h⟩ := bind_inv h
    obtain ⟨names, hcompile⟩ := naming_inv hcompile
    obtain ⟨scope', n₃, hread, h⟩ := bind_inv h
    obtain rfl := read_inv hread
    refine .inr ⟨hnil, triples', n₁, pattern, names, hblanks, hcompile, ?_⟩
    split at h
    · next hopt =>
      rw [if_pos hopt]
      obtain ⟨tag, n₄, htag, h⟩ := bind_inv h
      exact ⟨tag, gives_fresh _ _ _ _ htag, (pure_inv h).1.symm⟩
    · next hopt =>
      rw [if_neg hopt]
      exact (pure_inv h).1.symm

/-- Basic graph patterns are sound. -/
theorem gives_triplesStage (hE : E.Lawful) (triples : List TriplePattern) :
    (triplesStage triples).Gives E.Sound := by
  intro scope n st n' h
  obtain ⟨-, rfl⟩ | ⟨-, triples', n₁, pattern, names, -, hcompile, hst⟩ := triplesStage_inv h
  · exact Scene.sound_leaf hE rfl
  · have hplain := Paths.plain_compile hcompile
    split at hst
    · obtain ⟨tag, htag, rfl⟩ := hst
      exact Scene.sound_optional hE (PathFree.sound_pathFreeStage hE _ pattern hplain)
        (PathFree.tagged_pathFreeStage htag rfl pattern)
    · subst hst
      exact PathFree.sound_pathFreeStage hE scope pattern hplain

/-- The clauses of a group are sound if those that were planned before are. -/
theorem gives_clausesStage (hE : E.Lawful) {clauses : List Clause}
    (hclauses : ∀ plan, Clause.other plan ∈ clauses → plan.Gives E.Sound) (rows : List Row) :
    (clausesStage rows clauses).Gives E.Sound := by
  induction clauses generalizing rows with
  | nil => exact gives_pure (Scene.sound_leaf hE rfl)
  | cons clause rest ih =>
    have hrest : ∀ rows, (clausesStage rows rest).Gives E.Sound :=
      ih fun plan hplan => hclauses plan (List.mem_cons_of_mem _ hplan)
    cases clause with
    | values inline =>
      refine Gives.bind (gives_mapM fun row _ => ?_)
        fun branches hbranches => gives_pure (Scene.sound_fork hE hbranches)
      exact (hrest (rows ++ [row])).bind fun lower hlower =>
        gives_pure (Scene.sound_andThen hE (Scene.sound_leaf hE rfl) hlower)
    | triples triples =>
      exact (gives_triplesStage hE _).bind fun upper hupper => (hrest rows).bind
        fun lower hlower => gives_pure (Scene.sound_andThen hE hupper hlower)
    | filter condition =>
      exact (hrest rows).bind fun lower hlower =>
        gives_pure (Scene.sound_andThen hE (Scene.sound_leaf hE rfl) hlower)
    | other plan =>
      exact (hclauses plan List.mem_cons_self).bind fun upper hupper => (hrest rows).bind
        fun lower hlower => gives_pure (Scene.sound_andThen hE hupper hlower)

/-- A group is sound if its clauses that were planned before are. -/
theorem gives_groupStage (hE : E.Lawful) {clauses : List Clause}
    (hclauses : ∀ plan, Clause.other plan ∈ clauses → plan.Gives E.Sound) :
    (groupStage clauses).Gives E.Sound := by
  refine gives_clausesStage hE (fun plan hplan => ?_) []
  rcases Arrangement.mem_arrange hplan with hplan | ⟨triples, htriples⟩
  · exact hclauses plan hplan
  · exact absurd htriples (by simp [Arrangeable.ofTriples])

/-- The stage that binds group keys is sound. -/
theorem gives_groupKeys (hE : E.Lawful) (keys : List GroupKey) :
    (groupKeys keys).Gives fun k => E.Sound k.2 := by
  have hkey : ∀ key : GroupKey, (groupKey key).Gives fun k => E.Sound k.2 := by
    intro key
    have hleaf : ∀ {v : Variable} {e : Expression}, E.Sound (.bind v e) := Scene.sound_leaf hE rfl
    unfold groupKey
    split
    · exact gives_pure (Scene.sound_leaf hE rfl)
    · split
      · exact gives_pure (Scene.sound_leaf hE rfl)
      · exact gives_pure hleaf
    · exact gives_pure hleaf
    · exact gives_bind fun v => gives_pure hleaf
  induction keys with
  | nil => exact gives_pure (Scene.sound_leaf hE rfl)
  | cons key rest ih =>
    exact (hkey key).bind fun upper hupper => ih.bind
      fun lower hlower => gives_pure (Scene.sound_andThen hE hupper hlower)

/-- A stage below one empty row takes in nothing. -/
theorem isSealed_fromEmptyRow (st : Stage) : st.fromEmptyRow.isSealed = true := by
  rcases Stage.andThen_cases (.source [.empty] .done) st with ⟨-, heq⟩ | ⟨hupper, -⟩ | heq
  · rw [Stage.fromEmptyRow, heq]
    rfl
  · exact absurd hupper (by simp)
  · rw [Stage.fromEmptyRow, heq]
    rfl

/-- A clause that is planned before the others is sound if its node is. -/
theorem gives_clauseOf (hE : E.Lawful) {a : Algebra} {planned plan : Planner Stage}
    (hplanned : planned.Gives E.Sound) (h : clauseOf a planned = .other plan) :
    plan.Gives E.Sound := by
  unfold clauseOf at h
  split at h
  · exact absurd h (by simp)
  · exact absurd h (by simp)
  · exact absurd h (by simp)
  · split at h
    · obtain rfl := Clause.other.inj h
      refine (hplanned.withOptional false).bind fun st hst => gives_pure ?_
      have hright : E.Sound st.fromEmptyRow :=
        Scene.sound_andThen hE (Scene.sound_leaf hE rfl) hst
      exact Scene.sound_nested hE hright (isSealed_fromEmptyRow st)
    · obtain rfl := Clause.other.inj h
      exact hplanned

mutual

/-- **Planned stages are sound.** -/
theorem gives_stage (hE : E.Lawful) (a : Algebra) : (stage a).Gives E.Sound := by
  match a with
  | .join patterns =>
    exact (gives_groupStage hE (gives_clauses hE patterns)).withOptional false
  | .leftJoin patterns =>
    exact (gives_groupStage hE (gives_clauses hE patterns)).withOptional true
  | .bgp triples => exact gives_triplesStage hE triples
  | .filter condition => exact gives_pure (Scene.sound_leaf hE rfl)
  | .bind v e => exact gives_pure (Scene.sound_leaf hE rfl)
  | .values rows => exact gives_clausesStage hE (by simp) []
  | .union patterns =>
    exact (gives_branches hE patterns).bind
      fun stages hstages => gives_pure (Scene.sound_fork hE hstages)
  | .service name silent patterns =>
    exact gives_bind fun address =>
      (gives_groupStage hE (gives_clauses hE patterns)).service address
  | .groupBy input keys aggregates =>
    exact (gives_stage hE input).bind fun source hsource => (gives_groupKeys hE keys).bind
      fun binds hbinds => gives_bind fun folds => gives_pure (Scene.sound_andThen hE
        (Scene.sound_andThen hE hsource hbinds) (Scene.sound_leaf hE rfl))
  | .having input condition =>
    exact (gives_stage hE input).bind fun source hsource =>
      gives_pure (Scene.sound_andThen hE hsource (Scene.sound_leaf hE rfl))
  | .project input columns =>
    exact (gives_stage hE input).bind fun source hsource => gives_bind fun hidden =>
      gives_pure (Scene.sound_andThen hE hsource (Scene.sound_leaf hE rfl))
  | .orderBy input conditions =>
    exact (gives_stage hE input).bind fun source hsource =>
      gives_pure (Scene.sound_andThen hE hsource (Scene.sound_leaf hE rfl))
  | .distinct input =>
    exact (gives_stage hE input).bind fun source hsource =>
      gives_pure (Scene.sound_andThen hE hsource (Scene.sound_leaf hE rfl))
  | .slice input offset limit =>
    exact (gives_stage hE input).bind fun source hsource =>
      gives_pure (Scene.sound_andThen hE hsource (Scene.sound_leaf hE rfl))
  | .construct _ _ => exact gives_refuse _
  | .describe _ _ => exact gives_refuse _
  | .ask _ => exact gives_refuse _
  | .minus _ => exact gives_refuse _
  | .graph _ _ => exact gives_refuse _

/-- The clauses of a group are sound. -/
theorem gives_clauses (hE : E.Lawful) (patterns : List Algebra) (plan : Planner Stage)
    (h : Clause.other plan ∈ clauses patterns) : plan.Gives E.Sound := by
  match patterns with
  | [] => exact absurd h List.not_mem_nil
  | a :: rest =>
    rcases List.mem_cons.1 h with h | h
    · exact gives_clauseOf hE (gives_stage hE a) h.symm
    · exact gives_clauses hE rest plan h

/-- Alternatives are sound. -/
theorem gives_branches (hE : E.Lawful) (patterns : List Algebra) :
    (branches patterns).Gives fun stages => ∀ st ∈ stages, E.Sound st := by
  match patterns with
  | [] => exact gives_pure fun st hst => absurd hst List.not_mem_nil
  | a :: rest =>
    refine ((gives_stage hE a).withOptional false).bind fun branch hbranch =>
      (gives_branches hE rest).bind fun others hothers => gives_pure fun st hst => ?_
    rcases List.mem_cons.1 hst with rfl | hst
    · exact hbranch
    · exact hothers st hst

end

end Plan

end PagedSparql
