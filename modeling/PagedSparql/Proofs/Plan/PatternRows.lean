import PagedSparql.Proofs.Pipeline.Attribution
import PagedSparql.Proofs.Plan.OptionalRun
import PagedSparql.Proofs.Plan.PathAnswers
import PagedSparql.Proofs.Query.Hidden

/-!
# What patterns make of rows, exactly

The stage of a pattern without paths makes of each row the rows that its triple patterns extend it
to and that fulfil its conditions (`PathFree.Extends.eq_attributed`); in an optional group a row of
which nothing is made is kept (`PathFree.LeftJoins.eq_bind`). This needs the endpoint to understand
what is asked for, and answers that are told apart, in every round (`PathFree.Suits`). It also needs
conditions that do not depend on what was evaluated before, as those that paths are resolved into
are (`Paths.over_resolve`).
-/

namespace PagedSparql

open scoped RowBag

variable {σ : Type} {E : Scene σ} {scope : Scope} {U W : List Row} {X Y : List (Nat × Row)}
  {V : Set Variable}

/-- The variables that a source gives out have no sigil. -/
theorem Names.bare_of_mem_ahead {names : Names} {v : Variable} (h : v ∈ names.Ahead) : v.Bare := by
  obtain ⟨i, rfl⟩ := h
  obtain ⟨k, -, -, hfresh, -⟩ := (Names.after i names).fresh_spec
  rw [hfresh, Variable.Bare, Names.name_ofText_numbered]

/-- A variable without a sigil is looked up under itself. -/
theorem Variable.Bare.direct {v : Variable} (h : v.Bare) : v.Direct := by
  intro r
  unfold Row.getNamed?
  split
  · next name hname =>
    have hv : Variable.ofText v.name = ⟨.ofList name⟩ := by
      rw [Variable.ofText, hname]
      rfl
    exact congrArg r.get? (hv.symm.trans h)
  · rfl

namespace Expression

/-- The expression is steady and reads no other variables. -/
structure Reads (V : Set Variable) (e : Expression) : Prop where
  /-- The expression has its value in any state. -/
  steady : e.isSteady = true
  /-- Its variables are among those. -/
  vars : ∀ v ∈ e.occurrences, v ∈ V

variable {e : Expression} {now : DateTime} {H : Set Variable}

/-- There may be more variables. -/
theorem Reads.mono {V' : Set Variable} (h : e.Reads V) (hV : V ⊆ V') : e.Reads V' :=
  ⟨h.steady, fun v hv => hV (h.vars v hv)⟩

/-- A row agrees with what is left of it when other variables are hidden. -/
theorem Reads.agreeNamed (h : e.Reads V) (hbare : ∀ v ∈ V, v.Bare) (hH : ∀ v ∈ V, v ∉ H) (r : Row) :
    Row.AgreeNamed e.occurrences (r.hide H) r := by
  intro v hv
  have hdirect := (hbare v (h.vars v hv)).direct
  rw [hdirect, hdirect]
  refine Option.ext fun t => ?_
  rw [Row.get?_hide_eq_some_iff]
  exact and_iff_right (hH v (h.vars v hv))

/-- The value of an expression does not change when other variables are hidden. -/
theorem Reads.value?_hide (h : e.Reads V) (hbare : ∀ v ∈ V, v.Bare) (hH : ∀ v ∈ V, v ∉ H)
    (r : Row) : e.value? now (r.hide H) = e.value? now r :=
  value?_congr h.steady (h.agreeNamed hbare hH r)

/-- Whether a condition is true does not change when other variables are hidden. -/
theorem Reads.isTrue_hide (h : e.Reads V) (hbare : ∀ v ∈ V, v.Bare) (hH : ∀ v ∈ V, v ∉ H)
    (r : Row) : e.isTrue now (r.hide H) = e.isTrue now r :=
  isTrue_congr h.steady (h.agreeNamed hbare hH r)

/-- Several conditions. -/
theorem allTrue_hide {conditions : List Expression} (h : ∀ c ∈ conditions, c.Reads V)
    (hbare : ∀ v ∈ V, v.Bare) (hH : ∀ v ∈ V, v ∉ H) (r : Row) :
    allTrue now conditions (r.hide H) = allTrue now conditions r := by
  induction conditions with
  | nil => rfl
  | cons c rest ih =>
    obtain ⟨hc, hrest⟩ := List.forall_mem_cons.1 h
    show (c.isTrue now _ && allTrue now rest _) = (c.isTrue now r && allTrue now rest r)
    rw [hc.isTrue_hide hbare hH, ih hrest]

end Expression

namespace PathFree

mutual

/-- The triple patterns have no paths and the conditions are steady, both without other variables.
-/
def Over (V : Set Variable) : PathFree → Prop
  | .flat triples conditions =>
    (Bgp.Plain triples ∧ ∀ v ∈ Bgp.vars triples, v ∈ V) ∧ ∀ c ∈ conditions, c.Reads V
  | .split branches conditions => OverEach V branches ∧ ∀ c ∈ conditions, c.Reads V

/-- The same for several patterns. -/
def OverEach (V : Set Variable) : List PathFree → Prop
  | [] => True
  | p :: rest => p.Over V ∧ OverEach V rest

end

mutual

/-- There may be more variables. -/
theorem Over.mono {V' : Set Variable} (hV : V ⊆ V') {p : PathFree} (h : p.Over V) : p.Over V' := by
  match p, h with
  | .flat _ _, h => exact ⟨⟨h.1.1, fun v hv => hV (h.1.2 v hv)⟩, fun c hc => (h.2 c hc).mono hV⟩
  | .split branches _, h => exact ⟨OverEach.mono hV h.1, fun c hc => (h.2 c hc).mono hV⟩

/-- There may be more variables, in several patterns. -/
theorem OverEach.mono {V' : Set Variable} (hV : V ⊆ V') {ps : List PathFree} (h : OverEach V ps) :
    OverEach V' ps := by
  match ps, h with
  | [], _ => trivial
  | _ :: rest, h => exact ⟨Over.mono hV h.1, OverEach.mono hV h.2⟩

end

/-- There may be further conditions. -/
theorem Over.addConditions {p : PathFree} (h : p.Over V) {conditions : List Expression}
    (hconditions : ∀ c ∈ conditions, c.Reads V) : (p.addConditions conditions).Over V := by
  cases p with
  | flat triples rest => exact ⟨h.1, List.forall_mem_append.2 ⟨hconditions, h.2⟩⟩
  | split branches rest => exact ⟨h.1, List.forall_mem_append.2 ⟨hconditions, h.2⟩⟩

variable {S : Solutions} {now : DateTime}

mutual

/-- What a pattern makes of a row binds the variables of both. -/
theorem within_answers {u : Row} (hu : ∀ v, u.binds v = true → v ∈ V) (p : PathFree)
    (h : p.Over V) : RowBag.Within (p.answers S now u) V := by
  match p, h with
  | .flat triples conditions, h =>
    intro r hr v hv
    obtain ⟨m, hm, hr⟩ := (Multiset.mem_filterMap _ _).1 (Multiset.mem_of_mem_filter hr)
    refine ((Row.merge_eq_some_iff.1 hr).2.2 v hv).elim (hu v) fun hv => h.1.2 v ?_
    exact (Bgp.mem_vars_substitute.1 ((S.binds_iff _ (h.1.1.substitute u) m hm v).1 hv)).1
  | .split branches conditions, h =>
    exact fun r hr => within_answersEach hu branches h.1 r (Multiset.mem_of_mem_filter hr)

/-- What several patterns make of a row binds the variables of all. -/
theorem within_answersEach {u : Row} (hu : ∀ v, u.binds v = true → v ∈ V) (ps : List PathFree)
    (h : OverEach V ps) : RowBag.Within (answersEach S now ps u) V := by
  match ps, h with
  | [], _ => exact fun _ hr => absurd hr (Multiset.notMem_zero _)
  | p :: rest, h => exact (within_answers hu p h.1).add (within_answersEach hu rest h.2)

end

end PathFree

namespace Paths

/-- The conditions of a negated set read its variable. -/
theorem reads_exclusions {v : Variable} (hv : v ∈ V) {items : List Predicate}
    {conditions : List Expression} (h : items.mapM (exclusion v) = .ok conditions) :
    ∀ c ∈ conditions, c.Reads V := by
  induction items generalizing conditions with
  | nil =>
    obtain rfl : [] = conditions := Except.ok.inj h
    exact fun c hc => absurd hc List.not_mem_nil
  | cons item rest ih =>
    rw [List.mapM_cons] at h
    obtain ⟨c, hc, h⟩ := bind_inv h
    obtain ⟨cs, hcs, h⟩ := bind_inv h
    obtain rfl := Except.ok.inj h
    refine List.forall_mem_cons.2 ⟨?_, ih hcs⟩
    unfold exclusion at hc
    split at hc
    · obtain rfl := Except.ok.inj hc
      refine ⟨?_, ?_⟩
      · simp [Expression.isSteady, Expression.allSteady, Eval.toLower_differs, Eval.makers]
      · simpa [Expression.occurrences, Expression.allOccurrences, TermPattern.var?] using hv
    · exact absurd hc (by simp)

/-- Resolving leaves the variables that are known in the end. -/
theorem over_resolve {ready todo : Bgp} {n n' : Naming} {p : PathFree}
    (h : resolve ready todo n = .ok (p, n')) : ∀ (u : Row) (V : Set Variable),
      Known V n u ready → (∀ v ∈ Bgp.allVars todo, v ∈ V) → p.Over (n.knownAt n' V) := by
  refine resolve_ok_induct
    (P := fun ready todo n p n' => ∀ (u : Row) (V : Set Variable),
      Known V n u ready → (∀ v ∈ Bgp.allVars todo, v ∈ V) → p.Over (n.knownAt n' V))
    (E := fun ready subject object rest items n ps n' => ∀ (u : Row) (V : Set Variable),
      Known V n u ready → subject.In V → object.In V →
        (∀ v ∈ Predicate.allVarsEach items, v ∈ V) → (∀ v ∈ Bgp.allVars rest, v ∈ V) →
        n.Later n' ∧ PathFree.OverEach (n.knownAt n' V) ps)
    ?done ?plain ?sequence ?inverse ?negated ?alternative ?noBranch ?branch h
  case done =>
    intro ready n u V hknown _
    exact ⟨⟨hknown.plain, fun v hv => Naming.subset_knownAt (hknown.vars v hv)⟩, by simp⟩
  case plain =>
    intro ready n subject q object rest p n' ih u V hknown htodo
    obtain ⟨ht, hrest⟩ := Bgp.forall_mem_allVars_cons.1 htodo
    obtain ⟨hs, hq, ho⟩ := TriplePattern.forall_mem_allVars.1 ht
    exact ih u V (hknown.snoc hs hq ho) hrest
  case sequence =>
    intro ready n subject items object rest p n' h ih u V hknown htodo
    obtain ⟨ht, hrest⟩ := Bgp.forall_mem_allVars_cons.1 htodo
    obtain ⟨hs, hitems, ho⟩ := TriplePattern.forall_mem_allVars.1 ht
    have hlater := later_chain object subject items n
    have hchain : ∀ v ∈ Bgp.allVars ((chain object subject items n).1 ++ rest),
        v ∈ n.knownAt (chain object subject items n).2 V :=
      Bgp.forall_mem_allVars_append.2 ⟨vars_chain hs ho hitems,
        fun v hv => Naming.subset_knownAt (hrest v hv)⟩
    exact (ih u _ (hknown.knownAt hlater) hchain).mono
      (Naming.knownAt_knownAt hlater (later_resolve h))
  case inverse =>
    intro ready n subject item object rest p n' ih u V hknown htodo
    obtain ⟨ht, hrest⟩ := Bgp.forall_mem_allVars_cons.1 htodo
    obtain ⟨hs, hitem, ho⟩ := TriplePattern.forall_mem_allVars.1 ht
    refine ih u V hknown (Bgp.forall_mem_allVars_cons.2
      ⟨TriplePattern.forall_mem_allVars.2 ⟨ho, fun v hv => ?_, hs⟩, hrest⟩)
    exact hitem v (List.mem_append_left _ hv)
  case negated =>
    intro ready n subject items object rest conditions p n' hconditions h ih u V hknown htodo
    obtain ⟨ht, hrest⟩ := Bgp.forall_mem_allVars_cons.1 htodo
    obtain ⟨hs, -, ho⟩ : subject.In V ∧ _ ∧ object.In V := TriplePattern.forall_mem_allVars.1 ht
    have hlink : (TermPattern.variable n.draw.1).In (insert n.names.fresh.1 V) :=
      TermPattern.in_variable (.inl rfl)
    have hover := ih u _ (hknown.draw.snoc (hs.insert _) hlink (ho.insert _))
      fun w hw => .inr (hrest w hw)
    have hlater := later_resolve h
    exact (hover.mono (Naming.knownAt_draw hlater)).addConditions
      (reads_exclusions (Naming.insert_subset_knownAt hlater (.inl rfl)) hconditions)
  case alternative =>
    intro ready n subject items object rest ps n' ih u V hknown htodo
    obtain ⟨ht, hrest⟩ := Bgp.forall_mem_allVars_cons.1 htodo
    obtain ⟨hs, hitems, ho⟩ := TriplePattern.forall_mem_allVars.1 ht
    exact ⟨(ih u V hknown hs ho hitems hrest).2, by simp⟩
  case noBranch =>
    intro ready n subject object rest u V _ _ _ _ _
    exact ⟨.refl n, trivial⟩
  case branch =>
    intro ready n subject object rest item items p n₁ ps n' h ih _ ihs u V hknown hs ho hitems hrest
    obtain ⟨hitem, hitems⟩ := List.forall_mem_append.1 hitems
    have hlater := later_resolve h
    have hfirst := ih u V hknown (Bgp.forall_mem_allVars_cons.2
      ⟨TriplePattern.forall_mem_allVars.2 ⟨hs, hitem, ho⟩, hrest⟩)
    have hkeep : V ⊆ n.knownAt n₁ V := Naming.subset_knownAt
    obtain ⟨hlater', hothers⟩ := ihs u _ (hknown.knownAt hlater) (hs.mono hkeep)
      (ho.mono hkeep) (fun v hv => hkeep (hitems v hv)) fun v hv => hkeep (hrest v hv)
    have hlast := Naming.knownAt_knownAt (V := V) hlater hlater'
    exact ⟨hlater.trans hlater',
      hfirst.mono (Naming.subset_knownAt.trans hlast), hothers.mono hlast⟩

end Paths

/-! ## Rows -/

/-- A steady condition keeps the rows for which it is true. -/
theorem Kept.eq_filter {now : DateTime} {c : Expression} (hc : c.isSteady = true)
    (h : Kept now c X Y) : Y = X.filter fun x => c.isTrue now x.2 := by
  induction h with
  | nil => rfl
  | @keep x X Y s h _ ih =>
    have htrue : c.isTrue now x.2 = true := (Expression.run_eq_ok_true_iff hc _).1 h
    rw [List.filter_cons, if_pos htrue, ← ih]
  | @drop x X Y s h _ ih =>
    have hfalse : ¬c.isTrue now x.2 = true := fun h' =>
      h ((Expression.run_eq_ok_true_iff hc _).2 h')
    rw [List.filter_cons, if_neg hfalse, ← ih]

/-- Steady conditions keep the rows for which they are true. -/
theorem KeptAll.eq_filter {now : DateTime} {conditions : List Expression}
    (hc : ∀ c ∈ conditions, c.Reads V) (h : KeptAll now conditions X Y) :
    Y = X.filter fun x => Expression.allTrue now conditions x.2 := by
  induction conditions generalizing X with
  | nil =>
    obtain rfl := h
    exact (List.filter_eq_self.2 fun _ _ => rfl).symm
  | cons c rest ih =>
    obtain ⟨hc, hrest⟩ := List.forall_mem_cons.1 hc
    obtain ⟨Z, hZ, hY⟩ := h
    rw [ih hrest hY, hZ.eq_filter hc.steady, List.filter_filter]
    exact List.filter_congr fun x _ => Bool.and_comm _ _

namespace Plan

/-- Every round of a bound join with triple patterns is understood, and its answers are told apart. -/
def Suits (E : Scene σ) (scope : Scope) (triples : List TriplePattern) (U : List Row) : Prop :=
  triples ≠ [] → ∀ bucket ∈ buckets scope.bufferSize U,
    E.understood (Round.union (boundPattern scope triples) bucket) ∧
      ∀ u ∈ bucket, Round.Told triples bucket u

/-- A bound join extends each row by its solutions. -/
theorem Joins.eq_attributed (hS : (E.solutions scope.address scope.graph).Coherent)
    {triples : List TriplePattern} (hB : Bgp.Plain triples)
    (hbare : ∀ v ∈ Bgp.vars triples, v.Bare) (hsuits : Suits E scope triples U)
    (h : Joins E scope triples U X) : (X : Multiset (Nat × Row)) =
      attributed ((E.solutions scope.address scope.graph).extensions triples) U := by
  unfold Joins at h
  split at h
  · next hnil =>
    subst hnil
    have hself : ∀ u ∈ U, (E.solutions scope.address scope.graph).extensions [] u = {u} :=
      fun u _ => by rw [hS.extensions_eq hB, hS.nil, mul_one]
    rw [h, attributed_congr hself, attributed_singleton]
  · next hne =>
    obtain ⟨rounds, hbuckets, hserved, rfl⟩ := h
    have hround : ∀ r ∈ rounds, _ := fun r hr =>
      hsuits hne _ (BoundJoin.mem_buckets_of_mem hbuckets hr)
    have hrows : (rounds.map Prod.fst).flatten = U := by rw [hbuckets, flatten_buckets]
    have hextensions : (BoundJoin.extensions (boundPattern scope triples) rounds :
        Multiset (Nat × Row)) = _ :=
      BoundJoin.extensions_eq hB hbare (fun r hr => hserved r hr (hround r hr).1)
        fun r hr => (hround r hr).2
    rw [hextensions, hrows]
    rfl

end Plan

namespace PathFree

mutual

/-- Every round of every bound join is understood, and its answers are told apart. -/
def Suits (E : Scene σ) (scope : Scope) (U : List Row) : PathFree → Prop
  | .flat triples _ => Plan.Suits E scope triples U
  | .split branches _ => SuitsEach E scope U branches

/-- The same for several patterns. -/
def SuitsEach (E : Scene σ) (scope : Scope) (U : List Row) : List PathFree → Prop
  | [] => True
  | p :: rest => p.Suits E scope U ∧ SuitsEach E scope U rest

end

/-- Conditions keep some of what is made of the rows. -/
theorem eq_attributed_of_keptAll {now : DateTime} {conditions : List Expression}
    (hc : ∀ c ∈ conditions, c.Reads V) {F : Row → Multiset Row}
    (hX : (X : Multiset (Nat × Row)) = attributed F U) (h : KeptAll now conditions X Y) :
    (Y : Multiset (Nat × Row)) =
      attributed (fun u => (F u).filter (Expression.allTrue now conditions · = true)) U := by
  rw [h.eq_filter hc, ← filter_attributed, ← hX, Multiset.filter_coe]
  simp

mutual

/-- **What a pattern extends.** Each row is extended to what the pattern makes of it. -/
theorem Extends.eq_attributed (hS : (E.solutions scope.address scope.graph).Coherent)
    (hbare : ∀ v ∈ V, v.Bare) (p : PathFree) (hp : p.Over V) (hsuits : p.Suits E scope U)
    {X : List (Nat × Row)} (h : p.Extends E scope U X) : (X : Multiset (Nat × Row)) =
      attributed (p.answers (E.solutions scope.address scope.graph) E.now) U := by
  match p, hp, hsuits, h with
  | .flat triples conditions, hp, hsuits, h =>
    obtain ⟨Y, hY, hX⟩ := h
    have hjoin := hY.eq_attributed hS hp.1.1 (fun v hv => hbare v (hp.1.2 v hv)) hsuits
    exact eq_attributed_of_keptAll hp.2 hjoin hX
  | .split branches conditions, hp, hsuits, h =>
    obtain ⟨Y, hY, hX⟩ := h
    have hbranches := ExtendsEach.eq_attributed hS hbare branches hp.1 hsuits hY
    exact eq_attributed_of_keptAll hp.2 hbranches hX

/-- Each row is extended to what several patterns make of it. -/
theorem ExtendsEach.eq_attributed (hS : (E.solutions scope.address scope.graph).Coherent)
    (hbare : ∀ v ∈ V, v.Bare) (ps : List PathFree) (hps : OverEach V ps)
    (hsuits : SuitsEach E scope U ps) {X : List (Nat × Row)} (h : ExtendsEach E scope ps U X) :
    (X : Multiset (Nat × Row)) =
      attributed (answersEach (E.solutions scope.address scope.graph) E.now ps) U := by
  match ps, hps, hsuits, h with
  | [], _, _, h =>
    obtain rfl := h
    exact (Multiset.bind_zero _).symm
  | p :: rest, hps, hsuits, h =>
    obtain ⟨Y, Z, hY, hZ, rfl⟩ := h
    rw [← Multiset.coe_add, Extends.eq_attributed hS hbare p hps.1 hsuits.1 hY,
      ExtendsEach.eq_attributed hS hbare rest hps.2 hsuits.2 hZ, ← attributed_add]
    rfl

end

end PathFree

/-! ## Rows under numbers -/

namespace PathFree

variable {S : Solutions} {now : DateTime} {H : Set Variable}

mutual

/-- Other variables may be hidden before or after a pattern is at work. -/
theorem answers_hide (hS : S.Coherent) (hbare : ∀ v ∈ V, v.Bare) (hH : ∀ v ∈ V, v ∉ H)
    (p : PathFree) (hp : p.Over V) (u : Row) :
    (p.answers S now u).map (Row.hide H) = p.answers S now (u.hide H) := by
  match p, hp with
  | .flat triples conditions, hp =>
    have hu : RowBag.Within {u} Set.univ := fun _ _ _ _ => trivial
    have hB := S.within_of hp.1.1 hp.1.2
    rw [answers, answers, RowBag.map_filter fun r _ => by
        rw [Expression.allTrue_hide hp.2 hbare hH], hS.extensions_eq hp.1.1,
      hS.extensions_eq hp.1.1, RowBag.map_hide_mul hu hB fun v hv _ hv' => hH v hv' hv,
      RowBag.map_hide_of_within hB hH, Multiset.map_singleton]
  | .split branches conditions, hp =>
    rw [answers, answers, RowBag.map_filter fun r _ => by
        rw [Expression.allTrue_hide hp.2 hbare hH], answersEach_hide hS hbare hH branches hp.1]

/-- Other variables may be hidden before or after several patterns are at work. -/
theorem answersEach_hide (hS : S.Coherent) (hbare : ∀ v ∈ V, v.Bare) (hH : ∀ v ∈ V, v ∉ H)
    (ps : List PathFree) (hps : OverEach V ps) (u : Row) :
    (answersEach S now ps u).map (Row.hide H) = answersEach S now ps (u.hide H) := by
  match ps, hps with
  | [], _ => rfl
  | p :: rest, hps =>
    rw [answersEach, answersEach, Multiset.map_add, answers_hide hS hbare hH p hps.1,
      answersEach_hide hS hbare hH rest hps.2]

end

/-- A row is what is left of it under its number. -/
theorem hide_number {tag : Variable} {e : Row × Nat} (h : e.1.binds tag = false) :
    (Optional.number tag e).hide {tag} = e.1 := by
  refine VariableMap.ext_get? fun v => Option.ext fun t => ?_
  rw [Row.get?_hide_eq_some_iff, Optional.number, VariableMap.get?_insert, Set.mem_singleton_iff]
  by_cases hv : v = tag
  · subst hv
    rw [VariableMap.binds_eq_false_iff] at h
    simp [h]
  · simp [hv]

/-- Taking a variable out of a row hides it. -/
theorem without_eq_hide (tag : Variable) (r : Row) : r.without [tag] = r.hide {tag} := by
  refine VariableMap.ext_get? fun v => Option.ext fun t => ?_
  rw [Row.get?_without, Row.get?_hide_eq_some_iff, Set.mem_singleton_iff]
  by_cases hv : v = tag <;> simp [hv]

/-- In an optional group a pattern keeps the rows of which it makes nothing. -/
theorem simple_eq_bind (hS : (E.solutions scope.address scope.graph).Coherent)
    (hbare : ∀ v ∈ V, v.Bare) {p : PathFree} (hp : p.Over V) (hsuits : p.Suits E scope U)
    (hopt : scope.optional = true) (hsimple : Plan.isSimple p = true)
    (h : (Plan.pathFreeStage scope p).means E U W) : (W : Multiset Row) = (U : Multiset Row).bind
      fun u => RowBag.orKeep u (p.answers (E.solutions scope.address scope.graph) E.now u) := by
  have hrun := leftJoins_of_isSimple hopt hsimple h
  rw [LeftJoins, if_pos hsimple] at hrun
  obtain ⟨X, hX, hW⟩ := hrun
  have hrows := hX.eq_attributed hS hbare p hp hsuits
  have hself : U.zipIdx.map Prod.fst = U := List.zipIdx_map_fst 0 U
  have hkept := unextended_eq (g := Prod.fst) (hself.symm ▸ hrows)
  rw [hW, hkept, ← Multiset.map_coe, hrows, map_snd_attributed, ← RowBag.bind_orKeep,
    ← map_fst_zipIdx U, Multiset.filter_map]
  rfl

/-- The same if rows are numbered around the pattern. -/
theorem optional_eq_bind (hS : (E.solutions scope.address scope.graph).Coherent)
    (hbare : ∀ v ∈ V, v.Bare) {p : PathFree} (hp : p.Over V) {tag : Variable} (htag : tag.Direct)
    (hV : tag ∉ V) (hU : ∀ u ∈ U, u.binds tag = false)
    (hsuits : p.Suits E scope (Optional.numbered tag U)) (hreads : p.reads = true)
    (hfits : ∀ i < U.length, Numeric.fits i = true)
    (h : (Stage.optionalOf tag (Plan.pathFreeStage { scope with optional := false } p)).means E U W) :
    (W : Multiset Row) = (U : Multiset Row).bind fun u =>
      RowBag.orKeep u (p.answers (E.solutions scope.address scope.graph) E.now u) := by
  obtain ⟨seen, Z, -, hall, hZ, rfl⟩ := h
  obtain ⟨X, hX, rfl⟩ := means_pathFreeStage rfl p hZ
  obtain rfl : seen = U := hall (by rw [hasty_pathFreeStage, hreads]; simp)
  have hextends := hX.option
  have hrows := hextends.eq_attributed hS hbare p hp hsuits
  have hall : X.filter (fun x => Numeric.fits x.1) = X := List.filter_eq_self.2 fun x hx =>
    hfits x.1 (tagOf?_of_mem htag hX.extending hx).1
  have hnumber : ∀ e ∈ (seen.zipIdx : Multiset (Row × Nat)),
      (p.answers (E.solutions scope.address scope.graph) E.now (Optional.number tag e)).map
        (Row.hide {tag}) = p.answers (E.solutions scope.address scope.graph) E.now e.1 := by
    intro e he
    have hfree := hU e.1 (List.mem_of_getElem? (List.mem_zipIdx_iff_getElem?.1 he))
    have htagged : ∀ v ∈ V, v ∉ ({tag} : Set Variable) := by
      rintro v hv rfl
      exact hV hv
    rw [answers_hide hS hbare htagged p hp, hide_number hfree]
  have hfirst : (((X.map Prod.snd).map (Row.without · [tag]) : List Row) : Multiset Row) =
      (seen : Multiset Row).bind
        (p.answers (E.solutions scope.address scope.graph) E.now) := by
    have hhide : (X.map Prod.snd).map (Row.without · [tag]) =
        X.map fun x => Row.hide {tag} x.2 := by
      rw [List.map_map]
      exact List.map_congr_left fun x _ => without_eq_hide tag x.2
    rw [hhide, ← Multiset.map_coe, hrows, map_attributed, Optional.numbered, ← Multiset.map_coe,
      Multiset.bind_map, Multiset.bind_congr hnumber, ← map_fst_zipIdx seen, Multiset.bind_map]
  have hkept : (unextended seen X : Multiset Row) = (seen : Multiset Row).filter fun u =>
      p.answers (E.solutions scope.address scope.graph) E.now u = 0 := by
    rw [unextended_eq hrows, ← map_fst_zipIdx seen, Multiset.filter_map]
    refine congrArg _ (Multiset.filter_congr fun e he => ?_)
    rw [Function.comp_apply, ← hnumber e he, Multiset.map_eq_zero]
  rw [← Multiset.coe_add, hfirst, unmatched_eq htag hX.extending, hall, hkept, RowBag.bind_orKeep]

end PathFree

end PagedSparql
