import PagedSparql.Plan.Compile
import PagedSparql.Proofs.Pipeline.Attribution
import PagedSparql.Proofs.Pipeline.Meaning

/-!
# What patterns without paths match

The stage of a pattern without paths extends rows, by one bound join or, if the pattern has
branches, by several of them, and drops extended rows for which the conditions of the pattern are
not true. `PathFree.Extends` says which row is extended to which rows, as a relation between the
rows that come in and numbered rows.
-/

namespace PagedSparql

variable {σ : Type} {E : Scene σ} {U V W : List Row} {X Y : List (Nat × Row)}

namespace Stage

/-- One stage above another is one of them, if the other only hands on what comes in. -/
theorem andThen_cases (upper lower : Stage) :
    lower = .input ∧ upper.andThen lower = upper ∨ upper = .input ∧ upper.andThen lower = lower ∨
      upper.andThen lower = .chain upper lower := by
  unfold andThen
  split
  · exact .inl ⟨rfl, rfl⟩
  · exact .inr (.inl ⟨rfl, rfl⟩)
  · exact .inr (.inr rfl)

/-- A stage with nothing below it. -/
theorem andThen_input (upper : Stage) : upper.andThen .input = upper := by cases upper <;> rfl

/-- A stage with nothing above it. -/
theorem input_andThen (lower : Stage) : Stage.input.andThen lower = lower := by
  cases lower <;> rfl

/-- Two stages that change something. -/
theorem andThen_of_ne {upper lower : Stage} (hupper : upper ≠ .input) (hlower : lower ≠ .input) :
    upper.andThen lower = .chain upper lower := by
  rcases andThen_cases upper lower with ⟨h, -⟩ | ⟨h, -⟩ | h
  · exact absurd h hlower
  · exact absurd h hupper
  · exact h

/-- One stage above another makes of rows what the other makes of what the one makes of them. -/
theorem means_andThen {upper lower : Stage} (h : (upper.andThen lower).means E U W) :
    ∃ V, upper.means E U V ∧ lower.means E V W := by
  rcases andThen_cases upper lower with ⟨rfl, heq⟩ | ⟨rfl, heq⟩ | heq
  · rw [heq] at h
    exact ⟨W, h, rfl⟩
  · rw [heq] at h
    exact ⟨U, rfl, h⟩
  · rw [heq] at h
    exact h

/-- One stage above another is hasty if one of them is. -/
theorem hasty_andThen (upper lower : Stage) :
    (upper.andThen lower).hasty = (upper.hasty || lower.hasty) := by
  rcases andThen_cases upper lower with ⟨rfl, heq⟩ | ⟨rfl, heq⟩ | heq
  · rw [heq]
    simp [hasty]
  · rw [heq]
    simp [hasty]
  · rw [heq]
    rfl

end Stage

/-- Sound stages are sound one above the other. -/
theorem Scene.sound_andThen (hE : E.Lawful) {upper lower : Stage} (hupper : E.Sound upper)
    (hlower : E.Sound lower) : E.Sound (upper.andThen lower) := by
  rcases Stage.andThen_cases upper lower with ⟨-, heq⟩ | ⟨-, heq⟩ | heq
  · rwa [heq]
  · rwa [heq]
  · rw [heq]
    exact sound_chain hE hupper hlower

/-! ## Conditions -/

/-- The numbered rows for which a condition is true, each with some state of evaluation. -/
inductive Kept (now : DateTime) (c : Expression) : List (Nat × Row) → List (Nat × Row) → Prop
  | nil : Kept now c [] []
  | keep {x : Nat × Row} {X Y : List (Nat × Row)} (s : EvalState)
    (h : ((Eval.evaluateBool now c x.2).run.run (Eval.enterRow s x.2)).1 = .ok true)
    (rest : Kept now c X Y) : Kept now c (x :: X) (x :: Y)
  | drop {x : Nat × Row} {X Y : List (Nat × Row)} (s : EvalState)
    (h : ((Eval.evaluateBool now c x.2).run.run (Eval.enterRow s x.2)).1 ≠ .ok true)
    (rest : Kept now c X Y) : Kept now c (x :: X) Y

/-- The numbered rows for which several conditions are true. -/
def KeptAll (now : DateTime) : List Expression → List (Nat × Row) → List (Nat × Row) → Prop
  | [] => fun X Y => Y = X
  | c :: rest => fun X Y => ∃ Z, Kept now c X Z ∧ KeptAll now rest Z Y

/-- Conditions drop rows. -/
theorem Kept.sublist {now : DateTime} {c : Expression} (h : Kept now c X Y) : Y.Sublist X := by
  induction h with
  | nil => exact .slnil
  | keep _ _ _ ih => exact ih.cons_cons _
  | drop _ _ _ ih => exact ih.cons _

/-- Several conditions drop rows. -/
theorem KeptAll.sublist {now : DateTime} {conditions : List Expression}
    (h : KeptAll now conditions X Y) : Y.Sublist X := by
  induction conditions generalizing X with
  | nil => exact h ▸ .refl X
  | cons c rest ih =>
    obtain ⟨Z, hZ, hrest⟩ := h
    exact (ih hrest).trans hZ.sublist

/-- A condition as a stage keeps the rows for which it is true. -/
theorem Stage.works_filter {now : DateTime} {c : Expression}
    (h : Works σ now (.filter c) (X.map Prod.snd) W) :
    ∃ Y, Kept now c X Y ∧ W = Y.map Prod.snd := by
  induction X generalizing W with
  | nil => exact ⟨[], .nil, h.last_inv rfl fun _ => rfl⟩
  | cons x X ih =>
    obtain ⟨s, y?, W', hrow, hrest, rfl⟩ := h.take_inv rfl
    have hstage : (stepRow now (.filter c) x.2 s).1.1 = .filter c := by
      simp only [stepRow]
      split <;> rfl
    rw [hstage] at hrest
    obtain ⟨Y, hY, rfl⟩ := ih hrest
    simp only [stepRow] at hrow
    split at hrow
    · next hvalue =>
      obtain rfl : y? = some x.2 := by cases y? <;> simp_all
      exact ⟨x :: Y, .keep s.evaluation hvalue hY, rfl⟩
    · next hvalue =>
      obtain rfl : y? = none := by cases y? <;> simp_all
      exact ⟨Y, .drop s.evaluation (fun h' => hvalue h') hY, rfl⟩

namespace Plan

/-- Conditions, one below the other, keep the rows for which all of them are true. -/
theorem means_filterStages {conditions : List Expression}
    (h : (filterStages conditions).means E (X.map Prod.snd) W) :
    ∃ Y, KeptAll E.now conditions X Y ∧ W = Y.map Prod.snd := by
  induction conditions generalizing X with
  | nil => exact ⟨X, rfl, h⟩
  | cons c rest ih =>
    obtain ⟨V, hV, hW⟩ := Stage.means_andThen h
    obtain ⟨Z, hZ, rfl⟩ := Stage.works_filter hV
    obtain ⟨Y, hY, rfl⟩ := ih hW
    exact ⟨Y, ⟨Z, hZ, hY⟩, rfl⟩

/-- Conditions are sound. -/
theorem sound_filterStages (hE : E.Lawful) (conditions : List Expression) :
    E.Sound (filterStages conditions) := by
  induction conditions with
  | nil => exact Scene.sound_leaf hE rfl
  | cons c rest ih => exact Scene.sound_andThen hE (Scene.sound_leaf hE rfl) ih

/-- Conditions wait for the last row. -/
theorem hasty_filterStages (conditions : List Expression) :
    (filterStages conditions).hasty = false := by
  induction conditions with
  | nil => rfl
  | cons c rest ih =>
    show ((Stage.filter c).andThen (filterStages rest)).hasty = false
    rw [Stage.hasty_andThen, ih]
    rfl

/-! ## Bound joins -/

/-- What a bound join at some place is told, but for the option. -/
def boundPattern (scope : Scope) (triples : List TriplePattern) : BoundPattern :=
  ⟨triples, scope.address, scope.graph, scope.bufferSize, false⟩

/-- The rows that triple patterns extend rows to: those that the answers to the rounds of a bound
join tell. No patterns extend every row to itself. -/
def Joins (E : Scene σ) (scope : Scope) (triples : List TriplePattern) (U : List Row)
    (X : List (Nat × Row)) : Prop :=
  if triples = [] then X = U.zipIdx.map Prod.swap
  else ∃ rounds : List BoundJoin.PastRound, rounds.map Prod.fst = buckets scope.bufferSize U ∧
    (∀ r ∈ rounds, E.Served (boundPattern scope triples) r.1 r.2) ∧
    X = BoundJoin.extensions (boundPattern scope triples) rounds

/-- Rows are extended to rows that keep all that they bind. -/
theorem Joins.extending {scope : Scope} {triples : List TriplePattern}
    (h : Joins E scope triples U X) : Extending U X := by
  unfold Joins at h
  split at h
  · subst h
    intro x hx
    obtain ⟨e, he, rfl⟩ := List.mem_map.1 hx
    exact ⟨e.1, List.mem_zipIdx_iff_getElem?.1 he, .refl _⟩
  · obtain ⟨rounds, hbuckets, -, rfl⟩ := h
    have hext := BoundJoin.extending_extensions (boundPattern scope triples) rounds
    rwa [hbuckets, flatten_buckets] at hext

/-- What a join extends does not depend on whether it has the option. -/
theorem extensions_option (goal : BoundPattern) (optional : Bool) (size : Nat)
    (rounds : List BoundJoin.PastRound) :
    BoundJoin.extensions { goal with optional, bufferSize := size } rounds =
      BoundJoin.extensions goal rounds := by
  induction rounds with
  | nil => rfl
  | cons r rest ih => rw [BoundJoin.extensions, ih]; rfl

/-- A bound join hands on the rows that it extends rows to; with the option it also hands on the
rows that it does not extend. -/
theorem means_joinStage {scope : Scope} {triples : List TriplePattern}
    (h : (joinStage scope triples).means E U W) :
    ∃ X, Joins E scope triples U X ∧
      if scope.optional = true then
        (W : Multiset Row) = (X.map Prod.snd : Multiset Row) + (unextended U X : Multiset Row)
      else W = X.map Prod.snd := by
  unfold joinStage at h
  unfold Joins
  by_cases hnil : triples = []
  · subst hnil
    obtain rfl : W = U := h
    refine ⟨W.zipIdx.map Prod.swap, by rw [if_pos rfl], ?_⟩
    rw [map_snd_zipIdx, unextended_zipIdx]
    simp
  · simp only [List.isEmpty_iff, hnil, if_false] at h ⊢
    obtain ⟨rounds, hbuckets, hover⟩ := h
    have hgoal : (BoundJoin.ofPattern ⟨triples, scope.address, scope.graph, scope.bufferSize,
        scope.optional⟩).goal = { boundPattern scope triples with
          optional := scope.optional, bufferSize := max scope.bufferSize 1 } := rfl
    rw [hgoal] at hbuckets hover
    have hbuckets' : rounds.map Prod.fst = buckets scope.bufferSize U :=
      hbuckets.trans (buckets_max_one _ _)
    have hrows : (rounds.map Prod.fst).flatten = U := by rw [hbuckets', flatten_buckets]
    refine ⟨_, ⟨rounds, hbuckets', fun r hr => ?_, rfl⟩, ?_⟩
    · intro hunderstood
      have hserved := hover.served r hr hunderstood
      exact ⟨hserved.tells, hserved.rows⟩
    · rw [hover.given]
      by_cases hopt : scope.optional = true
      · rw [if_pos hopt, BoundJoin.flatMap_yield, extensions_option, if_pos hopt, hrows]
      · rw [if_neg hopt, BoundJoin.flatMap_yield_of_not_optional (by simpa using hopt),
          extensions_option]

/-- Bound joins with patterns without paths are sound. -/
theorem sound_joinStage (hE : E.Lawful) (scope : Scope) {triples : List TriplePattern}
    (h : Bgp.Plain triples) : E.Sound (joinStage scope triples) := by
  unfold joinStage
  split
  · exact Scene.sound_leaf hE rfl
  · exact Scene.sound_remote hE h

/-- Bound joins wait for the last row. -/
theorem hasty_joinStage (scope : Scope) (triples : List TriplePattern) :
    (joinStage scope triples).hasty = false := by
  unfold joinStage
  split <;> rfl

end Plan

/-! ## Branches -/

namespace PathFree

mutual

/-- The rows that a pattern without paths extends rows to. -/
def Extends (E : Scene σ) (scope : Scope) : PathFree → List Row → List (Nat × Row) → Prop
  | .flat triples conditions => fun U X =>
    ∃ Y, Plan.Joins E scope triples U Y ∧ KeptAll E.now conditions Y X
  | .split branches conditions => fun U X =>
    ∃ Y, ExtendsEach E scope branches U Y ∧ KeptAll E.now conditions Y X

/-- The rows that the patterns of a list extend rows to. -/
def ExtendsEach (E : Scene σ) (scope : Scope) : List PathFree → List Row → List (Nat × Row) → Prop
  | [] => fun _ X => X = []
  | p :: rest => fun U X => ∃ Y Z, Extends E scope p U Y ∧ ExtendsEach E scope rest U Z ∧ X = Y ++ Z

end

mutual

/-- The triple patterns have no paths. -/
def Plain : PathFree → Prop
  | .flat triples _ => Bgp.Plain triples
  | .split branches _ => PlainEach branches

/-- The triple patterns of all patterns have no paths. -/
def PlainEach : List PathFree → Prop
  | [] => True
  | p :: rest => p.Plain ∧ PlainEach rest

end

mutual

/-- Some part of the pattern is a list of triple patterns, so that rows are read. -/
def reads : PathFree → Bool
  | .flat _ _ => true
  | .split branches _ => readsEach branches

/-- Some pattern of a list reads rows. -/
def readsEach : List PathFree → Bool
  | [] => false
  | p :: rest => p.reads || readsEach rest

end

variable {scope : Scope}

mutual

/-- What is extended does not depend on the option. -/
theorem Extends.option {optional : Bool} {p : PathFree} {X : List (Nat × Row)}
    (h : p.Extends E { scope with optional } U X) : p.Extends E scope U X := by
  match p, h with
  | .flat _ _, h => exact h
  | .split branches _, h =>
    obtain ⟨Y, hY, hX⟩ := h
    exact ⟨Y, ExtendsEach.option hY, hX⟩

/-- What several patterns extend does not depend on the option. -/
theorem ExtendsEach.option {optional : Bool} {ps : List PathFree} {X : List (Nat × Row)}
    (h : ExtendsEach E { scope with optional } ps U X) : ExtendsEach E scope ps U X := by
  match ps, h with
  | [], h => exact h
  | p :: rest, h =>
    obtain ⟨Y, Z, hY, hZ, rfl⟩ := h
    exact ⟨Y, Z, Extends.option hY, ExtendsEach.option hZ, rfl⟩

end

mutual

/-- Rows are extended to rows that keep all that they bind. -/
theorem Extends.extending {p : PathFree} {X : List (Nat × Row)} (h : p.Extends E scope U X) :
    Extending U X := by
  match p, h with
  | .flat _ _, h =>
    obtain ⟨Y, hY, hX⟩ := h
    exact hY.extending.sublist hX.sublist
  | .split branches _, h =>
    obtain ⟨Y, hY, hX⟩ := h
    exact (ExtendsEach.extending hY).sublist hX.sublist

/-- Rows are extended to rows that keep all that they bind, by all patterns of a list. -/
theorem ExtendsEach.extending {ps : List PathFree} {X : List (Nat × Row)}
    (h : ExtendsEach E scope ps U X) : Extending U X := by
  match ps, h with
  | [], h =>
    intro x hx
    rw [h] at hx
    exact absurd hx List.not_mem_nil
  | p :: rest, h =>
    obtain ⟨Y, Z, hY, hZ, rfl⟩ := h
    intro x hx
    rcases List.mem_append.1 hx with hx | hx
    · exact Extends.extending hY x hx
    · exact ExtendsEach.extending hZ x hx

end

mutual

/-- Outside of optional groups the stage of a pattern without paths hands on the rows that it
extends rows to. -/
theorem means_pathFreeStage (hopt : scope.optional = false) (p : PathFree) {W : List Row}
    (h : (Plan.pathFreeStage scope p).means E U W) :
    ∃ X, p.Extends E scope U X ∧ W = X.map Prod.snd := by
  match p with
  | .flat triples conditions =>
    obtain ⟨V, hV, hW⟩ := Stage.means_andThen h
    obtain ⟨Y, hY, hrows⟩ := Plan.means_joinStage hV
    rw [if_neg (by simp [hopt])] at hrows
    subst hrows
    obtain ⟨X, hX, rfl⟩ := Plan.means_filterStages hW
    exact ⟨X, ⟨Y, hY, hX⟩, rfl⟩
  | .split branches conditions =>
    obtain ⟨V, hV, hW⟩ := Stage.means_andThen h
    have hscope : { scope with optional := false } = scope := by
      cases scope
      cases hopt
      rfl
    rw [hscope] at hV
    obtain ⟨Y, hY, rfl⟩ := means_pathFreeStages hopt branches hV
    obtain ⟨X, hX, rfl⟩ := Plan.means_filterStages hW
    exact ⟨X, ⟨Y, hY, hX⟩, rfl⟩

/-- The stages of patterns without paths hand on the rows that they extend rows to. -/
theorem means_pathFreeStages (hopt : scope.optional = false) (ps : List PathFree) {W : List Row}
    (h : Stage.meansEach E (Plan.pathFreeStages scope ps) U W) :
    ∃ X, ExtendsEach E scope ps U X ∧ W = X.map Prod.snd := by
  match ps with
  | [] => exact ⟨[], rfl, h⟩
  | p :: rest =>
    obtain ⟨V, V', hV, hV', rfl⟩ := h
    obtain ⟨Y, hY, rfl⟩ := means_pathFreeStage hopt p hV
    obtain ⟨Z, hZ, rfl⟩ := means_pathFreeStages hopt rest hV'
    exact ⟨Y ++ Z, ⟨Y, Z, hY, hZ, rfl⟩, by simp⟩

end

mutual

/-- The stage of a pattern without paths is sound. -/
theorem sound_pathFreeStage (hE : E.Lawful) (scope : Scope) (p : PathFree) (hp : p.Plain) :
    E.Sound (Plan.pathFreeStage scope p) := by
  match p with
  | .flat triples conditions =>
    exact Scene.sound_andThen hE (Plan.sound_joinStage hE scope hp)
      (Plan.sound_filterStages hE conditions)
  | .split branches conditions =>
    exact Scene.sound_andThen hE
      (Scene.sound_fork hE (sound_pathFreeStages hE { scope with optional := false } branches hp))
      (Plan.sound_filterStages hE conditions)

/-- The stages of patterns without paths are sound. -/
theorem sound_pathFreeStages (hE : E.Lawful) (scope : Scope) (ps : List PathFree)
    (hps : PlainEach ps) : ∀ st ∈ Plan.pathFreeStages scope ps, E.Sound st := by
  match ps with
  | [] => exact fun st hst => absurd hst List.not_mem_nil
  | p :: rest =>
    intro st hst
    rcases List.mem_cons.1 hst with rfl | hst
    · exact sound_pathFreeStage hE scope p hps.1
    · exact sound_pathFreeStages hE scope rest hps.2 st hst

end

mutual

/-- The stage of a pattern without paths waits for the last row if it reads rows at all. -/
theorem hasty_pathFreeStage (scope : Scope) (p : PathFree) :
    (Plan.pathFreeStage scope p).hasty = !p.reads := by
  match p with
  | .flat triples conditions =>
    rw [Plan.pathFreeStage, Stage.hasty_andThen, Plan.hasty_joinStage, Plan.hasty_filterStages]
    rfl
  | .split branches conditions =>
    rw [Plan.pathFreeStage, Stage.hasty_andThen, Plan.hasty_filterStages, Bool.or_false]
    exact hasty_pathFreeStages _ branches

/-- The stages of patterns without paths wait for the last row if one of them reads rows. -/
theorem hasty_pathFreeStages (scope : Scope) (ps : List PathFree) :
    Stage.allHasty (Plan.pathFreeStages scope ps) = !readsEach ps := by
  match ps with
  | [] => rfl
  | p :: rest =>
    rw [Plan.pathFreeStages, Stage.allHasty, hasty_pathFreeStage scope p,
      hasty_pathFreeStages scope rest, readsEach, Bool.not_or]

end

end PathFree

end PagedSparql
