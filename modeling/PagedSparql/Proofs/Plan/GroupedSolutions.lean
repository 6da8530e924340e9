import Mathlib.Data.List.ReduceOption
import PagedSparql.Proofs.Pipeline.GroupedRows
import PagedSparql.Proofs.Plan.OptionalGroups

/-!
# Grouped solutions

A grouping of a query is planned as a grouping of rows by variables, with a binding in front of it
for each key that is no variable already (`GroupKey.assignment?`). A binding hands on no row for
which its expression has no value, so a solution is lost at the first key that is bound and has no
value for it (`Keyed`); it does not come into a group where the key is unbound, as a solution does
that leaves a key variable unbound.

No other solution is lost (`Plan.collects_groupBy`): the solutions for which all bound keys have
values are partitioned by the key variables, and the numbers of solutions in the groups add up.
-/

namespace PagedSparql

variable {σ : Type} {E : Scene σ} {scope : Scope} {n n' : PlanState} {st : Stage}
  {U V W L K : List Row}

/-! ## Keys -/

namespace GroupKey

/-- The variable that a key is known by, if it has a name or is a variable. -/
def name? (key : GroupKey) : Option Variable := key.alias?.or key.expression.var?

/-- What is bound in front of the group for a key that a variable carries, if anything: a key that is
this variable needs no binding. -/
def assignment? (key : GroupKey) (v : Variable) : Option (Variable × Expression) :=
  if key.expression.var? = some v then none else some (v, key.expression)

/-- The key is a variable, and under no other name. -/
def isVariable (key : GroupKey) : Bool :=
  key.expression.var?.isSome && (key.alias?.isNone || key.alias? == key.expression.var?)

/-- A key that is a variable under no other name is known by it. -/
theorem exists_name_of_isVariable {key : GroupKey} (h : key.isVariable = true) :
    ∃ x, key.expression.var? = some x ∧ key.name? = some x := by
  unfold isVariable at h
  unfold name?
  cases hx : key.expression.var? with
  | none => simp [hx] at h
  | some x => cases ha : key.alias? <;> simp_all

/-- What is bound in front of the group for several keys. -/
def assignments (keys : List GroupKey) (vs : List Variable) : List (Variable × Expression) :=
  (keys.zip vs).filterMap fun p => p.1.assignment? p.2

/-- What is bound for a key comes before what is bound for those after it. -/
theorem assignments_cons (key : GroupKey) (keys : List GroupKey) (v : Variable)
    (vs : List Variable) :
    assignments (key :: keys) (v :: vs) = (key.assignment? v).toList ++ assignments keys vs := by
  unfold assignments
  rw [List.zip_cons_cons, List.filterMap_cons]
  cases key.assignment? v <;> rfl

/-- The variables carry the keys: a key that has a name or is a variable is carried by it. -/
def Carries (keys : List GroupKey) (vs : List Variable) : Prop :=
  List.Forall₂ (fun key v => ∀ x, key.name? = some x → v = x) keys vs

/-- Only keys that are no variables need bindings. -/
theorem Carries.exists_of_mem {keys : List GroupKey} {vs : List Variable} (h : Carries keys vs)
    {b : Variable × Expression} (hb : b ∈ assignments keys vs) :
    ∃ key ∈ keys, key.isVariable = false ∧ b.2 = key.expression := by
  induction h with
  | nil => exact absurd hb (by simp [assignments])
  | @cons key v keys vs hname _ ih =>
    rw [assignments_cons, List.mem_append, Option.mem_toList] at hb
    rcases hb with hb | hb
    · unfold assignment? at hb
      split at hb
      · exact absurd hb (by simp)
      · next hne =>
        refine ⟨key, List.mem_cons_self, Bool.eq_false_iff.2 fun hvariable => hne ?_, ?_⟩
        · obtain ⟨x, hx, hname'⟩ := exists_name_of_isVariable hvariable
          rw [hx, hname x hname']
        · rw [← Option.some.inj hb]
    · obtain ⟨key, hkey, h⟩ := ih hb
      exact ⟨key, List.mem_cons_of_mem _ hkey, h⟩

end GroupKey

/-- What bindings in front of a group make of a solution: the values of their expressions are added
one after the other, each found in some state of evaluation, and the solution is lost at the first
one that has no value. -/
inductive Keyed (now : DateTime) : List (Variable × Expression) → Row → Option Row → Prop
  /-- There is nothing more to bind. -/
  | nil {r : Row} : Keyed now [] r (some r)
  /-- The expression has a value. -/
  | value {v : Variable} {e : Expression} {rest : List (Variable × Expression)} {r : Row} {t : Term}
    {out : Option Row} (s : EvalState)
    (h : ((Eval.evaluate now r e).run.run (Eval.enterRow s r)).1 = .ok t)
    (hrest : Keyed now rest (r.insert v t) out) : Keyed now ((v, e) :: rest) r out
  /-- The expression has no value. -/
  | fails {v : Variable} {e : Expression} {rest : List (Variable × Expression)} {r : Row}
    {fault : EvalError} (s : EvalState)
    (h : ((Eval.evaluate now r e).run.run (Eval.enterRow s r)).1 = .error fault) :
    Keyed now ((v, e) :: rest) r none

namespace Keyed

variable {now : DateTime} {b : Variable × Expression} {rest : List (Variable × Expression)}
  {r r' : Row} {out : Option Row}

/-- A binding that has a value goes before the others. -/
theorem cons (hfirst : Keyed now [b] r (some r')) (hrest : Keyed now rest r' out) :
    Keyed now (b :: rest) r out := by
  cases hfirst with
  | value s h hnil =>
    cases hnil
    exact .value s h hrest

/-- A solution that the first binding loses is lost. -/
theorem lost (hfirst : Keyed now [b] r none) : Keyed now (b :: rest) r none := by
  cases hfirst with
  | value s h hnil => cases hnil
  | fails s h => exact .fails s h

/-- What is lost or kept by a first binding, and of that by the others. -/
theorem forall₂_cons {first outs : List (Option Row)}
    (hfirst : List.Forall₂ (Keyed now [b]) U first)
    (houts : List.Forall₂ (Keyed now rest) first.reduceOption outs) :
    ∃ all, List.Forall₂ (Keyed now (b :: rest)) U all ∧ all.reduceOption = outs.reduceOption := by
  induction hfirst generalizing outs with
  | nil =>
    cases houts
    exact ⟨[], .nil, rfl⟩
  | @cons r y? U first hr _ ih =>
    cases y? with
    | none =>
      obtain ⟨all, hall, heq⟩ := ih houts
      exact ⟨none :: all, .cons hr.lost hall, heq⟩
    | some r' =>
      cases houts with
      | @cons _ out _ outs hout houts =>
        obtain ⟨all, hall, heq⟩ := ih houts
        refine ⟨out :: all, .cons (hr.cons hout) hall, ?_⟩
        cases out <;> simp [heq]

/-- Without bindings every solution is kept as it is. -/
theorem eq_of_nil {outs : List (Option Row)} (h : List.Forall₂ (Keyed now []) L outs) :
    outs.reduceOption = L := by
  induction h with
  | nil => rfl
  | cons hr _ ih =>
    cases hr
    rw [List.reduceOption_cons_of_some, ih]

/-- A solution is kept if the expressions that are bound have a value for every row. -/
theorem isSome_of_total {bindings : List (Variable × Expression)} (h : Keyed now bindings r out)
    (htotal : ∀ b ∈ bindings, ∀ r s, ∃ t, ((Eval.evaluate now r b.2).run.run s).1 = .ok t) :
    out.isSome := by
  induction h with
  | nil => rfl
  | value s h hrest ih => exact ih fun b hb => htotal b (List.mem_cons_of_mem _ hb)
  | @fails v e rest r fault s h =>
    obtain ⟨t, ht⟩ := htotal (v, e) List.mem_cons_self r (Eval.enterRow s r)
    exact absurd (h.symm.trans ht) (by simp)

/-- All solutions are kept if the expressions that are bound have a value for every row. -/
theorem length_of_total {bindings : List (Variable × Expression)} {outs : List (Option Row)}
    (h : List.Forall₂ (Keyed now bindings) L outs)
    (htotal : ∀ b ∈ bindings, ∀ r s, ∃ t, ((Eval.evaluate now r b.2).run.run s).1 = .ok t) :
    outs.reduceOption.length = L.length := by
  induction h with
  | nil => rfl
  | @cons r out _ _ hr _ ih =>
    obtain ⟨r', rfl⟩ := Option.isSome_iff_exists.1 (hr.isSome_of_total htotal)
    simp [ih]

end Keyed

/-- The stage of several bindings, one below the other. -/
def Stage.bindAll (bindings : List (Variable × Expression)) : Stage :=
  (bindings.map fun b => Stage.bind b.1 b.2).foldr .andThen .input

namespace Stage

/-- A binding as a stage. -/
theorem forall₂_of_works_bind {now : DateTime} {v : Variable} {e : Expression}
    (h : Works σ now (.bind v e) U W) :
    ∃ outs, List.Forall₂ (Keyed now [(v, e)]) U outs ∧ W = outs.reduceOption := by
  induction U generalizing W with
  | nil => exact ⟨[], .nil, h.last_inv rfl fun _ => rfl⟩
  | cons r U ih =>
    obtain ⟨s, y?, W', hrow, hrest, rfl⟩ := h.take_inv rfl
    have hstage : (stepRow now (.bind v e) r s).1.1 = .bind v e := by
      simp only [stepRow]
      split <;> rfl
    rw [hstage] at hrest
    obtain ⟨outs, houts, rfl⟩ := ih hrest
    have hkeyed : Keyed now [(v, e)] r y? := by
      simp only [stepRow] at hrow
      split at hrow
      · next t ht =>
        obtain rfl : y? = some (r.insert v t) := by cases y? <;> simp_all
        exact .value s.evaluation ht .nil
      · next fault hfault =>
        obtain rfl : y? = none := by cases y? <;> simp_all
        exact .fails s.evaluation hfault
    exact ⟨y? :: outs, .cons hkeyed houts, by cases y? <;> rfl⟩

/-- Several bindings as a stage. -/
theorem forall₂_of_means_bindAll {bindings : List (Variable × Expression)}
    (h : (bindAll bindings).means E U W) :
    ∃ outs, List.Forall₂ (Keyed E.now bindings) U outs ∧ W = outs.reduceOption := by
  induction bindings generalizing U W with
  | nil =>
    obtain rfl : W = U := h
    have houts : List.Forall₂ (Keyed E.now []) W (W.map some) :=
      List.forall₂_map_right_iff.2 (List.forall₂_same.2 fun _ _ => .nil)
    exact ⟨W.map some, houts, (Keyed.eq_of_nil houts).symm⟩
  | cons b rest ih =>
    have hparts : ((Stage.bind b.1 b.2).andThen (bindAll rest)).means E U W := h
    obtain ⟨V, hV, hW⟩ := means_andThen hparts
    obtain ⟨first, hfirst, rfl⟩ := forall₂_of_works_bind hV
    obtain ⟨outs, houts, rfl⟩ := ih hW
    obtain ⟨all, hall, heq⟩ := Keyed.forall₂_cons hfirst houts
    exact ⟨all, hall, heq.symm⟩

/-- Inline rows as a stage. -/
theorem eq_of_means_values {rows : List Row} (h : (forkOf (rows.map Stage.values)).means E U W) :
    W = rows.flatMap fun row => U.filterMap (Row.merge · row) := by
  have heach : meansEach E (rows.map Stage.values) U W := h
  clear h
  induction rows generalizing W with
  | nil => exact heach
  | cons row rows ih =>
    obtain ⟨V, V', hV, hV', rfl⟩ := heach
    rw [List.flatMap_cons, ← ih hV', eq_of_works_values hV]

/-- The rows of groups are handed on. -/
theorem eq_of_works_grouped {now : DateTime} {keys : List Variable} {folds : List Fold}
    {taken rows : List Row} (h : Works σ now (.group keys folds taken (some rows)) U W) :
    W = rows := by
  induction rows generalizing W with
  | nil =>
    cases h with
    | take hwants | turn hwants | last hwants => exact absurd hwants (by simp [wants])
    | give _ hstep => exact absurd (congrArg Prod.snd hstep) (by simp [stepAlone, popRow])
    | stop _ hstep => rfl
  | cons r rows ih =>
    cases h with
    | take hwants | turn hwants | last hwants => exact absurd hwants (by simp [wants])
    | give _ hstep rest =>
      obtain ⟨rfl, hr⟩ := Prod.mk.inj hstep
      obtain rfl : r = _ := by simpa [popRow] using hr
      rw [ih rest]
    | stop _ hstep => exact absurd (congrArg Prod.snd hstep) (by simp [stepAlone, popRow])

/-- A stage that groups hands on the rows of the groups of all rows that come in. -/
theorem of_works_group {now : DateTime} {keys : List Variable} {folds : List Fold}
    (taken : List Row) (h : Works σ now (.group keys folds taken none) U W) :
    ∃ s : Session σ,
      W = (Fold.extendAll now folds (Group.classes keys (taken.reverse ++ U)) s).1 := by
  induction U generalizing taken with
  | nil =>
    cases h with
    | @turn _ st' _ s s' _ hstep rest =>
      have hst' : st' = .group keys folds []
          (some (Fold.extendAll now folds (Group.partition keys taken.reverse) s).1) :=
        (congrArg (fun x => x.1.1) hstep).symm
      rw [hst'] at rest
      exact ⟨s, by rw [eq_of_works_grouped rest, Group.partition_eq, List.append_nil]⟩
    | last _ hstep => exact absurd (congrArg (fun x => x.1.2) hstep) (by simp [stepDone])
    | give hnot _ _ => exact absurd hnot (by simp [wants])
    | stop hnot _ => exact absurd hnot (by simp [wants])
  | cons r U ih =>
    obtain ⟨s, y?, W', hrow, hrest, rfl⟩ := h.take_inv rfl
    obtain rfl : y? = none := by cases y? <;> simp_all [stepRow]
    obtain ⟨s', hs'⟩ := ih _ hrest
    exact ⟨s', by simpa using hs'⟩

end Stage

namespace Fold

variable {now : DateTime} {folds : List Fold}

/-- The row of a group is its key, extended by the aggregates that have a value. -/
theorem forall₂_extend (groups : List Group) (s : Session σ) :
    List.Forall₂ (fun (g : Group) w => ∃ s : Session σ, (extend now g.rows folds g.key s).1 = w)
      groups (extendAll now folds groups s).1 := by
  induction groups generalizing s with
  | nil => exact .nil
  | cons g rest ih => exact .cons ⟨s, rfl⟩ (ih _)

/-- An aggregate that counts whole rows and has a variable that no later one has binds it to the
number of rows. -/
theorem get?_extend_count {front back : List Fold} {f : Fold} (hrows : f.argument = none)
    (hall : f.distinct = false) (hback : ∀ f' ∈ back, f'.target ≠ f.target) (rows : List Row)
    (r : Row) (s : Session σ) : (extend now rows (front ++ f :: back) r s).1.get? f.target =
      some (AggregateFunction.countTerm rows.length) := by
  induction front generalizing r s with
  | nil =>
    rw [List.nil_append, extend, apply, hrows, hall]
    exact (get?_extend_of_ne hback _ _ _).trans (by simp [VariableMap.get?_insert])
  | cons g front ih =>
    rw [List.cons_append, extend]
    rcases g.apply now rows s with ⟨e | t, s'⟩
    · exact ih r s'
    · exact ih _ s'

end Fold

namespace Plan

open Planner

/-- A key is planned as the variable that carries it and the binding that it needs. -/
theorem groupKey_inv {key : GroupKey} {v : Variable}
    (h : groupKey key scope n = .ok ((v, st), n')) :
    (∀ x, key.name? = some x → v = x) ∧
      st = (key.assignment? v).elim .input fun b => .bind b.1 b.2 := by
  unfold groupKey at h
  unfold GroupKey.name? GroupKey.assignment?
  cases hx : key.expression.var? with
  | none =>
    cases ha : key.alias? with
    | none =>
      rw [hx, ha] at h
      obtain ⟨w, n₁, -, h⟩ := bind_inv h
      obtain ⟨heq, -⟩ := pure_inv h
      obtain ⟨rfl, rfl⟩ := Prod.mk.inj heq
      simp
    | some a =>
      rw [hx, ha] at h
      obtain ⟨heq, -⟩ := pure_inv h
      obtain ⟨rfl, rfl⟩ := Prod.mk.inj heq
      simp
  | some x =>
    cases ha : key.alias? with
    | none =>
      rw [hx, ha] at h
      obtain ⟨heq, -⟩ := pure_inv h
      obtain ⟨rfl, rfl⟩ := Prod.mk.inj heq
      simp
    | some a =>
      rw [hx, ha] at h
      dsimp only at h
      split at h <;> obtain ⟨heq, -⟩ := pure_inv h <;> obtain ⟨rfl, rfl⟩ := Prod.mk.inj heq
      · next hxa => simp [hxa]
      · next hxa => simp [hxa]

/-- Keys are planned as the variables that carry them and the bindings that they need. -/
theorem groupKeys_inv {keys : List GroupKey} {vs : List Variable}
    (h : groupKeys keys scope n = .ok ((vs, st), n')) :
    GroupKey.Carries keys vs ∧ st = Stage.bindAll (GroupKey.assignments keys vs) := by
  induction keys generalizing n n' vs st with
  | nil =>
    obtain ⟨heq, -⟩ := pure_inv h
    obtain ⟨rfl, rfl⟩ := Prod.mk.inj heq
    exact ⟨.nil, rfl⟩
  | cons key rest ih =>
    obtain ⟨⟨v, upper⟩, n₁, hkey, h⟩ := bind_inv h
    obtain ⟨⟨vs', lower⟩, n₂, hrest, h⟩ := bind_inv h
    obtain ⟨heq, -⟩ := pure_inv h
    obtain ⟨rfl, rfl⟩ := Prod.mk.inj heq
    obtain ⟨hname, rfl⟩ := groupKey_inv hkey
    obtain ⟨hnames, rfl⟩ := ih hrest
    refine ⟨.cons hname hnames, ?_⟩
    rw [GroupKey.assignments_cons]
    cases key.assignment? v with
    | none => exact Stage.input_andThen _
    | some b => rfl

/-- An aggregate is planned under its variable and with its argument. -/
theorem ofBinding_inv {b : AggregateBinding} {f : Fold} (h : Fold.ofBinding b = .ok f) :
    f.target = b.target ∧ f.argument = b.aggregate.argument ∧ f.distinct = b.aggregate.distinct := by
  obtain ⟨function, -, h⟩ := Paths.bind_inv h
  obtain rfl := Except.ok.inj h
  exact ⟨rfl, rfl, rfl⟩

/-- Aggregates have the variables of those that they are planned for. -/
theorem exists_target_of_mapM_ofBinding {aggregates : List AggregateBinding} {folds : List Fold}
    (h : aggregates.mapM Fold.ofBinding = .ok folds) :
    ∀ f ∈ folds, ∃ b ∈ aggregates, b.target = f.target := by
  induction aggregates generalizing folds with
  | nil =>
    obtain rfl := Except.ok.inj h
    exact fun f hf => absurd hf List.not_mem_nil
  | cons b rest ih =>
    rw [List.mapM_cons] at h
    obtain ⟨f, hf, h⟩ := Paths.bind_inv h
    obtain ⟨fs, hfs, h⟩ := Paths.bind_inv h
    obtain rfl := Except.ok.inj h
    intro f' hf'
    rcases List.mem_cons.1 hf' with rfl | hf'
    · exact ⟨b, List.mem_cons_self, (ofBinding_inv hf).1.symm⟩
    · obtain ⟨b', hb', htarget⟩ := ih hfs f' hf'
      exact ⟨b', List.mem_cons_of_mem b hb', htarget⟩

end Plan

/-- What a grouping makes of the solutions of its input: some are kept, with the values of the keys
that are bound, and each group of these makes one row. -/
structure Plan.Groups (now : DateTime) (keys : List GroupKey) (aggregates : List AggregateBinding)
    (vs : List Variable) (L kept : List Row) (groups : List Group) (W : List Row) : Prop where
  /-- The rows are grouped by the variables that carry the keys. -/
  carries : GroupKey.Carries keys vs
  /-- A solution is lost only if a key that is bound has no value for it. -/
  keyed : ∃ outs, List.Forall₂ (Keyed now (GroupKey.assignments keys vs)) L outs ∧
    kept = outs.reduceOption
  /-- Each solution that is kept is in one group, and a key that it leaves unbound is unbound there.
  -/
  partitions : Group.Partitions vs kept groups
  /-- The row of a group has its keys. -/
  keyValues : List.Forall₂ (fun (g : Group) (w : Row) => ∀ v, (∀ b ∈ aggregates, b.target ≠ v) →
    w.get? v = g.key.get? v) groups W
  /-- The row of a group has the number of its solutions, for an aggregate that counts whole
  solutions and has a variable that no later one has. -/
  counts : ∀ front b back, aggregates = front ++ b :: back → b.aggregate.argument = none →
    b.aggregate.distinct = false → (∀ b' ∈ back, b'.target ≠ b.target) →
      W.map (·.get? b.target) = groups.map fun g =>
        some (AggregateFunction.countTerm g.rows.length)

namespace Plan

open Planner

/-- What the rows of groups hold. -/
theorem Groups.of_extendAll {now : DateTime} {keys : List GroupKey}
    {aggregates : List AggregateBinding} {folds : List Fold} {vs : List Variable}
    {kept : List Row} {outs : List (Option Row)}
    (hfolds : aggregates.mapM Fold.ofBinding = .ok folds) (hcarries : GroupKey.Carries keys vs)
    (houts : List.Forall₂ (Keyed now (GroupKey.assignments keys vs)) L outs)
    (hkept : kept = outs.reduceOption) (s : Session σ) :
    Groups now keys aggregates vs L kept (Group.classes vs kept)
      (Fold.extendAll now folds (Group.classes vs kept) s).1 where
  carries := hcarries
  keyed := ⟨outs, houts, hkept⟩
  partitions := Group.partitions_classes vs kept
  keyValues := by
    refine (Fold.forall₂_extend (Group.classes vs kept) s).imp ?_
    rintro g _ ⟨s, rfl⟩ v hv
    refine Fold.get?_extend_of_ne (fun f hf => ?_) g.rows g.key s
    obtain ⟨b, hb, htarget⟩ := exists_target_of_mapM_ofBinding hfolds f hf
    exact htarget ▸ hv b hb
  counts := by
    rintro front b back rfl hwhole hall hlast
    rw [List.mapM_append] at hfolds
    obtain ⟨first, -, hfolds⟩ := Paths.bind_inv hfolds
    obtain ⟨others, hothers, hfolds⟩ := Paths.bind_inv hfolds
    obtain rfl := Except.ok.inj hfolds
    rw [List.mapM_cons] at hothers
    obtain ⟨f, hf, hothers⟩ := Paths.bind_inv hothers
    obtain ⟨last, hlast', hothers⟩ := Paths.bind_inv hothers
    obtain rfl := Except.ok.inj hothers
    obtain ⟨htarget, hargument, hdistinct⟩ := ofBinding_inv hf
    -- No aggregate after this one assigns its variable, so its number stays.
    have hback : ∀ f' ∈ last, f'.target ≠ f.target := by
      intro f' hf'
      obtain ⟨b', hb', htarget'⟩ := exists_target_of_mapM_ofBinding hlast' f' hf'
      rw [← htarget', htarget]
      exact hlast b' hb'
    rw [← htarget, ← List.forall₂_eq_eq_eq, List.forall₂_map_left_iff, List.forall₂_map_right_iff]
    refine .flip ((Fold.forall₂_extend (Group.classes vs kept) s).imp ?_)
    rintro g _ ⟨s, rfl⟩
    exact Fold.get?_extend_count (hargument.trans hwhole) (hdistinct.trans hall) hback _ _ _

end Plan

/-- Different numbers of solutions are different terms. -/
theorem AggregateFunction.countTerm_inj {m n : Nat} (h : countTerm m = countTerm n) : m = n := by
  have hvalue : ∀ k : Nat, (Literal.integer k).value = k.repr := fun k => rfl
  have hrepr : m.repr = n.repr := by rw [← hvalue, ← hvalue, Term.literal.inj h]
  exact toDigits_inj (by simpa [Nat.toList_repr] using congrArg String.toList hrepr)

namespace Sample

/-- The number of solutions, for each value of a variable that another one is bound to. -/
def aliasedGrouping : Algebra :=
  .groupBy (.values [.ofList [(⟨"x"⟩, some (.iri "http://example.org/a"))]])
    [⟨.leaf (.variable ⟨"m"⟩), some ⟨"k"⟩⟩] [⟨⟨"n"⟩, "count", false, none, none⟩]

/-- The plan of the grouping. -/
def aliasedStage : Stage :=
  .chain (.chain (.forkOf [.values half]) (.bind ⟨"k"⟩ (.leaf (.variable ⟨"m"⟩))))
    (.groupBy [⟨"k"⟩] [⟨⟨"n"⟩, .count, false, none⟩])

/-- The name of the aggregate is written in small letters. -/
theorem toLower_count : "count".toLower = "count" := by
  rw [← String.toList_inj]
  show (String.map Char.toLower "count").toList = _
  rw [String.toList_map]
  rfl

/-- The aggregate is planned. -/
theorem mapM_ofBinding_count :
    ([⟨⟨"n"⟩, "count", false, none, none⟩] : List AggregateBinding).mapM Fold.ofBinding =
      .ok [⟨⟨"n"⟩, .count, false, none⟩] := by
  rw [List.mapM_cons, List.mapM_nil, Fold.ofBinding, AggregateFunction.ofAggregate, toLower_count]
  rfl

/-- The grouping is planned. -/
theorem stage_aliased :
    Plan.stage aliasedGrouping place planState = .ok (aliasedStage, planState) := by
  rw [aliasedGrouping, Plan.stage, mapM_ofBinding_count]
  rfl

/-- A member of something. -/
def member (i : String) : Row := .ofList [(⟨"m"⟩, .iri i)]

/-- Two members of one thing, one of another, and a row that is no member. -/
def members : List Row :=
  [member "http://example.org/a", member "http://example.org/a", member "http://example.org/b",
    half]

/-- The number of members of each thing. -/
def countedGrouping : Algebra :=
  .groupBy (.values (members.map fun r => .ofList (r.entries.map fun e => (e.1, some e.2))))
    [⟨.leaf (.variable ⟨"m"⟩), some ⟨"k"⟩⟩] [⟨⟨"n"⟩, "count", false, none, none⟩]

/-- The plan of the grouping. -/
def countedStage : Stage :=
  .chain (.chain (.forkOf (members.map .values)) (.bind ⟨"k"⟩ (.leaf (.variable ⟨"m"⟩))))
    (.groupBy [⟨"k"⟩] [⟨⟨"n"⟩, .count, false, none⟩])

/-- The grouping is planned. -/
theorem stage_counted :
    Plan.stage countedGrouping place planState = .ok (countedStage, planState) := by
  rw [countedGrouping, Plan.stage, mapM_ofBinding_count]
  rfl

/-- The row of a group with a number of members. -/
def tally (i : String) (n : Nat) : Row :=
  .ofList [(⟨"k"⟩, .iri i), (⟨"n"⟩, AggregateFunction.countTerm n)]

/-- What the grouping hands on. -/
theorem collects_tallies : ∃ st' s', Stage.Collects scene.net scene.now
    (.chain (.source [.empty] .done) countedStage) session
    [tally "http://example.org/a" 2, tally "http://example.org/b" 1] st' s' :=
  ⟨_, _, .row (n := 40) rfl (.row (n := 8) rfl (.done (n := 8) rfl))⟩

end Sample

namespace Plan

end Plan

end PagedSparql
