import Mathlib.Tactic.Ring
import PagedSparql.Proofs.Algebra.Solutions
import PagedSparql.Proofs.Plan.FreshNames
import PagedSparql.Proofs.Plan.Planned

/-!
# Resolving paths keeps the solutions

A basic graph pattern with paths has the same solutions as the group without paths that it is
resolved into, as far as its own variables are concerned (`Paths.solutions_compile`).

The group binds variables of its own: the links of sequences, and the predicates that negated sets
are about. So what is kept along the rewriting is that both have the same solutions on any variables
`V` that the source of fresh variables avoids (`Paths.Resolved`). A step that draws a variable goes
on with that one added to `V`, and drops it afterwards, which is possible since nothing else binds
it (`RowSet.sameOn_link`, `RowSet.sameOn_exclusion`).
-/

namespace PagedSparql

/-! ## Conditions of negated sets -/

namespace Value

/-- An IRI equals itself only. -/
theorem equals_iri (t : Term) (i : String) : equals t (.iri i) = .ok (t == .iri i) := by
  have hnumber : Numeric.ofTerm? (.iri i) = none := rfl
  have hboolean : boolean? (.iri i) = none := rfl
  have hdateTime : DateTime.ofTerm? (.iri i) = none := rfl
  have h : comparison t (.iri i) = .others := by
    rw [comparison, hnumber, hboolean, hdateTime]
    cases Numeric.ofTerm? t <;> cases boolean? t <;> cases DateTime.ofTerm? t <;> rfl
  rw [equals, h]

end Value

namespace Eval

/-- What differing from an IRI means for two terms. -/
theorem apply_differs (now : DateTime) (t : Term) (i : String) :
    Eval.apply now "!=" [t, .iri i] = pure (.boolean (t != .iri i)) := by
  have h : Eval.apply now "!=" [t, .iri i] =
      ofExcept (Functions.truth ((Value.equals t (.iri i)).map (!·))) := rfl
  rw [h, Value.equals_iri]
  rfl

/-- The name of an inequality has no letters. -/
theorem toLower_differs : "!=".toLower = "!=" := by
  rw [← String.toList_inj]
  show (String.map Char.toLower "!=").toList = _
  simp [String.toList_map]

/-- The arguments of an inequality are evaluated first. -/
theorem evaluate_differs (now : DateTime) (r : Row) (args : List Expression) :
    evaluate now r (.call "!=" args) = evaluateAll now r args >>= Eval.apply now "!=" := by
  have hcolon : "!=".toList.contains ':' = false := by decide
  rw [evaluate, hcolon, toLower_differs]
  rfl

end Eval

/-- A variable differs from an IRI if it is bound to another term. -/
theorem Expression.holds_differs (now : DateTime) (s : EvalState) {v : Variable} (hv : v.Direct)
    (i : String) (r : Row) :
    Holds now s (.call "!=" [.leaf (.variable v), .leaf (.term (.iri i))]) r ↔
      ∃ t, r.get? v = some t ∧ t ≠ .iri i := by
  rw [Holds, Eval.evaluateBool, Eval.evaluate_differs]
  cases hr : r.get? v with
  | none =>
    have hargs : Eval.evaluateAll now r [.leaf (.variable v), .leaf (.term (.iri i))] =
        throw (.unbound v) := by
      simp only [Eval.evaluateAll, Eval.evaluate, hv r, hr]
      rfl
    rw [hargs]
    have hrun : ((Eval.truth (throw (EvalError.unbound v) >>= Eval.apply now "!=")).run.run s).1 =
        .error (.unbound v) := rfl
    rw [hrun]
    simp
  | some t =>
    have hargs : Eval.evaluateAll now r [.leaf (.variable v), .leaf (.term (.iri i))] =
        pure [t, .iri i] := by
      simp [Eval.evaluateAll, Eval.evaluate, hv r, hr]
    rw [hargs, pure_bind, Eval.apply_differs, Eval.truth, pure_bind,
      Value.effectiveBoolean_boolean]
    have hrun : ((Eval.ofExcept (.ok (t != .iri i)) : Eval Bool).run.run s).1 =
        .ok (t != .iri i) := rfl
    rw [hrun]
    simp

namespace Predicate

mutual

/-- The predicates that plans can do without: sequences are not empty, inverses have one item, and
negated sets consist of IRIs. -/
def Resolvable : Predicate → Prop
  | .plain _ => True
  | .path .sequence items => items ≠ [] ∧ ResolvableEach items
  | .path .alternative items => ResolvableEach items
  | .path .inverse items => items.length = 1 ∧ ResolvableEach items
  | .path .negated items => ∀ item ∈ items, ∃ i, item = .plain (.term (.iri i))
  | .path (.other _) _ => False

/-- All of the predicates are such. -/
def ResolvableEach : List Predicate → Prop
  | [] => True
  | p :: rest => p.Resolvable ∧ ResolvableEach rest

end

/-- Each item of a list of such predicates is one. -/
theorem ResolvableEach.of_mem {items : List Predicate} (h : ResolvableEach items) {item : Predicate}
    (hitem : item ∈ items) : item.Resolvable := by
  induction hitem with
  | head => exact h.1
  | tail _ _ ih => exact ih h.2

end Predicate

namespace Paths

/-- The conditions of a negated set of IRIs say that the variable is bound to no member. -/
theorem mapM_exclusion (now : DateTime) (s : EvalState) {v : Variable} (hv : v.Direct)
    {items : List Predicate} (h : ∀ item ∈ items, ∃ i, item = .plain (.term (.iri i))) :
    ∃ conditions, items.mapM (exclusion v) = .ok conditions ∧
      ∀ r, (∀ c ∈ conditions, Expression.Holds now s c r) ↔
        ∀ item ∈ items, ∃ t, r.get? v = some t ∧ item ≠ .plain (.term t) := by
  induction items with
  | nil => exact ⟨[], rfl, fun r => by simp⟩
  | cons item rest ih =>
    obtain ⟨⟨i, rfl⟩, hrest⟩ := List.forall_mem_cons.1 h
    obtain ⟨conditions, hconditions, hholds⟩ := ih hrest
    refine ⟨.call "!=" [.leaf (.variable v), .leaf (.term (.iri i))] :: conditions, ?_, fun r => ?_⟩
    · rw [List.mapM_cons, exclusion, hconditions]
      rfl
    · rw [List.forall_mem_cons, List.forall_mem_cons, hholds, Expression.holds_differs now s hv]
      simp [eq_comm]

end Paths

/-! ## Sets of rows around fresh variables -/

namespace RowSet

variable {V : Set Variable} {s o : TermPattern} {R S : Term → Term → RowSet} {v : Variable}

/-- A link between two ways may be left out: together they are one way. -/
theorem sameOn_link (hv : v ∉ V) (hs : ∀ v ∈ s.var?.toList, v ∈ V)
    (ho : ∀ v ∈ o.var?.toList, v ∈ V) (hR : ∀ a b, (R a b).Within V)
    (hS : ∀ a b, (S a b).Within V) :
    SameOn V (between s R (.variable v) * between (.variable v) S o)
      (between s (fun a b => .any fun m => R a m * S m b) o) := by
  have hjoin : between s R (.variable v) * between (.variable v) S o = .any fun a => .any fun b =>
      .any fun m => single v m * (s.taking a * (R a m * S m b * o.taking b)) := by
    calc between s R (.variable v) * between (.variable v) S o
      _ = .any fun a => .any fun m => .any fun m' => .any fun b =>
            s.taking a * (R a m * single v m) * (single v m' * (S m' b * o.taking b)) := by
        simp only [between, any_mul, TermPattern.taking_variable]
        simp only [mul_any]
      _ = .any fun a => .any fun m => .any fun b =>
            single v m * single v m * (s.taking a * (R a m * S m b * o.taking b)) := by
        refine any_congr fun a => any_congr fun m => (any_eq fun m' hm => ?_).trans
          (any_congr fun b => by ring)
        -- The link is bound to one term only.
        refine any_eq_zero fun b => ?_
        calc s.taking a * (R a m * single v m) * (single v m' * (S m' b * o.taking b))
          _ = single v m * single v m' * (s.taking a * R a m * S m' b * o.taking b) := by ring
          _ = 0 := by rw [single_mul_single_of_ne v (Ne.symm hm), zero_mul]
      _ = .any fun a => .any fun b => .any fun m =>
            single v m * (s.taking a * (R a m * S m b * o.taking b)) := by
        simp only [single_mul_single]
        exact any_congr fun a => any_comm _
  have hway : between s (fun a b => .any fun m => R a m * S m b) o = .any fun a => .any fun b =>
      .any fun m => s.taking a * (R a m * S m b * o.taking b) := by
    simp only [between, any_mul, mul_any]
  rw [hjoin, hway]
  refine .any fun a => .any fun b => .any fun m => sameOn_single_mul m ?_ hv
  exact (TermPattern.within_taking hs a).mul
    (((hR a m).mul (hS m b)).mul (TermPattern.within_taking ho b))

/-- A fresh variable with a condition on it may be left out: the condition says of each way whether
there is such a term. -/
theorem sameOn_exclusion {A : RowSet} {E : Term → Term → Term → Prop} {C : Term → Prop}
    {p : Row → Prop} (hv : v ∉ V) (hs : ∀ v ∈ s.var?.toList, v ∈ V)
    (ho : ∀ v ∈ o.var?.toList, v ∈ V) (hA : A.Within V)
    (hp : ∀ r t, r.get? v = some t → (p r ↔ C t)) :
    SameOn V (keep p (between s (fun a b => .any fun q => only (E a q b) * single v q) o * A))
      (between s (fun a b => only (∃ q, E a q b ∧ C q)) o * A) := by
  have hkept : keep p (between s (fun a b => .any fun q => only (E a q b) * single v q) o * A) =
      .any fun a => .any fun b => .any fun q =>
        single v q * (only (C q) * (only (E a q b) * (s.taking a * o.taking b * A))) := by
    calc keep p (between s (fun a b => .any fun q => only (E a q b) * single v q) o * A)
      _ = keep p (.any fun a => .any fun b => .any fun q =>
            single v q * (only (E a q b) * (s.taking a * o.taking b * A))) := by
        simp only [between, any_mul, mul_any]
        refine congrArg _ (any_congr fun a => any_congr fun b => any_congr fun q => ?_)
        ring
      _ = _ := by
        simp only [keep_any, keep_single_mul fun r => hp r _]
        refine any_congr fun a => any_congr fun b => any_congr fun q => ?_
        ring
  have hway : between s (fun a b => only (∃ q, E a q b ∧ C q)) o * A =
      .any fun a => .any fun b => .any fun q =>
        only (C q) * (only (E a q b) * (s.taking a * o.taking b * A)) := by
    simp only [between, only_exists, only_and, any_mul, mul_any]
    refine any_congr fun a => any_congr fun b => any_congr fun q => ?_
    ring
  rw [hkept, hway]
  refine .any fun a => .any fun b => .any fun q => sameOn_single_mul q ?_ hv
  exact (within_only _).mul ((within_only _).mul
    (((TermPattern.within_taking hs a).mul (TermPattern.within_taking ho b)).mul hA))

/-- Ways of two kinds. -/
theorem between_add (s o : TermPattern) (R S : Term → Term → RowSet) :
    between s (fun a b => R a b + S a b) o = between s R o + between s S o := by
  simp only [between, ← any_add]
  refine any_congr fun a => any_congr fun b => ?_
  ring

/-- No ways. -/
theorem between_zero (s o : TermPattern) : between s (fun _ _ => 0) o = 0 :=
  any_eq_zero fun a => any_eq_zero fun b => by ring

/-- Ways in the other direction. -/
theorem between_swap (s o : TermPattern) (R : Term → Term → RowSet) :
    between s (fun a b => R b a) o = between o R s := by
  rw [between, any_comm]
  refine any_congr fun a => any_congr fun b => ?_
  ring

end RowSet

variable {G : Set Triple} {holds : Expression → Row → Prop} {V : Set Variable}

/-! ## Groups -/

namespace Algebra

/-- A group joins its parts and keeps what fulfils the conditions after them. -/
theorem solutions_join (G : Set Triple) (holds : Expression → Row → Prop) (parts : List Algebra)
    (conditions : List Expression) (h : ∀ c, .filter c ∉ parts) :
    solutions G holds (.join (parts ++ conditions.map .filter)) =
      (joinOf G holds parts).keep fun r => ∀ c ∈ conditions, holds c r := by
  have hjoin : joinOf G holds (parts ++ conditions.map .filter) = joinOf G holds parts := by
    clear h
    induction parts with
    | nil =>
      induction conditions with
      | nil => rfl
      | cons c conditions ih => simpa [joinOf, solutions] using ih
    | cons part parts ih => simp only [List.cons_append, joinOf, ih]
  rw [solutions, hjoin]
  refine RowSet.ext fun r => and_congr_right fun _ => ?_
  simp [h]

end Algebra

namespace PathFree

/-- The solutions of triple patterns under conditions. -/
theorem solutions_flat (triples : List TriplePattern) (conditions : List Expression) :
    (toGroup (.flat triples conditions)).solutions G holds =
      (Bgp.solutions G triples).keep fun r => ∀ c ∈ conditions, holds c r := by
  rw [toGroup, Algebra.solutions_join]
  · cases triples <;> simp [Algebra.joinOf, Algebra.solutions]
  · cases triples <;> simp

/-- The solutions of branches under conditions. -/
theorem solutions_split (branches : List PathFree) (conditions : List Expression) :
    (toGroup (.split branches conditions)).solutions G holds =
      (Algebra.unionOf G holds (toGroups branches)).keep fun r => ∀ c ∈ conditions, holds c r := by
  have h := Algebra.solutions_join G holds [.union (toGroups branches)] conditions (by simp)
  simpa [toGroup, Algebra.joinOf, Algebra.solutions] using h

/-- Further conditions keep the solutions that fulfil them. -/
theorem solutions_addConditions (conditions : List Expression) (p : PathFree) :
    (p.addConditions conditions).toGroup.solutions G holds =
      (p.toGroup.solutions G holds).keep fun r => ∀ c ∈ conditions, holds c r := by
  cases p with
  | flat triples rest =>
    rw [addConditions, solutions_flat, solutions_flat, RowSet.keep_keep]
    simp only [List.forall_mem_append, and_comm]
  | split branches rest =>
    rw [addConditions, solutions_split, solutions_split, RowSet.keep_keep]
    simp only [List.forall_mem_append, and_comm]

end PathFree

namespace Paths

/-! ## Chains -/

/-- One item is a way by itself. -/
theorem walksAlong_singleton (G : Set Triple) (item : Predicate) :
    Predicate.walksAlong G [item] = item.walks G := by
  funext a b
  simp only [Predicate.walksAlong]
  exact RowSet.any_mul_only (item.walks G a) b

/-- The predicates of a chain are items of its sequence. -/
theorem predicate_mem_of_mem_chain {object subject : TermPattern} {items : List Predicate}
    {n : Naming} {t : TriplePattern} (h : t ∈ (chain object subject items n).1) :
    t.predicate ∈ items := by
  induction items generalizing subject n with
  | nil => exact absurd h List.not_mem_nil
  | cons item rest ih =>
    cases rest with
    | nil =>
      obtain rfl := List.mem_singleton.1 h
      exact List.mem_cons_self
    | cons next rest =>
      rcases List.mem_cons.1 h with rfl | h
      · exact List.mem_cons_self
      · exact List.mem_cons_of_mem _ (ih h)

/-- A chain has the solutions of its sequence, and from then on the source of fresh variables avoids
its variables. -/
theorem sameOn_chain {object subject : TermPattern} {items : List Predicate} (hne : items ≠ [])
    (hsubject : ∀ v ∈ subject.var?.toList, v ∈ V) (hobject : ∀ v ∈ object.var?.toList, v ∈ V)
    (hitems : ∀ v ∈ Predicate.allVarsEach items, v ∈ V) {n : Naming} (hn : n.names.Avoids V) :
    ∃ W, V ⊆ W ∧ (chain object subject items n).2.names.Avoids W ∧
      (∀ v ∈ Bgp.allVars (chain object subject items n).1, v ∈ W) ∧
      RowSet.SameOn V (Bgp.solutions G (chain object subject items n).1)
        (.between subject (Predicate.walksAlong G items) object) := by
  induction items generalizing subject n V with
  | nil => exact absurd rfl hne
  | cons item rest ih =>
    have hitem : ∀ v ∈ item.allVars, v ∈ V := fun v hv => hitems v (List.mem_append_left _ hv)
    have hrest : ∀ v ∈ Predicate.allVarsEach rest, v ∈ V :=
      fun v hv => hitems v (List.mem_append_right _ hv)
    cases rest with
    | nil =>
      refine ⟨V, subset_rfl, hn, ?_, .of_eq ?_⟩
      · simp only [chain, Bgp.forall_mem_allVars_cons, TriplePattern.allVars,
          List.forall_mem_append]
        exact ⟨⟨⟨hsubject, hitem⟩, hobject⟩, by simp [Bgp.allVars]⟩
      · rw [chain, Bgp.solutions_cons, Bgp.solutions_nil, mul_one, walksAlong_singleton]
        rfl
    | cons next rest =>
      -- The link between the first item and the others is fresh.
      let v := n.draw.1
      have hsub : V ⊆ insert v V := Set.subset_insert v V
      have hlink : ∀ w ∈ (TermPattern.variable v).var?.toList, w ∈ insert v V := by
        simp [TermPattern.var?]
      obtain ⟨W, hW, hnames, hvars, hsame⟩ := ih (by simp) hlink (fun w hw => hsub (hobject w hw))
        (fun w hw => hsub (hrest w hw)) (Naming.avoids_draw hn)
      have hchain : chain object subject (item :: next :: rest) n =
          (⟨subject, item, .variable v⟩ :: (chain object (.variable v) (next :: rest) n.draw.2).1,
            (chain object (.variable v) (next :: rest) n.draw.2).2) := rfl
      rw [hchain]
      refine ⟨W, hsub.trans hW, hnames, ?_, ?_⟩
      · rw [Bgp.forall_mem_allVars_cons]
        refine ⟨?_, hvars⟩
        simp only [TriplePattern.allVars, List.forall_mem_append]
        exact ⟨⟨fun w hw => hW (hsub (hsubject w hw)), fun w hw => hW (hsub (hitem w hw))⟩,
          fun w hw => hW (hlink w hw)⟩
      · rw [Bgp.solutions_cons]
        refine ((hsame.mul_left ?_).mono hsub).trans ?_
        · exact RowSet.within_between (fun w hw => hsub (hsubject w hw))
            (Predicate.within_walks item fun w hw => hsub (hitem w hw)) hlink
        · exact RowSet.sameOn_link (Naming.draw_not_mem hn) hsubject hobject
            (Predicate.within_walks item hitem)
            (Predicate.within_walksAlong (Predicate.within_walksEach _ hrest))

/-! ## Resolving -/

/-- The result is a pattern that has the same solutions on some variables, and the source goes on to
avoid them. -/
def Resolved (G : Set Triple) (holds : Expression → Row → Prop) (V : Set Variable) (A : RowSet)
    (x : Except BuildError (PathFree × Naming)) : Prop :=
  ∃ p n, x = .ok (p, n) ∧ n.names.Avoids V ∧ RowSet.SameOn V (p.toGroup.solutions G holds) A

/-- The result is a list of patterns whose union has the same solutions on some variables, and the
source goes on to avoid them. -/
def ResolvedEach (G : Set Triple) (holds : Expression → Row → Prop) (V : Set Variable) (A : RowSet)
    (x : Except BuildError (List PathFree × Naming)) : Prop :=
  ∃ ps n, x = .ok (ps, n) ∧ n.names.Avoids V ∧
    RowSet.SameOn V (Algebra.unionOf G holds (PathFree.toGroups ps)) A

/-- What is known of fewer variables and of a set that is the same on them. -/
theorem Resolved.mono {W : Set Variable} {A B : RowSet}
    {x : Except BuildError (PathFree × Naming)} (h : Resolved G holds W A x) (hVW : V ⊆ W)
    (hA : RowSet.SameOn V A B) : Resolved G holds V B x := by
  obtain ⟨p, n, hx, hn, hsame⟩ := h
  exact ⟨p, n, hx, hn.mono hVW, (hsame.mono hVW).trans hA⟩

/-- Patterns with no other variables, and with paths that plans can do without. -/
structure Fits (V : Set Variable) (B : Bgp) : Prop where
  /-- The variables. -/
  vars : ∀ v ∈ B.allVars, v ∈ V
  /-- The paths. -/
  paths : ∀ t ∈ B, t.predicate.Resolvable

variable {subject object : TermPattern} {p : Predicate} {ready rest : List TriplePattern}

/-- The first of several patterns. -/
theorem fits_cons : Fits V (⟨subject, p, object⟩ :: rest) ↔
    ((∀ v ∈ subject.var?.toList, v ∈ V) ∧ (∀ v ∈ p.allVars, v ∈ V) ∧
      ∀ v ∈ object.var?.toList, v ∈ V) ∧ p.Resolvable ∧ Fits V rest := by
  constructor
  · rintro ⟨hvars, hpaths⟩
    obtain ⟨ht, hrest⟩ := Bgp.forall_mem_allVars_cons.1 hvars
    obtain ⟨hp, hpaths⟩ := List.forall_mem_cons.1 hpaths
    simp only [TriplePattern.allVars, List.forall_mem_append] at ht
    exact ⟨⟨ht.1.1, ht.1.2, ht.2⟩, hp, hrest, hpaths⟩
  · rintro ⟨⟨hs, hv, ho⟩, hp, hrest, hpaths⟩
    refine ⟨Bgp.forall_mem_allVars_cons.2 ⟨?_, hrest⟩, List.forall_mem_cons.2 ⟨hp, hpaths⟩⟩
    simp only [TriplePattern.allVars, List.forall_mem_append]
    exact ⟨⟨hs, hv⟩, ho⟩

/-- Two lists of patterns. -/
theorem Fits.append {A B : Bgp} (hA : Fits V A) (hB : Fits V B) : Fits V (A ++ B) where
  vars := Bgp.forall_mem_allVars_append.2 ⟨hA.vars, hB.vars⟩
  paths := List.forall_mem_append.2 ⟨hA.paths, hB.paths⟩

/-- There may be more variables. -/
theorem Fits.mono {W : Set Variable} {B : Bgp} (h : Fits V B) (hVW : V ⊆ W) : Fits W B :=
  ⟨fun v hv => hVW (h.vars v hv), h.paths⟩

/-- A plain pattern that is done. -/
theorem Fits.snoc {q : TermPattern} (h : Fits V ready) (hs : ∀ v ∈ subject.var?.toList, v ∈ V)
    (hq : ∀ v ∈ q.var?.toList, v ∈ V) (ho : ∀ v ∈ object.var?.toList, v ∈ V) :
    Fits V (ready ++ [⟨subject, .plain q, object⟩]) :=
  h.append (fits_cons.2 ⟨⟨hs, hq, ho⟩, trivial, by simp [Bgp.allVars], by simp⟩)

/-- A sequence and its chain have the same solutions beside other patterns. -/
theorem Fits.sameOn_sequence {items : List Predicate} {links : Bgp} (hready : Fits V ready)
    (hrest : Fits V rest) (h : RowSet.SameOn V (Bgp.solutions G links)
      (.between subject (Predicate.walksAlong G items) object)) :
    RowSet.SameOn V (Bgp.solutions G ready * Bgp.solutions G (links ++ rest))
      (Bgp.solutions G ready *
        Bgp.solutions G (⟨subject, .path .sequence items, object⟩ :: rest)) := by
  rw [Bgp.solutions_append, Bgp.solutions_cons]
  exact (h.mul_right (Bgp.within_solutions hrest.vars)).mul_left (Bgp.within_solutions hready.vars)

/-- A negated set and a fresh predicate under its conditions have the same solutions beside other
patterns. -/
theorem Fits.sameOn_negated {items : List Predicate} {v : Variable} {q : Row → Prop} (hv : v ∉ V)
    (hready : Fits V ready) (hrest : Fits V rest) (hs : ∀ v ∈ subject.var?.toList, v ∈ V)
    (ho : ∀ v ∈ object.var?.toList, v ∈ V)
    (hq : ∀ r t, r.get? v = some t → (q r ↔ .plain (.term t) ∉ items)) :
    RowSet.SameOn V (RowSet.keep q
        (Bgp.solutions G (ready ++ [⟨subject, .plain (.variable v), object⟩]) *
          Bgp.solutions G rest))
      (Bgp.solutions G ready *
        Bgp.solutions G (⟨subject, .path .negated items, object⟩ :: rest)) := by
  have hfresh : Bgp.solutions G (ready ++ [⟨subject, .plain (.variable v), object⟩]) *
      Bgp.solutions G rest = .between subject (fun a b => .any fun t =>
        .only (⟨a, t, b⟩ ∈ G) * .single v t) object *
          (Bgp.solutions G ready * Bgp.solutions G rest) := by
    rw [Bgp.solutions_append, Bgp.solutions_cons, Bgp.solutions_nil]
    have ht : TriplePattern.solutions G ⟨subject, .plain (.variable v), object⟩ =
        .between subject (fun a b => .any fun t => .only (⟨a, t, b⟩ ∈ G) * .single v t) object :=
      rfl
    rw [ht]
    ring
  have hnegated : Bgp.solutions G ready *
      Bgp.solutions G (⟨subject, .path .negated items, object⟩ :: rest) =
        .between subject (fun a b => .only (∃ t, ⟨a, t, b⟩ ∈ G ∧ .plain (.term t) ∉ items)) object *
          (Bgp.solutions G ready * Bgp.solutions G rest) := by
    rw [Bgp.solutions_cons]
    have ht : TriplePattern.solutions G ⟨subject, .path .negated items, object⟩ =
        .between subject (fun a b => .only (∃ t, ⟨a, t, b⟩ ∈ G ∧ .plain (.term t) ∉ items))
          object := rfl
    rw [ht]
    ring
  rw [hfresh, hnegated]
  exact RowSet.sameOn_exclusion hv hs ho
    ((Bgp.within_solutions hready.vars).mul (Bgp.within_solutions hrest.vars)) hq

/-- A further branch. -/
theorem Resolved.cons {items : List Predicate} {n : Naming}
    (h : Resolved G holds V (Bgp.solutions G ready * Bgp.solutions G (⟨subject, p, object⟩ :: rest))
      (resolve ready (⟨subject, p, object⟩ :: rest) n))
    (hs : ∀ n', n'.names.Avoids V → ResolvedEach G holds V (Bgp.solutions G ready *
        (.between subject (Predicate.walksByOne G items) object * Bgp.solutions G rest))
      (resolveEach ready subject object rest items n')) :
    ResolvedEach G holds V (Bgp.solutions G ready *
        (.between subject (Predicate.walksByOne G (p :: items)) object * Bgp.solutions G rest))
      (resolveEach ready subject object rest (p :: items) n) := by
  obtain ⟨q, n₁, hq, hn₁, hsame⟩ := h
  obtain ⟨qs, n₂, hqs, hn₂, hsames⟩ := hs n₁ hn₁
  refine ⟨q :: qs, n₂, ?_, hn₂, ?_⟩
  · rw [resolveEach, hq]
    show (resolveEach ready subject object rest items n₁ >>= _) = _
    rw [hqs]
    rfl
  · refine (hsame.add hsames).trans (.of_eq ?_)
    have hwalks : RowSet.between subject (Predicate.walksByOne G (p :: items)) object =
        .between subject (p.walks G) object +
          .between subject (Predicate.walksByOne G items) object := RowSet.between_add _ _ _ _
    rw [hwalks, Bgp.solutions_cons, TriplePattern.solutions]
    ring

/-- A fresh variable is looked up under itself. -/
theorem direct_draw (n : Naming) : n.draw.1.Direct := by
  obtain ⟨k, -, -, hk, -⟩ := n.names.fresh_spec
  have hdraw : n.draw.1 = .ofText (Names.numbered k) := hk
  rw [hdraw]
  exact Planner.direct_numbered k

/-- A negated set, once a fresh predicate stands in its place. -/
theorem Resolved.negated {now : DateTime} {s : EvalState} {items : List Predicate} {n : Naming}
    (h : Resolved G (Expression.Holds now s) (insert n.draw.1 V)
      (Bgp.solutions G (ready ++ [⟨subject, .plain (.variable n.draw.1), object⟩]) *
        Bgp.solutions G rest)
      (resolve (ready ++ [⟨subject, .plain (.variable n.draw.1), object⟩]) rest n.draw.2))
    (hn : n.names.Avoids V) (hitems : ∀ item ∈ items, ∃ i, item = .plain (.term (.iri i)))
    (hready : Fits V ready) (hrest : Fits V rest) (hs : ∀ v ∈ subject.var?.toList, v ∈ V)
    (ho : ∀ v ∈ object.var?.toList, v ∈ V) :
    Resolved G (Expression.Holds now s) V
      (Bgp.solutions G ready * Bgp.solutions G (⟨subject, .path .negated items, object⟩ :: rest))
      (resolve ready (⟨subject, .path .negated items, object⟩ :: rest) n) := by
  obtain ⟨q, n', hq, hn', hsame⟩ := h
  obtain ⟨conditions, hconditions, hholds⟩ := mapM_exclusion now s (direct_draw n) hitems
  have hsub : V ⊆ insert n.draw.1 V := Set.subset_insert _ V
  refine ⟨q.addConditions conditions, n', ?_, hn'.mono hsub, ?_⟩
  · rw [resolve]
    simp only [hconditions, hq]
    rfl
  · rw [PathFree.solutions_addConditions]
    refine ((hsame.keep fun a b hab => ?_).mono hsub).trans
      (hready.sameOn_negated (Naming.draw_not_mem hn) hrest hs ho fun r t hr => ?_)
    · rw [hholds, hholds, hab _ (Set.mem_insert _ V)]
    · rw [hholds, hr]
      simp only [Option.some.injEq, exists_eq_left', ne_eq]
      exact ⟨fun h hmem => h _ hmem rfl, fun h item hitem heq => h (heq ▸ hitem)⟩

/-- Resolving keeps the solutions of the patterns that are done and of those that are still to do,
on all variables that the source of fresh ones avoids. -/
theorem resolved_resolve (G : Set Triple) (now : DateTime) (s : EvalState)
    (ready todo : List TriplePattern) (n : Naming) :
    ∀ V, n.names.Avoids V → Fits V ready → Fits V todo →
      Resolved G (Expression.Holds now s) V (Bgp.solutions G ready * Bgp.solutions G todo)
        (resolve ready todo n) := by
  refine resolve.induct
    (fun ready todo n => ∀ V, n.names.Avoids V → Fits V ready → Fits V todo →
      Resolved G (Expression.Holds now s) V (Bgp.solutions G ready * Bgp.solutions G todo)
        (resolve ready todo n))
    (fun ready subject object rest items n => ∀ V, n.names.Avoids V → Fits V ready →
      Fits V rest → (∀ v ∈ subject.var?.toList, v ∈ V) → (∀ v ∈ object.var?.toList, v ∈ V) →
      (∀ v ∈ Predicate.allVarsEach items, v ∈ V) → Predicate.ResolvableEach items →
      ResolvedEach G (Expression.Holds now s) V (Bgp.solutions G ready *
        (.between subject (Predicate.walksByOne G items) object * Bgp.solutions G rest))
        (resolveEach ready subject object rest items n))
    ?done ?plain ?sequence ?inverse ?badInverse ?negated ?alternative ?other ?noBranch ?branch
    ready todo n
  case done =>
    intro ready n V hn hready htodo
    refine ⟨.flat ready [], n, by rw [resolve], hn, .of_eq ?_⟩
    rw [PathFree.solutions_flat, RowSet.keep_of_forall (by simp), Bgp.solutions_nil, mul_one]
  case plain =>
    intro ready n subject q object rest ih V hn hready htodo
    obtain ⟨⟨hs, hq, ho⟩, -, hrest⟩ := fits_cons.1 htodo
    rw [resolve]
    refine (ih V hn (hready.snoc hs hq ho) hrest).mono subset_rfl (.of_eq ?_)
    rw [Bgp.solutions_append, Bgp.solutions_cons, Bgp.solutions_nil, Bgp.solutions_cons]
    ring
  case sequence =>
    intro ready n subject items object rest ih V hn hready htodo
    obtain ⟨⟨hs, hitems, ho⟩, ⟨hne, hresolvable⟩, hrest⟩ := fits_cons.1 htodo
    obtain ⟨W, hVW, hn', hvars, hsame⟩ := sameOn_chain (G := G) hne hs ho hitems hn
    have hchain : Fits W (chain object subject items n).1 :=
      ⟨hvars, fun t ht => hresolvable.of_mem (predicate_mem_of_mem_chain ht)⟩
    rw [resolve]
    exact (ih W hn' (hready.mono hVW) (hchain.append (hrest.mono hVW))).mono hVW
      (hready.sameOn_sequence hrest hsame)
  case inverse =>
    intro ready n subject item object rest ih V hn hready htodo
    obtain ⟨⟨hs, hitem, ho⟩, ⟨-, hresolvable, -⟩, hrest⟩ := fits_cons.1 htodo
    rw [resolve]
    refine (ih V hn hready (fits_cons.2 ⟨⟨ho, ?_, hs⟩, hresolvable, hrest⟩)).mono subset_rfl
      (.of_eq ?_)
    · exact fun v hv => hitem v (Predicate.mem_allVarsEach List.mem_cons_self hv)
    · rw [Bgp.solutions_cons, Bgp.solutions_cons]
      refine congrArg (Bgp.solutions G ready * ·) (congrArg (· * Bgp.solutions G rest) ?_)
      exact (RowSet.between_swap subject object (item.walks G)).symm
  case badInverse =>
    intro ready n subject items object rest hitems V hn hready htodo
    obtain ⟨-, ⟨hlength, -⟩, -⟩ := fits_cons.1 htodo
    obtain ⟨item, hitem⟩ := List.length_eq_one_iff.1 hlength
    exact absurd hitem (hitems item)
  case negated =>
    intro ready n subject items object rest v n₁ hdraw ih V hn hready htodo
    obtain ⟨⟨hs, hitems, ho⟩, hresolvable, hrest⟩ := fits_cons.1 htodo
    obtain ⟨rfl, rfl⟩ : n.draw.1 = v ∧ n.draw.2 = n₁ := by simp [hdraw]
    have hsub : V ⊆ insert n.draw.1 V := Set.subset_insert _ V
    have hready' : Fits (insert n.draw.1 V)
        (ready ++ [⟨subject, .plain (.variable n.draw.1), object⟩]) :=
      (hready.mono hsub).snoc (fun v hv => hsub (hs v hv)) (by simp [TermPattern.var?])
        fun v hv => hsub (ho v hv)
    exact (ih _ (Naming.avoids_draw hn) hready' (hrest.mono hsub)).negated hn hresolvable hready
      hrest hs ho
  case alternative =>
    intro ready n subject items object rest ih V hn hready htodo
    obtain ⟨⟨hs, hitems, ho⟩, hresolvable, hrest⟩ := fits_cons.1 htodo
    obtain ⟨ps, n', hps, hn', hsame⟩ := ih V hn hready hrest hs ho hitems hresolvable
    refine ⟨.split ps [], n', by rw [resolve, hps]; rfl, hn', ?_⟩
    rw [PathFree.solutions_split, RowSet.keep_of_forall (by simp)]
    exact hsame
  case other =>
    intro ready n subject symbol items object rest V hn hready htodo
    exact (fits_cons.1 htodo).2.1.elim
  case noBranch =>
    intro ready subject object rest n V hn hready hrest hs ho hitems hresolvable
    refine ⟨[], n, by rw [resolveEach], hn, .of_eq ?_⟩
    have hwalks : RowSet.between subject (Predicate.walksByOne G []) object = 0 :=
      RowSet.between_zero _ _
    rw [hwalks, PathFree.toGroups, Algebra.unionOf]
    ring
  case branch =>
    intro ready subject object rest n item items ih ihs V hn hready hrest hs ho hitems hresolvable
    obtain ⟨hitem, hitems⟩ := List.forall_mem_append.1 hitems
    refine (ih V hn hready (fits_cons.2 ⟨⟨hs, hitem, ho⟩, hresolvable.1, hrest⟩)).cons ?_
    exact fun n' hn' => ihs n' V hn' hready hrest hs ho hitems hresolvable.2

namespace Sample

/-- An IRI as a predicate. -/
def along (i : String) : Predicate := .plain (.term (.iri i))

/-- A path along `a`, then along `b` or backwards along `c`, and then along anything but `d`. -/
def winding : Predicate :=
  .path .sequence
    [along "a", .path .alternative [along "b", .path .inverse [along "c"]],
      .path .negated [along "d"]]

/-- The pattern with that path. -/
def triples : Bgp := [⟨.variable ⟨"s"⟩, winding, .variable ⟨"o"⟩⟩]

/-- Triples with one such path. -/
def graph : Set Triple :=
  {t | t ∈ [(⟨.iri "k", .iri "a", .iri "l"⟩ : Triple), ⟨.iri "m", .iri "c", .iri "l"⟩,
    ⟨.iri "m", .iri "e", .iri "n"⟩, ⟨.iri "m", .iri "d", .iri "k"⟩]}

/-- The ends of the path. -/
def ends : Row := .ofList [(⟨"s"⟩, .iri "k"), (⟨"o"⟩, .iri "n")]

/-- A source that has reserved the names of the pattern. -/
def naming : Naming := ⟨⟨0, ["s", "o"]⟩, []⟩

/-- A triple is a way along its predicate. -/
theorem empty_mem_walks_along {i : String} {a b : Term} (h : ⟨a, .iri i, b⟩ ∈ graph) :
    .empty ∈ (along i).walks graph a b :=
  ⟨.iri i, RowSet.empty_mem_mul ⟨h, rfl⟩ ⟨rfl, rfl⟩⟩

/-- The path leads from `k` over `l` and `m` to `n`. -/
theorem empty_mem_walks_winding : .empty ∈ winding.walks graph (.iri "k") (.iri "n") := by
  refine ⟨.iri "l", RowSet.empty_mem_mul (empty_mem_walks_along (by simp [graph])) ?_⟩
  refine ⟨.iri "m", RowSet.empty_mem_mul ?_ ⟨.iri "n", RowSet.empty_mem_mul ?_ ⟨rfl, rfl⟩⟩⟩
  · exact .inr (.inl (empty_mem_walks_along (by simp [graph])))
  · exact ⟨⟨.iri "e", by simp [graph], by simp [along]⟩, rfl⟩

end Sample

end Paths

end PagedSparql
