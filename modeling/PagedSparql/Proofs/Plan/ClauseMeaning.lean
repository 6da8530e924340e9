import PagedSparql.Proofs.Algebra.Variables
import PagedSparql.Proofs.Plan.Groups
import PagedSparql.Proofs.Plan.PatternAnswers

/-!
# What clauses mean

What a clause of a group makes of a row by reference, as far as the variables of the query are
concerned (`Part.meaning`): inline rows and basic graph patterns join, optional patterns keep the row
that they do not extend, a binding adds a term, a condition drops rows. The clauses of a group work
one after the other, in the order in which they are arranged, and alternatives side by side.

A meaning also says what it depends on. Inline rows may be joined before a clause instead of after
it if the clause lets them pass at the row (`Meaning.lets`). Plain patterns do; a binding does if it
assigns none of the variables of the inline rows, and reads only those of them that the row binds
already; an optional pattern does if it has only those of them that the row binds already. Then the
order makes no difference (`Algebra.passes_part`).
-/

namespace PagedSparql

open scoped RowBag

/-- The meaning of a clause. -/
structure Meaning where
  /-- The rows that are made of a row. -/
  solve : Row → Multiset Row
  /-- At the row, inline rows with bindings of some variables may pass. -/
  lets : Set Variable → Row → Prop
  /-- The clause can be planned to mean this for the rows. -/
  suits : Multiset Row → Prop

/-- A clause of a group, by its meaning as far as that does not depend on the clauses around it. -/
inductive Part where
  /-- Inline rows. -/
  | values (rows : List Row)
  /-- A basic graph pattern. -/
  | triples (triples : List TriplePattern)
  /-- A condition. -/
  | filter (condition : Expression)
  /-- Any other clause. -/
  | other (meaning : Meaning)

namespace Part

/-- The rank of a clause in its group. -/
def rank : Part → Nat
  | .values _ => 0
  | .filter _ => 2
  | _ => 1

/-- The triple patterns of a basic graph pattern. -/
def triples? : Part → Option (List TriplePattern)
  | .triples patterns => some patterns
  | _ => none

instance : Arrangeable Part := ⟨Part.triples?, .triples, Part.rank⟩

end Part

namespace Meaning

/-- Nothing is made of any row. -/
def none : Meaning := ⟨fun _ => 0, fun _ _ => True, fun _ => True⟩

/-- What two meanings make of a row. -/
def or (a b : Meaning) : Meaning :=
  ⟨fun u => a.solve u + b.solve u, fun X u => a.lets X u ∧ b.lets X u,
    fun M => a.suits M ∧ b.suits M⟩

/-- The row with the value of an expression, if there is one. -/
def bind (now : DateTime) (v : Variable) (e : Expression) : Meaning where
  solve u := ((e.value? now u).map fun t => ({u.insert v t} : Multiset Row)).getD 0
  lets X u := v ∉ X ∧ ∀ w ∈ e.occurrences, w ∈ X → u.binds w = true
  suits _ := True

end Meaning

variable {σ : Type} (E : Scene σ) (scope : Scope) (names : Names)

namespace Part

/-- The meaning of a clause of a plain or optional group. -/
noncomputable def meaning (optional : Bool) : Part → Meaning
  | .values rows => ⟨fun u => {u} * (rows : Multiset Row), fun _ _ => True, fun _ => True⟩
  | .triples B =>
    ⟨Bgp.solve (E.solutions scope.address scope.graph) names optional B,
      fun X u => optional = true → ∀ w ∈ Bgp.allVars B, w ∈ X → u.binds w = true,
      Plan.SuitsRows E { scope with optional } names B⟩
  | .filter c =>
    ⟨fun u => if c.isTrue E.now u then {u} else 0,
      fun X u => ∀ w ∈ c.occurrences, w ∈ X → u.binds w = true, fun _ => True⟩
  | .other m => m

/-- Inline rows are put into a basic graph pattern; other clauses stay as they are. -/
def inline (rows : List Row) : Part → Part
  | .triples B => .triples (Bgp.inline rows B)
  | p => p

/-- What several clauses make of a row, one after the other. The clauses after inline rows work once
for each of these, which is put into the patterns among them. -/
noncomputable def solveAll (optional : Bool) : List Row → List Part → Row → Multiset Row
  | _, [], u => {u}
  | rows, .values inline :: rest, u => (inline : Multiset Row).bind fun row =>
      ({u} * {row} : Multiset Row).bind (solveAll optional (rows ++ [row]) rest)
  | rows, p :: rest, u => (((p.inline rows).meaning E scope names optional).solve u).bind
      (solveAll optional rows rest)

/-- Inline rows may pass several clauses, at the rows that arrive there. -/
def letsAll (optional : Bool) : List Row → List Part → Set Variable → Row → Prop
  | _, [], _, _ => True
  | rows, .values inline :: rest, X, u => ∀ row ∈ inline, ∀ w ∈ ({u} * {row} : Multiset Row),
      letsAll optional (rows ++ [row]) rest X w
  | rows, p :: rest, X, u => ((p.inline rows).meaning E scope names optional).lets X u ∧
      ∀ w ∈ ((p.inline rows).meaning E scope names optional).solve u,
        letsAll optional rows rest X w

/-- Several clauses can be planned to mean what they do for the rows that arrive there. -/
def suitsAll (optional : Bool) : List Row → List Part → Multiset Row → Prop
  | _, [], _ => True
  | rows, .values inline :: rest, M =>
      ∀ row ∈ inline, suitsAll optional (rows ++ [row]) rest (M * {row})
  | rows, p :: rest, M => ((p.inline rows).meaning E scope names optional).suits M ∧
      suitsAll optional rows rest
        (M.bind ((p.inline rows).meaning E scope names optional).solve)

/-- The meaning of a group of clauses, in the order in which they are arranged. -/
noncomputable def group (optional : Bool) (parts : List Part) : Meaning where
  solve := solveAll E scope names optional [] (Arrangement.arrange parts)
  lets := letsAll E scope names optional [] (Arrangement.arrange parts)
  suits := suitsAll E scope names optional [] (Arrangement.arrange parts)

end Part

namespace Algebra

mutual

/-- The clause that a node is. -/
noncomputable def part : Algebra → Part
  | .bgp B => .triples B
  | .values rows => .values (Plan.inlineRows rows)
  | .filter c => .filter c
  | .bind v e => .other (.bind E.now v e)
  | .join patterns => .other (Part.group E scope names false (parts patterns))
  | .leftJoin patterns => .other (Part.group E scope names true (parts patterns))
  | .union patterns => .other (either patterns)
  | _ => .other .none

/-- The clauses that the nodes of a group are. -/
noncomputable def parts : List Algebra → List Part
  | [] => []
  | a :: rest => part a :: parts rest

/-- The meaning of alternatives. -/
noncomputable def either : List Algebra → Meaning
  | [] => .none
  | a :: rest => ((part a).meaning E scope names false).or (either rest)

end

end Algebra

/-! ## Inline rows that pass -/

namespace Row

variable {u v w : Row} {x : Variable} {t : Term}

/-- A row agrees with what it makes together with another one, on variables that it binds or the
other one does not. -/
theorem agreeNamed_of_merge (h : merge u v = some w) {vars : List Variable}
    (hdirect : ∀ y ∈ vars, y.Direct) (hbound : ∀ y ∈ vars, v.binds y = true → u.binds y = true) :
    AgreeNamed vars w u := by
  intro y hy
  rw [hdirect y hy, hdirect y hy, get?_of_merge h]
  cases hu : u.get? y with
  | some t =>
    cases hv : v.get? y with
    | none => rfl
    | some t' =>
      have hcompatible := isSome_merge u v
      rw [h] at hcompatible
      rw [compatible_iff.1 hcompatible.symm y t t' hu hv]
      rfl
  | none =>
    have hv : v.binds y = false := Bool.eq_false_iff.2 fun hv => by
      have hbinds := hbound y hy hv
      rw [VariableMap.binds, hu] at hbinds
      exact absurd hbinds (by simp)
    rw [VariableMap.binds_eq_false_iff.1 hv]
    rfl

/-- What a row makes together with another one binds what it does. -/
theorem binds_of_mem_mul (h : w ∈ ({u} * {v} : Multiset Row)) {x : Variable}
    (hx : u.binds x = true) : w.binds x = true := by
  obtain ⟨u', hu', v', -, hm⟩ := RowBag.mem_mul.1 h
  obtain rfl := Multiset.mem_singleton.1 hu'
  obtain ⟨t, ht⟩ := VariableMap.binds_iff.1 hx
  exact VariableMap.binds_iff.2 ⟨t, (merge_eq_some_iff.1 hm).1 x t ht⟩

/-- A variable that the other row does not bind may be assigned before or after rows are merged. -/
theorem merge_insert (hx : v.binds x = false) :
    merge (u.insert x t) v = (merge u v).map (·.insert x t) := by
  have hfree : v.get? x = none := VariableMap.binds_eq_false_iff.1 hx
  -- The other row does not bind the variable, so it has no say about its term.
  have hcompatible : compatible (u.insert x t) v = compatible u v := by
    rw [Bool.eq_iff_iff, compatible_iff, compatible_iff]
    refine ⟨fun hall y t₁ t₂ h₁ h₂ => ?_, fun hall y t₁ t₂ h₁ h₂ => ?_⟩
    · refine hall y t₁ t₂ ?_ h₂
      rw [VariableMap.get?_insert, if_neg]
      · exact h₁
      · rintro rfl
        exact absurd (hfree.symm.trans h₂) (by simp)
    · refine hall y t₁ t₂ ?_ h₂
      rw [VariableMap.get?_insert, if_neg] at h₁
      · exact h₁
      · rintro rfl
        exact absurd (hfree.symm.trans h₂) (by simp)
  cases hm : merge u v with
  | none =>
    have hnone : (merge (u.insert x t) v).isNone = true := by
      rw [← Option.not_isSome, isSome_merge, hcompatible, ← isSome_merge, hm]
      rfl
    rw [Option.isNone_iff_eq_none.1 hnone]
    rfl
  | some w =>
    have hsome : (merge (u.insert x t) v).isSome = true := by
      rw [isSome_merge, hcompatible, ← isSome_merge, hm]
      rfl
    obtain ⟨w', hw'⟩ := Option.isSome_iff_exists.1 hsome
    rw [hw', Option.map_some, Option.some.injEq]
    refine VariableMap.ext_get? fun y => ?_
    rw [get?_of_merge hw', VariableMap.get?_insert, VariableMap.get?_insert, get?_of_merge hm]
    by_cases hy : y = x
    · subst hy
      simp [hfree]
    · simp [hy]

end Row

namespace RowBag

/-- The join of two rows is a row or nothing. -/
theorem singleton_mul_singleton (u v : Row) : ({u} * {v} : Multiset Row) =
    ((Row.merge u v).map singleton).getD 0 := by
  rw [singleton_mul]
  cases hm : Row.merge u v with
  | none => exact Multiset.filterMap_cons_none _ _ hm
  | some w => exact Multiset.filterMap_cons_some _ _ _ hm

end RowBag

namespace Meaning

/-- Inline rows that a clause lets pass may be joined before it or after it, and others still pass
after them. -/
structure Passes (m : Meaning) : Prop where
  /-- It makes no difference whether a row is joined before or after. -/
  mul : ∀ (X : Set Variable) (u v : Row), m.lets X u → (∀ x, v.binds x = true → x ∈ X) →
    m.solve u * {v} = ({u} * {v} : Multiset Row).bind m.solve
  /-- Where a row has passed, others do. -/
  still : ∀ (X : Set Variable) (u v : Row), m.lets X u → (∀ x, v.binds x = true → x ∈ X) →
    ∀ w ∈ ({u} * {v} : Multiset Row), m.lets X w

/-- A clause that makes at most one row of a row lets rows pass that do not matter for it. -/
theorem mul_of_merge {m : Meaning} {u v : Row}
    (h : m.solve u * {v} = ((Row.merge u v).map m.solve).getD 0) :
    m.solve u * {v} = ({u} * {v} : Multiset Row).bind m.solve := by
  rw [h, RowBag.singleton_mul_singleton]
  cases Row.merge u v with
  | none => exact (Multiset.zero_bind _).symm
  | some w => exact (Multiset.singleton_bind _ _).symm

/-- Nothing is made in any order. -/
theorem passes_none : none.Passes where
  mul X u v _ _ := by
    show (0 : Multiset Row) * {v} = _
    rw [zero_mul]
    exact (Multiset.bind_zero _).symm
  still _ _ _ _ _ _ _ := trivial

/-- Alternatives let pass what both do. -/
theorem Passes.or {a b : Meaning} (ha : a.Passes) (hb : b.Passes) : (a.or b).Passes where
  mul X u v hu hv := by
    show (a.solve u + b.solve u) * {v} = ({u} * {v} : Multiset Row).bind fun w =>
      a.solve w + b.solve w
    rw [add_mul, Multiset.bind_add, ha.mul X u v hu.1 hv, hb.mul X u v hu.2 hv]
  still X u v hu hv w hw := ⟨ha.still X u v hu.1 hv w hw, hb.still X u v hu.2 hv w hw⟩

/-- A binding lets rows pass that do not bind its variable. -/
theorem passes_bind {now : DateTime} {x : Variable} {e : Expression} {V : Set Variable}
    (he : e.Reads V) (hV : ∀ v ∈ V, v.Bare) : (bind now x e).Passes where
  mul X u v hu hv := by
    have hx : v.binds x = false := Bool.eq_false_iff.2 fun h => hu.1 (hv x h)
    have hinsert : ∀ t : Term, ({u.insert x t} * {v} : Multiset Row) =
        ((Row.merge u v).map fun w => ({w.insert x t} : Multiset Row)).getD 0 := by
      intro t
      rw [RowBag.singleton_mul_singleton, Row.merge_insert hx, Option.map_map]
      rfl
    refine mul_of_merge ?_
    cases hm : Row.merge u v with
    | none =>
      show ((e.value? now u).map fun t => ({u.insert x t} : Multiset Row)).getD 0 * {v} = 0
      cases e.value? now u with
      | none => exact zero_mul _
      | some t => exact (hinsert t).trans (by rw [hm]; rfl)
    | some w =>
      have hvalue : e.value? now w = e.value? now u := Expression.value?_congr he.steady
        (Row.agreeNamed_of_merge hm (fun y hy => (hV y (he.vars y hy)).direct)
          fun y hy hyv => hu.2 y hy (hv y hyv))
      show ((e.value? now u).map fun t => ({u.insert x t} : Multiset Row)).getD 0 * {v} =
        ((e.value? now w).map fun t => ({w.insert x t} : Multiset Row)).getD 0
      rw [hvalue]
      cases e.value? now u with
      | none => exact zero_mul _
      | some t => exact (hinsert t).trans (by rw [hm]; rfl)
  still X u v hu _ w hw := ⟨hu.1, fun y hy hyX => Row.binds_of_mem_mul hw (hu.2 y hy hyX)⟩

end Meaning

namespace Bgp

variable {S : Solutions} {names : Names} {B : Bgp} {u v w : Row}

/-- Rows that a row binds already on the variables of a pattern change nothing about whether it has
solutions. -/
theorem singleton_mul_visible_ne_zero (h : Row.merge u v = some w)
    (hbound : ∀ y ∈ B.allVars, v.binds y = true → u.binds y = true)
    (hne : ({u} * B.visible S names : Multiset Row) ≠ 0) : {w} * B.visible S names ≠ 0 := by
  obtain ⟨r, hr⟩ := Multiset.exists_mem_of_ne_zero hne
  obtain ⟨u', hu', m, hm, hmerge⟩ := RowBag.mem_mul.1 hr
  obtain rfl := Multiset.mem_singleton.1 hu'
  have hum := Row.isSome_merge u' m
  rw [hmerge] at hum
  have hwm : Row.compatible w m = true := by
    refine Row.compatible_iff.2 fun y t t' ht ht' => ?_
    have hy : y ∈ B.allVars := within_visible (V := {y | y ∈ B.allVars}) (fun _ => id) m hm y
      (VariableMap.binds_iff.2 ⟨t', ht'⟩)
    obtain ⟨hwu, -, hbinds⟩ := Row.merge_eq_some_iff.1 h
    obtain ⟨t₁, ht₁⟩ := VariableMap.binds_iff.1
      ((hbinds y (VariableMap.binds_iff.2 ⟨t, ht⟩)).elim id (hbound y hy))
    obtain rfl : t₁ = t := Option.some.inj ((hwu y t₁ ht₁).symm.trans ht)
    exact Row.compatible_iff.1 hum.symm y t₁ t' ht₁ ht'
  obtain ⟨r', hr'⟩ := Option.isSome_iff_exists.1 ((Row.isSome_merge w m).trans hwm)
  intro hzero
  have hmem := RowBag.mem_mul.2 ⟨w, Multiset.mem_singleton_self w, m, hm, hr'⟩
  rw [hzero] at hmem
  exact Multiset.notMem_zero _ hmem

/-- An optional pattern lets rows pass that the row binds already on its variables. -/
theorem orKeep_visible_mul (hbound : ∀ y ∈ B.allVars, v.binds y = true → u.binds y = true) :
    RowBag.orKeep u ({u} * B.visible S names) * {v} =
      ((Row.merge u v).map fun w => RowBag.orKeep w ({w} * B.visible S names)).getD 0 := by
  have hpair := RowBag.singleton_mul_singleton u v
  cases hm : Row.merge u v with
  | none =>
    rw [hm] at hpair
    have hpair : ({u} * {v} : Multiset Row) = 0 := hpair
    show _ = (0 : Multiset Row)
    unfold RowBag.orKeep
    split
    · exact hpair
    · rw [mul_right_comm, hpair, zero_mul]
  | some w =>
    rw [hm] at hpair
    have hpair : ({u} * {v} : Multiset Row) = {w} := hpair
    show _ = RowBag.orKeep w ({w} * B.visible S names)
    unfold RowBag.orKeep
    by_cases hzero : ({u} * B.visible S names : Multiset Row) = 0
    · rw [if_pos hzero, if_pos (by rw [← hpair, mul_right_comm, hzero, zero_mul]), hpair]
    · rw [if_neg hzero, if_neg (singleton_mul_visible_ne_zero hm hbound hzero), mul_right_comm,
        hpair]

end Bgp

namespace Part

variable {E scope names}

/-- A condition lets rows pass that the row binds already on its variables. -/
theorem passes_filter {c : Expression} {V : Set Variable} (hc : c.Reads V) (hV : ∀ v ∈ V, v.Bare)
    (optional : Bool) : ((filter c).meaning E scope names optional).Passes where
  mul X u v hu hv := by
    have hpair := RowBag.singleton_mul_singleton u v
    refine Meaning.mul_of_merge ?_
    show (if c.isTrue E.now u then {u} else 0 : Multiset Row) * {v} =
      ((Row.merge u v).map fun w => (if c.isTrue E.now w then {w} else 0 : Multiset Row)).getD 0
    cases hm : Row.merge u v with
    | none =>
      rw [hm] at hpair
      split
      · exact hpair
      · exact zero_mul _
    | some w =>
      have htrue : c.isTrue E.now w = c.isTrue E.now u := Expression.isTrue_congr hc.steady
        (Row.agreeNamed_of_merge hm (fun y hy => (hV y (hc.vars y hy)).direct)
          fun y hy hyv => hu y hy (hv y hyv))
      rw [hm] at hpair
      rw [Option.map_some, Option.getD_some, htrue]
      split
      · exact hpair
      · exact zero_mul _
  still X u v hu _ w hw := fun y hy hyX => Row.binds_of_mem_mul hw (hu y hy hyX)

/-- Patterns let rows pass, optional ones those that the row binds already on their variables. -/
theorem passes_triples (B : Bgp) (optional : Bool) :
    ((triples B).meaning E scope names optional).Passes where
  mul X u v hu hv := by
    cases optional with
    | true =>
      exact Meaning.mul_of_merge (Bgp.orKeep_visible_mul fun y hy hyv => hu rfl y hy (hv y hyv))
    | false =>
      show {u} * B.visible _ names * {v} = ({u} * {v} : Multiset Row).bind fun w =>
        {w} * B.visible _ names
      rw [mul_right_comm, RowBag.mul_eq_bind ({u} * {v})]
  still X u v hu _ w hw := fun h y hy hyX => Row.binds_of_mem_mul hw (hu h y hy hyX)

/-- Inline rows let others pass. -/
theorem passes_values (rows : List Row) (optional : Bool) :
    ((values rows).meaning E scope names optional).Passes where
  mul X u v _ _ := by
    show {u} * (rows : Multiset Row) * {v} = ({u} * {v} : Multiset Row).bind fun w =>
      {w} * (rows : Multiset Row)
    rw [mul_right_comm, RowBag.mul_eq_bind ({u} * {v})]
  still _ _ _ _ _ _ _ := trivial

/-- Patterns let rows pass whatever is put into them. -/
theorem passes_inline {p : Part} {optional : Bool} (h : (p.meaning E scope names optional).Passes)
    (rows : List Row) : ((p.inline rows).meaning E scope names optional).Passes := by
  cases p with
  | triples B => exact passes_triples _ optional
  | values rows => exact h
  | filter c => exact h
  | other m => exact h

/-- Where a row has passed several clauses, others do. -/
theorem still_letsAll {optional : Bool} {ps : List Part}
    (h : ∀ p ∈ ps, (p.meaning E scope names optional).Passes) {rows : List Row} {X : Set Variable}
    {u v : Row} (hu : letsAll E scope names optional rows ps X u)
    (hv : ∀ x, v.binds x = true → x ∈ X) {w : Row} (hw : w ∈ ({u} * {v} : Multiset Row)) :
    letsAll E scope names optional rows ps X w := by
  induction ps generalizing rows u w with
  | nil => trivial
  | cons p rest ih =>
    obtain ⟨hp, hrest⟩ := List.forall_mem_cons.1 h
    have hfirst := passes_inline hp rows
    -- Inline rows are kept aside for the clauses after them, so all other clauses are treated
    -- alike.
    have hclause : ((p.inline rows).meaning E scope names optional).lets X u ∧
        (∀ u' ∈ ((p.inline rows).meaning E scope names optional).solve u,
          letsAll E scope names optional rows rest X u') →
        ((p.inline rows).meaning E scope names optional).lets X w ∧
          ∀ w' ∈ ((p.inline rows).meaning E scope names optional).solve w,
            letsAll E scope names optional rows rest X w' := by
      intro hu
      refine ⟨hfirst.still X u v hu.1 hv w hw, fun w' hw' => ?_⟩
      have hw' : w' ∈ ((p.inline rows).meaning E scope names optional).solve u * {v} := by
        rw [hfirst.mul X u v hu.1 hv]
        exact Multiset.mem_bind.2 ⟨w, hw, hw'⟩
      rw [RowBag.mul_eq_bind, Multiset.mem_bind] at hw'
      obtain ⟨u', hu', hw'⟩ := hw'
      exact ih hrest (hu.2 u' hu') hw'
    cases p with
    | values inline =>
      intro row hrow w' hw'
      have hw' : w' ∈ ({u} * {row} * {v} : Multiset Row) := by
        rw [mul_right_comm, RowBag.mul_eq_bind]
        exact Multiset.mem_bind.2 ⟨w, hw, hw'⟩
      rw [RowBag.mul_eq_bind, Multiset.mem_bind] at hw'
      obtain ⟨u', hu', hw'⟩ := hw'
      exact ih hrest (hu row hrow u' hu') hw'
    | triples B => exact hclause hu
    | filter c => exact hclause hu
    | other m => exact hclause hu

/-- Several clauses let rows pass that each of them does at the rows that arrive there. -/
theorem solveAll_mul {optional : Bool} {ps : List Part}
    (h : ∀ p ∈ ps, (p.meaning E scope names optional).Passes) {rows : List Row} {X : Set Variable}
    {u v : Row} (hu : letsAll E scope names optional rows ps X u)
    (hv : ∀ x, v.binds x = true → x ∈ X) :
    solveAll E scope names optional rows ps u * {v} =
      ({u} * {v} : Multiset Row).bind (solveAll E scope names optional rows ps) := by
  induction ps generalizing rows u with
  | nil =>
    show {u} * {v} = ({u} * {v} : Multiset Row).bind fun w => {w}
    rw [Multiset.bind_singleton, Multiset.map_id']
  | cons p rest ih =>
    obtain ⟨hp, hrest⟩ := List.forall_mem_cons.1 h
    -- Inline rows are kept aside for the clauses after them, so all other clauses are treated
    -- alike.
    have hclause : ((p.inline rows).meaning E scope names optional).lets X u ∧
        (∀ w ∈ ((p.inline rows).meaning E scope names optional).solve u,
          letsAll E scope names optional rows rest X w) →
        (((p.inline rows).meaning E scope names optional).solve u).bind
            (solveAll E scope names optional rows rest) * {v} =
          ({u} * {v} : Multiset Row).bind fun w =>
            (((p.inline rows).meaning E scope names optional).solve w).bind
              (solveAll E scope names optional rows rest) := by
      intro hu
      rw [← Multiset.bind_assoc, ← (passes_inline hp rows).mul X u v hu.1 hv, RowBag.bind_mul,
        RowBag.mul_eq_bind _ {v}, Multiset.bind_assoc]
      exact Multiset.bind_congr fun w hw => ih hrest (hu.2 w hw)
    cases p with
    | values inline =>
      show ((inline : Multiset Row).bind fun row => ({u} * {row} : Multiset Row).bind
          (solveAll E scope names optional (rows ++ [row]) rest)) * {v} =
        ({u} * {v} : Multiset Row).bind fun w => (inline : Multiset Row).bind fun row =>
          ({w} * {row} : Multiset Row).bind (solveAll E scope names optional (rows ++ [row]) rest)
      rw [RowBag.bind_mul, Multiset.bind_bind]
      refine Multiset.bind_congr fun row hrow => ?_
      rw [RowBag.bind_mul, ← Multiset.bind_assoc, ← RowBag.mul_eq_bind, mul_right_comm,
        RowBag.mul_eq_bind ({u} * {row}), Multiset.bind_assoc]
      exact Multiset.bind_congr fun w hw => ih hrest (hu row hrow w hw)
    | triples B => exact hclause hu
    | filter c => exact hclause hu
    | other m => exact hclause hu

/-- The same for a group. -/
theorem passes_group {optional : Bool} {ps : List Part}
    (h : ∀ p ∈ Arrangement.arrange ps, (p.meaning E scope names optional).Passes) :
    (group E scope names optional ps).Passes where
  mul _ _ _ hu hv := solveAll_mul h hu hv
  still _ _ _ hu hv _ hw := still_letsAll h hu hv hw

/-- The clauses of an arranged group let pass what the clauses of the group do. -/
theorem passes_arrange {optional : Bool} {ps : List Part}
    (h : ∀ p ∈ ps, (p.meaning E scope names optional).Passes) :
    ∀ p ∈ Arrangement.arrange ps, (p.meaning E scope names optional).Passes := by
  intro p hp
  rcases Arrangement.mem_arrange hp with hp | ⟨B, rfl⟩
  · exact h p hp
  · exact passes_triples B optional

end Part

namespace Algebra

mutual

/-- A clause of one of the kinds that have a meaning. All its variables are among some, its
expressions are steady, and its inline rows have no blank nodes. -/
def Over (V : Set Variable) : Algebra → Prop
  | .bgp B => ∀ v ∈ Bgp.allVars B, v ∈ V
  | .values rows =>
    ∀ r ∈ Plan.inlineRows rows, r.BlankFree ∧ ∀ v, r.binds v = true → v ∈ V
  | .filter c => c.Reads V
  | .bind v e => v ∈ V ∧ e.Reads V
  | .join patterns => OverEach V patterns
  | .leftJoin patterns => OverEach V patterns
  | .union patterns => OverEach V patterns
  | _ => False

/-- The same for several nodes. -/
def OverEach (V : Set Variable) : List Algebra → Prop
  | [] => True
  | a :: rest => Over V a ∧ OverEach V rest

end

variable {E scope names} {V : Set Variable}

/-- Each node of a list is such. -/
theorem overEach_iff {as : List Algebra} : OverEach V as ↔ ∀ a ∈ as, a.Over V := by
  induction as with
  | nil => simp [OverEach]
  | cons a rest ih => simp [OverEach, ih]

/-- Each clause of a group is a node of it. -/
theorem parts_eq (as : List Algebra) : parts E scope names as = as.map (part E scope names) := by
  induction as with
  | nil => rfl
  | cons a rest ih => rw [parts, ih, List.map_cons]

mutual

/-- **Inline rows that a clause lets pass** may be joined before it or after it. -/
theorem passes_part (hV : ∀ v ∈ V, v.Bare) (a : Algebra) (ha : a.Over V) (optional : Bool) :
    ((a.part E scope names).meaning E scope names optional).Passes := by
  match a, ha with
  | .bgp B, _ => exact Part.passes_triples B optional
  | .values rows, _ => exact Part.passes_values _ optional
  | .filter c, ha => exact Part.passes_filter ha hV optional
  | .bind v e, ha => exact Meaning.passes_bind ha.2 hV
  | .join patterns, ha =>
    exact Part.passes_group (Part.passes_arrange (passes_parts hV patterns ha false))
  | .leftJoin patterns, ha =>
    exact Part.passes_group (Part.passes_arrange (passes_parts hV patterns ha true))
  | .union patterns, ha => exact passes_either hV patterns ha
  | .service _ _ _, ha => exact ha.elim
  | .groupBy _ _ _, ha => exact ha.elim
  | .having _ _, ha => exact ha.elim
  | .project _ _, ha => exact ha.elim
  | .orderBy _ _, ha => exact ha.elim
  | .distinct _, ha => exact ha.elim
  | .slice _ _ _, ha => exact ha.elim
  | .construct _ _, ha => exact ha.elim
  | .describe _ _, ha => exact ha.elim
  | .ask _, ha => exact ha.elim
  | .minus _, ha => exact ha.elim
  | .graph _ _, ha => exact ha.elim

/-- The clauses of a group let rows pass. -/
theorem passes_parts (hV : ∀ v ∈ V, v.Bare) (as : List Algebra) (has : OverEach V as)
    (optional : Bool) :
    ∀ p ∈ parts E scope names as, (p.meaning E scope names optional).Passes := by
  match as, has with
  | [], _ => exact fun p hp => absurd hp List.not_mem_nil
  | a :: rest, has =>
    exact List.forall_mem_cons.2
      ⟨passes_part hV a has.1 optional, passes_parts hV rest has.2 optional⟩

/-- Alternatives let rows pass. -/
theorem passes_either (hV : ∀ v ∈ V, v.Bare) (as : List Algebra) (has : OverEach V as) :
    (either E scope names as).Passes := by
  match as, has with
  | [], _ => exact Meaning.passes_none
  | a :: rest, has => exact (passes_part hV a has.1 false).or (passes_either hV rest has.2)

end

end Algebra

end PagedSparql
