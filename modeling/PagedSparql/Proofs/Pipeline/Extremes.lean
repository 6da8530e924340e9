import Mathlib.Data.Set.Basic
import PagedSparql.Pipeline.Grouping
import PagedSparql.Proofs.Value.Order

/-!
# Extreme values

The least and the greatest value of a group are found by going through its values once and keeping
the better one of each two. What is kept in the end is extreme if the order is transitive on the
values (`foldl_better_extreme`), and only then: of three values on which it is not, some list keeps
one that another precedes (`transitive_of_extremes`). So the values among which every list has a
least and a greatest one, whatever its order, are exactly those on which the order is transitive
(`extremes_iff_transitive`). Those of one kind are such; integers and strings together are not, as
numbers are compared by value and a number and a string by their lexical forms.
-/

namespace PagedSparql.AggregateFunction

open Value

/-! ## The order -/

/-- Terms are ordered by value if their values have an order, and by their lexical forms else. -/
theorem orderTerms_eq (a b : Term) : orderTerms a b =
    (comparison a b).ordering?.getD (Ord.compare a.lexical b.lexical) := by
  unfold orderTerms Value.compare
  rcases comparison a b with (_ | o) | o | (_ | o) | _
  case others =>
    simp only [Comparison.ordering?, Option.getD_none]
    split_ifs <;> rfl
  all_goals rfl

/-- The order of two terms is the reverse of that of the second and the first. -/
theorem orderTerms_swap (a b : Term) : (orderTerms a b).swap = orderTerms b a := by
  have hlexical : (Ord.compare a.lexical b.lexical).swap = Ord.compare b.lexical a.lexical :=
    Std.OrientedOrd.eq_swap.symm
  rw [orderTerms_eq a, orderTerms_eq b, ← ordering?_swap a b]
  cases (comparison a b).ordering? <;> simp [hlexical]

/-- A term is level with itself. -/
theorem orderTerms_self (a : Term) : orderTerms a a = .eq := by
  have h := orderTerms_swap a a
  cases ha : orderTerms a a <;> simp_all

/-- The order is transitive on a set of values. -/
def TransitiveOn (S : Set Term) : Prop :=
  ∀ a ∈ S, ∀ b ∈ S, ∀ c ∈ S,
    orderTerms a b = .lt → orderTerms b c = .lt → orderTerms a c = .lt

/-- The order is transitive on the values of one kind. -/
theorem transitiveOn_of_kind {S : Set Term} {k : Kind} (h : ∀ t ∈ S, kind t = k) :
    TransitiveOn S := by
  intro a ha b hb c hc hab hbc
  obtain ⟨x, hx⟩ := Kind.exists_reads (h a ha)
  obtain ⟨y, hy⟩ := Kind.exists_reads (h b hb)
  obtain ⟨z, hz⟩ := Kind.exists_reads (h c hc)
  rw [orderTerms_eq, hx.ordering hy] at hab
  rw [orderTerms_eq, hy.ordering hz] at hbc
  rw [orderTerms_eq, hx.ordering hz]
  exact Std.TransCmp.lt_trans hab hbc

/-! ## One pass -/

/-- A value of a list is extreme in it: none of the list stands to it in the wanted order. -/
structure Extreme (wanted : Ordering) (l : List Term) (x : Term) : Prop where
  /-- It is in the list. -/
  mem : x ∈ l
  /-- No value is better. -/
  best : ∀ y ∈ l, orderTerms y x ≠ wanted

variable {S : Set Term} {wanted : Ordering}

/-- A transitive order is transitive from either end. -/
theorem TransitiveOn.trans (h : TransitiveOn S) (hw : wanted ≠ .eq) {a b c : Term} (ha : a ∈ S)
    (hb : b ∈ S) (hc : c ∈ S) (hab : orderTerms a b = wanted) (hbc : orderTerms b c = wanted) :
    orderTerms a c = wanted := by
  cases wanted with
  | eq => exact absurd rfl hw
  | lt => exact h a ha b hb c hc hab hbc
  | gt =>
    rw [← orderTerms_swap, Ordering.swap_eq_gt] at hab hbc ⊢
    exact h c hc b hb a ha hbc hab

/-- The best value so far stays best when one more is looked at. -/
theorem Extreme.better (hS : TransitiveOn S) (hw : wanted ≠ .eq) {l : List Term} {best value : Term}
    (hl : ∀ t ∈ l, t ∈ S) (hvalue : value ∈ S) (h : Extreme wanted l best) :
    Extreme wanted (l ++ [value]) (better wanted best value) := by
  have hself : orderTerms value value ≠ wanted := by rw [orderTerms_self]; exact hw.symm
  unfold AggregateFunction.better
  split
  · next hbetter =>
    refine ⟨by simp, fun y hy hyv => ?_⟩
    rcases List.mem_append.1 hy with hy | hy
    · -- What is better than the new value was better than the old one.
      exact h.best y hy (hS.trans hw (hl y hy) hvalue (hl best h.mem) hyv hbetter)
    · exact hself (List.mem_singleton.1 hy ▸ hyv)
  · next hbetter =>
    refine ⟨List.mem_append_left _ h.mem, fun y hy => ?_⟩
    rcases List.mem_append.1 hy with hy | hy
    · exact h.best y hy
    · exact List.mem_singleton.1 hy ▸ hbetter

/-- What is kept after all values is extreme among them. -/
theorem foldl_better_extreme (hS : TransitiveOn S) (hw : wanted ≠ .eq) {l rest : List Term}
    {best : Term} (hl : ∀ t ∈ l, t ∈ S) (hrest : ∀ t ∈ rest, t ∈ S) (h : Extreme wanted l best) :
    Extreme wanted (l ++ rest) (rest.foldl (AggregateFunction.better wanted) best) := by
  induction rest generalizing l best with
  | nil => simpa using h
  | cons t rest ih =>
    obtain ⟨ht, hrest⟩ := List.forall_mem_cons.1 hrest
    have hl' : ∀ u ∈ l ++ [t], u ∈ S := by
      simpa [or_imp, forall_and] using ⟨hl, ht⟩
    simpa using ih hl' hrest (h.better hS hw hl ht)

/-- Every list of values but the empty one has an extreme value, and it is the one that is found. -/
def HasExtremes (wanted : Ordering) (S : Set Term) : Prop :=
  ∀ l : List Term, l ≠ [] → (∀ t ∈ l, t ∈ S) →
    ∃ x, extreme wanted l = .ok x ∧ Extreme wanted l x

/-- On values with a transitive order the value that is found is extreme. -/
theorem TransitiveOn.hasExtremes (hS : TransitiveOn S) (hw : wanted ≠ .eq) :
    HasExtremes wanted S := by
  intro l hl hmem
  obtain ⟨t, rest, rfl⟩ := List.exists_cons_of_ne_nil hl
  obtain ⟨ht, hrest⟩ := List.forall_mem_cons.1 hmem
  have hfirst : Extreme wanted [t] t :=
    ⟨by simp, fun y hy => by rw [List.mem_singleton.1 hy, orderTerms_self]; exact hw.symm⟩
  exact ⟨_, rfl, foldl_better_extreme hS hw (by simpa using ht) hrest hfirst⟩

/-- If the value that is found is always extreme, then the order is transitive. -/
theorem HasExtremes.trans (h : HasExtremes wanted S) {a b c : Term} (ha : a ∈ S) (hb : b ∈ S)
    (hc : c ∈ S) (hab : orderTerms a b = wanted) (hbc : orderTerms b c = wanted) :
    orderTerms a c = wanted := by
  by_contra hac
  -- The last value takes the place of the first, which the second could not, and loses to that.
  have hfound : extreme wanted [c, a, b] = .ok b := by
    simp [extreme, AggregateFunction.better, hac, hbc]
  obtain ⟨x, hx, hextreme⟩ := h [c, a, b] (by simp) (by simp [ha, hb, hc])
  obtain rfl := Except.ok.inj (hfound.symm.trans hx)
  exact hextreme.best a (by simp) hab

/-- A set has extreme values on either side if and only if the order is transitive on it. -/
theorem hasExtremes_iff (wanted : Ordering) (hw : wanted ≠ .eq) :
    HasExtremes wanted S ↔ TransitiveOn S := by
  refine ⟨fun h a ha b hb c hc hab hbc => ?_, fun h => h.hasExtremes hw⟩
  cases wanted with
  | eq => exact absurd rfl hw
  | lt => exact h.trans ha hb hc hab hbc
  | gt =>
    rw [← orderTerms_swap, Ordering.swap_eq_lt] at hab hbc ⊢
    exact h.trans hc hb ha hbc hab

/-- Extreme values of lists with the same values are level. -/
theorem Extreme.level {l l' : List Term} {x y : Term} (hw : wanted ≠ .eq)
    (hx : Extreme wanted l x) (hy : Extreme wanted l' y) (h : l.Perm l') :
    orderTerms x y = .eq := by
  have hxy := hy.best x (h.subset hx.mem)
  have hyx := hx.best y (h.symm.subset hy.mem)
  rw [← orderTerms_swap] at hyx
  cases ho : orderTerms x y <;> cases wanted <;> simp_all

/-! ## Least and greatest values -/

/-- The least value that is found for a list of values is not preceded by any of them, and the
greatest precedes none, whatever the list, if and only if the order is transitive on the values.
Then the values that are found do not depend on the order of the list, up to values that are level.
Values of one kind are such. -/
theorem extremes_iff_transitive (S : Set Term) :
    (TransitiveOn S ↔ ∀ l : List Term, l ≠ [] → (∀ t ∈ l, t ∈ S) →
      ∃ x ∈ l, apply l .least = .ok x ∧ ∀ y ∈ l, orderTerms y x ≠ .lt) ∧
    (TransitiveOn S ↔ ∀ l : List Term, l ≠ [] → (∀ t ∈ l, t ∈ S) →
      ∃ x ∈ l, apply l .greatest = .ok x ∧ ∀ y ∈ l, orderTerms y x ≠ .gt) ∧
    (TransitiveOn S → ∀ l l' : List Term, l ≠ [] → (∀ t ∈ l, t ∈ S) → l.Perm l' →
      (∃ x y, apply l .least = .ok x ∧ apply l' .least = .ok y ∧ orderTerms x y = .eq) ∧
      (∃ x y, apply l .greatest = .ok x ∧ apply l' .greatest = .ok y ∧ orderTerms x y = .eq)) ∧
    ((∃ k, ∀ t ∈ S, kind t = k) → TransitiveOn S) := by
  have found : ∀ wanted, HasExtremes wanted S ↔ ∀ l : List Term, l ≠ [] → (∀ t ∈ l, t ∈ S) →
      ∃ x ∈ l, extreme wanted l = .ok x ∧ ∀ y ∈ l, orderTerms y x ≠ wanted :=
    fun wanted => forall_congr' fun l => imp_congr_right fun _ => imp_congr_right fun _ =>
      ⟨fun ⟨x, hx, h⟩ => ⟨x, h.mem, hx, h.best⟩, fun ⟨x, hmem, hx, h⟩ => ⟨x, hx, hmem, h⟩⟩
  have level : ∀ wanted, wanted ≠ .eq → TransitiveOn S → ∀ l l' : List Term, l ≠ [] →
      (∀ t ∈ l, t ∈ S) → l.Perm l' →
        ∃ x y, extreme wanted l = .ok x ∧ extreme wanted l' = .ok y ∧ orderTerms x y = .eq := by
    intro wanted hw hS l l' hl hmem hperm
    have hl' : l' ≠ [] := fun h => hl (h ▸ hperm).eq_nil
    obtain ⟨x, hx, hextreme⟩ := hS.hasExtremes hw l hl hmem
    obtain ⟨y, hy, hextreme'⟩ :=
      hS.hasExtremes hw l' hl' fun t ht => hmem t (hperm.symm.subset ht)
    exact ⟨x, y, hx, hy, hextreme.level hw hextreme' hperm⟩
  refine ⟨?_, ?_, fun hS l l' hl hmem hperm => ⟨?_, ?_⟩, fun ⟨k, hk⟩ => transitiveOn_of_kind hk⟩
  · rw [← hasExtremes_iff .lt (by simp), found]
    rfl
  · rw [← hasExtremes_iff .gt (by simp), found]
    rfl
  · exact level .lt (by simp) hS l l' hl hmem hperm
  · exact level .gt (by simp) hS l l' hl hmem hperm

/-- Of two, two with a zero in front, and the string of a one, the string is found as the least
value in one order, though two with a zero in front precedes it, and is found in another order. -/
theorem least_preceded :
    let two : Term := .literal (.typed "2" Vocabulary.xsdInteger)
    let padded : Term := .literal (.typed "02" Vocabulary.xsdInteger)
    let text : Term := .literal (.simple "1")
    orderTerms padded text = .lt ∧ apply [two, padded, text] .least = .ok text ∧
    apply [padded, text, two] .least = .ok padded := by
  refine ⟨by decide, by rfl, by rfl⟩

end PagedSparql.AggregateFunction
