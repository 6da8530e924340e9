import Mathlib.Algebra.BigOperators.Group.List.Basic
import Mathlib.Algebra.Order.Ring.Int
import PagedSparql.Pipeline.Grouping

/-!
# Sums of integers

A sum of integers is taken from the left, and each running total has to fit in 64 bits. So it is
the exact total, or none where a running total is outside (`sumFrom_integers`), and which of the two
depends on the order of the integers.

Running totals of every order stay between the sum of the integers below zero and the sum of those
above (`runsFrom_of_envelope`). So the order does not matter where these two fit, and conversely the
orders with all positive or with all negative integers in front reach them. If only the total fits,
then there is an order that never leaves the range: a negative integer next while the running total
is not negative, and another one while it is (`exists_perm_runsFrom`).
-/

namespace PagedSparql

namespace Numeric

/-- The bounds of 64 bits. -/
theorem fits_iff {n : Int} :
    fits n = true ↔ -9223372036854775808 ≤ n ∧ n ≤ 9223372036854775807 := by
  have hmin : Int64.minValue.toInt = -9223372036854775808 := by decide
  have hmax : Int64.maxValue.toInt = 9223372036854775807 := by decide
  simp [fits, hmin, hmax]

/-- What is between two integers of 64 bits has 64 bits. -/
theorem fits_of_between {a b n : Int} (ha : fits a) (hb : fits b) (han : a ≤ n) (hnb : n ≤ b) :
    fits n := by
  rw [fits_iff] at *
  omega

/-- The integer that a term stands for; zero for other terms. -/
def integerValue (t : Term) : Int :=
  match ofTerm? t with
  | some (.integer n) => n
  | _ => 0

/-- The term stands for an integer. -/
def IsInteger (t : Term) : Prop := ofTerm? t = some (.integer (integerValue t))

instance (t : Term) : Decidable (IsInteger t) := decEq _ _

/-- Integers that are read have 64 bits. -/
theorem fits_of_readInteger? {text : List Char} {n : Int} (h : readInteger? text = some n) :
    fits n := by
  unfold readInteger? at h
  grind

/-- The integers that terms stand for have 64 bits. -/
theorem IsInteger.fits {t : Term} (h : IsInteger t) : fits (integerValue t) := by
  unfold IsInteger ofTerm? ofLiteral? at h
  obtain ⟨l, -, hl⟩ := Option.bind_eq_some_iff.1 h
  obtain ⟨rest, -, hrest⟩ := Option.bind_eq_some_iff.1 hl
  dsimp only at hrest
  split_ifs at hrest <;> obtain ⟨n, hn, heq⟩ := Option.map_eq_some_iff.1 hrest
  · obtain rfl := Numeric.integer.inj heq
    exact fits_of_readInteger? hn
  all_goals exact absurd heq (by simp)

/-- Integers are added exactly, if the sum fits. -/
theorem arithmetic_add_integer (a b : Int) :
    arithmetic .add (.integer a) (.integer b) = ofInt (a + b) := by
  simp [arithmetic]

end Numeric

open Numeric

/-! ## Running totals -/

/-- Every running total of integers that are added to a first one fits in 64 bits, the first one and
the last one included. -/
def RunsFrom (total : Int) (ns : List Int) : Prop := ∀ p, p <+: ns → fits (total + p.sum)

namespace RunsFrom

/-- Without integers the only running total is the first. -/
theorem nil_iff {total : Int} : RunsFrom total [] ↔ fits total := by
  simp [RunsFrom]

/-- The running totals of a list with one more integer in front. -/
theorem cons_iff {total n : Int} {ns : List Int} :
    RunsFrom total (n :: ns) ↔ fits total ∧ RunsFrom (total + n) ns := by
  constructor
  · intro h
    exact ⟨by simpa using h [] List.nil_prefix, fun p hp => by
      simpa [add_assoc] using h (n :: p) (List.cons_prefix_cons.2 ⟨rfl, hp⟩)⟩
  · rintro ⟨hfirst, hrest⟩ p hp
    cases p with
    | nil => simpa using hfirst
    | cons m p =>
      obtain ⟨rfl, hp'⟩ := List.cons_prefix_cons.1 hp
      simpa [add_assoc] using hrest p hp'

/-- The first running total fits. -/
theorem fits_first {total : Int} {ns : List Int} (h : RunsFrom total ns) : fits total := by
  simpa using h [] List.nil_prefix

/-- The last running total fits. -/
theorem fits_last {total : Int} {ns : List Int} (h : RunsFrom total ns) :
    fits (total + ns.sum) := h ns (List.prefix_refl ns)

end RunsFrom

/-- The sum of the integers above zero. -/
def positiveTotal (ns : List Int) : Int := (ns.filter (0 < ·)).sum

/-- The sum of the integers below zero. -/
def negativeTotal (ns : List Int) : Int := (ns.filter (· < 0)).sum

/-- Only an integer above zero adds to what is above zero. -/
theorem positiveTotal_cons (n : Int) (ns : List Int) :
    positiveTotal (n :: ns) = max 0 n + positiveTotal ns := by
  by_cases h : 0 < n
  · simp [positiveTotal, h, h.le]
  · simp [positiveTotal, h, not_lt.1 h]

/-- Only an integer below zero adds to what is below zero. -/
theorem negativeTotal_cons (n : Int) (ns : List Int) :
    negativeTotal (n :: ns) = min 0 n + negativeTotal ns := by
  by_cases h : n < 0
  · simp [negativeTotal, h, h.le]
  · simp [negativeTotal, h, not_lt.1 h]

/-- A prefix sums up to no more than its list has above zero, and no less than it has below. -/
theorem sum_prefix_mem_envelope {p ns : List Int} (h : p <+: ns) :
    negativeTotal ns ≤ p.sum ∧ p.sum ≤ positiveTotal ns := by
  induction ns generalizing p with
  | nil => simp [List.prefix_nil.1 h, negativeTotal, positiveTotal]
  | cons n ns ih =>
    rw [positiveTotal_cons, negativeTotal_cons]
    cases p with
    | nil =>
      have := ih (p := []) List.nil_prefix
      rw [List.sum_nil] at this ⊢
      omega
    | cons m p =>
      obtain ⟨rfl, hp⟩ := List.cons_prefix_cons.1 h
      have := ih hp
      rw [List.sum_cons]
      omega

/-- Running totals fit if the two bounds that no order leaves do. -/
theorem runsFrom_of_envelope {total : Int} {ns : List Int}
    (hlow : fits (total + negativeTotal ns)) (hhigh : fits (total + positiveTotal ns)) :
    RunsFrom total ns := by
  intro p hp
  obtain ⟨hge, hle⟩ := sum_prefix_mem_envelope hp
  exact fits_of_between hlow hhigh (by omega) (by omega)

/-- A list is what it has below zero and above. -/
theorem negativeTotal_add_positiveTotal (ns : List Int) :
    negativeTotal ns + positiveTotal ns = ns.sum := by
  induction ns with
  | nil => rfl
  | cons n ns ih =>
    rw [positiveTotal_cons, negativeTotal_cons, List.sum_cons]
    omega

/-- If the first and the last total fit, and each integer does, then there is an order of the
integers whose running totals all fit. -/
theorem exists_perm_runsFrom {α : Type} (value : α → Int) (l : List α) :
    ∀ total, fits total → fits (total + (l.map value).sum) → (∀ a ∈ l, fits (value a)) →
      ∃ l' : List α, l'.Perm l ∧ RunsFrom total (l'.map value) := by
  -- The length carries the induction, for the integer that comes next may stand anywhere.
  induction hn : l.length generalizing l with
  | zero =>
    obtain rfl := List.eq_nil_of_length_eq_zero hn
    exact fun total h _ _ => ⟨[], .refl _, RunsFrom.nil_iff.2 h⟩
  | succ n ih =>
    intro total hfirst hlast hl
    -- An integer that leaves the running total in range may come first.
    have next : ∀ a ∈ l, fits (total + value a) →
        ∃ l' : List α, l'.Perm l ∧ RunsFrom total (l'.map value) := by
      intro a ha hfits
      obtain ⟨front, back, rfl⟩ := List.append_of_mem ha
      have hperm : (a :: (front ++ back)).Perm (front ++ a :: back) := List.perm_middle.symm
      have hsum : total + ((front ++ a :: back).map value).sum =
          total + value a + ((front ++ back).map value).sum := by
        rw [← (hperm.map value).sum_eq, List.map_cons, List.sum_cons, add_assoc]
      obtain ⟨l', hl', hruns⟩ := ih (front ++ back) (by simp at hn ⊢; omega)
        (total + value a) hfits
        (hsum ▸ hlast) fun b hb => hl b (hperm.subset (List.mem_cons_of_mem a hb))
      exact ⟨a :: l', (hl'.cons a).trans hperm, RunsFrom.cons_iff.2 ⟨hfirst, hruns⟩⟩
    have htotal := negativeTotal_add_positiveTotal (l.map value)
    rcases le_or_gt 0 total with hsign | hsign
    · by_cases hex : ∃ a ∈ l, value a < 0
      · obtain ⟨a, ha, hneg⟩ := hex
        exact next a ha (fits_of_between (hl a ha) hfirst (by omega) (by omega))
      · have hnone : negativeTotal (l.map value) = 0 := by
          rw [negativeTotal, List.filter_eq_nil_iff.2 (by simpa using hex), List.sum_nil]
        rw [← htotal, hnone, zero_add] at hlast
        exact ⟨l, .refl l, runsFrom_of_envelope (by rwa [hnone, add_zero]) hlast⟩
    · by_cases hex : ∃ a ∈ l, 0 < value a
      · obtain ⟨a, ha, hpos⟩ := hex
        exact next a ha (fits_of_between hfirst (hl a ha) (by omega) (by omega))
      · have hnone : positiveTotal (l.map value) = 0 := by
          rw [positiveTotal, List.filter_eq_nil_iff.2 (by simpa using hex), List.sum_nil]
        rw [← htotal, hnone, add_zero] at hlast
        exact ⟨l, .refl l, runsFrom_of_envelope hlast (by rwa [hnone, add_zero])⟩

/-- If the running totals fit in every order, then so do those of the integers that pass a test. -/
theorem fits_filter_of_perms {α : Type} {value : α → Int} {l : List α} {total : Int}
    (h : ∀ l' : List α, l'.Perm l → RunsFrom total (l'.map value)) (test : Int → Bool) :
    fits (total + ((l.map value).filter test).sum) := by
  rw [List.filter_map]
  refine h _ (List.filter_append_perm (test ∘ value) l) _ ?_
  rw [List.map_append]
  exact List.prefix_append _ _

/-! ## Sums -/

namespace AggregateFunction

/-- The sum of integers onto a total is exact if the running totals fit, and none otherwise. -/
theorem sumFrom_integers {ts : List Term} (h : ∀ t ∈ ts, IsInteger t) {total : Int}
    (htotal : fits total) :
    (RunsFrom total (ts.map integerValue) →
      sumFrom (.integer total) ts = .ok (.integer (total + (ts.map integerValue).sum))) ∧
    (¬RunsFrom total (ts.map integerValue) →
      sumFrom (.integer total) ts = .error (.argument .integerOverflow)) := by
  induction ts generalizing total with
  | nil => simp [sumFrom, RunsFrom.nil_iff, htotal]
  | cons t rest ih =>
    obtain ⟨ht, hrest⟩ := List.forall_mem_cons.1 h
    have hstep : sumFrom (.integer total) (t :: rest) =
        (ofInt (total + integerValue t)).bind fun n => sumFrom n rest := by
      rw [sumFrom, ofTerm, ht, ← arithmetic_add_integer]
      rfl
    rw [hstep, List.map_cons, RunsFrom.cons_iff, List.sum_cons, ← add_assoc, ofInt]
    by_cases hfits : fits (total + integerValue t)
    · simpa [hfits, htotal, Except.bind] using ih hrest hfits
    · have hruns : ¬RunsFrom (total + integerValue t) (rest.map integerValue) :=
        fun hruns => hfits hruns.fits_first
      simp [hfits, hruns, Except.bind]

/-- The term of the exact total of integers. -/
def totalTerm (ts : List Term) : Term := (Numeric.integer (ts.map integerValue).sum).toTerm

/-- The exact total is the same in every order. -/
theorem totalTerm_perm {ts us : List Term} (h : us.Perm ts) : totalTerm us = totalTerm ts := by
  rw [totalTerm, totalTerm, (h.map integerValue).sum_eq]

/-- The sum of integers is taken from zero. -/
theorem apply_sum_integers {ts : List Term} (h : ∀ t ∈ ts, IsInteger t) :
    (RunsFrom 0 (ts.map integerValue) → apply ts .sum = .ok (totalTerm ts)) ∧
    (¬RunsFrom 0 (ts.map integerValue) →
      apply ts .sum = .error (.argument .integerOverflow)) := by
  have hzero : fits 0 := by decide
  obtain ⟨hexact, hnone⟩ := sumFrom_integers h hzero
  constructor
  · intro hruns
    rw [apply, sumOf, hexact hruns, zero_add]
    rfl
  · intro hruns
    rw [apply, sumOf, hnone hruns]
    rfl

/-- The sum of integers is the exact total or none. It is the total in the orders whose running
totals all have 64 bits. There is no such order if the total does not fit, and there is one if it
does; all orders are such if and only if also the sum of the negative integers and that of the
positive ones fit. -/
theorem sum_of_orders {ts : List Term} (h : ∀ t ∈ ts, IsInteger t) :
    (∀ us : List Term, us.Perm ts →
      (RunsFrom 0 (us.map integerValue) → apply us .sum = .ok (totalTerm ts)) ∧
      (¬RunsFrom 0 (us.map integerValue) →
        apply us .sum = .error (.argument .integerOverflow))) ∧
    (¬fits (ts.map integerValue).sum → ∀ us : List Term, us.Perm ts →
      apply us .sum = .error (.argument .integerOverflow)) ∧
    (fits (ts.map integerValue).sum → ∃ us : List Term, us.Perm ts ∧
      apply us .sum = .ok (totalTerm ts)) ∧
    ((∀ us : List Term, us.Perm ts → apply us .sum = .ok (totalTerm ts)) ↔
      fits (negativeTotal (ts.map integerValue)) ∧
      fits (positiveTotal (ts.map integerValue))) := by
  have outcome : ∀ us : List Term, us.Perm ts →
      (RunsFrom 0 (us.map integerValue) → apply us .sum = .ok (totalTerm ts)) ∧
      (¬RunsFrom 0 (us.map integerValue) →
        apply us .sum = .error (.argument .integerOverflow)) := by
    intro us hus
    rw [← totalTerm_perm hus]
    exact apply_sum_integers fun t ht => h t (hus.subset ht)
  -- An order that gives the total is one of those whose running totals fit.
  have runs : ∀ us : List Term, us.Perm ts → apply us .sum = .ok (totalTerm ts) →
      RunsFrom 0 (us.map integerValue) := by
    intro us hus hsum
    by_contra hruns
    exact absurd (hsum.symm.trans ((outcome us hus).2 hruns)) (by simp)
  refine ⟨outcome, fun hfits us hus => (outcome us hus).2 fun hruns => hfits ?_, fun hfits => ?_,
    fun hall => ?_, fun ⟨hlow, hhigh⟩ us hus => (outcome us hus).1 ?_⟩
  · rw [← (hus.map integerValue).sum_eq, ← zero_add (List.sum _)]
    exact hruns.fits_last
  · obtain ⟨us, hus, hruns⟩ := exists_perm_runsFrom integerValue ts 0 (by decide)
      (by rwa [zero_add]) fun t ht => (h t ht).fits
    exact ⟨us, hus, (outcome us hus).1 hruns⟩
  · have hfits := fits_filter_of_perms fun us hus => runs us hus (hall us hus)
    exact ⟨zero_add (negativeTotal _) ▸ hfits (· < 0), zero_add (positiveTotal _) ▸ hfits (0 < ·)⟩
  · have hpositive : positiveTotal (us.map integerValue) = positiveTotal (ts.map integerValue) :=
      ((hus.map integerValue).filter _).sum_eq
    have hnegative : negativeTotal (us.map integerValue) = negativeTotal (ts.map integerValue) :=
      ((hus.map integerValue).filter _).sum_eq
    exact runsFrom_of_envelope (by rwa [hnegative, zero_add]) (by rwa [hpositive, zero_add])

end AggregateFunction

/-- The largest integer of 64 bits, one, and minus one. -/
def Sample.nearLimit : List Term :=
  [.literal (.typed "9223372036854775807" Vocabulary.xsdInteger),
    .literal (.typed "1" Vocabulary.xsdInteger), .literal (.typed "-1" Vocabulary.xsdInteger)]

namespace AggregateFunction

/-- Some order of three integers near the limit has their total. -/
theorem sum_of_orders_sample :
    (∀ t ∈ Sample.nearLimit, IsInteger t) ∧
    ∃ us : List Term, us.Perm Sample.nearLimit ∧
      apply us .sum = .ok (totalTerm Sample.nearLimit) := by
  have hintegers : ∀ t ∈ Sample.nearLimit, IsInteger t := by decide
  exact ⟨hintegers, (sum_of_orders hintegers).2.2.1 (by decide)⟩

/-- Integers whose total fits have it as their sum in one order, and have no sum in another. -/
theorem sum_order_matters :
    (∀ t ∈ Sample.nearLimit, IsInteger t) ∧ fits (Sample.nearLimit.map integerValue).sum ∧
    Sample.nearLimit.reverse.Perm Sample.nearLimit ∧
    apply Sample.nearLimit.reverse .sum = .ok (totalTerm Sample.nearLimit) ∧
    apply Sample.nearLimit .sum = .error (.argument .integerOverflow) :=
  ⟨by decide, by decide, List.reverse_perm _, by rfl, by rfl⟩

end AggregateFunction

end PagedSparql
