import Mathlib.Algebra.BigOperators.Group.List.Basic
import Mathlib.Algebra.Ring.Defs
import PagedSparql.Proofs.Rdf.Row

/-!
# Sets of rows

The solutions of a pattern as a set of rows. The product of two sets is their join, the rows that a
row of the one and a row of the other make together, and the sum is their union. Sets of rows are a
commutative semiring, since merging rows is commutative and associative where it is defined
(`Row.merge_eq_some_iff`).

Two sets may differ in the variables that a rewrite has introduced. They are the same on some
variables (`RowSet.SameOn`) if every row of the one agrees on these variables with a row of the
other. Joins with rows that bind no other variables respect this.
-/

namespace PagedSparql

/-- A variable keeps its value if it passes the test. -/
theorem VariableMap.get?_filter {α : Type} (keep : Variable → Bool) (m : VariableMap α)
    (v : Variable) : (m.filter keep).get? v = if keep v then m.get? v else none := by
  refine Option.ext fun x => ?_
  have hentries : (v, x) ∈ (m.filter keep).entries ↔ (v, x) ∈ m.entries ∧ keep v = true := by
    simp [VariableMap.filter]
  rw [← mem_entries_iff, hentries, mem_entries_iff]
  split <;> simp_all

namespace Row

/-- The rows bind these variables to the same terms. -/
def Agree (V : Set Variable) (a b : Row) : Prop := ∀ v ∈ V, a.get? v = b.get? v

/-- A row agrees with itself. -/
theorem Agree.refl (V : Set Variable) (a : Row) : Agree V a a := fun _ _ => rfl

/-- Rows agree in any order. -/
theorem Agree.symm {V : Set Variable} {a b : Row} (h : Agree V a b) : Agree V b a :=
  fun v hv => (h v hv).symm

/-- A row agrees with what another one agrees with. -/
theorem Agree.trans {V : Set Variable} {a b c : Row} (h : Agree V a b) (h' : Agree V b c) :
    Agree V a c := fun v hv => (h v hv).trans (h' v hv)

/-- Rows that agree on some variables agree on fewer. -/
theorem Agree.mono {V W : Set Variable} {a b : Row} (h : Agree W a b) (hVW : V ⊆ W) :
    Agree V a b := fun v hv => h v (hVW hv)

/-- A listed variable keeps its term. -/
theorem get?_project (r : Row) (kept : List Variable) (v : Variable) :
    (project r kept).get? v = if v ∈ kept then r.get? v else none := by
  rw [project, VariableMap.get?_filter]
  simp

/-- A row without some variables has the terms of the others. -/
theorem get?_without (r : Row) (hidden : List Variable) (v : Variable) :
    (r.without hidden).get? v = if v ∈ hidden then none else r.get? v := by
  rw [without, VariableMap.get?_filter]
  by_cases hv : v ∈ hidden <;> simp [hv]

/-- A row that agrees on the listed variables with one that binds no others becomes that one. -/
theorem project_eq_of_agree {kept : List Variable} {a b : Row} (h : Agree {v | v ∈ kept} a b)
    (hb : ∀ v, b.binds v = true → v ∈ kept) : project a kept = b := by
  refine VariableMap.ext_get? fun v => ?_
  rw [get?_project]
  split
  · next hv => exact h v hv
  · next hv =>
    exact (VariableMap.binds_eq_false_iff.1 (Bool.eq_false_iff.2 fun hbv => hv (hb v hbv))).symm

end Row

/-- A set of rows. -/
def RowSet : Type := Set Row

namespace RowSet

instance : Membership Row RowSet := ⟨Set.Mem⟩

variable {A A' B B' C : RowSet} {r : Row}

/-- Sets with the same rows are equal. -/
@[ext] theorem ext (h : ∀ r, r ∈ A ↔ r ∈ B) : A = B := Set.ext h

/-- The rows with a property. -/
def of (p : Row → Prop) : RowSet := Set.ofPred p

/-- A row has the property of its set. -/
@[simp] theorem mem_of {p : Row → Prop} : r ∈ of p ↔ p r := .rfl

instance : Zero RowSet := ⟨of fun _ => False⟩

instance : One RowSet := ⟨of (· = .empty)⟩

instance : Add RowSet := ⟨fun A B => of fun r => r ∈ A ∨ r ∈ B⟩

instance : Mul RowSet := ⟨fun A B => of fun r => ∃ a ∈ A, ∃ b ∈ B, Row.merge a b = some r⟩

/-- The empty set has no rows. -/
@[simp] theorem not_mem_zero : r ∉ (0 : RowSet) := id

/-- The unit of joins is the empty row. -/
@[simp] theorem mem_one : r ∈ (1 : RowSet) ↔ r = .empty := .rfl

/-- A union has the rows of both sets. -/
@[simp] theorem mem_add : r ∈ A + B ↔ r ∈ A ∨ r ∈ B := .rfl

/-- Joins do not depend on the order. -/
theorem join_comm (A B : RowSet) : A * B = B * A := by
  have h : ∀ A B : RowSet, ∀ r ∈ A * B, r ∈ B * A := by
    rintro A B r ⟨a, ha, b, hb, h⟩
    exact ⟨b, hb, a, ha, Row.merge_comm a b ▸ h⟩
  exact ext fun r => ⟨h A B r, h B A r⟩

/-- Joins may be made in another order. -/
theorem join_assoc (A B C : RowSet) : A * B * C = A * (B * C) := by
  have h : ∀ A B C : RowSet, ∀ r ∈ A * B * C, r ∈ A * (B * C) := by
    rintro A B C r ⟨_, ⟨a, ha, b, hb, hab⟩, c, hc, habc⟩
    obtain ⟨bc, hbc, habc⟩ := Row.merge_assoc hab habc
    exact ⟨a, ha, bc, ⟨b, hb, c, hc, hbc⟩, habc⟩
  refine ext fun r => ⟨h A B C r, fun hr => ?_⟩
  rw [join_comm A, join_comm B] at hr
  have := h C B A r hr
  rwa [join_comm C, join_comm B] at this

/-- The empty row adds nothing. -/
theorem one_join (A : RowSet) : 1 * A = A := by
  refine ext fun r => ⟨?_, fun hr => ⟨.empty, rfl, r, hr, Row.empty_merge r⟩⟩
  rintro ⟨_, rfl, b, hb, h⟩
  rw [Row.empty_merge] at h
  exact Option.some.inj h ▸ hb

/-- No row is joined with no row. -/
theorem zero_join (A : RowSet) : 0 * A = 0 :=
  ext fun _ => ⟨fun ⟨_, ha, _⟩ => absurd ha not_mem_zero, fun h => absurd h not_mem_zero⟩

/-- A union is joined set by set. -/
theorem join_add (A B C : RowSet) : A * (B + C) = A * B + A * C := by
  refine ext fun r => ⟨?_, ?_⟩
  · rintro ⟨a, ha, b, hb | hb, h⟩
    · exact .inl ⟨a, ha, b, hb, h⟩
    · exact .inr ⟨a, ha, b, hb, h⟩
  · rintro (⟨a, ha, b, hb, h⟩ | ⟨a, ha, b, hb, h⟩)
    · exact ⟨a, ha, b, .inl hb, h⟩
    · exact ⟨a, ha, b, .inr hb, h⟩

/-- Sets of rows with union and join. -/
instance : CommSemiring RowSet where
  add_assoc _ _ _ := ext fun _ => or_assoc
  zero_add _ := ext fun _ => by simp
  add_zero _ := ext fun _ => by simp
  add_comm _ _ := ext fun _ => or_comm
  nsmul := nsmulRec
  mul_assoc := join_assoc
  mul_comm := join_comm
  one_mul := one_join
  mul_one A := (join_comm A 1).trans (one_join A)
  zero_mul := zero_join
  mul_zero A := (join_comm A 0).trans (zero_join A)
  left_distrib := join_add
  right_distrib A B C := by rw [join_comm, join_add, join_comm C, join_comm C]

/-- The empty row if a condition holds. -/
def only (p : Prop) : RowSet := of fun r => p ∧ r = .empty

/-- A condition and the empty row. -/
@[simp] theorem mem_only {p : Prop} : r ∈ only p ↔ p ∧ r = .empty := .rfl

/-- The rows that bind one variable to a term. -/
def single (v : Variable) (t : Term) : RowSet := of (· = VariableMap.empty.insert v t)

/-- The only row of its set. -/
@[simp] theorem mem_single {v : Variable} {t : Term} :
    r ∈ single v t ↔ r = VariableMap.empty.insert v t := .rfl

variable {ι : Type}

/-- The rows of a family of sets. -/
def any (f : ι → RowSet) : RowSet := of fun r => ∃ i, r ∈ f i

/-- A row of one of the sets. -/
@[simp] theorem mem_any {f : ι → RowSet} : r ∈ any f ↔ ∃ i, r ∈ f i := .rfl

/-- A family is joined set by set. -/
theorem mul_any (A : RowSet) (f : ι → RowSet) : A * any f = any fun i => A * f i := by
  refine ext fun r => ⟨?_, ?_⟩
  · rintro ⟨a, ha, b, ⟨i, hb⟩, h⟩
    exact ⟨i, a, ha, b, hb, h⟩
  · rintro ⟨i, a, ha, b, hb, h⟩
    exact ⟨a, ha, b, ⟨i, hb⟩, h⟩

/-- A family is joined set by set. -/
theorem any_mul (f : ι → RowSet) (A : RowSet) : any f * A = any fun i => f i * A := by
  simp only [mul_comm _ A, mul_any]

/-- Families with the same sets are equal. -/
theorem any_congr {f g : ι → RowSet} (h : ∀ i, f i = g i) : any f = any g := congrArg any (funext h)

/-- A family of empty sets has no rows. -/
theorem any_eq_zero {f : ι → RowSet} (h : ∀ i, f i = 0) : any f = 0 := by
  refine ext fun r => ⟨?_, fun hr => absurd hr not_mem_zero⟩
  rintro ⟨i, hr⟩
  exact h i ▸ hr

/-- Two families are united set by set. -/
theorem any_add (f g : ι → RowSet) : (any fun i => f i + g i) = any f + any g :=
  ext fun r => by simp [exists_or]

/-- Families of families may be united in another order. -/
theorem any_comm {κ : Type} (f : ι → κ → RowSet) :
    (any fun i => any fun j => f i j) = any fun j => any fun i => f i j :=
  ext fun r => by simpa using exists_comm

/-- A family with one set that is not empty. -/
theorem any_eq {f : ι → RowSet} {i : ι} (h : ∀ j, j ≠ i → f j = 0) : any f = f i := by
  refine ext fun r => ⟨?_, fun hr => ⟨i, hr⟩⟩
  rintro ⟨j, hr⟩
  by_cases hj : j = i
  · exact hj ▸ hr
  · rw [h j hj] at hr
    exact absurd hr not_mem_zero

/-- A condition leaves a set as it is or leaves nothing. -/
theorem mem_only_mul {p : Prop} : r ∈ only p * A ↔ p ∧ r ∈ A := by
  constructor
  · rintro ⟨_, ⟨hp, rfl⟩, a, ha, h⟩
    rw [Row.empty_merge] at h
    exact ⟨hp, Option.some.inj h ▸ ha⟩
  · rintro ⟨hp, hr⟩
    exact ⟨.empty, ⟨hp, rfl⟩, r, hr, Row.empty_merge r⟩

/-- A family with a condition that only one set fulfils. -/
theorem any_mul_only (f : ι → RowSet) (i : ι) : (any fun j => f j * only (j = i)) = f i :=
  ext fun r => by simp [mul_comm _ (only _), mem_only_mul]

/-- The empty row joined with itself. -/
theorem empty_mem_mul (hA : .empty ∈ A) (hB : .empty ∈ B) : .empty ∈ A * B :=
  ⟨.empty, hA, .empty, hB, Row.empty_merge _⟩

/-- Two conditions are one after the other. -/
theorem only_and (p q : Prop) : only (p ∧ q) = only p * only q :=
  ext fun r => by rw [mem_only_mul, mem_only, mem_only, and_assoc]

/-- A condition that something is so is a family of conditions. -/
theorem only_exists (p : ι → Prop) : only (∃ i, p i) = any fun i => only (p i) :=
  ext fun r => by simp

/-- A variable has one term only. -/
theorem single_mul_single_of_ne (v : Variable) {t u : Term} (h : t ≠ u) :
    single v t * single v u = 0 := by
  refine ext fun r => ⟨?_, fun hr => absurd hr not_mem_zero⟩
  rintro ⟨a, rfl, b, rfl, hm⟩
  obtain ⟨ha, hb, -⟩ := Row.merge_eq_some_iff.1 hm
  have ht := ha v t (by simp [VariableMap.get?_insert])
  have hu := hb v u (by simp [VariableMap.get?_insert])
  exact absurd (Option.some.inj (ht.symm.trans hu)) h

/-- A variable that has a term has it. -/
theorem single_mul_single (v : Variable) (t : Term) : single v t * single v t = single v t := by
  have hm : Row.merge (VariableMap.empty.insert v t) (VariableMap.empty.insert v t) =
      some (VariableMap.empty.insert v t) :=
    Row.merge_eq_some_iff.2 ⟨.refl _, .refl _, fun _ h => .inl h⟩
  refine ext fun r => ⟨?_, ?_⟩
  · rintro ⟨a, rfl, b, rfl, h⟩
    exact Option.some.inj (h.symm.trans hm)
  · rintro rfl
    exact ⟨_, rfl, _, rfl, hm⟩

/-- The rows with a property. -/
def keep (p : Row → Prop) (A : RowSet) : RowSet := of fun r => r ∈ A ∧ p r

/-- A row that is kept. -/
@[simp] theorem mem_keep {p : Row → Prop} : r ∈ keep p A ↔ r ∈ A ∧ p r := .rfl

/-- What is kept of a family. -/
theorem keep_any (p : Row → Prop) (f : ι → RowSet) : keep p (any f) = any fun i => keep p (f i) :=
  ext fun r => by simp

/-- What is kept of what is kept. -/
theorem keep_keep (p q : Row → Prop) (A : RowSet) :
    keep p (keep q A) = keep (fun r => q r ∧ p r) A :=
  ext fun r => by simp [and_assoc]

/-- No condition leaves a set as it is. -/
theorem keep_of_forall {p : Row → Prop} (h : ∀ r, p r) (A : RowSet) : keep p A = A :=
  ext fun r => by simp [h]

/-- A condition on a variable decides on all rows that bind it to one term. -/
theorem keep_single_mul {p : Row → Prop} {v : Variable} {t : Term} {c : Prop}
    (h : ∀ r, r.get? v = some t → (p r ↔ c)) (A : RowSet) :
    keep p (single v t * A) = only c * (single v t * A) := by
  have hv : ∀ r ∈ single v t * A, r.get? v = some t := by
    rintro r ⟨_, rfl, a, -, hr⟩
    exact (Row.merge_eq_some_iff.1 hr).1 v t (by simp [VariableMap.get?_insert])
  refine ext fun r => ?_
  rw [mem_keep, mem_only_mul, and_comm]
  exact and_congr_left fun hr => h r (hv r hr)

/-- The rows with the listed variables only. -/
def project (A : RowSet) (kept : List Variable) : RowSet :=
  of fun r => ∃ a ∈ A, Row.project a kept = r

/-! ## Variables -/

variable {V W : Set Variable}

/-- No row binds other variables. -/
def Within (A : RowSet) (V : Set Variable) : Prop := ∀ r ∈ A, ∀ v, r.binds v = true → v ∈ V

/-- A join binds the variables of both sets. -/
theorem Within.mul (hA : A.Within V) (hB : B.Within V) : (A * B).Within V := by
  rintro r ⟨a, ha, b, hb, h⟩ v hv
  rcases (Row.merge_eq_some_iff.1 h).2.2 v hv with hv | hv
  · exact hA a ha v hv
  · exact hB b hb v hv

/-- A union binds the variables of both sets. -/
theorem Within.add (hA : A.Within V) (hB : B.Within V) : (A + B).Within V :=
  fun r hr v hv => hr.elim (hA r · v hv) (hB r · v hv)

/-- A family binds the variables of its sets. -/
theorem Within.any {f : ι → RowSet} (h : ∀ i, (f i).Within V) : (any f).Within V :=
  fun r ⟨i, hr⟩ v hv => h i r hr v hv

/-- The empty set binds nothing. -/
theorem within_zero : (0 : RowSet).Within V := fun _ hr => absurd hr not_mem_zero

/-- The empty row binds nothing. -/
theorem within_only (p : Prop) : (only p).Within V := by
  rintro r ⟨-, rfl⟩ v hv
  exact absurd hv (by simp)

/-- The empty row binds nothing. -/
theorem within_one : (1 : RowSet).Within V := by
  rintro r rfl v hv
  exact absurd hv (by simp)

/-- One variable is bound. -/
theorem within_single {v : Variable} (t : Term) (h : v ∈ V) : (single v t).Within V := by
  rintro r rfl w hw
  by_cases hwv : w = v
  · exact hwv ▸ h
  · simp [VariableMap.binds, VariableMap.get?_insert, hwv] at hw

/-! ## Sets of rows that bind certain variables -/

/-- The rows that bind exactly these variables and have a property. -/
def exactly (V : Set Variable) (p : Row → Prop) : RowSet :=
  of fun r => (∀ v, r.binds v = true ↔ v ∈ V) ∧ p r

/-- A family of properties of rows that bind the same variables. -/
theorem any_exactly (V : Set Variable) (p : ι → Row → Prop) :
    (any fun i => exactly V (p i)) = exactly V fun r => ∃ i, p i r :=
  ext fun r => by simp [exactly]

/-- A condition is a property of every row. -/
theorem only_mul_exactly (V : Set Variable) (c : Prop) (p : Row → Prop) :
    only c * exactly V p = exactly V fun r => c ∧ p r :=
  ext fun r => by simp [exactly, mem_only_mul, and_left_comm]

/-- If the properties are about these variables, a join has both for the variables of both. -/
theorem exactly_mul {p q : Row → Prop} (hp : ∀ a b, Row.Agree V a b → (p a ↔ p b))
    (hq : ∀ a b, Row.Agree W a b → (q a ↔ q b)) :
    exactly V p * exactly W q = exactly (V ∪ W) fun r => p r ∧ q r := by
  have hagree : ∀ {a r : Row} {U : Set Variable}, r.Extends a → (∀ v, a.binds v = true ↔ v ∈ U) →
      Row.Agree U a r := by
    intro a r U hr ha v hv
    obtain ⟨t, ht⟩ := VariableMap.binds_iff.1 ((ha v).2 hv)
    rw [ht, hr v t ht]
  refine ext fun r => ⟨?_, ?_⟩
  · rintro ⟨a, ⟨ha, hpa⟩, b, ⟨hb, hqb⟩, h⟩
    obtain ⟨hra, hrb, hr⟩ := Row.merge_eq_some_iff.1 h
    refine ⟨fun v => ⟨fun hv => ?_, ?_⟩, (hp a r (hagree hra ha)).1 hpa,
      (hq b r (hagree hrb hb)).1 hqb⟩
    · exact (hr v hv).imp (ha v).1 (hb v).1
    · rintro (hv | hv)
      · obtain ⟨t, ht⟩ := VariableMap.binds_iff.1 ((ha v).2 hv)
        exact VariableMap.binds_iff.2 ⟨t, hra v t ht⟩
      · obtain ⟨t, ht⟩ := VariableMap.binds_iff.1 ((hb v).2 hv)
        exact VariableMap.binds_iff.2 ⟨t, hrb v t ht⟩
  · rintro ⟨hr, hpr, hqr⟩
    -- The row consists of its parts for the one and for the other variables.
    classical
    let part (U : Set Variable) : Row := VariableMap.filter (fun v => decide (v ∈ U)) r
    have hget : ∀ U v, (part U).get? v = if v ∈ U then r.get? v else none := fun U v => by
      simp [part, VariableMap.get?_filter]
    have hextends : ∀ U, r.Extends (part U) := fun U v t ht => by
      rw [hget] at ht
      split at ht
      · exact ht
      · exact absurd ht (by simp)
    have hbinds : ∀ U ⊆ V ∪ W, ∀ v, (part U).binds v = true ↔ v ∈ U := fun U hU v => by
      by_cases hv : v ∈ U
      · simpa [VariableMap.binds, hget, hv] using (hr v).2 (hU hv)
      · simp [VariableMap.binds, hget, hv]
    have hV := hbinds V Set.subset_union_left
    have hW := hbinds W Set.subset_union_right
    refine ⟨part V, ⟨hV, (hp _ r (hagree (hextends V) hV)).2 hpr⟩, part W,
      ⟨hW, (hq _ r (hagree (hextends W) hW)).2 hqr⟩,
      Row.merge_eq_some_iff.2 ⟨hextends V, hextends W, fun v hv => ?_⟩⟩
    exact ((hr v).1 hv).imp (hV v).2 (hW v).2

/-! ## Sets that are the same on some variables -/

/-- Every row of the one set agrees on these variables with one of the other. -/
def Covered (V : Set Variable) (A B : RowSet) : Prop := ∀ a ∈ A, ∃ b ∈ B, Row.Agree V a b

/-- A join is covered if one of its sets is and the other one binds no other variables. -/
theorem Covered.mul (h : Covered V A A') (hB : B.Within V) : Covered V (A * B) (A' * B) := by
  rintro r ⟨a, ha, b, hb, hr⟩
  obtain ⟨a', ha', hagree⟩ := h a ha
  have hcompatible : Row.compatible a' b = true := by
    refine Row.compatible_iff.2 fun v t u ht hu => ?_
    have hv : v ∈ V := hB b hb v (VariableMap.binds_iff.2 ⟨u, hu⟩)
    have hab : Row.compatible a b = true := by rw [← Row.isSome_merge, hr, Option.isSome_some]
    exact Row.compatible_iff.1 hab v t u ((hagree v hv).trans ht) hu
  obtain ⟨r', hr'⟩ := Option.isSome_iff_exists.1 ((Row.isSome_merge a' b).trans hcompatible)
  refine ⟨r', ⟨a', ha', b, hb, hr'⟩, fun v hv => ?_⟩
  rw [Row.get?_of_merge hr, Row.get?_of_merge hr', hagree v hv]

/-- The sets have the same rows, as far as these variables are concerned. -/
structure SameOn (V : Set Variable) (A B : RowSet) : Prop where
  /-- Every row of the first set agrees with one of the second. -/
  left : Covered V A B
  /-- Every row of the second set agrees with one of the first. -/
  right : Covered V B A

namespace SameOn

/-- A set is the same as itself. -/
theorem refl (V : Set Variable) (A : RowSet) : SameOn V A A :=
  ⟨fun a ha => ⟨a, ha, .refl V a⟩, fun a ha => ⟨a, ha, .refl V a⟩⟩

/-- Sets that are equal are the same. -/
theorem of_eq (h : A = B) : SameOn V A B := h ▸ refl V A

/-- A set is the same as what another one is the same as. -/
theorem trans (h : SameOn V A B) (h' : SameOn V B C) : SameOn V A C := by
  constructor
  · intro a ha
    obtain ⟨b, hb, hab⟩ := h.left a ha
    obtain ⟨c, hc, hbc⟩ := h'.left b hb
    exact ⟨c, hc, hab.trans hbc⟩
  · intro c hc
    obtain ⟨b, hb, hcb⟩ := h'.right c hc
    obtain ⟨a, ha, hba⟩ := h.right b hb
    exact ⟨a, ha, hcb.trans hba⟩

/-- Sets that are the same on some variables are so on fewer. -/
theorem mono (h : SameOn W A B) (hVW : V ⊆ W) : SameOn V A B where
  left a ha := (h.left a ha).imp fun _ hb => hb.imp_right (·.mono hVW)
  right b hb := (h.right b hb).imp fun _ ha => ha.imp_right (·.mono hVW)

/-- Joins with rows that bind no other variables are the same. -/
theorem mul_right (h : SameOn V A A') (hB : B.Within V) : SameOn V (A * B) (A' * B) :=
  ⟨h.left.mul hB, h.right.mul hB⟩

/-- Joins with rows that bind no other variables are the same. -/
theorem mul_left (h : SameOn V A A') (hB : B.Within V) : SameOn V (B * A) (B * A') := by
  simpa only [mul_comm B] using h.mul_right hB

/-- Unions are the same set by set. -/
theorem add (hA : SameOn V A A') (hB : SameOn V B B') : SameOn V (A + B) (A' + B') where
  left r hr := hr.elim (fun ha => (hA.left r ha).imp fun _ h => h.imp_left .inl)
    fun hb => (hB.left r hb).imp fun _ h => h.imp_left .inr
  right r hr := hr.elim (fun ha => (hA.right r ha).imp fun _ h => h.imp_left .inl)
    fun hb => (hB.right r hb).imp fun _ h => h.imp_left .inr

/-- Unions of families are the same set by set. -/
theorem any {f g : ι → RowSet} (h : ∀ i, SameOn V (f i) (g i)) : SameOn V (any f) (any g) where
  left r hr := hr.elim fun i hr => ((h i).left r hr).imp fun _ h => h.imp_left fun hb => ⟨i, hb⟩
  right r hr := hr.elim fun i hr => ((h i).right r hr).imp fun _ h => h.imp_left fun hb => ⟨i, hb⟩

/-- A condition on these variables keeps sets the same. -/
theorem keep {p : Row → Prop} (h : SameOn V A B) (hp : ∀ a b, Row.Agree V a b → (p a ↔ p b)) :
    SameOn V (keep p A) (keep p B) where
  left := by
    rintro a ⟨ha, hpa⟩
    obtain ⟨b, hb, hab⟩ := h.left a ha
    exact ⟨b, ⟨hb, (hp a b hab).1 hpa⟩, hab⟩
  right := by
    rintro b ⟨hb, hpb⟩
    obtain ⟨a, ha, hba⟩ := h.right b hb
    exact ⟨a, ⟨ha, (hp b a hba).1 hpb⟩, hba⟩

end SameOn

/-- A variable that is joined to rows which do not bind it may be left out. -/
theorem sameOn_single_mul {v : Variable} (t : Term) (hA : A.Within V) (hv : v ∉ V) :
    SameOn V (single v t * A) A := by
  have hmerge : ∀ a ∈ A, ∃ r, Row.merge (VariableMap.empty.insert v t) a = some r ∧
      Row.Agree V r a := by
    intro a ha
    have hcompatible : Row.compatible (VariableMap.empty.insert v t) a = true := by
      refine Row.compatible_of_disjoint fun w hw => ?_
      obtain rfl : w = v := by
        by_contra hne
        simp [VariableMap.binds, VariableMap.get?_insert, hne] at hw
      exact Bool.eq_false_iff.2 fun hb => hv (hA a ha w hb)
    obtain ⟨r, hr⟩ := Option.isSome_iff_exists.1 ((Row.isSome_merge _ a).trans hcompatible)
    refine ⟨r, hr, fun w hw => ?_⟩
    have hne : w ≠ v := fun heq => hv (heq ▸ hw)
    rw [Row.get?_of_merge hr, VariableMap.get?_insert, if_neg hne]
    simp
  constructor
  · rintro r ⟨_, rfl, a, ha, hr⟩
    obtain ⟨r', hr', hagree⟩ := hmerge a ha
    obtain rfl := Option.some.inj (hr.symm.trans hr')
    exact ⟨a, ha, hagree⟩
  · intro a ha
    obtain ⟨r, hr, hagree⟩ := hmerge a ha
    exact ⟨r, ⟨_, rfl, a, ha, hr⟩, hagree.symm⟩

/-- A set that is the same as one that binds these variables only becomes that set when the other
variables are left out. -/
theorem project_eq {kept : List Variable} (h : SameOn {v | v ∈ kept} A B)
    (hB : B.Within {v | v ∈ kept}) : A.project kept = B := by
  refine ext fun r => ⟨?_, fun hr => ?_⟩
  · rintro ⟨a, ha, rfl⟩
    obtain ⟨b, hb, hab⟩ := h.left a ha
    rwa [Row.project_eq_of_agree hab (hB b hb)]
  · obtain ⟨a, ha, hra⟩ := h.right r hr
    exact ⟨a, ha, Row.project_eq_of_agree hra.symm (hB r hr)⟩

end RowSet

end PagedSparql
