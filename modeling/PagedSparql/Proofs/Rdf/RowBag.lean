import Mathlib.Data.Multiset.Bind
import PagedSparql.Proofs.Rdf.RowSet

/-!
# Bags of rows

Rows that are counted. As with sets of rows (`RowSet`) the product of two bags is their join and the
sum is their union, but each way in which a row comes about counts. Bags of rows are a commutative
semiring too; its operations are in the scope of `RowBag`.

A function that gives a bag for each row gives one for a bag of rows, by `Multiset.bind`. Joining a
row with a fixed bag is such a function, and joins of that kind may be made in any order.
-/

namespace PagedSparql

namespace Row

/-- A row that extends another one is what they make together. -/
theorem merge_of_extends {r u : Row} (h : r.Extends u) : merge u r = some r :=
  merge_eq_some_iff.2 ⟨h, .refl r, fun _ hv => .inr hv⟩

open Classical in
/-- The bindings of all variables but those of a set. -/
noncomputable def hide (H : Set Variable) (r : Row) : Row :=
  VariableMap.filter (fun v => decide (v ∉ H)) r

/-- A hidden variable has no term; the others keep theirs. -/
theorem get?_hide_eq_some_iff {H : Set Variable} {r : Row} {v : Variable} {t : Term} :
    (r.hide H).get? v = some t ↔ v ∉ H ∧ r.get? v = some t := by
  classical
  rw [hide, VariableMap.get?_filter]
  by_cases hv : v ∈ H <;> simp [hv]

/-- Only hidden variables are lost. -/
theorem binds_hide_iff {H : Set Variable} {r : Row} {v : Variable} :
    (r.hide H).binds v = true ↔ v ∉ H ∧ r.binds v = true := by
  simp only [VariableMap.binds_iff, get?_hide_eq_some_iff, exists_and_left]

/-- A row extends what is left of it. -/
theorem extends_hide (H : Set Variable) (r : Row) : r.Extends (r.hide H) :=
  fun _ _ h => (get?_hide_eq_some_iff.1 h).2

/-- What is left of rows extends what is left of those that they extend. -/
theorem Extends.hide {r u : Row} (h : r.Extends u) (H : Set Variable) :
    (r.hide H).Extends (u.hide H) := fun v t ht =>
  get?_hide_eq_some_iff.2 ((get?_hide_eq_some_iff.1 ht).imp_right (h v t))

/-- A row that binds no hidden variable stays as it is. -/
theorem hide_of_disjoint {H : Set Variable} {r : Row} (h : ∀ v, r.binds v = true → v ∉ H) :
    r.hide H = r := by
  refine VariableMap.ext_get? fun v => Option.ext fun t => ?_
  rw [get?_hide_eq_some_iff]
  exact and_iff_right_of_imp fun ht => h v (VariableMap.binds_iff.2 ⟨t, ht⟩)

/-- Variables may be hidden in two goes. -/
theorem hide_hide (H H' : Set Variable) (r : Row) : (r.hide H).hide H' = r.hide (H ∪ H') := by
  refine VariableMap.ext_get? fun v => Option.ext fun t => ?_
  simp only [get?_hide_eq_some_iff, Set.mem_union]
  tauto

/-- A function that keeps rows compatible or incompatible may be applied before or after they are
merged, if it may be for compatible rows. -/
theorem map_merge {g : Row → Row} {a b : Row} (hcompatible : compatible (g a) (g b) = compatible a b)
    (h : ∀ c, merge a b = some c → merge (g a) (g b) = some (g c)) :
    (merge a b).map g = merge (g a) (g b) := by
  cases hm : merge a b with
  | some c => exact (h c hm).symm
  | none =>
    have hnone : (merge (g a) (g b)).isNone = true := by
      rw [← Option.not_isSome, isSome_merge, hcompatible, ← isSome_merge, hm]
      rfl
    rw [Option.map_none, Option.isNone_iff_eq_none.1 hnone]

/-- What rows make together when variables are hidden that at most one of them binds. -/
theorem map_hide_merge {H : Set Variable} {a b : Row}
    (h : ∀ v ∈ H, a.binds v = true → b.binds v = false) :
    (merge a b).map (hide H) = merge (a.hide H) (b.hide H) := by
  have hcompatible : compatible (a.hide H) (b.hide H) = compatible a b := by
    rw [Bool.eq_iff_iff, compatible_iff, compatible_iff]
    constructor
    · intro hall v t u ht hu
      by_cases hv : v ∈ H
      · have hb := h v hv (VariableMap.binds_iff.2 ⟨t, ht⟩)
        rw [VariableMap.binds_eq_false_iff, hu] at hb
        exact absurd hb (by simp)
      · exact hall v t u (get?_hide_eq_some_iff.2 ⟨hv, ht⟩) (get?_hide_eq_some_iff.2 ⟨hv, hu⟩)
    · exact fun hall v t u ht hu =>
        hall v t u (get?_hide_eq_some_iff.1 ht).2 (get?_hide_eq_some_iff.1 hu).2
  refine map_merge hcompatible fun c hm => ?_
  obtain ⟨ha, hb, hbinds⟩ := merge_eq_some_iff.1 hm
  refine merge_eq_some_iff.2 ⟨ha.hide H, hb.hide H, fun v hv => ?_⟩
  rw [binds_hide_iff] at hv
  rw [binds_hide_iff, binds_hide_iff]
  exact (hbinds v hv.2).imp (⟨hv.1, ·⟩) (⟨hv.1, ·⟩)

/-- What rows make together under new names that keep their variables apart. -/
theorem map_rename_merge {f : Variable → Variable} {V : Set Variable} (hf : Set.InjOn f V)
    {a b : Row} (ha : ∀ v, a.binds v = true → v ∈ V) (hb : ∀ v, b.binds v = true → v ∈ V) :
    (merge a b).map (rename f) = merge (a.rename f) (b.rename f) := by
  have hget : ∀ {r : Row}, (∀ v, r.binds v = true → v ∈ V) → ∀ {w : Variable} {t : Term},
      (r.rename f).get? w = some t ↔ ∃ v, f v = w ∧ r.get? v = some t := fun hr =>
    get?_rename_iff (hf.mono hr)
  have hbound : ∀ {r : Row}, (∀ v, r.binds v = true → v ∈ V) → ∀ {v : Variable} {t : Term},
      r.get? v = some t → v ∈ V := fun hr v t ht => hr v (VariableMap.binds_iff.2 ⟨t, ht⟩)
  -- an injective renaming brings no two bindings together, so it changes no conflict
  have hcompatible : compatible (a.rename f) (b.rename f) = compatible a b := by
    rw [Bool.eq_iff_iff, compatible_iff, compatible_iff]
    constructor
    · exact fun hall v t u ht hu =>
        hall (f v) t u ((hget ha).2 ⟨v, rfl, ht⟩) ((hget hb).2 ⟨v, rfl, hu⟩)
    · intro hall w t u ht hu
      obtain ⟨v, hv, hvt⟩ := (hget ha).1 ht
      obtain ⟨v', hv', hvu⟩ := (hget hb).1 hu
      obtain rfl := hf (hbound ha hvt) (hbound hb hvu) (hv.trans hv'.symm)
      exact hall v t u hvt hvu
  refine map_merge hcompatible fun c hm => ?_
  obtain ⟨hca, hcb, hbinds⟩ := merge_eq_some_iff.1 hm
  have hc : ∀ v, c.binds v = true → v ∈ V := fun v hv => (hbinds v hv).elim (ha v) (hb v)
  refine merge_eq_some_iff.2 ⟨fun w t ht => ?_, fun w t ht => ?_, fun w hw => ?_⟩
  · obtain ⟨v, hv, ht⟩ := (hget ha).1 ht
    exact (hget hc).2 ⟨v, hv, hca v t ht⟩
  · obtain ⟨v, hv, ht⟩ := (hget hb).1 ht
    exact (hget hc).2 ⟨v, hv, hcb v t ht⟩
  · obtain ⟨t, ht⟩ := VariableMap.binds_iff.1 hw
    obtain ⟨v, hvw, hvt⟩ := (hget hc).1 ht
    refine (hbinds v (VariableMap.binds_iff.2 ⟨t, hvt⟩)).imp (fun hv => ?_) fun hv => ?_
    · obtain ⟨x, hx⟩ := VariableMap.binds_iff.1 hv
      exact VariableMap.binds_iff.2 ⟨x, (hget ha).2 ⟨v, hvw, hx⟩⟩
    · obtain ⟨x, hx⟩ := VariableMap.binds_iff.1 hv
      exact VariableMap.binds_iff.2 ⟨x, (hget hb).2 ⟨v, hvw, hx⟩⟩

/-- Nothing is seen of a renaming that keeps the names of all variables but hidden ones, and gives
hidden names to these. -/
theorem hide_rename {f : Variable → Variable} {H : Set Variable} {r : Row}
    (hf : Set.InjOn f {v | r.binds v = true})
    (h : ∀ v, r.binds v = true → f v = v ∨ v ∈ H ∧ f v ∈ H) : (r.rename f).hide H = r.hide H := by
  refine VariableMap.ext_get? fun w => Option.ext fun t => ?_
  rw [get?_hide_eq_some_iff, get?_hide_eq_some_iff, get?_rename_iff hf]
  refine and_congr_right fun hw => ⟨?_, fun ht => ⟨w, ?_, ht⟩⟩
  · rintro ⟨v, rfl, ht⟩
    rcases h v (VariableMap.binds_iff.2 ⟨t, ht⟩) with hv | hv
    · rwa [hv]
    · exact absurd hv.2 hw
  · exact (h w (VariableMap.binds_iff.2 ⟨t, ht⟩)).resolve_right fun hv => hw hv.1

end Row

/-! ## The semiring -/

namespace RowBag

/-- The join of two bags: the rows that a row of the one and a row of the other make together. -/
def join (A B : Multiset Row) : Multiset Row := A.bind fun a => B.filterMap (Row.merge a)

/-- What two rows make together, as a bag. -/
theorem filterMap_merge (B : Multiset Row) (a : Row) : B.filterMap (Row.merge a) =
    B.bind fun b => ((Row.merge a b).map singleton).getD 0 := Multiset.filterMap_eq_bind B _

/-- Joins do not depend on the order. -/
theorem join_comm (A B : Multiset Row) : join A B = join B A := by
  simp only [join, filterMap_merge]
  rw [Multiset.bind_bind]
  simp only [Row.merge_comm]

/-- A bag is joined with the bag of a row. -/
theorem bind_filterMap_merge (B C : Multiset Row) (a : Row) :
    (B.filterMap (Row.merge a)).bind (fun ab => C.filterMap (Row.merge ab)) =
      (B.bind fun b => C.filterMap (Row.merge b)).filterMap (Row.merge a) := by
  rw [Multiset.filterMap_bind, Multiset.filterMap_eq_bind, Multiset.bind_assoc]
  refine Multiset.bind_congr fun b _ => ?_
  rw [Multiset.filterMap_filterMap, ← funext (Row.bind_merge a b)]
  cases Row.merge a b with
  | none =>
    have hzero : C.filterMap (fun _ => (none : Option Row)) = 0 := by
      rw [Multiset.filterMap_eq_bind]
      exact Multiset.bind_zero C
    simpa using hzero.symm
  | some ab => exact Multiset.singleton_bind _ _

/-- Joins may be made in another order. -/
theorem join_assoc (A B C : Multiset Row) : join (join A B) C = join A (join B C) := by
  simp only [join, Multiset.bind_assoc, bind_filterMap_merge]

/-- The empty row adds nothing. -/
theorem one_join (A : Multiset Row) : join {.empty} A = A := by
  rw [join, Multiset.singleton_bind, funext Row.empty_merge]
  exact Multiset.filterMap_some A

/-- A union is joined bag by bag. -/
theorem add_join (A B C : Multiset Row) : join (A + B) C = join A C + join B C :=
  Multiset.add_bind _ _ _

/-- Bags of rows with union and join. -/
scoped instance : CommSemiring (Multiset Row) where
  mul := join
  one := {.empty}
  mul_assoc := join_assoc
  mul_comm := join_comm
  one_mul := one_join
  mul_one A := (join_comm A _).trans (one_join A)
  zero_mul A := Multiset.zero_bind fun a => A.filterMap (Row.merge a)
  mul_zero A := Multiset.bind_zero A
  left_distrib A B C := by
    show join A (B + C) = join A B + join A C
    rw [join_comm, add_join, join_comm B, join_comm C]
  right_distrib := add_join
  nsmul := nsmulRec

variable {α : Type} {A B C : Multiset Row} {V W H : Set Variable} {r : Row}

/-- A row of a join is made of a row of the one bag and a row of the other. -/
theorem mem_mul : r ∈ A * B ↔ ∃ a ∈ A, ∃ b ∈ B, Row.merge a b = some r := by
  show r ∈ A.bind (fun a => B.filterMap (Row.merge a)) ↔ _
  simp only [Multiset.mem_bind, Multiset.mem_filterMap]

/-- The join with the bag of one row. -/
theorem singleton_mul (a : Row) (B : Multiset Row) : {a} * B = B.filterMap (Row.merge a) :=
  Multiset.singleton_bind _ _

/-- A bag is joined row by row. -/
theorem mul_eq_bind (A B : Multiset Row) : A * B = A.bind fun a => {a} * B := by
  simp only [singleton_mul]
  rfl

/-- What is made of the rows of a bag is joined row by row. -/
theorem bind_mul (M : Multiset α) (F : α → Multiset Row) (B : Multiset Row) :
    M.bind F * B = M.bind fun a => F a * B := Multiset.bind_assoc

/-- Rows that extend a row come from joining it with them. -/
theorem singleton_mul_of_extends {u : Row} (h : ∀ a ∈ A, a.Extends u) : {u} * A = A := by
  rw [singleton_mul, Multiset.filterMap_eq_bind]
  refine (Multiset.bind_congr fun a ha => ?_).trans (Multiset.bind_singleton A id) |>.trans
    (Multiset.map_id A)
  rw [Row.merge_of_extends (h a ha)]
  rfl

/-- A row makes itself with itself. -/
theorem singleton_mul_self (u : Row) : ({u} * {u} : Multiset Row) = {u} :=
  singleton_mul_of_extends fun _ ha => Multiset.mem_singleton.1 ha ▸ .refl u

/-- A row may be joined with each of two bags before. -/
theorem singleton_mul_mul (u : Row) (A B : Multiset Row) :
    {u} * (A * B) = {u} * A * ({u} * B) := by
  rw [← mul_mul_mul_comm, singleton_mul_self]

/-! ## Variables -/

/-- No row binds other variables. -/
def Within (A : Multiset Row) (V : Set Variable) : Prop :=
  ∀ r ∈ A, ∀ v, r.binds v = true → v ∈ V

/-- There may be more variables. -/
theorem Within.mono (h : Within A V) (hVW : V ⊆ W) : Within A W :=
  fun r hr v hv => hVW (h r hr v hv)

/-- The empty row binds nothing. -/
theorem within_one : Within 1 V := by
  intro r hr v hv
  rw [Multiset.mem_singleton.1 hr] at hv
  exact absurd hv (by simp)

/-- A join binds the variables of both bags. -/
theorem Within.mul (hA : Within A V) (hB : Within B V) : Within (A * B) V := by
  intro r hr v hv
  obtain ⟨a, ha, b, hb, h⟩ := mem_mul.1 hr
  exact ((Row.merge_eq_some_iff.1 h).2.2 v hv).elim (hA a ha v) (hB b hb v)

/-- A union binds the variables of both bags. -/
theorem Within.add (hA : Within A V) (hB : Within B V) : Within (A + B) V := fun r hr =>
  (Multiset.mem_add.1 hr).elim (hA r) (hB r)

/-- The rows bind exactly these variables. -/
def Over (A : Multiset Row) (V : Set Variable) : Prop :=
  ∀ r ∈ A, ∀ v, r.binds v = true ↔ v ∈ V

/-- The empty row binds nothing. -/
theorem over_one : Over 1 ∅ := by
  intro r hr v
  rw [Multiset.mem_singleton.1 hr]
  simp

/-- A join binds the variables of both bags. -/
theorem Over.mul (hA : Over A V) (hB : Over B W) : Over (A * B) (V ∪ W) := by
  intro r hr v
  obtain ⟨a, ha, b, hb, hmerge⟩ := mem_mul.1 hr
  have hbinds : r.binds v = (b.binds v || a.binds v) := by
    rw [VariableMap.binds, Row.get?_of_merge hmerge, Option.isSome_or]
    rfl
  rw [hbinds, Bool.or_eq_true, hA a ha v, hB b hb v, Set.mem_union, or_comm]

/-- There are no other variables. -/
theorem Over.within (hA : Over A V) : Within A V := fun r hr v hv => (hA r hr v).1 hv

/-- Bags over the same variables make one over them. -/
theorem Over.bind {M : Multiset α} {F : α → Multiset Row} (h : ∀ a ∈ M, Over (F a) V) :
    Over (M.bind F) V := by
  intro r hr
  obtain ⟨a, ha, hr⟩ := Multiset.mem_bind.1 hr
  exact h a ha r hr

/-- What is left when variables are hidden binds the others. -/
theorem Within.hide (h : Within A V) (H : Set Variable) : Within (A.map (Row.hide H)) (V \ H) := by
  intro r hr v hv
  obtain ⟨a, ha, rfl⟩ := Multiset.mem_map.1 hr
  obtain ⟨hH, hv⟩ := Row.binds_hide_iff.1 hv
  exact ⟨h a ha v hv, hH⟩

/-- Nothing is hidden in rows that bind none of the variables. -/
theorem map_hide_of_within (hA : Within A V) (h : ∀ v ∈ V, v ∉ H) : A.map (Row.hide H) = A :=
  (Multiset.map_congr rfl fun a ha => Row.hide_of_disjoint fun v hv => h v (hA a ha v hv)).trans
    (Multiset.map_id A)

/-- Variables may be hidden in two goes. -/
theorem map_hide_hide (A : Multiset Row) (H H' : Set Variable) :
    (A.map (Row.hide H)).map (Row.hide H') = A.map (Row.hide (H ∪ H')) := by
  rw [Multiset.map_map]
  exact Multiset.map_congr rfl fun a _ => Row.hide_hide H H' a

/-- A function that may be applied before or after rows are merged may be applied before or after
bags are joined. -/
theorem map_mul {g : Row → Row}
    (h : ∀ a ∈ A, ∀ b ∈ B, (Row.merge a b).map g = Row.merge (g a) (g b)) :
    (A * B).map g = A.map g * B.map g := by
  show (A.bind fun a => B.filterMap (Row.merge a)).map g =
    (A.map g).bind fun a => (B.map g).filterMap (Row.merge a)
  rw [Multiset.map_bind, Multiset.bind_map]
  refine Multiset.bind_congr fun a ha => ?_
  rw [Multiset.map_filterMap, Multiset.filterMap_map, Multiset.filterMap_eq_bind,
    Multiset.filterMap_eq_bind]
  refine Multiset.bind_congr fun b hb => ?_
  rw [h a ha b hb]
  rfl

/-- Variables that the rows of at most one bag bind may be hidden before bags are joined. -/
theorem map_hide_mul (hA : Within A V) (hB : Within B W) (h : ∀ v ∈ H, v ∈ V → v ∉ W) :
    (A * B).map (Row.hide H) = A.map (Row.hide H) * B.map (Row.hide H) :=
  map_mul fun a ha b hb => Row.map_hide_merge fun v hv hav =>
    Bool.eq_false_iff.2 fun hbv => h v hv (hA a ha v hav) (hB b hb v hbv)

/-- Variables that a row does not bind may be hidden before or after it is joined. -/
theorem singleton_mul_map_hide {u : Row} (hu : ∀ v, u.binds v = true → v ∉ H) (A : Multiset Row) :
    {u} * A.map (Row.hide H) = ({u} * A).map (Row.hide H) := by
  have hhide : ({u} : Multiset Row).map (Row.hide H) = {u} := by
    rw [Multiset.map_singleton, Row.hide_of_disjoint hu]
  rw [map_mul fun a ha b _ => Row.map_hide_merge fun v hv hav => ?_, hhide]
  rw [Multiset.mem_singleton.1 ha] at hav
  exact absurd hv (hu v hav)

/-- Bags may be joined under new names that keep their variables apart. -/
theorem map_rename_mul {f : Variable → Variable} (hf : Set.InjOn f V) (hA : Within A V)
    (hB : Within B V) : (A * B).map (Row.rename f) = A.map (Row.rename f) * B.map (Row.rename f) :=
  map_mul fun a ha b hb => Row.map_rename_merge hf (hA a ha) (hB b hb)

/-- A condition that only depends on the rows of the second bag may be applied before. -/
theorem filter_mul {p : Row → Prop} [DecidablePred p]
    (h : ∀ a ∈ A, ∀ b ∈ B, ∀ r, Row.merge a b = some r → (p r ↔ p b)) :
    (A * B).filter p = A * B.filter p := by
  show (A.bind fun a => B.filterMap (Row.merge a)).filter p =
    A.bind fun a => (B.filter p).filterMap (Row.merge a)
  rw [Multiset.filter_bind]
  refine Multiset.bind_congr fun a ha => ?_
  rw [Multiset.filterMap_eq_bind, Multiset.filter_bind, Multiset.filterMap_eq_bind,
    Multiset.filter_eq_bind, Multiset.bind_assoc]
  refine Multiset.bind_congr fun b hb => ?_
  cases hm : Row.merge a b with
  | none => by_cases hp : p b <;> simp [hp, hm]
  | some r => by_cases hp : p b <;> simp [hp, hm, h a ha b hb r hm]

/-- A condition that a function does not touch may be applied before it or after it. -/
theorem map_filter {p : Row → Prop} [DecidablePred p] {g : Row → Row}
    (h : ∀ r ∈ A, p (g r) ↔ p r) : (A.filter p).map g = (A.map g).filter p := by
  rw [Multiset.filter_map]
  exact congrArg _ (Multiset.filter_congr fun r hr => (h r hr).symm)

/-- What is made of a row, or the row itself if that is nothing. -/
def orKeep (u : Row) (M : Multiset Row) : Multiset Row := if M = 0 then {u} else M

/-- Something may be done before it is seen whether nothing was made. -/
theorem map_orKeep (g : Row → Row) (u : Row) (M : Multiset Row) :
    (orKeep u M).map g = orKeep (g u) (M.map g) := by
  by_cases hM : M = 0 <;> simp [orKeep, hM]

/-- A row is kept or made. -/
theorem mem_orKeep {u : Row} {M : Multiset Row} (h : r ∈ orKeep u M) : r = u ∨ r ∈ M := by
  unfold orKeep at h
  split at h
  · exact .inl (Multiset.mem_singleton.1 h)
  · exact .inr h

/-- The rows of which nothing is made are kept besides what is made of the others. -/
theorem bind_orKeep (A : Multiset Row) (F : Row → Multiset Row) :
    A.bind F + A.filter (fun u => F u = 0) = A.bind fun u => orKeep u (F u) := by
  rw [Multiset.filter_eq_bind, ← Multiset.bind_add]
  refine Multiset.bind_congr fun u _ => ?_
  by_cases hu : F u = 0 <;> simp [orKeep, hu]

end RowBag

end PagedSparql
