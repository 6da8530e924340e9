import Mathlib.Data.Multiset.Bind
import Mathlib.Tactic.Common
import PagedSparql.Rdf.Row

/-!
# Rows as partial functions

A row is determined by the terms of its variables (`VariableMap.ext_get?`), so what an operation on
rows does is said by what it does to these terms. This module says it for merging, for leaving
variables out, and for renaming, and derives the laws of merging that joins need: rows merge to the
row that extends both and binds nothing else (`Row.merge_eq_some_iff`), so the order in which rows
are merged does not matter, and the empty row adds nothing (`Row.merge_partial_monoid`).
-/

namespace PagedSparql

namespace VariableMap

variable {α : Type}

/-- A list of entries for different variables looks up exactly its entries. -/
theorem lookup_eq_some_iff {l : List (Variable × α)} (hl : l.Pairwise (fun a b => a.1 ≠ b.1))
    {v : Variable} {x : α} : l.lookup v = some x ↔ (v, x) ∈ l := by
  induction l with
  | nil => simp
  | cons e rest ih =>
    obtain ⟨w, y⟩ := e
    obtain ⟨hw, hrest⟩ := List.pairwise_cons.1 hl
    simp only [List.mem_cons, Prod.mk.injEq, List.lookup_cons]
    by_cases hv : v = w
    · subst hv
      have hnot : (v, x) ∉ rest := fun h => hw _ h rfl
      simp [hnot, eq_comm]
    · have hb : (v == w) = false := by simpa using hv
      simp [hb, hv, ih hrest]

/-- The entries of a map have different variables. -/
theorem entries_pairwise_ne (m : VariableMap α) : m.entries.Pairwise (fun a b => a.1 ≠ b.1) := by
  refine m.sorted.imp fun {a b} h heq => ?_
  rw [heq] at h
  exact String.lt_irrefl _ h

/-- The entries of a map are its values. -/
theorem mem_entries_iff {m : VariableMap α} {v : Variable} {x : α} :
    (v, x) ∈ m.entries ↔ m.get? v = some x :=
  (lookup_eq_some_iff m.entries_pairwise_ne).symm

/-- A variable is bound when it has a value. -/
theorem binds_iff {m : VariableMap α} {v : Variable} : m.binds v = true ↔ ∃ x, m.get? v = some x :=
  Option.isSome_iff_exists

/-- A variable is not bound when it has no value. -/
theorem binds_eq_false_iff {m : VariableMap α} {v : Variable} :
    m.binds v = false ↔ m.get? v = none := by
  simp [binds]

/-- The empty map binds nothing. -/
@[simp] theorem binds_empty (v : Variable) : (empty : VariableMap α).binds v = false := rfl

/-- A map without entries is the empty one. -/
theorem isEmpty_iff {m : VariableMap α} : m.isEmpty = true ↔ m = .empty :=
  ⟨fun h => ext_entries (List.isEmpty_iff.1 h), fun h => h ▸ rfl⟩

/-- A map that is not empty binds something. -/
theorem exists_binds {m : VariableMap α} (h : m ≠ .empty) : ∃ v x, m.get? v = some x := by
  obtain ⟨l, hl⟩ := m
  cases l with
  | nil => exact absurd rfl h
  | cons e rest => exact ⟨e.1, e.2, mem_entries_iff.1 List.mem_cons_self⟩

/-- An entry that a map has already changes nothing. -/
theorem insert_of_get? {m : VariableMap α} {v : Variable} {x : α} (h : m.get? v = some x) :
    m.insert v x = m := by
  refine ext_get? fun w => ?_
  rw [get?_insert]
  split
  · next hw => rw [hw, h]
  · rfl

/-- The value of a variable after several insertions, of which at most one is for it. -/
theorem get?_insertAll (m : VariableMap α) (v : Variable) (l : List (Variable × α))
    (hl : l.Pairwise (fun a b => a.1 ≠ b.1)) :
    (m.insertAll l).get? v = (l.lookup v).or (m.get? v) := by
  induction l generalizing m with
  | nil => simp [insertAll]
  | cons e rest ih =>
    obtain ⟨w, x⟩ := e
    obtain ⟨hw, hrest⟩ := List.pairwise_cons.1 hl
    have hstep : m.insertAll ((w, x) :: rest) = (m.insert w x).insertAll rest := rfl
    rw [hstep, ih _ hrest, get?_insert, List.lookup_cons]
    by_cases hv : v = w
    · subst hv
      have hnone : rest.lookup v = none :=
        List.lookup_eq_none_iff.2 fun e he => by simpa using hw e he
      simp [hnone]
    · have hb : (v == w) = false := by simpa using hv
      simp [hb, hv]

/-- The value of a variable in a map with all entries of another. -/
theorem get?_insertAll_entries (m n : VariableMap α) (v : Variable) :
    (m.insertAll n.entries).get? v = (n.get? v).or (m.get? v) :=
  get?_insertAll m v n.entries n.entries_pairwise_ne

/-- A list of entries for different variables makes the map of its entries. -/
theorem get?_ofList (v : Variable) (l : List (Variable × α))
    (hl : l.Pairwise (fun a b => a.1 ≠ b.1)) : (ofList l).get? v = l.lookup v := by
  rw [ofList, get?_insertAll _ _ _ hl]
  simp

end VariableMap

namespace Row

/-- Two rows are compatible when no variable has different terms in them. -/
theorem compatible_iff {a b : Row} :
    compatible a b = true ↔ ∀ v t u, a.get? v = some t → b.get? v = some u → t = u := by
  simp only [compatible, List.all_eq_true]
  constructor
  · intro h v t u ha hb
    have := h (v, t) (VariableMap.mem_entries_iff.2 ha)
    simp only [hb, Option.all_some, beq_iff_eq] at this
    exact this.symm
  · rintro h ⟨v, t⟩ he
    have ha := VariableMap.mem_entries_iff.1 he
    cases hb : b.get? v with
    | none => rfl
    | some u => simp [h v t u ha hb]

/-- Compatibility does not depend on the order. -/
theorem compatible_comm (a b : Row) : compatible a b = compatible b a := by
  rw [Bool.eq_iff_iff, compatible_iff, compatible_iff]
  exact ⟨fun h v t u ha hb => (h v u t hb ha).symm, fun h v t u ha hb => (h v u t hb ha).symm⟩

/-- Bindings for different variables are added to a row exactly when it gives none of their
variables another term. -/
theorem addAll?_eq_some_iff {r s : Row} {l : List (Variable × Term)}
    (hl : l.Pairwise (fun a b => a.1 ≠ b.1)) :
    addAll? r l = some s ↔
      (∀ e ∈ l, (r.get? e.1).all (· == e.2) = true) ∧ r.insertAll l = s := by
  induction l generalizing r with
  | nil => simp [addAll?, VariableMap.insertAll]
  | cons e rest ih =>
    obtain ⟨v, t⟩ := e
    obtain ⟨hv, hrest⟩ := List.pairwise_cons.1 hl
    have hstep : r.insertAll ((v, t) :: rest) = (r.insert v t).insertAll rest := rfl
    rw [addAll?, hstep, List.forall_mem_cons]
    cases hget : r.get? v with
    | some u =>
      by_cases hu : u = t
      · simp [ih hrest, VariableMap.insert_of_get? (hu ▸ hget), hu]
      · simp [hu]
    | none =>
      -- The other bindings are for other variables, which the new one leaves as they are.
      have hother : ∀ e ∈ rest, (r.insert v t).get? e.1 = r.get? e.1 := fun e he => by
        rw [VariableMap.get?_insert, if_neg (hv e he).symm]
      simp only [ih hrest, Option.all_none, true_and]
      exact and_congr_left' (forall₂_congr fun e he => by rw [hother e he])

/-- Compatible rows make the same row, whichever is added to the other. -/
theorem insertAll_comm {a b : Row} (h : compatible a b = true) :
    b.insertAll a.entries = a.insertAll b.entries := by
  refine VariableMap.ext_get? fun v => ?_
  rw [VariableMap.get?_insertAll_entries, VariableMap.get?_insertAll_entries]
  cases ha : a.get? v <;> cases hb : b.get? v <;> simp
  exact compatible_iff.1 h v _ _ ha hb

/-- Merging puts the bindings of compatible rows together, whichever has more of them. -/
theorem merge_eq_some_iff_insertAll {a b c : Row} :
    merge a b = some c ↔ compatible a b = true ∧ a.insertAll b.entries = c := by
  have hadd : ∀ {a b : Row}, addAll? b a.entries = some c ↔
      compatible a b = true ∧ b.insertAll a.entries = c := by
    intro a b
    rw [addAll?_eq_some_iff a.entries_pairwise_ne, compatible, List.all_eq_true]
  unfold merge
  split
  · rw [hadd]
    exact and_congr_right fun h => by rw [insertAll_comm h]
  · rw [hadd, compatible_comm]

/-- A merged row has the terms of both rows. -/
theorem get?_of_merge {a b c : Row} (h : merge a b = some c) (v : Variable) :
    c.get? v = (b.get? v).or (a.get? v) := by
  obtain ⟨-, rfl⟩ := merge_eq_some_iff_insertAll.1 h
  exact VariableMap.get?_insertAll_entries a b v

/-- Rows merge exactly when they are compatible. -/
theorem isSome_merge (a b : Row) : (merge a b).isSome = compatible a b := by
  rw [Bool.eq_iff_iff, Option.isSome_iff_exists]
  simp [merge_eq_some_iff_insertAll]

/-- Merging does not depend on the order. -/
theorem merge_comm (a b : Row) : merge a b = merge b a := by
  refine Option.ext fun c => ?_
  rw [merge_eq_some_iff_insertAll, merge_eq_some_iff_insertAll, compatible_comm b a]
  exact and_congr_right fun h => by rw [insertAll_comm h]

/-- The empty row adds nothing. -/
@[simp] theorem merge_empty (a : Row) : merge a .empty = some a := by
  have hc : compatible a .empty = true := by
    rw [compatible_iff]
    intro v t u _ hb
    simp at hb
  exact merge_eq_some_iff_insertAll.2 ⟨hc, rfl⟩

/-- The empty row adds nothing to another row. -/
@[simp] theorem empty_merge (a : Row) : merge .empty a = some a := by
  rw [merge_comm, merge_empty]

/-- Rows that bind different variables are compatible. -/
theorem compatible_of_disjoint {a b : Row} (h : ∀ v, a.binds v = true → b.binds v = false) :
    compatible a b = true := by
  rw [compatible_iff]
  intro v t u ha hb
  have := h v (VariableMap.binds_iff.2 ⟨t, ha⟩)
  rw [VariableMap.binds_eq_false_iff, hb] at this
  exact absurd this (by simp)

/-- Nothing is kept of a row without names to keep. -/
theorem project_nil (r : Row) : project r [] = .empty :=
  VariableMap.ext_entries (by simp [project, VariableMap.filter, VariableMap.empty])

/-- The row with its variables renamed. -/
def rename (f : Variable → Variable) (r : Row) : Row :=
  .ofList (r.entries.map fun e => (f e.1, e.2))

/-- A renaming that keeps the variables of a row apart keeps its entries apart. -/
theorem rename_pairwise_ne {f : Variable → Variable} {r : Row}
    (hf : Set.InjOn f {v | r.binds v = true}) :
    (r.entries.map fun e => (f e.1, e.2)).Pairwise (fun a b => a.1 ≠ b.1) := by
  rw [List.pairwise_map]
  refine r.entries_pairwise_ne.imp_of_mem fun {a b} ha hb hne heq => hne ?_
  exact hf (VariableMap.binds_iff.2 ⟨a.2, VariableMap.mem_entries_iff.1 ha⟩)
    (VariableMap.binds_iff.2 ⟨b.2, VariableMap.mem_entries_iff.1 hb⟩) heq

/-- A variable of a renamed row is the new name of a variable with the same term. -/
theorem get?_rename_iff {f : Variable → Variable} {r : Row}
    (hf : Set.InjOn f {v | r.binds v = true}) {w : Variable} {t : Term} :
    (rename f r).get? w = some t ↔ ∃ v, f v = w ∧ r.get? v = some t := by
  have hne := rename_pairwise_ne hf
  rw [rename, VariableMap.get?_ofList w _ hne, VariableMap.lookup_eq_some_iff hne]
  simp only [List.mem_map, Prod.mk.injEq]
  constructor
  · rintro ⟨⟨v, u⟩, he, rfl, rfl⟩
    exact ⟨v, rfl, VariableMap.mem_entries_iff.1 he⟩
  · rintro ⟨v, rfl, hv⟩
    exact ⟨(v, t), VariableMap.mem_entries_iff.2 hv, rfl, rfl⟩

/-- A row that is not empty is not empty under new names. -/
theorem rename_ne_empty {f : Variable → Variable} {r : Row}
    (hf : Set.InjOn f {v | r.binds v = true}) (hr : r ≠ .empty) : rename f r ≠ .empty := by
  intro h
  obtain ⟨v, t, hv⟩ := VariableMap.exists_binds hr
  have := (get?_rename_iff hf).2 ⟨v, rfl, hv⟩
  simp [h] at this

/-- A renaming is undone by the old names of the new ones. -/
theorem rename_rename {f old : Variable → Variable} {r : Row}
    (hold : ∀ v, r.binds v = true → old (f v) = v) : rename old (rename f r) = r := by
  have hf : Set.InjOn f {v | r.binds v = true} := by
    intro v hv w hw h
    rw [← hold v hv, h, hold w hw]
  have hback : Set.InjOn old {w | (rename f r).binds w = true} := by
    intro w hw x hx h
    obtain ⟨t, ht⟩ := VariableMap.binds_iff.1 hw
    obtain ⟨u, hu⟩ := VariableMap.binds_iff.1 hx
    obtain ⟨v, rfl, hv⟩ := (get?_rename_iff hf).1 ht
    obtain ⟨v', rfl, hv'⟩ := (get?_rename_iff hf).1 hu
    rw [hold v (VariableMap.binds_iff.2 ⟨t, hv⟩), hold v' (VariableMap.binds_iff.2 ⟨u, hv'⟩)] at h
    rw [h]
  refine VariableMap.ext_get? fun v => Option.ext fun t => ?_
  rw [get?_rename_iff hback]
  simp only [get?_rename_iff hf]
  constructor
  · rintro ⟨_, rfl, v', rfl, hv'⟩
    rwa [hold v' (VariableMap.binds_iff.2 ⟨t, hv'⟩)]
  · intro hv
    exact ⟨f v, hold v (VariableMap.binds_iff.2 ⟨t, hv⟩), v, rfl, hv⟩

/-- The row binds all that another row binds, to the same terms. -/
def Extends (r u : Row) : Prop := ∀ v t, u.get? v = some t → r.get? v = some t

/-- Every row extends itself. -/
theorem Extends.refl (r : Row) : r.Extends r := fun _ _ => id

/-- A row extends what a row that it extends does. -/
theorem Extends.trans {r u w : Row} (h : r.Extends u) (h' : u.Extends w) : r.Extends w :=
  fun v t hw => h v t (h' v t hw)

/-- A merged row extends the second row. -/
theorem extends_of_merge {a b c : Row} (h : merge a b = some c) : c.Extends b := by
  intro v t hv
  rw [get?_of_merge h, hv]
  rfl

/-- Rows that a row extends are compatible. -/
theorem compatible_of_extends {a b c : Row} (ha : c.Extends a) (hb : c.Extends b) :
    compatible a b = true :=
  compatible_iff.2 fun v t u ht hu => Option.some.inj ((ha v t ht).symm.trans (hb v u hu))

/-- Merging gives the row that extends both rows and binds nothing else. -/
theorem merge_eq_some_iff {a b c : Row} : merge a b = some c ↔
    c.Extends a ∧ c.Extends b ∧ ∀ v, c.binds v = true → a.binds v = true ∨ b.binds v = true := by
  constructor
  · intro h
    refine ⟨extends_of_merge (merge_comm a b ▸ h), extends_of_merge h, fun v hv => ?_⟩
    rw [VariableMap.binds, get?_of_merge h, Option.isSome_or, Bool.or_eq_true] at hv
    exact hv.symm
  · rintro ⟨ha, hb, hbinds⟩
    obtain ⟨d, hd⟩ := Option.isSome_iff_exists.1
      ((isSome_merge a b).trans (compatible_of_extends ha hb))
    rw [hd]
    refine congrArg some (VariableMap.ext_get? fun v => ?_)
    rw [get?_of_merge hd]
    cases hbv : b.get? v with
    | some u => exact (hb v u hbv).symm
    | none =>
      cases hav : a.get? v with
      | some t => exact (ha v t hav).symm
      | none =>
        refine (VariableMap.binds_eq_false_iff.1 (Bool.eq_false_iff.2 fun hv => ?_)).symm
        simpa [VariableMap.binds, hav, hbv] using hbinds v hv

/-- Rows may be merged in another order. -/
theorem merge_assoc {a b c ab abc : Row} (h : merge a b = some ab) (h' : merge ab c = some abc) :
    ∃ bc, merge b c = some bc ∧ merge a bc = some abc := by
  obtain ⟨ha, hb, hab⟩ := merge_eq_some_iff.1 h
  obtain ⟨hab', hc, habc⟩ := merge_eq_some_iff.1 h'
  obtain ⟨bc, hbc⟩ := Option.isSome_iff_exists.1
    ((isSome_merge b c).trans (compatible_of_extends (hab'.trans hb) hc))
  refine ⟨bc, hbc, merge_eq_some_iff.2 ⟨hab'.trans ha, fun v t ht => ?_, fun v hv => ?_⟩⟩
  · rw [get?_of_merge hbc, Option.or_eq_some_iff] at ht
    rcases ht with ht | ⟨-, ht⟩
    · exact hc v t ht
    · exact hab' v t (hb v t ht)
  · obtain ⟨-, -, hbinds⟩ := merge_eq_some_iff.1 hbc
    have hbc' : b.binds v = true ∨ c.binds v = true → bc.binds v = true := by
      simp [VariableMap.binds, get?_of_merge hbc, or_comm]
    rcases habc v hv with hv | hv
    · exact (hab v hv).imp_right fun hv => hbc' (.inl hv)
    · exact .inr (hbc' (.inr hv))

/-- Rows may be merged in another order. -/
theorem bind_merge (a b c : Row) : (merge a b).bind (merge · c) = (merge b c).bind (merge a) := by
  refine Option.ext fun r => ?_
  simp only [Option.bind_eq_some_iff]
  constructor
  · rintro ⟨ab, hab, habc⟩
    exact merge_assoc hab habc
  · rintro ⟨bc, hbc, habc⟩
    rw [merge_comm] at hbc habc
    obtain ⟨ab, hab, h⟩ := merge_assoc hbc habc
    exact ⟨ab, merge_comm b a ▸ hab, merge_comm c ab ▸ h⟩

/-- The rows bind a variable to different terms. -/
def Disagree (a b : Row) : Prop := ∃ v t u, a.get? v = some t ∧ b.get? v = some u ∧ t ≠ u

/-- Rows are compatible unless they disagree. -/
theorem compatible_eq_false_iff {a b : Row} : compatible a b = false ↔ Disagree a b := by
  rw [Bool.eq_false_iff, ne_eq, compatible_iff]
  simp only [Disagree, not_forall, exists_prop, ne_eq]

/-- A merged row is compatible with the rows that both rows are compatible with. -/
theorem compatible_merged {a b ab : Row} (h : merge a b = some ab) (c : Row) :
    compatible ab c = (compatible a c && compatible b c) := by
  rw [Bool.eq_iff_iff, Bool.and_eq_true, compatible_iff, compatible_iff, compatible_iff]
  obtain ⟨ha, hb, -⟩ := merge_eq_some_iff.1 h
  constructor
  · intro hall
    exact ⟨fun v t u ht => hall v t u (ha v t ht), fun v t u ht => hall v t u (hb v t ht)⟩
  · rintro ⟨hac, hbc⟩ v t u ht
    rw [get?_of_merge h, Option.or_eq_some_iff] at ht
    rcases ht with ht | ⟨-, ht⟩
    · exact hbc v t u ht
    · exact hac v t u ht

/-- Three rows merge exactly when any two of them are compatible. -/
theorem isSome_bind_merge (a b c : Row) :
    ((merge a b).bind (merge · c)).isSome =
      (compatible a b && (compatible b c && compatible a c)) := by
  rw [← isSome_merge a b, Bool.and_comm (compatible b c)]
  cases h : merge a b with
  | none => rfl
  | some ab =>
    rw [Option.bind_some, isSome_merge, compatible_merged h, Option.isSome_some, Bool.true_and]

/-- **Merging is a partial commutative monoid.** Rows merge exactly when they are compatible, and
then to the row that has the variables of both and agrees with both. The order does not matter, and
the empty row adds nothing. Three rows come to the same whichever two of them are merged first, and
to nothing just when two of them disagree on a variable. -/
theorem merge_partial_monoid (a b c : Row) :
    ((merge a b).isSome = compatible a b ∧ ∀ r, merge a b = some r →
      r.Extends a ∧ r.Extends b ∧ ∀ v, r.binds v = (a.binds v || b.binds v)) ∧
    merge a b = merge b a ∧
    (merge .empty a = some a ∧ merge a .empty = some a) ∧
    (merge a b).bind (merge · c) = (merge b c).bind (merge · a) ∧
    ((merge a b).bind (merge · c) = none ↔ Disagree a b ∨ Disagree b c ∨ Disagree a c) := by
  refine ⟨⟨isSome_merge a b, fun r hr => ?_⟩, merge_comm a b, ⟨empty_merge a, merge_empty a⟩,
    ?_, ?_⟩
  · obtain ⟨ha, hb, -⟩ := merge_eq_some_iff.1 hr
    refine ⟨ha, hb, fun v => ?_⟩
    rw [VariableMap.binds, get?_of_merge hr, Option.isSome_or, Bool.or_comm]
    rfl
  · rw [bind_merge, funext fun r => merge_comm r a]
  · rw [← Option.isNone_iff_eq_none, ← Option.not_isSome, isSome_bind_merge, Bool.not_eq_true',
      Bool.and_eq_false_iff, Bool.and_eq_false_iff]
    simp only [compatible_eq_false_iff]

/-- The first two rows merge and the last two do, but the first and the last disagree. -/
theorem merge_partial_monoid_sample :
    let a : Row := .ofList [(⟨"x"⟩, .string "1")]
    let b : Row := .ofList [(⟨"y"⟩, .string "2"), (⟨"z"⟩, .string "3")]
    let c : Row := .ofList [(⟨"x"⟩, .string "4")]
    (∃ r, merge a b = some r ∧ r.Extends a ∧ r.Extends b ∧
      ∀ v, r.binds v = (a.binds v || b.binds v)) ∧
    compatible b c = true ∧
    (merge a b).bind (merge · c) = none ∧ (merge b c).bind (merge · a) = none := by
  intro a b c
  obtain ⟨⟨hsome, hmerged⟩, -, -, hassoc, hnone⟩ := merge_partial_monoid a b c
  have hcompatible : compatible a b = true := by decide +kernel
  obtain ⟨r, hr⟩ := Option.isSome_iff_exists.1 (hsome.trans hcompatible)
  have hfails : (merge a b).bind (merge · c) = none :=
    hnone.2 (.inr (.inr ⟨⟨"x"⟩, .string "1", .string "4", by decide +kernel⟩))
  exact ⟨⟨r, hr, hmerged r hr⟩, by decide +kernel, hfails, hassoc ▸ hfails⟩

end Row

end PagedSparql
