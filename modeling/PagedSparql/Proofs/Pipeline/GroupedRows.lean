import Mathlib.Algebra.GroupWithZero.Nat
import Mathlib.Data.List.Forall2
import PagedSparql.Proofs.Pipeline.Production
import PagedSparql.Proofs.Pipeline.ListSemantics
import PagedSparql.Proofs.Rdf.RowSet

/-!
# Grouped rows

The groups of a list of rows are a partition of it (`Group.Partitions`): there is one for each value
of the keys, also for values that leave a key unbound, and each row is in exactly one of them, in
the order of the list. Without keys there is one group, even of no rows.

The row of a group is its key extended by the aggregates that have a value, if these have variables
of their own (`Fold.RowOf`): an aggregate without value leaves only its own variable unbound. So the
numbers that count whole rows add up to the length of the list (`Stage.groupBy_partitions`).
-/

namespace PagedSparql

/-! ## Partitions -/

/-- The groups are those of the rows of a list. -/
structure Group.Partitions (keys : List Variable) (U : List Row) (groups : List Group) : Prop where
  /-- There is one for each value of the keys, in the order of their first rows. -/
  keys_eq : groups.map Group.key =
    if keys.isEmpty then [.empty] else (U.map (Row.project · keys)).eraseDups
  /-- No two of them have the same key. -/
  nodup : (groups.map Group.key).Nodup
  /-- A group has the rows with its key, in their order. -/
  rows_eq : ∀ g ∈ groups, g.rows = U.filter fun r => Row.project r keys == g.key
  /-- Each row is in one group, as often as it is in the list. -/
  whole : (groups.flatMap Group.rows).Perm U

namespace Group

/-- The items with one of several values are those with the first value and those with the others.
-/
theorem flatMap_filter_perm {α β : Type} [DecidableEq β] (f : α → β) (l : List α) {values : List β}
    (h : values.Nodup) : (values.flatMap fun x => l.filter (f · == x)).Perm
      (l.filter fun a => values.contains (f a)) := by
  induction values with
  | nil => simp
  | cons x rest ih =>
    obtain ⟨hx, hrest⟩ := List.nodup_cons.1 h
    have hfirst : (l.filter fun a => (x :: rest).contains (f a)).filter (f · == x) =
        l.filter (f · == x) := by
      rw [List.filter_filter]
      exact List.filter_congr fun a _ => by grind
    have hothers : (l.filter fun a => (x :: rest).contains (f a)).filter (!f · == x) =
        l.filter fun a => rest.contains (f a) := by
      rw [List.filter_filter]
      exact List.filter_congr fun a _ => by grind
    have hsplit := List.filter_append_perm (f · == x)
      (l.filter fun a => (x :: rest).contains (f a))
    rw [hfirst, hothers] at hsplit
    exact ((ih hrest).append_left _).trans hsplit

/-- The groups of a list of rows partition it. -/
theorem partitions_classes (keys : List Variable) (U : List Row) :
    Partitions keys U (classes keys U) := by
  unfold classes
  split
  · next hkeys =>
    obtain rfl := List.isEmpty_iff.1 hkeys
    refine ⟨rfl, List.nodup_singleton _, fun g hg => ?_, by simp⟩
    obtain rfl := List.mem_singleton.1 hg
    simp [Row.project_nil]
  · next hkeys =>
    have hmap : ((U.map (Row.project · keys)).eraseDups.map fun key =>
        (⟨key, U.filter fun r => Row.project r keys == key⟩ : Group)).map Group.key =
          (U.map (Row.project · keys)).eraseDups := by
      simp [Function.comp_def]
    refine ⟨by rw [hmap, if_neg hkeys], by rw [hmap]; exact nodup_eraseDups _, fun g hg => ?_, ?_⟩
    · obtain ⟨key, -, rfl⟩ := List.mem_map.1 hg
      rfl
    · rw [List.flatMap_map]
      refine (flatMap_filter_perm (Row.project · keys) U (nodup_eraseDups _)).trans ?_
      rw [List.filter_eq_self.2]
      intro r hr
      simpa using ⟨r, hr, rfl⟩

/-- The key of a group binds keys only. -/
theorem Partitions.get?_key {keys : List Variable} {U : List Row} {groups : List Group}
    (h : Partitions keys U groups) {g : Group} (hg : g ∈ groups) {v : Variable} (hv : v ∉ keys) :
    g.key.get? v = none := by
  have hkey : g.key ∈ groups.map Group.key := List.mem_map_of_mem hg
  rw [h.keys_eq] at hkey
  split at hkey
  · rw [List.mem_singleton.1 hkey, VariableMap.get?_empty]
  · obtain ⟨r, -, hr⟩ := List.mem_map.1 (List.mem_eraseDups.1 hkey)
    rw [← hr, Row.get?_project, if_neg hv]

end Group

/-! ## Rows of groups -/

namespace Fold

variable {σ : Type} {now : DateTime}

/-- The row is that of a group: its key, extended by the aggregates that have a value in some
session. -/
structure RowOf (σ : Type) (now : DateTime) (folds : List Fold) (g : Group) (w : Row) : Prop where
  /-- An aggregate binds its variable to its value, or leaves it unbound if it has none. -/
  values : ∀ f ∈ folds, ∃ s : Session σ, w.get? f.target = (f.apply now g.rows s).1.toOption
  /-- The other variables are as in the key. -/
  others : ∀ v, (∀ f ∈ folds, f.target ≠ v) → w.get? v = g.key.get? v

/-- What is not aggregated stays as it is. -/
theorem get?_extend_of_ne {folds : List Fold} {v : Variable} (hv : ∀ f ∈ folds, f.target ≠ v)
    (rows : List Row) (r : Row) (s : Session σ) :
    (extend now rows folds r s).1.get? v = r.get? v := by
  induction folds generalizing r s with
  | nil => rfl
  | cons f rest ih =>
    have hrest : ∀ f' ∈ rest, f'.target ≠ v := fun f' hf' => hv f' (List.mem_cons_of_mem f hf')
    have hne : v ≠ f.target := (hv f List.mem_cons_self).symm
    rw [extend]
    rcases f.apply now rows s with ⟨_ | t, s'⟩
    · exact ih hrest r s'
    · rw [ih hrest, VariableMap.get?_insert, if_neg hne]

/-- An aggregate with a variable of its own binds it to its value. -/
theorem get?_extend {folds : List Fold} (h : (folds.map target).Nodup) {r : Row}
    (hr : ∀ f ∈ folds, r.get? f.target = none) {f : Fold} (hf : f ∈ folds) (rows : List Row)
    (s : Session σ) : ∃ s' : Session σ,
      (extend now rows folds r s).1.get? f.target = (f.apply now rows s').1.toOption := by
  induction folds generalizing r s with
  | nil => exact absurd hf List.not_mem_nil
  | cons g rest ih =>
    obtain ⟨hg, hrest⟩ := List.nodup_cons.1 h
    have hne : ∀ f' ∈ rest, f'.target ≠ g.target := fun f' hf' heq =>
      hg (heq ▸ List.mem_map_of_mem hf')
    have hr' : ∀ f' ∈ rest, r.get? f'.target = none := fun f' hf' =>
      hr f' (List.mem_cons_of_mem g hf')
    rw [extend]
    rcases hg : g.apply now rows s with ⟨e | t, s'⟩
    · -- The aggregate fails, and its variable stays unbound.
      rcases List.mem_cons.1 hf with rfl | hf
      · refine ⟨s, ?_⟩
        rw [get?_extend_of_ne hne, hr f List.mem_cons_self, hg]
        rfl
      · exact ih hrest hr' hf s'
    · rcases List.mem_cons.1 hf with rfl | hf
      · refine ⟨s, ?_⟩
        rw [get?_extend_of_ne hne, VariableMap.get?_insert, if_pos rfl, hg]
        rfl
      · refine ih hrest (fun f' hf' => ?_) hf s'
        rw [VariableMap.get?_insert, if_neg (hne f' hf'), hr' f' hf']

/-- The rows of groups whose keys bind no aggregated variable. -/
theorem forall₂_extendAll {folds : List Fold} (h : (folds.map target).Nodup) {groups : List Group}
    (hkeys : ∀ g ∈ groups, ∀ f ∈ folds, g.key.get? f.target = none) (s : Session σ) :
    List.Forall₂ (RowOf σ now folds) groups (extendAll now folds groups s).1 := by
  induction groups generalizing s with
  | nil => exact .nil
  | cons g rest ih =>
    obtain ⟨hg, hrest⟩ := List.forall_mem_cons.1 hkeys
    refine .cons ⟨fun f hf => ?_, fun v hv => ?_⟩ (ih hrest _)
    · exact get?_extend h hg hf g.rows s
    · exact get?_extend_of_ne hv g.rows g.key s

/-- An aggregate that counts whole rows binds its variable to the number of rows of the group. -/
theorem RowOf.count {folds : List Fold} {g : Group} {w : Row} (h : RowOf σ now folds g w)
    {f : Fold} (hf : f ∈ folds) (hrows : f.argument = none) (hall : f.distinct = false) :
    w.get? f.target = some (AggregateFunction.countTerm g.rows.length) := by
  obtain ⟨s, hs⟩ := h.values f hf
  rw [hs, apply, hrows, hall]
  rfl

end Fold

/-- The rows are those of the groups of a list of rows. -/
def Group.Rows (σ : Type) (now : DateTime) (keys : List Variable) (folds : List Fold)
    (U W : List Row) : Prop :=
  ∃ groups, Partitions keys U groups ∧ List.Forall₂ (Fold.RowOf σ now folds) groups W

/-- The numbers of whole rows add up to the number of all rows. -/
theorem Group.sum_counts {σ : Type} {now : DateTime} {keys : List Variable} {folds : List Fold}
    {U W : List Row} (h : Group.Rows σ now keys folds U W) {f : Fold} (hf : f ∈ folds)
    (hrows : f.argument = none) (hall : f.distinct = false) : ∃ counts : List Nat,
      W.map (·.get? f.target) = counts.map (fun n => some (AggregateFunction.countTerm n)) ∧
        counts.sum = U.length := by
  obtain ⟨groups, hparts, hW⟩ := h
  refine ⟨groups.map fun g => g.rows.length, ?_, ?_⟩
  · have hcounts : List.Forall₂ (fun (g : Group) (w : Row) =>
        w.get? f.target = some (AggregateFunction.countTerm g.rows.length)) groups W :=
      hW.imp fun g w hw => hw.count hf hrows hall
    clear hW hparts
    induction hcounts with
    | nil => rfl
    | cons hw _ ih => simpa [hw] using ih
  · rw [← List.length_flatMap]
    exact hparts.whole.length_eq

/-! ## The stage that groups -/

namespace Stage

variable {σ : Type} {net : Network σ} {now : DateTime} {upper : Stage} {U : List Row}
  {keys : List Variable} {folds : List Fold}

/-- The stage has taken in some rows. -/
def Grouping (keys : List Variable) (folds : List Fold) (st : Stage) (taken : List Row) : Prop :=
  st = .group keys folds taken.reverse none

/-- A stage that groups gathers the rows and hands on the rows of their groups. -/
theorem gathers_groups (net : Network σ) (now : DateTime) (h : (folds.map Fold.target).Nodup)
    (hkeys : ∀ f ∈ folds, f.target ∉ keys) :
    Gathers net now (Grouping keys folds) (Group.Rows σ now keys folds) where
  wants := by
    rintro _ taken rfl
    rfl
  takes := by
    rintro _ taken rfl r s
    rw [step_leaf_some rfl]
    refine ⟨rfl, ?_⟩
    simp [Grouping, stepSignal, stepRow]
  turns := by
    rintro _ taken rfl s
    rw [step_leaf_some rfl]
    have hparts := Group.partitions_classes keys taken
    have hunbound : ∀ g ∈ Group.classes keys taken, ∀ f ∈ folds, g.key.get? f.target = none :=
      fun g hg f hf => hparts.get?_key hg (hkeys f hf)
    refine ⟨rfl, _, ⟨_, hparts, Fold.forall₂_extendAll h hunbound s⟩, ?_⟩
    rw [stepSignal, stepDone, List.reverse_reverse, ← Group.partition_eq]
    exact produces_grouped keys folds [] _

end Stage

namespace Sample

/-- How many rows there are, and the least value of the second variable. -/
def folds : List Fold :=
  [⟨⟨"n"⟩, .count, false, none⟩, ⟨⟨"m"⟩, .least, false, some (.leaf (.variable ⟨"y"⟩))⟩]

/-- The rows of two groups: one of two rows, and one of a row without key and without value. -/
def grouped : List Row :=
  [(half.insert ⟨"n"⟩ (AggregateFunction.countTerm 2)).insert ⟨"m"⟩ resource,
    .ofList [(⟨"n"⟩, AggregateFunction.countTerm 1)]]

end Sample

namespace Stage

end Stage

end PagedSparql
