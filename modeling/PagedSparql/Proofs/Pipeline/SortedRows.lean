import Mathlib.Data.List.Forall2
import PagedSparql.Proofs.Pipeline.ListSemantics
import PagedSparql.Proofs.Pipeline.Production
import PagedSparql.Proofs.Value.Order

/-!
# Sorted rows

Lexical forms are compared by three different orders, one for each kind of form. Together they are
one total preorder: kinds are compared first, then numbers, then texts, where a form that is no
number or no text counts as some fixed one (`SortKey.compare_eq`). What the order is can be said
without the kinds: the empty form stands first, then finite numbers by their values, then all other
forms by their characters (`SortKey.compareTexts_eq_lt_iff`).

The order of several conditions is the lexicographic one (`KeyedRow.Before`), and it is a preorder
on lists of keys of one length, which those of the rows are. So the stage that sorts hands on its
rows in a stable order (`StablySorted`): no row stands before one that it has to follow, and rows
that no condition tells apart stay as they were, whether the conditions ascend or descend
(`Stage.sortBy_stable`). There is just one such order (`StablySorted.unique`). The keys are what the
conditions gave when the row was taken in, a condition without value the empty form (`IsKey`).
-/

namespace PagedSparql

/-! ## The order of forms -/

namespace SortKey

/-- The place of a number among the numbers. -/
def place : SortKey → Int
  | .number x => Double.totalKey x
  | _ => 0

/-- The text of a key that is one. -/
def content : SortKey → String
  | .text s => s
  | _ => ""

/-- Sort keys are compared by their kinds, then by their numbers, then by their texts. -/
theorem compare_eq : compare =
    compareLex (compareOn rank) (compareLex (compareOn place) (compareOn content)) := by
  funext a b
  cases a <;> cases b
  case absent.absent => simp [compare, compareLex, compareOn, rank, place, content]
  case number.number x y =>
    simp [compare, compareLex, compareOn, rank, place, content, Double.totalCompare]
  case text.text s t => simp [compare, compareLex, compareOn, rank, place, content]
  -- The kinds differ, and nothing else is looked at.
  all_goals rfl

/-- Sort keys are totally preordered. -/
instance transCmp_compare : Std.TransCmp compare := by
  rw [compare_eq]
  infer_instance

/-- Lexical forms are totally preordered. -/
instance transCmp_compareTexts : Std.TransCmp compareTexts where
  eq_swap {a b} := @Std.OrientedCmp.eq_swap _ compare _ (ofText a) (ofText b)
  isLE_trans {a b c} := @Std.TransCmp.isLE_trans _ compare _ (ofText a) (ofText b) (ofText c)

/-- The form reads as a finite number. -/
structure IsNumber (text : String) (x : Float) : Prop where
  /-- The form is not empty. -/
  ne_empty : text ≠ ""
  /-- It reads as the number. -/
  read : Double.read? text = some x
  /-- The number is finite. -/
  finite : Double.isFinite x = true

/-- The form is neither empty nor a finite number. -/
structure IsWord (text : String) : Prop where
  /-- The form is not empty. -/
  ne_empty : text ≠ ""
  /-- If it reads as a number, this is not finite. -/
  read : ∀ x, Double.read? text = some x → Double.isFinite x = false

/-- The form stands before another one: the empty form before all others, numbers by their values
and before words, and words by their characters. -/
inductive Precedes (a b : String) : Prop
  /-- The empty form comes first. -/
  | empty (ha : a = "") (hb : b ≠ "")
  /-- A number comes before greater ones. -/
  | number (x y : Float) (ha : IsNumber a x) (hb : IsNumber b y)
    (h : Double.value x < Double.value y)
  /-- The negative zero comes before the other zero. -/
  | zero (x y : Float) (ha : IsNumber a x) (hb : IsNumber b y)
    (h : Double.value x = Double.value y) (hx : Double.isNegative x = true)
    (hy : Double.isNegative y = false)
  /-- Numbers come before words. -/
  | numberWord (x : Float) (ha : IsNumber a x) (hb : IsWord b)
  /-- A word comes before greater ones. -/
  | word (ha : IsWord a) (hb : IsWord b) (h : a < b)

variable {a b : String} {x : Float}

/-- A form that is not empty is a number or a word. -/
theorem isNumber_or_isWord (h : a ≠ "") : (∃ x, IsNumber a x) ∨ IsWord a := by
  cases hread : Double.read? a with
  | none => exact .inr ⟨h, fun x hx => absurd (hread.symm.trans hx) (by simp)⟩
  | some x =>
    cases hfinite : Double.isFinite x with
    | true => exact .inl ⟨x, h, hread, hfinite⟩
    | false =>
      refine .inr ⟨h, fun y hy => ?_⟩
      rwa [← Option.some.inj (hread.symm.trans hy)]

/-- A number is sorted as one. -/
theorem IsNumber.ofText_eq (h : IsNumber a x) : ofText a = .number x := by
  simp [ofText, String.isEmpty_iff, h.ne_empty, h.read, h.finite]

/-- A word is sorted as one. -/
theorem IsWord.ofText_eq (h : IsWord a) : ofText a = .text a := by
  simp only [ofText, String.isEmpty_iff, h.ne_empty, if_false]
  cases hread : Double.read? a with
  | none => rfl
  | some x => simp [h.read x hread]

/-- The empty form is sorted as such. -/
theorem ofText_empty : ofText "" = .absent := rfl

/-- A form that precedes another one compares as less. -/
theorem Precedes.compareTexts_eq (h : Precedes a b) : compareTexts a b = .lt := by
  unfold compareTexts
  cases h with
  | empty ha hb =>
    rw [ha, ofText_empty]
    rcases isNumber_or_isWord hb with ⟨y, hb⟩ | hb <;> rw [hb.ofText_eq] <;> rfl
  | number x y ha hb h =>
    rw [ha.ofText_eq, hb.ofText_eq]
    exact (Double.totalCompare_eq_lt_iff ha.finite hb.finite).2 (.inl h)
  | zero x y ha hb h hx hy =>
    rw [ha.ofText_eq, hb.ofText_eq]
    exact (Double.totalCompare_eq_lt_iff ha.finite hb.finite).2 (.inr ⟨h, hx, hy⟩)
  | numberWord x ha hb =>
    rw [ha.ofText_eq, hb.ofText_eq]
    rfl
  | word ha hb h =>
    rw [ha.ofText_eq, hb.ofText_eq]
    exact compareOfLessAndEq_eq_lt.2 h

/-- **The order of forms**: first the empty one, then the finite numbers by their values, then all
others by their characters. -/
theorem compareTexts_eq_lt_iff (a b : String) : compareTexts a b = .lt ↔ Precedes a b := by
  refine ⟨fun h => ?_, Precedes.compareTexts_eq⟩
  -- In two of the cases the second form would come first.
  have hnot : ¬Precedes b a := fun hba => Std.OrientedCmp.not_lt_of_lt h hba.compareTexts_eq
  by_cases ha : a = ""
  · refine .empty ha fun hb => ?_
    rw [ha, hb] at h
    exact absurd h (by decide)
  by_cases hb : b = ""
  · exact absurd (.empty hb ha) hnot
  unfold compareTexts at h
  rcases isNumber_or_isWord ha with ⟨x, ha⟩ | ha <;>
    rcases isNumber_or_isWord hb with ⟨y, hb⟩ | hb <;> rw [ha.ofText_eq, hb.ofText_eq] at h
  · rcases (Double.totalCompare_eq_lt_iff ha.finite hb.finite).1 h with h | ⟨h, hx, hy⟩
    · exact .number x y ha hb h
    · exact .zero x y ha hb h hx hy
  · exact .numberWord x ha hb
  · exact absurd (.numberWord y hb ha) hnot
  · exact .word ha hb (compareOfLessAndEq_eq_lt.1 h)

end SortKey

/-! ## The order of keys -/

namespace OrderCondition

/-- The order of the forms of one condition. -/
def compare (c : OrderCondition) (a b : String) : Ordering :=
  if c.descending then (SortKey.compareTexts a b).swap else SortKey.compareTexts a b

/-- A condition orders its forms totally, in either direction. -/
instance transCmp_compare (c : OrderCondition) : Std.TransCmp c.compare := by
  have hswap : (fun a b => (SortKey.compareTexts a b).swap) = fun a b =>
      SortKey.compareTexts b a := by
    funext a b
    exact Std.OrientedCmp.eq_swap.symm
  have hcompare : c.compare =
      if c.descending then fun a b => SortKey.compareTexts b a else SortKey.compareTexts := by
    rw [← hswap]
    funext a b
    cases h : c.descending <;> simp [compare, h]
  rw [hcompare]
  split
  · exact Std.TransCmp.opposite
  · exact SortKey.transCmp_compareTexts

/-- A condition tells no more forms apart than their order does. -/
theorem compare_eq_eq {c : OrderCondition} {a b : String} :
    c.compare a b = .eq ↔ SortKey.compareTexts a b = .eq := by
  cases h : c.descending <;> simp [compare, h]

end OrderCondition

namespace KeyedRow

/-- The first keys stand before the second: at the first condition that tells them apart, they are
the lesser ones, or the greater ones if it descends. -/
inductive Before : List OrderCondition → List String → List String → Prop
  /-- An ascending condition tells them apart. -/
  | ascending {c : OrderCondition} {rest : List OrderCondition} {a b : String} {as bs : List String}
    (hc : c.descending = false) (h : SortKey.compareTexts a b = .lt) :
    Before (c :: rest) (a :: as) (b :: bs)
  /-- A descending condition tells them apart. -/
  | descending {c : OrderCondition} {rest : List OrderCondition} {a b : String}
    {as bs : List String} (hc : c.descending = true) (h : SortKey.compareTexts b a = .lt) :
    Before (c :: rest) (a :: as) (b :: bs)
  /-- The condition does not, but a later one does. -/
  | later {c : OrderCondition} {rest : List OrderCondition} {a b : String} {as bs : List String}
    (h : SortKey.compareTexts a b = .eq) (hrest : Before rest as bs) :
    Before (c :: rest) (a :: as) (b :: bs)

/-- No condition tells the keys apart. -/
def level (as bs : List String) : Bool := (as.zipWith SortKey.compareTexts bs).all (· == .eq)

variable {conditions : List OrderCondition} {as bs cs : List String}

/-- The keys are compared by the first condition and then by the others. -/
theorem compareKeys_cons (c : OrderCondition) (rest : List OrderCondition) (a b : String)
    (as bs : List String) : compareKeys (c :: rest) (a :: as) (b :: bs) =
      (c.compare a b).then (compareKeys rest as bs) := rfl

/-- Keys that stand before others compare as less. -/
theorem before_iff : Before conditions as bs ↔ compareKeys conditions as bs = .lt := by
  induction conditions generalizing as bs with
  | nil => exact ⟨nofun, nofun⟩
  | cons c rest ih =>
    match as, bs with
    | [], _ => exact ⟨nofun, nofun⟩
    | _ :: _, [] => exact ⟨nofun, nofun⟩
    | a :: as, b :: bs =>
      rw [compareKeys_cons, Ordering.then_eq_lt, OrderCondition.compare_eq_eq, ← ih]
      have hswap : SortKey.compareTexts b a = (SortKey.compareTexts a b).swap :=
        Std.OrientedCmp.eq_swap
      constructor
      · intro h
        cases h with
        | ascending hc h => exact .inl (by simp [OrderCondition.compare, hc, h])
        | descending hc h =>
          exact .inl (by simp [OrderCondition.compare, hc, ← hswap, h])
        | later h hrest => exact .inr ⟨h, hrest⟩
      · rintro (h | ⟨h, hrest⟩)
        · cases hc : c.descending with
          | false => exact .ascending hc (by simpa [OrderCondition.compare, hc] using h)
          | true => exact .descending hc (by simpa [OrderCondition.compare, hc, hswap] using h)
        · exact .later h hrest

/-- Keys that no condition tells apart compare as equal. -/
theorem level_iff (has : as.length = conditions.length) (hbs : bs.length = conditions.length) :
    level as bs = true ↔ compareKeys conditions as bs = .eq := by
  induction conditions generalizing as bs with
  | nil =>
    obtain rfl := List.length_eq_zero_iff.1 has
    exact ⟨fun _ => rfl, fun _ => rfl⟩
  | cons c rest ih =>
    obtain ⟨a, as, rfl⟩ := List.exists_cons_of_length_eq_add_one has
    obtain ⟨b, bs, rfl⟩ := List.exists_cons_of_length_eq_add_one hbs
    have hrest := ih (by simpa using has) (by simpa using hbs)
    rw [compareKeys_cons, Ordering.then_eq_eq, OrderCondition.compare_eq_eq, ← hrest]
    simp [level]

/-- No condition tells keys from themselves. -/
theorem level_self (as : List String) : level as as = true := by
  have hself : ∀ a, SortKey.compareTexts a a = .eq := fun _ => Std.ReflCmp.compare_self
  simp [level, List.zipWith_self, hself]

/-- The order of two lists of keys is the reverse of that of the second and the first. -/
theorem compareKeys_swap (conditions : List OrderCondition) (as bs : List String) :
    compareKeys conditions as bs = (compareKeys conditions bs as).swap := by
  induction conditions generalizing as bs with
  | nil => rfl
  | cons c rest ih =>
    match as, bs with
    | [], [] => rfl
    | [], _ :: _ => rfl
    | _ :: _, [] => rfl
    | a :: as, b :: bs =>
      rw [compareKeys_cons, compareKeys_cons, Ordering.swap_then, ← ih,
        ← @Std.OrientedCmp.eq_swap _ c.compare]

/-- The order of lists of keys is transitive if each of them has a key for each condition. -/
theorem isLE_compareKeys_trans (has : as.length = conditions.length)
    (hbs : bs.length = conditions.length) (hcs : cs.length = conditions.length)
    (h : (compareKeys conditions as bs).isLE) (h' : (compareKeys conditions bs cs).isLE) :
    (compareKeys conditions as cs).isLE := by
  induction conditions generalizing as bs cs with
  | nil => rfl
  | cons c rest ih =>
    obtain ⟨a, as, rfl⟩ := List.exists_cons_of_length_eq_add_one has
    obtain ⟨b, bs, rfl⟩ := List.exists_cons_of_length_eq_add_one hbs
    obtain ⟨d, cs, rfl⟩ := List.exists_cons_of_length_eq_add_one hcs
    rw [compareKeys_cons, Ordering.isLE_then_iff_or] at h h' ⊢
    rcases h with hlt | ⟨heq, hrest⟩
    · left
      rcases h' with hlt' | ⟨heq', -⟩
      · exact Std.TransCmp.lt_trans hlt hlt'
      · exact Std.TransCmp.lt_of_lt_of_eq hlt heq'
    · rcases h' with hlt' | ⟨heq', hrest'⟩
      · exact .inl (Std.TransCmp.lt_of_eq_of_lt heq hlt')
      · refine .inr ⟨Std.TransCmp.eq_trans heq heq', ?_⟩
        exact ih (by simpa using has) (by simpa using hbs) (by simpa using hcs) hrest hrest'

/-! ## Stable orders -/

/-- A row that has a key for each condition. -/
structure Fitting (conditions : List OrderCondition) where
  /-- The row with its keys. -/
  keyed : KeyedRow
  /-- There are as many keys as conditions. -/
  fits : keyed.keys.length = conditions.length

/-- The order of rows that have a key for each condition. -/
def Fitting.compare (a b : Fitting conditions) : Ordering :=
  compareKeys conditions a.keyed.keys b.keyed.keys

/-- Rows that have a key for each condition are totally preordered. -/
instance Fitting.transCmp_compare : Std.TransCmp (@Fitting.compare conditions) where
  eq_swap := compareKeys_swap _ _ _
  isLE_trans {a b c} := isLE_compareKeys_trans a.fits b.fits c.fits

section

variable {α : Type} (cmp : α → α → Ordering) [Std.TransCmp cmp]

/-- What is not greater is not greater than what the other is not greater than. -/
theorem ne_gt_trans (a b c : α) (h : (cmp a b != .gt) = true) (h' : (cmp b c != .gt) = true) :
    (cmp a c != .gt) = true := by
  simp only [bne_iff_ne, Ordering.ne_gt_iff_isLE] at h h' ⊢
  exact Std.TransCmp.isLE_trans h h'

/-- One of two things is not greater than the other. -/
theorem ne_gt_total (a b : α) : ((cmp a b != .gt) || (cmp b a != .gt)) = true := by
  rw [@Std.OrientedCmp.eq_swap _ cmp _ b a]
  cases cmp a b <;> rfl

/-- Nothing stands after something greater when it is sorted. -/
theorem pairwise_mergeSort (l : List α) :
    (l.mergeSort fun a b => cmp a b != .gt).Pairwise fun a b => cmp b a ≠ .lt := by
  refine (List.pairwise_mergeSort (ne_gt_trans cmp) (ne_gt_total cmp) l).imp fun {a b} h hlt => ?_
  have hgt : cmp a b = .gt := Std.OrientedCmp.gt_of_lt hlt
  exact absurd hgt (by simpa using h)

/-- What compares as equal to something stays as it was when it is sorted. -/
theorem filter_mergeSort (l : List α) (x : α) :
    (l.mergeSort fun a b => cmp a b != .gt).filter (cmp x · == .eq) =
      l.filter (cmp x · == .eq) := by
  have hlevel : (l.filter (cmp x · == .eq)).Pairwise fun a b => (cmp a b != .gt) = true := by
    refine List.pairwise_of_forall_mem_list fun a ha b hb => ?_
    have hxa : cmp x a = .eq := by simpa using (List.mem_filter.1 ha).2
    have hxb : cmp x b = .eq := by simpa using (List.mem_filter.1 hb).2
    have hab : cmp a b = .eq := Std.TransCmp.eq_trans (Std.OrientedCmp.eq_symm hxa) hxb
    simp [hab]
  have hsublist : (l.filter (cmp x · == .eq)).Sublist (l.mergeSort fun a b => cmp a b != .gt) :=
    List.sublist_mergeSort (ne_gt_trans cmp) (ne_gt_total cmp) hlevel List.filter_sublist
  have hsame := hsublist.filter (cmp x · == .eq)
  rw [List.filter_filter] at hsame
  simp only [Bool.and_self] at hsame
  -- They are as many, so none of them is left out.
  have hperm := (List.mergeSort_perm l fun a b => cmp a b != .gt).filter (cmp x · == .eq)
  exact (hsame.eq_of_length hperm.length_eq.symm).symm

end

/-- The rows in the order of some conditions, those that no condition tells apart as they were. -/
structure StablySorted (conditions : List OrderCondition) (taken sorted : List KeyedRow) :
    Prop where
  /-- They are the same rows, each as often. -/
  perm : sorted.Perm taken
  /-- None of them stands after one that it has to precede. -/
  ordered : sorted.Pairwise fun a b => ¬ Before conditions b.keys a.keys
  /-- The rows that no condition tells from one of them are in the order in which they were. -/
  stable : ∀ k ∈ taken, sorted.filter (level k.keys ·.keys) = taken.filter (level k.keys ·.keys)

/-- The sort is stable if each row has a key for each condition. -/
theorem stablySorted_mergeSort {taken : List KeyedRow}
    (h : ∀ k ∈ taken, k.keys.length = conditions.length) :
    StablySorted conditions taken
      (taken.mergeSort fun a b => compareKeys conditions a.keys b.keys != .gt) := by
  -- The order is transitive on rows with all keys only, so the sort is one of these.
  obtain ⟨fitting, rfl⟩ : ∃ fitting : List (Fitting conditions),
      fitting.map Fitting.keyed = taken :=
    ⟨taken.attach.map fun k => ⟨k.1, h k.1 k.2⟩, by simp⟩
  have hsorted : (fitting.map Fitting.keyed).mergeSort
      (fun a b => compareKeys conditions a.keys b.keys != .gt) =
        (fitting.mergeSort fun a b => Fitting.compare a b != .gt).map Fitting.keyed :=
    (List.map_mergeSort (f := Fitting.keyed) fun _ _ _ _ => rfl).symm
  refine ⟨List.mergeSort_perm _ _, ?_, fun k hk => ?_⟩
  · rw [hsorted, List.pairwise_map]
    refine (pairwise_mergeSort Fitting.compare fitting).imp fun hle hbefore => ?_
    exact hle (before_iff.1 hbefore)
  · obtain ⟨k, -, rfl⟩ := List.mem_map.1 hk
    have hlevel : ∀ a : Fitting conditions,
        level k.keyed.keys a.keyed.keys = (Fitting.compare k a == .eq) := fun a => by
      rw [Bool.eq_iff_iff, level_iff k.fits a.fits, beq_iff_eq]
      rfl
    rw [hsorted, List.filter_map, List.filter_map]
    simp only [Function.comp_def, hlevel]
    rw [filter_mergeSort]

/-- What stands first in two sorted lists of the same rows is level. -/
theorem level_of_cons {x y : KeyedRow} {l m : List KeyedRow} (hperm : (x :: l).Perm (y :: m))
    (hx : x.keys.length = conditions.length) (hy : y.keys.length = conditions.length)
    (hl : ∀ k ∈ l, ¬Before conditions k.keys x.keys)
    (hm : ∀ k ∈ m, ¬Before conditions k.keys y.keys) : level x.keys y.keys = true := by
  have hself : ∀ k : KeyedRow, ¬Before conditions k.keys k.keys := by
    intro k hk
    have hlt := before_iff.1 hk
    have hswap := compareKeys_swap conditions k.keys k.keys
    rw [hlt] at hswap
    exact absurd hswap (by decide)
  have hyx : ¬Before conditions y.keys x.keys := by
    rcases List.mem_cons.1 (hperm.mem_iff.2 List.mem_cons_self) with h | h
    · exact h ▸ hself y
    · exact hl y h
  have hxy : ¬Before conditions x.keys y.keys := by
    rcases List.mem_cons.1 (hperm.mem_iff.1 List.mem_cons_self) with h | h
    · exact h ▸ hself x
    · exact hm x h
  rw [level_iff hx hy]
  rw [before_iff] at hxy hyx
  rw [compareKeys_swap] at hyx
  revert hxy hyx
  cases compareKeys conditions x.keys y.keys <;> simp

/-- There is one stable order only. -/
theorem StablySorted.unique {taken l m : List KeyedRow}
    (hfits : ∀ k ∈ taken, k.keys.length = conditions.length)
    (hl : StablySorted conditions taken l) (hm : StablySorted conditions taken m) : l = m := by
  have hperm : l.Perm m := hl.perm.trans hm.perm.symm
  have hstable : ∀ k ∈ l, l.filter (level k.keys ·.keys) = m.filter (level k.keys ·.keys) :=
    fun k hk => (hl.stable k (hl.perm.mem_iff.1 hk)).trans
      (hm.stable k (hl.perm.mem_iff.1 hk)).symm
  have hfits : ∀ k ∈ l, k.keys.length = conditions.length := fun k hk =>
    hfits k (hl.perm.mem_iff.1 hk)
  obtain ⟨-, hl, -⟩ := hl
  obtain ⟨-, hm, -⟩ := hm
  induction l generalizing m with
  | nil => exact hperm.nil_eq
  | cons x l ih =>
    cases m with
    | nil => exact absurd hperm.symm.nil_eq (by simp)
    | cons y m =>
      obtain ⟨hx, hlrest⟩ := List.pairwise_cons.1 hl
      obtain ⟨hy, hmrest⟩ := List.pairwise_cons.1 hm
      have hfit : x.keys.length = conditions.length := hfits x List.mem_cons_self
      have hfit' : y.keys.length = conditions.length :=
        hfits y (hperm.mem_iff.2 List.mem_cons_self)
      -- Both come first among the rows that are level with them.
      have hxy : x = y := by
        have h := hstable x List.mem_cons_self
        simp only [List.filter_cons, level_self, level_of_cons hperm hfit hfit' hx hy,
          if_true] at h
        exact (List.cons.inj h).1
      subst hxy
      refine congrArg _ (ih hperm.cons_inv (fun k hk => ?_)
        (fun k hk => hfits k (List.mem_cons_of_mem _ hk)) hlrest hmrest)
      have h := hstable k (List.mem_cons_of_mem _ hk)
      rw [List.filter_cons, List.filter_cons] at h
      split at h
      · exact (List.cons.inj h).2
      · exact h

/-! ## Rows with their keys -/

/-- What a condition gives as the key of a row: the lexical form of its value, and the empty form if
it has none. -/
inductive IsKey (now : DateTime) (r : Row) (c : OrderCondition) : String → Prop
  /-- The condition has a value. -/
  | value {s s' : EvalState} {t : Term}
    (h : (Eval.evaluate now r c.expression).run.run s = (.ok t, s')) : IsKey now r c t.lexical
  /-- The evaluation fails. -/
  | failed {s s' : EvalState} {e : EvalError}
    (h : (Eval.evaluate now r c.expression).run.run s = (.error e, s')) : IsKey now r c ""

/-- The row has the keys that the conditions give. -/
def HasKeys (now : DateTime) (conditions : List OrderCondition) (k : KeyedRow) : Prop :=
  List.Forall₂ (IsKey now k.row) conditions k.keys

/-- The second rows are the first ones in the order of some conditions. -/
def Sorts (now : DateTime) (conditions : List OrderCondition) (U W : List Row) : Prop :=
  ∃ taken sorted : List KeyedRow, taken.map (·.row) = U ∧
    (∀ k ∈ taken, k.HasKeys now conditions) ∧ StablySorted conditions taken sorted ∧
    sorted.map (·.row) = W

variable {σ : Type} {now : DateTime}

/-- The key of a variable is the lexical form of its term, or the empty form if it has none. -/
theorem IsKey.eq_of_variable {r : Row} {v : Variable} {descending : Bool} {key : String}
    (h : IsKey now r ⟨.leaf (.variable v), descending⟩ key) :
    key = ((r.getNamed? v).map Term.lexical).getD "" := by
  cases h with
  | value h =>
    rw [Eval.evaluate] at h
    cases hv : r.getNamed? v with
    | some t =>
      rw [hv] at h
      exact congrArg Term.lexical (Except.ok.inj (congrArg Prod.fst h)).symm
    | none =>
      rw [hv] at h
      have hfails : Except.error (EvalError.unbound v) = .ok _ := congrArg Prod.fst h
      exact absurd hfails (by simp)
  | failed h =>
    rw [Eval.evaluate] at h
    cases hv : r.getNamed? v with
    | some t =>
      rw [hv] at h
      have hsucceeds : Except.ok t = .error _ := congrArg Prod.fst h
      exact absurd hsucceeds (by simp)
    | none => rfl

/-- The keys of a row are what the conditions give one after the other. -/
theorem forall₂_keysOf (r : Row) (conditions : List OrderCondition) (s : EvalState) :
    List.Forall₂ (IsKey now r) conditions (keysOf now r conditions s).1 := by
  induction conditions generalizing s with
  | nil => exact .nil
  | cons c rest ih =>
    rw [keysOf]
    rcases h : (Eval.evaluate now r c.expression).run.run s with ⟨_ | t, s'⟩
    · exact .cons (.failed h) (ih s')
    · exact .cons (.value h) (ih s')

end KeyedRow

/-! ## The stage that sorts -/

namespace Stage

open KeyedRow

variable {σ : Type} {net : Network σ} {now : DateTime} {upper : Stage} {U : List Row}

/-- The stage has taken in some rows and has their keys. -/
def Sorting (now : DateTime) (conditions : List OrderCondition) (st : Stage) (U : List Row) :
    Prop :=
  ∃ taken : List KeyedRow, st = .sort conditions taken.reverse none ∧ taken.map (·.row) = U ∧
    ∀ k ∈ taken, k.HasKeys now conditions

/-- A stage that sorts gathers the rows and sorts them. -/
theorem gathers_sorts (net : Network σ) (now : DateTime) (conditions : List OrderCondition) :
    Gathers net now (Sorting now conditions) (Sorts now conditions) where
  wants := by
    rintro _ _ ⟨taken, rfl, -, -⟩
    rfl
  takes := by
    rintro _ _ ⟨taken, rfl, rfl, hkeys⟩ r s
    rw [step_leaf_some rfl]
    refine ⟨rfl, taken ++ [(KeyedRow.ofRow now conditions r s).1], ?_, by simp [ofRow], ?_⟩
    · simp [stepSignal, stepRow]
    · intro k hk
      rcases List.mem_append.1 hk with hk | hk
      · exact hkeys k hk
      · obtain rfl := List.mem_singleton.1 hk
        exact forall₂_keysOf r conditions _
  turns := by
    rintro _ _ ⟨taken, rfl, rfl, hkeys⟩ s
    rw [step_leaf_some rfl]
    have hfits : ∀ k ∈ taken, k.keys.length = conditions.length := fun k hk =>
      (hkeys k hk).length_eq.symm
    refine ⟨rfl, KeyedRow.sort conditions taken, ?_, ?_⟩
    · exact ⟨taken, _, rfl, hkeys, stablySorted_mergeSort hfits, rfl⟩
    · rw [stepSignal, stepDone, List.reverse_reverse]
      exact produces_sorted conditions [] _

end Stage

namespace Sample

/-- A resource with a form as its score. -/
def scored (form resource : String) : Row :=
  .ofList [(⟨"x"⟩, .literal (.simple form)), (⟨"y"⟩, .iri resource)]

/-- Scores of all kinds, one of them twice. -/
def scores : List Row :=
  [scored "10" "http://example.org/a", .empty, scored "Bob" "http://example.org/b",
    scored "9" "http://example.org/c", scored "10" "http://example.org/d"]

/-- The highest scores first. -/
def highest : List OrderCondition := [⟨.leaf (.variable ⟨"x"⟩), true⟩]

/-- The scores in this order. -/
def ranking : List Row :=
  [scored "Bob" "http://example.org/b", scored "10" "http://example.org/a",
    scored "10" "http://example.org/d", scored "9" "http://example.org/c", .empty]

/-- The form of a row's score. -/
def score (r : Row) : String := ((r.getNamed? ⟨"x"⟩).map Term.lexical).getD ""

/-- A row with its score as key. -/
def keyed (r : Row) : KeyedRow := ⟨[score r], r⟩

/-- The key of a row is its score. -/
theorem eq_keyed {k : KeyedRow} (h : k.HasKeys now highest) : k = keyed k.row := by
  obtain ⟨keys, r⟩ := k
  rcases h with _ | ⟨hkey, hrest⟩
  cases hrest
  rw [hkey.eq_of_variable]
  rfl

/-- The scores are in this order. -/
theorem stablySorted_ranking :
    KeyedRow.StablySorted highest (scores.map keyed) (ranking.map keyed) where
  perm := (show ranking.Perm scores by decide).map keyed
  ordered := by
    have hordered : ranking.Pairwise fun a b =>
        KeyedRow.compareKeys highest [score b] [score a] ≠ .lt := by decide +kernel
    exact List.pairwise_map.2 (hordered.imp fun h hbefore => h (KeyedRow.before_iff.1 hbefore))
  stable := by
    have hstable : ∀ r ∈ scores, ranking.filter (fun w => KeyedRow.level [score r] [score w]) =
        scores.filter fun w => KeyedRow.level [score r] [score w] := by decide +kernel
    intro k hk
    obtain ⟨r, hr, rfl⟩ := List.mem_map.1 hk
    rw [List.filter_map, List.filter_map]
    exact congrArg _ (hstable r hr)

end Sample

namespace Stage

open KeyedRow

end Stage

end PagedSparql
