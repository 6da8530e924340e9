import Mathlib.Data.List.Nodup
import Mathlib.Data.List.Perm.Subperm
import Mathlib.Data.Set.Insert
import PagedSparql.Plan.Names
import PagedSparql.Proofs.Pipeline.Suffix

/-!
# Sources of fresh variables

The variables that a source gives out have growing numbers, so all of them are different. A source
avoids a set of variables if it will give out none of them (`Names.Avoids`). One that has reserved
their names does (`Names.avoids_of_reserved`), and after a variable was given out, the source avoids
it too (`Names.Avoids.fresh`).
-/

namespace PagedSparql

namespace Names

/-- Names with different numbers are different. -/
theorem numbered_inj {k l : Nat} (h : numbered k = numbered l) : k = l := by
  refine toDigits_inj ?_
  simpa [numbered, Nat.toList_repr] using congrArg String.toList h

/-- A numbered name has no sigil. -/
theorem name_ofText_numbered (k : Nat) : (Variable.ofText (numbered k)).name = numbered k := by
  have hlist : (numbered k).toList = '_' :: '_' :: 'v' :: (toString k).toList := by
    rw [numbered, String.toList_append]
    rfl
  rw [← String.toList_inj, Variable.ofText, hlist, String.toList_ofList]
  rfl

/-- Variables with different numbers are different. -/
theorem ofText_numbered_inj {k l : Nat}
    (h : Variable.ofText (numbered k) = Variable.ofText (numbered l)) : k = l := by
  have hname := congrArg Variable.name h
  rw [name_ofText_numbered, name_ofText_numbered] at hname
  exact numbered_inj hname

/-- What was skipped is reserved, and what is found is not, or it is the last one. -/
theorem firstFree_spec (reserved : List String) (tries n : Nat) :
    n ≤ firstFree reserved tries n ∧
      (∀ k, n ≤ k → k < firstFree reserved tries n → numbered k ∈ reserved) ∧
      (firstFree reserved tries n = n + tries ∨
        numbered (firstFree reserved tries n) ∉ reserved) := by
  induction tries generalizing n with
  | zero => exact ⟨Nat.le_refl n, fun k h h' => absurd h (Nat.not_le.2 h'), .inl rfl⟩
  | succ tries ih =>
    rw [firstFree]
    split
    · next hreserved =>
      obtain ⟨hle, hskipped, hfound⟩ := ih (n + 1)
      refine ⟨by omega, fun k h h' => ?_, hfound.imp_left (by omega)⟩
      by_cases hk : k = n
      · subst hk
        simpa using hreserved
      · exact hskipped k (by omega) h'
    · next hfree =>
      exact ⟨Nat.le_refl n, fun k h h' => absurd h (Nat.not_le.2 h'), .inr (by simpa using hfree)⟩

/-- The number that is found is not reserved, since there are more tries than reserved names. -/
theorem numbered_firstFree_not_mem (reserved : List String) (n : Nat) :
    numbered (firstFree reserved reserved.length n) ∉ reserved := by
  obtain ⟨-, hskipped, hfound⟩ := firstFree_spec reserved reserved.length n
  rcases hfound with hlast | hfree
  · intro hmem
    -- All names up to the last one would be reserved.
    have hnodup : ((List.range (reserved.length + 1)).map fun i => numbered (n + i)).Nodup :=
      List.Nodup.map (fun i j h => Nat.add_left_cancel (numbered_inj h)) List.nodup_range
    have hsubset : ((List.range (reserved.length + 1)).map fun i => numbered (n + i)) ⊆
        reserved := by
      intro name hname
      obtain ⟨i, hi, rfl⟩ := List.mem_map.1 hname
      rw [List.mem_range] at hi
      by_cases hi' : i < reserved.length
      · exact hskipped _ (by omega) (by omega)
      · obtain rfl : i = reserved.length := by omega
        exact hlast ▸ hmem
    have hlength := (List.subperm_of_subset hnodup hsubset).length_le
    rw [List.length_map, List.length_range] at hlength
    exact absurd hlength (Nat.not_succ_le_self _)
  · exact hfree

/-- A source gives out a variable whose number is the next one or a later one, and whose name is not
reserved, and goes on after it. -/
theorem fresh_spec (names : Names) : ∃ k, names.next ≤ k ∧ numbered k ∉ names.reserved ∧
    names.fresh.1 = .ofText (numbered k) ∧ names.fresh.2 = { names with next := k + 1 } :=
  ⟨_, (firstFree_spec names.reserved names.reserved.length names.next).1,
    numbered_firstFree_not_mem names.reserved names.next, rfl, rfl⟩

/-- The source after it has given out so many variables. -/
def after : Nat → Names → Names
  | 0, names => names
  | i + 1, names => after i names.fresh.2

/-- A source goes on with later numbers, and the reserved names stay. -/
theorem after_spec (i : Nat) (names : Names) :
    names.next ≤ (after i names).next ∧ (after i names).reserved = names.reserved := by
  induction i generalizing names with
  | zero => exact ⟨Nat.le_refl _, rfl⟩
  | succ i ih =>
    obtain ⟨k, hk, -, -, hrest⟩ := names.fresh_spec
    obtain ⟨hle, hreserved⟩ := ih names.fresh.2
    rw [hrest] at hle hreserved
    rw [after, hrest]
    exact ⟨Nat.le_trans (Nat.le_succ_of_le hk) hle, hreserved⟩

/-- A source gives out, sooner or later, all numbered variables from its next one on whose names are
not reserved, and no others. -/
theorem exists_fresh_iff {names : Names} {k : Nat} :
    (∃ i, (after i names).fresh.1 = .ofText (numbered k)) ↔
      names.next ≤ k ∧ numbered k ∉ names.reserved := by
  constructor
  · rintro ⟨i, hi⟩
    obtain ⟨l, hl, hfree, hfresh, -⟩ := (after i names).fresh_spec
    obtain rfl : l = k := ofText_numbered_inj (hfresh.symm.trans hi)
    obtain ⟨hle, hreserved⟩ := after_spec i names
    exact ⟨Nat.le_trans hle hl, hreserved ▸ hfree⟩
  · rintro ⟨hk, hfree⟩
    -- Each variable that is given out before brings the next number closer.
    induction hleft : k - names.next using Nat.strongRecOn generalizing names with
    | ind left ih =>
      obtain ⟨hle, hskipped, -⟩ := firstFree_spec names.reserved names.reserved.length names.next
      rcases Nat.lt_trichotomy (firstFree names.reserved names.reserved.length names.next) k with
        hlt | heq | hgt
      · have hnext : names.fresh.2.next =
            firstFree names.reserved names.reserved.length names.next + 1 := rfl
        have hcloser : k - names.fresh.2.next < left := by omega
        obtain ⟨i, hi⟩ : ∃ i, (after i names.fresh.2).fresh.1 = .ofText (numbered k) :=
          ih _ hcloser hlt hfree rfl
        exact ⟨i + 1, hi⟩
      · exact ⟨0, congrArg (fun n => Variable.ofText (numbered n)) heq⟩
      · exact absurd (hskipped k hk hgt) hfree

/-- The source will give out none of these variables. -/
def Avoids (names : Names) (V : Set Variable) : Prop := ∀ i, (after i names).fresh.1 ∉ V

variable {names : Names} {V W : Set Variable}

/-- The next variable is none of those that are avoided. -/
theorem Avoids.not_mem (h : names.Avoids V) : names.fresh.1 ∉ V := h 0

/-- Fewer variables are avoided too. -/
theorem Avoids.mono (h : names.Avoids W) (hVW : V ⊆ W) : names.Avoids V :=
  fun i hi => h i (hVW hi)

/-- A variable that was given out is avoided from then on. -/
theorem Avoids.fresh (h : names.Avoids V) : names.fresh.2.Avoids (insert names.fresh.1 V) := by
  intro i hi
  rcases hi with hi | hi
  · obtain ⟨k, -, -, hfresh, hrest⟩ := names.fresh_spec
    obtain ⟨l, hl, -, hlater, -⟩ := (after i names.fresh.2).fresh_spec
    obtain rfl : l = k := ofText_numbered_inj (hlater.symm.trans (hi.trans hfresh))
    -- Later variables have greater numbers.
    have hle := (after_spec i names.fresh.2).1
    rw [hrest] at hl hle
    exact absurd (Nat.le_trans hle hl) (Nat.not_succ_le_self l)
  · exact h (i + 1) hi

/-- Variables whose names are reserved are avoided. -/
theorem avoids_of_reserved (h : ∀ v ∈ V, v.name ∈ names.reserved) : names.Avoids V := by
  intro i hi
  obtain ⟨k, -, hfree, hfresh, -⟩ := (after i names).fresh_spec
  rw [hfresh] at hi
  have hname := h _ hi
  rw [name_ofText_numbered, ← (after_spec i names).2] at hname
  exact hfree hname

/-- The variables that a source will give out, sooner or later. -/
def Ahead (names : Names) : Set Variable := {v | ∃ i, (after i names).fresh.1 = v}

/-- A source avoids variables if it has none of them ahead. -/
theorem avoids_iff : names.Avoids V ↔ ∀ v ∈ V, v ∉ names.Ahead :=
  ⟨fun h _ hv ⟨i, hi⟩ => h i (hi ▸ hv), fun h i hi => h _ hi ⟨i, rfl⟩⟩

/-- The next variable is ahead, and what is ahead after it. -/
theorem ahead_eq (names : Names) : names.Ahead = insert names.fresh.1 names.fresh.2.Ahead := by
  refine Set.ext fun v => ⟨?_, ?_⟩
  · rintro ⟨i, rfl⟩
    cases i with
    | zero => exact .inl rfl
    | succ i => exact .inr ⟨i, rfl⟩
  · rintro (rfl | ⟨i, rfl⟩)
    · exact ⟨0, rfl⟩
    · exact ⟨i + 1, rfl⟩

/-- A source has less ahead after it has given out some variables. -/
theorem ahead_after (i : Nat) (names : Names) : (after i names).Ahead ⊆ names.Ahead := by
  induction i generalizing names with
  | zero => exact subset_rfl
  | succ i ih =>
    rw [ahead_eq names]
    exact (ih names.fresh.2).trans (Set.subset_insert _ _)

/-- What is avoided is avoided after some variables were given out. -/
theorem Avoids.after (h : names.Avoids V) (i : Nat) : (after i names).Avoids V := by
  rw [avoids_iff] at h ⊢
  exact fun v hv hahead => h v hv (ahead_after i names hahead)

/-- The variables that the source gives out in so many calls. -/
def givenOut : Nat → Names → List Variable
  | 0, _ => []
  | i + 1, names => names.fresh.1 :: givenOut i names.fresh.2

/-- The calls may be made in two goes. -/
theorem givenOut_add (i l : Nat) (names : Names) : after (i + l) names = after l (after i names) ∧
    givenOut (i + l) names = givenOut i names ++ givenOut l (after i names) := by
  induction i generalizing names with
  | zero => rw [Nat.zero_add]; exact ⟨rfl, rfl⟩
  | succ i ih =>
    obtain ⟨hafter, hgiven⟩ := ih names.fresh.2
    rw [Nat.succ_add]
    exact ⟨hafter, congrArg _ hgiven⟩

/-- No variable is given out twice. -/
theorem fresh_after_ne (names : Names) {i j : Nat} (h : i < j) :
    (after i names).fresh.1 ≠ (after j names).fresh.1 := by
  intro heq
  have havoids : (after i names).Avoids ∅ := fun _ => id
  obtain ⟨l, rfl⟩ := Nat.exists_eq_add_of_lt h
  have hlater : after (i + l + 1) names = after l (after i names).fresh.2 :=
    (givenOut_add i (l + 1) names).1
  refine havoids.fresh l (.inl ?_)
  rw [← hlater]
  exact heq.symm

/-- The variables that are given out are different, and none of those that are avoided. -/
theorem Avoids.givenOut (h : names.Avoids V) (i : Nat) :
    (givenOut i names).Nodup ∧ ∀ v ∈ givenOut i names, v ∉ V := by
  induction i generalizing names V with
  | zero => exact ⟨.nil, fun _ hv => absurd hv List.not_mem_nil⟩
  | succ i ih =>
    obtain ⟨hnodup, havoided⟩ := ih h.fresh
    refine ⟨List.nodup_cons.2 ⟨fun hv => havoided _ hv (.inl rfl), hnodup⟩, ?_⟩
    exact List.forall_mem_cons.2 ⟨h.not_mem, fun v hv hV => havoided v hv (.inr hV)⟩

end Names

namespace Naming

variable {n : Naming} {V : Set Variable}

/-- The variable that is given out is none of those that are avoided. -/
theorem draw_not_mem (h : n.names.Avoids V) : n.draw.1 ∉ V := h.not_mem

/-- The variable that is given out is avoided from then on. -/
theorem avoids_draw (h : n.names.Avoids V) : n.draw.2.names.Avoids (insert n.draw.1 V) := h.fresh

/-- The naming after some more variables were given out, all of which it has taken down. -/
def Later (n n' : Naming) : Prop :=
  ∃ i, n' = ⟨Names.after i n.names, n.drawn ++ Names.givenOut i n.names⟩

/-- No variable need be given out. -/
theorem Later.refl (n : Naming) : n.Later n := ⟨0, by simp [Names.after, Names.givenOut]⟩

/-- Variables may be given out twice. -/
theorem Later.trans {n' n'' : Naming} (h : n.Later n') (h' : n'.Later n'') : n.Later n'' := by
  obtain ⟨i, rfl⟩ := h
  obtain ⟨l, rfl⟩ := h'
  obtain ⟨hafter, hgiven⟩ := Names.givenOut_add i l n.names
  exact ⟨i + l, by rw [hafter, hgiven, List.append_assoc]⟩

/-- One variable is given out. -/
theorem later_draw (n : Naming) : n.Later n.draw.2 := ⟨1, rfl⟩

/-- What was taken down before does not matter. -/
theorem Later.append {n' : Naming} (drawn : List Variable)
    (h : (⟨n.names, []⟩ : Naming).Later n') :
    (⟨n.names, drawn⟩ : Naming).Later ⟨n'.names, drawn ++ n'.drawn⟩ := by
  obtain ⟨i, rfl⟩ := h
  exact ⟨i, by simp⟩

/-- The variables that are known at a later naming if some were before: they and those that were
drawn in between. -/
def knownAt (n n' : Naming) (V : Set Variable) : Set Variable :=
  V ∪ (n.names.Ahead \ n'.names.Ahead)

variable {n' n'' : Naming}

/-- What was known before is known. -/
theorem subset_knownAt : V ⊆ n.knownAt n' V := Set.subset_union_left

/-- A later source has less ahead. -/
theorem Later.ahead_subset (h : n.Later n') : n'.names.Ahead ⊆ n.names.Ahead := by
  obtain ⟨i, rfl⟩ := h
  exact Names.ahead_after i n.names

/-- What is known is avoided. -/
theorem avoids_knownAt (h : n.Later n') (hn : n.names.Avoids V) :
    n'.names.Avoids (n.knownAt n' V) := by
  rw [Names.avoids_iff] at hn ⊢
  rintro v (hv | hv) hahead
  · exact hn v hv (h.ahead_subset hahead)
  · exact hv.2 hahead

/-- What was drawn in two goes was drawn. -/
theorem knownAt_knownAt (h : n.Later n') (h' : n'.Later n'') :
    n'.knownAt n'' (n.knownAt n' V) ⊆ n.knownAt n'' V := by
  rintro v ((hv | hv) | hv)
  · exact .inl hv
  · exact .inr ⟨hv.1, fun hahead => hv.2 (h'.ahead_subset hahead)⟩
  · exact .inr ⟨h.ahead_subset hv.1, hv.2⟩

/-- A variable that is drawn is known. -/
theorem insert_subset_knownAt (h : n.draw.2.Later n') :
    insert n.names.fresh.1 V ⊆ n.knownAt n' V := by
  have hfresh : n.names.fresh.2.Avoids {n.names.fresh.1} := by
    have hnone : n.names.Avoids ∅ := fun _ => id
    simpa using hnone.fresh
  rintro v (rfl | hv)
  · refine .inr ⟨⟨0, rfl⟩, fun hahead => ?_⟩
    exact Names.avoids_iff.1 hfresh _ rfl (h.ahead_subset hahead)
  · exact .inl hv

/-- What is drawn first is known, and what is drawn then. -/
theorem knownAt_draw (h : n.draw.2.Later n') :
    n.draw.2.knownAt n' (insert n.names.fresh.1 V) ⊆ n.knownAt n' V := by
  refine Set.union_subset (insert_subset_knownAt h) ?_
  exact fun v hv => .inr ⟨(later_draw n).ahead_subset hv.1, hv.2⟩

end Naming

end PagedSparql
