import Mathlib.Tactic.Common
import PagedSparql.Json.Fields

/-!
# Records that were written

A record is written by `Json.mkObj` and read by the keys of its fields. A key finds the last member
that was given for it (`Json.get?_mkObj`, `Json.fields?_mkObj`), whatever place the member got, and
what it finds is nested less deeply than the record. No member is there that was not given
(`Json.exists_mkObj_subset`). A list is read back exactly when each of its items is
(`Json.list?_map_eq_some_iff`).
-/

namespace PagedSparql.Json

variable {α : Type}

/-- The value that a key finds is that of the first entry with this key. -/
theorem lookup_cons_eq (key k : String) (j : Json) (rest : List (String × Json)) :
    List.lookup key ((k, j) :: rest) = if key = k then some j else rest.lookup key := by
  rw [List.lookup_cons]
  by_cases h : key = k
  · simp [h]
  · have hb : (key == k) = false := by simpa using h
    simp [hb, h]

/-- The member of a key after an insertion. -/
theorem lookup_insertMember (key k : String) (value : Json) (members : List (String × Json)) :
    (insertMember key value members).lookup k =
      if k = key then some value else members.lookup k := by
  induction members with
  | nil => rw [insertMember, lookup_cons_eq]
  | cons m rest ih =>
    obtain ⟨k', j⟩ := m
    rw [insertMember]
    split
    · rw [lookup_cons_eq]
    · split
      · next heq =>
        subst heq
        rw [lookup_cons_eq, lookup_cons_eq]
        by_cases h : k = key <;> simp [h]
      · next hne =>
        rw [lookup_cons_eq, lookup_cons_eq, ih]
        by_cases h : k = key
        · have hk : k ≠ k' := fun heq => hne (h ▸ heq)
          simp [hk]
        · simp [h]

/-- The members of an object are those that it is made of; the last one with a key counts. -/
theorem lookup_foldl_insertMember (members before : List (String × Json)) (key : String) :
    (members.foldl (fun o m => insertMember m.1 m.2 o) before).lookup key =
      (members.reverse.lookup key).or (before.lookup key) := by
  induction members generalizing before with
  | nil => simp
  | cons m rest ih =>
    obtain ⟨k, j⟩ := m
    rw [List.foldl_cons, ih, lookup_insertMember, List.reverse_cons, List.lookup_append,
      lookup_cons_eq]
    by_cases h : key = k <;> simp [h]

/-- An object has the members that it is made of; of several with one key the last stays. -/
theorem mkObj_spec (members : List (String × Json)) :
    ∃ all, mkObj members = .obj all ∧ ∀ key, all.lookup key = members.reverse.lookup key :=
  ⟨_, rfl, fun key => by simp [lookup_foldl_insertMember]⟩

/-- A key finds the last member that was given for it. -/
theorem get?_mkObj (members : List (String × Json)) (key : String) :
    (mkObj members).get? key = members.reverse.lookup key := by
  obtain ⟨all, hobj, hlookup⟩ := mkObj_spec members
  rw [hobj, get?, hlookup]

/-- A record has the fields that were given for its names. -/
theorem fields?_mkObj (members : List (String × Json)) (names : List String) :
    (mkObj members).fields? names = some (names.map fun name => members.reverse.lookup name) := by
  obtain ⟨all, hobj, hlookup⟩ := mkObj_spec members
  simp only [hobj, fields?, hlookup]

/-- The members after an insertion are the inserted one and those before. -/
theorem mem_of_mem_insertMember {key : String} {value : Json} {members : List (String × Json)}
    {m : String × Json} (h : m ∈ insertMember key value members) :
    m = (key, value) ∨ m ∈ members := by
  induction members with
  | nil => exact .inl (List.mem_singleton.1 h)
  | cons n rest ih =>
    rw [insertMember] at h
    split_ifs at h
    · exact List.mem_cons.1 h
    · exact (List.mem_cons.1 h).imp id (List.mem_cons_of_mem _)
    · rcases List.mem_cons.1 h with rfl | h
      · exact .inr List.mem_cons_self
      · exact (ih h).imp id (List.mem_cons_of_mem _)

/-- An object has no members but those that it is made of. -/
theorem exists_mkObj_subset (members : List (String × Json)) :
    ∃ all, mkObj members = .obj all ∧ all ⊆ members := by
  suffices h : ∀ before, members.foldl (fun o m => insertMember m.1 m.2 o) before ⊆
      before ++ members from ⟨_, rfl, h []⟩
  induction members with
  | nil => simp
  | cons m rest ih =>
    intro before n hn
    rcases List.mem_append.1 (ih _ hn) with hn | hn
    · rcases mem_of_mem_insertMember hn with rfl | hn
      · simp
      · exact List.mem_append_left _ hn
    · exact List.mem_append_right _ (List.mem_cons_of_mem _ hn)

/-- The members of an object are nested less deeply than it. -/
theorem depth_lt_of_get? {j i : Json} (key : String) (h : j.get? key = some i) :
    i.depth < j.depth := by
  cases j with
  | obj members =>
    have hmembers : i.depth ≤ depth.depthMembers members := by
      rw [get?] at h
      induction members with
      | nil => simp at h
      | cons m rest ih =>
        obtain ⟨k, j⟩ := m
        rw [lookup_cons_eq] at h
        rw [depth.depthMembers]
        split_ifs at h
        · cases h
          exact Nat.le_max_left _ _
        · exact Nat.le_trans (ih h) (Nat.le_max_right _ _)
    rw [depth]
    omega
  | _ => simp [get?] at h

/-- The values of a list are nested less deeply than it. -/
theorem depth_lt_of_mem {items : List Json} {i : Json} (h : i ∈ items) :
    i.depth < (arr items).depth := by
  have hitems : i.depth ≤ depth.depthItems items := by
    induction items with
    | nil => exact absurd h List.not_mem_nil
    | cons j rest ih =>
      rw [depth.depthItems]
      rcases List.mem_cons.1 h with rfl | h
      · exact Nat.le_max_left _ _
      · exact Nat.le_trans (ih h) (Nat.le_max_right _ _)
  rw [depth]
  omega

/-- The fields of a record are nested less deeply than it. -/
theorem depth_lt_of_fields? {names : List String} {fields : List (Option Json)} {j i : Json}
    (h : j.fields? names = some fields) (hi : some i ∈ fields) : i.depth < j.depth := by
  cases j with
  | obj members =>
    obtain rfl := Option.some.inj h
    obtain ⟨name, -, hname⟩ := List.mem_map.1 hi
    exact depth_lt_of_get? name hname
  | arr items =>
    simp only [fields?, Option.ite_none_right_eq_some, Option.some.injEq] at h
    obtain ⟨-, rfl⟩ := h
    obtain ⟨n, -, hn⟩ := List.mem_map.1 hi
    exact depth_lt_of_mem (List.mem_of_getElem? hn)
  | _ => simp [fields?] at h

/-- Fuel for a value is not used up at its root. -/
theorem exists_fuel {j : Json} {fuel : Nat} (h : j.depth ≤ fuel) : ∃ n, fuel = n + 1 := by
  cases fuel with
  | zero => cases j <;> simp [depth] at h
  | succ n => exact ⟨n, rfl⟩

/-- A value that is not `null` is read as it is. -/
theorem nullable?_of_ne_null {read? : Json → Option α} {j : Json} (h : j ≠ .null) :
    nullable? read? j = (read? j).map some := by
  cases j with
  | null => exact absurd rfl h
  | _ => rfl

/-- Values are read back together exactly when each of them is. -/
theorem mapM_map_eq_some_iff {β : Type} {read? : β → Option α} {write : α → β} {xs : List α} :
    (xs.map write).mapM read? = some xs ↔ ∀ x ∈ xs, read? (write x) = some x := by
  induction xs with
  | nil => simp
  | cons x xs ih =>
    rw [List.map_cons, List.mapM_cons, List.forall_mem_cons, ← ih]
    simp only [Option.bind_eq_bind, Option.bind_eq_some_iff, Option.pure_def, Option.some.injEq,
      List.cons.injEq]
    constructor
    · rintro ⟨y, hy, ys, hys, rfl, rfl⟩
      exact ⟨hy, hys⟩
    · rintro ⟨hx, hxs⟩
      exact ⟨x, hx, xs, hxs, rfl, rfl⟩

/-- A list is read back exactly when each of its items is. -/
theorem list?_map_eq_some_iff {read? : Json → Option α} {write : α → Json} {xs : List α} :
    list? read? (.arr (xs.map write)) = some xs ↔ ∀ x ∈ xs, read? (write x) = some x :=
  mapM_map_eq_some_iff

end PagedSparql.Json
