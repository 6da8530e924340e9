import PagedSparql.Rdf.Variable

/-!
# Maps from variables

A finite map from variables is stored as the list of its entries in the order of the variables'
names, each variable once. This is part of the type, so two maps are equal exactly when they have
the same values (`VariableMap.ext_get?`).
-/

namespace PagedSparql

/-- A finite map from variables. -/
structure VariableMap (α : Type) where
  /-- The entries, in the order of the variables' names. -/
  entries : List (Variable × α)
  /-- Each variable occurs once, and the names are in order. -/
  sorted : entries.Pairwise (fun a b => a.1.name < b.1.name)

namespace VariableMap

variable {α : Type}

/-- Entries in order, with one more put in its place or over the one it replaces. -/
def insertEntry (v : Variable) (x : α) : List (Variable × α) → List (Variable × α)
  | [] => [(v, x)]
  | (w, y) :: rest =>
    if v.name < w.name then (v, x) :: (w, y) :: rest
    else if v = w then (v, x) :: rest
    else (w, y) :: insertEntry v x rest

/-- The entries after an insertion are the new one and some of the old ones. -/
theorem mem_insertEntry {v : Variable} {x : α} {l : List (Variable × α)} {e : Variable × α}
    (h : e ∈ insertEntry v x l) : e = (v, x) ∨ e ∈ l := by
  induction l with
  | nil => simpa [insertEntry] using h
  | cons y rest ih =>
    obtain ⟨w, u⟩ := y
    simp only [insertEntry] at h
    split at h
    · simpa using h
    · split at h
      · rcases List.mem_cons.1 h with h | h
        · exact .inl h
        · exact .inr (List.mem_cons_of_mem _ h)
      · rcases List.mem_cons.1 h with h | h
        · exact .inr (h ▸ List.mem_cons_self)
        · exact (ih h).imp id (List.mem_cons_of_mem _)

/-- Two variables whose names are not in order and that differ are in the other order. -/
theorem name_lt_of_not_lt {v w : Variable} (h : ¬v.name < w.name) (hne : v ≠ w) :
    w.name < v.name := by
  refine Std.lt_of_le_of_ne (String.not_lt.1 h) fun heq => hne ?_
  cases v
  cases w
  simp_all

/-- Insertion keeps the order. -/
theorem insertEntry_sorted (v : Variable) (x : α) {l : List (Variable × α)}
    (h : l.Pairwise (fun a b => a.1.name < b.1.name)) :
    (insertEntry v x l).Pairwise (fun a b => a.1.name < b.1.name) := by
  induction l with
  | nil => simp [insertEntry]
  | cons y rest ih =>
    obtain ⟨w, u⟩ := y
    obtain ⟨hw, hrest⟩ := List.pairwise_cons.1 h
    simp only [insertEntry]
    split
    · rename_i hlt
      refine List.pairwise_cons.2 ⟨fun e he => ?_, h⟩
      rcases List.mem_cons.1 he with rfl | he
      · exact hlt
      · exact String.lt_trans hlt (hw e he)
    · rename_i hnlt
      split
      · rename_i heq
        exact List.pairwise_cons.2 ⟨fun e he => heq ▸ hw e he, hrest⟩
      · rename_i hne
        refine List.pairwise_cons.2 ⟨fun e he => ?_, ih hrest⟩
        rcases mem_insertEntry he with rfl | he
        · exact name_lt_of_not_lt hnlt hne
        · exact hw e he

/-- The map without entries. -/
def empty : VariableMap α := ⟨[], .nil⟩

instance : EmptyCollection (VariableMap α) := ⟨empty⟩

instance : Inhabited (VariableMap α) := ⟨empty⟩

/-- Maps are equal when their entries are. -/
theorem ext_entries {a b : VariableMap α} (h : a.entries = b.entries) : a = b := by
  cases a
  cases b
  cases h
  rfl

instance [DecidableEq α] : DecidableEq (VariableMap α) := fun a b =>
  decidable_of_iff (a.entries = b.entries) ⟨ext_entries, fun h => h ▸ rfl⟩

/-- The value of a variable. -/
def get? (m : VariableMap α) (v : Variable) : Option α := m.entries.lookup v

/-- The map with a value for a variable, whatever it had before. -/
def insert (m : VariableMap α) (v : Variable) (x : α) : VariableMap α :=
  ⟨insertEntry v x m.entries, insertEntry_sorted v x m.sorted⟩

/-- The map with entries added one after the other; of several for one variable the last stays. -/
def insertAll (m : VariableMap α) (entries : List (Variable × α)) : VariableMap α :=
  entries.foldl (fun m e => m.insert e.1 e.2) m

/-- The map with the given entries; of several for one variable the last stays. -/
def ofList (entries : List (Variable × α)) : VariableMap α := insertAll empty entries

/-- The variables of the map, in order. -/
def keys (m : VariableMap α) : List Variable := m.entries.map (·.1)

/-- The variable has a value. -/
def binds (m : VariableMap α) (v : Variable) : Bool := (m.get? v).isSome

/-- The number of entries. -/
def size (m : VariableMap α) : Nat := m.entries.length

/-- The map has no entries. -/
def isEmpty (m : VariableMap α) : Bool := m.entries.isEmpty

/-- The entries of the variables that pass a test. -/
def filter (keep : Variable → Bool) (m : VariableMap α) : VariableMap α :=
  ⟨m.entries.filter (fun e => keep e.1), m.sorted.filter _⟩

/-- The value of a variable after an insertion. -/
theorem lookup_insertEntry (v w : Variable) (x : α) (l : List (Variable × α)) :
    (insertEntry v x l).lookup w = if w = v then some x else l.lookup w := by
  induction l with
  | nil =>
    by_cases h : w = v
    · simp [insertEntry, h]
    · have hb : (w == v) = false := by simpa using h
      simp [insertEntry, List.lookup_cons, hb, h]
  | cons y rest ih =>
    obtain ⟨u, z⟩ := y
    simp only [insertEntry]
    split
    · by_cases h : w = v
      · simp [h]
      · have hb : (w == v) = false := by simpa using h
        simp [List.lookup_cons, hb, h]
    · split
      · rename_i heq
        by_cases h : w = v
        · simp [h]
        · have hb : (w == v) = false := by simpa using h
          have hb' : (w == u) = false := by simpa [← heq] using h
          simp [List.lookup_cons, hb, hb', h]
      · rename_i hne
        by_cases hu : w = u
        · have h : w ≠ v := fun h => hne (h ▸ hu)
          simp only [hu, List.lookup_cons, beq_self_eq_true]
          exact (if_neg fun h' => hne h'.symm).symm
        · have hb : (w == u) = false := by simpa using hu
          simp [List.lookup_cons, hb, ih]

/-- An insertion changes the value of its variable only. -/
theorem get?_insert (m : VariableMap α) (v w : Variable) (x : α) :
    (m.insert v x).get? w = if w = v then some x else m.get? w :=
  lookup_insertEntry v w x m.entries

/-- A variable before all those of a list has no value in it. -/
theorem lookup_eq_none_of_lt {v : Variable} {l : List (Variable × α)}
    (h : ∀ e ∈ l, v.name < e.1.name) : l.lookup v = none := by
  induction l with
  | nil => rfl
  | cons y rest ih =>
    obtain ⟨w, u⟩ := y
    have hw : v.name < w.name := h (w, u) List.mem_cons_self
    have hb : (v == w) = false := by
      simpa using fun heq : v = w => String.lt_irrefl _ (heq ▸ hw)
    simp only [List.lookup_cons, hb]
    exact ih fun e he => h e (List.mem_cons_of_mem _ he)

/-- Entries in order are determined by the values of all variables. -/
theorem eq_of_lookup_eq {l m : List (Variable × α)}
    (hl : l.Pairwise (fun a b => a.1.name < b.1.name))
    (hm : m.Pairwise (fun a b => a.1.name < b.1.name)) (h : ∀ v, l.lookup v = m.lookup v) :
    l = m := by
  induction l generalizing m with
  | nil =>
    cases m with
    | nil => rfl
    | cons y rest =>
      obtain ⟨w, b⟩ := y
      simpa using h w
  | cons x l ih =>
    obtain ⟨v, a⟩ := x
    cases m with
    | nil => simpa using h v
    | cons y m =>
      obtain ⟨w, b⟩ := y
      obtain ⟨hv, hl'⟩ := List.pairwise_cons.1 hl
      obtain ⟨hw, hm'⟩ := List.pairwise_cons.1 hm
      -- the first variables agree: the smaller of the two would be missing from the other list
      have hvw : v = w := by
        refine Classical.byContradiction fun hne => ?_
        by_cases hlt : v.name < w.name
        · have hnone : ((w, b) :: m).lookup v = none :=
            lookup_eq_none_of_lt fun e he => by
              rcases List.mem_cons.1 he with rfl | he
              · exact hlt
              · exact String.lt_trans hlt (hw e he)
          have := h v
          simp [hnone] at this
        · have hgt : w.name < v.name := name_lt_of_not_lt hlt hne
          have hnone : ((v, a) :: l).lookup w = none :=
            lookup_eq_none_of_lt fun e he => by
              rcases List.mem_cons.1 he with rfl | he
              · exact hgt
              · exact String.lt_trans hgt (hv e he)
          have := h w
          simp [hnone] at this
      subst hvw
      have hab : a = b := by simpa using h v
      subst hab
      refine congrArg _ (ih hl' hm' fun u => ?_)
      by_cases hu : u = v
      · subst hu
        rw [lookup_eq_none_of_lt hv, lookup_eq_none_of_lt hw]
      · have hb : (u == v) = false := by simpa using hu
        simpa [List.lookup_cons, hb] using h u

/-- Maps with the same values are equal. -/
theorem ext_get? {a b : VariableMap α} (h : ∀ v, a.get? v = b.get? v) : a = b :=
  ext_entries (eq_of_lookup_eq a.sorted b.sorted h)

/-- The empty map has no values. -/
@[simp] theorem get?_empty (v : Variable) : (empty : VariableMap α).get? v = none := rfl

end VariableMap

end PagedSparql
