import PagedSparql.Proofs.Rdf.Row
import PagedSparql.Rdf.RowNotation

/-!
# Rows read back

A row is written with its variables in the order of their names, and so stands in JSON as it is
(`Row.toJson_eq`). It is read back if its terms are (`Row.ofJson_toJson`).
-/

namespace PagedSparql

namespace Json

/-- A member after all others is put at the end. -/
theorem insertMember_of_lt {key : String} {members : List (String × Json)}
    (h : ∀ m ∈ members, m.1 < key) (value : Json) :
    insertMember key value members = members ++ [(key, value)] := by
  induction members with
  | nil => rfl
  | cons m rest ih =>
    obtain ⟨k, v⟩ := m
    have hk : k < key := h (k, v) List.mem_cons_self
    have hlt : ¬key < k := fun hlt => String.lt_irrefl _ (String.lt_trans hk hlt)
    have hne : key ≠ k := fun heq => String.lt_irrefl _ (heq ▸ hk)
    rw [insertMember, if_neg hlt, if_neg hne, ih fun m hm => h m (List.mem_cons_of_mem _ hm)]
    rfl

/-- Members in order make an object of just them. -/
theorem mkObj_of_sorted {members : List (String × Json)}
    (h : members.Pairwise fun a b => a.1 < b.1) : mkObj members = .obj members := by
  -- The members taken so far are before all others.
  have hfold : ∀ rest before : List (String × Json),
      (before ++ rest).Pairwise (fun a b => a.1 < b.1) →
        rest.foldl (fun o m => insertMember m.1 m.2 o) before = before ++ rest := by
    intro rest
    induction rest with
    | nil => intro before _; simp
    | cons m rest ih =>
      intro before hsorted
      have hlt : ∀ m' ∈ before, m'.1 < m.1 := fun m' hm' =>
        (List.pairwise_append.1 hsorted).2.2 m' hm' m List.mem_cons_self
      rw [List.foldl_cons, insertMember_of_lt hlt, ih _ (by simpa using hsorted)]
      simp
  rw [mkObj, hfold members [] (by simpa using h)]
  rfl

end Json

namespace Variable

/-- The text of a variable is its name behind the sigil. -/
theorem toList_toText (v : Variable) : v.toText.toList = '?' :: v.name.toList := by
  rw [toText, String.toList_append]
  rfl

/-- A variable is read back from its text. -/
@[simp] theorem ofText_toText (v : Variable) : ofText v.toText = v := by
  rw [ofText, toList_toText]
  simp [dropSigil]

/-- Variables are written in the order of their names. -/
theorem toText_lt_toText {v w : Variable} (h : v.name < w.name) : v.toText < w.toText := by
  rw [String.lt_iff] at h ⊢
  rw [toList_toText, toList_toText, List.cons_lt_cons_iff]
  exact .inr ⟨rfl, h⟩

end Variable

/-- The term is read back from its compact form. -/
def Term.Readable (t : Term) : Prop := Term.parse t.toCompact = .ok t

instance (t : Term) : Decidable t.Readable := inferInstanceAs (Decidable (_ = _))

/-- The entries of a map make it. -/
theorem VariableMap.ofList_entries {α : Type} (m : VariableMap α) : ofList m.entries = m :=
  ext_get? fun v => get?_ofList v _ m.entries_pairwise_ne

namespace Row

/-- The cell of an entry. -/
def cell (e : Variable × Term) : String × Json := (e.1.toText, .str e.2.toCompact)

/-- A row is written as its cells, in order. -/
theorem toJson_eq (r : Row) : r.toJson = .obj (r.entries.map cell) :=
  Json.mkObj_of_sorted <| List.pairwise_map.2 <|
    r.sorted.imp fun h => Variable.toText_lt_toText h

/-- Cells of terms that are read back are read as the entries that they were written for. -/
theorem ofMembers_cells {entries : List (Variable × Term)} (h : ∀ e ∈ entries, e.2.Readable)
    (r : Row) : ofMembers r (entries.map cell) = .ok (r.insertAll entries) := by
  induction entries generalizing r with
  | nil => rfl
  | cons e rest ih =>
    have hcell : Term.parse e.2.toCompact = .ok e.2 := h e List.mem_cons_self
    have hrest := ih (fun e he => h e (List.mem_cons_of_mem _ he)) (r.insert e.1 e.2)
    rw [List.map_cons, cell, ofMembers, hcell, Variable.ofText_toText]
    exact hrest

/-- A row is read back if its terms are. -/
theorem ofJson_toJson {r : Row} (h : ∀ v t, r.get? v = some t → t.Readable) :
    ofJson r.toJson = .ok r := by
  have hentries : ∀ e ∈ r.entries, e.2.Readable :=
    fun e he => h e.1 e.2 (VariableMap.mem_entries_iff.1 he)
  rw [toJson_eq, ofJson, ofMembers_cells hentries]
  exact congrArg _ r.ofList_entries

end Row

end PagedSparql
