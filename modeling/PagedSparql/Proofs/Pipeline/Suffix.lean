import PagedSparql.Pipeline.RoundTable
import PagedSparql.Proofs.Rdf.Solutions

/-!
# Names with the number of a row

The variables that a row leaves in a pattern get the number of the row behind an underscore. The
last underscore of a name is the one before its number, since digits are no underscores, so name and
number can be told apart again (`suffixed_inj`) however many underscores and digits the name itself
has. From this follows that reading a solution back undoes the renaming (`revert?_rename`).

A name that begins with a sigil would lose it when its suffix is added, so it is excluded: `Bare`.
-/

namespace PagedSparql

/-- The name has no sigil that reading it as a text would drop. -/
def Variable.Bare (v : Variable) : Prop := Variable.ofText v.name = v

/-- Decimal digits tell their number. -/
theorem toDigits_inj {k l : Nat} (h : Nat.toDigits 10 k = Nat.toDigits 10 l) : k = l :=
  calc k = Nat.ofDigitChars 10 (Nat.toDigits 10 k) 0 := Nat.ofDigitChars_ten_toDigits.symm
    _ = Nat.ofDigitChars 10 (Nat.toDigits 10 l) 0 := by rw [h]
    _ = l := Nat.ofDigitChars_ten_toDigits

namespace RoundTable

/-- Two texts that end in different parts without a mark after a mark agree before and after it. -/
theorem append_mark_inj {α : Type} {mark : α} {a b x y : List α} (hx : mark ∉ x) (hy : mark ∉ y)
    (h : a ++ mark :: x = b ++ mark :: y) : a = b ∧ x = y := by
  induction a generalizing b with
  | nil =>
    cases b with
    | nil => exact ⟨rfl, by simpa using h⟩
    | cons d b =>
      -- Else the mark would be in the part after the first mark.
      simp only [List.nil_append, List.cons_append, List.cons.injEq] at h
      exact absurd (h.2 ▸ by simp) hx
  | cons c a ih =>
    cases b with
    | nil =>
      simp only [List.nil_append, List.cons_append, List.cons.injEq] at h
      exact absurd (h.2 ▸ by simp) hy
    | cons d b =>
      simp only [List.cons_append, List.cons.injEq] at h
      obtain ⟨rfl, h⟩ := h
      obtain ⟨rfl, rfl⟩ := ih h
      exact ⟨rfl, rfl⟩

/-- The name of a renamed variable: the old one without a sigil, an underscore, and the number. -/
theorem suffixed_toList (v : Variable) (key : Nat) :
    (suffixed v key).name.toList =
      Variable.dropSigil v.name.toList ++ '_' :: Nat.toDigits 10 key := by
  have htext : (v.name ++ "_" ++ toString key).toList =
      v.name.toList ++ '_' :: Nat.toDigits 10 key := by
    simp [Nat.toList_repr]
  simp only [suffixed, Variable.ofText, htext, String.toList_ofList]
  cases v.name.toList with
  | nil => rfl
  | cons c l =>
    simp only [List.cons_append, Variable.dropSigil]
    split <;> split <;> simp_all

/-- A new name tells the number of its row. -/
theorem suffixed_key_inj {v w : Variable} {k l : Nat} (h : suffixed v k = suffixed w l) :
    k = l := by
  have hlist := congrArg (fun v => v.name.toList) h
  simp only [suffixed_toList] at hlist
  exact toDigits_inj (append_mark_inj Nat.underscore_not_in_toDigits
    Nat.underscore_not_in_toDigits hlist).2

/-- The name of a renamed variable that has no sigil: the old one, an underscore, and the number of
the row. -/
theorem suffixed_name {v : Variable} (hv : v.Bare) (key : Nat) :
    (suffixed v key).name.toList = v.name.toList ++ '_' :: Nat.toDigits 10 key := by
  have hdrop : Variable.dropSigil v.name.toList = v.name.toList := by
    have := congrArg (fun w => w.name.toList) hv
    simpa [Variable.ofText] using this
  rw [suffixed_toList, hdrop]

/-- Names with a number tell both the old name and the number. -/
theorem suffixed_inj {v w : Variable} {k l : Nat} (hv : v.Bare) (hw : w.Bare)
    (h : suffixed v k = suffixed w l) : v = w ∧ k = l := by
  have hlist : v.name.toList ++ '_' :: Nat.toDigits 10 k =
      w.name.toList ++ '_' :: Nat.toDigits 10 l := by
    rw [← suffixed_name hv, ← suffixed_name hw, h]
  refine ⟨?_, suffixed_key_inj h⟩
  have hname := (append_mark_inj Nat.underscore_not_in_toDigits
    Nat.underscore_not_in_toDigits hlist).1
  cases v
  cases w
  simpa [String.toList_inj] using hname

/-- One number keeps the names of a pattern apart. -/
theorem suffixed_injOn {B : Bgp} (hB : ∀ v ∈ B.vars, v.Bare) (key : Nat) :
    Set.InjOn (suffixed · key) {v | v ∈ B.vars} :=
  fun v hv w hw h => (suffixed_inj (hB v hv) (hB w hw) h).1

/-- The pattern for a row is what the row leaves of the pattern, renamed. -/
theorem patternFor_eq (B : Bgp) (key : Nat) (row : Row) :
    patternFor B key row = (B.substitute row).rename (suffixed · key) := by
  simp [patternFor, Bgp.substitute, Bgp.rename]

/-- The new names of a row stand for the variables that it leaves. -/
theorem renamesOf_eq (B : Bgp) (key : Nat) (row : Row) :
    renamesOf B key row = (B.substitute row).vars.map fun v => (suffixed v key, key, v) := by
  simp [renamesOf, Bgp.substitute, Bgp.vars, List.flatMap_map]

/-- The new names of a round. -/
def renamesOfAll (B : Bgp) (rows : List Row) : List (Variable × Nat × Variable) :=
  (rows.mapIdx (renamesOf B)).flatten

/-- A new name stands for a variable that its row leaves. -/
theorem mem_renamesOfAll {B : Bgp} {rows : List Row} {e : Variable × Nat × Variable} :
    e ∈ renamesOfAll B rows ↔ ∃ row, rows[e.2.1]? = some row ∧
      e.2.2 ∈ (B.substitute row).vars ∧ e.1 = suffixed e.2.2 e.2.1 := by
  obtain ⟨w, key, v⟩ := e
  simp only [renamesOfAll, List.mem_flatten, List.mem_mapIdx, renamesOf_eq]
  constructor
  · rintro ⟨l, ⟨i, hi, rfl⟩, he⟩
    obtain ⟨u, hu, heq⟩ := List.mem_map.1 he
    obtain ⟨rfl, rfl, rfl⟩ : suffixed u i = w ∧ i = key ∧ u = v := by simpa using heq
    exact ⟨rows[i], List.getElem?_eq_getElem hi, hu, rfl⟩
  · rintro ⟨row, hrow, hv, rfl⟩
    obtain ⟨hi, rfl⟩ := List.getElem?_eq_some_iff.1 hrow
    exact ⟨_, ⟨key, hi, rfl⟩, List.mem_map.2 ⟨v, hv, rfl⟩⟩

/-- A list whose entries for a key all have one value looks it up, if there is such an entry. -/
theorem lookup_eq_some_of_forall {α β : Type} [BEq α] [LawfulBEq α] {l : List (α × β)} {x : α}
    {y : β} (hall : ∀ e ∈ l, e.1 = x → e.2 = y) (hex : ∃ e ∈ l, e.1 = x) :
    l.lookup x = some y := by
  induction l with
  | nil => simp at hex
  | cons e rest ih =>
    obtain ⟨x', y'⟩ := e
    rw [List.lookup_cons]
    by_cases hx : x = x'
    · subst hx
      have hy : y' = y := hall _ List.mem_cons_self rfl
      simp [hy]
    · have hb : (x == x') = false := by simpa using hx
      simp only [hb]
      refine ih (fun e he => hall e (List.mem_cons_of_mem _ he)) ?_
      obtain ⟨e, he, hex⟩ := hex
      rcases List.mem_cons.1 he with rfl | he
      · exact absurd hex.symm hx
      · exact ⟨e, he, hex⟩

/-- The new name of a variable that a row leaves tells the row and the variable. -/
theorem lookup_renamesOfAll {B : Bgp} (hB : ∀ v ∈ B.vars, v.Bare) {rows : List Row} {key : Nat}
    {row : Row} (hrow : rows[key]? = some row) {v : Variable}
    (hv : v ∈ (B.substitute row).vars) :
    (renamesOfAll B rows).lookup (suffixed v key) = some (key, v) := by
  refine lookup_eq_some_of_forall ?_ ⟨(suffixed v key, key, v), ?_, rfl⟩
  · rintro ⟨w, k, u⟩ he rfl
    obtain ⟨row', -, hu, heq⟩ := mem_renamesOfAll.1 he
    obtain ⟨rfl, rfl⟩ := suffixed_inj (hB v (Bgp.mem_vars_substitute.1 hv).1)
      (hB u (Bgp.mem_vars_substitute.1 hu).1) heq
    rfl
  · exact mem_renamesOfAll.2 ⟨row, hrow, hv, rfl⟩

/-- Entries that all tell one row are read under their old names. -/
theorem revertEntries_of_lookup {renames : List (Variable × Nat × Variable)} {key : Nat}
    (old : Variable → Variable) {entries : List (Variable × Term)}
    (h : ∀ e ∈ entries, renames.lookup e.1 = some (key, old e.1)) (key? : Option Nat)
    (hkey : key? = some key ∨ key? = none ∧ entries ≠ []) (row : Row) :
    revertEntries renames key? row entries =
      some (key, row.insertAll (entries.map fun e => (old e.1, e.2))) := by
  induction entries generalizing key? row with
  | nil =>
    obtain rfl : key? = some key := by simpa using hkey
    rfl
  | cons e rest ih =>
    obtain ⟨w, t⟩ := e
    have hlookup : renames.lookup w = some (key, old w) := h (w, t) List.mem_cons_self
    have hagree : key?.all (· == key) = true := by
      rcases hkey with rfl | ⟨rfl, -⟩ <;> simp
    simp only [revertEntries, hlookup, hagree, if_true]
    exact ih (fun e he => h e (List.mem_cons_of_mem _ he)) _ (.inl rfl) _

/-- Reading a solution for one row of a round back tells the row and undoes the renaming. -/
theorem revert?_rename {B : Bgp} (hB : ∀ v ∈ B.vars, v.Bare) {rows : List Row} {key : Nat}
    {row m : Row} (hrow : rows[key]? = some row)
    (hm : ∀ v, m.binds v = true → v ∈ (B.substitute row).vars) (hne : m ≠ .empty) :
    (build B rows).revert? (m.rename (suffixed · key)) = some (key, m) := by
  have hbare : ∀ v, m.binds v = true → v.Bare :=
    fun v hv => hB v (Bgp.mem_vars_substitute.1 (hm v hv)).1
  have hinj : Set.InjOn (suffixed · key) {v | m.binds v = true} :=
    fun v hv w hw h => (suffixed_inj (hbare v hv) (hbare w hw) h).1
  generalize hr : m.rename (suffixed · key) = r
  have hr0 : r ≠ .empty := hr ▸ Row.rename_ne_empty hinj hne
  have hr0' : r.isEmpty = false := by
    rw [Bool.eq_false_iff]
    exact fun h => hr0 (VariableMap.isEmpty_iff.1 h)
  have hentries : r.entries ≠ [] := fun h => by simp [VariableMap.isEmpty, h] at hr0'
  have hval : ∀ {w t}, r.get? w = some t ↔ ∃ v, suffixed v key = w ∧ m.get? v = some t := by
    rw [← hr]
    exact Row.get?_rename_iff hinj
  -- The old name of a new one is what the table says.
  let old (w : Variable) : Variable := (((renamesOfAll B rows).lookup w).map (·.2)).getD w
  have hlookup : ∀ v, m.binds v = true →
      (renamesOfAll B rows).lookup (suffixed v key) = some (key, v) :=
    fun v hv => lookup_renamesOfAll hB hrow (hm v hv)
  have hold : ∀ v, m.binds v = true → old (suffixed v key) = v := fun v hv => by
    simp [old, hlookup v hv]
  have hread : ∀ e ∈ r.entries, (renamesOfAll B rows).lookup e.1 = some (key, old e.1) := by
    rintro ⟨w, t⟩ he
    obtain ⟨v, rfl, hv⟩ := hval.1 (VariableMap.mem_entries_iff.1 he)
    have hb := VariableMap.binds_iff.2 ⟨t, hv⟩
    simp only [hold v hb, hlookup v hb]
  have hstep : (build B rows).revert? r =
      revertEntries (renamesOfAll B rows) none .empty r.entries := by
    simp only [revert?, build, hr0', renamesOfAll]
    rfl
  rw [hstep, revertEntries_of_lookup old hread none (.inr ⟨rfl, hentries⟩) .empty, ← hr]
  exact congrArg (fun x => some (key, x)) (Row.rename_rename hold)

/-- An empty solution tells its row only if the round has one row. -/
theorem revert?_empty (B : Bgp) (rows : List Row) :
    (build B rows).revert? .empty = if rows.length = 1 then some (0, .empty) else none := rfl

end RoundTable

end PagedSparql
