import PagedSparql.Regex.Search

/-!
# Compiled patterns

Patterns are compiled once. The cache holds, for each pattern and its flags, exactly what compiling
them gives, and this is part of its type; so a look-up never differs from compiling anew
(`PatternCache.get_fst`).
-/

namespace PagedSparql

/-- Patterns compiled before, by their text and flags. -/
structure PatternCache where
  /-- The compiled patterns. -/
  entries : List ((String × String) × Regex)
  /-- Each of them is what compiling gives. -/
  coherent : ∀ e ∈ entries, Regex.compile e.1.1 e.1.2 = .ok e.2

namespace PatternCache

/-- The cache without patterns. -/
def empty : PatternCache := ⟨[], by simp⟩

instance : Inhabited PatternCache := ⟨empty⟩

/-- The compiled form of a pattern, from the cache or compiled and put there. -/
def get (c : PatternCache) (pattern flags : String) : Except Regex.Fault Regex × PatternCache :=
  match c.entries.lookup (pattern, flags) with
  | some r => (.ok r, c)
  | none =>
    match h : Regex.compile pattern flags with
    | .ok r => (.ok r, ⟨((pattern, flags), r) :: c.entries, by simpa [h] using c.coherent⟩)
    | .error fault => (.error fault, c)

/-- What a list looks up is one of its entries. -/
theorem mem_of_lookup {α β : Type} [BEq α] [LawfulBEq α] {l : List (α × β)} {k : α} {v : β}
    (h : l.lookup k = some v) : (k, v) ∈ l := by
  induction l with
  | nil => simp at h
  | cons e rest ih =>
    obtain ⟨k', v'⟩ := e
    simp only [List.lookup_cons] at h
    split at h
    · rename_i heq
      simp_all
    · exact List.mem_cons_of_mem _ (ih h)

/-- A look-up gives what compiling gives. -/
theorem get_fst (c : PatternCache) (pattern flags : String) :
    (c.get pattern flags).1 = Regex.compile pattern flags := by
  unfold get
  split
  · rename_i r h
    exact (c.coherent _ (mem_of_lookup h)).symm
  · split <;> simp_all

end PatternCache

end PagedSparql
