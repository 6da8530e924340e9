import Mathlib.Tactic.Common
import PagedSparql.Pipeline.Tee

/-!
# What a tee holds

A tee holds the rows of its source from some row on, and that row is one that every reader who has
not seen the end has still to take (`Tee.Holds`). So a reader is served the row that follows those
it has taken, or the end once the source has ended, and the source is asked only for a row that this
reader lacks.
-/

namespace PagedSparql

namespace Tee

/-- The tee of a source that has handed on some rows, and has perhaps ended. -/
structure Holds (t : Tee) (rows : List Row) (ended : Bool) : Prop where
  /-- The buffer holds the rows from some row on. -/
  buffer : t.buffer = rows.drop t.dropped
  /-- No more rows are missing than there were. -/
  bound : t.dropped ≤ rows.length
  /-- No row is missing that a reader has still to take. -/
  kept : ∀ r ∈ t.readers, r.finished = false → t.dropped ≤ r.taken
  /-- The tee knows whether the source has ended. -/
  ending : t.ending? = if ended then some .done else none

variable {t : Tee} {rows : List Row} {ended : Bool} {i : Nat} {r : TeeReader}

/-- The least number of rows that a reader has taken is no more than each of them has taken. -/
theorem le_of_slowest? {readers : List TeeReader} {n : Nat} (h : slowest? readers = some n)
    (hr : r ∈ readers) (hfinished : r.finished = false) : n ≤ r.taken := by
  unfold slowest? at h
  obtain ⟨-, hle⟩ := List.min?_eq_some_iff.1 h
  refine hle _ (List.mem_map_of_mem (List.mem_filter.2 ⟨hr, ?_⟩))
  simp [hfinished]

/-- Some reader has taken the least number of rows. -/
theorem exists_of_slowest? {readers : List TeeReader} {n : Nat} (h : slowest? readers = some n) :
    ∃ r ∈ readers, r.finished = false ∧ r.taken = n := by
  unfold slowest? at h
  obtain ⟨hmem, -⟩ := List.min?_eq_some_iff.1 h
  obtain ⟨r, hr, hn⟩ := List.mem_map.1 hmem
  obtain ⟨hr, hfinished⟩ := List.mem_filter.1 hr
  exact ⟨r, hr, by simpa using hfinished, hn⟩

/-- Rows that every reader has taken may be dropped. -/
theorem Holds.release (h : t.Holds rows ended) : t.release.Holds rows ended := by
  have hbuffer : t.buffer.length = rows.length - t.dropped := by
    rw [h.buffer, List.length_drop]
  have hbound := h.bound
  cases hslow : slowest? t.readers with
  | none =>
    have hrelease : t.release =
        { t with buffer := t.buffer.drop t.buffer.length,
                 dropped := t.dropped + t.buffer.length } := by
      simp only [Tee.release, hslow, Option.elim]
    rw [hrelease]
    refine ⟨?_, ?_, fun r hr hfinished => ?_, h.ending⟩
    · rw [h.buffer, List.drop_drop]
    · show t.dropped + t.buffer.length ≤ rows.length
      omega
    · -- A reader who has not seen the end would have been the slowest one.
      unfold slowest? at hslow
      rw [List.min?_eq_none_iff, List.map_eq_nil_iff, List.filter_eq_nil_iff] at hslow
      exact absurd (hslow r hr) (by simp [hfinished])
  | some n =>
    have hrelease : t.release =
        { t with buffer := t.buffer.drop (min (n - t.dropped) t.buffer.length),
                 dropped := t.dropped + min (n - t.dropped) t.buffer.length } := by
      simp only [Tee.release, hslow, Option.elim]
    obtain ⟨r₀, hr₀, hfinished₀, rfl⟩ := exists_of_slowest? hslow
    have hkept₀ := h.kept r₀ hr₀ hfinished₀
    rw [hrelease]
    refine ⟨?_, ?_, fun r hr hfinished => ?_, h.ending⟩
    · rw [h.buffer, List.drop_drop]
    · show t.dropped + min (r₀.taken - t.dropped) t.buffer.length ≤ rows.length
      omega
    · have hle := le_of_slowest? hslow hr hfinished
      show t.dropped + min (r₀.taken - t.dropped) t.buffer.length ≤ r.taken
      omega

/-- A change of one reader that lets it fall behind in nothing keeps what the tee holds. -/
theorem Holds.settle {f : TeeReader → TeeReader} (h : t.Holds rows ended)
    (hf : ∀ r, (f r).finished = false → r.finished = false ∧ r.taken ≤ (f r).taken) :
    (t.settle i f).Holds rows ended := by
  refine Holds.release ⟨h.buffer, h.bound, fun r hr hfinished => ?_, h.ending⟩
  obtain ⟨j, hj⟩ := List.getElem?_of_mem hr
  rw [show ({ t with readers := t.readers.modify i f } : Tee).readers = t.readers.modify i f
    from rfl, List.getElem?_modify] at hj
  cases hold : t.readers[j]? with
  | none => simp [hold] at hj
  | some r' =>
    have hr' := List.mem_of_getElem? hold
    simp only [hold, Option.map_eq_map, Option.map_some, Option.some.injEq] at hj
    split at hj
    · subst hj
      obtain ⟨hfinished', hle⟩ := hf r' hfinished
      exact Nat.le_trans (h.kept r' hr' hfinished') hle
    · subst hj
      exact h.kept r' hr' hfinished

/-- The readers after one of them was changed. -/
@[simp] theorem readers_settle (t : Tee) (i : Nat) (f : TeeReader → TeeReader) :
    (t.settle i f).readers = t.readers.modify i f := rfl

/-- The row that a reader who has taken some rows lacks next is in the buffer. -/
theorem Holds.getElem? (h : t.Holds rows ended) (hr : t.readers[i]? = some r)
    (hfinished : r.finished = false) : t.buffer[r.taken - t.dropped]? = rows[r.taken]? := by
  have hkept := h.kept r (List.mem_of_getElem? hr) hfinished
  rw [h.buffer, List.getElem?_drop, Nat.add_sub_of_le hkept]

/-- A reader is served the row that it lacks. -/
theorem Holds.serve?_row (h : t.Holds rows ended) (hr : t.readers[i]? = some r)
    (hfinished : r.finished = false) {row : Row} (hrow : rows[r.taken]? = some row) :
    t.serve? i = some (.row row, t.settle i fun r => { r with taken := r.taken + 1 }) ∧
      (t.settle i fun r => { r with taken := r.taken + 1 }).Holds rows ended := by
  refine ⟨?_, h.settle fun r hfinished => ⟨hfinished, Nat.le_succ _⟩⟩
  unfold serve?
  simp [hr, h.getElem? hr hfinished, hrow]

/-- A reader that lacks nothing is served the end. -/
theorem Holds.serve?_done (h : t.Holds rows true) (hr : t.readers[i]? = some r)
    (hfinished : r.finished = false) (hrow : rows[r.taken]? = none) :
    t.serve? i = some (.done, t.settle i fun r => { r with finished := true }) ∧
      (t.settle i fun r => { r with finished := true }).Holds rows true := by
  refine ⟨?_, h.settle fun r hfinished => absurd hfinished (by simp)⟩
  unfold serve?
  simp [hr, h.getElem? hr hfinished, hrow, h.ending]

/-- A reader that lacks nothing asks the source while that has not ended. -/
theorem Holds.serve?_none (h : t.Holds rows false) (hr : t.readers[i]? = some r)
    (hfinished : r.finished = false) (hrow : rows[r.taken]? = none) : t.serve? i = none := by
  unfold serve?
  simp [hr, h.getElem? hr hfinished, hrow, h.ending]

/-- The source hands on a row. -/
theorem Holds.receive_row (h : t.Holds rows ended) (row : Row) :
    (t.receive (.row row)).Holds (rows ++ [row]) ended where
  buffer := by
    show t.buffer ++ [row] = _
    rw [h.buffer, ← List.drop_append_of_le_length h.bound]
    rfl
  bound := Nat.le_trans h.bound (by simp)
  kept := h.kept
  ending := h.ending

/-- The source ends. -/
theorem Holds.receive_done (h : t.Holds rows ended) : (t.receive .done).Holds rows true where
  buffer := h.buffer
  bound := h.bound
  kept := h.kept
  ending := rfl

/-- A tee holds nothing before anything was read. -/
theorem holds_ofReaders (n : Nat) : (ofReaders n).Holds [] false :=
  ⟨rfl, Nat.le_refl _, fun _ _ _ => Nat.zero_le _, rfl⟩

end Tee

end PagedSparql
