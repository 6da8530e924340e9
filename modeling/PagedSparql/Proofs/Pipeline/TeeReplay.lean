import Mathlib.Order.Bounds.Basic
import PagedSparql.Pipeline.Stage
import PagedSparql.Proofs.Pipeline.TeeRows

/-!
# Pulls of a tee

The readers of a tee pull it in any order. Each of them gets the rows of the source one after the
other and then, for ever, the ending of the source (`replay`), and the source is asked once for each
row and once for its ending (`TeeRun.replays`). What the tee holds between two pulls is the gap
between the rows that the source has handed on and the rows that the slowest reader has taken.

The argument follows the numbers of pulls that the readers have made. They determine the tee
(`Tee.Replaying`), and of a pull of one reader there are two cases: the source was already asked for
what this reader lacks (`Replaying.serve?_eq`), or the reader has had all that the source was asked
for, and asks it (`Replaying.receive`).
-/

namespace PagedSparql

/-- What a reader gets that has pulled so often before: the next row, or the ending of the source
once it has had all rows. -/
def replay (rows : List Row) (ending : Ending) (k : Nat) : Signal :=
  rows[k]?.elim ending.signal .row

/-- A tee at work, with the number of times that its source was asked. -/
structure TeeRun where
  /-- The tee. -/
  tee : Tee
  /-- How often the source was asked. -/
  asked : Nat := 0

namespace TeeRun

/-- The tee for a number of readers, before the first pull. -/
def start (n : Nat) : TeeRun := { tee := .ofReaders n }

/-- A pull of a reader. A source answers with one signal after the other; it is asked if the tee has
nothing for the reader. -/
def pull (source : Nat → Signal) (run : TeeRun) (reader : Nat) : Signal × TeeRun :=
  match run.tee.serve? reader with
  | some (x, tee) => (x, { run with tee })
  | none =>
    let (x, tee) := run.tee.answer reader (source run.asked)
    (x, ⟨tee, run.asked + 1⟩)

/-- Pulls of readers one after the other: what they get, and the tee after them. -/
def pullAll (source : Nat → Signal) : List Nat → TeeRun → List Signal × TeeRun
  | [], run => ([], run)
  | reader :: order, run =>
    let (x, run) := run.pull source reader
    let (xs, run) := pullAll source order run
    (x :: xs, run)

/-- A branch of a fork gets what its reader pulls. -/
theorem teeSignal_eq_pull (source : Nat → Signal) (run : TeeRun) (reader : Nat) :
    Stage.teeSignal run.tee reader true (some (source run.asked)) =
      (some (run.pull source reader).1, (run.pull source reader).2.tee) := by
  unfold Stage.teeSignal pull
  cases run.tee.serve? reader <;> rfl

end TeeRun

namespace Tee

variable {t : Tee} {rows : List Row} {ending : Ending} {i : Nat} {r : TeeReader}

/-- What a tee keeps after it has dropped what it can: no row is missing that a reader has still to
take, and some reader has taken none of the rows that are kept. A reader that has seen the end has
taken all rows. -/
theorem release_spec {held : List Row} (hbuffer : t.buffer = held.drop t.dropped)
    (hkept : ∀ r ∈ t.readers, t.dropped ≤ r.taken)
    (hbound : ∀ r ∈ t.readers, r.taken ≤ held.length)
    (hfinished : ∀ r ∈ t.readers, r.finished = true → r.taken = held.length)
    (hne : t.readers ≠ []) :
    t.release.buffer = held.drop t.release.dropped ∧
      (∀ r ∈ t.readers, t.release.dropped ≤ r.taken) ∧
      ∃ r ∈ t.readers, t.release.dropped = r.taken := by
  have hlength : t.buffer.length = held.length - t.dropped := by
    rw [hbuffer, List.length_drop]
  obtain ⟨r₀, hr₀⟩ := List.exists_mem_of_ne_nil _ hne
  have hkept₀ := hkept r₀ hr₀
  have hbound₀ := hbound r₀ hr₀
  cases hslow : slowest? t.readers with
  | none =>
    -- Every reader has seen the end, so nothing is kept.
    have hall : ∀ r ∈ t.readers, r.taken = held.length := by
      intro r hr
      unfold slowest? at hslow
      rw [List.min?_eq_none_iff, List.map_eq_nil_iff, List.filter_eq_nil_iff] at hslow
      exact hfinished r hr (by simpa using hslow r hr)
    have hdropped : t.release.dropped = held.length := by
      simp only [release, hslow, Option.elim]
      omega
    refine ⟨?_, fun r hr => ?_, r₀, hr₀, ?_⟩
    · rw [hdropped, List.drop_length]
      simp only [release, hslow, Option.elim, List.drop_length]
    · rw [hdropped, hall r hr]
    · rw [hdropped, hall r₀ hr₀]
  | some n =>
    obtain ⟨r₁, hr₁, hopen₁, rfl⟩ := exists_of_slowest? hslow
    have hkept₁ := hkept r₁ hr₁
    have hbound₁ := hbound r₁ hr₁
    have hcount : min (r₁.taken - t.dropped) t.buffer.length = r₁.taken - t.dropped := by
      omega
    have hdropped : t.release.dropped = r₁.taken := by
      simp only [release, hslow, Option.elim, hcount]
      omega
    refine ⟨?_, fun r hr => ?_, r₁, hr₁, hdropped⟩
    · rw [hdropped]
      simp only [release, hslow, Option.elim, hcount]
      rw [hbuffer, List.drop_drop, Nat.add_sub_of_le hkept₁]
    · rw [hdropped]
      cases hopen : r.finished with
      | true => rw [hfinished r hr hopen]; exact hbound₁
      | false => exact le_of_slowest? hslow hr hopen

/-- The tee after its readers have made so many pulls each, and its source was asked so often. -/
structure Replaying (rows : List Row) (ending : Ending) (n : Nat) (pulls : Nat → Nat) (asked : Nat)
    (t : Tee) : Prop where
  /-- There are so many readers. -/
  length : t.readers.length = n
  /-- A reader has taken one row for each of its pulls, as long as there were rows. -/
  taken : ∀ i r, t.readers[i]? = some r → r.taken = min (pulls i) rows.length
  /-- A reader that has seen the end has pulled once more. -/
  finished : ∀ i r, t.readers[i]? = some r → r.finished = true → rows.length < pulls i
  /-- The source was asked for all that a reader has had. -/
  enough : ∀ i < n, min (pulls i) (rows.length + 1) ≤ asked
  /-- No row is missing that a reader has still to take. -/
  kept : ∀ i < n, t.dropped ≤ min (pulls i) rows.length
  /-- The buffer holds all other rows that the source has handed on. -/
  buffer : t.buffer = (rows.take asked).drop t.dropped
  /-- The ending is known once the source was asked for it. -/
  ending : t.ending? = if rows.length < asked then some ending else none

/-- The slowest reader has taken none of the rows that the tee keeps. -/
def Tight (t : Tee) (rows : List Row) (n : Nat) (pulls : Nat → Nat) : Prop :=
  0 < n → ∃ i < n, t.dropped = min (pulls i) rows.length

/-- What the source hands on makes no reader slower. -/
theorem Tight.receive {n : Nat} {pulls : Nat → Nat} (h : t.Tight rows n pulls) (x : Signal) :
    (t.receive x).Tight rows n pulls := by
  cases x <;> exact h

/-- The pulls of all readers after one more of one of them. -/
def oneMore (pulls : Nat → Nat) (i : Nat) : Nat → Nat := Function.update pulls i (pulls i + 1)

/-- The reader has pulled once more. -/
@[simp] theorem oneMore_self (pulls : Nat → Nat) (i : Nat) : oneMore pulls i i = pulls i + 1 :=
  Function.update_self ..

/-- The others have not. -/
@[simp] theorem oneMore_of_ne {i j : Nat} (h : j ≠ i) (pulls : Nat → Nat) :
    oneMore pulls i j = pulls j := Function.update_of_ne h ..

/-- Nobody has pulled less often than before. -/
theorem le_oneMore (pulls : Nat → Nat) (i j : Nat) : pulls j ≤ oneMore pulls i j := by
  by_cases h : j = i
  · subst h
    simp
  · rw [oneMore_of_ne h]

namespace Replaying

variable {n asked : Nat} {pulls : Nat → Nat}

/-- A reader is one of those of the tee. -/
theorem getElem?_readers (h : t.Replaying rows ending n pulls asked) (hi : i < n) :
    ∃ r, t.readers[i]? = some r ∧ r.taken = min (pulls i) rows.length := by
  have hr := List.getElem?_eq_getElem (h.length ▸ hi)
  exact ⟨_, hr, h.taken i _ hr⟩

/-- The readers of the tee are those with a number. -/
theorem exists_of_mem (h : t.Replaying rows ending n pulls asked) (hr : r ∈ t.readers) :
    ∃ i < n, t.readers[i]? = some r := by
  obtain ⟨i, hi⟩ := List.getElem?_of_mem hr
  exact ⟨i, h.length ▸ (List.getElem?_eq_some_iff.1 hi).1, hi⟩

/-- What the tee has for a reader that has pulled so often. -/
theorem getElem?_buffer (h : t.Replaying rows ending n pulls asked) (hi : i < n) :
    t.buffer[min (pulls i) rows.length - t.dropped]? =
      (rows.take asked)[min (pulls i) rows.length]? := by
  rw [h.buffer, List.getElem?_drop, Nat.add_sub_of_le (h.kept i hi)]

/-- A reader has pulled once more. -/
theorem modify (h : t.Replaying rows ending n pulls asked) (hr : t.readers[i]? = some r)
    {f : TeeReader → TeeReader} (htaken : (f r).taken = min (pulls i + 1) rows.length)
    (hfinished : (f r).finished = true → rows.length < pulls i + 1)
    (henough : min (pulls i + 1) (rows.length + 1) ≤ asked) :
    Replaying rows ending n (oneMore pulls i) asked
      { t with readers := t.readers.modify i f } := by
  have hreader : ∀ j r', (t.readers.modify i f)[j]? = some r' →
      r'.taken = min (oneMore pulls i j) rows.length ∧
        (r'.finished = true → rows.length < oneMore pulls i j) := by
    intro j r' hj
    rw [List.getElem?_modify] at hj
    by_cases hij : j = i
    · subst hij
      obtain rfl : f r = r' := by simpa [hr] using hj
      rw [oneMore_self]
      exact ⟨htaken, hfinished⟩
    · have hj' : t.readers[j]? = some r' := by simpa [Ne.symm hij] using hj
      rw [oneMore_of_ne hij]
      exact ⟨h.taken j r' hj', h.finished j r' hj'⟩
  refine ⟨by rw [List.length_modify, h.length], fun j r' hj => (hreader j r' hj).1,
    fun j r' hj => (hreader j r' hj).2, fun j hj => ?_, fun j hj => ?_, h.buffer, h.ending⟩
  · by_cases hij : j = i
    · subst hij
      simpa using henough
    · rw [oneMore_of_ne hij]
      exact h.enough j hj
  · have hkept := h.kept j hj
    have hle := le_oneMore pulls i j
    show t.dropped ≤ _
    omega

/-- The tee has dropped the rows that every reader has taken. -/
theorem release (h : t.Replaying rows ending n pulls asked) (hn : 0 < n) :
    t.release.Replaying rows ending n pulls asked ∧ t.release.Tight rows n pulls := by
  have hheld : (rows.take asked).length = min asked rows.length := List.length_take
  obtain ⟨hbuffer, hkept, r₀, hr₀, hdropped⟩ := release_spec h.buffer
    (fun r hr => by
      obtain ⟨i, hi, hir⟩ := h.exists_of_mem hr
      rw [h.taken i r hir]
      exact h.kept i hi)
    (fun r hr => by
      obtain ⟨i, hi, hir⟩ := h.exists_of_mem hr
      have := h.enough i hi
      rw [h.taken i r hir, hheld]
      omega)
    (fun r hr hend => by
      obtain ⟨i, hi, hir⟩ := h.exists_of_mem hr
      have := h.enough i hi
      have := h.finished i r hir hend
      rw [h.taken i r hir, hheld]
      omega)
    (List.ne_nil_of_length_pos (h.length.symm ▸ hn))
  refine ⟨⟨h.length, h.taken, h.finished, h.enough, fun i hi => ?_, hbuffer, h.ending⟩,
    fun _ => ?_⟩
  · obtain ⟨r, hr, htaken⟩ := h.getElem?_readers hi
    rw [← htaken]
    exact hkept r (List.mem_of_getElem? hr)
  · obtain ⟨i, hi, hir⟩ := h.exists_of_mem hr₀
    exact ⟨i, hi, hdropped.trans (h.taken i r₀ hir)⟩

/-- A reader gets what the source was asked for already. -/
theorem serve?_eq (h : t.Replaying rows ending n pulls asked) (htight : t.Tight rows n pulls)
    (hi : i < n) (hasked : min (pulls i) rows.length < asked) :
    ∃ t', t.serve? i = some (replay rows ending (pulls i), t') ∧
      t'.Replaying rows ending n (oneMore pulls i) asked ∧ t'.Tight rows n (oneMore pulls i) := by
  have hn : 0 < n := Nat.zero_lt_of_lt hi
  obtain ⟨r, hr, htaken⟩ := h.getElem?_readers hi
  have hplace := h.getElem?_buffer hi
  by_cases hrow : pulls i < rows.length
  · -- There is a row left for the reader.
    have hmin : min (pulls i) rows.length = pulls i := by omega
    have hget : t.buffer[r.taken - t.dropped]? = some rows[pulls i] := by
      rw [htaken, hplace, hmin, List.getElem?_take_of_lt (by omega)]
      exact List.getElem?_eq_getElem hrow
    refine ⟨t.settle i fun r => { r with taken := r.taken + 1 }, ?_,
      (h.modify hr ?_ ?_ ?_).release hn⟩
    · unfold serve? replay
      simp [hr, hget, hrow]
    · show r.taken + 1 = _
      omega
    · intro hend
      have := h.finished i r hr hend
      omega
    · omega
  · -- The reader has had all rows.
    have hmin : min (pulls i) rows.length = rows.length := by omega
    have hget : t.buffer[r.taken - t.dropped]? = none := by
      rw [htaken, hplace, hmin, List.getElem?_eq_none]
      rw [List.length_take]
      omega
    have hending : t.ending? = some ending := by
      rw [h.ending, if_pos (by omega)]
    have hreplay : replay rows ending (pulls i) = ending.signal := by
      rw [replay, List.getElem?_eq_none (by omega)]
      rfl
    cases ending with
    | done =>
      refine ⟨t.settle i fun r => { r with finished := true }, ?_,
        (h.modify hr ?_ ?_ ?_).release hn⟩
      · rw [hreplay]
        unfold serve?
        simp [hr, hget, hending, Ending.signal]
      · show r.taken = _
        omega
      · intro _
        omega
      · omega
    | failed e =>
      refine ⟨t, ?_, ?_, ?_⟩
      · rw [hreplay]
        unfold serve?
        simp [hr, hget, hending, Ending.signal]
      · have hsame := h.modify hr (f := id) (show r.taken = _ by omega) (fun _ => by omega)
          (by omega)
        rwa [List.modify_id] at hsame
      · intro hn
        obtain ⟨j, hj, hdropped⟩ := htight hn
        refine ⟨j, hj, ?_⟩
        by_cases hij : j = i
        · subst hij
          rw [oneMore_self]
          omega
        · rw [oneMore_of_ne hij, hdropped]

/-- A reader that has had all that the source was asked for has to ask it. -/
theorem serve?_none (h : t.Replaying rows ending n pulls asked) (hi : i < n)
    (hasked : asked ≤ min (pulls i) rows.length) : t.serve? i = none := by
  obtain ⟨r, hr, htaken⟩ := h.getElem?_readers hi
  have hget : t.buffer[r.taken - t.dropped]? = none := by
    rw [htaken, h.getElem?_buffer hi, List.getElem?_eq_none]
    rw [List.length_take]
    omega
  have hending : t.ending? = none := by
    rw [h.ending, if_neg (by omega)]
  unfold serve?
  simp [hr, hget, hending]

/-- The source is asked once more. -/
theorem receive (h : t.Replaying rows ending n pulls asked) (hn : 0 < n)
    (hasked : asked ≤ rows.length) :
    (t.receive (replay rows ending asked)).Replaying rows ending n pulls (asked + 1) := by
  have hdropped : t.dropped ≤ (rows.take asked).length := by
    have := h.kept 0 hn
    have := h.enough 0 hn
    rw [List.length_take]
    omega
  have henough : ∀ i < n, min (pulls i) (rows.length + 1) ≤ asked + 1 :=
    fun i hi => Nat.le_succ_of_le (h.enough i hi)
  -- The source gives the next row, or its ending when there is none.
  rcases Nat.lt_or_eq_of_le hasked with hlt | rfl
  · have hreplay : replay rows ending asked = .row rows[asked] := by
      rw [replay, List.getElem?_eq_getElem hlt]
      rfl
    rw [hreplay]
    refine ⟨h.length, h.taken, h.finished, henough, h.kept, ?_, ?_⟩
    · show t.buffer ++ [rows[asked]] = _
      rw [h.buffer, ← List.drop_append_of_le_length hdropped, List.take_add_one,
        List.getElem?_eq_getElem hlt]
      rfl
    · show t.ending? = _
      rw [h.ending, if_neg (by omega), if_neg (by omega)]
  · have hreplay : replay rows ending rows.length = ending.signal := by
      rw [replay, List.getElem?_eq_none (Nat.le_refl _)]
      rfl
    have hsame : rows.take (rows.length + 1) = rows.take rows.length := by
      rw [List.take_of_length_le (Nat.le_succ _), List.take_length]
    have hending : ∀ t : Tee, (t.receive ending.signal).ending? = some ending := by
      intro t
      cases ending <;> rfl
    rw [hreplay]
    refine ⟨?_, ?_, ?_, henough, ?_, ?_, ?_⟩
    · cases ending <;> exact h.length
    · cases ending <;> exact h.taken
    · cases ending <;> exact h.finished
    · cases ending <;> exact h.kept
    · rw [hsame]
      cases ending <;> exact h.buffer
    · rw [hending, if_pos (Nat.lt_succ_self _)]

end Replaying

end Tee

namespace TeeRun

/-- The invariant of pulls: what the readers have pulled tells what the tee holds and how often its
source was asked. -/
structure Inv (rows : List Row) (ending : Ending) (n : Nat) (pulls : Nat → Nat) (run : TeeRun) :
    Prop where
  /-- The tee is that of the readers. -/
  tee : run.tee.Replaying rows ending n pulls run.asked
  /-- The tee holds nothing that all readers have taken. -/
  tight : run.tee.Tight rows n pulls
  /-- The source was asked for nothing that no reader has had. -/
  needed : run.asked = 0 ∨ ∃ i < n, run.asked = min (pulls i) (rows.length + 1)

/-- What readers get that pull in some order, and what is left of the tee. -/
structure Replayed (rows : List Row) (ending : Ending) (n : Nat) (order : List Nat)
    (out : List Signal × TeeRun) : Prop where
  /-- A pull brings what follows on the earlier pulls of its reader. -/
  signals : out.1 = order.mapIdx fun k i => replay rows ending ((order.take k).count i)
  /-- The source was asked no more than once for each row, and once for the ending. -/
  once : out.2.asked ≤ rows.length + 1
  /-- The source was asked for what the reader with the most pulls has had, and for no more. -/
  asked : IsLUB {k | ∃ i < n, k = min (order.count i) (rows.length + 1)} out.2.asked
  /-- A reader has taken one row for each of its pulls, as long as there were rows. -/
  taken : ∀ i r, out.2.tee.readers[i]? = some r → r.taken = min (order.count i) rows.length
  /-- The place of a reader is in the buffer or at its end. -/
  inBounds : ∀ r ∈ out.2.tee.readers, out.2.tee.dropped ≤ r.taken ∧
    r.taken ≤ out.2.tee.dropped + out.2.tee.buffer.length
  /-- The buffer holds the rows that the source has handed on and the slowest reader lacks. -/
  gap : ∀ slowest, IsLeast {k | ∃ i < n, k = min (order.count i) rows.length} slowest →
    out.2.tee.buffer.length = min out.2.asked rows.length - slowest

variable {rows : List Row} {ending : Ending} {n : Nat} {pulls : Nat → Nat} {run : TeeRun}
  {source : Nat → Signal}

/-- The invariant holds before the first pull. -/
theorem inv_start (rows : List Row) (ending : Ending) (n : Nat) :
    (start n).Inv rows ending n fun _ => 0 := by
  have hreader : ∀ (i : Nat) (r : TeeReader), (start n).tee.readers[i]? = some r → r = {} := by
    intro i r hr
    exact List.eq_of_mem_replicate (List.mem_of_getElem? hr)
  refine ⟨⟨by simp [start, Tee.ofReaders], fun i r hr => ?_, fun i r hr => ?_, fun i _ => by simp,
    fun i _ => by simp [start, Tee.ofReaders], by simp [start, Tee.ofReaders], rfl⟩,
    fun hn => ⟨0, hn, by simp [start, Tee.ofReaders]⟩, .inl rfl⟩
  · simp [hreader i r hr]
  · simp [hreader i r hr]

/-- One pull: the reader gets what follows on its earlier ones. -/
theorem Inv.pull (hsource : ∀ k ≤ rows.length, source k = replay rows ending k)
    (h : run.Inv rows ending n pulls) {i : Nat} (hi : i < n) :
    (run.pull source i).1 = replay rows ending (pulls i) ∧
      (run.pull source i).2.Inv rows ending n (Tee.oneMore pulls i) := by
  have henough := h.tee.enough i hi
  by_cases hasked : min (pulls i) rows.length < run.asked
  · -- The tee has it.
    obtain ⟨t', hserve, htee, htight⟩ := h.tee.serve?_eq h.tight hi hasked
    have hpull : run.pull source i = (replay rows ending (pulls i), { run with tee := t' }) := by
      simp only [TeeRun.pull, hserve]
    rw [hpull]
    refine ⟨rfl, htee, htight, ?_⟩
    rcases h.needed with hzero | ⟨j, hj, hmost⟩
    · omega
    · have hmore : min (Tee.oneMore pulls i j) (rows.length + 1) =
          min (pulls j) (rows.length + 1) := by
        by_cases hij : j = i
        · subst hij
          rw [Tee.oneMore_self]
          omega
        · rw [Tee.oneMore_of_ne hij]
      exact .inr ⟨j, hj, hmost.trans hmore.symm⟩
  · -- The source is asked, and then the tee has it.
    have hat : pulls i = run.asked := by omega
    have hnone := h.tee.serve?_none hi (by omega)
    have hreceive := h.tee.receive (by omega) (show run.asked ≤ rows.length by omega)
    obtain ⟨t', hserve, htee, htight⟩ := hreceive.serve?_eq (h.tight.receive _) hi (by omega)
    have hpull : run.pull source i = (replay rows ending (pulls i), ⟨t', run.asked + 1⟩) := by
      simp only [TeeRun.pull, hnone, Tee.answer, hsource run.asked (by omega), hserve,
        Option.getD_some]
    rw [hpull]
    refine ⟨rfl, htee, htight, .inr ⟨i, hi, ?_⟩⟩
    rw [Tee.oneMore_self]
    show run.asked + 1 = _
    omega

/-- Several pulls: each brings what follows on the earlier ones of its reader. -/
theorem Inv.pullAll (hsource : ∀ k ≤ rows.length, source k = replay rows ending k)
    (h : run.Inv rows ending n pulls) {order : List Nat} (horder : ∀ i ∈ order, i < n) :
    (run.pullAll source order).1 =
        order.mapIdx (fun k i => replay rows ending (pulls i + (order.take k).count i)) ∧
      (run.pullAll source order).2.Inv rows ending n fun i => pulls i + order.count i := by
  induction order generalizing run pulls with
  | nil => exact ⟨rfl, h⟩
  | cons reader order ih =>
    obtain ⟨hreader, horder⟩ := List.forall_mem_cons.1 horder
    obtain ⟨hfirst, hinv⟩ := h.pull hsource hreader
    obtain ⟨hsignals, hlast⟩ := ih hinv horder
    have hcount : ∀ (l : List Nat) i,
        Tee.oneMore pulls reader i + l.count i = pulls i + (reader :: l).count i := by
      intro l i
      by_cases hi : i = reader
      · subst hi
        rw [Tee.oneMore_self, List.count_cons_self]
        omega
      · rw [Tee.oneMore_of_ne hi, List.count_cons_of_ne (Ne.symm hi)]
    simp only [hcount] at hsignals hlast
    refine ⟨?_, hlast⟩
    rw [List.mapIdx_cons]
    show (run.pull source reader).1 :: ((run.pull source reader).2.pullAll source order).1 = _
    rw [hfirst, hsignals]
    rfl

/-- **Every reader gets every row, in order.** The readers of a tee pull it in any order, while its
source hands on some rows and then ends or fails. Each pull brings the row that follows on those
that its reader has had, or the ending after the last one; the source is asked once for each row and
once for its ending; and the tee holds the rows that the slowest reader has still to take. -/
theorem replays (hsource : ∀ k ≤ rows.length, source k = replay rows ending k)
    {order : List Nat} (horder : ∀ i ∈ order, i < n) :
    Replayed rows ending n order ((start n).pullAll source order) := by
  obtain ⟨hsignals, htee, htight, hneeded⟩ := (inv_start rows ending n).pullAll hsource horder
  simp only [Nat.zero_add] at hsignals htee htight hneeded
  have hlength : (rows.take ((start n).pullAll source order).2.asked).length =
      min ((start n).pullAll source order).2.asked rows.length := List.length_take
  refine ⟨hsignals, ?_, ?_, htee.taken, fun r hr => ?_, fun slowest hslowest => ?_⟩
  · rcases hneeded with hzero | ⟨i, hi, hmost⟩ <;> omega
  · constructor
    · rintro k ⟨i, hi, rfl⟩
      exact htee.enough i hi
    · intro k hk
      rcases hneeded with hzero | ⟨i, hi, hmost⟩
      · rw [hzero]
        exact Nat.zero_le _
      · exact hk ⟨i, hi, hmost⟩
  · obtain ⟨i, hi, hir⟩ := htee.exists_of_mem hr
    have hkept := htee.kept i hi
    have henough := htee.enough i hi
    rw [htee.buffer, List.length_drop, hlength, htee.taken i r hir]
    omega
  · obtain ⟨⟨i, hi, hleast⟩, hlower⟩ := hslowest
    obtain ⟨j, hj, hdropped⟩ := htight (Nat.zero_lt_of_lt hi)
    have hle := htee.kept i hi
    have hge : slowest ≤ ((start n).pullAll source order).2.tee.dropped :=
      hdropped ▸ hlower ⟨j, hj, rfl⟩
    rw [htee.buffer, List.length_drop, hlength]
    omega

/-- Two rows. -/
def sampleRows : List Row := [.ofList [(⟨"x"⟩, .string "1")], .ofList [(⟨"x"⟩, .string "2")]]

/-- A source that hands on two rows and fails; if it were asked again, it would end. -/
def sampleSource (k : Nat) : Signal :=
  if k ≤ 2 then replay sampleRows (.failed (.http "gone")) k else .done

/-- The first reader gets both rows and the failure, and the failure again, while the second one
takes its first row and the third one takes nothing; so the tee holds both rows. -/
theorem replays_sample :
    (∀ k ≤ 2, sampleSource k = replay sampleRows (.failed (.http "gone")) k) ∧
      (∀ i ∈ [0, 0, 0, 1, 0], i < 3) ∧
      ((start 3).pullAll sampleSource [0, 0, 0, 1, 0]).1[3]? =
        some (.row (.ofList [(⟨"x"⟩, .string "1")])) ∧
      ((start 3).pullAll sampleSource [0, 0, 0, 1, 0]).1[4]? = some (.fail (.http "gone")) ∧
      ((start 3).pullAll sampleSource [0, 0, 0, 1, 0]).2.asked = 3 ∧
      ((start 3).pullAll sampleSource [0, 0, 0, 1, 0]).2.tee.buffer.length = 2 := by
  have hsource : ∀ k ≤ 2, sampleSource k = replay sampleRows (.failed (.http "gone")) k :=
    fun k hk => if_pos hk
  have horder : ∀ i ∈ [0, 0, 0, 1, 0], i < 3 := by decide
  have hrows : ∀ k ≤ sampleRows.length,
      sampleSource k = replay sampleRows (.failed (.http "gone")) k := hsource
  have h := replays hrows horder
  have hasked : ((start 3).pullAll sampleSource [0, 0, 0, 1, 0]).2.asked = 3 :=
    Nat.le_antisymm h.once (h.asked.1 ⟨0, by decide, rfl⟩)
  refine ⟨hsource, horder, ?_, ?_, hasked, ?_⟩
  · rw [h.signals]
    rfl
  · rw [h.signals]
    rfl
  -- The third reader has taken nothing.
  · rw [h.gap 0 ⟨⟨2, by decide, rfl⟩, fun _ _ => Nat.zero_le _⟩, hasked]
    rfl

end TeeRun

end PagedSparql
