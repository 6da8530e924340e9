import Mathlib.Algebra.BigOperators.Group.List.Basic
import Mathlib.Algebra.Ring.Int.Defs
import PagedSparql.Eval.Functions
import PagedSparql.Proofs.Number.Digits

/-!
# Durations

A duration is written as an optional sign, the letters `PT`, and components, each a number in digits
with the letter of its unit (`DateTime.Written`). It has an exact length in seconds, and such texts
are the only ones that are read (`DateTime.exists_written_of_readDuration?`).

A number of more than 31 bits is refused, but the sum of the components is counted in 32 bits, and the
program stops as soon as it does not fit (`DateTime.readDuration?_eq_overflow_iff`), whatever follows
in the text. So a duration that is read has its exact length (`DateTime.readDuration?_written_iff`),
and a time is moved to a timezone of less than a day only; but not every longer duration is reported
(`DateTime.durations_exact_iff`).
-/

namespace PagedSparql

/-- The numbers of 32 bits with a sign. -/
theorem Checked.int32_eq (n : Int) :
    int32 n = if -2 ^ 31 ≤ n ∧ n < 2 ^ 31 then .ok n else .error .overflow := by
  have hmin : Int32.minValue.toInt = -2 ^ 31 := by decide
  have hmax : Int32.maxValue.toInt = 2 ^ 31 - 1 := by decide
  have hfits : Int32.minValue.toInt ≤ n ∧ n ≤ Int32.maxValue.toInt ↔
      -2 ^ 31 ≤ n ∧ n < 2 ^ 31 := by omega
  simp only [int32, hfits]

namespace DateTime

/-! ## Written durations -/

/-- The units of a duration. -/
inductive DurationUnit where
  /-- Hours. -/
  | hours
  /-- Minutes. -/
  | minutes
  /-- Seconds. -/
  | seconds
  deriving DecidableEq

/-- The letter of a unit. -/
def DurationUnit.letter : DurationUnit → Char
  | .hours => 'H'
  | .minutes => 'M'
  | .seconds => 'S'

/-- The seconds that a unit lasts. -/
def DurationUnit.length : DurationUnit → Int
  | .hours => 3600
  | .minutes => 60
  | .seconds => 1

/-- A number in digits with a unit. -/
structure Component where
  /-- The digits. -/
  digits : List Char
  /-- The unit. -/
  unit : DurationUnit
  /-- There is a digit. -/
  digits_ne_nil : digits ≠ []
  /-- All of them are digits. -/
  all_isDigit : digits.all Double.isDigit = true

namespace Component

/-- The text of a component. -/
def text (c : Component) : List Char := c.digits ++ [c.unit.letter]

/-- The number of units. -/
def amount (c : Component) : Nat := Nat.ofDigitChars 10 c.digits 0

/-- The exact length in seconds. -/
def seconds (c : Component) : Int := c.amount * c.unit.length

/-- The number of units has at most 31 bits. -/
def Fits (c : Component) : Prop := c.amount < 2 ^ 31

instance (c : Component) : Decidable c.Fits := inferInstanceAs (Decidable (_ < _))

end Component

/-- A duration as it is written. -/
structure Written where
  /-- The duration has a sign. -/
  negative : Bool
  /-- The components in their order. -/
  components : List Component

namespace Written

/-- The text of a duration. -/
def text (w : Written) : List Char :=
  (if w.negative then ['-'] else []) ++ 'P' :: 'T' :: w.components.flatMap Component.text

/-- The exact length in seconds, below zero for a duration with a sign. -/
def seconds (w : Written) : Int :=
  (if w.negative then -1 else 1) * (w.components.map Component.seconds).sum

/-- All numbers have at most 31 bits. -/
def Fits (w : Written) : Prop := ∀ c ∈ w.components, c.Fits

end Written

/-! ## Components -/

/-- The letter of a unit is read as the seconds of that unit, and is no digit. -/
theorem unitSeconds?_letter (u : DurationUnit) :
    unitSeconds? u.letter = some u.length ∧ Double.isDigit u.letter = false := by
  cases u <;> decide

/-- Only the letters of units are read. -/
theorem exists_unit_of_unitSeconds? {c : Char} {seconds : Int} (h : unitSeconds? c = some seconds) :
    ∃ u : DurationUnit, u.letter = c := by
  unfold unitSeconds? at h
  split at h
  · next hc => exact ⟨.hours, hc.symm⟩
  · split at h
    · next hc => exact ⟨.minutes, hc.symm⟩
    · split at h
      · next hc => exact ⟨.seconds, hc.symm⟩
      · cases h

/-- Digits are gathered until a letter follows. -/
theorem components?_digits {digits : List Char} (h : digits.all Double.isDigit = true) (total : Int)
    (read rest : List Char) :
    components? total read (digits ++ rest) = components? total (read ++ digits) rest := by
  induction digits generalizing read with
  | nil => simp
  | cons c digits ih =>
    rw [List.all_cons, Bool.and_eq_true] at h
    rw [List.cons_append, components?, if_pos h.1, ih h.2, List.append_assoc, List.singleton_append]

/-- No component has a length below zero. -/
theorem Component.seconds_nonneg (c : Component) : 0 ≤ c.seconds := by
  rw [seconds]
  cases c.unit <;> simp only [DurationUnit.length] <;> omega

/-- Nor have several of them together. -/
theorem sum_seconds_nonneg (cs : List Component) : 0 ≤ (cs.map Component.seconds).sum := by
  induction cs with
  | nil => simp
  | cons c cs ih =>
    rw [List.map_cons, List.sum_cons]
    exact Int.add_nonneg c.seconds_nonneg ih

/-- A component whose number does not fit is too long for the sum. -/
theorem Component.le_seconds {c : Component} (h : ¬c.Fits) : 2 ^ 31 ≤ c.seconds := by
  rw [Fits] at h
  rw [seconds]
  cases c.unit <;> simp only [DurationUnit.length] <;> omega

/-- What is added to a sum stops the program just if the new sum does not fit. -/
theorem bind_int32_add {α : Type} {total part : Int} (htotal : 0 ≤ total) (hpart : 0 ≤ part)
    (f : Int → Checked α) :
    ((Checked.int32 part).bind fun part => (Checked.int32 (total + part)).bind f) =
      if total + part < 2 ^ 31 then f (total + part) else .error .overflow := by
  rw [Checked.int32_eq part]
  by_cases h : part < 2 ^ 31
  · rw [if_pos (by omega), Except.bind, Checked.int32_eq]
    by_cases hsum : total + part < 2 ^ 31
    · rw [if_pos (by omega), if_pos hsum]
      rfl
    · rw [if_neg (by omega), if_neg hsum]
      rfl
  · rw [if_neg (by omega), if_neg (by omega)]
    rfl

/-- A component is added to the sum if its number fits, and then stops the program if the sum does
not. -/
theorem components?_component (c : Component) {total : Int} (htotal : 0 ≤ total)
    (rest : List Char) : components? total [] (c.text ++ rest) =
      if c.Fits then
        if total + c.seconds < 2 ^ 31 then components? (total + c.seconds) [] rest
        else .error .overflow
      else .ok none := by
  obtain ⟨hunit, hletter⟩ := unitSeconds?_letter c.unit
  have hne : c.digits.isEmpty = false := List.isEmpty_eq_false_iff.2 c.digits_ne_nil
  have hamount : Double.ofDigits c.digits = c.amount := rfl
  have hmax : Int32.maxValue.toInt = 2 ^ 31 - 1 := by decide
  have hfits : c.digits.isEmpty = true ∨ Int32.maxValue.toInt < (c.amount : Int) ↔ ¬c.Fits := by
    rw [hne, hmax, Component.Fits]
    simp only [Bool.false_eq_true, false_or]
    omega
  have hseconds : (c.amount : Int) * c.unit.length = c.seconds := rfl
  -- The digits are gathered first, and then the letter is met.
  rw [Component.text, List.append_assoc, components?_digits c.all_isDigit, List.nil_append,
    List.singleton_append, components?, if_neg (by simp [hletter]), hunit]
  simp only [hamount, hfits, hseconds]
  by_cases h : c.Fits
  · rw [if_neg (not_not.2 h), if_pos h]
    exact bind_int32_add htotal c.seconds_nonneg fun total => components? total [] rest
  · rw [if_pos h, if_neg h]

/-- Components are read as their exact sum, just if it fits. -/
theorem components?_flatMap_iff (cs : List Component) {total n : Int} (htotal : 0 ≤ total)
    (hfits : total < 2 ^ 31) : components? total [] (cs.flatMap Component.text) = .ok (some n) ↔
      n = total + (cs.map Component.seconds).sum ∧
        total + (cs.map Component.seconds).sum < 2 ^ 31 := by
  induction cs generalizing total with
  | nil => simpa [components?, eq_comm] using fun _ => hfits
  | cons c cs ih =>
    have hc := c.seconds_nonneg
    have hcs := sum_seconds_nonneg cs
    rw [List.flatMap_cons, components?_component c htotal, List.map_cons, List.sum_cons,
      ← Int.add_assoc]
    by_cases hnumber : c.Fits
    · rw [if_pos hnumber]
      by_cases hsum : total + c.seconds < 2 ^ 31
      · rw [if_pos hsum]
        exact ih (Int.add_nonneg htotal hc) hsum
      · rw [if_neg hsum]
        exact ⟨fun h => (by cases h), fun h => absurd h.2 (by omega)⟩
    · have hlarge := Component.le_seconds hnumber
      rw [if_neg hnumber]
      exact ⟨fun h => (by cases h), fun h => absurd h.2 (by omega)⟩

/-- Components whose sum does not fit stop the program, whatever follows them. -/
theorem components?_eq_overflow {cs : List Component} {total : Int} (htotal : 0 ≤ total)
    (hfits : total < 2 ^ 31) (hcs : ∀ c ∈ cs, c.Fits)
    (hsum : 2 ^ 31 ≤ total + (cs.map Component.seconds).sum) (rest : List Char) :
    components? total [] (cs.flatMap Component.text ++ rest) = .error .overflow := by
  induction cs generalizing total with
  | nil => exact absurd hsum (by simpa using hfits)
  | cons c cs ih =>
    obtain ⟨hnumber, hrest⟩ := List.forall_mem_cons.1 hcs
    rw [List.map_cons, List.sum_cons, ← Int.add_assoc] at hsum
    rw [List.flatMap_cons, List.append_assoc, components?_component c htotal, if_pos hnumber]
    by_cases hc : total + c.seconds < 2 ^ 31
    · rw [if_pos hc]
      exact ih (Int.add_nonneg htotal c.seconds_nonneg) hc hrest hsum
    · rw [if_neg hc]

/-- What the components of a text come to, which are added to a sum. -/
inductive ReadsComponents (total : Int) (text : List Char) : Checked (Option Int) → Prop
  /-- The text is made of components, and their sum fits. -/
  | whole (cs : List Component) (n : Int) (htext : cs.flatMap Component.text = text)
    (hn : n = total + (cs.map Component.seconds).sum) (hfits : n < 2 ^ 31) :
    ReadsComponents total text (.ok (some n))
  /-- The text begins with components whose sum does not fit, and they stop the program. -/
  | stops (cs : List Component) (rest : List Char)
    (htext : cs.flatMap Component.text ++ rest = text) (hcs : ∀ c ∈ cs, c.Fits)
    (hsum : 2 ^ 31 ≤ total + (cs.map Component.seconds).sum) :
    ReadsComponents total text (.error .overflow)
  /-- Nothing is read. -/
  | refused : ReadsComponents total text (.ok none)

/-- What comes to something behind a component comes to the same with it in front. -/
theorem ReadsComponents.cons {c : Component} (hc : c.Fits) {total : Int} {text : List Char}
    {x : Checked (Option Int)} (h : ReadsComponents (total + c.seconds) text x) :
    ReadsComponents total (c.text ++ text) x := by
  cases h with
  | whole cs n htext hn hfits =>
    refine .whole (c :: cs) n ?_ ?_ hfits
    · rw [List.flatMap_cons, htext]
    · rw [List.map_cons, List.sum_cons, ← Int.add_assoc]
      exact hn
  | stops cs rest htext hcs hsum =>
    refine .stops (c :: cs) rest ?_ (List.forall_mem_cons.2 ⟨hc, hcs⟩) ?_
    · rw [List.flatMap_cons, List.append_assoc, htext]
    · rw [List.map_cons, List.sum_cons, ← Int.add_assoc]
      exact hsum
  | refused => exact .refused

/-- **Only components are read**, and only they stop the program. -/
theorem reads_components? {total : Int} (htotal : 0 ≤ total) (hfits : total < 2 ^ 31)
    {read : List Char} (hread : read.all Double.isDigit = true) (rest : List Char) :
    ReadsComponents total (read ++ rest) (components? total read rest) := by
  -- What was read so far are the digits of the component that comes next.
  induction rest generalizing total read with
  | nil =>
    rw [components?]
    split
    · next hempty => exact .whole [] total (by simpa using hempty.symm) (by simp) hfits
    · exact .refused
  | cons c rest ih =>
    by_cases hdigit : Double.isDigit c = true
    · rw [components?, if_pos hdigit, List.append_cons]
      exact ih htotal hfits (by simp [hread, hdigit])
    · cases hunit : unitSeconds? c with
      | none =>
        rw [components?, if_neg hdigit, hunit]
        exact .refused
      | some seconds =>
        obtain ⟨u, rfl⟩ := exists_unit_of_unitSeconds? hunit
        by_cases hne : read = []
        · rw [components?, if_neg hdigit, hunit, hne]
          exact .refused
        · obtain ⟨c, hc⟩ : ∃ c : Component, c.text ++ rest = read ++ u.letter :: rest :=
            ⟨⟨read, u, hne, hread⟩, List.append_assoc _ _ _⟩
          have hcomponent : components? total read (u.letter :: rest) =
              components? total [] (c.text ++ rest) := by
            rw [hc, components?_digits hread, List.nil_append]
          rw [hcomponent, ← hc, components?_component c htotal]
          by_cases hnumber : c.Fits
          · rw [if_pos hnumber]
            by_cases hsum : total + c.seconds < 2 ^ 31
            · rw [if_pos hsum]
              exact (ih (Int.add_nonneg htotal c.seconds_nonneg) hsum List.all_nil).cons hnumber
            · rw [if_neg hsum]
              exact .stops [c] rest (by simp) (by simpa using hnumber) (by simpa using hsum)
          · rw [if_neg hnumber]
            exact .refused

/-! ## Durations -/

/-- The length of a duration has at most 31 bits just when that of its components has. -/
theorem Written.seconds_lt_iff (w : Written) : -2 ^ 31 < w.seconds ∧ w.seconds < 2 ^ 31 ↔
    (w.components.map Component.seconds).sum < 2 ^ 31 := by
  have hnonneg := sum_seconds_nonneg w.components
  rw [Written.seconds]
  split <;> omega

/-- A sum of components that fits becomes the length when the sign is applied. -/
theorem Written.bind_signed (w : Written) (h : (w.components.map Component.seconds).sum < 2 ^ 31) :
    Except.bind (.ok (some (w.components.map Component.seconds).sum))
      (Option.mapM (signed w.negative)) = .ok (some w.seconds) := by
  have hnonneg := sum_seconds_nonneg w.components
  have hsigned : signed w.negative (w.components.map Component.seconds).sum = .ok w.seconds := by
    rw [signed, Written.seconds]
    cases w.negative with
    | false => simp
    | true =>
      rw [if_pos rfl, Checked.int32_eq, if_pos (by omega)]
      simp
  simp [Except.bind, Option.mapM_some, hsigned]

/-- The components are read, and then the sign is applied. -/
theorem readDuration?_text (w : Written) (rest : List Char) : readDuration? (w.text ++ rest) =
    (components? 0 [] (w.components.flatMap Component.text ++ rest)).bind
      (Option.mapM (signed w.negative)) := by
  obtain ⟨negative, components⟩ := w
  cases negative
  all_goals
    simp only [Written.text, List.append_assoc, List.cons_append]
    rfl

/-- **A duration is read as its exact length**, just if that has at most 31 bits. -/
theorem readDuration?_written_iff (w : Written) {n : Int} :
    readDuration? w.text = .ok (some n) ↔
      n = w.seconds ∧ -2 ^ 31 < w.seconds ∧ w.seconds < 2 ^ 31 := by
  have hsum (total : Int) : components? 0 [] (w.components.flatMap Component.text) =
      .ok (some total) ↔ total = (w.components.map Component.seconds).sum ∧
        (w.components.map Component.seconds).sum < 2 ^ 31 := by
    simpa using components?_flatMap_iff w.components (n := total) (Int.le_refl 0) (by decide)
  have htext := readDuration?_text w []
  rw [List.append_nil, List.append_nil] at htext
  rw [w.seconds_lt_iff, htext]
  by_cases hfits : (w.components.map Component.seconds).sum < 2 ^ 31
  · rw [(hsum _).2 ⟨rfl, hfits⟩, w.bind_signed hfits]
    simpa [eq_comm] using fun _ => hfits
  · refine ⟨fun h => ?_, fun h => absurd h.2 hfits⟩
    rcases hread : components? 0 [] (w.components.flatMap Component.text) with _ | (_ | total)
    · rw [hread] at h
      cases h
    · rw [hread] at h
      cases h
    · exact absurd ((hsum total).1 hread).2 hfits

/-- A text begins like a duration, or it is not read. -/
theorem exists_sign_or (text : List Char) :
    (∃ negative rest, (⟨negative, []⟩ : Written).text ++ rest = text) ∨
      readDuration? text = .ok none := by
  unfold readDuration?
  split
  next negative body heq =>
    split at heq
    · cases heq
      split
      · exact .inl ⟨true, _, rfl⟩
      · exact .inr rfl
    · cases heq
      split
      · exact .inl ⟨false, _, rfl⟩
      · exact .inr rfl

/-- What the text of a duration comes to: its length, a length that does not fit, or nothing. -/
inductive ReadsDuration (text : List Char) : Checked (Option Int) → Prop
  /-- The text is that of a duration. -/
  | whole (w : Written) (htext : w.text = text) : ReadsDuration text (.ok (some w.seconds))
  /-- The text begins with a duration whose length does not fit, though its numbers do. -/
  | stops (w : Written) (rest : List Char) (htext : w.text ++ rest = text) (hfits : w.Fits)
    (hlarge : ¬(-2 ^ 31 < w.seconds ∧ w.seconds < 2 ^ 31)) : ReadsDuration text (.error .overflow)
  /-- Nothing is read. -/
  | refused : ReadsDuration text (.ok none)

/-- **Only durations are read**, and only they stop the program. -/
theorem reads_readDuration? (text : List Char) : ReadsDuration text (readDuration? text) := by
  rcases exists_sign_or text with ⟨negative, rest, rfl⟩ | hnone
  · have hreads : ReadsComponents 0 rest (components? 0 [] rest) :=
      reads_components? (Int.le_refl 0) (by decide) List.all_nil rest
    rw [readDuration?_text, List.flatMap_nil, List.nil_append]
    generalize components? 0 [] rest = x at hreads
    cases hreads with
    | whole cs n htext hn hfits =>
      obtain rfl : n = (cs.map Component.seconds).sum := by simpa using hn
      rw [Written.bind_signed ⟨negative, cs⟩ hfits]
      exact .whole ⟨negative, cs⟩ (by simp [Written.text, htext])
    | stops cs rest' htext hcs hsum =>
      refine .stops ⟨negative, cs⟩ rest' ?_ hcs ((Written.seconds_lt_iff _).not.2 ?_)
      · rw [← htext]
        simp [Written.text]
      · simpa using hsum
    | refused => exact .refused
  · rw [hnone]
    exact .refused

/-- Whatever is read as a duration has its form. -/
theorem exists_written_of_readDuration? {text : List Char} {n : Int}
    (h : readDuration? text = .ok (some n)) : ∃ w : Written, w.text = text := by
  have hreads := reads_readDuration? text
  rw [h] at hreads
  cases hreads with
  | whole w htext => exact ⟨w, htext⟩

/-- **A duration stops the program** just if the text begins with one whose length has more than 31
bits, though none of its numbers has. -/
theorem readDuration?_eq_overflow_iff {text : List Char} :
    readDuration? text = .error .overflow ↔
      ∃ (w : Written) (rest : List Char), w.text ++ rest = text ∧ w.Fits ∧
        (w.seconds ≤ -2 ^ 31 ∨ 2 ^ 31 ≤ w.seconds) := by
  constructor
  · intro h
    have hreads := reads_readDuration? text
    rw [h] at hreads
    cases hreads with
    | stops w rest htext hfits hlarge => exact ⟨w, rest, htext, hfits, by omega⟩
  · rintro ⟨w, rest, rfl, hfits, hlarge⟩
    have hsum := w.seconds_lt_iff.not.1 (by omega)
    rw [readDuration?_text,
      components?_eq_overflow (Int.le_refl 0) (by decide) hfits (by omega)]
    rfl

/-! ## Timezones -/

/-- What comes of moving a time to the timezone of a text that is not empty. -/
inductive Adjusts (d : DateTime) (timezone : String) : Checked (Except EvalError DateTime) → Prop
  /-- The duration is less than a day, and the time is moved. -/
  | moved (n : Int) (hread : readDuration? timezone.toList = .ok (some n))
    (hday : -86400 < n ∧ n < 86400) :
    Adjusts d timezone (.ok (.ok ⟨(d.utc?.map (·.addSeconds n)).getD d.wall, some n⟩))
  /-- The text is no duration, or not of less than a day, and is reported. -/
  | refused (x? : Option Int) (hread : readDuration? timezone.toList = .ok x?)
    (hday : ∀ n ∈ x?, ¬(-86400 < n ∧ n < 86400)) :
    Adjusts d timezone (.ok (.error (.argument (.invalidTimezone timezone))))
  /-- The program stops. -/
  | stopped (hread : readDuration? timezone.toList = .error .overflow) :
    Adjusts d timezone (.error .overflow)

/-- A duration that is read and less than a day is taken as a timezone, and any other text is
reported or stops the program, but for the empty one. -/
theorem adjusts (d : DateTime) {timezone : String} (hne : timezone ≠ "") :
    Adjusts d timezone (d.adjust timezone) := by
  have hempty : timezone.isEmpty = false := by simpa using hne
  unfold adjust
  rw [hempty]
  rcases hread : readDuration? timezone.toList with ⟨⟨⟩⟩ | (_ | n)
  · exact .stopped hread
  · exact .refused none hread (by simp)
  · by_cases hday : -86400 < n ∧ n < 86400
    · have hmoved : Adjusts d timezone _ := .moved n hread hday
      simpa [Except.map, hday] using hmoved
    · have hrefused : Adjusts d timezone _ := .refused (some n) hread (by simpa using hday)
      simpa [Except.map, hday] using hrefused

/-- The function of terms moves the time that its first argument stands for. -/
theorem adjust_literal {t : Term} {d : DateTime} (ht : ofTerm? t = some d) (zone : Literal) :
    Functions.adjust t (.literal zone) = (d.adjust zone.value).map (·.map toTerm) := by
  simp only [Functions.adjust, ofTerm, ht]

/-- **Durations are read exactly, or not at all.** A text that is read is the text of a written
duration. Such a text is read as its exact length just if that has at most 31 bits. The program stops
just if the text begins with a duration of more bits, none of whose numbers has so many. A time is
moved to the timezone of a text just if the exact length is less than a day; the program stops where
reading stops it, and any other text that is not empty is reported as an invalid timezone. -/
theorem durations_exact_iff (text : String) :
    (∀ n, readDuration? text.toList = .ok (some n) → ∃ w : Written, w.text = text.toList) ∧
    (∀ (w : Written) n, w.text = text.toList →
      (readDuration? text.toList = .ok (some n) ↔
        n = w.seconds ∧ -2 ^ 31 < w.seconds ∧ w.seconds < 2 ^ 31)) ∧
    (readDuration? text.toList = .error .overflow ↔
      ∃ (w : Written) (rest : List Char), w.text ++ rest = text.toList ∧ w.Fits ∧
        (w.seconds ≤ -2 ^ 31 ∨ 2 ^ 31 ≤ w.seconds)) ∧
    (∀ t d (zone : Literal), ofTerm? t = some d → zone.value = text → text ≠ "" →
      ((∃ u, Functions.adjust t (.literal zone) = .ok (.ok u)) ↔
        ∃ w : Written, w.text = text.toList ∧ -86400 < w.seconds ∧ w.seconds < 86400) ∧
      (Functions.adjust t (.literal zone) = .error .overflow ↔
        readDuration? text.toList = .error .overflow) ∧
      ((∃ u, Functions.adjust t (.literal zone) = .ok (.ok u)) ∨
        Functions.adjust t (.literal zone) = .ok (.error (.argument (.invalidTimezone text))) ∨
        Functions.adjust t (.literal zone) = .error .overflow)) := by
  refine ⟨fun _ => exists_written_of_readDuration?, fun w n hw => ?_,
    readDuration?_eq_overflow_iff, fun t d zone ht hzone hne => ?_⟩
  · rw [← hw]
    exact readDuration?_written_iff w
  · subst hzone
    have hread (w : Written) : w.text = zone.value.toList → -86400 < w.seconds →
        w.seconds < 86400 → readDuration? zone.value.toList = .ok (some w.seconds) :=
      fun hw hlow hhigh => hw ▸ (readDuration?_written_iff w).2 ⟨rfl, by omega, by omega⟩
    rw [adjust_literal ht]
    have hadjusts := adjusts d hne
    generalize d.adjust zone.value = x at hadjusts
    cases hadjusts with
    | moved n htext hday =>
      obtain ⟨w, hw⟩ := exists_written_of_readDuration? htext
      obtain ⟨hn, -⟩ := (readDuration?_written_iff w).1 (hw ▸ htext)
      refine ⟨⟨fun _ => ⟨w, hw, hn ▸ hday⟩, fun _ => ⟨_, rfl⟩⟩, ?_, .inl ⟨_, rfl⟩⟩
      simp [htext, Except.map]
    | refused x? htext hday =>
      refine ⟨⟨fun ⟨_, hu⟩ => (by cases hu), fun ⟨w, hw, hlow, hhigh⟩ => ?_⟩, ?_, .inr (.inl rfl)⟩
      · have hsome := htext.symm.trans (hread w hw hlow hhigh)
        exact absurd ⟨hlow, hhigh⟩ (hday _ (by simpa using hsome))
      · simp [htext, Except.map]
    | stopped htext =>
      refine ⟨⟨fun ⟨_, hu⟩ => (by cases hu), fun ⟨w, hw, hlow, hhigh⟩ => ?_⟩, ?_, .inr (.inr rfl)⟩
      · exact absurd (htext.symm.trans (hread w hw hlow hhigh)) (by simp)
      · simp [htext, Except.map]

/-- More than two thousand years, in minutes: their seconds stop the program, and so does moving a
time by them. Half a day is read as it is, and a time is moved by it. -/
theorem durations_exact_iff_sample : ∃ w w' : Written,
    w.text = "PT1073741884M".toList ∧ w.Fits ∧ w.seconds = 64424513040 ∧
    readDuration? w.text = .error .overflow ∧
    ofTerm? (.literal (.typed "2002-03-07T10:00:00Z" Vocabulary.xsdDateTime)) =
      some ⟨⟨11753, 36000, 0⟩, some 0⟩ ∧
    Functions.adjust (.literal (.typed "2002-03-07T10:00:00Z" Vocabulary.xsdDateTime))
        (.literal (.typed "PT1073741884M" Vocabulary.xsdDayTimeDuration)) = .error .overflow ∧
    w'.text = "-PT11H60M".toList ∧ readDuration? w'.text = .ok (some (-43200)) ∧
    ∃ u, Functions.adjust (.literal (.typed "2002-03-07T10:00:00Z" Vocabulary.xsdDateTime))
      (.literal (.typed "-PT11H60M" Vocabulary.xsdDayTimeDuration)) = .ok (.ok u) := by
  obtain ⟨-, -, hstops, hadjust⟩ := durations_exact_iff "PT1073741884M"
  obtain ⟨-, hread, -, hadjust'⟩ := durations_exact_iff "-PT11H60M"
  obtain ⟨w, hw⟩ : ∃ w : Written,
      w = ⟨false, [⟨"1073741884".toList, .minutes, by decide, by decide⟩]⟩ := ⟨_, rfl⟩
  obtain ⟨w', hw'⟩ : ∃ w' : Written, w' = ⟨true, [⟨"11".toList, .hours, by decide, by decide⟩,
      ⟨"60".toList, .minutes, by decide, by decide⟩]⟩ := ⟨_, rfl⟩
  have htext : w.text = "PT1073741884M".toList := by rw [hw]; rfl
  have htext' : w'.text = "-PT11H60M".toList := by rw [hw']; rfl
  have hseconds : w.seconds = 64424513040 := by rw [hw]; decide
  have hseconds' : w'.seconds = -43200 := by rw [hw']; decide
  have hfits : w.Fits := by
    rw [hw, Written.Fits, List.forall_mem_singleton]
    decide
  have htime : ofTerm? (.literal (.typed "2002-03-07T10:00:00Z" Vocabulary.xsdDateTime)) =
      some ⟨⟨11753, 36000, 0⟩, some 0⟩ := by decide +kernel
  have hoverflow := hstops.2 ⟨w, [], by rw [List.append_nil, htext], hfits, by omega⟩
  obtain ⟨-, hstopped, -⟩ := hadjust _ _
    (.typed "PT1073741884M" Vocabulary.xsdDayTimeDuration) htime rfl (by decide)
  obtain ⟨hmoved, -⟩ := hadjust' _ _
    (.typed "-PT11H60M" Vocabulary.xsdDayTimeDuration) htime rfl (by decide)
  refine ⟨w, w', htext, hfits, hseconds, htext ▸ hoverflow, htime, hstopped.2 hoverflow, htext',
    ?_, hmoved.2 ⟨w', htext', by omega, by omega⟩⟩
  rw [htext', hread w' _ htext']
  exact ⟨hseconds'.symm, by omega, by omega⟩

end DateTime

end PagedSparql
