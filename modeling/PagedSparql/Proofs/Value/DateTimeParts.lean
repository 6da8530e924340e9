import Mathlib.Data.List.TakeWhile
import PagedSparql.Proofs.Number.Digits
import PagedSparql.Value.DateTime

/-!
# The parts of a time as text

Each part of a time is read back from its text, whatever follows: a number filled up with zeros
(`fixed?_pad`, `padded?_pad`), a year (`year?_yearText`), a fraction of a second
(`fraction?_fractionText`) and an offset (`zone?_zoneText`). What follows a year or a fraction must
not begin with a digit, since their readers take all the digits they find.
-/

namespace PagedSparql.DateTime

/-! ## Numbers -/

/-- A number filled up with zeros. -/
theorem toList_pad (width n : Nat) : (pad width n).toList =
    List.replicate (width - (Nat.toDigits 10 n).length) '0' ++ Nat.toDigits 10 n := by
  have htext : (toString n).toList = Nat.toDigits 10 n := Nat.toList_repr
  simp only [pad, Double.zeros, String.toList_append, String.toList_ofList, htext,
    ← String.length_toList]

/-- A number filled up with zeros consists of digits. -/
theorem all_isDigit_pad (width n : Nat) : (pad width n).toList.all Double.isDigit = true := by
  rw [toList_pad, List.all_append, Numeric.isDigit_toDigits, Bool.and_true, List.all_replicate]
  split
  · rfl
  · decide

/-- Zeros in front of a number do not change it. -/
theorem ofDigits_pad (width n : Nat) : Double.ofDigits (pad width n).toList = n := by
  show Nat.ofDigitChars 10 (pad width n).toList 0 = n
  rw [toList_pad, Nat.ofDigitChars_append, Nat.ofDigitChars_replicate_zero, Nat.mul_zero,
    Nat.ofDigitChars_ten_toDigits]

/-- A number of at most so many digits is filled up to that many. -/
theorem length_pad {width n : Nat} (hwidth : 0 < width) (hn : n < 10 ^ width) :
    (pad width n).toList.length = width := by
  have hdigits : (Nat.toDigits 10 n).length ≤ width :=
    (Nat.length_toDigits_le_iff (by decide) hwidth).2 hn
  rw [toList_pad, List.length_append, List.length_replicate]
  omega

/-- A number filled up with zeros has a first digit. -/
theorem exists_cons_pad (width n : Nat) :
    ∃ c rest, (pad width n).toList = c :: rest ∧ Double.isDigit c = true := by
  have hdigits := all_isDigit_pad width n
  cases hpad : (pad width n).toList with
  | nil =>
    rw [toList_pad, List.append_eq_nil_iff] at hpad
    exact absurd hpad.2 Nat.toDigits_ne_nil
  | cons c rest =>
    rw [hpad, List.all_cons, Bool.and_eq_true] at hdigits
    exact ⟨c, rest, rfl, hdigits.1⟩

/-- A number filled up with zeros has no blanks in front. -/
theorem trimStart_pad (width n : Nat) (rest : List Char) :
    Text.trimStart ((pad width n).toList ++ rest) = (pad width n).toList ++ rest := by
  obtain ⟨c, digits, hpad, hc⟩ := exists_cons_pad width n
  rw [hpad]
  exact Text.trimStart_cons_of_not_isBlank (Double.isBlank_of_isDigit hc)

/-- A number of fixed width is read back. -/
theorem fixed?_pad {width n : Nat} (hwidth : 0 < width) (hn : n < 10 ^ width) (rest : List Char) :
    fixed? width ((pad width n).toList ++ rest) = some (n, rest) := by
  have hlength := length_pad hwidth hn
  have htake : ((pad width n).toList ++ rest).take width = (pad width n).toList :=
    List.take_left' hlength
  have hdrop : ((pad width n).toList ++ rest).drop width = rest := List.drop_left' hlength
  simp only [fixed?, htake, hdrop]
  rw [if_pos ⟨hlength, all_isDigit_pad width n⟩, ofDigits_pad]

/-- A number of at most some width is read back from its text of that width. -/
theorem padded?_pad {width n : Nat} (hwidth : 0 < width) (hn : n < 10 ^ width) (rest : List Char) :
    padded? width ((pad width n).toList ++ rest) = some (n, rest) := by
  obtain ⟨c, digits, hpad, hc⟩ := exists_cons_pad width n
  have hlength := length_pad hwidth hn
  have htake : ((pad width n).toList ++ rest).take width = (pad width n).toList :=
    List.take_left' hlength
  have hdigits : (pad width n).toList.takeWhile Double.isDigit = (pad width n).toList :=
    List.takeWhile_eq_self_iff.2 (List.all_eq_true.1 (all_isDigit_pad width n))
  simp only [padded?, trimStart_pad, htake, hdigits, List.drop_left, ofDigits_pad]
  simp [hpad]

/-! ## Years -/

/-- A year, with its sign where four digits do not hold it. -/
theorem toList_yearText (year : Int) : (yearText year).toList =
    if 0 ≤ year ∧ year ≤ 9999 then (pad 4 year.natAbs).toList
    else (if year < 0 then '-' else '+') :: (pad 4 year.natAbs).toList := by
  unfold yearText
  split
  · rfl
  · split <;> simp

/-- A year is read back from its text before a hyphen. -/
theorem year?_yearText (year : Int) (rest : List Char) :
    year? ((yearText year).toList ++ '-' :: rest) = some (year, '-' :: rest) := by
  have hrun : ((pad 4 year.natAbs).toList ++ '-' :: rest).takeWhile Double.isDigit =
      (pad 4 year.natAbs).toList :=
    Double.takeWhile_isDigit_append (all_isDigit_pad 4 _) (by simp; decide)
  obtain ⟨c, digits, hpad, hc⟩ := exists_cons_pad 4 year.natAbs
  have hne : (pad 4 year.natAbs).toList.isEmpty = false := by simp [hpad]
  rw [toList_yearText]
  split
  · next hyear =>
    have hfour := padded?_pad (by decide) (show year.natAbs < 10 ^ 4 by omega) ('-' :: rest)
    unfold year?
    rw [trimStart_pad]
    split
    · next heq =>
      rw [hpad] at heq
      obtain ⟨rfl, -⟩ := List.cons.inj heq
      exact absurd hc (by decide)
    · next heq =>
      rw [hpad] at heq
      obtain ⟨rfl, -⟩ := List.cons.inj heq
      exact absurd hc (by decide)
    · simp only [hfour, Option.map_some, Int.natAbs_of_nonneg hyear.1]
  · split
    · rw [List.cons_append, year?, Text.trimStart_cons_of_not_isBlank (by decide)]
      simp only [hrun, hne, ofDigits_pad, List.drop_left, Bool.false_eq_true, if_false]
      rw [Int.ofNat_natAbs_of_nonpos (by omega), Int.neg_neg]
    · rw [List.cons_append, year?, Text.trimStart_cons_of_not_isBlank (by decide)]
      simp only [hrun, hne, ofDigits_pad, List.drop_left, Bool.false_eq_true, if_false]
      rw [Int.natAbs_of_nonneg (by omega)]

/-! ## Fractions of a second -/

/-- Up to nine digits after a point are read as nanoseconds. -/
theorem fraction?_pad {width n : Nat} (hwidth : 0 < width) (hnine : width ≤ 9)
    (hn : n < 10 ^ width) {rest : List Char} (hrest : ∀ c ∈ rest.head?, Double.isDigit c = false) :
    fraction? ('.' :: ((pad width n).toList ++ rest)) = some (n * 10 ^ (9 - width), rest) := by
  have hlength := length_pad hwidth hn
  have hrun := Double.takeWhile_isDigit_append (all_isDigit_pad width n) hrest
  have htake : (pad width n).toList.take 9 = (pad width n).toList :=
    List.take_of_length_le (by omega)
  have hne : (pad width n).toList.isEmpty = false := by
    rw [List.isEmpty_eq_false_iff, ← List.length_pos_iff]
    omega
  simp only [fraction?, hrun, hne, htake, ofDigits_pad, hlength, List.drop_left',
    Bool.false_eq_true, if_false, Nat.pow_eq]

/-- A fraction of a second is read back from its text. -/
theorem fraction?_fractionText {nano : Nat} (hnano : nano < WallTime.nanosPerSecond)
    {rest : List Char} (hrest : ∀ c ∈ rest.head?, Double.isDigit c = false ∧ c ≠ '.') :
    fraction? ((fractionText nano).toList ++ rest) = some (nano, rest) := by
  have hdigit : ∀ c ∈ rest.head?, Double.isDigit c = false := fun c hc => (hrest c hc).1
  have hpoint (text : String) : ("." ++ text).toList ++ rest = '.' :: (text.toList ++ rest) := by
    simp
  unfold WallTime.nanosPerSecond at hnano
  unfold fractionText
  split
  · next hzero =>
    subst hzero
    show fraction? rest = some (0, rest)
    unfold fraction?
    split
    · exact absurd rfl (hrest '.' rfl).2
    · rfl
  · split
    · rw [hpoint, fraction?_pad (by decide) (by decide) (by omega) hdigit]
      simp only [Option.some.injEq, Prod.mk.injEq, and_true]
      omega
    · split
      · rw [hpoint, fraction?_pad (by decide) (by decide) (by omega) hdigit]
        simp only [Option.some.injEq, Prod.mk.injEq, and_true]
        omega
      · rw [hpoint, fraction?_pad (by decide) (by decide) (by omega) hdigit]
        simp

/-! ## Offsets -/

/-- An offset is read back from its sign, hours and minutes. -/
theorem zone?_signed {sign : Char} {negative : Bool}
    (hsign : sign = '+' ∧ negative = false ∨ sign = '-' ∧ negative = true) {hours minutes : Nat}
    (hhours : hours < 24) (hminutes : minutes < 60) :
    zone? (sign :: ((pad 2 hours).toList ++ ':' :: (pad 2 minutes).toList)) =
      some (if negative then -(hours * 3600 + minutes * 60 : Int)
        else hours * 3600 + minutes * 60) := by
  have hreadHours := fixed?_pad (by decide) (show hours < 10 ^ 2 by omega)
    (':' :: (pad 2 minutes).toList)
  have hreadMinutes := fixed?_pad (by decide) (show minutes < 10 ^ 2 by omega) []
  rw [List.append_nil] at hreadMinutes
  obtain ⟨rfl, rfl⟩ | ⟨rfl, rfl⟩ := hsign
  · simp [zone?, hreadHours, hreadMinutes, after?, hhours, hminutes]
  · simp [zone?, hreadHours, hreadMinutes, after?, hhours, hminutes]

/-- An offset from UTC as sign, hours and minutes. -/
theorem toList_offsetText (offset : Int) : (offsetText offset).toList =
    (if offset < 0 then '-' else '+') :: ((pad 2 (offset.natAbs / 3600)).toList ++
      ':' :: (pad 2 (offset.natAbs % 3600 / 60)).toList) := by
  unfold offsetText
  split <;> simp

/-- The text of an offset of less than a day is read as its whole minutes. -/
theorem zone?_zoneText_tdiv {offset : Int} (hday : -86400 < offset ∧ offset < 86400) :
    zone? (zoneText offset).toList = some (offset.tdiv 60 * 60) := by
  have hhours : offset.natAbs / 3600 < 24 := by omega
  have hminute : offset.natAbs % 3600 / 60 < 60 := by omega
  have hwhole : offset.natAbs / 3600 * 3600 + offset.natAbs % 3600 / 60 * 60 =
      offset.natAbs / 60 * 60 := by omega
  unfold zoneText
  split
  · next hzero =>
    subst hzero
    rfl
  · rw [toList_offsetText]
    split
    · next hneg =>
      obtain ⟨n, rfl⟩ : ∃ n : Nat, offset = -n := ⟨offset.natAbs, by omega⟩
      rw [zone?_signed (.inr ⟨rfl, rfl⟩) hhours hminute, if_pos rfl, Option.some.injEq, Int.neg_tdiv]
      rw [Int.natAbs_neg, Int.natAbs_natCast] at hwhole ⊢
      have hquotient : (n : Int).tdiv 60 = (n / 60 : Nat) := rfl
      omega
    · next hpos =>
      obtain ⟨n, rfl⟩ : ∃ n : Nat, offset = n := ⟨offset.natAbs, by omega⟩
      rw [zone?_signed (.inl ⟨rfl, rfl⟩) hhours hminute, if_neg (by decide), Option.some.injEq]
      rw [Int.natAbs_natCast] at hwhole ⊢
      have hquotient : (n : Int).tdiv 60 = (n / 60 : Nat) := rfl
      omega

/-- An offset of whole minutes and less than a day is read back from its text. -/
theorem zone?_zoneText {offset : Int} (hday : -86400 < offset ∧ offset < 86400)
    (hminutes : offset % 60 = 0) : zone? (zoneText offset).toList = some offset := by
  rw [zone?_zoneText_tdiv hday, Int.tdiv_mul_cancel (Int.dvd_of_emod_eq_zero hminutes)]

end PagedSparql.DateTime
