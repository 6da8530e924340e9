import Mathlib.Algebra.Group.Nat.Defs
import PagedSparql.Number.Reading
import PagedSparql.Text.Blank

/-!
# Decimal digits

What is written in decimal digits is read as digits (`Numeric.isDigit_toDigits`), is no blank, and
ends where the text goes on with another character (`Double.takeWhile_isDigit_append`).
-/

namespace PagedSparql

namespace Numeric

/-- The digits of a number are read as digits. -/
theorem isDigit_toDigits (n : Nat) : (Nat.toDigits 10 n).all Double.isDigit = true := by
  rw [List.all_eq_true]
  intro c hc
  have hdigit := Nat.isDigit_of_mem_toDigits (by decide) (by decide) hc
  simp only [Char.isDigit, Bool.and_eq_true, decide_eq_true_eq] at hdigit
  simp only [Double.isDigit, Bool.and_eq_true, decide_eq_true_eq, Char.le_def]
  exact hdigit

end Numeric

namespace Double

/-- A digit is one of ten characters in a row. -/
theorem toNat_of_isDigit {c : Char} (h : isDigit c = true) : 48 ≤ c.toNat ∧ c.toNat ≤ 57 := by
  simp only [isDigit, Bool.and_eq_true, decide_eq_true_eq, Char.le_def] at h
  exact h

/-- A digit is no blank. -/
theorem isBlank_of_isDigit {c : Char} (h : isDigit c = true) : Text.isBlank c = false := by
  have hbounds := toNat_of_isDigit h
  simp only [Text.isBlank, Text.inSpans, Text.whiteSpace, Text.Span.holds, List.any_cons,
    List.any_nil, Bool.or_eq_false_iff, Bool.and_eq_false_iff, decide_eq_false_iff_not, and_true]
  omega

/-- The digits at the front of a text end where it goes on with no digit. -/
theorem takeWhile_isDigit_append {digits rest : List Char} (hdigits : digits.all isDigit = true)
    (hrest : ∀ c ∈ rest.head?, isDigit c = false) :
    (digits ++ rest).takeWhile isDigit = digits := by
  rw [List.takeWhile_append_of_pos (List.all_eq_true.1 hdigits)]
  cases rest with
  | nil => simp
  | cons c rest => simp [hrest c rfl]

/-- Each digit makes a number at most ten times as large. -/
theorem foldl_digits_lt {digits : List Char} (h : digits.all isDigit = true) (n : Nat) :
    digits.foldl (fun n c => 10 * n + (c.toNat - 48)) n < (n + 1) * 10 ^ digits.length := by
  induction digits generalizing n with
  | nil => simp
  | cons c digits ih =>
    rw [List.all_cons, Bool.and_eq_true] at h
    have hdigit := toNat_of_isDigit h.1
    calc (c :: digits).foldl (fun n c => 10 * n + (c.toNat - 48)) n
        < (10 * n + (c.toNat - 48) + 1) * 10 ^ digits.length := ih h.2 _
      _ ≤ (10 * (n + 1)) * 10 ^ digits.length := Nat.mul_le_mul_right _ (by omega)
      _ = (n + 1) * 10 ^ (c :: digits).length := by
        rw [List.length_cons, Nat.pow_succ, Nat.mul_comm 10, Nat.mul_assoc, Nat.mul_comm 10]

/-- So many digits denote a number less than that power of ten. -/
theorem ofDigits_lt {digits : List Char} (h : digits.all isDigit = true) :
    ofDigits digits < 10 ^ digits.length := by
  simpa [ofDigits] using foldl_digits_lt h 0

end Double

end PagedSparql
