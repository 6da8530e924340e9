import Mathlib.Algebra.Order.Field.Rat
import Mathlib.Tactic.Positivity
import Mathlib.Tactic.Ring
import PagedSparql.Value.Compare

/-!
# The order of values

Two values have an order if they are of one kind (`Value.Kind`): integers are compared exactly,
other numbers as doubles, booleans, instants, and dateTimes without timezone each in their own
order. Other values, a NaN among them, are left to their lexical forms.

The doubles but the NaN are totally preordered, the two zeros being level: their parts are compared
one after the other (`Double.compare?_eq`). So each kind is totally preordered
(`Value.Kind.transCmp_compare`), and it is its order that decides between two values of the kind
(`Value.Kind.Reads.ordering`). Between kinds it depends on the pair whether there is an order at all
(an integer and a double are compared, an integer and a string are not); all that holds of any two
values is that their order is the reverse of that of the second and the first
(`Value.ordering?_swap`).

Where all doubles need an order, they are compared by their bits (`Double.totalCompare`). For finite
doubles this is the order of the numbers that they stand for, and the negative zero stands before
the other (`Double.totalCompare_eq_lt_iff`): a greater exponent makes up for any fraction
(`Double.steps_strictMono`).
-/

namespace PagedSparql

/-! ## Doubles -/

namespace Double

open Float.Model (UnpackedFloat)

/-- The place of a double among infinities, numbers of either sign, and zeros. -/
def region : UnpackedFloat → Int
  | .infinity .negative => -2
  | .finite .negative _ _ _ => -1
  | .notANumber => 0
  | .zero _ => 0
  | .finite .positive _ _ _ => 1
  | .infinity .positive => 2

/-- The power of two of a number, turned if the number is below zero. -/
def power : UnpackedFloat → Int
  | .finite .negative _ e _ => -e
  | .finite .positive _ e _ => e
  | _ => 0

/-- The mantissa of a number, turned if the number is below zero. -/
def signedMantissa : UnpackedFloat → Int
  | .finite .negative m _ _ => -m
  | .finite .positive m _ _ => m
  | _ => 0

/-- Compares the parts of two doubles one after the other. -/
def compareParts : UnpackedFloat → UnpackedFloat → Ordering :=
  compareLex (compareOn region) (compareLex (compareOn power) (compareOn signedMantissa))

instance : Std.TransCmp compareParts :=
  inferInstanceAs (Std.TransCmp
    (compareLex (compareOn region) (compareLex (compareOn power) (compareOn signedMantissa))))

/-- Turning both signs turns the order. -/
theorem compare_neg (a b : Int) : compare (-a) (-b) = (compare a b).swap := by
  rw [Int.compare_swap]
  simp only [compare, compareOfLessAndEq]
  grind

/-- Natural numbers are compared as integers are. -/
theorem compare_natCast (m n : Nat) : compare (m : Int) (n : Int) = compare m n := by
  simp only [compare, compareOfLessAndEq, Int.ofNat_lt, Int.ofNat_inj]

/-- Doubles that are no NaN are compared by their parts. -/
theorem compare_unpacked (x y : UnpackedFloat) :
    x.compare y = if x.isNaN || y.isNaN then none else some (compareParts x y) := by
  rcases x with (_ | _) | _ | (_ | _) | ⟨_ | _, m₁, e₁, _⟩ <;>
    rcases y with (_ | _) | _ | (_ | _) | ⟨_ | _, m₂, e₂, _⟩
  case finite.negative.finite.negative =>
    show some ((compare e₁ e₂).then (compare m₁ m₂)).swap =
      some ((compare (-e₁) (-e₂)).then (compare (-(m₁ : Int)) (-(m₂ : Int))))
    rw [compare_neg, compare_neg, compare_natCast, Ordering.swap_then]
  case finite.positive.finite.positive =>
    show some ((compare e₁ e₂).then (compare m₁ m₂)) =
      some ((compare e₁ e₂).then (compare (m₁ : Int) (m₂ : Int)))
    rw [compare_natCast]
  -- Elsewhere the regions differ, or nothing else is left to compare.
  all_goals rfl

/-- Doubles are compared by their parts, and a NaN with nothing. -/
theorem compare?_eq (x y : Float) :
    compare? x y = if x.isNaN || y.isNaN then none
      else some (compareParts x.toModel.unpack y.toModel.unpack) := by
  have hlt : ∀ x y : Float, x < y ↔ x.toModel.unpack.compare y.toModel.unpack = some .lt := by
    intro x y
    show x.lt y = true ↔ _
    unfold Float.lt
    rw [decide_eq_true_iff]
    show (x.toModel.unpack.compare y.toModel.unpack == some .lt) = true ↔ _
    simp
  have heq : (x == y) = (x.toModel.unpack.compare y.toModel.unpack == some .eq) := rfl
  have hnan : ∀ x : Float, x.isNaN = x.toModel.unpack.isNaN := fun _ => rfl
  rw [compare?, heq, hnan, hnan]
  simp only [hlt, compare_unpacked, Bool.or_comm y.toModel.unpack.isNaN]
  split
  · simp
  · have hswap : compareParts y.toModel.unpack x.toModel.unpack =
        (compareParts x.toModel.unpack y.toModel.unpack).swap := Std.OrientedCmp.eq_swap
    rw [hswap]
    cases compareParts x.toModel.unpack y.toModel.unpack <;> simp

end Double

namespace Numeric

/-- A number is compared with another as a double, if they are not integers both; a NaN is not. -/
theorem compare?_eq {a b : Numeric} (h : a.rank ≠ 0 ∨ b.rank ≠ 0) :
    a.compare? b = if a.isNaN || b.isNaN then none
      else some (Double.compareParts a.toFloat.toModel.unpack b.toFloat.toModel.unpack) := by
  rw [isNaN, isNaN, ← Double.compare?_eq]
  cases a <;> cases b <;> first | rfl | simp [rank] at h

/-- The order of two numbers is the reverse of that of the second and the first. -/
theorem compare?_swap (a b : Numeric) : (a.compare? b).map Ordering.swap = b.compare? a := by
  by_cases h : a.rank ≠ 0 ∨ b.rank ≠ 0
  · rw [compare?_eq h, compare?_eq h.symm, Bool.or_comm]
    split
    · rfl
    · rw [Option.map_some, ← Std.OrientedCmp.eq_swap]
  · cases a <;> cases b <;> simp [rank] at h
    simp [compare?, Int.compare_swap]

end Numeric

/-! ## Doubles by their bits -/

namespace Double

variable {x y : Float}

/-- The sign bit is set, as in the numbers below zero and in one of the zeros. -/
def isNegative (x : Float) : Bool := decide (signBit ≤ x.toBits.toNat)

/-- The bits of a double but for the sign bit. -/
def magnitude (x : Float) : Nat := x.toBits.toNat % signBit

/-- The number that a finite double stands for. -/
def value (x : Float) : ℚ :=
  match shape x with
  | .finite negative mantissa exponent => (if negative then -1 else 1) * (mantissa * 2 ^ exponent)
  | _ => 0

/-- How often the least number above zero goes into a number with some bits. -/
def steps (magnitude : Nat) : Nat :=
  if magnitude / fractionSize = 0 then magnitude
  else (magnitude % fractionSize + fractionSize) * 2 ^ (magnitude / fractionSize - 1)

/-- The least number above zero. -/
def least : ℚ := 2 ^ (-1074 : ℤ)

/-- A finite double as a multiple of the least number above zero. -/
def signedSteps (x : Float) : ℤ :=
  if isNegative x then -(steps (magnitude x) : ℤ) else steps (magnitude x)

/-- The doubles above zero are in the order of their bits. -/
theorem steps_strictMono : StrictMono steps := by
  intro m n h
  have hsize : 0 < fractionSize := by decide
  have hfield : m / fractionSize ≤ n / fractionSize := Nat.div_le_div_right h.le
  have hm := Nat.div_add_mod m fractionSize
  have hn := Nat.div_add_mod n fractionSize
  have hmod := Nat.mod_lt m hsize
  rcases Nat.eq_or_lt_of_le hfield with heq | hlt
  · -- The exponents are the same, so the fractions decide.
    have hfraction : m % fractionSize < n % fractionSize := by
      rw [heq] at hm
      omega
    unfold steps
    rw [heq]
    split
    · exact h
    · exact Nat.mul_lt_mul_of_pos_right (Nat.add_lt_add_right hfraction _) (Nat.two_pow_pos _)
  · -- A greater exponent makes up for any fraction.
    have hbelow : steps m < fractionSize * 2 ^ (m / fractionSize) := by
      unfold steps
      split
      · next hzero =>
        rw [hzero, pow_zero, mul_one]
        exact Nat.lt_of_div_eq_zero hsize hzero
      · next hne =>
        obtain ⟨field, hfield⟩ := Nat.exists_eq_succ_of_ne_zero hne
        rw [hfield, Nat.succ_sub_one, Nat.pow_succ, ← mul_assoc, mul_right_comm]
        exact Nat.mul_lt_mul_of_pos_right (by omega) (Nat.two_pow_pos _)
    have habove : fractionSize * 2 ^ (m / fractionSize) ≤ steps n := by
      rw [steps, if_neg (Nat.ne_zero_of_lt hlt)]
      exact Nat.mul_le_mul (Nat.le_add_left _ _) (Nat.pow_le_pow_right (by decide) (by omega))
    exact hbelow.trans_le habove

/-- The parts of a finite double, from its sign and its other bits. -/
theorem shape_eq (hx : isFinite x = true) : shape x =
    if magnitude x / fractionSize = 0 then .finite (isNegative x) (magnitude x) (-1074)
    else .finite (isNegative x) (magnitude x % fractionSize + fractionSize)
      (((magnitude x / fractionSize : ℕ) : ℤ) - 1075) := by
  have hfield : magnitude x / fractionSize = x.toBits.toNat / fractionSize % fieldSize :=
    Nat.mod_mul_right_div_self _ fractionSize fieldSize
  have hfraction : magnitude x % fractionSize = x.toBits.toNat % fractionSize :=
    Nat.mod_mod_of_dvd _ ⟨fieldSize, rfl⟩
  unfold isFinite at hx
  unfold shape at hx ⊢
  simp only [← hfield, ← hfraction] at hx ⊢
  split
  · next hgreatest =>
    rw [if_pos hgreatest] at hx
    split at hx
    · next heq => split at heq <;> exact absurd heq (by simp)
    · exact absurd hx (by simp)
  · split
    · next hzero =>
      rw [Nat.mod_eq_of_lt (Nat.lt_of_div_eq_zero (by decide) hzero)]
      rfl
    · rfl

/-- A finite double is a multiple of the least number above zero. -/
theorem value_eq (hx : isFinite x = true) : value x = signedSteps x * least := by
  have hmagnitude : ∀ m : ℚ, (if isNegative x then -1 else 1) * (m * least) =
      (if isNegative x then -m else m) * least := fun m => by split <;> ring
  have hsigned : ((signedSteps x : ℤ) : ℚ) = if isNegative x then -(steps (magnitude x) : ℚ)
      else steps (magnitude x) := by
    rw [signedSteps]
    split <;> push_cast <;> rfl
  rw [hsigned, ← hmagnitude]
  by_cases hzero : magnitude x / fractionSize = 0
  · simp only [value, steps, shape_eq hx, hzero, if_true, least]
  · obtain ⟨field, hfield⟩ := Nat.exists_eq_succ_of_ne_zero hzero
    have hpower : (2 : ℚ) ^ (((field.succ : ℕ) : ℤ) - 1075) = 2 ^ field * least := by
      have hexponent : ((field.succ : ℕ) : ℤ) - 1075 = field + -1074 := by omega
      rw [hexponent, zpow_add₀ two_ne_zero, zpow_natCast, least]
    simp only [value, steps, shape_eq hx, hzero, if_false]
    rw [hfield, hpower, Nat.succ_sub_one, Nat.cast_mul, Nat.cast_pow, Nat.cast_ofNat, mul_assoc]

/-- The place of a double in the order of all doubles, by its sign and its other bits. -/
theorem totalKey_eq (x : Float) :
    totalKey x = if isNegative x then -1 - (magnitude x : ℤ) else magnitude x := by
  have hbits : x.toBits.toNat < 2 * signBit := x.toBits.toNat_lt
  simp only [totalKey, isNegative, magnitude, decide_eq_true_eq]
  split
  · next hlt => rw [if_neg (by omega), Nat.mod_eq_of_lt hlt]
  · next hge =>
    have hmod : x.toBits.toNat % signBit = x.toBits.toNat - signBit := by
      rw [Nat.mod_eq_sub_mod (by omega), Nat.mod_eq_of_lt (by omega)]
    rw [if_pos (by omega), hmod]
    omega

/-- **Finite doubles are in the order of their values**, and the negative zero is before the other.
-/
theorem totalCompare_eq_lt_iff (hx : isFinite x = true) (hy : isFinite y = true) :
    totalCompare x y = .lt ↔
      value x < value y ∨ value x = value y ∧ isNegative x = true ∧ isNegative y = false := by
  have hleast : 0 < least := zpow_pos two_pos _
  have hcompare : totalCompare x y = .lt ↔ totalKey x < totalKey y := Int.compare_eq_lt
  have hsteps : ∀ m n : ℕ, (m < n ↔ steps m < steps n) := fun m n =>
    steps_strictMono.lt_iff_lt.symm
  rw [hcompare, totalKey_eq, totalKey_eq, value_eq hx, value_eq hy,
    mul_lt_mul_iff_of_pos_right hleast, mul_left_inj' hleast.ne', Int.cast_lt, Int.cast_inj,
    signedSteps, signedSteps]
  have hxy := hsteps (magnitude x) (magnitude y)
  have hyx := hsteps (magnitude y) (magnitude x)
  -- Below zero the order of the other bits is reversed, and the zeros differ in their signs only.
  cases hxn : isNegative x <;> cases hyn : isNegative y <;> simp <;> omega

end Double

/-! ## Times -/

namespace WallTime

/-- Wall clock times are totally preordered. -/
instance transCmp_compare : Std.TransCmp compare :=
  inferInstanceAs (Std.TransCmp
    (compareLex (compareOn day) (compareLex (compareOn second) (compareOn nano))))

end WallTime

namespace DateTime

/-- The order of two times is the reverse of that of the second and the first. -/
theorem compare?_swap (a b : DateTime) : (a.compare? b).map Ordering.swap = b.compare? a := by
  have hswap : ∀ x y : WallTime, (x.compare y).swap = y.compare x := fun _ _ =>
    Std.OrientedCmp.eq_swap.symm
  unfold compare?
  cases a.utc? <;> cases b.utc? <;> simp [hswap]

end DateTime

/-! ## Terms -/

namespace Value

/-- The order that a comparison found, if it found one. -/
def Comparison.ordering? : Comparison → Option Ordering
  | .numbers o => o
  | .booleans o => some o
  | .dateTimes o => o
  | .others => none

/-- The order of two values is the reverse of that of the second and the first. -/
theorem ordering?_swap (a b : Term) :
    (comparison a b).ordering?.map Ordering.swap = (comparison b a).ordering? := by
  have hbool : ∀ x y : Bool, (compareBool x y).swap = compareBool y x := by decide
  unfold comparison
  cases Numeric.ofTerm? a <;> cases Numeric.ofTerm? b <;> cases boolean? a <;>
    cases boolean? b <;> cases DateTime.ofTerm? a <;> cases DateTime.ofTerm? b <;>
    simp [Comparison.ordering?, Numeric.compare?_swap, DateTime.compare?_swap, hbool]

/-- The kinds of values that have an order of their own, and the values that have none. -/
inductive Kind where
  /-- Integers. -/
  | integer
  /-- Numbers that are no integers. -/
  | fractional
  /-- Not a number, of any numeric datatype. -/
  | notANumber
  /-- Booleans. -/
  | boolean
  /-- DateTimes with timezone. -/
  | instant
  /-- DateTimes without timezone. -/
  | wallTime
  /-- All other terms. -/
  | other
  deriving DecidableEq

/-- The kind of a value. -/
def kind (t : Term) : Kind :=
  match Numeric.ofTerm? t with
  | some (.integer _) => .integer
  | some n => if n.isNaN then .notANumber else .fractional
  | none =>
    match boolean? t with
    | some _ => .boolean
    | none =>
      match DateTime.ofTerm? t with
      | some d => if d.offset?.isSome then .instant else .wallTime
      | none => .other

namespace Kind

/-- What the terms of a kind are compared by. -/
def Carrier : Kind → Type
  | .integer => Int
  | .fractional => Float.Model.UnpackedFloat
  | .boolean => Bool
  | .instant => WallTime
  | .wallTime => WallTime
  -- Terms without an order of their own are left with their lexical forms.
  | .notANumber => String
  | .other => String

/-- The order of a kind. -/
def compare : (k : Kind) → k.Carrier → k.Carrier → Ordering
  | .integer => Ord.compare (α := Int)
  | .fractional => Double.compareParts
  | .boolean => Ord.compare (α := Bool)
  | .instant => WallTime.compare
  | .wallTime => WallTime.compare
  | .notANumber => Ord.compare (α := String)
  | .other => Ord.compare (α := String)

/-- Each kind is totally preordered. -/
instance transCmp_compare : (k : Kind) → Std.TransCmp k.compare
  | .integer => inferInstanceAs (Std.TransOrd Int)
  | .fractional => inferInstanceAs (Std.TransCmp Double.compareParts)
  | .boolean => inferInstanceAs (Std.TransOrd Bool)
  | .instant => WallTime.transCmp_compare
  | .wallTime => WallTime.transCmp_compare
  | .notANumber => inferInstanceAs (Std.TransOrd String)
  | .other => inferInstanceAs (Std.TransOrd String)

/-- The term is of the kind, and this is what it is compared by. -/
inductive Reads : (k : Kind) → Term → k.Carrier → Prop
  /-- An integer is compared as such. -/
  | integer {t : Term} {n : Int} (h : Numeric.ofTerm? t = some (.integer n)) : Reads .integer t n
  /-- Another number is compared as a double. -/
  | fractional {t : Term} {n : Numeric} (h : Numeric.ofTerm? t = some n) (hrank : n.rank ≠ 0)
    (hnan : n.isNaN = false) : Reads .fractional t n.toFloat.toModel.unpack
  /-- A NaN is compared by its lexical form. -/
  | notANumber {t : Term} {n : Numeric} (h : Numeric.ofTerm? t = some n) (hrank : n.rank ≠ 0)
    (hnan : n.isNaN = true) : Reads .notANumber t t.lexical
  /-- A boolean is compared as such. -/
  | boolean {t : Term} {x : Bool} (hn : Numeric.ofTerm? t = none) (h : boolean? t = some x) :
    Reads .boolean t x
  /-- A dateTime with timezone is compared in UTC. -/
  | instant {t : Term} {d : DateTime} {w : WallTime} (hn : Numeric.ofTerm? t = none)
    (hb : boolean? t = none) (h : DateTime.ofTerm? t = some d) (hw : d.utc? = some w) :
    Reads .instant t w
  /-- A dateTime without timezone is compared as it is. -/
  | wallTime {t : Term} {d : DateTime} (hn : Numeric.ofTerm? t = none) (hb : boolean? t = none)
    (h : DateTime.ofTerm? t = some d) (hw : d.utc? = none) : Reads .wallTime t d.wall
  /-- Another term is compared by its lexical form. -/
  | other {t : Term} (hn : Numeric.ofTerm? t = none) (hb : boolean? t = none)
    (hd : DateTime.ofTerm? t = none) : Reads .other t t.lexical

/-- Each term is read in its kind. -/
theorem exists_reads {k : Kind} {t : Term} (hk : kind t = k) : ∃ x, Reads k t x := by
  unfold kind at hk
  split at hk
  · next h =>
    subst hk
    exact ⟨_, .integer h⟩
  · next n hinteger h =>
    have hrank : n.rank ≠ 0 := by
      cases n with
      | integer n => exact absurd rfl (hinteger n)
      | decimal x | float x | double x => simp [Numeric.rank]
    split at hk <;> subst hk
    · next hnan => exact ⟨_, .notANumber h hrank hnan⟩
    · next hnan => exact ⟨_, .fractional h hrank (by simpa using hnan)⟩
  · next hn =>
    split at hk
    · next h =>
      subst hk
      exact ⟨_, .boolean hn h⟩
    · next hb =>
      split at hk
      · next d h =>
        cases ho : d.offset? with
        | some o =>
          obtain rfl : Kind.instant = k := by simpa [ho] using hk
          exact ⟨_, .instant hn hb h (by rw [DateTime.utc?, ho]; rfl)⟩
        | none =>
          obtain rfl : Kind.wallTime = k := by simpa [ho] using hk
          exact ⟨_, .wallTime hn hb h (by rw [DateTime.utc?, ho]; rfl)⟩
      · next hd =>
        subst hk
        exact ⟨_, .other hn hb hd⟩

/-- Two terms of one kind are compared in it, by the order that comparing finds or else by their
lexical forms. -/
theorem Reads.ordering {k : Kind} {a b : Term} {x y : k.Carrier} (hx : Reads k a x)
    (hy : Reads k b y) : (comparison a b).ordering?.getD (Ord.compare a.lexical b.lexical) =
      k.compare x y := by
  cases hx with
  | integer hx =>
    cases hy with | integer hy
    simp [comparison, hx, hy, Comparison.ordering?, Numeric.compare?, Kind.compare]
  | fractional hx hrank hnan =>
    cases hy with | fractional hy hrank' hnan'
    simp [comparison, hx, hy, Comparison.ordering?, Numeric.compare?_eq (.inl hrank), hnan, hnan',
      Kind.compare]
  | notANumber hx hrank hnan =>
    cases hy with | notANumber hy
    simp [comparison, hx, hy, Comparison.ordering?, Numeric.compare?_eq (.inl hrank), hnan,
      Kind.compare]
  | boolean hn hx =>
    cases hy with | boolean hn' hy
    have hbool : ∀ x y : Bool, compareBool x y = Ord.compare x y := by decide
    simp only [comparison, hn, hx, hy, Comparison.ordering?, Option.getD_some]
    exact hbool _ _
  | instant hn hb hx hw =>
    cases hy with | instant hn' hb' hy hw'
    simp [comparison, hn, hb, hx, hy, Comparison.ordering?, DateTime.compare?, hw, hw',
      Kind.compare]
  | wallTime hn hb hx hw =>
    cases hy with | wallTime hn' hb' hy hw'
    simp [comparison, hn, hb, hx, hy, Comparison.ordering?, DateTime.compare?, hw, hw',
      Kind.compare]
  | other hn hb hd =>
    cases hy with | other
    simp [comparison, hn, hb, hd, Comparison.ordering?, Kind.compare]

end Kind

end Value

end PagedSparql
