import PagedSparql.Value.Calendar

/-!
# Dates and their day numbers

A date that exists is found again from its day number (`Civil.ofDayNumber_dayNumber`), and every day
of the years that dates may have is the day of a date (`Civil.exists_date`).

`dayNumber` counts in eras of 400 years that begin in March, so a day of an era has four
coordinates: the century, the cycle of four years in the century, the year in the cycle and the day
in the year. Only the last year of a cycle has a day 365, and in the last cycle of a century only if
the century is the last of the era (`yearOfEra_of_coordinates`). The lengths of the months from
March on follow the quotients of 153 by 5 (`month_of_coordinates`).
-/

namespace PagedSparql.Civil

/-- The year of the era from the day of the era: century, cycle and year are all found by the one
division, since the leap days before the day are taken out first. -/
theorem yearOfEra_of_coordinates {century cycle year day dayOfEra : Int}
    (hcentury : 0 ≤ century ∧ century < 4) (hcycle : 0 ≤ cycle ∧ cycle < 25)
    (hyear : 0 ≤ year ∧ year < 4) (hday : 0 ≤ day ∧ day ≤ 365)
    (hleap : day = 365 → year = 3 ∧ (cycle = 24 → century = 3))
    (h : dayOfEra = 36524 * century + 1461 * cycle + 365 * year + day) :
    (dayOfEra - dayOfEra / 1460 + dayOfEra / 36524 - dayOfEra / 146096) / 365 =
      100 * century + 4 * cycle + year := by
  have hcenturies : dayOfEra / 36524 - dayOfEra / 146096 = century := by
    -- The very last day of an era would count as a fifth century.
    by_cases hend : dayOfEra = 146096
    · subst hend
      omega
    · have hquotient : dayOfEra / 36524 = century := by omega
      have hzero : dayOfEra / 146096 = 0 := by omega
      omega
  have hcycles : dayOfEra / 1460 =
      25 * century + cycle + (24 * century + cycle + 365 * year + day) / 1460 := by omega
  -- A cycle has a day more than four times 365, so the quotient may be one too large.
  have hover : (24 * century + cycle + 365 * year + day) / 1460 = 0 ∧ day ≤ 364 ∨
      (24 * century + cycle + 365 * year + day) / 1460 = 1 ∧ 1 ≤ day := by
    by_cases hless : 24 * century + cycle + 365 * year + day < 1460
    · left
      omega
    · right
      omega
  omega

/-- The month, counted from March, from the day of the year. -/
theorem month_of_coordinates {month day : Int} (hmonth : 0 ≤ month ∧ month ≤ 11)
    (hday : 1 ≤ day ∧ day ≤ 31)
    (hthirty : month = 1 ∨ month = 3 ∨ month = 6 ∨ month = 8 → day ≤ 30)
    (hfebruary : month = 11 → day ≤ 29) :
    (5 * ((153 * month + 2) / 5 + day - 1) + 2) / 153 = month := by
  have hcases : month = 0 ∨ month = 1 ∨ month = 2 ∨ month = 3 ∨ month = 4 ∨ month = 5 ∨ month = 6 ∨
      month = 7 ∨ month = 8 ∨ month = 9 ∨ month = 10 ∨ month = 11 := by omega
  omega

/-- A year has a leap day when four divides it, unless a hundred does and four hundred does not. -/
theorem isLeapYear_iff {year : Int} :
    isLeapYear year = true ↔ year % 4 = 0 ∧ (year % 100 = 0 → year % 400 = 0) := by
  simp only [isLeapYear, Bool.and_eq_true, Bool.or_eq_true, beq_iff_eq, bne_iff_ne]
  omega

/-- What makes a date exist, month by month. -/
theorem isValid_iff {c : Civil} : c.isValid = true ↔
    -262143 ≤ c.year ∧ c.year ≤ 262142 ∧ 1 ≤ c.month ∧ c.month ≤ 12 ∧ 1 ≤ c.day ∧ c.day ≤ 31 ∧
      (c.month = 4 ∨ c.month = 6 ∨ c.month = 9 ∨ c.month = 11 → c.day ≤ 30) ∧
      (c.month = 2 → c.day ≤ 29 ∧ (c.day = 29 → isLeapYear c.year = true)) := by
  rw [isValid, decide_eq_true_eq, daysInMonth]
  by_cases hfebruary : c.month = 2
  · rw [if_pos hfebruary]
    cases isLeapYear c.year with
    | true =>
      simp only [if_true, implies_true, and_true]
      omega
    | false =>
      simp only [Bool.false_eq_true, if_false, imp_false]
      omega
  · rw [if_neg hfebruary]
    split
    · omega
    · omega

/-- The year, counted from March. -/
def marchYear (c : Civil) : Int := if c.month ≤ 2 then c.year - 1 else c.year

/-- The month, counted from March. -/
def marchMonth (c : Civil) : Int := if 2 < c.month then c.month - 3 else c.month + 9

/-- The days from March to the date. -/
def dayOfYear (c : Civil) : Int := (153 * c.marchMonth + 2) / 5 + c.day - 1

/-- The days from the beginning of the era to the date. -/
def dayOfEra (c : Civil) : Int :=
  c.marchYear % 400 * 365 + c.marchYear % 400 / 4 - c.marchYear % 400 / 100 + c.dayOfYear

/-- The day number is the day of the era after the eras before it. -/
theorem dayNumber_eq (c : Civil) :
    c.dayNumber = c.marchYear / 400 * 146097 + c.dayOfEra - 719468 := by
  have hyears : c.marchYear - c.marchYear / 400 * 400 = c.marchYear % 400 := by omega
  simp only [dayOfEra, dayOfYear, ← hyears]
  rfl

/-- The month of a date that exists is one of the twelve, and the day is one of its days. -/
theorem marchMonth_spec {c : Civil} (h : c.isValid = true) :
    (0 ≤ c.marchMonth ∧ c.marchMonth ≤ 11) ∧ (1 ≤ (c.day : Int) ∧ (c.day : Int) ≤ 31) ∧
      (c.marchMonth = 1 ∨ c.marchMonth = 3 ∨ c.marchMonth = 6 ∨ c.marchMonth = 8 →
        (c.day : Int) ≤ 30) ∧ (c.marchMonth = 11 → (c.day : Int) ≤ 29) := by
  obtain ⟨-, -, hmonth, hmonths, hday, hdays, hthirty, hfebruary⟩ := isValid_iff.1 h
  unfold marchMonth
  split
  · omega
  · omega

/-- The month is found again from the month counted from March. -/
theorem calendarMonth_marchMonth {c : Civil} (h : c.isValid = true) :
    (if c.marchMonth < 10 then c.marchMonth + 3 else c.marchMonth - 9) = c.month := by
  obtain ⟨-, -, hmonth, hmonths, -⟩ := isValid_iff.1 h
  unfold marchMonth
  split
  · rw [if_pos (by omega)]
    omega
  · rw [if_neg (by omega)]
    omega

/-- January and February belong to the year that began in the March before. -/
theorem calendarYear_marchYear (c : Civil) :
    (c.marchYear + if (c.month : Int) ≤ 2 then 1 else 0) = c.year := by
  unfold marchYear
  split
  · rw [if_pos (by omega)]
    omega
  · rw [if_neg (by omega)]
    omega

/-- A year has at most 366 days. -/
theorem dayOfYear_bounds {c : Civil} (h : c.isValid = true) :
    0 ≤ c.dayOfYear ∧ c.dayOfYear ≤ 365 := by
  obtain ⟨hmonth, hday, -, hfebruary⟩ := marchMonth_spec h
  unfold dayOfYear
  omega

/-- Only the last year of a cycle has 366 days, and in the last cycle of a century only if the
century is the last of its era. -/
theorem year_of_dayOfYear {c : Civil} (h : c.isValid = true) (hlast : c.dayOfYear = 365) :
    c.marchYear % 4 = 3 ∧ (c.marchYear % 100 / 4 = 24 → c.marchYear % 400 / 100 = 3) := by
  obtain ⟨-, -, -, hmonths, -, hdays, -, hleap⟩ := isValid_iff.1 h
  have hfebruary29 : c.marchMonth = 11 ∧ (c.day : Int) = 29 := by
    unfold dayOfYear at hlast
    have hmonth : c.marchMonth = 11 := by omega
    rw [hmonth] at hlast
    exact ⟨hmonth, by omega⟩
  have hfebruary : c.month = 2 := by
    have hmonth := hfebruary29.1
    unfold marchMonth at hmonth
    split at hmonth
    · omega
    · omega
  have hleap : isLeapYear c.year = true := (hleap hfebruary).2 (by omega)
  obtain ⟨hfour, hhundred⟩ := isLeapYear_iff.1 hleap
  have hyear : c.marchYear = c.year - 1 := if_pos (by omega)
  omega

/-- The year is found again from the day of the era. -/
theorem yearOfEra_dayOfEra {c : Civil} (h : c.isValid = true) :
    (c.dayOfEra - c.dayOfEra / 1460 + c.dayOfEra / 36524 - c.dayOfEra / 146096) / 365 =
      c.marchYear % 400 := by
  have hcoordinates : c.dayOfEra = 36524 * (c.marchYear % 400 / 100) +
      1461 * (c.marchYear % 100 / 4) + 365 * (c.marchYear % 4) + c.dayOfYear := by
    unfold dayOfEra
    omega
  calc (c.dayOfEra - c.dayOfEra / 1460 + c.dayOfEra / 36524 - c.dayOfEra / 146096) / 365
      = 100 * (c.marchYear % 400 / 100) + 4 * (c.marchYear % 100 / 4) + c.marchYear % 4 :=
        yearOfEra_of_coordinates (by omega) (by omega) (by omega) (dayOfYear_bounds h)
          (year_of_dayOfYear h) hcoordinates
    _ = c.marchYear % 400 := by omega

/-- A date that exists is the date of its day number. -/
theorem ofDayNumber_dayNumber {c : Civil} (h : c.isValid = true) : ofDayNumber c.dayNumber = c := by
  obtain ⟨hmonths, hdays, hthirty, hfebruary⟩ := marchMonth_spec h
  have hofYear := dayOfYear_bounds h
  have hnumber : c.dayNumber + 719468 = c.marchYear / 400 * 146097 + c.dayOfEra := by
    rw [dayNumber_eq]
    omega
  have hofEra : 0 ≤ c.dayOfEra ∧ c.dayOfEra < 146097 := by
    unfold dayOfEra
    omega
  have hera : (c.dayNumber + 719468) / 146097 = c.marchYear / 400 := by omega
  have hrest : c.dayNumber + 719468 - c.marchYear / 400 * 146097 = c.dayOfEra := by omega
  have hday : c.dayOfEra - (365 * (c.marchYear % 400) + c.marchYear % 400 / 4 -
      c.marchYear % 400 / 100) = c.dayOfYear := by
    unfold dayOfEra
    omega
  have hmonth : (5 * c.dayOfYear + 2) / 153 = c.marchMonth :=
    month_of_coordinates hmonths hdays hthirty hfebruary
  have hdayOfMonth : c.dayOfYear - (153 * c.marchMonth + 2) / 5 + 1 = c.day := by
    unfold dayOfYear
    omega
  have hmarch : c.marchYear % 400 + c.marchYear / 400 * 400 = c.marchYear := by omega
  simp only [ofDayNumber, hera, hrest, yearOfEra_dayOfEra h, hday, hmonth, hdayOfMonth, hmarch,
    calendarMonth_marchMonth h, calendarYear_marchYear, Int.toNat_natCast]

/-! ## The date of a day -/

/-- A day of an era has coordinates. -/
theorem exists_coordinates (dayOfEra : Int) (h : 0 ≤ dayOfEra ∧ dayOfEra < 146097) :
    ∃ century cycle year day : Int, (0 ≤ century ∧ century < 4) ∧ (0 ≤ cycle ∧ cycle < 25) ∧
      (0 ≤ year ∧ year < 4) ∧ (0 ≤ day ∧ day ≤ 365) ∧
      (day = 365 → year = 3 ∧ (cycle = 24 → century = 3)) ∧
      dayOfEra = 36524 * century + 1461 * cycle + 365 * year + day := by
  -- The last century of an era and the last year of a cycle have a day more than the others, which
  -- a quotient would count to the next one.
  by_cases hend : dayOfEra = 146096
  · exact ⟨3, 24, 3, 365, by omega⟩
  · obtain ⟨century, ofCentury, hcentury, hofCentury, hera⟩ : ∃ century ofCentury : Int,
        (0 ≤ century ∧ century < 4) ∧ (0 ≤ ofCentury ∧ ofCentury < 36524) ∧
          dayOfEra = 36524 * century + ofCentury := ⟨dayOfEra / 36524, dayOfEra % 36524, by omega⟩
    obtain ⟨cycle, ofCycle, hcycle, hofCycle, hrest⟩ : ∃ cycle ofCycle : Int,
        (0 ≤ cycle ∧ cycle < 25) ∧ (0 ≤ ofCycle ∧ ofCycle < 1461) ∧
          ofCentury = 1461 * cycle + ofCycle := ⟨ofCentury / 1461, ofCentury % 1461, by omega⟩
    by_cases hleap : ofCycle = 1460
    · exact ⟨century, cycle, 3, 365, hcentury, hcycle, by omega, by omega, by omega, by omega⟩
    · exact ⟨century, cycle, ofCycle / 365, ofCycle % 365, hcentury, hcycle, by omega, by omega,
        by omega, by omega⟩

/-- A day of the year is a day of one of the twelve months. -/
theorem month_of_dayOfYear {day month : Int} (h : 0 ≤ day ∧ day ≤ 365)
    (hmonth : month = (5 * day + 2) / 153) :
    (0 ≤ month ∧ month ≤ 11) ∧
      (1 ≤ day - (153 * month + 2) / 5 + 1 ∧ day - (153 * month + 2) / 5 + 1 ≤ 31) ∧
      (month = 1 ∨ month = 3 ∨ month = 6 ∨ month = 8 → day - (153 * month + 2) / 5 + 1 ≤ 30) ∧
      (month = 11 → day - (153 * month + 2) / 5 + 1 ≤ 29 ∧
        (day - (153 * month + 2) / 5 + 1 = 29 → day = 365)) := by
  have hbounds : 153 * month ≤ 5 * day + 2 ∧ 5 * day + 2 < 153 * month + 153 := by omega
  clear hmonth
  have hcases : month = 0 ∨ month = 1 ∨ month = 2 ∨ month = 3 ∨ month = 4 ∨ month = 5 ∨ month = 6 ∨
      month = 7 ∨ month = 8 ∨ month = 9 ∨ month = 10 ∨ month = 11 := by omega
  rcases hcases with rfl | rfl | rfl | rfl | rfl | rfl | rfl | rfl | rfl | rfl | rfl | rfl
  all_goals omega

/-- There is a date for a year and a month from March on and a day of that month. -/
theorem exists_of_march (year : Int) {month day : Int} (hyear : -262143 ≤ year ∧ year < 262142)
    (hmonth : 0 ≤ month ∧ month ≤ 11) (hday : 1 ≤ day ∧ day ≤ 31)
    (hthirty : month = 1 ∨ month = 3 ∨ month = 6 ∨ month = 8 → day ≤ 30)
    (hfebruary : month = 11 → day ≤ 29 ∧ (day = 29 → isLeapYear (year + 1) = true)) :
    ∃ c : Civil, c.isValid = true ∧ c.marchYear = year ∧ c.marchMonth = month ∧
      (c.day : Int) = day := by
  obtain ⟨d, rfl⟩ := Int.eq_ofNat_of_zero_le (show 0 ≤ day by omega)
  by_cases hspring : month < 10
  · obtain ⟨m, hm⟩ := Int.eq_ofNat_of_zero_le (show 0 ≤ month + 3 by omega)
    refine ⟨⟨year, m, d⟩, isValid_iff.2 ?_, if_neg ?_, (if_pos ?_).trans ?_, rfl⟩
    · dsimp only
      refine ⟨by omega, by omega, by omega, by omega, by omega, by omega, by omega, fun h => ?_⟩
      omega
    · dsimp only
      omega
    · dsimp only
      omega
    · dsimp only
      omega
  · -- January and February belong to the next year of the calendar.
    obtain ⟨m, hm⟩ := Int.eq_ofNat_of_zero_le (show 0 ≤ month - 9 by omega)
    refine ⟨⟨year + 1, m, d⟩, isValid_iff.2 ?_, (if_pos ?_).trans ?_, (if_neg ?_).trans ?_, rfl⟩
    · dsimp only
      refine ⟨by omega, by omega, by omega, by omega, by omega, by omega, by omega, fun h => ?_⟩
      obtain ⟨hdays, hleap⟩ := hfebruary (by omega)
      exact ⟨by omega, fun hd => hleap (by omega)⟩
    · dsimp only
      omega
    · dsimp only
      omega
    · dsimp only
      omega
    · dsimp only
      omega

/-- Every day has a date, as long as the year is one that dates may have. -/
theorem exists_date {n : Int} (h : -90000000 ≤ n ∧ n ≤ 90000000) :
    ∃ c : Civil, c.isValid = true ∧ c.dayNumber = n := by
  obtain ⟨century, cycle, year, day, hcentury, hcycle, hyear, hday, hleap, hdayOfEra⟩ :=
    exists_coordinates ((n + 719468) % 146097) (by omega)
  obtain ⟨era, hera⟩ : ∃ era, era = (n + 719468) / 146097 := ⟨_, rfl⟩
  obtain ⟨month, hmonth⟩ : ∃ month, month = (5 * day + 2) / 153 := ⟨_, rfl⟩
  obtain ⟨hmonths, hdays, hthirty, hfebruary⟩ := month_of_dayOfYear hday hmonth
  obtain ⟨c, hvalid, hmarchYear, hmarchMonth, hcday⟩ :=
    exists_of_march (400 * era + (100 * century + 4 * cycle + year)) (by omega) hmonths hdays
      hthirty fun h => ⟨(hfebruary h).1, fun hd => isLeapYear_iff.2 (by
        have hlast := hleap ((hfebruary h).2 hd)
        omega)⟩
  have hdayOfYear : c.dayOfYear = day := by
    unfold dayOfYear
    omega
  refine ⟨c, hvalid, ?_⟩
  have hyearOfEra : c.marchYear % 400 = 100 * century + 4 * cycle + year := by omega
  have hfour : (100 * century + 4 * cycle + year) / 4 = 25 * century + cycle := by omega
  have hhundred : (100 * century + 4 * cycle + year) / 100 = century := by omega
  have hmarchEra : c.marchYear / 400 = era := by omega
  rw [dayNumber_eq, dayOfEra, hdayOfYear, hyearOfEra, hfour, hhundred, hmarchEra, hera]
  omega

end PagedSparql.Civil
