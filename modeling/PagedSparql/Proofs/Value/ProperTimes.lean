import PagedSparql.Proofs.Number.Digits
import PagedSparql.Proofs.Value.Calendar
import PagedSparql.Value.DateTime

/-!
# The times that are read

`WallTime.Proper` and `DateTime.Proper` say which times readers give: the day is that of a date, the
second one of the day, and more than a second of nanoseconds stands only in the last second of a
minute; a year beside an offset has four digits, and the offset has whole minutes and is less than a
day. Every time that is read is proper (`DateTime.proper_of_read?`), and a proper wall clock time is
found again from its fields (`WallTime.Proper.ofFields?_fields`).
-/

namespace PagedSparql

namespace WallTime

/-- The time has the date of some day and a time of that day; more than a second of nanoseconds
stands only in the last second of a minute. -/
structure Proper (t : WallTime) : Prop where
  /-- The day is that of a date that exists. -/
  exists_date : ∃ c : Civil, c.isValid = true ∧ c.dayNumber = t.day
  /-- The second is one of the day. -/
  second_lt : t.second < 86400
  /-- There are less nanoseconds than two seconds have. -/
  nano_lt : t.nano < 2 * nanosPerSecond
  /-- A leap second follows the last second of a minute. -/
  leap_last : nanosPerSecond ≤ t.nano → t.second % 60 = 59

/-- The date of a proper time exists, and its number is the day. -/
theorem Proper.date_spec {t : WallTime} (h : t.Proper) :
    t.date.isValid = true ∧ t.date.dayNumber = t.day := by
  obtain ⟨c, hvalid, hday⟩ := h.exists_date
  have hdate : t.date = c := by rw [date, ← hday, Civil.ofDayNumber_dayNumber hvalid]
  rw [hdate]
  exact ⟨hvalid, hday⟩

/-- The time of fields is proper, and its date is that of the fields. -/
theorem proper_of_ofFields? {c : Civil} {hour minute second nano : Nat} {t : WallTime}
    (hnano : nano < nanosPerSecond) (h : ofFields? c hour minute second nano = some t) :
    t.Proper ∧ t.date = c := by
  unfold ofFields? at h
  split at h
  · next hfields =>
    obtain ⟨hvalid, hhour, hminute, hsecond⟩ := hfields
    split at h
    · next hleap =>
      cases h
      refine ⟨⟨⟨c, hvalid, rfl⟩, ?_, ?_, fun _ => ?_⟩, Civil.ofDayNumber_dayNumber hvalid⟩
      · show hour * 3600 + minute * 60 + 59 < 86400
        omega
      · show nano + nanosPerSecond < 2 * nanosPerSecond
        omega
      · show (hour * 3600 + minute * 60 + 59) % 60 = 59
        omega
    · next hleap =>
      cases h
      refine ⟨⟨⟨c, hvalid, rfl⟩, ?_, ?_, fun hlong => ?_⟩, Civil.ofDayNumber_dayNumber hvalid⟩
      · show hour * 3600 + minute * 60 + second < 86400
        omega
      · show nano < 2 * nanosPerSecond
        omega
      · exact absurd hlong (Nat.not_le.2 hnano)
  · cases h

/-- All fields of a proper time have at most two digits, but for the year. -/
theorem Proper.fields_lt {t : WallTime} (h : t.Proper) :
    t.date.month < 10 ^ 2 ∧ t.date.day < 10 ^ 2 ∧ t.hour < 10 ^ 2 ∧ t.minute < 10 ^ 2 ∧
      t.secondOfMinute + t.nano / nanosPerSecond < 10 ^ 2 := by
  obtain ⟨-, -, -, hmonth, -, hday, -⟩ := Civil.isValid_iff.1 h.date_spec.1
  obtain ⟨-, hsecond, hnano, -⟩ := h
  unfold hour minute secondOfMinute
  unfold nanosPerSecond at hnano ⊢
  omega

/-- A proper time is the time of its fields, second 60 of a leap second included. -/
theorem Proper.ofFields?_fields {t : WallTime} (h : t.Proper) :
    ofFields? t.date t.hour t.minute (t.secondOfMinute + t.nano / nanosPerSecond)
      (t.nano % nanosPerSecond) = some t := by
  obtain ⟨hvalid, hday⟩ := h.date_spec
  obtain ⟨-, hsecond, hnano, hleap⟩ := h
  unfold nanosPerSecond at hnano hleap
  have hhour : t.hour < 24 := by
    unfold hour
    omega
  have hminute : t.minute < 60 := by
    unfold minute
    omega
  have htime : t.hour * 3600 + t.minute * 60 + t.secondOfMinute = t.second := by
    unfold hour minute secondOfMinute
    omega
  unfold ofFields? nanosPerSecond
  by_cases hlong : 1000000000 ≤ t.nano
  · have hlast : t.secondOfMinute = 59 := hleap hlong
    have hsixty : t.secondOfMinute + t.nano / 1000000000 = 60 := by omega
    have hrest : t.nano % 1000000000 + 1000000000 = t.nano := by omega
    rw [if_pos ⟨hvalid, hhour, hminute, by omega⟩, if_pos hsixty, ← hlast, htime, hrest, hday]
  · have hless : t.secondOfMinute < 60 := Nat.mod_lt _ (by decide)
    have hnone : t.nano / 1000000000 = 0 := by omega
    have hrest : t.nano % 1000000000 = t.nano := by omega
    rw [if_pos ⟨hvalid, hhour, hminute, by omega⟩, if_neg (by omega), hnone, hrest, Nat.add_zero,
      htime, hday]

end WallTime

namespace DateTime

/-- The wall clock time is proper. With an offset the year is one of four digits, and the offset is
less than a day and whole minutes. -/
structure Proper (d : DateTime) : Prop where
  /-- The wall clock time is one of a day that exists. -/
  wall : d.wall.Proper
  /-- The year beside an offset has four digits. -/
  year_of_offset : ∀ o ∈ d.offset?, 0 ≤ d.wall.date.year ∧ d.wall.date.year ≤ 9999
  /-- The offset is less than a day. -/
  offset_lt : ∀ o ∈ d.offset?, -86400 < o ∧ o < 86400
  /-- The offset is one of whole minutes. -/
  offset_minutes : ∀ o ∈ d.offset?, o % 60 = 0

/-- A number of some width is less than that power of ten. -/
theorem lt_of_fixed? {width n : Nat} {text rest : List Char}
    (h : fixed? width text = some (n, rest)) : n < 10 ^ width := by
  dsimp only [fixed?] at h
  split at h
  · next hdigits =>
    cases h
    calc Double.ofDigits (text.take width)
        < 10 ^ (text.take width).length := Double.ofDigits_lt hdigits.2
      _ = 10 ^ width := by rw [hdigits.1]
  · cases h

/-- A fraction is less than a second. -/
theorem lt_of_fraction? {nano : Nat} {text rest : List Char}
    (h : fraction? text = some (nano, rest)) : nano < WallTime.nanosPerSecond := by
  unfold fraction? at h
  split at h
  · next text =>
    dsimp only at h
    split at h
    · cases h
    · cases h
      have hlength : ((text.takeWhile Double.isDigit).take 9).length ≤ 9 := List.length_take_le _ _
      have hdigits : ((text.takeWhile Double.isDigit).take 9).all Double.isDigit = true :=
        List.all_eq_true.2 fun c hc =>
          List.all_eq_true.1 List.all_takeWhile c (List.mem_of_mem_take hc)
      calc Double.ofDigits ((text.takeWhile Double.isDigit).take 9) *
            10 ^ (9 - ((text.takeWhile Double.isDigit).take 9).length)
          < 10 ^ ((text.takeWhile Double.isDigit).take 9).length *
            10 ^ (9 - ((text.takeWhile Double.isDigit).take 9).length) :=
            Nat.mul_lt_mul_of_pos_right (Double.ofDigits_lt hdigits) (Nat.pow_pos (by decide))
        _ = 10 ^ 9 := by rw [← Nat.pow_add, Nat.add_sub_cancel' hlength]
  · cases h
    decide

/-- An offset that is read is less than a day and whole minutes. -/
theorem offset_of_zone? {offset : Int} {text : List Char} (h : zone? text = some offset) :
    (-86400 < offset ∧ offset < 86400) ∧ offset % 60 = 0 := by
  unfold zone? at h
  split at h
  · cases h
    decide
  · cases h
    decide
  · extract_lets signed at h
    obtain ⟨negative, h⟩ : ∃ negative, signed negative = some offset := by
      split at h
      · exact ⟨_, h⟩
      · split at h
        · exact ⟨_, h⟩
        · cases h
    obtain ⟨⟨hours, _⟩, -, h⟩ := Option.bind_eq_some_iff.1 h
    obtain ⟨_, -, h⟩ := Option.bind_eq_some_iff.1 h
    obtain ⟨⟨minutes, _⟩, -, h⟩ := Option.bind_eq_some_iff.1 h
    dsimp only at h
    split at h
    · next hfields =>
      cases h
      split <;> omega
    · cases h
  · cases h

/-- A time that is read with an offset is proper. -/
theorem proper_of_readZoned? {text : List Char} {d : DateTime} (h : readZoned? text = some d) :
    d.Proper := by
  unfold readZoned? at h
  obtain ⟨⟨year, _⟩, hyear, h⟩ := Option.bind_eq_some_iff.1 h
  obtain ⟨_, -, h⟩ := Option.bind_eq_some_iff.1 h
  obtain ⟨⟨month, _⟩, -, h⟩ := Option.bind_eq_some_iff.1 h
  obtain ⟨_, -, h⟩ := Option.bind_eq_some_iff.1 h
  obtain ⟨⟨day, _⟩, -, h⟩ := Option.bind_eq_some_iff.1 h
  -- The separator decides only which text the clock is read from.
  dsimp -zeta only at h
  extract_lets clock at h
  obtain ⟨rest, h⟩ : ∃ rest, clock rest = some d := by
    split at h
    · split at h
      · exact ⟨_, h⟩
      · cases h
    · cases h
  obtain ⟨⟨hour, _⟩, -, h⟩ := Option.bind_eq_some_iff.1 h
  obtain ⟨_, -, h⟩ := Option.bind_eq_some_iff.1 h
  obtain ⟨⟨minute, _⟩, -, h⟩ := Option.bind_eq_some_iff.1 h
  obtain ⟨_, -, h⟩ := Option.bind_eq_some_iff.1 h
  obtain ⟨⟨second, _⟩, -, h⟩ := Option.bind_eq_some_iff.1 h
  obtain ⟨⟨nano, _⟩, hnano, h⟩ := Option.bind_eq_some_iff.1 h
  obtain ⟨offset, hoffset, h⟩ := Option.bind_eq_some_iff.1 h
  obtain ⟨wall, hwall, h⟩ := Option.bind_eq_some_iff.1 h
  cases h
  obtain ⟨hproper, hdate⟩ := WallTime.proper_of_ofFields? (lt_of_fraction? hnano) hwall
  have hfour := lt_of_fixed? hyear
  obtain ⟨hday, hminutes⟩ := offset_of_zone? hoffset
  refine ⟨hproper, fun _ _ => ?_, ?_, ?_⟩
  · show 0 ≤ wall.date.year ∧ wall.date.year ≤ 9999
    rw [hdate]
    exact ⟨Int.natCast_nonneg year, by show (year : Int) ≤ 9999; omega⟩
  · rintro _ ⟨⟩
    exact hday
  · rintro _ ⟨⟩
    exact hminutes

/-- A time that is read without offset is proper. -/
theorem proper_of_readLocal? {text : List Char} {d : DateTime} (h : readLocal? text = some d) :
    d.Proper := by
  unfold readLocal? at h
  obtain ⟨⟨year, _⟩, -, h⟩ := Option.bind_eq_some_iff.1 h
  obtain ⟨_, -, h⟩ := Option.bind_eq_some_iff.1 h
  obtain ⟨⟨month, _⟩, -, h⟩ := Option.bind_eq_some_iff.1 h
  obtain ⟨_, -, h⟩ := Option.bind_eq_some_iff.1 h
  obtain ⟨⟨day, _⟩, -, h⟩ := Option.bind_eq_some_iff.1 h
  obtain ⟨_, -, h⟩ := Option.bind_eq_some_iff.1 h
  obtain ⟨⟨hour, _⟩, -, h⟩ := Option.bind_eq_some_iff.1 h
  obtain ⟨_, -, h⟩ := Option.bind_eq_some_iff.1 h
  obtain ⟨⟨minute, _⟩, -, h⟩ := Option.bind_eq_some_iff.1 h
  obtain ⟨_, -, h⟩ := Option.bind_eq_some_iff.1 h
  obtain ⟨⟨second, _⟩, -, h⟩ := Option.bind_eq_some_iff.1 h
  obtain ⟨⟨nano, _⟩, hnano, h⟩ := Option.bind_eq_some_iff.1 h
  obtain ⟨wall, hwall, h⟩ := Option.bind_eq_some_iff.1 h
  obtain ⟨hproper, -⟩ := WallTime.proper_of_ofFields? (lt_of_fraction? hnano) hwall
  split at h
  · cases h
    exact ⟨hproper, by simp, by simp, by simp⟩
  · cases h

/-- A time that is read is proper. -/
theorem proper_of_read? {text : String} {d : DateTime} (h : read? text = some d) : d.Proper := by
  rcases Option.or_eq_some_iff.1 h with hzoned | ⟨-, hlocal⟩
  · exact proper_of_readZoned? hzoned
  · exact proper_of_readLocal? hlocal

end DateTime

end PagedSparql
