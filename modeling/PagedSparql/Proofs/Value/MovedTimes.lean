import PagedSparql.Proofs.Value.DateTimeText
import PagedSparql.Proofs.Value.Durations

/-!
# Times in another timezone

A time with an offset is moved to another timezone by way of UTC, so it should stay the same
instant. The clock is moved by the seconds of the new offset, but three things are lost
(`DateTime.adjust_keeps_instant_iff`): the text of the offset has no seconds
(`DateTime.zone?_zoneText_tdiv`), a leap second that is moved becomes an ordinary second
(`WallTime.addSeconds_back_iff`), and a year that four digits do not hold is not read beside an
offset (`DateTime.read?_toText_of_offset`). Whenever nothing is lost, the result is compared as
equal.
-/

namespace PagedSparql

/-! ## Moving a clock -/

namespace WallTime

/-- The time is within a leap second. -/
def IsLeap (t : WallTime) : Prop := nanosPerSecond ≤ t.nano

/-- Only a time is level with itself. -/
theorem compare_eq_eq_iff {a b : WallTime} : a.compare b = .eq ↔ a = b := by
  obtain ⟨day, second, nano⟩ := a
  obtain ⟨day', second', nano'⟩ := b
  simp only [compare, Ordering.then_eq_eq, Std.LawfulEqOrd.compare_eq_iff_eq, mk.injEq]

variable {t : WallTime} {n : Int}

/-- A time that is moved has a second of the day. -/
theorem second_addSeconds_lt (hsecond : t.second < 86400) (n : Int) :
    (t.addSeconds n).second < 86400 := by
  unfold addSeconds
  split
  · exact hsecond
  · dsimp only
    omega

/-- A time that is moved is no longer within a leap second. -/
theorem not_isLeap_addSeconds (hnano : t.nano < 2 * nanosPerSecond) (h : t.IsLeap → n ≠ 0) :
    ¬(t.addSeconds n).IsLeap := by
  unfold IsLeap at h ⊢
  unfold addSeconds
  split
  · next hzero => exact fun hleap => h hleap hzero
  · dsimp only
    split
    · omega
    · next hnot => simpa using hnot

/-- Moving outside of leap seconds counts the seconds of the days. -/
theorem addSeconds_of_not_isLeap (h : ¬t.IsLeap) (hsecond : t.second < 86400) (n : Int) :
    t.addSeconds n =
      ⟨t.day + (t.second + n) / 86400, ((t.second + n) % 86400).toNat, t.nano⟩ := by
  have hleap : decide (nanosPerSecond ≤ t.nano) = false := decide_eq_false h
  obtain ⟨day, second, nano⟩ := t
  dsimp only at hsecond hleap
  unfold addSeconds
  split
  · next hzero =>
    subst hzero
    simp only [mk.injEq, and_true]
    omega
  · simp only [hleap, Bool.false_and, Bool.false_eq_true, if_false]

/-- Outside of leap seconds, moves add up. -/
theorem addSeconds_addSeconds (h : ¬t.IsLeap) (hsecond : t.second < 86400) (n m : Int) :
    (t.addSeconds n).addSeconds m = t.addSeconds (n + m) := by
  have hmoved : ¬(t.addSeconds n).IsLeap := by
    rw [addSeconds_of_not_isLeap h hsecond]
    exact h
  rw [addSeconds_of_not_isLeap hmoved (second_addSeconds_lt hsecond n),
    addSeconds_of_not_isLeap h hsecond, addSeconds_of_not_isLeap h hsecond]
  simp only [mk.injEq, and_true]
  omega

/-- Outside of leap seconds, a time stays where it is only if it is not moved. -/
theorem addSeconds_eq_self_iff (h : ¬t.IsLeap) (hsecond : t.second < 86400) :
    t.addSeconds n = t ↔ n = 0 := by
  refine ⟨fun heq => ?_, fun hzero => by rw [hzero, addSeconds, if_pos rfl]⟩
  rw [addSeconds_of_not_isLeap h hsecond] at heq
  have hday := congrArg day heq
  have hseconds := congrArg second heq
  dsimp only at hday hseconds
  omega

/-- A move by some seconds and back by the whole minutes of them ends where it began just when the
seconds are whole minutes, and the time no leap second that is left. -/
theorem addSeconds_back_iff (hsecond : t.second < 86400) (hnano : t.nano < 2 * nanosPerSecond) :
    (t.addSeconds n).addSeconds (-(n.tdiv 60 * 60)) = t ↔ n % 60 = 0 ∧ (t.IsLeap → n = 0) := by
  have hminutes : n + -(n.tdiv 60 * 60) = 0 ↔ n % 60 = 0 := by
    rw [← Int.dvd_iff_emod_eq_zero, Int.dvd_iff_tmod_eq_zero, Int.tmod_def]
    omega
  by_cases hleap : t.IsLeap
  · by_cases hn : n = 0
    · subst hn
      exact ⟨fun _ => ⟨rfl, fun _ => rfl⟩, fun _ => rfl⟩
    · have hleft : ¬(t.addSeconds n).IsLeap := not_isLeap_addSeconds hnano fun _ => hn
      have hless : (t.addSeconds n).nano < 2 * nanosPerSecond := by
        unfold IsLeap at hleft
        omega
      -- The time is a leap second, and what came of it is none, wherever it is moved to.
      have hback := not_isLeap_addSeconds (n := -(n.tdiv 60 * 60)) hless fun h => absurd h hleft
      refine ⟨fun heq => ?_, fun h => absurd (h.2 hleap) hn⟩
      rw [heq] at hback
      exact absurd hleap hback
  · rw [addSeconds_addSeconds hleap hsecond, addSeconds_eq_self_iff hleap hsecond, hminutes]
    simp [hleap]

/-- The days of the years of four digits, and some around them. -/
theorem Proper.day_bounds (h : t.Proper) (hyear : 0 ≤ t.date.year ∧ t.date.year ≤ 9999) :
    -1000000 ≤ t.day ∧ t.day ≤ 3000000 := by
  obtain ⟨hvalid, hday⟩ := h.date_spec
  have hofYear := Civil.dayOfYear_bounds hvalid
  have hmarch : t.date.marchYear ≤ t.date.year ∧ t.date.year ≤ t.date.marchYear + 1 := by
    unfold Civil.marchYear
    split <;> omega
  rw [← hday, Civil.dayNumber_eq]
  unfold Civil.dayOfEra
  omega

/-- A time that is moved by less than a day has a day next to its own. -/
theorem day_addSeconds_bounds (hsecond : t.second < 86400) (hn : -86400 < n ∧ n < 86400) :
    t.day - 1 ≤ (t.addSeconds n).day ∧ (t.addSeconds n).day ≤ t.day + 1 := by
  unfold addSeconds
  split
  · omega
  · dsimp only
    split <;> omega

/-- A proper time that is moved is proper, if its day is one that has a date. -/
theorem Proper.addSeconds (h : t.Proper)
    (hday : -90000000 ≤ (t.addSeconds n).day ∧ (t.addSeconds n).day ≤ 90000000) :
    (t.addSeconds n).Proper := by
  obtain ⟨c, hvalid, hc⟩ := Civil.exists_date hday
  by_cases hn : n = 0
  · rw [hn, WallTime.addSeconds, if_pos rfl]
    exact h
  · have hleap : ¬(t.addSeconds n).IsLeap := not_isLeap_addSeconds h.nano_lt fun _ => hn
    unfold IsLeap at hleap
    exact ⟨⟨c, hvalid, hc⟩, second_addSeconds_lt h.second_lt n, by omega,
      fun hlong => absurd hlong hleap⟩

end WallTime

/-! ## Reading a time that was moved -/

namespace DateTime

/-- The text of a time with an offset is read as the time with whole minutes of the offset, if four
digits hold the year, and not at all if they do not. -/
theorem read?_toText_of_offset {wall : WallTime} {offset : Int} (hwall : wall.Proper)
    (hday : -86400 < offset ∧ offset < 86400) : read? (toText ⟨wall, some offset⟩) =
      if 0 ≤ wall.date.year ∧ wall.date.year ≤ 9999
        then some ⟨wall, some (offset.tdiv 60 * 60)⟩ else none := by
  have hzone : ((some offset).map zoneText).getD "" = zoneText offset := rfl
  rw [read?, trim_toText]
  split
  · next hyear =>
    rw [readZoned?_toText (d := ⟨wall, some offset⟩) hwall hyear, hzone, zone?_zoneText_tdiv hday]
    rfl
  · next hyear =>
    have hnotEmpty : (zoneText offset).toList.isEmpty = false := by
      refine List.isEmpty_eq_false_iff.2 fun hnil => ?_
      have hread := zone?_zoneText_tdiv hday
      rw [hnil] at hread
      cases hread
    rw [readZoned?_signed (d := ⟨wall, some offset⟩) hyear, Option.none_or,
      readLocal?_toText (d := ⟨wall, some offset⟩) hwall, hzone, hnotEmpty]
    rfl

/-- A literal of the datatype of times is no number, no boolean and no string. -/
theorem not_other_kind {l : Literal} (h : l.datatype = Vocabulary.xsdDateTime) :
    Numeric.ofTerm? (.literal l) = none ∧ Value.boolean? (.literal l) = none ∧
      l.isString = false := by
  have hlocal : Vocabulary.xsd.toList.isPrefixOf? Vocabulary.xsdDateTime.toList =
      some "dateTime".toList := by decide
  refine ⟨?_, ?_, ?_⟩
  · show Numeric.ofLiteral? l = none
    rw [Numeric.ofLiteral?, h, hlocal, Option.bind_some, String.ofList_toList]
    rw [if_neg (by decide), if_neg (by decide), if_neg (by decide), if_neg (by decide)]
  · show (if l.datatype = Vocabulary.xsdBoolean then _ else none) = none
    rw [h, if_neg (by decide)]
  · obtain ⟨value, annotation⟩ := l
    cases annotation with
    | plain => exact absurd (show Vocabulary.xsdString = _ from h) (by decide)
    | tagged _ => exact absurd (show Vocabulary.rdfLangString = _ from h) (by decide)
    | typed _ _ => rfl

/-- A literal of the datatype is compared with a time as a time, and not at all if its text is
none. -/
theorem compare_literals {l m : Literal} (hl : l.datatype = Vocabulary.xsdDateTime)
    (hm : m.datatype = Vocabulary.xsdDateTime) {b : DateTime} (hb : read? m.value = some b) :
    Value.compare (.literal l) (.literal m) =
      match read? l.value with
      | some a =>
        match a.compare? b with
        | some ordering => .ok (some ordering)
        | none => .error (.type .indeterminate)
      | none => .error (.type (.incomparable (.literal l) (.literal m))) := by
  have htime {k : Literal} (hk : k.datatype = Vocabulary.xsdDateTime) :
      ofTerm? (.literal k) = read? k.value := if_pos hk
  obtain ⟨hnumber, hboolean, hnotString⟩ := not_other_kind hl
  have hstring : Value.sameStringKind (.literal l) (.literal m) = false := by
    simp [Value.sameStringKind, hnotString]
  simp only [Value.compare, Value.comparison, hnumber, hboolean, htime hl, htime hm, hb]
  cases read? l.value with
  | none => simp only [hstring, Bool.false_eq_true, if_false]
  | some a =>
    dsimp only
    cases a.compare? b with
    | none => rfl
    | some ordering => rfl

/-- The literal that a time is read from. -/
theorem exists_of_ofTerm? {t : Term} {d : DateTime} (h : ofTerm? t = some d) : ∃ l : Literal,
    t = .literal l ∧ l.datatype = Vocabulary.xsdDateTime ∧ read? l.value = some d := by
  obtain ⟨l, hl, hread⟩ := Option.bind_eq_some_iff.1 h
  split at hread
  · next hdatatype =>
    cases t with
    | literal m =>
      cases hl
      exact ⟨l, rfl, hdatatype, hread⟩
    | iri _ => cases hl
    | blank _ => cases hl
  · cases hread

/-! ## Instants -/

/-- A time with an offset that was read has a proper time in UTC. -/
theorem Proper.utc {d : DateTime} (h : d.Proper) {offset : Int}
    (hoffset : d.offset? = some offset) :
    ∃ utc, d.utc? = some utc ∧ utc.Proper ∧ -2000000 ≤ utc.day ∧ utc.day ≤ 4000000 := by
  have hday := h.wall.day_bounds (h.year_of_offset offset hoffset)
  have hless := h.offset_lt offset hoffset
  have hnear := WallTime.day_addSeconds_bounds (n := -offset) h.wall.second_lt (by omega)
  exact ⟨d.wall.addSeconds (-offset), by rw [utc?, hoffset]; rfl, h.wall.addSeconds (by omega),
    by omega, by omega⟩

/-- Two times with offsets compare as equal just when they are the same instant. -/
theorem compare?_of_utc {a b : DateTime} {u v : WallTime} (hu : a.utc? = some u)
    (hv : b.utc? = some v) : ∃ ordering, a.compare? b = some ordering ∧ (ordering = .eq ↔ u = v) :=
  ⟨u.compare v, by rw [compare?, hu, hv], WallTime.compare_eq_eq_iff⟩

/-- The time that is moved to a timezone, and the timezone. -/
theorem exists_of_adjust {t zone result : Term} {d : DateTime} {utc : WallTime}
    (ht : ofTerm? t = some d) (hutc : d.utc? = some utc) (hzone : zone.lexical ≠ "")
    (h : Functions.adjust t zone = .ok (.ok result)) :
    ∃ target, readDuration? zone.lexical.toList = .ok (some target) ∧
      (-86400 < target ∧ target < 86400) ∧
      result = toTerm ⟨utc.addSeconds target, some target⟩ := by
  have hnotLiteral (h : zone.literal? = none) : Functions.adjust t zone =
      .ok (.error (.type .timezoneNotLiteral)) := by
    simp only [Functions.adjust, ofTerm, ht]
    cases zone with
    | literal l => cases h
    | iri _ => rfl
    | blank _ => rfl
  cases zone with
  | iri _ =>
    rw [hnotLiteral rfl] at h
    cases h
  | blank _ =>
    rw [hnotLiteral rfl] at h
    cases h
  | literal l =>
    rw [adjust_literal ht] at h
    have hadjusts : Adjusts d l.value (d.adjust l.value) := adjusts d hzone
    generalize d.adjust l.value = x at h hadjusts
    cases hadjusts with
    | moved target hread hday =>
      rw [hutc] at h
      cases h
      exact ⟨target, hread, hday, rfl⟩
    | refused => cases h
    | stopped => cases h

/-- **A time in another timezone is the same instant, unless its text loses something.** A time with
an offset is moved to a timezone by its instant. The result is read as the moved time, with whole
minutes of the offset, if four digits hold its year, and is no time otherwise. It compares as equal
to the time that was moved just when the timezone has whole minutes, four digits hold the year, and
the instant is no leap second, or else is not moved from UTC. -/
theorem adjust_keeps_instant_iff {t zone result : Term} {d : DateTime} {offset : Int}
    (ht : ofTerm? t = some d) (hoffset : d.offset? = some offset) (hzone : zone.lexical ≠ "")
    (h : Functions.adjust t zone = .ok (.ok result)) :
    ∃ utc target, d.utc? = some utc ∧ readDuration? zone.lexical.toList = .ok (some target) ∧
      (-86400 < target ∧ target < 86400) ∧
      ofTerm? result = (if 0 ≤ (utc.addSeconds target).date.year ∧
          (utc.addSeconds target).date.year ≤ 9999
        then some ⟨utc.addSeconds target, some (target.tdiv 60 * 60)⟩ else none) ∧
      (Value.compare result t = .ok (some .eq) ↔
        target % 60 = 0 ∧ (0 ≤ (utc.addSeconds target).date.year ∧
          (utc.addSeconds target).date.year ≤ 9999) ∧ (utc.IsLeap → target = 0)) := by
  -- Four digits held the year that was read, so moving the time does not lead out of the calendar.
  obtain ⟨m, rfl, hm, hread⟩ := exists_of_ofTerm? ht
  obtain ⟨utc, hutc, hproper, hutcDay⟩ := (proper_of_read? hread).utc hoffset
  obtain ⟨target, htarget, hday, rfl⟩ := exists_of_adjust ht hutc hzone h
  have hnear := WallTime.day_addSeconds_bounds hproper.second_lt hday
  have hmoved : (utc.addSeconds target).Proper := hproper.addSeconds (by omega)
  have htext := read?_toText_of_offset hmoved hday
  refine ⟨utc, target, hutc, htarget, hday, by rw [ofTerm?_toTerm, htext], ?_⟩
  -- What is compared is the time that the text of the result is read as.
  rw [toTerm_eq, compare_literals (by rfl) hm hread, htext]
  by_cases hyear : 0 ≤ (utc.addSeconds target).date.year ∧ (utc.addSeconds target).date.year ≤ 9999
  · obtain ⟨ordering, hordering, heq⟩ := compare?_of_utc
      (a := ⟨utc.addSeconds target, some (target.tdiv 60 * 60)⟩) rfl hutc
    rw [if_pos hyear]
    dsimp only
    rw [hordering]
    simp only [Except.ok.injEq, Option.some.injEq, heq,
      WallTime.addSeconds_back_iff hproper.second_lt hproper.nano_lt, hyear, true_and]
  · rw [if_neg hyear]
    simp [hyear]

/-- Half a minute from UTC: the clock shows the seconds, but the text of the offset does not. -/
theorem adjust_keeps_instant_iff_sample :
    ofTerm? (.literal (.typed "2002-03-07T10:00:00-07:00" Vocabulary.xsdDateTime)) =
      some ⟨⟨11753, 36000, 0⟩, some (-25200)⟩ ∧
    Functions.adjust (.literal (.typed "2002-03-07T10:00:00-07:00" Vocabulary.xsdDateTime))
        (.literal (.typed "PT30S" Vocabulary.xsdDayTimeDuration)) =
      .ok (.ok (.literal (.typed "2002-03-07T17:00:30+00:00" Vocabulary.xsdDateTime))) ∧
    ofTerm? (.literal (.typed "2002-03-07T17:00:30+00:00" Vocabulary.xsdDateTime)) =
      some ⟨⟨11753, 61230, 0⟩, some 0⟩ ∧
    Value.compare (.literal (.typed "2002-03-07T17:00:30+00:00" Vocabulary.xsdDateTime))
        (.literal (.typed "2002-03-07T10:00:00-07:00" Vocabulary.xsdDateTime)) ≠
      .ok (some .eq) := by
  have htime : ofTerm? (.literal (.typed "2002-03-07T10:00:00-07:00" Vocabulary.xsdDateTime)) =
      some ⟨⟨11753, 36000, 0⟩, some (-25200)⟩ := by decide +kernel
  have hmoved : Functions.adjust
        (.literal (.typed "2002-03-07T10:00:00-07:00" Vocabulary.xsdDateTime))
        (.literal (.typed "PT30S" Vocabulary.xsdDayTimeDuration)) =
      .ok (.ok (.literal (.typed "2002-03-07T17:00:30+00:00" Vocabulary.xsdDateTime))) := by
    decide +kernel
  obtain ⟨utc, target, -, htarget, -, -, hiff⟩ :=
    adjust_keeps_instant_iff htime rfl (by decide) hmoved
  have hseconds : readDuration? "PT30S".toList = .ok (some 30) := by decide
  obtain rfl : 30 = target := by simpa using hseconds.symm.trans htarget
  exact ⟨htime, hmoved, by decide +kernel, fun h => absurd (hiff.1 h).1 (by decide)⟩

end DateTime

end PagedSparql
