import PagedSparql.Eval.Cast
import PagedSparql.Proofs.Rdf.WireSafety
import PagedSparql.Proofs.Value.DateTimeParts
import PagedSparql.Proofs.Value.ProperTimes

/-!
# Times are read back from their text

The text of a proper time is read as that time (`DateTime.Proper.read?_toText`). With an offset it is
in the form that is tried first. Without one that form finds no offset at the end, or no digit at the
front, so the text is read in the other form. Since whatever is read is proper, printing a time that
was read and reading it again gives the same time, and a cast to a time changes nothing the second
time (`DateTime.printing_undone`).
-/

namespace PagedSparql.DateTime

/-! ## A proper time is read back -/

/-- The text of a time, part by part. -/
theorem toList_toText (d : DateTime) : d.toText.toList =
    (yearText d.wall.date.year).toList ++ '-' :: ((pad 2 d.wall.date.month).toList ++
      '-' :: ((pad 2 d.wall.date.day).toList ++ 'T' :: ((pad 2 d.wall.hour).toList ++
      ':' :: ((pad 2 d.wall.minute).toList ++ ':' ::
      ((pad 2 (d.wall.secondOfMinute + d.wall.nano / WallTime.nanosPerSecond)).toList ++
      ((fractionText (d.wall.nano % WallTime.nanosPerSecond)).toList ++
      ((d.offset?.map zoneText).getD "").toList)))))) := by
  simp [toText]

/-- What follows the seconds of a time is no further digit and no point. -/
theorem head?_zone (offset? : Option Int) :
    ∀ c ∈ ((offset?.map zoneText).getD "").toList.head?, Double.isDigit c = false ∧ c ≠ '.' := by
  cases offset? with
  | none => simp
  | some offset =>
    rw [Option.map_some, Option.getD_some, zoneText]
    split
    · simp; decide
    · rw [toList_offsetText]
      split
      · simp; decide
      · simp; decide

/-- When the front of a text is read, what comes next is read from the rest. -/
theorem bind_of_eq_some {α β : Type} {x : Option α} {a : α} (h : x = some a) (f : α → Option β) :
    (x >>= f) = f a := by
  rw [h]
  rfl

/-- With a year of four digits the text of a time is read as one with an offset as soon as its end
is read as an offset. -/
theorem readZoned?_toText {d : DateTime} (h : d.wall.Proper)
    (hyear : 0 ≤ d.wall.date.year ∧ d.wall.date.year ≤ 9999) :
    readZoned? d.toText.toList =
      (zone? ((d.offset?.map zoneText).getD "").toList).map fun offset => ⟨d.wall, some offset⟩ := by
  obtain ⟨hmonth, hday, hhour, hminute, hsecond⟩ := h.fields_lt
  have hyearText : yearText d.wall.date.year = pad 4 d.wall.date.year.natAbs := if_pos (by omega)
  have hfour : d.wall.date.year.natAbs < 10 ^ 4 := by omega
  have hnano : d.wall.nano % WallTime.nanosPerSecond < WallTime.nanosPerSecond :=
    Nat.mod_lt _ (by decide)
  have hdate : (⟨(d.wall.date.year.natAbs : Int), d.wall.date.month, d.wall.date.day⟩ : Civil) =
      d.wall.date := by rw [Int.natAbs_of_nonneg hyear.1]
  rw [toList_toText, hyearText]
  -- the reader takes the text one field after another, each with the separator that follows it
  refine (bind_of_eq_some (fixed?_pad (by decide) hfour _) _).trans ?_
  refine (bind_of_eq_some rfl _).trans ?_
  refine (bind_of_eq_some (fixed?_pad (by decide) hmonth _) _).trans ?_
  refine (bind_of_eq_some rfl _).trans ?_
  refine (bind_of_eq_some (fixed?_pad (by decide) hday _) _).trans ?_
  refine (if_pos (Or.inl rfl)).trans ?_
  refine (bind_of_eq_some rfl _).trans ?_
  refine (bind_of_eq_some (fixed?_pad (by decide) hhour _) _).trans ?_
  refine (bind_of_eq_some rfl _).trans ?_
  refine (bind_of_eq_some (fixed?_pad (by decide) hminute _) _).trans ?_
  refine (bind_of_eq_some rfl _).trans ?_
  refine (bind_of_eq_some (fixed?_pad (by decide) hsecond _) _).trans ?_
  refine (bind_of_eq_some (fraction?_fractionText hnano (head?_zone _)) _).trans ?_
  dsimp only
  rw [hdate, h.ofFields?_fields]
  cases zone? ((d.offset?.map zoneText).getD "").toList with
  | none => rfl
  | some offset => rfl

/-- The text of a proper time is read as one without offset if no offset is at its end. -/
theorem readLocal?_toText {d : DateTime} (h : d.wall.Proper) : readLocal? d.toText.toList =
    if ((d.offset?.map zoneText).getD "").toList.isEmpty then some ⟨d.wall, none⟩ else none := by
  obtain ⟨hmonth, hday, hhour, hminute, hsecond⟩ := h.fields_lt
  have hnano : d.wall.nano % WallTime.nanosPerSecond < WallTime.nanosPerSecond :=
    Nat.mod_lt _ (by decide)
  rw [toList_toText]
  refine (bind_of_eq_some (year?_yearText _ _) _).trans ?_
  refine (bind_of_eq_some rfl _).trans ?_
  refine (bind_of_eq_some (padded?_pad (by decide) hmonth _) _).trans ?_
  refine (bind_of_eq_some rfl _).trans ?_
  refine (bind_of_eq_some (padded?_pad (by decide) hday _) _).trans ?_
  refine (bind_of_eq_some rfl _).trans ?_
  refine (bind_of_eq_some (padded?_pad (by decide) hhour _) _).trans ?_
  refine (bind_of_eq_some rfl _).trans ?_
  refine (bind_of_eq_some (padded?_pad (by decide) hminute _) _).trans ?_
  refine (bind_of_eq_some rfl _).trans ?_
  refine (bind_of_eq_some (padded?_pad (by decide) hsecond _) _).trans ?_
  refine (bind_of_eq_some (fraction?_fractionText hnano (head?_zone _)) _).trans ?_
  exact bind_of_eq_some h.ofFields?_fields _

/-- A year that four digits do not hold begins with a sign, where a time with an offset has a
digit. -/
theorem readZoned?_signed {d : DateTime}
    (hyear : ¬(0 ≤ d.wall.date.year ∧ d.wall.date.year ≤ 9999)) :
    readZoned? d.toText.toList = none := by
  have hsigned : ∃ sign rest, d.toText.toList = sign :: rest ∧ Double.isDigit sign = false := by
    rw [toList_toText, toList_yearText, if_neg (by omega)]
    exact ⟨_, _, rfl, by split <;> decide⟩
  obtain ⟨sign, rest, htext, hsign⟩ := hsigned
  have hfixed : fixed? 4 d.toText.toList = none := by
    rw [htext, fixed?, if_neg]
    simp [hsign]
  unfold readZoned?
  rw [hfixed]
  rfl

/-! ## Blanks -/

/-- A number filled up with zeros has no blanks. -/
theorem isBlank_pad (width n : Nat) : ∀ c ∈ (pad width n).toList, Text.isBlank c = false :=
  fun c hc => Double.isBlank_of_isDigit (List.all_eq_true.1 (all_isDigit_pad width n) c hc)

/-- A fraction of a second has no blanks. -/
theorem isBlank_fractionText (nano : Nat) :
    ∀ c ∈ (fractionText nano).toList, Text.isBlank c = false := by
  have hpoint : Text.isBlank '.' = false := by decide
  unfold fractionText
  split
  · simp
  · split
    · simpa [hpoint] using isBlank_pad 3 _
    · split
      · simpa [hpoint] using isBlank_pad 6 _
      · simpa [hpoint] using isBlank_pad 9 _

/-- An offset has no blanks. -/
theorem isBlank_zoneText (offset : Int) :
    ∀ c ∈ (zoneText offset).toList, Text.isBlank c = false := by
  unfold zoneText
  split
  · simp; decide
  · rw [toList_offsetText]
    simp only [List.forall_mem_cons, List.forall_mem_append]
    exact ⟨by split <;> decide, isBlank_pad 2 _, by decide, isBlank_pad 2 _⟩

/-- The text of a time has no blanks. -/
theorem isBlank_toText (d : DateTime) : ∀ c ∈ d.toText.toList, Text.isBlank c = false := by
  have hyear : ∀ c ∈ (yearText d.wall.date.year).toList, Text.isBlank c = false := by
    rw [toList_yearText]
    split
    · exact isBlank_pad 4 _
    · rw [List.forall_mem_cons]
      exact ⟨by split <;> decide, isBlank_pad 4 _⟩
  have hzone : ∀ c ∈ ((d.offset?.map zoneText).getD "").toList, Text.isBlank c = false := by
    cases d.offset? with
    | none => simp
    | some offset => exact isBlank_zoneText offset
  rw [toList_toText]
  simp only [List.forall_mem_cons, List.forall_mem_append]
  exact ⟨hyear, by decide, isBlank_pad 2 _, by decide, isBlank_pad 2 _, by decide, isBlank_pad 2 _,
    by decide, isBlank_pad 2 _, by decide, isBlank_pad 2 _, isBlank_fractionText _, hzone⟩

/-- The text of a time loses nothing when it is trimmed. -/
theorem trim_toText (d : DateTime) : Text.trim d.toText.toList = d.toText.toList := by
  refine Text.trim_eq_self_iff.2 ⟨?_, ?_⟩
  · rw [Text.startsBlank, Option.any_eq_false]
    exact fun c hc => by simp [isBlank_toText d c (List.mem_of_head? hc)]
  · rw [Text.endsBlank, Option.any_eq_false]
    exact fun c hc => by simp [isBlank_toText d c (List.mem_of_getLast? hc)]

/-! ## The whole text -/

/-- A proper time is read back from its text. -/
theorem Proper.read?_toText {d : DateTime} (h : d.Proper) : read? d.toText = some d := by
  rw [read?, trim_toText]
  cases hoffset : d.offset? with
  | none =>
    have hzoned : readZoned? d.toText.toList = none := by
      by_cases hyear : 0 ≤ d.wall.date.year ∧ d.wall.date.year ≤ 9999
      · rw [readZoned?_toText h.wall hyear, hoffset]
        rfl
      · exact readZoned?_signed hyear
    have hlocal : readLocal? d.toText.toList = some ⟨d.wall, none⟩ := by
      rw [readLocal?_toText h.wall, hoffset]
      rfl
    rw [hzoned, Option.none_or, hlocal, ← hoffset]
  | some offset =>
    rw [readZoned?_toText h.wall (h.year_of_offset offset hoffset), hoffset, Option.map_some,
      Option.getD_some, zone?_zoneText (h.offset_lt offset hoffset) (h.offset_minutes offset hoffset),
      Option.map_some, ← hoffset]
    rfl

/-- Blanks around a text do not matter. -/
theorem read?_trim (text : String) : read? (.ofList (Text.trim text.toList)) = read? text := by
  rw [read?, read?, String.toList_ofList, Text.trim_trim]

/-- A time makes a literal of its text. -/
theorem toTerm_eq (d : DateTime) :
    d.toTerm = .literal ⟨d.toText, .typed Vocabulary.xsdDateTime (by decide)⟩ := by
  rw [toTerm, Literal.typed, dif_neg]

/-- The literal of a time stands for what its text is read as. -/
theorem ofTerm?_toTerm (d : DateTime) : ofTerm? d.toTerm = read? d.toText := by
  rw [toTerm_eq]
  simp [ofTerm?, Term.literal?, Literal.datatype]

/-- A cast to a time reads the text of a literal. -/
theorem castTo_dateTime (t : Term) : Value.castTo Vocabulary.xsdDateTime t =
    if t.isBlank then .ok none
    else if t.isLiteral then .ok ((read? t.lexical).map toTerm)
    else .error (.unknownFunction Vocabulary.xsdDateTime) := by
  have hother : Vocabulary.xsdDateTime ≠ Vocabulary.xsdString ∧
      Vocabulary.xsdDateTime ≠ Vocabulary.xsdBoolean ∧
      Vocabulary.xsdDateTime ≠ Vocabulary.xsdInteger ∧
      Vocabulary.xsdDateTime ≠ Vocabulary.xsdDecimal ∧
      Vocabulary.xsdDateTime ≠ Vocabulary.xsdFloat ∧
      Vocabulary.xsdDateTime ≠ Vocabulary.xsdDouble := by decide
  obtain ⟨hstring, hboolean, hinteger, hdecimal, hfloat, hdouble⟩ := hother
  simp only [Value.castTo, if_neg hstring, if_neg hboolean, if_neg hinteger, if_neg hdecimal,
    if_neg hfloat, if_neg hdouble, true_and, read?_trim]

/-- A cast to a time takes the literals with the text of a time. -/
theorem cast_eq_ok_iff {t u : Term} : Value.cast Vocabulary.xsdDateTime [t] = .ok u ↔
    t.isLiteral = true ∧ ∃ d, read? t.lexical = some d ∧ u = d.toTerm := by
  rw [Value.cast, castTo_dateTime]
  cases t with
  | iri _ => simp [Term.isLiteral, Term.isBlank]
  | blank _ => simp [Term.isLiteral, Term.isBlank]
  | literal l =>
    cases hread : read? (Term.literal l).lexical with
    | none => simp [Term.isLiteral, Term.isBlank]
    | some d => simp [Term.isLiteral, Term.isBlank, eq_comm]

/-- Whatever a time is read from, with or without offset, its text is read as the same time. So a
cast to a time, which takes any literal with the text of a time, yields a literal of that very time,
and casting the result changes nothing. -/
theorem printing_undone :
    (∀ text d, read? text = some d → read? d.toText = some d) ∧
      ∀ t u, Value.cast Vocabulary.xsdDateTime [t] = .ok u →
        ofTerm? u = read? t.lexical ∧ Value.cast Vocabulary.xsdDateTime [u] = .ok u := by
  have hprinted : ∀ text d, read? text = some d → read? d.toText = some d :=
    fun text d h => (proper_of_read? h).read?_toText
  refine ⟨hprinted, fun t u h => ?_⟩
  obtain ⟨-, d, hread, rfl⟩ := cast_eq_ok_iff.1 h
  have hagain := hprinted _ _ hread
  refine ⟨?_, cast_eq_ok_iff.2 ⟨rfl, d, ?_, rfl⟩⟩
  · rw [ofTerm?_toTerm, hagain, hread]
  · rw [toTerm_eq]
    exact hagain

/-- A leap second with a small separator and an offset that prints as `Z`, and a year with a sign
and more digits of a fraction than are kept. -/
theorem printing_undone_sample :
    (read? "2024-02-29t23:59:60.5-00:00" = some ⟨⟨19782, 86399, 1500000000⟩, some 0⟩ ∧
      read? (toText ⟨⟨19782, 86399, 1500000000⟩, some 0⟩) =
        some ⟨⟨19782, 86399, 1500000000⟩, some 0⟩) ∧
      Value.cast Vocabulary.xsdDateTime [.string " -1-2-28T3:9:60.1234567891 "] =
        .ok (.literal (.typed "-0001-02-28T03:09:60.123456789" Vocabulary.xsdDateTime)) ∧
      Value.cast Vocabulary.xsdDateTime
          [.literal (.typed "-0001-02-28T03:09:60.123456789" Vocabulary.xsdDateTime)] =
        .ok (.literal (.typed "-0001-02-28T03:09:60.123456789" Vocabulary.xsdDateTime)) := by
  have hread : read? "2024-02-29t23:59:60.5-00:00" =
      some ⟨⟨19782, 86399, 1500000000⟩, some 0⟩ := by decide +kernel
  have hcast : Value.cast Vocabulary.xsdDateTime [.string " -1-2-28T3:9:60.1234567891 "] =
      .ok (.literal (.typed "-0001-02-28T03:09:60.123456789" Vocabulary.xsdDateTime)) :=
    cast_eq_ok_iff.2 ⟨rfl, ⟨⟨-719835, 11399, 1123456789⟩, none⟩, by decide +kernel,
      by decide +kernel⟩
  exact ⟨⟨hread, printing_undone.1 _ _ hread⟩, hcast, (printing_undone.2 _ _ hcast).2⟩

end PagedSparql.DateTime
