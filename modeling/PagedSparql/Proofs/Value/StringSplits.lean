import Mathlib.Data.List.Infix
import PagedSparql.Value.Strings

/-!
# Strings are split at the first occurrence

A text is split at an occurrence of another one that none precedes
(`Value.splitFirst?_eq_some_iff`), and is not split only if there is none
(`Value.splitFirst?_eq_none_iff`). An occurrence at the very beginning is always the first one, so
the text begins with the other one just when there is nothing before the split
(`Value.isPrefixOf_iff`).

All functions of two strings ask for the same form of arguments (`Value.Fits`), so they
have values for the same terms, and the same errors for all others (`Value.strings_split_first`).
-/

namespace PagedSparql.Value

/-! ## Texts -/

variable {text part before after : List Char}

/-- A split is at an occurrence. -/
theorem eq_of_splitFirst? (h : splitFirst? text part = some (before, after)) :
    text = before ++ part ++ after := by
  induction text generalizing before with
  | nil =>
    unfold splitFirst? at h
    split at h
    · next rest hrest =>
      cases h
      exact (List.isPrefixOf?_eq_some_iff_append_eq.1 hrest).symm
    · cases h
  | cons c text ih =>
    unfold splitFirst? at h
    split at h
    · next rest hrest =>
      cases h
      exact (List.isPrefixOf?_eq_some_iff_append_eq.1 hrest).symm
    · obtain ⟨⟨front, back⟩, hsplit, hparts⟩ := Option.map_eq_some_iff.1 h
      cases hparts
      rw [ih hsplit]
      rfl

/-- No occurrence precedes the one that a text is split at, and there is a split if there is an
occurrence at all. -/
theorem exists_splitFirst?_of_occurrence {front back : List Char}
    (h : text = front ++ part ++ back) :
    ∃ before after, splitFirst? text part = some (before, after) ∧
      before.length ≤ front.length := by
  induction front generalizing text with
  | nil =>
    have hpart : part.isPrefixOf? text = some back := by
      rw [List.isPrefixOf?_eq_some_iff_append_eq, h, List.nil_append]
    exact ⟨[], back, by rw [splitFirst?.eq_def, hpart], Nat.le_refl _⟩
  | cons c front ih =>
    rw [List.cons_append, List.cons_append] at h
    subst h
    cases hpart : part.isPrefixOf? (c :: (front ++ part ++ back)) with
    | some rest =>
      exact ⟨[], rest, by rw [splitFirst?.eq_def, hpart], Nat.zero_le _⟩
    | none =>
      obtain ⟨before, after, hsplit, hlength⟩ := ih rfl
      refine ⟨c :: before, after, ?_, Nat.succ_le_succ hlength⟩
      rw [splitFirst?.eq_def, hpart]
      simp only [hsplit, Option.map_some]

/-- A text is split at the occurrence that none precedes. -/
theorem splitFirst?_eq_some_iff : splitFirst? text part = some (before, after) ↔
    text = before ++ part ++ after ∧
      ∀ front back, text = front ++ part ++ back → before.length ≤ front.length := by
  constructor
  · intro h
    refine ⟨eq_of_splitFirst? h, fun front back hfront => ?_⟩
    obtain ⟨_, _, hsplit, hlength⟩ := exists_splitFirst?_of_occurrence hfront
    rw [h] at hsplit
    cases hsplit
    exact hlength
  · rintro ⟨htext, hfirst⟩
    obtain ⟨front, back, hsplit, hlength⟩ := exists_splitFirst?_of_occurrence htext
    have hfront := eq_of_splitFirst? hsplit
    -- Both splits are of one text, with fronts of the same length.
    have hsame : front.length = before.length := Nat.le_antisymm hlength (hfirst _ _ hfront)
    rw [htext, List.append_assoc, List.append_assoc] at hfront
    obtain ⟨rfl, hrest⟩ := List.append_inj hfront hsame.symm
    obtain rfl := List.append_cancel_left hrest
    exact hsplit

/-- A text is not split only if the other one does not occur in it. -/
theorem splitFirst?_eq_none_iff : splitFirst? text part = none ↔
    ∀ front back, text ≠ front ++ part ++ back := by
  constructor
  · intro h front back hfront
    obtain ⟨_, _, hsplit, -⟩ := exists_splitFirst?_of_occurrence hfront
    rw [h] at hsplit
    cases hsplit
  · intro h
    cases hsplit : splitFirst? text part with
    | none => rfl
    | some parts => exact absurd (eq_of_splitFirst? hsplit) (h _ _)

/-- A text begins with the other one just when it is split there with nothing before. -/
theorem isPrefixOf_iff :
    part.isPrefixOf text = true ↔ ∃ after, splitFirst? text part = some ([], after) := by
  rw [List.isPrefixOf_iff_prefix]
  constructor
  · rintro ⟨after, rfl⟩
    refine ⟨after, splitFirst?_eq_some_iff.2 ⟨rfl, fun _ _ _ => Nat.zero_le _⟩⟩
  · rintro ⟨after, h⟩
    exact ⟨after, (eq_of_splitFirst? h).symm⟩

/-! ## Terms -/

/-- Two literals are strings, and their language tags are the same unless the second has none. -/
structure Fits (a b : Literal) : Prop where
  /-- The first literal is a string. -/
  first : a.isString = true
  /-- The second literal is a string. -/
  second : b.isString = true
  /-- The second has no language tag, or that of the first. -/
  tags : b.language? = none ∨ a.language? = b.language?

/-- The pair of two strings that fit. -/
theorem Fits.stringPair {a b : Literal} (h : Fits a b) : stringPair (.literal a) (.literal b) =
    .ok ⟨a.value.toList, a.language?, b.value.toList⟩ := by
  have htags : (b.language?.isNone || a.language? == b.language?) = true := by
    simpa using h.tags
  rw [Value.stringPair, stringArg, if_pos h.first, stringArg, if_pos h.second]
  show (if _ then _ else _) = _
  rw [if_pos htags]

/-- A term with a value and a tag is a string. -/
theorem exists_of_stringArg {t : Term} {p : String × Option String} (h : stringArg t = .ok p) :
    ∃ l : Literal, t = .literal l ∧ l.isString = true ∧ p.2 = l.language? := by
  cases t with
  | iri _ => cases h
  | blank _ => cases h
  | literal l =>
    rw [stringArg] at h
    split at h
    · next hstring =>
      cases h
      exact ⟨l, rfl, hstring, rfl⟩
    · cases h

/-- Terms with a pair are strings that fit. -/
theorem fits_of_stringPair {left right : Term} {p : StringPair}
    (h : stringPair left right = .ok p) :
    ∃ a b, left = .literal a ∧ right = .literal b ∧ Fits a b := by
  unfold stringPair at h
  cases hleft : stringArg left with
  | error e =>
    rw [hleft] at h
    cases h
  | ok x =>
    cases hright : stringArg right with
    | error e =>
      rw [hleft, hright] at h
      cases h
    | ok y =>
      rw [hleft, hright] at h
      change (if _ then _ else _) = _ at h
      split at h
      · next htags =>
        obtain ⟨a, ha, hastring, hatag⟩ := exists_of_stringArg hleft
        obtain ⟨b, hb, hbstring, hbtag⟩ := exists_of_stringArg hright
        rw [hatag, hbtag] at htags
        exact ⟨a, b, ha, hb, hastring, hbstring, by simpa using htags⟩
      · cases h

/-- There is an error for all other terms. -/
theorem exists_error_of_not_fits {left right : Term}
    (h : ∀ a b, left = .literal a → right = .literal b → ¬Fits a b) :
    ∃ e, stringPair left right = .error e := by
  cases hpair : stringPair left right with
  | error e => exact ⟨e, rfl⟩
  | ok p =>
    obtain ⟨a, b, hleft, hright, hfits⟩ := fits_of_stringPair hpair
    exact absurd hfits (h a b hleft hright)

/-- A string with a value and an optional tag. -/
theorem stringTerm_spec (value : String) (language? : Option String) :
    ∃ l : Literal, stringTerm value language? = .literal l ∧ l.value = value ∧
      l.isString = true ∧ l.language? = language? := by
  cases language? with
  | none => exact ⟨_, rfl, rfl, rfl, rfl⟩
  | some language => exact ⟨_, rfl, rfl, rfl, rfl⟩

/-- What the functions of two strings that fit give, told by the split. -/
theorem Fits.values {a b : Literal} (h : Fits a b) :
    strbefore (.literal a) (.literal b) = .ok
      (match splitFirst? a.value.toList b.value.toList with
        | some (before, _) => stringTerm (.ofList before) a.language?
        | none => .string "") ∧
    strafter (.literal a) (.literal b) = .ok
      (match splitFirst? a.value.toList b.value.toList with
        | some (_, after) => stringTerm (.ofList after) a.language?
        | none => .string "") ∧
    contains (.literal a) (.literal b) =
      .ok (splitFirst? a.value.toList b.value.toList).isSome ∧
    strstarts (.literal a) (.literal b) = .ok (b.value.toList.isPrefixOf a.value.toList) ∧
    strends (.literal a) (.literal b) = .ok (b.value.toList.isSuffixOf a.value.toList) := by
  rw [strbefore, strafter, contains, strstarts, strends, h.stringPair]
  dsimp only [Bind.bind, Except.bind]
  cases splitFirst? a.value.toList b.value.toList with
  | none => exact ⟨rfl, rfl, rfl, rfl, rfl⟩
  | some parts => exact ⟨rfl, rfl, rfl, rfl, rfl⟩

/-- A string occurs in another one, told by their characters. -/
theorem occurs_iff {a b : String} : (∃ u v, a = u ++ b ++ v) ↔
    ∃ front back, a.toList = front ++ b.toList ++ back := by
  constructor
  · rintro ⟨u, v, rfl⟩
    exact ⟨u.toList, v.toList, by simp⟩
  · rintro ⟨front, back, h⟩
    exact ⟨.ofList front, .ofList back, String.toList_inj.1 (by simpa using h)⟩

/-- A string ends with another one, told by their characters. -/
theorem isSuffixOf_toList_iff {a b : String} :
    b.toList.isSuffixOf a.toList = true ↔ ∃ u, a = u ++ b := by
  rw [List.isSuffixOf_iff_suffix]
  constructor
  · rintro ⟨front, h⟩
    exact ⟨.ofList front, String.toList_inj.1 (by simpa using h.symm)⟩
  · rintro ⟨u, rfl⟩
    exact ⟨u.toList, by rw [String.toList_append]⟩

/-- **Strings are split at the first occurrence.** For two strings that fit, the functions all have
values. The first string contains the second if it occurs somewhere in it, which is the case just
when the part before, the second string and the part after make up the first one. Then both parts
have the language tag of the first string, and no occurrence precedes the one between them; else
both parts are the empty string without tag. The first string begins with the second just when it
contains it and the part before is empty. For all other terms the five functions have the same
error. -/
theorem strings_split_first :
    (∀ a b : Literal, Fits a b → ∃ (before after : Literal) (found ends : Bool),
      strbefore (.literal a) (.literal b) = .ok (.literal before) ∧
      strafter (.literal a) (.literal b) = .ok (.literal after) ∧
      contains (.literal a) (.literal b) = .ok found ∧
      strstarts (.literal a) (.literal b) = .ok (found && before.value == "") ∧
      strends (.literal a) (.literal b) = .ok ends ∧
      (found = true ↔ ∃ u v, a.value = u ++ b.value ++ v) ∧
      (found = true ↔ a.value = before.value ++ b.value ++ after.value) ∧
      (found = true → (before.isString = true ∧ before.language? = a.language?) ∧
        (after.isString = true ∧ after.language? = a.language?) ∧
        ∀ u v, a.value = u ++ b.value ++ v → before.value.length ≤ u.length) ∧
      (found = false → before = .simple "" ∧ after = .simple "") ∧
      (ends = true ↔ ∃ u, a.value = u ++ b.value)) ∧
    (∀ left right : Term, (∀ a b, left = .literal a → right = .literal b → ¬Fits a b) →
      ∃ e, strbefore left right = .error e ∧ strafter left right = .error e ∧
        contains left right = .error e ∧ strstarts left right = .error e ∧
        strends left right = .error e) := by
  refine ⟨fun a b h => ?_, fun left right h => ?_⟩
  · obtain ⟨hbefore, hafter, hcontains, hstarts, hends⟩ := h.values
    cases hsplit : splitFirst? a.value.toList b.value.toList with
    | none =>
      have hnowhere : ¬∃ u v, a.value = u ++ b.value ++ v := by
        rw [occurs_iff]
        rintro ⟨front, back, htext⟩
        exact splitFirst?_eq_none_iff.1 hsplit front back htext
      have hbegins : b.value.toList.isPrefixOf a.value.toList = false := by
        rw [Bool.eq_false_iff, ne_eq, isPrefixOf_iff, hsplit]
        simp
      rw [hsplit] at hbefore hafter hcontains
      rw [hbegins] at hstarts
      exact ⟨.simple "", .simple "", false, _, hbefore, hafter, hcontains, hstarts, hends,
        by simpa using hnowhere, ⟨by simp, fun htext => absurd ⟨_, _, htext⟩ hnowhere⟩, by simp,
        by simp, isSuffixOf_toList_iff⟩
    | some parts =>
      obtain ⟨before, after⟩ := parts
      obtain ⟨htext, hfirst⟩ := splitFirst?_eq_some_iff.1 hsplit
      obtain ⟨x, hx, hxvalue, hxspec⟩ := stringTerm_spec (.ofList before) a.language?
      obtain ⟨y, hy, hyvalue, hyspec⟩ := stringTerm_spec (.ofList after) a.language?
      have hvalue : a.value = x.value ++ b.value ++ y.value := by
        rw [hxvalue, hyvalue, ← String.toList_inj]
        simpa using htext
      have hbegins : b.value.toList.isPrefixOf a.value.toList = (true && x.value == "") := by
        rw [Bool.eq_iff_iff, isPrefixOf_iff, hsplit, hxvalue]
        simp
      rw [hsplit] at hbefore hafter hcontains
      rw [hbegins] at hstarts
      refine ⟨x, y, true, _, hbefore.trans (congrArg _ hx), hafter.trans (congrArg _ hy), hcontains,
        hstarts, hends, ?_, ?_, fun _ => ⟨hxspec, hyspec, fun u v huv => ?_⟩, by simp,
        isSuffixOf_toList_iff⟩
      · simpa using ⟨_, _, hvalue⟩
      · simpa using hvalue
      · have hlength := hfirst u.toList v.toList (by simpa using congrArg String.toList huv)
        rwa [hxvalue, String.length_ofList, ← String.length_toList]
  · obtain ⟨e, hpair⟩ := exists_error_of_not_fits h
    refine ⟨e, ?_⟩
    rw [strbefore, strafter, contains, strstarts, strends, hpair]
    exact ⟨rfl, rfl, rfl, rfl, rfl⟩

/-- The second string occurs twice, and the occurrences overlap; a tag on the second string alone
does not fit. -/
theorem strings_split_first_sample :
    Fits (.tagged "éababa" "fr") (.simple "aba") ∧
    strbefore (.literal (.tagged "éababa" "fr")) (.string "aba") =
      .ok (.literal (.tagged "é" "fr")) ∧
    strafter (.literal (.tagged "éababa" "fr")) (.string "aba") =
      .ok (.literal (.tagged "ba" "fr")) ∧
    (∀ u v, "éababa" = u ++ "aba" ++ v → 1 ≤ u.length) ∧
    ¬Fits (.simple "éababa") (.tagged "aba" "fr") ∧
    ∃ e, contains (.string "éababa") (.literal (.tagged "aba" "fr")) = .error e ∧
      strends (.string "éababa") (.literal (.tagged "aba" "fr")) = .error e := by
  obtain ⟨hvalues, herrors⟩ := strings_split_first
  have hfits : Fits (.tagged "éababa" "fr") (.simple "aba") := ⟨rfl, rfl, .inl rfl⟩
  have hnot : ¬Fits (.simple "éababa") (.tagged "aba" "fr") := fun h => by
    simpa [Literal.language?, Literal.simple, Literal.tagged] using h.tags
  obtain ⟨before, after, found, ends, hbefore, hafter, hfound, -, -, hoccurs, -, hfirst, -, -⟩ :=
    hvalues _ _ hfits
  have hpart : strbefore (.literal (.tagged "éababa" "fr")) (.string "aba") =
      .ok (.literal (.tagged "é" "fr")) := by decide +kernel
  obtain rfl : before = .tagged "é" "fr" := by simpa using hbefore.symm.trans hpart
  obtain ⟨-, -, hnone⟩ := hfirst (hoccurs.2 ⟨"é", "ba", by decide⟩)
  obtain ⟨e, -, -, hcontains, -, hends⟩ :=
    herrors (.string "éababa") (.literal (.tagged "aba" "fr")) fun a b ha hb h => by
      cases ha
      cases hb
      exact hnot h
  exact ⟨hfits, hpart, by decide +kernel, hnone, hnot, e, hcontains, hends⟩

end PagedSparql.Value
