import PagedSparql.Proofs.Rdf.RowNotation

/-!
# Which terms read back

The compact form escapes nothing: an IRI stands bare, blanks at both ends of a text are dropped, and
a literal is cut at its last quote. So some terms are read back as others, or not at all.
`Term.WireSafe` says on the parts of a term which ones survive: an IRI that cannot be taken for
anything else, a label that is there and keeps its end, any value, and an annotation without quotes
that is there, keeps its end, and has no brackets of its own. These terms are exactly the readable
ones (`Term.readable_iff`), and a row is read back exactly when all its terms are such
(`Row.ofJson_toJson_iff`).
-/

namespace PagedSparql

namespace Text

/-- The text begins with a blank. -/
def startsBlank (text : List Char) : Bool := text.head?.any isBlank

/-- The text ends with a blank. -/
def endsBlank (text : List Char) : Bool := text.getLast?.any isBlank

/-- What remains when the front is trimmed is the end of the text. -/
theorem trimStart_isSuffix (text : List Char) : trimStart text <:+ text := List.dropWhile_suffix _

/-- What remains at the end is what remains at the front of the reversed text. -/
theorem trimEnd_eq_reverse (text : List Char) : trimEnd text = (trimStart text.reverse).reverse :=
  rfl

/-- What remains when the end is trimmed is the front of the text. -/
theorem trimEnd_isPrefix (text : List Char) : trimEnd text <+: text := by
  rw [trimEnd_eq_reverse, ← List.reverse_suffix, List.reverse_reverse]
  exact trimStart_isSuffix _

/-- A text loses nothing at the front when it does not begin with a blank. -/
theorem trimStart_eq_self_iff {text : List Char} :
    trimStart text = text ↔ startsBlank text = false := by
  cases text with
  | nil => simp [trimStart, startsBlank]
  | cons c rest =>
    cases hc : isBlank c with
    | false => simp [trimStart, startsBlank, hc]
    | true =>
      have hdrop : trimStart (c :: rest) = trimStart rest := by simp [trimStart, hc]
      have hlength := (trimStart_isSuffix rest).length_le
      simp only [hdrop, startsBlank, List.head?_cons, Option.any_some, hc, Bool.true_eq_false,
        iff_false]
      intro h
      rw [h, List.length_cons] at hlength
      omega

/-- A text loses nothing at the end when it does not end with a blank. -/
theorem trimEnd_eq_self_iff {text : List Char} : trimEnd text = text ↔ endsBlank text = false := by
  rw [trimEnd_eq_reverse, List.reverse_eq_iff, trimStart_eq_self_iff, startsBlank, endsBlank,
    List.head?_reverse]

/-- A text loses nothing when it neither begins nor ends with a blank. -/
theorem trim_eq_self_iff {text : List Char} :
    trim text = text ↔ startsBlank text = false ∧ endsBlank text = false := by
  rw [← trimStart_eq_self_iff, ← trimEnd_eq_self_iff]
  constructor
  · intro h
    have hlength : text.length ≤ (trimStart text).length :=
      calc text.length = (trim text).length := by rw [h]
        _ ≤ (trimStart text).length := (trimEnd_isPrefix _).length_le
    have hstart : trimStart text = text := (trimStart_isSuffix _).eq_of_length_le hlength
    exact ⟨hstart, by rwa [trim, hstart] at h⟩
  · rintro ⟨hstart, hend⟩
    rw [trim, hstart, hend]

/-- A text whose front is trimmed does not begin with a blank. -/
theorem startsBlank_trimStart (text : List Char) : startsBlank (trimStart text) = false := by
  induction text with
  | nil => rfl
  | cons c rest ih =>
    cases hc : isBlank c with
    | false => simp [trimStart, startsBlank, hc]
    | true => simpa [trimStart, hc] using ih

/-- A text whose end is trimmed does not end with a blank. -/
theorem endsBlank_trimEnd (text : List Char) : endsBlank (trimEnd text) = false := by
  rw [trimEnd_eq_reverse, endsBlank, List.getLast?_reverse]
  exact startsBlank_trimStart text.reverse

/-- Trimming a second time changes nothing. -/
@[simp] theorem trim_trim (text : List Char) : trim (trim text) = trim text := by
  refine trim_eq_self_iff.2 ⟨?_, endsBlank_trimEnd _⟩
  -- The end that is cut off leaves the first character alone.
  obtain ⟨rest, hrest⟩ := trimEnd_isPrefix (trimStart text)
  have hstart := startsBlank_trimStart text
  rw [← hrest] at hstart
  rw [trim]
  cases htrim : trimEnd (trimStart text) with
  | nil => rfl
  | cons c tail => simpa [htrim, startsBlank] using hstart

/-- Trimming leaves no more characters than there were. -/
theorem length_trim_le (text : List Char) : (trim text).length ≤ text.length :=
  (trimEnd_isPrefix _).length_le.trans (trimStart_isSuffix text).length_le

/-- Characters up to one that is not blank stay at the end of a text. -/
theorem trimEnd_append_cons {c : Char} (hc : isBlank c = false) (before after : List Char) :
    trimEnd (before ++ c :: after) = before ++ c :: trimEnd after := by
  rw [trimEnd_eq_reverse, trimEnd_eq_reverse, trimStart, trimStart, List.reverse_append,
    List.reverse_cons, List.append_assoc, List.dropWhile_append]
  split
  · next h => simp [List.isEmpty_iff.1 h, hc]
  · simp

/-- A text that begins with a character that is not blank loses its end only. -/
theorem trim_cons {c : Char} (hc : isBlank c = false) (rest : List Char) :
    trim (c :: rest) = c :: trimEnd rest := by
  rw [trim, trimStart_cons_of_not_isBlank hc]
  exact trimEnd_append_cons hc [] rest

end Text

/-- The characters of a text that is made of a list. -/
theorem toList_eq_of_ofList_eq {chars : List Char} {s : String} (h : .ofList chars = s) :
    s.toList = chars := by
  rw [← h, String.toList_ofList]

/-- A text is cut at a character unless the character is missing. -/
theorem splitLast_eq_none_iff {c : Char} {text : List Char} :
    splitLast c text = none ↔ c ∉ text := by
  induction text with
  | nil => simp [splitLast]
  | cons x rest ih =>
    rw [splitLast]
    split
    · next h =>
      have hc : c ∈ rest := by
        rw [← not_not (a := c ∈ rest), ← ih, h]
        simp
      simp [hc]
    · next h =>
      have hc : c ∉ rest := ih.1 h
      simp [hc, eq_comm]

/-- A text is cut at an occurrence of a character exactly when this is the last one. -/
theorem splitLast_eq_some_iff {c : Char} {text before after : List Char} :
    splitLast c text = some (before, after) ↔ text = before ++ c :: after ∧ c ∉ after := by
  constructor
  · intro h
    induction text generalizing before with
    | nil => simp [splitLast] at h
    | cons x rest ih =>
      rw [splitLast] at h
      split at h
      · next hrest =>
        obtain ⟨rfl, rfl⟩ := Prod.mk.inj (Option.some.inj h)
        exact ⟨congrArg _ (ih hrest).1, (ih hrest).2⟩
      · next hrest =>
        simp only [Option.ite_none_right_eq_some, Option.some.injEq, Prod.mk.injEq] at h
        obtain ⟨rfl, rfl, rfl⟩ := h
        exact ⟨rfl, splitLast_eq_none_iff.1 hrest⟩
  · rintro ⟨rfl, hc⟩
    induction before with
    | nil => simp [splitLast, splitLast_eq_none_iff.2 hc]
    | cons x before ih => simp [splitLast, ih]

/-- The text stands in one pair of angle brackets. -/
def Bracketed (text : List Char) : Prop := ∃ inner, text = '<' :: inner ++ ['>']

/-- Removing brackets leaves no more characters than there were. -/
theorem length_unbracket_le (text : List Char) : (unbracket text).length ≤ text.length := by
  unfold unbracket
  split
  · split
    · simp only [List.length_dropLast, List.length_cons]
      omega
    · exact le_rfl
  · exact le_rfl

/-- Removing brackets changes the texts that stand in brackets. -/
theorem unbracket_eq_self_iff {text : List Char} : unbracket text = text ↔ ¬Bracketed text := by
  constructor
  · rintro h ⟨inner, rfl⟩
    have hlength := congrArg List.length h
    simp only [unbracket, List.cons_append, List.getLast?_append, List.getLast?_singleton,
      Option.some_or, if_true, List.dropLast_concat, List.length_cons, List.length_append,
      List.length_nil] at hlength
    omega
  · intro h
    unfold unbracket
    split
    · next inner =>
      split
      · next hlast =>
        obtain ⟨init, rfl⟩ := List.getLast?_eq_some_iff.1 hlast
        exact absurd ⟨init, rfl⟩ h
      · rfl
    · rfl

namespace Annotation

/-- What an annotation adds behind the closing quote. -/
def suffix : Annotation → List Char
  | .plain => []
  | .tagged language => '@' :: language.toList
  | .typed datatype _ => '^' :: '^' :: datatype.toList

/-- A language tag or datatype survives: it is there, has no quote and keeps its end. A datatype
does not stand in brackets, which would be taken for notation. -/
def WireSafe : Annotation → Prop
  | .plain => True
  | .tagged language =>
    language ≠ "" ∧ '"' ∉ language.toList ∧ Text.endsBlank language.toList = false
  | .typed datatype _ =>
    datatype ≠ "" ∧ '"' ∉ datatype.toList ∧ Text.endsBlank datatype.toList = false ∧
      ¬Bracketed datatype.toList

end Annotation

namespace Literal

/-- A literal is written as its value between quotes, then its annotation. -/
theorem toList_toCompact (l : Literal) :
    l.toCompact.toList = '"' :: (l.value.toList ++ '"' :: l.annotation.suffix) := by
  obtain ⟨value, annotation⟩ := l
  cases annotation <;> simp [toCompact, Annotation.suffix]

/-- A literal that is read has the value that stands between the quotes. -/
theorem value_of_ofSuffix {value : String} {suffix : List Char} {l : Literal}
    (h : ofSuffix value suffix = .ok l) : l.value = value := by
  unfold ofSuffix at h
  split at h
  · cases h
    rfl
  · split at h
    · cases h
    · cases h
      rfl
  · split at h
    · cases h
    · cases h
      unfold typed
      split <;> rfl
  · cases h

/-- A literal is read with the value that it has exactly when nothing after the value is taken for a
quote. -/
theorem ofBody_eq_ok_iff {suffix : List Char} {l : Literal} :
    ofBody (l.value.toList ++ '"' :: suffix) = .ok l ↔
      '"' ∉ suffix ∧ ofSuffix l.value suffix = .ok l := by
  rw [ofBody]
  split
  · next hnone => exact absurd (splitLast_eq_none_iff.1 hnone) (by simp)
  · next before after hcut =>
    obtain ⟨htext, hquote⟩ := splitLast_eq_some_iff.1 hcut
    constructor
    · intro h
      have hbefore : before = l.value.toList := by
        rw [value_of_ofSuffix h, String.toList_ofList]
      obtain rfl : suffix = after := by simpa [hbefore] using htext
      exact ⟨hquote, by simpa [hbefore] using h⟩
    · rintro ⟨hsuffix, h⟩
      have hcut' :
          splitLast '"' (l.value.toList ++ '"' :: suffix) = some (l.value.toList, suffix) :=
        splitLast_eq_some_iff.2 ⟨rfl, hsuffix⟩
      obtain ⟨rfl, rfl⟩ := Prod.mk.inj (Option.some.inj (hcut.symm.trans hcut'))
      simpa using h

/-- A literal of a datatype has the datatype that it was made with. -/
theorem typed_eq_iff {value d datatype : String} {explicit : datatype ≠ Vocabulary.xsdString} :
    typed value d = ⟨value, .typed datatype explicit⟩ ↔ d = datatype := by
  unfold typed
  split
  · next h =>
    have hne : d ≠ datatype := fun heq => explicit (heq ▸ h)
    simp [simple, hne]
  · simp

/-- What stands after the value is read as the annotation that it was written for exactly when the
annotation survives. -/
theorem ofSuffix_trimEnd_eq_ok_iff {l : Literal} :
    '"' ∉ Text.trimEnd l.annotation.suffix ∧
        ofSuffix l.value (Text.trimEnd l.annotation.suffix) = .ok l ↔
      l.annotation.WireSafe := by
  obtain ⟨value, annotation⟩ := l
  cases annotation with
  | plain => simp [simple, Annotation.suffix, Annotation.WireSafe, Text.trimEnd, ofSuffix]
  | tagged language =>
    have htrim : Text.trimEnd ('@' :: language.toList) = '@' :: Text.trimEnd language.toList :=
      Text.trimEnd_append_cons (by decide) [] _
    unfold Annotation.suffix Annotation.WireSafe
    rw [htrim, ofSuffix]
    constructor
    · rintro ⟨hquote, h⟩
      split at h
      · cases h
      · next hempty =>
        have hlanguage : String.ofList (Text.trimEnd language.toList) = language :=
          Annotation.tagged.inj (congrArg annotation (Except.ok.inj h))
        have hkept : Text.trimEnd language.toList = language.toList :=
          (toList_eq_of_ofList_eq hlanguage).symm
        rw [hkept] at hquote hempty
        exact ⟨fun heq => hempty (by simp [heq]), fun hmem => hquote (.tail _ hmem),
          Text.trimEnd_eq_self_iff.1 hkept⟩
    · rintro ⟨hne, hquote, hend⟩
      rw [Text.trimEnd_eq_self_iff.2 hend]
      refine ⟨by simpa using hquote, ?_⟩
      rw [if_neg (by simpa using hne), String.ofList_toList]
      rfl
  | typed datatype explicit =>
    have htrim : Text.trimEnd ('^' :: '^' :: datatype.toList) =
        '^' :: '^' :: Text.trimEnd datatype.toList :=
      Text.trimEnd_append_cons (by decide) ['^'] _
    unfold Annotation.suffix Annotation.WireSafe
    rw [htrim, ofSuffix]
    constructor
    · rintro ⟨hquote, h⟩
      split at h
      · cases h
      · next hempty =>
        have hkept : unbracket (Text.trimEnd datatype.toList) = datatype.toList :=
          (toList_eq_of_ofList_eq (typed_eq_iff.1 (Except.ok.inj h))).symm
        -- Neither step takes a character away.
        have hend : Text.trimEnd datatype.toList = datatype.toList :=
          (Text.trimEnd_isPrefix _).eq_of_length_le <|
            calc datatype.toList.length
              _ = (unbracket (Text.trimEnd datatype.toList)).length := by rw [hkept]
              _ ≤ (Text.trimEnd datatype.toList).length := length_unbracket_le _
        rw [hend] at hquote hkept hempty
        rw [hkept] at hempty
        exact ⟨fun heq => hempty (by simp [heq]), fun hmem => hquote (.tail _ (.tail _ hmem)),
          Text.trimEnd_eq_self_iff.1 hend, unbracket_eq_self_iff.1 hkept⟩
    · rintro ⟨hne, hquote, hend, hbracketed⟩
      rw [Text.trimEnd_eq_self_iff.2 hend, unbracket_eq_self_iff.2 hbracketed]
      refine ⟨by simpa using hquote, ?_⟩
      rw [if_neg (by simpa using hne), String.ofList_toList, typed_eq_iff.2 rfl]

end Literal

namespace Term

/-- The beginnings that mark a text as something else than a bare IRI. -/
def openers : List String := ["?", "$", "_:", "\"", "<"]

/-- The term survives being written in compact form: it is read back as it was. -/
def WireSafe : Term → Prop
  | .iri text =>
    text ≠ "" ∧ Text.startsBlank text.toList = false ∧ Text.endsBlank text.toList = false ∧
      ∀ opener ∈ openers, ¬opener.toList <+: text.toList
  | .blank label => label ≠ "" ∧ Text.endsBlank label.toList = false
  | .literal l => l.annotation.WireSafe

/-- An IRI is readable exactly when it is not taken for anything else. -/
theorem readable_iri_iff {text : String} : (Term.iri text).Readable ↔ (Term.iri text).WireSafe := by
  constructor
  · intro h
    simp only [Readable, toCompact, parse] at h
    split at h
    · cases h
    · cases h
    · cases h
    · split at h <;> cases h
    · split at h <;> cases h
    · next inner htrim =>
      split at h
      · -- The text cannot be longer than itself.
        have hinner : text.toList = inner.dropLast :=
          toList_eq_of_ofList_eq (Term.iri.inj (Except.ok.inj h))
        have hlength := Text.length_trim_le text.toList
        rw [htrim, hinner, List.length_cons, List.length_dropLast] at hlength
        omega
      · cases h
    · next hempty hquestion hdollar hblank hquote hangle =>
      have htrim : text.toList = Text.trim text.toList :=
        toList_eq_of_ofList_eq (Term.iri.inj (Except.ok.inj h))
      rw [← htrim] at hempty hquestion hdollar hblank hquote hangle
      obtain ⟨hstart, hend⟩ := Text.trim_eq_self_iff.1 htrim.symm
      refine ⟨fun heq => hempty (by simp [heq]), hstart, hend, ?_⟩
      rintro opener hopener ⟨rest, hrest⟩
      simp only [openers, List.mem_cons, List.not_mem_nil, or_false] at hopener
      obtain rfl | rfl | rfl | rfl | rfl := hopener
      · exact hquestion rest hrest.symm
      · exact hdollar rest hrest.symm
      · exact hblank rest hrest.symm
      · exact hquote rest hrest.symm
      · exact hangle rest hrest.symm
  · rintro ⟨hne, hstart, hend, hopeners⟩
    simp only [Readable, toCompact, parse, Text.trim_eq_self_iff.2 ⟨hstart, hend⟩]
    split
    · next heq => exact absurd (String.toList_eq_nil_iff.1 heq) hne
    · next rest heq => exact absurd ⟨rest, heq.symm⟩ (hopeners "?" (by decide))
    · next rest heq => exact absurd ⟨rest, heq.symm⟩ (hopeners "$" (by decide))
    · next rest heq => exact absurd ⟨rest, heq.symm⟩ (hopeners "_:" (by decide))
    · next rest heq => exact absurd ⟨rest, heq.symm⟩ (hopeners "\"" (by decide))
    · next rest heq => exact absurd ⟨rest, heq.symm⟩ (hopeners "<" (by decide))
    · rw [String.ofList_toList]

/-- A blank node is readable exactly when its label is there and keeps its end. -/
theorem readable_blank_iff {label : String} :
    (Term.blank label).Readable ↔ (Term.blank label).WireSafe := by
  have htrim : Text.trim (Term.blank label).toCompact.toList =
      '_' :: ':' :: Text.trimEnd label.toList := by
    rw [toCompact, String.toList_append]
    exact (Text.trim_cons (by decide) _).trans
      (congrArg _ (Text.trimEnd_append_cons (by decide) [] _))
  simp only [Readable, parse, htrim, WireSafe]
  constructor
  · intro h
    split at h
    · cases h
    · next hempty =>
      have hkept : Text.trimEnd label.toList = label.toList :=
        (toList_eq_of_ofList_eq (Term.blank.inj (Except.ok.inj h))).symm
      rw [hkept] at hempty
      exact ⟨fun heq => hempty (by simp [heq]), Text.trimEnd_eq_self_iff.1 hkept⟩
  · rintro ⟨hne, hend⟩
    rw [Text.trimEnd_eq_self_iff.2 hend, if_neg (by simpa using hne), String.ofList_toList]

/-- A literal is readable exactly when its annotation survives. -/
theorem readable_literal_iff {l : Literal} :
    (Term.literal l).Readable ↔ (Term.literal l).WireSafe := by
  have htrim : Text.trim (Term.literal l).toCompact.toList =
      '"' :: (l.value.toList ++ '"' :: Text.trimEnd l.annotation.suffix) := by
    rw [toCompact, Literal.toList_toCompact, Text.trim_cons (by decide),
      Text.trimEnd_append_cons (by decide)]
  rw [WireSafe, ← Literal.ofSuffix_trimEnd_eq_ok_iff, ← Literal.ofBody_eq_ok_iff]
  simp only [Readable, parse, htrim]
  split
  · next hbody => rw [hbody]; simp
  · next hbody => rw [hbody]; simp

/-- The readable terms are those that survive by their parts. -/
theorem readable_iff : (t : Term) → (t.Readable ↔ t.WireSafe)
  | .iri _ => readable_iri_iff
  | .blank _ => readable_blank_iff
  | .literal _ => readable_literal_iff

end Term

namespace Row

/-- Cells are read one after the other. -/
theorem ofMembers_cells_cons {e : Variable × Term} {rest : List (Variable × Term)} {r read : Row}
    (h : ofMembers r ((e :: rest).map cell) = .ok read) :
    ∃ t, Term.parse e.2.toCompact = .ok t ∧
      ofMembers (r.insert e.1 t) (rest.map cell) = .ok read := by
  rw [List.map_cons, cell, ofMembers, Variable.ofText_toText] at h
  cases hparse : Term.parse e.2.toCompact with
  | error fault => rw [hparse] at h; cases h
  | ok t => rw [hparse] at h; exact ⟨t, rfl, h⟩

/-- A variable without a cell keeps its term. -/
theorem get?_of_ofMembers_cells {entries : List (Variable × Term)} {v : Variable}
    (hv : ∀ e ∈ entries, v ≠ e.1) {r read : Row}
    (h : ofMembers r (entries.map cell) = .ok read) : read.get? v = r.get? v := by
  induction entries generalizing r with
  | nil => cases h; rfl
  | cons e rest ih =>
    obtain ⟨t, -, h⟩ := ofMembers_cells_cons h
    rw [ih (fun e he => hv e (List.mem_cons_of_mem _ he)) h, VariableMap.get?_insert,
      if_neg (hv e List.mem_cons_self)]

/-- The term that a variable is read with comes from reading its cell. -/
theorem parse_of_ofMembers_cells {entries : List (Variable × Term)}
    (hne : entries.Pairwise fun a b => a.1 ≠ b.1) {r read : Row}
    (h : ofMembers r (entries.map cell) = .ok read) {e : Variable × Term} (he : e ∈ entries) :
    ∃ t, Term.parse e.2.toCompact = .ok t ∧ read.get? e.1 = some t := by
  induction entries generalizing r with
  | nil => exact absurd he List.not_mem_nil
  | cons e' rest ih =>
    obtain ⟨hfirst, hrest⟩ := List.pairwise_cons.1 hne
    obtain ⟨t, hparse, h⟩ := ofMembers_cells_cons h
    rcases List.mem_cons.1 he with rfl | he
    · refine ⟨t, hparse, ?_⟩
      rw [get?_of_ofMembers_cells hfirst h, VariableMap.get?_insert, if_pos rfl]
    · exact ih hrest h he

/-- **Which rows read back.** A row is read back from its JSON form exactly when all its terms
survive the compact form. -/
theorem ofJson_toJson_iff {r : Row} :
    ofJson r.toJson = .ok r ↔ ∀ v t, r.get? v = some t → t.WireSafe := by
  constructor
  · intro h v t hv
    rw [toJson_eq, ofJson] at h
    obtain ⟨t', hparse, hv'⟩ :=
      parse_of_ofMembers_cells r.entries_pairwise_ne h (VariableMap.mem_entries_iff.2 hv)
    obtain rfl : t = t' := Option.some.inj (hv.symm.trans hv')
    exact (Term.readable_iff t).1 hparse
  · intro h
    exact ofJson_toJson fun v t hv => (Term.readable_iff t).2 (h v t hv)

end Row

end PagedSparql
