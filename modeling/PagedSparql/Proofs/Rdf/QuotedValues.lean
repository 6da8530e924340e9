import PagedSparql.Proofs.Rdf.QueryForm

/-!
# Values inside their quotes

In SPARQL text the value of a literal stands between quotes and may hold anything. A reader takes
the value to end at the first quote that is not escaped, that is, before which an even number of
backslashes stands. Escaping makes this the closing quote (`Text.Enclosed`), however many quotes and
backslashes the value has and wherever they stand: each character becomes either itself, and then it
is no quote and no backslash, or a backslash and a character that this backslash escapes
(`Literal.escapeChar_spec`), so that no escape is left open between two characters of the value.

The quoted part gives the value back when its escapes are undone (`Literal.unescape?`), and what
follows the closing quote gives the language tag or the datatype. So literals are told apart by
their query forms.
-/

namespace PagedSparql

namespace Text

/-- The text ends in a backslash that escapes the next character: an odd number of backslashes
stands at its end. -/
def OpensEscape (text : List Char) : Prop := (text.reverse.takeWhile (· = '\\')).length % 2 = 1

instance : DecidablePred OpensEscape := fun _ => inferInstanceAs (Decidable (_ = _))

/-- A backslash escapes the next character unless it is escaped itself. -/
theorem opensEscape_concat_backslash (text : List Char) :
    OpensEscape (text ++ ['\\']) ↔ ¬OpensEscape text := by
  simp only [OpensEscape, List.reverse_append, List.reverse_singleton, List.singleton_append,
    List.takeWhile_cons, decide_true, if_true, List.length_cons]
  omega

/-- Other characters escape nothing. -/
theorem not_opensEscape_concat {c : Char} (h : c ≠ '\\') (text : List Char) :
    ¬OpensEscape (text ++ [c]) := by
  simp [OpensEscape, h]

/-- The text is a quoted part and what follows it: the part ends at the first quote after the
opening one that is not escaped. -/
structure Enclosed (text quoted after : List Char) : Prop where
  /-- The part stands between two quotes. -/
  split : text = '"' :: (quoted ++ '"' :: after)
  /-- The second quote is not escaped. -/
  closing : ¬OpensEscape ('"' :: quoted)
  /-- All quotes between these two are escaped. -/
  first : ∀ front rest, quoted = front ++ '"' :: rest → OpensEscape ('"' :: front)

variable {text quoted quoted' after after' : List Char}

/-- A quoted part does not go on after a closing quote. -/
theorem Enclosed.ne_append (h : Enclosed text quoted after) (h' : Enclosed text quoted' after')
    (c : Char) (rest : List Char) : quoted' ≠ quoted ++ c :: rest := by
  rintro rfl
  have hsplit := h.split.symm.trans h'.split
  simp only [List.append_assoc, List.cons_append, List.cons.injEq, List.append_cancel_left_eq,
    true_and] at hsplit
  obtain ⟨rfl, -⟩ := hsplit
  exact h.closing (h'.first quoted rest rfl)

/-- A text begins with one quoted part at most. -/
theorem Enclosed.unique (h : Enclosed text quoted after) (h' : Enclosed text quoted' after') :
    quoted = quoted' ∧ after = after' := by
  have hsplit : quoted ++ '"' :: after = quoted' ++ '"' :: after' :=
    List.tail_eq_of_cons_eq (h.split.symm.trans h'.split)
  rcases List.append_eq_append_iff.1 hsplit with ⟨mid, hmid, hafter⟩ | ⟨mid, hmid, hafter⟩
  · cases mid with
    | nil => simp_all
    | cons c rest => exact absurd hmid (h.ne_append h' c rest)
  · cases mid with
    | nil => simp_all
    | cons c rest => exact absurd hmid (h'.ne_append h c rest)

end Text

namespace Literal

open Text

/-- The characters that make an escape with a backslash before them. -/
def escapeLetters : List Char := ['"', '\\', 'n', 'r', 't']

/-- The text with its escapes undone. There is none if a backslash begins no escape. -/
def unescape? : List Char → Option (List Char)
  | [] => some []
  | '\\' :: c :: rest =>
    if c ∈ escapeLetters then (unescape? rest).map (unescapeChar c :: ·) else none
  | ['\\'] => none
  | c :: rest => (unescape? rest).map (c :: ·)

/-- What a character of a value becomes: itself, or the escape that stands for it. -/
theorem escapeChar_spec (c : Char) :
    (escapeChar c = [c] ∧ c ≠ '"' ∧ c ≠ '\\' ∧ c ∉ ['\n', '\r', '\t']) ∨
      ∃ x ∈ escapeLetters, escapeChar c = ['\\', x] ∧ unescapeChar x = c := by
  unfold escapeChar
  split
  case h_6 hquote hslash hline hreturn htab =>
    exact .inl ⟨rfl, hquote, hslash, by simpa using ⟨hline, hreturn, htab⟩⟩
  all_goals exact .inr ⟨_, by decide, rfl, rfl⟩

/-- Undoing the escape of a character gives the character. -/
theorem unescape?_escapeChar (c : Char) (rest : List Char) :
    unescape? (escapeChar c ++ rest) = (unescape? rest).map (c :: ·) := by
  rcases escapeChar_spec c with ⟨hself, -, hslash, -⟩ | ⟨x, hx, hpair, rfl⟩
  · rw [hself, List.singleton_append, unescape?]
    · exact fun _ _ h => absurd h hslash
    · exact fun h => absurd h hslash
  · rw [hpair, List.cons_append, List.singleton_append, unescape?, if_pos hx]

/-- Undoing the escapes of a value gives the value. -/
theorem unescape?_flatMap (value : List Char) :
    unescape? (value.flatMap escapeChar) = some value := by
  induction value with
  | nil => rfl
  | cons c value ih => rw [List.flatMap_cons, unescape?_escapeChar, ih, Option.map_some]

/-- Escaping leaves no line end and no tab. -/
theorem not_mem_flatMap_escapeChar {value : List Char} {c : Char}
    (h : c ∈ value.flatMap escapeChar) : c ∉ ['\n', '\r', '\t'] := by
  have hletters : ∀ x ∈ escapeLetters, x ∉ ['\n', '\r', '\t'] := by simp [escapeLetters]
  obtain ⟨d, -, hc⟩ := List.mem_flatMap.1 h
  rcases escapeChar_spec d with ⟨hself, -, -, hraw⟩ | ⟨x, hx, hpair, -⟩
  · rw [hself, List.mem_singleton] at hc
    exact hc ▸ hraw
  · rw [hpair, List.mem_pair] at hc
    rcases hc with rfl | rfl
    · decide
    · exact hletters c hx

variable {before front rest : List Char}

/-- The escape of a character leaves no escape open. -/
theorem not_opensEscape_escapeChar (h : ¬OpensEscape before) (c : Char) :
    ¬OpensEscape (before ++ escapeChar c) := by
  rcases escapeChar_spec c with ⟨hself, -, hslash, -⟩ | ⟨x, -, hpair, -⟩
  · rw [hself]
    exact not_opensEscape_concat hslash before
  · have hsplit : before ++ ['\\', x] = before ++ ['\\'] ++ [x] := by simp
    rw [hpair, hsplit]
    by_cases hx : x = '\\'
    · rw [hx, opensEscape_concat_backslash, opensEscape_concat_backslash, not_not]
      exact h
    · exact not_opensEscape_concat hx _

/-- A quote in the escape of a character is escaped. -/
theorem opensEscape_of_escapeChar (h : ¬OpensEscape before) {c : Char}
    (hquote : escapeChar c = front ++ '"' :: rest) : OpensEscape (before ++ front) := by
  rcases escapeChar_spec c with ⟨hself, hc, -, -⟩ | ⟨x, -, hpair, -⟩
  · rw [hself] at hquote
    rcases List.singleton_eq_append_iff.1 hquote with ⟨-, hsingle⟩ | ⟨-, hnone⟩
    · exact absurd (List.cons.inj hsingle).1.symm hc
    · exact absurd hnone (by simp)
  · rw [hpair] at hquote
    match front with
    | [] => simp at hquote
    | [d] =>
      obtain rfl : '\\' = d := (List.cons.inj hquote).1
      exact (opensEscape_concat_backslash before).2 h
    | _ :: _ :: _ => simp at hquote

/-- An escaped value leaves no escape open. -/
theorem not_opensEscape_flatMap (h : ¬OpensEscape before) (value : List Char) :
    ¬OpensEscape (before ++ value.flatMap escapeChar) := by
  induction value generalizing before with
  | nil => simpa using h
  | cons c value ih =>
    rw [List.flatMap_cons, ← List.append_assoc]
    exact ih (not_opensEscape_escapeChar h c)

/-- All quotes of an escaped value are escaped. -/
theorem opensEscape_of_flatMap (h : ¬OpensEscape before) {value : List Char}
    (hquote : value.flatMap escapeChar = front ++ '"' :: rest) : OpensEscape (before ++ front) := by
  induction value generalizing before front with
  | nil => simp at hquote
  | cons c value ih =>
    rw [List.flatMap_cons] at hquote
    rcases List.append_eq_append_iff.1 hquote with ⟨mid, hfront, hmid⟩ | ⟨mid, hchar, hmid⟩
    · -- The quote stands behind the first character.
      rw [hfront, ← List.append_assoc]
      exact ih (not_opensEscape_escapeChar h c) hmid
    · -- It stands among what the first character becomes, or right behind.
      cases mid with
      | nil =>
        have hnext : value.flatMap escapeChar = [] ++ '"' :: rest := hmid.symm
        have hopen := ih (not_opensEscape_escapeChar h c) hnext
        rwa [List.append_nil, hchar, List.append_nil] at hopen
      | cons d mid =>
        obtain ⟨rfl, -⟩ := List.cons.inj hmid
        exact opensEscape_of_escapeChar h hchar

end Literal

/-- What follows the closing quote tells the language tag or the datatype. -/
theorem Annotation.querySuffix_inj {a b : Annotation} (h : a.querySuffix = b.querySuffix) :
    a = b := by
  cases a <;> cases b <;> simp_all [querySuffix, String.toList_inj]

namespace Literal

open Text

/-- The query form of a literal is its escaped value as a quoted part, and its annotation. -/
theorem enclosed_toQuery (l : Literal) :
    Enclosed l.toQuery.toList (l.value.toList.flatMap escapeChar) l.annotation.querySuffix where
  split := by rw [toList_toQuery, escape, String.toList_ofList]
  closing := not_opensEscape_flatMap (show ¬OpensEscape ['"'] by decide) _
  first := fun _ _ h => opensEscape_of_flatMap (show ¬OpensEscape ['"'] by decide) h

/-- **A value stays inside its quotes.** In the query form of a literal the first quote after the
opening one that is not escaped is the closing quote, which the language tag or the datatype
follows. The part between them has no line end and no tab, and it is the value when its escapes are
undone. So literals with the same query form have the same value, datatype and language tag. -/
theorem toQuery_quotes_value (l : Literal) :
    (∃ quoted, Enclosed l.toQuery.toList quoted l.annotation.querySuffix ∧
      (∀ c ∈ quoted, c ∉ ['\n', '\r', '\t']) ∧ unescape? quoted = some l.value.toList) ∧
    ∀ m : Literal, l.toQuery = m.toQuery →
      l.value = m.value ∧ l.datatype = m.datatype ∧ l.language? = m.language? := by
  refine ⟨⟨_, l.enclosed_toQuery, fun c => not_mem_flatMap_escapeChar, unescape?_flatMap _⟩,
    fun m h => ?_⟩
  obtain ⟨hquoted, hsuffix⟩ := l.enclosed_toQuery.unique (h ▸ m.enclosed_toQuery)
  have hannotation : l.annotation = m.annotation := Annotation.querySuffix_inj hsuffix
  have hvalue : l.value = m.value := by
    simpa only [unescape?_flatMap, Option.some.injEq, String.toList_inj]
      using congrArg unescape? hquoted
  refine ⟨hvalue, ?_, ?_⟩
  · rw [datatype, datatype, hannotation]
  · rw [language?, language?, hannotation]

/-- A value that ends with a backslash before a language tag, and one that looks as if it were over
before its tag. -/
theorem toQuery_quotes_value_sample :
    (∃ quoted, Enclosed "\"a\\\\\"@en".toList quoted "@en".toList ∧
      (∀ c ∈ quoted, c ∉ ['\n', '\r', '\t']) ∧ unescape? quoted = some ['a', '\\']) ∧
    (Literal.simple "a\"@en").toQuery = "\"a\\\"@en\"" ∧
    (Literal.simple "a\"@en").toQuery ≠ (Literal.tagged "a\\" "en").toQuery := by
  have htagged : (Literal.tagged "a\\" "en").toQuery = "\"a\\\\\"@en" := by decide +kernel
  obtain ⟨⟨quoted, henclosed, hrest⟩, -⟩ := toQuery_quotes_value (.tagged "a\\" "en")
  obtain ⟨-, hdetermines⟩ := toQuery_quotes_value (.simple "a\"@en")
  refine ⟨⟨quoted, htagged ▸ henclosed, hrest⟩, by decide +kernel, fun h => ?_⟩
  exact absurd (hdetermines _ h).1 (by decide)

end Literal

end PagedSparql
