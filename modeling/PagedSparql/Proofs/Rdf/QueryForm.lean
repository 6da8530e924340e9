import Mathlib.Data.List.Basic
import Mathlib.Data.List.Infix
import PagedSparql.Rdf.Variable

/-!
# Where the query form of a term ends

In SPARQL text a blank follows each term, and a reader has to find it. It always finds the end of
the value of a literal, since its quotes are escaped (`Literal.readQuoted?_escape`). Nothing else is
escaped: a text is over at the first blank, or at the first `>` before a blank where it stands in
brackets. `TermPattern.Delimited` says that this place is the end of the text, and then the text
determines the term and what follows it (`TermPattern.toQuery_append_inj`).
-/

namespace PagedSparql

namespace Literal

/-- The character that an escaped one stands for. -/
def unescapeChar : Char → Char
  | 'n' => '\n'
  | 'r' => '\r'
  | 't' => '\t'
  | c => c

/-- Reads an escaped value up to the first quote that is not escaped; also gives what follows. -/
def readQuoted? : List Char → Option (List Char × List Char)
  | [] => none
  | '"' :: rest => some ([], rest)
  | '\\' :: c :: rest =>
    (readQuoted? rest).map fun (value, after) => (unescapeChar c :: value, after)
  | c :: rest => (readQuoted? rest).map fun (value, after) => (c :: value, after)

/-- An escaped character is read as one character of the value. -/
theorem readQuoted?_escapeChar (c : Char) (rest : List Char) :
    readQuoted? (escapeChar c ++ rest) =
      (readQuoted? rest).map fun (value, after) => (c :: value, after) := by
  unfold escapeChar
  split
  case h_6 hquote hslash _ _ _ =>
    rw [List.singleton_append, readQuoted?]
    · exact hquote
    · exact fun _ _ h => absurd h hslash
  all_goals simp [readQuoted?, unescapeChar]

/-- An escaped value is read back up to its closing quote, whatever follows. -/
theorem readQuoted?_escape (value rest : List Char) :
    readQuoted? (value.flatMap escapeChar ++ '"' :: rest) = some (value, rest) := by
  induction value with
  | nil => rfl
  | cons c value ih =>
    rw [List.flatMap_cons, List.append_assoc, readQuoted?_escapeChar, ih, Option.map_some]

/-- An escaped value before a quote determines the value and what follows. -/
theorem escape_append_inj {value value' : String} {rest rest' : List Char}
    (h : (escape value).toList ++ '"' :: rest = (escape value').toList ++ '"' :: rest') :
    value = value' ∧ rest = rest' := by
  rw [escape, escape, String.toList_ofList, String.toList_ofList] at h
  have hread := congrArg readQuoted? h
  rw [readQuoted?_escape, readQuoted?_escape, Option.some.injEq, Prod.mk.injEq] at hread
  exact ⟨String.toList_inj.1 hread.1, hread.2⟩

end Literal

section Ends

variable {u v : List Char}

/-- A text without blank is the only one that, with a blank after it, stands at its start. -/
theorem eq_of_isPrefix_blank (hv : ' ' ∉ v) (h : u ++ [' '] <+: v ++ [' ']) : u = v := by
  rcases List.prefix_concat_iff.1 h with heq | hpre
  · exact List.append_cancel_right heq
  · exact absurd (hpre.subset (by simp)) hv

/-- A text without a bracket before a blank is the only one that, with both after it, stands at its
start. -/
theorem eq_of_isPrefix_bracket (hv : ¬ ['>', ' '] <:+: v) (h : u ++ ['>', ' '] <+: v ++ ['>', ' ']) :
    u = v := by
  have hsplit : ∀ w : List Char, w ++ ['>', ' '] = w ++ ['>'] ++ [' '] := by simp
  rw [hsplit v] at h
  rcases List.prefix_concat_iff.1 h with heq | hpre
  · exact List.append_cancel_right (heq.trans (hsplit v).symm)
  · rw [hsplit u] at hpre
    rcases List.prefix_concat_iff.1 hpre with heq | hpre
    · exact absurd (List.append_inj_right' heq rfl) (by decide)
    · rw [← hsplit u] at hpre
      exact absurd ((List.suffix_append u _).isInfix.trans hpre.isInfix) hv

end Ends

namespace Annotation

/-- What follows the closing quote of a literal in the query form. -/
def querySuffix : Annotation → List Char
  | .plain => []
  | .tagged language => '@' :: language.toList
  | .typed datatype _ => '^' :: '^' :: '<' :: (datatype.toList ++ ['>'])

/-- The language tag has no blank, the datatype no bracket before one. -/
def Delimited : Annotation → Prop
  | .plain => True
  | .tagged language => ' ' ∉ language.toList
  | .typed datatype _ => ¬ ['>', ' '] <:+: datatype.toList

/-- Nothing shorter than the text of a delimited annotation is the text of an annotation. -/
theorem eq_of_isPrefix {a b : Annotation} (hb : b.Delimited)
    (h : a.querySuffix ++ [' '] <+: b.querySuffix ++ [' ']) : a = b := by
  cases b with
  | plain => cases a <;> simp [querySuffix] at h ⊢
  | tagged language =>
    cases a with
    | tagged other =>
      have hpre : other.toList ++ [' '] <+: language.toList ++ [' '] := by
        simpa [querySuffix] using h
      rw [String.toList_inj.1 (eq_of_isPrefix_blank hb hpre)]
    | _ => simp [querySuffix] at h
  | typed datatype explicit =>
    cases a with
    | typed other _ =>
      have hpre : other.toList ++ ['>', ' '] <+: datatype.toList ++ ['>', ' '] := by
        simpa [querySuffix] using h
      obtain rfl := String.toList_inj.1 (eq_of_isPrefix_bracket hb hpre)
      rfl
    | _ => simp [querySuffix] at h

end Annotation

/-- The query form of a literal is its escaped value between quotes, then its annotation. -/
theorem Literal.toList_toQuery (l : Literal) :
    l.toQuery.toList = '"' :: ((escape l.value).toList ++ '"' :: l.annotation.querySuffix) := by
  obtain ⟨value, annotation⟩ := l
  cases annotation <;> simp [toQuery, Annotation.querySuffix]

namespace Term

/-- The text of the IRI, the label, the language tag or the datatype does not go on after what a
reader takes for its end. The value of a literal is free. -/
def Delimited : Term → Prop
  | .iri text => ¬ ['>', ' '] <:+: text.toList
  | .blank label => ' ' ∉ label.toList
  | .literal l => l.annotation.Delimited

/-- Nothing shorter than the text of a delimited term is the text of a term. -/
theorem eq_of_isPrefix {t u : Term} (ht : t.Delimited)
    (h : u.toQuery.toList ++ [' '] <+: t.toQuery.toList ++ [' ']) : u = t := by
  cases t with
  | iri text =>
    cases u with
    | iri other =>
      have hpre : other.toList ++ ['>', ' '] <+: text.toList ++ ['>', ' '] := by
        simpa [toQuery] using h
      rw [String.toList_inj.1 (eq_of_isPrefix_bracket ht hpre)]
    | _ => simp [toQuery, Literal.toList_toQuery] at h
  | blank label =>
    cases u with
    | blank other =>
      have hpre : other.toList ++ [' '] <+: label.toList ++ [' '] := by
        simpa [toQuery] using h
      rw [String.toList_inj.1 (eq_of_isPrefix_blank ht hpre)]
    | _ => simp [toQuery, Literal.toList_toQuery] at h
  | literal l =>
    cases u with
    | literal m =>
      obtain ⟨value, a⟩ := l
      obtain ⟨value', b⟩ := m
      obtain ⟨rest, hrest⟩ := h
      have hbody : (Literal.escape value').toList ++ '"' :: (b.querySuffix ++ [' '] ++ rest) =
          (Literal.escape value).toList ++ '"' :: (a.querySuffix ++ [' ']) := by
        simpa [toQuery, Literal.toList_toQuery] using hrest
      obtain ⟨rfl, hsuffix⟩ := Literal.escape_append_inj hbody
      obtain rfl : b = a := Annotation.eq_of_isPrefix ht ⟨rest, hsuffix⟩
      rfl
    | _ => simp [toQuery, Literal.toList_toQuery] at h

end Term

namespace TermPattern

/-- The term is delimited, the name of the variable has no blank. -/
def Delimited : TermPattern → Prop
  | .variable v => ' ' ∉ v.name.toList
  | .term t => t.Delimited

/-- Nothing shorter than the text of a delimited position is the text of a position. -/
theorem eq_of_isPrefix {p q : TermPattern} (hp : p.Delimited)
    (h : q.toQuery.toList ++ [' '] <+: p.toQuery.toList ++ [' ']) : q = p := by
  rcases p with v | t <;> rcases q with w | u
  · have hpre : w.name.toList ++ [' '] <+: v.name.toList ++ [' '] := by
      simpa [toQuery, Variable.toText] using h
    obtain rfl : w = v := congrArg Variable.mk (String.toList_inj.1 (eq_of_isPrefix_blank hp hpre))
    rfl
  · cases u <;> simp [toQuery, Term.toQuery, Literal.toList_toQuery, Variable.toText] at h
  · cases t <;> simp [toQuery, Term.toQuery, Literal.toList_toQuery, Variable.toText] at h
  · rw [Term.eq_of_isPrefix hp h]

/-- A delimited position before a blank determines the position and what follows. -/
theorem toQuery_append_inj {p q : TermPattern} {rest rest' : List Char} (hp : p.Delimited)
    (hq : q.Delimited) (h : p.toQuery.toList ++ ' ' :: rest = q.toQuery.toList ++ ' ' :: rest') :
    p = q ∧ rest = rest' := by
  have hsplit : ∀ w after : List Char, w ++ ' ' :: after = w ++ [' '] ++ after := by simp
  rw [hsplit, hsplit _ rest'] at h
  -- Of two starts of one text one is a start of the other.
  have hpq : p = q := by
    rcases List.prefix_or_prefix_of_prefix ⟨rest, h⟩ (List.prefix_append _ rest') with hpre | hpre
    · exact eq_of_isPrefix hq hpre
    · exact (eq_of_isPrefix hp hpre).symm
  exact ⟨hpq, List.append_cancel_left (hpq ▸ h)⟩

end TermPattern

end PagedSparql
