import PagedSparql.Proofs.Rdf.QueryForm
import PagedSparql.Protocol.QueryText

/-!
# What a query text says

The text that is sent for a basic graph pattern is the texts of its terms with blanks and points
between them. Patterns of delimited terms can be told from their text (`ofPattern_eq_iff`), whatever
the values of their literals are. An IRI goes into the text as it is, and one that holds a bracket
before a blank can hold whole patterns: its text is also that of a longer list
(`ofPattern_iri_splice`).
-/

namespace PagedSparql

/-- The predicate is a delimited term or variable. -/
def Predicate.Delimited : Predicate → Prop
  | .plain p => p.Delimited
  | .path _ _ => False

namespace TriplePattern

/-- All positions are delimited, and the predicate is no path. -/
def Delimited (t : TriplePattern) : Prop :=
  t.subject.Delimited ∧ t.predicate.Delimited ∧ t.object.Delimited

/-- The text of a pattern is its positions, each before a blank, and a point. -/
theorem toList_toQuery (t : TriplePattern) :
    t.toQuery.toList = t.subject.toQuery.toList ++ ' ' :: (t.predicate.toQuery.toList ++
      ' ' :: (t.object.toQuery.toList ++ [' ', '.'])) := by
  simp [toQuery]

/-- The text of a delimited pattern determines the pattern and what follows. -/
theorem toQuery_append_inj {t u : TriplePattern} {rest rest' : List Char} (ht : t.Delimited)
    (hu : u.Delimited) (h : t.toQuery.toList ++ rest = u.toQuery.toList ++ rest') :
    t = u ∧ rest = rest' := by
  obtain ⟨s, predicate, o⟩ := t
  obtain ⟨s', predicate', o'⟩ := u
  obtain ⟨hs, hp, ho⟩ := ht
  obtain ⟨hs', hp', ho'⟩ := hu
  rcases predicate with p | _ <;> rcases predicate' with p' | _
  · simp only [toList_toQuery, List.append_assoc, List.cons_append] at h
    obtain ⟨rfl, hpredicate⟩ := TermPattern.toQuery_append_inj hs hs' h
    obtain ⟨rfl, hobject⟩ := TermPattern.toQuery_append_inj (p := p) (q := p') hp hp' hpredicate
    obtain ⟨rfl, hrest⟩ := TermPattern.toQuery_append_inj ho ho' hobject
    exact ⟨rfl, by simpa using hrest⟩
  · exact hp'.elim
  · exact hp.elim
  · exact hp.elim

/-- The text of a pattern does not begin with the end of a group. -/
theorem toQuery_append_ne {t : TriplePattern} {rest rest' : List Char} :
    t.toQuery.toList ++ rest ≠ '\x7d' :: rest' := by
  intro h
  rw [toList_toQuery] at h
  rcases hs : t.subject with v | _ | _ | l <;>
    simp [hs, TermPattern.toQuery, Variable.toText, Term.toQuery, Literal.toList_toQuery] at h

end TriplePattern

namespace QueryText

/-- The text of a list of patterns begins with the text of the first. -/
theorem toList_patterns_cons (t : TriplePattern) (ts : List TriplePattern) :
    (patterns (t :: ts)).toList = ' ' :: (t.toQuery.toList ++ (patterns ts).toList) := by
  simp [patterns]

/-- The text of a group of delimited patterns determines the patterns and what follows. -/
theorem patterns_append_inj {ts us : List TriplePattern} {rest rest' : List Char}
    (hts : ∀ t ∈ ts, t.Delimited) (hus : ∀ u ∈ us, u.Delimited)
    (h : (patterns ts).toList ++ ' ' :: '\x7d' :: rest =
      (patterns us).toList ++ ' ' :: '\x7d' :: rest') :
    ts = us ∧ rest = rest' := by
  -- The character after the blank tells the end of the group from another pattern.
  induction ts generalizing us with
  | nil =>
    cases us with
    | nil => exact ⟨rfl, by simpa using h⟩
    | cons u us =>
      rw [toList_patterns_cons, List.cons_append, List.append_assoc] at h
      exact absurd (List.cons.inj h).2.symm TriplePattern.toQuery_append_ne
  | cons t ts ih =>
    obtain ⟨ht, hthen⟩ := List.forall_mem_cons.1 hts
    cases us with
    | nil =>
      rw [toList_patterns_cons, List.cons_append, List.append_assoc] at h
      exact absurd (List.cons.inj h).2 TriplePattern.toQuery_append_ne
    | cons u us =>
      obtain ⟨hu, huthen⟩ := List.forall_mem_cons.1 hus
      rw [toList_patterns_cons, toList_patterns_cons, List.cons_append, List.cons_append,
        List.append_assoc, List.append_assoc] at h
      obtain ⟨rfl, htail⟩ := TriplePattern.toQuery_append_inj ht hu (List.cons.inj h).2
      obtain ⟨rfl, hrest⟩ := ih hthen huthen htail
      exact ⟨rfl, hrest⟩

/-- The patterns of a query stand between its head and the end of the group. -/
theorem toList_ofPattern (ts : List TriplePattern) :
    (ofPattern ts).toList =
      "SELECT * WHERE \x7b".toList ++ ((patterns ts).toList ++ [' ', '\x7d']) := by
  have heq : ofPattern ts = "SELECT * WHERE \x7b" ++ patterns ts ++ " \x7d" := rfl
  rw [heq, String.toList_append, String.toList_append, List.append_assoc]
  rfl

/-- **What can be told from a query.** Two lists of delimited patterns without paths have the same
text only if they are equal. -/
theorem ofPattern_eq_iff {ts us : List TriplePattern} (hts : ∀ t ∈ ts, t.Delimited)
    (hus : ∀ u ∈ us, u.Delimited) : ofPattern ts = ofPattern us ↔ ts = us := by
  refine ⟨fun h => ?_, congrArg ofPattern⟩
  have htext := congrArg String.toList h
  rw [toList_ofPattern, toList_ofPattern] at htext
  exact (patterns_append_inj hts hus (List.append_cancel_left htext)).1

/-- A value that reads like the end of a literal and another pattern stays a value. -/
theorem ofPattern_eq_iff_quotes :
    let s : TermPattern := .variable ⟨"s"⟩
    let p : TermPattern := .term (.iri "p")
    let one : List TriplePattern := [⟨s, .plain p, .term (.string "a\" . ?s <p> \"b")⟩]
    let two : List TriplePattern :=
      [⟨s, .plain p, .term (.string "a")⟩, ⟨s, .plain p, .term (.string "b")⟩]
    (∀ t ∈ one, t.Delimited) ∧ (∀ t ∈ two, t.Delimited) ∧ ofPattern one ≠ ofPattern two := by
  intro s p one two
  have hs : s.Delimited := show ' ' ∉ "s".toList by decide
  have hp : p.Delimited := show ¬ ['>', ' '] <:+: "p".toList by decide
  have hone : ∀ t ∈ one, t.Delimited := List.forall_mem_singleton.2 ⟨hs, hp, trivial⟩
  have htwo : ∀ t ∈ two, t.Delimited :=
    List.forall_mem_cons.2 ⟨⟨hs, hp, trivial⟩, List.forall_mem_singleton.2 ⟨hs, hp, trivial⟩⟩
  exact ⟨hone, htwo, fun h => absurd ((ofPattern_eq_iff hone htwo).1 h) (by decide)⟩

/-- An IRI can hold the end of its own brackets and more: a pattern with it in its subject has the
text of two patterns. -/
theorem ofPattern_iri_splice (a p o b : String) (q : Predicate) (object : TermPattern)
    (rest : List TriplePattern) :
    ofPattern (⟨.term (.iri (a ++ "> <" ++ p ++ "> <" ++ o ++ "> . <" ++ b)), q, object⟩ :: rest) =
      ofPattern (⟨.term (.iri a), .plain (.term (.iri p)), .term (.iri o)⟩ ::
        ⟨.term (.iri b), q, object⟩ :: rest) := by
  have hiri : ∀ text, (TermPattern.term (.iri text)).toQuery = "<" ++ text ++ ">" := fun _ => rfl
  refine String.toList_inj.1 ?_
  rw [toList_ofPattern, toList_ofPattern]
  simp [toList_patterns_cons, TriplePattern.toList_toQuery, hiri, Predicate.toQuery]

end QueryText

end PagedSparql
