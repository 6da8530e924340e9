import Mathlib.Data.List.Basic
import PagedSparql.Pipeline.RoundTable

/-!
# Requests in proper form

An endpoint refuses a pattern with a literal as its subject or with a predicate that is no IRI, and
it takes a blank node for a variable that it may choose. The rows of a round go into its patterns as
they are. So a round for patterns in proper form has all its patterns in proper form exactly when
each row has, for each variable of the patterns, a term that may stand where the variable stands
(`RoundTable.patterns_wellFormed_iff`): one row with a literal for the variable of a subject spoils
the request for all rows of its round.
-/

namespace PagedSparql

namespace Term

/-- The term may be the subject of a pattern. -/
def mayBeSubject (u : Term) : Bool := !u.isLiteral && !u.isBlank

/-- The term may be the object of a pattern. -/
def mayBeObject (u : Term) : Bool := !u.isBlank

end Term

/-- The rule of a position allows the term that stands there; it allows all variables. -/
def TermPattern.Allowed (rule : Term → Bool) : TermPattern → Prop
  | .variable _ => True
  | .term u => rule u

namespace TriplePattern

/-- The subject is no literal, the predicate is an IRI or a variable, and nothing is a blank node. -/
structure WellFormed (t : TriplePattern) : Prop where
  /-- The subject is a variable, or neither a literal nor a blank node. -/
  subject : t.subject.Allowed Term.mayBeSubject
  /-- The predicate is no path, and it is a variable or an IRI. -/
  predicate : ∃ p, t.predicate = .plain p ∧ p.Allowed Term.isIri
  /-- The object is no blank node. -/
  object : t.object.Allowed Term.mayBeObject

end TriplePattern

namespace Row

/-- If the position holds a variable that the row binds, then the rule allows its term. -/
def Fits (r : Row) (rule : Term → Bool) (p : TermPattern) : Prop :=
  ∀ v u, p = .variable v → r.get? v = some u → rule u

/-- What the row puts into the positions of the pattern may stand there. -/
structure FitsPattern (r : Row) (t : TriplePattern) : Prop where
  /-- The term for the variable of the subject. -/
  subject : r.Fits Term.mayBeSubject t.subject
  /-- The term for the variable of the predicate. -/
  predicate : ∀ p, t.predicate = .plain p → r.Fits Term.isIri p
  /-- The term for the variable of the object. -/
  object : r.Fits Term.mayBeObject t.object

variable {r : Row} {rule : Term → Bool} {p : TermPattern}

/-- An allowed position stays allowed exactly when the row fits it. -/
theorem substitute_allowed_iff (hp : p.Allowed rule) :
    (r.substitute p).Allowed rule ↔ r.Fits rule p := by
  cases p with
  | term u => exact ⟨fun _ => nofun, fun _ => hp⟩
  | «variable» v =>
    simp only [Fits, TermPattern.variable.injEq]
    cases hv : r.get? v with
    | none =>
      rw [substitute, hv]
      refine ⟨fun _ w u hw hu => ?_, fun _ => trivial⟩
      rw [← hw, hv] at hu
      cases hu
    | some u =>
      rw [substitute, hv]
      refine ⟨fun hu w u' hw hu' => ?_, fun h => h v u rfl hv⟩
      rw [← hw, hv] at hu'
      exact Option.some.inj hu' ▸ hu

end Row

namespace TriplePattern

variable {t : TriplePattern} {r : Row}

/-- A pattern is in proper form after a change of its plain positions exactly when it has no path and
the changed positions are allowed. -/
theorem mapPlain_wellFormed_iff {g : TermPattern → TermPattern} :
    (t.mapPlain g).WellFormed ↔
      (g t.subject).Allowed Term.mayBeSubject ∧
        (∃ p, t.predicate = .plain p ∧ (g p).Allowed Term.isIri) ∧
          (g t.object).Allowed Term.mayBeObject := by
  obtain ⟨s, predicate, o⟩ := t
  cases predicate with
  | plain p =>
    constructor
    · rintro ⟨hs, ⟨_, ⟨rfl⟩, hp⟩, ho⟩
      exact ⟨hs, ⟨p, rfl, hp⟩, ho⟩
    · rintro ⟨hs, ⟨_, ⟨rfl⟩, hp⟩, ho⟩
      exact ⟨hs, ⟨_, rfl, hp⟩, ho⟩
  | path kind items =>
    constructor
    · rintro ⟨-, ⟨_, hpath, -⟩, -⟩
      cases hpath
    · rintro ⟨-, ⟨_, hpath, -⟩, -⟩
      cases hpath

/-- A pattern in proper form stays so exactly when the row fits it. -/
theorem substitute_wellFormed_iff (ht : t.WellFormed) :
    (t.substitute r).WellFormed ↔ r.FitsPattern t := by
  obtain ⟨hs, ⟨p, hpredicate, hp⟩, ho⟩ := ht
  rw [substitute, mapPlain_wellFormed_iff, Row.substitute_allowed_iff hs,
    Row.substitute_allowed_iff ho]
  constructor
  · rintro ⟨hs', ⟨q, hq, hq'⟩, ho'⟩
    obtain rfl : p = q := Predicate.plain.inj (hpredicate.symm.trans hq)
    refine ⟨hs', fun q hq => ?_, ho'⟩
    obtain rfl : p = q := Predicate.plain.inj (hpredicate.symm.trans hq)
    exact (Row.substitute_allowed_iff hp).1 hq'
  · rintro ⟨hs', hp', ho'⟩
    exact ⟨hs', ⟨p, hpredicate, (Row.substitute_allowed_iff hp).2 (hp' p hpredicate)⟩, ho'⟩

/-- New names for variables change nothing in the form of a pattern. -/
theorem rename_wellFormed_iff {f : Variable → Variable} :
    (t.rename f).WellFormed ↔ t.WellFormed := by
  have hallowed : ∀ (rule : Term → Bool) (p : TermPattern),
      TermPattern.Allowed rule (match p with
        | .variable v => .variable (f v)
        | .term u => .term u) ↔ p.Allowed rule := by
    rintro rule (v | u) <;> rfl
  refine mapPlain_wellFormed_iff.trans ⟨?_, ?_⟩
  · rintro ⟨hs, ⟨p, hpredicate, hp⟩, ho⟩
    exact ⟨(hallowed _ _).1 hs, ⟨p, hpredicate, (hallowed _ _).1 hp⟩, (hallowed _ _).1 ho⟩
  · rintro ⟨hs, ⟨p, hpredicate, hp⟩, ho⟩
    exact ⟨(hallowed _ _).2 hs, ⟨p, hpredicate, (hallowed _ _).2 hp⟩, (hallowed _ _).2 ho⟩

end TriplePattern

namespace RoundTable

/-- **Which requests have proper form.** All patterns of a round for patterns in proper form are in
proper form exactly when all rows fit all patterns. -/
theorem patterns_wellFormed_iff {triples : List TriplePattern} {rows : List Row}
    (h : ∀ t ∈ triples, t.WellFormed) :
    (∀ ts ∈ patterns triples rows, ∀ t ∈ ts, t.WellFormed) ↔
      ∀ r ∈ rows, ∀ t ∈ triples, r.FitsPattern t := by
  -- The number of a row only shows in the names of variables.
  have hrow : ∀ key r, (∀ t ∈ patternFor triples key r, t.WellFormed) ↔
      ∀ t ∈ triples, r.FitsPattern t := by
    intro key r
    rw [patternFor, List.forall_mem_map]
    exact forall₂_congr fun t ht =>
      TriplePattern.rename_wellFormed_iff.trans (TriplePattern.substitute_wellFormed_iff (h t ht))
  simp only [patterns, List.mem_mapIdx]
  constructor
  · intro hall r hr
    obtain ⟨key, hkey, rfl⟩ := List.mem_iff_getElem.1 hr
    exact (hrow key _).1 (hall _ ⟨key, hkey, rfl⟩)
  · rintro hfits _ ⟨key, hkey, rfl⟩
    exact (hrow key _).2 (hfits _ (List.getElem_mem hkey))

/-- A row with a literal for the variable of a subject spoils the request for its round. -/
theorem patterns_wellFormed_iff_literal :
    let triples : List TriplePattern :=
      [⟨.variable ⟨"x"⟩, .plain (.term (.iri "p")), .variable ⟨"y"⟩⟩]
    let rows : List Row :=
      [.ofList [(⟨"x"⟩, .string "v")], .ofList [(⟨"x"⟩, .iri "a")]]
    (∀ t ∈ triples, t.WellFormed) ∧ ¬ ∀ ts ∈ patterns triples rows, ∀ t ∈ ts, t.WellFormed := by
  intro triples rows
  have htriples : ∀ t ∈ triples, t.WellFormed :=
    List.forall_mem_singleton.2 ⟨trivial, ⟨_, rfl, rfl⟩, trivial⟩
  refine ⟨htriples, fun hall => ?_⟩
  have hfits := (patterns_wellFormed_iff htriples).1 hall _ List.mem_cons_self _ List.mem_cons_self
  exact absurd (hfits.subject ⟨"x"⟩ (.string "v") rfl (by decide)) (by decide)

end RoundTable

end PagedSparql
