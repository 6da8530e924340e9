import PagedSparql.Algebra.Triple
import PagedSparql.Proofs.Rdf.Row

/-!
# Solutions of basic graph patterns

What an endpoint has to say about a basic graph pattern is a multiset of rows. `Solutions` is any
such function under which solutions bind exactly the variables of their pattern, and under which the
names of variables do not matter. A blank node is no variable, so it is a constant here.

Joins of rows with a pattern are given by reference: each row is put into the pattern by itself, and
is merged with the solutions of what comes out (`Solutions.join`, `Solutions.leftJoin`).
-/

namespace PagedSparql

namespace TermPattern

/-- The variables of a position after the terms of a row are put in. -/
theorem var?_substitute (r : Row) (p : TermPattern) :
    (r.substitute p).var?.toList = p.var?.toList.filter fun v => !r.binds v := by
  cases p with
  | term t => rfl
  | «variable» v =>
    cases h : r.get? v <;> simp [Row.substitute, h, var?, VariableMap.binds]

end TermPattern

namespace TriplePattern

/-- The variables of a pattern after the terms of a row are put in are those that the row leaves
unbound. -/
theorem vars_substitute (t : TriplePattern) (r : Row) :
    (t.substitute r).vars = t.vars.filter fun v => !r.binds v := by
  obtain ⟨s, p, o⟩ := t
  cases p with
  | plain p =>
    simp [vars, substitute, mapPlain, Predicate.plain?, TermPattern.var?_substitute]
  | path kind items =>
    simp [vars, substitute, mapPlain, Predicate.plain?, TermPattern.var?_substitute]

/-- The variables of a renamed pattern are the new names of its variables. -/
theorem vars_rename (f : Variable → Variable) (t : TriplePattern) :
    (t.rename f).vars = t.vars.map f := by
  obtain ⟨s, p, o⟩ := t
  cases p with
  | plain p =>
    cases s <;> cases p <;> cases o <;>
      simp [vars, rename, mapPlain, Predicate.plain?, TermPattern.var?]
  | path kind items =>
    cases s <;> cases o <;> simp [vars, rename, mapPlain, Predicate.plain?, TermPattern.var?]

/-- Putting in terms makes no path and takes none away. -/
@[simp] theorem hasPath_substitute (t : TriplePattern) (r : Row) :
    (t.substitute r).hasPath = t.hasPath := by
  obtain ⟨s, p, o⟩ := t
  cases p <;> rfl

/-- Renaming makes no path and takes none away. -/
@[simp] theorem hasPath_rename (f : Variable → Variable) (t : TriplePattern) :
    (t.rename f).hasPath = t.hasPath := by
  obtain ⟨s, p, o⟩ := t
  cases p <;> rfl

/-- The empty row changes no pattern. -/
@[simp] theorem substitute_empty (t : TriplePattern) : t.substitute .empty = t := by
  have h : Row.substitute .empty = id := by
    funext p
    cases p <;> rfl
  obtain ⟨s, p, o⟩ := t
  cases p <;> simp [substitute, mapPlain, h]

end TriplePattern

/-- A basic graph pattern. -/
abbrev Bgp := List TriplePattern

namespace Bgp

/-- The variables of a pattern. -/
def vars (B : Bgp) : List Variable := B.flatMap TriplePattern.vars

/-- The pattern with the terms of a row put in. -/
def substitute (B : Bgp) (r : Row) : Bgp := B.map (·.substitute r)

/-- The pattern with its variables renamed. -/
def rename (f : Variable → Variable) (B : Bgp) : Bgp := B.map (·.rename f)

/-- The pattern has no paths. -/
def Plain (B : Bgp) : Prop := ∀ t ∈ B, t.hasPath = false

/-- The row leaves a variable of the pattern unbound. -/
def Open (B : Bgp) (r : Row) : Prop := ∃ v ∈ B.vars, r.binds v = false

/-- The variables that a row leaves are those that it does not bind. -/
theorem mem_vars_substitute {B : Bgp} {r : Row} {v : Variable} :
    v ∈ (B.substitute r).vars ↔ v ∈ B.vars ∧ r.binds v = false := by
  simp only [vars, substitute, List.mem_flatMap, List.mem_map, exists_exists_and_eq_and,
    TriplePattern.vars_substitute, List.mem_filter, Bool.not_eq_true']
  tauto

/-- The variables of a renamed pattern are the new names. -/
theorem vars_rename (f : Variable → Variable) (B : Bgp) : (B.rename f).vars = B.vars.map f := by
  simp [vars, rename, List.flatMap_map, List.map_flatMap, TriplePattern.vars_rename]

/-- Putting in terms makes no paths. -/
theorem Plain.substitute {B : Bgp} (h : B.Plain) (r : Row) : (B.substitute r).Plain := by
  intro t ht
  obtain ⟨u, hu, rfl⟩ := List.mem_map.1 ht
  simpa using h u hu

/-- The empty row changes no pattern. -/
@[simp] theorem substitute_empty (B : Bgp) : B.substitute .empty = B := by
  simp [substitute]

/-- A row leaves no variable unbound when what it leaves of the pattern has none. -/
theorem not_open_iff {B : Bgp} {r : Row} : ¬B.Open r ↔ ∀ v, v ∉ (B.substitute r).vars := by
  simp only [Open, mem_vars_substitute, not_exists]

end Bgp

/-- The solutions of basic graph patterns without paths. -/
structure Solutions where
  /-- The solutions of a pattern. -/
  of : Bgp → Multiset Row
  /-- A solution binds exactly the variables of its pattern. -/
  binds_iff : ∀ B : Bgp, B.Plain → ∀ m ∈ of B, ∀ v, m.binds v = true ↔ v ∈ B.vars
  /-- Solutions follow a renaming that keeps the variables of the pattern apart. -/
  of_rename : ∀ (B : Bgp) (f : Variable → Variable), B.Plain → Set.InjOn f {v | v ∈ B.vars} →
    of (B.rename f) = (of B).map (Row.rename f)

namespace Solutions

/-- The rows that extend a row by the solutions of what it leaves of a pattern. -/
def extensions (S : Solutions) (B : Bgp) (u : Row) : Multiset Row :=
  (S.of (B.substitute u)).filterMap (Row.merge u)

/-- The join of rows with a pattern. -/
def join (S : Solutions) (B : Bgp) (U : Multiset Row) : Multiset Row := U.bind (S.extensions B)

/-- The rows that a pattern has no solution for. -/
def unmatched (S : Solutions) (B : Bgp) (U : Multiset Row) : Multiset Row :=
  U.filter fun u => S.of (B.substitute u) = 0

/-- The join of rows with a pattern, and the rows that the pattern has no solution for. -/
def leftJoin (S : Solutions) (B : Bgp) (U : Multiset Row) : Multiset Row :=
  S.join B U + S.unmatched B U

variable (S : Solutions) {B : Bgp} {u m : Row}

/-- A row is compatible with the solutions of what it leaves of a pattern. -/
theorem compatible_of_mem (hB : B.Plain) (hm : m ∈ S.of (B.substitute u)) :
    Row.compatible u m = true := by
  rw [Row.compatible_comm]
  refine Row.compatible_of_disjoint fun v hv => ?_
  exact (Bgp.mem_vars_substitute.1 ((S.binds_iff _ (hB.substitute u) m hm v).1 hv)).2

/-- Every solution of what a row leaves of a pattern extends it. -/
theorem isSome_merge_of_mem (hB : B.Plain) (hm : m ∈ S.of (B.substitute u)) :
    (Row.merge u m).isSome = true := by
  rw [Row.isSome_merge, S.compatible_of_mem hB hm]

/-- A row has as many extensions as there are solutions of what it leaves of the pattern. -/
theorem card_extensions (hB : B.Plain) (u : Row) :
    (S.extensions B u).card = (S.of (B.substitute u)).card := by
  have hall : ∀ m ∈ S.of (B.substitute u), (Row.merge u m).isSome = true :=
    fun m hm => S.isSome_merge_of_mem hB hm
  unfold extensions
  generalize S.of (B.substitute u) = M at hall ⊢
  induction M using Multiset.induction_on with
  | empty => rfl
  | cons m M ih =>
    obtain ⟨w, hw⟩ := Option.isSome_iff_exists.1 (hall m (Multiset.mem_cons_self m M))
    rw [Multiset.filterMap_cons_some _ _ _ hw, Multiset.card_cons, Multiset.card_cons,
      ih fun n hn => hall n (Multiset.mem_cons_of_mem hn)]

/-- A row has no extensions exactly when there is no solution of what it leaves of the pattern. -/
theorem extensions_eq_zero_iff (hB : B.Plain) (u : Row) :
    S.extensions B u = 0 ↔ S.of (B.substitute u) = 0 := by
  rw [← Multiset.card_eq_zero, S.card_extensions hB, Multiset.card_eq_zero]

/-- Solutions for a row that leaves a variable unbound are not empty. -/
theorem ne_empty_of_open (hB : B.Plain) (hu : B.Open u) (hm : m ∈ S.of (B.substitute u)) :
    m ≠ .empty := by
  rintro rfl
  obtain ⟨v, hv, hfree⟩ := hu
  have := (S.binds_iff _ (hB.substitute u) _ hm v).2 (Bgp.mem_vars_substitute.2 ⟨hv, hfree⟩)
  simp at this

/-- Solutions for a row that leaves no variable unbound are empty. -/
theorem eq_empty_of_not_open (hB : B.Plain) (hu : ¬B.Open u)
    (hm : m ∈ S.of (B.substitute u)) : m = .empty := by
  by_contra hne
  obtain ⟨v, x, hv⟩ := VariableMap.exists_binds hne
  have := (S.binds_iff _ (hB.substitute u) _ hm v).1 (VariableMap.binds_iff.2 ⟨x, hv⟩)
  exact Bgp.not_open_iff.1 hu v this

/-- The solutions of the patterns that are known; other patterns have none. -/
def restrict (S : Solutions) (known : Bgp → Bool) (h : ∀ B f, known (B.rename f) = known B) :
    Solutions where
  of B := if known B then S.of B else 0
  binds_iff := by
    intro B hB m hm
    split at hm
    · exact S.binds_iff B hB m hm
    · exact absurd hm (Multiset.notMem_zero m)
  of_rename := by
    intro B f hB hf
    rw [h]
    split
    · exact S.of_rename B f hB hf
    · rfl

/-- The row that binds some variables to one term. -/
def constantRow (t : Term) (vs : List Variable) : Row := .ofList (vs.map (·, t))

/-- The values of a row with one term. -/
theorem get?_constantRow (t : Term) (vs : List Variable) (v : Variable) :
    (constantRow t vs).get? v = if v ∈ vs then some t else none := by
  have hall : ∀ (vs : List Variable) (r : Row),
      (r.insertAll (vs.map (·, t))).get? v = if v ∈ vs then some t else r.get? v := by
    intro vs
    induction vs with
    | nil => intro r; rfl
    | cons w vs ih =>
      intro r
      have hstep : r.insertAll ((w :: vs).map (·, t)) =
          (r.insert w t).insertAll (vs.map (·, t)) := rfl
      simp only [hstep, ih, VariableMap.get?_insert, List.mem_cons]
      by_cases hv : v ∈ vs <;> by_cases hw : v = w <;> simp [hv, hw]
  exact hall vs .empty

/-- The solutions over one resource of which every statement is true: each pattern has the one
solution that binds all of its variables to the resource. -/
def ofTerm (t : Term) : Solutions where
  of B := {constantRow t B.vars}
  binds_iff := by
    intro B _ m hm v
    rw [Multiset.mem_singleton.1 hm, VariableMap.binds, get?_constantRow]
    by_cases hv : v ∈ B.vars <;> simp [hv]
  of_rename := by
    intro B f _ hf
    have hbound : Set.InjOn f {v | (constantRow t B.vars).binds v = true} := by
      refine hf.mono fun v hv => ?_
      by_contra hnot
      simp [VariableMap.binds, get?_constantRow, show v ∉ B.vars from hnot] at hv
    rw [Multiset.map_singleton, Multiset.singleton_inj]
    refine VariableMap.ext_get? fun w => Option.ext fun u => ?_
    rw [Row.get?_rename_iff hbound, get?_constantRow, Bgp.vars_rename]
    simp only [get?_constantRow, Option.ite_none_right_eq_some, List.mem_map]
    constructor
    · rintro ⟨⟨v, hv, rfl⟩, hu⟩
      exact ⟨v, rfl, hv, hu⟩
    · rintro ⟨v, rfl, hv, hu⟩
      exact ⟨⟨v, hv, rfl⟩, hu⟩

end Solutions

end PagedSparql
