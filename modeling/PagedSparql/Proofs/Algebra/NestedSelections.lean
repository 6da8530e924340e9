import PagedSparql.Proofs.Algebra.GatheredAggregates
import PagedSparql.Proofs.Algebra.SettledQueries
import PagedSparql.Proofs.Rdf.RowSet

/-!
# Selections inside queries

A selection inside a pattern is lifted as it would be alone (`Algebra.member?_liftAggregates`), so the
aggregates of the query around it stay out of its groupings. A selection right below the modifiers
of another one is not: the aggregates above it go to the grouping below it, where their variables
are out of sight unless it selects them. It is lifted as it would be alone if and only if there are
no aggregates above it (`Algebra.liftAggregates_selections`).
-/

namespace PagedSparql

namespace Expression

mutual

/-- An expression has no aggregate exactly if it has no outermost one. -/
theorem hasAggregate_eq_false_iff : (e : Expression) →
    (e.hasAggregate = false ↔ e.aggregates = [])
  | .leaf _ => by simp [hasAggregate, aggregates]
  | .call _ args => by
    rw [hasAggregate, aggregates]
    exact anyHasAggregate_eq_false_iff args
  | .aggregate _ _ _ _ => by simp [hasAggregate, aggregates]

/-- Expressions have no aggregate exactly if they have no outermost one. -/
theorem anyHasAggregate_eq_false_iff : (es : List Expression) →
    (anyHasAggregate es = false ↔ allAggregates es = [])
  | [] => by simp [anyHasAggregate, allAggregates]
  | e :: rest => by
    rw [anyHasAggregate, allAggregates, Bool.or_eq_false_iff, List.append_eq_nil_iff,
      hasAggregate_eq_false_iff e, anyHasAggregate_eq_false_iff rest]

end

end Expression

namespace Lifting

/-- A modifier without aggregates stays as it is. -/
theorem liftModifier_of_aggregates {m : Modifier} (h : m.aggregates = []) (l : Lifter) :
    liftModifier m l = (m, l) := by
  cases m with
  | slice _ _ => rfl
  | distinct => rfl
  | project columns =>
    have hcolumns : ∀ e ∈ columns.filterMap Column.expression?, e.hasAggregate = false := by
      intro e he
      obtain ⟨c, hc, he⟩ := List.mem_filterMap.1 he
      have hnone : c.aggregates = [] := List.flatMap_eq_nil_iff.1 h c hc
      cases c with
      | «variable» _ => exact nomatch he
      | expression e' v =>
        obtain rfl := Option.some.inj he
        exact e'.hasAggregate_eq_false_iff.2 hnone
    rw [liftModifier, liftColumns_of_hasAggregate hcolumns]
  | orderBy conditions =>
    have hconditions : ∀ e ∈ conditions.map (·.expression), e.hasAggregate = false := by
      intro e he
      obtain ⟨c, hc, rfl⟩ := List.mem_map.1 he
      exact c.expression.hasAggregate_eq_false_iff.2 (List.flatMap_eq_nil_iff.1 h c hc)
    rw [liftModifier, liftConditions_of_hasAggregate hconditions]
  | having condition =>
    rw [liftModifier, replace_of_hasAggregate _ (condition.hasAggregate_eq_false_iff.2 h)]

/-- Modifiers without aggregates stay as they are. -/
theorem liftModifiers_of_aggregates {ms : List Modifier}
    (h : ms.flatMap Modifier.aggregates = []) (l : Lifter) : liftModifiers ms l = (ms, l) := by
  induction ms with
  | nil => rfl
  | cons m rest ih =>
    obtain ⟨hm, hrest⟩ := List.append_eq_nil_iff.1 h
    simp only [liftModifiers, liftModifier_of_aggregates hm, ih hrest]

end Lifting

namespace Stage

variable {σ : Type}

/-- A selection of named columns hides all other variables. -/
theorem get?_projectRow {columns : List Column} {v : Variable}
    (hwildcard : columns.any Column.isWildcard = false) (hv : v ∉ columns.map Column.name)
    (now : DateTime) (hidden : List Variable) (row : Row) (s : Session σ) :
    (projectRow now columns hidden row s).1.get? v = none := by
  simp only [projectRow, hwildcard, Bool.false_eq_true, if_false]
  rw [Row.get?_project, if_neg hv]

end Stage

namespace Algebra

open Lifting

variable {a b : Algebra} {n : Naming}

/-- The members of a pattern that is made of others. -/
def members : Algebra → List Algebra
  | .join patterns => patterns
  | .leftJoin patterns => patterns
  | .union patterns => patterns
  | .service _ _ patterns => patterns
  | _ => []

/-- The member of a member of a pattern, and so on, at the end of a path of their numbers. -/
def member? : List Nat → Algebra → Option Algebra
  | [], a => some a
  | i :: path, a => a.members[i]?.bind (member? path)

/-- The pattern of a query, below its modifiers and its grouping. -/
def pattern (a : Algebra) : Algebra :=
  match a.core with
  | .groupBy input _ _ => input
  | core => core

/-- Lifting goes to the members of a pattern. -/
theorem members_liftAggregates (a : Algebra) (n : Naming) :
    ∃ n', (a.liftAggregates n).1.members = (liftAll a.members n').1 := by
  cases a <;> exact ⟨n, rfl⟩

/-- Each of several nodes is lifted as it would be alone. -/
theorem getElem?_liftAll {patterns : List Algebra} {i : Nat} (h : patterns[i]? = some b)
    (n : Naming) : ∃ n', (liftAll patterns n).1[i]? = some (b.liftAggregates n').1 := by
  induction patterns generalizing i n with
  | nil => exact absurd h (by simp)
  | cons a rest ih =>
    cases i with
    | zero =>
      obtain rfl : a = b := by simpa using h
      exact ⟨n, rfl⟩
    | succ i => exact ih h _

/-- What stands inside a pattern is lifted as it would be alone. -/
theorem member?_liftAggregates {path : List Nat} (h : a.member? path = some b) (n : Naming) :
    ∃ n', (a.liftAggregates n).1.member? path = some (b.liftAggregates n').1 := by
  induction path generalizing a n with
  | nil =>
    obtain rfl := Option.some.inj h
    exact ⟨n, rfl⟩
  | cons i path ih =>
    obtain ⟨c, hc, hmember⟩ := Option.bind_eq_some_iff.1 h
    obtain ⟨n₁, hmembers⟩ := a.members_liftAggregates n
    obtain ⟨n₂, hlifted⟩ := getElem?_liftAll hc n₁
    obtain ⟨n₃, hmember⟩ := ih hmember n₂
    refine ⟨n₃, ?_⟩
    rw [member?, hmembers, hlifted]
    exact hmember

/-- A query has the pattern of what is below its modifiers. -/
theorem pattern_core (a : Algebra) : a.core.pattern = a.pattern := by
  have hcore : a.core.core = a.core := by
    obtain ⟨input, keys, own, hcore⟩ | hinput := core_cases a
    · rw [hcore]
      rfl
    · exact (modifiers_of_input? hinput).2
  rw [pattern, hcore, ← pattern]

/-- A node that modifies no other one is its own pattern. -/
theorem pattern_of_input? (h : a.input? = none) : a.pattern = a := by
  rw [pattern, (modifiers_of_input? h).2]
  cases a with
  | groupBy _ _ _ => exact absurd h (by simp [input?])
  | _ => rfl

variable {name : Aggregate → Variable} {added : List AggregateBinding}

/-- The pattern of a query is lifted as it would be alone. -/
theorem Gathers.pattern (h : a.Gathers n name added) :
    ∃ n', (a.liftAggregates n).1.pattern = (a.pattern.liftAggregates n').1 := by
  by_cases hungrouped : a.IsUngrouped
  · have hinput := hungrouped.input?
    rw [← pattern_core a, pattern_of_input? hinput]
    by_cases hnone : a.aggregates = []
    · obtain ⟨n', -, hcore⟩ := h.bare hungrouped hnone
      refine ⟨n', ?_⟩
      rw [← pattern_core, hcore, pattern_of_input? (input?_liftAggregates hinput n')]
    · obtain ⟨n', -, hcore⟩ := h.inserted hungrouped hnone
      exact ⟨n', by rw [Algebra.pattern, hcore]⟩
  · obtain ⟨input, keys, own, hgrouping⟩ := (core_cases a).resolve_right fun hinput =>
      hungrouped fun input keys own hcore => by simp [hcore, input?] at hinput
    obtain ⟨n', -, hcore⟩ := h.grouped input keys own hgrouping
    exact ⟨n', by rw [Algebra.pattern, hcore, Algebra.pattern, hgrouping]⟩

/-- A column goes by the same name when its aggregates are replaced. -/
theorem name_named (name : Aggregate → Variable) (c : Column) : (c.named name).name = c.name := by
  cases c with
  | «variable» _ => rfl
  | expression e v =>
    rw [Column.named]
    split <;> rfl

/-- Below modifiers without aggregates a query is lifted as it would be alone. -/
theorem liftAggregates_under {above : List Modifier}
    (h : above.flatMap Modifier.aggregates = []) (b : Algebra) (n : Naming) :
    (b.under above).liftAggregates n =
      ((b.liftAggregates n).1.under above, (b.liftAggregates n).2) := by
  rw [liftAggregates, lift_under, liftModifiers_of_aggregates h]
  rfl

/-- **Selections inside patterns are lifted on their own, others only if nothing is above them.** All
that stands inside the pattern of a query is lifted as it would be alone, so that the aggregates at the
top of the query are above it. For a selection among the modifiers at the top: aggregates from above it are
added to the grouping below it if and only if there are any; if there are none, it is lifted as it
would be alone; and if there are, the variables of those that its columns do not name are unbound
above it, unless it has a wildcard. -/
theorem liftAggregates_selections (a : Algebra) (n : Naming) :
    ∃ name added, a.Gathers n name added ∧
      (∀ path b, a.pattern.member? path = some b → ∃ n',
        (a.liftAggregates n).1.pattern.member? path = some (b.liftAggregates n').1) ∧
      ∀ above columns below, a.modifiers = above ++ .project columns :: below →
        ((∃ b ∈ added, b.aggregate ∈ above.flatMap Modifier.aggregates) ↔
          above.flatMap Modifier.aggregates ≠ []) ∧
        (above.flatMap Modifier.aggregates = [] →
          a.liftAggregates n = ((a.core.under (.project columns :: below)).liftAggregates n).map
            (·.under above) id) ∧
        ∀ c ∈ above.flatMap Modifier.aggregates,
          (columns.map (Column.named name)).any Column.isWildcard = false →
            name c ∉ columns.map Column.name → ∀ {σ : Type} now hidden row (s : Session σ),
              (Stage.projectRow now (columns.map (Column.named name)) hidden row s).1.get?
                (name c) = none := by
  rcases hlifted : liftModifiers a.modifiers ⟨[], n⟩ with ⟨ms, added, n₁⟩
  have htakes := takes_liftModifiers a.modifiers ⟨[], n⟩
  rw [hlifted] at htakes
  obtain ⟨name, hname⟩ := exists_name (htakes.nodup List.nodup_nil)
  have hgathers : a.Gathers n name added := gathers_of_liftModifiers hlifted hname
  refine ⟨name, added, hgathers, fun path b hmember => ?_, fun above columns below hmodifiers => ?_⟩
  · obtain ⟨n₂, hpattern⟩ := hgathers.pattern
    rw [hpattern]
    exact member?_liftAggregates hmember n₂
  · have hall : a.aggregates = above.flatMap Modifier.aggregates ++
        (Modifier.project columns :: below).flatMap Modifier.aggregates := by
      rw [aggregates, hmodifiers, List.flatMap_append]
    refine ⟨⟨?_, fun hsome => ?_⟩, ?_, ?_⟩
    · rintro ⟨b, -, hb⟩
      exact List.ne_nil_of_mem hb
    · -- Each aggregate from above is added, as it is one of those of the query.
      obtain ⟨c, hc⟩ := List.exists_mem_of_ne_nil _ hsome
      refine ⟨⟨name c, c⟩, (hgathers.mem_added _).2 ⟨?_, rfl⟩, hc⟩
      rw [hall]
      exact List.mem_append_left _ hc
    · intro hnone
      have hquery : a = (a.core.under (.project columns :: below)).under above := by
        rw [under, under, ← List.foldr_append, ← hmodifiers]
        exact (core_under_modifiers a).symm
      have hlift := liftAggregates_under hnone (a.core.under (.project columns :: below)) n
      rwa [← hquery] at hlift
    · intro c _ hwildcard hc σ now hidden row s
      have hnames : (columns.map (Column.named name)).map Column.name = columns.map Column.name := by
        simp [name_named]
      exact Stage.get?_projectRow hwildcard (hnames ▸ hc) now hidden row s

/-- The number of all rows of a selection right below. -/
def countOfSelection : Algebra :=
  .project (.project (.bgp []) [.variable ⟨"s"⟩]) [.expression countAll ⟨"n"⟩]

example : (countOfSelection.liftAggregates ⟨{}, []⟩).1 =
    .project
      (.project (.groupBy (.bgp []) [] [⟨⟨"n"⟩, ⟨"count", false, none, none⟩⟩]) [.variable ⟨"s"⟩])
      [.variable ⟨"n"⟩] := by
  rfl

end Algebra

end PagedSparql
