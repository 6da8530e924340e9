import Mathlib.Logic.Relation
import PagedSparql.Proofs.Algebra.Spelling
import PagedSparql.Proofs.Plan.PathAnswers
import PagedSparql.Proofs.Plan.Plannable

/-!
# The rewriting of paths

Resolving paths is a rewriting of lists of triple patterns: the first path is replaced by what it
stands for (`Paths.Rewrites`). A sequence makes the list longer and an alternative is replaced by
one item at a time, but each step takes away a path, so no rewriting goes on for longer than there
are paths (`Paths.length_le_of_isChain`). It may come to a fault: a path that cannot be rewritten
(`Paths.Fault`).

What resolving comes to is said in these terms (`Paths.Outcome`): the triple patterns that are left
are ends of the rewriting, and a failure is that of a fault that the rewriting comes to. A step of
the rewriting in front of an outcome gives another one (`Paths.Outcome.of_rewrites`), so that the
induction follows the resolution (`Paths.outcome_resolve`). Conversely a pattern that can be
resolved comes to no fault, since each step leaves patterns that can be resolved
(`Paths.Resolves.rewrites`).
-/

namespace PagedSparql

/-! ## The number of paths -/

namespace Predicate

mutual

/-- The number of paths in a predicate, at any depth. -/
def operators : Predicate → Nat
  | .plain _ => 0
  | .path _ items => operatorsEach items + 1

/-- The number of paths in several predicates. -/
def operatorsEach : List Predicate → Nat
  | [] => 0
  | p :: rest => p.operators + operatorsEach rest

end

/-- The paths of two lists. -/
theorem operatorsEach_append (ps qs : List Predicate) :
    operatorsEach (ps ++ qs) = operatorsEach ps + operatorsEach qs := by
  induction ps with
  | nil => simp [operatorsEach]
  | cons p rest ih => simp only [List.cons_append, operatorsEach, ih]; omega

/-- An item has no more paths than all of them. -/
theorem operators_le_of_mem {p : Predicate} {items : List Predicate} (h : p ∈ items) :
    p.operators ≤ operatorsEach items := by
  induction items with
  | nil => exact absurd h List.not_mem_nil
  | cons q rest ih =>
    rw [operatorsEach]
    rcases List.mem_cons.1 h with rfl | h
    · omega
    · have hrest := ih h
      omega

end Predicate

/-- The number of paths in a basic graph pattern, at any depth. -/
def Bgp.operators (B : Bgp) : Nat := Predicate.operatorsEach (B.map (·.predicate))

/-- The paths of two patterns. -/
theorem Bgp.operators_append (A B : Bgp) : Bgp.operators (A ++ B) = A.operators + B.operators := by
  rw [Bgp.operators, List.map_append, Predicate.operatorsEach_append]
  rfl

/-- The paths of a first pattern and of the others. -/
theorem Bgp.operators_cons (t : TriplePattern) (B : Bgp) :
    Bgp.operators (t :: B) = t.predicate.operators + B.operators := rfl

/-- The basic graph pattern stands in the node, at any depth of its groups and alternatives. -/
inductive Algebra.Contains : Algebra → Bgp → Prop
  /-- It is the node. -/
  | bgp (B : Bgp) : Contains (.bgp B) B
  /-- It stands in a part of a group. -/
  | join {a : Algebra} {patterns : List Algebra} {B : Bgp} (h : a ∈ patterns)
    (hB : a.Contains B) : Contains (.join patterns) B
  /-- It stands in an alternative. -/
  | union {a : Algebra} {patterns : List Algebra} {B : Bgp} (h : a ∈ patterns)
    (hB : a.Contains B) : Contains (.union patterns) B

namespace PathFree

variable {branches : List PathFree} {triples Q : Bgp} {conditions : List Expression} {v : Variable}

/-- The groups of branches, one for each. -/
theorem toGroups_eq (branches : List PathFree) : toGroups branches = branches.map toGroup := by
  induction branches with
  | nil => rfl
  | cons b rest ih => rw [toGroups, ih, List.map_cons]

/-- A condition holds no triple patterns. -/
theorem not_contains_filter (c : Expression) : ¬ (Algebra.filter c).Contains Q := nofun

/-- The triple patterns of a group without branches, if there are any. -/
theorem contains_flat :
    (flat triples conditions).toGroup.Contains Q ↔ triples ≠ [] ∧ Q = triples := by
  rw [toGroup]
  constructor
  · rintro ⟨⟩
    rename_i a h hQ
    rcases List.mem_append.1 h with h | h
    · cases triples with
      | nil => exact absurd h List.not_mem_nil
      | cons t rest =>
        obtain rfl := List.mem_singleton.1 h
        cases hQ
        exact ⟨by simp, rfl⟩
    · obtain ⟨c, -, rfl⟩ := List.mem_map.1 h
      exact absurd hQ (not_contains_filter c)
  · rintro ⟨hne, rfl⟩
    exact .join (List.mem_append_left _ (by simp [hne])) (.bgp Q)

/-- The triple patterns of branches. -/
theorem contains_split : (split branches conditions).toGroup.Contains Q ↔
    ∃ b ∈ branches, b.toGroup.Contains Q := by
  rw [toGroup, toGroups_eq]
  constructor
  · rintro ⟨⟩
    rename_i a h hQ
    rcases List.mem_cons.1 h with rfl | h
    · cases hQ with
      | union h hQ =>
        obtain ⟨b, hb, rfl⟩ := List.mem_map.1 h
        exact ⟨b, hb, hQ⟩
    · obtain ⟨c, -, rfl⟩ := List.mem_map.1 h
      exact absurd hQ (not_contains_filter c)
  · rintro ⟨b, hb, hQ⟩
    exact .join List.mem_cons_self (.union (List.mem_map_of_mem hb) hQ)

/-- The variables of a group without branches. -/
theorem mem_allVars_flat : v ∈ (flat triples conditions).toGroup.allVars ↔
    v ∈ Bgp.allVars triples ∨ ∃ c ∈ conditions, v ∈ c.occurrences := by
  rw [toGroup, Algebra.allVars, Algebra.allVarsEach_eq, List.flatMap_append, List.mem_append]
  have htriples : v ∈ (if triples.isEmpty then [] else [.bgp triples]).flatMap Algebra.allVars ↔
      v ∈ Bgp.allVars triples := by
    cases triples <;> simp [Algebra.allVars, Bgp.allVars]
  rw [htriples]
  simp [List.mem_flatMap, Algebra.allVars]

/-- The variables of branches. -/
theorem mem_allVars_split : v ∈ (split branches conditions).toGroup.allVars ↔
    (∃ b ∈ branches, v ∈ b.toGroup.allVars) ∨ ∃ c ∈ conditions, v ∈ c.occurrences := by
  rw [toGroup, toGroups_eq, Algebra.allVars, Algebra.allVarsEach, Algebra.allVars,
    Algebra.allVarsEach_eq, Algebra.allVarsEach_eq]
  simp [List.mem_flatMap, Algebra.allVars]

/-- Conditions hold no triple patterns. -/
theorem contains_addConditions {p : PathFree} :
    (p.addConditions conditions).toGroup.Contains Q ↔ p.toGroup.Contains Q := by
  cases p with
  | flat triples rest => rw [addConditions, contains_flat, contains_flat]
  | split branches rest => rw [addConditions, contains_split, contains_split]

/-- Conditions add their variables. -/
theorem mem_allVars_addConditions {p : PathFree} :
    v ∈ (p.addConditions conditions).toGroup.allVars ↔
      v ∈ p.toGroup.allVars ∨ ∃ c ∈ conditions, v ∈ c.occurrences := by
  cases p with
  | flat triples rest =>
    rw [addConditions, mem_allVars_flat, mem_allVars_flat]
    simp only [List.mem_append]
    grind
  | split branches rest =>
    rw [addConditions, mem_allVars_split, mem_allVars_split]
    simp only [List.mem_append]
    grind

end PathFree

namespace Paths

/-! ## Steps -/

/-- A step of the rewriting: the first path is replaced by what it stands for. -/
inductive Rewrites : Bgp → Bgp → Prop
  /-- A sequence becomes a chain. -/
  | sequence {ready rest : Bgp} {subject object : TermPattern} {items : List Predicate}
    (hready : Bgp.Plain ready) (n : Naming) :
    Rewrites (ready ++ ⟨subject, .path .sequence items, object⟩ :: rest)
      (ready ++ ((chain object subject items n).1 ++ rest))
  /-- An inverse path is turned round. -/
  | inverse {ready rest : Bgp} {subject object : TermPattern} {item : Predicate}
    (hready : Bgp.Plain ready) :
    Rewrites (ready ++ ⟨subject, .path .inverse [item], object⟩ :: rest)
      (ready ++ ⟨object, item, subject⟩ :: rest)
  /-- A negated set of terms becomes a variable. -/
  | negated {ready rest : Bgp} {subject object : TermPattern} (hready : Bgp.Plain ready)
    (terms : List Term) (v : Variable) :
    Rewrites
      (ready ++ ⟨subject, .path .negated (terms.map fun t => .plain (.term t)), object⟩ :: rest)
      (ready ++ ⟨subject, .plain (.variable v), object⟩ :: rest)
  /-- An alternative becomes one of its items. -/
  | alternative {ready rest : Bgp} {subject object : TermPattern} {items : List Predicate}
    {item : Predicate} (hready : Bgp.Plain ready) (hitem : item ∈ items) :
    Rewrites (ready ++ ⟨subject, .path .alternative items, object⟩ :: rest)
      (ready ++ ⟨subject, item, object⟩ :: rest)

/-- The first path cannot be rewritten, and the error says why. -/
inductive Fault : Bgp → BuildError → Prop
  /-- It has an operator that is not supported. -/
  | unsupported {ready rest : Bgp} {subject object : TermPattern} {symbol : String}
    {items : List Predicate} (hready : Bgp.Plain ready) :
    Fault (ready ++ ⟨subject, .path (.other symbol) items, object⟩ :: rest)
      (.unsupportedNode ("property path " ++ symbol))
  /-- It is an inverse path, but not of one item. -/
  | arity {ready rest : Bgp} {subject object : TermPattern} {items : List Predicate}
    (hready : Bgp.Plain ready) (hitems : items.length ≠ 1) :
    Fault (ready ++ ⟨subject, .path .inverse items, object⟩ :: rest)
      (.invalidAlgebra (.inverseArity items.length))
  /-- It is a negated set, the first member of which that is no term is this one. -/
  | member {ready rest : Bgp} {subject object : TermPattern} {item : Predicate}
    {items : List Predicate} (hready : Bgp.Plain ready) (terms : List Term)
    (hitem : ∀ t, item ≠ .plain (.term t)) :
    Fault (ready ++ ⟨subject, .path .negated
        ((terms.map fun t => .plain (.term t)) ++ item :: items), object⟩ :: rest)
      (.unsupportedNode ("negated property set member " ++ item.toQuery))

/-- The predicates of a chain are the items of its sequence. -/
theorem predicates_chain (object subject : TermPattern) (items : List Predicate) (n : Naming) :
    (chain object subject items n).1.map (·.predicate) = items := by
  induction items generalizing subject n with
  | nil => rfl
  | cons item rest ih =>
    cases rest with
    | nil => rfl
    | cons next rest => exact congrArg (item :: ·) (ih _ _)

/-- A step takes away a path. -/
theorem Rewrites.operators_lt {B B' : Bgp} (h : Rewrites B B') : B'.operators < B.operators := by
  cases h with
  | @sequence ready rest subject object items hready n =>
    have hchain : Bgp.operators (chain object subject items n).1 =
        Predicate.operatorsEach items := by rw [Bgp.operators, predicates_chain]
    simp only [Bgp.operators_append, Bgp.operators_cons, Predicate.operators, hchain]
    omega
  | inverse hready =>
    simp only [Bgp.operators_append, Bgp.operators_cons, Predicate.operators,
      Predicate.operatorsEach]
    omega
  | negated hready terms v =>
    simp only [Bgp.operators_append, Bgp.operators_cons, Predicate.operators]
    omega
  | alternative hready hitem =>
    have hle := Predicate.operators_le_of_mem hitem
    simp only [Bgp.operators_append, Bgp.operators_cons, Predicate.operators]
    omega

/-- A rewriting ends: it has no more steps than there are paths. -/
theorem length_le_of_isChain {B : Bgp} {steps : List Bgp}
    (h : List.IsChain Rewrites (B :: steps)) : steps.length ≤ B.operators := by
  induction steps generalizing B with
  | nil => exact Nat.zero_le _
  | cons B' steps ih =>
    obtain ⟨hstep, hrest⟩ := List.isChain_cons_cons.1 h
    have hlt := hstep.operators_lt
    have hle := ih hrest
    rw [List.length_cons]
    omega

/-! ## Outcomes -/

/-- A pattern that comes to some patterns by rewriting comes to those that they come to. -/
def Comes (B B' : Bgp) : Prop := Relation.ReflTransGen Rewrites B B'

/-- The members of a negated set are terms if a variable can differ from them, and the conditions
read this variable only. -/
theorem exclusions_ok {v : Variable} {items : List Predicate} {conditions : List Expression}
    (h : items.mapM (exclusion v) = .ok conditions) :
    (∃ terms : List Term, items = terms.map fun t => .plain (.term t)) ∧
      ∀ c ∈ conditions, ∀ w ∈ c.occurrences, w = v := by
  induction items generalizing conditions with
  | nil =>
    obtain rfl : [] = conditions := Except.ok.inj h
    exact ⟨⟨[], rfl⟩, fun c hc => absurd hc List.not_mem_nil⟩
  | cons item rest ih =>
    rw [List.mapM_cons] at h
    obtain ⟨c, hc, h⟩ := bind_inv h
    obtain ⟨cs, hcs, h⟩ := bind_inv h
    obtain rfl := Except.ok.inj h
    obtain ⟨⟨terms, rfl⟩, hothers⟩ := ih hcs
    unfold exclusion at hc
    split at hc
    · next t =>
      obtain rfl := Except.ok.inj hc
      refine ⟨⟨t :: terms, rfl⟩, List.forall_mem_cons.2 ⟨fun w hw => ?_, hothers⟩⟩
      simpa [Expression.occurrences, Expression.allOccurrences, TermPattern.var?] using hw
    · exact absurd hc (by simp)

/-- If no variable can differ from the members of a negated set, one of them is no term, and the
error is about the first such one. -/
theorem exclusions_error {v : Variable} {items : List Predicate} {e : BuildError}
    (h : items.mapM (exclusion v) = .error e) :
    ∃ (terms : List Term) (item : Predicate) (rest : List Predicate),
      items = (terms.map fun t => .plain (.term t)) ++ item :: rest ∧
        (∀ t, item ≠ .plain (.term t)) ∧
        e = .unsupportedNode ("negated property set member " ++ item.toQuery) := by
  induction items with
  | nil => exact absurd h (by simp [pure, Except.pure])
  | cons item rest ih =>
    rw [List.mapM_cons] at h
    by_cases hitem : ∃ t, item = .plain (.term t)
    · obtain ⟨t, rfl⟩ := hitem
      cases hrest : rest.mapM (exclusion v) with
      | ok conditions =>
        rw [hrest] at h
        exact absurd h (by simp [exclusion, bind, Except.bind, pure, Except.pure])
      | error e' =>
        rw [hrest] at h
        obtain rfl : e' = e := by simpa [exclusion, bind, Except.bind] using h
        obtain ⟨terms, item, others, rfl, hitem, rfl⟩ := ih hrest
        exact ⟨t :: terms, item, others, rfl, hitem, rfl⟩
    · have hne : ∀ t, item ≠ .plain (.term t) := fun t ht => hitem ⟨t, ht⟩
      refine ⟨[], item, rest, rfl, hne, ?_⟩
      have hexclusion : exclusion v item =
          .error (.unsupportedNode ("negated property set member " ++ item.toQuery)) := by
        unfold exclusion
        split
        · next t => exact absurd rfl (hne t)
        · rfl
      rw [hexclusion] at h
      exact (Except.error.inj h).symm

/-- What the resolution of a pattern has come to. A pattern without paths holds ends of the
rewriting only, and only variables that were known or have been drawn; a failure is that of a fault
that the rewriting comes to. -/
def Outcome (V : Set Variable) (B : Bgp) (n : Naming) :
    Except BuildError (PathFree × Naming) → Prop
  | .ok (p, n') => n.Later n' ∧ (∀ Q, p.toGroup.Contains Q → Q.Plain ∧ Comes B Q) ∧
      ∀ v ∈ p.toGroup.allVars, v ∈ n.knownAt n' V
  | .error e => ∃ B', Comes B B' ∧ Fault B' e

/-- What the resolution of several patterns has come to, one after the other. -/
def OutcomeEach (V : Set Variable) (Bs : List Bgp) (n : Naming) :
    Except BuildError (List PathFree × Naming) → Prop
  | .ok (ps, n') => n.Later n' ∧
      (∀ p ∈ ps, ∀ Q, p.toGroup.Contains Q → Q.Plain ∧ ∃ B ∈ Bs, Comes B Q) ∧
      ∀ p ∈ ps, ∀ v ∈ p.toGroup.allVars, v ∈ n.knownAt n' V
  | .error e => ∃ B ∈ Bs, ∃ B', Comes B B' ∧ Fault B' e

variable {B B' : Bgp} {V W : Set Variable} {n n₁ : Naming}
  {r : Except BuildError (PathFree × Naming)}

/-- More variables may be known. -/
theorem Outcome.mono (h : Outcome V B n r) (hVW : V ⊆ W) : Outcome W B n r := by
  match r, h with
  | .error e, h => exact h
  | .ok (p, n'), ⟨hlater, hends, hvars⟩ =>
    exact ⟨hlater, hends, fun v hv => Set.union_subset_union_left _ hVW (hvars v hv)⟩

/-- **A step in front of an outcome.** What a pattern comes to after a step is what it comes to. -/
theorem Outcome.of_rewrites (hstep : Rewrites B B') (hn : n.Later n₁)
    (h : Outcome (n.knownAt n₁ V) B' n₁ r) : Outcome V B n r := by
  match r, h with
  | .error e, ⟨Q, hQ, hfault⟩ => exact ⟨Q, hQ.head hstep, hfault⟩
  | .ok (p, n'), ⟨hlater, hends, hvars⟩ =>
    refine ⟨hn.trans hlater, fun Q hQ => ?_, fun v hv => ?_⟩
    · obtain ⟨hplain, hcomes⟩ := hends Q hQ
      exact ⟨hplain, hcomes.head hstep⟩
    · exact Naming.knownAt_knownAt hn hlater (hvars v hv)

/-- There may be conditions on variables that are known. -/
theorem Outcome.addConditions {p : PathFree} {n' : Naming} (h : Outcome V B n (.ok (p, n')))
    {conditions : List Expression} (hconditions : ∀ c ∈ conditions, ∀ v ∈ c.occurrences, v ∈ V) :
    Outcome V B n (.ok (p.addConditions conditions, n')) := by
  obtain ⟨hlater, hends, hvars⟩ := h
  refine ⟨hlater, fun Q hQ => hends Q (PathFree.contains_addConditions.1 hQ), fun v hv => ?_⟩
  rcases PathFree.mem_allVars_addConditions.1 hv with hv | ⟨c, hc, hv⟩
  · exact hvars v hv
  · exact Naming.subset_knownAt (hconditions c hc v hv)

/-- A variable in the place of a negated set, and what the others come to then. -/
theorem Outcome.negated {ready rest : Bgp} {subject object : TermPattern} {items : List Predicate}
    (hplain : ready.Plain) (hready : ∀ v ∈ Bgp.allVars ready, v ∈ V)
    (htodo : ∀ v ∈ Bgp.allVars (⟨subject, .path .negated items, object⟩ :: rest), v ∈ V)
    (h : ∀ W : Set Variable,
      (∀ v ∈ Bgp.allVars (ready ++ [⟨subject, .plain (.variable n.draw.1), object⟩]), v ∈ W) →
      (∀ v ∈ Bgp.allVars rest, v ∈ W) →
      Outcome W (ready ++ [⟨subject, .plain (.variable n.draw.1), object⟩] ++ rest) n.draw.2
        (resolve (ready ++ [⟨subject, .plain (.variable n.draw.1), object⟩]) rest n.draw.2)) :
    Outcome V (ready ++ ⟨subject, .path .negated items, object⟩ :: rest) n
      (resolve ready (⟨subject, .path .negated items, object⟩ :: rest) n) := by
  obtain ⟨ht, hrest⟩ := Bgp.forall_mem_allVars_cons.1 htodo
  obtain ⟨hs, -, ho⟩ : subject.In V ∧ _ ∧ object.In V := TriplePattern.forall_mem_allVars.1 ht
  cases hconditions : items.mapM (exclusion n.draw.1) with
  | error e =>
    obtain ⟨terms, item, others, rfl, hitem, rfl⟩ := exclusions_error hconditions
    rw [resolve]
    simp only [hconditions]
    exact ⟨_, .refl, .member hplain terms hitem⟩
  | ok conditions =>
    obtain ⟨⟨terms, rfl⟩, hreads⟩ := exclusions_ok hconditions
    -- The variable drawn is known from here on.
    have hdrawn : insert n.draw.1 V ⊆ n.knownAt n.draw.2 V :=
      Naming.insert_subset_knownAt (.refl _)
    have hkeep : V ⊆ n.knownAt n.draw.2 V := (Set.subset_insert _ _).trans hdrawn
    have hlink : (TermPattern.variable n.draw.1).In (n.knownAt n.draw.2 V) :=
      TermPattern.in_variable (hdrawn (.inl rfl))
    have hready' : ∀ v ∈ Bgp.allVars (ready ++ [⟨subject, .plain (.variable n.draw.1), object⟩]),
        v ∈ n.knownAt n.draw.2 V := by
      refine Bgp.forall_mem_allVars_append.2 ⟨fun v hv => hkeep (hready v hv), ?_⟩
      refine Bgp.forall_mem_allVars_cons.2 ⟨?_, fun v hv => absurd hv List.not_mem_nil⟩
      exact TriplePattern.forall_mem_allVars.2 ⟨hs.mono hkeep, hlink, ho.mono hkeep⟩
    have hinner := h (n.knownAt n.draw.2 V) hready' fun v hv => hkeep (hrest v hv)
    rw [← List.append_cons] at hinner
    refine .of_rewrites (.negated hplain terms n.draw.1) (Naming.later_draw n) ?_
    rw [resolve]
    simp only [hconditions]
    cases hq : resolve (ready ++ [⟨subject, .plain (.variable n.draw.1), object⟩]) rest
        n.draw.2 with
    | error e =>
      rw [hq] at hinner
      exact hinner
    | ok r =>
      rw [hq] at hinner
      refine hinner.addConditions fun c hc w hw => ?_
      rw [hreads c hc w hw]
      exact hdrawn (.inl rfl)

/-- The items in the place of their alternative, and what each of them comes to. -/
theorem Outcome.alternative {ready rest : Bgp} {subject object : TermPattern}
    {items : List Predicate} (hplain : ready.Plain)
    (h : OutcomeEach V (items.map fun item => ready ++ ⟨subject, item, object⟩ :: rest) n
      (resolveEach ready subject object rest items n)) :
    Outcome V (ready ++ ⟨subject, .path .alternative items, object⟩ :: rest) n
      (resolve ready (⟨subject, .path .alternative items, object⟩ :: rest) n) := by
  have hstep : ∀ B ∈ items.map fun item => ready ++ ⟨subject, item, object⟩ :: rest,
      Rewrites (ready ++ ⟨subject, .path .alternative items, object⟩ :: rest) B := by
    intro B hB
    obtain ⟨item, hitem, rfl⟩ := List.mem_map.1 hB
    exact .alternative hplain hitem
  rw [resolve]
  cases hps : resolveEach ready subject object rest items n with
  | error e =>
    rw [hps] at h
    obtain ⟨B, hB, B', hcomes, hfault⟩ := h
    exact ⟨B', hcomes.head (hstep B hB), hfault⟩
  | ok r =>
    obtain ⟨ps, n₁⟩ := r
    rw [hps] at h
    obtain ⟨hlater, hends, hvars⟩ := h
    refine ⟨hlater, fun Q hQ => ?_, fun v hv => ?_⟩
    · obtain ⟨p, hp, hQ⟩ := PathFree.contains_split.1 hQ
      obtain ⟨hQplain, B, hB, hcomes⟩ := hends p hp Q hQ
      exact ⟨hQplain, hcomes.head (hstep B hB)⟩
    · rcases PathFree.mem_allVars_split.1 hv with ⟨p, hp, hv⟩ | ⟨c, hc, -⟩
      · exact hvars p hp v hv
      · exact absurd hc List.not_mem_nil

/-- What a first pattern comes to, and then what the others come to. -/
theorem OutcomeEach.cons {Bs : List Bgp}
    {others : Naming → Except BuildError (List PathFree × Naming)} (h : Outcome V B n r)
    (hothers : ∀ p n₁, r = .ok (p, n₁) → OutcomeEach (n.knownAt n₁ V) Bs n₁ (others n₁)) :
    OutcomeEach V (B :: Bs) n (r >>= fun first =>
      others first.2 >>= fun rest => .ok (first.1 :: rest.1, rest.2)) := by
  match r, h, hothers with
  | .error e, ⟨B', hcomes, hfault⟩, _ => exact ⟨B, List.mem_cons_self, B', hcomes, hfault⟩
  | .ok (p, n₁), ⟨hlater, hends, hvars⟩, hothers =>
    have heach := hothers p n₁ rfl
    show OutcomeEach V (B :: Bs) n (others n₁ >>= fun rest => .ok (p :: rest.1, rest.2))
    cases hps : others n₁ with
    | error e =>
      rw [hps] at heach
      obtain ⟨B', hB', hfault⟩ := heach
      exact ⟨B', List.mem_cons_of_mem _ hB', hfault⟩
    | ok rest =>
      obtain ⟨ps, n₂⟩ := rest
      rw [hps] at heach
      obtain ⟨hlater', hends', hvars'⟩ := heach
      have hboth : n₁.knownAt n₂ (n.knownAt n₁ V) ⊆ n.knownAt n₂ V :=
        Naming.knownAt_knownAt hlater hlater'
      refine ⟨hlater.trans hlater', List.forall_mem_cons.2 ⟨fun Q hQ => ?_, fun p hp Q hQ => ?_⟩,
        List.forall_mem_cons.2 ⟨fun v hv => ?_, fun p hp v hv => ?_⟩⟩
      · obtain ⟨hQplain, hcomes⟩ := hends Q hQ
        exact ⟨hQplain, B, List.mem_cons_self, hcomes⟩
      · obtain ⟨hQplain, B', hB', hcomes⟩ := hends' p hp Q hQ
        exact ⟨hQplain, B', List.mem_cons_of_mem _ hB', hcomes⟩
      · exact hboth (Naming.subset_knownAt (hvars v hv))
      · exact hboth (hvars' p hp v hv)

/-- **Resolving is rewriting.** What resolving comes to, the rewriting comes to. -/
theorem outcome_resolve (ready todo : List TriplePattern) (n : Naming) :
    ∀ V : Set Variable, Bgp.Plain ready → (∀ v ∈ Bgp.allVars ready, v ∈ V) →
      (∀ v ∈ Bgp.allVars todo, v ∈ V) → Outcome V (ready ++ todo) n (resolve ready todo n) := by
  refine resolve.induct
    (fun ready todo n => ∀ V : Set Variable, Bgp.Plain ready → (∀ v ∈ Bgp.allVars ready, v ∈ V) →
      (∀ v ∈ Bgp.allVars todo, v ∈ V) → Outcome V (ready ++ todo) n (resolve ready todo n))
    (fun ready subject object rest items n => ∀ V : Set Variable, Bgp.Plain ready →
      (∀ v ∈ Bgp.allVars ready, v ∈ V) → subject.In V → object.In V →
      (∀ v ∈ Predicate.allVarsEach items, v ∈ V) → (∀ v ∈ Bgp.allVars rest, v ∈ V) →
        OutcomeEach V (items.map fun item => ready ++ ⟨subject, item, object⟩ :: rest) n
          (resolveEach ready subject object rest items n))
    ?done ?plain ?sequence ?inverse ?badInverse ?negated ?alternative ?other ?noBranch ?branch
    ready todo n
  case done =>
    intro ready n V hplain hready _
    rw [resolve, List.append_nil]
    refine ⟨.refl n, fun Q hQ => ?_, fun v hv => ?_⟩
    · obtain ⟨-, rfl⟩ := PathFree.contains_flat.1 hQ
      exact ⟨hplain, .refl⟩
    · rcases PathFree.mem_allVars_flat.1 hv with hv | ⟨c, hc, -⟩
      · exact Naming.subset_knownAt (hready v hv)
      · exact absurd hc List.not_mem_nil
  case plain =>
    intro ready n subject q object rest ih V hplain hready htodo
    rw [resolve, List.append_cons]
    obtain ⟨ht, hrest⟩ := Bgp.forall_mem_allVars_cons.1 htodo
    refine ih V (plain_snoc hplain _ _ _) (Bgp.forall_mem_allVars_append.2 ⟨hready, ?_⟩) hrest
    exact Bgp.forall_mem_allVars_cons.2 ⟨ht, fun v hv => absurd hv List.not_mem_nil⟩
  case sequence =>
    intro ready n subject items object rest ih V hplain hready htodo
    rw [resolve]
    obtain ⟨ht, hrest⟩ := Bgp.forall_mem_allVars_cons.1 htodo
    obtain ⟨hs, hitems, ho⟩ := TriplePattern.forall_mem_allVars.1 ht
    have hchain : ∀ v ∈ Bgp.allVars ((chain object subject items n).1 ++ rest),
        v ∈ n.knownAt (chain object subject items n).2 V :=
      Bgp.forall_mem_allVars_append.2 ⟨vars_chain hs ho hitems,
        fun v hv => Naming.subset_knownAt (hrest v hv)⟩
    refine .of_rewrites (.sequence hplain n) (later_chain object subject items n) ?_
    exact ih _ hplain (fun v hv => Naming.subset_knownAt (hready v hv)) hchain
  case inverse =>
    intro ready n subject item object rest ih V hplain hready htodo
    rw [resolve]
    obtain ⟨ht, hrest⟩ := Bgp.forall_mem_allVars_cons.1 htodo
    obtain ⟨hs, hitem, ho⟩ := TriplePattern.forall_mem_allVars.1 ht
    have hturned : ∀ v ∈ Bgp.allVars (⟨object, item, subject⟩ :: rest), v ∈ V := by
      refine Bgp.forall_mem_allVars_cons.2 ⟨TriplePattern.forall_mem_allVars.2 ⟨ho, ?_, hs⟩, hrest⟩
      exact fun v hv => hitem v (List.mem_append_left _ hv)
    refine .of_rewrites (.inverse hplain) (.refl n) ?_
    exact (ih V hplain hready hturned).mono Naming.subset_knownAt
  case badInverse =>
    intro ready n subject items object rest hitems V hplain _ _
    rw [resolve]
    · refine ⟨_, .refl, .arity hplain fun hlength => ?_⟩
      obtain ⟨item, rfl⟩ := List.length_eq_one_iff.1 hlength
      exact hitems item rfl
    · exact hitems
  case negated =>
    intro ready n subject items object rest v n₁ hdraw ih V hplain hready htodo
    obtain rfl : n.draw.1 = v := congrArg Prod.fst hdraw
    obtain rfl : n.draw.2 = n₁ := congrArg Prod.snd hdraw
    exact .negated hplain hready htodo fun W => ih W (plain_snoc hplain _ _ _)
  case alternative =>
    intro ready n subject items object rest ih V hplain hready htodo
    obtain ⟨ht, hrest⟩ := Bgp.forall_mem_allVars_cons.1 htodo
    obtain ⟨hs, hitems, ho⟩ := TriplePattern.forall_mem_allVars.1 ht
    exact .alternative hplain (ih V hplain hready hs ho hitems hrest)
  case other =>
    intro ready n subject symbol items object rest V hplain _ _
    rw [resolve]
    exact ⟨_, .refl, .unsupported hplain⟩
  case noBranch =>
    intro ready subject object rest n V _ _ _ _ _ _
    rw [resolveEach]
    exact ⟨.refl n, fun p hp => absurd hp List.not_mem_nil, fun p hp => absurd hp List.not_mem_nil⟩
  case branch =>
    intro ready subject object rest n item items ih ihs V hplain hready hs ho hitems hrest
    obtain ⟨hitem, hitems⟩ := List.forall_mem_append.1 hitems
    have hfirst := ih V hplain hready (Bgp.forall_mem_allVars_cons.2
      ⟨TriplePattern.forall_mem_allVars.2 ⟨hs, hitem, ho⟩, hrest⟩)
    rw [resolveEach]
    refine .cons hfirst fun p n₁ _ => ?_
    have hkeep : V ⊆ n.knownAt n₁ V := Naming.subset_knownAt
    exact ihs n₁ (n.knownAt n₁ V) hplain (fun v hv => hkeep (hready v hv)) (hs.mono hkeep)
      (ho.mono hkeep) (fun v hv => hkeep (hitems v hv)) fun v hv => hkeep (hrest v hv)

/-! ## Faults -/

/-- Patterns without paths are ready at once. -/
theorem resolve_append {ready : Bgp} (h : ready.Plain) (first todo : List TriplePattern)
    (n : Naming) : resolve first (ready ++ todo) n = resolve (first ++ ready) todo n := by
  induction ready generalizing first with
  | nil => rw [List.nil_append, List.append_nil]
  | cons t rest ih =>
    obtain ⟨ht, hrest⟩ := List.forall_mem_cons.1 h
    obtain ⟨subject, p, object⟩ := t
    cases p with
    | path kind items => exact absurd ht (by simp [TriplePattern.hasPath, Predicate.isPath])
    | plain p => rw [List.cons_append, resolve, ih hrest, ← List.append_cons]

/-- Patterns without paths do not matter. -/
theorem resolves_append_iff {ready todo : Bgp} (h : ready.Plain) :
    Resolves (ready ++ todo) ↔ Resolves todo := by
  constructor
  · intro hboth
    obtain ⟨r, hr⟩ := hboth [] ⟨⟨0, []⟩, []⟩
    rw [resolve_append h] at hr
    exact .of_resolve hr rfl
  · intro htodo first n
    rw [resolve_append h]
    exact htodo _ n

/-- All alternatives are resolved. -/
theorem exists_of_resolveEach {ready : List TriplePattern} {subject object : TermPattern}
    {rest : List TriplePattern} {items : List Predicate} {n : Naming} {r : List PathFree × Naming}
    (h : resolveEach ready subject object rest items n = .ok r) {item : Predicate}
    (hitem : item ∈ items) :
    ∃ n₁ r₁, resolve ready (⟨subject, item, object⟩ :: rest) n₁ = .ok r₁ := by
  induction items generalizing n r with
  | nil => exact absurd hitem List.not_mem_nil
  | cons first others ih =>
    rw [resolveEach] at h
    obtain ⟨q, hq, h⟩ := bind_inv h
    obtain ⟨qs, hqs, -⟩ := bind_inv h
    rcases List.mem_cons.1 hitem with rfl | hitem
    · exact ⟨n, q, hq⟩
    · exact ih hqs hitem

/-- A step leaves patterns that can be resolved if they could be. -/
theorem Resolves.rewrites (h : Resolves B) (hstep : Rewrites B B') : Resolves B' := by
  cases hstep with
  | sequence hready n =>
    rw [resolves_append_iff hready] at h ⊢
    obtain ⟨r, hr⟩ := h [] n
    rw [resolve] at hr
    exact .of_resolve hr rfl
  | inverse hready =>
    rw [resolves_append_iff hready] at h ⊢
    obtain ⟨r, hr⟩ := h [] ⟨⟨0, []⟩, []⟩
    rw [resolve] at hr
    exact .of_resolve hr rfl
  | @negated ready rest subject object hready terms v =>
    have hlink : Bgp.Plain [⟨subject, .plain (.variable v), object⟩] := Bgp.plain_single _ _ _
    rw [resolves_append_iff hready] at h ⊢
    obtain ⟨r, hr⟩ := h [] ⟨⟨0, []⟩, []⟩
    rw [resolve] at hr
    obtain ⟨conditions, -, hr⟩ := bind_inv hr
    obtain ⟨q, hq, -⟩ := bind_inv hr
    have hrest : Resolves rest := .of_resolve hq rfl
    exact (resolves_append_iff hlink).2 hrest
  | alternative hready hitem =>
    rw [resolves_append_iff hready] at h ⊢
    obtain ⟨r, hr⟩ := h [] ⟨⟨0, []⟩, []⟩
    rw [resolve] at hr
    obtain ⟨ps, hps, -⟩ := bind_inv hr
    obtain ⟨n₁, r₁, hr₁⟩ := exists_of_resolveEach hps hitem
    exact .of_resolve hr₁ rfl

/-- Patterns that can be resolved have no fault. -/
theorem Resolves.not_fault (h : Resolves B) {e : BuildError} : ¬ Fault B e := by
  intro hfault
  cases hfault with
  | unsupported hready =>
    obtain ⟨r, hr⟩ := (resolves_append_iff hready).1 h [] ⟨⟨0, []⟩, []⟩
    rw [resolve] at hr
    exact absurd hr (by simp)
  | arity hready hitems =>
    obtain ⟨r, hr⟩ := (resolves_append_iff hready).1 h [] ⟨⟨0, []⟩, []⟩
    rw [resolve] at hr
    · exact absurd hr (by simp)
    · rintro item rfl
      exact hitems rfl
  | @member ready rest subject object item items hready terms hitem =>
    obtain ⟨r, hr⟩ := (resolves_append_iff hready).1 h [] ⟨⟨0, []⟩, []⟩
    rw [resolve] at hr
    obtain ⟨conditions, hconditions, -⟩ := bind_inv hr
    obtain ⟨⟨members, hmembers⟩, -⟩ := exclusions_ok hconditions
    have hmem : item ∈ members.map fun t => Predicate.plain (.term t) := by
      rw [← hmembers]
      exact List.mem_append_right _ List.mem_cons_self
    obtain ⟨t, -, rfl⟩ := List.mem_map.1 hmem
    exact hitem t rfl

/-- Patterns that can be resolved come to no fault. -/
theorem Resolves.comes (h : Resolves B) (hcomes : Comes B B') : Resolves B' := by
  induction hcomes with
  | refl => exact h
  | tail _ hstep ih => exact ih.rewrites hstep

/-! ## The resolution of a pattern -/

/-- What has been drawn between two namings was given out by the first. -/
theorem mem_givenOut {names : Names} {k : Nat} {v : Variable} (hv : v ∈ names.Ahead)
    (hk : v ∉ (Names.after k names).Ahead) : v ∈ Names.givenOut k names := by
  induction k generalizing names with
  | zero => exact absurd hv hk
  | succ k ih =>
    obtain ⟨i, hi⟩ := hv
    rw [Names.givenOut]
    cases i with
    | zero => exact hi ▸ List.mem_cons_self
    | succ i => exact List.mem_cons_of_mem _ (ih ⟨i, hi⟩ hk)

/-- **The resolution of paths.** Rewriting the paths of a pattern ends, with no more steps than
there are paths. If there is a result, it has no paths, neither in its own triple patterns nor in
those of its alternatives, and each of the latter is an end of the rewriting; it has triple patterns
of its own only if it has no alternatives; the variables that were drawn are different ones and just
those that the source has given out, and its variables are those of the pattern or among them. It
fails with the error of a fault that the rewriting comes to, and it fails if the rewriting comes to
a fault. -/
theorem compile_rewrites (B : Bgp) (n : Naming) :
    (∀ steps, List.IsChain Rewrites (B :: steps) → steps.length ≤ B.operators) ∧
      (∀ p n', compile B n = .ok (p, n') →
        Bgp.Plain p.triples ∧
        (∀ a, p.union? = some a → p.triples = [] ∧ ∀ Q, a.Contains Q → Q.Plain) ∧
        (∀ Q, p.toGroup.Contains Q → Comes B Q) ∧
        ∃ k, n'.names = Names.after k n.names ∧ n'.drawn = n.drawn ++ Names.givenOut k n.names ∧
          (Names.givenOut k n.names).Nodup ∧
          ∀ v ∈ p.toGroup.allVars, v ∈ B.allVars ∨ v ∈ Names.givenOut k n.names) ∧
      (∀ e, compile B n = .error e → ∃ B', Comes B B' ∧ Fault B' e) ∧
      ∀ B' e, Comes B B' → Fault B' e → ∃ e', compile B n = .error e' := by
  have houtcome : Outcome {v | v ∈ B.allVars} B n (compile B n) :=
    outcome_resolve [] B n _ (fun t ht => absurd ht List.not_mem_nil)
      (fun v hv => absurd hv List.not_mem_nil) fun v hv => hv
  refine ⟨fun steps => length_le_of_isChain, fun p n' h => ?_, fun e h => ?_, fun B' e hB' he => ?_⟩
  · have hplain : p.Plain := plain_compile h
    rw [h] at houtcome
    obtain ⟨⟨k, rfl⟩, hends, hvars⟩ := houtcome
    have hnone : n.names.Avoids ∅ := fun _ => id
    refine ⟨?_, fun a ha => ?_, fun Q hQ => (hends Q hQ).2, k, rfl, rfl, (hnone.givenOut k).1, ?_⟩
    · cases p with
      | flat triples conditions => exact hplain
      | split branches conditions => exact fun t ht => absurd ht List.not_mem_nil
    · cases p with
      | flat triples conditions => exact absurd ha (by simp [PathFree.union?])
      | split branches conditions =>
        obtain rfl := Option.some.inj ha
        exact ⟨rfl, fun Q hQ => (hends Q (.join List.mem_cons_self hQ)).1⟩
    · intro v hv
      exact (hvars v hv).imp id fun hdrawn => mem_givenOut hdrawn.1 hdrawn.2
  · rw [h] at houtcome
    exact houtcome
  · cases h : compile B n with
    | error e' => exact ⟨e', rfl⟩
    | ok r =>
      have hresolves : Resolves B := .of_resolve h rfl
      exact absurd he (hresolves.comes hB').not_fault

namespace Sample

/-- A path that leads backwards along `c`, then along anything but `d`. -/
def backwards : Bgp :=
  [⟨.variable ⟨"s"⟩, .path .sequence [.path .inverse [along "c"], .path .negated [along "d"]],
    .variable ⟨"o"⟩⟩]

/-- A path along `b` or backwards along nothing. -/
def crooked : Bgp :=
  [⟨.variable ⟨"s"⟩, .path .alternative [along "b", .path .inverse []], .variable ⟨"o"⟩⟩]

end Sample

/-- One pattern is resolved into two triple patterns, with two variables that were drawn; the other
one comes to a fault. -/
theorem compile_rewrites_sample :
    (∃ p n', compile Sample.backwards Sample.naming = .ok (p, n') ∧ Bgp.Plain p.triples ∧
      p.triples.length = 2 ∧ n'.drawn = Names.givenOut 2 Sample.naming.names) ∧
      ∃ e, compile Sample.crooked Sample.naming = .error e := by
  have hok : ∃ p n', compile Sample.backwards Sample.naming = .ok (p, n') ∧
      p.triples.length = 2 ∧ n'.drawn = Names.givenOut 2 Sample.naming.names := by
    unfold compile Sample.backwards Sample.along
    rw [resolve]
    simp only [chain, List.cons_append, List.nil_append]
    rw [resolve, resolve, resolve]
    simp only [List.mapM_cons, exclusion]
    rw [resolve]
    exact ⟨_, _, rfl, rfl, rfl⟩
  obtain ⟨p, n', hp, hlength, hdrawn⟩ := hok
  have hplain := ((compile_rewrites Sample.backwards Sample.naming).2.1 p n' hp).1
  have hready : Bgp.Plain [] := fun t ht => absurd ht List.not_mem_nil
  have hstep : Comes Sample.crooked [⟨.variable ⟨"s"⟩, .path .inverse [], .variable ⟨"o"⟩⟩] :=
    .single (@Rewrites.alternative [] _ _ _ _ _ hready (by simp))
  have hfault : Fault [⟨.variable ⟨"s"⟩, .path .inverse [], .variable ⟨"o"⟩⟩]
      (.invalidAlgebra (.inverseArity 0)) := @Fault.arity [] _ _ _ _ hready (by simp)
  exact ⟨⟨p, n', hp, hplain, hlength, hdrawn⟩,
    (compile_rewrites Sample.crooked Sample.naming).2.2.2 _ _ hstep hfault⟩

end Paths

end PagedSparql
