import Mathlib.Tactic.Ring
import PagedSparql.Algebra.Basic
import PagedSparql.Eval.Evaluate
import PagedSparql.Proofs.Rdf.RowSet
import PagedSparql.Proofs.Rdf.Solutions

/-!
# Solutions over a graph

What patterns mean over a set of triples, as sets of rows. A path leads from a term to another: a
sequence by going on from one item to the next, an inverse backwards, an alternative by one of its
items, and a negated set by a triple whose predicate is none of its members. What is found on the
way binds the variables that stand in the path (`Predicate.walks`).

A triple pattern joins such a way with what its subject and object are bound to, a basic graph
pattern joins its triple patterns, a union unites its branches, and a group joins its parts and
keeps the rows that fulfil its conditions. Terms stand for themselves, blank nodes too.
-/

namespace PagedSparql

/-- The row that binds a position to a term, if it may be bound to it. -/
def TermPattern.taking (p : TermPattern) (t : Term) : RowSet :=
  match p with
  | .variable v => .single v t
  | .term u => .only (t = u)

/-- A variable is bound to the term. -/
theorem TermPattern.taking_variable (v : Variable) (t : Term) :
    (TermPattern.variable v).taking t = .single v t := rfl

namespace Predicate

mutual

/-- The variables of a predicate, those in paths too. -/
def allVars : Predicate → List Variable
  | .plain p => p.var?.toList
  | .path _ items => allVarsEach items

/-- The variables of several predicates. -/
def allVarsEach : List Predicate → List Variable
  | [] => []
  | p :: rest => p.allVars ++ allVarsEach rest

end

mutual

/-- The ways from a term to another along a predicate, each with what it binds. -/
def walks (G : Set Triple) : Predicate → Term → Term → RowSet
  | .plain p, a, b => .any fun q => .only (⟨a, q, b⟩ ∈ G) * p.taking q
  | .path .sequence items, a, b => walksAlong G items a b
  | .path .alternative items, a, b => walksByOne G items a b
  | .path .inverse [item], a, b => walks G item b a
  | .path .negated items, a, b => .only (∃ q, ⟨a, q, b⟩ ∈ G ∧ .plain (.term q) ∉ items)
  | .path _ _, _, _ => 0

/-- The ways along several predicates, one after the other. -/
def walksAlong (G : Set Triple) : List Predicate → Term → Term → RowSet
  | [], a, b => .only (a = b)
  | item :: rest, a, b => .any fun c => walks G item a c * walksAlong G rest c b

/-- The ways along one of several predicates. -/
def walksByOne (G : Set Triple) : List Predicate → Term → Term → RowSet
  | [], _, _ => 0
  | item :: rest, a, b => walks G item a b + walksByOne G rest a b

end

end Predicate

/-- The rows that bind two positions to the ends of a way. -/
def RowSet.between (subject : TermPattern) (ways : Term → Term → RowSet) (object : TermPattern) :
    RowSet :=
  .any fun a => .any fun b => subject.taking a * (ways a b * object.taking b)

namespace TriplePattern

/-- The variables of a triple pattern, those in paths too. -/
def allVars (t : TriplePattern) : List Variable :=
  t.subject.var?.toList ++ t.predicate.allVars ++ t.object.var?.toList

/-- The solutions of a triple pattern. -/
def solutions (G : Set Triple) (t : TriplePattern) : RowSet :=
  .between t.subject (t.predicate.walks G) t.object

end TriplePattern

namespace Bgp

/-- The variables of a basic graph pattern, those in paths too. -/
def allVars (B : Bgp) : List Variable := B.flatMap TriplePattern.allVars

/-- The solutions of a basic graph pattern: the join of those of its triple patterns. -/
def solutions (G : Set Triple) (B : Bgp) : RowSet := (B.map (·.solutions G)).prod

end Bgp

/-- The condition is true for the row. -/
def Expression.Holds (now : DateTime) (s : EvalState) (e : Expression) (r : Row) : Prop :=
  ((Eval.evaluateBool now e r).run.run s).1 = .ok true

namespace Algebra

mutual

/-- The solutions of a graph pattern made of basic graph patterns, unions, groups and conditions;
other patterns have none here. -/
def solutions (G : Set Triple) (holds : Expression → Row → Prop) : Algebra → RowSet
  | .bgp triples => Bgp.solutions G triples
  | .union branches => unionOf G holds branches
  -- The conditions of a group are about the rows of the whole group.
  | .join parts => (joinOf G holds parts).keep fun r => ∀ c, .filter c ∈ parts → holds c r
  | .filter _ => 1
  | _ => 0

/-- The join of the solutions of several patterns. -/
def joinOf (G : Set Triple) (holds : Expression → Row → Prop) : List Algebra → RowSet
  | [] => 1
  | part :: rest => part.solutions G holds * joinOf G holds rest

/-- The union of the solutions of several patterns. -/
def unionOf (G : Set Triple) (holds : Expression → Row → Prop) : List Algebra → RowSet
  | [] => 0
  | branch :: rest => branch.solutions G holds + unionOf G holds rest

end

end Algebra

variable {G : Set Triple} {V : Set Variable}

/-- A position binds its variable. -/
theorem TermPattern.within_taking {p : TermPattern} (h : ∀ v ∈ p.var?.toList, v ∈ V) (t : Term) :
    (p.taking t).Within V := by
  match p with
  | .variable v => exact RowSet.within_single t (h v (by simp [TermPattern.var?]))
  | .term u => exact RowSet.within_only _

/-- What is bound between two ends are the variables of the ends and of the way. -/
theorem RowSet.within_between {s o : TermPattern} {ways : Term → Term → RowSet}
    (hs : ∀ v ∈ s.var?.toList, v ∈ V) (hways : ∀ a b, (ways a b).Within V)
    (ho : ∀ v ∈ o.var?.toList, v ∈ V) : (RowSet.between s ways o).Within V :=
  .any fun a => .any fun b =>
    (TermPattern.within_taking hs a).mul ((hways a b).mul (TermPattern.within_taking ho b))

namespace Predicate

/-- A way binds variables of the predicates along it. -/
theorem within_walksAlong {items : List Predicate}
    (h : ∀ item ∈ items, ∀ a b, (item.walks G a b).Within V) (a b : Term) :
    (walksAlong G items a b).Within V := by
  induction items generalizing a with
  | nil => exact RowSet.within_only _
  | cons item rest ih =>
    obtain ⟨hitem, hrest⟩ := List.forall_mem_cons.1 h
    exact .any fun c => (hitem a c).mul (ih hrest c)

/-- A way binds variables of the predicate along it. -/
theorem within_walksByOne {items : List Predicate}
    (h : ∀ item ∈ items, ∀ a b, (item.walks G a b).Within V) (a b : Term) :
    (walksByOne G items a b).Within V := by
  induction items with
  | nil => exact RowSet.within_zero
  | cons item rest ih =>
    obtain ⟨hitem, hrest⟩ := List.forall_mem_cons.1 h
    exact (hitem a b).add (ih hrest)

/-- The variables of an item are variables of the path. -/
theorem mem_allVarsEach {items : List Predicate} {item : Predicate} (h : item ∈ items)
    {v : Variable} (hv : v ∈ item.allVars) : v ∈ allVarsEach items := by
  induction h with
  | head => exact List.mem_append_left _ hv
  | tail _ _ ih => exact List.mem_append_right _ ih

mutual

/-- Ways along a predicate bind its variables only. -/
theorem within_walks : (p : Predicate) → (∀ v ∈ p.allVars, v ∈ V) → (a b : Term) →
    (p.walks G a b).Within V
  | .plain _, h, _, _ => by
    rw [walks]
    exact .any fun q => (RowSet.within_only _).mul (TermPattern.within_taking h q)
  | .path .sequence items, h, a, b => by
    rw [walks]
    exact within_walksAlong (within_walksEach items h) a b
  | .path .alternative items, h, a, b => by
    rw [walks]
    exact within_walksByOne (within_walksEach items h) a b
  | .path .inverse [item], h, a, b => by
    rw [walks]
    exact within_walks item (fun v hv => h v (mem_allVarsEach List.mem_cons_self hv)) b a
  | .path .inverse [], _, _, _ => RowSet.within_zero
  | .path .inverse (_ :: _ :: _), _, _, _ => RowSet.within_zero
  | .path .negated _, _, _, _ => by
    rw [walks]
    exact RowSet.within_only _
  | .path (.other _) _, _, _, _ => RowSet.within_zero

/-- Ways along each of several predicates bind their variables only. -/
theorem within_walksEach : (items : List Predicate) → (∀ v ∈ allVarsEach items, v ∈ V) →
    ∀ item ∈ items, ∀ a b, (item.walks G a b).Within V
  | [], _ => fun _ h => absurd h List.not_mem_nil
  | item :: rest, h => List.forall_mem_cons.2
    ⟨within_walks item fun v hv => h v (List.mem_append_left _ hv),
      within_walksEach rest fun v hv => h v (List.mem_append_right _ hv)⟩

end

end Predicate

/-- The solutions of a triple pattern bind its variables only. -/
theorem TriplePattern.within_solutions {t : TriplePattern} (h : ∀ v ∈ t.allVars, v ∈ V) :
    (t.solutions G).Within V := by
  simp only [TriplePattern.allVars, List.mem_append] at h
  exact RowSet.within_between (fun v hv => h v (.inl (.inl hv)))
    (Predicate.within_walks t.predicate fun v hv => h v (.inl (.inr hv))) fun v hv => h v (.inr hv)

namespace Bgp

/-- No triple patterns are solved by the empty row. -/
@[simp] theorem solutions_nil : solutions G [] = 1 := rfl

/-- The solutions of the first triple pattern are joined with those of the others. -/
theorem solutions_cons (t : TriplePattern) (B : Bgp) :
    solutions G (t :: B) = t.solutions G * solutions G B := by
  simp [solutions]

/-- The solutions of two patterns together are the join of both. -/
theorem solutions_append (A B : Bgp) : solutions G (A ++ B) = solutions G A * solutions G B := by
  simp [solutions]

/-- The variables of the first triple pattern and those of the others. -/
theorem forall_mem_allVars_cons {t : TriplePattern} {B : Bgp} {p : Variable → Prop} :
    (∀ v ∈ allVars (t :: B), p v) ↔ (∀ v ∈ t.allVars, p v) ∧ ∀ v ∈ B.allVars, p v := by
  simp only [allVars, List.flatMap_cons, List.mem_append, or_imp, forall_and]

/-- The variables of two patterns. -/
theorem forall_mem_allVars_append {A B : Bgp} {p : Variable → Prop} :
    (∀ v ∈ allVars (A ++ B), p v) ↔ (∀ v ∈ A.allVars, p v) ∧ ∀ v ∈ B.allVars, p v := by
  simp only [allVars, List.flatMap_append, List.mem_append, or_imp, forall_and]

/-- The solutions of a basic graph pattern bind its variables only. -/
theorem within_solutions {B : Bgp} (h : ∀ v ∈ B.allVars, v ∈ V) : (B.solutions G).Within V := by
  induction B with
  | nil => exact RowSet.within_one
  | cons t B ih =>
    obtain ⟨ht, hB⟩ := forall_mem_allVars_cons.1 h
    rw [solutions_cons]
    exact (TriplePattern.within_solutions ht).mul (ih hB)

end Bgp

/-! ## Patterns without paths -/

namespace TermPattern

/-- The position stands for a term under a row. -/
def StandsFor (p : TermPattern) (r : Row) (t : Term) : Prop :=
  match p with
  | .variable v => r.get? v = some t
  | .term u => t = u

/-- What a position stands for depends on its variable only. -/
theorem standsFor_congr {p : TermPattern} {a b : Row} (h : Row.Agree {v | v ∈ p.var?.toList} a b)
    (t : Term) : p.StandsFor a t ↔ p.StandsFor b t := by
  match p with
  | .variable v =>
    have hv : a.get? v = b.get? v := h v (by simp [TermPattern.var?])
    simp only [StandsFor, hv]
  | .term u => rfl

/-- A position is bound to a term by the rows that bind its variable and under which it stands for
the term. -/
theorem taking_eq (p : TermPattern) (t : Term) :
    p.taking t = .exactly {v | v ∈ p.var?.toList} (p.StandsFor · t) := by
  refine RowSet.ext fun r => ?_
  match p with
  | .term u =>
    have hempty : r = .empty ↔ ∀ v, r.binds v = false := by
      refine ⟨fun h => h ▸ VariableMap.binds_empty, fun h => VariableMap.ext_get? fun v => ?_⟩
      exact VariableMap.binds_eq_false_iff.1 (h v)
    simp [taking, RowSet.exactly, StandsFor, TermPattern.var?, hempty, and_comm]
  | .variable v =>
    have hvar : ∀ w, w ∈ (TermPattern.variable v).var?.toList ↔ w = v := by
      simp [TermPattern.var?]
    simp only [taking_variable, RowSet.mem_single, RowSet.exactly, RowSet.mem_of, StandsFor,
      Set.mem_ofPred_eq, hvar]
    constructor
    · rintro rfl
      exact ⟨fun w => by simp [VariableMap.binds, VariableMap.get?_insert],
        by simp [VariableMap.get?_insert]⟩
    · rintro ⟨hbinds, hv⟩
      refine VariableMap.ext_get? fun w => ?_
      rw [VariableMap.get?_insert]
      split
      · next hw => rw [hw, hv]
      · next hw =>
        exact VariableMap.binds_eq_false_iff.1 (Bool.eq_false_iff.2 fun h => hw ((hbinds w).1 h))

end TermPattern

namespace TriplePattern

/-- The triple pattern is a triple of the graph under a row. -/
def HoldsIn (G : Set Triple) (r : Row) (t : TriplePattern) : Prop :=
  ∃ u ∈ G, t.subject.StandsFor r u.subject ∧ (∃ p ∈ t.predicate.plain?, p.StandsFor r u.predicate) ∧
    t.object.StandsFor r u.object

/-- Whether a triple pattern without path is a triple depends on its variables only. -/
theorem holdsIn_congr {t : TriplePattern} {a b : Row} (h : Row.Agree {v | v ∈ t.vars} a b) :
    t.HoldsIn G a ↔ t.HoldsIn G b := by
  obtain ⟨s, p, o⟩ := t
  have hs := fun u => TermPattern.standsFor_congr (p := s)
    (h.mono fun v hv => List.mem_append_left _ (List.mem_append_left _ hv)) u
  have ho := fun u => TermPattern.standsFor_congr (p := o)
    (h.mono fun v hv => List.mem_append_right _ hv) u
  match p with
  | .path kind items => simp [HoldsIn, Predicate.plain?]
  | .plain q =>
    have hq := fun u => TermPattern.standsFor_congr (p := q)
      (h.mono fun v hv => List.mem_append_left _ (List.mem_append_right _ hv)) u
    simp [HoldsIn, Predicate.plain?, hs, hq, ho]

/-- The solutions of a triple pattern without path are the rows that bind its variables and under
which it is a triple. -/
theorem solutions_eq {t : TriplePattern} (h : t.hasPath = false) :
    t.solutions G = .exactly {v | v ∈ t.vars} fun r => t.HoldsIn G r := by
  obtain ⟨s, p, o⟩ := t
  match p with
  | .path kind items => simp [hasPath, Predicate.isPath] at h
  | .plain q =>
    -- A triple of the set is chosen first, and then each position takes its term.
    have hways : solutions G ⟨s, .plain q, o⟩ = .any fun a => .any fun b => .any fun u =>
        .only (⟨a, u, b⟩ ∈ G) * (s.taking a * (q.taking u * o.taking b)) := by
      simp only [solutions, RowSet.between, Predicate.walks, RowSet.any_mul, RowSet.mul_any]
      refine RowSet.any_congr fun a => RowSet.any_congr fun b => RowSet.any_congr fun u => ?_
      ring
    have hvars : {v | v ∈ s.var?.toList} ∪ ({v | v ∈ q.var?.toList} ∪ {v | v ∈ o.var?.toList}) =
        {v | v ∈ vars ⟨s, .plain q, o⟩} := by
      ext v
      simp [vars, Predicate.plain?]
    have hterm : ∀ a b u, RowSet.only (⟨a, u, b⟩ ∈ G) * (s.taking a * (q.taking u * o.taking b)) =
        .exactly {v | v ∈ vars ⟨s, .plain q, o⟩} fun r =>
          ⟨a, u, b⟩ ∈ G ∧ s.StandsFor r a ∧ q.StandsFor r u ∧ o.StandsFor r b := by
      intro a b u
      rw [s.taking_eq, q.taking_eq, o.taking_eq,
        RowSet.exactly_mul (fun _ _ h => TermPattern.standsFor_congr h u)
          (fun _ _ h => TermPattern.standsFor_congr h b),
        RowSet.exactly_mul (fun _ _ h => TermPattern.standsFor_congr h a) (fun _ _ h => and_congr
          (TermPattern.standsFor_congr (h.mono Set.subset_union_left) u)
          (TermPattern.standsFor_congr (h.mono Set.subset_union_right) b)),
        hvars, RowSet.only_mul_exactly]
    rw [hways]
    simp only [hterm, RowSet.any_exactly]
    -- To choose a triple and to ask whether there is one come to the same.
    refine congrArg _ (funext fun r => propext ⟨?_, ?_⟩)
    · rintro ⟨a, b, u, hG, hs, hq, ho⟩
      exact ⟨_, hG, hs, ⟨q, rfl, hq⟩, ho⟩
    · rintro ⟨⟨a, u, b⟩, hG, hs, ⟨q', hq', hq⟩, ho⟩
      obtain rfl : q = q' := Option.some.inj hq'
      exact ⟨a, b, u, hG, hs, hq, ho⟩

end TriplePattern

namespace Bgp

/-- **Solutions of patterns without paths.** They are the rows that bind exactly the variables of
the pattern and under which all of its triple patterns are triples of the graph. -/
theorem mem_solutions_iff {B : Bgp} (hB : B.Plain) {r : Row} : r ∈ B.solutions G ↔
    (∀ v, r.binds v = true ↔ v ∈ B.vars) ∧ ∀ t ∈ B, t.HoldsIn G r := by
  have heq : B.solutions G = .exactly {v | v ∈ B.vars} fun r => ∀ t ∈ B, t.HoldsIn G r := by
    induction B with
    | nil =>
      refine RowSet.ext fun r => ⟨?_, fun hr => VariableMap.ext_get? fun v => ?_⟩
      · rintro rfl
        exact ⟨by simp [vars], by simp⟩
      · exact VariableMap.binds_eq_false_iff.1 (Bool.eq_false_iff.2 fun hv =>
          absurd ((hr.1 v).1 hv) List.not_mem_nil)
    | cons t B ih =>
      obtain ⟨ht, hB⟩ := List.forall_mem_cons.1 hB
      have hvars : {v | v ∈ t.vars} ∪ {v | v ∈ vars B} = {v | v ∈ vars (t :: B)} := by
        ext v
        simp [vars]
      have hlocal : ∀ a b, Row.Agree {v | v ∈ vars B} a b →
          ((∀ t ∈ B, t.HoldsIn G a) ↔ ∀ t ∈ B, t.HoldsIn G b) := fun a b h =>
        forall₂_congr fun t ht => TriplePattern.holdsIn_congr
          (h.mono fun v hv => List.mem_flatMap.2 ⟨t, ht, hv⟩)
      rw [solutions_cons, TriplePattern.solutions_eq ht, ih hB,
        RowSet.exactly_mul (fun _ _ h => TriplePattern.holdsIn_congr h) hlocal, hvars]
      simp only [List.forall_mem_cons]
  rw [heq]
  rfl

end Bgp

end PagedSparql
