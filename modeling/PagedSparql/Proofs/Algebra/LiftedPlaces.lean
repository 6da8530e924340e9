import PagedSparql.Proofs.Algebra.Places

/-!
# Places in lifted queries

Lifting puts variables in the place of aggregates and may put a grouping above a pattern. It changes
neither the basic graph patterns and the services of a query nor their places
(`Algebra.visits_of_lifts`, `Algebra.calls_lifts`).
-/

namespace PagedSparql.Algebra

open Lifting (lift liftAll close)

/-- The node is the other one lifted, with what was waiting in its grouping. -/
def Lifts (a a' : Algebra) : Prop := ∃ l, (lift a l).1 = a'

/-- The node is the other one lifted, with nothing waiting. -/
def LiftsAlone (a a' : Algebra) : Prop := ∃ n, (lift a ⟨[], n⟩).1 = a'

variable {a a' b b' c : Algebra} {place place' inside : Place} {patterns patterns' : List Algebra}
  {address : String}

/-- A node is lifted with nothing waiting. -/
theorem LiftsAlone.lifts (h : LiftsAlone a a') : Lifts a a' :=
  h.imp' (fun n => ⟨[], n⟩) fun _ h => h

/-- The parts of a pattern are lifted with nothing waiting. -/
theorem forall₂_liftAll (patterns : List Algebra) (n : Naming) :
    List.Forall₂ LiftsAlone patterns (liftAll patterns n).1 := by
  induction patterns generalizing n with
  | nil => exact .nil
  | cons a rest ih => exact .cons ⟨n, rfl⟩ (ih _)

/-- A node that modifies another one is lifted to one that modifies that one, lifted. -/
theorem Lifts.input (h : Lifts a a') (hinput : a.input? = some b) :
    ∃ b', a'.input? = some b' ∧ Lifts b b' := by
  obtain ⟨l, rfl⟩ := h
  cases a <;> simp [input?] at hinput <;> subst hinput <;> exact ⟨_, rfl, _, rfl⟩

/-- Any other node is lifted alone, and put below the grouping for what is waiting. -/
theorem lift_eq (hinput : a.input? = none) (l : Lifting.Lifter) :
    (lift a l).1 = Lifting.close (lift a ⟨[], l.naming⟩).1 l.waiting := by
  cases a with
  | groupBy _ _ _ => exact absurd hinput (by simp [input?])
  | having _ _ => exact absurd hinput (by simp [input?])
  | project _ _ => exact absurd hinput (by simp [input?])
  | orderBy _ _ => exact absurd hinput (by simp [input?])
  | distinct _ => exact absurd hinput (by simp [input?])
  | slice _ _ _ => exact absurd hinput (by simp [input?])
  | _ => rfl

/-- Such a node is lifted to itself lifted alone, or to a grouping above that. -/
theorem Lifts.alone (h : Lifts a a') (hinput : a.input? = none) :
    ∃ x, LiftsAlone a x ∧ (a' = x ∨ a'.input? = some x) := by
  obtain ⟨l, rfl⟩ := h
  refine ⟨(lift a ⟨[], l.naming⟩).1, ⟨_, rfl⟩, ?_⟩
  rw [lift_eq hinput l, Lifting.close]
  split
  · exact .inl rfl
  · exact .inr rfl

/-- A group is lifted alone to the group of its clauses, lifted alone, and no other node to a group.
-/
theorem LiftsAlone.group (h : LiftsAlone a a') (place : Place) :
    a.group? place = none ∧ a'.group? place = none ∨
      ∃ inside patterns patterns', a.group? place = some (inside, patterns) ∧
        a'.group? place = some (inside, patterns') ∧
        List.Forall₂ LiftsAlone patterns patterns' := by
  obtain ⟨n, rfl⟩ := h
  cases a with
  | join ps => exact .inr ⟨_, _, _, rfl, rfl, forall₂_liftAll ps n⟩
  | leftJoin ps => exact .inr ⟨_, _, _, rfl, rfl, forall₂_liftAll ps n⟩
  | service name silent ps =>
    have hservice : (lift (.service name silent ps) ⟨[], n⟩).1 =
        .service name silent (liftAll ps n).1 := rfl
    rw [hservice, group?, group?]
    split
    · exact .inr ⟨_, _, _, rfl, rfl, forall₂_liftAll ps n⟩
    · exact .inl ⟨rfl, rfl⟩
  | _ => exact .inl ⟨rfl, rfl⟩

/-- What is lifted alone to a union is the union of alternatives that are lifted to those. -/
theorem LiftsAlone.of_union (h : LiftsAlone a (.union patterns')) :
    ∃ patterns, a = .union patterns ∧ List.Forall₂ LiftsAlone patterns patterns' := by
  obtain ⟨n, hn⟩ := h
  cases a with
  | union ps =>
    obtain rfl := Algebra.union.inj hn
    exact ⟨ps, rfl, forall₂_liftAll ps n⟩
  | _ => exact nomatch hn

/-- What is lifted alone to a node that modifies another one does so as well. -/
theorem LiftsAlone.of_input (h : LiftsAlone a a') (hinput : a'.input? = some b') :
    ∃ b, a.input? = some b ∧ Lifts b b' := by
  obtain ⟨n, rfl⟩ := h
  cases a with
  | groupBy _ _ _ => exact ⟨_, rfl, _, Option.some.inj hinput⟩
  | having _ _ => exact ⟨_, rfl, _, Option.some.inj hinput⟩
  | project _ _ => exact ⟨_, rfl, _, Option.some.inj hinput⟩
  | orderBy _ _ => exact ⟨_, rfl, _, Option.some.inj hinput⟩
  | distinct _ => exact ⟨_, rfl, _, Option.some.inj hinput⟩
  | slice _ _ _ => exact ⟨_, rfl, _, Option.some.inj hinput⟩
  | _ => exact nomatch hinput

/-- A node that is lifted alone is of the same kind. -/
theorem LiftsAlone.alike (h : LiftsAlone a a') :
    Arrangeable.triples? a = Arrangeable.triples? a' ∧ Arrangeable.rank a = Arrangeable.rank a' ∧
      Plan.isSubquery a = Plan.isSubquery a' ∧
      ∀ inline, a = .values inline ↔ a' = .values inline := by
  obtain ⟨n, rfl⟩ := h
  cases a with
  | values _ => exact ⟨rfl, rfl, rfl, fun _ => .rfl⟩
  | _ => exact ⟨rfl, rfl, rfl, fun _ => ⟨nofun, nofun⟩⟩

/-- Planning comes to the same clauses of a lifted group, behind the same inline rows. -/
theorem Reached.of_forall₂ {as as' : List Algebra} (h : List.Forall₂ LiftsAlone as as') :
    (∀ rows b, Reached b rows as → ∃ b', Reached b' rows as' ∧ LiftsAlone b b') ∧
      ∀ rows b', Reached b' rows as' → ∃ b, Reached b rows as ∧ LiftsAlone b b' := by
  induction h with
  | nil => exact ⟨nofun, nofun⟩
  | @cons a a' rest rest' ha hrest ih =>
    -- Inline rows are lifted to themselves, so the same rows come down in both groups.
    obtain ⟨-, -, -, hinline⟩ := ha.alike
    constructor
    · intro rows b hb
      cases hb with
      | head => exact ⟨a', .head rest', ha⟩
      | tail hfirst hb =>
        obtain ⟨b', hb', hlifts⟩ := ih.1 rows b hb
        exact ⟨b', .tail (fun inline heq => hfirst inline ((hinline inline).2 heq)) hb', hlifts⟩
      | @inline _ _ inline _ hrow hb =>
        obtain rfl := (hinline inline).1 rfl
        obtain ⟨b', hb', hlifts⟩ := ih.1 _ b hb
        exact ⟨b', .inline hrow hb', hlifts⟩
    · intro rows b' hb'
      cases hb' with
      | head => exact ⟨a, .head rest, ha⟩
      | tail hfirst hb' =>
        obtain ⟨b, hb, hlifts⟩ := ih.2 rows b' hb'
        exact ⟨b, .tail (fun inline heq => hfirst inline ((hinline inline).1 heq)) hb, hlifts⟩
      | @inline _ _ inline _ hrow hb' =>
        obtain rfl := (hinline inline).2 rfl
        obtain ⟨b, hb, hlifts⟩ := ih.2 _ b' hb'
        exact ⟨b, .inline hrow hb, hlifts⟩

/-- Each item of a list has one that it is related to in the other list. -/
theorem exists_of_forall₂ {R : Algebra → Algebra → Prop} {as as' : List Algebra}
    (h : List.Forall₂ R as as') (hb : b ∈ as) : ∃ b' ∈ as', R b b' := by
  induction h with
  | nil => exact absurd hb (by simp)
  | @cons _ a' _ _ ha _ ih =>
    obtain rfl | hb := List.mem_cons.1 hb
    · exact ⟨a', List.mem_cons_self, ha⟩
    · obtain ⟨b', hb', hrelated⟩ := ih hb
      exact ⟨b', List.mem_cons_of_mem _ hb', hrelated⟩

/-- The clauses of a lifted group are arranged in the same manner. -/
theorem forall₂_arrange (h : List.Forall₂ LiftsAlone patterns patterns') :
    List.Forall₂ LiftsAlone (arrange patterns) (arrange patterns') :=
  Arrangement.forall₂_arrange (fun _ _ h => h.alike.1) (fun _ => ⟨⟨{}, []⟩, rfl⟩)
    (fun _ _ h => h.alike.2.1) h

/-- A clause that is lifted alone has the same place in its group. -/
theorem LiftsAlone.clause (h : LiftsAlone a a') (place : Place) (rows : List Row) :
    place.clause rows a = place.clause rows a' := by
  obtain ⟨htriples, -, hsubquery, -⟩ := h.alike
  rw [Place.clause, Place.clause, htriples, hsubquery]

/-- What is below a node that was lifted alone was below the node, at the same place. -/
theorem LiftsAlone.of_below (h : LiftsAlone a a') (hbelow : Below place a' place' b') :
    ∃ b, Below place a place' b ∧ Lifts b b' := by
  cases hbelow with
  | clause hgroup' hb' =>
    obtain ⟨-, hnone⟩ | ⟨inside, patterns, _, hgroup, heq, hpatterns⟩ := h.group place
    · exact absurd (hgroup'.symm.trans hnone) (by simp)
    · obtain ⟨rfl, rfl⟩ := Prod.mk.inj (Option.some.inj (heq.symm.trans hgroup'))
      obtain ⟨b, hb, hlifts⟩ := (Reached.of_forall₂ (forall₂_arrange hpatterns)).2 _ b' hb'
      rw [← hlifts.clause]
      exact ⟨b, .clause hgroup hb, hlifts.lifts⟩
  | branch hb' =>
    obtain ⟨patterns, rfl, hpatterns⟩ := h.of_union
    obtain ⟨b, hb, hlifts⟩ : ∃ b ∈ patterns, LiftsAlone b _ := exists_of_forall₂ hpatterns.flip hb'
    exact ⟨b, .branch hb, hlifts.lifts⟩
  | input hinput' =>
    obtain ⟨b, hinput, hlifts⟩ := h.of_input hinput'
    exact ⟨b, .input hinput, hlifts⟩

/-- What is below a lifted node was below the node, or is the node below a new grouping. -/
theorem Lifts.of_below (h : Lifts a a') (hbelow : Below place a' place' b') :
    place' = place ∧ Lifts a b' ∨ ∃ b, Below place a place' b ∧ Lifts b b' := by
  cases hinput : a.input? with
  | some b =>
    obtain ⟨c', hc', hlifts⟩ := h.input hinput
    obtain ⟨rfl, rfl⟩ := hbelow.of_input hc'
    exact .inr ⟨b, .input hinput, hlifts⟩
  | none =>
    obtain ⟨x, hx, rfl | hgrouping⟩ := h.alone hinput
    · exact .inr (hx.of_below hbelow)
    · obtain ⟨rfl, rfl⟩ := hbelow.of_input hgrouping
      exact .inl ⟨rfl, hx.lifts⟩

/-- What was below a node is below the node lifted alone, at the same place. -/
theorem LiftsAlone.below (h : LiftsAlone a a') (hbelow : Below place a place' b) :
    ∃ b', Below place a' place' b' ∧ Lifts b b' := by
  cases hbelow with
  | clause hgroup hb =>
    obtain ⟨hnone, -⟩ | ⟨inside, _, patterns', heq, hgroup', hpatterns⟩ := h.group place
    · exact absurd (hgroup.symm.trans hnone) (by simp)
    · obtain ⟨rfl, rfl⟩ := Prod.mk.inj (Option.some.inj (heq.symm.trans hgroup))
      obtain ⟨b', hb', hlifts⟩ := (Reached.of_forall₂ (forall₂_arrange hpatterns)).1 _ b hb
      rw [hlifts.clause]
      exact ⟨b', .clause hgroup' hb', hlifts.lifts⟩
  | @branch patterns _ hb =>
    obtain ⟨n, rfl⟩ := h
    obtain ⟨b', hb', hlifts⟩ := exists_of_forall₂ (forall₂_liftAll patterns n) hb
    exact ⟨b', .branch hb', hlifts.lifts⟩
  | input hinput =>
    obtain ⟨b', hinput', hlifts⟩ := h.lifts.input hinput
    exact ⟨b', .input hinput', hlifts⟩

/-- Planning comes to what was below a node, lifted. -/
theorem Lifts.below (h : Lifts a a') (hbelow : Below place a place' b) :
    ∃ b', Visits place a' place' b' ∧ Lifts b b' := by
  cases hinput : a.input? with
  | some c =>
    obtain ⟨rfl, rfl⟩ := hbelow.of_input hinput
    obtain ⟨b', hb', hlifts⟩ := h.input hinput
    exact ⟨b', .down (.input hb') (.self _ _), hlifts⟩
  | none =>
    obtain ⟨x, hx, hgrouping⟩ := h.alone hinput
    obtain ⟨b', hb', hlifts⟩ := hx.below hbelow
    have hvisits : Visits place x place' b' := .down hb' (.self _ _)
    obtain rfl | hgrouping := hgrouping
    · exact ⟨b', hvisits, hlifts⟩
    · exact ⟨b', .down (.input hgrouping) hvisits, hlifts⟩

/-- What planning a lifted node comes to was in the node, at the same place. -/
theorem Visits.of_lifts (hvisits : Visits place a' place' b') (h : Lifts a a') :
    ∃ b, Visits place a place' b ∧ Lifts b b' := by
  induction hvisits generalizing a with
  | self place a' => exact ⟨a, .self place a, h⟩
  | down hbelow _ ih =>
    obtain ⟨rfl, h'⟩ | ⟨c, hc, h'⟩ := h.of_below hbelow
    · exact ih h'
    · obtain ⟨b, hb, hlifts⟩ := ih h'
      exact ⟨b, .down hc hb, hlifts⟩

/-- Planning goes on. -/
theorem Visits.trans {place'' : Place} (h : Visits place a place' b)
    (h' : Visits place' b place'' c) : Visits place a place'' c := by
  induction h with
  | self => exact h'
  | down hbelow _ ih => exact .down hbelow (ih h')

/-- Planning a lifted node comes to what was in the node, at the same place. -/
theorem Visits.lifted (hvisits : Visits place a place' b) (h : Lifts a a') :
    ∃ b', Visits place a' place' b' ∧ Lifts b b' := by
  induction hvisits generalizing a' with
  | self place a => exact ⟨a', .self place a', h⟩
  | down hbelow _ ih =>
    obtain ⟨c', hc', h'⟩ := h.below hbelow
    obtain ⟨b', hb', hlifts⟩ := ih h'
    exact ⟨b', hc'.trans hb', hlifts⟩

/-- What is lifted to a basic graph pattern is that one. -/
theorem Lifts.of_bgp {B : List TriplePattern} (h : Lifts a (.bgp B)) : a = .bgp B := by
  cases hinput : a.input? with
  | some b =>
    obtain ⟨b', hb', -⟩ := h.input hinput
    exact nomatch hb'
  | none =>
    obtain ⟨x, hx, rfl | hgrouping⟩ := h.alone hinput
    · obtain ⟨htriples, -⟩ := hx.alike
      cases a with
      | bgp B' =>
        obtain rfl := Option.some.inj htriples
        rfl
      | _ => exact nomatch htriples
    · exact nomatch hgrouping

/-- What is lifted to a service is a service with the same name. -/
theorem Lifts.of_service {name : Term} {silent : Bool}
    (h : Lifts a (.service name silent patterns')) :
    ∃ patterns, a = .service name silent patterns := by
  cases hinput : a.input? with
  | some b =>
    obtain ⟨b', hb', -⟩ := h.input hinput
    exact nomatch hb'
  | none =>
    obtain ⟨x, ⟨n, hn⟩, rfl | hgrouping⟩ := h.alone hinput
    · cases a with
      | service name' silent' patterns =>
        obtain ⟨rfl, rfl, -⟩ := Algebra.service.inj hn
        exact ⟨patterns, rfl⟩
      | _ => exact nomatch hn
    · exact nomatch hgrouping

/-- **Lifting keeps basic graph patterns in their places.** -/
theorem visits_of_lifts {B : List TriplePattern} (h : Lifts a a')
    (hvisits : Visits place a' place' (.bgp B)) : Visits place a place' (.bgp B) := by
  obtain ⟨b, hb, hlifts⟩ := hvisits.of_lifts h
  rwa [hlifts.of_bgp] at hb

/-- **Lifting keeps services.** -/
theorem calls_lifts (h : Lifts a a') (address : String) : a'.Calls address ↔ a.Calls address := by
  constructor
  · rintro ⟨place, place', name, silent, patterns', hvisits, haddress⟩
    obtain ⟨b, hb, hlifts⟩ := hvisits.of_lifts h
    obtain ⟨patterns, rfl⟩ := hlifts.of_service
    exact ⟨place, place', name, silent, patterns, hb, haddress⟩
  · rintro ⟨place, place', name, silent, patterns, hvisits, haddress⟩
    obtain ⟨b', hb', hlifts⟩ := hvisits.lifted h
    obtain ⟨x, ⟨n, rfl⟩, hgrouping⟩ := hlifts.alone rfl
    -- The service is the node itself, or stands right below a grouping.
    have hservice : Visits place' b' place' (.service name silent (liftAll patterns n).1) := by
      obtain rfl | hgrouping := hgrouping
      · exact .self _ _
      · exact .down (.input hgrouping) (.self _ _)
    exact ⟨place, place', name, silent, _, hb'.trans hservice, haddress⟩

end PagedSparql.Algebra
