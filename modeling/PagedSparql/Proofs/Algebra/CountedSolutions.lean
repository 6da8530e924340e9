import Mathlib.Data.Finset.Insert
import PagedSparql.Eval.Evaluate
import PagedSparql.Proofs.Algebra.Solutions
import PagedSparql.Proofs.Plan.FreshNames
import PagedSparql.Proofs.Rdf.RowBag
import PagedSparql.Proofs.Rdf.Solutions

/-!
# Counted solutions of basic graph patterns

The solutions of basic graph patterns with paths as bags of rows. They are put together from the
solutions of patterns without paths, provided that these are solutions over some data: the pattern
of several triple patterns is their join, and a row may be put into a pattern or joined with its
solutions (`Solutions.Coherent`).

A step between two others ends at a variable that nobody sees. It is drawn from a source of fresh
variables and hidden again at once (`Predicate.bag`), so that it does not matter which source it is
(`Predicate.bag_congr`), nor how the ends are named (`Predicate.map_rename_bag`).

The solutions over a set of triples are of this kind (`Solutions.coherent_ofTriples`). As a set they
are what the pattern means over the triples (`Solutions.mem_ofTriples_iff`).
-/

namespace PagedSparql

open scoped RowBag

/-- The solutions are those of some data: patterns are joined, and joining a row comes to the same
as putting it into a pattern before. -/
structure Solutions.Coherent (S : Solutions) : Prop where
  /-- No triple patterns are fulfilled by the empty row. -/
  nil : S.of [] = 1
  /-- Two patterns together have the solutions that they have in common. -/
  append : ∀ A B : Bgp, A.Plain → B.Plain → S.of (A ++ B) = S.of A * S.of B
  /-- A row extends to the solutions that it is compatible with. -/
  substitute : ∀ (B : Bgp) (u : Row), B.Plain → {u} * S.of (B.substitute u) = {u} * S.of B

namespace Solutions

variable {S : Solutions}

/-- The extensions of a row are its join with the solutions. -/
theorem Coherent.extensions_eq (hS : S.Coherent) {B : Bgp} (hB : B.Plain) (u : Row) :
    S.extensions B u = {u} * S.of B := by
  rw [← hS.substitute B u hB, RowBag.singleton_mul]
  rfl

/-- Solutions bind the variables of their pattern. -/
theorem within_of (S : Solutions) {B : Bgp} (hB : B.Plain) {V : Set Variable}
    (hV : ∀ v ∈ B.vars, v ∈ V) : RowBag.Within (S.of B) V :=
  fun m hm v hv => hV v ((S.binds_iff B hB m hm v).1 hv)

end Solutions

namespace TermPattern

variable {V W : Set Variable} {p : TermPattern} {f g : Variable → Variable}

/-- The position has no other variables. -/
def In (p : TermPattern) (V : Set Variable) : Prop := ∀ v ∈ p.var?.toList, v ∈ V

/-- There may be more variables. -/
theorem In.mono (h : p.In V) (hVW : V ⊆ W) : p.In W := fun v hv => hVW (h v hv)

/-- A further variable. -/
theorem In.insert (h : p.In V) (v : Variable) : p.In (insert v V) := h.mono (Set.subset_insert v V)

/-- A position that is a variable. -/
theorem in_variable {v : Variable} (h : v ∈ V) : (TermPattern.variable v).In V := by
  intro w hw
  obtain rfl : w = v := by simpa [var?] using hw
  exact h

/-- The position with its variable renamed. -/
def rename (f : Variable → Variable) : TermPattern → TermPattern
  | .variable v => .variable (f v)
  | .term t => .term t

/-- A position whose variable keeps its name stays as it is. -/
theorem rename_eq (h : ∀ v ∈ p.var?.toList, f v = v) : p.rename f = p := by
  cases p with
  | term t => rfl
  | «variable» v => rw [rename, h v (by simp [var?])]

/-- Only the new name of its variable counts. -/
theorem rename_congr (h : ∀ v ∈ p.var?.toList, f v = g v) : p.rename f = p.rename g := by
  cases p with
  | term t => rfl
  | «variable» v => rw [rename, rename, h v (by simp [var?])]

end TermPattern

namespace Bgp

/-- A triple pattern without a path. -/
theorem plain_single (s p o : TermPattern) : Plain [⟨s, .plain p, o⟩] := by
  simp [Plain, TriplePattern.hasPath, Predicate.isPath]

/-- The variables of a triple pattern without a path. -/
theorem mem_vars_single {s p o : TermPattern} {v : Variable} : v ∈ vars [⟨s, .plain p, o⟩] ↔
    v ∈ s.var?.toList ∨ v ∈ p.var?.toList ∨ v ∈ o.var?.toList := by
  simp [vars, TriplePattern.vars, Predicate.plain?]

/-- A triple pattern without a path under new names. -/
theorem rename_single (f : Variable → Variable) (s p o : TermPattern) :
    rename f [⟨s, .plain p, o⟩] = [⟨s.rename f, .plain (p.rename f), o.rename f⟩] := by
  cases s <;> cases p <;> cases o <;> rfl

end Bgp

/-- A row under the names that it has. -/
theorem Row.rename_id (r : Row) : r.rename id = r := by
  refine VariableMap.ext_get? fun v => Option.ext fun t => ?_
  rw [Row.get?_rename_iff (Set.injOn_id _)]
  simp

/-! ## New names -/

/-- The variables of a set get new names that keep them apart, and there are two sources of fresh
variables, one that avoids the old names and one that avoids the new ones. -/
structure Renames (f : Variable → Variable) (V : Set Variable) (names names' : Names) : Prop where
  /-- Variables are kept apart. -/
  injOn : Set.InjOn f V
  /-- The first source avoids the old names. -/
  avoids : names.Avoids V
  /-- The second source avoids the new names. -/
  avoids' : names'.Avoids (f '' V)

/-- The new names, where the next variable of the one source is that of the other. -/
noncomputable def Names.link (f : Variable → Variable) (names names' : Names) :
    Variable → Variable :=
  open Classical in Function.update f names.fresh.1 names'.fresh.1

namespace Renames

variable {f : Variable → Variable} {V : Set Variable} {names names' : Names} {r : Row}

/-- The next variable gets its new name. -/
theorem link_fresh (f : Variable → Variable) (names names' : Names) :
    Names.link f names names' names.fresh.1 = names'.fresh.1 := Function.update_self _ _ _

/-- The other variables keep theirs. -/
theorem link_of_mem (h : Renames f V names names') {v : Variable} (hv : v ∈ V) :
    Names.link f names names' v = f v := by
  have hne : v ≠ names.fresh.1 := fun heq => h.avoids.not_mem (heq ▸ hv)
  exact Function.update_of_ne hne _ _

/-- A position without the next variable. -/
theorem rename_link (h : Renames f V names names') {p : TermPattern} (hp : p.In V) :
    p.rename (Names.link f names names') = p.rename f :=
  TermPattern.rename_congr fun v hv => h.link_of_mem (hp v hv)

/-- The next variable may be among the variables. -/
theorem link (h : Renames f V names names') : Renames (Names.link f names names')
    (insert names.fresh.1 V) names.fresh.2 names'.fresh.2 where
  injOn := by
    have himage : Set.EqOn (Names.link f names names') f V := fun v hv => h.link_of_mem hv
    refine (Set.injOn_insert h.avoids.not_mem).2 ⟨(Set.EqOn.injOn_iff himage).2 h.injOn, ?_⟩
    rw [link_fresh, himage.image_eq]
    exact h.avoids'.not_mem
  avoids := h.avoids.fresh
  avoids' := by
    refine h.avoids'.fresh.mono ?_
    rintro _ ⟨v, rfl | hv, rfl⟩
    · exact .inl (link_fresh f names names')
    · exact .inr ⟨v, hv, (h.link_of_mem hv).symm⟩

/-- The next variable may be hidden before or after the others are renamed. -/
theorem hide_rename (h : Renames f V names names')
    (hr : ∀ v, r.binds v = true → v ∈ insert names.fresh.1 V) :
    (r.rename (Names.link f names names')).hide {names'.fresh.1} =
      (r.hide {names.fresh.1}).rename f := by
  have hleft : ∀ v, (r.hide {names.fresh.1}).binds v = true → v ∈ V := fun v hv =>
    (hr v (Row.binds_hide_iff.1 hv).2).resolve_left (Row.binds_hide_iff.1 hv).1
  refine VariableMap.ext_get? fun w => Option.ext fun t => ?_
  rw [Row.get?_hide_eq_some_iff, Row.get?_rename_iff (h.link.injOn.mono hr),
    Row.get?_rename_iff (h.injOn.mono hleft)]
  constructor
  · rintro ⟨hw, v, rfl, ht⟩
    have hv : v ≠ names.fresh.1 := fun heq => hw (heq ▸ link_fresh f names names')
    have hV := (hr v (VariableMap.binds_iff.2 ⟨t, ht⟩)).resolve_left hv
    exact ⟨v, (h.link_of_mem hV).symm, Row.get?_hide_eq_some_iff.2 ⟨hv, ht⟩⟩
  · rintro ⟨v, rfl, ht⟩
    have hV := hleft v (VariableMap.binds_iff.2 ⟨t, ht⟩)
    refine ⟨fun heq => h.avoids'.not_mem ?_, v, h.link_of_mem hV,
      (Row.get?_hide_eq_some_iff.1 ht).2⟩
    exact (Set.mem_singleton_iff.1 heq) ▸ ⟨v, hV, rfl⟩

/-- The same for the rows of a bag. -/
theorem map_hide_rename (h : Renames f V names names') {A : Multiset Row}
    (hA : RowBag.Within A (insert names.fresh.1 V)) :
    (A.map (Row.rename (Names.link f names names'))).map (Row.hide {names'.fresh.1}) =
      (A.map (Row.hide {names.fresh.1})).map (Row.rename f) := by
  rw [Multiset.map_map, Multiset.map_map]
  exact Multiset.map_congr rfl fun r hr => h.hide_rename (hA r hr)

end Renames

namespace Predicate

/-- The term is none of the members of a negated set: it is compared with each of them and differs.
-/
def Excludes (items : List Predicate) (t : Term) : Prop :=
  ∀ item ∈ items, ∃ c, item = .plain (.term c) ∧ Value.equals t c = .ok false

/-- The variable is bound to a term that is none of the members of a negated set. -/
def Passes (v : Variable) (items : List Predicate) (r : Row) : Prop :=
  ∃ t, r.get? v = some t ∧ Excludes items t

noncomputable instance (v : Variable) (items : List Predicate) :
    DecidablePred (Passes v items) := Classical.decPred _

mutual

/-- The solutions of a triple pattern with a predicate; the source of fresh variables has the ends
of the steps inside. -/
noncomputable def bag (S : Solutions) : Predicate → Names → TermPattern → TermPattern → Multiset Row
  | .plain p, _, subject, object => S.of [⟨subject, .plain p, object⟩]
  | .path .sequence items, names, subject, object => bagAlong S items names subject object
  | .path .alternative items, names, subject, object => bagByOne S items names subject object
  | .path .inverse [item], names, subject, object => bag S item names object subject
  | .path .negated items, names, subject, object =>
    ((S.of [⟨subject, .plain (.variable names.fresh.1), object⟩]).filter
      (Passes names.fresh.1 items)).map (Row.hide {names.fresh.1})
  | .path _ _, _, _, _ => 0

/-- The solutions for several predicates, one after the other. -/
noncomputable def bagAlong (S : Solutions) :
    List Predicate → Names → TermPattern → TermPattern → Multiset Row
  | [], _, _, _ => 1
  | item :: rest, names, subject, object =>
    match rest with
    | [] => bag S item names subject object
    | _ :: _ =>
      (bag S item names.fresh.2 subject (.variable names.fresh.1) *
        bagAlong S rest names.fresh.2 (.variable names.fresh.1) object).map
          (Row.hide {names.fresh.1})

/-- The solutions for one of several predicates. -/
noncomputable def bagByOne (S : Solutions) :
    List Predicate → Names → TermPattern → TermPattern → Multiset Row
  | [], _, _, _ => 0
  | item :: rest, names, subject, object =>
    bag S item names subject object + bagByOne S rest names subject object

end

variable {S : Solutions}

mutual

/-- Solutions bind the variables of the ends and of the predicate. -/
theorem within_bag (p : Predicate) {names : Names} {subject object : TermPattern}
    {V : Set Variable} (hs : subject.In V) (ho : object.In V) (hp : ∀ v ∈ p.allVars, v ∈ V) :
    RowBag.Within (p.bag S names subject object) V := by
  match p, hp with
  | .plain p, hp =>
    exact S.within_of (Bgp.plain_single _ _ _) fun v hv =>
      (Bgp.mem_vars_single.1 hv).elim (hs v) (·.elim (hp v) (ho v))
  | .path .sequence items, hp => exact within_bagAlong items hs ho hp
  | .path .alternative items, hp => exact within_bagByOne items hs ho hp
  | .path .inverse [], _ => exact fun _ hr => absurd hr (Multiset.notMem_zero _)
  | .path .inverse [item], hp =>
    exact within_bag item ho hs fun v hv => hp v (List.mem_append_left _ hv)
  | .path .inverse (_ :: _ :: _), _ => exact fun _ hr => absurd hr (Multiset.notMem_zero _)
  | .path .negated items, _ =>
    have hedge : RowBag.Within
        (S.of [⟨subject, .plain (.variable names.fresh.1), object⟩]) (insert names.fresh.1 V) :=
      S.within_of (Bgp.plain_single _ _ _) fun v hv => (Bgp.mem_vars_single.1 hv).elim
        (hs.insert _ v) (·.elim (TermPattern.in_variable (.inl rfl) v) (ho.insert _ v))
    rw [bag]
    refine (RowBag.Within.hide (fun r hr => hedge r (Multiset.mem_of_mem_filter hr)) _).mono ?_
    exact fun v hv => hv.1.resolve_left hv.2
  | .path (.other _) _, _ => exact fun _ hr => absurd hr (Multiset.notMem_zero _)

/-- Solutions for several predicates bind the variables of the ends and of the predicates. -/
theorem within_bagAlong (items : List Predicate) {names : Names} {subject object : TermPattern}
    {V : Set Variable} (hs : subject.In V) (ho : object.In V)
    (hp : ∀ v ∈ allVarsEach items, v ∈ V) :
    RowBag.Within (bagAlong S items names subject object) V := by
  match items, hp with
  | [], _ => exact RowBag.within_one
  | [item], hp => exact within_bag item hs ho fun v hv => hp v (List.mem_append_left _ hv)
  | item :: next :: rest, hp =>
    obtain ⟨hitem, hrest⟩ := List.forall_mem_append.1 hp
    have hlink : (TermPattern.variable names.fresh.1).In (insert names.fresh.1 V) :=
      TermPattern.in_variable (.inl rfl)
    have hfirst := @within_bag item names.fresh.2 _ _ _ (hs.insert _) hlink
      fun v hv => .inr (hitem v hv)
    have hothers := @within_bagAlong (next :: rest) names.fresh.2 _ _ _ hlink (ho.insert _)
      fun v hv => .inr (hrest v hv)
    rw [bagAlong]
    exact ((hfirst.mul hothers).hide _).mono fun v hv => hv.1.resolve_left hv.2

/-- Solutions for one of several predicates bind the variables of the ends and of the predicates. -/
theorem within_bagByOne (items : List Predicate) {names : Names} {subject object : TermPattern}
    {V : Set Variable} (hs : subject.In V) (ho : object.In V)
    (hp : ∀ v ∈ allVarsEach items, v ∈ V) :
    RowBag.Within (bagByOne S items names subject object) V := by
  match items, hp with
  | [], _ => exact fun _ hr => absurd hr (Multiset.notMem_zero _)
  | item :: rest, hp =>
    obtain ⟨hitem, hrest⟩ := List.forall_mem_append.1 hp
    exact (within_bag item hs ho hitem).add (within_bagByOne rest hs ho hrest)

end

/-- A negated set is about the term of its variable, whatever the name. -/
theorem passes_rename_iff {f : Variable → Variable} {r : Row} {v : Variable} {V : Set Variable}
    (hf : Set.InjOn f V) (hr : ∀ w, r.binds w = true → w ∈ V) (hv : v ∈ V)
    {items : List Predicate} : Passes (f v) items (r.rename f) ↔ Passes v items r := by
  unfold Passes
  refine exists_congr fun t => and_congr_left fun _ => ?_
  rw [Row.get?_rename_iff (hf.mono hr)]
  constructor
  · rintro ⟨w, hw, ht⟩
    exact hf (hr w (VariableMap.binds_iff.2 ⟨t, ht⟩)) hv hw ▸ ht
  · exact fun ht => ⟨v, rfl, ht⟩

mutual

/-- The ends of a pattern may have other names, and its inner links may come from another source. -/
theorem map_rename_bag (p : Predicate) {f : Variable → Variable} {V : Set Variable}
    {names names' : Names} {subject object : TermPattern} (h : Renames f V names names')
    (hs : subject.In V) (ho : object.In V) (hp : ∀ v ∈ p.allVars, v ∈ V ∧ f v = v) :
    (p.bag S names subject object).map (Row.rename f) =
      p.bag S names' (subject.rename f) (object.rename f) := by
  match p, hp with
  | .plain p, hp =>
    have hvars : {v | v ∈ Bgp.vars [⟨subject, .plain p, object⟩]} ⊆ V := fun v hv =>
      (Bgp.mem_vars_single.1 hv).elim (hs v) (·.elim (fun hv => (hp v hv).1) (ho v))
    rw [bag, bag, ← S.of_rename _ f (Bgp.plain_single _ _ _) (h.injOn.mono hvars),
      Bgp.rename_single, TermPattern.rename_eq fun v hv => (hp v hv).2]
  | .path .sequence items, hp => exact map_rename_bagAlong items h hs ho hp
  | .path .alternative items, hp => exact map_rename_bagByOne items h hs ho hp
  | .path .inverse [], _ => rfl
  | .path .inverse [item], hp =>
    exact map_rename_bag item h ho hs fun v hv => hp v (List.mem_append_left _ hv)
  | .path .inverse (_ :: _ :: _), _ => rfl
  | .path .negated items, _ =>
    -- The edge of a negated set has a fresh variable as its predicate, which is renamed to that of
    -- the other source.
    have hvars : {v | v ∈ Bgp.vars [⟨subject, .plain (.variable names.fresh.1), object⟩]} ⊆
        insert names.fresh.1 V := fun v hv => (Bgp.mem_vars_single.1 hv).elim
      (hs.insert _ v) (·.elim (TermPattern.in_variable (.inl rfl) v) (ho.insert _ v))
    have hedge := S.within_of (Bgp.plain_single subject (.variable names.fresh.1) object) hvars
    rw [bag, bag, ← h.map_hide_rename fun r hr => hedge r (Multiset.mem_of_mem_filter hr),
      ← h.rename_link hs, ← h.rename_link ho, ← Renames.link_fresh f names names']
    have hnamed := S.of_rename _ _ (Bgp.plain_single subject (.variable names.fresh.1) object)
      (h.link.injOn.mono hvars)
    rw [Bgp.rename_single] at hnamed
    refine congrArg _ (Eq.trans ?_ (congrArg _ hnamed.symm))
    rw [Multiset.filter_map]
    -- The two variables have the same term, so the same rows pass.
    refine congrArg _ (Multiset.filter_congr fun r hr => ?_)
    exact (passes_rename_iff h.link.injOn (hedge r hr) (.inl rfl)).symm
  | .path (.other _) _, _ => rfl

/-- The ends of several patterns in a row may have other names. -/
theorem map_rename_bagAlong (items : List Predicate) {f : Variable → Variable} {V : Set Variable}
    {names names' : Names} {subject object : TermPattern} (h : Renames f V names names')
    (hs : subject.In V) (ho : object.In V) (hp : ∀ v ∈ allVarsEach items, v ∈ V ∧ f v = v) :
    (bagAlong S items names subject object).map (Row.rename f) =
      bagAlong S items names' (subject.rename f) (object.rename f) := by
  match items, hp with
  | [], _ => rfl
  | [item], hp => exact map_rename_bag item h hs ho fun v hv => hp v (List.mem_append_left _ hv)
  | item :: next :: rest, hp =>
    obtain ⟨hitem, hrest⟩ := List.forall_mem_append.1 hp
    have hkeep : ∀ {v : Variable}, v ∈ V ∧ f v = v →
        v ∈ insert names.fresh.1 V ∧ Names.link f names names' v = v := fun hv =>
      ⟨.inr hv.1, (h.link_of_mem hv.1).trans hv.2⟩
    have hlink : (TermPattern.variable names.fresh.1).In (insert names.fresh.1 V) :=
      TermPattern.in_variable (.inl rfl)
    have hA := @within_bag S item names.fresh.2 _ _ _ (hs.insert names.fresh.1) hlink
      fun v hv => (hkeep (hitem v hv)).1
    have hB := @within_bagAlong S (next :: rest) names.fresh.2 _ _ _ hlink
      (ho.insert names.fresh.1) fun v hv => (hkeep (hrest v hv)).1
    have hfirst := map_rename_bag item h.link (hs.insert _) hlink fun v hv => hkeep (hitem v hv)
    have hothers := map_rename_bagAlong (next :: rest) h.link hlink (ho.insert _)
      fun v hv => hkeep (hrest v hv)
    rw [TermPattern.rename, Renames.link_fresh] at hfirst hothers
    rw [h.rename_link hs] at hfirst
    rw [h.rename_link ho] at hothers
    rw [bagAlong, bagAlong, ← h.map_hide_rename (hA.mul hB),
      RowBag.map_rename_mul h.link.injOn hA hB, hfirst, hothers]

/-- The ends of one of several patterns may have other names. -/
theorem map_rename_bagByOne (items : List Predicate) {f : Variable → Variable} {V : Set Variable}
    {names names' : Names} {subject object : TermPattern} (h : Renames f V names names')
    (hs : subject.In V) (ho : object.In V) (hp : ∀ v ∈ allVarsEach items, v ∈ V ∧ f v = v) :
    (bagByOne S items names subject object).map (Row.rename f) =
      bagByOne S items names' (subject.rename f) (object.rename f) := by
  match items, hp with
  | [], _ => rfl
  | item :: rest, hp =>
    obtain ⟨hitem, hrest⟩ := List.forall_mem_append.1 hp
    rw [bagByOne, bagByOne, Multiset.map_add, map_rename_bag item h hs ho hitem,
      map_rename_bagByOne rest h hs ho hrest]

end

/-- It does not matter which source the inner links come from. -/
theorem bag_congr (p : Predicate) {V : Set Variable} {names names' : Names}
    {subject object : TermPattern} (hn : names.Avoids V) (hn' : names'.Avoids V)
    (hs : subject.In V) (ho : object.In V) (hp : ∀ v ∈ p.allVars, v ∈ V) :
    p.bag S names subject object = p.bag S names' subject object := by
  have h : Renames id V names names' := ⟨Set.injOn_id V, hn, by rwa [Set.image_id]⟩
  have hrename := map_rename_bag (S := S) p h hs ho fun v hv => ⟨hp v hv, rfl⟩
  have hid : ∀ q : TermPattern, q.rename id = q := fun q => TermPattern.rename_eq fun _ _ => rfl
  rwa [hid, hid, Multiset.map_congr rfl fun r _ => Row.rename_id r, Multiset.map_id'] at hrename

mutual

/-- A row that is joined may be put into the ends before. -/
theorem singleton_mul_bag (hS : S.Coherent) (p : Predicate) {names : Names} {u : Row}
    {s s' o o' : TermPattern} (hu : names.Avoids {v | u.binds v = true})
    (hs : u.substitute s' = u.substitute s) (ho : u.substitute o' = u.substitute o) :
    {u} * p.bag S names s' o' = {u} * p.bag S names s o := by
  have hplain : ∀ q, {u} * S.of [⟨s', .plain q, o'⟩] = {u} * S.of [⟨s, .plain q, o⟩] := by
    intro q
    rw [← hS.substitute _ u (Bgp.plain_single _ _ _), ← hS.substitute _ u (Bgp.plain_single s q o)]
    simp only [Bgp.substitute, TriplePattern.substitute, TriplePattern.mapPlain, List.map_cons,
      hs, ho]
  match p with
  | .plain q => exact hplain q
  | .path .sequence items => exact singleton_mul_bagAlong hS items hu hs ho
  | .path .alternative items => exact singleton_mul_bagByOne hS items hu hs ho
  | .path .inverse [] => rfl
  | .path .inverse [item] => exact singleton_mul_bag hS item hu ho hs
  | .path .inverse (_ :: _ :: _) => rfl
  | .path .negated items =>
    -- The row does not bind the fresh variable, so it has no say in which edges pass.
    have hfree : ∀ v, u.binds v = true → v ∉ ({names.fresh.1} : Set Variable) :=
      fun v hv heq => hu.not_mem (show u.binds names.fresh.1 = true from heq ▸ hv)
    have hpasses : ∀ M : Multiset Row, {u} * M.filter (Passes names.fresh.1 items) =
        ({u} * M).filter (Passes names.fresh.1 items) := by
      intro M
      refine (RowBag.filter_mul fun a ha b _ r hr => ?_).symm
      have hget : r.get? names.fresh.1 = b.get? names.fresh.1 := by
        rw [Multiset.mem_singleton.1 ha] at hr
        have hnone : u.get? names.fresh.1 = none :=
          VariableMap.binds_eq_false_iff.1 (Bool.eq_false_iff.2 fun h => hfree _ h rfl)
        rw [Row.get?_of_merge hr, hnone, Option.or_none]
      rw [Passes, Passes, hget]
    rw [bag, bag, RowBag.singleton_mul_map_hide hfree, RowBag.singleton_mul_map_hide hfree,
      hpasses, hpasses, hplain]
  | .path (.other _) _ => rfl

/-- A row that is joined may be put into the ends of several patterns in a row before. -/
theorem singleton_mul_bagAlong (hS : S.Coherent) (items : List Predicate) {names : Names} {u : Row}
    {s s' o o' : TermPattern} (hu : names.Avoids {v | u.binds v = true})
    (hs : u.substitute s' = u.substitute s) (ho : u.substitute o' = u.substitute o) :
    {u} * bagAlong S items names s' o' = {u} * bagAlong S items names s o := by
  match items with
  | [] => rfl
  | [item] => exact singleton_mul_bag hS item hu hs ho
  | item :: next :: rest =>
    have hfree : ∀ v, u.binds v = true → v ∉ ({names.fresh.1} : Set Variable) :=
      fun v hv heq => hu.not_mem (show u.binds names.fresh.1 = true from heq ▸ hv)
    have hu' : names.fresh.2.Avoids {v | u.binds v = true} := hu.after 1
    rw [bagAlong, bagAlong, RowBag.singleton_mul_map_hide hfree,
      RowBag.singleton_mul_map_hide hfree]
    refine congrArg _ ?_
    have hfirst := singleton_mul_bag hS item hu' hs
      (rfl : u.substitute (.variable names.fresh.1) = _)
    have hothers := singleton_mul_bagAlong hS (next :: rest) hu'
      (rfl : u.substitute (.variable names.fresh.1) = _) ho
    rw [← mul_assoc, ← mul_assoc, hfirst, mul_right_comm, mul_right_comm _ (bag _ _ _ _ _), hothers]

/-- A row that is joined may be put into the ends of one of several patterns before. -/
theorem singleton_mul_bagByOne (hS : S.Coherent) (items : List Predicate) {names : Names} {u : Row}
    {s s' o o' : TermPattern} (hu : names.Avoids {v | u.binds v = true})
    (hs : u.substitute s' = u.substitute s) (ho : u.substitute o' = u.substitute o) :
    {u} * bagByOne S items names s' o' = {u} * bagByOne S items names s o := by
  match items with
  | [] => rfl
  | item :: rest =>
    rw [bagByOne, bagByOne, mul_add, mul_add, singleton_mul_bag hS item hu hs ho,
      singleton_mul_bagByOne hS rest hu hs ho]

end

end Predicate

/-! ## Solutions over triples -/

/-- A join of bags has the rows of the join of the sets of their rows. -/
theorem RowBag.mem_mul_iff {A B : Multiset Row} {A' B' : RowSet} (hA : ∀ r, r ∈ A ↔ r ∈ A')
    (hB : ∀ r, r ∈ B ↔ r ∈ B') {r : Row} : r ∈ A * B ↔ r ∈ A' * B' := by
  rw [RowBag.mem_mul]
  simp only [hA, hB]
  rfl

namespace TermPattern

/-- The row that binds a position to a term, if it may be bound to it. -/
def matching (p : TermPattern) (t : Term) : Multiset Row :=
  match p with
  | .variable v => {VariableMap.empty.insert v t}
  | .term u => if t = u then 1 else 0

variable {p : TermPattern} {t : Term} {r u : Row}

/-- The variable of the position is bound. -/
theorem over_matching (p : TermPattern) (t : Term) :
    RowBag.Over (p.matching t) {v | v ∈ p.var?.toList} := by
  intro r hr v
  cases p with
  | «variable» w =>
    rw [Multiset.mem_singleton.1 hr]
    by_cases hv : v = w <;> simp [VariableMap.binds, VariableMap.get?_insert, var?, hv]
  | term u =>
    rw [matching] at hr
    split at hr
    · rw [Multiset.mem_singleton.1 hr]
      simp [var?]
    · exact absurd hr (Multiset.notMem_zero r)

/-- The variable may have another name. -/
theorem map_rename_matching (p : TermPattern) (f : Variable → Variable) (t : Term) :
    (p.matching t).map (Row.rename f) = (p.rename f).matching t := by
  cases p with
  | «variable» w => rfl
  | term u =>
    rw [matching, rename, matching]
    split <;> rfl

/-- A row that is joined may be put into the position before. -/
theorem singleton_mul_matching (u : Row) (p : TermPattern) (t : Term) :
    {u} * (u.substitute p).matching t = {u} * p.matching t := by
  cases p with
  | term a => rfl
  | «variable» w =>
    cases hw : u.get? w with
    | none => rw [Row.substitute, hw]
    | some a =>
      have hsub : u.substitute (.variable w) = .term a := by rw [Row.substitute, hw]
      rw [hsub, matching, matching]
      split
      · next heq =>
        -- The row binds the variable to this very term.
        have hext : u.Extends (VariableMap.empty.insert w t) := by
          intro v b hv
          rw [VariableMap.get?_insert] at hv
          split at hv
          · next h => rw [h, hw, ← heq, Option.some.inj hv]
          · exact absurd hv (by simp)
        rw [mul_one, mul_comm, RowBag.singleton_mul_of_extends]
        simpa using hext
      · next hne =>
        have hnone : Row.merge u (VariableMap.empty.insert w t) = none := by
          rw [← Option.not_isSome_iff_eq_none, Row.isSome_merge, Bool.not_eq_true,
            Row.compatible_eq_false_iff]
          exact ⟨w, a, t, hw, by simp [VariableMap.get?_insert], Ne.symm hne⟩
        rw [mul_zero, RowBag.singleton_mul, Multiset.filterMap_eq_bind,
          Multiset.singleton_bind, hnone]
        rfl

/-- The rows are those that take the term. -/
theorem mem_matching (r : Row) : r ∈ p.matching t ↔ r ∈ p.taking t := by
  cases p with
  | «variable» w => simp [matching, taking]
  | term a =>
    rw [matching, taking, RowSet.mem_only]
    split
    · next h => exact Multiset.mem_singleton.trans (by simp [h])
    · next h => simp [h]

end TermPattern

namespace TriplePattern

/-- The row under which a triple pattern is a triple, if there is one. -/
def matching (t : TriplePattern) (g : Triple) : Multiset Row :=
  match t.predicate with
  | .plain p =>
    t.subject.matching g.subject * (p.matching g.predicate * t.object.matching g.object)
  | .path _ _ => 0

/-- The variables of the pattern are bound. -/
theorem over_matching (t : TriplePattern) (g : Triple) :
    RowBag.Over (t.matching g) {v | v ∈ t.vars} := by
  obtain ⟨s, p, o⟩ := t
  cases p with
  | path kind items => exact fun r hr => absurd hr (Multiset.notMem_zero r)
  | plain p =>
    have hvars : {v | v ∈ s.var?.toList} ∪ ({v | v ∈ p.var?.toList} ∪ {v | v ∈ o.var?.toList}) =
        {v | v ∈ vars ⟨s, .plain p, o⟩} := by
      ext v
      simp [vars, Predicate.plain?]
    exact hvars ▸ (s.over_matching _).mul ((p.over_matching _).mul (o.over_matching _))

/-- Variables may have other names that keep them apart. -/
theorem map_rename_matching {t : TriplePattern} {f : Variable → Variable} {V : Set Variable}
    (hf : Set.InjOn f V) (hV : ∀ v ∈ t.vars, v ∈ V) (g : Triple) :
    (t.matching g).map (Row.rename f) = (t.rename f).matching g := by
  obtain ⟨s, p, o⟩ := t
  cases p with
  | path kind items => rfl
  | plain p =>
    -- Names that keep the variables of the pattern apart keep those of its positions apart.
    have hover : ∀ (q : TermPattern) (a : Term), (∀ v ∈ q.var?.toList, v ∈ vars ⟨s, .plain p, o⟩) →
        RowBag.Within (q.matching a) V :=
      fun q a hq => (q.over_matching a).within.mono fun v hv => hV v (hq v hv)
    have hs := hover s g.subject (by simp [vars]; tauto)
    have hp := hover p g.predicate (by simp [vars, Predicate.plain?]; tauto)
    have ho := hover o g.object (by simp [vars]; tauto)
    have hrename : rename f ⟨s, .plain p, o⟩ = ⟨s.rename f, .plain (p.rename f), o.rename f⟩ :=
      List.singleton_inj.1 (Bgp.rename_single f s p o)
    rw [hrename]
    simp only [matching]
    rw [RowBag.map_rename_mul hf hs (hp.mul ho), RowBag.map_rename_mul hf hp ho,
      s.map_rename_matching, p.map_rename_matching, o.map_rename_matching]

/-- A row that is joined may be put into the pattern before. -/
theorem singleton_mul_matching (u : Row) (t : TriplePattern) (g : Triple) :
    {u} * (t.substitute u).matching g = {u} * t.matching g := by
  obtain ⟨s, p, o⟩ := t
  cases p with
  | path kind items => rfl
  | plain p =>
    simp only [substitute, mapPlain, matching, RowBag.singleton_mul_mul,
      TermPattern.singleton_mul_matching]

/-- The rows are the solutions of the pattern over the triple. -/
theorem mem_matching {G : Finset Triple} {t : TriplePattern} (h : t.hasPath = false) (r : Row) :
    r ∈ G.val.bind t.matching ↔ r ∈ t.solutions ↑G := by
  obtain ⟨s, p, o⟩ := t
  cases p with
  | path kind items => simp [hasPath, Predicate.isPath] at h
  | plain p =>
    -- A triple of the set is chosen first, and then each position takes its term.
    have hways : ∀ a b q, s.taking a * (.only (⟨a, q, b⟩ ∈ (G : Set Triple)) * p.taking q *
        o.taking b) = .only (⟨a, q, b⟩ ∈ G) * (s.taking a * (p.taking q * o.taking b)) := by
      intro a b q
      rw [Finset.mem_coe]
      ring
    have htaken : ∀ g : Triple, r ∈ matching ⟨s, .plain p, o⟩ g ↔
        r ∈ s.taking g.subject * (p.taking g.predicate * o.taking g.object) := fun g =>
      RowBag.mem_mul_iff s.mem_matching fun r => RowBag.mem_mul_iff p.mem_matching o.mem_matching
    simp only [solutions, RowSet.between, Predicate.walks, RowSet.any_mul, RowSet.mul_any, hways,
      RowSet.mem_any, RowSet.mem_only_mul, Multiset.mem_bind, Finset.mem_val, htaken]
    constructor
    · rintro ⟨⟨a, q, b⟩, hg, hr⟩
      exact ⟨a, b, q, hg, hr⟩
    · rintro ⟨a, b, q, hg, hr⟩
      exact ⟨⟨a, q, b⟩, hg, hr⟩

end TriplePattern

namespace Bgp

variable {G : Finset Triple}

/-- The rows that make a triple of each triple pattern. -/
def matching (G : Finset Triple) (B : Bgp) : Multiset Row :=
  (B.map fun t => G.val.bind t.matching).prod

/-- They are joined with those of a further triple pattern. -/
theorem matching_cons (t : TriplePattern) (B : Bgp) :
    matching G (t :: B) = G.val.bind t.matching * matching G B := List.prod_cons

/-- Two patterns together are joined. -/
theorem matching_append (A B : Bgp) : matching G (A ++ B) = matching G A * matching G B := by
  rw [matching, List.map_append, List.prod_append]
  rfl

/-- The variables of the pattern are bound. -/
theorem over_matching (G : Finset Triple) (B : Bgp) :
    RowBag.Over (B.matching G) {v | v ∈ B.vars} := by
  induction B with
  | nil =>
    have hvars : (∅ : Set Variable) = {v | v ∈ vars []} := by
      ext v
      simp [vars]
    exact hvars ▸ RowBag.over_one
  | cons t B ih =>
    have hvars : {v | v ∈ t.vars} ∪ {v | v ∈ vars B} = {v | v ∈ vars (t :: B)} := by
      ext v
      simp [vars]
    rw [matching_cons]
    exact hvars ▸ (RowBag.Over.bind fun g _ => t.over_matching g).mul ih

/-- Variables may have other names that keep them apart. -/
theorem map_rename_matching {f : Variable → Variable} {V : Set Variable} (hf : Set.InjOn f V)
    {B : Bgp} (hV : ∀ v ∈ B.vars, v ∈ V) :
    (B.matching G).map (Row.rename f) = (B.rename f).matching G := by
  induction B with
  | nil => rfl
  | cons t B ih =>
    obtain ⟨ht, hB⟩ := List.forall_mem_append.1 hV
    have hfirst := (RowBag.Over.bind fun g (_ : g ∈ G.val) => t.over_matching g).within.mono ht
    have hothers := (over_matching G B).within.mono hB
    have hrename : rename f (t :: B) = t.rename f :: rename f B := rfl
    rw [hrename, matching_cons, matching_cons, RowBag.map_rename_mul hf hfirst hothers, ih hB,
      Multiset.map_bind]
    exact congrArg (· * _) (Multiset.bind_congr fun g _ => t.map_rename_matching hf ht g)

/-- A row that is joined may be put into the pattern before. -/
theorem singleton_mul_matching (u : Row) (B : Bgp) :
    {u} * (B.substitute u).matching G = {u} * B.matching G := by
  induction B with
  | nil => rfl
  | cons t B ih =>
    have hbind : ∀ t : TriplePattern, {u} * G.val.bind t.matching =
        G.val.bind fun g => {u} * t.matching g := by
      intro t
      rw [mul_comm, RowBag.bind_mul]
      exact Multiset.bind_congr fun g _ => mul_comm _ _
    -- The row is joined with the first triple pattern and with the others, and put into each.
    have hsubstitute : substitute (t :: B) u = t.substitute u :: substitute B u := rfl
    rw [hsubstitute, matching_cons, matching_cons, RowBag.singleton_mul_mul,
      RowBag.singleton_mul_mul u (G.val.bind t.matching), ih, hbind, hbind]
    exact congrArg (· * _) (Multiset.bind_congr fun g _ => t.singleton_mul_matching u g)

/-- The rows are the solutions of the pattern. -/
theorem mem_matching {B : Bgp} (hB : B.Plain) (r : Row) :
    r ∈ B.matching G ↔ r ∈ B.solutions ↑G := by
  induction B generalizing r with
  | nil => exact Multiset.mem_singleton
  | cons t B ih =>
    obtain ⟨ht, hB⟩ := List.forall_mem_cons.1 hB
    rw [matching_cons, solutions_cons]
    exact RowBag.mem_mul_iff (TriplePattern.mem_matching ht) (ih hB)

end Bgp

namespace Solutions

/-- The solutions over a set of triples. -/
def ofTriples (G : Finset Triple) : Solutions where
  of := Bgp.matching G
  binds_iff B _ := Bgp.over_matching G B
  of_rename _ _ _ hf := (Bgp.map_rename_matching hf fun _ => id).symm

/-- They are the solutions of the pattern over the triples. -/
theorem mem_ofTriples_iff {G : Finset Triple} {B : Bgp} (hB : B.Plain) (r : Row) :
    r ∈ (ofTriples G).of B ↔ r ∈ B.solutions ↑G := Bgp.mem_matching hB r

/-- Solutions over a set of triples fit together. -/
theorem coherent_ofTriples (G : Finset Triple) : (ofTriples G).Coherent where
  nil := rfl
  append A B _ _ := Bgp.matching_append A B
  substitute B u _ := Bgp.singleton_mul_matching u B

end Solutions

end PagedSparql
