import PagedSparql.Proofs.Algebra.CountedSolutions

/-!
# Solutions on the variables of a query

A blank node in a basic graph pattern is a variable that nobody sees: a pattern is matched with
fresh variables in the place of its blank nodes, which are hidden afterwards (`Bgp.visible`). It does
not matter which variables these are (`Bgp.map_hide_bag_unblank`), so that two patterns that share no
blank node may be matched one after the other (`Bgp.visible_append`).
-/

namespace PagedSparql

open scoped RowBag

variable {S : Solutions} {names names' : Names} {V : Set Variable} {u : Row}

namespace TriplePattern

/-- The solutions of a triple pattern, with the links of its path from a source of variables. -/
noncomputable def bag (S : Solutions) (names : Names) (t : TriplePattern) : Multiset Row :=
  t.predicate.bag S names t.subject t.object

/-- The pattern with a function applied to both ends. -/
def mapEnds (f : TermPattern → TermPattern) (t : TriplePattern) : TriplePattern :=
  ⟨f t.subject, t.predicate, f t.object⟩

variable {t : TriplePattern}

/-- The variables of a pattern are those of its parts. -/
theorem forall_mem_allVars {p : Variable → Prop} : (∀ v ∈ t.allVars, p v) ↔
    (∀ v ∈ t.subject.var?.toList, p v) ∧ (∀ v ∈ t.predicate.allVars, p v) ∧
      ∀ v ∈ t.object.var?.toList, p v := by
  rw [allVars, List.forall_mem_append, List.forall_mem_append, and_assoc]

/-- Solutions bind the variables of the pattern. -/
theorem within_bag (h : ∀ v ∈ t.allVars, v ∈ V) : RowBag.Within (t.bag S names) V := by
  obtain ⟨hs, hp, ho⟩ := forall_mem_allVars.1 h
  exact Predicate.within_bag _ hs ho hp

/-- A row that is joined may be put into a pattern before. -/
theorem singleton_mul_bag (hS : S.Coherent) (hu : names.Avoids {v | u.binds v = true})
    {t' : TriplePattern} (h : t'.substitute u = t.substitute u) :
    {u} * t'.bag S names = {u} * t.bag S names := by
  obtain ⟨s, p, o⟩ := t
  obtain ⟨s', p', o'⟩ := t'
  obtain ⟨hs, hp, ho⟩ := TriplePattern.mk.inj h
  cases p with
  | path kind items =>
    cases p' with
    | plain p' => exact absurd hp (by simp)
    | path kind' items' =>
      obtain ⟨rfl, rfl⟩ := Predicate.path.inj hp
      exact Predicate.singleton_mul_bag hS _ hu hs ho
  | plain p =>
    cases p' with
    | path kind' items' => exact absurd hp (by simp)
    | plain p' =>
      have hplain : Bgp.substitute [⟨s', .plain p', o'⟩] u = Bgp.substitute [⟨s, .plain p, o⟩] u :=
        congrArg (fun t => [t]) h
      show {u} * S.of [⟨s', .plain p', o'⟩] = {u} * S.of [⟨s, .plain p, o⟩]
      rw [← hS.substitute _ u (Bgp.plain_single _ _ _), hplain,
        hS.substitute _ u (Bgp.plain_single _ _ _)]

end TriplePattern

namespace Bgp

/-- The solutions of a pattern, with the links of its paths from a source of variables. -/
noncomputable def bag (S : Solutions) (names : Names) (B : Bgp) : Multiset Row :=
  (B.map (TriplePattern.bag S names)).prod

/-- The pattern with a function applied to the ends of its triple patterns. -/
def mapEnds (f : TermPattern → TermPattern) (B : Bgp) : Bgp := B.map (·.mapEnds f)

variable {A B : Bgp}

/-- The solutions of a first triple pattern are joined with those of the others. -/
theorem bag_cons (t : TriplePattern) (B : Bgp) :
    bag S names (t :: B) = t.bag S names * bag S names B := List.prod_cons

/-- Two patterns together have the solutions that they have in common. -/
theorem bag_append (A B : Bgp) : bag S names (A ++ B) = bag S names A * bag S names B := by
  rw [bag, List.map_append, List.prod_append]
  rfl

/-- Solutions bind the variables of the pattern. -/
theorem within_bag (h : ∀ v ∈ B.allVars, v ∈ V) : RowBag.Within (bag S names B) V := by
  induction B with
  | nil => exact RowBag.within_one
  | cons t B ih =>
    obtain ⟨ht, hB⟩ := forall_mem_allVars_cons.1 h
    rw [bag_cons]
    exact (TriplePattern.within_bag ht).mul (ih hB)

/-- It does not matter which source the links come from. -/
theorem bag_congr (hn : names.Avoids V) (hn' : names'.Avoids V) (h : ∀ v ∈ B.allVars, v ∈ V) :
    bag S names B = bag S names' B := by
  induction B with
  | nil => rfl
  | cons t B ih =>
    obtain ⟨ht, hB⟩ := forall_mem_allVars_cons.1 h
    obtain ⟨hs, hp, ho⟩ := TriplePattern.forall_mem_allVars.1 ht
    rw [bag_cons, bag_cons, ih hB]
    exact congrArg (· * bag S names' B) (Predicate.bag_congr _ hn hn' hs ho hp)

/-- The ends of the triple patterns may have other names. -/
theorem map_rename_bag {f : Variable → Variable} (h : Renames f V names names')
    (hV : ∀ v ∈ B.allVars, v ∈ V) (hf : ∀ t ∈ B, ∀ v ∈ t.predicate.allVars, f v = v) :
    (bag S names B).map (Row.rename f) = bag S names' (B.mapEnds (·.rename f)) := by
  induction B with
  | nil => rfl
  | cons t B ih =>
    obtain ⟨ht, hB⟩ := forall_mem_allVars_cons.1 hV
    obtain ⟨hft, hfB⟩ := List.forall_mem_cons.1 hf
    obtain ⟨hs, hp, ho⟩ := TriplePattern.forall_mem_allVars.1 ht
    have hfirst : (t.bag S names).map (Row.rename f) =
        (t.mapEnds (·.rename f)).bag S names' :=
      Predicate.map_rename_bag t.predicate h hs ho fun v hv => ⟨hp v hv, hft v hv⟩
    rw [bag_cons, RowBag.map_rename_mul h.injOn (TriplePattern.within_bag ht) (within_bag hB),
      hfirst, ih hB hfB]
    exact (bag_cons _ _).symm

/-- A row that is joined may be put into the triple patterns before. -/
theorem singleton_mul_bag (hS : S.Coherent) (hu : names.Avoids {v | u.binds v = true}) {B' : Bgp}
    (h : B'.substitute u = B.substitute u) : {u} * bag S names B' = {u} * bag S names B := by
  induction B generalizing B' with
  | nil =>
    obtain rfl : B' = [] := List.map_eq_nil_iff.1 h
    rfl
  | cons t B ih =>
    obtain ⟨t', B', rfl, ht, hB⟩ := List.map_eq_cons_iff.1 h
    rw [bag_cons, bag_cons, ← mul_assoc, TriplePattern.singleton_mul_bag hS hu ht, mul_right_comm,
      ih hB, mul_right_comm, mul_assoc]

end Bgp

/-! ## Blank nodes -/

namespace TermPattern

/-- The label of a blank node. -/
def label? : TermPattern → Option String
  | .term (.blank label) => some label
  | _ => none

/-- The position with a variable in the place of a blank node. -/
def unblank (g : String → Variable) : TermPattern → TermPattern
  | .term (.blank label) => .variable (g label)
  | p => p

/-- The variables of a position without its blank node. -/
theorem forall_mem_var?_unblank {g : String → Variable} {p : TermPattern} {q : Variable → Prop} :
    (∀ v ∈ (p.unblank g).var?.toList, q v) ↔
      (∀ v ∈ p.var?.toList, q v) ∧ ∀ label ∈ p.label?.toList, q (g label) := by
  match p with
  | .variable v => simp [unblank, label?, var?]
  | .term (.blank label) => simp [unblank, label?, var?]
  | .term (.iri _) => simp [unblank, label?, var?]
  | .term (.literal _) => simp [unblank, label?, var?]

/-- The variable in the place of a blank node is renamed with the others. -/
theorem rename_unblank {f : Variable → Variable} {g g' : String → Variable} {p : TermPattern}
    (hf : ∀ v ∈ p.var?.toList, f v = v) (hg : ∀ label ∈ p.label?.toList, f (g label) = g' label) :
    (p.unblank g).rename f = p.unblank g' := by
  match p, hf, hg with
  | .variable v, hf, _ => exact rename_eq hf
  | .term (.blank label), _, hg => exact congrArg _ (hg label (by simp [label?]))
  | .term (.iri _), _, _ => rfl
  | .term (.literal _), _, _ => rfl

end TermPattern

namespace Bgp

/-- The labels of the blank nodes of a pattern. -/
def labels (B : Bgp) : List String :=
  B.flatMap fun t => t.subject.label?.toList ++ t.object.label?.toList

/-- The pattern with variables in the place of its blank nodes. -/
def unblank (g : String → Variable) (B : Bgp) : Bgp := B.mapEnds (·.unblank g)

variable {A B : Bgp} {g g' : String → Variable}

/-- The labels of a first triple pattern and of the others. -/
theorem forall_mem_labels_cons {t : TriplePattern} {p : String → Prop} :
    (∀ label ∈ labels (t :: B), p label) ↔
      ((∀ label ∈ t.subject.label?.toList, p label) ∧ ∀ label ∈ t.object.label?.toList, p label) ∧
        ∀ label ∈ B.labels, p label := by
  simp only [labels, List.flatMap_cons, List.forall_mem_append]

/-- Two patterns have the labels of both. -/
theorem labels_append (A B : Bgp) : labels (A ++ B) = A.labels ++ B.labels := List.flatMap_append

/-- Variables in the place of the blank nodes of two patterns. -/
theorem unblank_append (A B : Bgp) : unblank g (A ++ B) = A.unblank g ++ B.unblank g :=
  List.map_append

/-- The variables of a pattern and those in the place of its blank nodes. -/
theorem forall_mem_allVars_unblank {p : Variable → Prop} (hB : ∀ v ∈ B.allVars, p v)
    (hg : ∀ label ∈ B.labels, p (g label)) : ∀ v ∈ (B.unblank g).allVars, p v := by
  induction B with
  | nil => exact fun v hv => absurd hv List.not_mem_nil
  | cons t B ih =>
    obtain ⟨ht, hB⟩ := forall_mem_allVars_cons.1 hB
    obtain ⟨⟨hsubject, hobject⟩, hlabels⟩ := forall_mem_labels_cons.1 hg
    obtain ⟨hs, hp, ho⟩ := TriplePattern.forall_mem_allVars.1 ht
    exact forall_mem_allVars_cons.2 ⟨TriplePattern.forall_mem_allVars.2
      ⟨TermPattern.forall_mem_var?_unblank.2 ⟨hs, hsubject⟩, hp,
        TermPattern.forall_mem_var?_unblank.2 ⟨ho, hobject⟩⟩, ih hB hlabels⟩

/-- The variables in the place of blank nodes are renamed with the others. -/
theorem rename_unblank {f : Variable → Variable} (hf : ∀ v ∈ B.allVars, f v = v)
    (hg : ∀ label ∈ B.labels, f (g label) = g' label) :
    (B.unblank g).mapEnds (·.rename f) = B.unblank g' := by
  induction B with
  | nil => rfl
  | cons t B ih =>
    obtain ⟨ht, hB⟩ := forall_mem_allVars_cons.1 hf
    obtain ⟨⟨hsubject, hobject⟩, hlabels⟩ := forall_mem_labels_cons.1 hg
    obtain ⟨hs, -, ho⟩ := TriplePattern.forall_mem_allVars.1 ht
    have hfirst : (t.mapEnds (·.unblank g)).mapEnds (·.rename f) = t.mapEnds (·.unblank g') := by
      rw [TriplePattern.mapEnds, TriplePattern.mapEnds, TriplePattern.mapEnds]
      rw [TermPattern.rename_unblank hs hsubject, TermPattern.rename_unblank ho hobject]
    have hothers := ih hB hlabels
    unfold unblank mapEnds at hothers ⊢
    rw [List.map_cons, List.map_cons, List.map_cons, hfirst, hothers]

/-- The variable that a source has for a label. -/
def blankVariable (names : Names) (labels : List String) (label : String) : Variable :=
  (Names.after (labels.idxOf label) names).fresh.1

/-- The solutions of a pattern, without the variables that a source has ahead: they stand in the
place of blank nodes and link the steps of paths. -/
noncomputable def visible (S : Solutions) (names : Names) (B : Bgp) : Multiset Row :=
  (bag S (Names.after B.labels.length names) (B.unblank (blankVariable names B.labels))).map
    (Row.hide names.Ahead)

/-- Visible solutions bind the variables of the pattern. -/
theorem within_visible (hB : ∀ v ∈ B.allVars, v ∈ V) : RowBag.Within (B.visible S names) V := by
  have hvars := forall_mem_allVars_unblank (p := (· ∈ V ∪ names.Ahead))
    (fun v hv => .inl (hB v hv)) fun label _ => .inr ⟨B.labels.idxOf label, rfl⟩
  exact ((within_bag hvars).hide _).mono fun v hv => hv.1.resolve_right hv.2

/-- Different labels have different variables. -/
theorem injOn_blankVariable (names : Names) (labels : List String) :
    Set.InjOn (blankVariable names labels) {label | label ∈ labels} := by
  intro label hlabel label' hlabel' heq
  refine (List.idxOf_inj hlabel).1 ?_
  by_contra hne
  rcases Nat.lt_or_gt_of_ne hne with hlt | hgt
  · exact Names.fresh_after_ne names hlt heq
  · exact Names.fresh_after_ne names hgt heq.symm

/-- The variables of labels are not ahead any more when there is one for each label. -/
theorem blankVariable_not_mem_ahead (names : Names) {labels : List String} {label : String}
    (h : label ∈ labels) :
    blankVariable names labels label ∉ (Names.after labels.length names).Ahead := by
  rintro ⟨i, hi⟩
  rw [← (Names.givenOut_add labels.length i names).1] at hi
  have hlt : labels.idxOf label < labels.length := List.idxOf_lt_length_iff.2 h
  exact Names.fresh_after_ne names (Nat.lt_add_right i hlt) hi.symm

/-- Variables in the place of blank nodes may be renamed to others. -/
theorem exists_renames (hB : ∀ v ∈ B.allVars, v ∉ names.Ahead)
    (hg : Set.InjOn g {label | label ∈ B.labels}) (hahead : ∀ label ∈ B.labels, g label ∈ names.Ahead)
    (hvars : ∀ v ∈ B.allVars, v ∉ names'.Ahead)
    (hlabels : ∀ label ∈ B.labels, g label ∉ names'.Ahead) :
    ∃ f, Renames f
        ({v | v ∈ B.allVars} ∪ blankVariable names B.labels '' {label | label ∈ B.labels})
        (Names.after B.labels.length names) names' ∧
      (∀ v ∈ B.allVars, f v = v) ∧
      ∀ label ∈ B.labels, f (blankVariable names B.labels label) = g label := by
  classical
  -- A fresh variable goes to the one that its blank node has in the other place, and all others
  -- stay.
  let f : Variable → Variable := fun v =>
    if h : ∃ label ∈ B.labels, blankVariable names B.labels label = v then g h.choose else v
  have hvar : ∀ v ∈ B.allVars, f v = v := by
    intro v hv
    refine dif_neg ?_
    rintro ⟨label, -, rfl⟩
    exact hB _ hv ⟨_, rfl⟩
  have hlabel : ∀ label ∈ B.labels, f (blankVariable names B.labels label) = g label := by
    intro label hmem
    have h : ∃ label' ∈ B.labels,
        blankVariable names B.labels label' = blankVariable names B.labels label := ⟨label, hmem, rfl⟩
    refine (dif_pos h).trans (congrArg g ?_)
    exact injOn_blankVariable names B.labels h.choose_spec.1 hmem h.choose_spec.2
  refine ⟨f, ⟨?_, Names.avoids_iff.2 ?_, Names.avoids_iff.2 ?_⟩, hvar, hlabel⟩
  · -- No variable of the pattern is a fresh one, so the two kinds do not meet.
    rintro v (hv | ⟨l, hl, rfl⟩) w (hw | ⟨l', hl', rfl⟩) heq
    · rwa [hvar v hv, hvar w hw] at heq
    · rw [hvar v hv, hlabel _ hl'] at heq
      exact absurd (heq ▸ hahead _ hl') (hB v hv)
    · rw [hvar w hw, hlabel _ hl] at heq
      exact absurd (heq ▸ hahead _ hl) (hB w hw)
    · rw [hlabel _ hl, hlabel _ hl'] at heq
      rw [hg hl hl' heq]
  · rintro v (hv | ⟨l, hl, rfl⟩)
    · exact fun hlater => hB v hv (Names.ahead_after _ names hlater)
    · exact blankVariable_not_mem_ahead names hl
  · rintro _ ⟨v, hv | ⟨l, hl, rfl⟩, rfl⟩
    · rw [hvar v hv]
      exact hvars v hv
    · rw [hlabel _ hl]
      exact hlabels l hl

/-- **Blank nodes.** It does not matter which hidden variables stand in the place of blank nodes, as
long as they are different and the links are others. -/
theorem map_hide_bag_unblank (hB : ∀ v ∈ B.allVars, v ∉ names.Ahead)
    (hg : Set.InjOn g {label | label ∈ B.labels}) (hahead : ∀ label ∈ B.labels, g label ∈ names.Ahead)
    (hvars : ∀ v ∈ B.allVars, v ∉ names'.Ahead)
    (hlabels : ∀ label ∈ B.labels, g label ∉ names'.Ahead) :
    (bag S names' (B.unblank g)).map (Row.hide names.Ahead) = B.visible S names := by
  obtain ⟨f, hf, hvar, hlabel⟩ := exists_renames hB hg hahead hvars hlabels
  have hV := forall_mem_allVars_unblank (g := blankVariable names B.labels)
    (p := (· ∈ {v | v ∈ B.allVars} ∪ blankVariable names B.labels '' {label | label ∈ B.labels}))
    (fun v hv => .inl hv) fun label hl => .inr ⟨label, hl, rfl⟩
  have hpredicates : ∀ t ∈ B.unblank (blankVariable names B.labels), ∀ v ∈ t.predicate.allVars,
      f v = v := by
    intro t ht v hv
    obtain ⟨t', ht', rfl⟩ := List.mem_map.1 ht
    exact hvar v (List.mem_flatMap.2 ⟨t', ht', List.mem_append_left _ (List.mem_append_right _ hv)⟩)
  rw [visible, ← rename_unblank hvar hlabel, ← map_rename_bag hf hV hpredicates, Multiset.map_map]
  refine Multiset.map_congr rfl fun r hr => ?_
  have hr : ∀ v, r.binds v = true → v ∈ _ := within_bag hV r hr
  refine Row.hide_rename (hf.injOn.mono hr) fun v hv => ?_
  rcases hr v hv with hv | ⟨label, hl, rfl⟩
  · exact .inl (hvar v hv)
  · rw [hlabel label hl]
    exact .inr ⟨⟨_, rfl⟩, hahead label hl⟩

/-- **Two patterns.** Patterns that share no blank node are matched one after the other. -/
theorem visible_append (hA : ∀ v ∈ A.allVars, v ∉ names.Ahead)
    (hB : ∀ v ∈ B.allVars, v ∉ names.Ahead) (h : ∀ label ∈ A.labels, label ∉ B.labels) :
    visible S names (A ++ B) = A.visible S names * B.visible S names := by
  let g := blankVariable names (labels (A ++ B))
  let names' := Names.after (labels (A ++ B)).length names
  have hleft : ∀ label ∈ A.labels, label ∈ labels (A ++ B) := fun label hl => by
    rw [labels_append]
    exact List.mem_append_left _ hl
  have hright : ∀ label ∈ B.labels, label ∈ labels (A ++ B) := fun label hl => by
    rw [labels_append]
    exact List.mem_append_right _ hl
  have hinj := injOn_blankVariable names (labels (A ++ B))
  have hlater : ∀ {v}, v ∉ names.Ahead → v ∉ names'.Ahead := fun hv h =>
    hv (Names.ahead_after _ names h)
  -- Each pattern may as well take its fresh variables from those for the blank nodes of both.
  have hfirst : (bag S names' (A.unblank g)).map (Row.hide names.Ahead) = A.visible S names :=
    map_hide_bag_unblank hA (hinj.mono hleft) (fun label _ => ⟨_, rfl⟩)
      (fun v hv => hlater (hA v hv)) fun label hl => blankVariable_not_mem_ahead names (hleft _ hl)
  have hsecond : (bag S names' (B.unblank g)).map (Row.hide names.Ahead) = B.visible S names :=
    map_hide_bag_unblank hB (hinj.mono hright) (fun label _ => ⟨_, rfl⟩)
      (fun v hv => hlater (hB v hv)) fun label hl => blankVariable_not_mem_ahead names (hright _ hl)
  have hwithin : ∀ {C : Bgp}, RowBag.Within (bag S names' (C.unblank g))
      ({v | v ∈ C.allVars} ∪ g '' {label | label ∈ C.labels}) := within_bag
    (forall_mem_allVars_unblank (p := (· ∈ _)) (fun v hv => .inl hv)
      fun label hl => .inr ⟨label, hl, rfl⟩)
  rw [visible, ← hfirst, ← hsecond, unblank_append, bag_append]
  refine RowBag.map_hide_mul hwithin hwithin ?_
  -- A hidden variable of both would be that of a blank node which they share.
  rintro v hv (hvA | ⟨label, hl, rfl⟩) (hvB | ⟨label', hl', heq⟩)
  · exact hA v hvA hv
  · exact hA v hvA hv
  · exact hB _ hvB hv
  · obtain rfl := hinj (hright _ hl') (hleft _ hl) heq
    exact h _ hl hl'

end Bgp

end PagedSparql
