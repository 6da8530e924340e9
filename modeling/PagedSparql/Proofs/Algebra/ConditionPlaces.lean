import PagedSparql.Plan.Arrangement
import Mathlib.Data.List.Infix

/-!
# The places of conditions in a group

A condition holds of its whole group, and it is planned behind all other clauses. Its place among
them still has an effect: basic graph patterns are merged before conditions are moved, so that a
condition between two patterns keeps them apart. It has no other (`Algebra.arrange_inOrder`). With
the conditions at the end from the start, a group is arranged to the same clauses and triple
patterns, in the same order; and the arranged groups are equal unless two patterns stand in the
group with nothing but conditions between them (`Algebra.Parted`), which then become one.
-/

namespace PagedSparql

namespace Arrangement

variable {α β : Type} [Arrangeable α] [Arrangeable β]

/-- The clauses in the order of the query, but with the conditions at the end. -/
def inOrder (clauses : List α) : List α :=
  clauses.filter (fun c => Arrangeable.rank c != 2) ++ ofRank 2 clauses

/-- No clause is lost. -/
theorem mem_inOrder {clauses : List α} {c : α} : c ∈ inOrder clauses ↔ c ∈ clauses := by
  simp only [inOrder, ofRank, List.mem_append, List.mem_filter, bne_iff_ne, beq_iff_eq]
  tauto

/-- Clauses may be brought into this order before or after something is done to all of them, if that
keeps their ranks. -/
theorem inOrder_map {f : α → β} (hrank : ∀ a, Arrangeable.rank (f a) = Arrangeable.rank a)
    (clauses : List α) : inOrder (clauses.map f) = (inOrder clauses).map f := by
  have hfilter : ∀ (k : Nat) (p : Nat → Nat → Bool),
      (clauses.map f).filter (fun c => p (Arrangeable.rank c) k) =
        (clauses.filter fun c => p (Arrangeable.rank c) k).map f := by
    intro k p
    rw [List.filter_map]
    refine congrArg _ (List.filter_congr fun a _ => ?_)
    rw [Function.comp_apply, hrank]
  rw [inOrder, ofRank, hfilter 2 (· != ·), hfilter 2 (· == ·), ← List.map_append]
  rfl

/-- Bringing clauses into this order keeps those of each rank as they are. -/
theorem ofRank_inOrder (k : Nat) (clauses : List α) :
    ofRank k (inOrder clauses) = ofRank k clauses := by
  unfold inOrder ofRank
  rw [List.filter_append, List.filter_filter, List.filter_filter]
  by_cases hk : k = 2
  · subst hk
    rw [List.filter_eq_nil_iff.2 (by simp), List.nil_append]
    exact List.filter_congr fun c _ => Bool.and_self _
  · have hempty : clauses.filter
        (fun c => Arrangeable.rank c == k && Arrangeable.rank c == 2) = [] :=
      List.filter_eq_nil_iff.2 (by grind)
    rw [hempty, List.append_nil]
    exact List.filter_congr (by grind)

/-- A clause is merged with the first of others, or it is put in front of them. -/
theorem mergeFirst_cases (clause : α) (clauses : List α) :
    (∃ next rest ts us, clauses = next :: rest ∧ Arrangeable.triples? clause = some ts ∧
      Arrangeable.triples? next = some us ∧
      mergeFirst clause clauses = Arrangeable.ofTriples (ts ++ us) :: rest) ∨
    mergeFirst clause clauses = clause :: clauses := by
  cases clauses with
  | nil => exact .inr rfl
  | cons next rest =>
    rw [mergeFirst]
    split
    · next ts us hts hus => exact .inl ⟨next, rest, ts, us, rfl, hts, hus, rfl⟩
    · exact .inr rfl

/-- Merging keeps the clauses of each rank but that of basic graph patterns. -/
theorem ofRank_mergeAdjacent (hof : ∀ ts, Arrangeable.rank (Arrangeable.ofTriples ts : α) = 1)
    (htriples : ∀ (c : α) ts, Arrangeable.triples? c = some ts → Arrangeable.rank c = 1) {k : Nat}
    (hk : k ≠ 1) (clauses : List α) : ofRank k (mergeAdjacent clauses) = ofRank k clauses := by
  have hdrop : ∀ (c : α) (rest : List α), Arrangeable.rank c = 1 →
      ofRank k (c :: rest) = ofRank k rest := fun c rest hc =>
    List.filter_cons_of_neg (by simpa [hc] using hk.symm)
  induction clauses with
  | nil => rfl
  | cons c rest ih =>
    show ofRank k (mergeFirst c (mergeAdjacent rest)) = ofRank k (c :: rest)
    rcases mergeFirst_cases c (mergeAdjacent rest) with
      ⟨d, others, ts, us, hrest, hts, hus, heq⟩ | heq
    · rw [hrest, hdrop d others (htriples d us hus)] at ih
      rw [heq, hdrop _ _ (hof _), hdrop c rest (htriples c ts hts), ih]
    · unfold ofRank at ih
      rw [heq, ofRank, ofRank, List.filter_cons, List.filter_cons, ih]

end Arrangement

namespace Algebra

open Arrangement (mergeFirst mergeAdjacent ofRank inOrder)

variable {p : Algebra} {ps : List Algebra}

/-- The nodes that are no conditions. -/
def bare (ps : List Algebra) : List Algebra := ps.filter fun p => p.rank != 2

/-- A basic graph pattern comes first. -/
def Opens (ps : List Algebra) : Prop := ∃ B rest, ps = .bgp B :: rest

/-- Two basic graph patterns stand in a group with nothing but conditions between them. -/
def Parted (ps : List Algebra) : Prop :=
  ∃ A conditions B, conditions ≠ [] ∧ (∀ c ∈ conditions, c.rank = 2) ∧
    (.bgp A :: (conditions ++ [.bgp B])) <:+: ps

/-- The triple patterns of a basic graph pattern, each on its own; another node as it is. -/
def pieces : Algebra → List Algebra
  | .bgp B => B.map fun t => .bgp [t]
  | p => [p]

/-- A basic graph pattern is no condition. -/
theorem rank_bgp (B : List TriplePattern) : (bgp B).rank ≠ 2 := by
  show (1 : Nat) ≠ 2
  decide

/-! ## Merging -/

/-- Only basic graph patterns are merged with what comes after them. -/
theorem mergeFirst_of_triples?_eq_none (h : p.triples? = none) (ps : List Algebra) :
    mergeFirst p ps = p :: ps := by
  cases ps with
  | nil => rfl
  | cons q rest =>
    have hp : Arrangeable.triples? p = none := h
    simp [mergeFirst, Arrangement.mergeFirst, hp]

/-- Only basic graph patterns are merged with what comes before them. -/
theorem mergeFirst_of_not_opens (h : ¬Opens ps) (p : Algebra) : mergeFirst p ps = p :: ps := by
  cases ps with
  | nil => rfl
  | cons q rest =>
    cases q with
    | bgp B => exact absurd ⟨B, rest, rfl⟩ h
    | _ => cases p <;> rfl

/-- A basic graph pattern stays in front when it is merged. -/
theorem opens_mergeAdjacent : Opens (mergeAdjacent ps) ↔ Opens ps := by
  cases ps with
  | nil => rfl
  | cons p rest =>
    show Opens (mergeFirst p (mergeAdjacent rest)) ↔ Opens (p :: rest)
    cases p with
    | bgp A =>
      refine iff_of_true ?_ ⟨A, rest, rfl⟩
      by_cases h : Opens (mergeAdjacent rest)
      · obtain ⟨B, others, h⟩ := h
        rw [h]
        exact ⟨A ++ B, others, rfl⟩
      · rw [mergeFirst_of_not_opens h]
        exact ⟨A, _, rfl⟩
    | _ =>
      rw [mergeFirst_of_triples?_eq_none rfl]
      simp [Opens]

/-- Merging leaves the conditions alone that stand at the end. -/
theorem mergeAdjacent_append {qs : List Algebra} (hqs : ∀ q ∈ qs, q.rank = 2) (ps : List Algebra) :
    mergeAdjacent (ps ++ qs) = mergeAdjacent ps ++ qs := by
  have hopens : ∀ qs : List Algebra, (∀ q ∈ qs, q.rank = 2) → ¬Opens qs := by
    rintro _ hqs ⟨B, rest, rfl⟩
    exact rank_bgp B (hqs _ List.mem_cons_self)
  induction ps with
  | nil =>
    induction qs with
    | nil => rfl
    | cons q rest ih =>
      have hrest := ih fun r hr => hqs r (List.mem_cons_of_mem _ hr)
      show mergeFirst q (mergeAdjacent ([] ++ rest)) = q :: rest
      rw [hrest]
      exact mergeFirst_of_not_opens (hopens _ fun r hr => hqs r (List.mem_cons_of_mem _ hr)) q
  | cons p ps ih =>
    show mergeFirst p (mergeAdjacent (ps ++ qs)) = mergeFirst p (mergeAdjacent ps) ++ qs
    rw [ih]
    cases hps : mergeAdjacent ps with
    | nil => exact mergeFirst_of_not_opens (hopens qs hqs) p
    | cons q others => cases p <;> cases q <;> rfl

/-- Merging keeps the triple patterns, and the nodes between them. -/
theorem pieces_mergeAdjacent (ps : List Algebra) :
    (mergeAdjacent ps).flatMap pieces = ps.flatMap pieces := by
  induction ps with
  | nil => rfl
  | cons p rest ih =>
    show (mergeFirst p (mergeAdjacent rest)).flatMap pieces = pieces p ++ rest.flatMap pieces
    rw [← ih]
    by_cases hp : p.triples? = none
    · rw [mergeFirst_of_triples?_eq_none hp, List.flatMap_cons]
    by_cases hrest : Opens (mergeAdjacent rest)
    · obtain ⟨B, others, heq⟩ := hrest
      rw [heq]
      cases p with
      | bgp A =>
        show pieces (.bgp (A ++ B)) ++ others.flatMap pieces = _
        simp only [pieces, List.map_append, List.append_assoc, List.flatMap_cons]
      | _ => exact absurd rfl hp
    · rw [mergeFirst_of_not_opens hrest, List.flatMap_cons]

/-! ## Conditions between patterns -/

/-- A pattern comes first when the conditions are left out if only conditions stand before it. -/
theorem opens_bare : Opens (bare ps) ↔
    ∃ conditions B rest, (∀ c ∈ conditions, rank c = 2) ∧ ps = conditions ++ .bgp B :: rest := by
  induction ps with
  | nil => simp [Opens, bare]
  | cons p rest ih =>
    -- A condition at the front is left out, and is one of those that stand before the pattern.
    by_cases hp : p.rank = 2
    · have hbare : bare (p :: rest) = bare rest := List.filter_cons_of_neg (by simp [hp])
      rw [hbare, ih]
      constructor
      · rintro ⟨conditions, B, others, hconditions, rfl⟩
        exact ⟨p :: conditions, B, others, List.forall_mem_cons.2 ⟨hp, hconditions⟩, rfl⟩
      · rintro ⟨conditions, B, others, hconditions, heq⟩
        cases conditions with
        | nil =>
          obtain rfl := (List.cons.inj heq).1
          exact absurd hp (rank_bgp B)
        | cons c conditions =>
          exact ⟨conditions, B, others, (List.forall_mem_cons.1 hconditions).2,
            (List.cons.inj heq).2⟩
    · -- Anything else stays at the front, so it has to be the pattern itself.
      have hbare : bare (p :: rest) = p :: bare rest := List.filter_cons_of_pos (by simp [hp])
      rw [hbare]
      constructor
      · rintro ⟨B, others, heq⟩
        obtain rfl := (List.cons.inj heq).1
        exact ⟨[], B, rest, by simp, rfl⟩
      · rintro ⟨conditions, B, others, hconditions, heq⟩
        cases conditions with
        | nil =>
          obtain rfl := (List.cons.inj heq).1
          exact ⟨B, _, rfl⟩
        | cons c conditions =>
          obtain rfl := (List.cons.inj heq).1
          exact absurd (List.forall_mem_cons.1 hconditions).1 hp

/-- A group is parted behind its first node, or within the others. -/
theorem parted_cons : Parted (p :: ps) ↔
    (p.triples? ≠ none ∧ ¬Opens ps ∧ Opens (bare ps)) ∨ Parted ps := by
  constructor
  · rintro ⟨A, conditions, B, hne, hconditions, hinfix⟩
    rcases List.infix_cons_iff.1 hinfix with ⟨rest, heq⟩ | hinfix
    · obtain ⟨rfl, rfl⟩ := List.cons.inj heq
      refine .inl ⟨nofun, ?_, ?_⟩
      · rintro ⟨C, others, heq⟩
        cases conditions with
        | nil => exact hne rfl
        | cons c conditions =>
          obtain rfl := (List.cons.inj heq).1
          exact rank_bgp C (List.forall_mem_cons.1 hconditions).1
      · exact opens_bare.2 ⟨conditions, B, rest, hconditions, List.append_assoc ..⟩
    · exact .inr ⟨A, conditions, B, hne, hconditions, hinfix⟩
  · rintro (⟨hp, hopens, hbare⟩ | ⟨A, conditions, B, hne, hconditions, hinfix⟩)
    · obtain ⟨conditions, B, rest, hconditions, rfl⟩ := opens_bare.1 hbare
      cases p with
      | bgp A =>
        refine ⟨A, conditions, B, ?_, hconditions, [], rest, ?_⟩
        · rintro rfl
          exact hopens ⟨B, rest, rfl⟩
        · simp
      | _ => exact absurd rfl hp
    · exact ⟨A, conditions, B, hne, hconditions, List.infix_cons hinfix⟩

/-- Without the conditions, the patterns of a parted group are merged further, and those of another
group as they are with them. -/
theorem mergeAdjacent_bare (ps : List Algebra) :
    (Parted ps ∧ (mergeAdjacent (bare ps)).length < (bare (mergeAdjacent ps)).length) ∨
      (¬Parted ps ∧ mergeAdjacent (bare ps) = bare (mergeAdjacent ps)) := by
  induction ps with
  | nil =>
    exact .inr ⟨fun ⟨_, _, _, _, _, h⟩ => List.cons_ne_nil _ _ (List.infix_nil.1 h), rfl⟩
  | cons p rest ih =>
    have hcons : mergeAdjacent (p :: rest) = mergeFirst p (mergeAdjacent rest) := rfl
    by_cases hp : p.triples? = none
    · have hparted : Parted (p :: rest) ↔ Parted rest :=
        parted_cons.trans (or_iff_right fun h => h.1 hp)
      rw [hparted, hcons, mergeFirst_of_triples?_eq_none hp]
      by_cases hrank : p.rank = 2
      · have hbare : ∀ qs, bare (p :: qs) = bare qs := fun qs =>
          List.filter_cons_of_neg (by simp [hrank])
        rw [hbare, hbare]
        exact ih
      · have hbare : ∀ qs, bare (p :: qs) = p :: bare qs := fun qs =>
          List.filter_cons_of_pos (by simp [hrank])
        have hmerge : mergeAdjacent (p :: bare rest) = p :: mergeAdjacent (bare rest) :=
          mergeFirst_of_triples?_eq_none hp _
        rw [hbare, hbare, hmerge]
        exact ih.imp (And.imp_right Nat.succ_lt_succ) (And.imp_right (congrArg (p :: ·)))
    · obtain ⟨A, rfl⟩ : ∃ A, p = .bgp A := by cases p <;> simp_all [triples?]
      have hbare : ∀ B qs, bare (.bgp B :: qs) = .bgp B :: bare qs := fun _ _ => rfl
      have hmerge : mergeAdjacent (bare (.bgp A :: rest)) =
        mergeFirst (.bgp A) (mergeAdjacent (bare rest)) := rfl
      rw [hmerge, hcons, parted_cons]
      by_cases hopens : Opens rest
      · -- The pattern is merged with the same one in both groups.
        have hparted : ¬((bgp A).triples? ≠ none ∧ ¬Opens rest ∧ Opens (bare rest)) :=
          fun h => h.2.1 hopens
        rw [or_iff_right hparted]
        obtain ⟨B, others, hrest⟩ := opens_mergeAdjacent.2 hopens
        obtain ⟨C, bares, hbares⟩ : Opens (mergeAdjacent (bare rest)) := by
          obtain ⟨D, others, rfl⟩ := hopens
          exact opens_mergeAdjacent.2 ⟨D, bare others, rfl⟩
        rw [hrest, hbares, hbare] at ih
        rw [hrest, hbares]
        refine ih.imp_right (And.imp_right fun heq => ?_)
        obtain ⟨hBC, rfl⟩ := List.cons.inj heq
        obtain rfl := Algebra.bgp.inj hBC
        rfl
      · rw [mergeFirst_of_not_opens (mt opens_mergeAdjacent.1 hopens), hbare]
        by_cases hopensBare : Opens (bare rest)
        · -- Only without the conditions is there a pattern to merge with.
          refine .inl ⟨.inl ⟨nofun, hopens, hopensBare⟩, ?_⟩
          obtain ⟨C, bares, hbares⟩ := opens_mergeAdjacent.2 hopensBare
          have hle : (mergeAdjacent (bare rest)).length ≤ (bare (mergeAdjacent rest)).length :=
            ih.elim (fun h => h.2.le) fun h => (congrArg List.length h.2).le
          rw [hbares] at hle ⊢
          exact Nat.lt_succ_of_le hle
        · have hparted : ¬((bgp A).triples? ≠ none ∧ ¬Opens rest ∧ Opens (bare rest)) :=
            fun h => hopensBare h.2.2
          rw [mergeFirst_of_not_opens (mt opens_mergeAdjacent.1 hopensBare), or_iff_right hparted]
          exact ih.imp (And.imp_right Nat.succ_lt_succ) (And.imp_right (congrArg (_ :: ·)))

/-! ## Arranged groups -/

/-- No node is lost when merged nodes are put in order. -/
theorem length_arrange (ps : List Algebra) : (arrange ps).length = (mergeAdjacent ps).length := by
  have hranks : ∀ qs : List Algebra,
      (ofRank 0 qs ++ ofRank 1 qs ++ ofRank 2 qs).length = qs.length := by
    intro qs
    induction qs with
    | nil => rfl
    | cons q qs ih =>
      rw [List.length_cons, ← ih]
      cases q <;> simp [ofRank, Arrangeable.rank, rank] <;> omega
  exact hranks _

/-- Merging keeps inline rows and conditions. -/
theorem ofRank_mergeAdjacent {k : Nat} (hk : k ≠ 1) (ps : List Algebra) :
    ofRank k (mergeAdjacent ps) = ofRank k ps :=
  Arrangement.ofRank_mergeAdjacent (fun _ => rfl)
    (fun p _ h => by cases p <;> first | rfl | exact nomatch h) hk ps

/-- A group with the conditions at the end is merged as without them. -/
theorem mergeAdjacent_inOrder (ps : List Algebra) :
    mergeAdjacent (inOrder ps) = mergeAdjacent (bare ps) ++ ofRank 2 ps :=
  mergeAdjacent_append (fun _ hq => of_decide_eq_true (List.mem_filter.1 hq).2) _

/-- The pieces of a node have its rank. -/
theorem ofRank_pieces (k : Nat) (ps : List Algebra) :
    (ofRank k ps).flatMap pieces = ofRank k (ps.flatMap pieces) := by
  induction ps with
  | nil => rfl
  | cons p rest ih =>
    -- A basic graph pattern falls into single ones, and any other node is its own piece.
    have hpieces : ∀ q ∈ pieces p, q.rank = p.rank := by
      intro q hq
      cases p with
      | bgp B =>
        obtain ⟨t, -, rfl⟩ := List.mem_map.1 hq
        rfl
      | _ => rw [List.mem_singleton.1 hq]
    have hcons : ofRank k ((p :: rest).flatMap pieces) =
        ofRank k (pieces p) ++ ofRank k (rest.flatMap pieces) := by
      rw [List.flatMap_cons, ofRank, List.filter_append]
      rfl
    rw [hcons, ← ih]
    by_cases hk : p.rank = k
    · have hp : ofRank k (pieces p) = pieces p :=
        List.filter_eq_self.2 fun q hq => beq_iff_eq.2 ((hpieces q hq).trans hk)
      have hrest : ofRank k (p :: rest) = p :: ofRank k rest :=
        List.filter_cons_of_pos (beq_iff_eq.2 hk)
      rw [hp, hrest, List.flatMap_cons]
    · have hp : ofRank k (pieces p) = [] :=
        List.filter_eq_nil_iff.2 fun q hq h => hk ((hpieces q hq).symm.trans (beq_iff_eq.1 h))
      have hrest : ofRank k (p :: rest) = ofRank k rest :=
        List.filter_cons_of_neg fun h => hk (beq_iff_eq.1 h)
      rw [hp, hrest, List.nil_append]

/-- An arranged group has the pieces of the group in the order of their ranks. -/
theorem pieces_arrange (ps : List Algebra) : (arrange ps).flatMap pieces =
    ofRank 0 (ps.flatMap pieces) ++ ofRank 1 (ps.flatMap pieces) ++
      ofRank 2 (ps.flatMap pieces) := by
  show (ofRank 0 (mergeAdjacent ps) ++ ofRank 1 (mergeAdjacent ps) ++
    ofRank 2 (mergeAdjacent ps)).flatMap pieces = _
  simp only [List.flatMap_append, ofRank_pieces, pieces_mergeAdjacent]

/-- **The place of a condition** in its group has no effect but to keep basic graph patterns apart.
With the conditions at the end from the start, a group is arranged to the same nodes and triple
patterns in the same order; and it is arranged to the same group exactly if no two basic graph
patterns stand in it with nothing but conditions between them. -/
theorem arrange_inOrder (ps : List Algebra) :
    (arrange (inOrder ps)).flatMap pieces = (arrange ps).flatMap pieces ∧
      (arrange (inOrder ps) = arrange ps ↔ ¬Parted ps) := by
  constructor
  · have hranks : ∀ k, ofRank k ((inOrder ps).flatMap pieces) = ofRank k (ps.flatMap pieces) :=
      fun k => by rw [← ofRank_pieces, ← ofRank_pieces, Arrangement.ofRank_inOrder]
    rw [pieces_arrange, pieces_arrange, hranks, hranks, hranks]
  · rcases mergeAdjacent_bare ps with ⟨hparted, hlt⟩ | ⟨hparted, heq⟩
    · refine iff_of_false (fun harrange => hlt.ne ?_) (not_not.2 hparted)
      have hlength : (mergeAdjacent (inOrder ps)).length = (mergeAdjacent ps).length := by
        rw [← length_arrange, ← length_arrange, harrange]
      have hrank : ∀ qs : List Algebra, qs.length = (bare qs).length + (ofRank 2 qs).length := by
        intro qs
        rw [List.length_eq_length_filter_add fun q : Algebra => q.rank != 2]
        simp only [bne, Bool.not_not]
        rfl
      rw [mergeAdjacent_inOrder, List.length_append, hrank (mergeAdjacent ps),
        ofRank_mergeAdjacent (by decide)] at hlength
      exact Nat.add_right_cancel hlength
    · refine iff_of_true ?_ hparted
      have hmerge : mergeAdjacent (inOrder ps) = inOrder (mergeAdjacent ps) := by
        rw [mergeAdjacent_inOrder, heq, ← ofRank_mergeAdjacent (k := 2) (by decide)]
        rfl
      show ofRank 0 (mergeAdjacent (inOrder ps)) ++ ofRank 1 (mergeAdjacent (inOrder ps)) ++
        ofRank 2 (mergeAdjacent (inOrder ps)) = arrange ps
      rw [hmerge, Arrangement.ofRank_inOrder, Arrangement.ofRank_inOrder,
        Arrangement.ofRank_inOrder]
      rfl

end Algebra

namespace Sample

/-- The triples with a subject that is asked for and an object without a name. -/
def mentioning : TriplePattern :=
  ⟨.variable ⟨"s"⟩, .plain (.term (.iri "http://example.org/p")), .term (.blank "b")⟩

/-- The triples with a subject without a name. -/
def mentioned : TriplePattern :=
  ⟨.term (.blank "b"), .plain (.term (.iri "http://example.org/q")), .variable ⟨"o"⟩⟩

/-- Whether the subject that is asked for is true. -/
def condition : Expression := .leaf (.variable ⟨"s"⟩)

/-- Two patterns that share a blank node, and a condition between them. -/
def partedGroup : List Algebra := [.bgp [mentioning], .filter condition, .bgp [mentioned]]

end Sample

namespace Algebra

/-- **A condition parts patterns** when it stands between them, so that a blank node that they share
is no longer the same in both; at the end of the group it does not. -/
theorem condition_parts :
    arrange Sample.partedGroup =
        [.bgp [Sample.mentioning], .bgp [Sample.mentioned], .filter Sample.condition] ∧
      arrange (Arrangement.inOrder Sample.partedGroup) =
        [.bgp [Sample.mentioning, Sample.mentioned], .filter Sample.condition] ∧
      arrange (Arrangement.inOrder Sample.partedGroup) ≠ arrange Sample.partedGroup :=
  ⟨rfl, rfl, fun h => absurd (congrArg List.length h) (by decide)⟩

end Algebra

end PagedSparql
