import PagedSparql.Proofs.Pipeline.AlikeStages
import PagedSparql.Proofs.Plan.Hoisting

/-!
# Inline rows in patterns

The branch of an inline row joins the rows that come in with it, and has it put into its patterns as
well. To compare, a group is planned in another manner, in which patterns without paths are left as
they are (`Plan.groupStageKept`). Both plans fail with the same error or leave planning in the same
state, and their stages are alike: no pull tells them apart, so that the same requests are sent and
the same rows are handed on (`Plan.groupStage_inline`).

Two things are needed for this. Inline rows have no blank nodes, since those that are put into a
pattern get variables there. And what stands between the inline rows and a pattern hands on only rows
that still extend the inline rows, as patterns and queries in the group do (`Plan.preserves_clauses`), but
not a binding of a variable that an inline row has. Without either of them other requests may be sent
(`Plan.groupStage_inline_matters`).
-/

namespace PagedSparql

variable {σ α β γ δ : Type} {U rows : List Row} {u v : Row} {A B : Bgp}

namespace Row

/-- The row extends each of some rows. -/
def ExtendsAll (rows : List Row) (w : Row) : Prop := ∀ r ∈ rows, w.Extends r

/-- A row that extends each of the rows still does when it is extended. -/
theorem upward_extendsAll (rows : List Row) : Upward (ExtendsAll rows) :=
  fun hr hw v hv => hw.trans (hr v hv)

/-- A row that was joined with a further row extends this one too. -/
theorem extendsAll_of_merge {w : Row} (hr : ExtendsAll rows u) (h : Row.merge u v = some w) :
    ExtendsAll (rows ++ [v]) w := by
  obtain ⟨hu, hv, -⟩ := Row.merge_eq_some_iff.1 h
  exact List.forall_mem_append.2 ⟨fun r hrows => hu.trans (hr r hrows), by simpa using hv⟩

end Row

open Row (ExtendsAll)

/-! ## Plannings that run in parallel -/

namespace Planner

variable {R : α → β → Prop} {S : γ → δ → Prop} {p : Planner α} {q : Planner β}
  {f : α → Planner γ} {g : β → Planner δ}

/-- The computations fail with the same error, or they come to the same state and to related
results. This is asked for where the rows bind nothing that may still be drawn. -/
def Matches (U : List Row) (R : α → β → Prop) (p : Planner α) (q : Planner β) : Prop :=
  ∀ scope n, Plan.Fresh n U →
    (∃ e, p scope n = .error e ∧ q scope n = .error e) ∨
      ∃ a b n', p scope n = .ok (a, n') ∧ q scope n = .ok (b, n') ∧
        n.naming.Later n'.naming ∧ R a b

/-- Related results are given. -/
theorem matches_pure {a : α} {b : β} (h : R a b) :
    Matches U R (pure a : Planner α) (pure b : Planner β) :=
  fun _ n _ => .inr ⟨a, b, n, rfl, rfl, .refl _, h⟩

/-- A computation runs in parallel to itself. -/
theorem Draws.matches_self (hp : p.Draws) {T : α → α → Prop}
    (hT : ∀ scope n a n', Plan.Fresh n U → p scope n = .ok (a, n') → T a a) :
    Matches U T p p := by
  intro scope n hn
  cases h : p scope n with
  | error e => exact .inl ⟨e, rfl, rfl⟩
  | ok out => exact .inr ⟨out.1, out.1, out.2, rfl, rfl, hp _ _ _ _ h, hT _ _ _ _ hn h⟩

/-- Two computations in a row. -/
theorem Matches.bind (hp : Matches U R p q) (hf : ∀ a b, R a b → Matches U S (f a) (g b)) :
    Matches U S (p >>= f) (q >>= g) := by
  intro scope n hn
  rcases hp scope n hn with ⟨e, hpe, hqe⟩ | ⟨a, b, n₁, hpa, hqb, hlater, hab⟩
  · exact .inl ⟨e, Plan.bind_of_error hpe, Plan.bind_of_error hqe⟩
  · rw [Plan.bind_of_eq hpa, Plan.bind_of_eq hqb]
    rcases hf a b hab scope n₁ (hn.later hlater) with hfail | ⟨c, d, n₂, hc, hd, hlater', hcd⟩
    · exact .inl hfail
    · exact .inr ⟨c, d, n₂, hc, hd, hlater.trans hlater', hcd⟩

/-- Computations whose results are changed. -/
theorem Matches.map (hp : Matches U R p q) {f : α → γ} {g : β → δ}
    (h : ∀ a b, R a b → S (f a) (g b)) :
    Matches U S (do return f (← p)) (do return g (← q)) :=
  hp.bind fun a b hab => matches_pure (h a b hab)

/-- Lists of results. -/
theorem matches_mapM {ι : Type} {f : ι → Planner α} {g : ι → Planner β} {items : List ι}
    (h : ∀ i ∈ items, Matches U R (f i) (g i)) :
    Matches U (List.Forall₂ R) (items.mapM f) (items.mapM g) := by
  induction items with
  | nil =>
    rw [List.mapM_nil, List.mapM_nil]
    exact matches_pure .nil
  | cons i rest ih =>
    obtain ⟨hi, hrest⟩ := List.forall_mem_cons.1 h
    rw [List.mapM_cons, List.mapM_cons]
    exact hi.bind fun a b hab => (ih hrest).bind fun as bs habs => matches_pure (.cons hab habs)

/-- Of rows that extend a row, the planned stage hands on only such, unless the row binds something
that may still be drawn. -/
def Preserves (u : Row) (p : Planner Stage) : Prop :=
  p.Apart (Row.Extends · u) fun st => st.Turns (Row.Extends · u) (Row.Extends · u)

/-- A stage that grows rows keeps them. -/
theorem preserves_of_growing {p : Planner Stage} (h : p.Growing (Row.Extends · u)) : p.Preserves u := by
  intro scope n st n' hst
  obtain ⟨hlater, hgrows⟩ := h scope n st n' hst
  exact ⟨hlater, fun hahead => (hgrows hahead).turns fun hr hw => hw.trans hr⟩

/-- A stage that keeps each of some rows is alike to itself for the rows that extend all of them. -/
theorem matches_of_preserves {p : Planner Stage} (hp : p.Draws) (hrows : ∀ r ∈ rows, r ∈ U)
    (h : ∀ r ∈ rows, p.Preserves r) :
    Matches U (Stage.Alike (ExtendsAll rows) (ExtendsAll rows)) p p := by
  refine hp.matches_self fun scope n st n' hn hst => .same ?_
  refine Stage.Turns.all (I := (· ∈ rows)) fun r hr => (h r hr scope n st n' hst).2 fun v hv => ?_
  refine Row.ignores_extends (Bool.eq_false_iff.2 fun hbinds => ?_)
  exact Names.avoids_iff.1 (hn r (hrows r hr)) v hbinds hv

end Planner

/-! ## Patterns -/

/-- The triple patterns come to the same for each row with the property. -/
def TriplePattern.Agree (P : Row → Prop) (s t : TriplePattern) : Prop :=
  ∀ u, P u → s.substitute u = t.substitute u

/-- Patterns agree if their triple patterns do. -/
theorem Bgp.agree_of_forall₂ {P : Row → Prop} (h : List.Forall₂ (TriplePattern.Agree P) A B) :
    A.Agree P B := by
  intro u hu
  induction h with
  | nil => rfl
  | cons hst _ ih => exact congrArg₂ List.cons (hst u hu) ih

/-- Two triple patterns have the same blank nodes and come to the same for the rows that extend each
of some rows. -/
structure TriplePattern.Fits (rows : List Row) (s t : TriplePattern) : Prop where
  /-- The blank nodes of the subjects. -/
  subject : s.subject.label? = t.subject.label?
  /-- The blank nodes of the objects. -/
  object : s.object.label? = t.object.label?
  /-- What becomes of the patterns. -/
  agree : s.Agree (ExtendsAll rows) t

/-- Rows without blank nodes that are put into a triple pattern. -/
theorem TriplePattern.fits_inline (hrows : ∀ r ∈ rows, r.BlankFree) (t : TriplePattern) :
    (rows.foldl TriplePattern.substitute t).Fits rows t := by
  have hlabels : (rows.foldl TriplePattern.substitute t).subject.label? = t.subject.label? ∧
      (rows.foldl TriplePattern.substitute t).object.label? = t.object.label? := by
    induction rows generalizing t with
    | nil => exact ⟨rfl, rfl⟩
    | cons r rows ih =>
      obtain ⟨hr, hrest⟩ := List.forall_mem_cons.1 hrows
      obtain ⟨hsubject, hobject⟩ := ih hrest (t.substitute r)
      exact ⟨hsubject.trans (TermPattern.label?_substitute hr t.subject),
        hobject.trans (TermPattern.label?_substitute hr t.object)⟩
  refine ⟨hlabels.1, hlabels.2, fun u hu => ?_⟩
  have hB := Bgp.substitute_inline hu [t]
  exact (List.cons.inj hB).1

namespace Plan

open Planner

/-- The same blank node is given the same variable. -/
theorem matches_blankToVariable {P : Row → Prop} {p q : TermPattern} (hlabel : p.label? = q.label?)
    (hpq : ∀ u, P u → u.substitute p = u.substitute q) (labels : List (String × Variable)) :
    Matches U (fun x y => x.2 = y.2 ∧ ∀ u, P u → u.substitute x.1 = u.substitute y.1)
      (blankToVariable p labels) (blankToVariable q labels) := by
  cases hq : q.label? with
  | some label =>
    have heq : ∀ {p : TermPattern}, p.label? = some label → p = .term (.blank label) := by
      rintro (_ | _ | _ | _) h
      all_goals simp_all [TermPattern.label?]
    rw [heq hq, heq (hlabel.trans hq)]
    exact (draws_blankToVariable _ labels).matches_self fun _ _ _ _ _ _ => ⟨rfl, fun _ _ => rfl⟩
  | none =>
    have hpure : ∀ {p : TermPattern}, p.label? = none →
        blankToVariable p labels = pure (p, labels) := by
      rintro (_ | _ | _ | _) h
      all_goals simp_all [TermPattern.label?, blankToVariable]
    rw [hpure hq, hpure (hlabel.trans hq)]
    exact matches_pure ⟨rfl, hpq⟩

/-- Patterns that fit each other still do with variables in the place of their blank nodes. -/
theorem matches_blanksToVariables (h : List.Forall₂ (TriplePattern.Fits rows) A B)
    (labels : List (String × Variable)) :
    Matches U (List.Forall₂ (TriplePattern.Agree (ExtendsAll rows)))
      (blanksToVariables labels A) (blanksToVariables labels B) := by
  induction h generalizing labels with
  | nil => exact matches_pure .nil
  | @cons s t A B hst _ ih =>
    have hsubject := fun u hu => congrArg TriplePattern.subject (hst.agree u hu)
    have hobject := fun u hu => congrArg TriplePattern.object (hst.agree u hu)
    refine (matches_blankToVariable hst.subject hsubject labels).bind ?_
    rintro ⟨x, labels⟩ ⟨y, _⟩ ⟨rfl, hxy⟩
    refine (matches_blankToVariable hst.object hobject labels).bind ?_
    rintro ⟨x', labels⟩ ⟨y', _⟩ ⟨rfl, hxy'⟩
    refine (ih labels).bind fun A' B' hAB => matches_pure (.cons (fun u hu => ?_) hAB)
    have hpredicate := congrArg TriplePattern.predicate (hst.agree u hu)
    have hs : u.substitute x = u.substitute y := hxy u hu
    have ho : u.substitute x' = u.substitute y' := hxy' u hu
    show TriplePattern.mk (u.substitute x) (s.substitute u).predicate (u.substitute x') =
      TriplePattern.mk (u.substitute y) (t.substitute u).predicate (u.substitute y')
    rw [hs, ho, hpredicate]

/-- Bound joins for patterns that come to the same are alike. -/
theorem alike_joinStage
    (h : List.Forall₂ (TriplePattern.Agree (ExtendsAll rows)) A B) (scope : Scope) :
    Stage.Alike (ExtendsAll rows) (ExtendsAll rows) (joinStage scope A) (joinStage scope B) := by
  cases h with
  | nil => exact .same (Stage.Grows.input.turns (Row.upward_extendsAll rows))
  | @cons s t A B hst hAB =>
    have hagree := Bgp.agree_of_forall₂ (.cons hst hAB)
    exact .remote (j := .ofPattern ⟨t :: B, scope.address, scope.graph, scope.bufferSize,
      scope.optional⟩) (Row.upward_extendsAll rows) (fun _ hr => hr)
      (BoundJoin.carries_ofPattern _) hagree

/-- **A pattern is planned alike with and without inline rows put in.** -/
theorem matches_triplesStage (hB : B.Plain) (hrows : ∀ r ∈ rows, r.BlankFree) :
    Matches U (Stage.Alike (ExtendsAll rows) (ExtendsAll rows)) (triplesStage (B.inline rows))
      (triplesStage B) := by
  have hfits : List.Forall₂ (TriplePattern.Fits rows) (B.inline rows) B := by
    rw [Bgp.inline, List.forall₂_map_left_iff, List.forall₂_same]
    exact fun t _ => t.fits_inline hrows
  have hinline : (B.inline rows).Plain := plain_foldl_substitute hB rows
  rw [triplesStage_of_plain hB, triplesStage_of_plain hinline]
  refine (matches_blanksToVariables hfits []).bind fun A' B' hagree => ?_
  refine (draws_read.matches_self (T := Eq) fun _ _ _ _ _ _ => rfl).map fun scope _ hscope => ?_
  exact hscope ▸ alike_joinStage hagree scope

/-! ## Groups -/

/-- The stage of the clauses of a group, with rows that are put into its basic graph patterns in some
manner. -/
def clausesStageWith (put : List Row → Bgp → Bgp) (rows : List Row) : List Clause → Planner Stage
  | [] => pure .input
  | .values inline :: rest => do
    let branches ← inline.mapM fun row => do
      return (Stage.values row).andThen (← clausesStageWith put (rows ++ [row]) rest)
    pure (.forkOf branches)
  | .triples triples :: rest => do
    let upper ← triplesStage (put rows triples)
    return upper.andThen (← clausesStageWith put rows rest)
  | .filter condition :: rest => do
    return (Stage.filter condition).andThen (← clausesStageWith put rows rest)
  | .other plan :: rest => do
    let upper ← plan
    return upper.andThen (← clausesStageWith put rows rest)

/-- Inline rows are put in one after the other. -/
theorem clausesStage_eq_with (rows : List Row) (clauses : List Clause) :
    clausesStage rows clauses = clausesStageWith Bgp.inline rows clauses := by
  induction clauses generalizing rows with
  | nil => rfl
  | cons clause rest ih =>
    cases clause with
    | values inline => simp only [clausesStage, clausesStageWith, ih]
    | triples triples => simp only [clausesStage, clausesStageWith, ih, Bgp.inline]
    | filter condition => simp only [clausesStage, clausesStageWith, ih]
    | other plan => simp only [clausesStage, clausesStageWith, ih]

/-- A pattern without paths is left as it is. -/
def keepPlain (rows : List Row) (B : Bgp) : Bgp :=
  if B.all (!·.hasPath) then B else B.inline rows

/-- The stage of a group whose patterns without paths are left as they are. -/
def groupStageKept (clauses : List Clause) : Planner Stage :=
  clausesStageWith keepPlain [] (Arrangement.arrange clauses)

/-- Without patterns it does not matter in which manner rows are put into them. -/
theorem clausesStageWith_congr {clauses : List Clause} (h : ∀ B, Clause.triples B ∉ clauses)
    (put put' : List Row → Bgp → Bgp) (rows : List Row) :
    clausesStageWith put rows clauses = clausesStageWith put' rows clauses := by
  induction clauses generalizing rows with
  | nil => rfl
  | cons clause rest ih =>
    have hrest := ih fun B hB => h B (List.mem_cons_of_mem _ hB)
    cases clause with
    | values inline => simp only [clausesStageWith, hrest]
    | triples B => exact absurd List.mem_cons_self (h B)
    | filter condition => simp only [clausesStageWith, hrest]
    | other plan => simp only [clausesStageWith, hrest]

/-- A clause that was planned before stands above a pattern. -/
def StandsAbove (plan : Planner Stage) (clauses : List Clause) : Prop :=
  ∃ before after B, clauses = before ++ .other plan :: after ∧ Clause.triples B ∈ after

/-- It stands there with further clauses in front, too. -/
theorem StandsAbove.cons {plan : Planner Stage} {clauses : List Clause}
    (h : StandsAbove plan clauses) (clause : Clause) : StandsAbove plan (clause :: clauses) := by
  obtain ⟨before, after, B, rfl, hB⟩ := h
  exact ⟨clause :: before, after, B, rfl, hB⟩

/-- **A group is planned alike with and without inline rows put in.** -/
theorem matches_clausesStage {clauses : List Clause}
    (hdraws : ∀ plan, Clause.other plan ∈ clauses → plan.Draws)
    (hrows : ∀ r ∈ rows, r ∈ U ∧ r.BlankFree)
    (hvalues : ∀ inline, Clause.values inline ∈ clauses → ∀ r ∈ inline, r ∈ U ∧ r.BlankFree)
    (hpreserves : ∀ plan, StandsAbove plan clauses → ∀ r ∈ U, plan.Preserves r) :
    Matches U (Stage.Alike (ExtendsAll rows) fun _ => True) (clausesStage rows clauses)
      (clausesStageWith keepPlain rows clauses) := by
  induction clauses generalizing rows with
  | nil => exact matches_pure (.same (Stage.turns_any .input))
  | cons clause rest ih =>
    obtain ⟨hinU, hblank⟩ := forall₂_and.1 hrows
    have hbelow : ∀ {rows : List Row}, (∀ r ∈ rows, r ∈ U ∧ r.BlankFree) →
        Matches U (Stage.Alike (ExtendsAll rows) fun _ => True) (clausesStage rows rest)
          (clausesStageWith keepPlain rows rest) := fun hrows =>
      ih (fun plan h => hdraws plan (List.mem_cons_of_mem _ h)) hrows
        (fun inline h => hvalues inline (List.mem_cons_of_mem _ h))
        fun plan h => hpreserves plan (h.cons clause)
    -- What stands above the rest keeps the rows that extend all inline rows.
    have habove : ∀ {p q : Planner Stage},
        Matches U (Stage.Alike (ExtendsAll rows) (ExtendsAll rows)) p q →
        Matches U (Stage.Alike (ExtendsAll rows) fun _ => True)
          (do return (← p).andThen (← clausesStage rows rest))
          (do return (← q).andThen (← clausesStageWith keepPlain rows rest)) := fun hpq =>
      hpq.bind fun _ _ hupper => (hbelow hrows).map fun _ _ hlower =>
        hupper.andThen hlower (fun _ => hlower) fun _ _ => trivial
    cases clause with
    | values inline =>
      have hinline := hvalues inline List.mem_cons_self
      refine (matches_mapM fun r hr => ?_).map fun _ _ hbranches => .forkOf hbranches
      have hvalue : Stage.Alike (ExtendsAll rows) (ExtendsAll (rows ++ [r])) (.values r)
          (.values r) :=
        .same (Stage.turns_values fun _ _ hu hmerge => Row.extendsAll_of_merge hu hmerge)
      have hbranch : ∀ w ∈ rows ++ [r], w ∈ U ∧ w.BlankFree :=
        List.forall_mem_append.2 ⟨hrows, by simpa using hinline r hr⟩
      exact (hbelow hbranch).map fun _ _ hlower => hvalue.andThen hlower nofun fun _ _ => trivial
    | triples triples =>
      refine habove ?_
      show Matches U _ (triplesStage (Bgp.inline rows triples)) (triplesStage (keepPlain rows triples))
      unfold keepPlain
      split
      · next hplain => exact matches_triplesStage (by simpa [Bgp.Plain] using hplain) hblank
      · exact matches_of_preserves (draws_triplesStage _) hinU fun r _ =>
          preserves_of_growing (growing_triplesStage _)
    | filter condition =>
      refine habove (p := pure (.filter condition)) (q := pure (.filter condition)) ?_
      exact matches_pure (.same ((Stage.Grows.filter condition).turns (Row.upward_extendsAll rows)))
    | other plan =>
      by_cases hpattern : ∃ B, Clause.triples B ∈ rest
      · obtain ⟨B, hB⟩ := hpattern
        have hplan := hpreserves plan ⟨[], rest, B, rfl, hB⟩
        exact habove (matches_of_preserves (hdraws plan List.mem_cons_self) hinU
          fun r hr => hplan r (hinU r hr))
      · -- Nothing is put in from here on, so that the plans are the same.
        have hnone : ∀ B, Clause.triples B ∉ Clause.other plan :: rest := by
          simpa using hpattern
        rw [clausesStageWith_congr hnone keepPlain Bgp.inline, ← clausesStage_eq_with]
        exact (draws_clausesStage hdraws rows).matches_self fun _ _ st _ _ _ => .same st.turns_any

/-- The inline rows of a group. -/
def inlinedRows (patterns : List Algebra) : List Row :=
  patterns.flatMap fun
    | .values rows => inlineRows rows
    | _ => []

/-- The clauses of inline rows hold the inline rows of the group. -/
theorem mem_inlinedRows {patterns : List Algebra} {inline : List Row}
    (h : Clause.values inline ∈ clauses patterns) : ∀ r ∈ inline, r ∈ inlinedRows patterns := by
  intro r hr
  induction patterns with
  | nil => exact absurd h List.not_mem_nil
  | cons a rest ih =>
    refine List.mem_append.2 ((List.mem_cons.1 h).imp (fun h => ?_) ih)
    cases a <;> simp_all [clauseOf, isSubquery]

/-- **What keeps an inline row**: queries in the group, nodes that only extend, and bindings of
variables that the inline row does not have. -/
theorem preserves_clauses {patterns : List Algebra}
    (h : ∀ a ∈ patterns, isSubquery a = true ∨ a.isGrowing = true ∨
      ∃ v e, a = .bind v e ∧ u.binds v = false) {plan : Planner Stage}
    (hplan : Clause.other plan ∈ clauses patterns) : plan.Preserves u := by
  induction patterns with
  | nil => exact absurd hplan List.not_mem_nil
  | cons a rest ih =>
    obtain ⟨ha, hrest⟩ := List.forall_mem_cons.1 h
    rcases List.mem_cons.1 hplan with hplan | hplan
    · have hgrown : isSubquery a = true ∨ a.isGrowing = true → plan.Preserves u := fun ha =>
        preserves_of_growing (growing_clauseOf (draws_stage a)
          (fun hsub => growing_stage a (ha.resolve_left (by simp [hsub]))) hplan.symm)
      rcases ha with hsub | hgrowing | ⟨v, e, rfl, hv⟩
      · exact hgrown (.inl hsub)
      · exact hgrown (.inr hgrowing)
      · obtain rfl := Clause.other.inj hplan
        exact apart_pure (Stage.turns_bind (Row.ignores_extends hv) e)
    · exact ih hrest hplan

/-- Clauses that were planned before come from the group. -/
theorem mem_of_standsAbove {clauses : List Clause} {plan : Planner Stage}
    (h : StandsAbove plan (Arrangement.arrange clauses)) : Clause.other plan ∈ clauses := by
  obtain ⟨before, after, B, heq, -⟩ := h
  have hmem : Clause.other plan ∈ Arrangement.arrange clauses := by simp [heq]
  exact (Arrangement.mem_arrange hmem).resolve_right (by simp [Arrangeable.ofTriples])

/-- Planning in two manners fails with the same error or ends in the same state; and whatever stands
above the two stages, no pull tells them apart: they send the same requests and hand on the same
rows, also if clients are closed between the pulls. -/
def Indistinct (p q : Planner Stage) (scope : Scope) (n : PlanState) : Prop :=
  (∃ e, p scope n = .error e ∧ q scope n = .error e) ∨
    ∃ st st' n', p scope n = .ok (st, n') ∧ q scope n = .ok (st', n') ∧
      ∀ {σ : Type} (net : Network σ) (now : DateTime) (upper : Stage)
        (schedule : List (Nat × (Session σ → Session σ))) (s : Session σ),
        (upper.andThen st).pulls net now schedule s = (upper.andThen st').pulls net now schedule s

/-- **Inline rows may be put into patterns.** For rows that extend a row, a pattern and what the row
leaves of it have the same rounds. So if no inline row of a group has a blank node, and the clauses
that stand above a pattern hand on only rows that extend the inline rows as long as such rows come in,
then nobody can tell whether inline rows are put into the patterns without paths. -/
theorem groupStage_inline (patterns : List Algebra)
    (hblank : ∀ r ∈ inlinedRows patterns, r.BlankFree)
    (hpreserves : ∀ plan, StandsAbove plan (Arrangement.arrange (clauses patterns)) →
      ∀ r ∈ inlinedRows patterns, plan.Preserves r) :
    (∀ (B : Bgp) (v : Row) (bucket : List Row), (∀ u ∈ bucket, u.Extends v) →
      RoundTable.patterns (B.substitute v) bucket = RoundTable.patterns B bucket ∧
        RoundTable.build (B.substitute v) bucket = RoundTable.build B bucket) ∧
    ∀ scope n, Fresh n (inlinedRows patterns) →
      Indistinct (groupStage (clauses patterns)) (groupStageKept (clauses patterns)) scope n := by
  refine ⟨fun B v bucket h => RoundTable.build_substitute h B, fun scope n hn => ?_⟩
  have hmatches : Matches (inlinedRows patterns) (Stage.Alike (ExtendsAll []) fun _ => True)
      (clausesStage [] (Arrangement.arrange (clauses patterns)))
      (groupStageKept (clauses patterns)) := by
    refine matches_clausesStage (fun plan hplan => ?_) (by simp) (fun inline hinline r hr => ?_)
      hpreserves
    · refine draws_clauses patterns plan ?_
      exact (Arrangement.mem_arrange hplan).resolve_right (by simp [Arrangeable.ofTriples])
    · have hmem : Clause.values inline ∈ clauses patterns :=
        (Arrangement.mem_arrange hinline).resolve_right (by simp [Arrangeable.ofTriples])
      have hr := mem_inlinedRows hmem r hr
      exact ⟨hr, hblank r hr⟩
  refine (hmatches scope n hn).imp_right fun ⟨st, st', n', hst, hst', _, halike⟩ =>
    ⟨st, st', n', hst, hst', fun net now upper schedule s => ?_⟩
  have hupper : Stage.Alike (ExtendsAll []) (ExtendsAll []) upper upper :=
    .same ((Stage.turns_any upper).mono fun _ _ => by simp [ExtendsAll])
  exact (hupper.andThen halike (fun _ => halike) fun _ _ => trivial).pulls net now schedule s

end Plan

namespace Sample

open Plan

/-- A blank node as inline rows of a query. -/
def blankCell : VariableMap (Option Term) := .ofList [(⟨"x"⟩, some (.blank "b"))]

/-- The row with the blank node. -/
def blankHalf : Row := .ofList [(⟨"x"⟩, .blank "b")]

/-- A binding of a variable to a fixed term. -/
def fixed (v : Variable) : Stage := .bind v (.leaf (.term unknown))

/-- An inline row, a binding and a pattern. -/
def rebound (cell : VariableMap (Option Term)) (v : Variable) : List Algebra :=
  [.values [cell], .bind v (.leaf (.term unknown)), .bgp triples]

/-- An inline resource above the binding of another variable. -/
def beside : List Algebra := rebound (inlined "http://example.org/a") ⟨"z"⟩

/-- An inline resource above a binding of its own variable. -/
def overwritten : List Algebra := rebound (inlined "http://example.org/a") ⟨"x"⟩

/-- An inline blank node above the binding of another variable. -/
def labelled : List Algebra := rebound blankCell ⟨"z"⟩

/-- The stage of a group of this form, with what the pattern has become. -/
def branch (r : Row) (v : Variable) (triples : Bgp) : Stage :=
  .forkOf [.chain (.values r) (.chain (fixed v) (.remote (.ofPattern { goal 2 with triples })))]

/-- The queries that are sent for one empty row. -/
def asked (st : Stage) : List String :=
  ((Stage.source [.empty] .done).andThen st |>.pulls (.ofReplies strangerReply) now [(12, id)]
    session).flatMap fun out => out.2.log.map (·.2.query)

variable {cell : VariableMap (Option Term)} {r : Row}

/-- The plan of a group of this form. -/
theorem clausesStageWith_rebound (put : List Row → Bgp → Bgp) (hcell : inlineRows [cell] = [r])
    (v : Variable) (hB : (put [r] triples).Plain) :
    clausesStageWith put [] (Arrangement.arrange (clauses (rebound cell v))) = do
      let B ← blanksToVariables [] (put [r] triples)
      return .forkOf [(Stage.values r).andThen ((fixed v).andThen (joinStage (← read) B))] := by
  have harrange : Arrangement.arrange (clauses (rebound cell v)) =
      [.values [r], .other (pure (fixed v)), .triples triples] := by
    rw [← hcell]
    rfl
  simp only [harrange, clausesStageWith, List.mapM_cons, List.mapM_nil, triplesStage_of_plain hB,
    List.nil_append, bind_assoc, pure_bind, Stage.andThen_input]

/-- The plan in which the pattern is left as it is. -/
theorem groupStageKept_rebound (hcell : inlineRows [cell] = [r]) (v : Variable) :
    groupStageKept (clauses (rebound cell v)) place reserved =
      .ok (branch r v triples, reserved) := by
  rw [groupStageKept, clausesStageWith_rebound keepPlain hcell v plain]
  rfl

/-- The plan in which a resource is put into the pattern. -/
theorem groupStage_rebound (v : Variable) :
    groupStage (clauses (rebound (inlined "http://example.org/a") v)) place reserved =
      .ok (branch half v (Bgp.inline [half] triples), reserved) := by
  rw [groupStage, clausesStage_eq_with, clausesStageWith_rebound Bgp.inline inlineRows_inlined v
    (plain_foldl_substitute plain [half])]
  rfl

/-- The inline blank node is one row. -/
theorem inlineRows_blankCell : inlineRows [blankCell] = [blankHalf] := by decide

/-- The plan in which a blank node is put into the pattern and is given a variable there. -/
theorem groupStage_blank (v : Variable) :
    groupStage (clauses (rebound blankCell v)) place reserved =
      .ok (branch blankHalf v [⟨.variable reserved.naming.draw.1,
          .plain (.term (.iri "http://example.org/p")), .variable ⟨"y"⟩⟩],
        { reserved with naming := reserved.naming.draw.2 }) := by
  rw [groupStage, clausesStage_eq_with, clausesStageWith_rebound Bgp.inline inlineRows_blankCell v
    (plain_foldl_substitute plain [blankHalf])]
  rfl

/-- The inline row of a group of this form. -/
theorem inlinedRows_rebound (hcell : inlineRows [cell] = [r]) (v : Variable) :
    inlinedRows (rebound cell v) = [r] := by
  show inlineRows [cell] ++ [] = _
  rw [hcell]
  rfl

/-- The variable of the inline row is reserved. -/
theorem fresh_rebound {t : Term} (hcell : inlineRows [cell] = [.ofList [(⟨"x"⟩, t)]])
    (v : Variable) : Fresh reserved (inlinedRows (rebound cell v)) := by
  rw [inlinedRows_rebound hcell]
  intro u hu
  obtain rfl := List.mem_singleton.1 hu
  exact Names.avoids_of_reserved fun w hw => by simp [eq_of_binds_single hw, reserved]

end Sample

namespace Plan

open Sample

/-- An inline resource above the binding of another variable. -/
theorem groupStage_inline_sample :
    (∀ r ∈ inlinedRows beside, r.BlankFree) ∧
      (∀ plan, StandsAbove plan (Arrangement.arrange (clauses beside)) →
        ∀ r ∈ inlinedRows beside, plan.Preserves r) ∧
      Fresh reserved (inlinedRows beside) ∧
      (∃ st, groupStage (clauses beside) place reserved = .ok (st, reserved) ∧
        asked st =
          ["SELECT * WHERE \x7b <http://example.org/a> <http://example.org/p> ?y_0 . \x7d"]) ∧
      Indistinct (groupStage (clauses beside)) (groupStageKept (clauses beside)) place reserved := by
  have hrows : inlinedRows beside = [half] := inlinedRows_rebound inlineRows_inlined _
  have hblank : ∀ r ∈ inlinedRows beside, r.BlankFree := by
    rw [hrows]
    simpa using blankFree_half
  have hunbound : half.binds ⟨"z"⟩ = false := by decide
  have hpreserves : ∀ plan, StandsAbove plan (Arrangement.arrange (clauses beside)) →
      ∀ r ∈ inlinedRows beside, plan.Preserves r := by
    rw [hrows]
    intro plan habove r hr
    rw [List.mem_singleton.1 hr]
    refine preserves_clauses (List.forall_mem_cons.2 ⟨.inr (.inl rfl), List.forall_mem_cons.2
      ⟨.inr (.inr ⟨_, _, rfl, hunbound⟩), ?_⟩⟩) (mem_of_standsAbove habove)
    exact List.forall_mem_singleton.2 (.inr (.inl rfl))
  have hfresh : Fresh reserved (inlinedRows beside) := fresh_rebound inlineRows_inlined _
  exact ⟨hblank, hpreserves, hfresh, ⟨_, groupStage_rebound _, by decide⟩,
    (groupStage_inline beside hblank hpreserves).2 place reserved hfresh⟩

/-- **A blank node that is put into a pattern gets a variable there**, and a binding may give the
variable of an inline row another term: then it does matter whether inline rows are put into
patterns, since other requests are sent. -/
theorem groupStage_inline_matters :
    (Fresh reserved (inlinedRows labelled) ∧ ∃ st st' n',
      groupStage (clauses labelled) place reserved = .ok (st, n') ∧
        groupStageKept (clauses labelled) place reserved = .ok (st', reserved) ∧
        asked st = ["SELECT * WHERE \x7b ?__v0_0 <http://example.org/p> ?y_0 . \x7d"] ∧
        asked st' = ["SELECT * WHERE \x7b _:b <http://example.org/p> ?y_0 . \x7d"]) ∧
    (Fresh reserved (inlinedRows overwritten) ∧ ∃ st st',
      groupStage (clauses overwritten) place reserved = .ok (st, reserved) ∧
        groupStageKept (clauses overwritten) place reserved = .ok (st', reserved) ∧
        asked st =
          ["SELECT * WHERE \x7b <http://example.org/a> <http://example.org/p> ?y_0 . \x7d"] ∧
        asked st' =
          ["SELECT * WHERE \x7b <http://example.org/b> <http://example.org/p> ?y_0 . \x7d"]) := by
  refine ⟨⟨fresh_rebound inlineRows_blankCell _, _, _, _, groupStage_blank _,
    groupStageKept_rebound inlineRows_blankCell _, ?_, ?_⟩,
    ⟨fresh_rebound inlineRows_inlined _, _, _, groupStage_rebound _,
      groupStageKept_rebound inlineRows_inlined _, ?_, ?_⟩⟩
  · decide
  · decide
  · decide
  · decide

end Plan

end PagedSparql
