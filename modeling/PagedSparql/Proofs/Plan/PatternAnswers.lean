import PagedSparql.Proofs.Plan.PatternRows

/-!
# Basic graph patterns join rows with their visible solutions

A basic graph pattern, planned anywhere in a query, makes of rows their joins with its visible
solutions, as far as the variables of the query are concerned; in an optional group it also keeps
the rows that have no such join (`Plan.triplesStage_solves`). So it makes no difference which
variables were drawn before. Nor does it for a row whether another one that it extends was put into
the pattern before (`Bgp.solve_substitute`).
-/

namespace PagedSparql

open scoped RowBag

variable {σ : Type} {E : Scene σ} {scope : Scope} {n n' : PlanState} {H : Set Variable}

/-! ## Blank nodes -/

namespace Planner

/-- A fresh variable is the next one. -/
theorem fresh_inv {v : Variable} (h : Planner.fresh scope n = .ok (v, n')) :
    v = n.naming.draw.1 ∧ n'.naming = n.naming.draw.2 := by
  have hfresh : Planner.fresh scope n = .ok (n.naming.draw.1, { n with naming := n.naming.draw.2 }) :=
    rfl
  rw [hfresh] at h
  obtain ⟨rfl, rfl⟩ := Prod.mk.inj (Except.ok.inj h)
  exact ⟨rfl, rfl⟩

/-- A computation that draws variables goes on with the source that it leaves. -/
theorem naming_spec {α : Type} {g : Naming → Except BuildError (α × Naming)} {a : α}
    (h : naming g scope n = .ok (a, n')) : g n.naming = .ok (a, n'.naming) := by
  obtain ⟨s, n₁, hget, h⟩ := bind_inv h
  obtain ⟨⟨b, names⟩, n₂, hg, h⟩ := bind_inv h
  obtain ⟨_, n₃, hset, h⟩ := bind_inv h
  obtain ⟨rfl, rfl⟩ := pure_inv h
  obtain ⟨rfl, rfl⟩ := get_inv hget
  obtain rfl := set_inv hset
  exact (ofExcept_inv hg).1

end Planner

namespace Plan

open Planner

/-- The variables that labels have got so far: they are different, among some others, and are not
drawn again. -/
structure Labelled (H : Set Variable) (labels : List (String × Variable)) (n : Naming) : Prop where
  /-- They are among some variables. -/
  mem : ∀ label v, labels.lookup label = some v → v ∈ H
  /-- They are not drawn again. -/
  drawn : ∀ label v, labels.lookup label = some v → v ∉ n.names.Ahead
  /-- Different labels have different variables. -/
  inj : ∀ label label' v, labels.lookup label = some v → labels.lookup label' = some v →
    label = label'

variable {labels labels' : List (String × Variable)}

/-- A function gives labels the variables that they have got. -/
def Gives (labels : List (String × Variable)) (g : String → Variable) : Prop :=
  ∀ label v, labels.lookup label = some v → g label = v

/-- Labels keep their variables. -/
def Keeps (labels labels' : List (String × Variable)) : Prop :=
  ∀ label v, labels.lookup label = some v → labels'.lookup label = some v

/-- What a label has got in a longer list. -/
theorem lookup_cons {label label' : String} {v w : Variable}
    (h : ((label, v) :: labels).lookup label' = some w) :
    label' = label ∧ w = v ∨ labels.lookup label' = some w := by
  rw [List.lookup_cons] at h
  split at h
  · next heq => exact .inl ⟨by simpa using heq, (Option.some.inj h).symm⟩
  · exact .inr h

/-- A label that has none gets a fresh variable. -/
theorem Labelled.cons {m : Naming} (h : Labelled H labels m) (hH : m.names.Ahead ⊆ H)
    (label : String) : Labelled H ((label, m.draw.1) :: labels) m.draw.2 where
  mem label' w hw := by
    rcases lookup_cons hw with ⟨-, rfl⟩ | hw
    · exact hH ⟨0, rfl⟩
    · exact h.mem label' w hw
  drawn label' w hw hahead := by
    rcases lookup_cons hw with ⟨-, rfl⟩ | hw
    · have hnone : m.names.Avoids ∅ := fun _ => id
      exact Names.avoids_iff.1 hnone.fresh _ (.inl rfl) hahead
    · exact h.drawn label' w hw ((Naming.later_draw m).ahead_subset hahead)
  inj label₁ label₂ w hw hw' := by
    have hold : ∀ label', labels.lookup label' ≠ some m.draw.1 := fun label' hw =>
      h.drawn label' _ hw ⟨0, rfl⟩
    rcases lookup_cons hw with ⟨rfl, rfl⟩ | hw
    · rcases lookup_cons hw' with ⟨rfl, -⟩ | hw'
      · rfl
      · exact absurd hw' (hold label₂)
    · rcases lookup_cons hw' with ⟨-, rfl⟩ | hw'
      · exact absurd hw (hold label₁)
      · exact h.inj label₁ label₂ w hw hw'

/-- A blank node gets the variable of its label. -/
theorem blankToVariable_inv {p p' : TermPattern}
    (h : blankToVariable p labels scope n = .ok ((p', labels'), n'))
    (hl : Labelled H labels n.naming) (hH : n.naming.names.Ahead ⊆ H) :
    Labelled H labels' n'.naming ∧ Keeps labels labels' ∧
      (∀ label ∈ p.label?.toList, (labels'.lookup label).isSome = true) ∧
      ∀ g, Gives labels' g → p' = p.unblank g := by
  have hpure : (pure (p, labels) : Planner _) scope n = .ok ((p', labels'), n') →
      p.label? = none → (∀ g, p.unblank g = p) → Labelled H labels' n'.naming ∧
      Keeps labels labels' ∧ (∀ label ∈ p.label?.toList, (labels'.lookup label).isSome = true) ∧
      ∀ g, Gives labels' g → p' = p.unblank g := by
    intro h hnone hsame
    obtain ⟨heq, rfl⟩ := pure_inv h
    obtain ⟨rfl, rfl⟩ := Prod.mk.inj heq
    exact ⟨hl, fun _ _ => id, by simp [hnone], fun g _ => (hsame g).symm⟩
  match p with
  | .variable v => exact hpure h rfl fun _ => rfl
  | .term (.iri _) => exact hpure h rfl fun _ => rfl
  | .term (.literal _) => exact hpure h rfl fun _ => rfl
  | .term (.blank label) =>
    rw [blankToVariable] at h
    cases hlabel : labels.lookup label with
    | some v =>
      rw [hlabel] at h
      obtain ⟨heq, rfl⟩ := pure_inv h
      obtain ⟨rfl, rfl⟩ := Prod.mk.inj heq
      refine ⟨hl, fun _ _ => id, fun label' hmem => ?_, fun g hg => ?_⟩
      · obtain rfl : label' = label := by simpa [TermPattern.label?] using hmem
        rw [hlabel]
        rfl
      · rw [TermPattern.unblank, hg _ _ hlabel]
    | none =>
      rw [hlabel] at h
      obtain ⟨v, n₁, hfresh, h⟩ := bind_inv h
      obtain ⟨heq, rfl⟩ := pure_inv h
      obtain ⟨rfl, rfl⟩ := Prod.mk.inj heq
      obtain ⟨rfl, hnaming⟩ := fresh_inv hfresh
      have hself : ((label, n.naming.draw.1) :: labels).lookup label = some n.naming.draw.1 := by
        rw [List.lookup_cons, beq_self_eq_true]
      refine ⟨hnaming ▸ hl.cons hH label, fun label' w hw => ?_, fun label' hmem => ?_,
        fun g hg => ?_⟩
      · have hne : (label' == label) = false := by
          rw [beq_eq_false_iff_ne]
          rintro rfl
          exact absurd (hlabel.symm.trans hw) (by simp)
        rw [List.lookup_cons, hne]
        exact hw
      · obtain rfl : label' = label := by simpa [TermPattern.label?] using hmem
        rw [hself]
        rfl
      · rw [TermPattern.unblank, hg _ _ hself]

/-- The blank nodes of a pattern get variables, different ones for different labels. -/
theorem blanksToVariables_inv {B B' : Bgp}
    (h : blanksToVariables labels B scope n = .ok (B', n'))
    (hl : Labelled H labels n.naming) (hH : n.naming.names.Ahead ⊆ H) :
    ∃ labels', Labelled H labels' n'.naming ∧ Keeps labels labels' ∧
      (∀ label ∈ B.labels, (labels'.lookup label).isSome = true) ∧
      ∀ g, Gives labels' g → B' = B.unblank g := by
  induction B generalizing labels n B' with
  | nil =>
    obtain ⟨rfl, rfl⟩ := pure_inv h
    exact ⟨labels, hl, fun _ _ => id, fun label hlabel => absurd hlabel List.not_mem_nil,
      fun _ _ => rfl⟩
  | cons t rest ih =>
    obtain ⟨⟨s, labels₁⟩, n₁, hs, h⟩ := bind_inv h
    obtain ⟨⟨o, labels₂⟩, n₂, ho, h⟩ := bind_inv h
    obtain ⟨rest', n₃, hrest, h⟩ := bind_inv h
    obtain ⟨rfl, rfl⟩ := pure_inv h
    have hlater₁ := draws_blankToVariable _ _ _ _ _ _ hs
    have hlater₂ := draws_blankToVariable _ _ _ _ _ _ ho
    obtain ⟨hl₁, hkeep₁, hhas₁, hgive₁⟩ := blankToVariable_inv hs hl hH
    have hH₁ := hlater₁.ahead_subset.trans hH
    obtain ⟨hl₂, hkeep₂, hhas₂, hgive₂⟩ := blankToVariable_inv ho hl₁ hH₁
    obtain ⟨labels', hl', hkeep, hhas, hgive⟩ := ih hrest hl₂ (hlater₂.ahead_subset.trans hH₁)
    have hsome : ∀ {labels labels' : List (String × Variable)}, Keeps labels labels' →
        ∀ {label}, (labels.lookup label).isSome = true → (labels'.lookup label).isSome = true := by
      intro labels labels' hkeep label hlabel
      obtain ⟨v, hv⟩ := Option.isSome_iff_exists.1 hlabel
      rw [hkeep label v hv]
      rfl
    refine ⟨labels', hl', fun label v hv => hkeep _ _ (hkeep₂ _ _ (hkeep₁ _ _ hv)), ?_,
      fun g hg => ?_⟩
    · refine Bgp.forall_mem_labels_cons.2 ⟨⟨fun label hlabel => ?_, fun label hlabel => ?_⟩, hhas⟩
      · exact hsome hkeep (hsome hkeep₂ (hhas₁ label hlabel))
      · exact hsome hkeep (hhas₂ label hlabel)
    · have hg₂ : Gives labels₂ g := fun label v hv => hg label v (hkeep label v hv)
      have hg₁ : Gives labels₁ g := fun label v hv => hg₂ label v (hkeep₂ label v hv)
      obtain rfl := hgive₁ g hg₁
      obtain rfl := hgive₂ g hg₂
      obtain rfl := hgive g hg
      rfl

/-- **Blank nodes become variables**: different ones for different labels, none of which is drawn
again. -/
theorem exists_unblank {B B' : Bgp} (h : blanksToVariables [] B scope n = .ok (B', n')) :
    ∃ g, B' = B.unblank g ∧ Set.InjOn g {label | label ∈ B.labels} ∧
      ∀ label ∈ B.labels, g label ∈ n.naming.names.Ahead ∧ g label ∉ n'.naming.names.Ahead := by
  have hnone : Labelled n.naming.names.Ahead [] n.naming := by
    constructor <;> simp
  obtain ⟨labels', hl, -, hhas, hgive⟩ := blanksToVariables_inv h hnone subset_rfl
  let g : String → Variable := fun label => (labels'.lookup label).getD ⟨label⟩
  have hg : Gives labels' g := fun label v hv => by
    show (labels'.lookup label).getD _ = v
    rw [hv]
    rfl
  have hlookup : ∀ label ∈ B.labels, labels'.lookup label = some (g label) := fun label hlabel => by
    obtain ⟨v, hv⟩ := Option.isSome_iff_exists.1 (hhas label hlabel)
    rw [hv, hg label v hv]
  refine ⟨g, hgive g hg, fun label hlabel label' hlabel' heq => ?_, fun label hlabel => ?_⟩
  · exact hl.inj label label' _ (hlookup label hlabel) (heq ▸ hlookup label' hlabel')
  · exact ⟨hl.mem label _ (hlookup label hlabel), hl.drawn label _ (hlookup label hlabel)⟩

end Plan

/-! ## Inline rows -/

/-- No variable is bound to a blank node. -/
def Row.BlankFree (r : Row) : Prop := ∀ v label, r.get? v ≠ some (.blank label)

namespace TermPattern

variable {r u : Row}

/-- Rows without blank nodes put none into a position. -/
theorem label?_substitute (hr : r.BlankFree) (p : TermPattern) :
    (r.substitute p).label? = p.label? := by
  cases p with
  | term t => rfl
  | «variable» v =>
    rw [Row.substitute]
    cases hv : r.get? v with
    | none => rfl
    | some t =>
      cases t with
      | blank label => exact absurd hv (hr v label)
      | iri _ => rfl
      | literal _ => rfl

/-- A row that extends another one may be put into a position alone. -/
theorem substitute_substitute (hu : u.Extends r) (p : TermPattern) :
    u.substitute (r.substitute p) = u.substitute p := by
  cases p with
  | term t => rfl
  | «variable» v =>
    cases hv : r.get? v with
    | none => simp only [Row.substitute, hv]
    | some t => simp only [Row.substitute, hv, hu v t hv]

/-- The same with variables in the place of blank nodes. -/
theorem substitute_unblank_substitute (hr : r.BlankFree) (hu : u.Extends r) (g : String → Variable)
    (p : TermPattern) : u.substitute ((r.substitute p).unblank g) = u.substitute (p.unblank g) := by
  cases p with
  | term t => rfl
  | «variable» v =>
    cases hv : r.get? v with
    | none => simp only [Row.substitute, hv]
    | some t =>
      cases t with
      | blank label => exact absurd hv (hr v label)
      | iri _ => simp only [Row.substitute, hv, unblank, hu v _ hv]
      | literal _ => simp only [Row.substitute, hv, unblank, hu v _ hv]

end TermPattern

namespace Bgp

variable {A B : Bgp} {r u : Row} {rows : List Row}

/-- Rows without blank nodes leave the labels of a pattern. -/
theorem labels_substitute (hr : r.BlankFree) (B : Bgp) : (B.substitute r).labels = B.labels := by
  rw [labels, labels, substitute, List.flatMap_map]
  refine List.flatMap_congr fun t _ => ?_
  show (r.substitute t.subject).label?.toList ++ (r.substitute t.object).label?.toList = _
  rw [TermPattern.label?_substitute hr, TermPattern.label?_substitute hr]

/-- Rows leave some of the variables of a pattern. -/
theorem forall_mem_allVars_substitute {p : Variable → Prop} (r : Row)
    (h : ∀ v ∈ B.allVars, p v) : ∀ v ∈ (B.substitute r).allVars, p v := by
  have hterm : ∀ {q : TermPattern}, (∀ v ∈ q.var?.toList, p v) →
      ∀ v ∈ (r.substitute q).var?.toList, p v := by
    intro q hq v hv
    rw [TermPattern.var?_substitute] at hv
    exact hq v (List.mem_of_mem_filter hv)
  intro v hv
  obtain ⟨t', ht', hv⟩ := List.mem_flatMap.1 hv
  obtain ⟨t, ht, rfl⟩ := List.mem_map.1 ht'
  obtain ⟨hs, hp, ho⟩ := TriplePattern.forall_mem_allVars.1
    fun v hv => h v (List.mem_flatMap.2 ⟨t, ht, hv⟩)
  obtain ⟨s, q, o⟩ := t
  refine TriplePattern.forall_mem_allVars.2 ⟨hterm hs, ?_, hterm ho⟩ v hv
  cases q with
  | plain q => exact hterm hp
  | path kind items => exact hp

/-- A row that extends another one may be put into a pattern alone. -/
theorem substitute_unblank_substitute (hr : r.BlankFree) (hu : u.Extends r) (g : String → Variable)
    (B : Bgp) : ((B.substitute r).unblank g).substitute u = (B.unblank g).substitute u := by
  simp only [unblank, mapEnds, substitute, List.map_map]
  refine List.map_congr_left fun t _ => ?_
  obtain ⟨s, p, o⟩ := t
  simp only [Function.comp_apply, TriplePattern.mapEnds, TriplePattern.substitute,
    TriplePattern.mapPlain, TermPattern.substitute_unblank_substitute hr hu]
  cases p with
  | plain p => simp only [TermPattern.substitute_substitute hu]
  | path kind items => rfl

/-- The pattern with inline rows put in, one after the other. -/
def inline (rows : List Row) (B : Bgp) : Bgp :=
  B.map fun t => rows.foldl TriplePattern.substitute t

/-- Without rows nothing is put in. -/
theorem inline_nil (B : Bgp) : B.inline [] = B := List.map_id B

/-- The first row is put in first. -/
theorem inline_cons (r : Row) (rows : List Row) (B : Bgp) :
    B.inline (r :: rows) = (B.substitute r).inline rows := by
  rw [inline, inline, substitute, List.map_map]
  rfl

/-- The last row is put in last. -/
theorem inline_snoc (rows : List Row) (r : Row) (B : Bgp) :
    B.inline (rows ++ [r]) = (B.inline rows).substitute r := by
  rw [inline, inline, substitute, List.map_map]
  exact List.map_congr_left fun t _ => List.foldl_append

/-- Rows are put into two patterns together. -/
theorem inline_append (rows : List Row) (A B : Bgp) :
    inline rows (A ++ B) = A.inline rows ++ B.inline rows := List.map_append

/-- Rows without blank nodes leave the labels of a pattern. -/
theorem labels_inline (hrows : ∀ r ∈ rows, r.BlankFree) (B : Bgp) :
    (B.inline rows).labels = B.labels := by
  induction rows generalizing B with
  | nil => rw [inline_nil]
  | cons r rows ih =>
    obtain ⟨hr, hrows⟩ := List.forall_mem_cons.1 hrows
    rw [inline_cons, ih hrows, labels_substitute hr]

/-- Rows leave some of the variables of a pattern. -/
theorem forall_mem_allVars_inline {p : Variable → Prop} (rows : List Row)
    (h : ∀ v ∈ B.allVars, p v) : ∀ v ∈ (B.inline rows).allVars, p v := by
  induction rows generalizing B with
  | nil => rwa [inline_nil]
  | cons r rows ih =>
    rw [inline_cons]
    exact ih (forall_mem_allVars_substitute r h)

end Bgp

/-! ## Patterns of queries -/

namespace Bgp

/-- What a pattern makes of a row by reference: the join of the row with its visible solutions. In an
optional group the row is kept if there is none. -/
noncomputable def solve (S : Solutions) (names : Names) (optional : Bool) (B : Bgp) (u : Row) :
    Multiset Row :=
  if optional then RowBag.orKeep u ({u} * B.visible S names) else {u} * B.visible S names

variable {S : Solutions} {names : Names} {B : Bgp} {r u : Row}

/-- A visible row that is joined may be put into a pattern before. -/
theorem singleton_mul_visible_substitute (hS : S.Coherent)
    (hvisible : ∀ v, r.binds v = true → v ∉ names.Ahead) (hr : r.BlankFree) (hu : u.Extends r) :
    {u} * (B.substitute r).visible S names = {u} * B.visible S names := by
  have hur : (u.hide names.Ahead).Extends r := fun v t ht => Row.get?_hide_eq_some_iff.2
    ⟨hvisible v (VariableMap.binds_iff.2 ⟨t, ht⟩), hu v t ht⟩
  have hahead : ∀ v, (u.hide names.Ahead).binds v = true → v ∉ names.Ahead := fun v hv =>
    (Row.binds_hide_iff.1 hv).1
  have havoids : (Names.after B.labels.length names).Avoids
      {v | (u.hide names.Ahead).binds v = true} :=
    Names.avoids_iff.2 fun v hv h => hahead v hv (Names.ahead_after _ names h)
  have hself : ({u} : Multiset Row) = {u} * {u.hide names.Ahead} := by
    rw [mul_comm, RowBag.singleton_mul_of_extends fun a ha =>
      Multiset.mem_singleton.1 ha ▸ Row.extends_hide _ u]
  rw [hself, mul_assoc, mul_assoc, visible, visible, RowBag.singleton_mul_map_hide hahead,
    RowBag.singleton_mul_map_hide hahead, labels_substitute hr,
    singleton_mul_bag hS havoids (substitute_unblank_substitute hr hur _ B)]

/-- **Inline rows may be put into a pattern**, for rows that extend them. -/
theorem solve_substitute (hS : S.Coherent) (hvisible : ∀ v, r.binds v = true → v ∉ names.Ahead)
    (hr : r.BlankFree) (hu : u.Extends r) (optional : Bool) :
    (B.substitute r).solve S names optional u = B.solve S names optional u := by
  rw [solve, solve, singleton_mul_visible_substitute hS hvisible hr hu]

end Bgp

namespace Plan

open Planner
open Paths (Known avoids_later map_hide_answers)

/-- How a basic graph pattern is planned, and what is drawn for it. -/
theorem triplesStage_spec {triples : List TriplePattern} {st : Stage}
    (h : triplesStage triples scope n = .ok (st, n')) :
    triples = [] ∧ st = .input ∧ n' = n ∨
      triples ≠ [] ∧ ∃ triples' n₁ pattern names,
        blanksToVariables [] triples scope n = .ok (triples', n₁) ∧
        Paths.compile triples' n₁.naming = .ok (pattern, names) ∧
        if scope.optional && !isSimple pattern then
          st = .optionalOf names.draw.1 (pathFreeStage { scope with optional := false } pattern) ∧
            n'.naming = names.draw.2
        else st = pathFreeStage scope pattern ∧ n'.naming = names := by
  unfold triplesStage at h
  by_cases hnil : triples = []
  · subst hnil
    obtain ⟨rfl, rfl⟩ := pure_inv h
    exact .inl ⟨rfl, rfl, rfl⟩
  · rw [if_neg (by simpa using hnil)] at h
    obtain ⟨triples', n₁, hblanks, h⟩ := bind_inv h
    obtain ⟨pattern, n₂, hcompile, h⟩ := bind_inv h
    obtain ⟨scope', n₃, hread, h⟩ := bind_inv h
    have hn₃ : n₂ = n₃ := by
      have h' : (Except.ok (scope, n₂) : Except QueryError (Scope × PlanState)) =
        .ok (scope', n₃) := hread
      exact (Prod.mk.inj (Except.ok.inj h')).2
    obtain rfl := read_inv hread
    subst hn₃
    refine .inr ⟨hnil, triples', n₁, pattern, n₂.naming, hblanks, naming_spec hcompile, ?_⟩
    split at h
    · next hopt =>
      rw [if_pos hopt]
      obtain ⟨tag, n₄, htag, h⟩ := bind_inv h
      obtain ⟨rfl, rfl⟩ := pure_inv h
      obtain ⟨rfl, hnaming⟩ := fresh_inv htag
      exact ⟨rfl, hnaming⟩
    · next hopt =>
      rw [if_neg hopt]
      obtain ⟨rfl, rfl⟩ := pure_inv h
      exact ⟨rfl, rfl⟩

variable {S : Solutions} {names : Names} {B B' : Bgp} {u : Row} {n₁ : PlanState} {p : PathFree}
  {m : Naming}

/-- What a compiled pattern makes of a row is its join with the visible solutions of the pattern. -/
theorem map_hide_answers_compile (hS : S.Coherent) (now : DateTime)
    (hB : ∀ v ∈ B.allVars, v ∉ names.Ahead) (hn : n.naming.names.Ahead ⊆ names.Ahead)
    (hblanks : blanksToVariables [] B scope n = .ok (B', n₁))
    (hcompile : Paths.compile B' n₁.naming = .ok (p, m))
    (hu : n.naming.names.Avoids {v | u.binds v = true}) :
    (p.answers S now u).map (Row.hide names.Ahead) = {u.hide names.Ahead} * B.visible S names := by
  obtain ⟨g, rfl, hinj, hg⟩ := exists_unblank hblanks
  have hlater := draws_blanksToVariables _ _ _ _ _ _ hblanks
  have hB₁ : ∀ v ∈ B.allVars, v ∉ n₁.naming.names.Ahead := fun v hv hahead =>
    hB v hv (hn (hlater.ahead_subset hahead))
  have hu₁ := avoids_later hlater hu
  let V : Set Variable := {v | u.binds v = true} ∪ {v | v ∈ (B.unblank g).allVars}
  have hvars : ∀ v ∈ (B.unblank g).allVars, v ∉ n₁.naming.names.Ahead :=
    Bgp.forall_mem_allVars_unblank hB₁ fun l hl => (hg l hl).2
  have hknown : Known V n₁.naming u [] :=
    ⟨fun t ht => absurd ht List.not_mem_nil, fun v hv => absurd hv List.not_mem_nil,
      fun v hv => .inl hv, Names.avoids_iff.2 fun v hv =>
        hv.elim (Names.avoids_iff.1 hu₁ v) (hvars v)⟩
  have hanswers := map_hide_answers hS now hcompile u V hknown fun v hv => .inr hv
  rw [hS.nil, one_mul] at hanswers
  have hwithin : RowBag.Within (Bgp.bag S n₁.naming.names (B.unblank g))
      ({v | v ∈ B.allVars} ∪ g '' {label | label ∈ B.labels}) := Bgp.within_bag
    (Bgp.forall_mem_allVars_unblank (p := (· ∈ _)) (fun v hv => .inl hv)
      fun label hl => .inr ⟨label, hl, rfl⟩)
  have hrow : RowBag.Within {u} {v | u.binds v = true} := fun r hr =>
    Multiset.mem_singleton.1 hr ▸ fun v hv => hv
  -- A hidden variable is drawn for the pattern or bound by the row before, but never both.
  have hapart : ∀ v ∈ names.Ahead, u.binds v = true →
      v ∉ {v | v ∈ B.allVars} ∪ g '' {label | label ∈ B.labels} := by
    rintro v hv huv (hvB | ⟨label, hl, rfl⟩)
    · exact hB v hvB hv
    · exact Names.avoids_iff.1 hu _ huv (hg label hl).1
  calc (p.answers S now u).map (Row.hide names.Ahead)
    _ = ((p.answers S now u).map (Row.hide n₁.naming.names.Ahead)).map
          (Row.hide names.Ahead) := by
      rw [RowBag.map_hide_hide, Set.union_eq_self_of_subset_left (hlater.ahead_subset.trans hn)]
    _ = ({u} * Bgp.bag S n₁.naming.names (B.unblank g)).map (Row.hide names.Ahead) := by
      rw [hanswers]
    _ = {u.hide names.Ahead} * B.visible S names := by
      rw [RowBag.map_hide_mul hrow hwithin hapart, Multiset.map_singleton,
        Bgp.map_hide_bag_unblank hB hinj (fun l hl => hn (hg l hl).1) hB₁ fun l hl => (hg l hl).2]

/-- Whatever the order of the rows, and whatever was drawn before, all that is asked for a pattern is
understood, and the answers are told apart. If rows are numbered around the pattern, their numbers
can be read back. -/
def SuitsRows (E : Scene σ) (scope : Scope) (names : Names) (B : Bgp) (M : Multiset Row) : Prop :=
  ∀ (U : List Row) (n n₁ : PlanState) (B' : Bgp) (p : PathFree) (m : Naming),
    (U : Multiset Row).map (Row.hide names.Ahead) = M → n.naming.names.Ahead ⊆ names.Ahead →
    (∀ u ∈ U, n.naming.names.Avoids {v | u.binds v = true}) →
    blanksToVariables [] B scope n = .ok (B', n₁) →
    Paths.compile B' n₁.naming = .ok (p, m) →
    if scope.optional && !isSimple p then
      p.reads = true ∧ (∀ i < U.length, Numeric.fits i = true) ∧
        p.Suits E scope (Optional.numbered m.draw.1 U)
    else p.Suits E scope U

/-- A stage has made of rows what a function makes of them, as far as visible variables are
concerned, and binds nothing that is drawn later. -/
structure Solved (names : Names) (n' : PlanState) (F : Row → Multiset Row) (U W : List Row) :
    Prop where
  /-- The visible rows are those that the function makes. -/
  rows : (W : Multiset Row).map (Row.hide names.Ahead) =
    ((U : Multiset Row).map (Row.hide names.Ahead)).bind F
  /-- Nothing that is drawn later is bound. -/
  avoids : ∀ w ∈ W, n'.naming.names.Avoids {v | w.binds v = true}

variable {U W : List Row} {st : Stage}

/-- The variables of a compiled pattern are known in the end, and none of them has a sigil. -/
theorem over_compile (hB : ∀ v ∈ B.allVars, v.Bare ∧ v ∉ names.Ahead)
    (hn : n.naming.names.Ahead ⊆ names.Ahead)
    (hblanks : blanksToVariables [] B scope n = .ok (B', n₁))
    (hcompile : Paths.compile B' n₁.naming = .ok (p, m)) :
    ∃ V : Set Variable, p.Over V ∧ (∀ v ∈ V, v.Bare) ∧ m.names.Avoids V ∧
      n₁.naming.Later m := by
  obtain ⟨g, rfl, -, hg⟩ := exists_unblank hblanks
  have hlater := draws_blanksToVariables _ _ _ _ _ _ hblanks
  have hlater' := Paths.later_resolve hcompile
  have hvars : ∀ v ∈ (B.unblank g).allVars, v.Bare ∧ v ∉ n₁.naming.names.Ahead := by
    refine Bgp.forall_mem_allVars_unblank (fun v hv => ?_)
      fun l hl => ⟨Names.bare_of_mem_ahead (hg l hl).1, (hg l hl).2⟩
    exact ⟨(hB v hv).1, fun hahead => (hB v hv).2 (hn (hlater.ahead_subset hahead))⟩
  have hknown : Known {v | v ∈ (B.unblank g).allVars} n₁.naming .empty [] :=
    ⟨fun t ht => absurd ht List.not_mem_nil, fun v hv => absurd hv List.not_mem_nil,
      fun v hv => absurd hv (by simp), Names.avoids_iff.2 fun v hv => (hvars v hv).2⟩
  refine ⟨_, Paths.over_resolve hcompile .empty _ hknown fun v hv => hv, ?_,
    Naming.avoids_knownAt hlater' hknown.avoids, hlater'⟩
  rintro v (hv | hv)
  · exact (hvars v hv).1
  · exact Names.bare_of_mem_ahead hv.1

/-- The rows that a planned pattern hands on. -/
theorem means_compile (hS : (E.solutions scope.address scope.graph).Coherent) {V : Set Variable}
    (hover : p.Over V) (hbare : ∀ v ∈ V, v.Bare) (hV : m.names.Avoids V)
    (hU : ∀ u ∈ U, m.names.Avoids {v | u.binds v = true})
    (hsuits : if scope.optional && !isSimple p then
        p.reads = true ∧ (∀ i < U.length, Numeric.fits i = true) ∧
          p.Suits E scope (Optional.numbered m.draw.1 U)
      else p.Suits E scope U)
    (hst : if scope.optional && !isSimple p then
        st = .optionalOf m.draw.1 (pathFreeStage { scope with optional := false } p) ∧
          n'.naming = m.draw.2
      else st = pathFreeStage scope p ∧ n'.naming = m)
    (h : st.means E U W) :
    m.Later n'.naming ∧ (W : Multiset Row) = (U : Multiset Row).bind fun u =>
      if scope.optional
      then RowBag.orKeep u (p.answers (E.solutions scope.address scope.graph) E.now u)
      else p.answers (E.solutions scope.address scope.graph) E.now u := by
  split at hst
  · next hnumbered =>
    rw [if_pos hnumbered] at hsuits
    obtain ⟨hopt, -⟩ : scope.optional = true ∧ _ := by simpa using hnumbered
    obtain ⟨hreads, hfits, hsuits⟩ := hsuits
    obtain ⟨rfl, hnaming⟩ := hst
    simp only [hopt, if_true]
    refine ⟨hnaming ▸ Naming.later_draw m, ?_⟩
    exact PathFree.optional_eq_bind hS hbare hover (Paths.direct_draw m) hV.not_mem
      (fun u hu => Bool.eq_false_iff.2 fun htag => (hU u hu).not_mem htag) hsuits hreads hfits h
  · next hnumbered =>
    rw [if_neg hnumbered] at hsuits
    obtain ⟨rfl, hnaming⟩ := hst
    refine ⟨hnaming ▸ .refl m, ?_⟩
    cases hopt : scope.optional with
    | true =>
      have hsimple : isSimple p = true := by simpa [hopt] using hnumbered
      exact PathFree.simple_eq_bind hS hbare hover hsuits hopt hsimple h
    | false =>
      obtain ⟨X, hX, rfl⟩ := PathFree.means_pathFreeStage hopt p h
      rw [← Multiset.map_coe, hX.eq_attributed hS hbare p hover hsuits, map_snd_attributed]
      rfl

/-- **Patterns join rows with their visible solutions**, wherever they are planned. -/
theorem triplesStage_solves (hS : (E.solutions scope.address scope.graph).Coherent)
    (hB : ∀ v ∈ B.allVars, v.Bare ∧ v ∉ names.Ahead) (hn : n.naming.names.Ahead ⊆ names.Ahead)
    (hU : ∀ u ∈ U, n.naming.names.Avoids {v | u.binds v = true})
    (hsuits : SuitsRows E scope names B ((U : Multiset Row).map (Row.hide names.Ahead)))
    (hplan : triplesStage B scope n = .ok (st, n')) (h : st.means E U W) :
    Solved names n' (B.solve (E.solutions scope.address scope.graph) names scope.optional) U W := by
  obtain ⟨rfl, rfl, rfl⟩ | ⟨-, B', n₁, p, m, hblanks, hcompile, hst⟩ := triplesStage_spec hplan
  · obtain rfl : W = U := h
    have hself : ∀ u : Row,
        Bgp.solve (E.solutions scope.address scope.graph) names scope.optional [] u = {u} := by
      intro u
      have hone : Bgp.visible (E.solutions scope.address scope.graph) names [] = 1 := by
        rw [Bgp.visible]
        exact RowBag.map_hide_of_within (RowBag.within_one (V := ∅)) fun v hv => hv.elim
      rw [Bgp.solve, hone, mul_one]
      cases scope.optional <;> simp [RowBag.orKeep]
    refine ⟨?_, hU⟩
    rw [Multiset.bind_congr fun u _ => hself u, Multiset.bind_singleton, Multiset.map_id']
  · obtain ⟨V, hover, hbare, hV, hlater'⟩ := over_compile hB hn hblanks hcompile
    have hlater := (draws_blanksToVariables _ _ _ _ _ _ hblanks).trans hlater'
    have hU' : ∀ u ∈ U, m.names.Avoids {v | u.binds v = true} := fun u hu =>
      avoids_later hlater (hU u hu)
    have hthis := hsuits U n n₁ B' p m rfl hn hU hblanks hcompile
    obtain ⟨hlast, hW⟩ := means_compile hS hover hbare hV hU' hthis hst h
    let S := E.solutions scope.address scope.graph
    -- Every row that is handed on is one that came in or is made of one.
    have hmade : ∀ w ∈ W, ∃ u ∈ U, w = u ∨ w ∈ p.answers S E.now u := by
      intro w hw
      rw [← Multiset.mem_coe, hW, Multiset.mem_bind] at hw
      obtain ⟨u, hu, hw⟩ := hw
      split at hw
      · exact ⟨u, hu, RowBag.mem_orKeep hw⟩
      · exact ⟨u, hu, .inr hw⟩
    refine ⟨?_, fun w hw => ?_⟩
    · rw [hW, Multiset.map_bind, Multiset.bind_map]
      refine Multiset.bind_congr fun u hu => ?_
      have hanswers := map_hide_answers_compile hS E.now (fun v hv => (hB v hv).2) hn hblanks
        hcompile (hU u hu)
      rw [Bgp.solve]
      split
      · rw [RowBag.map_orKeep, hanswers]
      · exact hanswers
    · obtain ⟨u, hu, rfl | hw⟩ := hmade w hw
      · exact avoids_later hlast (hU' w hu)
      · have hall : m.names.Avoids ({v | u.binds v = true} ∪ V) := Names.avoids_iff.2 fun v hv =>
          hv.elim (Names.avoids_iff.1 (hU' u hu) v) (Names.avoids_iff.1 hV v)
        refine avoids_later hlast (hall.mono ?_)
        exact PathFree.within_answers (fun v hv => .inl hv) p
          (hover.mono Set.subset_union_right) w hw

end Plan

end PagedSparql
