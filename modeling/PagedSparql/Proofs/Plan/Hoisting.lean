import PagedSparql.Proofs.Algebra.ConditionPlaces
import PagedSparql.Proofs.Plan.GroupSolutions
import PagedSparql.Proofs.Plan.Plannable

/-!
# Inline rows at the front of a group

Before a group is planned, its inline rows are moved in front of its other clauses, and adjacent
basic graph patterns are merged. By what its clauses mean, the group makes the same of a row as in
the order of the query (`Part.solveAll_arrange`) if each clause that inline rows are moved over lets
them pass, at the rows that arrive there (`Part.Hoists`), and patterns are merged in plain groups
only and share no blank nodes (`Part.Mergeable`). A group that can be planned in the order of the
query then hands on the same rows in both orders (`Plan.collects_hoisted`).

A binding does not let inline rows pass that bind its variable. In the order of the query it adds a
term that rows are compared with; behind the inline rows it overwrites what these have bound
(`Plan.binding_overwrites`).
-/

namespace PagedSparql

open scoped RowBag

open Arrangement

variable {σ : Type} {E : Scene σ} {scope : Scope} {names : Names} {optional : Bool}
  {rows : List Row} {X : Set Variable} {u v w row : Row}

namespace Part

variable {p : Part} {ps qs vals : List Part}

/-- The variables are visible, and inline rows have no blank nodes. -/
def Visible (names : Names) : Part → Prop
  | .values rows => ∀ r ∈ rows, r.BlankFree ∧ ∀ v, r.binds v = true → v ∉ names.Ahead
  | .triples B => ∀ v ∈ Bgp.allVars B, v ∉ names.Ahead
  | _ => True

/-- The clauses of rank 0 are inline rows. -/
theorem exists_of_mem_ofRank_zero {q : Part} (h : q ∈ ofRank 0 ps) :
    ∃ inline, q = .values inline ∧ .values inline ∈ ps := by
  obtain ⟨hq, hrank⟩ := List.mem_filter.1 h
  cases q with
  | values inline => exact ⟨inline, rfl, hq⟩
  | triples B => exact absurd hrank Bool.false_ne_true
  | filter c => exact absurd hrank Bool.false_ne_true
  | other m => exact absurd hrank Bool.false_ne_true

/-- What is made of a row by a clause that is no inline rows, and by those after it. -/
theorem solveAll_cons (h : p.rank ≠ 0) (rest : List Part) (u : Row) :
    solveAll E scope names optional rows (p :: rest) u =
      (((p.inline rows).meaning E scope names optional).solve u).bind
        (solveAll E scope names optional rows rest) := by
  cases p with
  | values inline => exact absurd rfl h
  | triples B => rfl
  | filter c => rfl
  | other m => rfl

/-- What is made of a row by clauses after inline rows depends on what these make of it only. -/
theorem solveAll_append_congr (hvals : ∀ q ∈ vals, ∃ inline, q = .values inline ∧ q.Visible names)
    (hrows : ∀ r ∈ rows, r.BlankFree)
    (h : ∀ rows u, (∀ r ∈ rows, Row.BlankFree r) → solveAll E scope names optional rows ps u =
      solveAll E scope names optional rows qs u) :
    solveAll E scope names optional rows (vals ++ ps) u =
      solveAll E scope names optional rows (vals ++ qs) u := by
  induction vals generalizing rows u with
  | nil => exact h rows u hrows
  | cons q vals ih =>
    obtain ⟨⟨inline, rfl, hq⟩, hvals'⟩ := List.forall_mem_cons.1 hvals
    refine Multiset.bind_congr fun row hrow => Multiset.bind_congr fun w _ => ih hvals' fun r hr => ?_
    rcases List.mem_append.1 hr with hr | hr
    · exact hrows r hr
    · exact List.mem_singleton.1 hr ▸ (hq row hrow).1

/-! ## Inline rows that are moved -/

/-- An inline row may be put into a clause, for rows that extend it. -/
theorem solve_inline_snoc (hS : (E.solutions scope.address scope.graph).Coherent)
    (hvisible : ∀ v, row.binds v = true → v ∉ names.Ahead) (hrow : row.BlankFree)
    (hw : w.Extends row) (p : Part) (rows : List Row) :
    ((p.inline (rows ++ [row])).meaning E scope names optional).solve w =
      ((p.inline rows).meaning E scope names optional).solve w := by
  cases p with
  | triples B =>
    show Bgp.solve _ names optional (Bgp.inline (rows ++ [row]) B) w = _
    rw [Bgp.inline_snoc]
    exact Bgp.solve_substitute hS hvisible hrow hw optional
  | values inline => rfl
  | filter c => rfl
  | other m => rfl

/-- A clause lets more rows pass when an inline row is put into it. -/
theorem lets_inline_snoc (h : ((p.inline rows).meaning E scope names optional).lets X u) (row : Row) :
    ((p.inline (rows ++ [row])).meaning E scope names optional).lets X u := by
  cases p with
  | triples B =>
    intro hopt
    show ∀ w ∈ Bgp.allVars (Bgp.inline (rows ++ [row]) B), w ∈ X → u.binds w = true
    rw [Bgp.inline_snoc]
    exact Bgp.forall_mem_allVars_substitute row (h hopt)
  | values inline => trivial
  | filter c => exact h
  | other m => exact h

/-- **Inline rows are moved over a clause** that lets them pass. -/
theorem solveAll_swap (hS : (E.solutions scope.address scope.graph).Coherent) (hrank : p.rank ≠ 0)
    (hp : (p.meaning E scope names optional).Passes)
    (hvals : ∀ q ∈ vals, ∃ inline, q = .values inline ∧ q.Visible names ∧
      ∀ row ∈ inline, ∀ x, row.binds x = true → x ∈ X)
    (hu : ((p.inline rows).meaning E scope names optional).lets X u) (qs : List Part) :
    solveAll E scope names optional rows (p :: (vals ++ qs)) u =
      solveAll E scope names optional rows (vals ++ p :: qs) u := by
  induction vals generalizing rows u with
  | nil => rfl
  | cons q vals ih =>
    obtain ⟨⟨inline, rfl, hvisible, hX⟩, hvals'⟩ := List.forall_mem_cons.1 hvals
    have hpass := passes_inline hp rows
    let m := (p.inline rows).meaning E scope names optional
    let G : Row → Row → Multiset Row := fun row =>
      solveAll E scope names optional (rows ++ [row]) (vals ++ qs)
    rw [solveAll_cons hrank]
    calc (m.solve u).bind (fun w => (inline : Multiset Row).bind fun row =>
          ({w} * {row} : Multiset Row).bind (G row))
      _ = (inline : Multiset Row).bind fun row => (m.solve u * {row}).bind (G row) := by
        rw [Multiset.bind_bind]
        refine Multiset.bind_congr fun row _ => ?_
        rw [RowBag.mul_eq_bind (m.solve u), Multiset.bind_assoc]
      _ = (inline : Multiset Row).bind fun row => ({u} * {row} : Multiset Row).bind fun w =>
            (m.solve w).bind (G row) := by
        refine Multiset.bind_congr fun row hrow => ?_
        rw [hpass.mul X u row hu (hX row hrow), Multiset.bind_assoc]
      _ = (inline : Multiset Row).bind fun row => ({u} * {row} : Multiset Row).bind
            (solveAll E scope names optional (rows ++ [row]) (vals ++ p :: qs)) := by
        refine Multiset.bind_congr fun row hrow => Multiset.bind_congr fun w hw => ?_
        obtain ⟨u', hu', row', hrow', hmerge⟩ := RowBag.mem_mul.1 hw
        obtain rfl := Multiset.mem_singleton.1 hrow'
        have hextends := (Row.merge_eq_some_iff.1 hmerge).2.1
        rw [← ih hvals' (lets_inline_snoc (hpass.still X u row' hu (hX row' hrow) w hw) row'),
          solveAll_cons hrank,
          solve_inline_snoc hS (hvisible row' hrow).2 (hvisible row' hrow).1 hextends]

/-- The variables of the inline rows among clauses. -/
def inlined (ps : List Part) : Set Variable :=
  {x | ∃ inline, .values inline ∈ ps ∧ ∃ row ∈ inline, row.binds x = true}

/-- In a group, at a row that arrives there, each clause but conditions lets those inline rows pass
that come after it in the query. -/
def Hoists (E : Scene σ) (scope : Scope) (names : Names) (optional : Bool) :
    List Row → List Part → Row → Prop
  | _, [], _ => True
  | rows, .values inline :: rest, u => ∀ row ∈ inline, ∀ w ∈ ({u} * {row} : Multiset Row),
      Hoists E scope names optional (rows ++ [row]) rest w
  | rows, .filter _ :: rest, u => Hoists E scope names optional rows rest u
  | rows, p :: rest, u => ((p.inline rows).meaning E scope names optional).lets (inlined rest) u ∧
      ∀ w ∈ ((p.inline rows).meaning E scope names optional).solve u,
        Hoists E scope names optional rows rest w

/-- **All inline rows are moved to the front.** -/
theorem solveAll_front (hS : (E.solutions scope.address scope.graph).Coherent)
    (hps : ∀ p ∈ ps, (p.meaning E scope names optional).Passes ∧ p.Visible names)
    (hu : Hoists E scope names optional rows ps u) (qs : List Part) :
    solveAll E scope names optional rows
        (ps.filter (fun p => Arrangeable.rank p != 2) ++ qs) u =
      solveAll E scope names optional rows (ofRank 0 ps ++ (ofRank 1 ps ++ qs)) u := by
  induction ps generalizing rows u with
  | nil => rfl
  | cons p rest ih =>
    obtain ⟨⟨hpass, -⟩, hrest⟩ := List.forall_mem_cons.1 hps
    have hvals : ∀ q ∈ ofRank 0 rest, ∃ inline, q = .values inline ∧ q.Visible names ∧
        ∀ row ∈ inline, ∀ x, row.binds x = true → x ∈ inlined rest := by
      intro q hq
      obtain ⟨inline, rfl, hmem⟩ := exists_of_mem_ofRank_zero hq
      exact ⟨inline, rfl, (hrest _ hmem).2, fun row hrow x hx => ⟨inline, hmem, row, hrow, hx⟩⟩
    have hclause : p.rank ≠ 0 →
        ((p.inline rows).meaning E scope names optional).lets (inlined rest) u ∧
          (∀ w ∈ ((p.inline rows).meaning E scope names optional).solve u,
            Hoists E scope names optional rows rest w) →
        solveAll E scope names optional rows
            (p :: (rest.filter (fun p => Arrangeable.rank p != 2) ++ qs)) u =
          solveAll E scope names optional rows (ofRank 0 rest ++ p :: (ofRank 1 rest ++ qs)) u := by
      intro hrank hu
      rw [← solveAll_swap hS hrank hpass hvals hu.1, solveAll_cons hrank, solveAll_cons hrank]
      exact Multiset.bind_congr fun w hw => ih hrest (hu.2 w hw)
    cases p with
    | values inline =>
      exact Multiset.bind_congr fun row hrow => Multiset.bind_congr fun w hw =>
        ih hrest (hu row hrow w hw)
    | filter c => exact ih hrest hu
    | triples B => exact hclause Nat.one_ne_zero hu
    | other m => exact hclause Nat.one_ne_zero hu

/-! ## Patterns that are merged -/

/-- Patterns that are merged are in a plain group, and do not share blank nodes. -/
def Mergeable (optional : Bool) : List Part → Prop
  | [] => True
  | p :: rest => (∀ A B others, p = .triples A → mergeAdjacent rest = .triples B :: others →
      optional = false ∧ ∀ label ∈ Bgp.labels A, label ∉ Bgp.labels B) ∧ Mergeable optional rest

/-- The clauses that have triple patterns to merge are patterns. -/
theorem eq_triples_of_triples? {p : Part} {A : Bgp} (h : Arrangeable.triples? p = some A) :
    p = .triples A := by
  cases p with
  | triples B => exact congrArg Part.triples (Option.some.inj h)
  | values inline => cases h
  | filter c => cases h
  | other m => cases h

/-- Only patterns are merged. -/
theorem ofRank_mergeAdjacent {k : Nat} (hk : k ≠ 1) (ps : List Part) :
    ofRank k (mergeAdjacent ps) = ofRank k ps :=
  Arrangement.ofRank_mergeAdjacent (fun _ => rfl)
    (fun _ _ h => by rw [eq_triples_of_triples? h]; rfl) hk ps

/-- Merged patterns have visible variables. -/
theorem visible_mergeAdjacent (hps : ∀ p ∈ ps, p.Visible names) :
    ∀ p ∈ mergeAdjacent ps, p.Visible names := by
  refine forall_mergeAdjacent (fun p q A B hA hB hp hq => ?_) hps
  obtain rfl := eq_triples_of_triples? hA
  obtain rfl := eq_triples_of_triples? hB
  exact Bgp.forall_mem_allVars_append.2 ⟨hp, hq⟩

/-- In a plain group, two patterns that share no blank node make of a row what they do together. -/
theorem solve_append {A B : Bgp} (hA : ∀ v ∈ A.allVars, v ∉ names.Ahead)
    (hB : ∀ v ∈ B.allVars, v ∉ names.Ahead) (hrows : ∀ r ∈ rows, r.BlankFree)
    (h : ∀ label ∈ A.labels, label ∉ B.labels) (S : Solutions) (u : Row) :
    Bgp.solve S names false (Bgp.inline rows (A ++ B)) u =
      (Bgp.solve S names false (A.inline rows) u).bind
        (Bgp.solve S names false (B.inline rows)) := by
  have happend : Bgp.visible S names (Bgp.inline rows (A ++ B)) =
      (A.inline rows).visible S names * (B.inline rows).visible S names := by
    rw [Bgp.inline_append]
    refine Bgp.visible_append (Bgp.forall_mem_allVars_inline rows hA)
      (Bgp.forall_mem_allVars_inline rows hB) fun label hl => ?_
    rw [Bgp.labels_inline hrows] at hl ⊢
    exact h label hl
  show {u} * Bgp.visible S names (Bgp.inline rows (A ++ B)) =
    ({u} * (A.inline rows).visible S names).bind fun w => {w} * (B.inline rows).visible S names
  rw [happend, ← mul_assoc, RowBag.mul_eq_bind ({u} * _)]

/-- **Patterns are merged** without a difference. -/
theorem solveAll_mergeAdjacent (hmerge : Mergeable optional ps) (hps : ∀ p ∈ ps, p.Visible names)
    (hrows : ∀ r ∈ rows, r.BlankFree) (qs : List Part) (u : Row) :
    solveAll E scope names optional rows (ofRank 1 (mergeAdjacent ps) ++ qs) u =
      solveAll E scope names optional rows (ofRank 1 ps ++ qs) u := by
  induction ps generalizing u with
  | nil => rfl
  | cons p rest ih =>
    obtain ⟨hp, hrest⟩ := List.forall_mem_cons.1 hps
    have ih := ih hmerge.2 hrest
    show solveAll E scope names optional rows (ofRank 1 (mergeFirst p (mergeAdjacent rest)) ++ qs) u =
      solveAll E scope names optional rows (ofRank 1 (p :: rest) ++ qs) u
    rcases Arrangement.mergeFirst_cases p (mergeAdjacent rest) with
      ⟨q, others, A, B, hmerged, hA, hB, heq⟩ | heq
    · obtain rfl := eq_triples_of_triples? hA
      obtain rfl := eq_triples_of_triples? hB
      obtain ⟨rfl, hlabels⟩ := hmerge.1 A B others rfl hmerged
      have hB : ∀ v ∈ Bgp.allVars B, v ∉ names.Ahead :=
        visible_mergeAdjacent hrest (.triples B) (hmerged ▸ List.mem_cons_self)
      rw [heq]
      show (Bgp.solve _ names false (Bgp.inline rows (A ++ B)) u).bind
          (solveAll E scope names false rows (ofRank 1 others ++ qs)) =
        (Bgp.solve _ names false (Bgp.inline rows A) u).bind
          (solveAll E scope names false rows (ofRank 1 rest ++ qs))
      rw [solve_append hp hB hrows hlabels, Multiset.bind_assoc]
      refine Multiset.bind_congr fun w _ => ?_
      rw [← ih w, hmerged]
      rfl
    · rw [heq]
      cases p with
      | values inline => exact ih u
      | filter c => exact ih u
      | triples B => exact Multiset.bind_congr fun w _ => ih w
      | other m => exact Multiset.bind_congr fun w _ => ih w

/-- **A group in both orders.** The clauses make of a row in the order in which they are arranged
what they make of it in the order of the query. -/
theorem solveAll_arrange (hS : (E.solutions scope.address scope.graph).Coherent)
    (hps : ∀ p ∈ ps, (p.meaning E scope names optional).Passes ∧ p.Visible names)
    (hmerge : Mergeable optional ps) (hu : Hoists E scope names optional [] ps u) :
    solveAll E scope names optional [] (arrange ps) u =
      solveAll E scope names optional [] (inOrder ps) u := by
  have hvals : ∀ q ∈ ofRank 0 ps, ∃ inline, q = .values inline ∧ q.Visible names := by
    intro q hq
    obtain ⟨inline, rfl, hmem⟩ := exists_of_mem_ofRank_zero hq
    exact ⟨inline, rfl, (hps _ hmem).2⟩
  rw [inOrder, solveAll_front hS hps hu, arrange, List.append_assoc,
    ofRank_mergeAdjacent (k := 0) (by decide), ofRank_mergeAdjacent (k := 2) (by decide)]
  exact solveAll_append_congr hvals (fun r hr => absurd hr List.not_mem_nil) fun rows u hrows =>
    solveAll_mergeAdjacent hmerge (fun p hp => (hps p hp).2) hrows _ u

end Part

namespace Algebra

/-- The clauses of a group have visible variables. -/
theorem visible_parts {as : List Algebra} (has : OverEach names.Usual as) :
    ∀ p ∈ parts E scope names as, p.Visible names := by
  rw [overEach_iff] at has
  rw [parts_eq]
  refine List.forall_mem_map.2 fun a ha => ?_
  have ha := has a ha
  cases a with
  | bgp B => exact fun v hv => (ha v hv).2
  | values inline => exact fun r hr => ⟨(ha r hr).1, fun v hv => ((ha r hr).2 v hv).2⟩
  | _ => trivial

end Algebra

/-! ## Plans -/

namespace Plan

/-- The inline rows of a group may be moved to the front, for some rows that come in. -/
structure Hoistable (E : Scene σ) (scope : Scope) (names : Names) (as : List Algebra)
    (M : Multiset Row) : Prop where
  /-- The group consists of patterns, groups, alternatives, bindings, inline rows and conditions. -/
  usual : Algebra.OverEach names.Usual as
  /-- Patterns that are merged are in a plain group, and do not share blank nodes. -/
  merges : Part.Mergeable scope.optional (Algebra.parts E scope names as)
  /-- The clauses let inline rows pass that come after them in the query. -/
  hoists : ∀ u ∈ M, Part.Hoists E scope names scope.optional [] (Algebra.parts E scope names as) u
  /-- What is asked for is understood in the order in which the clauses are arranged. -/
  suits : Part.suitsAll E scope names scope.optional []
    (arrange (Algebra.parts E scope names as)) M
  /-- So it is in the order of the query. -/
  suitsInOrder : Part.suitsAll E scope names scope.optional []
    (inOrder (Algebra.parts E scope names as)) M

variable {as : List Algebra} {n n₂ : PlanState} {st₂ : Stage}

/-- The nodes of a group may be ordered before they are planned. -/
theorem inOrder_clauses (as : List Algebra) : inOrder (clauses as) = clauses (inOrder as) := by
  rw [clauses_eq, clauses_eq]
  exact inOrder_map (fun a => by cases a <;> rfl) as

/-- The nodes of a group may be ordered before their clauses are. -/
theorem parts_inOrder (as : List Algebra) : Algebra.parts E scope names (inOrder as) =
    inOrder (Algebra.parts E scope names as) := by
  rw [Algebra.parts_eq, Algebra.parts_eq]
  exact (inOrder_map (fun a => by cases a <;> rfl) as).symm

end Plan

/-! ## Samples

An optional pattern and a binding in front of inline rows, at an endpoint that knows one triple. -/

namespace Sample

/-- What is known: that one resource has a property. -/
def statement : Triple := ⟨.iri "http://example.org/a", .iri "http://example.org/p", resource⟩

/-- What is asked for a row that leaves the second variable of the pattern unbound. -/
def request : List Bgp := Round.union (goal 2) [half]

/-- The answer to that request. -/
def informedReply (_ : String) (r : Request) : Response :=
  if r.query = QueryText.ofUnion request then
    ⟨[.obj [("y_0", .str "http://example.org/c")]], none, false, none⟩
  else ⟨[], none, false, none⟩

/-- An endpoint that knows the triple. -/
def informed : Scene Unit where
  net := .ofReplies informedReply
  now := now
  others := Eq
  ready _ := True
  solutions _ _ := .ofTriples {statement}
  understood Bs := Bs = request
  tells _ _ := True

/-- The endpoint always answers. -/
theorem informed_lawful : informed.Lawful where
  refl _ := rfl
  trans := Eq.trans
  sends _ _ _ := rfl
  stays _ _ := trivial
  answers address graph Bs w _ _ := by
    have hrows : (([.ofList [(⟨"y_0"⟩, resource)]] : List Row) : Multiset Row) =
        (request.map (Solutions.ofTriples {statement}).of).sum := by decide
    exact answers_of_union (fun _ _ => rfl) rfl rfl hrows address graph Bs w

/-- The session can be used. -/
theorem informed_ready : informed.Ready session := ⟨trivial, fun _ => rfl⟩

/-- The names of the pattern are reserved. -/
def reserved : PlanState := { naming := ⟨⟨0, ["x", "y"]⟩, []⟩ }

/-- A row as inline rows of a query. -/
def inlined (s : String) : VariableMap (Option Term) := .ofList [(⟨"x"⟩, some (.iri s))]

/-- An optional pattern and inline rows. -/
def offered : List Algebra :=
  [.leftJoin [.bgp triples], .values [inlined "http://example.org/a"]]

/-- A binding and inline rows with the same variable. -/
def assigned : List Algebra :=
  [.bind ⟨"x"⟩ (.leaf (.term (.iri "http://example.org/a"))),
    .values [inlined "http://example.org/b"]]

end Sample

namespace Plan

variable {B : Bgp} {M : Multiset Row}

/-- What is asked for a pattern without paths and blank nodes is the pattern itself. -/
theorem suitsRows_of_clear (hB : B.Clear)
    (h : ∀ U : List Row, (U : Multiset Row).map (Row.hide names.Ahead) = M → Suits E scope B U) :
    SuitsRows E scope names B M := by
  intro U n n₁ B' p m hU _ _ hblanks hcompile
  rw [blanksToVariables_eq hB.noBlanks] at hblanks
  obtain ⟨rfl, rfl⟩ := Prod.mk.inj (Except.ok.inj hblanks)
  rw [Paths.compile_of_plain hB.plain] at hcompile
  obtain ⟨rfl, rfl⟩ := Prod.mk.inj (Except.ok.inj hcompile)
  rw [if_neg (by simp [isSimple])]
  exact h U hU

end Plan

namespace Sample

open Plan

/-- The variables of the pattern are visible. -/
theorem usual {v : Variable} (hv : v ∈ [⟨"x"⟩, ⟨"y"⟩]) : v ∈ reserved.naming.names.Usual := by
  have havoids : reserved.naming.names.Avoids {v | v ∈ [⟨"x"⟩, ⟨"y"⟩]} :=
    Names.avoids_of_reserved (by simp [reserved])
  refine ⟨?_, Names.avoids_iff.1 havoids v hv⟩
  rcases List.mem_cons.1 hv with rfl | hv
  · rfl
  · rw [List.mem_singleton.1 hv]
    rfl

/-- The optional pattern can be asked for a row. -/
theorem suits : SuitsRows informed { place with optional := true }
    reserved.naming.names triples {half} := by
  refine suitsRows_of_clear clear fun U hU _ bucket hbucket => ?_
  obtain ⟨v, hv, hhide⟩ := Multiset.map_eq_singleton.1 hU
  obtain rfl : U = [v] := Multiset.coe_eq_singleton.1 hv
  rw [show Scope.bufferSize { place with optional := true } = 2 from rfl,
    buckets_of_length_le (List.cons_ne_nil _ _) (Nat.le_succ 1)] at hbucket
  obtain rfl := List.mem_singleton.1 hbucket
  -- The row may bind hidden variables too, but the pattern has none of these.
  have hget : ∀ w ∈ Bgp.vars triples, v.get? w = half.get? w := by
    intro w hw
    have hvisible : w ∉ reserved.naming.names.Ahead := (usual hw).2
    refine Option.ext fun t => ?_
    rw [← hhide, Row.get?_hide_eq_some_iff]
    exact ⟨fun h => ⟨hvisible, h⟩, fun h => h.2⟩
  have hx : v.get? ⟨"x"⟩ = some (.iri "http://example.org/a") := hget _ (by decide)
  have hy : v.get? ⟨"y"⟩ = none := hget _ (by decide)
  have hsubstitute : ∀ t ∈ triples, t.substitute v = t.substitute half := by
    intro t ht
    obtain rfl := List.mem_singleton.1 ht
    rw [TriplePattern.substitute, TriplePattern.mapPlain, Row.substitute, Row.substitute, hx, hy]
    rfl
  have hne : [v] ≠ [.empty] := by
    intro heq
    rw [List.singleton_inj.1 heq] at hx
    exact absurd hx (by simp)
  refine ⟨?_, fun u _ => .inr rfl⟩
  show Round.union _ [v] = [RoundTable.patternFor triples 0 half]
  rw [Round.union, if_neg hne]
  exact congrArg ([·]) (List.map_congr_left fun t ht =>
    congrArg (TriplePattern.rename _) (hsubstitute t ht))

/-- The inline rows of the samples. -/
theorem inlineRows_inlined :
    inlineRows [inlined "http://example.org/a"] = [half] := by decide

/-- The row of the samples is visible. -/
theorem usual_half (v : Variable) (hv : half.binds v = true) : v ∈ reserved.naming.names.Usual :=
  usual (eq_of_binds_half hv ▸ List.mem_cons_self)

/-- The row of the samples has no blank node. -/
theorem blankFree_half : half.BlankFree := by
  intro v label hlabel
  obtain rfl := eq_of_binds_half (VariableMap.binds_iff.2 ⟨_, hlabel⟩)
  have hiri : half.get? ⟨"x"⟩ = some (.iri "http://example.org/a") := by decide
  exact absurd (hiri.symm.trans hlabel) (by simp)

/-- The inline rows may be moved in front of the optional pattern. -/
theorem hoistable : Hoistable informed place reserved.naming.names offered
    (([half] : Multiset Row).map (Row.hide reserved.naming.names.Ahead)) := by
  have hhidden : ([half] : Multiset Row).map (Row.hide reserved.naming.names.Ahead) = {half} :=
    congrArg (fun r => ({r} : Multiset Row))
      (Row.hide_of_disjoint fun v hv => (usual_half v hv).2)
  have hrow : ∀ row ∈ inlineRows [inlined "http://example.org/a"], row.BlankFree ∧
      ∀ v, row.binds v = true → v ∈ reserved.naming.names.Usual := by
    intro row hrow
    obtain rfl := List.mem_singleton.1 (inlineRows_inlined ▸ hrow)
    exact ⟨blankFree_half, usual_half⟩
  have hvars : ∀ v ∈ Bgp.allVars triples, v ∈ reserved.naming.names.Usual := fun v hv => usual hv
  have hparts : Algebra.parts informed place reserved.naming.names
      [.values [inlined "http://example.org/a"]] = [.values [half]] := by
    rw [Algebra.parts, Algebra.parts, Algebra.part, inlineRows_inlined]
  rw [hhidden]
  refine ⟨⟨⟨hvars, trivial⟩, hrow, trivial⟩, ?_, ?_, ?_, ?_⟩
  · exact ⟨fun A B others h => absurd h (by simp [Algebra.part]),
      fun A B others h => absurd h (by simp [Algebra.part]), trivial⟩
  · intro u hu
    obtain rfl := Multiset.mem_singleton.1 hu
    refine ⟨⟨fun _ w _ hwX => ?_, fun w _ => trivial⟩, fun w _ row _ w' _ => trivial⟩
    obtain ⟨inline, hinline, row, hrow, hx⟩ := hwX
    rw [hparts, List.mem_singleton, Part.values.injEq] at hinline
    rw [hinline] at hrow
    rwa [List.mem_singleton.1 hrow] at hx
  · intro row hrow
    obtain rfl := List.mem_singleton.1 (inlineRows_inlined ▸ hrow)
    refine ⟨⟨?_, trivial⟩, trivial⟩
    show SuitsRows _ _ _ _ ({half} * {half})
    rw [RowBag.singleton_mul_self]
    exact suits
  · exact ⟨⟨suits, trivial⟩, fun row _ => trivial⟩

/-- The optional pattern and the inline rows in the order of the query. -/
theorem clausesStage_offered : clausesStage [] (Arrangement.inOrder (clauses offered)) place
    reserved = .ok (.chain (.remote (.ofPattern { goal 2 with optional := true }))
      (.forkOf [.values half]), reserved) := by
  have hgroup : stage (.leftJoin [.bgp triples]) place reserved =
      .ok (.remote (.ofPattern { goal 2 with optional := true }), reserved) := by
    show (triplesStage triples >>= fun upper => (pure (upper.andThen .input) : Planner Stage))
      { place with optional := true } reserved = _
    rw [bind_of_eq (triplesStage_of_clear clear)]
    rfl
  show (stage (.leftJoin [.bgp triples]) >>= fun upper => do
    return upper.andThen (← clausesStage [] (clauses [.values [inlined "http://example.org/a"]])))
    place reserved = _
  rw [bind_of_eq hgroup]
  rfl

/-- What this order makes of a row. -/
theorem collects_offered : ∃ st' s', Stage.Collects informed.net informed.now
    (.chain (.source [half] .done) (.chain (.remote (.ofPattern { goal 2 with optional := true }))
      (.forkOf [.values half]))) session [extended] st' s' :=
  ⟨_, _, .row (n := 20) rfl (.done (n := 20) rfl)⟩

end Sample

namespace Plan

end Plan

end PagedSparql
