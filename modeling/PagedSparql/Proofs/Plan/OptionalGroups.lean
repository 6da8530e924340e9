import PagedSparql.Proofs.Plan.Groups

/-!
# Optional groups

How far an optional group is the left join of rows with a plain one. The law of groups
(`Plan.groupLaw`) says it clause by clause, and two things follow from it. A group that is one basic
graph pattern joins rows with the solutions of the pattern, and an optional one is their left join
(`Plan.TriplesRun.joins`). And an optional group keeps every row, extended or as it is, if none of
its clauses can drop one (`Plan.GroupRun.covers`): such clauses are basic graph patterns without
paths, services and optional groups of such clauses (`Algebra.isLossless`).

Other clauses drop rows from optional groups as they do from plain ones, so that neither holds of
every group.
-/

namespace PagedSparql

variable {σ : Type} {E : Scene σ} {scope : Scope} {n n' : PlanState} {U V W : List Row}

/-! ## Patterns without paths -/

/-- The pattern is asked for as it stands: it has no paths, no blank nodes, and no names that begin
with a sigil. -/
structure Bgp.Clear (B : Bgp) : Prop where
  /-- There are no paths. -/
  plain : B.Plain
  /-- No name begins with a sigil. -/
  bare : ∀ v ∈ B.vars, v.Bare
  /-- There are no blank nodes. -/
  noBlanks : ∀ t ∈ B, ∀ label, t.subject ≠ .term (.blank label) ∧ t.object ≠ .term (.blank label)

/-- The group of some patterns, optional or not. -/
def Algebra.group (optional : Bool) (patterns : List Algebra) : Algebra :=
  if optional then .leftJoin patterns else .join patterns

/-- A pattern without paths is compiled to itself. -/
theorem Paths.compile_of_plain {B : Bgp} (hB : B.Plain) (names : Naming) :
    compile B names = .ok (.flat B [], names) := by
  have hresolve : ∀ (ready todo : List TriplePattern), Bgp.Plain todo →
      resolve ready todo names = .ok (.flat (ready ++ todo) [], names) := by
    intro ready todo htodo
    induction todo generalizing ready with
    | nil => rw [resolve, List.append_nil]
    | cons t rest ih =>
      obtain ⟨ht, hrest⟩ := List.forall_mem_cons.1 htodo
      obtain ⟨subject, predicate, object⟩ := t
      cases predicate with
      | path kind items => exact absurd ht (by simp [TriplePattern.hasPath, Predicate.isPath])
      | plain p =>
        rw [resolve, ih _ hrest, List.append_assoc]
        rfl
  exact hresolve [] B hB

namespace Plan

open Planner

/-- Variables in the place of blank nodes make no paths. -/
theorem plain_blanksToVariables {labels : List (String × Variable)} {B B' : Bgp} (hB : B.Plain)
    (h : blanksToVariables labels B scope n = .ok (B', n')) : B'.Plain := by
  induction B generalizing labels n n' B' with
  | nil =>
    obtain ⟨rfl, -⟩ := pure_inv h
    exact hB
  | cons t rest ih =>
    obtain ⟨ht, hrest⟩ := List.forall_mem_cons.1 hB
    obtain ⟨⟨subject, labels₁⟩, n₁, -, h⟩ := bind_inv h
    obtain ⟨⟨object, labels₂⟩, n₂, -, h⟩ := bind_inv h
    obtain ⟨rest', n₃, hrest', h⟩ := bind_inv h
    obtain ⟨rfl, -⟩ := pure_inv h
    exact List.forall_mem_cons.2 ⟨ht, ih hrest hrest'⟩

/-- The result of the first of two computations is known. -/
theorem bind_of_eq {α β : Type} {p : Planner α} {f : α → Planner β} {m : PlanState} {a : α}
    (h : p scope n = .ok (a, m)) : (p >>= f) scope n = f a scope m := by
  show (p scope n >>= fun r => f r.1 scope r.2) = _
  rw [h]
  rfl

/-- The first of two computations has failed. -/
theorem bind_of_error {α β : Type} {p : Planner α} {f : α → Planner β} {e : QueryError}
    (h : p scope n = .error e) : (p >>= f) scope n = .error e := by
  show (p scope n >>= fun r => f r.1 scope r.2) = _
  rw [h]
  rfl

/-- Without blank nodes nothing is drawn for them. -/
theorem blanksToVariables_eq {B : Bgp}
    (hB : ∀ t ∈ B, ∀ label, t.subject ≠ .term (.blank label) ∧ t.object ≠ .term (.blank label))
    (labels : List (String × Variable)) : blanksToVariables labels B scope n = .ok (B, n) := by
  have hterm : ∀ (p : TermPattern) (labels : List (String × Variable)),
      (∀ label, p ≠ .term (.blank label)) → blankToVariable p labels = pure (p, labels) := by
    intro p labels hp
    unfold blankToVariable
    split
    · next label => exact absurd rfl (hp label)
    · rfl
  induction B generalizing labels with
  | nil => rfl
  | cons t rest ih =>
    obtain ⟨ht, hrest⟩ := List.forall_mem_cons.1 hB
    simp only [blanksToVariables, hterm _ _ fun label => (ht label).1,
      hterm _ _ fun label => (ht label).2, pure_bind]
    rw [bind_of_eq (ih hrest labels)]
    rfl

/-- One join without conditions is planned as it is. -/
theorem pathFreeStage_flat_nil (scope : Scope) (B : Bgp) :
    pathFreeStage scope (.flat B []) = joinStage scope B := by
  rw [pathFreeStage]
  exact Stage.andThen_input _

/-- A pattern without paths becomes one bound join, once its blank nodes are variables. -/
theorem triplesStage_of_plain {B : Bgp} (hB : B.Plain) :
    triplesStage B = do
      let B ← blanksToVariables [] B
      return joinStage (← read) B := by
  funext scope n
  unfold triplesStage
  by_cases hempty : B = []
  · subst hempty
    rfl
  rw [if_neg (by simpa using hempty)]
  cases hblanks : blanksToVariables [] B scope n with
  | error e => rw [bind_of_error hblanks, bind_of_error hblanks]
  | ok out =>
    obtain ⟨B', n'⟩ := out
    have hnaming : Planner.naming (Paths.compile B') = pure (.flat B' []) := by
      simp only [Planner.naming, Paths.compile_of_plain (plain_blanksToVariables hB hblanks)]
      rfl
    rw [bind_of_eq hblanks, bind_of_eq hblanks, hnaming, pure_bind]
    -- One join without conditions is never numbered around.
    refine congrFun (congrFun (bind_congr fun scope => ?_) scope) n'
    rw [← pathFreeStage_flat_nil]
    cases scope.optional <;> rfl

/-- A pattern without paths and blank nodes is planned as its bound join. -/
theorem triplesStage_of_clear {B : Bgp} (hB : B.Clear) :
    triplesStage B scope n = .ok (joinStage scope B, n) := by
  rw [triplesStage_of_plain hB.plain, bind_of_eq (blanksToVariables_eq hB.noBlanks [])]
  rfl

/-- What a pattern without paths makes of rows: its join hands on the rows that it extends rows to
and, in an optional group, those that it does not extend. -/
theorem TriplesRun.of_plain {B : Bgp} (hB : B.Plain) (h : TriplesRun E scope B U W) :
    ∃ (B' : Bgp) (X : List (Nat × Row)), Joins E scope B' U X ∧ (B.Clear → B' = B) ∧
      if scope.optional = true then
        (W : Multiset Row) = (X.map Prod.snd : Multiset Row) + (unextended U X : Multiset Row)
      else W = X.map Prod.snd := by
  unfold TriplesRun at h
  split at h
  · next hnil =>
    subst hnil
    obtain rfl := h
    refine ⟨[], W.zipIdx.map Prod.swap, by rw [Joins, if_pos rfl], fun _ => rfl, ?_⟩
    rw [map_snd_zipIdx, unextended_zipIdx]
    simp
  · obtain ⟨n, B', n₁, pattern, names, hblanks, hcompile, h⟩ := h
    rw [Paths.compile_of_plain (plain_blanksToVariables hB hblanks)] at hcompile
    obtain ⟨rfl, -⟩ := Prod.mk.inj (Except.ok.inj hcompile)
    have hclear : B.Clear → B' = B := fun hclear => by
      rw [blanksToVariables_eq hclear.noBlanks] at hblanks
      exact (Prod.mk.inj (Except.ok.inj hblanks)).1.symm
    split at h
    · next hopt =>
      unfold PathFree.LeftJoins at h
      rw [if_pos (show isSimple (.flat B' []) = true from rfl)] at h
      obtain ⟨X, ⟨Y, hY, rfl⟩, hW⟩ := h
      exact ⟨B', X, hY, hclear, by rw [if_pos hopt]; exact hW⟩
    · next hopt =>
      obtain ⟨X, ⟨Y, hY, rfl⟩, hW⟩ := h
      exact ⟨B', X, hY, hclear, by rw [if_neg hopt]; exact hW⟩

/-- If every row leaves a variable of the pattern unbound and the endpoint understands the pattern,
the join extends rows to those of the join with the solutions of the pattern, and what it does not
extend completes their left join. -/
theorem Joins.solved {B : Bgp} (hB : B.Clear) (hrows : ∀ u ∈ U, B.Open u)
    (hunderstood : ∀ bucket ∈ buckets scope.bufferSize U,
      E.understood (Round.union (boundPattern scope B) bucket))
    {X : List (Nat × Row)} (h : Joins E scope B U X) :
    (X.map Prod.snd : Multiset Row) = (E.solutions scope.address scope.graph).join B U ∧
      (X.map Prod.snd : Multiset Row) + (unextended U X : Multiset Row) =
        (E.solutions scope.address scope.graph).leftJoin B U := by
  unfold Joins at h
  split at h
  · next hnil =>
    subst hnil
    obtain rfl : U = [] := List.eq_nil_iff_forall_not_mem.2 fun u hu => by
      obtain ⟨v, hv, -⟩ := hrows u hu
      exact absurd hv List.not_mem_nil
    subst h
    exact ⟨rfl, rfl⟩
  · obtain ⟨rounds, hbuckets, hserved, rfl⟩ := h
    have hserved' : ∀ r ∈ rounds, BoundJoin.Served (E.solutions scope.address scope.graph)
        (boundPattern scope B) E.tells r.1 r.2 := fun r hr =>
      hserved r hr (hunderstood _ (BoundJoin.mem_buckets_of_mem hbuckets hr))
    have hflatten : (rounds.map Prod.fst).flatten = U := by rw [hbuckets, flatten_buckets]
    constructor
    · rw [← BoundJoin.flatMap_yield_of_not_optional rfl]
      exact BoundJoin.flatMap_yield_of_open hB.plain hB.bare hrows hbuckets hserved'
    · let goal : BoundPattern := { boundPattern scope B with optional := true }
      have hserved'' : ∀ r ∈ rounds, BoundJoin.Served (E.solutions scope.address scope.graph) goal
          E.tells r.1 r.2 := fun r hr => ⟨(hserved' r hr).tells, (hserved' r hr).rows⟩
      have hleft : (rounds.flatMap fun r => Round.yield goal r.1 r.2 : Multiset Row) =
          (E.solutions scope.address scope.graph).leftJoin B U :=
        BoundJoin.flatMap_yield_of_open hB.plain hB.bare hrows hbuckets hserved''
      rw [BoundJoin.flatMap_yield, if_pos rfl, hflatten] at hleft
      rw [← extensions_option (boundPattern scope B) true scope.bufferSize rounds]
      exact hleft

/-- **One pattern.** A group that is one pattern joins rows with the solutions of the pattern; if
the group is optional, it is the left join that it gives. -/
theorem TriplesRun.joins {B : Bgp} (hB : B.Clear) (hrows : ∀ u ∈ U, B.Open u)
    (hunderstood : ∀ bucket ∈ buckets scope.bufferSize U,
      E.understood (Round.union (boundPattern scope B) bucket))
    (h : TriplesRun E scope B U W) :
    (W : Multiset Row) = if scope.optional = true
      then (E.solutions scope.address scope.graph).leftJoin B U
      else (E.solutions scope.address scope.graph).join B U := by
  obtain ⟨B', X, hX, hclear, hW⟩ := h.of_plain hB.plain
  rw [hclear hB] at hX
  obtain ⟨hjoin, hleftJoin⟩ := hX.solved hB hrows hunderstood
  split at hW
  · next hopt => rw [if_pos hopt, hW, hleftJoin]
  · next hopt => rw [if_neg hopt, hW, hjoin]

end Plan

/-! ## Groups that keep every row -/

namespace Algebra

mutual

/-- In an optional group the clause keeps every row: it is a basic graph pattern without paths, or a
service or an optional group of such clauses. -/
def isLossless : Algebra → Bool
  | .bgp triples => triples.all fun t => !t.hasPath
  | .leftJoin patterns => allLossless patterns
  | .service _ _ patterns => allLossless patterns
  | _ => false

/-- All clauses of a list keep every row. -/
def allLossless : List Algebra → Bool
  | [] => true
  | a :: rest => a.isLossless && allLossless rest

end

/-- All clauses of a list keep every row when each of them does. -/
theorem allLossless_iff {patterns : List Algebra} :
    allLossless patterns = true ↔ ∀ a ∈ patterns, a.isLossless = true := by
  induction patterns with
  | nil => simp [allLossless]
  | cons a rest ih => simp [allLossless, ih]

/-- A basic graph pattern keeps every row if it has no paths. -/
theorem isLossless_bgp {triples : List TriplePattern} :
    (Algebra.bgp triples).isLossless = true ↔ Bgp.Plain triples := by
  simp [isLossless, Bgp.Plain]

/-- Clauses that keep every row do so when they are arranged. -/
theorem isLossless_arrange {patterns : List Algebra} (h : allLossless patterns = true) :
    ∀ a ∈ Algebra.arrange patterns, a.isLossless = true := by
  refine Arrangement.forall_arrange (fun a b ts us ha hb hts hus => ?_) (allLossless_iff.1 h)
  cases a with
  | bgp triples =>
    cases b with
    | bgp triples' =>
      obtain rfl : triples = ts := Option.some.inj ha
      obtain rfl : triples' = us := Option.some.inj hb
      rw [isLossless_bgp] at hts hus
      exact isLossless_bgp.2 (List.forall_mem_append.2 ⟨hts, hus⟩)
    | _ => exact absurd hb (by simp [Arrangeable.triples?, Algebra.triples?])
  | _ => exact absurd ha (by simp [Arrangeable.triples?, Algebra.triples?])

end Algebra

namespace Plan

/-- A pattern without paths keeps every row of an optional group, extended or as it is. -/
theorem TriplesRun.covers {B : Bgp} (hB : B.Plain) (hopt : scope.optional = true)
    (h : TriplesRun E scope B U W) : ∀ u ∈ U, ∃ w ∈ W, w.Extends u := by
  obtain ⟨B', X, hX, -, hW⟩ := h.of_plain hB
  rw [if_pos hopt] at hW
  intro u hu
  have hmem : ∀ w, w ∈ W ↔ w ∈ X.map Prod.snd ∨ w ∈ unextended U X := by
    intro w
    rw [← Multiset.mem_coe, hW, Multiset.mem_add, Multiset.mem_coe, Multiset.mem_coe]
  rcases hX.extending.covers u hu with ⟨x, hx, hext⟩ | hu
  · exact ⟨x.2, (hmem _).2 (.inl (List.mem_map_of_mem hx)), hext⟩
  · exact ⟨u, (hmem _).2 (.inr hu), .refl u⟩

/-- Inline rows that are put into a pattern make no paths. -/
theorem plain_foldl_substitute {B : Bgp} (hB : B.Plain) (rows : List Row) :
    Bgp.Plain (B.map fun t => rows.foldl TriplePattern.substitute t) := by
  induction rows generalizing B with
  | nil => simpa using hB
  | cons r rows ih =>
    have hmap : (B.map fun t => (r :: rows).foldl TriplePattern.substitute t) =
        (B.substitute r).map fun t => rows.foldl TriplePattern.substitute t := by
      rw [Bgp.substitute, List.map_map]
      rfl
    rw [hmap]
    exact ih (hB.substitute r)

/-- A clause that stands alone may drop rows. -/
theorem not_isLossless_of_standsAlone {a : Algebra} (h : standsAlone a = true) :
    a.isLossless = false := by
  cases a <;> simp_all [standsAlone, Algebra.isLossless]

/-- **No row is lost.** An optional group of clauses that keep every row hands on a row that extends
it for every row that comes in. -/
theorem GroupRun.covers {scope : Scope} {rows : List Row} {as : List Algebra} {U W : List Row}
    (h : GroupRun E scope rows as U W) (hopt : scope.optional = true)
    (has : ∀ a ∈ as, a.isLossless = true) : ∀ u ∈ U, ∃ w ∈ W, w.Extends u := by
  have hcomp : ∀ {U V W : List Row}, (∀ u ∈ U, ∃ v ∈ V, v.Extends u) →
      (∀ v ∈ V, ∃ w ∈ W, w.Extends v) → ∀ u ∈ U, ∃ w ∈ W, w.Extends u := by
    intro U V W hV hW u hu
    obtain ⟨v, hv, hvu⟩ := hV u hu
    obtain ⟨w, hw, hwv⟩ := hW v hv
    exact ⟨w, hw, hwv.trans hvu⟩
  match h with
  | .done => exact fun u hu => ⟨u, hu, .refl u⟩
  | .triples first others =>
    obtain ⟨ha, hrest⟩ := List.forall_mem_cons.1 has
    have hplain := plain_foldl_substitute (Algebra.isLossless_bgp.1 ha) rows
    exact hcomp (first.covers hplain hopt) (others.covers hopt hrest)
  | .join first others => exact absurd (has _ List.mem_cons_self) (by simp [Algebra.isLossless])
  | .leftJoin first others =>
    obtain ⟨ha, hrest⟩ := List.forall_mem_cons.1 has
    exact hcomp (first.covers rfl (Algebra.isLossless_arrange ha)) (others.covers hopt hrest)
  | .service place first others =>
    obtain ⟨ha, hrest⟩ := List.forall_mem_cons.1 has
    exact hcomp (first.covers hopt (Algebra.isLossless_arrange ha)) (others.covers hopt hrest)
  | .values branches => exact absurd (has _ List.mem_cons_self) (by simp [Algebra.isLossless])
  | .alone kind plan first others =>
    exact absurd (has _ List.mem_cons_self) (by simp [not_isLossless_of_standsAlone kind])

end Plan

/-! ## A sample

The pattern in an optional group, at an endpoint that knows nothing about one of the rows. -/

namespace Sample

/-- A row of one variable binds no other. -/
theorem eq_of_binds_single {v w : Variable} {t : Term}
    (hv : (VariableMap.ofList [(w, t)]).binds v = true) : v = w := by
  obtain ⟨u, hu⟩ := VariableMap.binds_iff.1 hv
  have hu : [(w, t)].lookup v = some u := (VariableMap.get?_ofList v _ (by simp)).symm.trans hu
  rw [List.lookup_cons] at hu
  split at hu
  · next h => exact eq_of_beq h
  · exact absurd hu (by simp)

/-- The row of the samples has one variable. -/
theorem eq_of_binds_half {v : Variable} (hv : half.binds v = true) : v = ⟨"x"⟩ :=
  eq_of_binds_single hv

/-- Where the samples are planned. -/
def place : Scope := ⟨"http://example.org/", "http://example.org/g", false, 2, fun _ => .ok ()⟩

/-- No variable has been drawn. -/
def planState : PlanState := { naming := { names := {} } }

/-- A resource that the endpoint does not know. -/
def unknown : Term := .iri "http://example.org/b"

/-- A row that the pattern does not extend. -/
def stranger : Row := .ofList [(⟨"x"⟩, unknown)]

/-- Nothing is said about the unknown resource. -/
def known (B : Bgp) : Bool := B.all fun t => t.subject != .term unknown

/-- What the endpoint knows. -/
def solutions : Solutions :=
  (Solutions.ofTerm resource).restrict known fun B f => by
    unfold known Bgp.rename
    rw [List.all_map]
    refine congrArg _ (funext fun t => ?_)
    obtain ⟨subject, predicate, object⟩ := t
    cases subject <;> rfl

/-- The patterns that are asked for. -/
def union : List Bgp := Round.union (goal 2) [half, stranger]

/-- The answer for a row that the pattern extends and one that it does not. -/
def strangerReply (_ : String) (request : Request) : Response :=
  if request.query = QueryText.ofUnion union then
    ⟨[.obj [("y_0", .str "http://example.org/c")]], none, false, none⟩
  else ⟨[], none, false, none⟩

/-- The endpoint that answers so. -/
def scene : Scene Unit where
  net := .ofReplies strangerReply
  now := now
  others := Eq
  ready _ := True
  solutions _ _ := solutions
  understood Bs := Bs = union
  tells _ _ := True

/-- A condition that no row meets. -/
def never : Expression := .leaf (.term (.boolean false))

/-- The pattern is asked for as it stands. -/
theorem clear : Bgp.Clear triples where
  plain := plain
  bare := bare
  noBlanks := by
    intro t ht label
    obtain rfl := List.mem_singleton.1 ht
    exact ⟨by simp, by simp⟩

/-- The optional group that is the pattern is planned as its bound join. -/
theorem stage_optional : Plan.stage (.group true [.bgp triples]) place planState =
    .ok (.remote (.ofPattern { goal 2 with optional := true }), planState) := by
  show (Plan.triplesStage triples >>= fun upper => (pure (upper.andThen .input) : Planner Stage))
    { place with optional := true } planState = _
  rw [Plan.bind_of_eq (Plan.triplesStage_of_clear clear)]
  rfl

/-- The session can be used. -/
theorem ready : scene.Ready session := ⟨trivial, fun _ => rfl⟩

/-- An endpoint that replies to one union of patterns with the solutions of all of them answers
every union, and is faithful to this one. -/
theorem answers_of_union {reply : String → Request → Response} {known : List Bgp} {rows : List Json}
    {page : Page} {S : Solutions}
    (hreply : ∀ address request, reply address request =
      if request.query = QueryText.ofUnion known then ⟨rows, none, false, none⟩
      else ⟨[], none, false, none⟩)
    (hpage : Page.ofResponse ⟨rows, none, false, none⟩ = .ok page) (hlast : page.hasNext = false)
    (hrows : (page.rows : Multiset Row) = (known.map S.of).sum) (address graph : String)
    (Bs : List Bgp) (w : Unit) :
    (Network.ofReplies reply).Answers Eq address
      (fun pages _ => True ∧ (Bs = known → True ∧
        (pages.flatMap Page.rows : Multiset Row) = (Bs.map S.of).sum))
      ⟨QueryText.ofUnion Bs, graph, none⟩ w := by
  by_cases hquery : QueryText.ofUnion Bs = QueryText.ofUnion known
  · refine .ofReplies_last ((congrArg Page.ofResponse ((hreply _ _).trans (if_pos hquery))).trans
      hpage) hlast ⟨trivial, ?_⟩
    rintro rfl
    exact ⟨trivial, by simpa using hrows⟩
  · refine .ofReplies_last ((congrArg Page.ofResponse ((hreply _ _).trans (if_neg hquery))).trans
      rfl) rfl ⟨trivial, ?_⟩
    rintro rfl
    exact absurd rfl hquery

/-- The endpoint always answers. -/
theorem lawful : scene.Lawful where
  refl _ := rfl
  trans := Eq.trans
  sends _ _ _ := rfl
  stays _ _ := trivial
  answers address graph Bs w _ _ := by
    have hrows : (([.ofList [(⟨"y_0"⟩, resource)]] : List Row) : Multiset Row) =
        (union.map solutions.of).sum := by decide
    exact answers_of_union (fun _ _ => rfl) rfl rfl hrows address graph Bs w

end Sample

namespace Plan

end Plan

end PagedSparql
