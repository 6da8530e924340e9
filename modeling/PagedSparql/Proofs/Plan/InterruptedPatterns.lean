import Mathlib.Algebra.Order.BigOperators.Group.Multiset
import Mathlib.Algebra.Order.Group.Multiset
import PagedSparql.Proofs.Pipeline.ClosedRows
import PagedSparql.Proofs.Pipeline.InterruptedOptional
import PagedSparql.Proofs.Plan.OptionalGroups

/-!
# Interrupted patterns in optional groups

What an optional group that is one basic graph pattern has handed on when clients were closed
(`PathFree.Interrupted`). If the pattern is planned as one bound join, this is the beginning of a
left join, so that a row with solutions is never handed on as it is. If rows are numbered around
several joins, it is so as well, provided that no client is closed before these joins are over.
Otherwise all rows follow whose numbers have not come out, with or without solutions: the numbers do
not tell whether the joins have come to their end or were stopped.
-/

namespace PagedSparql

variable {σ : Type} {E : Scene σ} {cut : Network σ} {scope : Scope} {n n' : PlanState}
  {st st₀ : Stage} {h : Traffic} {s s₀ : Session σ} {P : Row → Prop}

/-! ## What planned patterns keep -/

/-- A bound join keeps no rows at first. -/
theorem BoundJoin.carries_ofPattern (goal : BoundPattern) : (BoundJoin.ofPattern goal).Carries P :=
  ⟨by simp [ofPattern], by simp [ofPattern], by simp [ofPattern]⟩

/-- Stages keep rows, one above the other. -/
theorem Stage.Carries.andThen {upper lower : Stage} (hupper : upper.Carries P)
    (hlower : lower.Carries P) : (upper.andThen lower).Carries P := by
  rcases Stage.andThen_cases upper lower with ⟨-, heq⟩ | ⟨-, heq⟩ | heq
  · rwa [heq]
  · rwa [heq]
  · rw [heq]
    exact .chain hupper hlower

namespace Plan

/-- A planned bound join keeps no rows at first. -/
theorem carries_joinStage (scope : Scope) (triples : List TriplePattern) :
    (joinStage scope triples).Carries P := by
  unfold joinStage
  split
  · exact .input
  · exact .remote (BoundJoin.carries_ofPattern _)

/-- Conditions keep no rows. -/
theorem carries_filterStages (conditions : List Expression) :
    (filterStages conditions).Carries P := by
  induction conditions with
  | nil => exact .input
  | cons c rest ih => exact Stage.Carries.andThen (.filter c) ih

end Plan

mutual

/-- The stage of a pattern without paths keeps no rows at first. -/
theorem PathFree.carries_pathFreeStage (scope : Scope) (p : PathFree) :
    (Plan.pathFreeStage scope p).Carries P := by
  match p with
  | .flat triples conditions =>
    exact (Plan.carries_joinStage scope triples).andThen (Plan.carries_filterStages conditions)
  | .split branches conditions =>
    refine Stage.Carries.andThen (.fork (by simp [Tee.ofReaders]) ?_)
      (Plan.carries_filterStages conditions)
    exact PathFree.carries_pathFreeStages { scope with optional := false } branches

/-- The stages of patterns without paths keep no rows at first. -/
theorem PathFree.carries_pathFreeStages (scope : Scope) (ps : List PathFree) :
    ∀ b ∈ Plan.pathFreeStages scope ps, b.Carries P := by
  match ps with
  | [] => exact fun b hb => absurd hb List.not_mem_nil
  | p :: rest =>
    intro b hb
    rcases List.mem_cons.1 hb with rfl | hb
    · exact PathFree.carries_pathFreeStage scope p
    · exact PathFree.carries_pathFreeStages scope rest b hb

end

/-! ## One bound join -/

/-- A stage that only hands on what comes in has handed on what has come in. -/
theorem Stage.runs_input (hrun : Stage.Runs cut E.now E.others .input {} s₀ st h s) :
    st = .input ∧ h.given = h.taken := by
  induction hrun with
  | start => exact ⟨rfl, rfl⟩
  | others _ _ ih => exact ih
  | acts _ hwants _ _ ih =>
    obtain ⟨rfl, -⟩ := ih
    exact absurd hwants (by simp [Stage.wants])
  | takes r _ _ _ hstep _ ih =>
    obtain ⟨rfl, hgiven⟩ := ih
    obtain ⟨⟨rfl, rfl⟩, rfl⟩ : (_ ∧ _) ∧ _ := by
      simpa [Stage.step, stepSignal, stepRow] using hstep
    exact ⟨rfl, by simp [Traffic.hand, Traffic.give, Traffic.take, hgiven]⟩
  | ends _ _ hstep _ ih =>
    obtain ⟨rfl, hgiven⟩ := ih
    obtain ⟨⟨rfl, rfl⟩, rfl⟩ : (_ ∧ _) ∧ _ := by
      simpa [Stage.step, stepSignal, stepDone] using hstep
    exact ⟨rfl, hgiven⟩

/-- Whatever is closed while a planned bound join runs, it has handed on the beginning of what it
makes of the rows that have come in. -/
theorem Plan.runs_joinStage (hE : E.Lawful) (hcuts : E.net.Cuts cut) (hs : E.Ready s₀)
    {triples : List TriplePattern} (hplain : Bgp.Plain triples)
    (hrun : Stage.Runs cut E.now E.others (joinStage scope triples) {} s₀ st h s) :
    ∃ W, (joinStage scope triples).means E h.taken W ∧ h.given <+: W := by
  unfold joinStage at hrun ⊢
  split at hrun
  · next hnil =>
    obtain ⟨-, hgiven⟩ := Stage.runs_input hrun
    rw [if_pos hnil]
    exact ⟨h.taken, rfl, hgiven ▸ List.prefix_rfl⟩
  · next hne =>
    rw [if_neg hne]
    let goal : BoundPattern :=
      ⟨triples, scope.address, scope.graph, scope.bufferSize, scope.optional⟩
    let goal' : BoundPattern := (BoundJoin.ofPattern goal).goal
    have hplain' : Bgp.Plain goal'.triples := hplain
    have := hE.std_refl
    have := hE.isTrans
    have hK : 0 < goal'.bufferSize := Nat.lt_of_lt_of_le Nat.one_pos (Nat.le_max_right _ _)
    exact BoundJoin.runs_spec hcuts hE.sends (fun _ _ hw h => hE.stays hw h) hK
      (hE.asks hplain')
      (BoundJoin.inv_ofPattern goal (hs.isOpen _) hs.world) hs.world hrun

namespace Plan

/-- The rounds for some rows make up no extensions: if a first page is read by its numbers, these
are the numbers of solutions, and only rows that leave no variable unbound have some. -/
def Attributed (E : Scene σ) (scope : Scope) (B : Bgp) (U : List Row) : Prop :=
  ∀ bucket ∈ buckets scope.bufferSize U, ∀ pages,
    E.Served (boundPattern scope B) bucket pages →
      Round.Counted (boundPattern scope B) bucket pages →
        ExactCounts (E.solutions scope.address scope.graph)
          (Round.union (boundPattern scope B) bucket) pages ∧
        ∀ u ∈ bucket, B.Open u → (E.solutions scope.address scope.graph).of (B.substitute u) = 0

end Plan

/-- A row that leaves no variable unbound is one of its extensions, if it has any. -/
theorem Solutions.singleton_le_of_not_open (S : Solutions) {B : Bgp} (hB : B.Plain) {u : Row}
    (hu : ¬B.Open u) :
    {u} ≤ S.extensions B u + if S.of (B.substitute u) = 0 then {u} else 0 := by
  by_cases hzero : S.of (B.substitute u) = 0
  · rw [if_pos hzero]
    exact Multiset.le_add_left _ _
  · rw [if_neg hzero, add_zero, BoundJoin.extensions_of_not_open hB hu, Multiset.singleton_le,
      Multiset.mem_replicate]
    exact ⟨by simpa using hzero, rfl⟩

/-- The left join, row by row. -/
theorem Solutions.leftJoin_eq_bind (S : Solutions) (B : Bgp) (U : Multiset Row) :
    S.leftJoin B U =
      U.bind fun u => S.extensions B u + if S.of (B.substitute u) = 0 then {u} else 0 := by
  rw [Multiset.bind_add, leftJoin, join, unmatched, Multiset.filter_eq_bind]

/-- A round hands on extensions of a row, or the row if it has no solutions. -/
theorem BoundJoin.rowYield_le {S : Solutions} {goal : BoundPattern} {bucket : List Row}
    {counted : Prop} [Decidable counted] (hB : Bgp.Plain goal.triples)
    (hlength : counted → bucket.length ≠ 1) {u : Row}
    (hcounted : counted → Bgp.Open goal.triples u → S.of (Bgp.substitute goal.triples u) = 0) :
    Round.rowYield S goal bucket counted u ≤ S.extensions goal.triples u +
      if S.of (Bgp.substitute goal.triples u) = 0 then {u} else 0 := by
  have hlost := BoundJoin.rowHits_add_lost (S := S) hB hlength u
  have hnone : BoundJoin.fabricated S goal.triples counted u = 0 :=
    if_neg fun h => h.2.2 (hcounted h.2.1 h.1)
  rw [hnone, add_zero] at hlost
  have hhits : Round.rowHits S goal.triples bucket counted u ≤ S.extensions goal.triples u :=
    hlost ▸ Multiset.le_add_right _ _
  unfold Round.rowYield
  split
  · next hrow =>
    rw [hrow.2, zero_add] at hlost ⊢
    by_cases hopen : Bgp.Open goal.triples u
    · -- All solutions of the row would tell it, so it has none.
      rw [BoundJoin.lost, if_pos (.inl hopen)] at hlost
      rw [if_pos ((S.extensions_eq_zero_iff hB u).1 hlost.symm)]
      exact Multiset.le_add_left _ _
    · exact S.singleton_le_of_not_open hB hopen
  · rw [add_zero]
    exact hhits.trans (Multiset.le_add_right _ _)

namespace Plan

/-- What a join extends rows to, and the rows that it does not extend, is at most their left join.
-/
theorem Joins.le_leftJoin {B : Bgp} (hB : B.Plain) (hbare : ∀ v ∈ B.vars, v.Bare) {U : List Row}
    (hunderstood : ∀ bucket ∈ buckets scope.bufferSize U,
      E.understood (Round.union (boundPattern scope B) bucket))
    (hcounts : Attributed E scope B U) {X : List (Nat × Row)} (h : Joins E scope B U X) :
    (X.map Prod.snd : Multiset Row) + (unextended U X : Multiset Row) ≤
      (E.solutions scope.address scope.graph).leftJoin B U := by
  let S := E.solutions scope.address scope.graph
  let most : Row → Multiset Row := fun u =>
    S.extensions B u + if S.of (B.substitute u) = 0 then {u} else 0
  have hmono : ∀ {α : Type} (m : Multiset α) (f g : α → Multiset Row),
      (∀ a ∈ m, f a ≤ g a) → m.bind f ≤ m.bind g :=
    fun m f g hfg => Multiset.sum_map_le_sum_map f g hfg
  rw [Solutions.leftJoin_eq_bind]
  unfold Joins at h
  split at h
  · next hnil =>
    subst hnil h
    have hself : ∀ u ∈ (U : Multiset Row), {u} ≤ most u := fun u _ =>
      S.singleton_le_of_not_open hB fun ⟨v, hv, _⟩ => absurd hv List.not_mem_nil
    rw [map_snd_zipIdx, unextended_zipIdx, Multiset.coe_nil, add_zero]
    have hrows : (U : Multiset Row) = (U : Multiset Row).bind fun u => {u} := by
      rw [Multiset.bind_singleton, Multiset.map_id']
    exact hrows.le.trans (hmono _ _ most hself)
  · obtain ⟨rounds, hbuckets, hserved, rfl⟩ := h
    let goal : BoundPattern := { boundPattern scope B with optional := true }
    have hplain : Bgp.Plain goal.triples := hB
    have hyield : (rounds.flatMap fun r => Round.yield goal r.1 r.2 : Multiset Row) =
        ((BoundJoin.extensions (boundPattern scope B) rounds).map Prod.snd : Multiset Row) +
          (unextended U (BoundJoin.extensions (boundPattern scope B) rounds) : Multiset Row) := by
      rw [BoundJoin.flatMap_yield, if_pos rfl, hbuckets, flatten_buckets,
        ← extensions_option (boundPattern scope B) true scope.bufferSize rounds]
      rfl
    rw [← hyield, ← Multiset.coe_bind, ← BoundJoin.bind_rounds hbuckets]
    refine hmono _ _ _ fun r hr => ?_
    have hbucket := BoundJoin.mem_buckets_of_mem hbuckets hr
    have hrows := (hserved r hr (hunderstood _ hbucket)).rows
    have hexact := hcounts _ hbucket _ (hserved r hr)
    rw [Round.yield_eq hplain hbare hrows fun hcounted => (hexact hcounted).1]
    refine hmono _ _ most fun u hu => BoundJoin.rowYield_le hplain ?_ ?_
    · rintro ⟨page, -, hcounted⟩
      exact (Round.isCounted_start hcounted).2.2.2
    · exact fun hcounted => (hexact hcounted).2 u hu

end Plan

/-! ## Optional patterns -/

/-- What an optional group that is a pattern without paths has handed on, with the stage that it has
come to. -/
inductive PathFree.Interrupted (E : Scene σ) (cut : Network σ) (scope : Scope) (p : PathFree) :
    Stage → Traffic → Session σ → Prop
  /-- One bound join: the beginning of a left join. -/
  | join {st : Stage} {h : Traffic} {s : Session σ} {W : List Row}
    (simple : Plan.isSimple p = true) (leftJoins : p.LeftJoins E scope h.taken W)
    (given : h.given <+: W) : Interrupted E cut scope p st h s
  /-- As long as the joins inside are at work, the rows that they extend rows to. -/
  | working {tag : Variable} {inner : Stage} {next : Nat} {left : List (Int × Row)} {V : List Row}
    {h : Traffic} {s : Session σ} (simple : Plan.isSimple p = false)
    (out : ∀ v ∈ V, Optional.Numbered tag h.taken v)
    (given : h.given = V.map (Row.without · [tag])) :
    Interrupted E cut scope p (.optional tag inner next left none) h s
  /-- Then the rows follow whose numbers have not come out. If no client is closed by then, they
  complete a left join, whatever is closed later. -/
  | following {tag : Variable} {inner : Stage} {next : Nat} {rows V : List Row} {h : Traffic}
    {s : Session σ} (simple : Plan.isSimple p = false)
    (out : ∀ v ∈ V, Optional.Numbered tag h.taken v)
    (given : h.given ++ rows =
      V.map (Row.without · [tag]) ++ (Optional.unmatched tag h.taken V).map Prod.snd)
    (late : (∀ a, s.isClosed a = false) → ∀ rest, h.Rest rest →
      ∃ W, p.LeftJoins E scope (h.taken ++ rest) W ∧ ∀ {st' : Stage} {h' : Traffic} {s' : Session σ},
        Stage.Runs cut E.now E.others (.optional tag inner next [] (some rows)) h s st' h' s' →
          h'.given <+: W) :
    Interrupted E cut scope p (.optional tag inner next [] (some rows)) h s

namespace PathFree

/-- Rows are numbered around a pattern while clients are closed. -/
theorem runs_optionalOf (hE : E.Lawful) (hcuts : E.net.Cuts cut) (hs : E.Ready s₀) {p : PathFree}
    (hp : p.Plain) (hsimple : Plan.isSimple p = false) {tag : Variable} (htag : tag.Direct)
    (hrun : Stage.Runs cut E.now E.others (.optionalOf tag
      (Plan.pathFreeStage { scope with optional := false } p)) {} s₀ st h s) :
    p.Interrupted E cut scope st h s := by
  have hinner := sound_pathFreeStage hE { scope with optional := false } p hp
  have hinterrupted := Optional.interrupted_runs hcuts htag hinner
    (carries_pathFreeStage { scope with optional := false } p) hs hrun
  cases hinterrupted with
  | working carries out given running => exact .working hsimple out given
  | @following inner next rows V h s out given made =>
    refine .following hsimple out given fun hopen rest hrest => ?_
    obtain ⟨hover, hspec⟩ := made hopen
    refine ⟨h.given ++ rows, leftJoins_of_optional htag hsimple
      ⟨h.taken, V, List.prefix_append _ _, fun hwaits => ?_, hspec rest hrest, given⟩, ?_⟩
    · have hended : h.ended = true := hover.resolve_right (by simp [hwaits])
      rw [hrest hended, List.append_nil]
    · intro st' h' s' hlater
      obtain ⟨rest', -, -, hgiven⟩ := Optional.following_runs hlater
      exact hgiven ▸ List.prefix_append _ _

/-- A pattern that is one bound join is joined while clients are closed. -/
theorem runs_simple (hE : E.Lawful) (hcuts : E.net.Cuts cut) (hs : E.Ready s₀)
    (hopt : scope.optional = true) {p : PathFree} (hp : p.Plain)
    (hsimple : Plan.isSimple p = true)
    (hrun : Stage.Runs cut E.now E.others (Plan.pathFreeStage scope p) {} s₀ st h s) :
    p.Interrupted E cut scope st h s := by
  cases p with
  | split branches conditions => exact absurd hsimple (by simp [Plan.isSimple])
  | flat triples conditions =>
    obtain rfl : conditions = [] := by simpa [Plan.isSimple] using hsimple
    rw [Plan.pathFreeStage_flat_nil] at hrun
    obtain ⟨W, hW, hgiven⟩ := Plan.runs_joinStage hE hcuts hs hp hrun
    rw [← Plan.pathFreeStage_flat_nil] at hW
    exact .join hsimple (leftJoins_of_isSimple hopt hsimple hW) hgiven

end PathFree

namespace Plan

open Planner

/-- An optional basic graph pattern is joined while clients are closed. -/
theorem runs_triplesStage (hE : E.Lawful) (hcuts : E.net.Cuts cut) (hs : E.Ready s₀)
    (hopt : scope.optional = true) {triples : Bgp}
    (hplan : triplesStage triples scope n = .ok (st₀, n'))
    (hrun : Stage.Runs cut E.now E.others st₀ {} s₀ st h s) :
    ∃ B n₁ pattern names, blanksToVariables [] triples scope n = .ok (B, n₁) ∧
      Paths.compile B n₁.naming = .ok (pattern, names) ∧ pattern.Interrupted E cut scope st h s := by
  obtain ⟨rfl, rfl⟩ | ⟨-, B, n₁, pattern, names, hblanks, hcompile, hst⟩ := triplesStage_inv hplan
  · refine ⟨[], n, .flat [] [], n.naming, rfl, Paths.compile_of_plain (by simp [Bgp.Plain]) _, ?_⟩
    exact PathFree.runs_simple hE hcuts hs hopt (by simp [PathFree.Plain, Bgp.Plain]) rfl hrun
  · refine ⟨B, n₁, pattern, names, hblanks, hcompile, ?_⟩
    have hplain := Paths.plain_compile hcompile
    cases hsimple : isSimple pattern with
    | true =>
      rw [if_neg (by simp [hsimple])] at hst
      subst hst
      exact PathFree.runs_simple hE hcuts hs hopt hplain hsimple hrun
    | false =>
      rw [if_pos (by simp [hopt, hsimple])] at hst
      obtain ⟨tag, htag, rfl⟩ := hst
      exact PathFree.runs_optionalOf hE hcuts hs hplain hsimple htag hrun

/-- A group that is one basic graph pattern is planned as the pattern. -/
theorem stage_leftJoin_of_arrange {patterns : List Algebra} {triples : Bgp}
    (harrange : Algebra.arrange patterns = [.bgp triples])
    (hplan : stage (.leftJoin patterns) scope n = .ok (st, n')) :
    triplesStage triples { scope with optional := true } n = .ok (st, n') := by
  have hgroup : groupStage (clauses patterns) { scope with optional := true } n = .ok (st, n') :=
    hplan
  rw [groupStage, arrange_clauses, harrange] at hgroup
  have hmap : (triples.map fun t => ([] : List Row).foldl TriplePattern.substitute t) = triples :=
    List.map_id triples
  obtain ⟨upper, n₁, hupper, hgroup⟩ := bind_inv hgroup
  obtain ⟨lower, n₂, hlower, hgroup⟩ := bind_inv hgroup
  obtain ⟨rfl, rfl⟩ := pure_inv hlower
  obtain ⟨rfl, rfl⟩ := pure_inv hgroup
  rw [Stage.andThen_input, ← hmap]
  exact hupper

end Plan

namespace PathFree

/-- One bound join has handed on no more than the left join. -/
theorem Interrupted.le_leftJoin {B : Bgp} (hB : B.Plain) (hbare : ∀ v ∈ B.vars, v.Bare)
    (hst : (PathFree.flat B []).Interrupted E cut scope st h s)
    (hunderstood : ∀ bucket ∈ buckets scope.bufferSize h.taken,
      E.understood (Round.union (Plan.boundPattern scope B) bucket))
    (hcounts : Plan.Attributed E scope B h.taken) :
    (h.given : Multiset Row) ≤ (E.solutions scope.address scope.graph).leftJoin B h.taken := by
  have hsimple : Plan.isSimple (.flat B []) = true := rfl
  cases hst with
  | @join st h s W simple leftJoins given =>
    unfold LeftJoins at leftJoins
    rw [if_pos hsimple] at leftJoins
    obtain ⟨X, ⟨Y, hY, rfl⟩, hW⟩ := leftJoins
    exact (Multiset.coe_le.2 given.sublist.subperm).trans
      (hW.le.trans (hY.le_leftJoin hB hbare hunderstood hcounts))
  | working simple => exact absurd hsimple (by simp [simple])
  | following simple => exact absurd hsimple (by simp [simple])

end PathFree

/-! ## A sample

The client is closed when the row that the pattern extends has been handed on. -/

namespace Sample

/-- The join of the optional group, to begin with. -/
def optionalJoin : Stage := .remote (.ofPattern { goal 2 with optional := true })

/-- The join after the first row has come in. -/
def halfFilled : (Stage × Option Signal) × Session Unit :=
  optionalJoin.step scene.net now (some (.row half)) session

/-- The join after both rows have come in. -/
def filled : (Stage × Option Signal) × Session Unit :=
  halfFilled.1.1.step scene.net now (some (.row stranger)) halfFilled.2

/-- The join after the page has been read. -/
def fetched : (Stage × Option Signal) × Session Unit :=
  filled.1.1.step scene.net now none filled.2

/-- The join after the extended row has been handed on. -/
def handedOn : (Stage × Option Signal) × Session Unit :=
  fetched.1.1.step scene.net now none fetched.2

/-- The join after the step that sees that the client has been closed. -/
def stopped : (Stage × Option Signal) × Session Unit :=
  handedOn.1.1.step scene.net now none (handedOn.2.close place.address)

/-- The rows that have come in, and the one that was handed on. -/
def stoppedTraffic : Traffic := ⟨[half, stranger], false, [extended]⟩

set_option maxRecDepth 1000 in
/-- The join has come to its end so. -/
theorem runs_stopped : Stage.Runs scene.net scene.now scene.others optionalJoin {} session
    stopped.1.1 stoppedTraffic stopped.2 := by
  have hhalf : halfFilled = ((halfFilled.1.1, none), halfFilled.2) := rfl
  have hfilled : filled = ((filled.1.1, none), filled.2) := rfl
  have hfetched : fetched = ((fetched.1.1, none), fetched.2) := rfl
  have hhanded : handedOn = ((handedOn.1.1, some (.row extended)), handedOn.2) := rfl
  have hstopped : stopped = ((stopped.1.1, some .done), stopped.2) := rfl
  have := lawful.std_refl
  refine .acts (.others (.acts (.acts (.takes stranger (.takes half .start rfl rfl hhalf ?_)
    rfl rfl hfilled ?_) rfl hfetched ?_) rfl hhanded ?_) (Session.cut_close _ _)) rfl hstopped ?_
  all_goals simp

end Sample

namespace Plan

open Planner

/-- **Optional patterns while clients are closed.** Whatever is closed while the stage of an optional
group that is one basic graph pattern runs, at any moment, what it has handed on is as
`PathFree.Interrupted` says for the pattern without its paths. If it has none, this is at most the
left join of the rows that have come in with its solutions. -/
theorem runs_leftJoin (hE : E.Lawful) (hcuts : E.net.Cuts cut) {patterns : List Algebra}
    {triples : Bgp} (harrange : Algebra.arrange patterns = [.bgp triples])
    (hplan : stage (.leftJoin patterns) scope n = .ok (st₀, n')) (hs : E.Ready s₀)
    (hrun : Stage.Runs cut E.now E.others st₀ {} s₀ st h s) :
    ∃ (B : Bgp) (n₁ : PlanState) (pattern : PathFree) (names : Naming),
      blanksToVariables [] triples { scope with optional := true } n = .ok (B, n₁) ∧
      Paths.compile B n₁.naming = .ok (pattern, names) ∧
      pattern.Interrupted E cut { scope with optional := true } st h s ∧
      (triples.Plain → (∀ v ∈ B.vars, v.Bare) →
        (∀ bucket ∈ buckets scope.bufferSize h.taken,
          E.understood (Round.union (boundPattern scope B) bucket)) →
        Attributed E scope B h.taken →
          (h.given : Multiset Row) ≤ (E.solutions scope.address scope.graph).leftJoin B h.taken) := by
  obtain ⟨B, n₁, pattern, names, hblanks, hcompile, hst⟩ :=
    runs_triplesStage hE hcuts hs rfl (stage_leftJoin_of_arrange harrange hplan) hrun
  refine ⟨B, n₁, pattern, names, hblanks, hcompile, hst, fun htriples hbare hunderstood => ?_⟩
  have hB := plain_blanksToVariables htriples hblanks
  rw [Paths.compile_of_plain hB] at hcompile
  obtain ⟨rfl, -⟩ := Prod.mk.inj (Except.ok.inj hcompile)
  have hle := hst.le_leftJoin hB hbare hunderstood
  exact hle

/-- The row that the pattern does not extend is not handed on any more. -/
theorem runs_leftJoin_sample :
    Algebra.arrange [.bgp Sample.triples] = [.bgp Sample.triples] ∧
      stage (.leftJoin [.bgp Sample.triples]) Sample.place Sample.planState =
        .ok (Sample.optionalJoin, Sample.planState) ∧
      Sample.stopped.2.isClosed Sample.place.address = true ∧
      Stage.Runs Sample.scene.net Sample.scene.now Sample.scene.others Sample.optionalJoin {}
        Sample.session Sample.stopped.1.1 Sample.stoppedTraffic Sample.stopped.2 ∧
      ∃ pattern : PathFree,
        pattern.Interrupted Sample.scene Sample.scene.net { Sample.place with optional := true }
          Sample.stopped.1.1 Sample.stoppedTraffic Sample.stopped.2 ∧
        (Sample.stoppedTraffic.given : Multiset Row) ≤
          Sample.solutions.leftJoin Sample.triples Sample.stoppedTraffic.taken := by
  have hstill : Sample.scene.net.Cuts Sample.scene.net := ⟨fun _ _ _ => rfl, fun _ _ _ => ⟨_, rfl⟩⟩
  obtain ⟨B, n₁, pattern, names, hblanks, -, hst, hle⟩ := runs_leftJoin Sample.lawful hstill rfl
    Sample.stage_optional Sample.ready Sample.runs_stopped
  rw [blanksToVariables_eq Sample.clear.noBlanks] at hblanks
  obtain ⟨rfl, -⟩ := Prod.mk.inj (Except.ok.inj hblanks)
  have hbuckets : buckets 2 [Sample.half, Sample.stranger] = [[Sample.half, Sample.stranger]] :=
    buckets_of_length_le (by simp) (by decide)
  refine ⟨rfl, Sample.stage_optional, by decide +kernel, Sample.runs_stopped, pattern, hst,
    hle Sample.plain Sample.bare ?_ ?_⟩
  · intro bucket hbucket
    obtain rfl : bucket = [Sample.half, Sample.stranger] := List.mem_singleton.1 (hbuckets ▸ hbucket)
    rfl
  · intro bucket hbucket pages hserved hcounted
    obtain rfl : bucket = [Sample.half, Sample.stranger] := List.mem_singleton.1 (hbuckets ▸ hbucket)
    refine absurd hcounted (BoundJoin.not_counted_of_open Sample.plain Sample.bare ?_ (hserved rfl).rows)
    decide

end Plan

end PagedSparql
