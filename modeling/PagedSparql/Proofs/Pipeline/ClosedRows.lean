import PagedSparql.Proofs.Pipeline.BoundJoinLaw

/-!
# Rows that leave no variable unbound

What a bound join hands on for rows that leave no variable of the pattern unbound depends on the
round, since the solutions for such a row are empty rows: they are lost in a round of several rows,
unless the first page is read by its numbers, and then each row with solutions is handed on once,
whether or not it leaves a variable unbound. So with numbers of solutions a bound join hands on the
join only if its rounds lose and fabricate nothing (`BoundJoin.Exact`), and without them it hands on
what `BoundJoin.uncountedJoin` says, which depends on the size of buckets.
-/

namespace PagedSparql

/-! ## Samples -/

namespace Sample

/-- A row that leaves no variable unbound. -/
def whole : Row := half.insert ⟨"y"⟩ (.iri "http://example.org/b")

/-- The answer for a row that leaves no variable unbound and one that leaves the second, in two
pages, with the numbers of solutions. -/
def mixedReply (_ : String) (request : Request) : Response :=
  if request.token? = none then ⟨[.obj []], some "1", true, some ⟨[1, 1], 0, 0⟩⟩
  else ⟨[.obj [("y_1", .str "http://example.org/c")]], none, false, none⟩

/-- The pages of `mixedReply`. -/
def mixedPages : List Page :=
  [⟨[.empty], some "1", true, [1, 1]⟩, ⟨[.ofList [(⟨"y_1"⟩, resource)]], none, false, []⟩]

/-- The answer for one or two rows that leave no variable unbound, without numbers of solutions. -/
def uncountedReply (_ : String) (request : Request) : Response :=
  if request.query = QueryText.ofUnion (Round.union (goal 2) [whole, whole]) then
    ⟨[.obj [], .obj []], none, false, none⟩
  else ⟨[.obj []], none, false, none⟩

/-- The join with a pattern of two variables that differ by a sigil only. -/
def sigilGoal (K : Nat) : BoundPattern :=
  ⟨[⟨.variable ⟨"?x"⟩, .plain (.term (.iri "http://example.org/p")), .variable ⟨"x"⟩⟩],
    "http://example.org/", "http://example.org/g", K, false⟩

/-- The answer for one or two empty rows. With their numbers the variables are the same. -/
def sigilReply (_ : String) (request : Request) : Response :=
  if request.query = QueryText.ofUnion (Round.union (sigilGoal 2) [.empty, .empty]) then
    ⟨[.obj [("x_0", .str "http://example.org/c")], .obj [("x_1", .str "http://example.org/c")]],
      none, false, none⟩
  else
    ⟨[.obj [("??x", .str "http://example.org/c"), ("?x", .str "http://example.org/c")]],
      none, false, none⟩

/-- The pages of `sigilReply`. -/
def sigilPages (Bs : List Bgp) : List Page :=
  if Bs.length = 2 then
    [⟨[.ofList [(⟨"x_0"⟩, resource)], .ofList [(⟨"x_1"⟩, resource)]], none, false, []⟩]
  else [⟨[.ofList [(⟨"?x"⟩, resource), (⟨"x"⟩, resource)]], none, false, []⟩]

end Sample

namespace BoundJoin

variable {σ : Type} {net : Network σ} {ready : σ → Prop} {S : Solutions} {goal : BoundPattern}
  {tells : List Bgp → List Page → Prop} {U : List Row} {s : Session σ}

/-! ## Numbers of solutions -/

/-- A round hands on what it should: a row that leaves a variable unbound is not handed on for its
number, and any other row with solutions is alone, or is handed on for its number and has one
solution. -/
def Exact (S : Solutions) (B : Bgp) (bucket : List Row) (counted : Prop) : Prop :=
  ∀ u ∈ bucket, S.of (B.substitute u) ≠ 0 →
    if B.Open u then ¬counted
    else bucket.length = 1 ∨ counted ∧ (S.of (B.substitute u)).card = 1

/-- The rows that are handed on for their numbers although their solutions tell them. -/
def fabricated (S : Solutions) (B : Bgp) (counted : Prop) [Decidable counted] (u : Row) :
    Multiset Row :=
  if B.Open u ∧ counted ∧ S.of (B.substitute u) ≠ 0 then {u} else 0

/-- The rows that are not handed on because their solutions do not tell them. -/
def lost (S : Solutions) (B : Bgp) (bucket : List Row) (counted : Prop) [Decidable counted]
    (u : Row) : Multiset Row :=
  if B.Open u ∨ bucket.length = 1 then 0
  else if counted then .replicate ((S.of (B.substitute u)).card - 1) u
  else .replicate (S.of (B.substitute u)).card u

/-- A row that leaves no variable unbound is its own extension, once for each solution. -/
theorem extensions_of_not_open {B : Bgp} (hB : B.Plain) {u : Row} (hu : ¬B.Open u) :
    S.extensions B u = .replicate (S.of (B.substitute u)).card u := by
  rw [Multiset.eq_replicate, S.card_extensions hB]
  refine ⟨rfl, fun w hw => ?_⟩
  obtain ⟨m, hm, hmerge⟩ := (Multiset.mem_filterMap _ _).1 hw
  rw [S.eq_empty_of_not_open hB hu hm, Row.merge_empty] at hmerge
  exact (Option.some.inj hmerge).symm

/-- A round hands on the extensions of a row, but for what is lost and what is fabricated. -/
theorem rowHits_add_lost {B : Bgp} (hB : B.Plain) {bucket : List Row} {counted : Prop}
    [Decidable counted] (hcounted : counted → bucket.length ≠ 1) (u : Row) :
    Round.rowHits S B bucket counted u + lost S B bucket counted u =
      S.extensions B u + fabricated S B counted u := by
  unfold Round.rowHits lost fabricated Round.Told
  by_cases hu : B.Open u
  · simp only [hu, true_or, true_and, if_true, add_zero]
    exact add_comm _ _
  · simp only [hu, false_or, false_and, if_false, add_zero]
    by_cases hone : bucket.length = 1
    · have hnot : ¬counted := fun h => hcounted h hone
      simp [hone, hnot]
    · simp only [hone, if_false, add_zero, extensions_of_not_open hB hu]
      by_cases hc : counted
      · simp only [hc, true_and, if_true]
        by_cases hzero : S.of (B.substitute u) = 0
        · simp [hzero]
        · have hpos : 1 + ((S.of (B.substitute u)).card - 1) = (S.of (B.substitute u)).card := by
            have := Multiset.card_pos.2 hzero
            omega
          rw [if_pos hzero, ← Multiset.replicate_one, ← Multiset.replicate_add, hpos]
      · simp [hc]

/-- A round hands on what it should when nothing is lost and nothing is fabricated. -/
theorem exact_iff {B : Bgp} {bucket : List Row} {counted : Prop} [Decidable counted] :
    Exact S B bucket counted ↔
      ∀ u ∈ bucket, lost S B bucket counted u = 0 ∧ fabricated S B counted u = 0 := by
  refine forall₂_congr fun u _ => ?_
  unfold lost fabricated
  by_cases hzero : S.of (B.substitute u) = 0
  · by_cases hu : B.Open u <;> by_cases hc : counted <;> simp [hzero, hu, hc]
  · have hpos := Multiset.card_pos.2 hzero
    have hreplicate : ∀ n, Multiset.replicate n u = 0 ↔ n = 0 := fun n => by
      rw [← Multiset.card_eq_zero, Multiset.card_replicate]
    by_cases hu : B.Open u
    · by_cases hc : counted <;> simp [hzero, hu, hc]
    · by_cases hone : bucket.length = 1
      · simp [hu, hone]
      · by_cases hc : counted
        · simp only [hzero, hu, hone, hc, ne_eq, not_false_eq_true, forall_const, if_false,
            false_or, true_and, or_self, if_true, and_true, hreplicate]
          omega
        · simp only [hzero, hu, hone, hc, ne_eq, not_false_eq_true, forall_const, if_false,
            false_and, or_self, hreplicate]
          simpa using hzero

/-- What is lost leaves no variable unbound. -/
theorem not_open_of_mem_lost {B : Bgp} {bucket : List Row} {counted : Prop} [Decidable counted]
    {u w : Row} (h : w ∈ lost S B bucket counted u) : ¬B.Open w := by
  unfold lost at h
  split at h
  · exact absurd h (Multiset.notMem_zero w)
  · next hu =>
    have hw : w = u := by
      split at h <;> exact Multiset.eq_of_mem_replicate h
    rw [hw]
    exact fun h => hu (.inl h)

/-- What is fabricated leaves a variable unbound. -/
theorem open_of_mem_fabricated {B : Bgp} {counted : Prop} [Decidable counted] {u w : Row}
    (h : w ∈ fabricated S B counted u) : B.Open w := by
  unfold fabricated at h
  split at h
  · next hu =>
    rw [Multiset.mem_singleton.1 h]
    exact hu.1
  · exact absurd h (Multiset.notMem_zero w)

/-- A join that is not optional hands on the rows that its rounds extend. -/
theorem rowYield_of_not_optional {bucket : List Row} {counted : Prop} [Decidable counted]
    (hopt : goal.optional = false) (u : Row) :
    Round.rowYield S goal bucket counted u = Round.rowHits S goal.triples bucket counted u := by
  simp [Round.rowYield, hopt]

/-- Multisets of multisets add up to nothing if each of them is empty. -/
theorem bind_eq_zero_iff {α β : Type} {m : Multiset α} {f : α → Multiset β} :
    m.bind f = 0 ↔ ∀ a ∈ m, f a = 0 := by
  simp only [Multiset.eq_zero_iff_forall_notMem, Multiset.mem_bind, not_exists, not_and]
  exact ⟨fun h a ha b => h b a ha, fun h b a ha => h a ha b⟩

/-- What the rounds of a join lose. -/
def lostAll (S : Solutions) (goal : BoundPattern) (rounds : List PastRound) : Multiset Row :=
  (rounds : Multiset PastRound).bind fun r =>
    (r.1 : Multiset Row).bind (lost S goal.triples r.1 (Round.Counted goal r.1 r.2))

/-- What the rounds of a join fabricate. -/
def fabricatedAll (S : Solutions) (goal : BoundPattern) (rounds : List PastRound) : Multiset Row :=
  (rounds : Multiset PastRound).bind fun r =>
    (r.1 : Multiset Row).bind (fabricated S goal.triples (Round.Counted goal r.1 r.2))

/-- The rounds of a join hand on the join, but for what they lose and what they fabricate. -/
theorem add_lostAll (hopt : goal.optional = false) (hB : Bgp.Plain goal.triples)
    {rounds : List PastRound} {K : Nat} (hbuckets : rounds.map Prod.fst = buckets K U) :
    ((rounds : Multiset PastRound).bind fun r =>
        (r.1 : Multiset Row).bind (Round.rowYield S goal r.1 (Round.Counted goal r.1 r.2))) +
        lostAll S goal rounds =
      S.join goal.triples U + fabricatedAll S goal rounds := by
  have hlength : ∀ r : PastRound, Round.Counted goal r.1 r.2 → r.1.length ≠ 1 := by
    rintro r ⟨page, -, hcounted⟩
    exact (Round.isCounted_start hcounted).2.2.2
  have hround : ∀ r ∈ (rounds : Multiset PastRound),
      (r.1 : Multiset Row).bind (Round.rowYield S goal r.1 (Round.Counted goal r.1 r.2)) +
          (r.1 : Multiset Row).bind (lost S goal.triples r.1 (Round.Counted goal r.1 r.2)) =
        (r.1 : Multiset Row).bind (S.extensions goal.triples) +
          (r.1 : Multiset Row).bind
            (fabricated S goal.triples (Round.Counted goal r.1 r.2)) := by
    intro r _
    rw [← Multiset.bind_add, ← Multiset.bind_add]
    refine Multiset.bind_congr fun u _ => ?_
    rw [rowYield_of_not_optional hopt, rowHits_add_lost hB (hlength r)]
  rw [lostAll, fabricatedAll, ← Multiset.bind_add, Multiset.bind_congr hround, Multiset.bind_add,
    bind_rounds hbuckets]
  rfl

/-- All rounds hand on what they should when nothing is lost and nothing is fabricated. -/
theorem forall_exact_iff {rounds : List PastRound} :
    (∀ r ∈ rounds, Exact S goal.triples r.1 (Round.Counted goal r.1 r.2)) ↔
      lostAll S goal rounds = 0 ∧ fabricatedAll S goal rounds = 0 := by
  simp only [lostAll, fabricatedAll, bind_eq_zero_iff, Multiset.mem_coe, ← forall_and]
  exact forall₂_congr fun r _ => exact_iff

/-- What is fabricated does not make up for what is lost. -/
theorem lostAll_eq_zero {rounds : List PastRound}
    (h : lostAll S goal rounds = fabricatedAll S goal rounds) : lostAll S goal rounds = 0 := by
  rw [Multiset.eq_zero_iff_forall_notMem]
  intro w hlost
  have hfabricated := hlost
  rw [h] at hfabricated
  simp only [lostAll, fabricatedAll, Multiset.mem_bind] at hlost hfabricated
  obtain ⟨r, -, u, -, hlost⟩ := hlost
  obtain ⟨r', -, u', -, hfabricated⟩ := hfabricated
  -- A row of both would leave a variable unbound and leave none.
  exact not_open_of_mem_lost hlost (open_of_mem_fabricated hfabricated)

/-- **Joins with numbers of solutions.** If the first page of each round tells how many solutions
there are for each row, a bound join hands on the join of the rows with the pattern exactly when
each of its rounds hands on what it should. -/
theorem collects_counted (now : DateTime) (hopt : goal.optional = false)
    (hB : Bgp.Plain goal.triples) (hbare : ∀ v ∈ Bgp.vars goal.triples, v.Bare)
    (hf : Faithful net Eq ready goal.address goal.graph S (AskedFor goal U) tells)
    (hcounts : ∀ Bs pages, tells Bs pages → ExactCounts S Bs pages)
    (hopen : s.isClosed goal.address = false) (hready : ready s.world) :
    ∃ rounds : List PastRound, ∃ W st' s',
      Stage.Collects net now (.chain (.source U .done) (.remote (.ofPattern goal))) s W st' s' ∧
        rounds.map Prod.fst = buckets goal.bufferSize U ∧
        Rounds goal (Served S goal tells) rounds W ∧
        ((W : Multiset Row) = S.join goal.triples U ↔
          ∀ r ∈ rounds, Exact S goal.triples r.1 (Round.Counted goal r.1 r.2)) := by
  obtain ⟨rounds, W, st', s', hcollects, hbuckets, hover, hW⟩ :=
    collects_yields now hB hbare hf (fun _ _ _ hserved _ => hcounts _ _ hserved.tells) hopen
      hready
  refine ⟨rounds, W, st', s', hcollects, hbuckets, hover, ?_⟩
  have hbalance : (W : Multiset Row) + lostAll S goal rounds =
      S.join goal.triples U + fabricatedAll S goal rounds := by
    rw [hW]
    exact add_lostAll hopt hB hbuckets
  rw [forall_exact_iff]
  constructor
  · intro hjoin
    rw [hjoin, add_left_cancel_iff] at hbalance
    have hnone := lostAll_eq_zero hbalance
    exact ⟨hnone, hbalance ▸ hnone⟩
  · rintro ⟨hlost, hfabricated⟩
    simpa [hlost, hfabricated] using hbalance

/-- A round with solutions for rows of both kinds does not hand on what it should, whatever its
first page holds. -/
theorem not_exact_of_mixed {B : Bgp} {bucket : List Row} {counted : Prop} {u v : Row}
    (hu : u ∈ bucket) (hv : v ∈ bucket) (huopen : B.Open u) (hvopen : ¬B.Open v)
    (husolved : S.of (B.substitute u) ≠ 0) (hvsolved : S.of (B.substitute v) ≠ 0) :
    ¬Exact S B bucket counted := by
  intro h
  have hnot : ¬counted := by simpa [huopen] using h u hu husolved
  have hone : bucket.length = 1 := by
    have := h v hv hvsolved
    rw [if_neg hvopen] at this
    exact this.resolve_right fun h' => hnot h'.1
  obtain ⟨w, rfl⟩ := List.length_eq_one_iff.1 hone
  rw [List.mem_singleton.1 hu, ← List.mem_singleton.1 hv] at huopen
  exact hvopen huopen

/-- A row that leaves a variable unbound is handed on as it is, besides its extension. -/
theorem collects_counted_sample :
    ∃ W st' s', Stage.Collects (.ofReplies Sample.mixedReply) Sample.now
        (.chain (.source [Sample.whole, Sample.half] .done) (.remote (.ofPattern (Sample.goal 2))))
        Sample.session W st' s' ∧
      W = [Sample.whole, Sample.half, Sample.extended] ∧
      (W : Multiset Row) ≠ (Solutions.ofTerm Sample.resource).join Sample.triples
        ([Sample.whole, Sample.half] : List Row) := by
  let S : Solutions := .ofTerm Sample.resource
  have hbuckets : buckets 2 [Sample.whole, Sample.half] = [[Sample.whole, Sample.half]] :=
    buckets_of_length_le (by simp) (by decide)
  have hfaithful : Faithful (.ofReplies Sample.mixedReply) Eq (fun _ => True)
      (Sample.goal 2).address (Sample.goal 2).graph S
      (AskedFor (Sample.goal 2) [Sample.whole, Sample.half])
      fun Bs pages => ExactCounts S Bs pages ∧ pages = Sample.mixedPages := by
    refine ⟨fun _ _ => trivial, ?_⟩
    rintro w _ - ⟨bucket, hbucket, rfl⟩
    obtain rfl : bucket = [Sample.whole, Sample.half] := by
      rw [show (Sample.goal 2).bufferSize = 2 from rfl, hbuckets] at hbucket
      exact List.mem_singleton.1 hbucket
    refine .ofReplies_more rfl rfl (.ofReplies_last rfl rfl ⟨trivial, ⟨⟨_, rfl, rfl⟩, rfl⟩, ?_⟩)
    decide
  obtain ⟨rounds, W, st', s', hcollects, hrounds, hover, hiff⟩ := collects_counted Sample.now rfl
    Sample.plain Sample.bare hfaithful (fun _ _ h => h.1) (s := Sample.session) rfl trivial
  obtain ⟨⟨bucket, pages⟩, rfl, hbucket⟩ := List.map_eq_singleton_iff.1 (hrounds.trans hbuckets)
  obtain rfl : [Sample.whole, Sample.half] = bucket := hbucket.symm
  obtain rfl : pages = Sample.mixedPages := (hover.served _ List.mem_cons_self).tells.2
  refine ⟨W, st', s', hcollects, hover.given.trans rfl, fun hjoin => ?_⟩
  refine not_exact_of_mixed (u := Sample.half) (v := Sample.whole) (by decide) (by decide)
    (by decide) (by decide) ?_ ?_ (hiff.1 hjoin _ List.mem_cons_self) <;> decide

/-! ## The size of buckets -/

/-- The rows that are alone in their buckets. -/
def loneRows (K : Nat) (U : List Row) : List Row :=
  ((buckets K U).filter fun bucket => bucket.length = 1).flatten

/-- What a bound join makes of rows if no numbers of solutions are told: rows that leave a variable
unbound are joined, and other rows only if they are alone in their buckets. -/
def uncountedJoin (S : Solutions) (B : Bgp) (K : Nat) (U : List Row) : Multiset Row :=
  S.join B (U.filter fun u => B.Open u) + S.join B ((loneRows K U).filter fun u => ¬B.Open u)

/-- The rows of the rounds of one row. -/
theorem bind_loneRows {rounds : List PastRound} {K : Nat}
    (h : rounds.map Prod.fst = buckets K U) (f : Row → Multiset Row) :
    ((rounds : Multiset PastRound).bind fun r =>
        (r.1 : Multiset Row).bind fun u => if r.1.length = 1 then f u else 0) =
      (loneRows K U : Multiset Row).bind f := by
  have hlone : ∀ rounds : List PastRound,
      (((rounds.map Prod.fst).filter fun bucket => bucket.length = 1).flatten : Multiset Row) =
        (rounds : Multiset PastRound).bind fun r =>
          if r.1.length = 1 then (r.1 : Multiset Row) else 0 := by
    intro rounds
    induction rounds with
    | nil => rfl
    | cons r rounds ih =>
      rw [← Multiset.cons_coe, Multiset.cons_bind, ← ih]
      by_cases hone : r.1.length = 1 <;> simp [hone]
  rw [loneRows, ← h, hlone, Multiset.bind_assoc]
  refine Multiset.bind_congr fun r _ => ?_
  by_cases hone : r.1.length = 1 <;> simp [hone]

/-- Without numbers of solutions, what a round extends a row to depends on the row and on whether it
is alone. -/
theorem rowHits_of_not_counted {B : Bgp} {bucket : List Row} {counted : Prop} [Decidable counted]
    (hcounted : ¬counted) (u : Row) :
    Round.rowHits S B bucket counted u =
      (if B.Open u then S.extensions B u else 0) +
        if bucket.length = 1 then (if ¬B.Open u then S.extensions B u else 0) else 0 := by
  unfold Round.rowHits Round.Told
  by_cases hu : B.Open u <;> by_cases hone : bucket.length = 1 <;> simp [hu, hone, hcounted]

/-- The join of some of the rows. -/
theorem bind_ite_extensions (S : Solutions) (B : Bgp) (p : Row → Prop) [DecidablePred p]
    (V : List Row) :
    ((V : Multiset Row).bind fun u => if p u then S.extensions B u else 0) =
      S.join B ((V.filter fun u => p u : List Row) : Multiset Row) := by
  rw [Solutions.join, ← Multiset.filter_coe, Multiset.bind_filter]

/-- **Joins without numbers of solutions.** -/
theorem collects_uncounted (now : DateTime) (hopt : goal.optional = false)
    (hB : Bgp.Plain goal.triples) (hbare : ∀ v ∈ Bgp.vars goal.triples, v.Bare)
    (hf : Faithful net Eq ready goal.address goal.graph S (AskedFor goal U) fun _ => NoCounts)
    (hopen : s.isClosed goal.address = false) (hready : ready s.world) :
    ∃ W st' s',
      Stage.Collects net now (.chain (.source U .done) (.remote (.ofPattern goal))) s W st' s' ∧
        (W : Multiset Row) = uncountedJoin S goal.triples goal.bufferSize U := by
  have hnot : ∀ bucket pages, Served S goal (fun _ => NoCounts) bucket pages →
      ¬Round.Counted goal bucket pages := by
    rintro bucket pages hserved ⟨page, hpage, hcounted⟩
    exact (Round.isCounted_start hcounted).2.1
      (hserved.tells page (List.mem_of_mem_head? hpage))
  obtain ⟨rounds, W, st', s', hcollects, hbuckets, hover, hW⟩ :=
    collects_yields now hB hbare hf
      (fun bucket _ pages hserved h => absurd h (hnot bucket pages hserved)) hopen hready
  refine ⟨W, st', s', hcollects, ?_⟩
  -- A row that leaves nothing open is extended only if it is alone in its round.
  have hround : ∀ r ∈ (rounds : Multiset PastRound),
      (r.1 : Multiset Row).bind (Round.rowYield S goal r.1 (Round.Counted goal r.1 r.2)) =
        ((r.1 : Multiset Row).bind fun u =>
          if Bgp.Open goal.triples u then S.extensions goal.triples u else 0) +
        (r.1 : Multiset Row).bind fun u => if r.1.length = 1 then
          (if ¬Bgp.Open goal.triples u then S.extensions goal.triples u else 0) else 0 := by
    intro r hr
    rw [← Multiset.bind_add]
    refine Multiset.bind_congr fun u _ => ?_
    rw [rowYield_of_not_optional hopt,
      rowHits_of_not_counted (hnot _ _ (hover.served r (Multiset.mem_coe.1 hr)))]
  rw [hW, Multiset.bind_congr hround, Multiset.bind_add, bind_rounds hbuckets,
    bind_loneRows hbuckets, bind_ite_extensions, bind_ite_extensions]
  rfl

/-- **How far results depend on the size of buckets.** Two sizes give the same rows exactly when
they do so for rows that leave no variable unbound and are alone in their buckets. -/
theorem collects_bufferSizes (now : DateTime) (hopt : goal.optional = false)
    (hB : Bgp.Plain goal.triples) (hbare : ∀ v ∈ Bgp.vars goal.triples, v.Bare) {K₁ K₂ : Nat}
    (hf : Faithful net Eq ready goal.address goal.graph S
      (fun Bs => ∃ K, (K = K₁ ∨ K = K₂) ∧ AskedFor { goal with bufferSize := K } U Bs)
      fun _ => NoCounts)
    (hopen : s.isClosed goal.address = false) (hready : ready s.world) :
    ∃ W₁ st₁ s₁ W₂ st₂ s₂,
      Stage.Collects net now
          (.chain (.source U .done) (.remote (.ofPattern { goal with bufferSize := K₁ })))
          s W₁ st₁ s₁ ∧
        Stage.Collects net now
          (.chain (.source U .done) (.remote (.ofPattern { goal with bufferSize := K₂ })))
          s W₂ st₂ s₂ ∧
        (W₁ : Multiset Row) = uncountedJoin S goal.triples K₁ U ∧
        (W₂ : Multiset Row) = uncountedJoin S goal.triples K₂ U ∧
        ((W₁ : Multiset Row) = W₂ ↔
          S.join goal.triples ((loneRows K₁ U).filter fun u => ¬Bgp.Open goal.triples u) =
            S.join goal.triples ((loneRows K₂ U).filter fun u => ¬Bgp.Open goal.triples u)) := by
  have hrun : ∀ K, K = K₁ ∨ K = K₂ → ∃ W st' s',
      Stage.Collects net now
          (.chain (.source U .done) (.remote (.ofPattern { goal with bufferSize := K })))
          s W st' s' ∧
        (W : Multiset Row) = uncountedJoin S goal.triples K U := by
    intro K hK
    have hfK : Faithful net Eq ready goal.address goal.graph S
        (AskedFor { goal with bufferSize := K } U) fun _ => NoCounts :=
      ⟨hf.stays, fun Bs hw hasked => hf.answers Bs hw ⟨K, hK, hasked⟩⟩
    exact collects_uncounted now hopt hB hbare hfK hopen hready
  obtain ⟨W₁, st₁, s₁, hcollects₁, hW₁⟩ := hrun K₁ (.inl rfl)
  obtain ⟨W₂, st₂, s₂, hcollects₂, hW₂⟩ := hrun K₂ (.inr rfl)
  refine ⟨W₁, st₁, s₁, W₂, st₂, s₂, hcollects₁, hcollects₂, hW₁, hW₂, ?_⟩
  rw [hW₁, hW₂]
  exact add_left_cancel_iff

/-- The sample endpoint is faithful for two rows that leave no variable unbound. -/
theorem faithful_uncountedReply :
    Faithful (.ofReplies Sample.uncountedReply) Eq (fun _ => True) (Sample.goal 2).address
      (Sample.goal 2).graph (.ofTerm Sample.resource)
      (fun Bs => ∃ K, (K = 1 ∨ K = 2) ∧
        AskedFor { Sample.goal 2 with bufferSize := K } [Sample.whole, Sample.whole] Bs)
      fun _ => NoCounts := by
  refine ⟨fun _ _ => trivial, ?_⟩
  rintro w _ - ⟨K, hK, bucket, hbucket, rfl⟩
  rcases hK with rfl | rfl
  · obtain rfl : bucket = [Sample.whole] := by
      simpa [buckets] using hbucket
    refine .ofReplies_last rfl rfl ⟨trivial, ?_, ?_⟩
    · intro page hpage
      rw [List.mem_singleton.1 hpage]
      rfl
    · decide
  · obtain rfl : bucket = [Sample.whole, Sample.whole] := by
      simpa [buckets] using hbucket
    have hreply : Sample.uncountedReply (Sample.goal 2).address
        ⟨QueryText.ofUnion (Round.union (Sample.goal 2) [Sample.whole, Sample.whole]),
          (Sample.goal 2).graph, none⟩ = ⟨[.obj [], .obj []], none, false, none⟩ := if_pos rfl
    refine .ofReplies_last ((congrArg Page.ofResponse hreply).trans rfl) rfl ⟨trivial, ?_, ?_⟩
    · intro page hpage
      rw [List.mem_singleton.1 hpage]
      rfl
    · decide

/-- Two rows are alone in buckets of one row, and not in a bucket of two. -/
theorem loneRows_whole :
    loneRows 1 [Sample.whole, Sample.whole] = [Sample.whole, Sample.whole] ∧
      loneRows 2 [Sample.whole, Sample.whole] = [] := by
  simp [loneRows, buckets]

/-- Two rows that leave no variable unbound are kept in buckets of one row, and lost in a bucket of
two. -/
theorem collects_bufferSizes_sample :
    ∃ W₁ st₁ s₁ W₂ st₂ s₂,
      Stage.Collects (.ofReplies Sample.uncountedReply) Sample.now
          (.chain (.source [Sample.whole, Sample.whole] .done)
            (.remote (.ofPattern (Sample.goal 1)))) Sample.session W₁ st₁ s₁ ∧
        Stage.Collects (.ofReplies Sample.uncountedReply) Sample.now
          (.chain (.source [Sample.whole, Sample.whole] .done)
            (.remote (.ofPattern (Sample.goal 2)))) Sample.session W₂ st₂ s₂ ∧
        (W₁ : Multiset Row) = {Sample.whole, Sample.whole} ∧ (W₂ : Multiset Row) = 0 := by
  obtain ⟨W₁, st₁, s₁, W₂, st₂, s₂, hcollects₁, hcollects₂, hW₁, hW₂, -⟩ :=
    collects_bufferSizes Sample.now rfl Sample.plain Sample.bare faithful_uncountedReply
      (s := Sample.session) rfl trivial
  refine ⟨W₁, st₁, s₁, W₂, st₂, s₂, hcollects₁, hcollects₂, hW₁.trans ?_, hW₂.trans ?_⟩
  · rw [uncountedJoin, loneRows_whole.1]
    decide
  · rw [uncountedJoin, loneRows_whole.2]
    decide

/-- The sample endpoint is faithful for two empty rows. -/
theorem faithful_sigilReply {K : Nat} (hK : K = 1 ∨ K = 2) :
    Faithful (.ofReplies Sample.sigilReply) Eq (fun _ => True) (Sample.sigilGoal K).address
      (Sample.sigilGoal K).graph (.ofTerm Sample.resource)
      (AskedFor (Sample.sigilGoal K) [.empty, .empty])
      fun Bs pages => NoCounts pages ∧ pages = Sample.sigilPages Bs := by
  refine ⟨fun _ _ => trivial, ?_⟩
  rintro w _ - ⟨bucket, hbucket, rfl⟩
  rcases hK with rfl | rfl
  · obtain rfl : bucket = [.empty] := by
      simpa [buckets, Sample.sigilGoal] using hbucket
    refine .ofReplies_last rfl rfl ⟨trivial, ⟨?_, rfl⟩, ?_⟩
    · intro page hpage
      rw [List.mem_singleton.1 hpage]
      rfl
    · decide
  · obtain rfl : bucket = [.empty, .empty] := by
      simpa [buckets, Sample.sigilGoal] using hbucket
    have hreply : Sample.sigilReply (Sample.sigilGoal 2).address
        ⟨QueryText.ofUnion (Round.union (Sample.sigilGoal 2) [.empty, .empty]),
          (Sample.sigilGoal 2).graph, none⟩ =
        ⟨[.obj [("x_0", .str "http://example.org/c")],
          .obj [("x_1", .str "http://example.org/c")]], none, false, none⟩ := if_pos rfl
    refine .ofReplies_last ((congrArg Page.ofResponse hreply).trans rfl) rfl
      ⟨trivial, ⟨?_, rfl⟩, ?_⟩
    · intro page hpage
      rw [List.mem_singleton.1 hpage]
      rfl
    · decide

/-- What is handed on for two empty rows if the variables differ by a sigil only. -/
theorem collects_sigil {K : Nat} (hK : K = 1 ∨ K = 2) :
    ∃ W st' s', Stage.Collects (.ofReplies Sample.sigilReply) Sample.now
        (.chain (.source [.empty, .empty] .done) (.remote (.ofPattern (Sample.sigilGoal K))))
        Sample.session W st' s' ∧
      W = (buckets K [.empty, .empty]).flatMap fun bucket =>
        Round.yield (Sample.sigilGoal K) bucket
          (Sample.sigilPages (Round.union (Sample.sigilGoal K) bucket)) := by
  obtain ⟨W, st', s', hcollects, rounds, hbuckets, hover⟩ :=
    collects_spec Sample.now (faithful_sigilReply hK) (s := Sample.session) rfl trivial
  refine ⟨W, st', s', hcollects, ?_⟩
  have hK' : buckets K [.empty, .empty] = rounds.map Prod.fst := hbuckets.symm
  rw [hover.given, hK', List.flatMap_map]
  refine List.flatMap_congr fun r hr => ?_
  rw [← (hover.served r hr).tells.2]

/-- What is handed on for two rows that leave no variable unbound. -/
theorem collects_whole {K : Nat} (hK : K = 1 ∨ K = 2) :
    ∃ W st' s', Stage.Collects (.ofReplies Sample.uncountedReply) Sample.now
        (.chain (.source [Sample.whole, Sample.whole] .done)
          (.remote (.ofPattern (Sample.goal K)))) Sample.session W st' s' ∧
      (W : Multiset Row) = uncountedJoin (.ofTerm Sample.resource) Sample.triples K
        [Sample.whole, Sample.whole] := by
  have hf := faithful_uncountedReply
  have hfK : Faithful (.ofReplies Sample.uncountedReply) Eq (fun _ => True)
      (Sample.goal K).address (Sample.goal K).graph (.ofTerm Sample.resource)
      (AskedFor (Sample.goal K) [Sample.whole, Sample.whole]) fun _ => NoCounts :=
    ⟨hf.stays, fun Bs hw hasked => hf.answers Bs hw ⟨K, hK, hasked⟩⟩
  exact collects_uncounted Sample.now rfl Sample.plain Sample.bare hfK rfl trivial

/-- Buckets of one row and of two rows give different rows at a faithful endpoint that tells no
numbers of solutions: if rows leave no variable unbound, and also if variables begin with a sigil.
-/
theorem bufferSizes_differ :
    (Faithful (.ofReplies Sample.uncountedReply) Eq (fun _ => True) (Sample.goal 2).address
        (Sample.goal 2).graph (.ofTerm Sample.resource)
        (fun Bs => ∃ K, (K = 1 ∨ K = 2) ∧ AskedFor (Sample.goal K) [Sample.whole, Sample.whole] Bs)
        (fun _ => NoCounts) ∧
      ∃ W₁ st₁ s₁ W₂ st₂ s₂,
        Stage.Collects (.ofReplies Sample.uncountedReply) Sample.now
            (.chain (.source [Sample.whole, Sample.whole] .done)
              (.remote (.ofPattern (Sample.goal 1)))) Sample.session W₁ st₁ s₁ ∧
          Stage.Collects (.ofReplies Sample.uncountedReply) Sample.now
            (.chain (.source [Sample.whole, Sample.whole] .done)
              (.remote (.ofPattern (Sample.goal 2)))) Sample.session W₂ st₂ s₂ ∧
          (W₁ : Multiset Row) ≠ W₂) ∧
    ((∀ K, K = 1 ∨ K = 2 → Faithful (.ofReplies Sample.sigilReply) Eq (fun _ => True)
        (Sample.sigilGoal K).address (Sample.sigilGoal K).graph (.ofTerm Sample.resource)
        (AskedFor (Sample.sigilGoal K) [.empty, .empty]) (fun _ => NoCounts)) ∧
      ∃ W₁ st₁ s₁ W₂ st₂ s₂,
        Stage.Collects (.ofReplies Sample.sigilReply) Sample.now
            (.chain (.source [.empty, .empty] .done) (.remote (.ofPattern (Sample.sigilGoal 1))))
            Sample.session W₁ st₁ s₁ ∧
          Stage.Collects (.ofReplies Sample.sigilReply) Sample.now
            (.chain (.source [.empty, .empty] .done) (.remote (.ofPattern (Sample.sigilGoal 2))))
            Sample.session W₂ st₂ s₂ ∧
          (W₁ : Multiset Row) ≠ W₂) := by
  constructor
  · obtain ⟨W₁, st₁, s₁, hcollects₁, hW₁⟩ := collects_whole (.inl rfl : 1 = 1 ∨ 1 = 2)
    obtain ⟨W₂, st₂, s₂, hcollects₂, hW₂⟩ := collects_whole (.inr rfl : 2 = 1 ∨ 2 = 2)
    refine ⟨faithful_uncountedReply, W₁, st₁, s₁, W₂, st₂, s₂, hcollects₁, hcollects₂, ?_⟩
    rw [hW₁, hW₂, uncountedJoin, uncountedJoin, loneRows_whole.1, loneRows_whole.2]
    decide
  · have hf : ∀ K, K = 1 ∨ K = 2 → Faithful (.ofReplies Sample.sigilReply) Eq (fun _ => True)
        (Sample.sigilGoal K).address (Sample.sigilGoal K).graph (.ofTerm Sample.resource)
        (AskedFor (Sample.sigilGoal K) [.empty, .empty]) (fun _ => NoCounts) := fun K hK =>
      ⟨(faithful_sigilReply hK).stays, fun Bs hw hasked =>
        ((faithful_sigilReply hK).answers Bs hw hasked).weaken
          fun _ _ h => ⟨h.1, h.2.1.1, h.2.2⟩⟩
    obtain ⟨W₁, st₁, s₁, hcollects₁, hW₁⟩ := collects_sigil (.inl rfl : 1 = 1 ∨ 1 = 2)
    obtain ⟨W₂, st₂, s₂, hcollects₂, hW₂⟩ := collects_sigil (.inr rfl : 2 = 1 ∨ 2 = 2)
    refine ⟨hf, W₁, st₁, s₁, W₂, st₂, s₂, hcollects₁, hcollects₂, ?_⟩
    have hbuckets : buckets 1 [.empty, .empty] = [[.empty], [.empty]] ∧
        buckets 2 [.empty, .empty] = [[.empty, .empty]] := by
      simp [buckets]
    rw [hW₁, hW₂, hbuckets.1, hbuckets.2]
    decide

end BoundJoin

end PagedSparql
