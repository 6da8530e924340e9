import PagedSparql.Proofs.Pipeline.BoundJoinRun

/-!
# What bound joins compute

A bound join below a list of rows hands on, as a multiset, what its rounds make of each row
(`BoundJoin.collects_yields`). If every row leaves a variable of the pattern unbound, this is the
join, or the left join, of the rows with the pattern (`BoundJoin.flatMap_yield_of_open`), in
whatever pages the endpoint answers and however the rows fall into buckets.
-/

namespace PagedSparql

/-- One is the least size of a bucket. -/
theorem buckets_max_one (K : Nat) (rows : List Row) : buckets (max K 1) rows = buckets K rows := by
  have hK : max K 1 - 1 = K - 1 := by omega
  induction rows using buckets.induct K with
  | case1 => rw [buckets, buckets]
  | case2 r rest ih => rw [buckets, hK, ih, buckets]

/-! ## A sample

A pattern with two variables, at an endpoint that knows one resource only. -/

namespace Sample

/-- The resource. -/
def resource : Term := .iri "http://example.org/c"

/-- The pattern: what has a property, and what the property is. -/
def triples : List TriplePattern :=
  [⟨.variable ⟨"x"⟩, .plain (.term (.iri "http://example.org/p")), .variable ⟨"y"⟩⟩]

/-- The join with the pattern in buckets of a size. -/
def goal (K : Nat) : BoundPattern :=
  ⟨triples, "http://example.org/", "http://example.org/g", K, false⟩

/-- A row that leaves the second variable unbound. -/
def half : Row := .ofList [(⟨"x"⟩, .iri "http://example.org/a")]

/-- The row that the pattern extends `half` to. -/
def extended : Row := half.insert ⟨"y"⟩ resource

/-- The session before the first request. -/
def session : Session Unit := { world := (), evaluation := { labels := ⟨"b", 0, none, []⟩ } }

/-- The time at which queries are run. -/
def now : DateTime := ⟨⟨0, 0, 0⟩, none⟩

/-- The variables of the pattern are bare. -/
theorem bare : ∀ v ∈ Bgp.vars triples, v.Bare := by
  simp only [show Bgp.vars triples = [⟨"x"⟩, ⟨"y"⟩] from rfl, List.forall_mem_cons]
  exact ⟨rfl, rfl, by simp⟩

/-- The pattern has no path. -/
theorem plain : Bgp.Plain triples := by
  intro t ht
  obtain rfl := List.mem_singleton.1 ht
  rfl

/-- The answer for two rows that leave the second variable unbound, in two pages. -/
def pagedReply (_ : String) (request : Request) : Response :=
  if request.token? = none then
    ⟨[.obj [("y_1", .str "http://example.org/c")]], some "1", true, none⟩
  else ⟨[.obj [("y_0", .str "http://example.org/c")]], none, false, none⟩

end Sample

namespace BoundJoin

variable {σ : Type} {net : Network σ} {now : DateTime} {ready : σ → Prop} {S : Solutions}
  {goal : BoundPattern} {tells : List Bgp → List Page → Prop} {U : List Row} {s : Session σ}

/-- The pages that a faithful endpoint answers for a bucket. -/
structure Served (S : Solutions) (goal : BoundPattern) (tells : List Bgp → List Page → Prop)
    (bucket : List Row) (pages : List Page) : Prop where
  /-- What is known of the pages. -/
  tells : tells (Round.union goal bucket) pages
  /-- The pages hold the solutions of the patterns of all rows. -/
  rows : (pages.flatMap Page.rows : Multiset Row) = ((Round.union goal bucket).map S.of).sum

/-- The union of patterns belongs to a bucket of the rows. -/
def AskedFor (goal : BoundPattern) (U : List Row) (Bs : List Bgp) : Prop :=
  ∃ bucket ∈ buckets goal.bufferSize U, Bs = Round.union goal bucket

/-- The first request of a round. -/
theorem request_start (goal : BoundPattern) (bucket : List Row) :
    (Round.start goal bucket).pages.request =
      ⟨QueryText.ofUnion (Round.union goal bucket), goal.graph, none⟩ := by
  rw [← Round.start_query]
  unfold Round.start
  split <;> rfl

/-- A faithful endpoint answers for the buckets that it is asked for. -/
theorem asks_of_faithful {others : σ → σ → Prop} {asked : List Bgp → Prop} {bucket : List Row}
    (hf : Faithful net others ready goal.address goal.graph S asked tells)
    (hasked : asked (Round.union goal bucket)) :
    Asks net others ready goal (Served S goal tells) bucket := by
  intro w hw
  rw [request_start]
  exact (hf.answers _ hw hasked).weaken fun pages w' h => ⟨h.1, h.2.1, h.2.2⟩

/-- A bound join below a list of rows hands on what its rounds yield. -/
theorem collects_spec (now : DateTime)
    (hf : Faithful net Eq ready goal.address goal.graph S (AskedFor goal U) tells)
    (hopen : s.isClosed goal.address = false) (hready : ready s.world) :
    ∃ W st' s', Stage.Collects net now (.chain (.source U .done) (.remote (.ofPattern goal))) s W
      st' s' ∧ Spec goal (Served S goal tells) U W := by
  let goal' : BoundPattern := { goal with bufferSize := max goal.bufferSize 1 }
  have hasks : ∀ V, V = U → ∀ bucket ∈ buckets goal'.bufferSize V,
      Asks net Eq ready goal' (Served S goal tells) bucket := by
    rintro V rfl bucket hbucket
    rw [buckets_max_one] at hbucket
    exact asks_of_faithful hf ⟨bucket, hbucket, rfl⟩
  have hK : 0 < goal'.bufferSize := Nat.lt_of_lt_of_le Nat.one_pos (Nat.le_max_right _ _)
  have : Std.Refl fun _ _ : σ => True := ⟨fun _ => trivial⟩
  have hcontract : Stage.Contract net now Eq (fun _ _ => True) (· = U) False
      (Spec goal' (Served S goal tells)) (StageInv net Eq ready goal' (Served S goal tells)) :=
    contract (fun _ _ _ => trivial) (fun w w' hw h => hf.stays hw h) hK hasks
  obtain ⟨W, st', s', hcollects, rounds, hbuckets, hover⟩ :=
    hcontract.collects (inv_ofPattern goal hopen hready) rfl rfl
  refine ⟨W, st', s', hcollects, rounds, ?_, hover.served, ?_⟩
  · rw [hbuckets, buckets_max_one]
  · exact hover.given

/-- The bucket of a round is one of the buckets of the rows. -/
theorem mem_buckets_of_mem {rounds : List PastRound} {K : Nat}
    (h : rounds.map Prod.fst = buckets K U) {r : PastRound} (hr : r ∈ rounds) :
    r.1 ∈ buckets K U := h ▸ List.mem_map_of_mem hr

/-- **What a bound join computes.** Its rounds have the buckets of the rows, and what is handed on
for a row follows from its round. -/
theorem collects_yields (now : DateTime) (hB : Bgp.Plain goal.triples)
    (hbare : ∀ v ∈ Bgp.vars goal.triples, v.Bare)
    (hf : Faithful net Eq ready goal.address goal.graph S (AskedFor goal U) tells)
    (hcounts : ∀ bucket ∈ buckets goal.bufferSize U, ∀ pages, Served S goal tells bucket pages →
      Round.Counted goal bucket pages → ExactCounts S (Round.union goal bucket) pages)
    (hopen : s.isClosed goal.address = false) (hready : ready s.world) :
    ∃ rounds : List PastRound, ∃ W st' s',
      Stage.Collects net now (.chain (.source U .done) (.remote (.ofPattern goal))) s W st' s' ∧
        rounds.map Prod.fst = buckets goal.bufferSize U ∧
        Rounds goal (Served S goal tells) rounds W ∧
        (W : Multiset Row) = (rounds : Multiset PastRound).bind fun r =>
          (r.1 : Multiset Row).bind (Round.rowYield S goal r.1 (Round.Counted goal r.1 r.2)) := by
  obtain ⟨W, st', s', hcollects, rounds, hbuckets, hover⟩ := collects_spec now hf hopen hready
  refine ⟨rounds, W, st', s', hcollects, hbuckets, hover, ?_⟩
  rw [hover.given, ← Multiset.coe_bind]
  refine Multiset.bind_congr fun r hr => ?_
  have hserved := hover.served r hr
  exact Round.yield_eq hB hbare hserved.rows
    (hcounts _ (mem_buckets_of_mem hbuckets hr) _ hserved)

/-- The rows of all rounds are the rows that came in. -/
theorem bind_rounds {rounds : List PastRound} {K : Nat} (h : rounds.map Prod.fst = buckets K U)
    (f : Row → Multiset Row) :
    ((rounds : Multiset PastRound).bind fun r => (r.1 : Multiset Row).bind f) =
      (U : Multiset Row).bind f := by
  have hrows : (rounds.map Prod.fst).flatten = U := by rw [h, flatten_buckets]
  have hjoin : (U : Multiset Row) =
      (rounds : Multiset PastRound).bind fun r => (r.1 : Multiset Row) := by
    rw [Multiset.coe_bind, ← hrows, List.flatMap_def]
  rw [hjoin, Multiset.bind_assoc]

/-- A row that leaves a variable unbound is extended by its solutions in a round whose first page is
not read by its numbers. -/
theorem rowYield_of_open {bucket : List Row} {counted : Prop} [Decidable counted]
    {u : Row} (hB : Bgp.Plain goal.triples) (hcounted : ¬counted) (hu : Bgp.Open goal.triples u) :
    Round.rowYield S goal bucket counted u = S.extensions goal.triples u +
      if goal.optional = true ∧ S.of (Bgp.substitute goal.triples u) = 0 then {u} else 0 := by
  have hhits : Round.rowHits S goal.triples bucket counted u = S.extensions goal.triples u := by
    simp [Round.rowHits, Round.Told, hcounted, hu]
  simp only [Round.rowYield, hhits, S.extensions_eq_zero_iff hB]

/-- Pages with solutions of rows that all leave a variable unbound are not read by numbers. -/
theorem not_counted_of_open {bucket : List Row} {pages : List Page}
    (hB : Bgp.Plain goal.triples) (hbare : ∀ v ∈ Bgp.vars goal.triples, v.Bare)
    (hopen : ∀ u ∈ bucket, Bgp.Open goal.triples u)
    (hrows : (pages.flatMap Page.rows : Multiset Row) =
      ((Round.union goal bucket).map S.of).sum) : ¬Round.Counted goal bucket pages := by
  rintro ⟨page, hpage, hcounted⟩
  obtain ⟨hne, -, hempty, hlength⟩ := Round.isCounted_start hcounted
  obtain ⟨m, hm⟩ := List.exists_mem_of_ne_nil _ hne
  obtain rfl := hempty m hm
  have hmem : (.empty : Row) ∈ (pages.flatMap Page.rows : Multiset Row) :=
    List.mem_flatMap.2 ⟨page, List.mem_of_mem_head? hpage, hm⟩
  rw [hrows, Round.sum_union, Multiset.mem_bind] at hmem
  obtain ⟨e, he, hmem⟩ := hmem
  have hu := List.mem_zipIdx_iff_getElem?.1 he
  rw [Round.of_patternOf hB hbare hu, Multiset.mem_map] at hmem
  obtain ⟨m, hm, hnamed⟩ := hmem
  -- The solution tells its row, but the empty row does not.
  have hextend := Round.extend?_named hB hbare hu hm
  have hmerge := S.isSome_merge_of_mem hB hm
  rw [hnamed, Round.extend?_empty hlength, if_pos (.inl (hopen _ (List.mem_of_getElem? hu)))]
    at hextend
  rw [← Option.isSome_map (f := (e.2, ·)), ← hextend] at hmerge
  exact absurd hmerge (by simp)

/-- Rounds compute joins. If every row leaves a variable of the pattern unbound, the rounds of its
buckets hand on the join of the rows with the pattern, and those of an optional one their left
join. -/
theorem flatMap_yield_of_open (hB : Bgp.Plain goal.triples)
    (hbare : ∀ v ∈ Bgp.vars goal.triples, v.Bare) (hrows : ∀ u ∈ U, Bgp.Open goal.triples u)
    {rounds : List PastRound} {K : Nat} (hbuckets : rounds.map Prod.fst = buckets K U)
    (hserved : ∀ r ∈ rounds, Served S goal tells r.1 r.2) :
    (rounds.flatMap fun r => Round.yield goal r.1 r.2 : Multiset Row) =
      if goal.optional = true then S.leftJoin goal.triples U else S.join goal.triples U := by
  have hround : ∀ r ∈ (rounds : Multiset PastRound), (Round.yield goal r.1 r.2 : Multiset Row) =
      (r.1 : Multiset Row).bind fun u => S.extensions goal.triples u +
        if goal.optional = true ∧ S.of (Bgp.substitute goal.triples u) = 0 then {u} else 0 := by
    intro r hr
    have hopen : ∀ u ∈ r.1, Bgp.Open goal.triples u := by
      intro u hu
      refine hrows u ?_
      rw [← flatten_buckets K U]
      exact List.mem_flatten.2 ⟨r.1, mem_buckets_of_mem hbuckets hr, hu⟩
    have hnot := not_counted_of_open hB hbare hopen (hserved r hr).rows
    rw [Round.yield_eq hB hbare (hserved r hr).rows fun h => absurd h hnot]
    exact Multiset.bind_congr fun u hu => rowYield_of_open hB hnot (hopen u hu)
  rw [← Multiset.coe_bind, Multiset.bind_congr hround, bind_rounds hbuckets, Multiset.bind_add]
  by_cases hopt : goal.optional = true
  · simp only [hopt, if_true, true_and, Solutions.leftJoin, Solutions.join, Solutions.unmatched,
      Multiset.filter_eq_bind]
  · simp [hopt, Solutions.join]

/-- **Bound joins compute joins.** If every row leaves a variable of the pattern unbound, a bound
join hands on the join of the rows with the pattern, and an optional one their left join. -/
theorem collects_join (now : DateTime) (hB : Bgp.Plain goal.triples)
    (hbare : ∀ v ∈ Bgp.vars goal.triples, v.Bare) (hrows : ∀ u ∈ U, Bgp.Open goal.triples u)
    (hf : Faithful net Eq ready goal.address goal.graph S (AskedFor goal U) tells)
    (hopen : s.isClosed goal.address = false) (hready : ready s.world) :
    ∃ W st' s',
      Stage.Collects net now (.chain (.source U .done) (.remote (.ofPattern goal))) s W st' s' ∧
        (W : Multiset Row) =
          if goal.optional = true then S.leftJoin goal.triples U else S.join goal.triples U := by
  obtain ⟨W, st', s', hcollects, rounds, hbuckets, hover⟩ := collects_spec now hf hopen hready
  refine ⟨W, st', s', hcollects, ?_⟩
  rw [hover.given]
  exact flatMap_yield_of_open hB hbare hrows hbuckets hover.served

/-- Two equal rows are extended each for itself, from two pages. -/
theorem collects_join_sample :
    ∃ W st' s', Stage.Collects (.ofReplies Sample.pagedReply) Sample.now
        (.chain (.source [Sample.half, Sample.half] .done) (.remote (.ofPattern (Sample.goal 2))))
        Sample.session W st' s' ∧
      (W : Multiset Row) = {Sample.extended, Sample.extended} := by
  have hfaithful : Faithful (.ofReplies Sample.pagedReply) Eq (fun _ => True)
      (Sample.goal 2).address (Sample.goal 2).graph (.ofTerm Sample.resource)
      (AskedFor (Sample.goal 2) [Sample.half, Sample.half]) fun _ _ => True := by
    refine ⟨fun _ _ => trivial, ?_⟩
    rintro w _ - ⟨bucket, hbucket, rfl⟩
    obtain rfl : bucket = [Sample.half, Sample.half] := by
      rw [buckets_of_length_le (by simp) (by decide)] at hbucket
      exact List.mem_singleton.1 hbucket
    refine .ofReplies_more rfl rfl (.ofReplies_last rfl rfl ⟨trivial, trivial, ?_⟩)
    decide
  have hopen : ∀ u ∈ [Sample.half, Sample.half], Bgp.Open (Sample.goal 2).triples u := by
    decide
  obtain ⟨W, st', s', hcollects, hW⟩ := collects_join Sample.now Sample.plain Sample.bare hopen
    hfaithful (s := Sample.session) rfl trivial
  refine ⟨W, st', s', hcollects, hW.trans ?_⟩
  decide

end BoundJoin

end PagedSparql
