import PagedSparql.Pipeline.BoundJoin
import PagedSparql.Proofs.Pipeline.Suffix
import PagedSparql.Proofs.Protocol.Answers

/-!
# What a round hands on

A round hands on the rows that the pages of its answer extend, and, if its join is optional, the
rows that no page has extended. `Round.yield` is all that a round hands on, as a function of its
bucket and of its pages. `Round.yield_eq` says what this is in terms of solutions: row by row, since
each solution that extends a row tells its number (`Round.hitsAll_eq`).

A row that leaves a variable of the pattern unbound is extended by all of its solutions. The
solutions for any other row are empty rows, which do not tell it from the other rows of its round;
they extend it if it is alone in its round, or as a whole if the first page is read by its numbers.
-/

namespace PagedSparql

instance Bgp.decidableOpen (B : Bgp) : DecidablePred B.Open :=
  fun r => inferInstanceAs (Decidable (∃ v ∈ B.vars, r.binds v = false))

namespace RoundTable

/-- The number of the row that a solution extends, and the extended row. -/
def extend? (t : RoundTable) (solution : Row) : Option (Nat × Row) := do
  let (key, added) ← t.revert? solution
  let row ← t.row? key
  some (key, ← Row.merge added row)

/-- The table after rows were extended. -/
def observeAll (t : RoundTable) (keys : List Nat) : RoundTable := keys.foldl observe t

/-- A row counts as extended once it was. -/
theorem mem_observed_observeAll {keys : List Nat} {t : RoundTable} {key : Nat} :
    key ∈ (t.observeAll keys).observed ↔ key ∈ keys ∨ key ∈ t.observed := by
  induction keys generalizing t with
  | nil => simp [observeAll]
  | cons k keys ih =>
    have hstep : t.observeAll (k :: keys) = (t.observe k).observeAll keys := rfl
    rw [hstep, ih, List.mem_cons]
    simp only [observe, List.mem_cons]
    tauto

/-- The rows of a table stay when rows are extended. -/
@[simp] theorem rows_observeAll (t : RoundTable) (keys : List Nat) :
    (t.observeAll keys).rows = t.rows := by
  induction keys generalizing t with
  | nil => rfl
  | cons k keys ih => exact ih (t.observe k)

/-- What solutions extend does not depend on what was extended. -/
@[simp] theorem extend?_observeAll (t : RoundTable) (keys : List Nat) :
    (t.observeAll keys).extend? = t.extend? := by
  induction keys generalizing t with
  | nil => rfl
  | cons k keys ih => exact ih (t.observe k)

/-- Rows may be extended in two parts. -/
theorem observeAll_append (t : RoundTable) (keys more : List Nat) :
    t.observeAll (keys ++ more) = (t.observeAll keys).observeAll more := List.foldl_append

end RoundTable

namespace Round

/-- The rows whose alternatives have solutions, with their numbers; the first is row `key`. -/
def countedHits (t : RoundTable) (key : Nat) (counts : List UInt64) : List (Nat × Row) :=
  (counts.zipIdx key).filterMap fun e => if e.1 = 0 then none else (t.row? e.2).map (e.2, ·)

/-- The rows that a page extends, with their numbers. -/
def hits (round : Round) (page : Page) : List (Nat × Row) :=
  if round.isCounted page then countedHits round.table 0 page.cardinalities
  else page.rows.filterMap round.table.extend?

/-- The rows handed on for a list of numbers are those whose alternatives have solutions. -/
theorem absorbCounts_eq (t : RoundTable) (key : Nat) (counts : List UInt64) :
    absorbCounts t key counts =
      ((countedHits t key counts).map Prod.snd,
        t.observeAll ((countedHits t key counts).map Prod.fst)) := by
  induction counts generalizing t key with
  | nil => rfl
  | cons count rest ih =>
    have hsame : ∀ k, countedHits (t.observe k) (key + 1) rest = countedHits t (key + 1) rest :=
      fun k => rfl
    by_cases hcount : count = 0
    · simp only [absorbCounts, hcount, if_true, ih]
      simp [countedHits, List.zipIdx_cons]
    · cases hrow : t.row? key with
      | none =>
        simp only [absorbCounts, hcount, if_false, hrow, ih]
        simp [countedHits, List.zipIdx_cons, hcount, hrow]
      | some row =>
        simp only [absorbCounts, hcount, if_false, hrow, ih, hsame]
        simp [countedHits, List.zipIdx_cons, hcount, hrow, RoundTable.observeAll]

/-- The rows handed on for solutions are those that the solutions extend. -/
theorem absorbRows_eq (t : RoundTable) (solutions : List Row) :
    absorbRows t solutions =
      ((solutions.filterMap t.extend?).map Prod.snd,
        t.observeAll ((solutions.filterMap t.extend?).map Prod.fst)) := by
  induction solutions generalizing t with
  | nil => rfl
  | cons solution rest ih =>
    have hsame : ∀ k, (t.observe k).extend? = t.extend? := fun k => rfl
    cases h : t.extend? solution with
    | none =>
      have hstep : absorbRows t (solution :: rest) = absorbRows t rest := by
        rw [RoundTable.extend?] at h
        simp only [absorbRows, h]
      simp only [hstep, ih, List.filterMap_cons_none h]
    | some e =>
      have hstep : absorbRows t (solution :: rest) =
          (e.2 :: (absorbRows (t.observe e.1) rest).1, (absorbRows (t.observe e.1) rest).2) := by
        rw [RoundTable.extend?] at h
        simp only [absorbRows, h]
      simp only [hstep, ih, hsame, List.filterMap_cons_some h]
      rfl

/-- A page hands on the rows that it extends, and they count as extended. -/
theorem absorb_eq (round : Round) (page : Page) :
    round.absorb page =
      ((round.hits page).map Prod.snd,
        { round with
          table := round.table.observeAll ((round.hits page).map Prod.fst), fresh := false }) := by
  unfold absorb hits
  by_cases h : round.isCounted page = true
  · simp only [h, if_true, absorbCounts_eq]
  · simp only [h, if_false, absorbRows_eq, Bool.false_eq_true]

/-- The rows that several pages extend, with their numbers. Only the first page may be read by its
numbers. -/
def hitsAll (round : Round) : List Page → List (Nat × Row)
  | [] => []
  | page :: rest => round.hits page ++ (rest.flatMap Page.rows).filterMap round.table.extend?

/-- Takes in several pages: the rows to hand on, and the round after them. -/
def absorbAll (round : Round) : List Page → List Row × Round
  | [] => ([], round)
  | page :: rest =>
    let (rows, round) := round.absorb page
    let (more, round) := absorbAll round rest
    (rows ++ more, round)

/-- Pages may be taken in in two parts. -/
theorem absorbAll_append (round : Round) (pages more : List Page) :
    round.absorbAll (pages ++ more) =
      ((round.absorbAll pages).1 ++ ((round.absorbAll pages).2.absorbAll more).1,
        ((round.absorbAll pages).2.absorbAll more).2) := by
  induction pages generalizing round with
  | nil => rfl
  | cons page rest ih =>
    simp only [List.cons_append, absorbAll, ih, List.append_assoc]

/-- After the first page no page is read by its numbers. -/
theorem hits_of_not_fresh {round : Round} (h : round.fresh = false) (page : Page) :
    round.hits page = page.rows.filterMap round.table.extend? := by
  simp [hits, isCounted, h]

/-- Pages after the first one hand on the rows that their solutions extend. -/
theorem absorbAll_of_not_fresh {round : Round} (h : round.fresh = false) (pages : List Page) :
    (round.absorbAll pages).1 =
        ((pages.flatMap Page.rows).filterMap round.table.extend?).map Prod.snd ∧
      (round.absorbAll pages).2.table =
        round.table.observeAll
          (((pages.flatMap Page.rows).filterMap round.table.extend?).map Prod.fst) := by
  induction pages generalizing round with
  | nil => exact ⟨rfl, rfl⟩
  | cons page rest ih =>
    simp only [absorbAll, absorb_eq, hits_of_not_fresh h]
    have hfresh : { round with
        table := round.table.observeAll ((page.rows.filterMap round.table.extend?).map Prod.fst),
        fresh := false }.fresh = false := rfl
    obtain ⟨hrows, htable⟩ := ih hfresh
    constructor
    · rw [hrows]
      simp
    · rw [htable]
      simp [RoundTable.observeAll_append]

/-- Pages hand on the rows that they extend, and these count as extended. -/
theorem absorbAll_eq (round : Round) (pages : List Page) :
    (round.absorbAll pages).1 = (round.hitsAll pages).map Prod.snd ∧
      (round.absorbAll pages).2.table =
        round.table.observeAll ((round.hitsAll pages).map Prod.fst) := by
  cases pages with
  | nil => exact ⟨rfl, rfl⟩
  | cons page rest =>
    simp only [absorbAll, absorb_eq, hitsAll]
    have hfresh : { round with
        table := round.table.observeAll ((round.hits page).map Prod.fst),
        fresh := false }.fresh = false := rfl
    obtain ⟨hrows, htable⟩ := absorbAll_of_not_fresh hfresh rest
    constructor
    · rw [hrows]
      simp
    · rw [htable]
      simp [RoundTable.observeAll_append]

/-- All that a round for a bucket hands on, once it has read the pages of its answer. -/
def yield (goal : BoundPattern) (bucket : List Row) (pages : List Page) : List Row :=
  ((start goal bucket).absorbAll pages).1 ++
    if goal.optional then ((start goal bucket).absorbAll pages).2.table.unobserved else []

/-- The patterns whose union a round asks for. -/
def union (goal : BoundPattern) (bucket : List Row) : List Bgp :=
  if bucket = [.empty] then [goal.triples] else RoundTable.patterns goal.triples bucket

/-- The query of a round is that of its union. -/
theorem start_query (goal : BoundPattern) (bucket : List Row) :
    (start goal bucket).pages.query = QueryText.ofUnion (union goal bucket) := by
  unfold start union
  split <;> rfl

/-- The pattern of a round for a row and its number. -/
def patternOf (goal : BoundPattern) (bucket : List Row) (e : Row × Nat) : Bgp :=
  if bucket = [.empty] then goal.triples else RoundTable.patternFor goal.triples e.2 e.1

/-- The union of a round has a pattern for each row. -/
theorem union_eq (goal : BoundPattern) (bucket : List Row) :
    union goal bucket = bucket.zipIdx.map (patternOf goal bucket) := by
  unfold union patternOf
  split
  · next h => simp [h]
  · simp [RoundTable.patterns, List.mapIdx_eq_zipIdx_map]

/-- A solution for a row under the names that the round gives to its variables. -/
def named (bucket : List Row) (key : Nat) (m : Row) : Row :=
  if bucket = [.empty] then m else m.rename (RoundTable.suffixed · key)

/-- The solutions for a row tell that they are for it: they bind one of its variables, or there are
no others. -/
def Told (B : Bgp) (bucket : List Row) (u : Row) : Prop := B.Open u ∨ bucket.length = 1

instance (B : Bgp) (bucket : List Row) : DecidablePred (Told B bucket) :=
  fun u => inferInstanceAs (Decidable (B.Open u ∨ bucket.length = 1))

variable {S : Solutions} {goal : BoundPattern} {bucket : List Row} {u m : Row} {key : Nat}

/-- The solutions of the pattern of a round for a row are those for the row, named. -/
theorem of_patternOf (hB : Bgp.Plain goal.triples) (hbare : ∀ v ∈ Bgp.vars goal.triples, v.Bare)
    (hu : bucket[key]? = some u) :
    S.of (patternOf goal bucket (u, key)) =
      (S.of (Bgp.substitute goal.triples u)).map (named bucket key) := by
  unfold patternOf named
  by_cases h : bucket = [.empty]
  · obtain rfl : u = .empty := by
      rw [h] at hu
      exact List.mem_singleton.1 (List.mem_of_getElem? hu)
    simp [h]
  · simp only [h, if_false, RoundTable.patternFor_eq]
    refine S.of_rename _ _ (hB.substitute u) ?_
    exact (RoundTable.suffixed_injOn hbare key).mono fun v hv => (Bgp.mem_vars_substitute.1 hv).1

/-- A solution for a row extends this row if it tells so, and no row else. -/
theorem extend?_named (hB : Bgp.Plain goal.triples) (hbare : ∀ v ∈ Bgp.vars goal.triples, v.Bare)
    (hu : bucket[key]? = some u) (hm : m ∈ S.of (Bgp.substitute goal.triples u)) :
    (start goal bucket).table.extend? (named bucket key m) =
      if Told goal.triples bucket u then (Row.merge u m).map (key, ·) else none := by
  by_cases hseed : bucket = [.empty]
  · -- The one empty row: solutions come under their own names.
    obtain ⟨rfl, rfl⟩ : key = 0 ∧ u = .empty := by
      rw [hseed, List.getElem?_singleton] at hu
      split at hu
      · exact ⟨‹_›, (Option.some.inj hu).symm⟩
      · exact absurd hu (by simp)
    simp [hseed, start, named, Told, RoundTable.extend?, RoundTable.revert?, RoundTable.identity,
      RoundTable.row?]
  have htable : (start goal bucket).table = .build goal.triples bucket := by
    simp [start, hseed]
  have hrow : (RoundTable.build goal.triples bucket).row? key = some u := hu
  simp only [htable, named, hseed, if_false]
  by_cases hne : m = .empty
  · have hclosed : ¬Bgp.Open goal.triples u := fun h => S.ne_empty_of_open hB h hm hne
    have hnamed : Row.rename (RoundTable.suffixed · key) .empty = .empty := rfl
    subst hne
    simp only [hnamed, RoundTable.extend?, RoundTable.revert?_empty, Told, hclosed, false_or]
    by_cases hone : bucket.length = 1
    · obtain rfl : key = 0 := by
        have := (List.getElem?_eq_some_iff.1 hu).1
        omega
      simp [hone, hrow]
    · simp [hone]
  · have hopen : Bgp.Open goal.triples u := by
      by_contra h
      exact hne (S.eq_empty_of_not_open hB h hm)
    have hvars : ∀ v, m.binds v = true → v ∈ (Bgp.substitute goal.triples u).vars :=
      fun v => (S.binds_iff _ (hB.substitute u) m hm v).1
    have hrevert := RoundTable.revert?_rename hbare hu hvars hne
    simp only [RoundTable.extend?, hrevert, Told, hopen, true_or, if_true, Option.bind_eq_bind,
      Option.bind_some, hrow, Row.merge_comm m u]
    cases Row.merge u m <;> rfl

/-- The solutions for a row make its extensions if they tell so, and nothing else. -/
theorem filterMap_patternOf (hB : Bgp.Plain goal.triples)
    (hbare : ∀ v ∈ Bgp.vars goal.triples, v.Bare) (hu : bucket[key]? = some u) :
    (S.of (patternOf goal bucket (u, key))).filterMap (start goal bucket).table.extend? =
      if Told goal.triples bucket u then (S.extensions goal.triples u).map (key, ·) else 0 := by
  have hterm : ∀ m ∈ S.of (Bgp.substitute goal.triples u),
      (start goal bucket).table.extend? (named bucket key m) =
        if Told goal.triples bucket u then (Row.merge u m).map (key, ·) else none :=
    fun m hm => extend?_named hB hbare hu hm
  rw [of_patternOf hB hbare hu, Multiset.filterMap_map, Multiset.filterMap_eq_bind]
  unfold Solutions.extensions
  by_cases ht : Told goal.triples bucket u
  · rw [if_pos ht, Multiset.map_filterMap, Multiset.filterMap_eq_bind]
    refine Multiset.bind_congr fun m hm => ?_
    rw [Function.comp_apply, hterm m hm, if_pos ht]
  · rw [if_neg ht]
    refine (Multiset.bind_congr fun m hm => ?_).trans (Multiset.bind_zero _)
    rw [Function.comp_apply, hterm m hm, if_neg ht]
    rfl

/-- The solutions of a union, row by row. -/
theorem sum_union (S : Solutions) (goal : BoundPattern) (bucket : List Row) :
    ((union goal bucket).map S.of).sum =
      (bucket.zipIdx : Multiset (Row × Nat)).bind fun e => S.of (patternOf goal bucket e) := by
  rw [union_eq, List.map_map]
  rfl

/-- The first page of an answer is read by its numbers. -/
def Counted (goal : BoundPattern) (bucket : List Row) (pages : List Page) : Prop :=
  ∃ page ∈ pages.head?, (start goal bucket).isCounted page = true

instance (goal : BoundPattern) (bucket : List Row) (pages : List Page) :
    Decidable (Counted goal bucket pages) :=
  decidable_of_iff (pages.head?.any (start goal bucket).isCounted = true) (by
    cases pages <;> simp [Counted])

/-- The rows that a round extends a row to. -/
def rowHits (S : Solutions) (B : Bgp) (bucket : List Row) (counted : Prop) [Decidable counted]
    (u : Row) : Multiset Row :=
  (if counted ∧ S.of (B.substitute u) ≠ 0 then {u} else 0) +
    if Told B bucket u then S.extensions B u else 0

/-- Numbers of solutions tell the rows that have some. -/
theorem countedHits_of_counts {t : RoundTable} {c : Row → Nat} {counts : List UInt64}
    {rows : List Row} (hcounts : counts.map UInt64.toNat = rows.map c)
    (hrows : ∀ i, t.row? (key + i) = rows[i]?) :
    countedHits t key counts =
      (rows.zipIdx key).filterMap fun e => if c e.1 = 0 then none else some (e.2, e.1) := by
  induction rows generalizing counts key with
  | nil =>
    obtain rfl : counts = [] := by simpa using hcounts
    rfl
  | cons row rows ih =>
    cases counts with
    | nil => simp at hcounts
    | cons count counts =>
      obtain ⟨hcount, hcounts⟩ : count.toNat = c row ∧ counts.map UInt64.toNat = rows.map c := by
        simpa using hcounts
      have hrow : t.row? key = some row := by simpa using hrows 0
      have hrest : ∀ i, t.row? (key + 1 + i) = rows[i]? := fun i => by
        simpa [Nat.add_assoc, Nat.add_comm 1 i] using hrows (i + 1)
      have hzero : count = 0 ↔ c row = 0 := by
        rw [← hcount, ← UInt64.toNat_inj]
        rfl
      -- The first number tells whether the first row has solutions.
      have hstep : countedHits t key (count :: counts) =
          ((if count = 0 then none else (t.row? key).map (key, ·)).toList) ++
            countedHits t (key + 1) counts := by
        unfold countedHits
        rw [List.zipIdx_cons, List.filterMap_cons]
        cases (if count = 0 then none else (t.row? key).map (key, ·)) <;> rfl
      rw [hstep, ih hcounts hrest, hrow, List.zipIdx_cons, List.filterMap_cons]
      by_cases h : c row = 0
      · simp [h, hzero]
      · simp [h, hzero]

/-- The table of a round has the rows of its bucket. -/
theorem rows_start (goal : BoundPattern) (bucket : List Row) :
    (start goal bucket).table.rows = bucket := by
  unfold start
  split
  · next h => rw [h]; rfl
  · rfl

/-- No row of a round was extended before its first page. -/
theorem observed_start (goal : BoundPattern) (bucket : List Row) :
    (start goal bucket).table.observed = [] := by
  unfold start
  split <;> rfl

/-- A first page is read by its numbers only if it has some, if it has rows, all of which are empty,
and if the round has other rows than one. -/
theorem isCounted_start {page : Page} (h : (start goal bucket).isCounted page = true) :
    page.rows ≠ [] ∧ page.cardinalities ≠ [] ∧ (∀ m ∈ page.rows, m = .empty) ∧
      bucket.length ≠ 1 := by
  have hsize : (start goal bucket).table.size = bucket.length := by
    rw [RoundTable.size, rows_start]
  simp only [isCounted, hsize, Bool.and_eq_true, List.all_eq_true, decide_eq_true_eq,
    Bool.not_eq_true', List.isEmpty_eq_false_iff] at h
  obtain ⟨⟨⟨⟨-, hne⟩, hempty⟩, hcounts⟩, hlength⟩ := h
  exact ⟨hne, hcounts, fun m hm => VariableMap.isEmpty_iff.1 (hempty m hm), by omega⟩

/-- Empty rows extend no row of a round with other rows than one. -/
theorem extend?_empty (h : bucket.length ≠ 1) :
    (start goal bucket).table.extend? .empty = none := by
  have hseed : bucket ≠ [.empty] := fun h' => h (by rw [h']; rfl)
  simp [start, hseed, RoundTable.extend?, RoundTable.revert?_empty, h]

/-- A page read by its numbers tells the rows that have solutions. -/
theorem countedHits_eq (hB : Bgp.Plain goal.triples)
    (hbare : ∀ v ∈ Bgp.vars goal.triples, v.Bare) {counts : List UInt64}
    (hcounts : counts.map UInt64.toNat = (union goal bucket).map fun B => (S.of B).card) :
    (countedHits (start goal bucket).table 0 counts : Multiset (Nat × Row)) =
      (bucket.zipIdx : Multiset (Row × Nat)).bind fun e =>
        if S.of (Bgp.substitute goal.triples e.1) ≠ 0 then {(e.2, e.1)} else 0 := by
  have hcards : counts.map UInt64.toNat =
      bucket.map fun u => (S.of (Bgp.substitute goal.triples u)).card := by
    have hfst : bucket.map (fun u => (S.of (Bgp.substitute goal.triples u)).card) =
        bucket.zipIdx.map fun e => (S.of (Bgp.substitute goal.triples e.1)).card := by
      conv_lhs => rw [← List.zipIdx_map_fst 0 bucket, List.map_map]
      rfl
    rw [hcounts, union_eq, List.map_map, hfst]
    refine List.map_congr_left fun e he => ?_
    simp only [Function.comp_apply, of_patternOf hB hbare (List.mem_zipIdx_iff_getElem?.1 he),
      Multiset.card_map]
  have hrows : ∀ i, (start goal bucket).table.row? (0 + i) = bucket[i]? := fun i => by
    rw [RoundTable.row?, rows_start, Nat.zero_add]
  rw [countedHits_of_counts hcards hrows, ← Multiset.filterMap_coe, Multiset.filterMap_eq_bind]
  refine Multiset.bind_congr fun e _ => ?_
  simp only [Multiset.card_eq_zero]
  by_cases h : S.of (Bgp.substitute goal.triples e.1) = 0 <;> simp [h]

/-- The rows that the solutions of a round extend, row by row. -/
theorem filterMap_union (hB : Bgp.Plain goal.triples) (hbare : ∀ v ∈ Bgp.vars goal.triples, v.Bare)
    {rows : List Row} (hrows : (rows : Multiset Row) = ((union goal bucket).map S.of).sum) :
    (rows.filterMap (start goal bucket).table.extend? : Multiset (Nat × Row)) =
      (bucket.zipIdx : Multiset (Row × Nat)).bind fun e =>
        (if Told goal.triples bucket e.1 then S.extensions goal.triples e.1 else 0).map
          (e.2, ·) := by
  rw [← Multiset.filterMap_coe, hrows, sum_union, Multiset.filterMap_bind]
  refine Multiset.bind_congr fun e he => ?_
  rw [filterMap_patternOf hB hbare (List.mem_zipIdx_iff_getElem?.1 he)]
  by_cases h : Told goal.triples bucket e.1 <;> simp [h]

/-- If the first page is read by its numbers, the numbers extend rows besides the solutions of the
other pages. -/
theorem hitsAll_of_isCounted {page : Page} {rest : List Page}
    (h : (start goal bucket).isCounted page = true) :
    (start goal bucket).hitsAll (page :: rest) =
      countedHits (start goal bucket).table 0 page.cardinalities ++
        ((page :: rest).flatMap Page.rows).filterMap (start goal bucket).table.extend? := by
  obtain ⟨-, -, hempty, hlength⟩ := isCounted_start h
  have hnone : page.rows.filterMap (start goal bucket).table.extend? = [] := by
    rw [List.filterMap_eq_nil_iff]
    intro m hm
    rw [hempty m hm, extend?_empty hlength]
  simp [hitsAll, hits, h, hnone]

/-- If the first page is not read by its numbers, only solutions extend rows. -/
theorem hitsAll_of_not_counted {pages : List Page} (h : ¬Counted goal bucket pages) :
    (start goal bucket).hitsAll pages =
      (pages.flatMap Page.rows).filterMap (start goal bucket).table.extend? := by
  cases pages with
  | nil => rfl
  | cons page rest =>
    have hpage : ¬(start goal bucket).isCounted page = true := fun hcounted =>
      h ⟨page, rfl, hcounted⟩
    simp [hitsAll, hits, hpage]

/-- The rows that the pages of a round extend, row by row. -/
theorem hitsAll_eq (hB : Bgp.Plain goal.triples) (hbare : ∀ v ∈ Bgp.vars goal.triples, v.Bare)
    {pages : List Page}
    (hrows : (pages.flatMap Page.rows : Multiset Row) = ((union goal bucket).map S.of).sum)
    (hcounts : Counted goal bucket pages → ExactCounts S (union goal bucket) pages) :
    ((start goal bucket).hitsAll pages : Multiset (Nat × Row)) =
      (bucket.zipIdx : Multiset (Row × Nat)).bind fun e =>
        (rowHits S goal.triples bucket (Counted goal bucket pages) e.1).map (e.2, ·) := by
  -- A row is hit because it is counted, or because rows of the pages tell it.
  have hsplit : ∀ e : Row × Nat,
      (rowHits S goal.triples bucket (Counted goal bucket pages) e.1).map (e.2, ·) =
        (if Counted goal bucket pages ∧ S.of (Bgp.substitute goal.triples e.1) ≠ 0
          then {(e.2, e.1)} else 0) +
        (if Told goal.triples bucket e.1 then S.extensions goal.triples e.1 else 0).map
          (e.2, ·) := fun e => by
    unfold rowHits
    rw [Multiset.map_add]
    congr 1
    split <;> simp
  rw [Multiset.bind_congr fun e _ => hsplit e, Multiset.bind_add,
    ← filterMap_union hB hbare hrows]
  by_cases hcounted : Counted goal bucket pages
  · obtain ⟨page, hpage, hpagecounted⟩ := hcounted
    obtain ⟨rest, rfl⟩ := List.head?_eq_some_iff.1 hpage
    obtain ⟨page', hpage', hcards⟩ := hcounts ⟨page, hpage, hpagecounted⟩
    obtain rfl : page' = page := by simpa using hpage'.symm
    have hthis : Counted goal bucket (page' :: rest) := ⟨page', rfl, hpagecounted⟩
    simp only [hthis, true_and]
    rw [← countedHits_eq hB hbare hcards, hitsAll_of_isCounted hpagecounted, Multiset.coe_add]
  · rw [hitsAll_of_not_counted hcounted]
    simp [hcounted]

/-- A number is among those of extended rows exactly when its row is extended. -/
theorem mem_keys_iff {hits : List (Nat × Row)} {hit : Row → Multiset Row}
    (hhits : (hits : Multiset (Nat × Row)) =
      (bucket.zipIdx : Multiset (Row × Nat)).bind fun e => (hit e.1).map (e.2, ·))
    (hu : bucket[key]? = some u) : key ∈ hits.map Prod.fst ↔ hit u ≠ 0 := by
  have hmem : key ∈ hits.map Prod.fst ↔ ∃ w, (key, w) ∈ (hits : Multiset (Nat × Row)) := by
    simp
  rw [hmem, hhits]
  simp only [Multiset.mem_bind, Multiset.mem_coe, Multiset.mem_map, Prod.mk.injEq]
  constructor
  · rintro ⟨w, e, he, w', hw', rfl, -⟩ hzero
    obtain rfl : e.1 = u := by
      have h := List.mem_zipIdx_iff_getElem?.1 he
      rw [hu] at h
      exact (Option.some.inj h).symm
    rw [hzero] at hw'
    exact absurd hw' (Multiset.notMem_zero _)
  · intro hne
    obtain ⟨w, hw⟩ := Multiset.exists_mem_of_ne_zero hne
    exact ⟨w, (u, key), List.mem_zipIdx_iff_getElem?.2 hu, w, hw, rfl, rfl⟩

/-- The rows that are left after some were extended. -/
theorem unobserved_observeAll {hits : List (Nat × Row)} {hit : Row → Multiset Row}
    (hhits : (hits : Multiset (Nat × Row)) =
      (bucket.zipIdx : Multiset (Row × Nat)).bind fun e => (hit e.1).map (e.2, ·)) :
    (((start goal bucket).table.observeAll (hits.map Prod.fst)).unobserved : Multiset Row) =
      (bucket : Multiset Row).filter fun u => hit u = 0 := by
  have hleft : ∀ e ∈ bucket.zipIdx,
      (!((start goal bucket).table.observeAll (hits.map Prod.fst)).observed.contains e.2) =
        decide (hit e.1 = 0) := by
    intro e he
    have hin := mem_keys_iff hhits (List.mem_zipIdx_iff_getElem?.1 he)
    rw [Bool.eq_iff_iff, Bool.not_eq_true', ← Bool.not_eq_true, List.contains_iff_mem,
      RoundTable.mem_observed_observeAll, observed_start, hin]
    simp
  have hbucket : bucket.filter (fun u => hit u = 0) =
      (bucket.zipIdx.filter fun e => hit e.1 = 0).map Prod.fst := by
    conv_lhs => rw [← List.zipIdx_map_fst 0 bucket]
    rw [List.filter_map]
    rfl
  rw [Multiset.filter_coe, hbucket, RoundTable.unobserved, RoundTable.rows_observeAll, rows_start,
    List.filter_congr hleft]

/-- The rows that a round hands on for a row: those that it extends the row to, or, if there are
none and the round is optional, the row. -/
def rowYield (S : Solutions) (goal : BoundPattern) (bucket : List Row) (counted : Prop)
    [Decidable counted] (u : Row) : Multiset Row :=
  rowHits S goal.triples bucket counted u +
    if goal.optional = true ∧ rowHits S goal.triples bucket counted u = 0 then {u} else 0

/-- **What a round hands on**, row by row of its bucket. -/
theorem yield_eq (hB : Bgp.Plain goal.triples) (hbare : ∀ v ∈ Bgp.vars goal.triples, v.Bare)
    {pages : List Page}
    (hrows : (pages.flatMap Page.rows : Multiset Row) = ((union goal bucket).map S.of).sum)
    (hcounts : Counted goal bucket pages → ExactCounts S (union goal bucket) pages) :
    (yield goal bucket pages : Multiset Row) =
      (bucket : Multiset Row).bind (rowYield S goal bucket (Counted goal bucket pages)) := by
  have hhits := hitsAll_eq hB hbare hrows hcounts
  obtain ⟨hextended, htable⟩ := absorbAll_eq (start goal bucket) pages
  have hfirst : (((start goal bucket).absorbAll pages).1 : Multiset Row) =
      (bucket : Multiset Row).bind
        (rowHits S goal.triples bucket (Counted goal bucket pages)) := by
    have hbucket : (bucket : Multiset Row) =
        (bucket.zipIdx : Multiset (Row × Nat)).map Prod.fst := by
      rw [Multiset.map_coe, List.zipIdx_map_fst]
    rw [hextended, ← Multiset.map_coe, hhits, Multiset.map_bind]
    conv_rhs => rw [hbucket, Multiset.bind_map]
    refine Multiset.bind_congr fun e _ => ?_
    simp
  unfold yield rowYield
  rw [← Multiset.coe_add, hfirst, htable, Multiset.bind_add]
  congr 1
  by_cases hopt : goal.optional = true
  · simp only [hopt, if_true, true_and]
    rw [unobserved_observeAll hhits, Multiset.filter_eq_bind]
  · simp [hopt]

end Round

end PagedSparql
