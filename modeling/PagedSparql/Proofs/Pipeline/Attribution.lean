import PagedSparql.Proofs.Pipeline.BoundJoinLaw

/-!
# Which row is extended

What a bound join hands on are rows that came in, extended by solutions, and a join knows which row
each of them extends. So the rounds of a join give a list of rows with the numbers of the rows that
they extend (`BoundJoin.extensions`), and with it a join without option hands on these rows, and an
optional one besides those that came in and were not extended (`unextended`).

A row that is extended keeps all that it binds, in whatever answers the endpoint sends. It is extended
to the rows that solutions make of it, no more and no less, if the answers are told apart: every row
leaves a variable of the pattern unbound, or it is alone in its round (`BoundJoin.extensions_eq`). A
bag of numbered rows says which row is extended to which ones (`attributed`).
-/

namespace PagedSparql

/-- The rows of a list that are extended to none of some rows, each of which has the number of the
row that it extends. -/
def unextended (U : List Row) (X : List (Nat × Row)) : List Row :=
  (U.zipIdx.filter fun e => X.all fun x => x.1 != e.2).map Prod.fst

/-- Every row extends the row with its number. -/
def Extending (U : List Row) (X : List (Nat × Row)) : Prop :=
  ∀ x ∈ X, ∃ u, U[x.1]? = some u ∧ x.2.Extends u

/-- Rows that extend those of a second list, numbered in both lists together. -/
def shift (n : Nat) (X : List (Nat × Row)) : List (Nat × Row) := X.map fun x => (n + x.1, x.2)

/-- If every row extends itself, the rows that extend rows are these rows. -/
theorem map_snd_zipIdx (U : List Row) : (U.zipIdx.map Prod.swap).map Prod.snd = U := by
  simp [Function.comp_def]

/-- If every row extends itself, there is none that is not extended. -/
theorem unextended_zipIdx (U : List Row) : unextended U (U.zipIdx.map Prod.swap) = [] := by
  unfold unextended
  rw [List.map_eq_nil_iff, List.filter_eq_nil_iff]
  intro e he hall
  simpa using List.all_eq_true.1 hall e.swap (List.mem_map_of_mem he)

/-- Rows that extend a row have the number of one. -/
theorem Extending.lt {U : List Row} {X : List (Nat × Row)} (h : Extending U X) :
    ∀ x ∈ X, x.1 < U.length := by
  intro x hx
  obtain ⟨u, hu, -⟩ := h x hx
  exact (List.getElem?_eq_some_iff.1 hu).1

/-- Fewer rows extend as well. -/
theorem Extending.sublist {U : List Row} {X Y : List (Nat × Row)} (h : Extending U X)
    (hY : Y.Sublist X) : Extending U Y := fun y hy => h y (hY.subset hy)

/-- Each row is extended to a row that keeps all that it binds, or is not extended. -/
theorem Extending.covers {U : List Row} {X : List (Nat × Row)} (h : Extending U X) :
    ∀ u ∈ U, (∃ x ∈ X, x.2.Extends u) ∨ u ∈ unextended U X := by
  intro u hu
  obtain ⟨i, hi⟩ := List.mem_iff_getElem?.1 hu
  by_cases hex : ∃ x ∈ X, x.1 = i
  · obtain ⟨x, hx, rfl⟩ := hex
    obtain ⟨u', hu', hext⟩ := h x hx
    obtain rfl : u = u' := Option.some.inj (hi.symm.trans hu')
    exact .inl ⟨x, hx, hext⟩
  · refine .inr (List.mem_map.2 ⟨(u, i), List.mem_filter.2 ⟨?_, ?_⟩, rfl⟩)
    · exact List.mem_zipIdx_iff_getElem?.2 hi
    · rw [List.all_eq_true]
      exact fun x hx => bne_iff_ne.2 fun heq => hex ⟨x, hx, heq⟩

/-- Rows that extend those of two lists extend those of both together. -/
theorem Extending.append {U V : List Row} {X Y : List (Nat × Row)} (hX : Extending U X)
    (hY : Extending V Y) : Extending (U ++ V) (X ++ shift U.length Y) := by
  intro x hx
  rcases List.mem_append.1 hx with hx | hx
  · obtain ⟨u, hu, hext⟩ := hX x hx
    exact ⟨u, List.getElem?_append_left (hX.lt x hx) ▸ hu, hext⟩
  · obtain ⟨y, hy, rfl⟩ := List.mem_map.1 hx
    obtain ⟨u, hu, hext⟩ := hY y hy
    exact ⟨u, by rw [List.getElem?_append_right (by simp)]; simpa using hu, hext⟩

/-- The rows that are not extended in two lists are those of both together. -/
theorem unextended_append {U V : List Row} {X Y : List (Nat × Row)} (hX : Extending U X) :
    unextended (U ++ V) (X ++ shift U.length Y) = unextended U X ++ unextended V Y := by
  -- The numbers of the second list are shifted past those of the first one, so neither list has a
  -- say about the rows of the other.
  have hleft : ∀ e ∈ U.zipIdx, ((X ++ shift U.length Y).all fun x => x.1 != e.2) =
      X.all fun x => x.1 != e.2 := by
    intro e he
    have hlt := (List.getElem?_eq_some_iff.1 (List.mem_zipIdx_iff_getElem?.1 he)).1
    have hother : ((shift U.length Y).all fun x => x.1 != e.2) = true := by
      simp only [shift, List.all_map, List.all_eq_true, Function.comp_apply, bne_iff_ne]
      omega
    rw [List.all_append, hother, Bool.and_true]
  have hright : ∀ e ∈ V.zipIdx, ((X ++ shift U.length Y).all fun x => x.1 != U.length + e.2) =
      Y.all fun x => x.1 != e.2 := by
    intro e _
    have hother : (X.all fun x => x.1 != U.length + e.2) = true := by
      simp only [List.all_eq_true, bne_iff_ne]
      intro x hx
      have := hX.lt x hx
      omega
    rw [List.all_append, hother, Bool.true_and, shift, List.all_map]
    refine congrArg _ (funext fun y => ?_)
    rw [Bool.eq_iff_iff]
    simp
  simp only [unextended, List.zipIdx_append, List.filter_append, List.map_append,
    List.filter_congr hleft]
  congr 1
  rw [List.zipIdx_eq_map_add, List.filter_map, List.map_map]
  refine congrArg _ (List.filter_congr fun e he => ?_)
  simpa using hright e he

namespace RoundTable

/-- A row that a solution extends is one of the table, and keeps all that it binds. -/
theorem extends_of_extend? {t : RoundTable} {solution : Row} {x : Nat × Row}
    (h : t.extend? solution = some x) : ∃ u, t.row? x.1 = some u ∧ x.2.Extends u := by
  unfold extend? at h
  obtain ⟨⟨key, added⟩, -, h⟩ := Option.bind_eq_some_iff.1 h
  obtain ⟨row, hrow, h⟩ := Option.bind_eq_some_iff.1 h
  obtain ⟨w, hw, h⟩ := Option.bind_eq_some_iff.1 h
  obtain rfl := Option.some.inj h
  exact ⟨row, hrow, Row.extends_of_merge hw⟩

end RoundTable

namespace Round

/-- The rows that the pages of a round extend keep all that they bind. -/
theorem extending_hitsAll (goal : BoundPattern) (bucket : List Row) (pages : List Page) :
    Extending bucket ((start goal bucket).hitsAll pages) := by
  have hrow : ∀ key, (start goal bucket).table.row? key = bucket[key]? := fun key => by
    rw [RoundTable.row?, rows_start]
  have hsolutions : ∀ rows : List Row,
      Extending bucket (rows.filterMap (start goal bucket).table.extend?) := by
    intro rows x hx
    obtain ⟨solution, -, hsolution⟩ := List.mem_filterMap.1 hx
    obtain ⟨u, hu, hext⟩ := RoundTable.extends_of_extend? hsolution
    exact ⟨u, hrow _ ▸ hu, hext⟩
  have hcounted : ∀ counts, Extending bucket (countedHits (start goal bucket).table 0 counts) := by
    intro counts x hx
    obtain ⟨e, -, he⟩ := List.mem_filterMap.1 hx
    split at he
    · exact absurd he (by simp)
    · obtain ⟨u, hu, rfl⟩ := Option.map_eq_some_iff.1 he
      exact ⟨u, hrow _ ▸ hu, .refl u⟩
  -- Only the first page of a round may hold numbers of solutions.
  cases pages with
  | nil => exact fun x hx => absurd hx (by simp [hitsAll])
  | cons page rest =>
    intro x hx
    rw [hitsAll, List.mem_append] at hx
    rcases hx with hx | hx
    · unfold hits at hx
      split at hx
      · exact hcounted _ x hx
      · exact hsolutions _ x hx
    · exact hsolutions _ x hx

/-- A round hands on the rows that its pages extend, and, if its join is optional, those that they
do not extend. -/
theorem yield_eq_unextended (goal : BoundPattern) (bucket : List Row) (pages : List Page) :
    yield goal bucket pages = ((start goal bucket).hitsAll pages).map Prod.snd ++
      if goal.optional then unextended bucket ((start goal bucket).hitsAll pages) else [] := by
  obtain ⟨hrows, htable⟩ := absorbAll_eq (start goal bucket) pages
  have hleft : ((start goal bucket).table.observeAll
      (((start goal bucket).hitsAll pages).map Prod.fst)).unobserved =
        unextended bucket ((start goal bucket).hitsAll pages) := by
    unfold RoundTable.unobserved unextended
    rw [RoundTable.rows_observeAll, rows_start]
    refine congrArg _ (List.filter_congr fun e _ => ?_)
    rw [Bool.eq_iff_iff, Bool.not_eq_true', ← Bool.not_eq_true, List.contains_iff_mem,
      RoundTable.mem_observed_observeAll, observed_start]
    simp only [List.all_eq_true, bne_iff_ne, List.mem_map, List.not_mem_nil, or_false]
    constructor
    · exact fun h x hx heq => h ⟨x, hx, heq⟩
    · rintro h ⟨x, hx, heq⟩
      exact h x hx heq
  rw [yield, hrows, htable, hleft]

end Round

namespace BoundJoin

/-- The rows that the rounds of a join extend, each with the number of its row. -/
def extensions (goal : BoundPattern) : List PastRound → List (Nat × Row)
  | [] => []
  | r :: rest =>
    (Round.start goal r.1).hitsAll r.2 ++ shift r.1.length (extensions goal rest)

/-- Rows are extended to rows that keep all that they bind. -/
theorem extending_extensions (goal : BoundPattern) (rounds : List PastRound) :
    Extending (rounds.map Prod.fst).flatten (extensions goal rounds) := by
  induction rounds with
  | nil => exact fun x hx => absurd hx (by simp [extensions])
  | cons r rest ih => exact (Round.extending_hitsAll goal r.1 r.2).append ih

/-- **What the rounds of a join hand on**: the rows that they extend, and, if the join is optional,
the rows that they do not extend. -/
theorem flatMap_yield (goal : BoundPattern) (rounds : List PastRound) :
    (rounds.flatMap fun r => Round.yield goal r.1 r.2 : Multiset Row) =
      ((extensions goal rounds).map Prod.snd : Multiset Row) +
        if goal.optional = true then
          (unextended (rounds.map Prod.fst).flatten (extensions goal rounds) : Multiset Row)
        else 0 := by
  induction rounds with
  | nil => simp [extensions, unextended]
  | cons r rest ih =>
    have hsnd : (shift r.1.length (extensions goal rest)).map Prod.snd =
        (extensions goal rest).map Prod.snd := by
      simp [shift]
    rw [List.flatMap_cons, ← Multiset.coe_add, ih, Round.yield_eq_unextended, extensions,
      List.map_append, hsnd, List.map_cons, List.flatten_cons,
      unextended_append (Round.extending_hitsAll goal r.1 r.2)]
    cases goal.optional with
    | false => simp
    | true =>
      simp only [if_true, ← Multiset.coe_add]
      exact add_add_add_comm _ _ _ _

/-- A join without option hands on the rows that its rounds extend, in order. -/
theorem flatMap_yield_of_not_optional {goal : BoundPattern} (h : goal.optional = false)
    (rounds : List PastRound) :
    (rounds.flatMap fun r => Round.yield goal r.1 r.2) =
      (extensions goal rounds).map Prod.snd := by
  induction rounds with
  | nil => rfl
  | cons r rest ih =>
    rw [List.flatMap_cons, ih, Round.yield_eq_unextended, h, extensions, List.map_append]
    simp [shift]

end BoundJoin

/-! ## Rows that are extended exactly -/

variable {F G : Row → Multiset Row} {U V : List Row} {X : List (Nat × Row)}

/-- What a function makes of the rows of a list, each with the number of its row. -/
def attributed (F : Row → Multiset Row) (U : List Row) : Multiset (Nat × Row) :=
  (U.zipIdx : Multiset (Row × Nat)).bind fun e => (F e.1).map (e.2, ·)

/-- Functions that make the same of every row. -/
theorem attributed_congr (h : ∀ u ∈ U, F u = G u) : attributed F U = attributed G U :=
  Multiset.bind_congr fun e he => by
    rw [h e.1 (List.mem_of_getElem? (List.mem_zipIdx_iff_getElem?.1 he))]

/-- The rows of a list and their numbers. -/
theorem map_fst_zipIdx (U : List Row) :
    (U.zipIdx : Multiset (Row × Nat)).map Prod.fst = (U : Multiset Row) := by
  rw [Multiset.map_coe, List.zipIdx_map_fst]

/-- Without the numbers. -/
theorem map_snd_attributed (F : Row → Multiset Row) (U : List Row) :
    (attributed F U).map Prod.snd = (U : Multiset Row).bind F := by
  rw [attributed, Multiset.map_bind, ← map_fst_zipIdx, Multiset.bind_map]
  refine Multiset.bind_congr fun e _ => ?_
  rw [Multiset.map_map]
  exact Multiset.map_id (F e.1)

/-- If every row makes itself, the rows have their own numbers. -/
theorem attributed_singleton (U : List Row) :
    attributed (fun u => {u}) U = (U.zipIdx.map Prod.swap : Multiset (Nat × Row)) := by
  have hrow : ∀ e : Row × Nat, ({e.1} : Multiset Row).map (e.2, ·) = {e.swap} := fun e =>
    Multiset.map_singleton _ _
  rw [attributed, Multiset.bind_congr fun e _ => hrow e, Multiset.bind_singleton, Multiset.map_coe]

/-- What two functions make of the rows. -/
theorem attributed_add (F G : Row → Multiset Row) (U : List Row) :
    attributed (fun u => F u + G u) U = attributed F U + attributed G U := by
  simp only [attributed, Multiset.map_add, Multiset.bind_add]

/-- What a function makes of the rows of two lists. -/
theorem attributed_append (F : Row → Multiset Row) (U V : List Row) :
    attributed F (U ++ V) =
      attributed F U + (attributed F V).map fun x => (U.length + x.1, x.2) := by
  rw [attributed, List.zipIdx_append, ← Multiset.coe_add, Multiset.add_bind]
  refine congrArg (attributed F U + ·) ?_
  rw [List.zipIdx_eq_map_add, ← Multiset.map_coe, Multiset.bind_map, attributed, Multiset.map_bind]
  refine Multiset.bind_congr fun e _ => ?_
  rw [Multiset.map_map, Nat.zero_add]
  rfl

/-- Some of what a function makes of the rows is left. -/
theorem filter_attributed (q : Row → Prop) [DecidablePred q] (F : Row → Multiset Row)
    (U : List Row) :
    (attributed F U).filter (fun x => q x.2) = attributed (fun u => (F u).filter q) U := by
  rw [attributed, Multiset.filter_bind]
  refine Multiset.bind_congr fun e _ => ?_
  rw [Multiset.filter_map]
  rfl

/-- Something may be done to the rows that a function makes. -/
theorem map_attributed (f : Row → Row) (F : Row → Multiset Row) (U : List Row) :
    (attributed F U).map (fun x => f x.2) = (U : Multiset Row).bind fun u => (F u).map f := by
  rw [← Multiset.map_bind, ← map_snd_attributed, Multiset.map_map]
  rfl

/-- The rows that are not extended are those of which the function makes nothing, also if something
was done to the rows before. -/
theorem unextended_eq {g : Row × Nat → Row}
    (h : (X : Multiset (Nat × Row)) = attributed F (U.zipIdx.map g)) :
    (unextended U X : Multiset Row) =
      ((U.zipIdx : Multiset (Row × Nat)).filter fun e => F (g e) = 0).map Prod.fst := by
  have hleft : ∀ e ∈ U.zipIdx, (X.all fun x => x.1 != e.2) = decide (F (g e) = 0) := by
    intro e he
    have hrow : (U.zipIdx.map g)[e.2]? = some (g e) := by
      rw [List.getElem?_map, List.getElem?_zipIdx, List.mem_zipIdx_iff_getElem?.1 he, Nat.zero_add]
      rfl
    have hkey := Round.mem_keys_iff h hrow
    rw [Bool.eq_iff_iff, decide_eq_true_iff, ← not_iff_not, ← ne_eq (F (g e)) 0, ← hkey]
    simp
  rw [unextended, List.filter_congr hleft, Multiset.filter_coe, Multiset.map_coe]

namespace BoundJoin

variable {S : Solutions} {goal : BoundPattern} {tells : List Bgp → List Page → Prop}

/-- A round whose answers are told apart extends each row by its solutions. -/
theorem hitsAll_eq_attributed (hB : Bgp.Plain goal.triples)
    (hbare : ∀ v ∈ Bgp.vars goal.triples, v.Bare) {bucket : List Row} {pages : List Page}
    (hserved : Served S goal tells bucket pages)
    (htold : ∀ u ∈ bucket, Round.Told goal.triples bucket u) :
    ((Round.start goal bucket).hitsAll pages : Multiset (Nat × Row)) =
      attributed (S.extensions goal.triples) bucket := by
  have hnot : ¬Round.Counted goal bucket pages := by
    by_cases hlength : bucket.length = 1
    · rintro ⟨page, -, hcounted⟩
      exact (Round.isCounted_start hcounted).2.2.2 hlength
    · exact not_counted_of_open hB hbare (fun u hu => (htold u hu).resolve_right hlength)
        hserved.rows
  rw [Round.hitsAll_eq hB hbare hserved.rows fun h => absurd h hnot]
  refine attributed_congr fun u hu => ?_
  rw [Round.rowHits, if_neg fun h => hnot h.1, zero_add, if_pos (htold u hu)]

/-- **Rounds extend rows exactly.** If the answers to all rounds are told apart, each row is extended
by its solutions. -/
theorem extensions_eq (hB : Bgp.Plain goal.triples)
    (hbare : ∀ v ∈ Bgp.vars goal.triples, v.Bare) {rounds : List PastRound}
    (hserved : ∀ r ∈ rounds, Served S goal tells r.1 r.2)
    (htold : ∀ r ∈ rounds, ∀ u ∈ r.1, Round.Told goal.triples r.1 u) :
    (extensions goal rounds : Multiset (Nat × Row)) =
      attributed (S.extensions goal.triples) (rounds.map Prod.fst).flatten := by
  induction rounds with
  | nil => rfl
  | cons r rest ih =>
    obtain ⟨hr, hrest⟩ := List.forall_mem_cons.1 hserved
    obtain ⟨htr, htrest⟩ := List.forall_mem_cons.1 htold
    rw [extensions, ← Multiset.coe_add, hitsAll_eq_attributed hB hbare hr htr, shift,
      ← Multiset.map_coe, ih hrest htrest, List.map_cons, List.flatten_cons, attributed_append]

end BoundJoin

end PagedSparql
