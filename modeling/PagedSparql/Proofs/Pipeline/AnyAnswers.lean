import PagedSparql.Proofs.Pipeline.BoundJoinLaw

/-!
# Bound joins under any answers

Nothing is assumed of the endpoint here: it may answer with any rows, variables and numbers, in any
pages, it may fail, and its client may be closed at any time. A bound join still hands on extensions
of the rows of its rounds only, which add variables of the pattern to what a row binds and change
nothing of it (`BoundJoin.emits_extensions`).

This rests on the way back from the new names of a round. A solution tells a row only if all of its
names are new names of the pattern for that row (`RoundTable.revert?_spec`), and since the number in
a new name is told by the name (`RoundTable.suffixed_key_inj`), a solution that has an unknown name
or names for two rows tells none (`Round.Stray`). What it would add is under the old names, and
merging keeps the row as it is.

The run is an induction over steps in arbitrary sessions (`Stage.Emits`). Its invariant says which
rounds are over, which pages the present round has read, and how the other rows will be cut
(`BoundJoin.Progress`).
-/

namespace PagedSparql

/-- A row that a pattern could extend another row to: it has the terms of that row, and what it adds
are variables of the pattern. -/
structure Bgp.Extension (B : Bgp) (u w : Row) : Prop where
  /-- The terms of the row are kept. -/
  keeps : w.Extends u
  /-- Variables of the pattern are added. -/
  adds : ∀ v, w.binds v = true → u.binds v = false → v ∈ B.vars

/-- A row is an extension of itself. -/
theorem Bgp.Extension.refl (B : Bgp) (u : Row) : B.Extension u u where
  keeps := .refl u
  adds := fun v hv hv' => absurd (hv.symm.trans hv') (by simp)

namespace RoundTable

variable {B : Bgp} {rows : List Row} {key : Nat} {m : Row}

/-- The new name of a variable that the row with a number leaves in a pattern. -/
def IsNew (B : Bgp) (rows : List Row) (key : Nat) (w : Variable) : Prop :=
  ∃ u x, rows[key]? = some u ∧ x ∈ (B.substitute u).vars ∧ w = suffixed x key

/-- A name is new for one row at most. -/
theorem IsNew.key_unique {w : Variable} {k l : Nat} (h : IsNew B rows k w) (h' : IsNew B rows l w) :
    k = l := by
  obtain ⟨u, x, -, -, rfl⟩ := h
  obtain ⟨u', x', -, -, heq⟩ := h'
  exact suffixed_key_inj heq

/-- What the table has for a name. -/
theorem mem_of_lookup {w old : Variable} (h : (renamesOfAll B rows).lookup w = some (key, old)) :
    ∃ u, rows[key]? = some u ∧ old ∈ (B.substitute u).vars ∧ w = suffixed old key := by
  obtain ⟨before, after, hsplit, -⟩ := List.lookup_eq_some_iff.1 h
  exact mem_renamesOfAll.1 (hsplit ▸ by simp : (w, key, old) ∈ renamesOfAll B rows)

/-- Entries are read only if all of them tell one row, and then under the old names. -/
theorem revertEntries_spec {renames : List (Variable × Nat × Variable)} {added : Row}
    {entries : List (Variable × Term)} {key? : Option Nat} {row : Row}
    (h : revertEntries renames key? row entries = some (key, added)) :
    key?.all (· == key) = true ∧
      (∀ e ∈ entries, ∃ old, renames.lookup e.1 = some (key, old)) ∧
      ∀ v, added.binds v = true →
        row.binds v = true ∨ ∃ e ∈ entries, renames.lookup e.1 = some (key, v) := by
  induction entries generalizing key? row with
  | nil =>
    obtain ⟨k, rfl, heq⟩ := Option.map_eq_some_iff.1 h
    obtain ⟨rfl, rfl⟩ := Prod.mk.inj heq
    exact ⟨by simp, by simp, fun v hv => .inl hv⟩
  | cons e rest ih =>
    obtain ⟨w, t⟩ := e
    simp only [revertEntries] at h
    cases hlookup : renames.lookup w with
    | none => simp [hlookup] at h
    | some entry =>
      obtain ⟨k, old⟩ := entry
      simp only [hlookup] at h
      -- The entry has to tell the row that the entries before it tell.
      split at h
      · next hagree =>
        obtain ⟨hkey, hrest, hadded⟩ := ih h
        obtain rfl : k = key := by simpa using hkey
        refine ⟨hagree, ?_, fun v hv => ?_⟩
        · rintro e (_ | ⟨_, he⟩)
          · exact ⟨old, hlookup⟩
          · exact hrest e he
        · rcases hadded v hv with hbinds | ⟨e, he, hold⟩
          · -- The rest may bind the variable of this entry too, which was put in before them.
            by_cases hvo : v = old
            · subst hvo
              exact .inr ⟨(w, t), List.mem_cons_self, hlookup⟩
            · refine .inl ?_
              simpa [VariableMap.binds, VariableMap.get?_insert, hvo] using hbinds
          · exact .inr ⟨e, List.mem_cons_of_mem _ he, hold⟩
      · exact absurd h (by simp)

/-- A solution that tells a row has names for it only, and adds variables that the row leaves in the
pattern. -/
theorem revert?_spec {added : Row} (h : (build B rows).revert? m = some (key, added)) :
    (∀ w, m.binds w = true → IsNew B rows key w) ∧
      ∀ v, added.binds v = true → ∃ u, rows[key]? = some u ∧ v ∈ (B.substitute u).vars := by
  by_cases hempty : m.isEmpty = true
  · obtain rfl := VariableMap.isEmpty_iff.1 hempty
    rw [revert?_empty] at h
    split at h
    · obtain ⟨rfl, rfl⟩ := Prod.mk.inj (Option.some.inj h)
      exact ⟨fun w hw => absurd hw (by simp), fun v hv => absurd hv (by simp)⟩
    · exact absurd h (by simp)
  have hstep : revertEntries (renamesOfAll B rows) none .empty m.entries = some (key, added) := by
    rw [← h]
    simp only [revert?, build, Bool.eq_false_iff.2 hempty, renamesOfAll]
    rfl
  obtain ⟨-, hnames, hadded⟩ := revertEntries_spec hstep
  constructor
  · intro w hw
    obtain ⟨t, ht⟩ := VariableMap.binds_iff.1 hw
    obtain ⟨old, hold⟩ := hnames (w, t) (VariableMap.mem_entries_iff.2 ht)
    obtain ⟨u, hu, hx, heq⟩ := mem_of_lookup hold
    exact ⟨u, old, hu, hx, heq⟩
  · intro v hv
    obtain ⟨e, -, hlookup⟩ := (hadded v hv).resolve_left (by simp)
    obtain ⟨u, hu, hx, -⟩ := mem_of_lookup hlookup
    exact ⟨u, hu, hx⟩

/-- A solution extends a row of the round for which all of its names are. -/
theorem extend?_spec {w : Row} (h : (build B rows).extend? m = some (key, w)) :
    (∃ u, rows[key]? = some u ∧ B.Extension u w) ∧
      ∀ v, m.binds v = true → IsNew B rows key v := by
  simp only [extend?, Option.bind_eq_bind, Option.bind_eq_some_iff, Option.some.injEq] at h
  obtain ⟨⟨k, added⟩, hrevert, u, hu, w', hmerge, heq⟩ := h
  obtain ⟨rfl, rfl⟩ := Prod.mk.inj heq
  obtain ⟨hnames, hadded⟩ := revert?_spec hrevert
  refine ⟨⟨u, hu, Row.extends_of_merge hmerge, fun v hv hvu => ?_⟩, hnames⟩
  have hbinds : added.binds v = true := by
    simpa [VariableMap.binds, Row.get?_of_merge hmerge, VariableMap.binds_eq_false_iff.1 hvu]
      using hv
  obtain ⟨u', -, hv'⟩ := hadded v hbinds
  exact (Bgp.mem_vars_substitute.1 hv').1

end RoundTable

namespace Round

variable {goal : BoundPattern} {bucket : List Row} {m w : Row} {page : Page}

/-- A solution that tells no row: it has a name that nobody asked for, or names for two rows. -/
inductive Stray (B : Bgp) (bucket : List Row) (m : Row) : Prop
  /-- The name is unknown. -/
  | unknown (v : Variable) (binds : m.binds v = true)
    (new : ∀ key, ¬RoundTable.IsNew B bucket key v)
  /-- The names are for different rows. -/
  | mixed (v v' : Variable) (binds : m.binds v = true) (binds' : m.binds v' = true) (k k' : Nat)
    (new : RoundTable.IsNew B bucket k v) (new' : RoundTable.IsNew B bucket k' v') (ne : k ≠ k')

/-- The table of a round for other rows than the one empty row. -/
theorem table_start (h : bucket ≠ [.empty]) :
    (start goal bucket).table = .build goal.triples bucket := by
  simp [start, h]

/-- A solution that tells no row extends none. -/
theorem Stray.extend?_eq_none (h : Stray goal.triples bucket m) :
    (RoundTable.build goal.triples bucket).extend? m = none := by
  rw [Option.eq_none_iff_forall_not_mem]
  rintro ⟨key, w⟩ hextend
  obtain ⟨-, hnames⟩ := RoundTable.extend?_spec hextend
  cases h with
  | unknown v binds new => exact new key (hnames v binds)
  | mixed v v' binds binds' k k' new new' ne =>
    exact ne ((new.key_unique (hnames v binds)).trans ((hnames v' binds').key_unique new'))

/-- A solution that tells no row is not empty. -/
theorem Stray.isEmpty_eq_false (h : Stray goal.triples bucket m) : m.isEmpty = false := by
  have hbinds : ∃ v, m.binds v = true := by
    cases h with
    | unknown v binds _ => exact ⟨v, binds⟩
    | mixed v _ binds _ _ _ _ _ _ => exact ⟨v, binds⟩
  obtain ⟨v, hv⟩ := hbinds
  rw [Bool.eq_false_iff]
  intro hempty
  obtain rfl := VariableMap.isEmpty_iff.1 hempty
  exact absurd hv (by simp)

open scoped Classical in
/-- Solutions that tell no row contribute nothing: a page with such solutions is read as if it had
the others only. -/
theorem absorb_of_stray {round : Round}
    (htable : round.table.extend? = (RoundTable.build goal.triples bucket).extend?)
    (h : ∃ m ∈ page.rows, Stray goal.triples bucket m) :
    let others := page.rows.filter fun m => ¬Stray goal.triples bucket m
    round.absorb page = ((absorbRows round.table others).1,
      { round with table := (absorbRows round.table others).2, fresh := false }) := by
  intro others
  obtain ⟨m, hm, hstray⟩ := h
  have hcounted : round.isCounted page = false := by
    rw [Bool.eq_false_iff]
    intro hcounted
    simp only [isCounted, Bool.and_eq_true, List.all_eq_true] at hcounted
    exact absurd (hcounted.1.1.2 m hm) (by simp [hstray.isEmpty_eq_false])
  have hothers : page.rows.filterMap round.table.extend? =
      others.filterMap round.table.extend? := by
    rw [List.filterMap_filter]
    refine List.filterMap_congr fun m _ => ?_
    by_cases hm : Stray goal.triples bucket m
    · simp [hm, htable, hm.extend?_eq_none]
    · simp [hm]
  rw [absorb_eq, absorbRows_eq, hits, if_neg (by simp [hcounted]), hothers]

/-- What a page extends are rows of the round. -/
theorem extension_of_mem_hits (hseed : bucket ≠ [.empty]) {key : Nat}
    (h : (key, w) ∈ (start goal bucket).hits page) :
    ∃ u, bucket[key]? = some u ∧ Bgp.Extension goal.triples u w := by
  unfold hits at h
  split at h
  · -- The row itself is handed on.
    obtain ⟨⟨count, k⟩, -, hrow⟩ := List.mem_filterMap.1 h
    split at hrow
    · exact absurd hrow (by simp)
    · obtain ⟨u, hu, heq⟩ := Option.map_eq_some_iff.1 hrow
      obtain ⟨rfl, rfl⟩ := Prod.mk.inj heq
      rw [RoundTable.row?, rows_start] at hu
      exact ⟨u, hu, .refl _ u⟩
  · obtain ⟨m, -, hm⟩ := List.mem_filterMap.1 h
    rw [table_start hseed] at hm
    exact (RoundTable.extend?_spec hm).1

/-- What several pages extend are rows of the round. -/
theorem extension_of_mem_hitsAll (hseed : bucket ≠ [.empty]) {pages : List Page} {key : Nat}
    (h : (key, w) ∈ (start goal bucket).hitsAll pages) :
    ∃ u, bucket[key]? = some u ∧ Bgp.Extension goal.triples u w := by
  cases pages with
  | nil => exact absurd h List.not_mem_nil
  | cons page rest =>
    rcases List.mem_append.1 h with h | h
    · exact extension_of_mem_hits hseed h
    · obtain ⟨m, -, hm⟩ := List.mem_filterMap.1 h
      rw [table_start hseed] at hm
      exact (RoundTable.extend?_spec hm).1

/-- All that a round hands on are extensions of its rows, whatever its pages are. -/
theorem extension_of_mem_yield (hseed : bucket ≠ [.empty]) {pages : List Page}
    (h : w ∈ yield goal bucket pages) : ∃ u ∈ bucket, Bgp.Extension goal.triples u w := by
  rcases List.mem_append.1 h with h | h
  · rw [(absorbAll_eq _ pages).1] at h
    obtain ⟨⟨key, w⟩, hw, rfl⟩ := List.mem_map.1 h
    obtain ⟨u, hu, hext⟩ := extension_of_mem_hitsAll hseed hw
    exact ⟨u, List.mem_of_getElem? hu, hext⟩
  · -- The row was not extended.
    split at h
    · obtain ⟨e, he, rfl⟩ := List.mem_map.1 h
      have hmem := (List.mem_filter.1 he).1
      rw [(absorbAll_eq _ pages).2, RoundTable.rows_observeAll, rows_start] at hmem
      exact ⟨e.1, List.mem_of_getElem? (List.mem_zipIdx_iff_getElem?.1 hmem), .refl _ _⟩
    · exact absurd h List.not_mem_nil

end Round

namespace Stage

variable {σ : Type} {net : Network σ} {now : DateTime} {st st' : Stage} {s s' : Session σ}
  {W : List Row}

/-- The row that a step hands on, if it does. -/
def handedOn : Option Signal → List Row
  | some (.row r) => [r]
  | _ => []

/-- A row is handed on if the signal has it. -/
theorem mem_handedOn {y? : Option Signal} {r : Row} : r ∈ handedOn y? ↔ y? = some (.row r) := by
  rcases y? with _ | w | _ | e
  · simp [handedOn]
  · simpa [handedOn] using eq_comm
  · simp [handedOn]
  · simp [handedOn]

/-- At most one row is handed on. -/
theorem nodup_handedOn (y? : Option Signal) : (handedOn y?).Nodup := by
  rcases y? with _ | r | _ | e <;> simp [handedOn]

/-- The rows that a stage at the top of a pipeline hands on in some number of steps. It may be
pulled after its end and after failures, and between two steps anything may happen to the session
and to the world. -/
inductive Emits (net : Network σ) (now : DateTime) (st : Stage) : List Row → Stage → Prop
  /-- No step was made. -/
  | start : Emits net now st [] st
  /-- A further step is made. -/
  | step {W : List Row} {st' st'' : Stage} {y? : Option Signal} {s s' : Session σ}
    (before : Emits net now st W st')
    (h : st'.step net now (if st'.wants then some .done else none) s = ((st'', y?), s')) :
    Emits net now st (W ++ handedOn y?) st''

/-- A pull is made of steps. -/
theorem Emits.pull {n : Nat} {st'' : Stage} {y? : Option Signal} (before : Emits net now st W st')
    (h : st'.pull net now n s = (y?, st'', s')) : Emits net now st (W ++ handedOn y?) st'' := by
  induction n generalizing st' s W with
  | zero =>
    obtain ⟨rfl, rfl, rfl⟩ : none = y? ∧ st' = st'' ∧ s = s' := by simpa [Stage.pull] using h
    simpa [handedOn] using before
  | succ n ih =>
    rw [Stage.pull] at h
    split at h
    · next hstep =>
      obtain ⟨rfl, rfl, rfl⟩ : _ = y? ∧ _ = st'' ∧ _ = s' := by simpa using h
      exact before.step hstep
    · next hstep =>
      have hnext := before.step hstep
      simp only [handedOn, List.append_nil] at hnext
      exact ih hnext h

end Stage

namespace BoundJoin

variable {σ : Type} {net : Network σ} {now : DateTime} {goal : BoundPattern} {U rest W : List Row}
  {j : BoundJoin} {s : Session σ}

/-- What several rounds yield. -/
def yields (goal : BoundPattern) (rounds : List PastRound) : List Row :=
  rounds.flatMap fun r => Round.yield goal r.1 r.2

/-- A further round yields its rows after the others. -/
theorem yields_snoc (goal : BoundPattern) (rounds : List PastRound) (r : PastRound) :
    yields goal (rounds ++ [r]) = yields goal rounds ++ Round.yield goal r.1 r.2 := by
  simp [yields]

/-- How far a bound join has come with the rows `U`, of which `rest` have not come in, when it has
handed on the rows `W`. Nothing is said about the endpoint. -/
inductive Progress (goal : BoundPattern) (U rest W : List Row) (j : BoundJoin) : Prop
  /-- A bucket is being filled. Some buckets are lost if there was a failure above. -/
  | filling (rounds : List PastRound) (lost : List (List Row)) (idle : j.round? = none)
    (working : j.finished = false) (small : j.bucket.length < goal.bufferSize)
    (given : W ++ j.pending = yields goal rounds)
    (cut : buckets goal.bufferSize U =
      rounds.map Prod.fst ++ (buckets goal.bufferSize (j.bucket ++ rest) ++ lost))
  /-- The pages of a round are being read. -/
  | reading (rounds : List PastRound) (lost : List (List Row)) (bucket : List Row)
    (pages : List Page) (sequence : PageSequence)
    (round : j.round? =
      some { ((Round.start goal bucket).absorbAll pages).2 with pages := sequence })
    (working : j.finished = false) (empty : j.bucket = [])
    (given : W ++ j.pending = yields goal rounds ++ ((Round.start goal bucket).absorbAll pages).1)
    (cut : buckets goal.bufferSize U =
      rounds.map Prod.fst ++ (bucket :: buckets goal.bufferSize rest ++ lost))
  /-- Nothing more is handed on. -/
  | ended (rounds : List PastRound) (idle : j.round? = none) (finished : j.finished = true)
    (drained : j.pending = []) (given : W <+: yields goal rounds)
    (cut : rounds.map Prod.fst <+: buckets goal.bufferSize U)

/-- The rows handed on are the first ones of those that the rounds of the first buckets yield. -/
theorem Progress.given (h : Progress goal U rest W j) : ∃ rounds : List PastRound,
    rounds.map Prod.fst <+: buckets goal.bufferSize U ∧ W <+: yields goal rounds := by
  cases h with
  | filling rounds lost idle working small given cut =>
    exact ⟨rounds, cut ▸ List.prefix_append _ _, given ▸ List.prefix_append _ _⟩
  | reading rounds lost bucket pages sequence round working empty given cut =>
    refine ⟨rounds ++ [(bucket, pages)], ?_, ?_⟩
    · rw [cut, List.map_append, List.cons_append, List.append_cons]
      exact List.prefix_append _ _
    · rw [yields_snoc, Round.yield, ← List.append_assoc, ← given, List.append_assoc]
      exact List.prefix_append _ _
  | ended rounds idle finished drained given cut => exact ⟨rounds, cut, given⟩

/-- The table of the present round is that of a bucket after some pages. -/
theorem Progress.table_eq (h : Progress goal U rest W j) {round : Round}
    (hround : j.round? = some round) : ∃ bucket pages,
      round.table = ((Round.start goal bucket).absorbAll pages).2.table := by
  cases h with
  | filling rounds lost idle => exact absurd (idle.symm.trans hround) (by simp)
  | reading rounds lost bucket pages sequence round' =>
    obtain rfl := Option.some.inj (round'.symm.trans hround)
    exact ⟨bucket, pages, rfl⟩
  | ended rounds idle => exact absurd (idle.symm.trans hround) (by simp)

/-- A row is handed on that has waited. -/
theorem Progress.give {r : Row} {pending : List Row} (h : Progress goal U rest W j)
    (hp : j.pending = r :: pending) :
    Progress goal U rest (W ++ [r]) { j with pending } := by
  have hgiven : W ++ [r] ++ pending = W ++ j.pending := by simp [hp]
  cases h with
  | filling rounds lost idle working small given cut =>
    exact .filling rounds lost idle working small (hgiven.trans given) cut
  | reading rounds lost bucket pages sequence round working empty given cut =>
    exact .reading rounds lost bucket pages sequence round working empty (hgiven.trans given) cut
  | ended rounds idle finished drained given cut => exact absurd (hp.symm.trans drained) (by simp)

/-- A join that wants a row is filling a bucket, and nothing waits. -/
theorem Progress.of_wants (h : Progress goal U rest W j) (hwants : j.wants = true) :
    j.pending = [] ∧ j.round? = none ∧ j.finished = false ∧
      j.bucket.length < goal.bufferSize ∧
      ∃ rounds : List PastRound, ∃ lost, W = yields goal rounds ∧
        buckets goal.bufferSize U =
          rounds.map Prod.fst ++ (buckets goal.bufferSize (j.bucket ++ rest) ++ lost) := by
  obtain ⟨hp, hf, hr, -⟩ := wants_iff.1 hwants
  cases h with
  | filling rounds lost idle working small given cut =>
    rw [hp, List.append_nil] at given
    exact ⟨hp, hr, hf, small, rounds, lost, given, cut⟩
  | reading rounds lost bucket pages sequence round working empty given cut =>
    exact absurd (hr.symm.trans round) (by simp)
  | ended rounds idle finished drained given cut => exact absurd (hf.symm.trans finished) (by simp)

/-- A row comes in. -/
theorem Progress.take (hK : 0 < goal.bufferSize) (htold : j.goal = goal) {r : Row}
    (h : Progress goal U (r :: rest) W j) (hwants : j.wants = true) :
    (j.accept (.row r)).2 = none ∧ (j.accept (.row r)).1.goal = goal ∧
      Progress goal U rest W (j.accept (.row r)).1 := by
  obtain ⟨hp, hr, hf, hsmall, rounds, lost, hgiven, hcut⟩ := h.of_wants hwants
  have hcut' : buckets goal.bufferSize U =
      rounds.map Prod.fst ++ (buckets goal.bufferSize ((j.bucket ++ [r]) ++ rest) ++ lost) := by
    simpa using hcut
  by_cases hfull : (j.bucket ++ [r]).length < goal.bufferSize
  · rw [accept_row_of_lt (by rwa [htold])]
    exact ⟨rfl, htold, .filling rounds lost hr hf hfull (by simpa [hp] using hgiven) hcut'⟩
  · -- The round of a full bucket begins.
    have hlength : (j.bucket ++ [r]).length = goal.bufferSize := length_of_full hsmall hfull
    rw [buckets_append hK hlength] at hcut'
    rw [accept_row_of_full (by rwa [htold]), htold]
    exact ⟨rfl, rfl, .reading rounds lost (j.bucket ++ [r]) [] _ rfl hf rfl
      (by simpa [hp, Round.absorbAll] using hgiven) hcut'⟩

/-- The rows from above end. -/
theorem Progress.close (htold : j.goal = goal) (h : Progress goal U [] W j)
    (hwants : j.wants = true) :
    (j.accept .done).2 = none ∧ (j.accept .done).1.goal = goal ∧
      Progress goal U [] W (j.accept .done).1 := by
  obtain ⟨hp, hr, hf, hsmall, rounds, lost, hgiven, hcut⟩ := h.of_wants hwants
  rw [List.append_nil] at hcut
  by_cases hnil : j.bucket = []
  · rw [accept_done_of_nil hnil]
    exact ⟨rfl, htold, .ended rounds hr rfl hp (by rw [hgiven]) (hcut ▸ List.prefix_append _ _)⟩
  · -- The round of the last bucket begins.
    rw [accept_done_of_ne_nil hnil, htold]
    refine ⟨rfl, rfl, .reading rounds lost j.bucket [] _ rfl hf rfl
      (by simpa [hp, Round.absorbAll] using hgiven) ?_⟩
    rw [hcut, buckets_of_length_le hnil hsmall.le, buckets]

/-- There is a failure above, and the rows of the bucket are lost. -/
theorem Progress.fail (htold : j.goal = goal) (h : Progress goal U [] W j)
    (hwants : j.wants = true) (e : TransportError) :
    (j.accept (.fail e)).2 = some (.fail e) ∧ (j.accept (.fail e)).1.goal = goal ∧
      Progress goal U [] W (j.accept (.fail e)).1 := by
  obtain ⟨hp, hr, hf, hsmall, rounds, lost, hgiven, hcut⟩ := h.of_wants hwants
  refine ⟨rfl, htold, .filling rounds (buckets goal.bufferSize j.bucket ++ lost) hr hf
    (Nat.zero_lt_of_lt hsmall) (by simpa [accept, hp] using hgiven) ?_⟩
  simpa [accept, buckets] using hcut

/-- What the pull of a page brings is taken in, whatever it is. -/
theorem Progress.page (hK : 0 < goal.bufferSize) (htold : j.goal = goal)
    {rounds : List PastRound} {lost : List (List Row)} {bucket : List Row} {pages : List Page}
    (hp : j.pending = []) (working : j.finished = false) (empty : j.bucket = [])
    (given : W = yields goal rounds ++ ((Round.start goal bucket).absorbAll pages).1)
    (cut : buckets goal.bufferSize U =
      rounds.map Prod.fst ++ (bucket :: buckets goal.bufferSize rest ++ lost))
    {sequence : PageSequence} {closed : Bool} {page? : Except TransportError (Option Page)}
    {next : BoundJoin} {y? : Option Signal}
    (h : j.takePage { ((Round.start goal bucket).absorbAll pages).2 with pages := sequence }
      closed page? = (next, y?)) :
    Stage.handedOn y? = [] ∧ next.goal = goal ∧ Progress goal U rest W next := by
  have hover : yields goal (rounds ++ [(bucket, pages)]) =
      W ++ if goal.optional then
        ((Round.start goal bucket).absorbAll pages).2.table.unobserved else [] := by
    rw [yields_snoc, Round.yield, ← List.append_assoc, ← given]
  have hcut : buckets goal.bufferSize U =
      (rounds ++ [(bucket, pages)]).map Prod.fst ++ (buckets goal.bufferSize rest ++ lost) := by
    rw [cut]
    simp
  cases page? with
  | error e =>
    obtain ⟨rfl, rfl⟩ := Prod.mk.inj h
    exact ⟨rfl, htold, .reading rounds lost bucket pages sequence rfl working empty
      (by simpa [hp] using given) cut⟩
  | ok page? =>
    cases closed with
    | true =>
      obtain ⟨rfl, rfl⟩ := Prod.mk.inj h
      exact ⟨rfl, htold, .ended _ rfl rfl rfl (hover ▸ List.prefix_append _ _)
        (hcut ▸ List.prefix_append _ _)⟩
    | false =>
      cases page? with
      | none =>
        -- The round is over.
        obtain ⟨rfl, rfl⟩ := Prod.mk.inj h
        refine ⟨rfl, htold, .filling (rounds ++ [(bucket, pages)]) lost rfl working
          (by simpa [empty] using hK) ?_ ?_⟩
        · rw [hover, hp, htold]
          rfl
        · rw [hcut, empty]
          rfl
      | some page =>
        obtain ⟨hrows, -⟩ := absorb_start goal bucket pages sequence page
        have hround : (Round.absorb { ((Round.start goal bucket).absorbAll pages).2 with
            pages := sequence } page).2 =
              { ((Round.start goal bucket).absorbAll (pages ++ [page])).2 with
                pages := sequence } := by
          rw [Round.absorbAll_append]
          simp only [Round.absorbAll, Round.absorb_eq]
          rfl
        rw [takePage] at h
        simp only [Bool.false_eq_true, if_false] at h
        obtain ⟨rfl, rfl⟩ := Prod.mk.inj h
        refine ⟨rfl, htold, .reading rounds lost bucket (pages ++ [page]) sequence
          (congrArg some hround) working empty ?_ cut⟩
        rw [given, List.append_assoc, ← hrows, hp, List.nil_append]

/-- A step of a bound join on its own. -/
theorem Progress.act (hK : 0 < goal.bufferSize) (htold : j.goal = goal)
    (h : Progress goal U rest W j) (net : Network σ) (s : Session σ) :
    (j.advance net s).1.1.goal = goal ∧
      Progress goal U rest (W ++ Stage.handedOn (j.advance net s).1.2) (j.advance net s).1.1 := by
  cases hp : j.pending with
  | cons r pending =>
    rw [advance_of_pending hp]
    exact ⟨htold, h.give hp⟩
  | nil =>
    -- With nothing to hand on, what the step does depends on the phase.
    cases h with
    | filling rounds lost idle working small given cut =>
      rw [advance_of_idle hp working idle]
      rw [hp, List.append_nil] at given
      refine ⟨htold, .ended rounds idle rfl hp ?_ (cut ▸ List.prefix_append _ _)⟩
      simp [Stage.handedOn, given]
    | reading rounds lost bucket pages sequence round working empty given cut =>
      rw [hp, List.append_nil] at given
      have hadvance : ∃ sequence' closed page?, (j.advance net s).1 =
          j.takePage { ((Round.start goal bucket).absorbAll pages).2 with pages := sequence' }
            closed page? := by
        simp only [advance, hp, working, round, Bool.false_eq_true, if_false]
        exact ⟨_, _, _, rfl⟩
      obtain ⟨sequence', closed, page?, hadvance⟩ := hadvance
      obtain ⟨hnone, htold', hprogress⟩ :=
        Progress.page hK htold hp working empty given cut hadvance.symm
      rw [hnone, List.append_nil]
      exact ⟨htold', hprogress⟩
    | ended rounds idle finished drained given cut =>
      rw [advance_of_finished hp finished]
      refine ⟨htold, .ended rounds idle finished drained ?_ cut⟩
      simpa [Stage.handedOn] using given

/-- A step of a bound join below a list of rows. -/
theorem Progress.step (hK : 0 < goal.bufferSize) (htold : j.goal = goal)
    (h : Progress goal U rest W j) {ending : Ending} {y? : Option Signal} {st' : Stage}
    {s' : Session σ}
    (hstep : (Stage.chain (.source rest ending) (.remote j)).step net now none s =
      ((st', y?), s')) :
    ∃ rest' j', st' = .chain (.source rest' ending) (.remote j') ∧ j'.goal = goal ∧
      Progress goal U rest' (W ++ Stage.handedOn y?) j' := by
  cases hwants : j.wants with
  | false =>
    have hlower : (Stage.remote j).wants = false := hwants
    rw [Stage.step_chain_of_not_wants hlower, step_none] at hstep
    obtain ⟨⟨rfl, rfl⟩, rfl⟩ := (Prod.mk.inj hstep).imp_left Prod.mk.inj
    obtain ⟨htold', hprogress⟩ := h.act hK htold net s
    exact ⟨rest, _, rfl, htold', hprogress⟩
  | true =>
    have hlower : (Stage.remote j).wants = true := hwants
    -- What comes from above is taken in, and nothing but a failure is handed on.
    have haccept : ∀ (rest' : List Row) (x : Signal),
        (Stage.source rest ending).step net now none s = ((.source rest' ending, some x), s) →
        (j.accept x).1.goal = goal →
        Stage.handedOn (j.accept x).2 = [] → Progress goal U rest' W (j.accept x).1 →
        ∃ rest' j', st' = .chain (.source rest' ending) (.remote j') ∧ j'.goal = goal ∧
          Progress goal U rest' (W ++ Stage.handedOn y?) j' := by
      intro rest' x hsource htold' hnone hprogress
      rw [Stage.step_chain_of_some hlower hsource, step_some] at hstep
      obtain ⟨⟨rfl, rfl⟩, rfl⟩ := (Prod.mk.inj hstep).imp_left Prod.mk.inj
      exact ⟨rest', _, rfl, htold', by rwa [hnone, List.append_nil]⟩
    cases rest with
    | cons r rest =>
      obtain ⟨hnone, htold', hprogress⟩ := h.take hK htold hwants
      exact haccept rest (.row r) rfl htold' (by rw [hnone]; rfl) hprogress
    | nil =>
      cases ending with
      | done =>
        obtain ⟨hnone, htold', hprogress⟩ := h.close htold hwants
        exact haccept [] .done rfl htold' (by rw [hnone]; rfl) hprogress
      | failed e =>
        obtain ⟨hnone, htold', hprogress⟩ := h.fail htold hwants e
        exact haccept [] (.fail e) rfl htold' (by rw [hnone]; rfl) hprogress

/-- A bound join keeps its way of working over a whole run. -/
theorem progress_of_emits {ending : Ending} {st' : Stage}
    (h : Stage.Emits net now (.chain (.source U ending) (.remote (.ofPattern goal))) W st') :
    ∃ rest j, st' = .chain (.source rest ending) (.remote j) ∧
      j.goal = { goal with bufferSize := max goal.bufferSize 1 } ∧
      Progress { goal with bufferSize := max goal.bufferSize 1 } U rest W j := by
  have hK : 0 < max goal.bufferSize 1 := Nat.lt_of_lt_of_le Nat.one_pos (Nat.le_max_right _ _)
  induction h with
  | start =>
    exact ⟨U, .ofPattern goal, rfl, rfl, .filling [] [] rfl rfl hK rfl (by simp [ofPattern])⟩
  | step before hstep ih =>
    obtain ⟨rest, j, rfl, htold, hprogress⟩ := ih
    have hwants : (Stage.chain (.source rest ending) (.remote j)).wants = false := by
      simp [Stage.wants]
    simp only [hwants, Bool.false_eq_true, if_false] at hstep
    exact hprogress.step hK htold hstep

/-- The first rows of several lists are first rows of each. -/
theorem exists_parts {α β : Type} {f : α → List β} {l : List α} {W : List β}
    (h : W <+: l.flatMap f) : ∃ parts : List (α × List β),
      parts.map Prod.fst = l ∧ parts.flatMap Prod.snd = W ∧ ∀ p ∈ parts, p.2 <+: f p.1 := by
  induction l generalizing W with
  | nil =>
    obtain rfl := List.prefix_nil.1 h
    exact ⟨[], rfl, rfl, by simp⟩
  | cons a l ih =>
    rw [List.flatMap_cons] at h
    obtain ⟨after, h⟩ := h
    rcases List.append_eq_append_iff.1 h with ⟨more, ha, -⟩ | ⟨W', rfl, hl⟩
    · -- The first list is not over.
      obtain ⟨parts, hl, hW, hparts⟩ := ih List.nil_prefix
      exact ⟨(a, W) :: parts, by simp [hl], by simp [hW], by simpa [ha] using hparts⟩
    · obtain ⟨parts, hl, hW, hparts⟩ := ih ⟨after, hl.symm⟩
      exact ⟨(a, f a) :: parts, by simp [hl], by simp [hW], by simpa using hparts⟩

open scoped Classical in
/-- **An endpoint cannot change what rows bind.** Whatever an endpoint answers, the rows that a
bound join hands on come from rounds for the first buckets, in order, and all rows of a round,
unless it is that of the one empty row, are extensions of rows of its bucket by variables of the
pattern. If the next page of a round has solutions that tell no row, they contribute nothing: the
round takes in the other solutions of the page. Such a page is not read by its numbers, which a
first page is if all of its solutions are empty: the other solutions, if they are empty and there
are several rows, tell no row then. -/
theorem emits_extensions {ending : Ending} {st' : Stage}
    (h : Stage.Emits net now (.chain (.source U ending) (.remote (.ofPattern goal))) W st') :
    (∃ rounds : List (List Row × List Row),
      rounds.map Prod.fst <+: buckets goal.bufferSize U ∧ W = rounds.flatMap Prod.snd ∧
        ∀ r ∈ rounds, r.1 ≠ [.empty] →
          ∀ w ∈ r.2, ∃ u ∈ r.1, Bgp.Extension goal.triples u w) ∧
      ∀ rest j round, st' = .chain (.source rest ending) (.remote j) → j.round? = some round →
        round.table.rows ≠ [.empty] → ∀ page,
          (∃ m ∈ page.rows, Round.Stray goal.triples round.table.rows m) →
          let others := page.rows.filter fun m => ¬Round.Stray goal.triples round.table.rows m
          round.absorb page = ((Round.absorbRows round.table others).1,
            { round with table := (Round.absorbRows round.table others).2, fresh := false }) := by
  obtain ⟨rest, j, rfl, -, hprogress⟩ := progress_of_emits h
  constructor
  · obtain ⟨rounds, hbuckets, hgiven⟩ := hprogress.given
    rw [buckets_max_one] at hbuckets
    obtain ⟨parts, hrounds, hW, hparts⟩ := exists_parts hgiven
    refine ⟨parts.map fun p => (p.1.1, p.2), ?_, ?_, ?_⟩
    · rw [List.map_map]
      rw [← hrounds, List.map_map] at hbuckets
      exact hbuckets
    · rw [List.flatMap_map, ← hW]
    · rintro r hr hseed w hw
      obtain ⟨p, hp, rfl⟩ := List.mem_map.1 hr
      exact Round.extension_of_mem_yield hseed ((hparts p hp).subset hw)
  · rintro rest' j' round heq hround hseed page hstray
    obtain ⟨-, rfl⟩ : rest = rest' ∧ j = j' := by simpa using heq
    obtain ⟨bucket, pages, htable⟩ := hprogress.table_eq hround
    rw [(Round.absorbAll_eq _ pages).2] at htable
    obtain rfl : round.table.rows = bucket := by
      rw [htable, RoundTable.rows_observeAll, Round.rows_start]
    have hextend := congrArg RoundTable.extend? htable
    rw [RoundTable.extend?_observeAll, Round.table_start hseed] at hextend
    exact Round.absorb_of_stray hextend hstray

end BoundJoin

namespace Sample

/-- A row for another subject. -/
def half' : Row := .ofList [(⟨"x"⟩, .iri "http://example.org/b")]

/-- The row that the pattern extends it to. -/
def extended' : Row := half'.insert ⟨"y"⟩ resource

/-- An answer in two pages, each with a solution for one of two rows. Beside them are solutions for
both rows at once, under a name that nobody asked for, and one that would change what the second row
binds. -/
def strayReply (_ : String) (request : Request) : Response :=
  let c : Json := .str "http://example.org/c"
  if request.token? = none then
    ⟨[.obj [("y_0", c)], .obj [("y_0", c), ("y_1", c)], .obj [("x_1", c)]], some "1", true, none⟩
  else ⟨[.obj [("y_0", c), ("y_1", c)], .obj [("z", c)], .obj [("y_1", c)]], none, false, none⟩

/-- The solutions of the second page: for both rows, under an unknown name, and for the second
row. -/
def strayPage : Page :=
  ⟨[.ofList [(⟨"y_0"⟩, resource), (⟨"y_1"⟩, resource)], .ofList [(⟨"z"⟩, resource)],
    .ofList [(⟨"y_1"⟩, resource)]], none, false, []⟩

/-- A join that has read the first page, and has handed on the row that it extends. The second page
comes next. -/
theorem emits_begun : ∃ rest j round,
    Stage.Emits (.ofReplies strayReply) now
      (.chain (.source [half, half'] .done) (.remote (.ofPattern (goal 2)))) [extended]
      (.chain (.source rest .done) (.remote j)) ∧
    j.round? = some round ∧
    round.table = (RoundTable.build triples [half, half']).observe 0 ∧
    (round.pages.next (.ofReplies strayReply) session).1 = .ok (some strayPage) :=
  ⟨_, _, _, Stage.Emits.start.pull (n := 5) (s := session) rfl, rfl, rfl, rfl⟩

/-- A run over both pages. -/
theorem emits_stray : ∃ st', Stage.Emits (.ofReplies strayReply) now
    (.chain (.source [half, half'] .done) (.remote (.ofPattern (goal 2)))) [extended, extended']
    st' :=
  ⟨_, (Stage.Emits.start.pull (n := 5) (s := session) rfl).pull (n := 5) (s := session) rfl⟩

/-- The new names for the two rows. -/
theorem isNew_halves {key : Nat} {w : Variable} :
    RoundTable.IsNew triples [half, half'] key w ↔
      w = ⟨"y_0"⟩ ∧ key = 0 ∨ w = ⟨"y_1"⟩ ∧ key = 1 := by
  have hnames : RoundTable.renamesOfAll triples [half, half'] =
      [(⟨"y_0"⟩, 0, ⟨"y"⟩), (⟨"y_1"⟩, 1, ⟨"y"⟩)] := rfl
  constructor
  · rintro ⟨u, x, hu, hx, rfl⟩
    have hmem : (RoundTable.suffixed x key, key, x) ∈
        RoundTable.renamesOfAll triples [half, half'] :=
      RoundTable.mem_renamesOfAll.2 ⟨u, hu, hx, rfl⟩
    rw [hnames] at hmem
    rcases List.mem_pair.1 hmem with h | h
    · exact .inl ⟨congrArg Prod.fst h, congrArg (·.2.1) h⟩
    · exact .inr ⟨congrArg Prod.fst h, congrArg (·.2.1) h⟩
  · rintro (⟨rfl, rfl⟩ | ⟨rfl, rfl⟩)
    · exact ⟨half, ⟨"y"⟩, rfl, by decide, rfl⟩
    · exact ⟨half', ⟨"y"⟩, rfl, by decide, rfl⟩

/-- A solution for both rows at once. -/
theorem stray_both : Round.Stray triples [half, half']
    (.ofList [(⟨"y_0"⟩, resource), (⟨"y_1"⟩, resource)]) :=
  .mixed ⟨"y_0"⟩ ⟨"y_1"⟩ rfl rfl 0 1 (isNew_halves.2 (.inl ⟨rfl, rfl⟩))
    (isNew_halves.2 (.inr ⟨rfl, rfl⟩)) (by decide)

/-- A solution under a name that nobody asked for. -/
theorem stray_unknown : Round.Stray triples [half, half'] (.ofList [(⟨"z"⟩, resource)]) :=
  .unknown ⟨"z"⟩ rfl fun key h => by simp [isNew_halves] at h

/-- A solution for the second row tells it. -/
theorem not_stray : ¬Round.Stray triples [half, half'] (.ofList [(⟨"y_1"⟩, resource)]) := by
  intro (h : Round.Stray (goal 2).triples _ _)
  exact absurd h.extend?_eq_none (by decide)

end Sample

namespace BoundJoin

/-- Two rows are handed on, each an extension of a row of the only bucket. Of the second page, which
has two solutions that tell no row, the round takes in the third solution alone. -/
theorem emits_extensions_sample :
    (∃ rounds : List (List Row × List Row),
      rounds.map Prod.fst <+: buckets 2 [Sample.half, Sample.half'] ∧
        [Sample.extended, Sample.extended'] = rounds.flatMap Prod.snd ∧
        ∀ r ∈ rounds, r.1 ≠ [.empty] →
          ∀ w ∈ r.2, ∃ u ∈ r.1, Bgp.Extension Sample.triples u w) ∧
      ∃ j round, j.round? = some round ∧
        (∃ rest, Stage.Emits (.ofReplies Sample.strayReply) Sample.now
          (.chain (.source [Sample.half, Sample.half'] .done)
            (.remote (.ofPattern (Sample.goal 2))))
          [Sample.extended] (.chain (.source rest .done) (.remote j))) ∧
        (round.pages.next (.ofReplies Sample.strayReply) Sample.session).1 =
          .ok (some Sample.strayPage) ∧
        round.absorb Sample.strayPage =
          ([Sample.extended'], { round with table := round.table.observe 1, fresh := false }) := by
  classical
  obtain ⟨st', h⟩ := Sample.emits_stray
  refine ⟨(emits_extensions h).1, ?_⟩
  obtain ⟨rest, j, round, hbegun, hround, htable, hpage⟩ := Sample.emits_begun
  have hrows : round.table.rows = [Sample.half, Sample.half'] := by rw [htable]; rfl
  have habsorb := (emits_extensions hbegun).2 rest j round rfl hround (by rw [hrows]; decide)
    Sample.strayPage ⟨_, List.mem_cons_self, hrows ▸ Sample.stray_both⟩
  -- Of the second page only the solution for the second row is left.
  have hothers : Sample.strayPage.rows.filter
      (fun m => ¬Round.Stray Sample.triples round.table.rows m) =
        [.ofList [(⟨"y_1"⟩, Sample.resource)]] := by
    rw [hrows]
    simp [Sample.strayPage, Sample.stray_both, Sample.stray_unknown, Sample.not_stray]
  have htaken : Round.absorbRows round.table [.ofList [(⟨"y_1"⟩, Sample.resource)]] =
      ([Sample.extended'], round.table.observe 1) := by
    rw [htable]
    rfl
  refine ⟨j, round, hround, ⟨rest, hbegun⟩, hpage, habsorb.trans ?_⟩
  rw [show (Sample.goal 2).triples = Sample.triples from rfl, hothers, htaken]

end BoundJoin

end PagedSparql
