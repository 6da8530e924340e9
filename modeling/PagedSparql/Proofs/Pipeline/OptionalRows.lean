import PagedSparql.Proofs.Pipeline.BoundJoinLaw
import PagedSparql.Proofs.Pipeline.Optional

/-!
# Left outer joins lose and repeat nothing

An optional stage makes a left outer join of whatever stage it is put around. The rows that come in
get numbers, and if the inner stage, on rows under these numbers, hands on rows each of which
carries the number of a row that it has taken in by then (`Optional.Delivers`), then the optional
stage hands on the same rows without the numbers, and after them, once and in order, the rows whose
numbers did not come out (`Optional.collects_numbered`).

The inner stage may be any stage: the argument is that every step of the optional stage is one of
the inner stage below the numbered rows (`Optional.step_source`), so that a pull of the one is a
pull of the other.
-/

namespace PagedSparql

namespace Optional

section Rows

variable {σ : Type} {net : Network σ} {now : DateTime} {tag : Variable} {U V : List Row}

/-- What an inner stage hands on below numbered rows: it is done in the end, after it has taken in
all of them, and every row that it hands on carries the number of a row that it has taken in by
then. There are `total` rows, and `rest` are those that it has still to take in. -/
inductive Delivers (net : Network σ) (now : DateTime) (tag : Variable) (total : Nat) :
    List Row → Stage → Session σ → List Row → Session σ → Prop
  /-- All rows were taken in, and nothing follows. -/
  | done {n : Nat} {rest : List Row} {inner inner' : Stage} {s s' : Session σ}
    (h : (Stage.chain (.source rest .done) inner).pull net now n s =
      (some .done, .chain (.source [] .done) inner', s')) :
    Delivers net now tag total rest inner s [] s'
  /-- A row follows, and carries a number. -/
  | row {n i : Nat} {rest rest' V : List Row} {inner inner' : Stage} {s s' s'' : Session σ}
    {v : Row}
    (h : (Stage.chain (.source rest .done) inner).pull net now n s =
      (some (.row v), .chain (.source rest' .done) inner', s'))
    (carries : Stage.tagOf? tag v = some (i : Int)) (taken : i + rest'.length < total)
    (more : Delivers net now tag total rest' inner' s' V s'') :
    Delivers net now tag total rest inner s (v :: V) s''

/-- The numbered rows that follow on the first ones. -/
theorem drop_numbered (tag : Variable) (U : List Row) {k : Nat} {r : Row} {rest : List Row}
    (h : U.drop k = r :: rest) : (numbered tag U).drop k =
      number tag (r, k) :: (numbered tag U).drop (k + 1) ∧ rest = U.drop (k + 1) ∧
        U.take (k + 1) = U.take k ++ [r] ∧ k < U.length := by
  have hk : k < U.length := by
    by_contra hge
    rw [List.drop_of_length_le (Nat.le_of_not_lt hge)] at h
    exact absurd h (by simp)
  rw [List.drop_eq_getElem_cons hk] at h
  obtain ⟨rfl, rfl⟩ := List.cons.inj h
  refine ⟨?_, rfl, ?_, hk⟩
  · have hk' : k < (numbered tag U).length := by simpa [numbered] using hk
    rw [List.drop_eq_getElem_cons hk']
    simp [numbered]
  · rw [List.take_add_one, List.getElem?_eq_getElem hk]
    rfl

/-- No row has come out under a number that was not yet given. -/
def Below (tag : Variable) (k : Nat) (V : List Row) : Prop :=
  ∀ v ∈ V, ∀ j, k ≤ j → Stage.tagOf? tag v ≠ some (j : Int)

/-- A later number is given. -/
theorem Below.mono {k l : Nat} (h : Below tag k V) (hle : k ≤ l) : Below tag l V :=
  fun v hv j hj => h v hv j (Nat.le_trans hle hj)

/-- A step of an optional stage below a list of rows, after `k` of them, is one of its inner stage
below the numbered rows. -/
theorem step_source (net : Network σ) (now : DateTime) (inner : Stage) {k : Nat}
    (hk : k ≤ U.length) (hV : Below tag k V) (s : Session σ) :
    ∃ k' out s', k ≤ k' ∧ k' ≤ U.length ∧
      (Stage.chain (.source ((numbered tag U).drop k) .done) inner).step net now none s =
        ((.chain (.source ((numbered tag U).drop k') .done) out.1, out.2), s') ∧
      (Stage.chain (.source (U.drop k) .done)
          (.optional tag inner k (unmatched tag (U.take k) V) none)).step net now none s =
        ((.chain (.source (U.drop k') .done) (after tag k' (unmatched tag (U.take k') V) out).1,
          (after tag k' (unmatched tag (U.take k') V) out).2), s') := by
  cases hwants : inner.wants with
  | false =>
    -- The inner stage makes a step of its own.
    have hwants' :
        (Stage.optional tag inner k (unmatched tag (U.take k) V) none).wants = false := by
      simp [Stage.wants, hwants]
    refine ⟨k, (inner.step net now none s).1, (inner.step net now none s).2, Nat.le_refl k, hk,
      Stage.step_chain_of_not_wants hwants none s, ?_⟩
    rw [Stage.step_chain_of_not_wants hwants' none s, step_optional _ _ _ _ _ (by simp)]
  | true =>
    have hwants' :
        (Stage.optional tag inner k (unmatched tag (U.take k) V) none).wants = true := by
      simp [Stage.wants, hwants]
    cases hrest : U.drop k with
    | nil =>
      -- All rows have come in.
      have hrest' : (numbered tag U).drop k = [] := by
        rw [List.drop_eq_nil_iff] at hrest ⊢
        simpa [numbered] using hrest
      have hsource : (Stage.source [] .done).step net now none s =
          ((.source [] .done, some .done), s) := rfl
      refine ⟨k, (inner.step net now (some .done) s).1, (inner.step net now (some .done) s).2,
        Nat.le_refl k, hk, ?_, ?_⟩
      · rw [hrest', Stage.step_chain_of_some hwants hsource]
      · rw [Stage.step_chain_of_some hwants' hsource, step_optional _ _ _ _ _ (by simp), hrest]
    | cons r rest =>
      -- The next row comes in under its number.
      obtain ⟨hnumbered, rfl, htake, hlt⟩ := drop_numbered tag U hrest
      have hsource : ∀ (r : Row) (rest : List Row),
          (Stage.source (r :: rest) .done).step net now none s =
            ((.source rest .done, some (.row r)), s) := fun _ _ => rfl
      have hlength : (U.take k).length = k := by rw [List.length_take, Nat.min_eq_left hk]
      have hsnoc : unmatched tag (U.take (k + 1)) V =
          unmatched tag (U.take k) V ++ [((k : Int), r)] := by
        have hfree : ∀ v ∈ V, Stage.tagOf? tag v ≠ some (((U.take k).length : Nat) : Int) := by
          rw [hlength]
          exact fun v hv => hV v hv k (Nat.le_refl k)
        rw [htake, unmatched_snoc tag r hfree, hlength]
      refine ⟨k + 1, (inner.step net now (some (.row (number tag (r, k)))) s).1,
        (inner.step net now (some (.row (number tag (r, k)))) s).2, Nat.le_succ k, hlt, ?_, ?_⟩
      · rw [hnumbered, Stage.step_chain_of_some hwants (hsource _ _)]
      · rw [Stage.step_chain_of_some hwants' (hsource _ _), step_optional_row, hsnoc]

variable {inner : Stage} {k : Nat} {s s' : Session σ}

/-- A pipeline below a list of rows wants nothing from above. -/
theorem wants_below (rest : List Row) (lower : Stage) :
    (Stage.chain (.source rest .done) lower).wants = false := by
  simp [Stage.wants]

/-- A pull that brings a row from the inner stage brings it without its number. -/
theorem pull_row {n : Nat} {v : Row} {st' : Stage} (hk : k ≤ U.length) (hV : Below tag k V)
    (h : (Stage.chain (.source ((numbered tag U).drop k) .done) inner).pull net now n s =
      (some (.row v), st', s')) :
    ∃ k' inner', k ≤ k' ∧ k' ≤ U.length ∧
      st' = .chain (.source ((numbered tag U).drop k') .done) inner' ∧
      (Stage.chain (.source (U.drop k) .done)
          (.optional tag inner k (unmatched tag (U.take k) V) none)).pull net now n s =
        (some (.row (Row.without v [tag])), .chain (.source (U.drop k') .done)
          (.optional tag inner' k' (unmatched tag (U.take k') (V ++ [v])) none), s') := by
  induction n generalizing k inner s with
  | zero => exact absurd h (by simp [Stage.pull])
  | succ n ih =>
    -- Both pipelines make the same step, in one of them over rows with numbers.
    obtain ⟨k₁, ⟨inner₁, y?⟩, s₁, hle, hk₁, hinner, houter⟩ :=
      step_source net now inner hk hV s
    cases y? with
    | none =>
      rw [Stage.pull_succ_of_none (wants_below _ _) hinner] at h
      obtain ⟨k', inner', hle', hk', hst', hpull⟩ := ih hk₁ (hV.mono hle) h
      refine ⟨k', inner', Nat.le_trans hle hle', hk', hst', ?_⟩
      rw [Stage.pull_succ_of_none (wants_below _ _) houter]
      exact hpull
    | some y =>
      obtain ⟨rfl, rfl, rfl⟩ :=
        Stage.pull_unique (Stage.pull_one_of_some (wants_below _ _) hinner) h
      refine ⟨k₁, inner₁, hle, hk₁, rfl, ?_⟩
      rw [after, untag_eq] at houter
      exact Stage.pull_of_le (Stage.pull_one_of_some (wants_below _ _) houter)
        (Nat.succ_le_succ (Nat.zero_le n))

/-- The rows that wait are handed on. -/
theorem collects_following (net : Network σ) (now : DateTime) (rest : List Row) (inner : Stage)
    (next : Nat) (rows : List Row) (s : Session σ) :
    Stage.Collects net now (.chain (.source rest .done) (.optional tag inner next [] (some rows))) s
      rows (.chain (.source rest .done) (.optional tag inner next [] (some []))) s := by
  have hwants : ∀ rows, (Stage.optional tag inner next [] (some rows)).wants = false := fun _ => rfl
  induction rows with
  | nil =>
    refine .done (Stage.pull_one_of_some (wants_below _ _) ?_)
    rw [Stage.step_chain_of_not_wants (hwants []) none s]
    rfl
  | cons r rows ih =>
    refine .row (Stage.pull_one_of_some (wants_below _ _) ?_) ih
    rw [Stage.step_chain_of_not_wants (hwants (r :: rows)) none s]
    rfl

/-- After a pull that finds the inner stage done, the rows that are unmatched follow. -/
theorem pull_done {n : Nat} {st' : Stage} (hk : k ≤ U.length) (hV : Below tag k V)
    (h : (Stage.chain (.source ((numbered tag U).drop k) .done) inner).pull net now n s =
      (some .done, st', s')) :
    ∃ k' inner' st'', k' ≤ U.length ∧
      st' = .chain (.source ((numbered tag U).drop k') .done) inner' ∧
      Stage.Collects net now (.chain (.source (U.drop k) .done)
        (.optional tag inner k (unmatched tag (U.take k) V) none)) s
        ((unmatched tag (U.take k') V).map Prod.snd) st'' s' := by
  induction n generalizing k inner s with
  | zero => exact absurd h (by simp [Stage.pull])
  | succ n ih =>
    obtain ⟨k₁, ⟨inner₁, y?⟩, s₁, hle, hk₁, hinner, houter⟩ :=
      step_source net now inner hk hV s
    cases y? with
    | none =>
      rw [Stage.pull_succ_of_none (wants_below _ _) hinner] at h
      obtain ⟨k', inner', st'', hk', hst', hcollects⟩ := ih hk₁ (hV.mono hle) h
      exact ⟨k', inner', st'', hk', hst', .of_step (wants_below _ _) houter hcollects⟩
    | some y =>
      obtain ⟨rfl, rfl, rfl⟩ :=
        Stage.pull_unique (Stage.pull_one_of_some (wants_below _ _) hinner) h
      exact ⟨k₁, inner₁, _, hk₁, rfl,
        .of_step (wants_below _ _) houter (collects_following _ _ _ _ _ _ _)⟩

/-- What an optional stage hands on after the first `k` rows, if its inner stage has handed on the
rows `V` before. -/
theorem collects_of_delivers {rest W : List Row}
    (h : Delivers net now tag U.length rest inner s W s') (hk : k ≤ U.length)
    (hrest : rest = (numbered tag U).drop k) (hV : Below tag k V) :
    ∃ st', Stage.Collects net now (.chain (.source (U.drop k) .done)
      (.optional tag inner k (unmatched tag (U.take k) V) none)) s
      (W.map (Row.without · [tag]) ++ (unmatched tag U (V ++ W)).map Prod.snd) st' s' := by
  induction h generalizing k V with
  | done h =>
    subst hrest
    obtain ⟨k', inner', st'', hk', hst', hcollects⟩ := pull_done hk hV h
    -- All rows were taken in.
    have hnil : (numbered tag U).drop k' = [] := by
      injection hst' with hsource
      injection hsource with hrows
      exact hrows.symm
    have hall : U.take k' = U := by
      rw [List.drop_eq_nil_iff] at hnil
      exact List.take_of_length_le (by simpa [numbered] using hnil)
    rw [hall] at hcollects
    exact ⟨st'', by simpa using hcollects⟩
  | @row n i rest rest' W inner inner' s s₁ s' v h carries taken more ih =>
    subst hrest
    obtain ⟨k', inner'', hle, hk', hst', hpull⟩ := pull_row hk hV h
    injection hst' with hsource hinner
    injection hsource with hrows
    subst hinner hrows
    -- The number of the row was given before.
    have hi : i < k' := by
      simp only [List.length_drop, numbered, List.length_map, List.length_zipIdx] at taken
      omega
    have hV' : Below tag k' (V ++ [v]) := by
      intro w hw j hj
      rcases List.mem_append.1 hw with hw | hw
      · exact hV.mono hle w hw j hj
      · obtain rfl := List.mem_singleton.1 hw
        rw [carries]
        simp only [ne_eq, Option.some.injEq]
        omega
    obtain ⟨st', hcollects⟩ := ih hk' rfl hV'
    refine ⟨st', .row hpull ?_⟩
    simpa using hcollects

/-- **Left outer joins lose and repeat nothing.** An optional stage below a list of rows hands on
what its inner stage hands on below the numbered rows, in the same order and without the numbers,
and after that, each once, unchanged and in order, the rows whose numbers did not come out. -/
theorem collects_numbered (h : Delivers net now tag U.length (numbered tag U) inner s V s') :
    (∃ st', Stage.Collects net now (.chain (.source U .done) (.optional tag inner 0 [] none)) s
      (V.map (Row.without · [tag]) ++ (unmatched tag U V).map Prod.snd) st' s') ∧
      ∀ (i : Nat) u, U[i]? = some u →
        (((i : Int), u) ∈ unmatched tag U V ↔ ∀ v ∈ V, Stage.tagOf? tag v ≠ some (i : Int)) := by
  constructor
  · have hfirst : unmatched tag (U.take 0) [] = [] := rfl
    have hbelow : Below tag 0 [] := fun v hv => absurd hv List.not_mem_nil
    obtain ⟨st', hcollects⟩ := collects_of_delivers h (Nat.zero_le _) rfl hbelow
    rw [hfirst] at hcollects
    exact ⟨st', hcollects⟩
  · intro i u hu
    have hin : ((i : Int), u) ∈ U.zipIdx.map fun e => ((e.2 : Int), e.1) :=
      List.mem_map.2 ⟨(u, i), List.mem_zipIdx_iff_getElem?.2 hu, rfl⟩
    simp [unmatched, List.mem_filter, hin]

end Rows

/-! ## A sample

A union of two joins with one row each, so that rows come out in another order than they came in. -/

namespace Sample

/-- The variable of the numbers. -/
def tag : Variable := ⟨"__v0"⟩

/-- A row with a subject. -/
def subject (s : String) : Row := .ofList [(⟨"s"⟩, .string s)]

/-- A row with a subject and an object. -/
def pair (s o : String) : Row := .ofList [(⟨"s"⟩, .string s), (⟨"o"⟩, .string o)]

/-- The rows that come in; the first and the third one are equal. -/
def rows : List Row := [subject "a", subject "b", subject "a", subject "c"]

/-- The inner stage. -/
def inner : Stage := .fork (.ofReaders 2) 0 [.values (pair "b" "2"), .values (pair "a" "1")]

/-- An endpoint that nobody asks. -/
def net : Network Unit := .ofReplies fun _ _ => ⟨[], none, false, none⟩

/-- The rows that the inner stage hands on. -/
def extended : List Row :=
  [number tag (pair "b" "2", 1), number tag (pair "a" "1", 0), number tag (pair "a" "1", 2)]

/-- The inner stage hands on rows with the numbers of rows that it has taken in. -/
theorem delivers : Delivers net PagedSparql.Sample.now tag rows.length (numbered tag rows) inner
    PagedSparql.Sample.session extended PagedSparql.Sample.session :=
  .row (n := 20) (i := 1) rfl rfl (by decide) <| .row (n := 20) (i := 0) rfl rfl (by decide) <|
    .row (n := 20) (i := 2) rfl rfl (by decide) <| .done (n := 20) rfl

end Sample

/-- Both rows that are equal are extended, each once, and the last row follows unchanged. -/
theorem collects_numbered_sample :
    Delivers Sample.net PagedSparql.Sample.now Sample.tag Sample.rows.length
        (numbered Sample.tag Sample.rows) Sample.inner PagedSparql.Sample.session Sample.extended
        PagedSparql.Sample.session ∧
      ∃ st', Stage.Collects Sample.net PagedSparql.Sample.now
        (.chain (.source Sample.rows .done) (.optional Sample.tag Sample.inner 0 [] none))
        PagedSparql.Sample.session
        [Sample.pair "b" "2", Sample.pair "a" "1", Sample.pair "a" "1", Sample.subject "c"] st'
        PagedSparql.Sample.session :=
  ⟨Sample.delivers, (collects_numbered Sample.delivers).1⟩

end Optional

end PagedSparql
