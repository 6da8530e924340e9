import PagedSparql.Pipeline.Stage
import PagedSparql.Proofs.Protocol.Answers

/-!
# Contracts of stages

A stage is put among others and shares its session with them, so what it does is said step by step:
a contract relates what a stage has handed on to what came to it, in whatever order the steps of the
other stages come between its own. Their effect on the session is bounded by a relation `rely`, and
its own effect by a relation `guar`.

A contract speaks of an invariant of stage, session and traffic, and each of its clauses is about
one step. That the stage comes to an end is the clause `halts`: on its own it makes finitely many
steps until it is done or wants a row. From the clauses follows what happens to all rows
(`Stage.Contract.collects`): the stage, put under a list of rows, hands on rows as specified, and is
then done.
-/

namespace PagedSparql

variable {σ : Type}

/-- What has passed through a stage. -/
structure Traffic where
  /-- The rows that have come in. -/
  taken : List Row := []
  /-- No more rows come in. -/
  ended : Bool := false
  /-- The rows that were handed on. -/
  given : List Row := []

namespace Traffic

/-- One more row has come in. -/
def take (h : Traffic) (r : Row) : Traffic := { h with taken := h.taken ++ [r] }

/-- The last row has come in. -/
def close (h : Traffic) : Traffic := { h with ended := true }

/-- One more row was handed on. -/
def give (h : Traffic) (r : Row) : Traffic := { h with given := h.given ++ [r] }

/-- Rows that may still come in. -/
def Rest (h : Traffic) (rest : List Row) : Prop := h.ended = true → rest = []

end Traffic

namespace Stage

/-- The stage is done, or wants a row, after finitely many steps of its own; between them the world
may move as `rely` tells. -/
inductive Halts (net : Network σ) (now : DateTime) (rely : σ → σ → Prop) :
    Stage → Session σ → Prop
  | wants {st : Stage} {s : Session σ} (h : st.wants = true) : Halts net now rely st s
  | acts {st : Stage} {s : Session σ} (h : st.wants = false)
    (next : ∀ s', Session.Moves rely s s' → (st.step net now none s').1.2 ≠ some .done →
      Halts net now rely (st.step net now none s').1.1 (st.step net now none s').2) :
    Halts net now rely st s

/-- What a step may come to. If the stage is done, it has met its specification for all rows that
may have come in; only a hasty stage is done before the last row has come in. -/
def Fulfils (inputs : List Row → Prop) (hasty : Prop) (spec : List Row → List Row → Prop)
    (inv : Stage → Traffic → Session σ → Prop) (h : Traffic) (s : Session σ) :
    Stage × Option Signal → Prop
  | (st, none) => inv st h s
  | (st, some (.row r)) => inv st (h.give r) s
  | (_, some .done) => (h.ended = true ∨ hasty) ∧
      ∀ rest, h.Rest rest → inputs (h.taken ++ rest) → spec (h.taken ++ rest) h.given
  | (_, some (.fail _)) => False

/-- A stage that is not done keeps its invariant; it may have handed on a row. -/
theorem Fulfils.keeps {inputs : List Row → Prop} {hasty : Prop} {spec : List Row → List Row → Prop}
    {inv : Stage → Traffic → Session σ → Prop} {h : Traffic} {s : Session σ}
    {out : Stage × Option Signal} (hout : Fulfils inputs hasty spec inv h s out)
    (hne : out.2 ≠ some .done) : ∃ W, inv out.1 ⟨h.taken, h.ended, h.given ++ W⟩ s := by
  obtain ⟨st, x?⟩ := out
  match x?, hout with
  | none, hout => exact ⟨[], by simpa [Fulfils] using hout⟩
  | some (.row r), hout => exact ⟨[r], hout⟩
  | some .done, _ => exact absurd rfl hne

/-- The contract of a stage: `spec` relates the rows that come in to those that it hands on, if the
rows that come in satisfy `inputs`. Only a `hasty` stage may be done before the last row. -/
structure Contract (net : Network σ) (now : DateTime) (rely guar : σ → σ → Prop)
    (inputs : List Row → Prop) (hasty : Prop) (spec : List Row → List Row → Prop)
    (inv : Stage → Traffic → Session σ → Prop) : Prop where
  /-- Other stages do not break the invariant. -/
  stable : ∀ {st h s s'}, inv st h s → Session.Moves rely s s' → inv st h s'
  /-- Nothing is wanted after the last row. -/
  rests : ∀ {st h s}, inv st h s → h.ended = true → st.wants = false
  /-- What a step without a row comes to. -/
  acts : ∀ {st h s}, inv st h s → st.wants = false →
    Session.Moves guar s (st.step net now none s).2 ∧
      Fulfils inputs hasty spec inv h (st.step net now none s).2 (st.step net now none s).1
  /-- What a step with a row comes to. -/
  takes : ∀ {st h s r}, inv st h s → st.wants = true → (∃ rest, inputs (h.taken ++ r :: rest)) →
    Session.Moves guar s (st.step net now (some (.row r)) s).2 ∧
      Fulfils inputs hasty spec inv (h.take r) (st.step net now (some (.row r)) s).2
        (st.step net now (some (.row r)) s).1
  /-- What a step after the last row comes to. -/
  ends : ∀ {st h s}, inv st h s → st.wants = true → inputs h.taken →
    Session.Moves guar s (st.step net now (some .done) s).2 ∧
      Fulfils inputs hasty spec inv h.close (st.step net now (some .done) s).2
        (st.step net now (some .done) s).1
  /-- The stage does not go on for ever on its own. -/
  halts : ∀ {st h s}, inv st h s → Halts net now rely st s

/-- The rows that a pipeline hands on when it is pulled until it is done. -/
inductive Collects (net : Network σ) (now : DateTime) :
    Stage → Session σ → List Row → Stage → Session σ → Prop
  | done {n : Nat} {st st' : Stage} {s s' : Session σ}
    (h : st.pull net now n s = (some .done, st', s')) : Collects net now st s [] st' s'
  | row {n : Nat} {st st' st'' : Stage} {s s' s'' : Session σ} {r : Row} {W : List Row}
    (h : st.pull net now n s = (some (.row r), st', s'))
    (rest : Collects net now st' s' W st'' s'') :
    Collects net now st s (r :: W) st'' s''

variable {net : Network σ} {now : DateTime} {rely guar : σ → σ → Prop}

/-- One more step of a pull. -/
theorem pull_succ_of_none {n : Nat} {st st' : Stage} {s s' : Session σ} (hwants : st.wants = false)
    (h : st.step net now none s = ((st', none), s')) :
    st.pull net now (n + 1) s = st'.pull net now n s' := by
  rw [pull, hwants]
  simp [h]

/-- A pull that ends with its first step. -/
theorem pull_one_of_some {x : Signal} {st st' : Stage} {s s' : Session σ}
    (hwants : st.wants = false) (h : st.step net now none s = ((st', some x), s')) :
    st.pull net now 1 s = (some x, st', s') := by
  rw [pull, hwants]
  simp [h]

/-- A pull that has handed on something may be given more steps. -/
theorem pull_of_le {n m : Nat} {x : Signal} {st st' : Stage} {s s' : Session σ}
    (h : st.pull net now n s = (some x, st', s')) (hle : n ≤ m) :
    st.pull net now m s = (some x, st', s') := by
  induction n generalizing m st s with
  | zero => exact absurd h (by simp [pull])
  | succ n ih =>
    obtain ⟨m, rfl⟩ := Nat.exists_eq_add_of_le hle
    rw [Nat.add_right_comm]
    rw [pull] at h ⊢
    split at h
    · exact h
    · exact ih h (Nat.le_add_right n m)

/-- What a pull hands on does not depend on how many steps it is given. -/
theorem pull_unique {n m : Nat} {x y : Signal} {st st' st'' : Stage} {s s' s'' : Session σ}
    (h : st.pull net now n s = (some x, st', s')) (h' : st.pull net now m s = (some y, st'', s'')) :
    x = y ∧ st' = st'' ∧ s' = s'' := by
  have heq := (pull_of_le h (Nat.le_max_left n m)).symm.trans (pull_of_le h' (Nat.le_max_right n m))
  simpa using heq

/-- What a pipeline hands on is determined by the pipeline and its session. -/
theorem Collects.unique {st st' st'' : Stage} {s s' s'' : Session σ} {W W' : List Row}
    (h : Collects net now st s W st' s') (h' : Collects net now st s W' st'' s'') : W = W' := by
  induction h generalizing W' with
  | done hpull =>
    cases h' with
    | done _ => rfl
    | row hpull' _ => exact absurd (pull_unique hpull hpull').1 (by simp)
  | row hpull _ ih =>
    cases h' with
    | done hpull' => exact absurd (pull_unique hpull hpull').1 (by simp)
    | row hpull' rest' =>
      obtain ⟨hrow, rfl, rfl⟩ := pull_unique hpull hpull'
      rw [Signal.row.inj hrow, ih rest']

/-- A step that hands on nothing changes nothing in what is collected. -/
theorem Collects.of_step {st st' st'' : Stage} {s s' s'' : Session σ} {W : List Row}
    (hwants : st.wants = false) (h : st.step net now none s = ((st', none), s'))
    (hc : Collects net now st' s' W st'' s'') : Collects net now st s W st'' s'' := by
  cases hc with
  | done hpull => exact .done ((pull_succ_of_none hwants h).trans hpull)
  | row hpull rest => exact .row ((pull_succ_of_none hwants h).trans hpull) rest

/-- A stage below another that need not be asked makes a step of its own. -/
theorem step_chain_of_not_wants {upper lower : Stage} (h : lower.wants = false) (x? : Option Signal)
    (s : Session σ) :
    (Stage.chain upper lower).step net now x? s =
      ((.chain upper (lower.step net now none s).1.1, (lower.step net now none s).1.2),
        (lower.step net now none s).2) := by
  rw [step]
  simp [h]

/-- A stage that wants a row gets what the stage above it hands on. -/
theorem step_chain_of_some {upper lower upper' : Stage} {x? : Option Signal} {y : Signal}
    {s s' : Session σ} (h : lower.wants = true)
    (hupper : upper.step net now x? s = ((upper', some y), s')) :
    (Stage.chain upper lower).step net now x? s =
      ((.chain upper' (lower.step net now (some y) s').1.1,
        (lower.step net now (some y) s').1.2), (lower.step net now (some y) s').2) := by
  rw [step]
  simp [h, hupper]

/-- A stage that wants a row waits while the stage above it hands on nothing. -/
theorem step_chain_of_none {upper lower upper' : Stage} {x? : Option Signal} {s s' : Session σ}
    (h : lower.wants = true) (hupper : upper.step net now x? s = ((upper', none), s')) :
    (Stage.chain upper lower).step net now x? s = ((.chain upper' lower, none), s') := by
  rw [step]
  simp [h, hupper]

namespace Contract

variable {U : List Row} {hasty : Prop} {spec : List Row → List Row → Prop}
  {inv : Stage → Traffic → Session σ → Prop}

/-- What is collected from a step on, if it is known what is collected after it. -/
theorem collects_of_fulfils {upper upper' st : Stage} {h : Traffic} {s s' : Session σ}
    {out : Stage × Option Signal} (hwants : (Stage.chain upper st).wants = false)
    (hstep : (Stage.chain upper st).step net now none s = ((.chain upper' out.1, out.2), s'))
    (hout : Fulfils (· = U) hasty spec inv h s' out)
    (hU : ∃ rest, h.Rest rest ∧ h.taken ++ rest = U)
    (next : ∀ h' : Traffic, h'.taken = h.taken → h'.ended = h.ended → inv out.1 h' s' →
      out.2 ≠ some .done → ∃ W st'' s'',
        Collects net now (.chain upper' out.1) s' W st'' s'' ∧ spec U (h'.given ++ W)) :
    ∃ W st'' s'', Collects net now (.chain upper st) s W st'' s'' ∧ spec U (h.given ++ W) := by
  obtain ⟨st', x?⟩ := out
  match x?, hout with
  | none, hout =>
    obtain ⟨W, st'', s'', hcollects, hspec⟩ := next h rfl rfl hout (by simp)
    exact ⟨W, st'', s'', .of_step hwants hstep hcollects, hspec⟩
  | some (.row r), hout =>
    obtain ⟨W, st'', s'', hcollects, hspec⟩ := next (h.give r) rfl rfl hout (by simp)
    refine ⟨r :: W, st'', s'', .row (pull_one_of_some hwants hstep) hcollects, ?_⟩
    simpa [Traffic.give] using hspec
  | some .done, hout =>
    obtain ⟨rest, hrest, rfl⟩ := hU
    refine ⟨[], _, s', .done (pull_one_of_some hwants hstep), ?_⟩
    simpa using hout.2 rest hrest rfl

/-- A stage that has taken its last row hands on what is left. -/
theorem collects_ended [Std.Refl rely] (hc : Contract net now rely guar (· = U) hasty spec inv)
    {upper st : Stage} {h : Traffic} {s : Session σ} (hinv : inv st h s) (hended : h.ended = true)
    (hU : h.taken = U) :
    ∃ W st' s', Collects net now (.chain upper st) s W st' s' ∧ spec U (h.given ++ W) := by
  have hhalts := hc.halts hinv
  induction hhalts generalizing h with
  | wants hwants => exact absurd hwants (by simp [hc.rests hinv hended])
  | acts hwants _ ih =>
    refine collects_of_fulfils (by simp [Stage.wants, hwants])
      (step_chain_of_not_wants hwants none _) (hc.acts hinv hwants).2
      ⟨[], fun _ => rfl, by simpa using hU⟩ ?_
    intro h' htaken hended' hinv' hne
    exact ih _ (.refl _) hne hinv' (hended'.trans hended) (htaken.trans hU)

/-- **What a stage makes of a list of rows.** A stage below the rows of a list is done after
finitely many pulls, and has then handed on rows as specified. -/
theorem collects [Std.Refl rely] (hc : Contract net now rely guar (· = U) hasty spec inv)
    {st : Stage} {h : Traffic} {s : Session σ} {rest : List Row} (hinv : inv st h s)
    (hended : h.ended = false) (hU : h.taken ++ rest = U) :
    ∃ W st' s', Collects net now (.chain (.source rest .done) st) s W st' s' ∧
      spec U (h.given ++ W) := by
  -- The outer induction is on the rows that are left, and the inner ones are on the steps of the
  -- stage until it wants the next of them.
  induction rest generalizing st h s with
  | nil =>
    have hhalts := hc.halts hinv
    induction hhalts generalizing h with
    | @wants st s hwants =>
      have hsource : (Stage.source [] .done).step net now none s =
          ((.source [] .done, some .done), s) := rfl
      have hU' : h.close.taken = U := by simpa [Traffic.close] using hU
      refine collects_of_fulfils (h := h.close) (by simp [Stage.wants])
        (step_chain_of_some hwants hsource) (hc.ends hinv hwants hU').2
        ⟨[], fun _ => rfl, by simpa using hU'⟩ ?_
      intro h' htaken hended' hinv' _
      exact hc.collects_ended hinv' hended' (htaken.trans hU')
    | acts hwants _ ih =>
      refine collects_of_fulfils (by simp [Stage.wants])
        (step_chain_of_not_wants hwants none _) (hc.acts hinv hwants).2
        ⟨[], fun _ => rfl, hU⟩ ?_
      intro h' htaken hended' hinv' hne
      exact ih _ (.refl _) hne hinv' (hended'.trans hended) (htaken ▸ hU)
  | cons r rest ihrest =>
    have hhalts := hc.halts hinv
    induction hhalts generalizing h with
    | @wants st s hwants =>
      have hsource : (Stage.source (r :: rest) .done).step net now none s =
          ((.source rest .done, some (.row r)), s) := rfl
      have hU' : (h.take r).taken ++ rest = U := by simpa [Traffic.take] using hU
      refine collects_of_fulfils (h := h.take r) (by simp [Stage.wants])
        (step_chain_of_some hwants hsource) (hc.takes hinv hwants ⟨rest, hU⟩).2
        ⟨rest, fun hclosed => absurd hclosed (by simp [Traffic.take, hended]), hU'⟩ ?_
      intro h' htaken hended' hinv' _
      exact ihrest hinv' (hended'.trans hended) (htaken ▸ hU')
    | acts hwants _ ih =>
      refine collects_of_fulfils (by simp [Stage.wants])
        (step_chain_of_not_wants hwants none _) (hc.acts hinv hwants).2
        ⟨r :: rest, fun hclosed => absurd hclosed (by simp [hended]), hU⟩ ?_
      intro h' htaken hended' hinv' hne
      exact ih _ (.refl _) hne hinv' (hended'.trans hended) (htaken ▸ hU)

end Contract

end Stage

end PagedSparql
