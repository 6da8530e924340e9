import PagedSparql.Plan.Compile
import PagedSparql.Proofs.Pipeline.Fork
import PagedSparql.Proofs.Pipeline.Leaf
import PagedSparql.Proofs.Pipeline.Nested

/-!
# Stages that produce lists

A stage that asks no endpoint does the same whatever becomes of the session between its steps. If it
wants nothing from above, it produces a list of rows and then an ending (`Stage.Produces`); if it
does, it turns the rows and the ending that come to it into others (`Stage.Transforms`). Both are
said step by step, so that stages can be put together although their steps interleave: one below
the other (`Stage.Transforms.below`), as a fork (`Stage.Produces.fork_done`) or as a join
(`Stage.Produces.nested_done`). A failure goes through a stage like a row, and it is the last thing
that is asked for.

When such a stage is pulled until it ends or fails for the first time, it hands on the rows that it
produces, and nothing else (`Stage.Produces.yields`, `Stage.Yields.unique`).

A stage gathers when it takes in all rows from above, hands nothing on meanwhile, and then makes
something of them (`Stage.Gathers`). What it makes of them may depend on the session, for instance
on the numbers that random keys have got, so it is a relation and not a function. Below a stage that
produces a list it hands on what it makes of exactly this list, and is then done
(`Stage.Gathers.yields`); whatever it hands on, it is such a thing (`Stage.Gathers.of_yields`).
-/

namespace PagedSparql

variable {σ : Type}

namespace Ending

/-- The signal of an ending tells the ending. -/
theorem signal_inj {e e' : Ending} (h : e.signal = e'.signal) : e = e' := by
  cases e <;> cases e' <;> simp_all [signal]

/-- The signal of an ending is no row. -/
theorem signal_ne_row (e : Ending) (r : Row) : e.signal ≠ .row r := by
  cases e <;> exact nofun

end Ending

namespace Stage

/-- On its own, the stage hands on some rows and then an ending, whatever becomes of the session
between its steps. -/
inductive Produces (net : Network σ) (now : DateTime) : Stage → List Row → Ending → Prop
  | ends {st : Stage} {ending : Ending} (hwants : st.wants = false)
    (hends : ∀ s, (st.step net now none s).1.2 = some ending.signal) :
    Produces net now st [] ending
  | acts {st : Stage} {W : List Row} {ending : Ending} (y? : Option Row) (hwants : st.wants = false)
    (hgives : ∀ s, (st.step net now none s).1.2 = y?.map .row)
    (next : ∀ s, Produces net now (st.step net now none s).1.1 W ending) :
    Produces net now st (y?.toList ++ W) ending

/-- The stage turns some rows and an ending that come from above into others. -/
inductive Transforms (net : Network σ) (now : DateTime) :
    Stage → List Row → Ending → List Row → Ending → Prop
  | takes {st : Stage} {r : Row} {U W : List Row} {ending ending' : Ending} (y? : Option Row)
    (hwants : st.wants = true)
    (hgives : ∀ s, (st.step net now (some (.row r)) s).1.2 = y?.map .row)
    (next : ∀ s, Transforms net now (st.step net now (some (.row r)) s).1.1 U ending W ending') :
    Transforms net now st (r :: U) ending (y?.toList ++ W) ending'
  | ends {st : Stage} {ending ending' : Ending} (hwants : st.wants = true)
    (hends : ∀ s, (st.step net now (some ending.signal) s).1.2 = some ending'.signal) :
    Transforms net now st [] ending [] ending'
  | turns {st : Stage} {W : List Row} {ending ending' : Ending} (hwants : st.wants = true)
    (hnone : ∀ s, (st.step net now (some ending.signal) s).1.2 = none)
    (next : ∀ s, Produces net now (st.step net now (some ending.signal) s).1.1 W ending') :
    Transforms net now st [] ending W ending'
  | alone {st : Stage} {U W : List Row} {ending ending' : Ending}
    (hproduces : Produces net now st W ending') : Transforms net now st U ending W ending'

/-- Pulled until it ends or fails for the first time, a pipeline hands on some rows. -/
inductive Yields (net : Network σ) (now : DateTime) :
    Stage → Session σ → List Row → Ending → Stage → Session σ → Prop
  | ends {n : Nat} {st st' : Stage} {s s' : Session σ} {ending : Ending}
    (h : st.pull net now n s = (some ending.signal, st', s')) :
    Yields net now st s [] ending st' s'
  | row {n : Nat} {st st' st'' : Stage} {s s' s'' : Session σ} {r : Row} {W : List Row}
    {ending : Ending} (h : st.pull net now n s = (some (.row r), st', s'))
    (rest : Yields net now st' s' W ending st'' s'') : Yields net now st s (r :: W) ending st'' s''

variable {net : Network σ} {now : DateTime} {st upper lower : Stage} {U V W : List Row}
  {ending ending' : Ending}

/-! ## Pulls -/

/-- What a pipeline hands on until it ends or fails is determined by the pipeline and its session.
-/
theorem Yields.unique {st' st'' : Stage} {s s' s'' : Session σ} {W' : List Row}
    (h : Yields net now st s W ending st' s') (h' : Yields net now st s W' ending' st'' s'') :
    W = W' ∧ ending = ending' := by
  induction h generalizing W' with
  | ends hpull =>
    cases h' with
    | ends hpull' => exact ⟨rfl, Ending.signal_inj (pull_unique hpull hpull').1⟩
    | row hpull' _ => exact absurd (pull_unique hpull hpull').1 (Ending.signal_ne_row _ _)
  | row hpull _ ih =>
    cases h' with
    | ends hpull' => exact absurd (pull_unique hpull' hpull).1 (Ending.signal_ne_row _ _)
    | row hpull' rest' =>
      obtain ⟨hrow, rfl, rfl⟩ := pull_unique hpull hpull'
      obtain ⟨rfl, rfl⟩ := ih rest'
      exact ⟨by rw [Signal.row.inj hrow], rfl⟩

/-- A step that hands on nothing changes nothing in what is handed on. -/
theorem Yields.of_step {st' st'' : Stage} {s s' s'' : Session σ} (hwants : st.wants = false)
    (h : st.step net now none s = ((st', none), s'))
    (hc : Yields net now st' s' W ending st'' s'') : Yields net now st s W ending st'' s'' := by
  cases hc with
  | ends hpull => exact .ends ((pull_succ_of_none hwants h).trans hpull)
  | row hpull rest => exact .row ((pull_succ_of_none hwants h).trans hpull) rest

/-- A stage that produces rows hands them on when it is pulled. -/
theorem Produces.yields (h : Produces net now st W ending) (s : Session σ) :
    ∃ st' s', Yields net now st s W ending st' s' := by
  induction h generalizing s with
  | @ends st ending hwants hends =>
    rcases hstep : st.step net now none s with ⟨⟨st', x?⟩, s'⟩
    obtain rfl : x? = some ending.signal := by simpa [hstep] using hends s
    exact ⟨st', s', .ends (pull_one_of_some hwants hstep)⟩
  | @acts st W ending y? hwants hgives next ih =>
    rcases hstep : st.step net now none s with ⟨⟨st', x?⟩, s'⟩
    obtain rfl : x? = y?.map .row := by simpa [hstep] using hgives s
    obtain ⟨st'', s'', hrest⟩ := ih s s'
    rw [hstep] at hrest
    cases y? with
    | none => exact ⟨st'', s'', hrest.of_step hwants hstep⟩
    | some r => exact ⟨st'', s'', .row (pull_one_of_some hwants hstep) hrest⟩

/-! ## Stages below one another -/

/-- A stage that wants nothing produces its rows below any other. -/
theorem Produces.under (h : Produces net now lower W ending) (upper : Stage) :
    Produces net now (.chain upper lower) W ending := by
  induction h with
  | ends hwants hends =>
    refine .ends (by simp [wants, hwants]) fun s => ?_
    rw [step_chain_of_not_wants hwants]
    exact hends s
  | acts y? hwants hgives next ih =>
    refine .acts y? (by simp [wants, hwants]) (fun s => ?_) fun s => ?_
    · rw [step_chain_of_not_wants hwants]
      exact hgives s
    · rw [step_chain_of_not_wants hwants]
      exact ih s

/-- A stage waits until the one above it hands on something. -/
theorem produces_waiting (hwants : lower.wants = true) (hupper : upper.wants = false)
    (hnone : ∀ s, (upper.step net now none s).1.2 = none)
    (next : ∀ s, Produces net now (.chain (upper.step net now none s).1.1 lower) W ending) :
    Produces net now (.chain upper lower) W ending := by
  have hstep : ∀ s : Session σ, (Stage.chain upper lower).step net now none s =
      ((.chain (upper.step net now none s).1.1 lower, none), (upper.step net now none s).2) :=
    fun s => step_chain_of_none hwants (Prod.ext (Prod.ext rfl (hnone s)) rfl)
  refine .acts none (by simp [wants, hupper]) (fun s => ?_) fun s => ?_
  · rw [hstep]
    rfl
  · rw [hstep]
    exact next s

/-- What a stage does with what the one above it hands on. -/
theorem step_chain_handed {x : Signal} (hwants : lower.wants = true)
    (hgives : ∀ s, (upper.step net now none s).1.2 = some x) (s : Session σ) :
    ∃ s', (Stage.chain upper lower).step net now none s =
      ((.chain (upper.step net now none s).1.1 (lower.step net now (some x) s').1.1,
        (lower.step net now (some x) s').1.2), (lower.step net now (some x) s').2) :=
  ⟨(upper.step net now none s).2,
    step_chain_of_some hwants (Prod.ext (Prod.ext rfl (hgives s)) rfl)⟩

/-- A stage that turns the rows of another into rows produces these below it. -/
theorem Transforms.under (h : Transforms net now lower U ending W ending')
    (hupper : Produces net now upper U ending) :
    Produces net now (.chain upper lower) W ending' := by
  -- The outer induction is on what the lower stage does with the rows, and the inner ones are on
  -- the steps of the upper stage until it hands the next of them on.
  induction h generalizing upper with
  | alone hproduces => exact hproduces.under upper
  | @takes lower r U W ending ending' y? hwants hgives next ih =>
    generalize hV : r :: U = V at hupper
    induction hupper with
    | ends => exact absurd hV (by simp)
    | @acts upper V ending z? hwants' hgives' next' ih' =>
      cases z? with
      | none => exact produces_waiting hwants hwants' hgives' fun s => ih' s next ih hV
      | some z =>
        obtain ⟨rfl, rfl⟩ := List.cons.inj hV
        refine .acts y? (by simp [wants, hwants']) (fun s => ?_) fun s => ?_
        · obtain ⟨s', hstep⟩ := step_chain_handed hwants hgives' s
          rw [hstep]
          exact hgives s'
        · obtain ⟨s', hstep⟩ := step_chain_handed hwants hgives' s
          rw [hstep]
          exact ih s' (next' s)
  | @ends lower ending ending' hwants hends =>
    generalize hV : ([] : List Row) = V at hupper
    induction hupper with
    | @ends upper ending hwants' hends' =>
      refine .ends (by simp [wants, hwants']) fun s => ?_
      obtain ⟨s', hstep⟩ := step_chain_handed hwants hends' s
      rw [hstep]
      exact hends s'
    | @acts upper V ending z? hwants' hgives' next' ih' =>
      cases z? with
      | none => exact produces_waiting hwants hwants' hgives' fun s => ih' s hends hV
      | some z => exact absurd hV (by simp)
  | @turns lower W ending ending' hwants hnone next =>
    generalize hV : ([] : List Row) = V at hupper
    induction hupper with
    | @ends upper ending hwants' hends' =>
      refine .acts none (by simp [wants, hwants']) (fun s => ?_) fun s => ?_
      · obtain ⟨s', hstep⟩ := step_chain_handed hwants hends' s
        rw [hstep]
        exact hnone s'
      · obtain ⟨s', hstep⟩ := step_chain_handed hwants hends' s
        rw [hstep]
        exact (next s').under _
    | @acts upper V ending z? hwants' hgives' next' ih' =>
      cases z? with
      | none => exact produces_waiting hwants hwants' hgives' fun s => ih' s hnone next hV
      | some z => exact absurd hV (by simp)

/-! ## Forks -/

/-- A fork without branches produces nothing. -/
theorem produces_fork_nil (tee : Tee) (position : Nat) :
    Produces net now (.fork tee position []) [] .done :=
  .ends rfl fun _ => by rw [step]; rfl

/-- A step of a fork whose branch wants nothing is one of the branch. -/
theorem step_fork_alone {branch : Stage} (hwants : branch.wants = false) (tee : Tee)
    (position : Nat) (rest : List Stage) (s : Session σ) :
    (Stage.fork tee position (branch :: rest)).step net now none s =
      (Fork.after tee position rest (branch.step net now none s).1,
        (branch.step net now none s).2) := by
  rw [Fork.step_fork, hwants]
  rfl

/-- A branch that has neither ended nor failed goes on. -/
theorem produces_fork_turn {branch : Stage} {tee : Tee} {position : Nat} {rest : List Stage}
    (y? : Option Row) (hwants : branch.wants = false)
    (hgives : ∀ s, (branch.step net now none s).1.2 = y?.map .row)
    (next : ∀ s, Produces net now
      (.fork tee position ((branch.step net now none s).1.1 :: rest)) W ending) :
    Produces net now (.fork tee position (branch :: rest)) (y?.toList ++ W) ending := by
  have hafter : ∀ s, Fork.after tee position rest (branch.step net now none s).1 =
      (.fork tee position ((branch.step net now none s).1.1 :: rest), y?.map .row) := by
    intro s
    rw [← hgives s]
    refine Fork.after_of_ne ?_
    rw [hgives s]
    cases y? <;> simp
  refine .acts y? (by simp [wants, hwants]) (fun s => ?_) fun s => ?_
  · rw [step_fork_alone hwants, hafter]
  · rw [step_fork_alone hwants, hafter]
    exact next s

/-- When a branch has ended, the next one begins. -/
theorem Produces.fork_done {branch : Stage} (h : Produces net now branch V .done) {tee : Tee}
    {position : Nat} {rest : List Stage}
    (hrest : Produces net now (.fork tee (position + 1) rest) W ending) :
    Produces net now (.fork tee position (branch :: rest)) (V ++ W) ending := by
  generalize hending : Ending.done = last at h
  induction h with
  | @ends branch last hwants hends =>
    subst hending
    have hafter : ∀ s, Fork.after tee position rest (branch.step net now none s).1 =
        (.fork tee (position + 1) rest, none) := fun s => Fork.after_of_done (hends s)
    refine .acts none (by simp [wants, hwants]) (fun s => ?_) fun s => ?_
    · rw [step_fork_alone hwants, hafter]
      rfl
    · rw [step_fork_alone hwants, hafter]
      exact hrest
  | @acts branch V last y? hwants hgives next ih =>
    rw [List.append_assoc]
    exact produces_fork_turn y? hwants hgives fun s => ih s hending

/-- When a branch fails, so does the fork. -/
theorem Produces.fork_failed {branch : Stage} {e : TransportError}
    (h : Produces net now branch W (.failed e)) (tee : Tee) (position : Nat) (rest : List Stage) :
    Produces net now (.fork tee position (branch :: rest)) W (.failed e) := by
  generalize hending : Ending.failed e = last at h
  induction h with
  | @ends branch last hwants hends =>
    subst hending
    refine .ends (by simp [wants, hwants]) fun s => ?_
    rw [step_fork_alone hwants, Fork.after_of_ne (by rw [hends s]; simp [Ending.signal]), hends s]
  | acts y? hwants hgives next ih =>
    exact produces_fork_turn y? hwants hgives fun s => ih s hending

/-! ## Joins -/

/-- A row is joined with the rows of the table that it was not yet joined with. -/
theorem Produces.nested_row {left right : Stage} {table : List Row}
    (h : Produces net now (.nested left right true table none) W ending) (r : Row)
    (rest : List Row) : Produces net now (.nested left right true table (some (r, rest)))
      (rest.filterMap (Row.merge r) ++ W) ending := by
  -- The next row that matches may stand anywhere in the rest, so the induction is on its length.
  generalize hk : rest.length = k
  induction k using Nat.strong_induction_on generalizing rest with
  | h k ih =>
    subst hk
    rw [nextMerge_eq]
    cases hnext : nextMerge r rest with
    | none =>
      have hstep : ∀ s : Session σ, (Stage.nested left right true table (some (r, rest))).step
          net now none s = ((.nested left right true table none, none), s) := fun s => by
        simp only [step, hnext]
      refine .acts none rfl (fun s => ?_) fun s => ?_
      · rw [hstep]
        rfl
      · rw [hstep]
        exact h
    | some found =>
      obtain ⟨row, rest'⟩ := found
      have hstep : ∀ s : Session σ, (Stage.nested left right true table (some (r, rest))).step
          net now none s =
            ((.nested left right true table (some (r, rest')), some (.row row)), s) := fun s => by
        simp only [step, hnext]
      refine .acts (some row) rfl (fun s => ?_) fun s => ?_
      · rw [hstep]
        rfl
      · rw [hstep]
        exact ih _ (length_of_nextMerge hnext) rest' rfl

/-- The rows of the left are joined with those of the table. -/
theorem Produces.nested_table {left : Stage} (h : Produces net now left U ending) (right : Stage)
    (table : List Row) :
    Produces net now (.nested left right true table none) (joinTable table U) ending := by
  induction h with
  | @ends left ending hwants hends =>
    refine .ends (by simp [wants, hwants]) fun s => ?_
    rcases hleft : left.step net now none s with ⟨⟨left', x?⟩, s'⟩
    obtain rfl : x? = some ending.signal := by simpa [hleft] using hends s
    simp only [step, hleft]
    cases ending <;> rfl
  | @acts left U ending y? hwants hgives next ih =>
    cases y? with
    | none =>
      have hstep : ∀ s, (Stage.nested left right true table none).step net now none s =
          ((.nested (left.step net now none s).1.1 right true table none, none),
            (left.step net now none s).2) := by
        intro s
        rcases hleft : left.step net now none s with ⟨⟨left', x?⟩, s'⟩
        obtain rfl : x? = none := by simpa [hleft] using hgives s
        simp only [step, hleft]
      refine .acts none (by simp [wants, hwants]) (fun s => ?_) fun s => ?_
      · rw [hstep]
        rfl
      · rw [hstep]
        exact ih s
    | some r =>
      have hstep : ∀ s, (Stage.nested left right true table none).step net now none s =
          ((.nested (left.step net now none s).1.1 right true table (some (r, table)), none),
            (left.step net now none s).2) := by
        intro s
        rcases hleft : left.step net now none s with ⟨⟨left', x?⟩, s'⟩
        obtain rfl : x? = some (.row r) := by simpa [hleft] using hgives s
        simp only [step, hleft]
      refine .acts none (by simp [wants, hwants]) (fun s => ?_) fun s => ?_
      · rw [hstep]
        rfl
      · rw [hstep]
        exact (ih s).nested_row r table

/-- What becomes of a join that reads the rows of its right, by what the right hands on. -/
def afterRight (left right : Stage) (table : List Row) (current : Option (Row × List Row)) :
    Option Signal → Stage × Option Signal
  | none => (.nested left right false table current, none)
  | some (.row r) => (.nested left right false (r :: table) current, none)
  | some .done => (.nested left .input true table.reverse current, none)
  | some (.fail e) => (.nested left .input true table.reverse current, some (.fail e))

/-- A step of a join that still reads the rows of its right. -/
theorem step_nested_loading {right : Stage} {x? : Option Signal} {table : List Row}
    (hgives : ∀ s, (right.step net now none s).1.2 = x?) (left : Stage)
    (current : Option (Row × List Row)) (s : Session σ) :
    ((Stage.nested left right false table current).step net now none s).1 =
      afterRight left (right.step net now none s).1.1 table current x? := by
  rcases hright : right.step net now none s with ⟨⟨right', y?⟩, s'⟩
  obtain rfl : y? = x? := by simpa [hright] using hgives s
  simp only [step, hright]
  rcases y? with _ | _ | _ | _ <;> rfl

/-- The rows of the right make up the table. -/
theorem Produces.nested_done {left right : Stage} {table : List Row}
    {current : Option (Row × List Row)} (h : Produces net now right V .done)
    (hleft : Produces net now (.nested left .input true (table.reverse ++ V) current) W ending) :
    Produces net now (.nested left right false table current) W ending := by
  generalize hending : Ending.done = last at h
  induction h generalizing table with
  | @ends right last hwants hends =>
    subst hending
    refine .acts none (by simp [wants, hwants]) (fun s => ?_) fun s => ?_
    · rw [step_nested_loading hends]
      rfl
    · rw [step_nested_loading hends]
      rw [List.append_nil] at hleft
      exact hleft
  | @acts right V last y? hwants hgives next ih =>
    refine .acts none (by simp [wants, hwants]) (fun s => ?_) fun s => ?_
    · rw [step_nested_loading hgives]
      cases y? <;> rfl
    · rw [step_nested_loading hgives]
      cases y? with
      | none => exact ih s hleft hending
      | some r => exact ih s (by simpa using hleft) hending

/-- When the right fails, so does the join, before any row. -/
theorem Produces.nested_failed {right : Stage} {e : TransportError}
    (h : Produces net now right V (.failed e)) (left : Stage) (table : List Row)
    (current : Option (Row × List Row)) :
    Produces net now (.nested left right false table current) [] (.failed e) := by
  generalize hending : Ending.failed e = last at h
  induction h generalizing table with
  | @ends right last hwants hends =>
    subst hending
    refine .ends (by simp [wants, hwants]) fun s => ?_
    rw [step_nested_loading hends]
    rfl
  | @acts right V last y? hwants hgives next ih =>
    refine .acts none (by simp [wants, hwants]) (fun s => ?_) fun s => ?_
    · rw [step_nested_loading hgives]
      cases y? <;> rfl
    · rw [step_nested_loading hgives]
      cases y? with
      | none => exact ih s table hending
      | some r => exact ih s (r :: table) hending

/-! ## Stages that keep no row waiting -/

/-- A source produces its rows and its ending. -/
theorem produces_source (rows : List Row) (ending : Ending) :
    Produces net now (.source rows ending) rows ending := by
  induction rows with
  | nil => exact .ends rfl fun _ => rfl
  | cons r rest ih => exact .acts (some r) rfl (fun _ => rfl) fun _ => ih

/-- A stage that takes rows one by one turns each of them into one row or none, and hands on the
ending. -/
theorem transforms_each {f : Row → Option Row} (hleaf : st.isLeaf = true) (hwants : st.wants = true)
    (hrow : ∀ r (s : Session σ), (stepRow now st r s).1 = (st, (f r).map .row))
    (hends : ∀ (e : Ending) (s : Session σ), (stepSignal now st e.signal s).1.2 = some e.signal)
    (U : List Row) (ending : Ending) : Transforms net now st U ending (U.filterMap f) ending := by
  induction U with
  | nil =>
    refine .ends hwants fun s => ?_
    rw [step_leaf_some hleaf]
    exact hends ending s
  | cons r U ih =>
    have hcons : (r :: U).filterMap f = (f r).toList ++ U.filterMap f := by
      cases hf : f r <;> simp [hf]
    have hstep : ∀ s, (st.step net now (some (.row r)) s).1 = (st, (f r).map .row) := fun s => by
      rw [step_leaf_some hleaf]
      exact hrow r s
    rw [hcons]
    refine .takes (f r) hwants (fun s => ?_) fun s => ?_
    · rw [hstep]
    · rw [hstep]
      exact ih

/-! ## Stages that gather rows -/

variable {st' : Stage} {s s' : Session σ} {taken : List Row} {ending : Ending}

/-- The stage takes in all rows and makes something of them when there are no more; `inv` tells
which rows it has taken in. -/
structure Gathers (net : Network σ) (now : DateTime) (inv : Stage → List Row → Prop)
    (spec : List Row → List Row → Prop) : Prop where
  /-- It wants a row. -/
  wants : ∀ {st taken}, inv st taken → st.wants = true
  /-- It takes a row in. -/
  takes : ∀ {st taken}, inv st taken → ∀ r s, (st.step net now (some (.row r)) s).1.2 = none ∧
    inv (st.step net now (some (.row r)) s).1.1 (taken ++ [r])
  /-- After the last row it produces what it makes of all of them. -/
  turns : ∀ {st taken}, inv st taken → ∀ s, (st.step net now (some .done) s).1.2 = none ∧
    ∃ W, spec taken W ∧ Produces net now (st.step net now (some .done) s).1.1 W .done

namespace Gathers

variable {inv : Stage → List Row → Prop} {spec : List Row → List Row → Prop}

/-- A stage that gathers hands on what it makes of the rows of a list. -/
theorem yields (h : Gathers net now inv spec) (hupper : Produces net now upper U .done)
    (hinv : inv st taken) (s : Session σ) :
    ∃ W st' s', spec (taken ++ U) W ∧ Yields net now (chain upper st) s W .done st' s' := by
  generalize hending : Ending.done = last at hupper
  -- The steps above are counted by the list; the rows taken in so far grow with them.
  induction hupper generalizing st taken s with
  | @ends upper last hwants hends =>
    subst hending
    have hchain : (chain upper st).wants = false := by simp [Stage.wants, hwants]
    obtain ⟨s', hstep⟩ := step_chain_handed (h.wants hinv) hends s
    obtain ⟨hnone, W, hspec, hproduces⟩ := h.turns hinv s'
    rw [show (Ending.done).signal = .done from rfl, hnone] at hstep
    obtain ⟨st', s'', hyields⟩ := (hproduces.under _).yields _
    exact ⟨W, st', s'', by simpa using hspec, .of_step hchain hstep hyields⟩
  | @acts upper V last y? hwants hgives next ih =>
    have hchain : (chain upper st).wants = false := by simp [Stage.wants, hwants]
    cases y? with
    | none =>
      have hstep : (chain upper st).step net now none s =
          ((chain (upper.step net now none s).1.1 st, none), (upper.step net now none s).2) :=
        step_chain_of_none (h.wants hinv) (Prod.ext (Prod.ext rfl (hgives s)) rfl)
      obtain ⟨W, st', s'', hspec, hyields⟩ := ih s hinv _ hending
      exact ⟨W, st', s'', hspec, .of_step hchain hstep hyields⟩
    | some r =>
      obtain ⟨s', hstep⟩ := step_chain_handed (h.wants hinv) hgives s
      obtain ⟨hnone, htaken⟩ := h.takes hinv r s'
      rw [hnone] at hstep
      obtain ⟨W, st', s'', hspec, hyields⟩ := ih s htaken _ hending
      exact ⟨W, st', s'', by simpa using hspec, .of_step hchain hstep hyields⟩

/-- Whatever a stage that gathers hands on, it is what it makes of the rows of the list. -/
theorem of_yields (h : Gathers net now inv spec) (hupper : Produces net now upper U .done)
    (hinv : inv st []) (hyields : Yields net now (chain upper st) s W ending st' s') :
    ending = .done ∧ spec U W := by
  obtain ⟨W', _, _, hspec, hyields'⟩ := h.yields hupper hinv s
  obtain ⟨rfl, rfl⟩ := hyields.unique hyields'
  exact ⟨rfl, hspec⟩

end Gathers

end Stage

end PagedSparql
