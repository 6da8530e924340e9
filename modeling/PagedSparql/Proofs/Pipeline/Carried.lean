import PagedSparql.Proofs.Pipeline.Attribution
import PagedSparql.Proofs.Pipeline.Fork
import PagedSparql.Proofs.Pipeline.Interrupted
import PagedSparql.Proofs.Pipeline.Leaf

/-!
# What the stages of a pattern carry

The stages that a basic graph pattern is planned as hand on rows that extend those that come in. So
whatever property the rows that come in have, if a row keeps it when it is extended, all rows that
such a stage keeps or hands on have it as well (`Stage.Carries`), whatever the endpoints answer and
whichever clients are closed.

Such a stage also makes the same step whether or not a network closes clients, as long as it closes
none in this step (`Stage.Carries.step_of_cuts`).
-/

namespace PagedSparql

variable {σ : Type} {net cut : Network σ} {now : DateTime} {P Q : Row → Prop} {s : Session σ}

/-- Rows keep a property when they are extended. -/
def Row.Upward (P : Row → Prop) : Prop := ∀ {r w : Row}, P r → w.Extends r → P w

namespace Round

/-- The rows that a page extends keep what the rows of its round have. -/
theorem carries_absorb (hP : Row.Upward P) {round : Round} (h : ∀ r ∈ round.table.rows, P r)
    (page : Page) : (∀ r ∈ (round.absorb page).1, P r) ∧
      ∀ r ∈ (round.absorb page).2.table.rows, P r := by
  have hrow : ∀ {key : Nat} {u : Row}, round.table.row? key = some u → P u :=
    fun hu => h _ (List.mem_of_getElem? hu)
  have hhits : ∀ x ∈ round.hits page, P x.2 := by
    intro x hx
    unfold hits at hx
    split at hx
    · obtain ⟨e, -, he⟩ := List.mem_filterMap.1 hx
      split at he
      · exact absurd he (by simp)
      · obtain ⟨u, hu, rfl⟩ := Option.map_eq_some_iff.1 he
        exact hrow hu
    · obtain ⟨solution, -, hsolution⟩ := List.mem_filterMap.1 hx
      obtain ⟨u, hu, hext⟩ := RoundTable.extends_of_extend? hsolution
      exact hP (hrow hu) hext
  rw [absorb_eq]
  refine ⟨fun r hr => ?_, by simpa using h⟩
  obtain ⟨x, hx, rfl⟩ := List.mem_map.1 hr
  exact hhits x hx

/-- The rows that were not extended are rows of the round. -/
theorem mem_of_mem_unobserved {t : RoundTable} {r : Row} (hr : r ∈ t.unobserved) : r ∈ t.rows := by
  obtain ⟨e, he, rfl⟩ := List.mem_map.1 hr
  exact List.mem_of_getElem? (List.mem_zipIdx_iff_getElem?.1 (List.mem_filter.1 he).1)

end Round

/-- All rows that a bound join keeps have a property. -/
structure BoundJoin.Carries (P : Row → Prop) (j : BoundJoin) : Prop where
  /-- The rows of the next round. -/
  bucket : ∀ r ∈ j.bucket, P r
  /-- The rows of the round. -/
  round : ∀ round ∈ j.round?, ∀ r ∈ round.table.rows, P r
  /-- The rows to hand on. -/
  pending : ∀ r ∈ j.pending, P r

namespace BoundJoin

variable {j : BoundJoin}

/-- The rows of a bucket become those of a round. -/
theorem Carries.startRound (h : j.Carries P) : j.startRound.Carries P := by
  unfold BoundJoin.startRound
  split
  · exact ⟨h.bucket, h.round, h.pending⟩
  · refine ⟨by simp, ?_, h.pending⟩
    rintro round ⟨⟩
    rw [Round.rows_start]
    exact h.bucket

/-- A row that comes in is kept. -/
theorem Carries.accept (h : j.Carries P) {x : Signal} (hx : ∀ r, x = .row r → P r) :
    (j.accept x).1.Carries P ∧ ∀ r, (j.accept x).2 ≠ some (.row r) := by
  cases x with
  | row r =>
    have htaken : Carries P { j with bucket := j.bucket ++ [r] } :=
      ⟨List.forall_mem_append.2 ⟨h.bucket, by simpa using hx r rfl⟩, h.round, h.pending⟩
    refine ⟨?_, fun _ => by simp [BoundJoin.accept]⟩
    simp only [BoundJoin.accept]
    split
    · exact htaken
    · exact htaken.startRound
  | done =>
    exact ⟨Carries.startRound ⟨h.bucket, h.round, h.pending⟩,
      fun _ => by simp [BoundJoin.accept]⟩
  | fail e =>
    exact ⟨⟨by simp [BoundJoin.accept], h.round, h.pending⟩, fun _ => by simp [BoundJoin.accept]⟩

/-- A page extends rows that are kept. -/
theorem Carries.takePage (hP : Row.Upward P) (h : j.Carries P) {round : Round}
    (hround : ∀ r ∈ round.table.rows, P r) (closed : Bool)
    (page? : Except TransportError (Option Page)) :
    (j.takePage round closed page?).1.Carries P ∧
      ∀ r, (j.takePage round closed page?).2 ≠ some (.row r) := by
  have hkept : ∀ round' : Round, (∀ r ∈ round'.table.rows, P r) →
      ∀ round'' ∈ some round', ∀ r ∈ round''.table.rows, P r := by
    rintro round' h' round'' ⟨⟩
    exact h'
  rcases page? with e | page?
  · exact ⟨⟨h.bucket, hkept round hround, h.pending⟩, fun _ => by simp [BoundJoin.takePage]⟩
  · cases closed with
    | true => exact ⟨⟨h.bucket, by simp [BoundJoin.takePage], by simp [BoundJoin.takePage]⟩,
        fun _ => by simp [BoundJoin.takePage]⟩
    | false =>
      cases page? with
      | some page =>
        obtain ⟨hrows, htable⟩ := Round.carries_absorb hP hround page
        exact ⟨⟨h.bucket, hkept _ htable, List.forall_mem_append.2 ⟨h.pending, hrows⟩⟩,
          fun _ => by simp [BoundJoin.takePage]⟩
      | none =>
        have hrows : ∀ r ∈ if j.goal.optional then round.table.unobserved else [], P r := by
          split
          · exact fun r hr => hround r (Round.mem_of_mem_unobserved hr)
          · simp
        exact ⟨⟨h.bucket, by simp [BoundJoin.takePage],
          List.forall_mem_append.2 ⟨h.pending, hrows⟩⟩, fun _ => by simp [BoundJoin.takePage]⟩

/-- A bound join hands on rows that it keeps. -/
theorem Carries.advance (hP : Row.Upward P) (h : j.Carries P) (net : Network σ) (s : Session σ) :
    (j.advance net s).1.1.Carries P ∧ ∀ r, (j.advance net s).1.2 = some (.row r) → P r := by
  cases hp : j.pending with
  | cons r rest =>
    rw [advance_of_pending hp]
    have hpending := hp ▸ h.pending
    refine ⟨⟨h.bucket, h.round, (List.forall_mem_cons.1 hpending).2⟩, fun w hw => ?_⟩
    obtain rfl := Signal.row.inj (Option.some.inj hw)
    exact (List.forall_mem_cons.1 hpending).1
  | nil =>
    cases hf : j.finished with
    | true =>
      rw [advance_of_finished hp hf]
      exact ⟨h, by simp⟩
    | false =>
      cases hr : j.round? with
      | none =>
        rw [advance_of_idle hp hf hr]
        exact ⟨⟨h.bucket, h.round, h.pending⟩, by simp⟩
      | some round =>
        -- A page is taken in, and nothing is handed on in this step.
        rcases hnext : round.pages.next net s with ⟨page?, pages, s'⟩
        have hadvance : j.advance net s =
            (j.takePage { round with pages } (s'.isClosed j.goal.address) page?, s') := by
          simp [BoundJoin.advance, hp, hf, hr, hnext]
        rw [hadvance]
        have hround : ∀ r ∈ ({ round with pages } : Round).table.rows, P r := h.round round hr
        obtain ⟨hcarries, hne⟩ := h.takePage hP hround (s'.isClosed j.goal.address) page?
        exact ⟨hcarries, fun r hr => absurd hr (hne r)⟩

end BoundJoin

namespace Tee

/-- A tee that settles keeps no other rows. -/
theorem mem_settle {t : Tee} {i : Nat} {f : TeeReader → TeeReader} {r : Row}
    (hr : r ∈ (t.settle i f).buffer) : r ∈ t.buffer := List.mem_of_mem_drop hr

/-- A tee serves rows that it keeps. -/
theorem carries_serve? {t t' : Tee} (h : ∀ r ∈ t.buffer, P r) {i : Nat} {x : Signal}
    (hserve : t.serve? i = some (x, t')) : (∀ r, x = .row r → P r) ∧ ∀ r ∈ t'.buffer, P r := by
  obtain ⟨reader, -, hserve⟩ := Option.bind_eq_some_iff.1 hserve
  split at hserve
  · next row hrow =>
    obtain ⟨rfl, rfl⟩ := Prod.mk.inj (Option.some.inj hserve)
    refine ⟨?_, fun r hr => h r (mem_settle hr)⟩
    rintro r ⟨⟩
    exact h row (List.mem_of_getElem? hrow)
  · obtain ⟨ending, -, hserve⟩ := Option.bind_eq_some_iff.1 hserve
    cases ending with
    | done =>
      obtain ⟨rfl, rfl⟩ := Prod.mk.inj (Option.some.inj hserve)
      exact ⟨by simp, fun r hr => h r (mem_settle hr)⟩
    | failed e =>
      obtain ⟨rfl, rfl⟩ := Prod.mk.inj (Option.some.inj hserve)
      exact ⟨by simp, h⟩

/-- A tee that has asked its source serves rows that it keeps. -/
theorem carries_answer {t : Tee} (h : ∀ r ∈ t.buffer, P r) {i : Nat} {x : Signal}
    (hx : ∀ r, x = .row r → P r) :
    (∀ r, (t.answer i x).1 = .row r → P r) ∧ ∀ r ∈ (t.answer i x).2.buffer, P r := by
  have hreceive : ∀ r ∈ (t.receive x).buffer, P r := by
    cases x with
    | row r => exact List.forall_mem_append.2 ⟨h, by simpa using hx r rfl⟩
    | done => exact h
    | fail e => exact h
  rw [Tee.answer]
  cases hserve : (t.receive x).serve? i with
  | none => exact ⟨hx, hreceive⟩
  | some out => exact carries_serve? hreceive hserve

end Tee

namespace Stage

/-- What a branch of a fork gets was kept by the tee or comes from above. -/
theorem carries_teeSignal {tee : Tee} (h : ∀ r ∈ tee.buffer, P r) (position : Nat)
    (branchWants : Bool) {x? : Option Signal} (hx : ∀ r, x? = some (.row r) → P r) :
    (∀ r, (teeSignal tee position branchWants x?).1 = some (.row r) → P r) ∧
      ∀ r ∈ (teeSignal tee position branchWants x?).2.buffer, P r := by
  cases branchWants with
  | false => exact ⟨by simp [teeSignal], h⟩
  | true =>
    cases hserve : tee.serve? position with
    | some out =>
      have hsignal : teeSignal tee position true x? = (some out.1, out.2) := by
        simp [teeSignal, hserve]
      obtain ⟨hrow, hbuffer⟩ := Tee.carries_serve? h hserve
      rw [hsignal]
      exact ⟨fun r hr => hrow r (Option.some.inj hr), hbuffer⟩
    | none =>
      cases x? with
      | none => exact ⟨by simp [teeSignal, hserve], by simpa [teeSignal, hserve] using h⟩
      | some x =>
        have hsignal : teeSignal tee position true (some x) =
            (some (tee.answer position x).1, (tee.answer position x).2) := by
          simp [teeSignal, hserve]
        obtain ⟨hrow, hbuffer⟩ := Tee.carries_answer h (i := position)
          fun r hr => hx r (congrArg some hr)
        rw [hsignal]
        exact ⟨fun r hr => hrow r (Option.some.inj hr), hbuffer⟩

/-- What a step has come to: a stage of some kind, and no row without the property. -/
def Leaves (G : Stage → Prop) (P : Row → Prop) (out : Stage × Option Signal) : Prop :=
  G out.1 ∧ ∀ r, out.2 = some (.row r) → P r

/-- A stage that hands on no row. -/
theorem leaves_none {G : Stage → Prop} {st : Stage} (h : G st) {x? : Option Signal}
    (hx : ∀ r, x? ≠ some (.row r)) : Leaves G P (st, x?) := ⟨h, fun r hr => absurd hr (hx r)⟩

/-- A stage that hands on a row. -/
theorem leaves_row {G : Stage → Prop} {st : Stage} (h : G st) {r : Row} (hr : P r) :
    Leaves G P (st, some (.row r)) := by
  refine ⟨h, fun w hw => ?_⟩
  obtain rfl := Signal.row.inj (Option.some.inj hw)
  exact hr

/-- What a step of a stage that keeps no row waiting leaves. -/
theorem leaves_leaf {G : Stage → Prop} {st : Stage} (hleaf : st.isLeaf = true)
    (hrow : ∀ r (s : Session σ), P r → Leaves G Q (stepRow now st r s).1)
    (hdone : ∀ s : Session σ, Leaves G Q (stepDone now st s).1)
    (hfail : ∀ e, Leaves G Q (stepFail st e)) (halone : Leaves G Q (stepAlone st))
    {x? : Option Signal} (hx : ∀ r, x? = some (.row r) → P r) (s : Session σ) :
    Leaves G Q (st.step net now x? s).1 := by
  rcases x? with _ | r | _ | e
  · rw [step_leaf_none hleaf]
    exact halone
  · rw [step_leaf_some hleaf]
    exact hrow r s (hx r rfl)
  · rw [step_leaf_some hleaf]
    exact hdone s
  · rw [step_leaf_some hleaf]
    exact hfail e

/-- What a step of a stage that takes rows one by one leaves. -/
theorem leaves_each {G : Stage → Prop} {st : Stage} (hleaf : st.isLeaf = true) (hst : G st)
    (hrow : ∀ r (s : Session σ), P r → Leaves G Q (stepRow now st r s).1)
    (hdone : ∀ s : Session σ, (stepDone now st s).1 = (st, some .done))
    (hfail : ∀ e, stepFail st e = (st, some (.fail e))) (halone : stepAlone st = (st, some .done))
    {x? : Option Signal} (hx : ∀ r, x? = some (.row r) → P r) (s : Session σ) :
    Leaves G Q (st.step net now x? s).1 := by
  refine leaves_leaf hleaf hrow (fun s => ?_) (fun e => ?_) ?_ hx s
  · rw [hdone s]
    exact leaves_none hst (by simp)
  · rw [hfail e]
    exact leaves_none hst (by simp)
  · rw [halone]
    exact leaves_none hst (by simp)

/-- What hands on all rows leaves rows that come in. -/
theorem leaves_input {G : Stage → Prop} (h : G .input) {x? : Option Signal}
    (hx : ∀ r, x? = some (.row r) → P r) (s : Session σ) :
    Leaves G P (Stage.input.step net now x? s).1 :=
  leaves_each rfl h (fun _ _ hr => leaves_row h hr) (fun _ => rfl) (fun _ => rfl) rfl hx s

/-- A condition leaves rows that come in. -/
theorem leaves_filter {G : Stage → Prop} {condition : Expression} (h : G (.filter condition))
    {x? : Option Signal} (hx : ∀ r, x? = some (.row r) → P r) (s : Session σ) :
    Leaves G P ((Stage.filter condition).step net now x? s).1 := by
  refine leaves_each rfl h (fun r s hr => ?_) (fun _ => rfl) (fun _ => rfl) rfl hx s
  simp only [stepRow]
  split
  · exact leaves_row h hr
  · exact leaves_none h (by simp)

/-- A fork leaves what its branches leave. -/
theorem leaves_fork {G : Stage → Prop} {tee : Tee} {position : Nat} {branches : List Stage}
    (hfork : ∀ {tee : Tee} {position : Nat} {branches : List Stage}, (∀ r ∈ tee.buffer, P r) →
      (∀ b ∈ branches, G b) → G (.fork tee position branches))
    (htee : ∀ r ∈ tee.buffer, P r) (hbranches : ∀ b ∈ branches, G b)
    (ih : ∀ b ∈ branches, ∀ {x? : Option Signal}, (∀ r, x? = some (.row r) → P r) →
      ∀ s, Leaves G P (b.step net now x? s).1)
    {x? : Option Signal} (hx : ∀ r, x? = some (.row r) → P r) (s : Session σ) :
    Leaves G P ((Stage.fork tee position branches).step net now x? s).1 := by
  rcases branches with _ | ⟨branch, rest⟩
  · exact ⟨hfork htee (by simp), by simp [Stage.step]⟩
  · obtain ⟨hserved, hbuffer⟩ := carries_teeSignal htee position branch.wants hx
    rw [Fork.step_fork]
    generalize teeSignal tee position branch.wants x? = served at *
    obtain ⟨-, hrest⟩ := List.forall_mem_cons.1 hbranches
    obtain ⟨hbranch, hrow⟩ := ih branch List.mem_cons_self hserved s
    rcases hstep : branch.step net now served.1 s with ⟨⟨branch', y?⟩, s'⟩
    rw [hstep] at hbranch hrow
    by_cases hdone : y? = some .done
    · rw [Fork.after_of_done hdone]
      exact ⟨hfork hbuffer hrest, by simp⟩
    · rw [Fork.after_of_ne hdone]
      exact ⟨hfork hbuffer (List.forall_mem_cons.2 ⟨hbranch, hrest⟩), hrow⟩

/-- Two stages, one below the other, leave what the lower one makes of what the upper one leaves. -/
theorem leaves_chain {G G₁ G₂ : Stage → Prop} {M : Row → Prop} {upper lower : Stage}
    (hchain : ∀ {upper lower : Stage}, G₁ upper → G₂ lower → G (.chain upper lower))
    (hupper : G₁ upper) (hlower : G₂ lower)
    (ihupper : ∀ {x? : Option Signal}, (∀ r, x? = some (.row r) → P r) →
      ∀ s, Leaves G₁ M (upper.step net now x? s).1)
    (ihlower : ∀ {x? : Option Signal}, (∀ r, x? = some (.row r) → M r) →
      ∀ s, Leaves G₂ Q (lower.step net now x? s).1)
    {x? : Option Signal} (hx : ∀ r, x? = some (.row r) → P r) (s : Session σ) :
    Leaves G Q ((Stage.chain upper lower).step net now x? s).1 := by
  cases hwants : lower.wants with
  | false =>
    have hnone : ∀ r, none = some (Signal.row r) → M r := by simp
    obtain ⟨hlower', hrow⟩ := ihlower hnone s
    rw [step_chain_of_not_wants hwants]
    exact ⟨hchain hupper hlower', hrow⟩
  | true =>
    obtain ⟨hupper', hrow⟩ := ihupper hx s
    rcases hstep : upper.step net now x? s with ⟨⟨upper', y?⟩, s'⟩
    rw [hstep] at hupper' hrow
    cases y? with
    | none =>
      rw [step_chain_of_none hwants hstep]
      exact ⟨hchain hupper' hlower, by simp⟩
    | some y =>
      have hy : ∀ r, some y = some (Signal.row r) → M r := hrow
      obtain ⟨hlower', hrow'⟩ := ihlower hy s'
      rw [step_chain_of_some hwants hstep]
      exact ⟨hchain hupper' hlower', hrow'⟩

/-- A bound join leaves rows that it keeps. -/
theorem leaves_remote {G : Stage → Prop} {j : BoundJoin}
    (hremote : ∀ {j : BoundJoin}, j.Carries P → G (.remote j)) (hP : Row.Upward P)
    (h : j.Carries P) {x? : Option Signal} (hx : ∀ r, x? = some (.row r) → P r) (s : Session σ) :
    Leaves G P ((Stage.remote j).step net now x? s).1 := by
  cases x? with
  | none =>
    obtain ⟨hcarries, hrow⟩ := h.advance hP net s
    rw [BoundJoin.step_none]
    exact ⟨hremote hcarries, hrow⟩
  | some x =>
    obtain ⟨hcarries, hne⟩ := h.accept fun r hr => hx r (congrArg some hr)
    rw [BoundJoin.step_some]
    exact ⟨hremote hcarries, fun r hr => absurd hr (hne r)⟩

/-- A stage is put together as a basic graph pattern is planned, and all rows that it keeps have a
property. -/
inductive Carries (P : Row → Prop) : Stage → Prop
  /-- Rows that are handed on are not kept. -/
  | input : Carries P .input
  /-- A condition keeps no rows. -/
  | filter (condition : Expression) : Carries P (.filter condition)
  /-- A bound join keeps rows. -/
  | remote {j : BoundJoin} (h : j.Carries P) : Carries P (.remote j)
  /-- The tee of a fork keeps rows, and its branches do. -/
  | fork {tee : Tee} {position : Nat} {branches : List Stage} (htee : ∀ r ∈ tee.buffer, P r)
    (hbranches : ∀ b ∈ branches, Carries P b) : Carries P (.fork tee position branches)
  /-- Two stages, one below the other, keep rows. -/
  | chain {upper lower : Stage} (hupper : Carries P upper) (hlower : Carries P lower) :
    Carries P (.chain upper lower)

variable {st : Stage}

/-- A weaker property. -/
theorem Carries.mono (h : st.Carries P) (hPQ : ∀ r, P r → Q r) : st.Carries Q := by
  induction h with
  | input => exact .input
  | filter condition => exact .filter condition
  | remote h =>
    exact .remote ⟨fun r hr => hPQ r (h.bucket r hr),
      fun round hround r hr => hPQ r (h.round round hround r hr),
      fun r hr => hPQ r (h.pending r hr)⟩
  | fork htee _ ih => exact .fork (fun r hr => hPQ r (htee r hr)) ih
  | chain _ _ hupper hlower => exact .chain hupper hlower

/-- **A stage of a pattern hands on what it carries.** If the rows that come in have the property,
so have those that are kept and those that are handed on. -/
theorem Carries.step (hP : Row.Upward P) (h : st.Carries P) (net : Network σ) (now : DateTime)
    {x? : Option Signal} (hx : ∀ r, x? = some (.row r) → P r) (s : Session σ) :
    (st.step net now x? s).1.1.Carries P ∧
      ∀ r, (st.step net now x? s).1.2 = some (.row r) → P r := by
  induction h generalizing x? s with
  | input => exact leaves_input .input hx s
  | filter condition => exact leaves_filter (.filter condition) hx s
  | remote h => exact leaves_remote .remote hP h hx s
  | fork htee hbranches ih => exact leaves_fork .fork htee hbranches (fun b hb _ => ih b hb) hx s
  | chain hupper hlower ihupper ihlower =>
    exact leaves_chain .chain hupper hlower ihupper ihlower hx s

/-- A closed client stays closed in a step of a stage of a pattern. -/
theorem Carries.isClosed_step (h : st.Carries P) {x? : Option Signal} {a : String}
    (hs : s.isClosed a = true) : (st.step net now x? s).2.isClosed a = true := by
  induction h generalizing x? s with
  | input => rcases x? with _ | _ | _ | _ <;> exact hs
  | filter condition =>
    rcases x? with _ | r | _ | _
    · exact hs
    · simp only [Stage.step, stepSignal, stepRow]
      split <;> exact hs
    · exact hs
    · exact hs
  | @remote j h =>
    cases x? with
    | none => exact BoundJoin.isClosed_advance hs
    | some x => exact hs
  | @fork tee position branches htee hbranches ih =>
    rcases branches with _ | ⟨branch, rest⟩
    · rw [Stage.step]
      exact hs
    · rw [Fork.step_fork]
      exact ih branch List.mem_cons_self hs
  | @chain upper lower hupper hlower ihupper ihlower =>
    cases hwants : lower.wants with
    | false =>
      rw [step_chain_of_not_wants hwants]
      exact ihlower hs
    | true =>
      have hupper' : (upper.step net now x? s).2.isClosed a = true := ihupper hs
      rcases hstep : upper.step net now x? s with ⟨⟨upper', y?⟩, s'⟩
      rw [hstep] at hupper'
      cases y? with
      | none =>
        rw [step_chain_of_none hwants hstep]
        exact hupper'
      | some y =>
        rw [step_chain_of_some hwants hstep]
        exact ihlower hupper'

/-- If no client is closed afterwards, none was closed before. -/
theorem Carries.isOpen_of_step (h : st.Carries P) {x? : Option Signal}
    (hopen : ∀ a, (st.step net now x? s).2.isClosed a = false) (a : String) :
    s.isClosed a = false := by
  cases hs : s.isClosed a with
  | false => rfl
  | true =>
    have hclosed : (st.step net now x? s).2.isClosed a = true := h.isClosed_step hs
    exact absurd (hopen a) (by simp [hclosed])

/-- If no client is closed afterwards, a step of a stage of a pattern is the one that it makes with
the network that closes none. -/
theorem Carries.step_of_cuts (hcuts : net.Cuts cut) (h : st.Carries P) {x? : Option Signal}
    (hopen : ∀ a, (st.step cut now x? s).2.isClosed a = false) :
    st.step cut now x? s = st.step net now x? s := by
  induction h generalizing x? s with
  | input => cases x? <;> rfl
  | filter condition => cases x? <;> rfl
  | @remote j h =>
    cases x? with
    | none =>
      rw [BoundJoin.step_none, BoundJoin.step_none, BoundJoin.advance_eq_of_cuts hcuts hopen]
    | some x => rfl
  | @fork tee position branches htee hbranches ih =>
    rcases branches with _ | ⟨branch, rest⟩
    · rw [Stage.step, Stage.step]
    · rw [Fork.step_fork] at hopen ⊢
      rw [Fork.step_fork, ih branch List.mem_cons_self hopen]
  | @chain upper lower hupper hlower ihupper ihlower =>
    cases hwants : lower.wants with
    | false =>
      rw [step_chain_of_not_wants hwants] at hopen ⊢
      rw [step_chain_of_not_wants hwants, ihlower hopen]
    | true =>
      rcases hstep : upper.step cut now x? s with ⟨⟨upper', y?⟩, s'⟩
      -- No client is closed in the middle of the step.
      have hbetween : ∀ a, (upper.step cut now x? s).2.isClosed a = false := by
        intro a
        rw [hstep]
        cases y? with
        | none =>
          rw [step_chain_of_none hwants hstep] at hopen
          exact hopen a
        | some y =>
          rw [step_chain_of_some hwants hstep] at hopen
          exact hlower.isOpen_of_step hopen a
      have hnet := (ihupper hbetween).symm.trans hstep
      cases y? with
      | none => rw [step_chain_of_none hwants hstep, step_chain_of_none hwants hnet]
      | some y =>
        rw [step_chain_of_some hwants hstep] at hopen ⊢
        rw [step_chain_of_some hwants hnet, ihlower hopen]

end Stage

end PagedSparql
