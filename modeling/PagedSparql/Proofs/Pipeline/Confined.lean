import PagedSparql.Proofs.Pipeline.BoundJoinRun
import PagedSparql.Proofs.Pipeline.Fork
import PagedSparql.Proofs.Pipeline.Leaf
import PagedSparql.Proofs.Pipeline.Nested
import PagedSparql.Proofs.Pipeline.Optional
import PagedSparql.Proofs.Protocol.ClosedClients

/-!
# Stages confined to some endpoints

A stage is confined to some endpoints if all its bound joins ask one of them, and if no part of it
keeps a failure to hand it on again (`Stage.Confined`). A step of a confined stage fetches through
their clients only. It fails only when a fetch has just failed, or when a failure comes from above;
otherwise the stage is still confined after it (`Stage.Confined.step`). So when the clients of all
these endpoints are closed, nothing is sent any more and nothing fails any more.

A single bound join whose client is closed comes to its end, whatever comes to it from above
(`BoundJoin.Ends`): it hands on what waits, may take in rows until its bucket is full, and is done
as soon as it would have to read a page.
-/

namespace PagedSparql

variable {σ : Type}

namespace Session

variable {net : Network σ} {asked : String → Prop} {s s' : Session σ} {e : TransportError}

/-- The session is later after an evaluation. -/
theorem Evaluated.later (h : Evaluated s s') : Later net asked s s' := by
  obtain ⟨evaluation, rfl⟩ := h
  exact Later.refl.evaluate evaluation

/-- A fetch through the client of one of some endpoints has failed just now. -/
def Failed (net : Network σ) (asked : String → Prop) (e : TransportError) (s s' : Session σ) :
    Prop :=
  ∃ s₁ address request, Later net asked s s₁ ∧ asked address ∧
    s₁.fetch net address request = (.error e, s')

/-- What has failed later has failed. -/
theorem Failed.of_later {s₁ : Session σ} (h : Later net asked s s₁)
    (hfailed : Failed net asked e s₁ s') : Failed net asked e s s' := by
  obtain ⟨s₂, address, request, hlater, ha, hfetch⟩ := hfailed
  exact ⟨s₂, address, request, h.trans hlater, ha, hfetch⟩

/-- Nothing fails when all clients are closed. -/
theorem not_failed_of_closed (h : ∀ a, asked a → s.isClosed a = true) :
    ¬Failed net asked e s s' := by
  rintro ⟨s₁, address, request, hlater, ha, hfetch⟩
  rw [fetch_of_closed (hlater.isClosed (h address ha))] at hfetch
  exact absurd hfetch (by simp)

end Session

/-- A bound join asks one of some endpoints, also for the pages of its round. -/
structure BoundJoin.Confined (asked : String → Prop) (j : BoundJoin) : Prop where
  /-- The endpoint is one of them. -/
  goal : asked j.goal.address
  /-- Pages come from this endpoint. -/
  pages : ∀ round ∈ j.round?, round.pages.address = j.goal.address

namespace BoundJoin

variable {net : Network σ} {asked asked' : String → Prop} {j : BoundJoin} {s : Session σ}

/-- The first page of a round comes from the endpoint of the join. -/
theorem address_start (goal : BoundPattern) (bucket : List Row) :
    (Round.start goal bucket).pages.address = goal.address := by
  unfold Round.start
  split <;> rfl

/-- A round begins at the endpoint of the join. -/
theorem Confined.startRound (h : j.Confined asked) : j.startRound.Confined asked := by
  unfold BoundJoin.startRound
  split
  · exact ⟨h.goal, h.pages⟩
  · refine ⟨h.goal, fun round hround => ?_⟩
    obtain rfl := Option.some.inj hround
    exact address_start j.goal j.bucket

/-- A bound join takes in what comes from above without asking anybody, and hands on failures only.
-/
theorem Confined.accept (h : j.Confined asked) (x : Signal) :
    (j.accept x).1.Confined asked ∧ ∀ e, (j.accept x).2 = some (.fail e) → x = .fail e := by
  cases x with
  | row r =>
    have hrow : ({ j with bucket := j.bucket ++ [r] } : BoundJoin).Confined asked :=
      ⟨h.goal, h.pages⟩
    refine ⟨?_, fun e he => absurd he (by simp [BoundJoin.accept])⟩
    simp only [BoundJoin.accept]
    split
    · exact hrow
    · exact hrow.startRound
  | done =>
    have hdone : ({ j with inputDone := true } : BoundJoin).Confined asked := ⟨h.goal, h.pages⟩
    exact ⟨hdone.startRound, fun e he => absurd he (by simp [BoundJoin.accept])⟩
  | fail e =>
    refine ⟨⟨h.goal, h.pages⟩, fun e' he => ?_⟩
    simpa [BoundJoin.accept] using he

/-- A bound join takes in a page from its endpoint; it fails only if there is none. -/
theorem Confined.takePage (h : j.Confined asked) {round : Round}
    (hround : round.pages.address = j.goal.address) (closed : Bool)
    (page? : Except TransportError (Option Page)) :
    (j.takePage round closed page?).1.Confined asked ∧
      ∀ e, (j.takePage round closed page?).2 = some (.fail e) → page? = .error e := by
  cases page? with
  | error e =>
    refine ⟨⟨h.goal, fun round' hround' => ?_⟩, fun e' he => ?_⟩
    · obtain rfl := Option.some.inj hround'
      exact hround
    · simpa [BoundJoin.takePage] using he
  | ok page? =>
    cases closed with
    | true => exact ⟨⟨h.goal, by simp [BoundJoin.takePage]⟩, by simp [BoundJoin.takePage]⟩
    | false =>
      cases page? with
      | none => exact ⟨⟨h.goal, by simp [BoundJoin.takePage]⟩, by simp [BoundJoin.takePage]⟩
      | some page =>
        refine ⟨⟨h.goal, fun round' hround' => ?_⟩, by simp [BoundJoin.takePage]⟩
        obtain rfl := Option.some.inj hround'
        exact hround

/-- A bound join asks its endpoint only, and fails only when that does. -/
theorem Confined.advance (h : j.Confined asked) (net : Network σ) (s : Session σ) :
    (j.advance net s).1.1.Confined asked ∧ s.Later net asked (j.advance net s).2 ∧
      ∀ e, (j.advance net s).1.2 = some (.fail e) →
        Session.Failed net asked e s (j.advance net s).2 := by
  cases hp : j.pending with
  | cons r rest =>
    rw [advance_of_pending hp]
    exact ⟨⟨h.goal, h.pages⟩, .refl, by simp⟩
  | nil =>
    cases hf : j.finished with
    | true =>
      rw [advance_of_finished hp hf]
      exact ⟨h, .refl, by simp⟩
    | false =>
      cases hr : j.round? with
      | none =>
        rw [advance_of_idle hp hf hr]
        exact ⟨⟨h.goal, h.pages⟩, .refl, by simp⟩
      | some round =>
        have hround := h.pages round hr
        cases hpages : round.pages.finished with
        | true =>
          -- No page is left, so nothing is fetched.
          have hadvance : j.advance net s =
              (j.takePage round (s.isClosed j.goal.address) (.ok none), s) := by
            simp [BoundJoin.advance, hp, hf, hr, PageSequence.next_of_finished hpages]
          obtain ⟨hconfined, hfails⟩ := h.takePage hround (s.isClosed j.goal.address) (.ok none)
          rw [hadvance]
          exact ⟨hconfined, .refl, fun e he => absurd (hfails e he) (by simp)⟩
        | false =>
          have ha : asked round.pages.address := hround ▸ h.goal
          rw [advance_of_reading hp hf hr hpages]
          -- The next page is fetched, from the endpoint of the join.
          rcases hfetch : s.fetch net round.pages.address round.pages.request with ⟨page?, s'⟩
          have hround' : { round with pages := round.pages.advance page? }.pages.address =
              j.goal.address := (round.pages.advance_about _).1.trans hround
          obtain ⟨hconfined, hfails⟩ :=
            h.takePage hround' (s'.isClosed j.goal.address) (page?.map some)
          have hlater : s.Later net asked s' := by
            have hlater : s.Later net asked
                (s.fetch net round.pages.address round.pages.request).2 :=
              Session.Later.refl.fetch ha round.pages.request
            rwa [hfetch] at hlater
          refine ⟨hconfined, hlater, fun e he => ?_⟩
          cases page? with
          | ok page => exact absurd (hfails e he) (by simp [Except.map])
          | error e' =>
            obtain rfl : e' = e := by simpa [Except.map] using hfails e he
            exact ⟨s, _, _, .refl, ha, hfetch⟩

/-- What is said of some endpoints is said of more. -/
theorem Confined.mono (h : j.Confined asked) (hasked : ∀ a, asked a → asked' a) :
    j.Confined asked' := ⟨hasked _ h.goal, h.pages⟩

end BoundJoin

namespace Tee

variable {t t' : Tee} {i : Nat} {x : Signal}

/-- The source of the tee has not failed. -/
def Unfailed (t : Tee) : Prop := ∀ e, t.ending? ≠ some (.failed e)

/-- What a tee serves is no failure if its source has not failed. -/
theorem Unfailed.serve? (h : t.Unfailed) (hserve : t.serve? i = some (x, t')) :
    (∀ e, x ≠ .fail e) ∧ t'.Unfailed := by
  obtain ⟨r, -, hserve⟩ := Option.bind_eq_some_iff.1 hserve
  split at hserve
  · obtain ⟨rfl, rfl⟩ := Prod.mk.inj (Option.some.inj hserve)
    exact ⟨by simp, h⟩
  · obtain ⟨ending, hending, hserve⟩ := Option.bind_eq_some_iff.1 hserve
    cases ending with
    | done =>
      obtain ⟨rfl, rfl⟩ := Prod.mk.inj (Option.some.inj hserve)
      exact ⟨by simp, h⟩
    | failed e => exact absurd hending (h e)

/-- A reader that asks the source gets its answer, if that is no failure then no failure. -/
theorem Unfailed.answer (h : t.Unfailed) (hx : ∀ e, x ≠ .fail e) :
    (∀ e, (t.answer i x).1 ≠ .fail e) ∧ (t.answer i x).2.Unfailed := by
  have hreceive : (t.receive x).Unfailed := by
    cases x with
    | row r => exact h
    | done => exact fun e => by simp [receive]
    | fail e => exact absurd rfl (hx e)
  rw [Tee.answer]
  cases hserve : (t.receive x).serve? i with
  | none => exact ⟨hx, hreceive⟩
  | some out => exact hreceive.serve? hserve

/-- A reader that asks a source that fails gets the failure. -/
theorem answer_fail (hserve : t.serve? i = none) (e : TransportError) :
    (t.answer i (.fail e)).1 = .fail e := by
  rw [answer]
  cases hserve' : (t.receive (.fail e)).serve? i with
  | none => rfl
  | some out =>
    obtain ⟨r, hr, hserve'⟩ := Option.bind_eq_some_iff.1 hserve'
    -- There is no row for the reader, as there was none before.
    have hrow : t.buffer[r.taken - t.dropped]? = none := by
      by_contra hne
      obtain ⟨row, hrow⟩ := Option.ne_none_iff_exists'.1 hne
      have hr' : t.readers[i]? = some r := hr
      simp [serve?, hr', hrow] at hserve
    have hrow' : (t.receive (.fail e)).buffer[r.taken - (t.receive (.fail e)).dropped]? = none :=
      hrow
    rw [hrow'] at hserve'
    obtain rfl := Option.some.inj hserve'
    rfl

end Tee

namespace Stage

/-- What a branch of a fork gets is a failure only if it comes from above, and the branch wants it;
else the tee has seen none. -/
theorem teeSignal_unfailed {tee : Tee} (h : tee.Unfailed) (position : Nat) (branchWants : Bool)
    (x? : Option Signal) :
    (∀ e, (teeSignal tee position branchWants x?).1 = some (.fail e) →
      x? = some (.fail e) ∧ branchWants = true) ∧
    ((∀ e, (teeSignal tee position branchWants x?).1 ≠ some (.fail e)) →
      (teeSignal tee position branchWants x?).2.Unfailed) := by
  cases branchWants with
  | false => exact ⟨by simp [teeSignal], fun _ => h⟩
  | true =>
    cases hserve : tee.serve? position with
    | some out =>
      have hsignal : teeSignal tee position true x? = (some out.1, out.2) := by
        simp [teeSignal, hserve]
      obtain ⟨hne, hunfailed⟩ := h.serve? hserve
      rw [hsignal]
      exact ⟨fun e he => absurd (Option.some.inj he) (hne e), fun _ => hunfailed⟩
    | none =>
      cases x? with
      | none => exact ⟨by simp [teeSignal, hserve], fun _ => by simpa [teeSignal, hserve] using h⟩
      | some x =>
        have hsignal : teeSignal tee position true (some x) =
            (some (tee.answer position x).1, (tee.answer position x).2) := by
          simp [teeSignal, hserve]
        rw [hsignal]
        by_cases hx : ∃ e, x = .fail e
        · obtain ⟨e, rfl⟩ := hx
          rw [Tee.answer_fail hserve]
          exact ⟨fun e' he => ⟨he, rfl⟩, fun hne => absurd rfl (hne e)⟩
        · obtain ⟨hne, hunfailed⟩ := h.answer (i := position) fun e he => hx ⟨e, he⟩
          exact ⟨fun e he => absurd (Option.some.inj he) (hne e), fun _ => hunfailed⟩

/-- A stage asks some endpoints only, and keeps no failure. -/
inductive Confined (asked : String → Prop) : Stage → Prop
  /-- A stage without stages inside asks nobody. -/
  | leaf {st : Stage} (h : st.isLeaf = true) : Confined asked st
  /-- A bound join asks its endpoint. -/
  | remote {j : BoundJoin} (h : j.Confined asked) : Confined asked (.remote j)
  /-- A join with a stage asks whom the two stages ask. -/
  | nested {left right : Stage} {loaded : Bool} {table : List Row}
    {current : Option (Row × List Row)} (hleft : Confined asked left)
    (hright : Confined asked right) : Confined asked (.nested left right loaded table current)
  /-- A fork asks whom its branches ask, and has seen no failure. -/
  | fork {tee : Tee} {position : Nat} {branches : List Stage}
    (htee : tee.Unfailed) (hbranches : ∀ b ∈ branches, Confined asked b) :
    Confined asked (.fork tee position branches)
  /-- The numbering of rows asks whom the inner stage asks. -/
  | optional {tag : Variable} {inner : Stage} {next : Nat} {unmatched : List (Int × Row)}
    {leftovers : Option (List Row)} (hinner : Confined asked inner) :
    Confined asked (.optional tag inner next unmatched leftovers)
  /-- Two stages, one below the other, ask whom each of them asks. -/
  | chain {upper lower : Stage} (hupper : Confined asked upper) (hlower : Confined asked lower) :
    Confined asked (.chain upper lower)

variable {net : Network σ} {now : DateTime} {asked asked' : String → Prop} {st upper lower : Stage}
  {s s' : Session σ}

/-- What is said of some endpoints is said of more. -/
theorem Confined.mono (h : st.Confined asked) (hasked : ∀ a, asked a → asked' a) :
    st.Confined asked' := by
  induction h with
  | leaf h => exact .leaf h
  | remote h => exact .remote (h.mono hasked)
  | nested _ _ hleft hright => exact .nested hleft hright
  | fork htee _ hbranches => exact .fork htee hbranches
  | optional _ hinner => exact .optional hinner
  | chain _ _ hupper hlower => exact .chain hupper hlower

/-- A failure that comes to a stage that wants a row is handed on at once. -/
theorem step_fail (net : Network σ) (now : DateTime) (e : TransportError) (st : Stage)
    (s : Session σ) (hwants : st.wants = true) :
    ∃ st', st.step net now (some (.fail e)) s = ((st', some (.fail e)), s) := by
  match st with
  | .input => exact ⟨_, rfl⟩
  | .source _ _ => exact absurd hwants (by simp [wants])
  | .filter _ => exact ⟨_, rfl⟩
  | .bind _ _ => exact ⟨_, rfl⟩
  | .values _ => exact ⟨_, rfl⟩
  | .project _ _ => exact ⟨_, rfl⟩
  | .distinct _ => exact ⟨_, rfl⟩
  | .slice _ _ => exact ⟨_, rfl⟩
  | .sort _ _ _ => exact ⟨_, rfl⟩
  | .group _ _ _ _ => exact ⟨_, rfl⟩
  | .remote _ => exact ⟨_, rfl⟩
  | .nested left right false table current =>
    obtain ⟨right', hright⟩ := step_fail net now e right s hwants
    exact ⟨_, by rw [step, hright]⟩
  | .nested left right true table (some _) => exact absurd hwants (by simp [wants])
  | .nested left right true table none =>
    obtain ⟨left', hleft⟩ := step_fail net now e left s hwants
    exact ⟨_, by rw [step, hleft]⟩
  | .fork _ _ [] => exact absurd hwants (by simp [wants])
  | .fork tee position (branch :: rest) =>
    obtain ⟨hbranch, hserve⟩ := Bool.and_eq_true_iff.1 hwants
    rw [Option.isNone_iff_eq_none] at hserve
    -- The tee has nothing for a branch that waits, so the failure goes through to it.
    have hsignal : (teeSignal tee position branch.wants (some (.fail e))).1 = some (.fail e) := by
      simp [teeSignal, hbranch, hserve, Tee.answer_fail hserve]
    obtain ⟨branch', hbranch⟩ := step_fail net now e branch s hbranch
    exact ⟨_, by rw [Fork.step_fork, hsignal, hbranch, Fork.after_of_ne (by simp)]⟩
  | .optional _ _ _ _ (some _) => exact absurd hwants (by simp [wants])
  | .optional tag inner next unmatched none =>
    obtain ⟨inner', hinner⟩ := step_fail net now e inner s (by simpa [wants] using hwants)
    exact ⟨.optional tag inner' next unmatched none,
      by rw [Optional.step_optional net now inner next unmatched (by simp), hinner]; rfl⟩
  | .chain upper lower =>
    obtain ⟨hlower, hupper⟩ := Bool.and_eq_true_iff.1 hwants
    obtain ⟨upper', hupper⟩ := step_fail net now e upper s hupper
    obtain ⟨lower', hlower'⟩ := step_fail net now e lower s hlower
    exact ⟨_, by rw [step_chain_of_some hlower hupper, hlower']⟩

/-- What a step of a confined stage comes to. -/
structure Stepped (net : Network σ) (asked : String → Prop) (x? : Option Signal) (s : Session σ)
    (out : (Stage × Option Signal) × Session σ) : Prop where
  /-- Only clients of some endpoints were asked. -/
  later : s.Later net asked out.2
  /-- The stage is still confined, unless it has failed. -/
  confined : (∀ e, out.1.2 ≠ some (.fail e)) → out.1.1.Confined asked
  /-- If it has failed, the failure came from above, or a fetch has failed. -/
  fails : ∀ e, out.1.2 = some (.fail e) → x? = some (.fail e) ∨ Session.Failed net asked e s out.2

/-- A step of a stage inside another is one in the same company. -/
theorem Stepped.of_later {x? : Option Signal} {s₁ : Session σ}
    {out : (Stage × Option Signal) × Session σ} (h : s.Later net asked s₁)
    (hout : Stepped net asked x? s₁ out) : Stepped net asked x? s out where
  later := h.trans hout.later
  confined := hout.confined
  fails e he := (hout.fails e he).imp_right (.of_later h)

/-- A leaf stays one on its own, and does not fail. -/
theorem isLeaf_stepAlone (h : st.isLeaf = true) :
    (stepAlone st).1.isLeaf = true ∧ ∀ e, (stepAlone st).2 ≠ some (.fail e) := by
  cases st with
  | source rows ending =>
    cases ending with
    | done => cases rows <;> exact ⟨rfl, by simp [stepAlone, Ending.signal]⟩
    | failed e => exact absurd h (by simp [isLeaf])
  | sort conditions taken sorted =>
    rcases sorted with _ | _ | ⟨r, rest⟩ <;> exact ⟨rfl, by simp [stepAlone, popRow]⟩
  | group keys folds taken groups =>
    rcases groups with _ | _ | ⟨r, rest⟩ <;> exact ⟨rfl, by simp [stepAlone, popRow]⟩
  | _ => exact ⟨h, by simp [stepAlone]⟩

/-- A leaf stays one at the end of the rows, and does not fail. -/
theorem isLeaf_stepDone (h : st.isLeaf = true) (now : DateTime) (s : Session σ) :
    (stepDone now st s).1.1.isLeaf = true ∧ ∀ e, (stepDone now st s).1.2 ≠ some (.fail e) := by
  cases st with
  | sort conditions taken sorted => exact ⟨rfl, by simp [stepDone]⟩
  | group keys folds taken groups => exact ⟨rfl, by simp [stepDone]⟩
  | _ => exact ⟨h, by simp [stepDone]⟩

/-- A step of a leaf asks nobody, and fails only if there is a failure above. -/
theorem stepped_leaf (h : st.isLeaf = true) (x? : Option Signal) :
    Stepped net asked x? s (st.step net now x? s) := by
  cases x? with
  | none =>
    obtain ⟨hleaf, hne⟩ := isLeaf_stepAlone h
    rw [step_leaf_none h]
    exact ⟨.refl, fun _ => .leaf hleaf, fun e he => absurd he (hne e)⟩
  | some x =>
    rw [step_leaf_some h]
    cases x with
    | row r =>
      obtain ⟨hstays, y?, hy⟩ := stepRow_leaf h now r s
      refine ⟨hstays.evaluated.later, fun _ => .leaf hstays.isLeaf, fun e he => ?_⟩
      have hrow : y?.map Signal.row = some (.fail e) := hy.symm.trans he
      cases y? <;> exact absurd hrow (by simp)
    | done =>
      obtain ⟨hleaf, hne⟩ := isLeaf_stepDone h now s
      exact ⟨(stepDone_leaf h now s).1.later, fun _ => .leaf hleaf,
        fun e he => absurd he (hne e)⟩
    | fail e =>
      have hfail : (stepFail st e).2 = some (.fail e) := by cases st <;> rfl
      refine ⟨.refl, fun hne => absurd hfail (hne e), fun e' he => .inl ?_⟩
      exact hfail.symm.trans he

/-- A step of a confined bound join, which asks its endpoint only when it goes on. -/
theorem stepped_remote {j : BoundJoin} (h : j.Confined asked) (x? : Option Signal) :
    Stepped net asked x? s ((Stage.remote j).step net now x? s) := by
  cases x? with
  | none =>
    obtain ⟨hconfined, hlater, hfails⟩ := h.advance net s
    rw [BoundJoin.step_none]
    exact ⟨hlater, fun _ => .remote hconfined, fun e he => .inr (hfails e he)⟩
  | some x =>
    obtain ⟨hconfined, hfails⟩ := h.accept x
    rw [BoundJoin.step_some]
    exact ⟨.refl, fun _ => .remote hconfined, fun e he => .inl (congrArg some (hfails e he))⟩

/-- A step of a join with a stage is one of the right stage while the table is filled, then one of
the left stage, or asks nobody. -/
theorem stepped_nested {left right : Stage} {x? : Option Signal} (hleft : left.Confined asked)
    (hright : right.Confined asked) (ihleft : Stepped net asked x? s (left.step net now x? s))
    (ihright : Stepped net asked x? s (right.step net now x? s)) (loaded : Bool) (table : List Row)
    (current : Option (Row × List Row)) :
    Stepped net asked x? s ((Stage.nested left right loaded table current).step net now x? s) := by
  cases loaded with
  | false =>
    rw [Stage.step]
    rcases hstep : right.step net now x? s with ⟨⟨right', y?⟩, s'⟩
    rw [hstep] at ihright
    rcases y? with _ | r | _ | e
    · exact ⟨ihright.later, fun _ => .nested hleft (ihright.confined (by simp)), by simp⟩
    · exact ⟨ihright.later, fun _ => .nested hleft (ihright.confined (by simp)), by simp⟩
    · exact ⟨ihright.later, fun _ => .nested hleft (.leaf rfl), by simp⟩
    · exact ⟨ihright.later, fun _ => .nested hleft (.leaf rfl), ihright.fails⟩
  | true =>
    rcases current with _ | ⟨r, rest⟩
    · rw [Stage.step]
      rcases hstep : left.step net now x? s with ⟨⟨left', y?⟩, s'⟩
      rw [hstep] at ihleft
      rcases y? with _ | r | _ | e
      · exact ⟨ihleft.later, fun _ => .nested (ihleft.confined (by simp)) hright, by simp⟩
      · exact ⟨ihleft.later, fun _ => .nested (ihleft.confined (by simp)) hright, by simp⟩
      · exact ⟨ihleft.later, fun _ => .nested (ihleft.confined (by simp)) hright, by simp⟩
      · exact ⟨ihleft.later, fun hne => absurd rfl (hne e), ihleft.fails⟩
    · rw [Stage.step]
      rcases nextMerge r rest with _ | ⟨row, rest'⟩
      · exact ⟨.refl, fun _ => .nested hleft hright, by simp⟩
      · exact ⟨.refl, fun _ => .nested hleft hright, by simp⟩

/-- A step of a fork is one of the branch that is read. -/
theorem stepped_fork {tee : Tee} {branches : List Stage} (htee : tee.Unfailed)
    (hbranches : ∀ b ∈ branches, b.Confined asked)
    (ih : ∀ b ∈ branches, ∀ x?, Stepped net asked x? s (b.step net now x? s)) (position : Nat)
    (x? : Option Signal) :
    Stepped net asked x? s ((Stage.fork tee position branches).step net now x? s) := by
  rcases branches with _ | ⟨branch, rest⟩
  · rw [Stage.step]
    exact ⟨.refl, fun _ => .fork htee (by simp), by simp⟩
  · obtain ⟨hsignal, hunfailed⟩ := teeSignal_unfailed htee position branch.wants x?
    rw [Fork.step_fork]
    generalize teeSignal tee position branch.wants x? = served at *
    obtain ⟨-, hrest⟩ := List.forall_mem_cons.1 hbranches
    have hout := ih branch List.mem_cons_self served.1
    by_cases hfail : ∃ e, served.1 = some (.fail e)
    · -- The tee has just seen a failure, and the branch hands it on.
      obtain ⟨e, hserved⟩ := hfail
      obtain ⟨hx, hwants⟩ := hsignal e hserved
      obtain ⟨branch', hbranch⟩ := step_fail net now e branch s hwants
      rw [hserved, hbranch, Fork.after_of_ne (by simp)]
      exact ⟨.refl, fun hne => absurd rfl (hne e), fun e' he => .inl (hx.trans he)⟩
    · have htee' := hunfailed fun e he => hfail ⟨e, he⟩
      rcases hstep : branch.step net now served.1 s with ⟨⟨branch', y?⟩, s'⟩
      rw [hstep] at hout
      by_cases hdone : y? = some .done
      · rw [Fork.after_of_done hdone]
        exact ⟨hout.later, fun _ => .fork htee' hrest, by simp⟩
      · rw [Fork.after_of_ne hdone]
        refine ⟨hout.later, fun hne => .fork htee' ?_, fun e he => .inr ?_⟩
        · exact List.forall_mem_cons.2 ⟨hout.confined hne, hrest⟩
        · exact (hout.fails e he).resolve_left fun hx => hfail ⟨e, hx⟩

/-- A step of the numbering of rows is one of the inner stage, as long as that has not come to its
end. -/
theorem stepped_optional {inner : Stage} (hinner : inner.Confined asked)
    (ih : ∀ x?, Stepped net asked x? s (inner.step net now x? s)) (tag : Variable) (next : Nat)
    (unmatched : List (Int × Row)) (leftovers : Option (List Row)) (x? : Option Signal) :
    Stepped net asked x? s
      ((Stage.optional tag inner next unmatched leftovers).step net now x? s) := by
  cases leftovers with
  | some rows =>
    rw [Stage.step]
    cases rows <;> exact ⟨.refl, fun _ => .optional hinner, by simp [popRow]⟩
  | none =>
    obtain ⟨y?, next', unmatched', hy, hoptional⟩ :=
      Optional.exists_step net now tag inner next unmatched x? s
    have hout := ih y?
    rw [hoptional]
    rcases hstep : inner.step net now y? s with ⟨⟨inner', z?⟩, s'⟩
    rw [hstep] at hout
    rcases z? with _ | r | _ | e
    · exact ⟨hout.later, fun _ => .optional (hout.confined (by simp)), by simp [Optional.after]⟩
    · exact ⟨hout.later, fun _ => .optional (hout.confined (by simp)), by simp [Optional.after]⟩
    · exact ⟨hout.later, fun _ => .optional (hout.confined (by simp)), by simp [Optional.after]⟩
    · exact ⟨hout.later, fun hne => absurd rfl (hne e),
        fun e' he => (hout.fails e' he).imp_left (hy e')⟩

/-- A step of two stages, one below the other, is one of the lower stage, or one of the upper stage
and then, if that brings something, one of the lower stage. -/
theorem stepped_chain {x? : Option Signal} (hupper : upper.Confined asked)
    (hlower : lower.Confined asked) (ihupper : Stepped net asked x? s (upper.step net now x? s))
    (ihlower : ∀ x? s, Stepped net asked x? s (lower.step net now x? s)) :
    Stepped net asked x? s ((Stage.chain upper lower).step net now x? s) := by
  cases hwants : lower.wants with
  | false =>
    have hout := ihlower none s
    rw [step_chain_of_not_wants hwants]
    exact ⟨hout.later, fun hne => .chain hupper (hout.confined hne),
      fun e he => .inr ((hout.fails e he).resolve_left (by simp))⟩
  | true =>
    rcases hstep : upper.step net now x? s with ⟨⟨upper', y?⟩, s'⟩
    rw [hstep] at ihupper
    cases y? with
    | none =>
      rw [step_chain_of_none hwants hstep]
      exact ⟨ihupper.later, fun _ => .chain (ihupper.confined (by simp)) hlower, by simp⟩
    | some y =>
      rw [step_chain_of_some hwants hstep]
      by_cases hfail : ∃ e, y = .fail e
      · -- The lower stage hands the failure on.
        obtain ⟨e, rfl⟩ := hfail
        obtain ⟨lower', hlower'⟩ := step_fail net now e lower s' hwants
        rw [hlower']
        exact ⟨ihupper.later, fun hne => absurd rfl (hne e), ihupper.fails⟩
      · have hne : ∀ e, y ≠ .fail e := fun e he => hfail ⟨e, he⟩
        have hout := (ihlower (some y) s').of_later ihupper.later
        refine ⟨hout.later, fun hne' => ?_, fun e he => .inr ?_⟩
        · exact .chain (ihupper.confined fun e he => hne e (Option.some.inj he))
            (hout.confined hne')
        · exact (hout.fails e he).resolve_left fun he => hne e (Option.some.inj he)

/-- **A step of a confined stage asks confined endpoints only, and fails only with them.** -/
theorem Confined.step (h : st.Confined asked) (net : Network σ) (now : DateTime)
    (x? : Option Signal) (s : Session σ) :
    Stepped net asked x? s (st.step net now x? s) := by
  induction h generalizing x? s with
  | leaf h => exact stepped_leaf h x?
  | remote h => exact stepped_remote h x?
  | nested hleft hright ihleft ihright =>
    exact stepped_nested hleft hright (ihleft x? s) (ihright x? s) _ _ _
  | fork htee hbranches ih =>
    exact stepped_fork htee hbranches (fun b hb x? => ih b hb x? s) _ x?
  | optional hinner ih => exact stepped_optional hinner (fun x? => ih x? s) _ _ _ _ x?
  | chain hupper hlower ihupper ihlower =>
    exact stepped_chain hupper hlower (ihupper x? s) ihlower

/-- What a pull of a confined stage comes to. -/
theorem Confined.pull (h : st.Confined asked) (net : Network σ) (now : DateTime) (n : Nat)
    (s : Session σ) :
    s.Later net asked (st.pull net now n s).2.2 ∧
      ((∀ e, (st.pull net now n s).1 ≠ some (.fail e)) →
        (st.pull net now n s).2.1.Confined asked) ∧
      ∀ e, (st.pull net now n s).1 = some (.fail e) →
        Session.Failed net asked e s (st.pull net now n s).2.2 := by
  induction n generalizing st s with
  | zero => exact ⟨.refl, fun _ => h, by simp [Stage.pull]⟩
  | succ n ih =>
    have hout := h.step net now (if st.wants then some .done else none) s
    have hnone : ∀ e, (if st.wants then some Signal.done else none) ≠ some (.fail e) := by
      intro e
      split <;> simp
    rw [Stage.pull]
    rcases hstep : st.step net now (if st.wants then some .done else none) s with ⟨⟨st', y?⟩, s'⟩
    rw [hstep] at hout
    cases y? with
    | none =>
      obtain ⟨hlater, hconfined, hfails⟩ := ih (hout.confined (by simp)) s'
      exact ⟨hout.later.trans hlater, hconfined, fun e he => (hfails e he).of_later hout.later⟩
    | some y =>
      exact ⟨hout.later, hout.confined, fun e he => (hout.fails e he).resolve_left (hnone e)⟩

/-- A bound join is part of a stage. -/
inductive Holds (j : BoundJoin) : Stage → Prop
  /-- It is the stage itself. -/
  | remote : Holds j (.remote j)
  /-- It is part of the left one of two stages that are joined. -/
  | left {left right : Stage} {loaded : Bool} {table : List Row}
    {current : Option (Row × List Row)} (h : Holds j left) :
    Holds j (.nested left right loaded table current)
  /-- It is part of the right one of two stages that are joined. -/
  | right {left right : Stage} {loaded : Bool} {table : List Row}
    {current : Option (Row × List Row)} (h : Holds j right) :
    Holds j (.nested left right loaded table current)
  /-- It is part of a branch. -/
  | branch {tee : Tee} {position : Nat} {branches : List Stage} {branch : Stage}
    (hbranch : branch ∈ branches) (h : Holds j branch) : Holds j (.fork tee position branches)
  /-- It is part of a stage around which rows are numbered. -/
  | inner {tag : Variable} {inner : Stage} {next : Nat} {unmatched : List (Int × Row)}
    {leftovers : Option (List Row)} (h : Holds j inner) :
    Holds j (.optional tag inner next unmatched leftovers)
  /-- It is part of the upper one of two stages. -/
  | upper {upper lower : Stage} (h : Holds j upper) : Holds j (.chain upper lower)
  /-- It is part of the lower one of two stages. -/
  | lower {upper lower : Stage} (h : Holds j lower) : Holds j (.chain upper lower)

/-- The bound joins of a confined stage are confined. -/
theorem Confined.of_holds {j : BoundJoin} (h : st.Confined asked) (hj : Holds j st) :
    j.Confined asked := by
  induction hj with
  | remote =>
    cases h with
    | leaf h => exact absurd h (by simp [isLeaf])
    | remote h => exact h
  | left _ ih =>
    cases h with
    | leaf h => exact absurd h (by simp [isLeaf])
    | nested hleft _ => exact ih hleft
  | right _ ih =>
    cases h with
    | leaf h => exact absurd h (by simp [isLeaf])
    | nested _ hright => exact ih hright
  | branch hbranch _ ih =>
    cases h with
    | leaf h => exact absurd h (by simp [isLeaf])
    | fork _ hbranches => exact ih (hbranches _ hbranch)
  | inner _ ih =>
    cases h with
    | leaf h => exact absurd h (by simp [isLeaf])
    | optional hinner => exact ih hinner
  | upper _ ih =>
    cases h with
    | leaf h => exact absurd h (by simp [isLeaf])
    | chain hupper _ => exact ih hupper
  | lower _ ih =>
    cases h with
    | leaf h => exact absurd h (by simp [isLeaf])
    | chain _ hlower => exact ih hlower

end Stage

namespace BoundJoin

/-- A bound join comes to its end as long as its client is closed, whatever comes from above. It
takes in so many rows at most, asks nobody, and hands on no failure but those from above. -/
inductive Ends (net : Network σ) : Nat → BoundJoin → Prop
  /-- It is done, for ever. -/
  | over {n : Nat} {j : BoundJoin} (hwants : j.wants = false)
    (done : ∀ s, s.isClosed j.goal.address = true → ∃ j', j.advance net s = ((j', some .done), s) ∧
      j'.finished = true ∧ j'.pending = []) : Ends net n j
  /-- It makes a step on its own. -/
  | act {n : Nat} {j : BoundJoin} (hwants : j.wants = false)
    (stays : ∀ s, s.isClosed j.goal.address = true → (j.advance net s).2 = s)
    (succeeds : ∀ s e, s.isClosed j.goal.address = true →
      (j.advance net s).1.2 ≠ some (.fail e))
    (rest : ∀ s, s.isClosed j.goal.address = true → Ends net n (j.advance net s).1.1) :
    Ends net n j
  /-- It takes in what comes from above. -/
  | take {n : Nat} {j : BoundJoin} (hwants : j.wants = true)
    (waits : ∀ x, (∀ e, x ≠ .fail e) → (j.accept x).2 = none)
    (row : ∀ r, Ends net n (j.accept (.row r)).1) (last : Ends net n (j.accept .done).1)
    (fail : ∀ e, (j.accept (.fail e)).2 = some (.fail e)) : Ends net (n + 1) j

variable {net : Network σ} {asked : String → Prop} {j : BoundJoin}

/-- A bound join that would read a page through a closed client is done, and asks nobody. -/
theorem advance_of_closed {round : Round} {s : Session σ} (hp : j.pending = [])
    (hf : j.finished = false) (hr : j.round? = some round)
    (hround : round.pages.address = j.goal.address) (hs : s.isClosed j.goal.address = true) :
    ∃ j', j.advance net s = ((j', some .done), s) ∧ j'.finished = true ∧ j'.pending = [] := by
  cases hpages : round.pages.finished with
  | true =>
    refine ⟨{ j with round? := none, pending := [], finished := true }, ?_, rfl, rfl⟩
    simp [advance, hp, hf, hr, PageSequence.next_of_finished hpages, takePage, hs]
  | false =>
    refine ⟨{ j with round? := none, pending := [], finished := true }, ?_, rfl, rfl⟩
    have hfetch : s.fetch net round.pages.address round.pages.request = (.ok .exhausted, s) :=
      Session.fetch_of_closed (by rwa [hround])
    rw [advance_of_reading hp hf hr hpages, hfetch]
    simp [takePage, hs, Except.map]

/-- A bound join wants no rows while it is busy. -/
theorem wants_of_busy
    (hbusy : j.finished = true ∨ j.round?.isSome = true ∨ j.inputDone = true) : j.wants = false := by
  rcases hbusy with hbusy | hbusy | hbusy
  · simp [wants, hbusy]
  · simp [wants, Option.isSome_iff_ne_none.1 hbusy]
  · simp [wants, hbusy]

/-- A bound join that takes in no more rows comes to its end. -/
theorem ends_of_busy (h : j.Confined asked)
    (hbusy : j.finished = true ∨ j.round?.isSome = true ∨ j.inputDone = true) (n : Nat) :
    j.Ends net n := by
  have hwants := wants_of_busy hbusy
  -- The rows that wait are handed on one by one, and then the join goes to its end.
  generalize hpending : j.pending = pending
  induction pending generalizing j with
  | nil =>
    cases hf : j.finished with
    | true => exact .over hwants fun s _ => ⟨j, advance_of_finished hpending hf s, hf, hpending⟩
    | false =>
      cases hr : j.round? with
      | some round =>
        exact .over hwants fun s hs => advance_of_closed hpending hf hr (h.pages round hr) hs
      | none =>
        have hadvance : ∀ s : Session σ,
            j.advance net s = (({ j with finished := true }, none), s) :=
          fun s => advance_of_idle hpending hf hr s
        refine .act hwants (fun s _ => by rw [hadvance]) (fun s e _ => by simp [hadvance])
          fun s _ => ?_
        rw [hadvance]
        exact .over (by simp [wants]) fun s _ =>
          ⟨_, advance_of_finished (j := { j with finished := true }) hpending rfl s, rfl, hpending⟩
  | cons r rest ih =>
    have hadvance : ∀ s : Session σ,
        j.advance net s = (({ j with pending := rest }, some (.row r)), s) :=
      fun s => advance_of_pending hpending s
    refine .act hwants (fun s _ => by rw [hadvance]) (fun s e _ => by simp [hadvance])
      fun s _ => ?_
    rw [hadvance]
    exact ih (j := { j with pending := rest }) ⟨h.goal, h.pages⟩ hbusy
      (wants_of_busy (j := { j with pending := rest }) hbusy) rfl

/-- **Cancellation ends bound joins.** A bound join whose client is closed comes to its end after
the rows of one round at most. -/
theorem Confined.ends (h : j.Confined asked) : j.Ends net (max 1 j.goal.bufferSize) := by
  -- What is left of the round is counted, since a bucket may have been begun.
  suffices ∀ n, 0 < n → j.goal.bufferSize ≤ j.bucket.length + n → j.Ends net n from
    this _ (by omega) (by omega)
  intro n
  induction n generalizing j with
  | zero => exact fun hn => absurd hn (Nat.lt_irrefl 0)
  | succ n ih =>
    intro _ hbound
    by_cases hbusy : j.finished = true ∨ j.round?.isSome = true ∨ j.inputDone = true
    · exact ends_of_busy h hbusy _
    obtain ⟨hf, hr, hd⟩ : j.finished = false ∧ j.round? = none ∧ j.inputDone = false := by
      simpa using hbusy
    generalize hpending : j.pending = pending
    induction pending generalizing j with
    | nil =>
      have hwants : j.wants = true := by simp [wants, hpending, hf, hr, hd]
      refine .take hwants ?_ (fun r => ?_) ?_ fun e => rfl
      · rintro (r | _ | e) hx
        · rfl
        · rfl
        · exact absurd rfl (hx e)
      · have hconfined := (h.accept (.row r)).1
        by_cases hfull : j.bucket.length + 1 < j.goal.bufferSize
        · have haccept : (j.accept (.row r)).1 = { j with bucket := j.bucket ++ [r] } := by
            simp [BoundJoin.accept, hfull]
          rw [haccept] at hconfined ⊢
          exact ih hconfined (by omega) (by simp; omega)
        · have haccept : (j.accept (.row r)).1.round?.isSome = true := by
            simp [BoundJoin.accept, hfull, BoundJoin.startRound]
          exact ends_of_busy hconfined (.inr (.inl haccept)) n
      · have haccept : (j.accept .done).1.inputDone = true := by
          simp only [BoundJoin.accept, BoundJoin.startRound]
          split <;> rfl
        exact ends_of_busy (h.accept .done).1 (.inr (.inr haccept)) n
    | cons r rest ihrest =>
      have hadvance : ∀ s : Session σ,
          j.advance net s = (({ j with pending := rest }, some (.row r)), s) :=
        fun s => advance_of_pending hpending s
      refine .act (by simp [wants, hpending]) (fun s _ => by rw [hadvance])
        (fun s e _ => by simp [hadvance]) fun s _ => ?_
      rw [hadvance]
      exact ihrest (j := { j with pending := rest }) ⟨h.goal, h.pages⟩ hbound
        (by simp [hf, hr, hd]) hf hr hd rfl

end BoundJoin

end PagedSparql
