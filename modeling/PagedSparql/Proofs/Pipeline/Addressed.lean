import PagedSparql.Proofs.Pipeline.Confined

/-!
# What bound joins ask

A request is one of a bound join if it goes to the endpoint of the join, is about its graph, and has
the query that a round of the join has for some rows (`BoundPattern.Asks`). A bound join sends no
others, for all pages of all its rounds, since it never changes what it is told
(`BoundJoin.Serves.advance`).

A step of a stage changes its bound joins only by steps of them, and the session only by these and
by what stages without stages inside evaluate. So what all of these keep, a stage keeps
(`Stage.Each.step`). In particular all requests that a stage sends are those of its bound joins.
-/

namespace PagedSparql

variable {σ : Type}

namespace Session

/-- Some requests of a kind were sent, and no client was opened. -/
structure Sends (asks : String → Request → Prop) (s s' : Session σ) : Prop where
  /-- The requests that were sent are of the kind. -/
  requests : ∃ sent, s'.requests = s.requests ++ sent ∧ ∀ e ∈ sent, asks e.1 e.2
  /-- The clients are the same. -/
  clients : s'.clients = s.clients

variable {net : Network σ} {asks : String → Request → Prop} {s s' s'' : Session σ}
  {address : String}

/-- Nothing was sent. -/
theorem Sends.of_eq (hlog : s'.log = s.log) (hclients : s'.clients = s.clients) :
    s.Sends asks s' :=
  ⟨⟨[], by rw [Session.requests, hlog, List.append_nil, Session.requests], by simp⟩, hclients⟩

/-- Nothing has happened. -/
theorem Sends.refl : s.Sends asks s := .of_eq rfl rfl

/-- Requests were sent one after the other. -/
theorem Sends.trans (h : s.Sends asks s') (h' : s'.Sends asks s'') : s.Sends asks s'' := by
  obtain ⟨⟨sent, hrequests, hsent⟩, hclients⟩ := h
  obtain ⟨⟨sent', hrequests', hsent'⟩, hclients'⟩ := h'
  refine ⟨⟨sent ++ sent', ?_, List.forall_mem_append.2 ⟨hsent, hsent'⟩⟩, hclients'.trans hclients⟩
  rw [hrequests', hrequests, List.append_assoc]

/-- To evaluate sends nothing. -/
theorem Evaluated.sends (h : Evaluated s s') : s.Sends asks s' := by
  obtain ⟨evaluation, rfl⟩ := h
  exact .of_eq rfl rfl

/-- A fetch sends its request, if anything. -/
theorem sends_fetch {request : Request} (h : asks address request) :
    s.Sends asks (s.fetch net address request).2 := by
  refine ⟨?_, clients_fetch net s address request⟩
  cases hc : s.isClosed address with
  | true =>
    rw [fetch_of_closed hc]
    exact Sends.refl.requests
  | false =>
    rw [fetch_of_not_closed hc]
    exact ⟨[(address, request)], (deliver_spec net s address request).2, by simpa using h⟩

end Session

/-- The request goes to the endpoint of a bound join, is about its graph, and has the query for some
rows. -/
structure BoundPattern.Asks (goal : BoundPattern) (address : String) (request : Request) :
    Prop where
  /-- It goes to the endpoint. -/
  address : address = goal.address
  /-- It is about the graph. -/
  graph : request.graph = goal.graph
  /-- It has the query of a round for some rows. -/
  query : ∃ bucket, request.query = (Round.start goal bucket).pages.query

/-- The request is one of a bound join that is told one of some patterns. -/
def BoundPattern.AnyAsks (goals : BoundPattern → Prop) (address : String) (request : Request) :
    Prop := ∃ goal, goals goal ∧ goal.Asks address request

/-- A bound join is told one of some patterns, and the pages of its round are those of the answer to
it. -/
structure BoundJoin.Serves (goals : BoundPattern → Prop) (j : BoundJoin) : Prop where
  /-- It is told one of the patterns. -/
  goal : goals j.goal
  /-- It asks for the pages of its round. -/
  round : ∀ round ∈ j.round?, j.goal.Asks round.pages.address round.pages.request

namespace BoundJoin

variable {goals : BoundPattern → Prop} {j : BoundJoin}

/-- A bound join asks for the first page of a round. -/
theorem asks_start (goal : BoundPattern) (bucket : List Row) :
    goal.Asks (Round.start goal bucket).pages.address (Round.start goal bucket).pages.request := by
  refine ⟨address_start goal bucket, ?_, bucket, rfl⟩
  unfold Round.start
  split <;> rfl

/-- A round is one of what the bound join is told. -/
theorem Serves.startRound (h : j.Serves goals) : j.startRound.Serves goals := by
  unfold BoundJoin.startRound
  split
  · exact ⟨h.goal, h.round⟩
  · refine ⟨h.goal, fun round hround => ?_⟩
    obtain rfl := Option.some.inj hround
    exact asks_start j.goal j.bucket

/-- What comes from above does not change what a bound join is told. -/
theorem Serves.accept (h : j.Serves goals) (x : Signal) : (j.accept x).1.Serves goals := by
  cases x with
  | row r =>
    have hrow : ({ j with bucket := j.bucket ++ [r] } : BoundJoin).Serves goals :=
      ⟨h.goal, h.round⟩
    simp only [BoundJoin.accept]
    split
    · exact hrow
    · exact hrow.startRound
  | done =>
    have hdone : ({ j with inputDone := true } : BoundJoin).Serves goals := ⟨h.goal, h.round⟩
    exact hdone.startRound
  | fail e => exact ⟨h.goal, h.round⟩

/-- A page does not change what a bound join is told. -/
theorem Serves.takePage (h : j.Serves goals) {round : Round}
    (hround : j.goal.Asks round.pages.address round.pages.request) (closed : Bool)
    (page? : Except TransportError (Option Page)) :
    (j.takePage round closed page?).1.Serves goals := by
  have hread : ∀ round' : Round, round'.pages = round.pages → ∀ pending,
      ({ j with round? := some round', pending } : BoundJoin).Serves goals := by
    refine fun round' hpages pending => ⟨h.goal, fun round'' hround'' => ?_⟩
    obtain rfl := Option.some.inj hround''
    rwa [hpages]
  have hover : ∀ pending finished,
      ({ j with round? := none, pending, finished } : BoundJoin).Serves goals :=
    fun pending finished => ⟨h.goal, nofun⟩
  rcases page? with e | page?
  · exact hread round rfl j.pending
  · cases closed with
    | true => exact hover _ _
    | false =>
      cases page? with
      | none => exact hover _ _
      | some page => exact hread (round.absorb page).2 rfl _

/-- **A bound join sends its own requests only.** -/
theorem Serves.advance (h : j.Serves goals) (net : Network σ) (s : Session σ) :
    (j.advance net s).1.1.Serves goals ∧
      s.Sends (BoundPattern.AnyAsks goals) (j.advance net s).2 := by
  cases hp : j.pending with
  | cons r rest =>
    rw [advance_of_pending hp]
    exact ⟨⟨h.goal, h.round⟩, .refl⟩
  | nil =>
    cases hf : j.finished with
    | true =>
      rw [advance_of_finished hp hf]
      exact ⟨h, .refl⟩
    | false =>
      cases hr : j.round? with
      | none =>
        rw [advance_of_idle hp hf hr]
        exact ⟨⟨h.goal, h.round⟩, .refl⟩
      | some round =>
        have hround := h.round round hr
        cases hpages : round.pages.finished with
        | true =>
          have hadvance : j.advance net s =
              (j.takePage round (s.isClosed j.goal.address) (.ok none), s) := by
            simp [BoundJoin.advance, hp, hf, hr, PageSequence.next_of_finished hpages]
          rw [hadvance]
          exact ⟨h.takePage hround _ _, .refl⟩
        | false =>
          rw [advance_of_reading hp hf hr hpages]
          have hsends : s.Sends (BoundPattern.AnyAsks goals)
              (s.fetch net round.pages.address round.pages.request).2 :=
            Session.sends_fetch ⟨j.goal, h.goal, hround⟩
          refine ⟨h.takePage ?_ _ _, hsends⟩
          -- The next page is one of the same answer.
          obtain ⟨haddress, hquery, hgraph⟩ := round.pages.advance_about
            (s.fetch net round.pages.address round.pages.request).1
          exact ⟨haddress.trans hround.address, hgraph.trans hround.graph,
            hround.query.imp fun _ h => hquery.trans h⟩

end BoundJoin

namespace Stage

/-- All bound joins of a stage have a property. -/
inductive Each (J : BoundJoin → Prop) : Stage → Prop
  /-- A stage without stages inside has none. -/
  | leaf {st : Stage} (h : st.isLeaf = true) : Each J st
  /-- A source has none. -/
  | source (rows : List Row) (ending : Ending) : Each J (.source rows ending)
  /-- A bound join has the property. -/
  | remote {j : BoundJoin} (h : J j) : Each J (.remote j)
  /-- Those of both stages that are joined. -/
  | nested {left right : Stage} {loaded : Bool} {table : List Row}
    {current : Option (Row × List Row)} (hleft : Each J left) (hright : Each J right) :
    Each J (.nested left right loaded table current)
  /-- Those of all branches. -/
  | fork {tee : Tee} {position : Nat} {branches : List Stage}
    (hbranches : ∀ b ∈ branches, Each J b) : Each J (.fork tee position branches)
  /-- Those of the stage around which rows are numbered. -/
  | optional {tag : Variable} {inner : Stage} {next : Nat} {unmatched : List (Int × Row)}
    {leftovers : Option (List Row)} (hinner : Each J inner) :
    Each J (.optional tag inner next unmatched leftovers)
  /-- Those of both stages, one below the other. -/
  | chain {upper lower : Stage} (hupper : Each J upper) (hlower : Each J lower) :
    Each J (.chain upper lower)

variable {J K : BoundJoin → Prop} {st : Stage} {net : Network σ} {now : DateTime} {s : Session σ}

/-- A weaker property. -/
theorem Each.mono (h : st.Each J) (hJK : ∀ j, J j → K j) : st.Each K := by
  induction h with
  | leaf h => exact .leaf h
  | source rows ending => exact .source rows ending
  | remote h => exact .remote (hJK _ h)
  | nested _ _ hleft hright => exact .nested hleft hright
  | fork _ ih => exact .fork ih
  | optional _ ih => exact .optional ih
  | chain _ _ hupper hlower => exact .chain hupper hlower

/-- A property that each bound join has that is part of a stage. -/
theorem each_of_holds (st : Stage) (h : ∀ j, st.Holds j → J j) : st.Each J := by
  match st with
  | .input => exact .leaf rfl
  | .source rows ending => exact .source rows ending
  | .filter _ => exact .leaf rfl
  | .bind _ _ => exact .leaf rfl
  | .values _ => exact .leaf rfl
  | .project _ _ => exact .leaf rfl
  | .distinct _ => exact .leaf rfl
  | .slice _ _ => exact .leaf rfl
  | .sort _ _ _ => exact .leaf rfl
  | .group _ _ _ _ => exact .leaf rfl
  | .remote j => exact .remote (h j .remote)
  | .nested left right _ _ _ =>
    exact .nested (each_of_holds left fun j hj => h j hj.left)
      (each_of_holds right fun j hj => h j hj.right)
  | .fork _ _ branches =>
    exact .fork fun b hb => each_of_holds b fun j hj => h j (.branch hb hj)
  | .optional _ inner _ _ _ => exact .optional (each_of_holds inner fun j hj => h j hj.inner)
  | .chain upper lower =>
    exact .chain (each_of_holds upper fun j hj => h j hj.upper)
      (each_of_holds lower fun j hj => h j hj.lower)

/-- A bound join of a stage has the property. -/
theorem Each.of_holds {j : BoundJoin} (h : st.Each J) (hj : st.Holds j) : J j := by
  induction h with
  | leaf h => cases hj <;> simp [isLeaf] at h
  | source _ _ => cases hj
  | remote h =>
    cases hj
    exact h
  | nested _ _ ihleft ihright =>
    cases hj with
    | left hj => exact ihleft hj
    | right hj => exact ihright hj
  | fork _ ih =>
    cases hj with
    | branch hbranch hj => exact ih _ hbranch hj
  | optional _ ih =>
    cases hj with
    | inner hj => exact ih hj
  | chain _ _ ihupper ihlower =>
    cases hj with
    | upper hj => exact ihupper hj
    | lower hj => exact ihlower hj

/-- What steps keep: a property of bound joins, and a relation of the session before to the session
after. -/
structure Keeps (net : Network σ) (now : DateTime) (J : BoundJoin → Prop)
    (T : Session σ → Session σ → Prop) : Prop where
  /-- Nothing has happened. -/
  refl : ∀ s, T s s
  /-- One thing has happened and then another. -/
  trans : ∀ {s s' s''}, T s s' → T s' s'' → T s s''
  /-- A stage without stages inside takes a row. -/
  takes : ∀ {st : Stage}, st.isLeaf = true → ∀ r s, T s (stepRow now st r s).2
  /-- A stage without stages inside comes to the end of the rows. -/
  ends : ∀ {st : Stage}, st.isLeaf = true → ∀ s, T s (stepDone now st s).2
  /-- A bound join takes what comes from above. -/
  accepts : ∀ {j}, J j → ∀ x, J (j.accept x).1
  /-- A bound join goes on. -/
  advances : ∀ {j}, J j → ∀ s, J (j.advance net s).1.1 ∧ T s (j.advance net s).2

/-- What a step of a stage has come to: all bound joins have the property, and the session is in the
relation to the one before. -/
def Goes (J : BoundJoin → Prop) (T : Session σ → Session σ → Prop) (s : Session σ)
    (out : (Stage × Option Signal) × Session σ) : Prop :=
  out.1.1.Each J ∧ T s out.2

variable {T : Session σ → Session σ → Prop}

/-- A step of a stage without stages inside. -/
theorem Keeps.leaf (hT : Keeps net now J T) (h : st.isLeaf = true) (x? : Option Signal) :
    Goes J T s (st.step net now x? s) := by
  rcases x? with _ | r | _ | e
  · rw [step_leaf_none h]
    exact ⟨.leaf (isLeaf_stepAlone h).1, hT.refl s⟩
  · rw [step_leaf_some h]
    exact ⟨.leaf (stepRow_leaf h now r s).1.isLeaf, hT.takes h r s⟩
  · rw [step_leaf_some h]
    exact ⟨.leaf (isLeaf_stepDone h now s).1, hT.ends h s⟩
  · rw [step_leaf_some h]
    have hleaf : (stepFail st e).1.isLeaf = true := by cases st <;> exact h
    exact ⟨.leaf hleaf, hT.refl s⟩

/-- A step of a source. -/
theorem Keeps.source (hT : Keeps net now J T) (rows : List Row) (ending : Ending)
    (x? : Option Signal) : Goes J T s ((Stage.source rows ending).step net now x? s) := by
  rcases x? with _ | r | _ | e
  · cases rows <;> exact ⟨.source _ ending, hT.refl s⟩
  · exact ⟨.source rows ending, hT.refl s⟩
  · exact ⟨.source rows ending, hT.refl s⟩
  · exact ⟨.source rows ending, hT.refl s⟩

/-- A step of a bound join. -/
theorem Keeps.remote (hT : Keeps net now J T) {j : BoundJoin} (h : J j) (x? : Option Signal) :
    Goes J T s ((Stage.remote j).step net now x? s) := by
  cases x? with
  | none =>
    obtain ⟨hj, hkept⟩ := hT.advances h s
    rw [BoundJoin.step_none]
    exact ⟨.remote hj, hkept⟩
  | some x =>
    rw [BoundJoin.step_some]
    exact ⟨.remote (hT.accepts h x), hT.refl s⟩

/-- A step of a join with a stage. -/
theorem Keeps.nested (hT : Keeps net now J T) {left right : Stage} {x? : Option Signal}
    (hleft : left.Each J) (hright : right.Each J) (ihleft : Goes J T s (left.step net now x? s))
    (ihright : Goes J T s (right.step net now x? s)) (loaded : Bool) (table : List Row)
    (current : Option (Row × List Row)) :
    Goes J T s ((Stage.nested left right loaded table current).step net now x? s) := by
  cases loaded with
  | false =>
    obtain ⟨hright', hkept⟩ := ihright
    rw [Stage.step]
    rcases hstep : right.step net now x? s with ⟨⟨right', y?⟩, s'⟩
    rw [hstep] at hright' hkept
    rcases y? with _ | r | _ | e
    · exact ⟨.nested hleft hright', hkept⟩
    · exact ⟨.nested hleft hright', hkept⟩
    · exact ⟨.nested hleft (.leaf rfl), hkept⟩
    · exact ⟨.nested hleft (.leaf rfl), hkept⟩
  | true =>
    rcases current with _ | ⟨r, rest⟩
    · obtain ⟨hleft', hkept⟩ := ihleft
      rw [Stage.step]
      rcases hstep : left.step net now x? s with ⟨⟨left', y?⟩, s'⟩
      rw [hstep] at hleft' hkept
      rcases y? with _ | r | _ | e <;> exact ⟨.nested hleft' hright, hkept⟩
    · rw [Stage.step]
      rcases nextMerge r rest with _ | ⟨row, rest'⟩ <;> exact ⟨.nested hleft hright, hT.refl s⟩

/-- A step of a fork. -/
theorem Keeps.fork (hT : Keeps net now J T) {branches : List Stage}
    (hbranches : ∀ b ∈ branches, b.Each J)
    (ih : ∀ b ∈ branches, ∀ x?, Goes J T s (b.step net now x? s)) (tee : Tee) (position : Nat)
    (x? : Option Signal) : Goes J T s ((Stage.fork tee position branches).step net now x? s) := by
  rcases branches with _ | ⟨branch, rest⟩
  · rw [Stage.step]
    exact ⟨.fork (by simp), hT.refl s⟩
  · rw [Fork.step_fork]
    generalize teeSignal tee position branch.wants x? = served at *
    obtain ⟨-, hrest⟩ := List.forall_mem_cons.1 hbranches
    obtain ⟨hbranch, hkept⟩ := ih branch List.mem_cons_self served.1
    rcases hstep : branch.step net now served.1 s with ⟨⟨branch', y?⟩, s'⟩
    rw [hstep] at hbranch hkept
    by_cases hdone : y? = some .done
    · rw [Fork.after_of_done hdone]
      exact ⟨.fork hrest, hkept⟩
    · rw [Fork.after_of_ne hdone]
      exact ⟨.fork (List.forall_mem_cons.2 ⟨hbranch, hrest⟩), hkept⟩

/-- A step of the numbering of rows. -/
theorem Keeps.optional (hT : Keeps net now J T) {inner : Stage} (hinner : inner.Each J)
    (ih : ∀ x?, Goes J T s (inner.step net now x? s)) (tag : Variable) (next : Nat)
    (unmatched : List (Int × Row)) (leftovers : Option (List Row)) (x? : Option Signal) :
    Goes J T s ((Stage.optional tag inner next unmatched leftovers).step net now x? s) := by
  cases leftovers with
  | some rows =>
    rw [Stage.step]
    exact ⟨.optional hinner, hT.refl s⟩
  | none =>
    obtain ⟨y?, next', unmatched', -, hoptional⟩ :=
      Optional.exists_step net now tag inner next unmatched x? s
    obtain ⟨hinner', hkept⟩ := ih y?
    rw [hoptional]
    rcases hstep : inner.step net now y? s with ⟨⟨inner', z?⟩, s'⟩
    rw [hstep] at hinner' hkept
    rcases z? with _ | r | _ | e <;> exact ⟨.optional hinner', hkept⟩

/-- A step of two stages, one below the other. -/
theorem Keeps.chain (hT : Keeps net now J T) {upper lower : Stage} {x? : Option Signal}
    (hupper : upper.Each J) (hlower : lower.Each J)
    (ihupper : Goes J T s (upper.step net now x? s))
    (ihlower : ∀ x? s, Goes J T s (lower.step net now x? s)) :
    Goes J T s ((Stage.chain upper lower).step net now x? s) := by
  cases hwants : lower.wants with
  | false =>
    obtain ⟨hlower', hkept⟩ := ihlower none s
    rw [step_chain_of_not_wants hwants]
    exact ⟨.chain hupper hlower', hkept⟩
  | true =>
    obtain ⟨hupper', hkept⟩ := ihupper
    rcases hstep : upper.step net now x? s with ⟨⟨upper', y?⟩, s'⟩
    rw [hstep] at hupper' hkept
    cases y? with
    | none =>
      rw [step_chain_of_none hwants hstep]
      exact ⟨.chain hupper' hlower, hkept⟩
    | some y =>
      obtain ⟨hlower', hkept'⟩ := ihlower (some y) s'
      rw [step_chain_of_some hwants hstep]
      exact ⟨.chain hupper' hlower', hT.trans hkept hkept'⟩

/-- **What single steps keep, a step of a stage keeps.** -/
theorem Each.step (hT : Keeps net now J T) (h : st.Each J) (x? : Option Signal) (s : Session σ) :
    Goes J T s (st.step net now x? s) := by
  induction h generalizing x? s with
  | leaf h => exact hT.leaf h x?
  | source rows ending => exact hT.source rows ending x?
  | remote h => exact hT.remote h x?
  | nested hleft hright ihleft ihright =>
    exact hT.nested hleft hright (ihleft x? s) (ihright x? s) _ _ _
  | fork hbranches ih => exact hT.fork hbranches (fun b hb x? => ih b hb x? s) _ _ x?
  | optional hinner ih => exact hT.optional hinner (fun x? => ih x? s) _ _ _ _ x?
  | chain hupper hlower ihupper ihlower => exact hT.chain hupper hlower (ihupper x? s) ihlower

/-- What single steps keep, a pull of a stage keeps. -/
theorem Each.pull (hT : Keeps net now J T) (h : st.Each J) (n : Nat) (s : Session σ) :
    (st.pull net now n s).2.1.Each J ∧ T s (st.pull net now n s).2.2 := by
  induction n generalizing st s with
  | zero => exact ⟨h, hT.refl s⟩
  | succ n ih =>
    obtain ⟨hst, hkept⟩ := h.step hT (if st.wants then some .done else none) s
    rw [Stage.pull]
    rcases hstep : st.step net now (if st.wants then some .done else none) s with ⟨⟨st', y?⟩, s'⟩
    rw [hstep] at hst hkept
    cases y? with
    | none =>
      obtain ⟨hst', hkept'⟩ := ih hst s'
      exact ⟨hst', hT.trans hkept hkept'⟩
    | some y => exact ⟨hst, hkept⟩

variable {goals goals' : BoundPattern → Prop}

/-- The bound joins of the stage are told some patterns. -/
abbrev Serves (goals : BoundPattern → Prop) : Stage → Prop := Each (BoundJoin.Serves goals)

/-- More patterns. -/
theorem Serves.mono (h : st.Serves goals) (hgoals : ∀ g, goals g → goals' g) : st.Serves goals' :=
  Each.mono h fun _ hj => ⟨hgoals _ hj.goal, hj.round⟩

/-- A session in which only requests of bound joins are sent. -/
theorem keeps_sends (goals : BoundPattern → Prop) (net : Network σ) (now : DateTime) :
    Keeps net now (BoundJoin.Serves goals)
      fun s s' => s.Sends (BoundPattern.AnyAsks goals) s' where
  refl _ := .refl
  trans h h' := h.trans h'
  takes h r s := (stepRow_leaf h now r s).1.evaluated.sends
  ends h s := (stepDone_leaf h now s).1.sends
  accepts h := h.accept
  advances h := h.advance net

/-- A step of a stage sends only requests of its bound joins. -/
theorem Serves.step (h : st.Serves goals) (net : Network σ) (now : DateTime) (x? : Option Signal)
    (s : Session σ) : (st.step net now x? s).1.1.Serves goals ∧
      s.Sends (BoundPattern.AnyAsks goals) (st.step net now x? s).2 :=
  Each.step (keeps_sends goals net now) h x? s

/-- A pull of a stage sends only requests of its bound joins. -/
theorem Serves.pull (h : st.Serves goals) (net : Network σ) (now : DateTime) (n : Nat)
    (s : Session σ) : (st.pull net now n s).2.1.Serves goals ∧
      s.Sends (BoundPattern.AnyAsks goals) (st.pull net now n s).2.2 :=
  Each.pull (keeps_sends goals net now) h n s

end Stage

end PagedSparql
