import PagedSparql.Proofs.Pipeline.Carried
import PagedSparql.Proofs.Plan.OptionalRun

/-!
# Interrupted numbering

An optional stage goes by the numbers that come out of its inner stage, and does not see why that
stage is over. As long as the inner stage is at work, only its rows are handed on. Once it is over,
all rows follow whose numbers have not come out (`Optional.Interrupted`), with or without solutions.
So the rows that follow are those without solutions if no client was closed before the inner stage
was over. What is closed later makes no difference (`Optional.following_runs`).
-/

namespace PagedSparql

variable {σ : Type}

namespace Optional

variable {E : Scene σ} {cut : Network σ} {hasty : Prop} {spec : List Row → List Row → Prop}
  {tag : Variable} {U U' V : List Row} {h : Traffic} {s s' : Session σ} {r : Row}

/-- The row extends one of some rows under its number. -/
def Numbered (tag : Variable) (U : List Row) (r : Row) : Prop :=
  ∃ e ∈ U.zipIdx, r.Extends (number tag e)

/-- An extended row keeps its number. -/
theorem upward_numbered : Row.Upward (Numbered tag U) := by
  rintro r w ⟨e, he, hr⟩ hw
  exact ⟨e, he, hw.trans hr⟩

/-- A row keeps its number when more rows come in. -/
theorem Numbered.append (hr : Numbered tag U r) (more : List Row) :
    Numbered tag (U ++ more) r := by
  obtain ⟨e, he, hext⟩ := hr
  refine ⟨e, ?_, hext⟩
  rw [List.zipIdx_append]
  exact List.mem_append_left _ he

/-- The row that has come in last, under its number. -/
theorem numbered_last (tag : Variable) (U : List Row) (r : Row) :
    Numbered tag (U ++ [r]) (number tag (r, U.length)) := by
  refine ⟨(r, U.length), ?_, .refl _⟩
  simp [List.zipIdx_append]

/-- No row has the number of a row that is still to come in. -/
theorem Numbered.tag_ne (htag : tag.Direct) (hr : Numbered tag U r) :
    Stage.tagOf? tag r ≠ some (U.length : Int) := by
  obtain ⟨⟨u, i⟩, he, hext⟩ := hr
  have hlt := (List.getElem?_eq_some_iff.1 (List.mem_zipIdx_iff_getElem?.1 he)).1
  rw [PathFree.tagOf?_of_extends htag hext]
  split
  · simp only [ne_eq, Option.some.injEq]
    omega
  · simp

/-- The invariant of interrupted optional stages. What the inner stage makes of the rows is known as
long as no client is closed. -/
inductive Interrupted (E : Scene σ) (hasty : Prop) (spec : List Row → List Row → Prop)
    (tag : Variable) : Stage → Traffic → Session σ → Prop
  /-- The inner stage is at work. -/
  | working {inner : Stage} {V : List Row} {h : Traffic} {s : Session σ}
    (carries : inner.Carries (Numbered tag h.taken)) (out : ∀ v ∈ V, Numbered tag h.taken v)
    (given : h.given = V.map (Row.without · [tag]))
    (running : (∀ a, s.isClosed a = false) → ∃ hi : Traffic, E.Running hasty spec inner hi s ∧
      hi.taken = numbered tag h.taken ∧ hi.ended = h.ended ∧ hi.given = V) :
    Interrupted E hasty spec tag
      (.optional tag inner h.taken.length (unmatched tag h.taken V) none) h s
  /-- The rows follow whose numbers have not come out. -/
  | following {inner : Stage} {next : Nat} {rows V : List Row} {h : Traffic} {s : Session σ}
    (out : ∀ v ∈ V, Numbered tag h.taken v)
    (given : h.given ++ rows =
      V.map (Row.without · [tag]) ++ (unmatched tag h.taken V).map Prod.snd)
    (made : (∀ a, s.isClosed a = false) → (h.ended = true ∨ hasty) ∧
      ∀ rest, h.Rest rest → spec (numbered tag (h.taken ++ rest)) V) :
    Interrupted E hasty spec tag (.optional tag inner next [] (some rows)) h s

/-- What a step of the inner stage comes to. -/
theorem interrupted_after {out : Stage × Option Signal}
    (carries : out.1.Carries (Numbered tag h.taken))
    (row : ∀ r, out.2 = some (.row r) → Numbered tag h.taken r)
    (before : ∀ v ∈ V, Numbered tag h.taken v) (given : h.given = V.map (Row.without · [tag]))
    (hout : (∀ a, s.isClosed a = false) → ∃ hi : Traffic, hi.taken = numbered tag h.taken ∧
      hi.ended = h.ended ∧ hi.given = V ∧
      Stage.Fulfils (fun _ => True) hasty spec (E.Running hasty spec) hi s out) :
    Interrupted E hasty spec tag (after tag h.taken.length (unmatched tag h.taken V) out).1
      (h.hand (after tag h.taken.length (unmatched tag h.taken V) out).2) s := by
  obtain ⟨inner, y?⟩ := out
  rcases y? with _ | r | _ | e
  · refine .working carries before given fun hopen => ?_
    obtain ⟨hi, htaken, hended, hgiven, hrunning⟩ := hout hopen
    exact ⟨hi, hrunning, htaken, hended, hgiven⟩
  · -- A row of the inner stage is handed on without its number, which is struck off.
    have hgiven : (h.give (Row.without r [tag])).given = (V ++ [r]).map (Row.without · [tag]) := by
      simp [Traffic.give, given]
    have hV : ∀ v ∈ V ++ [r], Numbered tag h.taken v :=
      List.forall_mem_append.2 ⟨before, by simpa using row r rfl⟩
    rw [after, untag_eq]
    refine .working (h := h.give (Row.without r [tag])) carries hV hgiven fun hopen => ?_
    obtain ⟨hi, htaken, hended, hgiven, hrunning⟩ := hout hopen
    exact ⟨hi.give r, hrunning, htaken, hended, by simp [Traffic.give, hgiven]⟩
  · -- At the end of the inner stage, the rows that were never struck off follow.
    show Interrupted E hasty spec tag (.optional tag inner h.taken.length []
      (some ((unmatched tag h.taken V).map Prod.snd))) h s
    refine .following before (by rw [given]) fun hopen => ?_
    obtain ⟨hi, htaken, hended, rfl, hover, hspec⟩ := hout hopen
    refine ⟨hended ▸ hover, fun rest hrest => ?_⟩
    rw [numbered_append, ← htaken]
    refine hspec _ (fun h' => ?_) trivial
    rw [hrest (hended ▸ h')]
    rfl
  · refine .working carries before given fun hopen => ?_
    obtain ⟨hi, -, -, -, hfalse⟩ := hout hopen
    exact hfalse.elim

/-- Others may move the world and close clients. -/
theorem Interrupted.others {st : Stage} (hst : Interrupted E hasty spec tag st h s)
    (hcut : Session.Cut E.others s s') : Interrupted E hasty spec tag st h s' := by
  cases hst with
  | working carries out given running =>
    refine .working carries out given fun hopen => ?_
    have hbefore : ∀ a, s.isClosed a = false := fun a => hcut.isOpen (hopen a)
    obtain ⟨hi, hrunning, htaken, hended, hgiven⟩ := running hbefore
    have hmoves : Session.Moves E.others s s' :=
      ⟨hcut.world, by rw [Session.closed_eq_nil hbefore, Session.closed_eq_nil hopen]⟩
    exact ⟨hi, (E.running_contract hasty spec).stable hrunning hmoves, htaken, hended, hgiven⟩
  | following out given made =>
    exact .following out given fun hopen => made fun a => hcut.isOpen (hopen a)

/-- A step of the inner stage under a network that closes clients. As long as none is closed, it is
a step of the stage at work. -/
theorem interrupted_step (hcuts : E.net.Cuts cut) {inner : Stage} {x? : Option Signal}
    (carries : inner.Carries (Numbered tag h.taken))
    (hx : ∀ r, x? = some (.row r) → Numbered tag h.taken r)
    (before : ∀ v ∈ V, Numbered tag h.taken v) (given : h.given = V.map (Row.without · [tag]))
    (hout : (∀ a, s.isClosed a = false) → ∃ hi : Traffic, hi.taken = numbered tag h.taken ∧
      hi.ended = h.ended ∧ hi.given = V ∧
      Stage.Fulfils (fun _ => True) hasty spec (E.Running hasty spec) hi
        (inner.step E.net E.now x? s).2 (inner.step E.net E.now x? s).1) :
    Interrupted E hasty spec tag
      (after tag h.taken.length (unmatched tag h.taken V) (inner.step cut E.now x? s).1).1
      (h.hand (after tag h.taken.length (unmatched tag h.taken V) (inner.step cut E.now x? s).1).2)
      (inner.step cut E.now x? s).2 := by
  obtain ⟨hcarries, hrow⟩ := carries.step upward_numbered cut E.now hx s
  refine interrupted_after hcarries hrow before given fun hopen => ?_
  rw [carries.step_of_cuts hcuts hopen]
  exact hout (carries.isOpen_of_step hopen)

/-- What a step of an interrupted optional stage on its own comes to. -/
theorem Interrupted.act (hcuts : E.net.Cuts cut) {st st' : Stage} {y? : Option Signal}
    (hst : Interrupted E hasty spec tag st h s) (hwants : st.wants = false)
    (hstep : st.step cut E.now none s = ((st', y?), s')) :
    Interrupted E hasty spec tag st' (h.hand y?) s' := by
  cases hst with
  | @working inner V _ _ carries out given running =>
    have hinner : inner.wants = false := by simpa [Stage.wants] using hwants
    rw [step_optional _ _ _ _ _ (by simp), Prod.mk.injEq] at hstep
    obtain ⟨hst', rfl⟩ := hstep
    obtain ⟨rfl, rfl⟩ := Prod.ext_iff.1 hst'
    refine interrupted_step hcuts carries (by simp) out given fun hopen => ?_
    obtain ⟨hi, hrunning, htaken, hended, hgiven⟩ := running hopen
    exact ⟨hi, htaken, hended, hgiven,
      ((E.running_contract hasty spec).acts hrunning hinner).2⟩
  | @following inner next rows V _ _ out given made =>
    rcases rows with _ | ⟨r, rest⟩
    · obtain ⟨⟨rfl, rfl⟩, rfl⟩ : (_ ∧ _) ∧ _ := by
        simpa [Stage.step, Stage.popRow] using hstep
      exact .following out given made
    · obtain ⟨⟨rfl, rfl⟩, rfl⟩ : (_ ∧ _) ∧ _ := by
        simpa [Stage.step, Stage.popRow] using hstep
      exact .following (h := h.give r) out (by simpa [Traffic.give] using given) made

/-- What a step of an interrupted optional stage with a row comes to. -/
theorem Interrupted.take (hcuts : E.net.Cuts cut) (htag : tag.Direct) {st st' : Stage}
    {y? : Option Signal} (hst : Interrupted E hasty spec tag st h s) (hwants : st.wants = true)
    (hstep : st.step cut E.now (some (.row r)) s = ((st', y?), s')) :
    Interrupted E hasty spec tag st' ((h.take r).hand y?) s' := by
  cases hst with
  | @working inner V _ _ carries out given running =>
    have hinner : inner.wants = true := by simpa [Stage.wants] using hwants
    have hlength : h.taken.length + 1 = (h.take r).taken.length := by simp [Traffic.take]
    rw [step_optional_row, ← unmatched_snoc tag r fun v hv => (out v hv).tag_ne htag, hlength,
      Prod.mk.injEq] at hstep
    obtain ⟨hst', rfl⟩ := hstep
    obtain ⟨rfl, rfl⟩ := Prod.ext_iff.1 hst'
    have hx : ∀ w, some (Signal.row (number tag (r, h.taken.length))) = some (.row w) →
        Numbered tag (h.take r).taken w := by
      rintro w ⟨⟩
      exact numbered_last tag h.taken r
    refine interrupted_step (h := h.take r) hcuts (carries.mono fun w hw => hw.append [r]) hx
      (fun v hv => (out v hv).append [r]) given fun hopen => ?_
    obtain ⟨hi, hrunning, htaken, hended, hgiven⟩ := running hopen
    refine ⟨hi.take (number tag (r, h.taken.length)), ?_, hended, hgiven,
      ((E.running_contract hasty spec).takes hrunning hinner ⟨[], trivial⟩).2⟩
    simp [Traffic.take, numbered_append, htaken]
  | following out given made => exact absurd hwants (by simp [Stage.wants])

/-- What a step of an interrupted optional stage after the last row comes to. -/
theorem Interrupted.close (hcuts : E.net.Cuts cut) {st st' : Stage} {y? : Option Signal}
    (hst : Interrupted E hasty spec tag st h s) (hwants : st.wants = true)
    (hstep : st.step cut E.now (some .done) s = ((st', y?), s')) :
    Interrupted E hasty spec tag st' (h.close.hand y?) s' := by
  cases hst with
  | @working inner V _ _ carries out given running =>
    have hinner : inner.wants = true := by simpa [Stage.wants] using hwants
    rw [step_optional _ _ _ _ _ (by simp), Prod.mk.injEq] at hstep
    obtain ⟨hst', rfl⟩ := hstep
    obtain ⟨rfl, rfl⟩ := Prod.ext_iff.1 hst'
    refine interrupted_step (h := h.close) hcuts carries (by simp) out given fun hopen => ?_
    obtain ⟨hi, hrunning, htaken, hended, hgiven⟩ := running hopen
    exact ⟨hi.close, htaken, rfl, hgiven,
      ((E.running_contract hasty spec).ends hrunning hinner trivial).2⟩
  | following out given made => exact absurd hwants (by simp [Stage.wants])

/-- **Interrupted numbering.** Whatever is closed while an optional stage runs, it stays where the
invariant says. -/
theorem interrupted_runs (hcuts : E.net.Cuts cut) (htag : tag.Direct) {inner st : Stage}
    (hinner : E.Meets hasty inner spec) (hcarries : inner.Carries (Numbered tag []))
    {s₀ : Session σ} (hs : E.Ready s₀)
    (hrun : Stage.Runs cut E.now E.others (.optional tag inner 0 [] none) {} s₀ st h s) :
    Interrupted E hasty spec tag st h s := by
  induction hrun with
  | start =>
    exact .working (h := {}) (V := []) hcarries (by simp) rfl
      fun _ => ⟨{}, hinner s₀ hs, rfl, rfl, rfl⟩
  | others _ hcut ih => exact ih.others hcut
  | acts _ hwants hstep _ ih => exact ih.act hcuts hwants hstep
  | takes r _ hwants _ hstep _ ih => exact ih.take hcuts htag hwants hstep
  | ends _ hwants hstep _ ih => exact ih.close hcuts hwants hstep

/-- Once the inner stage is over, nothing depends on clients any more: the rows that follow are
known. -/
theorem following_runs {net : Network σ} {now : DateTime} {others : σ → σ → Prop} {inner st : Stage}
    {next : Nat} {left : List (Int × Row)} {rows : List Row} {h₁ : Traffic} {s₁ : Session σ}
    (hrun : Stage.Runs net now others (.optional tag inner next left (some rows)) h₁ s₁ st h s) :
    ∃ rest, st = .optional tag inner next left (some rest) ∧ h.taken = h₁.taken ∧
      h.given ++ rest = h₁.given ++ rows := by
  induction hrun with
  | start => exact ⟨rows, rfl, rfl, rfl⟩
  | others _ _ ih => exact ih
  | acts _ _ hstep _ ih =>
    obtain ⟨rest, rfl, htaken, hgiven⟩ := ih
    rcases rest with _ | ⟨r, rest⟩
    · obtain ⟨⟨rfl, rfl⟩, rfl⟩ : (_ ∧ _) ∧ _ := by
        simpa [Stage.step, Stage.popRow] using hstep
      exact ⟨[], rfl, htaken, hgiven⟩
    · obtain ⟨⟨rfl, rfl⟩, rfl⟩ : (_ ∧ _) ∧ _ := by
        simpa [Stage.step, Stage.popRow] using hstep
      exact ⟨rest, rfl, htaken, by simpa [Traffic.hand, Traffic.give] using hgiven⟩
  | takes _ _ hwants _ _ _ ih =>
    obtain ⟨rest, rfl, -, -⟩ := ih
    exact absurd hwants (by simp [Stage.wants])
  | ends _ hwants _ _ ih =>
    obtain ⟨rest, rfl, -, -⟩ := ih
    exact absurd hwants (by simp [Stage.wants])

end Optional

end PagedSparql
