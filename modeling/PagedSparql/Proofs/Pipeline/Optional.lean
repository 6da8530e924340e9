import PagedSparql.Proofs.Pipeline.Scene

/-!
# Numbered rows

An optional stage numbers the rows that come in, hands them to its inner stage, and takes the number
off what comes out. The rows whose number did not come out follow in the end
(`Scene.Meets.optional`), provided that the inner stage hands on no number before the row with this
number has come in. That is so when its specification says that the numbers that come out for some
rows are among theirs.
-/

namespace PagedSparql

variable {σ : Type}

namespace Optional

/-- The row under its number. -/
def number (tag : Variable) (e : Row × Nat) : Row := e.1.insert tag (.literal (.integer e.2))

/-- Rows under their numbers. -/
def numbered (tag : Variable) (U : List Row) : List Row := U.zipIdx.map (number tag)

/-- The rows, with their numbers, whose number is not among those of some other rows. -/
def unmatched (tag : Variable) (U V : List Row) : List (Int × Row) :=
  (U.zipIdx.map fun e => ((e.2 : Int), e.1)).filter fun e =>
    V.all fun v => Stage.tagOf? tag v != some e.1

/-- All numbers that come out for some rows are among theirs. -/
def Tagged (tag : Variable) (spec : List Row → List Row → Prop) : Prop :=
  ∀ U V, spec (numbered tag U) V → ∀ v ∈ V, Stage.tagOf? tag v ≠ some (U.length : Int)

/-- What an optional stage makes of rows: what its inner stage makes of them under their numbers,
and the rows whose numbers did not come out. A hasty inner stage may be done before it has seen all
rows; then only the rows that it has seen follow. -/
def Spec (tag : Variable) (hasty : Prop) (spec : List Row → List Row → Prop) (U W : List Row) :
    Prop :=
  ∃ seen V, seen <+: U ∧ (¬hasty → seen = U) ∧ spec (numbered tag U) V ∧
    W = V.map (Row.without · [tag]) ++ (unmatched tag seen V).map Prod.snd

/-- One more row under its number. -/
theorem numbered_append (tag : Variable) (U more : List Row) :
    numbered tag (U ++ more) = numbered tag U ++ (more.zipIdx U.length).map (number tag) := by
  simp [numbered, List.zipIdx_append]

/-- A row that has just come in is unmatched. -/
theorem unmatched_snoc (tag : Variable) {U V : List Row} (r : Row)
    (h : ∀ v ∈ V, Stage.tagOf? tag v ≠ some (U.length : Int)) :
    unmatched tag (U ++ [r]) V = unmatched tag U V ++ [((U.length : Int), r)] := by
  simp only [unmatched, List.zipIdx_append, List.map_append, List.filter_append]
  congr 1
  simpa using h

/-- A row that comes out matches the rows under its number. -/
theorem untag_eq (tag : Variable) (U V : List Row) (r : Row) :
    Stage.untag tag (unmatched tag U V) r =
      (Row.without r [tag], unmatched tag U (V ++ [r])) := by
  unfold Stage.untag
  refine Prod.ext rfl ?_
  cases h : Stage.tagOf? tag r with
  | none =>
    refine List.filter_congr fun e _ => ?_
    simp [h]
  | some id =>
    simp only [unmatched, List.filter_filter]
    refine List.filter_congr fun e _ => ?_
    rw [List.all_append, Bool.and_comm]
    congr 1
    have hcomm : e.1 = id ↔ id = e.1 := eq_comm
    rw [Bool.eq_iff_iff]
    simp [h, hcomm]

variable {E : Scene σ} {hasty : Prop} {spec : List Row → List Row → Prop} {tag : Variable}

/-- The invariant of optional stages. -/
inductive Inv (E : Scene σ) (hasty : Prop) (spec : List Row → List Row → Prop) (tag : Variable) :
    Stage → Traffic → Session σ → Prop
  /-- The inner stage is at work. -/
  | working {inner : Stage} {h hi : Traffic} {s : Session σ}
    (running : E.Running hasty spec inner hi s) (taken : hi.taken = numbered tag h.taken)
    (ended : hi.ended = h.ended) (given : h.given = hi.given.map (Row.without · [tag])) :
    Inv E hasty spec tag
      (.optional tag inner h.taken.length (unmatched tag h.taken hi.given) none) h s
  /-- The unmatched rows follow. -/
  | following {inner : Stage} {next : Nat} {rows V : List Row} {h : Traffic} {s : Session σ}
    (closed : h.ended = true ∨ hasty)
    (made : ∀ rest, h.Rest rest → spec (numbered tag (h.taken ++ rest)) V)
    (given : h.given ++ rows =
      V.map (Row.without · [tag]) ++ (unmatched tag h.taken V).map Prod.snd) :
    Inv E hasty spec tag (.optional tag inner next [] (some rows)) h s

/-- The unmatched rows come to an end. -/
theorem halts_following {net : Network σ} {now : DateTime} {rely : σ → σ → Prop}
    (inner : Stage) (next : Nat) (unmatched : List (Int × Row)) (rows : List Row)
    (s : Session σ) :
    Stage.Halts net now rely (.optional tag inner next unmatched (some rows)) s := by
  induction rows generalizing s with
  | nil => exact .acts rfl fun s' _ hne => absurd rfl hne
  | cons r rest ih => exact .acts rfl fun s' _ _ => ih s'

/-- An optional stage after a step of its inner stage. -/
def after (tag : Variable) (next : Nat) (unmatched : List (Int × Row)) :
    Stage × Option Signal → Stage × Option Signal
  | (inner, some (.row r)) =>
    (.optional tag inner next (Stage.untag tag unmatched r).2 none,
      some (.row (Stage.untag tag unmatched r).1))
  | (inner, some .done) => (.optional tag inner next [] (some (unmatched.map (·.2))), none)
  | (inner, y?) => (.optional tag inner next unmatched none, y?)

/-- A step of an optional stage without a row is one of its inner stage. -/
theorem step_optional (net : Network σ) (now : DateTime) (inner : Stage) (next : Nat)
    (unmatched : List (Int × Row)) {x? : Option Signal} (hx : ∀ r, x? ≠ some (.row r))
    (s : Session σ) :
    (Stage.optional tag inner next unmatched none).step net now x? s =
      (after tag next unmatched (inner.step net now x? s).1, (inner.step net now x? s).2) := by
  have htag : Stage.tagSignal tag next x? = (x?, none) := by
    rcases x? with _ | r | _ | _
    · rfl
    · exact absurd rfl (hx r)
    · rfl
    · rfl
  rw [Stage.step, htag]
  simp only [Option.map_none, Option.toList_none, List.append_nil, Option.isSome_none,
    Bool.false_eq_true, if_false]
  rcases inner.step net now x? s with ⟨⟨inner', _ | _ | _ | _⟩, s'⟩ <;> rfl

/-- A step of an optional stage with a row is one of its inner stage with the row under its
number. -/
theorem step_optional_row (net : Network σ) (now : DateTime) (inner : Stage) (next : Nat)
    (unmatched : List (Int × Row)) (r : Row) (s : Session σ) :
    (Stage.optional tag inner next unmatched none).step net now (some (.row r)) s =
      (after tag (next + 1) (unmatched ++ [((next : Int), r)])
          (inner.step net now (some (.row (number tag (r, next)))) s).1,
        (inner.step net now (some (.row (number tag (r, next)))) s).2) := by
  have htag : Stage.tagSignal tag next (some (.row r)) =
      (some (.row (number tag (r, next))), some r) := rfl
  rw [Stage.step, htag]
  simp only [Option.map_some, Option.toList_some, Option.isSome_some, if_true]
  rcases inner.step net now (some (.row (number tag (r, next)))) s with
    ⟨⟨inner', _ | _ | _ | _⟩, s'⟩ <;> rfl

/-- An optional stage that still takes rows in gives its inner stage what comes from above, a row
under its number. -/
theorem exists_step (net : Network σ) (now : DateTime) (tag : Variable) (inner : Stage) (next : Nat)
    (unmatched : List (Int × Row)) (x? : Option Signal) (s : Session σ) :
    ∃ y? next' unmatched', (∀ e, y? = some (.fail e) → x? = some (.fail e)) ∧
      (Stage.optional tag inner next unmatched none).step net now x? s =
        (after tag next' unmatched' (inner.step net now y? s).1, (inner.step net now y? s).2) := by
  by_cases hrow : ∃ r, x? = some (.row r)
  · obtain ⟨r, rfl⟩ := hrow
    exact ⟨_, _, _, by simp, step_optional_row net now inner next unmatched r s⟩
  · exact ⟨x?, next, unmatched, fun _ => id,
      step_optional net now inner next unmatched (fun r hr => hrow ⟨r, hr⟩) s⟩

variable {inner : Stage} {h hi : Traffic} {s : Session σ}

/-- What a step of the inner stage comes to. -/
theorem fulfils_after (hi : Traffic) {out : Stage × Option Signal}
    (taken : hi.taken = numbered tag h.taken) (ended : hi.ended = h.ended)
    (given : h.given = hi.given.map (Row.without · [tag]))
    (hout : Stage.Fulfils (fun _ => True) hasty spec (E.Running hasty spec) hi s out) :
    Stage.Fulfils (fun _ => True) hasty (Spec tag hasty spec) (Inv E hasty spec tag) h s
      (after tag h.taken.length (unmatched tag h.taken hi.given) out) := by
  obtain ⟨inner, y?⟩ := out
  match y?, hout with
  | none, hout => exact .working hout taken ended given
  | some (.row r), hout =>
    have hgiven : (h.give (Row.without r [tag])).given =
        (hi.give r).given.map (Row.without · [tag]) := by
      simp [Traffic.give, given]
    have hinv := Inv.working (h := h.give (Row.without r [tag])) hout taken ended hgiven
    simpa [after, Stage.Fulfils, untag_eq, Traffic.give] using hinv
  | some .done, hout =>
    obtain ⟨hover, hspec⟩ := hout
    refine .following (V := hi.given) (ended ▸ hover) (fun rest hrest => ?_) (by rw [given])
    rw [numbered_append, ← taken]
    refine hspec _ (fun h' => ?_) trivial
    rw [hrest (ended ▸ h')]
    rfl

/-- No number comes out before its row has come in. -/
theorem tag_ne_length (hE : E.Lawful) (htagged : Tagged tag spec)
    (running : E.Running hasty spec inner hi s) (taken : hi.taken = numbered tag h.taken) :
    ∀ v ∈ hi.given, Stage.tagOf? tag v ≠ some (h.taken.length : Int) := by
  -- Whatever was handed on is part of what is made of the rows so far.
  have hnil : hi.Rest [] := fun _ => rfl
  obtain ⟨V, hV⟩ := running.completes hE hnil
  rw [List.append_nil, taken] at hV
  exact fun v hv => htagged _ _ hV v (List.mem_append_left _ hv)

/-- An optional stage comes to an end. -/
theorem halts_working (running : E.Running hasty spec inner hi s) (next : Nat)
    (unmatched : List (Int × Row)) :
    Stage.Halts E.net E.now E.others (.optional tag inner next unmatched none) s := by
  have hc := E.running_contract hasty spec
  have hhalts := hc.halts running
  induction hhalts generalizing hi unmatched with
  | wants hwants => exact .wants (by simp [Stage.wants, hwants])
  | @acts inner s hwants _ ih =>
    refine .acts (by simp [Stage.wants, hwants]) fun s' hmoves _ => ?_
    obtain ⟨-, hout⟩ := hc.acts (hc.stable running hmoves) hwants
    have hnext := ih s' hmoves
    rw [step_optional _ _ _ _ _ (by simp)]
    rcases hstep : inner.step E.net E.now none s' with ⟨⟨inner', y?⟩, s''⟩
    rw [hstep] at hout hnext
    cases y? with
    | none => exact hnext (by simp) hout _
    | some y =>
      cases y with
      | row r => exact hnext (by simp) hout _
      | done => exact halts_following _ _ _ _ _
      | fail e => exact False.elim hout

/-- The contract of an optional stage. -/
theorem contract (hE : E.Lawful) (htagged : Tagged tag spec) :
    E.Contract hasty (Spec tag hasty spec) (Inv E hasty spec tag) := by
  have hc := E.running_contract hasty spec
  constructor
  case stable =>
    intro st h s s' hinv hmoves
    cases hinv with
    | working running taken ended given =>
      exact .working (hc.stable running hmoves) taken ended given
    | following closed made given => exact .following closed made given
  case rests =>
    intro st h s hinv hended
    cases hinv with
    | working running taken ended given =>
      simp [Stage.wants, hc.rests running (ended.trans hended)]
    | following closed made given => rfl
  case acts =>
    intro st h s hinv hwants
    cases hinv with
    | @working inner _ hi _ running taken ended given =>
      have hinner : inner.wants = false := by simpa [Stage.wants] using hwants
      obtain ⟨hmoves, hout⟩ := hc.acts running hinner
      rw [step_optional _ _ _ _ _ (by simp)]
      exact ⟨hmoves, fulfils_after hi taken ended given hout⟩
    | @following inner next rows V _ _ closed made given =>
      cases rows with
      | nil =>
        refine ⟨hE.moves_refl s, closed, fun rest hrest _ => ?_⟩
        refine ⟨h.taken, V, List.prefix_append _ _, fun hhasty => ?_, made rest hrest, ?_⟩
        · rw [hrest (closed.resolve_right hhasty), List.append_nil]
        · simpa using given
      | cons r rest =>
        refine ⟨hE.moves_refl s, .following closed made ?_⟩
        simpa [Traffic.give] using given
  case takes =>
    intro st h s r hinv hwants _
    cases hinv with
    | @working inner _ hi _ running taken ended given =>
      have hinner : inner.wants = true := by simpa [Stage.wants] using hwants
      obtain ⟨hmoves, hout⟩ :=
        hc.takes running hinner (r := number tag (r, h.taken.length)) ⟨[], trivial⟩
      have htaken : (hi.take (number tag (r, h.taken.length))).taken =
          numbered tag (h.take r).taken := by
        simp [Traffic.take, numbered_append, taken]
      have hfulfils := fulfils_after (h := h.take r) _ htaken ended given hout
      rw [step_optional_row, ← unmatched_snoc tag r (tag_ne_length hE htagged running taken)]
      refine ⟨hmoves, ?_⟩
      simpa [Traffic.take] using hfulfils
    | following closed made given => exact absurd hwants (by simp [Stage.wants])
  case ends =>
    intro st h s hinv hwants _
    cases hinv with
    | @working inner _ hi _ running taken ended given =>
      have hinner : inner.wants = true := by simpa [Stage.wants] using hwants
      obtain ⟨hmoves, hout⟩ := hc.ends running hinner trivial
      rw [step_optional _ _ _ _ _ (by simp)]
      have htaken : hi.close.taken = numbered tag h.close.taken := taken
      exact ⟨hmoves, fulfils_after hi.close htaken rfl given hout⟩
    | following closed made given => exact absurd hwants (by simp [Stage.wants])
  case halts =>
    intro st h s hinv
    cases hinv with
    | working running taken ended given => exact halts_working running _ _
    | following closed made given => exact halts_following _ _ _ _ _

end Optional

/-- **Numbered rows.** An optional stage hands on what its inner stage makes of the rows under their
numbers, and then the rows whose numbers did not come out. -/
theorem Scene.Meets.optional {E : Scene σ} {hasty : Prop} {spec : List Row → List Row → Prop}
    (hE : E.Lawful) {tag : Variable} {inner : Stage} (hinner : E.Meets hasty inner spec)
    (htagged : Optional.Tagged tag spec) :
    E.Meets hasty (.optional tag inner 0 [] none) (Optional.Spec tag hasty spec) :=
  .of_contract (Optional.contract hE htagged) fun s hs =>
    .working (h := {}) (hinner s hs) rfl rfl rfl

end PagedSparql
