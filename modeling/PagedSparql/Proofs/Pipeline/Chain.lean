import Mathlib.Logic.Relation
import PagedSparql.Proofs.Pipeline.Scene

/-!
# Stages below one another

Two stages, one below the other, meet the composition of what they meet (`Scene.Meets.chain`). The
upper stage is asked only for what the lower one cannot go on without, so the lower one may be done
first; then the rows that the upper one would still hand on make no difference to it.

A chain comes to an end because its upper stage makes finitely many steps before it wants a row, and
the lower one finitely many between two of them.
-/

namespace PagedSparql

variable {σ : Type}

namespace Scene

variable {E : Scene σ} {hasty₁ hasty₂ : Prop} {spec₁ spec₂ : List Row → List Row → Prop}

/-- The invariant of a chain. -/
inductive ChainInv (E : Scene σ) (hasty₁ : Prop) (spec₁ : List Row → List Row → Prop)
    (hasty₂ : Prop) (spec₂ : List Row → List Row → Prop) : Stage → Traffic → Session σ → Prop
  /-- What the upper stage hands on comes to the lower one. -/
  | flowing {upper lower : Stage} {h h₁ h₂ : Traffic} {s : Session σ}
    (running₁ : E.Running hasty₁ spec₁ upper h₁ s) (running₂ : E.Running hasty₂ spec₂ lower h₂ s)
    (taken : h₁.taken = h.taken) (ended : h₁.ended = h.ended) (between : h₂.taken = h₁.given)
    (more : h₂.ended = false) (given : h₂.given = h.given) :
    ChainInv E hasty₁ spec₁ hasty₂ spec₂ (.chain upper lower) h s
  /-- The upper stage is done. -/
  | drained {upper lower : Stage} {h h₂ : Traffic} {s : Session σ}
    (running₂ : E.Running hasty₂ spec₂ lower h₂ s) (closed : h.ended = true ∨ hasty₁)
    (between : ∀ rest, h.Rest rest → spec₁ (h.taken ++ rest) h₂.taken)
    (last : h₂.ended = true) (given : h₂.given = h.given) :
    ChainInv E hasty₁ spec₁ hasty₂ spec₂ (.chain upper lower) h s

variable {upper lower : Stage} {h h₁ h₂ : Traffic} {s s' : Session σ}

/-- What a step of the lower stage comes to while rows flow. -/
theorem fulfils_flowing (hE : E.Lawful) (h₂ : Traffic)
    (running₁ : E.Running hasty₁ spec₁ upper h₁ s)
    (taken : h₁.taken = h.taken) (ended : h₁.ended = h.ended) (between : h₂.taken = h₁.given)
    (more : h₂.ended = false) (given : h₂.given = h.given) {out : Stage × Option Signal}
    (hout : Stage.Fulfils (fun _ => True) hasty₂ spec₂ (E.Running hasty₂ spec₂) h₂ s out) :
    Stage.Fulfils (fun _ => True) (hasty₁ ∨ hasty₂) (Relation.Comp spec₁ spec₂)
      (ChainInv E hasty₁ spec₁ hasty₂ spec₂) h s (.chain upper out.1, out.2) := by
  obtain ⟨lower, y?⟩ := out
  match y?, hout with
  | none, hout => exact .flowing running₁ hout taken ended between more given
  | some (.row r), hout =>
    refine .flowing running₁ hout taken ended between more ?_
    simp [Traffic.give, given]
  | some .done, hout =>
    obtain ⟨hover, hspec⟩ := hout
    have hhasty : hasty₂ := hover.resolve_left (by simp [more])
    refine ⟨.inr (.inr hhasty), fun rest hrest _ => ?_⟩
    -- The rows that the upper stage would still hand on make no difference.
    have hrest₁ : h₁.Rest rest := fun h' => hrest (ended ▸ h')
    obtain ⟨V, hV⟩ := running₁.completes hE hrest₁
    refine ⟨h₁.given ++ V, taken ▸ hV, ?_⟩
    have := hspec V (fun h' => absurd h' (by simp [more])) trivial
    rwa [between, given] at this

/-- What a step of the lower stage comes to once the upper one is done. -/
theorem fulfils_drained (h₂ : Traffic) (closed : h.ended = true ∨ hasty₁)
    (between : ∀ rest, h.Rest rest → spec₁ (h.taken ++ rest) h₂.taken)
    (last : h₂.ended = true) (given : h₂.given = h.given) {out : Stage × Option Signal}
    (hout : Stage.Fulfils (fun _ => True) hasty₂ spec₂ (E.Running hasty₂ spec₂) h₂ s out) :
    Stage.Fulfils (fun _ => True) (hasty₁ ∨ hasty₂) (Relation.Comp spec₁ spec₂)
      (ChainInv E hasty₁ spec₁ hasty₂ spec₂) h s (.chain upper out.1, out.2) := by
  obtain ⟨lower, y?⟩ := out
  match y?, hout with
  | none, hout => exact .drained hout closed between last given
  | some (.row r), hout =>
    refine .drained hout closed between last ?_
    simp [Traffic.give, given]
  | some .done, hout =>
    refine ⟨closed.imp_right .inl, fun rest hrest _ => ⟨h₂.taken, between rest hrest, ?_⟩⟩
    have := hout.2 [] (fun _ => rfl) trivial
    rwa [List.append_nil, given] at this

/-- What a step of the upper stage comes to: the lower one takes in what it hands on. -/
theorem fulfils_upper (hE : E.Lawful) (h₁ : Traffic) {x? : Option Signal}
    (hwants : lower.wants = true)
    (running₂ : E.Running hasty₂ spec₂ lower h₂ s) (taken : h₁.taken = h.taken)
    (ended : h₁.ended = h.ended) (between : h₂.taken = h₁.given) (more : h₂.ended = false)
    (given : h₂.given = h.given)
    (hmoves : Session.Moves E.others s (upper.step E.net E.now x? s).2)
    (hout : Stage.Fulfils (fun _ => True) hasty₁ spec₁ (E.Running hasty₁ spec₁) h₁
      (upper.step E.net E.now x? s).2 (upper.step E.net E.now x? s).1) :
    Session.Moves E.others s ((Stage.chain upper lower).step E.net E.now x? s).2 ∧
      Stage.Fulfils (fun _ => True) (hasty₁ ∨ hasty₂) (Relation.Comp spec₁ spec₂)
        (ChainInv E hasty₁ spec₁ hasty₂ spec₂) h
        ((Stage.chain upper lower).step E.net E.now x? s).2
        ((Stage.chain upper lower).step E.net E.now x? s).1 := by
  have hc := E.running_contract hasty₂ spec₂
  rcases hupper : upper.step E.net E.now x? s with ⟨⟨upper', y?⟩, s₁⟩
  rw [hupper] at hmoves hout
  simp only at hmoves hout
  have running₂' := hc.stable running₂ hmoves
  -- A row of the upper stage, or its end, goes to the lower one in the same step.
  match y?, hout with
  | none, hout =>
    rw [Stage.step_chain_of_none hwants hupper]
    exact ⟨hmoves, .flowing hout running₂' taken ended between more given⟩
  | some (.row r), hout =>
    rw [Stage.step_chain_of_some hwants hupper]
    obtain ⟨hmoves', hlower⟩ := hc.takes running₂' hwants (r := r) ⟨[], trivial⟩
    refine ⟨hE.moves_trans hmoves hmoves', ?_⟩
    have hout' := (E.running_contract hasty₁ spec₁).stable hout hmoves'
    refine fulfils_flowing hE (h₂.take r) hout' taken ended ?_ more given hlower
    simp [Traffic.take, Traffic.give, between]
  | some .done, hout =>
    obtain ⟨hover, hspec⟩ := hout
    rw [Stage.step_chain_of_some hwants hupper]
    obtain ⟨hmoves', hlower⟩ := hc.ends running₂' hwants trivial
    refine ⟨hE.moves_trans hmoves hmoves', ?_⟩
    refine fulfils_drained h₂.close (ended ▸ hover) ?_ rfl given hlower
    intro rest hrest
    have := hspec rest (fun h' => hrest (ended ▸ h')) trivial
    rwa [taken, ← between] at this

/-- A chain whose upper stage is done comes to an end. -/
theorem halts_drained (running₂ : E.Running hasty₂ spec₂ lower h₂ s) (last : h₂.ended = true) :
    Stage.Halts E.net E.now E.others (.chain upper lower) s := by
  have hc := E.running_contract hasty₂ spec₂
  have hhalts := hc.halts running₂
  induction hhalts generalizing h₂ with
  | wants hwants => exact absurd (hc.rests running₂ last) (by simp [hwants])
  | acts hwants _ ih =>
    refine .acts (by simp [Stage.wants, hwants]) fun s' hmoves hne => ?_
    rw [Stage.step_chain_of_not_wants hwants] at hne ⊢
    obtain ⟨-, hout⟩ := hc.acts (hc.stable running₂ hmoves) hwants
    obtain ⟨W, hrun⟩ := hout.keeps hne
    exact ih s' hmoves hne hrun last

/-- A chain comes to an end if it does so whenever its lower stage wants a row. -/
theorem halts_of_lower_wants (hE : E.Lawful) (running₁ : E.Running hasty₁ spec₁ upper h₁ s)
    (running₂ : E.Running hasty₂ spec₂ lower h₂ s) (more : h₂.ended = false)
    (hwants : ∀ lower h₂ s', Session.Moves E.others s s' → lower.wants = true →
      E.Running hasty₁ spec₁ upper h₁ s' → E.Running hasty₂ spec₂ lower h₂ s' → h₂.ended = false →
      Stage.Halts E.net E.now E.others (.chain upper lower) s') :
    Stage.Halts E.net E.now E.others (.chain upper lower) s := by
  have hc₁ := E.running_contract hasty₁ spec₁
  have hc₂ := E.running_contract hasty₂ spec₂
  have hhalts := hc₂.halts running₂
  induction hhalts generalizing h₂ with
  | @wants lower s h => exact hwants lower h₂ s (hE.moves_refl s) h running₁ running₂ more
  | acts h _ ih =>
    refine .acts (by simp [Stage.wants, h]) fun s' hmoves hne => ?_
    rw [Stage.step_chain_of_not_wants h] at hne ⊢
    obtain ⟨hmoves', hout⟩ := hc₂.acts (hc₂.stable running₂ hmoves) h
    have hmoves'' := hE.moves_trans hmoves hmoves'
    obtain ⟨W, hrun⟩ := hout.keeps hne
    refine ih s' hmoves hne (hc₁.stable running₁ hmoves'') hrun more ?_
    exact fun lower h₂ s₃ h₃ => hwants lower h₂ s₃ (hE.moves_trans hmoves'' h₃)

/-- A chain comes to an end. -/
theorem halts_flowing (hE : E.Lawful) (hhalts : Stage.Halts E.net E.now E.others upper s)
    (hmoves : Session.Moves E.others s s') (running₁ : E.Running hasty₁ spec₁ upper h₁ s')
    (running₂ : E.Running hasty₂ spec₂ lower h₂ s') (more : h₂.ended = false) :
    Stage.Halts E.net E.now E.others (.chain upper lower) s' := by
  have hc₁ := E.running_contract hasty₁ spec₁
  have hc₂ := E.running_contract hasty₂ spec₂
  -- The upper stage makes finitely many steps, the lower one finitely many between two of them.
  induction hhalts generalizing lower h₁ h₂ s' with
  | wants hwants =>
    refine halts_of_lower_wants hE running₁ running₂ more fun lower h₂ s'' _ hlower _ _ _ => ?_
    exact .wants (by simp [Stage.wants, hwants, hlower])
  | @acts upper s hwants _ ih =>
    refine halts_of_lower_wants hE running₁ running₂ more ?_
    intro lower h₂ s₁ hmoves₁ hlower running₁ running₂ more
    refine .acts (by simp [Stage.wants, hwants]) fun s₂ hmoves₂ hne => ?_
    have hmoves' := hE.moves_trans hmoves (hE.moves_trans hmoves₁ hmoves₂)
    obtain ⟨hmoves₃, hout⟩ := hc₁.acts (hc₁.stable running₁ hmoves₂) hwants
    have running₂' := hc₂.stable running₂ (hE.moves_trans hmoves₂ hmoves₃)
    have hnext := ih s₂ hmoves'
    rcases hupper : upper.step E.net E.now none s₂ with ⟨⟨upper', y?⟩, s₃⟩
    rw [hupper] at hmoves₃ hout hnext running₂'
    simp only at hmoves₃ hout hnext running₂'
    cases y? with
    | none =>
      rw [Stage.step_chain_of_none hlower hupper]
      exact hnext (by simp) (hE.moves_refl _) hout running₂' more
    | some y =>
      rw [Stage.step_chain_of_some hlower hupper] at hne ⊢
      cases y with
      | row r =>
        obtain ⟨hmoves₄, hlower'⟩ := hc₂.takes running₂' hlower (r := r) ⟨[], trivial⟩
        obtain ⟨W, hrun⟩ := hlower'.keeps hne
        exact hnext (by simp) hmoves₄ (hc₁.stable hout hmoves₄) hrun more
      | done =>
        obtain ⟨hmoves₄, hlower'⟩ := hc₂.ends running₂' hlower trivial
        obtain ⟨W, hrun⟩ := hlower'.keeps hne
        exact halts_drained hrun rfl
      | fail e => exact False.elim hout

/-- The contract of a chain. -/
theorem chain_contract (hE : E.Lawful) :
    E.Contract (hasty₁ ∨ hasty₂) (Relation.Comp spec₁ spec₂)
      (ChainInv E hasty₁ spec₁ hasty₂ spec₂) := by
  have hc₁ := E.running_contract hasty₁ spec₁
  have hc₂ := E.running_contract hasty₂ spec₂
  constructor
  case stable =>
    intro st h s s' hinv hmoves
    cases hinv with
    | flowing running₁ running₂ taken ended between more given =>
      exact .flowing (hc₁.stable running₁ hmoves) (hc₂.stable running₂ hmoves) taken ended between
        more given
    | drained running₂ closed between last given =>
      exact .drained (hc₂.stable running₂ hmoves) closed between last given
  case rests =>
    intro st h s hinv hended
    cases hinv with
    | flowing running₁ running₂ taken ended between more given =>
      simp [Stage.wants, hc₁.rests running₁ (ended.trans hended)]
    | drained running₂ closed between last given =>
      simp [Stage.wants, hc₂.rests running₂ last]
  case acts =>
    intro st h s hinv hwants
    cases hinv with
    | @flowing upper lower _ h₁ h₂ _ running₁ running₂ taken ended between more given =>
      cases hlower : lower.wants with
      | false =>
        rw [Stage.step_chain_of_not_wants hlower]
        obtain ⟨hmoves, hout⟩ := hc₂.acts running₂ hlower
        exact ⟨hmoves, fulfils_flowing hE h₂ (hc₁.stable running₁ hmoves) taken ended between more
          given hout⟩
      | true =>
        have hupper : upper.wants = false := by simpa [Stage.wants, hlower] using hwants
        obtain ⟨hmoves, hout⟩ := hc₁.acts running₁ hupper
        exact fulfils_upper hE h₁ hlower running₂ taken ended between more given hmoves hout
    | @drained upper lower _ h₂ _ running₂ closed between last given =>
      have hlower := hc₂.rests running₂ last
      rw [Stage.step_chain_of_not_wants hlower]
      obtain ⟨hmoves, hout⟩ := hc₂.acts running₂ hlower
      exact ⟨hmoves, fulfils_drained h₂ closed between last given hout⟩
  case takes =>
    intro st h s r hinv hwants _
    cases hinv with
    | @flowing upper lower _ h₁ h₂ _ running₁ running₂ taken ended between more given =>
      obtain ⟨hlower, hupper⟩ : lower.wants = true ∧ upper.wants = true := by
        simpa [Stage.wants] using hwants
      obtain ⟨hmoves, hout⟩ := hc₁.takes running₁ hupper (r := r) ⟨[], trivial⟩
      refine fulfils_upper hE (h₁.take r) hlower running₂ ?_ ended between more given hmoves
        hout
      simp [Traffic.take, taken]
    | drained running₂ closed between last given =>
      exact absurd hwants (by simp [Stage.wants, hc₂.rests running₂ last])
  case ends =>
    intro st h s hinv hwants _
    cases hinv with
    | @flowing upper lower _ h₁ h₂ _ running₁ running₂ taken ended between more given =>
      obtain ⟨hlower, hupper⟩ : lower.wants = true ∧ upper.wants = true := by
        simpa [Stage.wants] using hwants
      obtain ⟨hmoves, hout⟩ := hc₁.ends running₁ hupper trivial
      exact fulfils_upper hE h₁.close hlower running₂ taken rfl between more given hmoves
        hout
    | drained running₂ closed between last given =>
      exact absurd hwants (by simp [Stage.wants, hc₂.rests running₂ last])
  case halts =>
    intro st h s hinv
    cases hinv with
    | flowing running₁ running₂ taken ended between more given =>
      exact halts_flowing hE (hc₁.halts running₁) (hE.moves_refl s) running₁ running₂ more
    | drained running₂ closed between last given => exact halts_drained running₂ last

/-- **Two stages, one below the other.** What the upper one hands on is what the lower one takes
in. -/
theorem Meets.chain (hE : E.Lawful) (hupper : E.Meets hasty₁ upper spec₁)
    (hlower : E.Meets hasty₂ lower spec₂) :
    E.Meets (hasty₁ ∨ hasty₂) (.chain upper lower) (Relation.Comp spec₁ spec₂) :=
  .of_contract (chain_contract hE) fun s hs =>
    .flowing (hupper s hs) (hlower s hs) rfl rfl rfl rfl rfl

end Scene

end PagedSparql
