import PagedSparql.Proofs.Pipeline.Scene

/-!
# Stages without stages inside

A leaf is a stage that holds no other stage and asks no endpoint. What it makes of rows is said by
its own steps (`Stage.Works`): it takes the rows one after the other, at each of them with some
state of evaluation, since other stages evaluate as well in between. A leaf meets exactly this
(`Scene.meets_leaf`), and is never in the way of another stage.
-/

namespace PagedSparql

variable {σ : Type}

namespace Session

/-- Something was evaluated, and nothing else has happened. -/
def Evaluated (s s' : Session σ) : Prop := ∃ evaluation, s' = { s with evaluation }

/-- Something was evaluated and then something else. -/
theorem Evaluated.trans {s s' s'' : Session σ} (h : Evaluated s s') (h' : Evaluated s' s'') :
    Evaluated s s'' := by
  obtain ⟨_, rfl⟩ := h
  obtain ⟨evaluation, rfl⟩ := h'
  exact ⟨evaluation, rfl⟩

/-- Evaluation moves nothing. -/
theorem Evaluated.moves {others : σ → σ → Prop} [Std.Refl others] {s s' : Session σ}
    (h : Evaluated s s') : Moves others s s' := by
  obtain ⟨_, rfl⟩ := h
  exact ⟨Std.Refl.refl _, rfl⟩

end Session

namespace Fold

variable (now : DateTime)

/-- The values for the rows of a group are evaluated. -/
theorem evaluated_values (e : Expression) (rows : List Row) (s : Session σ) :
    Session.Evaluated s (values now e rows s).2 := by
  induction rows generalizing s with
  | nil => exact ⟨_, rfl⟩
  | cons r rest ih =>
    have hfirst : Session.Evaluated s (s.evaluateRow r (Eval.evaluate now r e)).2 := ⟨_, rfl⟩
    exact hfirst.trans (ih _)

/-- An aggregate is evaluated. -/
theorem evaluated_apply (f : Fold) (rows : List Row) (s : Session σ) :
    Session.Evaluated s (f.apply now rows s).2 := by
  unfold apply
  cases f.argument with
  | none => exact ⟨_, rfl⟩
  | some e => exact evaluated_values now e rows s

/-- The aggregates of a group are evaluated. -/
theorem evaluated_extend (rows : List Row) (folds : List Fold) (row : Row) (s : Session σ) :
    Session.Evaluated s (extend now rows folds row s).2 := by
  induction folds generalizing row s with
  | nil => exact ⟨_, rfl⟩
  | cons f rest ih =>
    have happly := evaluated_apply now f rows s
    rw [extend]
    rcases hf : f.apply now rows s with ⟨_ | t, s'⟩
    all_goals
      rw [hf] at happly
      exact happly.trans (ih _ s')

/-- The aggregates of all groups are evaluated. -/
theorem evaluated_extendAll (folds : List Fold) (groups : List Group) (s : Session σ) :
    Session.Evaluated s (extendAll now folds groups s).2 := by
  induction groups generalizing s with
  | nil => exact ⟨_, rfl⟩
  | cons g rest ih => exact (evaluated_extend now g.rows folds g.key s).trans (ih _)

end Fold

namespace Stage

/-- The stage holds no other stage and asks no endpoint. -/
def isLeaf : Stage → Bool
  | .source _ .done => true
  | .source _ (.failed _) => false
  | .remote _ => false
  | .nested _ _ _ _ _ => false
  | .fork _ _ _ => false
  | .optional _ _ _ _ _ => false
  | .chain _ _ => false
  | _ => true

mutual

/-- The stage may be done before the last row has come in. -/
def hasty : Stage → Bool
  | .source _ _ => true
  | .slice _ take => take.isSome
  | .sort _ _ sorted => sorted.isSome
  | .group _ _ _ groups => groups.isSome
  | .fork _ _ branches => allHasty branches
  | .optional _ inner _ _ _ => inner.hasty
  | .chain upper lower => upper.hasty || lower.hasty
  | _ => false

/-- All of the stages may be done before the last row has come in. -/
def allHasty : List Stage → Bool
  | [] => true
  | st :: rest => st.hasty && allHasty rest

end

/-- What a leaf makes of rows, step by step: it takes a row in, turns to the rows that it has
gathered once the last row has come in, hands a row on, or is done. -/
inductive Works (σ : Type) (now : DateTime) : Stage → List Row → List Row → Prop
  | take {st st' : Stage} {r : Row} {y? : Option Row} {U W : List Row} {s s' : Session σ}
    (hwants : st.wants = true) (hstep : stepRow now st r s = ((st', y?.map .row), s'))
    (rest : Works σ now st' U W) : Works σ now st (r :: U) (y?.toList ++ W)
  | turn {st st' : Stage} {W : List Row} {s s' : Session σ} (hwants : st.wants = true)
    (hstep : stepDone now st s = ((st', none), s')) (rest : Works σ now st' [] W) :
    Works σ now st [] W
  | last {st st' : Stage} {s s' : Session σ} (hwants : st.wants = true)
    (hstep : stepDone now st s = ((st', some .done), s')) : Works σ now st [] []
  | give {st st' : Stage} {r : Row} {U W : List Row} (hwants : st.wants = false)
    (hstep : stepAlone st = (st', some (.row r))) (rest : Works σ now st' U W) :
    Works σ now st U (r :: W)
  | stop {st st' : Stage} {U : List Row} (hwants : st.wants = false)
    (hstep : stepAlone st = (st', some .done)) : Works σ now st U []

variable {net : Network σ} {now : DateTime} {st : Stage} {s : Session σ} {r : Row}

/-- A leaf that wants a row takes it. -/
theorem Works.take_inv {U W : List Row} (h : Works σ now st (r :: U) W) (hwants : st.wants = true) :
    ∃ (s : Session σ) (y? : Option Row) (W' : List Row),
      (stepRow now st r s).1.2 = y?.map .row ∧ Works σ now (stepRow now st r s).1.1 U W' ∧
        W = y?.toList ++ W' := by
  cases h with
  | @take _ st' _ y? _ W s s' _ hstep rest =>
    refine ⟨s, y?, W, ?_, ?_, rfl⟩
    · rw [hstep]
    · rw [hstep]
      exact rest
  | give hnot hstep rest => exact absurd hwants (by simp [hnot])
  | stop hnot hstep => exact absurd hwants (by simp [hnot])

/-- A leaf that is done at the end of the rows hands on nothing more. -/
theorem Works.last_inv {W : List Row} (h : Works σ now st [] W) (hwants : st.wants = true)
    (hdone : ∀ s : Session σ, (stepDone now st s).1.2 = some .done) : W = [] := by
  cases h with
  | @turn _ st' W s s' _ hstep rest =>
    have := hdone s
    rw [hstep] at this
    exact absurd this (by simp)
  | last _ hstep => rfl
  | give hnot hstep rest => exact absurd hwants (by simp [hnot])
  | stop hnot hstep => rfl

/-- A leaf makes steps of its own without a signal. -/
theorem step_leaf_none (h : st.isLeaf = true) : st.step net now none s = (stepAlone st, s) := by
  cases st <;> simp_all [isLeaf, step]

/-- A leaf makes steps of its own with a signal. -/
theorem step_leaf_some (h : st.isLeaf = true) (x : Signal) :
    st.step net now (some x) s = stepSignal now st x s := by
  cases st <;> simp_all [isLeaf, step]

/-- What a leaf may come to: it is still a leaf, no more hasty than before, and hands on a row if
anything. -/
structure StaysLeaf (st st' : Stage) (s s' : Session σ) : Prop where
  /-- It is a leaf. -/
  isLeaf : st'.isLeaf = true
  /-- It is hasty only if it was. -/
  hasty : st'.hasty = st.hasty
  /-- It may have evaluated something. -/
  evaluated : Session.Evaluated s s'

/-- A leaf that takes a row hands on at most a row. -/
theorem stepRow_leaf (h : st.isLeaf = true) (now : DateTime) (r : Row) (s : Session σ) :
    StaysLeaf st (stepRow now st r s).1.1 s (stepRow now st r s).2 ∧
      ∃ y? : Option Row, (stepRow now st r s).1.2 = y?.map .row := by
  cases st with
  | input => exact ⟨⟨rfl, rfl, _, rfl⟩, some r, rfl⟩
  | source rows ending => exact ⟨⟨h, rfl, _, rfl⟩, none, rfl⟩
  | filter condition =>
    simp only [stepRow]
    split
    · exact ⟨⟨rfl, rfl, _, rfl⟩, some r, rfl⟩
    · exact ⟨⟨rfl, rfl, _, rfl⟩, none, rfl⟩
  | bind v e =>
    simp only [stepRow]
    split
    · exact ⟨⟨rfl, rfl, _, rfl⟩, some _, rfl⟩
    · exact ⟨⟨rfl, rfl, _, rfl⟩, none, rfl⟩
  | values row => exact ⟨⟨rfl, rfl, _, rfl⟩, Row.merge r row, rfl⟩
  | project columns hidden => exact ⟨⟨rfl, rfl, _, rfl⟩, some _, rfl⟩
  | distinct seen =>
    simp only [stepRow]
    split
    · exact ⟨⟨rfl, rfl, _, rfl⟩, none, rfl⟩
    · exact ⟨⟨rfl, rfl, _, rfl⟩, some r, rfl⟩
  | slice skip take =>
    cases skip with
    | zero => exact ⟨⟨rfl, by simp [stepRow, hasty], _, rfl⟩, some r, rfl⟩
    | succ skip => exact ⟨⟨rfl, rfl, _, rfl⟩, none, rfl⟩
  | sort conditions taken sorted => exact ⟨⟨rfl, rfl, _, rfl⟩, none, rfl⟩
  | group keys folds taken groups => exact ⟨⟨rfl, rfl, _, rfl⟩, none, rfl⟩
  | remote | nested | fork | optional | chain => exact absurd h (by simp [Stage.isLeaf])

/-- A leaf is done at the end of the rows, or turns to what it has gathered and wants no more. -/
theorem stepDone_leaf (h : st.isLeaf = true) (now : DateTime) (s : Session σ) :
    Session.Evaluated s (stepDone now st s).2 ∧
      ((stepDone now st s).1.2 = some .done ∨
        (stepDone now st s).1.2 = none ∧ (stepDone now st s).1.1.isLeaf = true ∧
          (stepDone now st s).1.1.wants = false) := by
  cases st with
  | sort conditions taken sorted => exact ⟨⟨_, rfl⟩, .inr ⟨rfl, rfl, rfl⟩⟩
  | group keys folds taken groups =>
    exact ⟨Fold.evaluated_extendAll now folds _ s, .inr ⟨rfl, rfl, rfl⟩⟩
  | _ => exact ⟨⟨_, rfl⟩, .inl rfl⟩

/-- The rows that a leaf has still to hand on when it wants no more. -/
def waiting : Stage → List Row
  | .source rows _ => rows
  | .sort _ _ (some rows) => rows
  | .group _ _ _ (some rows) => rows
  | _ => []

/-- A leaf that wants nothing hands on a row that was waiting, or is done. -/
theorem stepAlone_leaf (h : st.isLeaf = true) (hwants : st.wants = false) :
    st.hasty = true ∧ ((stepAlone st).2 = some .done ∨
      ∃ r, (stepAlone st).2 = some (.row r) ∧ st.waiting = r :: (stepAlone st).1.waiting ∧
        (stepAlone st).1.isLeaf = true ∧ (stepAlone st).1.wants = false ∧
        (stepAlone st).1.hasty = true) := by
  cases st with
  | source rows ending =>
    cases ending with
    | failed e => exact absurd h (by simp [Stage.isLeaf])
    | done =>
      cases rows with
      | nil => exact ⟨rfl, .inl rfl⟩
      | cons r rest => exact ⟨rfl, .inr ⟨r, rfl, rfl, rfl, rfl, rfl⟩⟩
  | sort conditions taken sorted =>
    rcases sorted with _ | _ | ⟨r, rest⟩
    · exact absurd hwants (by simp [wants])
    · exact ⟨rfl, .inl rfl⟩
    · exact ⟨rfl, .inr ⟨r, rfl, rfl, rfl, rfl, rfl⟩⟩
  | group keys folds taken groups =>
    rcases groups with _ | _ | ⟨r, rest⟩
    · exact absurd hwants (by simp [wants])
    · exact ⟨rfl, .inl rfl⟩
    · exact ⟨rfl, .inr ⟨r, rfl, rfl, rfl, rfl, rfl⟩⟩
  | slice skip take =>
    obtain rfl : take = some 0 := by simpa [wants] using hwants
    exact ⟨rfl, .inl rfl⟩
  | remote | nested | fork | optional | chain => exact absurd h (by simp [Stage.isLeaf])
  | _ => exact absurd hwants (by simp [wants])

/-- A leaf comes to an end. -/
theorem halts_leaf {rely : σ → σ → Prop} (h : st.isLeaf = true) : Halts net now rely st s := by
  cases hwants : st.wants with
  | true => exact .wants hwants
  | false =>
    generalize hrows : st.waiting = rows
    induction rows generalizing st s with
    | nil =>
      refine .acts hwants fun s' _ hne => absurd ?_ hne
      rw [step_leaf_none h]
      obtain ⟨-, hdone | ⟨r, -, hwaiting, -⟩⟩ := stepAlone_leaf h hwants
      · exact hdone
      · exact absurd (hrows.symm.trans hwaiting) (by simp)
    | cons r rest ih =>
      refine .acts hwants fun s' _ hne => ?_
      rw [step_leaf_none h] at hne ⊢
      obtain ⟨-, hdone | ⟨r', -, hwaiting, hleaf, hwants', -⟩⟩ := stepAlone_leaf h hwants
      · exact absurd hdone hne
      · refine ih hleaf hwants' ?_
        rw [hrows, List.cons.injEq] at hwaiting
        exact hwaiting.2.symm

/-- The invariant of leaves: what is still to come completes what has been. -/
structure LeafInv (σ : Type) (now : DateTime) (first : Stage) (st : Stage) (h : Traffic) :
    Prop where
  /-- The stage is a leaf. -/
  isLeaf : st.isLeaf = true
  /-- It wants nothing after the last row. -/
  rests : h.ended = true → st.wants = false
  /-- Before the last row it is no more hasty than at first. -/
  hasty : h.ended = false → st.hasty = first.hasty
  /-- What it makes of the rows that may still come in is what is missing. -/
  works : ∀ U W, h.Rest U → Works σ now st U W → Works σ now first (h.taken ++ U) (h.given ++ W)

variable {first : Stage} {h : Traffic}

/-- A leaf that is done has worked off its rows. -/
theorem LeafInv.done (hinv : LeafInv σ now first st h) (hwants : st.wants = false)
    (hdone : (stepAlone st).2 = some .done) :
    (h.ended = true ∨ first.hasty = true) ∧
      ∀ rest, h.Rest rest → Works σ now first (h.taken ++ rest) h.given := by
  constructor
  · cases hended : h.ended with
    | true => exact .inl rfl
    | false =>
      refine .inr ?_
      rw [← hinv.hasty hended]
      exact (stepAlone_leaf hinv.isLeaf hwants).1
  · intro rest hrest
    have hworks : Works σ now st rest [] := .stop hwants (Prod.ext rfl hdone)
    simpa using hinv.works rest [] hrest hworks

/-- A leaf that has handed on a row on its own. -/
theorem LeafInv.give (hinv : LeafInv σ now first st h) (hwants : st.wants = false) {r : Row}
    (hrow : (stepAlone st).2 = some (.row r)) (hleaf : (stepAlone st).1.isLeaf = true)
    (hwants' : (stepAlone st).1.wants = false) (hhasty : (stepAlone st).1.hasty = true) :
    LeafInv σ now first (stepAlone st).1 (h.give r) where
  isLeaf := hleaf
  rests _ := hwants'
  hasty hended := by
    rw [hhasty, ← hinv.hasty hended]
    exact (stepAlone_leaf hinv.isLeaf hwants).1.symm
  works U W hrest hworks := by
    have := hinv.works U (r :: W) hrest (.give hwants (Prod.ext rfl hrow) hworks)
    simpa [Traffic.give] using this

/-- A leaf that has taken a row. -/
theorem LeafInv.take (hinv : LeafInv σ now first st h) (hwants : st.wants = true)
    (hended : h.ended = false) {y? : Option Row}
    (hrow : (stepRow now st r s).1.2 = y?.map .row)
    (hstays : StaysLeaf st (stepRow now st r s).1.1 s (stepRow now st r s).2) :
    LeafInv σ now first (stepRow now st r s).1.1
      ⟨h.taken ++ [r], h.ended, h.given ++ y?.toList⟩ where
  isLeaf := hstays.isLeaf
  rests h' := absurd h' (by simp [hended])
  hasty _ := hstays.hasty.trans (hinv.hasty hended)
  works U W hrest hworks := by
    have hfirst := hinv.works (r :: U) (y?.toList ++ W) (fun h' => absurd h' (by simp [hended]))
      (.take hwants (Prod.ext (Prod.ext rfl hrow) rfl) hworks)
    simpa using hfirst

/-- A leaf that has turned to what it has gathered. -/
theorem LeafInv.turn (hinv : LeafInv σ now first st h) (hwants : st.wants = true)
    (hnone : (stepDone now st s).1.2 = none) (hleaf : (stepDone now st s).1.1.isLeaf = true)
    (hwants' : (stepDone now st s).1.1.wants = false) :
    LeafInv σ now first (stepDone now st s).1.1 h.close where
  isLeaf := hleaf
  rests _ := hwants'
  hasty hended := absurd hended (by simp [Traffic.close])
  works U W hrest hworks := by
    obtain rfl := hrest rfl
    exact hinv.works [] W (fun _ => rfl) (.turn hwants (Prod.ext (Prod.ext rfl hnone) rfl) hworks)

end Stage

namespace Scene

variable {E : Scene σ} {st : Stage}

open Stage in
/-- **Leaves meet what they make of rows by their own steps.** -/
theorem meets_leaf (hE : E.Lawful) (h : st.isLeaf = true) :
    E.Meets (st.hasty = true) st (Works σ E.now st) := by
  have := hE.std_refl
  suffices hc : E.Contract (st.hasty = true) (Works σ E.now st)
      (fun st' h _ => LeafInv σ E.now st st' h) from .of_contract hc fun s _ =>
    ⟨h, fun h' => absurd h' (by simp), fun _ => rfl, fun U W _ hworks => by simpa using hworks⟩
  constructor
  case stable => exact fun hinv _ => hinv
  case rests => exact fun hinv => hinv.rests
  case acts =>
    intro st' h' s hinv hwants
    rw [step_leaf_none hinv.isLeaf]
    refine ⟨hE.moves_refl s, ?_⟩
    obtain ⟨-, hdone | ⟨r, hrow, -, hleaf, hwants', hhasty⟩⟩ := stepAlone_leaf hinv.isLeaf hwants
    · obtain ⟨hover, hworks⟩ := hinv.done hwants hdone
      rw [show stepAlone st' = ((stepAlone st').1, some .done) from Prod.ext rfl hdone]
      exact ⟨hover, fun rest hrest _ => hworks rest hrest⟩
    · have hgive := hinv.give hwants hrow hleaf hwants' hhasty
      rw [show stepAlone st' = ((stepAlone st').1, some (.row r)) from Prod.ext rfl hrow]
      exact hgive
  case takes =>
    intro st' h' s r hinv hwants _
    rw [step_leaf_some hinv.isLeaf, stepSignal]
    obtain ⟨hstays, y?, hrow⟩ := stepRow_leaf hinv.isLeaf E.now r s
    have hended : h'.ended = false := by
      by_contra hended
      exact absurd (hinv.rests (by simpa using hended)) (by simp [hwants])
    have htake := hinv.take hwants hended hrow hstays
    refine ⟨hstays.evaluated.moves, ?_⟩
    rw [show (stepRow E.now st' r s).1 = ((stepRow E.now st' r s).1.1, y?.map .row) from
      Prod.ext rfl hrow]
    cases y? with
    | none => simpa [Fulfils, Traffic.take] using htake
    | some y => exact htake
  case ends =>
    intro st' h' s hinv hwants _
    rw [step_leaf_some hinv.isLeaf, stepSignal]
    obtain ⟨hevaluated, hdone | ⟨hnone, hleaf, hwants'⟩⟩ := stepDone_leaf hinv.isLeaf E.now s
    · refine ⟨hevaluated.moves, ?_⟩
      rw [show (stepDone E.now st' s).1 = ((stepDone E.now st' s).1.1, some .done) from
        Prod.ext rfl hdone]
      refine ⟨.inl rfl, fun rest hrest _ => ?_⟩
      obtain rfl := hrest rfl
      have hworks : Works σ E.now st' [] [] := .last hwants (Prod.ext (Prod.ext rfl hdone) rfl)
      simpa [Traffic.close] using hinv.works [] [] (fun _ => rfl) hworks
    · have hturn := hinv.turn hwants hnone hleaf hwants'
      refine ⟨hevaluated.moves, ?_⟩
      rw [show (stepDone E.now st' s).1 = ((stepDone E.now st' s).1.1, none) from
        Prod.ext rfl hnone]
      exact hturn
  case halts => exact fun hinv => halts_leaf hinv.isLeaf

end Scene

end PagedSparql
