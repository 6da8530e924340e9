import PagedSparql.Proofs.Eval.LabelUses
import PagedSparql.Proofs.Pipeline.Addressed

/-!
# Stages and the source of labels

All stages of a pipeline take labels from the one source of their session. A bound join takes none;
the others take some where they evaluate, and tell the source which row they evaluate
(`Stage.later_stepRow`, `Stage.later_stepDone`). So the source after a step of any stage is the
source before it after some uses (`Stage.later_step`), and what is true after all uses of a source
is true at every moment of a run.
-/

namespace PagedSparql

variable {σ : Type}

namespace Session

/-- The source of labels of a session. -/
abbrev labels (s : Session σ) : Labels := s.evaluation.labels

/-- To close clients evaluates nothing. -/
theorem evaluation_closeFor (s : Session σ) (address : String) (closing : Closing) :
    (s.closeFor address closing).evaluation = s.evaluation := by
  cases closing <;> rfl

/-- To ask for a page evaluates nothing. -/
theorem evaluation_fetch (net : Network σ) (s : Session σ) (address : String) (request : Request) :
    (s.fetch net address request).2.evaluation = s.evaluation := by
  unfold fetch
  split
  · rfl
  · exact evaluation_closeFor _ _ _

end Session

/-- To read on evaluates nothing. -/
theorem PageSequence.evaluation_next (net : Network σ) (p : PageSequence) (s : Session σ) :
    (p.next net s).2.2.evaluation = s.evaluation := by
  unfold next
  split
  · rfl
  · exact Session.evaluation_fetch net s _ _

/-- A bound join evaluates nothing. -/
theorem BoundJoin.evaluation_advance (net : Network σ) (j : BoundJoin) (s : Session σ) :
    (j.advance net s).2.evaluation = s.evaluation := by
  unfold BoundJoin.advance
  split
  · rfl
  · split
    · rfl
    · split
      · next round _ => exact round.pages.evaluation_next net s
      · rfl

/-! ## What is evaluated -/

namespace Eval

variable (now : DateTime) (r : Row) (e : Expression) (s : EvalState)

/-- A condition leaves the state of its expression. -/
theorem run_truth_snd (x : Eval Term) : ((truth x).run.run s).2 = (x.run.run s).2 := by
  rw [truth, run_bind]
  rcases x.run.run s with ⟨_ | t, s'⟩ <;> rfl

/-- A condition only takes labels. -/
theorem draws_evaluateBool :
    s.labels.Draws ((evaluateBool now e r).run.run s).2.labels := by
  rw [evaluateBool, run_truth_snd]
  exact draws_evaluate now r e s

end Eval

/-- To evaluate for a row is to enter it and to take labels. -/
theorem Session.later_evaluateRow {α : Type} {x : Eval α}
    (hx : ∀ s : EvalState, s.labels.Draws (x.run.run s).2.labels) (s : Session σ) (r : Row) :
    s.labels.Later (s.evaluateRow r x).2.labels :=
  (s.labels.later_use (.enterRow r)).trans (hx (Eval.enterRow s.evaluation r)).later

namespace Stage

variable (now : DateTime)

/-- The columns of a row only take labels. -/
theorem draws_extendColumns (columns : List Column) (r : Row) (s : EvalState) :
    s.labels.Draws (extendColumns now columns r s).2.labels := by
  induction columns generalizing r s with
  | nil => exact .refl _
  | cons c rest ih =>
    cases c with
    | «variable» v => exact ih r s
    | expression e v =>
      have hdraws := Eval.draws_evaluate now r e s
      rw [extendColumns]
      rcases hrun : (Eval.evaluate now r e).run.run s with ⟨_ | t, s'⟩
      all_goals
        rw [hrun] at hdraws
        exact hdraws.trans (ih _ _)

/-- A projection enters its row and only takes labels then. -/
theorem draws_projectRow (columns : List Column) (hidden : List Variable) (r : Row)
    (s : Session σ) :
    (s.labels.enterRow r).Draws (projectRow now columns hidden r s).2.labels :=
  draws_extendColumns now columns r (Eval.enterRow s.evaluation r)

/-- A projection enters its row and takes labels. -/
theorem later_projectRow (columns : List Column) (hidden : List Variable) (r : Row)
    (s : Session σ) : s.labels.Later (projectRow now columns hidden r s).2.labels :=
  (s.labels.later_use (.enterRow r)).trans (draws_projectRow now columns hidden r s).later

end Stage

/-- The keys of a row only take labels. -/
theorem KeyedRow.draws_keysOf (now : DateTime) (r : Row) (conditions : List OrderCondition)
    (s : EvalState) : s.labels.Draws (keysOf now r conditions s).2.labels := by
  induction conditions generalizing s with
  | nil => exact .refl _
  | cons c rest ih => exact (Eval.draws_evaluate now r c.expression s).trans (ih _)

/-- The keys of a row enter it and take labels. -/
theorem KeyedRow.later_ofRow (now : DateTime) (conditions : List OrderCondition) (r : Row)
    (s : Session σ) : s.labels.Later (ofRow now conditions r s).2.labels :=
  (s.labels.later_use (.enterRow r)).trans
    (draws_keysOf now r conditions (Eval.enterRow s.evaluation r)).later

namespace Fold

variable (now : DateTime)

/-- The values for the rows of a group enter the rows and take labels. -/
theorem later_values (e : Expression) (rows : List Row) (s : Session σ) :
    s.labels.Later (values now e rows s).2.labels := by
  induction rows generalizing s with
  | nil => exact .refl _
  | cons r rest ih =>
    exact (Session.later_evaluateRow (Eval.draws_evaluate now r e) s r).trans (ih _)

/-- An aggregate enters rows and takes labels. -/
theorem later_apply (f : Fold) (rows : List Row) (s : Session σ) :
    s.labels.Later (f.apply now rows s).2.labels := by
  unfold apply
  cases f.argument with
  | none => exact .refl _
  | some e => exact later_values now e rows s

/-- The aggregates of a group enter rows and take labels. -/
theorem later_extend (rows : List Row) (folds : List Fold) (r : Row) (s : Session σ) :
    s.labels.Later (extend now rows folds r s).2.labels := by
  induction folds generalizing r s with
  | nil => exact .refl _
  | cons f rest ih =>
    have happly := later_apply now f rows s
    rw [extend]
    rcases hf : f.apply now rows s with ⟨_ | t, s'⟩
    all_goals
      rw [hf] at happly
      exact happly.trans (ih _ s')

/-- The aggregates of all groups enter rows and take labels. -/
theorem later_extendAll (folds : List Fold) (groups : List Group) (s : Session σ) :
    s.labels.Later (extendAll now folds groups s).2.labels := by
  induction groups generalizing s with
  | nil => exact .refl _
  | cons g rest ih => exact (later_extend now g.rows folds g.key s).trans (ih _)

end Fold

/-! ## Steps and pulls -/

namespace Stage

variable (net : Network σ) (now : DateTime)

/-- A stage that takes a row in uses the source of labels. -/
theorem later_stepRow (st : Stage) (r : Row) (s : Session σ) :
    s.labels.Later (stepRow now st r s).2.labels := by
  cases st with
  | filter condition =>
    have hcondition := Session.later_evaluateRow (Eval.draws_evaluateBool now r condition) s r
    simp only [stepRow]
    split <;> exact hcondition
  | bind v e =>
    have hvalue := Session.later_evaluateRow (Eval.draws_evaluate now r e) s r
    simp only [stepRow]
    split
    · exact hvalue.trans (Labels.later_use _ (.extendRow _))
    · exact hvalue
  | project columns hidden => exact later_projectRow now columns hidden r s
  | distinct seen =>
    simp only [stepRow]
    split <;> exact .refl _
  | slice skip take => cases skip <;> exact .refl _
  | sort conditions taken sorted => exact KeyedRow.later_ofRow now conditions r s
  | _ => exact .refl _

/-- A stage at the end of its rows uses the source of labels. -/
theorem later_stepDone (st : Stage) (s : Session σ) :
    s.labels.Later (stepDone now st s).2.labels := by
  cases st with
  | group keys folds taken groups => exact Fold.later_extendAll now folds _ s
  | _ => exact .refl _

/-- All that single steps do to the source of labels is to use it. -/
theorem keeps_later : Keeps net now (fun _ => True) fun s s' => s.labels.Later s'.labels where
  refl s := .refl s.labels
  trans h h' := h.trans h'
  takes _ r s := later_stepRow now _ r s
  ends _ s := later_stepDone now _ s
  accepts _ _ := trivial
  advances {j} _ s := ⟨trivial, by
    rw [Session.labels, Session.labels, BoundJoin.evaluation_advance net j s]
    exact .refl _⟩

/-- **All that a step of a stage does to the source of labels is to use it.** -/
theorem later_step (st : Stage) (x? : Option Signal) (s : Session σ) :
    s.labels.Later (st.step net now x? s).2.labels :=
  (Each.step (keeps_later net now) (each_of_holds st fun _ _ => trivial) x? s).2

/-- All that a pull of a stage does to the source of labels is to use it. -/
theorem later_pull (st : Stage) (n : Nat) (s : Session σ) :
    s.labels.Later (st.pull net now n s).2.2.labels :=
  (Each.pull (keeps_later net now) (each_of_holds st fun _ _ => trivial) n s).2

end Stage

end PagedSparql
