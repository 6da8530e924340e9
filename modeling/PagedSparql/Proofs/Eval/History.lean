import PagedSparql.Proofs.Eval.LabelUses

/-!
# Evaluation and what went before it

One state of evaluation goes along with a query: every expression that is evaluated may leave
compiled patterns, labels and UUIDs behind. What has been done to a state is its past
(`EvalState.after`).

The past has no effect on a steady expression, and a steady expression has no effect on what comes
after it but that patterns are compiled already (`Expression.evaluate_after`). So steady expressions
may be evaluated in any order, any number of times, or not at all. That the program stops on the way
is recorded in the state, apart from all values.
-/

namespace PagedSparql

/-- What is done to a state of evaluation. -/
inductive EvalAct where
  /-- An expression is evaluated for a row, with or without success. -/
  | evaluates (row : Row) (e : Expression)
  /-- The source of labels is used for something else. -/
  | uses (u : LabelUse)

/-- The state after something was done. -/
def EvalState.act (now : DateTime) (s : EvalState) : EvalAct → EvalState
  | .evaluates row e => ((Eval.evaluate now row e).run.run s).2
  | .uses u => { s with labels := (s.labels.use u).2 }

/-- The state after a past. -/
def EvalState.after (now : DateTime) (s : EvalState) (past : List EvalAct) : EvalState :=
  past.foldl (EvalState.act now) s

namespace Expression

/-- The value of an expression for a row in a state, or why there is none. -/
def result (now : DateTime) (row : Row) (e : Expression) (s : EvalState) : Except EvalError Term :=
  ((Eval.evaluate now row e).run.run s).1

end Expression

namespace Eval

variable {now : DateTime} {s s' : EvalState}

/-- The states differ in compiled patterns only, or in whether the program has stopped. -/
abbrev Matches : EvalState → EvalState → Prop := Supply fun _ => True

/-- A state matches itself. -/
theorem matches_refl (s : EvalState) : Matches s s := ⟨rfl, rfl, trivial⟩

/-- An expression has the same result in states that match, and leaves such states behind. -/
theorem alike_matches (now : DateTime) (row : Row) (e : Expression) :
    Alike Matches (evaluate now row e) (evaluate now row e) :=
  alike_evaluate blind_supply now e (.inr (supplied_supply fun _ _ _ => id)) (.refl _ row)

/-- What is done to states that match leaves such states behind. -/
theorem Matches.act (h : Matches s s') (a : EvalAct) : Matches (s.act now a) (s'.act now a) := by
  cases a with
  | evaluates row e => exact (alike_matches now row e s s' h).2
  | uses u => exact ⟨congrArg (fun l : Labels => (l.use u).2) h.labels, h.uuids, trivial⟩

/-- A past leaves states behind that match if they did. -/
theorem Matches.after (h : Matches s s') (past : List EvalAct) :
    Matches (s.after now past) (s'.after now past) := by
  induction past generalizing s s' with
  | nil => exact h
  | cons a rest ih => exact ih (h.act a)

/-- A steady expression takes no label and no UUID. -/
theorem matches_evaluate (now : DateTime) (row : Row) {e : Expression} (he : e.isSteady = true)
    (s : EvalState) : Matches ((evaluate now row e).run.run s).2 s := by
  -- To match the first state is kept by what a step does.
  have hsteady : Alike (fun t _ => Matches t s) (evaluate now row e) (evaluate now row e) :=
    alike_evaluate (fun _ _ _ _ h => ⟨h.labels, h.uuids, trivial⟩) now e (.inl he) (.refl _ row)
  exact (hsteady s s (matches_refl s)).2

end Eval

namespace Expression

/-- **Evaluation does not depend on the past.** A steady expression, one that calls none of the
functions that make something new, has the same value or the same error after any two pasts of any
two states. And it leaves no trace: had it not been evaluated, all later expressions, steady or not,
would have the same values or errors. -/
theorem evaluate_after (now : DateTime) (row : Row) (e : Expression) (he : e.isSteady = true) :
    (∀ (s s' : EvalState) (past past' : List EvalAct),
      e.result now row (s.after now past) = e.result now row (s'.after now past')) ∧
      ∀ (s : EvalState) (before afterwards : List EvalAct) (row' : Row) (e' : Expression),
        e'.result now row' (s.after now (before ++ .evaluates row e :: afterwards)) =
          e'.result now row' (s.after now (before ++ afterwards)) := by
  refine ⟨fun s s' past past' => Eval.same_evaluate now he (.refl _ row) _ _,
    fun s before afterwards row' e' => (Eval.alike_matches now row' e' _ _ ?_).1⟩
  rw [EvalState.after, EvalState.after, List.foldl_append, List.foldl_append, List.foldl_cons]
  exact (Eval.matches_evaluate now row he _).after afterwards

end Expression

namespace Sample

/-- The time of a query. -/
def instant : DateTime := ⟨⟨0, 0, 0⟩, none⟩

/-- A match of a pattern that cannot be compiled, or else one that can. -/
def matching : Expression :=
  .call "Coalesce" [.call "REGEX" [.leaf (.variable ⟨"x"⟩), .leaf (.term (.string "("))],
    .call "regex" [.leaf (.variable ⟨"x"⟩), .leaf (.term (.string "^a"))]]

/-- A row with a text. -/
def named : Row := .ofList [(⟨"x"⟩, .string "ab")]

/-- Much has happened: blank nodes and a UUID were made, and both patterns were compiled. -/
def eventful : List EvalAct :=
  [.evaluates named (.call "BNODE" [.leaf (.variable ⟨"x"⟩)]), .evaluates named matching,
    .uses (.enterRow named), .evaluates .empty (.call "Uuid" [])]

end Sample

namespace Expression

/-- A match of a pattern is the same at first and after all that. -/
theorem evaluate_after_sample : Sample.matching.isSteady = true ∧
    Sample.matching.result Sample.instant Sample.named .start = .ok (.boolean true) ∧
    Sample.matching.result Sample.instant Sample.named
      (EvalState.start.after Sample.instant Sample.eventful) = .ok (.boolean true) := by
  have hsteady : Sample.matching.isSteady = true := by decide +kernel
  have hfirst : Sample.matching.result Sample.instant Sample.named .start = .ok (.boolean true) := by
    decide +kernel
  obtain ⟨hpast, -⟩ := evaluate_after Sample.instant Sample.named Sample.matching hsteady
  exact ⟨hsteady, hfirst, (hpast .start .start [] Sample.eventful).symm.trans hfirst⟩

end Expression

end PagedSparql
