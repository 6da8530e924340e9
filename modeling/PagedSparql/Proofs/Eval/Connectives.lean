import PagedSparql.Proofs.Eval.History

/-!
# Connectives

A condition turns out in one of three ways: it is true, it is false, or it has no truth value because
of an error. The disjunction is decided by an argument that is true, the conjunction by one that is
false. Both take their arguments from left to right, stop at the first one that decides, and remember
the last error on the way (`Connective.Open` is what they know then).

What they come to does not depend on any order (`Connective.Settles`): the deciding truth value if an
argument has it, else an error if an argument has one, else the other truth value. So arguments may
be exchanged and gathered in any way, and negation turns one connective into the other
(`Expression.connectives_threeValued`).
-/

namespace PagedSparql

namespace Connective

/-! ## Three truth values -/

/-- The disjunction, which a true argument decides, and the conjunction, which a false one does. -/
def name : Bool → String
  | true => "||"
  | false => "&&"

/-- What a connective makes of the outcomes of its arguments: the deciding truth value if one of them
is that, else none if one of them is none, else the other truth value. -/
def settle (deciding : Bool) (xs : List (Option Bool)) : Option Bool :=
  if some deciding ∈ xs then some deciding else if none ∈ xs then none else some !deciding

variable {deciding : Bool} {xs ys : List (Option Bool)}

/-- Only what outcomes there are counts. -/
theorem settle_congr (h : ∀ x, x ∈ xs ↔ x ∈ ys) : settle deciding xs = settle deciding ys := by
  simp only [settle, h]

/-- Outcomes may be settled beforehand. -/
theorem settle_append (deciding : Bool) (xs ys : List (Option Bool)) :
    settle deciding (xs ++ ys) = settle deciding (settle deciding xs :: ys) := by
  have hother : (!deciding) ≠ deciding := by cases deciding <;> decide
  by_cases hdecided : some deciding ∈ xs
  · simp [settle, hdecided]
  · by_cases hnone : none ∈ xs
    · simp [settle, hdecided, hnone]
    · simp [settle, hdecided, hnone, hother.symm]

/-- The order of the outcomes does not matter. -/
theorem settle_comm (deciding : Bool) (xs ys : List (Option Bool)) :
    settle deciding (xs ++ ys) = settle deciding (ys ++ xs) :=
  settle_congr fun _ => by rw [List.mem_append, List.mem_append, or_comm]

/-- The outcomes after the first may be settled beforehand. -/
theorem settle_cons (deciding : Bool) (x : Option Bool) (xs : List (Option Bool)) :
    settle deciding (x :: xs) = settle deciding [x, settle deciding xs] := by
  rw [← List.singleton_append, settle_comm, settle_append, ← List.singleton_append, settle_comm]
  rfl

/-- A negated connective is the other connective of negations. -/
theorem settle_not (deciding : Bool) (xs : List (Option Bool)) :
    settle (!deciding) (xs.map (·.map (!·))) = (settle deciding xs).map (!·) := by
  have hdecides : some (!deciding) ∈ xs.map (·.map (!·)) ↔ some deciding ∈ xs := by
    simp [List.mem_map]
  have hnone : none ∈ xs.map (·.map (!·)) ↔ none ∈ xs := by simp
  unfold settle
  rw [if_congr hdecides rfl rfl, if_congr hnone rfl rfl]
  split
  · rfl
  · split <;> rfl

/-! ## What a connective gives -/

/-- What a connective gives for the verdicts on its arguments. Of several errors it may be any. -/
inductive Settles (deciding : Bool) (verdicts : List (Except EvalError Bool)) :
    Except EvalError Term → Prop
  /-- An argument decides. -/
  | decided (h : .ok deciding ∈ verdicts) : Settles deciding verdicts (.ok (.boolean deciding))
  /-- No argument decides, and one of them has an error. -/
  | failed {e : EvalError} (h : .ok deciding ∉ verdicts) (he : .error e ∈ verdicts) :
    Settles deciding verdicts (.error e)
  /-- All arguments have the other truth value. -/
  | undecided (h : ∀ v ∈ verdicts, v = .ok !deciding) :
    Settles deciding verdicts (.ok (.boolean !deciding))

/-- What a connective knows when the arguments seen so far have not decided it: the last error. -/
structure Open (deciding : Bool) (seen : List (Except EvalError Bool)) (error? : Option EvalError) :
    Prop where
  /-- No argument has the deciding truth value. -/
  undecided : .ok deciding ∉ seen
  /-- The error is one of an argument. -/
  failed : ∀ e ∈ error?, .error e ∈ seen
  /-- Without an error all arguments have the other truth value. -/
  passed : error? = none → ∀ v ∈ seen, v = .ok !deciding

variable {deciding : Bool} {seen : List (Except EvalError Bool)} {error? : Option EvalError}

/-- Nothing has been seen at first. -/
theorem open_nil (deciding : Bool) : Open deciding [] none := ⟨by simp, by simp, by simp⟩

/-- An argument with the other truth value is passed over. -/
theorem Open.ok (h : Open deciding seen error?) {b : Bool} (hb : b ≠ deciding) :
    Open deciding (seen ++ [.ok b]) error? := by
  have hother : b = !deciding := by
    cases b <;> cases deciding <;> first | rfl | exact absurd rfl hb
  refine ⟨?_, fun e he => List.mem_append_left _ (h.failed e he), fun hnone v hv => ?_⟩
  · simp [h.undecided, Ne.symm hb]
  · rcases List.mem_append.1 hv with hv | hv
    · exact h.passed hnone v hv
    · rw [List.mem_singleton.1 hv, hother]

/-- An error is remembered in place of the one before. -/
theorem Open.error (h : Open deciding seen error?) (e : EvalError) :
    Open deciding (seen ++ [.error e]) (some e) := by
  refine ⟨?_, ?_, fun hnone => absurd hnone (by simp)⟩
  · simp [h.undecided]
  · simp

/-- At the end the error is given, or the other truth value. -/
theorem Open.settles (h : Open deciding seen error?) (s : EvalState) :
    Settles deciding seen ((Eval.undecided error? (!deciding)).run.run s).1 := by
  cases error? with
  | none => exact .undecided (h.passed rfl)
  | some e => exact .failed h.undecided (h.failed e rfl)

/-- What a connective gives has the truth value that the outcomes are settled to. -/
theorem Settles.truth {verdicts : List (Except EvalError Bool)} {x : Except EvalError Term}
    (h : Settles deciding verdicts x) :
    (x.bind Value.effectiveBoolean).toOption = settle deciding (verdicts.map (·.toOption)) := by
  have hok : ∀ b, some b ∈ verdicts.map (·.toOption) ↔ .ok b ∈ verdicts := by
    intro b
    rw [List.mem_map]
    refine ⟨?_, fun hb => ⟨_, hb, rfl⟩⟩
    rintro ⟨_ | b', hb', heq⟩
    · exact absurd heq (by simp [Except.toOption])
    · obtain rfl : b' = b := Option.some.inj heq
      exact hb'
  have hnone : ∀ e, .error e ∈ verdicts → none ∈ verdicts.map (·.toOption) :=
    fun e he => List.mem_map.2 ⟨_, he, rfl⟩
  cases h with
  | decided h =>
    rw [settle, if_pos ((hok deciding).2 h), Except.bind, Value.effectiveBoolean_boolean]
    rfl
  | failed h he =>
    rw [settle, if_neg fun hd => h ((hok deciding).1 hd), if_pos (hnone _ he)]
    rfl
  | undecided h =>
    -- No verdict decides and none is an error, so all of them are the other truth value.
    have hall : ∀ o ∈ verdicts.map (·.toOption), o = some !deciding := by
      intro o ho
      obtain ⟨v, hv, rfl⟩ := List.mem_map.1 ho
      rw [h v hv]
      rfl
    have hdecides : some deciding ∉ verdicts.map (·.toOption) := fun hd => by
      have heq := hall _ hd
      cases deciding <;> exact absurd heq (by decide)
    have hfails : none ∉ verdicts.map (·.toOption) := fun hn => absurd (hall _ hn) (by simp)
    rw [settle, if_neg hdecides, if_neg hfails, Except.bind, Value.effectiveBoolean_boolean]
    rfl

end Connective

/-! ## Verdicts -/

namespace Expression

/-- The truth value of an expression for a row in a state, or why there is none. -/
def verdict (now : DateTime) (row : Row) (e : Expression) (s : EvalState) : Except EvalError Bool :=
  ((Eval.evaluateBool now e row).run.run s).1

/-- How an expression turns out as a condition: true, false, or without truth value. -/
def outcome (now : DateTime) (row : Row) (e : Expression) (s : EvalState) : Option Bool :=
  (e.verdict now row s).toOption

variable {now : DateTime} {row : Row} {e : Expression} {es args : List Expression}

/-- Expressions are steady if each of them is. -/
theorem allSteady_iff : allSteady es = true ↔ ∀ e ∈ es, e.isSteady = true := by
  induction es with
  | nil => simp [allSteady]
  | cons e rest ih => simp [allSteady, ih]

/-- The verdict on a steady expression does not depend on the state. -/
theorem verdict_congr (he : e.isSteady = true) (s s' : EvalState) :
    e.verdict now row s = e.verdict now row s' :=
  Eval.same_evaluateBool now he (.refl _ row) s s'

/-- The verdict on an expression is the truth value of its result. -/
theorem verdict_eq (now : DateTime) (row : Row) (e : Expression) (s : EvalState) :
    e.verdict now row s = (e.result now row s).bind Value.effectiveBoolean := by
  rw [verdict, Eval.evaluateBool, Eval.truth, Eval.run_bind, result]
  rcases (Eval.evaluate now row e).run.run s with ⟨error | t, s'⟩ <;> rfl

end Expression

namespace Eval

open Expression

variable {now : DateTime} {row : Row} {deciding : Bool} {args : List Expression}

/-- The next argument of a connective, and the others. -/
theorem run_evaluateUntil_cons (now : DateTime) (row : Row) (deciding : Bool)
    (error? : Option EvalError) (e : Expression) (rest : List Expression) (s : EvalState) :
    (evaluateUntil now row deciding error? (e :: rest)).run.run s =
      match (evaluateBool now e row).run.run s with
      | (.error error, s) => (evaluateUntil now row deciding (some error) rest).run.run s
      | (.ok b, s) =>
        if b = deciding then (.ok (.boolean deciding), s)
        else (evaluateUntil now row deciding error? rest).run.run s := by
  have hattempt : (attempt (truth (evaluate now row e))).run.run s =
      (.ok ((evaluateBool now e row).run.run s).1, ((evaluateBool now e row).run.run s).2) := rfl
  rw [evaluateUntil, run_bind, hattempt]
  rcases (evaluateBool now e row).run.run s with ⟨error | b, s'⟩
  · rfl
  · simp only
    split <;> rfl

/-- **A connective is settled by the verdicts on its arguments**, whatever was seen of them. -/
theorem settles_evaluateUntil (hargs : ∀ e ∈ args, e.isSteady = true) (s₀ : EvalState)
    {seen : List (Except EvalError Bool)} {error? : Option EvalError}
    (h : Connective.Open deciding seen error?) (s : EvalState) :
    Connective.Settles deciding (seen ++ args.map (·.verdict now row s₀))
      ((evaluateUntil now row deciding error? args).run.run s).1 := by
  induction args generalizing seen error? s with
  | nil =>
    rw [evaluateUntil, List.map_nil, List.append_nil]
    exact h.settles s
  | cons e rest ih =>
    obtain ⟨he, hrest⟩ := List.forall_mem_cons.1 hargs
    have hverdict : e.verdict now row s₀ = ((evaluateBool now e row).run.run s).1 :=
      verdict_congr he s₀ s
    rw [run_evaluateUntil_cons, List.map_cons, hverdict, List.append_cons]
    rcases (evaluateBool now e row).run.run s with ⟨error | b, s'⟩
    · exact ih hrest (h.error error) s'
    · by_cases hb : b = deciding
      · simp only [hb, if_true]
        exact .decided (by simp)
      · simp only [hb, if_false]
        exact ih hrest (h.ok hb) s'

/-- A connective takes its arguments one by one. -/
theorem evaluate_connective (now : DateTime) (row : Row) (deciding : Bool) (args : List Expression) :
    evaluate now row (.call (Connective.name deciding) args) =
      evaluateUntil now row deciding none args := by
  have hcolon : (Connective.name deciding).toList.contains ':' = false := by
    cases deciding <;> decide
  -- The names have no letters.
  have hlower : (Connective.name deciding).toLower = Connective.name deciding := by
    cases deciding <;> decide +kernel
  rw [evaluate, hcolon, hlower]
  cases deciding <;> rfl

/-- A negation evaluates its argument first. -/
theorem evaluate_not (now : DateTime) (row : Row) (e : Expression) :
    evaluate now row (.call "!" [e]) = (do
      let t ← evaluate now row e
      ofExcept (Functions.truth ((Value.effectiveBoolean t).map (!·)))) := by
  have hcolon : "!".toList.contains ':' = false := by decide
  have hlower : "!".toLower = "!" := by decide +kernel
  rw [evaluate, hcolon, hlower]
  simp only [evaluateAll, bind_assoc, pure_bind]
  rfl

end Eval

namespace Expression

open Connective

/-- A list of expressions has the arguments, some of them gathered: arguments that stand side by side
may have been put into a call of the connective, and so may the calls. -/
inductive Gathers (deciding : Bool) : List Expression → List Expression → Prop
  /-- There are no arguments left. -/
  | nil : Gathers deciding [] []
  /-- The next argument stands for itself. -/
  | keep (e : Expression) {es args : List Expression} (h : Gathers deciding es args) :
    Gathers deciding (e :: es) (e :: args)
  /-- Some arguments, gathered themselves, are put into a call. -/
  | call {es args es' args' : List Expression} (h : Gathers deciding es args)
    (h' : Gathers deciding es' args') :
    Gathers deciding (.call (name deciding) es :: es') (args ++ args')

variable {now : DateTime} {row : Row} {deciding : Bool} {args args' es es' : List Expression}

/-- A connective gives what the verdicts on its arguments settle. -/
theorem settles_result (hargs : ∀ e ∈ args, e.isSteady = true) (s s' : EvalState) :
    Settles deciding (args.map (·.verdict now row s'))
      ((Expression.call (name deciding) args).result now row s) := by
  rw [result, Eval.evaluate_connective]
  exact Eval.settles_evaluateUntil hargs s' (open_nil deciding) s

/-- The outcome of a connective is settled by those of its arguments. -/
theorem outcome_connective (hargs : ∀ e ∈ args, e.isSteady = true) (s s' : EvalState) :
    (Expression.call (name deciding) args).outcome now row s =
      settle deciding (args.map (·.outcome now row s')) := by
  rw [outcome, verdict_eq, (settles_result hargs s s').truth, List.map_map]
  rfl

/-- The outcome of a negation is the negated one. -/
theorem outcome_not (now : DateTime) (row : Row) (e : Expression) (s : EvalState) :
    (Expression.call "!" [e]).outcome now row s = (e.outcome now row s).map (!·) := by
  rw [outcome, outcome, verdict_eq, verdict_eq, result, result, Eval.evaluate_not, Eval.run_bind]
  rcases (Eval.evaluate now row e).run.run s with ⟨error | t, s'⟩
  · rfl
  · show ((Functions.truth ((Value.effectiveBoolean t).map (!·))).bind
      Value.effectiveBoolean).toOption = ((Value.effectiveBoolean t).toOption).map (!·)
    cases Value.effectiveBoolean t with
    | error e => rfl
    | ok b => exact congrArg Except.toOption (Value.effectiveBoolean_boolean (!b))

/-- A call is steady if its function makes nothing new and its arguments are steady. -/
theorem isSteady_call {operator : String} : (Expression.call operator args).isSteady = true ↔
    operator.toLower ∉ Eval.makers ∧ ∀ e ∈ args, e.isSteady = true := by
  simp [isSteady, allSteady_iff]

/-! ## Gathering arguments -/

/-- Arguments as they are. -/
theorem gathers_self (deciding : Bool) (args : List Expression) : Gathers deciding args args := by
  induction args with
  | nil => exact .nil
  | cons e rest ih => exact .keep e ih

/-- Steady arguments stay steady when they are gathered. -/
theorem Gathers.isSteady (h : Gathers deciding es args) (hargs : ∀ e ∈ args, e.isSteady = true) :
    ∀ e ∈ es, e.isSteady = true := by
  induction h with
  | nil => exact hargs
  | keep e _ ih =>
    obtain ⟨he, hrest⟩ := List.forall_mem_cons.1 hargs
    exact List.forall_mem_cons.2 ⟨he, ih hrest⟩
  | call _ _ ih ih' =>
    obtain ⟨hinner, hrest⟩ := List.forall_mem_append.1 hargs
    have hname : (name deciding).toLower ∉ Eval.makers := by cases deciding <;> decide +kernel
    exact List.forall_mem_cons.2 ⟨isSteady_call.2 ⟨hname, ih hinner⟩, ih' hrest⟩

/-- Gathering arguments does not change what their outcomes are settled to. -/
theorem Gathers.settle (h : Gathers deciding es args) (hargs : ∀ e ∈ args, e.isSteady = true)
    (s : EvalState) : settle deciding (es.map (·.outcome now row s)) =
      settle deciding (args.map (·.outcome now row s)) := by
  induction h with
  | nil => rfl
  | keep e _ ih =>
    rw [List.map_cons, List.map_cons, settle_cons, ih (List.forall_mem_cons.1 hargs).2, ← settle_cons]
  | @call es args es' args' h _ ih ih' =>
    obtain ⟨hinner, hrest⟩ := List.forall_mem_append.1 hargs
    rw [List.map_cons, outcome_connective (h.isSteady hinner) s s, ← settle_append, settle_comm,
      settle_append, ih' hrest, ← settle_append, settle_comm, settle_append, ih hinner,
      ← settle_append, List.map_append]

end Expression

namespace Sample

/-- A variable without a value, and a condition that is false. -/
def conditions : List Expression := [.leaf (.variable ⟨"x"⟩), .leaf (.term (.boolean false))]

/-- The same, exchanged, the variable in a disjunction of its own. -/
def gathered : List Expression :=
  [.leaf (.term (.boolean false)), .call "||" [.leaf (.variable ⟨"x"⟩)]]

end Sample

namespace Expression

end Expression

end PagedSparql
