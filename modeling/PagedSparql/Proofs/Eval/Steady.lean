import PagedSparql.Eval.Evaluate

/-!
# Steady expressions

What an expression reads besides its variables is the supply of new blank nodes and UUIDs; compiled
patterns have no effect on any value, and that the program has stopped is recorded, but not read. So
its evaluations from two states are alike for every relation of states that looks at that supply
only (`Eval.alike_evaluate`).

Most expressions make neither blank nodes nor UUIDs. Such a steady expression reads the variables
that occur in it and nothing else (`Eval.same_evaluate`), so that it has the same value for rows
that agree on them, in any state of evaluation.
-/

namespace PagedSparql

namespace Eval

variable {α β : Type}

/-- Two evaluations are alike for a relation of states: begun in related states, they have the same
result and end in related states. -/
def Alike (R : EvalState → EvalState → Prop) (x y : Eval α) : Prop :=
  ∀ s s', R s s' → (x.run.run s).1 = (y.run.run s').1 ∧ R (x.run.run s).2 (y.run.run s').2

/-- Two evaluations have the same result, in whatever states they begin. -/
def Same (x y : Eval α) : Prop := ∀ s s', (x.run.run s).1 = (y.run.run s').1

/-- The relation does not look at compiled patterns, nor at whether the program has stopped. -/
def Blind (R : EvalState → EvalState → Prop) : Prop :=
  ∀ {s s'} (p p' : PatternCache) (b b' : Bool), R s s' →
    R { s with patterns := p, stopped := b } { s' with patterns := p', stopped := b' }

/-- Related states make the same blank nodes and UUIDs, and are related afterwards. -/
structure Supplied (R : EvalState → EvalState → Prop) : Prop where
  /-- A blank node with a new label. -/
  fresh : Alike R freshBlank freshBlank
  /-- The blank node of a key. -/
  ofKey : ∀ key, Alike R (blankOfKey key) (blankOfKey key)
  /-- A UUID. -/
  uuid : Alike R freshUuid freshUuid

variable {R : EvalState → EvalState → Prop}

/-- Alike for the relation of any two states. -/
theorem Alike.same {x y : Eval α} (h : Alike (fun _ _ => True) x y) : Same x y :=
  fun s s' => (h s s' trivial).1

/-- A value is itself. -/
theorem alike_pure (a : α) : Alike R (pure a) (pure a) := fun _ _ h => ⟨rfl, h⟩

/-- An error is itself. -/
theorem alike_throw (e : EvalError) : Alike R (throw e : Eval α) (throw e) := fun _ _ h => ⟨rfl, h⟩

/-- A value or error that needs no state. -/
theorem alike_ofExcept (x : Except EvalError α) : Alike R (ofExcept x) (ofExcept x) :=
  fun _ _ h => ⟨rfl, h⟩

/-- Evaluating one thing and then another. -/
theorem run_bind (x : Eval α) (f : α → Eval β) (s : EvalState) : (x >>= f).run.run s =
    match x.run.run s with
    | (.ok a, s) => (f a).run.run s
    | (.error e, s) => (.error e, s) := by
  show (ExceptT.bindCont f (x.run.run s).1).run (x.run.run s).2 = _
  rcases x.run.run s with ⟨e | a, s'⟩ <;> rfl

/-- Two evaluations in a row. -/
theorem Alike.bind {x y : Eval α} {f g : α → Eval β} (h : Alike R x y)
    (hfg : ∀ a, Alike R (f a) (g a)) : Alike R (x >>= f) (y >>= g) := by
  intro s s' hs
  obtain ⟨hresult, hstate⟩ := h s s' hs
  rw [run_bind, run_bind]
  rcases hx : x.run.run s with ⟨_ | a, t⟩
  all_goals
    rcases hy : y.run.run s' with ⟨result, t'⟩
    rw [hx, hy] at hresult hstate
    subst hresult
  · exact ⟨rfl, hstate⟩
  · exact hfg a t t' hstate

/-- The result of an evaluation as a value. -/
theorem Alike.attempt {x y : Eval α} (h : Alike R x y) : Alike R (attempt x) (attempt y) := by
  intro s s' hs
  obtain ⟨hresult, hstate⟩ := h s s' hs
  exact ⟨congrArg Except.ok hresult, hstate⟩

/-- The truth value of a result. -/
theorem Alike.truth {x y : Eval Term} (h : Alike R x y) : Alike R (truth x) (truth y) :=
  h.bind fun _ => alike_ofExcept _

/-- A compiled pattern is what compiling gives, from any cache. -/
theorem run_pattern (text flags : String) (s : EvalState) : (pattern text flags).run.run s =
    ((Regex.compile text flags).mapError (patternError text),
      { s with patterns := (s.patterns.get text flags).2 }) := by
  have hget : (get : Eval EvalState).run.run s = (pure (.ok s, s) : Id _) := rfl
  have hset : ∀ s', (set s' : Eval PUnit).run.run s = (pure (.ok ⟨⟩, s') : Id _) := fun _ => rfl
  rw [← PatternCache.get_fst s.patterns text flags]
  simp only [pattern, ExceptT.run_bind, StateT.run_bind, hget, hset, pure_bind]
  cases (s.patterns.get text flags).1 <;> rfl

/-- A compiled pattern is the same from any cache. -/
theorem alike_pattern (hR : Blind R) (text flags : String) :
    Alike R (pattern text flags) (pattern text flags) := by
  intro s s' hs
  rw [run_pattern, run_pattern]
  exact ⟨rfl, hR _ _ _ _ hs⟩

/-- A value or error, or the end of the program. -/
theorem run_ofChecked (x : Checked (Except EvalError α)) (s : EvalState) : (ofChecked x).run.run s =
    match x with
    | .ok x => (x, s)
    | .error .overflow => (.error (.argument .integerOverflow), { s with stopped := true }) := by
  cases x <;> rfl

/-- A value or error, or the end of the program, needs no state. -/
theorem alike_ofChecked (hR : Blind R) (x : Checked (Except EvalError α)) :
    Alike R (ofChecked x) (ofChecked x) := by
  intro s s' hs
  rw [run_ofChecked, run_ofChecked]
  cases x with
  | ok x => exact ⟨rfl, hs⟩
  | error e => exact ⟨rfl, hR _ _ _ _ hs⟩

/-- A match of a pattern. -/
theorem alike_regex (hR : Blind R) (text pat : Term) (flags? : Option Term) :
    Alike R (regex text pat flags?) (regex text pat flags?) :=
  (alike_ofExcept _).bind fun _ => (alike_ofExcept _).bind fun _ => (alike_ofExcept _).bind fun _ =>
    (alike_pattern hR _ _).bind fun _ => alike_pure _

/-- A replacement of the matches of a pattern. -/
theorem alike_replace (hR : Blind R) (text pat replacement : Term) (flags? : Option Term) :
    Alike R (replace text pat replacement flags?) (replace text pat replacement flags?) := by
  refine (alike_ofExcept _).bind fun _ => (alike_ofExcept _).bind fun _ =>
    (alike_ofExcept _).bind fun _ => (alike_ofExcept _).bind fun _ =>
      (alike_pattern hR _ _).bind fun r => ?_
  split
  · exact alike_throw _
  · exact alike_pure _

/-- The names of the functions that make something new. -/
def makers : List String := ["bnode", "uuid", "struuid"]

/-- A function that makes nothing new, or one that related states supply alike. -/
theorem alike_apply (hR : Blind R) (now : DateTime) {name : String}
    (hname : name ∉ makers ∨ Supplied R) (args : List Term) :
    Alike R (apply now name args) (apply now name args) := by
  have hmaker : name ∈ makers → Supplied R := fun h => hname.resolve_left (not_not_intro h)
  unfold apply
  split
  · exact (hmaker (by simp [makers])).fresh
  · exact (alike_ofExcept _).bind fun _ => (hmaker (by simp [makers])).ofKey _
  · exact (hmaker (by simp [makers])).uuid.bind fun _ => alike_pure _
  · exact (hmaker (by simp [makers])).uuid.bind fun _ => alike_pure _
  · exact alike_pure _
  · exact alike_regex hR _ _ _
  · exact alike_regex hR _ _ _
  · exact alike_replace hR _ _ _ _
  · exact alike_replace hR _ _ _ _
  · exact alike_ofChecked hR _
  · split
    · exact alike_ofExcept _
    · split
      · exact alike_throw _
      · exact alike_throw _

/-- The end of a connective. -/
theorem alike_undecided (error? : Option EvalError) (value : Bool) :
    Alike R (undecided error? value) (undecided error? value) := by
  cases error? with
  | none => exact alike_pure _
  | some e => exact alike_throw e

end Eval

namespace Expression

mutual

/-- No part of the expression makes a blank node or a UUID. -/
def isSteady : Expression → Bool
  | .leaf _ => true
  | .aggregate _ _ _ _ => true
  | .call operator args => !Eval.makers.contains operator.toLower && allSteady args

/-- No part of the expressions of a list makes a blank node or a UUID. -/
def allSteady : List Expression → Bool
  | [] => true
  | e :: rest => e.isSteady && allSteady rest

end

end Expression

namespace Row

/-- Two rows have the same terms under the names of some variables. -/
def AgreeNamed (vars : List Variable) (r r' : Row) : Prop :=
  ∀ v ∈ vars, r.getNamed? v = r'.getNamed? v

variable {vars vars' : List Variable} {r r' : Row}

/-- A row agrees with itself. -/
theorem AgreeNamed.refl (vars : List Variable) (r : Row) : AgreeNamed vars r r := fun _ _ => rfl

/-- Rows that agree on two lists. -/
theorem agreeNamed_append :
    AgreeNamed (vars ++ vars') r r' ↔ AgreeNamed vars r r' ∧ AgreeNamed vars' r r' :=
  List.forall_mem_append

end Row

namespace Eval

open Expression

variable {R : EvalState → EvalState → Prop} {now : DateTime} {r r' : Row} {e : Expression}
  {es : List Expression}

/-- All values. -/
theorem alike_evaluateAll (h : ∀ e ∈ es, Alike R (evaluate now r e) (evaluate now r' e)) :
    Alike R (evaluateAll now r es) (evaluateAll now r' es) := by
  induction es with
  | nil => exact alike_pure _
  | cons e rest ih =>
    obtain ⟨he, hrest⟩ := List.forall_mem_cons.1 h
    rw [evaluateAll, evaluateAll]
    exact he.bind fun _ => (ih hrest).bind fun _ => alike_pure _

/-- The deciding truth value. -/
theorem alike_evaluateUntil (h : ∀ e ∈ es, Alike R (evaluate now r e) (evaluate now r' e))
    (deciding : Bool) (error? : Option EvalError) :
    Alike R (evaluateUntil now r deciding error? es) (evaluateUntil now r' deciding error? es) := by
  induction es generalizing error? with
  | nil => exact alike_undecided _ _
  | cons e rest ih =>
    obtain ⟨he, hrest⟩ := List.forall_mem_cons.1 h
    rw [evaluateUntil, evaluateUntil]
    refine he.truth.attempt.bind fun result => ?_
    rcases result with error | b
    · exact ih hrest _
    · show Alike R (if b = deciding then _ else _) (if b = deciding then _ else _)
      split
      · exact alike_pure _
      · exact ih hrest _

/-- The first value. -/
theorem alike_evaluateFirst (h : ∀ e ∈ es, Alike R (evaluate now r e) (evaluate now r' e)) :
    Alike R (evaluateFirst now r es) (evaluateFirst now r' es) := by
  induction es with
  | nil => exact alike_throw _
  | cons e rest ih =>
    obtain ⟨he, hrest⟩ := List.forall_mem_cons.1 h
    rw [evaluateFirst, evaluateFirst]
    refine he.attempt.bind fun result => ?_
    rcases result with error | value
    · exact ih hrest
    · exact alike_pure _

/-- One value among others. -/
theorem alike_evaluateMember (h : ∀ e ∈ es, Alike R (evaluate now r e) (evaluate now r' e))
    (needle : Term) :
    Alike R (evaluateMember now r needle es) (evaluateMember now r' needle es) := by
  induction es with
  | nil => exact alike_pure _
  | cons e rest ih =>
    obtain ⟨he, hrest⟩ := List.forall_mem_cons.1 h
    rw [evaluateMember, evaluateMember]
    refine he.attempt.bind fun result => ?_
    rcases result with error | value
    · exact ih hrest
    · show Alike R (if value = needle then _ else _) (if value = needle then _ else _)
      split
      · exact alike_pure _
      · exact ih hrest

/-- The first value among the others. -/
theorem alike_evaluateIn (h : ∀ e ∈ es, Alike R (evaluate now r e) (evaluate now r' e))
    (name : String) (negated : Bool) :
    Alike R (evaluateIn now r name negated es) (evaluateIn now r' name negated es) := by
  cases es with
  | nil => exact alike_throw _
  | cons e rest =>
    obtain ⟨he, hrest⟩ := List.forall_mem_cons.1 h
    rw [evaluateIn, evaluateIn]
    exact he.bind fun needle => (alike_evaluateMember hrest needle).bind fun _ => alike_pure _

/-- The second or third value. -/
theorem alike_evaluateIf (h : ∀ e ∈ es, Alike R (evaluate now r e) (evaluate now r' e))
    (name : String) : Alike R (evaluateIf now r name es) (evaluateIf now r' name es) := by
  unfold evaluateIf
  split
  · next condition yes no =>
    obtain ⟨hcondition, hyes, hno⟩ :
        Alike R (evaluate now r condition) (evaluate now r' condition) ∧
        Alike R (evaluate now r yes) (evaluate now r' yes) ∧
        Alike R (evaluate now r no) (evaluate now r' no) := by simpa using h
    refine hcondition.truth.bind fun b => ?_
    cases b with
    | true => exact hyes
    | false => exact hno
  · exact alike_throw _

/-- A call of a function or an operator. -/
theorem alike_call (hR : Blind R)
    (hes : ∀ e ∈ es, Alike R (evaluate now r e) (evaluate now r' e)) {operator : String}
    (hoperator : operator.toLower ∉ makers ∨ Supplied R)
    (hr : Row.AgreeNamed (allOccurrences es) r r') :
    Alike R (evaluate now r (.call operator es)) (evaluate now r' (.call operator es)) := by
  rw [evaluate, evaluate]
  split
  · exact (alike_evaluateAll hes).bind fun _ => alike_ofExcept _
  · dsimp only
    generalize operator.toLower = name at hoperator ⊢
    split
    · exact alike_evaluateUntil hes _ _
    · exact alike_evaluateUntil hes _ _
    · exact alike_evaluateIf hes _
    · exact alike_evaluateFirst hes
    · split
      · next v =>
        rw [hr v (List.mem_singleton.2 rfl)]
        exact alike_pure _
      · exact alike_throw _
    · exact alike_evaluateIn hes _ _
    · exact alike_evaluateIn hes _ _
    · exact alike_evaluateIn hes _ _
    · exact (alike_evaluateAll hes).bind fun _ => alike_apply hR now hoperator _

mutual

/-- An expression reads its variables and, unless it is steady, the supply of blank nodes and
UUIDs: its evaluations for rows that agree on the variables are alike for any relation of states
that looks at nothing else. -/
theorem alike_evaluate (hR : Blind R) (now : DateTime) {r r' : Row} (e : Expression)
    (he : e.isSteady = true ∨ Supplied R) (hr : Row.AgreeNamed e.occurrences r r') :
    Alike R (evaluate now r e) (evaluate now r' e) := by
  match e with
  | .leaf (.variable v) =>
    have hv : r.getNamed? v = r'.getNamed? v := hr v (List.mem_singleton.2 rfl)
    rw [evaluate, evaluate, hv]
    cases r'.getNamed? v with
    | none => exact alike_throw _
    | some t => exact alike_pure _
  | .leaf (.term t) =>
    rw [evaluate, evaluate]
    exact alike_pure t
  | .aggregate function distinct argument separator =>
    rw [evaluate, evaluate]
    exact alike_throw _
  | .call operator args =>
    rw [isSteady, Bool.and_eq_true] at he
    have hoperator : operator.toLower ∉ makers ∨ Supplied R :=
      he.imp_left fun h => by simpa using h.1
    have hargs : allSteady args = true ∨ Supplied R := he.imp_left fun h => h.2
    exact alike_call hR (alike_evaluateEach hR now args hargs hr) hoperator hr

/-- Expressions read their variables and, unless they are steady, the supply. -/
theorem alike_evaluateEach (hR : Blind R) (now : DateTime) {r r' : Row} (es : List Expression)
    (hes : allSteady es = true ∨ Supplied R) (hr : Row.AgreeNamed (allOccurrences es) r r') :
    ∀ e ∈ es, Alike R (evaluate now r e) (evaluate now r' e) := by
  match es with
  | [] => exact fun e he => absurd he List.not_mem_nil
  | e :: rest =>
    rw [allSteady, Bool.and_eq_true] at hes
    obtain ⟨he, hrest⟩ := Row.agreeNamed_append.1 hr
    exact List.forall_mem_cons.2 ⟨alike_evaluate hR now e (hes.imp_left And.left) he,
      alike_evaluateEach hR now rest (hes.imp_left And.right) hrest⟩

end

/-- **A steady expression reads its variables only**: it has the same value for rows that agree on
them, whatever was evaluated before. -/
theorem same_evaluate (now : DateTime) (he : e.isSteady = true)
    (hr : Row.AgreeNamed e.occurrences r r') : Same (evaluate now r e) (evaluate now r' e) :=
  (alike_evaluate (fun _ _ _ _ => id) now e (.inl he) hr).same

/-- A steady condition reads its variables only. -/
theorem same_evaluateBool (now : DateTime) (he : e.isSteady = true)
    (hr : Row.AgreeNamed e.occurrences r r') :
    Same (evaluateBool now e r) (evaluateBool now e r') :=
  (alike_evaluate (fun _ _ _ _ => id) now e (.inl he) hr).truth.same

end Eval

/-! ## Values of steady expressions -/

/-- Nothing has been evaluated yet. -/
def EvalState.start : EvalState := { labels := { stem := "" } }

namespace Expression

/-- The value of an expression for a row, if it has one. -/
def value? (now : DateTime) (e : Expression) (r : Row) : Option Term :=
  ((Eval.evaluate now r e).run.run .start).1.toOption

/-- A condition is true for a row. -/
def isTrue (now : DateTime) (e : Expression) (r : Row) : Bool :=
  ((Eval.evaluateBool now e r).run.run .start).1.toOption == some true

variable {now : DateTime} {e : Expression} {r r' : Row}

/-- A steady expression has its value in any state. -/
theorem value?_eq (he : e.isSteady = true) (s : EvalState) :
    ((Eval.evaluate now r e).run.run s).1.toOption = e.value? now r := by
  rw [value?, Eval.same_evaluate now he (.refl _ r) s .start]

/-- A steady condition is true in any state or in none. -/
theorem run_eq_ok_true_iff (he : e.isSteady = true) (s : EvalState) :
    ((Eval.evaluateBool now e r).run.run s).1 = .ok true ↔ e.isTrue now r = true := by
  rw [isTrue, Eval.same_evaluateBool now he (.refl _ r) s .start, beq_iff_eq]
  cases ((Eval.evaluateBool now e r).run.run EvalState.start).1 <;> simp [Except.toOption]

/-- The value of a steady expression depends on its variables only. -/
theorem value?_congr (he : e.isSteady = true) (hr : Row.AgreeNamed e.occurrences r r') :
    e.value? now r = e.value? now r' := by
  rw [value?, value?, Eval.same_evaluate now he hr .start .start]

/-- Whether a steady condition is true depends on its variables only. -/
theorem isTrue_congr (he : e.isSteady = true) (hr : Row.AgreeNamed e.occurrences r r') :
    e.isTrue now r = e.isTrue now r' := by
  rw [isTrue, isTrue, Eval.same_evaluateBool now he hr .start .start]

end Expression

end PagedSparql
