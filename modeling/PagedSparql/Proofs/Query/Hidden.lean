import PagedSparql.Proofs.Algebra.Variables
import PagedSparql.Proofs.Plan.Drawing
import PagedSparql.Query.Stream

/-!
# What a query hides

The plan of a query has variables that the query does not have. They are just the variables that the
source of fresh ones has given out while the query was planned (`Engine.later_plan`), and the source
avoids the variables of the query. They are hidden as long as the query lives
(`QueryStream.hidden_of_run`), so no row that is delivered binds one of them, and each has all the
bindings of the query's own variables (`Engine.executeAlgebra_hides`).
-/

namespace PagedSparql

variable {σ : Type}

namespace QueryStream

/-- A query after any number of pulls, whether or not it was closed or cancelled meanwhile, and
whatever happened to what it shares with the world. -/
inductive Run (net : Network σ) (now : DateTime) (q : QueryStream σ) : QueryStream σ → Prop
  /-- Nothing has been done. -/
  | start : Run net now q q
  /-- It was pulled. -/
  | next {q' : QueryStream σ} (h : Run net now q q') (steps : Nat) :
    Run net now q (q'.next net now steps).2
  /-- It was closed. -/
  | close {q' : QueryStream σ} (h : Run net now q q') : Run net now q q'.close
  /-- Its clients were closed. -/
  | cancel {q' : QueryStream σ} (h : Run net now q q') : Run net now q q'.cancel.2
  /-- The world has moved. -/
  | move {q' : QueryStream σ} (h : Run net now q q') (session : Session σ) :
    Run net now q { q' with session }

variable {net : Network σ} {now : DateTime} {q q' : QueryStream σ}

/-- A pull does not change what is hidden. -/
theorem hidden_next (q : QueryStream σ) (net : Network σ) (now : DateTime) (steps : Nat) :
    (q.next net now steps).2.hidden = q.hidden := by
  unfold next
  split
  · rfl
  · split
    · rfl
    · next x _ _ _ => cases x <;> rfl

/-- What is hidden stays so. -/
theorem hidden_of_run (h : Run net now q q') : q'.hidden = q.hidden := by
  induction h with
  | start => rfl
  | next _ steps ih => exact (hidden_next _ net now steps).trans ih
  | @close q' _ ih =>
    have hclose : q'.close.hidden = q'.hidden := by
      unfold close
      split <;> rfl
    exact hclose.trans ih
  | cancel _ ih => exact ih
  | move _ _ ih => exact ih

/-- A row that is delivered is a row of the plan without what is hidden. -/
theorem exists_of_next {steps : Nat} {row : Row}
    (h : (q.next net now steps).1 = some (.item (.solution row))) :
    ∃ stage r, q.plan = .solutions stage ∧
      (stage.pull net now steps q.session).1 = some (.row r) ∧ row = r.without q.hidden := by
  have hpull : (pullPlan net now steps q.hidden q.plan q.session).1 =
      some (.item (.solution row)) := by
    unfold next at h
    split at h
    · exact absurd h (by simp)
    · split at h
      · exact absurd h (by simp)
      · next heq => rwa [heq]
  cases hplan : q.plan with
  | solutions stage =>
    rw [hplan] at hpull
    obtain ⟨signal, hsignal, hitem⟩ := Option.map_eq_some_iff.1 hpull
    cases signal with
    | row r =>
      obtain rfl : r.without q.hidden = row := by simpa using hitem
      exact ⟨stage, r, rfl, hsignal, rfl⟩
    | done => exact absurd hitem (by simp)
    | fail e => exact absurd hitem (by simp)
  | triples construction =>
    rw [hplan] at hpull
    obtain ⟨signal, -, hitem⟩ := Option.map_eq_some_iff.1 hpull
    cases signal <;> exact absurd hitem (by simp)
  | truth stage =>
    rw [hplan] at hpull
    obtain ⟨signal, -, hitem⟩ := Option.map_eq_some_iff.1 hpull
    cases signal <;> exact absurd hitem (by simp)

end QueryStream

namespace Engine

variable {engine : Engine} {connect : String → Except TransportError Unit} {a : Algebra}

/-- Planning a query takes down just what its source has given out. -/
theorem later_plan {names : Names} {plan : QueryPlan} {state : PlanState}
    (h : engine.plan connect a names = .ok (plan, state)) :
    (⟨names, []⟩ : Naming).Later state.naming :=
  ((Planner.draws_openClient _).bind fun _ => Plan.draws_query a) _ _ _ _ h

/-- A query hides what was drawn for its plan. -/
theorem compile_inv {net : Network σ} {world : σ} {meter? : Option Meter} {names : Names}
    {q : QueryStream σ} (h : engine.compile net world meter? a names = .ok q) :
    ∃ plan state, engine.plan net.connect a names = .ok (plan, state) ∧ q.plan = plan ∧
      q.hidden = state.naming.drawn := by
  obtain ⟨⟨plan, state⟩, hplan, h⟩ := Paths.bind_inv h
  obtain rfl := Except.ok.inj h
  exact ⟨plan, state, hplan, rfl, rfl⟩

/-- **What planning adds to a query stays hidden.** The source of fresh variables is called some
number of times while a query is planned. The variables that these calls give out are different, none
of them is a variable of the query, and they are what the query hides. Whatever is done to the query
then, no row that it delivers binds one of them, and each is a row of its plan with the bindings of
all other variables, those of the query among them. -/
theorem executeAlgebra_hides (engine : Engine) (net : Network σ) (world : σ)
    (meter? : Option Meter) (a : Algebra) (q : QueryStream σ)
    (h : engine.executeAlgebra net world meter? a = .ok q) :
    ∃ calls plan state,
      engine.plan net.connect a (.avoiding a.toJson) = .ok (plan, state) ∧ q.plan = plan ∧
      state.naming.names = Names.after calls (.avoiding a.toJson) ∧
      q.hidden = Names.givenOut calls (.avoiding a.toJson) ∧
      q.hidden.Nodup ∧ (∀ v ∈ q.hidden, v ∉ a.allVars) ∧
      ∀ now q', QueryStream.Run net now q q' → ∀ steps (row : Row),
        (q'.next net now steps).1 = some (.item (.solution row)) →
          (∀ v ∈ q.hidden, row.get? v = none) ∧
          ∃ stage, ∃ r : Row, q'.plan = .solutions stage ∧
            (stage.pull net now steps q'.session).1 = some (.row r) ∧
            (∀ v ∉ q.hidden, row.get? v = r.get? v) ∧ ∀ v ∈ a.allVars, row.get? v = r.get? v := by
  obtain ⟨plan, state, hplan, hq, hhidden⟩ := compile_inv h
  obtain ⟨calls, hstate⟩ := later_plan hplan
  have hgiven : q.hidden = Names.givenOut calls (.avoiding a.toJson) := by
    rw [hhidden, hstate]
    rfl
  obtain ⟨hnodup, hfresh⟩ := a.avoids_avoiding.givenOut calls
  rw [← hgiven] at hnodup hfresh
  refine ⟨calls, plan, state, hplan, hq, by rw [hstate], hgiven, hnodup, hfresh, ?_⟩
  intro now q' hrun steps row hrow
  obtain ⟨stage, r, hstage, hpull, rfl⟩ := QueryStream.exists_of_next hrow
  rw [QueryStream.hidden_of_run hrun]
  have hkept : ∀ v ∉ q.hidden, (r.without q.hidden).get? v = r.get? v := fun v hv => by
    rw [Row.get?_without, if_neg hv]
  refine ⟨fun v hv => by rw [Row.get?_without, if_pos hv], stage, r, hstage, hpull, hkept, ?_⟩
  exact fun v hv => hkept v fun hidden => hfresh v hidden hv

end Engine

namespace Sample

/-- One inline row. -/
def inlineRow : Algebra := .values [.ofList [(⟨"x"⟩, some (.iri "http://example.org/a"))]]

/-- A query with a service that groups by two values without names, and with a variable that is
named like a fresh one. -/
def grouping : Algebra :=
  let text : GroupKey := ⟨.call "STR" [.leaf (.variable ⟨"x"⟩)], none⟩
  let value : GroupKey := ⟨.leaf (.variable ⟨"x"⟩), none⟩
  .join [inlineRow,
    .service (.iri "http://example.org/b") false [.groupBy inlineRow [text, text, value] []],
    .bind ⟨"__v1"⟩ (.leaf (.variable ⟨"x"⟩))]

/-- An engine without settings of its own. -/
def engine : Engine := { address := "http://example.org/", graph := "http://example.org/g", now }

/-- Endpoints without solutions. -/
def silent : Network Unit := .ofReplies fun _ _ => ⟨[], none, false, none⟩

/-- The first row of a query. -/
def firstRow? (q : QueryStream Unit) : Option Row :=
  match (q.next silent now 50).1 with
  | some (.item (.solution row)) => some row
  | _ => none

/-- The row of the grouping. -/
def groupedRow : Row :=
  .ofList [(⟨"x"⟩, .iri "http://example.org/a"), (⟨"__v1"⟩, .iri "http://example.org/a")]

end Sample

namespace Engine

/-- Two variables are drawn and hidden, and the row that is delivered binds the two variables of the
query. -/
theorem executeAlgebra_hides_sample :
    ∃ q, Sample.engine.executeAlgebra Sample.silent () none Sample.grouping = .ok q ∧
      q.hidden = [⟨"__v0"⟩, ⟨"__v2"⟩] ∧ (∀ v ∈ q.hidden, v ∉ Sample.grouping.allVars) ∧
      (q.next Sample.silent Sample.now 50).1 = some (.item (.solution Sample.groupedRow)) ∧
      ∀ v ∈ q.hidden, Sample.groupedRow.get? v = none := by
  have hfacts : (Sample.engine.executeAlgebra Sample.silent () none Sample.grouping).toOption.map
      (fun q => (q.hidden, Sample.firstRow? q)) =
        some ([⟨"__v0"⟩, ⟨"__v2"⟩], some Sample.groupedRow) := by decide +kernel
  cases hq : Sample.engine.executeAlgebra Sample.silent () none Sample.grouping with
  | error e => simp [hq, Except.toOption] at hfacts
  | ok q =>
    rw [hq] at hfacts
    obtain ⟨hhidden, hfirst⟩ := Prod.mk.inj (Option.some.inj hfacts)
    have hrow : (q.next Sample.silent Sample.now 50).1 =
        some (.item (.solution Sample.groupedRow)) := by
      unfold Sample.firstRow? at hfirst
      split at hfirst
      · next heq => rw [heq, Option.some.inj hfirst]
      · exact absurd hfirst (by simp)
    obtain ⟨-, -, -, -, -, -, -, -, hfresh, hdelivered⟩ :=
      executeAlgebra_hides Sample.engine Sample.silent () none Sample.grouping q hq
    exact ⟨q, rfl, hhidden, hfresh, hrow, (hdelivered Sample.now q .start 50 _ hrow).1⟩

end Engine

end PagedSparql
