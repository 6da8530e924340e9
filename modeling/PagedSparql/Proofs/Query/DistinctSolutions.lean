import PagedSparql.Proofs.Algebra.NestedSelections
import PagedSparql.Proofs.Pipeline.DistinctRows
import PagedSparql.Proofs.Query.Destinations

/-!
# Distinct solutions

A query with a distinct node at its root, or below sections only, has a plan that hands on no row
twice. What is delivered are these rows without the variables that only the plan needs, and those
are taken away after the rows were compared. So two solutions are equal if their rows differ in such
a variable alone, in that of a blank node for example (`Engine.compile_distinct_sample`).

This cannot be if there are no such variables, nor if there is a projection between the distinct
node and what needs them: the rows of a projection bind none of them, whether it names its columns
or has a wildcard. Then all solutions that are delivered are different (`Engine.compile_distinct`).
-/

namespace PagedSparql

variable {σ : Type}

namespace Algebra

/-- A distinct node is the root of the query, or stands right below sections. -/
inductive Dedups : Algebra → Prop
  /-- It is the root. -/
  | distinct (input : Algebra) : Dedups (.distinct input)
  /-- It stands below a section. -/
  | slice {input : Algebra} (h : Dedups input) (offset : UInt64) (limit : Option UInt64) :
    Dedups (.slice input offset limit)

/-- The names of the columns of the last projection, if no other node makes other rows of its
rows. -/
def selected? : Algebra → Option (List Variable)
  | .project _ columns => some (columns.map Column.name)
  | .distinct input => input.selected?
  | .slice input _ _ => input.selected?
  | .orderBy input _ => input.selected?
  | .having input _ => input.selected?
  | _ => none

variable {a : Algebra} {names : List Variable}

/-- The names of columns are variables of the query. -/
theorem mem_allVars_of_selected? (h : a.selected? = some names) : ∀ v ∈ names, v ∈ a.allVars := by
  fun_induction selected? a with
  | case1 input columns =>
    obtain rfl := Option.some.inj h
    intro v hv
    obtain ⟨c, hc, rfl⟩ := List.mem_map.1 hv
    refine List.mem_append_right _ (List.mem_flatMap.2 ⟨c, hc, ?_⟩)
    cases c <;> simp [Column.allVars, Column.name]
  | case2 input ih => exact ih h
  | case3 input offset limit ih => exact ih h
  | case4 input conditions ih => exact fun v hv => List.mem_append_left _ (ih h v hv)
  | case5 input condition ih => exact fun v hv => List.mem_append_left _ (ih h v hv)
  | case6 => exact absurd h (by simp)

end Algebra

/-! ## Lifting -/

namespace Lifting

open PagedSparql.Algebra (selected?)

/-- Columns keep their names when their aggregates are replaced. -/
theorem map_name_liftColumns (columns : List Column) (l : Lifter) :
    (liftColumns columns l).1.map Column.name = columns.map Column.name := by
  have hname : ∀ (c : Column) (l : Lifter), (liftColumn c l).1.name = c.name := by
    intro c l
    unfold liftColumn
    split
    · rfl
    · split
      · dsimp only
        split <;> rfl
      · rfl
  induction columns generalizing l with
  | nil => rfl
  | cons c rest ih => exact congrArg₂ List.cons (hname c l) (ih _)

/-- A distinct node stays where it is. -/
theorem dedups_lift {a : Algebra} (h : a.Dedups) (l : Lifter) : (lift a l).1.Dedups := by
  induction h with
  | distinct input => exact .distinct _
  | slice _ offset limit ih => exact .slice ih offset limit

/-- What stands below a group of all rows is no projection. -/
theorem selected?_close {a : Algebra} (h : a.selected? = none) (waiting : List AggregateBinding) :
    (close a waiting).selected? = none := by
  unfold close
  split
  · exact h
  · rfl

/-- The last projection stays where it is. -/
theorem selected?_lift (a : Algebra) (l : Lifter) : (lift a l).1.selected? = a.selected? := by
  fun_induction selected? a generalizing l with
  | case1 input columns => exact congrArg some (map_name_liftColumns columns l)
  | case2 input ih => exact ih l
  | case3 input offset limit ih => exact ih l
  | case4 input conditions ih => exact ih _
  | case5 input condition ih => exact ih _
  | case6 a hproject hdistinct hslice horderBy hhaving =>
    -- A grouping stays one, and a pattern stays as it is or comes below one.
    cases a with
    | project input columns => exact (hproject input columns rfl).elim
    | distinct input => exact (hdistinct input rfl).elim
    | slice input offset limit => exact (hslice input offset limit rfl).elim
    | orderBy input conditions => exact (horderBy input conditions rfl).elim
    | having input condition => exact (hhaving input condition rfl).elim
    | groupBy _ _ _ => rfl
    | _ => exact selected?_close rfl _

end Lifting

/-! ## Planning -/

/-- The row binds none of some variables, unless there is a column with its name. -/
def Row.Spares (hidden names : List Variable) (r : Row) : Prop :=
  ∀ v ∈ hidden, v ∉ names → r.get? v = none

namespace Stage

variable {upper lower : Stage} {seen : List Row}

/-- A projection binds hidden variables only if it has columns with their names. -/
theorem spares_projectRow (now : DateTime) (columns : List Column) (hidden : List Variable)
    (r : Row) (s : Session σ) :
    (projectRow now columns hidden r s).1.Spares hidden (columns.map Column.name) := by
  intro v hv hname
  cases hwildcard : columns.any Column.isWildcard with
  | false => exact get?_projectRow hwildcard hname now hidden r s
  | true =>
    simp only [projectRow, hwildcard, if_true]
    rw [Row.get?_without, if_pos hv]

/-- A stage that drops seen rows does so below another one. -/
theorem Dedups.andThen (h : lower.Dedups seen) (upper : Stage) :
    (upper.andThen lower).Dedups seen := by
  rcases andThen_cases upper lower with ⟨rfl, -⟩ | ⟨-, heq⟩ | heq
  · exact nomatch h
  · rwa [heq]
  · rw [heq]
    exact .chain h

/-- A stage that drops seen rows does so above a section. -/
theorem Dedups.andThen_slice (h : upper.Dedups seen) (skip : Nat) (take : Option Nat) :
    (upper.andThen (.slice skip take)).Dedups seen := by
  have hne : upper ≠ .input := by
    rintro rfl
    exact nomatch h
  rw [andThen_of_ne hne (by simp)]
  exact .slice h

end Stage

namespace Plan

open Planner

variable {a : Algebra} {names : List Variable} {scope : Scope} {n n' : PlanState}

/-- A distinct node becomes a stage that drops seen rows, with sections below it. -/
theorem gives_dedups (h : a.Dedups) : (stage a).Gives (Stage.Dedups []) := by
  induction h with
  | distinct input =>
    exact gives_bind fun source => gives_pure (Stage.Dedups.distinct.andThen source)
  | slice _ offset limit ih =>
    exact ih.bind fun source hsource => gives_pure (hsource.andThen_slice _ _)

/-- The last projection takes away what was drawn before it. What stands above it draws nothing and
hands on rows of the projection. -/
theorem turns_selected (h : a.selected? = some names) {st : Stage}
    (hplan : stage a scope n = .ok (st, n')) :
    st ≠ .input ∧ st.Turns (fun _ => True) (Row.Spares n'.naming.drawn names) := by
  have hmodified : ∀ {source lower : Stage} {Q : Row → Prop}, lower ≠ .input → lower.Turns Q Q →
      source ≠ .input ∧ source.Turns (fun _ => True) Q →
        source.andThen lower ≠ .input ∧ (source.andThen lower).Turns (fun _ => True) Q := by
    rintro source lower Q hlower hkept ⟨hsource, hturns⟩
    rw [Stage.andThen_of_ne hsource hlower]
    exact ⟨by simp, hturns.chain hkept⟩
  fun_induction Algebra.selected? a generalizing st n n' with
  | case1 input columns =>
    obtain rfl := Option.some.inj h
    obtain ⟨source, n₁, -, hplan⟩ := bind_inv hplan
    obtain ⟨hidden, n₂, hdrawn, hplan⟩ := bind_inv hplan
    obtain ⟨rfl, rfl⟩ := pure_inv hplan
    obtain ⟨state, n₃, hget, hdrawn⟩ := bind_inv hdrawn
    obtain ⟨rfl, rfl⟩ := pure_inv hdrawn
    obtain ⟨rfl, rfl⟩ := get_inv hget
    -- What has been drawn when the input is planned is all that is ever drawn.
    have hproject : (Stage.project columns n₁.naming.drawn).Turns (fun _ => True)
        (Row.Spares n₁.naming.drawn (columns.map Column.name)) :=
      Stage.turns_project fun now r s => Stage.spares_projectRow now columns _ r s
    rcases Stage.andThen_cases source (.project columns n₁.naming.drawn) with
      ⟨hnone, -⟩ | ⟨-, heq⟩ | heq
    · exact nomatch hnone
    · rw [heq]
      exact ⟨by simp, hproject⟩
    · rw [heq]
      exact ⟨by simp, source.turns_any.chain hproject⟩
  | case2 input ih =>
    obtain ⟨source, n₁, hsource, hplan⟩ := bind_inv hplan
    obtain ⟨rfl, rfl⟩ := pure_inv hplan
    exact hmodified (by simp) (Stage.turns_distinct []) (ih h hsource)
  | case3 input offset limit ih =>
    obtain ⟨source, n₁, hsource, hplan⟩ := bind_inv hplan
    obtain ⟨rfl, rfl⟩ := pure_inv hplan
    exact hmodified (by simp [Stage.sliceOf]) (Stage.turns_slice _ _) (ih h hsource)
  | case4 input conditions ih =>
    obtain ⟨source, n₁, hsource, hplan⟩ := bind_inv hplan
    obtain ⟨rfl, rfl⟩ := pure_inv hplan
    exact hmodified (by simp [Stage.sortBy]) (Stage.turns_sortBy conditions) (ih h hsource)
  | case5 input condition ih =>
    obtain ⟨source, n₁, hsource, hplan⟩ := bind_inv hplan
    obtain ⟨rfl, rfl⟩ := pure_inv hplan
    exact hmodified (by simp) (Stage.turns_filter condition) (ih h hsource)
  | case6 => exact nomatch h

/-- The plan of a query with a distinct node at the root hands on different rows, and these are rows
of the last projection if there is one. -/
theorem query_dedups (h : a.Dedups) {plan : QueryPlan}
    (hplan : query a scope n = .ok (plan, n')) :
    ∃ st, plan = .solutions st ∧ st.Dedups [] ∧ ∀ names, a.selected? = some names →
      st.Turns (fun _ => True) (Row.Spares n'.naming.drawn names) := by
  -- A query with such a root is none of the other forms.
  have hquery : query a = (do return .solutions (← stage (← lifted a)).fromEmptyRow) := by
    cases h <;> rfl
  rw [hquery] at hplan
  obtain ⟨b, n₁, hlifted, hplan⟩ := bind_inv hplan
  obtain ⟨source, n₂, hsource, hplan⟩ := bind_inv hplan
  obtain ⟨rfl, rfl⟩ := pure_inv hplan
  obtain ⟨l, rfl⟩ := gives_lifted a _ _ _ _ hlifted
  refine ⟨_, rfl, ?_, fun names hnames => ?_⟩
  · exact (gives_dedups (Lifting.dedups_lift h l) _ _ _ _ hsource).andThen _
  · obtain ⟨hne, hturns⟩ := turns_selected ((Lifting.selected?_lift a l).trans hnames) hsource
    rw [Stage.fromEmptyRow, Stage.andThen_of_ne (by simp) hne]
    exact (Stage.turns_any _).chain hturns

end Plan

/-! ## What is delivered -/

namespace QueryStream

/-- The solution that a pull brings, if it does. -/
def Pulled.solutions : Option Pulled → List Row
  | some (.item (.solution row)) => [row]
  | _ => []

/-- The solutions that a query delivers in any number of pulls, and the query after them. It may be
closed or cancelled between the pulls, and anything may happen to what it shares with the world. -/
inductive Delivers (net : Network σ) (now : DateTime) (q : QueryStream σ) :
    List Row → QueryStream σ → Prop
  /-- Nothing has been done. -/
  | start : Delivers net now q [] q
  /-- It was pulled. -/
  | next {W : List Row} {q' : QueryStream σ} (h : Delivers net now q W q') (steps : Nat) :
    Delivers net now q (W ++ Pulled.solutions (q'.next net now steps).1)
      (q'.next net now steps).2
  /-- It was closed. -/
  | close {W : List Row} {q' : QueryStream σ} (h : Delivers net now q W q') :
    Delivers net now q W q'.close
  /-- Its clients were closed. -/
  | cancel {W : List Row} {q' : QueryStream σ} (h : Delivers net now q W q') :
    Delivers net now q W q'.cancel.2
  /-- The world has moved. -/
  | move {W : List Row} {q' : QueryStream σ} (h : Delivers net now q W q')
    (session : Session σ) : Delivers net now q W { q' with session }

variable {net : Network σ} {now : DateTime} {q q' : QueryStream σ} {W : List Row} {st : Stage}

/-- What is done to a query while it delivers solutions. -/
theorem Delivers.run (h : Delivers net now q W q') : Run net now q q' := by
  induction h with
  | start => exact .start
  | next _ steps ih => exact ih.next steps
  | close _ ih => exact ih.close
  | cancel _ ih => exact ih.cancel
  | move _ session ih => exact ih.move session

/-- A pull of a query delivers what it makes its plan hand on, without what is hidden. -/
theorem next_solutions (hplan : q.plan = .solutions st) (net : Network σ) (now : DateTime)
    (steps : Nat) :
    ∃ y? st', (q.next net now steps).2.plan = .solutions st' ∧
      Pulled.solutions (q.next net now steps).1 =
        (Stage.handedOn y?).map (Row.without · q.hidden) ∧
      ∀ {st₀ : Stage} {R : List Row}, Stage.Emits net now st₀ R st →
        Stage.Emits net now st₀ (R ++ Stage.handedOn y?) st' := by
  unfold next
  split
  · exact ⟨none, st, hplan, rfl, fun h => by simpa [Stage.handedOn] using h⟩
  · rcases hpull : st.pull net now steps q.session with ⟨y?, st', s'⟩
    refine ⟨y?, st', ?_⟩
    have hemits : ∀ {st₀ : Stage} {R : List Row}, Stage.Emits net now st₀ R st →
        Stage.Emits net now st₀ (R ++ Stage.handedOn y?) st' := fun h => h.pull hpull
    simp only [hplan, pullPlan, hpull]
    rcases y? with _ | r | _ | e <;> exact ⟨rfl, rfl, hemits⟩

/-- What is delivered are rows of the plan without what is hidden. -/
theorem Delivers.emits (h : Delivers net now q W q') (hplan : q.plan = .solutions st) :
    ∃ R st', q'.plan = .solutions st' ∧ Stage.Emits net now st R st' ∧
      W = R.map (Row.without · q.hidden) := by
  induction h with
  | start => exact ⟨[], st, hplan, .start, rfl⟩
  | @next W q' h steps ih =>
    obtain ⟨R, st₁, hplan₁, hemits, rfl⟩ := ih
    obtain ⟨y?, st₂, hplan₂, hsolutions, hstep⟩ := next_solutions hplan₁ net now steps
    refine ⟨_, st₂, hplan₂, hstep hemits, ?_⟩
    rw [hsolutions, hidden_of_run h.run, List.map_append]
  | @close W q' h ih =>
    unfold QueryStream.close
    split
    · exact ih
    · exact ih
  | cancel _ ih => exact ih
  | move _ _ ih => exact ih

end QueryStream

namespace Row

variable {hidden : List Variable} {r u : Row}

/-- Rows are equal without some variables if they agree on all others. -/
theorem without_eq_iff : r.without hidden = u.without hidden ↔
    ∀ v ∉ hidden, r.get? v = u.get? v := by
  constructor
  · intro h v hv
    have hget := congrArg (VariableMap.get? · v) h
    simpa only [get?_without, if_neg hv] using hget
  · intro h
    refine VariableMap.ext_get? fun v => ?_
    rw [get?_without, get?_without]
    split
    · rfl
    · next hv => exact h v hv

/-- A row that binds none of some variables is not changed when they are taken away. -/
theorem without_of_spares {names : List Variable} (h : r.Spares hidden names)
    (hnames : ∀ v ∈ hidden, v ∉ names) : r.without hidden = r := by
  refine VariableMap.ext_get? fun v => ?_
  rw [get?_without]
  split
  · next hv => exact (h v hv (hnames v hv)).symm
  · rfl

end Row

namespace Engine

/-- **Rows are distinct before variables are hidden.** A query with a distinct node at its root, or
below sections only, delivers rows that its plan hands on, without the variables that are hidden.
Whatever the endpoints answer and whatever is done to the query, no row is handed on twice; so two
solutions are equal if and only if there are two rows which differ in hidden variables alone. If
none are hidden, all solutions are different. They also are if there is a projection below the
distinct node, unless a column has the name of a hidden variable, which none has if the source of
fresh variables avoids those of the query. -/
theorem compile_distinct (engine : Engine) (net : Network σ) (world : σ) (meter? : Option Meter)
    (a : Algebra) (names : Names) (q : QueryStream σ) (ha : a.Dedups)
    (h : engine.compile net world meter? a names = .ok q) (now : DateTime) (W : List Row)
    (q' : QueryStream σ) (hW : QueryStream.Delivers net now q W q') :
    ∃ st R st', q.plan = .solutions st ∧ Stage.Emits net now st R st' ∧ R.Nodup ∧
      W = R.map (Row.without · q.hidden) ∧
      (W.Nodup ↔ ∀ r ∈ R, ∀ u ∈ R, (∀ v ∉ q.hidden, r.get? v = u.get? v) → r = u) ∧
      (q.hidden = [] → W.Nodup) ∧
      ∀ columns, a.selected? = some columns →
        ((∀ v ∈ q.hidden, v ∉ columns) → W.Nodup) ∧
        (names.Avoids {v | v ∈ a.allVars} → W.Nodup) := by
  obtain ⟨plan, state, hplan, rfl, hhidden⟩ := compile_inv h
  obtain ⟨_, n₁, -, hquery⟩ := Planner.bind_inv hplan
  obtain ⟨st, hst, hdedups, hselected⟩ := Plan.query_dedups ha hquery
  obtain ⟨R, st', -, hemits, rfl⟩ := hW.emits hst
  obtain ⟨hnodup, -⟩ := hdedups.emits hemits
  have hiff : (R.map (Row.without · q.hidden)).Nodup ↔
      ∀ r ∈ R, ∀ u ∈ R, (∀ v ∉ q.hidden, r.get? v = u.get? v) → r = u := by
    rw [List.nodup_map_iff_inj_on hnodup]
    simp only [Row.without_eq_iff]
  have hcolumns : ∀ columns, a.selected? = some columns → (∀ v ∈ q.hidden, v ∉ columns) →
      (R.map (Row.without · q.hidden)).Nodup := by
    intro columns hsome hfree
    have hrows : ∀ r ∈ R, r.without q.hidden = r := fun r hr =>
      Row.without_of_spares (hhidden ▸ (hselected columns hsome).emits hemits r hr) hfree
    rwa [List.map_congr_left hrows, List.map_id']
  refine ⟨st, R, st', hst, hemits, hnodup, rfl, hiff, fun hnone => ?_, fun columns hsome =>
    ⟨hcolumns columns hsome, fun havoids => hcolumns columns hsome fun v hv hcolumn => ?_⟩⟩
  · exact hiff.2 fun r _ u _ hagree => VariableMap.ext_get? fun v => hagree v (by simp [hnone])
  · -- What is hidden was drawn, and nothing that is drawn is a variable of the query.
    obtain ⟨calls, hdrawn⟩ := later_plan hplan
    have hgiven : q.hidden = Names.givenOut calls names := by
      rw [hhidden, hdrawn]
      rfl
    obtain ⟨-, hfresh⟩ := havoids.givenOut calls
    exact hfresh v (hgiven ▸ hv) (Algebra.mem_allVars_of_selected? hsome v hcolumn)

end Engine

namespace Sample

/-- A pattern whose object is a blank node. -/
def blankObject : TriplePattern := ⟨.variable ⟨"s"⟩, .plain (.term resource), .term (.blank "b")⟩

/-- The subjects of the pattern, without duplicates. -/
def distinctSubjects : Algebra := .distinct (.bgp [blankObject])

/-- The pattern with a variable in the place of the blank node. -/
def someObject : TriplePattern :=
  ⟨.variable ⟨"s"⟩, .plain (.term resource), .variable ⟨"__v0"⟩⟩

/-- The bound join for the pattern. -/
def someObjects : Stage :=
  .remote (.ofPattern ⟨[someObject], "http://example.org/", "http://example.org/g", 15, false⟩)

/-- The query for the subjects. -/
def distinctQuery : QueryStream Unit where
  plan := .solutions (.chain (.source [.empty] .done) (.chain someObjects (.distinct [])))
  hidden := [⟨"__v0"⟩]
  session := { world := (), clients := ["http://example.org/"],
               evaluation := { labels := { stem := "b" } } }

/-- A row that is delivered for a subject. -/
def subjectRow : Row := .ofList [(⟨"s"⟩, .iri "http://example.org/a")]

/-- An endpoint that has two objects for the subject. -/
def twoObjects : Network Unit := .ofReplies fun _ _ =>
  let a : Json := .str "http://example.org/a"
  let b : Json := .str "http://example.org/b"
  let c : Json := .str "http://example.org/c"
  ⟨[.obj [("s", a), ("__v0", b)], .obj [("s", a), ("__v0", c)]], none, false, none⟩

/-- The query is planned. -/
theorem compile_distinctSubjects :
    engine.compile twoObjects () none distinctSubjects (.avoiding .null) = .ok distinctQuery := by
  let before : PlanState := ⟨⟨.avoiding .null, []⟩, ["http://example.org/"]⟩
  let after : PlanState := ⟨⟨⟨1, []⟩, [⟨"__v0"⟩]⟩, ["http://example.org/"]⟩
  let place : Scope := engine.scope twoObjects.connect
  have hobject : Variable.ofText (Names.numbered 0) = ⟨"__v0"⟩ := by decide +kernel
  have hblanks : Plan.blanksToVariables [] [blankObject] place before =
      .ok ([someObject], after) := by
    simp only [someObject, after]
    rw [← hobject]
    rfl
  have hplain : Bgp.Plain [blankObject] := List.forall_mem_singleton.2 rfl
  have hjoin : Plan.triplesStage [blankObject] place before = .ok (someObjects, after) := by
    rw [Plan.triplesStage_of_plain hplain]
    exact (Plan.bind_of_eq hblanks).trans rfl
  have hstage : Plan.stage distinctSubjects place before =
      .ok (.chain someObjects (.distinct []), after) := (Plan.bind_of_eq hjoin).trans rfl
  have hplan : engine.plan twoObjects.connect distinctSubjects (.avoiding .null) =
      .ok (distinctQuery.plan, after) := by
    refine (Plan.bind_of_eq (a := ()) (m := before) rfl).trans ?_
    refine (Plan.bind_of_eq (a := distinctSubjects) (m := before) rfl).trans ?_
    exact (Plan.bind_of_eq hstage).trans rfl
  rw [Engine.compile, hplan]
  rfl

end Sample

namespace Engine

/-- A solution is delivered twice, though the rows of the plan are different. -/
theorem compile_distinct_sample :
    Sample.distinctSubjects.Dedups ∧
      Sample.engine.compile Sample.twoObjects () none Sample.distinctSubjects (.avoiding .null) =
        .ok Sample.distinctQuery ∧
      ∃ q', QueryStream.Delivers Sample.twoObjects Sample.now Sample.distinctQuery
          [Sample.subjectRow, Sample.subjectRow] q' ∧
        ∃ R : List Row, R.Nodup ∧
          [Sample.subjectRow, Sample.subjectRow] = R.map (Row.without · [⟨"__v0"⟩]) := by
  let first := Sample.distinctQuery.next Sample.twoObjects Sample.now 50
  let second := first.2.next Sample.twoObjects Sample.now 50
  have hfirst : QueryStream.Pulled.solutions first.1 = [Sample.subjectRow] := by decide +kernel
  have hsecond : QueryStream.Pulled.solutions second.1 = [Sample.subjectRow] := by decide +kernel
  have hdelivers : QueryStream.Delivers Sample.twoObjects Sample.now Sample.distinctQuery
      ([] ++ QueryStream.Pulled.solutions first.1 ++ QueryStream.Pulled.solutions second.1)
        second.2 := (QueryStream.Delivers.start.next 50).next 50
  rw [hfirst, hsecond] at hdelivers
  have hdedups : Sample.distinctSubjects.Dedups := .distinct _
  obtain ⟨-, R, -, -, -, hnodup, hmap, -⟩ := compile_distinct Sample.engine Sample.twoObjects ()
    none Sample.distinctSubjects (.avoiding .null) Sample.distinctQuery hdedups
    Sample.compile_distinctSubjects Sample.now _ _ hdelivers
  exact ⟨hdedups, Sample.compile_distinctSubjects, second.2, hdelivers, R, hnodup, hmap⟩

end Engine

end PagedSparql
