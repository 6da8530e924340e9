import PagedSparql.Proofs.Pipeline.ConstructedTriples
import PagedSparql.Proofs.Query.Cancellation

/-!
# Labels that a query makes

The labels of the blank nodes that a query makes are its stem with the numbers from zero on: those
for the blank nodes of a template, and those that `BNODE` makes. Whatever is done to the query, these
are all labels that its source gives (`QueryStream.later_of_course`, `Labels.mem_given_iff`).

Blank nodes that come from an endpoint have any labels, and nothing keeps the source from giving one
of them. So which blank nodes fall together is known: those that come with a label that is the stem
with a number that was counted, and no others (`Engine.minted_labels`).
-/

namespace PagedSparql

variable {σ : Type}

/-- One of the rows binds a blank node with a label. -/
def Row.HaveBlank (rows : List Row) (label : String) : Prop :=
  ∃ r ∈ rows, ∃ v, r.get? v = some (.blank label)

/-- All that a pull of a construction does to the source of labels is to use it. -/
theorem Construction.later_pull (net : Network σ) (now : DateTime) (c : Construction) (n : Nat)
    (s : Session σ) : s.labels.Later (c.pull net now n s).2.2.labels := by
  induction n generalizing c s with
  | zero => exact .refl _
  | succ n ih =>
    obtain ⟨source, templates, pending⟩ := c
    cases pending with
    | cons t rest => exact .refl _
    | nil =>
      have hstep := Stage.later_step net now source (if source.wants then some .done else none) s
      rw [pull]
      simp only
      generalize source.step net now (if source.wants then some .done else none) s = out at hstep ⊢
      rcases out with ⟨⟨source', _ | r | _ | e⟩, s'⟩
      · exact hstep.trans (ih _ _)
      · have htriples : s'.labels.Later (triplesOf templates r s').2.labels :=
          ⟨_, (triplesOf_spec templates r s').2⟩
        exact (hstep.trans htriples).trans (ih _ _)
      · exact hstep
      · exact hstep

namespace QueryStream

variable {net : Network σ} {now : DateTime} {q q' : QueryStream σ}

/-- All that a pull of a plan does to the source of labels is to use it. -/
theorem later_pullPlan (net : Network σ) (now : DateTime) (steps : Nat) (hidden : List Variable)
    (plan : QueryPlan) (s : Session σ) :
    s.labels.Later (pullPlan net now steps hidden plan s).2.2.labels := by
  cases plan with
  | solutions stage => exact Stage.later_pull net now stage steps s
  | triples construction => exact Construction.later_pull net now construction steps s
  | truth stage => exact Stage.later_pull net now stage steps s

/-- All that a pull of a query does to the source of labels is to use it. -/
theorem later_next (net : Network σ) (now : DateTime) (steps : Nat) (q : QueryStream σ) :
    q.session.labels.Later (q.next net now steps).2.session.labels := by
  have hpull := later_pullPlan net now steps q.hidden q.plan q.session
  unfold next
  split
  · exact .refl _
  · rcases hplan : pullPlan net now steps q.hidden q.plan q.session with ⟨_ | x, plan, session⟩
    · rwa [hplan] at hpull
    · rw [hplan] at hpull
      cases x <;> exact hpull

/-- **All that becomes of the source of labels of a query is that it is used.** -/
theorem later_of_course (h : Course net now q q') :
    q.session.labels.Later q'.session.labels := by
  induction h with
  | start => exact .refl _
  | next _ steps ih => exact ih.trans (later_next net now steps _)
  | @close q' _ ih =>
    unfold close
    split
    · exact ih
    · exact ih
  | cancel _ ih => exact ih

end QueryStream

/-- The blank node that a call makes has a label that the source has counted. -/
theorem Eval.bnode_counted {now : DateTime} {r : Row} {operator : String}
    (hoperator : operator.toLower = "bnode") {args : List Expression} (hargs : args.length ≤ 1)
    {s : EvalState} (hsound : s.labels.Sound) {t : Term}
    (h : ((evaluate now r (.call operator args)).run.run s).1 = .ok t) :
    ∃ n < ((evaluate now r (.call operator args)).run.run s).2.labels.next,
      t = .blank (Labels.numbered s.labels.stem n) := by
  match args with
  | [] =>
    rw [run_bnode now r hoperator] at h ⊢
    exact ⟨s.labels.next, Nat.lt_succ_self _, (Except.ok.inj h).symm⟩
  | [e] =>
    obtain ⟨uses, huses⟩ := (draws_evaluate now r e s).later
    rw [run_bnode_key now r hoperator] at h ⊢
    rcases hrun : (evaluate now r e).run.run s with ⟨error | value, s'⟩
    · simp [hrun] at h
    · simp only [hrun] at h huses ⊢
      cases hstring : Value.stringArg value with
      | error error => simp [hstring] at h
      | ok text =>
        obtain ⟨key, language?⟩ := text
        simp only [hstring] at h ⊢
        obtain ⟨n, hn, hlabel⟩ := ((huses ▸ hsound.after uses : s'.labels.Sound).use
          (.ofKey key)).of_lookup (s'.labels.lookup_ofKey key)
        refine ⟨n, hn, (Except.ok.inj h).symm.trans (congrArg Term.blank ?_)⟩
        rw [hlabel, Labels.stem_use, huses, Labels.stem_after]

namespace Engine

open Construction in
/-- **The labels that are made are the stem with the numbers from zero on.** For the blank nodes of
a template, one after the other, for each row; in a query, whatever is done to it; and by `BNODE`.
So a blank node of a template falls together with one that is bound in a row if and only if some row
binds one whose label is the stem with such a number, and a query makes no label among any others if
and only if none of these is the stem with a number that was counted. -/
theorem minted_labels (stem : String) :
    (∀ (net : Network σ) (now : DateTime) (template : List TriplePattern) (rows : List Row)
        (ending : Ending) (s₀ : Session σ), s₀.labels = .new stem →
      ∃ (fillings : List Filling) (c : Construction) (s : Session σ),
        fillings.map Filling.row = rows ∧
        Yields net now (ofTemplate template (.source rows ending)) s₀
          (constants template ++ fillings.flatMap (Filling.triples template)) ending c s ∧
        (∀ label, (∃ f ∈ fillings, label ∈ f.names template) ↔
          ∃ n < rows.length * (blanksOf template).length, label = Labels.numbered stem n) ∧
        ((∃ f ∈ fillings, ∃ label ∈ f.names template, Row.HaveBlank rows label) ↔
          ∃ n < rows.length * (blanksOf template).length,
            Row.HaveBlank rows (Labels.numbered stem n))) ∧
      (∀ (engine : Engine) (net : Network σ) (world : σ) (meter? : Option Meter) (a : Algebra)
          (names : Names) (q q' : QueryStream σ) (now : DateTime),
        engine.settings.blankStem = stem → engine.compile net world meter? a names = .ok q →
        QueryStream.Course net now q q' →
        ∃ uses, q'.session.labels = (Labels.new stem).after uses ∧
          (∀ label, label ∈ (Labels.new stem).given uses ↔
            ∃ n < q'.session.labels.next, label = Labels.numbered stem n) ∧
          ∀ others : Set String, (∀ label ∈ (Labels.new stem).given uses, label ∉ others) ↔
            ∀ n < q'.session.labels.next, Labels.numbered stem n ∉ others) ∧
      ∀ (now : DateTime) (r : Row) (operator : String) (args : List Expression) (s : EvalState)
          (uses : List LabelUse) (t : Term),
        operator.toLower = "bnode" → args.length ≤ 1 → s.labels = (Labels.new stem).after uses →
        ((Eval.evaluate now r (.call operator args)).run.run s).1 = .ok t →
        ∃ n < ((Eval.evaluate now r (.call operator args)).run.run s).2.labels.next,
          t = .blank (Labels.numbered stem n) := by
  refine ⟨fun net now template rows ending s₀ hs₀ => ?_,
    fun engine net world meter? a names q q' now hstem hcompile hcourse => ?_,
    fun now r operator args s uses t hoperator hargs hlabels h => ?_⟩
  · obtain ⟨fillings, c, s, hrows, hchain, hnext, hyields⟩ :=
      exists_fillings net now template rows ending s₀
    have hlength : rows.length = fillings.length := by rw [← hrows, List.length_map]
    have hnames : ∀ label, (∃ f ∈ fillings, label ∈ f.names template) ↔
        ∃ n < rows.length * (blanksOf template).length, label = Labels.numbered stem n := by
      intro label
      rw [hchain.mem_names_iff hnext, hnext, hs₀, hlength]
      simp [Labels.new]
    refine ⟨fillings, c, s, hrows, hyields, hnames, ?_⟩
    constructor
    · rintro ⟨f, hf, label, hlabel, hblank⟩
      obtain ⟨n, hn, rfl⟩ := (hnames label).1 ⟨f, hf, hlabel⟩
      exact ⟨n, hn, hblank⟩
    · rintro ⟨n, hn, hblank⟩
      obtain ⟨f, hf, hlabel⟩ := (hnames _).2 ⟨n, hn, rfl⟩
      exact ⟨f, hf, _, hlabel, hblank⟩
  · obtain ⟨⟨plan, state⟩, -, hq⟩ := Paths.bind_inv hcompile
    obtain rfl := Except.ok.inj hq
    obtain ⟨uses, huses⟩ := QueryStream.later_of_course hcourse
    have hnew : q'.session.labels = (Labels.new stem).after uses := by rw [huses, ← hstem]; rfl
    have hgiven := Labels.mem_given_iff stem uses
    rw [← hnew] at hgiven
    refine ⟨uses, hnew, hgiven, fun others => ⟨fun h n hn => h _ ((hgiven _).2 ⟨n, hn, rfl⟩),
      fun h label hlabel => ?_⟩⟩
    obtain ⟨n, hn, rfl⟩ := (hgiven label).1 hlabel
    exact h n hn
  · have hsound : s.labels.Sound := hlabels ▸ (Labels.sound_new stem).after uses
    have hstem : s.labels.stem = stem := by rw [hlabels, Labels.stem_after]; rfl
    exact hstem ▸ Eval.bnode_counted hoperator hargs hsound h

end Engine

namespace Sample

/-- A template with a blank node and a variable. -/
def collision : List TriplePattern :=
  [⟨.term (.blank "t"), .plain (.term (.iri "http://example.org/p")), .variable ⟨"x"⟩⟩]

/-- A row with a blank node whose label is the first one of a query. -/
def firstLabel : Row := .ofList [(⟨"x"⟩, .blank "b0")]

end Sample

namespace Engine

open Construction in
/-- The blank node of the template falls together with the one that is bound in the row. A query
that makes none gives no labels. -/
theorem minted_labels_sample :
    (∃ (fillings : List Filling) (c : Construction) (s : Session Nat),
      fillings.map Filling.row = [Sample.firstLabel] ∧
      Yields Sample.interrupted Sample.now
        (ofTemplate Sample.collision (.source [Sample.firstLabel] .done))
        Sample.servicesQuery.session
        (constants Sample.collision ++ fillings.flatMap (Filling.triples Sample.collision)) .done
        c s ∧
      ∃ f ∈ fillings, ∃ label ∈ f.names Sample.collision,
        Row.HaveBlank [Sample.firstLabel] label) ∧
      Filling.triples Sample.collision ⟨Sample.firstLabel, .new "b"⟩ =
        [⟨.blank "b0", .iri "http://example.org/p", .blank "b0"⟩] ∧
      ∃ uses, Sample.cutShort.session.labels = (Labels.new "b").after uses ∧
        ∀ label, label ∉ (Labels.new "b").given uses := by
  obtain ⟨hconstruct, hquery, -⟩ := @minted_labels Nat "b"
  refine ⟨?_, by decide +kernel, ?_⟩
  · obtain ⟨fillings, c, s, hrows, hyields, -, hcollide⟩ := hconstruct Sample.interrupted Sample.now
      Sample.collision [Sample.firstLabel] .done Sample.servicesQuery.session rfl
    refine ⟨fillings, c, s, hrows, hyields, hcollide.2 ⟨0, by decide +kernel, ?_⟩⟩
    exact ⟨Sample.firstLabel, List.mem_singleton_self _, ⟨"x"⟩, by decide +kernel⟩
  · obtain ⟨uses, hlabels, hgiven, -⟩ := hquery Sample.engine Sample.interrupted 0 none
      Sample.services _ _ _ Sample.now rfl Sample.compile_services
      (QueryStream.Course.start.next 5)
    refine ⟨uses, hlabels, fun label hlabel => ?_⟩
    obtain ⟨n, hn, -⟩ := (hgiven label).1 hlabel
    have hnext : Sample.cutShort.session.labels.next = 0 := by decide +kernel
    exact absurd (hnext ▸ hn : n < 0) (Nat.not_lt_zero n)

end Engine

end PagedSparql
