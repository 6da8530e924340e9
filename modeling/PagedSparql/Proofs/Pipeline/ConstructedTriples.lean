import PagedSparql.Proofs.Pipeline.AnyAnswers
import PagedSparql.Proofs.Pipeline.Templates

/-!
# Constructed triples

A construction hands on the triples of its template that hold terms only, and then, row by row, the
triples of the other patterns filled in. The run is an induction over pulls of any number of steps,
between which others may use the source of labels (`Construction.Delivers`). Its invariant
(`Construction.Progress`) says that what was handed on and what is pending are the triples of the
rows that the stage has handed on, each of them filled in with names of its own.
-/

namespace PagedSparql

variable {σ : Type}

namespace Construction

/-- The triple that a pull hands on, if it does. -/
def handedOn : Option TripleSignal → List Triple
  | some (.triple t) => [t]
  | _ => []

/-- The triples that a construction hands on in some number of pulls. It may be pulled after its
end and after failures, and between two pulls others may use the source of labels. -/
inductive Delivers (net : Network σ) (now : DateTime) (c₀ : Construction) (s₀ : Session σ) :
    List Triple → Construction → Session σ → Prop
  /-- It was not pulled. -/
  | start : Delivers net now c₀ s₀ [] c₀ s₀
  /-- It is pulled once more. -/
  | pull {W : List Triple} {c c' : Construction} {s s' : Session σ} {n : Nat}
    {x? : Option TripleSignal} (before : Delivers net now c₀ s₀ W c s)
    (h : c.pull net now n s = (x?, c', s')) :
    Delivers net now c₀ s₀ (W ++ handedOn x?) c' s'
  /-- Something else happens. -/
  | others {W : List Triple} {c : Construction} {s s' : Session σ}
    (before : Delivers net now c₀ s₀ W c s) (h : s.labels.Later s'.labels) :
    Delivers net now c₀ s₀ W c s'

/-- Pulled until it ends or fails for the first time, a construction hands on some triples. -/
inductive Yields (net : Network σ) (now : DateTime) :
    Construction → Session σ → List Triple → Ending → Construction → Session σ → Prop
  /-- It ends. -/
  | done {n : Nat} {c c' : Construction} {s s' : Session σ}
    (h : c.pull net now n s = (some .done, c', s')) : Yields net now c s [] .done c' s'
  /-- It fails. -/
  | fail {n : Nat} {c c' : Construction} {s s' : Session σ} {e : TransportError}
    (h : c.pull net now n s = (some (.fail e), c', s')) : Yields net now c s [] (.failed e) c' s'
  /-- It hands on a triple and goes on. -/
  | triple {n : Nat} {c c' c'' : Construction} {s s' s'' : Session σ} {t : Triple} {W : List Triple}
    {ending : Ending} (h : c.pull net now n s = (some (.triple t), c', s'))
    (rest : Yields net now c' s' W ending c'' s'') : Yields net now c s (t :: W) ending c'' s''

/-- How far a construction has come: the rows that its stage has handed on are filled in, and what
was not handed on yet is pending. -/
structure Progress (net : Network σ) (now : DateTime) (template : List TriplePattern)
    (source : Stage) (l : Labels) (fillings : List Filling) (W : List Triple) (c : Construction)
    (s : Session σ) : Prop where
  /-- The patterns are those that are not constant. -/
  templates : c.templates = template.filter (!isConstant ·)
  /-- The rows were handed on by the stage. -/
  emits : Stage.Emits net now source (fillings.map Filling.row) c.source
  /-- The triples that were handed on and that are pending are those of the rows. -/
  triples : W ++ c.pending = constants template ++ fillings.flatMap (Filling.triples template)
  /-- The rows are filled in one after the other. -/
  chain : Chain template l fillings s.labels

variable {net : Network σ} {now : DateTime} {template : List TriplePattern} {source : Stage}
  {l : Labels} {fillings : List Filling} {W : List Triple} {c c' : Construction} {s s' : Session σ}

/-- A pull of a construction. -/
theorem Progress.pull (h : Progress net now template source l fillings W c s) {n : Nat}
    {x? : Option TripleSignal} (hpull : c.pull net now n s = (x?, c', s')) :
    ∃ fillings', Progress net now template source l fillings' (W ++ handedOn x?) c' s' := by
  induction n generalizing c s fillings with
  | zero =>
    obtain ⟨rfl, rfl, rfl⟩ : none = x? ∧ c = c' ∧ s = s' := by simpa [Construction.pull] using hpull
    exact ⟨fillings, by simpa [handedOn] using h⟩
  | succ n ih =>
    obtain ⟨stage, templates, pending⟩ := c
    obtain ⟨rfl, hemits, htriples, hchain⟩ := h
    cases pending with
    | cons t rest =>
      obtain ⟨rfl, rfl, rfl⟩ : some (TripleSignal.triple t) = x? ∧ _ = c' ∧ s = s' := by
        simpa [Construction.pull] using hpull
      exact ⟨fillings, rfl, hemits, by simpa [handedOn] using htriples, hchain⟩
    | nil =>
      rw [Construction.pull] at hpull
      simp only at hpull hemits htriples
      have hlater := Stage.later_step net now stage (if stage.wants then some .done else none) s
      rcases hstep : stage.step net now (if stage.wants then some .done else none) s with
        ⟨⟨stage', y?⟩, s₁⟩
      have hnext := hemits.step hstep
      rw [hstep] at hpull hlater
      -- Nothing comes, or a row that is filled into the template, or the end, or a failure.
      rcases y? with _ | r | _ | e
      · simp only [Stage.handedOn, List.append_nil] at hnext
        exact ih ⟨rfl, hnext, htriples, hchain.later hlater⟩ hpull
      · obtain ⟨hfilled, hlabels⟩ := triplesOf_filling template r s₁
        let f : Filling := ⟨r, s₁.labels⟩
        have hprogress : Progress net now template source l (fillings ++ [f]) W
            ⟨stage', template.filter (!isConstant ·),
              (triplesOf (template.filter (!isConstant ·)) r s₁).1⟩
            (triplesOf (template.filter (!isConstant ·)) r s₁).2 := by
          refine ⟨rfl, ?_, ?_, hlabels ▸ (hchain.later hlater).snoc⟩
          · rw [List.map_append]
            exact hnext
          · rw [List.append_nil] at htriples
            rw [hfilled, htriples, List.flatMap_append, List.flatMap_singleton, List.append_assoc]
        exact ih hprogress hpull
      · obtain ⟨rfl, rfl, rfl⟩ : some TripleSignal.done = x? ∧ _ = c' ∧ s₁ = s' := by
          simpa using hpull
        simp only [Stage.handedOn, List.append_nil] at hnext
        exact ⟨fillings, rfl, hnext, by simpa [handedOn] using htriples, hchain.later hlater⟩
      · obtain ⟨rfl, rfl, rfl⟩ : some (TripleSignal.fail e) = x? ∧ _ = c' ∧ s₁ = s' := by
          simpa using hpull
        simp only [Stage.handedOn, List.append_nil] at hnext
        exact ⟨fillings, rfl, hnext, by simpa [handedOn] using htriples, hchain.later hlater⟩

/-- A construction in the course of some pulls. -/
theorem Delivers.progress {s₀ : Session σ}
    (h : Delivers net now (ofTemplate template source) s₀ W c s) :
    ∃ fillings, Progress net now template source s₀.labels fillings W c s := by
  induction h with
  | start => exact ⟨[], rfl, .start, by simp [pending_ofTemplate], .nil (.refl _)⟩
  | pull _ hpull ih =>
    obtain ⟨fillings, hprogress⟩ := ih
    exact hprogress.pull hpull
  | others _ hlater ih =>
    obtain ⟨fillings, hprogress⟩ := ih
    exact ⟨fillings, hprogress.templates, hprogress.emits, hprogress.triples,
      hprogress.chain.later hlater⟩

/-- What a construction hands on until it ends or fails is handed on in pulls. -/
theorem Delivers.yields {c₀ : Construction} {s₀ : Session σ} {V : List Triple} {ending : Ending}
    (h : Delivers net now c₀ s₀ W c s) (hyields : Yields net now c s V ending c' s') :
    Delivers net now c₀ s₀ (W ++ V) c' s' := by
  induction hyields generalizing W with
  | done hpull => exact h.pull hpull
  | fail hpull => exact h.pull hpull
  | triple hpull _ ih => simpa [handedOn] using ih (h.pull hpull)

/-- A pull that brings no triple leaves none pending. -/
theorem pending_of_pull {n : Nat} {x : TripleSignal}
    (hpull : c.pull net now n s = (some x, c', s')) (hx : ∀ t, x ≠ .triple t) : c'.pending = [] := by
  induction n generalizing c s with
  | zero => exact absurd hpull (by simp [Construction.pull])
  | succ n ih =>
    obtain ⟨stage, templates, pending⟩ := c
    rw [Construction.pull] at hpull
    cases pending with
    | cons t rest =>
      obtain ⟨rfl, -⟩ : TripleSignal.triple t = x ∧ _ := by simpa using hpull
      exact absurd rfl (hx t)
    | nil =>
      simp only at hpull
      generalize stage.step net now (if stage.wants then some .done else none) s = out at hpull
      rcases out with ⟨⟨stage', _ | r | _ | e⟩, s₁⟩
      · exact ih hpull
      · exact ih hpull
      · rw [← (Prod.mk.inj (Prod.mk.inj hpull).2).1]
      · rw [← (Prod.mk.inj (Prod.mk.inj hpull).2).1]

/-- A construction that has come to an end has handed on all triples. -/
theorem Yields.pending {ending : Ending} (h : Yields net now c s W ending c' s') :
    c'.pending = [] := by
  induction h with
  | done hpull => exact pending_of_pull hpull (by simp)
  | fail hpull => exact pending_of_pull hpull (by simp)
  | triple _ _ ih => exact ih

/-- A construction that goes on like another one hands on the same. -/
theorem Yields.of_pull {c'' : Construction} {s'' : Session σ} {ending : Ending}
    (heq : ∀ n, c.pull net now (n + 1) s = c'.pull net now n s')
    (h : Yields net now c' s' W ending c'' s'') : Yields net now c s W ending c'' s'' := by
  cases h with
  | done hpull => exact .done ((heq _).trans hpull)
  | fail hpull => exact .fail ((heq _).trans hpull)
  | triple hpull rest => exact .triple ((heq _).trans hpull) rest

/-- A construction over some rows comes to its end, and takes new labels for each of them. -/
theorem exists_yields (net : Network σ) (now : DateTime) (templates : List TriplePattern)
    (rows : List Row) (ending : Ending) (pending : List Triple) (s : Session σ) :
    ∃ W c' s', Yields net now ⟨.source rows ending, templates, pending⟩ s W ending c' s' ∧
      c'.source = .source [] ending ∧
      s'.labels = s.labels.after (.replicate (rows.length * (blanksOf templates).length) .fresh) := by
  induction rows generalizing pending s with
  | nil =>
    rw [List.length_nil, Nat.zero_mul]
    induction pending with
    | nil =>
      cases ending with
      | done => exact ⟨[], _, _, .done (n := 1) rfl, rfl, rfl⟩
      | failed e => exact ⟨[], _, _, .fail (n := 1) rfl, rfl, rfl⟩
    | cons t rest ih =>
      obtain ⟨W, c', s', hyields, hsource, hlabels⟩ := ih
      exact ⟨t :: W, c', s', .triple (n := 1) rfl hyields, hsource, hlabels⟩
  | cons r rows ih =>
    induction pending with
    | nil =>
      obtain ⟨W, c', s', hyields, hsource, hlabels⟩ :=
        ih (triplesOf templates r s).1 (triplesOf templates r s).2
      refine ⟨W, c', s', .of_pull (fun _ => rfl) hyields, hsource, ?_⟩
      rw [hlabels, (triplesOf_spec templates r s).2, ← Labels.after_append,
        List.replicate_append_replicate, List.length_cons, Nat.succ_mul, Nat.add_comm]
    | cons t rest ih' =>
      obtain ⟨W, c', s', hyields, hsource, hlabels⟩ := ih'
      exact ⟨t :: W, c', s', .triple (n := 1) rfl hyields, hsource, hlabels⟩

/-- The rows that a source hands on are its first ones. -/
theorem emits_source {rows U : List Row} {ending : Ending} {st : Stage}
    (h : Stage.Emits net now (.source rows ending) U st) :
    ∃ rest, rows = U ++ rest ∧ st = .source rest ending := by
  induction h with
  | start => exact ⟨rows, rfl, rfl⟩
  | step _ hstep ih =>
    obtain ⟨rest, rfl, rfl⟩ := ih
    cases rest with
    | nil =>
      obtain ⟨⟨rfl, rfl⟩, -⟩ : (Stage.source [] ending = _ ∧ some ending.signal = _) ∧ _ := by
        simpa [Stage.step, Stage.stepAlone, Stage.wants] using hstep
      exact ⟨[], by cases ending <;> simp [Stage.handedOn, Ending.signal], rfl⟩
    | cons r rest =>
      obtain ⟨⟨rfl, rfl⟩, -⟩ : (Stage.source rest ending = _ ∧ some (Signal.row r) = _) ∧ _ := by
        simpa [Stage.step, Stage.stepAlone, Stage.wants] using hstep
      exact ⟨rest, by simp [Stage.handedOn], rfl⟩

/-- Over a list of rows, a construction hands on all triples before the list ends or fails, and
takes no labels but the names. -/
theorem exists_fillings (net : Network σ) (now : DateTime) (template : List TriplePattern)
    (rows : List Row) (ending : Ending) (s₀ : Session σ) : ∃ fillings c s,
      fillings.map Filling.row = rows ∧ Chain template s₀.labels fillings s.labels ∧
      s.labels.next = s₀.labels.next + fillings.length * (blanksOf template).length ∧
      Yields net now (ofTemplate template (.source rows ending)) s₀
        (constants template ++ fillings.flatMap (Filling.triples template)) ending c s := by
  obtain ⟨W, c, s, hyields, hsource, hlabels⟩ := exists_yields net now
    (template.filter (!isConstant ·)) rows ending
    ((template.filter isConstant).filterMap (instance? .empty)) s₀
  have hdelivers : Delivers net now (ofTemplate template (.source rows ending)) s₀ W c s :=
    Delivers.start.yields hyields
  obtain ⟨fillings, -, hemits, htriples, hchain⟩ := hdelivers.progress
  obtain ⟨rest, hrows, hrest⟩ := emits_source hemits
  obtain rfl : rest = [] := by simpa using hrest.symm.trans hsource
  rw [List.append_nil] at hrows
  rw [hyields.pending, List.append_nil] at htriples
  have hnext : s.labels.next = s₀.labels.next + fillings.length * (blanksOf template).length := by
    rw [hlabels, Labels.after_fresh, blanksOf_filter, hrows, List.length_map]
  exact ⟨fillings, c, s, hrows.symm, hchain, hnext, htriples ▸ hyields⟩

/-- **Templates are instantiated faithfully.** Whatever a construction is pulled for, over whatever
stage, by whatever others the source of labels is used as well: what it has handed on and what is
pending are the constant triples of its template and then, for each row that the stage has handed
on, the triples of the template filled in with this row and with names that the source of labels
gives for it and never else. A pull that brings the end or a failure leaves nothing pending. And
over a list of rows the construction hands on all of this, before the list ends or fails. -/
theorem ofTemplate_fills (net : Network σ) (now : DateTime) (template : List TriplePattern)
    (stem : String) (past : List LabelUse) (s₀ : Session σ)
    (hs₀ : s₀.labels = (Labels.new stem).after past) :
    (∀ source W c s, Delivers net now (ofTemplate template source) s₀ W c s →
        ∃ fillings, Fills template stem s₀.labels fillings s.labels ∧
          Stage.Emits net now source (fillings.map Filling.row) c.source ∧
          W ++ c.pending = constants template ++ fillings.flatMap (Filling.triples template)) ∧
      (∀ (c c' : Construction) (s s' : Session σ) (n : Nat) (x : TripleSignal),
        c.pull net now n s = (some x, c', s') → (∀ t, x ≠ .triple t) → c'.pending = []) ∧
      ∀ rows ending, ∃ fillings c s, fillings.map Filling.row = rows ∧
        Fills template stem s₀.labels fillings s.labels ∧
        Yields net now (ofTemplate template (.source rows ending)) s₀
          (constants template ++ fillings.flatMap (Filling.triples template)) ending c s := by
  refine ⟨fun source W c s h => ?_, fun c c' s s' n x hpull hx => pending_of_pull hpull hx,
    fun rows ending => ?_⟩
  · obtain ⟨fillings, hprogress⟩ := h.progress
    exact ⟨fillings, hprogress.chain.fills hs₀, hprogress.emits, hprogress.triples⟩
  · obtain ⟨fillings, c, s, hrows, hchain, -, hyields⟩ :=
      exists_fillings net now template rows ending s₀
    exact ⟨fillings, c, s, hrows, hchain.fills hs₀, hyields⟩

end Construction

namespace Sample

/-- A template with a constant triple and one that has a blank node twice and a variable. -/
def template : List TriplePattern :=
  [⟨.term (.blank "t"), .plain (.term (.iri "http://example.org/p")), .variable ⟨"x"⟩⟩,
    ⟨.term resource, .plain (.term (.iri "http://example.org/p")), .term resource⟩,
    ⟨.variable ⟨"x"⟩, .plain (.term (.iri "http://example.org/q")), .term (.blank "t")⟩]

/-- A row with a blank node. -/
def blankRow : Row := .ofList [(⟨"x"⟩, .blank "t")]

end Sample

namespace Construction

/-- One row gives two triples, after the constant one, and the other row none. -/
theorem ofTemplate_fills_sample :
    constants Sample.template =
        [⟨Sample.resource, .iri "http://example.org/p", Sample.resource⟩] ∧
      Filling.triples Sample.template ⟨Sample.blankRow, .new "b"⟩ =
        [⟨.blank "b0", .iri "http://example.org/p", .blank "t"⟩,
          ⟨.blank "t", .iri "http://example.org/q", .blank "b0"⟩] ∧
      ∃ fillings c s, fillings.map Filling.row = [Sample.blankRow, .empty] ∧
        Fills Sample.template "b" Sample.session.labels fillings s.labels ∧
        Yields (.ofReplies Sample.pagedReply) Sample.now
          (ofTemplate Sample.template (.source [Sample.blankRow, .empty] (.failed (.http ""))))
          Sample.session
          (constants Sample.template ++ fillings.flatMap (Filling.triples Sample.template))
          (.failed (.http "")) c s := by
  obtain ⟨-, -, hyields⟩ := ofTemplate_fills (.ofReplies Sample.pagedReply) Sample.now
    Sample.template "b" [] Sample.session rfl
  exact ⟨by decide +kernel, by decide +kernel,
    hyields [Sample.blankRow, .empty] (.failed (.http ""))⟩

end Construction

end PagedSparql
