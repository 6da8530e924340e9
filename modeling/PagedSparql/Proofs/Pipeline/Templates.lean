import PagedSparql.Pipeline.Construction
import PagedSparql.Proofs.Pipeline.SharedLabels
import PagedSparql.Proofs.Pipeline.SteadyRows

/-!
# Templates

The triples of a template for a row are its patterns filled in: variables get the terms of the row,
and blank nodes of the template get new labels (`TriplePattern.fill?`). Blank nodes that come with
the row are kept.

The relabelling of a row goes through the positions one by one, with a table of what was relabelled
before. Its invariant (`Construction.Covers`) says that the labels are numbered in the order in
which the blank nodes are first met; so all labels of a row are known in advance
(`Construction.triplesOf_filling`). Between two rows the source of labels is used by others. That
the rows are filled in one after the other is a chain of its states (`Construction.Chain`), and by
this the labels of a row are no others that the source ever gives (`Construction.Chain.fills`).
-/

namespace PagedSparql

/-- The label of the blank node in a position. -/
def TermPattern.blank? : TermPattern → Option String
  | .term (.blank label) => some label
  | _ => none

/-- The position with its blank node named anew. -/
def TermPattern.renameBlank (name : String → String) : TermPattern → TermPattern
  | .term (.blank label) => .term (.blank (name label))
  | p => p

/-- The term of a position under a row, if its blank node is named anew. -/
def TermPattern.fill? (row : Row) (name : String → String) : TermPattern → Option Term
  | .variable v => row.getNamed? v
  | .term (.blank label) => some (.blank (name label))
  | .term t => some t

namespace TriplePattern

/-- The labels of the blank nodes in the positions of a pattern without path. -/
def blanks (t : TriplePattern) : List String :=
  match t.predicate with
  | .plain predicate =>
    t.subject.blank?.toList ++ predicate.blank?.toList ++ t.object.blank?.toList
  | .path _ _ => []

/-- The pattern has no variable and no blank node. -/
def isFixed (t : TriplePattern) : Bool := t.vars.isEmpty && t.blanks.isEmpty

/-- The triple of a pattern without path under a row, its blank nodes named anew. There is one if
each position has a term, the subject is no literal and the predicate is an IRI. -/
def fill? (row : Row) (name : String → String) (t : TriplePattern) : Option Triple := do
  let subject ← t.subject.fill? row name
  let predicate ← (← t.predicate.plain?).fill? row name
  let object ← t.object.fill? row name
  if subject.isLiteral || !predicate.isIri then none else some ⟨subject, predicate, object⟩

end TriplePattern

namespace Construction

/-- The labels of the blank nodes of a template, in the order in which they are first met. -/
def blanksOf (template : List TriplePattern) : List String :=
  (template.flatMap TriplePattern.blanks).eraseDups

/-- The new name of one of some blank nodes: they are numbered in order. -/
def nameOf (l : Labels) (blanks : List String) (x : String) : String :=
  Labels.numbered l.stem (l.next + blanks.idxOf x)

/-- The triples of a template that are the same for all rows. -/
def constants (template : List TriplePattern) : List Triple :=
  (template.filter (·.isFixed)).filterMap (·.fill? .empty id)

/-- A row that is filled into a template, and the source of labels just before. -/
structure Filling where
  /-- The row. -/
  row : Row
  /-- The source of labels. -/
  before : Labels

namespace Filling

variable (template : List TriplePattern) (f : Filling)

/-- The new name of a blank node of the template. -/
def name (x : String) : String := nameOf f.before (blanksOf template) x

/-- The new names of all blank nodes of the template. -/
def names : List String := (blanksOf template).map (f.name template)

/-- The source of labels just after. -/
def after : Labels := f.before.after (.replicate (blanksOf template).length .fresh)

/-- The triples. -/
def triples : List Triple :=
  (template.filter (!·.isFixed)).filterMap (·.fill? f.row (f.name template))

/-- The names of the blank nodes are all different, and no others that a source of labels with a
stem ever gives. -/
structure Apart (stem : String) : Prop where
  /-- Different blank nodes have different names. -/
  injective : ∀ x ∈ blanksOf template, ∀ y ∈ blanksOf template,
    f.name template x = f.name template y → x = y
  /-- The names are the labels that the source gives between the one state and the other. -/
  taken : f.before.given (.replicate (blanksOf template).length .fresh) = f.names template
  /-- The source comes to the first state. -/
  reached : ∃ past, f.before = (Labels.new stem).after past
  /-- However it does, it does not give the names before. -/
  earlier : ∀ past, f.before = (Labels.new stem).after past →
    ∀ x ∈ f.names template, x ∉ (Labels.new stem).given past
  /-- However it goes on, it does not give the names again. -/
  later : ∀ uses, ∀ x ∈ f.names template, x ∉ (f.after template).given uses

end Filling

/-- Rows are filled into a template, one after the other, while the source of labels goes from one
state to another. -/
inductive Chain (template : List TriplePattern) : Labels → List Filling → Labels → Prop
  /-- None is. -/
  | nil {l l' : Labels} (h : l.Later l') : Chain template l [] l'
  /-- One is, and then others. -/
  | cons {l l' : Labels} {f : Filling} {rest : List Filling} (h : l.Later f.before)
    (hrest : Chain template (f.after template) rest l') : Chain template l (f :: rest) l'

/-- Some rows are filled into a template, while the source of labels, which has a stem, goes from
one state to another. -/
structure Fills (template : List TriplePattern) (stem : String) (l : Labels)
    (fillings : List Filling) (l' : Labels) : Prop where
  /-- The rows are filled in one after the other. -/
  chain : Chain template l fillings l'
  /-- The names for a row are different, and no others that the source ever gives. -/
  apart : ∀ f ∈ fillings, f.Apart template stem
  /-- The names for different rows are different. -/
  different : fillings.Pairwise fun f g => ∀ x ∈ f.names template, x ∉ g.names template

end Construction

namespace TriplePattern

variable {row : Row} {name name' : String → String} {t : TriplePattern}

/-- To fill in a position is to name its blank node anew and to take the term from the row. -/
theorem resolve?_renameBlank (row : Row) (name : String → String) (p : TermPattern) :
    resolve? row (p.renameBlank name) = p.fill? row name := by
  rcases p with v | t
  · rfl
  · cases t <;> rfl

/-- The valid triple of a pattern with its blank nodes named anew. -/
theorem instance?_renameBlank (row : Row) (name : String → String) {predicate : TermPattern}
    (h : t.predicate = .plain predicate) :
    Construction.instance? row ⟨t.subject.renameBlank name, .plain (predicate.renameBlank name),
      t.object.renameBlank name⟩ = t.fill? row name := by
  simp only [Construction.instance?, ground?, fill?, h, Predicate.plain?, resolve?_renameBlank,
    Option.bind_eq_bind, Option.bind_some]
  cases t.subject.fill? row name <;> [rfl; skip]
  cases predicate.fill? row name <;> [rfl; skip]
  cases t.object.fill? row name <;> [rfl; skip]
  simp only [Option.bind_some, Option.filter_some, Triple.isValid]
  grind

/-- There is no triple of a pattern with a path. -/
theorem fill?_of_path {kind : PathKind} {items : List Predicate}
    (h : t.predicate = .path kind items) : t.fill? row name = none := by
  simp only [fill?, h, Predicate.plain?, Option.bind_eq_bind, Option.bind_none]
  cases t.subject.fill? row name <;> rfl

/-- A position without blank node keeps what it holds. -/
theorem renameBlank_of_none {p : TermPattern} (h : p.blank? = none) : p.renameBlank name = p := by
  rcases p with v | t
  · rfl
  · cases t with
    | blank label => exact absurd h (by simp [TermPattern.blank?])
    | _ => rfl

/-- A position whose blank node keeps its name. -/
theorem renameBlank_id (p : TermPattern) : p.renameBlank id = p := by
  rcases p with v | t
  · rfl
  · cases t <;> rfl

/-- A position holds a constant if it has neither variable nor blank node. -/
theorem isConstantPosition_eq (p : TermPattern) :
    Construction.isConstantPosition p = (p.var?.isNone && p.blank?.isNone) := by
  rcases p with v | t
  · rfl
  · cases t <;> rfl

/-- A pattern without path is constant if it has no variable and no blank node. -/
theorem isConstant_eq_isFixed {predicate : TermPattern} (h : t.predicate = .plain predicate) :
    Construction.isConstant t = t.isFixed := by
  simp only [Construction.isConstant, isFixed, vars, blanks, h, Predicate.plain?,
    isConstantPosition_eq, Option.any_some, Option.bind_some]
  cases t.subject.var? <;> cases t.subject.blank? <;> cases predicate.var? <;>
    cases predicate.blank? <;> cases t.object.var? <;> cases t.object.blank? <;> rfl

end TriplePattern

/-! ## Relabelling -/

namespace Labels

/-- The source after some new labels. -/
theorem after_fresh (l : Labels) (k : Nat) :
    l.after (.replicate k .fresh) = { l with next := l.next + k } := by
  induction k generalizing l with
  | zero => rfl
  | succ k ih =>
    rw [List.replicate_succ, after_cons, ih, use, fresh, Nat.add_assoc, Nat.add_comm 1]

/-- New labels are numbered one after the other. -/
theorem given_fresh (l : Labels) (k : Nat) : l.given (.replicate k .fresh) =
    (List.range k).map fun i => numbered l.stem (l.next + i) := by
  induction k generalizing l with
  | zero => rfl
  | succ k ih =>
    rw [List.replicate_succ, given, ih, List.range_succ_eq_map, List.map_cons, List.map_map]
    simp only [use, fresh, numbered, Option.toList_some, List.singleton_append, Nat.add_zero,
      List.cons.injEq, true_and, List.map_inj_left, Function.comp_apply]
    exact fun i _ => by rw [Nat.add_assoc, Nat.add_comm 1]

end Labels

namespace Construction

variable {l l' : Labels} {met met' all : List String} {s : Relabelling} {row : Row} {x y : String}

/-- One more item leaves the others without duplicates, and is added if it is new. -/
theorem eraseDups_snoc (met : List String) (x : String) :
    (met ++ [x]).eraseDups = if x ∈ met then met.eraseDups else met.eraseDups ++ [x] := by
  rw [List.eraseDups_append]
  split
  · next h => simp [List.removeAll, h]
  · next h => simp [List.removeAll, h, List.eraseDups_cons]

/-- The items that are met first stay in front. -/
theorem eraseDups_front (h : met <+: met') : met.eraseDups <+: met'.eraseDups := by
  obtain ⟨more, rfl⟩ := h
  rw [List.eraseDups_append]
  exact List.prefix_append _ _

/-- The name of a blank node does not depend on those that are met after it. -/
theorem nameOf_of_front (hx : x ∈ met) (h : met <+: met') :
    nameOf l met'.eraseDups x = nameOf l met.eraseDups x := by
  rw [nameOf, nameOf, (eraseDups_front h).idxOf_eq_of_mem (List.mem_eraseDups.2 hx)]

/-- Different blank nodes have different names. -/
theorem nameOf_inj {blanks : List String} (hx : x ∈ blanks)
    (h : nameOf l blanks x = nameOf l blanks y) : x = y :=
  (List.idxOf_inj hx).1 (Nat.add_left_cancel (Labels.numbered_inj h))

/-- The blank nodes that were met have their names in the table, and the source has counted them. -/
structure Covers (l : Labels) (met : List String) (s : Relabelling) : Prop where
  /-- The source has counted the blank nodes. -/
  labels : s.2 = { l with next := l.next + met.eraseDups.length }
  /-- The table has their names. -/
  lookup : ∀ x, s.1.lookup x = if x ∈ met then some (nameOf l met.eraseDups x) else none

/-- Before the first position. -/
theorem covers_start (l : Labels) : Covers l [] ([], l) := ⟨rfl, fun _ => rfl⟩

/-- A blank node that is met again. -/
theorem Covers.again (h : Covers l met s) (hx : x ∈ met) : Covers l (met ++ [x]) s := by
  have hsame : (met ++ [x]).eraseDups = met.eraseDups := by rw [eraseDups_snoc, if_pos hx]
  have hmem : ∀ y, y ∈ met ++ [x] ↔ y ∈ met := fun y => by
    rw [List.mem_append, List.mem_singleton]
    exact or_iff_left_of_imp fun heq => heq ▸ hx
  exact ⟨by rw [hsame]; exact h.labels, fun y => by simp only [hsame, hmem, h.lookup]⟩

/-- A blank node that is met for the first time. -/
theorem Covers.first (h : Covers l met s) (hx : x ∉ met) :
    Covers l (met ++ [x]) ((x, s.2.fresh.1) :: s.1, s.2.fresh.2) := by
  have hsnoc : (met ++ [x]).eraseDups = met.eraseDups ++ [x] := by rw [eraseDups_snoc, if_neg hx]
  have hname : s.2.fresh.1 = nameOf l (met ++ [x]).eraseDups x := by
    have hnew : x ∉ met.eraseDups := fun h => hx (List.mem_eraseDups.1 h)
    rw [hsnoc, nameOf, List.idxOf_append_of_notMem hnew, h.labels]
    simp [Labels.fresh, Labels.numbered]
  refine ⟨?_, fun y => ?_⟩
  · rw [hsnoc, h.labels, List.length_append]
    rfl
  · rw [List.lookup_cons]
    by_cases hy : y = x
    · subst hy
      rw [beq_self_eq_true, if_pos (by simp), hname]
    · rw [beq_false_of_ne hy, h.lookup]
      simp only [List.mem_append, List.mem_singleton, hy, or_false]
      split
      · next hmet => rw [nameOf_of_front hmet (List.prefix_append met [x])]
      · rfl

/-- What relabelling a position comes to. -/
theorem Covers.relabel (h : Covers l met s) (p : TermPattern)
    (hall : met ++ p.blank?.toList <+: all) :
    (relabel p s).1 = p.renameBlank (nameOf l all.eraseDups) ∧
      Covers l (met ++ p.blank?.toList) (relabel p s).2 := by
  rcases hp : p.blank? with _ | x
  · have hkept : Construction.relabel p s = (p, s) := by
      rcases p with v | t
      · rfl
      · cases t with
        | blank label => exact absurd hp (by simp [TermPattern.blank?])
        | _ => rfl
    rw [hkept, TriplePattern.renameBlank_of_none hp, Option.toList_none, List.append_nil]
    exact ⟨rfl, h⟩
  · obtain rfl : p = .term (.blank x) := by
      rcases p with v | t
      · exact absurd hp (by simp [TermPattern.blank?])
      · cases t <;> simp_all [TermPattern.blank?]
    rw [TermPattern.renameBlank]
    have hname : nameOf l all.eraseDups x = nameOf l (met ++ [x]).eraseDups x :=
      nameOf_of_front (by simp) hall
    -- A label that was met has its new one on record, and any other is given the next one.
    by_cases hx : x ∈ met
    · have hlookup := h.lookup x
      rw [if_pos hx, ← nameOf_of_front hx (List.prefix_append met [x]), ← hname] at hlookup
      simp only [Construction.relabel, hlookup]
      exact ⟨trivial, h.again hx⟩
    · have hlookup := h.lookup x
      have hfirst := h.first hx
      have hnew := hfirst.lookup x
      rw [List.lookup_cons, beq_self_eq_true, if_pos (by simp), ← hname] at hnew
      rw [if_neg hx] at hlookup
      simp only [Construction.relabel, hlookup]
      exact ⟨by rw [Option.some.inj hnew], hfirst⟩

/-- What relabelling a pattern and filling it in comes to. -/
theorem Covers.relabelTriple (h : Covers l met s) (row : Row) (t : TriplePattern)
    (hall : met ++ t.blanks <+: all) :
    (relabelTriple t s).1.bind (instance? row) = t.fill? row (nameOf l all.eraseDups) ∧
      Covers l (met ++ t.blanks) (relabelTriple t s).2 := by
  obtain ⟨subject, predicate, object⟩ := t
  cases predicate with
  | path kind items =>
    refine ⟨(TriplePattern.fill?_of_path rfl).symm, ?_⟩
    have hnone : met ++ TriplePattern.blanks ⟨subject, .path kind items, object⟩ = met :=
      List.append_nil met
    rwa [hnone]
  | plain p =>
    simp only [TriplePattern.blanks, ← List.append_assoc] at hall ⊢
    have hp := (List.prefix_append _ _).trans hall
    have hsubject := (List.prefix_append _ _).trans hp
    obtain ⟨hfirst, hcovers⟩ := h.relabel subject hsubject
    obtain ⟨hsecond, hcovers⟩ := hcovers.relabel p hp
    obtain ⟨hthird, hcovers⟩ := hcovers.relabel object hall
    refine ⟨?_, hcovers⟩
    rw [← TriplePattern.instance?_renameBlank _ _ rfl, Construction.relabelTriple]
    simp only [hfirst, hsecond, hthird, Option.bind_some]

/-- What relabelling the patterns of a template and filling them in comes to. -/
theorem Covers.instantiate (h : Covers l met s) (row : Row) (template : List TriplePattern)
    (hall : met ++ template.flatMap TriplePattern.blanks <+: all) :
    (instantiate row template s).1 = template.filterMap (·.fill? row (nameOf l all.eraseDups)) ∧
      Covers l (met ++ template.flatMap TriplePattern.blanks) (instantiate row template s).2 := by
  induction template generalizing met s with
  | nil => exact ⟨rfl, by simpa [Construction.instantiate] using h⟩
  | cons t rest ih =>
    rw [List.flatMap_cons, ← List.append_assoc] at hall ⊢
    obtain ⟨htriple, hcovers⟩ := h.relabelTriple row t
      ((List.prefix_append _ _).trans hall)
    obtain ⟨htriples, hcovers'⟩ := ih hcovers hall
    refine ⟨?_, hcovers'⟩
    rw [Construction.instantiate, List.filterMap_cons]
    simp only [htriple, htriples]
    cases t.fill? row (nameOf l all.eraseDups) <;> rfl

/-! ## One row -/

variable {σ : Type} (template : List TriplePattern)

/-- The triples of some patterns for a row, and what is left of the source of labels. -/
theorem triplesOf_spec (row : Row) (s : Session σ) :
    (triplesOf template row s).1 =
        template.filterMap (·.fill? row (nameOf s.labels (blanksOf template))) ∧
      (triplesOf template row s).2.labels =
        s.labels.after (.replicate (blanksOf template).length .fresh) := by
  obtain ⟨htriples, hcovers⟩ :=
    (covers_start s.labels).instantiate row template (List.prefix_refl _)
  rw [List.nil_append] at htriples hcovers
  refine ⟨htriples, ?_⟩
  rw [Labels.after_fresh]
  exact hcovers.labels

/-- The constant patterns have no blank nodes. -/
theorem blanksOf_filter : blanksOf (template.filter (!isConstant ·)) = blanksOf template := by
  refine congrArg List.eraseDups ?_
  induction template with
  | nil => rfl
  | cons t rest ih =>
    cases hconstant : isConstant t with
    | false => rw [List.filter_cons_of_pos (by simpa using hconstant), List.flatMap_cons,
        List.flatMap_cons, ih]
    | true =>
      have hblanks : t.blanks = [] := by
        rcases hpredicate : t.predicate with p | ⟨kind, items⟩
        · rw [TriplePattern.isConstant_eq_isFixed hpredicate, TriplePattern.isFixed,
            Bool.and_eq_true, List.isEmpty_iff, List.isEmpty_iff] at hconstant
          exact hconstant.2
        · simp [TriplePattern.blanks, hpredicate]
      rw [List.filter_cons_of_neg (by simpa using hconstant), List.flatMap_cons, ih, hblanks,
        List.nil_append]

/-- The triples that are handed on first. -/
theorem pending_ofTemplate (source : Stage) :
    (ofTemplate template source).pending = constants template := by
  rw [ofTemplate, constants, List.filterMap_filter, List.filterMap_filter]
  refine List.filterMap_congr fun t _ => ?_
  rcases hpredicate : t.predicate with p | ⟨kind, items⟩
  · have hinstance := TriplePattern.instance?_renameBlank .empty id hpredicate
    simp only [TriplePattern.renameBlank_id, ← hpredicate] at hinstance
    rw [TriplePattern.isConstant_eq_isFixed hpredicate, hinstance]
  · rw [TriplePattern.fill?_of_path hpredicate]
    simp [isConstant, hpredicate, Predicate.plain?]

/-- The triples of the other patterns. -/
theorem filterMap_fill?_filter (row : Row) (name : String → String) :
    (template.filter (!isConstant ·)).filterMap (·.fill? row name) =
      (template.filter (!·.isFixed)).filterMap (·.fill? row name) := by
  rw [List.filterMap_filter, List.filterMap_filter]
  refine List.filterMap_congr fun t _ => ?_
  rcases hpredicate : t.predicate with p | ⟨kind, items⟩
  · rw [TriplePattern.isConstant_eq_isFixed hpredicate]
  · rw [TriplePattern.fill?_of_path hpredicate, ite_self, ite_self]

/-- The triples of a row are those of its filling. -/
theorem triplesOf_filling (row : Row) (s : Session σ) :
    (triplesOf (template.filter (!isConstant ·)) row s).1 =
        Filling.triples template ⟨row, s.labels⟩ ∧
      (triplesOf (template.filter (!isConstant ·)) row s).2.labels =
        Filling.after template ⟨row, s.labels⟩ := by
  obtain ⟨htriples, hlabels⟩ := triplesOf_spec (template.filter (!isConstant ·)) row s
  rw [blanksOf_filter] at htriples hlabels
  rw [filterMap_fill?_filter] at htriples
  exact ⟨htriples, hlabels⟩

namespace Filling

variable {template} {f : Filling} {stem : String}

/-- The new names are numbered one after the other. -/
theorem names_eq : f.names template = (List.range (blanksOf template).length).map fun i =>
    Labels.numbered f.before.stem (f.before.next + i) := by
  have hnodup : (blanksOf template).Nodup := Group.nodup_eraseDups _
  refine List.ext_getElem (by simp [names]) fun i hi hi' => ?_
  simp only [names, name, nameOf, List.getElem_map, List.getElem_range, hnodup.idxOf_getElem]

/-- A new name has a number between those of the source before and after. -/
theorem mem_names {x : String} : x ∈ f.names template ↔
    ∃ n, f.before.next ≤ n ∧ n < (f.after template).next ∧ x = Labels.numbered f.before.stem n := by
  rw [names_eq, List.mem_map, after, Labels.after_fresh]
  simp only [List.mem_range]
  constructor
  · rintro ⟨i, hi, rfl⟩
    exact ⟨f.before.next + i, by omega, by omega, rfl⟩
  · rintro ⟨n, hn, hn', rfl⟩
    exact ⟨n - f.before.next, by omega, by rw [Nat.add_sub_cancel' hn]⟩

/-- The names of a filling are no others that the source ever gives. -/
theorem apart_of_reached (h : ∃ past, f.before = (Labels.new stem).after past) :
    f.Apart template stem := by
  obtain ⟨past, hpast⟩ := h
  have hsound : f.before.Sound := hpast ▸ (Labels.sound_new stem).after past
  have hstem : f.before.stem = stem := by rw [hpast, Labels.stem_after]; rfl
  refine ⟨fun x hx y _ h => nameOf_inj hx h, ?_, ⟨past, hpast⟩, fun past' hpast' x hx hgiven => ?_,
    fun uses x hx => ?_⟩
  · rw [Labels.given_fresh, names_eq]
  · obtain ⟨n, hn, -, rfl⟩ := mem_names.1 hx
    obtain ⟨m, hm, heq⟩ := (Labels.mem_given_iff stem past' _).1 hgiven
    rw [← hpast'] at hm
    rw [hstem] at heq
    have := Labels.numbered_inj heq
    omega
  · obtain ⟨n, hn, hn', rfl⟩ := mem_names.1 hx
    have hafter : (f.after template).Sound := hsound.after _
    have hstem' : (f.after template).stem = f.before.stem := Labels.stem_after _ _
    rw [← hstem']
    refine hafter.not_mem_given hn' (fun hkey => ?_) uses
    -- The labels of keys are those from before.
    rw [after, Labels.after_fresh] at hkey
    obtain ⟨m, hm, heq⟩ := hsound.of_mem hkey
    have := Labels.numbered_inj heq
    omega

end Filling

namespace Chain

variable {template} {l l' : Labels} {fillings : List Filling} {f : Filling}

/-- The source is used after the last row. -/
theorem later (h : Chain template l fillings l') {l'' : Labels} (h' : l'.Later l'') :
    Chain template l fillings l'' := by
  induction h with
  | nil h => exact .nil (h.trans h')
  | cons h _ ih => exact .cons h (ih h')

/-- One more row is filled in. -/
theorem snoc (h : Chain template l fillings f.before) :
    Chain template l (fillings ++ [f]) (f.after template) := by
  generalize hl' : f.before = l' at h
  induction h with
  | nil h => exact .cons (hl' ▸ h) (.nil (.refl _))
  | cons h _ ih => exact .cons h (ih hl')

/-- Each row is filled in at some state that the source comes to. -/
theorem reaches (h : Chain template l fillings l') : ∀ f ∈ fillings, l.Later f.before := by
  induction h with
  | nil h => simp
  | @cons l l' f rest h _ ih =>
    refine List.forall_mem_cons.2 ⟨h, fun g hg => (h.trans ⟨_, rfl⟩).trans (ih g hg)⟩

/-- The names for different rows are different. -/
theorem pairwise (h : Chain template l fillings l') :
    fillings.Pairwise fun f g => ∀ x ∈ f.names template, x ∉ g.names template := by
  induction h with
  | nil h => exact .nil
  | @cons l l' f rest h hrest ih =>
    refine .cons (fun g hg x hx hx' => ?_) ih
    obtain ⟨uses, huses⟩ := hrest.reaches g hg
    obtain ⟨n, hn, hn', rfl⟩ := Filling.mem_names.1 hx
    obtain ⟨m, hm, -, heq⟩ := Filling.mem_names.1 hx'
    have hstem : g.before.stem = f.before.stem := by
      rw [huses, Labels.stem_after, Filling.after, Labels.stem_after]
    rw [hstem] at heq
    have hle : (f.after template).next ≤ g.before.next := huses ▸ Labels.next_le_after _ uses
    have := Labels.numbered_inj heq
    omega

/-- The source counts at least the names of the rows. -/
theorem next_le (h : Chain template l fillings l') :
    l.next + fillings.length * (blanksOf template).length ≤ l'.next := by
  induction h with
  | nil h =>
    obtain ⟨uses, rfl⟩ := h
    simpa using Labels.next_le_after _ uses
  | @cons l l' f rest h _ ih =>
    obtain ⟨uses, huses⟩ := h
    have hle : l.next ≤ f.before.next := huses ▸ Labels.next_le_after _ uses
    rw [Filling.after, Labels.after_fresh] at ih
    rw [List.length_cons, Nat.succ_mul]
    dsimp only at ih
    omega

/-- If the source counts nothing else, the names of the rows are all labels that it counts. -/
theorem mem_names_iff (h : Chain template l fillings l')
    (hfull : l'.next = l.next + fillings.length * (blanksOf template).length) {label : String} :
    (∃ f ∈ fillings, label ∈ f.names template) ↔
      ∃ n, l.next ≤ n ∧ n < l'.next ∧ label = Labels.numbered l.stem n := by
  induction h with
  | nil h =>
    refine iff_of_false (by simp) fun ⟨n, hn, hn', _⟩ => ?_
    rw [hfull, List.length_nil, Nat.zero_mul] at hn'
    omega
  | @cons l l' f rest h hrest ih =>
    obtain ⟨uses, huses⟩ := h
    have hstem : f.before.stem = l.stem := by rw [huses, Labels.stem_after]
    have hle : l.next ≤ f.before.next := huses ▸ Labels.next_le_after _ uses
    have hle' := hrest.next_le
    have hnext : (f.after template).next = f.before.next + (blanksOf template).length := by
      rw [Filling.after, Labels.after_fresh]
    have hstem' : (f.after template).stem = l.stem := by
      rw [Filling.after, Labels.stem_after, hstem]
    -- As many labels were counted as there are names, so none was counted in between.
    rw [List.length_cons, Nat.succ_mul] at hfull
    have hrange := ih (by omega)
    rw [List.exists_mem_cons_iff, Filling.mem_names, hrange, hstem, hstem']
    constructor
    · rintro (⟨n, hn, hn', rfl⟩ | ⟨n, hn, hn', rfl⟩)
      · exact ⟨n, by omega, by omega, rfl⟩
      · exact ⟨n, by omega, hn', rfl⟩
    · rintro ⟨n, hn, hn', rfl⟩
      by_cases hfirst : n < (f.after template).next
      · exact .inl ⟨n, by omega, hfirst, rfl⟩
      · exact .inr ⟨n, by omega, hn', rfl⟩

/-- Rows that are filled in, if the source of labels has given some labels before. -/
theorem fills {stem : String} {past : List LabelUse} (h : Chain template l fillings l')
    (hl : l = (Labels.new stem).after past) :
    Fills template stem l fillings l' where
  chain := h
  apart f hf := by
    obtain ⟨uses, huses⟩ := h.reaches f hf
    exact Filling.apart_of_reached ⟨past ++ uses, by rw [Labels.after_append, ← hl, huses]⟩
  different := h.pairwise

end Chain

end Construction

end PagedSparql
