import PagedSparql.Proofs.Algebra.VisibleSolutions
import PagedSparql.Proofs.Eval.Steady
import PagedSparql.Proofs.Plan.Drawing
import PagedSparql.Proofs.Plan.PathMeaning

/-!
# Resolving paths keeps the counted solutions

A pattern without paths makes of a row the rows that its triple patterns extend it to and that
fulfil its conditions (`PathFree.answers`). If a basic graph pattern with paths was resolved into
it, these are the rows that the pattern joins the row with, as far as variables are concerned that
were not drawn meanwhile (`Paths.map_hide_answers`).

The proof follows the recursion of `Paths.resolve`. What is kept is that the triple patterns that
are ready, those that are still to do and the row have the same join as before; a variable that is
drawn in a step is hidden behind it.
-/

namespace PagedSparql

open scoped RowBag

/-- All conditions are true for the row. -/
def Expression.allTrue (now : DateTime) (conditions : List Expression) (r : Row) : Bool :=
  conditions.all (·.isTrue now r)

/-- Without conditions all rows are left. -/
theorem Expression.filter_allTrue_nil (now : DateTime) (M : Multiset Row) :
    M.filter (allTrue now [] · = true) = M := by
  have hall : (fun r : Row => allTrue now [] r = true) = fun _ => True := by
    simp [allTrue]
  simp only [hall, Multiset.filter_true]

namespace PathFree

mutual

/-- The rows that a pattern makes of a row. -/
def answers (S : Solutions) (now : DateTime) : PathFree → Row → Multiset Row
  | .flat triples conditions, u =>
    (S.extensions triples u).filter (Expression.allTrue now conditions · = true)
  | .split branches conditions, u =>
    (answersEach S now branches u).filter (Expression.allTrue now conditions · = true)

/-- The rows that several patterns make of a row. -/
def answersEach (S : Solutions) (now : DateTime) : List PathFree → Row → Multiset Row
  | [], _ => 0
  | p :: rest, u => p.answers S now u + answersEach S now rest u

end

/-- Further conditions are fulfilled as well. -/
theorem answers_addConditions (S : Solutions) (now : DateTime) (conditions : List Expression)
    (p : PathFree) (u : Row) : (p.addConditions conditions).answers S now u =
      (p.answers S now u).filter (Expression.allTrue now conditions · = true) := by
  have happend : ∀ (rest : List Expression) (M : Multiset Row),
      M.filter (Expression.allTrue now (conditions ++ rest) · = true) =
        (M.filter (Expression.allTrue now rest · = true)).filter
          (Expression.allTrue now conditions · = true) := by
    intro rest M
    rw [Multiset.filter_filter]
    exact Multiset.filter_congr fun r _ => by simp [Expression.allTrue]
  cases p with
  | flat triples rest => exact happend rest _
  | split branches rest => exact happend rest _

end PathFree

namespace Paths

/-! ## Negated sets -/

/-- A variable differs from a term if it is bound to a term that is not equal to it. -/
theorem isTrue_exclusion {now : DateTime} {v : Variable} (hv : v.Direct) {item : Predicate}
    {c : Expression} (h : exclusion v item = .ok c) (r : Row) :
    c.isTrue now r = true ↔
      ∃ t, r.get? v = some t ∧ ∃ t', item = .plain (.term t') ∧ Value.equals t t' = .ok false := by
  unfold exclusion at h
  split at h
  · next t' =>
    obtain rfl := Except.ok.inj h
    rw [Expression.isTrue, Eval.evaluateBool, Eval.evaluate_differs]
    cases hr : r.get? v with
    | none =>
      have hargs : Eval.evaluateAll now r [.leaf (.variable v), .leaf (.term t')] =
          throw (.unbound v) := by
        simp only [Eval.evaluateAll, Eval.evaluate, hv r, hr]
        rfl
      rw [hargs]
      have hrun : ((Eval.truth (throw (EvalError.unbound v) >>= Eval.apply now "!=")).run.run
          EvalState.start).1 = .error (.unbound v) := rfl
      rw [hrun]
      simp [Except.toOption]
    | some t =>
      have hargs : Eval.evaluateAll now r [.leaf (.variable v), .leaf (.term t')] =
          pure [t, t'] := by
        simp [Eval.evaluateAll, Eval.evaluate, hv r, hr]
      have happly : Eval.apply now "!=" [t, t'] =
          Eval.ofExcept (Functions.truth ((Value.equals t t').map (!·))) := rfl
      rw [hargs, pure_bind, happly]
      have hitem : ∀ u : Term, (∃ t'', Predicate.plain (.term t') = .plain (.term t'') ∧
          Value.equals u t'' = .ok false) ↔ Value.equals u t' = .ok false := by
        intro u
        simp
      simp only [Option.some.injEq, exists_eq_left', hitem]
      cases Value.equals t t' with
      | error e =>
        have hrun : ((Eval.truth (Eval.ofExcept (Functions.truth
            ((Except.error e : Except _ Bool).map (!·))))).run.run EvalState.start).1 =
              .error e := rfl
        rw [hrun]
        simp [Except.toOption]
      | ok b =>
        have hrun : ((Eval.truth (Eval.ofExcept (Functions.truth
            ((Except.ok b : Except EvalError Bool).map (!·))))).run.run EvalState.start).1 =
              Value.effectiveBoolean (.boolean (!b)) := rfl
        rw [hrun, Value.effectiveBoolean_boolean]
        cases b <;> simp [Except.toOption]
  · exact absurd h (by simp)

/-- The conditions of a negated set are about the term of its variable. -/
theorem allTrue_exclusions {now : DateTime} {v : Variable} (hv : v.Direct) {items : List Predicate}
    {conditions : List Expression} (h : items.mapM (exclusion v) = .ok conditions) (r : Row) :
    Expression.allTrue now conditions r = true ↔ ∀ item ∈ items, ∃ t, r.get? v = some t ∧
      ∃ t', item = .plain (.term t') ∧ Value.equals t t' = .ok false := by
  induction items generalizing conditions with
  | nil =>
    obtain rfl : [] = conditions := Except.ok.inj h
    simp [Expression.allTrue]
  | cons item rest ih =>
    rw [List.mapM_cons] at h
    obtain ⟨c, hc, h⟩ := bind_inv h
    obtain ⟨cs, hcs, h⟩ := bind_inv h
    obtain rfl := Except.ok.inj h
    have hall : Expression.allTrue now (c :: cs) r =
        (c.isTrue now r && Expression.allTrue now cs r) := List.all_cons
    rw [hall, Bool.and_eq_true, isTrue_exclusion hv hc, ih hcs, List.forall_mem_cons]

/-- The conditions of a negated set say that its variable passes it. -/
theorem allTrue_iff_passes {now : DateTime} {v : Variable} (hv : v.Direct) {items : List Predicate}
    {conditions : List Expression} (h : items.mapM (exclusion v) = .ok conditions) {r : Row}
    (hr : r.binds v = true) :
    Expression.allTrue now conditions r = true ↔ Predicate.Passes v items r := by
  obtain ⟨t, ht⟩ := VariableMap.binds_iff.1 hr
  rw [allTrue_exclusions hv h]
  simp [Predicate.Passes, Predicate.Excludes, ht]

/-- The conditions of a negated set say the same of rows with the same term. -/
theorem allTrue_congr {now : DateTime} {v : Variable} (hv : v.Direct) {items : List Predicate}
    {conditions : List Expression} (h : items.mapM (exclusion v) = .ok conditions) {r r' : Row}
    (hr : r.get? v = r'.get? v) :
    Expression.allTrue now conditions r = Expression.allTrue now conditions r' := by
  rw [Bool.eq_iff_iff, allTrue_exclusions hv h, allTrue_exclusions hv h, hr]

variable {S : Solutions} {V : Set Variable}

/-- The rows for which the conditions of a negated set are true. -/
theorem filter_allTrue_mul {now : DateTime} {v : Variable} (hv : v.Direct) {items : List Predicate}
    {conditions : List Expression} (h : items.mapM (exclusion v) = .ok conditions)
    (s o : TermPattern) (A : Multiset Row) :
    (A * S.of [⟨s, .plain (.variable v), o⟩]).filter (Expression.allTrue now conditions · = true) =
      A * (S.of [⟨s, .plain (.variable v), o⟩]).filter (Predicate.Passes v items) := by
  have hbinds : ∀ m ∈ S.of [⟨s, .plain (.variable v), o⟩], m.binds v = true := fun m hm =>
    (S.binds_iff _ (Bgp.plain_single _ _ _) m hm v).2
      (Bgp.mem_vars_single.2 (.inr (.inl (by simp [TermPattern.var?]))))
  rw [RowBag.filter_mul fun a _ m hm r hr => ?_,
    Multiset.filter_congr fun m hm => allTrue_iff_passes hv h (hbinds m hm)]
  obtain ⟨t, ht⟩ := VariableMap.binds_iff.1 (hbinds m hm)
  have hrm : r.get? v = m.get? v := by
    rw [ht]
    exact (Row.merge_eq_some_iff.1 hr).2.1 v t ht
  rw [allTrue_congr hv h hrm]

/-! ## Sources of variables -/

/-- What a later source has ahead may be hidden before what an earlier one has. -/
theorem map_hide_later {n n' : Naming} (h : n.Later n') (A : Multiset Row) :
    (A.map (Row.hide n'.names.Ahead)).map (Row.hide n.names.Ahead) =
      A.map (Row.hide n.names.Ahead) := by
  obtain ⟨i, rfl⟩ := h
  rw [RowBag.map_hide_hide, Set.union_eq_self_of_subset_left (Names.ahead_after i n.names)]

/-- What is avoided is avoided later. -/
theorem avoids_later {n n' : Naming} (h : n.Later n') (hn : n.names.Avoids V) :
    n'.names.Avoids V := by
  obtain ⟨i, rfl⟩ := h
  exact hn.after i

/-- Nothing is hidden in rows that bind none of the variables ahead. -/
theorem map_hide_ahead {names : Names} {A : Multiset Row} (hA : RowBag.Within A V)
    (hn : names.Avoids V) : A.map (Row.hide names.Ahead) = A :=
  RowBag.map_hide_of_within hA (Names.avoids_iff.1 hn)

/-- In rows that bind only the next variable of those ahead, only that one is hidden. -/
theorem map_hide_fresh {names : Names} {A : Multiset Row}
    (hA : RowBag.Within A (insert names.fresh.1 V)) (hn : names.Avoids V) :
    A.map (Row.hide names.Ahead) = A.map (Row.hide {names.fresh.1}) := by
  have hwithin : RowBag.Within (A.map (Row.hide {names.fresh.1})) V :=
    (hA.hide _).mono fun v hv => hv.1.resolve_left hv.2
  rw [Names.ahead_eq, Set.insert_eq, ← RowBag.map_hide_hide]
  exact map_hide_ahead hwithin (hn.after 1)

/-- Variables ahead that a bag does not bind may be hidden in what it is joined with. -/
theorem map_hide_ahead_mul {names : Names} {A : Multiset Row} (hA : RowBag.Within A V)
    (hn : names.Avoids V) (B : Multiset Row) :
    (A * B).map (Row.hide names.Ahead) = A * B.map (Row.hide names.Ahead) := by
  have hB : RowBag.Within B Set.univ := fun _ _ _ _ => trivial
  rw [RowBag.map_hide_mul hA hB fun v hv hv' => absurd hv (Names.avoids_iff.1 hn v hv'),
    map_hide_ahead hA hn]

/-- The variables of a chain are known when it has been made. -/
theorem vars_chain {object subject : TermPattern} {items : List Predicate}
    (hs : subject.In V) (ho : object.In V) (hitems : ∀ v ∈ Predicate.allVarsEach items, v ∈ V)
    {n : Naming} : ∀ v ∈ Bgp.allVars (chain object subject items n).1,
      v ∈ n.knownAt (chain object subject items n).2 V := by
  induction items generalizing subject n V with
  | nil => exact fun v hv => absurd hv List.not_mem_nil
  | cons item rest ih =>
    obtain ⟨hitem, hrest⟩ := List.forall_mem_append.1 hitems
    cases rest with
    | nil =>
      refine Bgp.forall_mem_allVars_cons.2 ⟨?_, fun v hv => absurd hv List.not_mem_nil⟩
      exact TriplePattern.forall_mem_allVars.2 ⟨hs.mono Naming.subset_knownAt,
        fun v hv => Naming.subset_knownAt (hitem v hv), ho.mono Naming.subset_knownAt⟩
    | cons next rest =>
      let v := n.names.fresh.1
      have hlink : (TermPattern.variable v).In (insert v V) := TermPattern.in_variable (.inl rfl)
      have hlater := later_chain object (.variable v) (next :: rest) n.draw.2
      have hV := Naming.insert_subset_knownAt (V := V) hlater
      have hothers := ih (n := n.draw.2) hlink (ho.insert v) fun w hw => .inr (hrest w hw)
      refine Bgp.forall_mem_allVars_cons.2
        ⟨TriplePattern.forall_mem_allVars.2 ⟨?_, ?_, hlink.mono hV⟩, ?_⟩
      · exact hs.mono Naming.subset_knownAt
      · exact fun w hw => Naming.subset_knownAt (hitem w hw)
      · exact fun w hw => Naming.knownAt_draw hlater (hothers w hw)

/-- A chain has the solutions of its sequence, without its links. -/
theorem map_hide_bag_chain {object subject : TermPattern} {items : List Predicate}
    (hs : subject.In V) (ho : object.In V) (hitems : ∀ v ∈ Predicate.allVarsEach items, v ∈ V)
    {n : Naming} (hn : n.names.Avoids V) {m : Naming}
    (hm : (chain object subject items n).2.Later m) :
    (Bgp.bag S m.names (chain object subject items n).1).map (Row.hide n.names.Ahead) =
      Predicate.bagAlong S items n.names subject object := by
  induction items generalizing subject n V with
  | nil =>
    exact map_hide_ahead RowBag.within_one hn
  | cons item rest ih =>
    obtain ⟨hitem, hrest⟩ := List.forall_mem_append.1 hitems
    cases rest with
    | nil =>
      have hsingle : Bgp.bag S m.names [⟨subject, item, object⟩] =
          item.bag S n.names subject object := by
        rw [Bgp.bag_cons]
        show TriplePattern.bag S m.names _ * 1 = _
        rw [mul_one]
        exact Predicate.bag_congr item (avoids_later hm hn) hn hs ho hitem
      show (Bgp.bag S m.names [⟨subject, item, object⟩]).map _ = _
      rw [hsingle, Predicate.bagAlong,
        map_hide_ahead (Predicate.within_bag item hs ho hitem) hn]
    | cons next rest =>
      -- the variable that links the first item to the rest of the chain
      let v := n.names.fresh.1
      have hlink : (TermPattern.variable v).In (insert v V) := TermPattern.in_variable (.inl rfl)
      have hn₁ : n.draw.2.names.Avoids (insert v V) := hn.fresh
      have hlater : n.draw.2.Later m := (later_chain object (.variable v) _ n.draw.2).trans hm
      have hothers := ih hlink (ho.insert v) (fun w hw => .inr (hrest w hw)) hn₁ hm
      have hfirst : TriplePattern.bag S m.names ⟨subject, item, .variable v⟩ =
          item.bag S n.draw.2.names subject (.variable v) :=
        Predicate.bag_congr item (avoids_later hlater hn₁) hn₁ (hs.insert v) hlink
          fun w hw => .inr (hitem w hw)
      have hwithin : RowBag.Within (item.bag S n.draw.2.names subject (.variable v))
          (insert v V) :=
        Predicate.within_bag item (hs.insert v) hlink fun w hw => .inr (hitem w hw)
      show (Bgp.bag S m.names (⟨subject, item, .variable v⟩ ::
        (chain object (.variable v) (next :: rest) n.draw.2).1)).map _ = _
      rw [Bgp.bag_cons, hfirst, ← map_hide_later (Naming.later_draw n),
        map_hide_ahead_mul hwithin hn₁, hothers, Predicate.bagAlong]
      exact map_hide_fresh (hwithin.mul (Predicate.within_bagAlong _ hlink (ho.insert v)
        fun w hw => .inr (hrest w hw))) hn

/-! ## Resolving -/

/-- A row and the triple patterns that are ready have only variables that the source avoids. -/
structure Known (V : Set Variable) (n : Naming) (u : Row) (ready : Bgp) : Prop where
  /-- The patterns that are ready have no paths. -/
  plain : ready.Plain
  /-- Their variables are known. -/
  vars : ∀ v ∈ ready.vars, v ∈ V
  /-- The variables of the row are known. -/
  row : ∀ v, u.binds v = true → v ∈ V
  /-- The source avoids what is known. -/
  avoids : n.names.Avoids V

namespace Known

variable {n n' : Naming} {u : Row} {ready : Bgp}

/-- What is known stays known. -/
theorem later (h : Known V n u ready) (hn : n.Later n') : Known V n' u ready :=
  { h with avoids := avoids_later hn h.avoids }

/-- What was drawn in between is known then. -/
theorem knownAt (h : Known V n u ready) (hn : n.Later n') :
    Known (n.knownAt n' V) n' u ready where
  plain := h.plain
  vars v hv := Naming.subset_knownAt (h.vars v hv)
  row v hv := Naming.subset_knownAt (h.row v hv)
  avoids := Naming.avoids_knownAt hn h.avoids

/-- A further triple pattern is ready. -/
theorem snoc (h : Known V n u ready) {s p o : TermPattern} (hs : s.In V) (hp : p.In V)
    (ho : o.In V) : Known V n u (ready ++ [⟨s, .plain p, o⟩]) where
  plain := List.forall_mem_append.2 ⟨h.plain, Bgp.plain_single s p o⟩
  vars v hv := by
    rw [Bgp.vars, List.flatMap_append, List.mem_append] at hv
    refine hv.elim (h.vars v) fun hv => ?_
    exact (Bgp.mem_vars_single.1 hv).elim (hs v) (·.elim (hp v) (ho v))
  row := h.row
  avoids := h.avoids

/-- A variable is drawn. -/
theorem draw (h : Known V n u ready) : Known (insert n.names.fresh.1 V) n.draw.2 u ready where
  plain := h.plain
  vars v hv := .inr (h.vars v hv)
  row v hv := .inr (h.row v hv)
  avoids := h.avoids.fresh

/-- The join of the row and the patterns that are ready binds only what is known. -/
theorem within (h : Known V n u ready) : RowBag.Within ({u} * S.of ready) V :=
  RowBag.Within.mul (fun _ hr => Multiset.mem_singleton.1 hr ▸ h.row) (S.within_of h.plain h.vars)

/-- Nothing of such a join is hidden. -/
theorem map_hide (h : Known V n u ready) (A : Multiset Row) :
    ({u} * (S.of ready * A)).map (Row.hide n.names.Ahead) =
      {u} * (S.of ready * A.map (Row.hide n.names.Ahead)) := by
  rw [← mul_assoc, ← mul_assoc, map_hide_ahead_mul h.within h.avoids]

end Known

/-- What a negated set makes of a row follows from what the variable in its place does. -/
theorem map_hide_answers_negated (hS : S.Coherent) {now : DateTime} {n : Naming} {u : Row}
    {ready rest : Bgp} {subject object : TermPattern} {items : List Predicate} {q : PathFree}
    {conditions : List Expression} (h : items.mapM (exclusion n.draw.1) = .ok conditions)
    (hknown : Known V n u ready) (hs : subject.In V) (ho : object.In V)
    (hrest : ∀ v ∈ Bgp.allVars rest, v ∈ V)
    (hq : (q.answers S now u).map (Row.hide n.draw.2.names.Ahead) =
      {u} * (S.of (ready ++ [⟨subject, .plain (.variable n.draw.1), object⟩]) *
        Bgp.bag S n.draw.2.names rest)) :
    ((q.addConditions conditions).answers S now u).map (Row.hide n.names.Ahead) =
      {u} * (S.of ready *
        Bgp.bag S n.names (⟨subject, .path .negated items, object⟩ :: rest)) := by
  have hv : (n.draw.1).Direct := direct_draw n
  -- The conditions do not look at what is drawn from now on.
  have hunseen : ∀ r : Row,
      Expression.allTrue now conditions (r.hide n.draw.2.names.Ahead) =
        Expression.allTrue now conditions r := fun r => by
    refine allTrue_congr hv h (Option.ext fun t => ?_)
    rw [Row.get?_hide_eq_some_iff]
    exact and_iff_right (Names.avoids_iff.1 hknown.avoids.fresh _ (.inl rfl))
  have hfilter : ((q.answers S now u).filter (Expression.allTrue now conditions · = true)).map
      (Row.hide n.draw.2.names.Ahead) =
        ((q.answers S now u).map (Row.hide n.draw.2.names.Ahead)).filter
          (Expression.allTrue now conditions · = true) :=
    RowBag.map_filter fun r _ => by rw [hunseen]
  have hlink : (TermPattern.variable n.draw.1).In (insert n.names.fresh.1 V) :=
    TermPattern.in_variable (.inl rfl)
  have hedge : RowBag.Within ((S.of [⟨subject, .plain (.variable n.draw.1), object⟩]).filter
      (Predicate.Passes n.draw.1 items)) (insert n.names.fresh.1 V) := fun r hr =>
    S.within_of (Bgp.plain_single _ _ _) (fun w hw => (Bgp.mem_vars_single.1 hw).elim
      (hs.insert _ w) (·.elim (hlink w) (ho.insert _ w))) r (Multiset.mem_of_mem_filter hr)
  have hsame : Bgp.bag S n.draw.2.names rest = Bgp.bag S n.names rest :=
    Bgp.bag_congr (hknown.avoids.after 1) hknown.avoids hrest
  have hjoin : RowBag.Within ({u} * S.of ready * Bgp.bag S n.names rest) V :=
    hknown.within.mul (Bgp.within_bag hrest)
  calc ((q.addConditions conditions).answers S now u).map (Row.hide n.names.Ahead)
    _ = ((({u} * (S.of (ready ++ [⟨subject, .plain (.variable n.draw.1), object⟩]) *
          Bgp.bag S n.draw.2.names rest)).filter
            (Expression.allTrue now conditions · = true))).map (Row.hide n.names.Ahead) := by
      rw [PathFree.answers_addConditions, ← map_hide_later (Naming.later_draw n), hfilter, hq]
    _ = ({u} * S.of ready * Bgp.bag S n.names rest *
          (S.of [⟨subject, .plain (.variable n.draw.1), object⟩]).filter
            (Predicate.Passes n.draw.1 items)).map (Row.hide n.names.Ahead) := by
      rw [hS.append _ _ hknown.plain (Bgp.plain_single _ _ _), hsame,
        ← filter_allTrue_mul hv h]
      exact congrArg _ (congrArg _ (by ring))
    _ = {u} * (S.of ready *
          Bgp.bag S n.names (⟨subject, .path .negated items, object⟩ :: rest)) := by
      rw [map_hide_ahead_mul hjoin hknown.avoids, map_hide_fresh hedge hknown.avoids, Bgp.bag_cons,
        mul_assoc, mul_assoc, mul_comm (Bgp.bag S n.names rest)]
      rfl

/-- **Resolving keeps the counted solutions.** What a resolved pattern makes of a row is the join of
the row with the solutions of the patterns that were ready and of those that were still to do. -/
theorem map_hide_answers (hS : S.Coherent) (now : DateTime) {ready todo : Bgp} {n n' : Naming}
    {p : PathFree} (h : resolve ready todo n = .ok (p, n')) :
      ∀ (u : Row) (V : Set Variable), Known V n u ready → (∀ v ∈ Bgp.allVars todo, v ∈ V) →
        (p.answers S now u).map (Row.hide n.names.Ahead) =
          {u} * (S.of ready * Bgp.bag S n.names todo) := by
  refine resolve_ok_induct
    (P := fun ready todo n p _ => ∀ (u : Row) (V : Set Variable), Known V n u ready →
      (∀ v ∈ Bgp.allVars todo, v ∈ V) →
        (p.answers S now u).map (Row.hide n.names.Ahead) =
          {u} * (S.of ready * Bgp.bag S n.names todo))
    (E := fun ready subject object rest items n ps _ => ∀ (u : Row) (V : Set Variable),
      Known V n u ready → subject.In V → object.In V →
        (∀ v ∈ Predicate.allVarsEach items, v ∈ V) → (∀ v ∈ Bgp.allVars rest, v ∈ V) →
        (PathFree.answersEach S now ps u).map (Row.hide n.names.Ahead) =
          {u} * (S.of ready * (Predicate.bagByOne S items n.names subject object *
            Bgp.bag S n.names rest)))
    ?done ?plain ?sequence ?inverse ?negated ?alternative ?noBranch ?branch h
  case done =>
    intro ready n u V hknown _
    show ((S.extensions ready u).filter _).map _ = {u} * (S.of ready * 1)
    rw [Expression.filter_allTrue_nil, hS.extensions_eq hknown.plain,
      map_hide_ahead hknown.within hknown.avoids, mul_one]
  case plain =>
    intro ready n subject q object rest p n' ih u V hknown htodo
    obtain ⟨ht, hrest⟩ := Bgp.forall_mem_allVars_cons.1 htodo
    obtain ⟨hs, hq, ho⟩ := TriplePattern.forall_mem_allVars.1 ht
    have hready := hknown.snoc hs hq ho
    rw [ih u V hready hrest, hS.append _ _ hknown.plain (Bgp.plain_single _ _ _), mul_assoc,
      Bgp.bag_cons]
    rfl
  case sequence =>
    intro ready n subject items object rest p n' _ ih u V hknown htodo
    obtain ⟨ht, hrest⟩ := Bgp.forall_mem_allVars_cons.1 htodo
    obtain ⟨hs, hitems, ho⟩ := TriplePattern.forall_mem_allVars.1 ht
    have hlater := later_chain object subject items n
    have hknown' := hknown.knownAt hlater
    have hchain : ∀ v ∈ Bgp.allVars ((chain object subject items n).1 ++ rest),
        v ∈ n.knownAt (chain object subject items n).2 V :=
      Bgp.forall_mem_allVars_append.2 ⟨vars_chain hs ho hitems,
        fun v hv => Naming.subset_knownAt (hrest v hv)⟩
    have hsame := Bgp.bag_congr (S := S) (avoids_later hlater hknown.avoids) hknown.avoids hrest
    rw [← map_hide_later hlater, ih u _ hknown' hchain, hknown.map_hide, Bgp.bag_append,
      hsame, mul_comm (Bgp.bag S _ _), map_hide_ahead_mul (Bgp.within_bag hrest) hknown.avoids,
      map_hide_bag_chain hs ho hitems hknown.avoids (.refl _), mul_comm (Bgp.bag S n.names rest),
      Bgp.bag_cons]
    rfl
  case inverse =>
    intro ready n subject item object rest p n' ih u V hknown htodo
    obtain ⟨ht, hrest⟩ := Bgp.forall_mem_allVars_cons.1 htodo
    obtain ⟨hs, hitem, ho⟩ := TriplePattern.forall_mem_allVars.1 ht
    have hturned : ∀ v ∈ Bgp.allVars (⟨object, item, subject⟩ :: rest), v ∈ V :=
      Bgp.forall_mem_allVars_cons.2 ⟨TriplePattern.forall_mem_allVars.2
        ⟨ho, fun v hv => hitem v (List.mem_append_left _ hv), hs⟩, hrest⟩
    rw [ih u V hknown hturned, Bgp.bag_cons, Bgp.bag_cons]
    rfl
  case negated =>
    intro ready n subject items object rest conditions p n' hconditions _ ih u V hknown htodo
    obtain ⟨ht, hrest⟩ := Bgp.forall_mem_allVars_cons.1 htodo
    obtain ⟨hs, -, ho⟩ : subject.In V ∧ _ ∧ object.In V := TriplePattern.forall_mem_allVars.1 ht
    have hlink : (TermPattern.variable n.draw.1).In (insert n.names.fresh.1 V) :=
      TermPattern.in_variable (.inl rfl)
    exact map_hide_answers_negated hS hconditions hknown hs ho hrest
      (ih u _ (hknown.draw.snoc (hs.insert _) hlink (ho.insert _)) fun w hw =>
        .inr (hrest w hw))
  case alternative =>
    intro ready n subject items object rest ps n' ih u V hknown htodo
    obtain ⟨ht, hrest⟩ := Bgp.forall_mem_allVars_cons.1 htodo
    obtain ⟨hs, hitems, ho⟩ := TriplePattern.forall_mem_allVars.1 ht
    show ((PathFree.answersEach S now ps u).filter _).map _ = _
    rw [Expression.filter_allTrue_nil, ih u V hknown hs ho hitems hrest, Bgp.bag_cons]
    rfl
  case noBranch =>
    intro ready n subject object rest u V _ _ _ _ _
    rw [PathFree.answersEach, Predicate.bagByOne, zero_mul, mul_zero, mul_zero]
    rfl
  case branch =>
    intro ready n subject object rest item items p n₁ ps n' h ih _ ihs u V hknown hs ho hitems hrest
    obtain ⟨hitem, hitems⟩ := List.forall_mem_append.1 hitems
    have hlater := later_resolve h
    have hothers : Predicate.bagByOne S items n₁.names subject object =
        Predicate.bagByOne S items n.names subject object :=
      Predicate.bag_congr (.path .alternative items) (avoids_later hlater hknown.avoids)
        hknown.avoids hs ho hitems
    have hwithin : RowBag.Within (Predicate.bagByOne S items n.names subject object *
        Bgp.bag S n.names rest) V :=
      (Predicate.within_bagByOne items hs ho hitems).mul (Bgp.within_bag hrest)
    have hfirst : ∀ v ∈ Bgp.allVars (⟨subject, item, object⟩ :: rest), v ∈ V :=
      Bgp.forall_mem_allVars_cons.2 ⟨TriplePattern.forall_mem_allVars.2 ⟨hs, hitem, ho⟩, hrest⟩
    rw [PathFree.answersEach, Multiset.map_add, ih u V hknown hfirst,
      ← map_hide_later hlater, ihs u V (hknown.later hlater) hs ho hitems hrest,
      hothers, Bgp.bag_congr (avoids_later hlater hknown.avoids) hknown.avoids hrest,
      hknown.map_hide, map_hide_ahead hwithin hknown.avoids, Bgp.bag_cons, Predicate.bagByOne,
      add_mul, mul_add, mul_add]
    rfl

end Paths

end PagedSparql
