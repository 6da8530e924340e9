import PagedSparql.Proofs.Algebra.Modifiers
import PagedSparql.Proofs.Algebra.Variables

/-!
# Gathered aggregates

Each part of a modifier takes the aggregates in it into the waiting ones, and each position that has
one refers to its variable from then on (`Lifting.Takes`). That the variables stay different rests on
those of the columns still to come, and on the source, which avoids them all (`Lifting.Sound`).

So lifting keeps the modifiers of a query, with variables in the place of their outermost
aggregates, and adds to the grouping below what these variables stand for
(`Algebra.liftAggregates_gathers`).
-/

namespace PagedSparql.Lifting

variable {α β γ : Type} {a : Aggregate} {l : Lifter} {V : Set Variable}
  {known ahead : List AggregateBinding}

/-! ## Variables that stay different -/

/-- The variables of waiting aggregates are different, from each other and from those of the columns
that are still to come, and so will the next ones be. Each is that of a column of the query, or is
no variable of the query. -/
structure Sound (V : Set Variable) (known : List AggregateBinding) (l : Lifter)
    (ahead : List AggregateBinding) : Prop where
  /-- No variable stands for two aggregates. -/
  distinct : ((l.waiting ++ ahead).map (·.target)).Nodup
  /-- The source avoids the query and what is waiting. -/
  avoids : l.naming.names.Avoids (V ∪ {v | v ∈ l.waiting.map (·.target)})
  /-- The columns to come are columns of the query. -/
  ahead_subset : ahead ⊆ known
  /-- The names of the columns are variables of the query. -/
  known_mem : ∀ b ∈ known, b.target ∈ V
  /-- What is waiting was a column, or has a variable of its own. -/
  origin : ∀ b ∈ l.waiting, b ∈ known ∨ b.target ∉ V

/-- An aggregate that is waiting already is passed over. -/
theorem Sound.skip {passed : List AggregateBinding} (h : Sound V known l (passed ++ ahead)) :
    Sound V known l ahead where
  distinct := h.distinct.sublist
    (((List.sublist_append_right passed ahead).append_left l.waiting).map _)
  avoids := h.avoids
  ahead_subset := List.Subset.trans (List.subset_append_right passed ahead) h.ahead_subset
  known_mem := h.known_mem
  origin := h.origin

/-- The aggregate of a column waits under the name of the column. -/
theorem Sound.wait {b : AggregateBinding} (h : Sound V known l (b :: ahead)) :
    Sound V known { l with waiting := l.waiting ++ [b] } ahead where
  distinct := by
    rw [List.append_assoc]
    exact h.distinct
  avoids := by
    -- The source avoids the name already, as the query has it.
    have hb : b.target ∈ V := h.known_mem b (h.ahead_subset List.mem_cons_self)
    refine h.avoids.mono (Set.union_subset Set.subset_union_left fun v hv => ?_)
    obtain hv | hv := by simpa using hv
    · exact .inr (by simpa using hv)
    · exact .inl (hv ▸ hb)
  ahead_subset := List.Subset.trans (List.subset_cons_self b ahead) h.ahead_subset
  known_mem := h.known_mem
  origin := List.forall_mem_append.2
    ⟨h.origin, List.forall_mem_singleton.2 (.inl (h.ahead_subset List.mem_cons_self))⟩

/-- An aggregate without a name waits under a fresh one. -/
theorem Sound.draw (h : Sound V known l ahead) (a : Aggregate) :
    Sound V known ⟨l.waiting ++ [⟨l.naming.draw.1, a⟩], l.naming.draw.2⟩ ahead where
  distinct := by
    have hfresh : l.naming.draw.1 ∉ (l.waiting ++ ahead).map (·.target) := by
      intro hmem
      rw [List.map_append, List.mem_append] at hmem
      refine Naming.draw_not_mem h.avoids (hmem.symm.imp (fun hmem => ?_) id)
      obtain ⟨b, hb, heq⟩ := List.mem_map.1 hmem
      exact heq ▸ h.known_mem b (h.ahead_subset hb)
    have hdistinct := List.nodup_cons.2 ⟨hfresh, h.distinct⟩
    rw [List.map_append] at hdistinct
    simpa using List.nodup_middle.2 hdistinct
  avoids := by
    refine (Naming.avoids_draw h.avoids).mono fun v hv => ?_
    simpa [or_comm, or_assoc, or_left_comm] using hv
  ahead_subset := h.ahead_subset
  known_mem := h.known_mem
  origin := List.forall_mem_append.2
    ⟨h.origin, List.forall_mem_singleton.2
      (.inr fun hmem => Naming.draw_not_mem h.avoids (.inl hmem))⟩

/-! ## Aggregates that are taken -/

/-- A step takes the aggregates of a part into the waiting ones, those that are columns under their
names, and leaves what the variables of the aggregates make of the part. -/
structure Takes (aggregates : List Aggregate) (columns : List AggregateBinding)
    (named : (Aggregate → Variable) → α) (l : Lifter) (r : α × Lifter) : Prop where
  /-- What was waiting goes on to wait. -/
  grows : l.waiting <+: r.2.waiting
  /-- The aggregates wait, and no others that did not. -/
  mem_waiting : ∀ a, a ∈ r.2.waiting.map (·.aggregate) ↔
    a ∈ l.waiting.map (·.aggregate) ∨ a ∈ aggregates
  /-- No aggregate waits twice. -/
  nodup : (l.waiting.map (·.aggregate)).Nodup → (r.2.waiting.map (·.aggregate)).Nodup
  /-- The part refers to the variables under which they wait. -/
  result : ∀ name, (∀ b ∈ r.2.waiting, name b.aggregate = b.target) → r.1 = named name
  /-- The variables stay different. -/
  sound : ∀ {V known ahead}, Sound V known l (columns ++ ahead) → Sound V known r.2 ahead

/-- An aggregate waits already, or is put behind those that do, under the wanted name or under a
fresh one. -/
theorem bind_cases (a : Aggregate) (wanted? : Option Variable) (l : Lifter) :
    (∃ b ∈ l.waiting, b.aggregate = a ∧ bind a wanted? l = (b.target, l)) ∨
      a ∉ l.waiting.map (·.aggregate) ∧
        ((∃ v, wanted? = some v ∧
            bind a wanted? l = (v, { l with waiting := l.waiting ++ [⟨v, a⟩] })) ∨
          wanted? = none ∧ bind a wanted? l =
            (l.naming.draw.1, ⟨l.waiting ++ [⟨l.naming.draw.1, a⟩], l.naming.draw.2⟩)) := by
  unfold bind
  cases hfind : l.waiting.find? (·.aggregate = a) with
  | some b =>
    exact .inl ⟨b, List.mem_of_find?_eq_some hfind, by simpa using List.find?_some hfind, rfl⟩
  | none =>
    refine .inr ⟨by simpa using hfind, ?_⟩
    cases wanted? with
    | some v => exact .inl ⟨v, rfl, rfl⟩
    | none => exact .inr ⟨rfl, rfl⟩

/-- An aggregate that is not waiting is put behind those that are. -/
theorem takes_new {columns : List AggregateBinding} {v : Variable} {n : Naming}
    (hnew : a ∉ l.waiting.map (·.aggregate))
    (hsound : ∀ {V known ahead}, Sound V known l (columns ++ ahead) →
      Sound V known ⟨l.waiting ++ [⟨v, a⟩], n⟩ ahead) :
    Takes [a] columns (fun name => name a) l (v, ⟨l.waiting ++ [⟨v, a⟩], n⟩) where
  grows := List.prefix_append _ _
  mem_waiting c := by simp
  nodup h := by
    rw [List.map_append]
    refine List.nodup_append.2 ⟨h, List.nodup_singleton _, fun c hc d hd heq => hnew ?_⟩
    obtain rfl := List.mem_singleton.1 hd
    exact heq ▸ hc
  result name hname := (hname ⟨v, a⟩ (by simp)).symm
  sound := hsound

/-- An aggregate is taken, and its variable is what results. -/
theorem takes_bind (a : Aggregate) (wanted? : Option Variable) (l : Lifter) :
    Takes [a] (wanted?.toList.map fun v => ⟨v, a⟩) (fun name => name a) l (bind a wanted? l) := by
  obtain ⟨b, hb, rfl, heq⟩ | ⟨hnew, ⟨v, rfl, heq⟩ | ⟨rfl, heq⟩⟩ := bind_cases a wanted? l
  · rw [heq]
    exact {
      grows := List.prefix_rfl
      mem_waiting := fun c => by
        refine ⟨.inl, fun h => h.elim id fun hc => ?_⟩
        exact List.mem_singleton.1 hc ▸ List.mem_map_of_mem hb
      nodup := id
      result := fun name hname => (hname b hb).symm
      sound := Sound.skip }
  · rw [heq]
    exact takes_new hnew Sound.wait
  · rw [heq]
    exact takes_new hnew fun h => h.draw a

variable {as bs : List Aggregate} {cs ds : List AggregateBinding} {r : α × Lifter}
  {named : (Aggregate → Variable) → α}

/-- A part without aggregates stays as it is. -/
theorem takes_nothing (x : α) (l : Lifter) : Takes [] [] (fun _ => x) l (x, l) where
  grows := List.prefix_rfl
  mem_waiting a := by simp
  nodup := id
  result _ _ := rfl
  sound h := h

/-- What results is a part of something else. -/
theorem Takes.map (h : Takes as cs named l r) (f : α → β) :
    Takes as cs (fun name => f (named name)) l (f r.1, r.2) where
  grows := h.grows
  mem_waiting := h.mem_waiting
  nodup := h.nodup
  result name hname := congrArg f (h.result name hname)
  sound := h.sound

/-- One part after the other. -/
theorem Takes.cons {r' : List α × Lifter} {named' : (Aggregate → Variable) → List α}
    (h : Takes as cs named l r) (h' : Takes bs ds named' r.2 r') :
    Takes (as ++ bs) (cs ++ ds) (fun name => named name :: named' name) l
      (r.1 :: r'.1, r'.2) where
  grows := h.grows.trans h'.grows
  mem_waiting a := by rw [h'.mem_waiting, h.mem_waiting, List.mem_append, or_assoc]
  nodup hnodup := h'.nodup (h.nodup hnodup)
  result name hname := by
    have hfirst : r.1 = named name := h.result name fun b hb => hname b (h'.grows.subset hb)
    rw [hfirst, h'.result name hname]
  sound hsound := h'.sound (h.sound (by rwa [← List.append_assoc]))

mutual

/-- The outermost aggregates of an expression are taken. -/
theorem takes_replace : (e : Expression) → (l : Lifter) →
    Takes e.aggregates [] e.named l (replace e l)
  | .leaf p, l => by
    rw [replace, Expression.aggregates]
    exact takes_nothing _ l
  | .call operator args, l => by
    rw [replace, Expression.aggregates]
    exact (takes_replaceAll args l).map (Expression.call operator)
  | .aggregate function distinct argument separator, l => by
    rw [replace, Expression.aggregates]
    exact (takes_bind ⟨function, distinct, argument, separator⟩ none l).map fun v =>
      Expression.leaf (.variable v)

/-- The outermost aggregates of several expressions are taken. -/
theorem takes_replaceAll : (es : List Expression) → (l : Lifter) →
    Takes (Expression.allAggregates es) [] (Expression.allNamed · es) l (replaceAll es l)
  | [], l => by
    rw [replaceAll, Expression.allAggregates]
    exact takes_nothing _ l
  | e :: rest, l => by
    rw [replaceAll, Expression.allAggregates]
    exact (takes_replace e l).cons (takes_replaceAll rest _)

end

/-- The outermost aggregates of a column are taken, one that is the column under its name. -/
theorem takes_liftColumn (c : Column) (l : Lifter) :
    Takes c.aggregates c.binding?.toList c.named l (liftColumn c l) := by
  cases c with
  | «variable» v => exact takes_nothing _ l
  | expression e v =>
    cases e with
    | aggregate function distinct argument separator =>
      let a : Aggregate := ⟨function, distinct, argument, separator⟩
      have hnamed : (Column.expression a.toExpression v).named = fun name =>
          if name a = v then .variable v else .expression (.leaf (.variable (name a))) v := by
        funext name
        simp [Column.named, Aggregate.toExpression, Expression.aggregate?, Expression.named, a]
      have htakes := (takes_bind a (some v) l).map fun bound =>
        if bound = v then Column.variable v else .expression (.leaf (.variable bound)) v
      rw [← hnamed] at htakes
      exact htakes
    | leaf p => exact (takes_replace (.leaf p) l).map fun e => Column.expression e v
    | call operator args =>
      exact (takes_replace (.call operator args) l).map fun e => Column.expression e v

/-- The outermost aggregates of columns are taken. -/
theorem takes_liftColumns (columns : List Column) (l : Lifter) :
    Takes (columns.flatMap Column.aggregates) (columns.flatMap fun c => c.binding?.toList)
      (fun name => columns.map (Column.named name)) l (liftColumns columns l) := by
  induction columns generalizing l with
  | nil => exact takes_nothing _ l
  | cons c rest ih => exact (takes_liftColumn c l).cons (ih _)

/-- The outermost aggregates of sort keys are taken. -/
theorem takes_liftConditions (conditions : List OrderCondition) (l : Lifter) :
    Takes (conditions.flatMap fun c => c.expression.aggregates) []
      (fun name => conditions.map (OrderCondition.named name)) l (liftConditions conditions l) := by
  induction conditions generalizing l with
  | nil => exact takes_nothing _ l
  | cons c rest ih =>
    have hfirst := (takes_replace c.expression l).map fun e => { c with expression := e }
    exact hfirst.cons (ih _)

/-- The outermost aggregates of a modifier are taken. -/
theorem takes_liftModifier (m : Modifier) (l : Lifter) :
    Takes m.aggregates m.bindings m.named l (liftModifier m l) := by
  cases m with
  | slice offset limit => exact takes_nothing _ l
  | distinct => exact takes_nothing _ l
  | project columns => exact (takes_liftColumns columns l).map Modifier.project
  | orderBy conditions => exact (takes_liftConditions conditions l).map Modifier.orderBy
  | having condition => exact (takes_replace condition l).map Modifier.having

/-- The outermost aggregates of modifiers are taken. -/
theorem takes_liftModifiers (ms : List Modifier) (l : Lifter) :
    Takes (ms.flatMap Modifier.aggregates) (ms.flatMap Modifier.bindings)
      (fun name => ms.map (Modifier.named name)) l (liftModifiers ms l) := by
  induction ms generalizing l with
  | nil => exact takes_nothing _ l
  | cons m rest ih => exact (takes_liftModifier m l).cons (ih _)

/-- A modifier draws variables for its aggregates. -/
theorem later_liftModifiers (ms : List Modifier) (l : Lifter) :
    l.naming.Later (liftModifiers ms l).2.naming := by
  induction ms generalizing l with
  | nil => exact .refl _
  | cons m rest ih =>
    have hfirst : l.naming.Later (liftModifier m l).2.naming := by
      cases m with
      | slice _ _ => exact .refl _
      | distinct => exact .refl _
      | project columns => exact later_liftColumns columns l
      | orderBy conditions => exact later_liftConditions conditions l
      | having condition => exact later_replace condition l
    exact hfirst.trans (ih _)

end PagedSparql.Lifting

namespace PagedSparql.Algebra

open Lifting

variable {a : Algebra} {n : Naming} {name : Aggregate → Variable} {added : List AggregateBinding}

/-! ## Lifted queries -/

/-- No grouping stands right below the modifiers at the top of the query. -/
def IsUngrouped (a : Algebra) : Prop := ∀ input keys own, a.core ≠ .groupBy input keys own

/-- Lifting adds the aggregates at the top of the query to its grouping, with variables that take
their places. -/
structure Gathers (a : Algebra) (n : Naming) (name : Aggregate → Variable)
    (added : List AggregateBinding) : Prop where
  /-- The modifiers stay, with variables in the place of their outermost aggregates. -/
  modifiers : (a.liftAggregates n).1.modifiers = a.modifiers.map (Modifier.named name)
  /-- Just the outermost aggregates are added, each with its variable. -/
  mem_added : ∀ b, b ∈ added ↔ b.aggregate ∈ a.aggregates ∧ b.target = name b.aggregate
  /-- Each of them is added once. -/
  nodup : (added.map (·.aggregate)).Nodup
  /-- A grouping keeps its keys, and its own aggregates in front. -/
  grouped : ∀ input keys own, a.core = .groupBy input keys own → ∃ n', n.Later n' ∧
    (a.liftAggregates n).1.core = .groupBy (input.liftAggregates n').1 keys (own ++ added)
  /-- Without a grouping and without aggregates there is no grouping either. -/
  bare : a.IsUngrouped → a.aggregates = [] → ∃ n', n.Later n' ∧
    (a.liftAggregates n).1.core = (a.core.liftAggregates n').1
  /-- Otherwise one group of all rows is put right above the pattern. -/
  inserted : a.IsUngrouped → a.aggregates ≠ [] → ∃ n', n.Later n' ∧
    (a.liftAggregates n).1.core = .groupBy (a.core.liftAggregates n').1 [] added

/-- A node that modifies no other one is lifted alone to one that modifies no other one. -/
theorem input?_liftAggregates (h : a.input? = none) (n : Naming) :
    (a.liftAggregates n).1.input? = none := by
  have hlifts : LiftsAlone a (a.liftAggregates n).1 := ⟨n, rfl⟩
  cases hinput : (a.liftAggregates n).1.input? with
  | none => rfl
  | some b =>
    obtain ⟨b', hb', -⟩ := hlifts.of_input hinput
    exact absurd (h.symm.trans hb') (by simp)

/-- What is below the modifiers of a query is lifted to something without modifiers. -/
theorem modifiers_lift_core (a : Algebra) (l : Lifter) :
    (lift a.core l).1.modifiers = [] ∧ (lift a.core l).1.core = (lift a.core l).1 := by
  obtain ⟨input, keys, own, hcore⟩ | hinput := core_cases a
  · rw [hcore]
    exact ⟨rfl, rfl⟩
  · rw [lift_eq hinput, close]
    split
    · exact modifiers_of_input? (input?_liftAggregates hinput l.naming)
    · exact ⟨rfl, rfl⟩

/-- What is below the modifiers of an ungrouped query modifies no other node. -/
theorem IsUngrouped.input? (h : a.IsUngrouped) : a.core.input? = none := by
  obtain ⟨input, keys, own, hcore⟩ | hinput := core_cases a
  · exact absurd hcore (h input keys own)
  · exact hinput

/-- What waits below the modifiers is gathered, under the names that it waits under. -/
theorem gathers_of_liftModifiers {ms : List Modifier} {n' : Naming}
    (hlifted : liftModifiers a.modifiers ⟨[], n⟩ = (ms, ⟨added, n'⟩))
    (hname : ∀ b ∈ added, name b.aggregate = b.target) : a.Gathers n name added := by
  have htakes := takes_liftModifiers a.modifiers ⟨[], n⟩
  have hlater := later_liftModifiers a.modifiers ⟨[], n⟩
  have hlift := lift_under a.core a.modifiers ⟨[], n⟩
  rw [core_under_modifiers] at hlift
  rw [hlifted] at htakes hlater hlift
  obtain ⟨hmodifiers, hcore⟩ := modifiers_lift_core a ⟨added, n'⟩
  have hbelow : (a.liftAggregates n).1.core = (lift a.core ⟨added, n'⟩).1 := by
    rw [liftAggregates, hlift, core_under, hcore]
  have hmem : ∀ c, c ∈ added.map (·.aggregate) ↔ c ∈ a.aggregates := fun c => by
    rw [htakes.mem_waiting c]
    exact or_iff_right List.not_mem_nil
  have hempty : added = [] ↔ a.aggregates = [] := by
    rw [List.eq_nil_iff_forall_not_mem (l := a.aggregates), ← List.map_eq_nil_iff,
      List.eq_nil_iff_forall_not_mem]
    exact forall_congr' fun c => not_congr (hmem c)
  exact {
    modifiers := by
      rw [liftAggregates, hlift, modifiers_under, hmodifiers, List.append_nil]
      exact htakes.result name hname
    mem_added := fun b => by
      refine ⟨fun hb => ⟨(hmem _).1 (List.mem_map_of_mem hb), (hname b hb).symm⟩, ?_⟩
      rintro ⟨haggregate, htarget⟩
      obtain ⟨⟨v, c⟩, hb, rfl : c = b.aggregate⟩ := List.mem_map.1 ((hmem _).2 haggregate)
      -- The aggregate determines the variable, and so the binding.
      obtain rfl : b.target = v := htarget.trans (hname _ hb)
      exact hb
    nodup := htakes.nodup List.nodup_nil
    grouped := fun input keys own hgrouping => ⟨n', hlater, by rw [hbelow, hgrouping]; rfl⟩
    bare := fun hungrouped hnone => by
      obtain rfl := hempty.2 hnone
      exact ⟨n', hlater, hbelow⟩
    inserted := fun hungrouped hsome => by
      have hwaiting : ¬added.isEmpty = true := fun h => hsome (hempty.1 (List.isEmpty_iff.1 h))
      refine ⟨n', hlater, ?_⟩
      rw [hbelow, lift_eq hungrouped.input?, close, if_neg hwaiting]
      rfl }

/-- Aggregates that wait once each can be given their variables. -/
theorem exists_name {bs : List AggregateBinding} (h : (bs.map (·.aggregate)).Nodup) :
    ∃ name : Aggregate → Variable, ∀ b ∈ bs, name b.aggregate = b.target := by
  induction bs with
  | nil => exact ⟨fun _ => ⟨""⟩, nofun⟩
  | cons b rest ih =>
    obtain ⟨hb, hrest⟩ := List.nodup_cons.1 h
    obtain ⟨name, hname⟩ := ih hrest
    refine ⟨fun c => if c = b.aggregate then b.target else name c, ?_⟩
    refine List.forall_mem_cons.2 ⟨if_pos rfl, fun b' hb' => ?_⟩
    have hne : b'.aggregate ≠ b.aggregate := fun heq => hb (List.mem_map.2 ⟨b', hb', heq⟩)
    exact (if_neg hne).trans (hname b' hb')

/-- The columns at the top of a query name variables of the query. -/
theorem target_mem_allVars : (a : Algebra) → ∀ b ∈ a.aggregateColumns, b.target ∈ a.allVars
  | .slice input _ _, b, hb => target_mem_allVars input b hb
  | .distinct input, b, hb => target_mem_allVars input b hb
  | .project input columns, b, hb => by
    rw [allVars, List.mem_append]
    obtain hb | hb := List.mem_append.1 hb
    · obtain ⟨c, hc, hb⟩ := List.mem_flatMap.1 hb
      refine .inr (List.mem_flatMap.2 ⟨c, hc, ?_⟩)
      cases c with
      | «variable» _ => exact absurd hb (by simp [Column.binding?])
      | expression e v =>
        obtain ⟨_, -, rfl⟩ := by simpa [Column.binding?] using hb
        exact List.mem_append_right _ (List.mem_singleton_self v)
    · exact .inl (target_mem_allVars input b hb)
  | .orderBy input _, b, hb => List.mem_append_left _ (target_mem_allVars input b hb)
  | .having input _, b, hb => List.mem_append_left _ (target_mem_allVars input b hb)
  | .groupBy _ _ _, _, hb | .bgp _, _, hb | .join _, _, hb | .leftJoin _, _, hb | .union _, _, hb
  | .filter _, _, hb | .bind _ _, _, hb | .values _, _, hb | .service _ _ _, _, hb
  | .construct _ _, _, hb | .describe _ _, _, hb | .ask _, _, hb | .minus _, _, hb
  | .graph _ _, _, hb => absurd hb List.not_mem_nil

/-- **Lifting is a faithful rewrite.** The modifiers of a query whose aggregate columns have
different names stay, with variables in the place of their outermost aggregates. What these
variables stand for is added to the grouping below the modifiers, or to a new group of all rows: each
aggregate once, under a variable of its own, which is the name of its column or a fresh one. -/
theorem liftAggregates_gathers (hcolumns : (a.aggregateColumns.map (·.target)).Nodup)
    (hnames : n.names.Avoids {v | v ∈ a.allVars}) :
    ∃ name added, a.Gathers n name added ∧ (added.map (·.target)).Nodup ∧
      ∀ b ∈ added, b ∈ a.aggregateColumns ∨ b.target ∉ a.allVars := by
  rcases hlifted : liftModifiers a.modifiers ⟨[], n⟩ with ⟨ms, added, n'⟩
  have htakes := takes_liftModifiers a.modifiers ⟨[], n⟩
  rw [hlifted] at htakes
  obtain ⟨name, hname⟩ := exists_name (htakes.nodup List.nodup_nil)
  have hsound : Sound {v | v ∈ a.allVars} a.aggregateColumns ⟨added, n'⟩ [] := by
    refine htakes.sound {
      distinct := ?_
      avoids := ?_
      ahead_subset := ?_
      known_mem := target_mem_allVars a
      origin := nofun }
    · rw [List.append_nil]
      exact hcolumns
    · simpa using hnames
    · rw [List.append_nil]
      exact List.Subset.refl _
  refine ⟨name, added, gathers_of_liftModifiers hlifted hname, ?_, hsound.origin⟩
  simpa using hsound.distinct

/-- The mean age of the rows of a group. -/
def meanAge : Aggregate := ⟨"avg", false, some (.leaf (.variable ⟨"age"⟩)), none⟩

/-- The mean age of all rows under a condition on it, without a grouping. -/
def meanOfAll : Algebra :=
  .project (.having (.bgp []) (.call ">" [meanAge.toExpression, .leaf (.variable ⟨"limit"⟩)]))
    [.expression meanAge.toExpression ⟨"mean"⟩]

/-- The mean age is added to a grouping once, for the column and the condition. -/
theorem meanOfAll_gathers :
    (meanOfAll.aggregateColumns.map (·.target)).Nodup ∧
      (Names.avoiding meanOfAll.toJson).Avoids {v | v ∈ meanOfAll.allVars} ∧
      ∃ name added, meanOfAll.Gathers ⟨Names.avoiding meanOfAll.toJson, []⟩ name added ∧
        ⟨name meanAge, meanAge⟩ ∈ added ∧ (added.map (·.target)).Nodup := by
  have hcolumns : (meanOfAll.aggregateColumns.map (·.target)).Nodup := by decide
  have hnames := avoids_avoiding meanOfAll
  obtain ⟨name, added, hgathers, htargets, -⟩ :=
    liftAggregates_gathers (n := ⟨Names.avoiding meanOfAll.toJson, []⟩) hcolumns hnames
  have hmean : meanAge ∈ meanOfAll.aggregates := by decide
  have hadded : ⟨name meanAge, meanAge⟩ ∈ added := (hgathers.mem_added _).2 ⟨hmean, rfl⟩
  exact ⟨hcolumns, hnames, name, added, hgathers, hadded, htargets⟩

example : (meanOfAll.liftAggregates ⟨{}, []⟩).1 =
    .project
      (.having (.groupBy (.bgp []) [] [⟨⟨"mean"⟩, meanAge⟩])
        (.call ">" [.leaf (.variable ⟨"mean"⟩), .leaf (.variable ⟨"limit"⟩)]))
      [.variable ⟨"mean"⟩] := by
  rfl

end PagedSparql.Algebra
