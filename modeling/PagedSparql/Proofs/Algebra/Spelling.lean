import PagedSparql.Algebra.Reading
import PagedSparql.Proofs.Algebra.Variables

/-!
# How variables are written

A query may be read from a JSON value that was not written by `Algebra.toJson`. A variable may then
stand there without its sigil, where only a variable can stand, or with blanks around it, where a
term can stand too. Every variable of the query stands in the value in one of these ways
(`Algebra.spells_of_ofJson`). A source that avoids the value, however, looks for texts that begin
with a sigil, so it does give out a variable that is written in the other ways only
(`Names.avoiding_gives_iff`).
-/

namespace PagedSparql

/-- The text is read as this variable, where a variable or where a term can stand. -/
def Variable.IsReadFrom (v : Variable) (text : String) : Prop :=
  .ofText text = v ∨ TermPattern.parse text = .ok (.variable v)

namespace Json

/-- Each of the variables is read from a text or a key of the value. -/
def Spells (j : Json) (V : List Variable) : Prop := j.Shows Variable.IsReadFrom V

variable {α : Type} {j k : Json} {read? : Json → Option α} {vars : α → List Variable}

/-- The members of an object are within it. -/
theorem within_of_lookup {members : List (String × Json)} {key : String}
    (h : members.lookup key = some j) : j.Within (.obj members) := by
  obtain ⟨before, after, rfl, -⟩ := List.lookup_eq_some_iff.1 h
  exact fun t ht => mem_memberTexts.2 ⟨(key, j), by simp, .inr ht⟩

/-- The fields of a record are within it. -/
theorem within_of_fields? {names : List String} {fields : List (Option Json)}
    (h : k.fields? names = some fields) (hj : some j ∈ fields) : j.Within k := by
  cases k with
  | obj members =>
    obtain rfl := Option.some.inj h
    obtain ⟨name, -, hname⟩ := List.mem_map.1 hj
    exact within_of_lookup hname
  | arr items =>
    simp only [fields?, Option.ite_none_right_eq_some, Option.some.injEq] at h
    obtain ⟨-, rfl⟩ := h
    obtain ⟨i, -, hi⟩ := List.mem_map.1 hj
    exact within_arr (List.mem_of_getElem? hi)
  | _ => exact absurd h (by simp [fields?])

/-- What a list is read as was read from its items. -/
theorem exists_of_mapM {β : Type} {read? : β → Option α} {items : List β} {xs : List α}
    (h : items.mapM read? = some xs) {x : α} (hx : x ∈ xs) : ∃ i ∈ items, read? i = some x := by
  induction items generalizing xs with
  | nil =>
    obtain rfl : xs = [] := by simpa using h.symm
    exact absurd hx List.not_mem_nil
  | cons i rest ih =>
    simp only [List.mapM_cons, Option.bind_eq_bind, Option.bind_eq_some_iff, Option.pure_def,
      Option.some.injEq] at h
    obtain ⟨y, hy, ys, hys, rfl⟩ := h
    rcases List.mem_cons.1 hx with rfl | hx
    · exact ⟨i, List.mem_cons_self, hy⟩
    · obtain ⟨i', hi', hread⟩ := ih hys hx
      exact ⟨i', List.mem_cons_of_mem _ hi', hread⟩

/-- What a list is read as was read from values within it. -/
theorem exists_of_list? {xs : List α} (h : list? read? j = some xs) {x : α} (hx : x ∈ xs) :
    ∃ i, i.Within j ∧ read? i = some x := by
  cases j with
  | arr items =>
    obtain ⟨i, hi, hread⟩ := exists_of_mapM h hx
    exact ⟨i, within_arr hi, hread⟩
  | _ => exact absurd h (by simp [list?])

/-- The variables of the items of a list are read. -/
theorem Spells.of_list? {xs : List α} (h : list? read? j = some xs)
    (hread : ∀ i x, read? i = some x → i.Spells (vars x)) : j.Spells (xs.flatMap vars) := by
  intro v hv
  obtain ⟨x, hx, hv⟩ := List.mem_flatMap.1 hv
  obtain ⟨i, hi, hx⟩ := exists_of_list? h hx
  exact (hread i x hx).within hi v hv

/-- A field that may be absent has its default, or is read. -/
theorem optional?_eq_some {default x : α} {field : Option Json}
    (h : optional? read? default field = some x) :
    x = default ∨ ∃ j, field = some j ∧ read? j = some x := by
  cases field with
  | none => exact .inl (Option.some.inj h).symm
  | some j => exact .inr ⟨j, rfl, h⟩

/-- A value that may be `null` is so, or is read. -/
theorem nullable?_eq_some {x : Option α} (h : nullable? read? j = some x) :
    x = none ∨ ∃ y, x = some y ∧ read? j = some y := by
  cases j with
  | null => exact .inl (Option.some.inj h).symm
  | _ =>
    obtain ⟨y, hy, rfl⟩ := Option.map_eq_some_iff.1 h
    exact .inr ⟨y, rfl, hy⟩

end Json

/-- A variable is read from its JSON form. -/
theorem Variable.spells_of_ofJson? {j : Json} {v : Variable} (h : ofJson? j = some v) :
    j.Spells [v] := by
  intro w hw
  obtain rfl := List.mem_singleton.1 hw
  cases j with
  | str s => exact ⟨s, List.mem_singleton_self _, .inl (Option.some.inj h)⟩
  | _ => exact absurd h (by simp [ofJson?, Json.str?])

/-- The variable of a position is read from its JSON form. -/
theorem TermPattern.spells_of_ofJson? {j : Json} {p : TermPattern} (h : ofJson? j = some p) :
    j.Spells p.var?.toList := by
  intro v hv
  obtain rfl : p = .variable v := by
    cases p <;> simp_all [var?]
  cases j with
  | str s =>
    refine ⟨s, List.mem_singleton_self _, .inr ?_⟩
    have hparse : (TermPattern.parse s).toOption = some (.variable v) := h
    cases hs : TermPattern.parse s with
    | error e => simp [hs, Except.toOption] at hparse
    | ok p => simpa [hs, Except.toOption] using hparse
  | _ => exact absurd h (by simp [ofJson?, Json.str?])

namespace Predicate

/-- The variables of several predicates are those of each. -/
theorem allVarsEach_eq (items : List Predicate) : allVarsEach items = items.flatMap allVars := by
  induction items with
  | nil => rfl
  | cons p rest ih => rw [allVarsEach, ih, List.flatMap_cons]

/-- The variables of a predicate are read from its JSON form. -/
theorem spells_of_ofJsonWith? {fuel : Nat} {j : Json} {p : Predicate}
    (h : ofJsonWith? fuel j = some p) : j.Spells p.allVars := by
  induction fuel generalizing j p with
  | zero => exact absurd h (by simp [ofJsonWith?])
  | succ fuel ih =>
    rw [ofJsonWith?] at h
    split at h
    · next hp =>
      obtain rfl := Option.some.inj h
      exact TermPattern.spells_of_ofJson? hp
    · split at h
      · next hfields =>
        obtain ⟨items, hitems, rfl⟩ := Option.map_eq_some_iff.1 h
        rw [allVars, allVarsEach_eq]
        exact (Json.Spells.of_list? hitems fun _ _ => ih).within
          (Json.within_of_fields? hfields (.tail _ (.head _)))
      · exact absurd h (by simp)

end Predicate

/-- The variables of a triple pattern are read from its JSON form. -/
theorem TriplePattern.spells_of_ofJson? {j : Json} {t : TriplePattern} (h : ofJson? j = some t) :
    j.Spells t.allVars := by
  unfold ofJson? at h
  split at h
  · next hfields =>
    simp only [Option.bind_eq_bind, Option.bind_eq_some_iff, Option.some.injEq] at h
    obtain ⟨s, hs, p, hp, o, ho, rfl⟩ := h
    exact .append
      (.append ((TermPattern.spells_of_ofJson? hs).within (Json.within_of_fields? hfields (.head _)))
        ((Predicate.spells_of_ofJsonWith? hp).within
          (Json.within_of_fields? hfields (.tail _ (.head _)))))
      ((TermPattern.spells_of_ofJson? ho).within
        (Json.within_of_fields? hfields (.tail _ (.tail _ (.head _)))))
  · exact absurd h (by simp)

namespace Expression

/-- The variables of several expressions are those of each. -/
theorem allOccurrences_eq (es : List Expression) :
    allOccurrences es = es.flatMap occurrences := by
  induction es with
  | nil => rfl
  | cons e rest ih => rw [allOccurrences, ih, List.flatMap_cons]

/-- The variables of the arguments of a call are read from its JSON form. -/
theorem spells_of_callOfJson? {readArg : Json → Option Expression}
    (hread : ∀ i e, readArg i = some e → i.Spells e.occurrences) {j : Json} {e : Expression}
    (h : callOfJson? readArg j = some e) : j.Spells e.occurrences := by
  cases j with
  | obj members =>
    rw [callOfJson?] at h
    split at h
    · obtain ⟨args, hargs, rfl⟩ := Option.map_eq_some_iff.1 h
      rw [occurrences, allOccurrences_eq]
      rcases Json.optional?_eq_some hargs with rfl | ⟨i, hi, hargs⟩
      · exact .nil
      · exact (Json.Spells.of_list? hargs hread).within (Json.within_of_lookup hi)
    · exact absurd h (by simp)
  | _ => exact absurd h (by simp [callOfJson?])

/-- The variables of an aggregate are read from its JSON form. -/
theorem spells_of_aggregateOfJson? {readArg : Json → Option Expression}
    (hread : ∀ i e, readArg i = some e → i.Spells e.occurrences) {j : Json} {a : Aggregate}
    (h : Aggregate.ofJsonWith? readArg j = some a) : j.Spells a.toExpression.occurrences := by
  unfold Aggregate.ofJsonWith? at h
  split at h
  · next hfields =>
    simp only [Option.bind_eq_bind, Option.bind_eq_some_iff, Option.some.injEq] at h
    obtain ⟨distinct, -, argument, hargument, separator, -, rfl⟩ := h
    rw [Aggregate.toExpression]
    rcases Json.optional?_eq_some hargument with rfl | ⟨i, rfl, hargument⟩
    · exact .nil
    · rcases Json.nullable?_eq_some hargument with rfl | ⟨e, rfl, he⟩
      · exact .nil
      · exact (hread i e he).within
          (Json.within_of_fields? hfields (.tail _ (.tail _ (.head _))))
  · exact absurd h (by simp)

/-- The variables of an expression are read from its JSON form. -/
theorem spells_of_ofJsonWith? {fuel : Nat} {j : Json} {e : Expression}
    (h : ofJsonWith? fuel j = some e) : j.Spells e.occurrences := by
  induction fuel generalizing j e with
  | zero => exact absurd h (by simp [ofJsonWith?])
  | succ fuel ih =>
    rw [ofJsonWith?] at h
    split at h
    · next hcall =>
      obtain rfl := Option.some.inj h
      exact spells_of_callOfJson? (fun _ _ => ih) hcall
    · split at h
      · next haggregate =>
        obtain rfl := Option.some.inj h
        exact spells_of_aggregateOfJson? (fun _ _ => ih) haggregate
      · obtain ⟨p, hp, rfl⟩ := Option.map_eq_some_iff.1 h
        rw [occurrences]
        exact TermPattern.spells_of_ofJson? hp

end Expression

/-- The variables of a group key are read from its JSON form. -/
theorem GroupKey.spells_of_ofJson? {j : Json} {k : GroupKey} (h : ofJson? j = some k) :
    j.Spells k.allVars := by
  unfold ofJson? at h
  split at h
  · next hfields =>
    simp only [Option.bind_eq_bind, Option.bind_eq_some_iff, Option.some.injEq] at h
    obtain ⟨e, he, alias?, halias, rfl⟩ := h
    refine .append ((Expression.spells_of_ofJsonWith? he).within
      (Json.within_of_fields? hfields (.head _))) ?_
    rcases Json.optional?_eq_some halias with rfl | ⟨i, rfl, halias⟩
    · exact .nil
    · rcases Json.nullable?_eq_some halias with rfl | ⟨v, rfl, hv⟩
      · exact .nil
      · exact (Variable.spells_of_ofJson? hv).within
          (Json.within_of_fields? hfields (.tail _ (.head _)))
  · exact absurd h (by simp)

/-- The variables of an aggregate with its new name are read from its JSON form. -/
theorem AggregateBinding.spells_of_ofJson? {j : Json} {b : AggregateBinding}
    (h : ofJson? j = some b) : j.Spells b.allVars := by
  unfold ofJson? at h
  split at h
  · next hfields =>
    simp only [Option.bind_eq_bind, Option.bind_eq_some_iff, Option.some.injEq] at h
    obtain ⟨v, hv, a, ha, rfl⟩ := h
    refine .append (V := [v]) ((Variable.spells_of_ofJson? hv).within
      (Json.within_of_fields? hfields (.head _))) ?_
    exact (Expression.spells_of_aggregateOfJson?
      (fun _ _ => Expression.spells_of_ofJsonWith?) ha).within
        (Json.within_of_fields? hfields (.tail _ (.head _)))
  · exact absurd h (by simp)

/-- The variables of a column are read from its JSON form. -/
theorem Column.spells_of_ofJson? {j : Json} {c : Column} (h : ofJson? j = some c) :
    j.Spells c.allVars := by
  rcases Option.or_eq_some_iff.1 h with h | ⟨-, h⟩
  · cases j with
    | obj members =>
      simp only [expressionOfJson?, Option.bind_eq_bind, Option.bind_eq_some_iff,
        Option.some.injEq] at h
      obtain ⟨i, hi, e, he, k, hk, v, hv, rfl⟩ := h
      exact .append ((Expression.spells_of_ofJsonWith? he).within (Json.within_of_lookup hi))
        ((Variable.spells_of_ofJson? hv).within (Json.within_of_lookup hk))
    | _ => exact absurd h (by simp [expressionOfJson?])
  · obtain ⟨v, hv, rfl⟩ := Option.map_eq_some_iff.1 h
    exact Variable.spells_of_ofJson? hv

/-- The variables of a sort key are read from its JSON form. -/
theorem OrderCondition.spells_of_ofJson? {j : Json} {c : OrderCondition} (h : ofJson? j = some c) :
    j.Spells c.expression.occurrences := by
  unfold ofJson? at h
  split at h
  · next hfields =>
    simp only [Option.bind_eq_bind, Option.bind_eq_some_iff, Option.some.injEq] at h
    obtain ⟨e, he, descending, -, rfl⟩ := h
    exact (Expression.spells_of_ofJsonWith? he).within (Json.within_of_fields? hfields (.head _))
  · exact absurd h (by simp)

/-- An entry that was put in came with the list or was there before. -/
theorem VariableMap.mem_entries_insertAll {α : Type} {m : VariableMap α}
    {l : List (Variable × α)} {e : Variable × α} (h : e ∈ (m.insertAll l).entries) :
    e ∈ l ∨ e ∈ m.entries := by
  induction l generalizing m with
  | nil => exact .inr h
  | cons e' rest ih =>
    rcases ih (m := m.insert e'.1 e'.2) h with h | h
    · exact .inl (List.mem_cons_of_mem _ h)
    · rcases mem_insertEntry h with rfl | h
      · exact .inl List.mem_cons_self
      · exact .inr h

/-- The variables of an inline row are read from its keys. -/
theorem spells_of_valuesRowOfJson? {j : Json} {row : VariableMap (Option Term)}
    (h : valuesRowOfJson? j = some row) : j.Spells row.keys := by
  cases j with
  | obj members =>
    obtain ⟨entries, hentries, rfl⟩ := Option.map_eq_some_iff.1 h
    intro v hv
    obtain ⟨e, he, rfl⟩ := List.mem_map.1 hv
    have hentry : e ∈ entries :=
      (VariableMap.mem_entries_insertAll he).resolve_right List.not_mem_nil
    obtain ⟨m, hm, hread⟩ := Json.exists_of_mapM hentries hentry
    obtain ⟨t, -, rfl⟩ := Option.map_eq_some_iff.1 hread
    exact ⟨m.1, Json.mem_memberTexts.2 ⟨m, hm, .inl rfl⟩, .inl rfl⟩
  | _ => exact absurd h (by simp [valuesRowOfJson?])

namespace Algebra

/-- The variables of several nodes are those of each. -/
theorem allVarsEach_eq (as : List Algebra) : allVarsEach as = as.flatMap allVars := by
  induction as with
  | nil => rfl
  | cons a rest ih => rw [allVarsEach, ih, List.flatMap_cons]

/-- The variables of a node are read from its fields, if those of the nodes below it are read. -/
theorem spells_of_ofFields? {readNode : Json → Option Algebra}
    (hread : ∀ i a, readNode i = some a → i.Spells a.allVars) {j : Json} {kind : String}
    {fields : List (Option Json)} (hfields : ∀ i, some i ∈ fields → i.Within j) {a : Algebra}
    (h : ofFields? readNode kind fields = some a) : j.Spells a.allVars := by
  -- A node is read from its own field, and a list of nodes one by one.
  have hnode : ∀ {i : Json} {a : Algebra}, some i ∈ fields → readNode i = some a →
      j.Spells a.allVars := fun hi ha => (hread _ _ ha).within (hfields _ hi)
  have hnodes : ∀ {i : Json} {as : List Algebra}, some i ∈ fields →
      Json.list? readNode i = some as → j.Spells (allVarsEach as) := by
    intro i as hi has
    rw [allVarsEach_eq]
    exact (Json.Spells.of_list? has hread).within (hfields i hi)
  unfold ofFields? at h
  split at h <;>
    simp only [Option.bind_eq_bind, Option.bind_eq_some_iff, Option.map_eq_some_iff,
      Option.some.injEq, reduceCtorEq] at h
  · obtain ⟨triples, htriples, rfl⟩ := h
    exact (Json.Spells.of_list? htriples fun _ _ => TriplePattern.spells_of_ofJson?).within
      (hfields _ (.head _))
  · obtain ⟨patterns, hpatterns, rfl⟩ := h
    exact hnodes (.head _) hpatterns
  · obtain ⟨patterns, hpatterns, rfl⟩ := h
    exact hnodes (.head _) hpatterns
  · obtain ⟨patterns, hpatterns, rfl⟩ := h
    exact hnodes (.head _) hpatterns
  · obtain ⟨e, he, rfl⟩ := h
    exact (Expression.spells_of_ofJsonWith? he).within (hfields _ (.head _))
  · obtain ⟨v, hv, e, he, rfl⟩ := h
    exact .append (V := [v])
      ((Variable.spells_of_ofJson? hv).within (hfields _ (.head _)))
      ((Expression.spells_of_ofJsonWith? he).within (hfields _ (.tail _ (.head _))))
  · obtain ⟨rows, hrows, rfl⟩ := h
    exact (Json.Spells.of_list? hrows fun _ _ => spells_of_valuesRowOfJson?).within
      (hfields _ (.head _))
  · obtain ⟨name, -, silent, -, patterns, hpatterns, rfl⟩ := h
    exact hnodes (.tail _ (.tail _ (.head _))) hpatterns
  · obtain ⟨input, hinput, keys, hkeys, aggregates, haggregates, rfl⟩ := h
    refine .append (.append (hnode (.head _) hinput) ?_) ?_
    · rcases Json.optional?_eq_some hkeys with rfl | ⟨i, rfl, hkeys⟩
      · exact .nil
      · exact (Json.Spells.of_list? hkeys fun _ _ => GroupKey.spells_of_ofJson?).within
          (hfields _ (.tail _ (.head _)))
    · rcases Json.optional?_eq_some haggregates with rfl | ⟨i, rfl, haggregates⟩
      · exact .nil
      · exact (Json.Spells.of_list? haggregates
          fun _ _ => AggregateBinding.spells_of_ofJson?).within
            (hfields _ (.tail _ (.tail _ (.head _))))
  · obtain ⟨input, hinput, e, he, rfl⟩ := h
    exact .append (hnode (.head _) hinput)
      ((Expression.spells_of_ofJsonWith? he).within (hfields _ (.tail _ (.head _))))
  · obtain ⟨input, hinput, columns, hcolumns, rfl⟩ := h
    exact .append (hnode (.head _) hinput)
      ((Json.Spells.of_list? hcolumns fun _ _ => Column.spells_of_ofJson?).within
        (hfields _ (.tail _ (.head _))))
  · obtain ⟨input, hinput, conditions, hconditions, rfl⟩ := h
    exact .append (hnode (.head _) hinput)
      ((Json.Spells.of_list? hconditions fun _ _ => OrderCondition.spells_of_ofJson?).within
        (hfields _ (.tail _ (.head _))))
  · obtain ⟨input, hinput, rfl⟩ := h
    exact (hnode (.head _) hinput :)
  · obtain ⟨input, hinput, offset, -, limit, -, rfl⟩ := h
    exact (hnode (.head _) hinput :)
  · obtain ⟨template, htemplate, input, hinput, rfl⟩ := h
    exact .append
      ((Json.Spells.of_list? htemplate fun _ _ => TriplePattern.spells_of_ofJson?).within
        (hfields _ (.head _)))
      (hnode (.tail _ (.head _)) hinput)
  · obtain ⟨terms, hterms, input, hinput, rfl⟩ := h
    refine .append
      ((Json.Spells.of_list? hterms fun _ _ => TermPattern.spells_of_ofJson?).within
        (hfields _ (.head _))) ?_
    rcases Json.optional?_eq_some hinput with rfl | ⟨i, rfl, hinput⟩
    · exact .nil
    · exact hnode (.tail _ (.head _)) hinput
  · obtain ⟨input, hinput, rfl⟩ := h
    exact (hnode (.head _) hinput :)
  · obtain ⟨patterns, hpatterns, rfl⟩ := h
    exact hnodes (.head _) hpatterns
  · obtain ⟨name, hname, patterns, hpatterns, rfl⟩ := h
    exact .append ((TermPattern.spells_of_ofJson? hname).within (hfields _ (.head _)))
      (hnodes (.tail _ (.head _)) hpatterns)

/-- The variables of a query are read from the value that the query is read from. -/
theorem spells_of_ofJsonWith? {fuel : Nat} {root : Bool} {j : Json} {a : Algebra}
    (h : ofJsonWith? fuel root j = some a) : j.Spells a.allVars := by
  induction fuel generalizing root j a with
  | zero => exact absurd h (by simp [ofJsonWith?])
  | succ fuel ih =>
    simp only [ofJsonWith?, Option.bind_eq_some_iff] at h
    obtain ⟨⟨tag, rest⟩, htagged, kind, -, fields, hfields, h⟩ := h
    have hrest : rest.Within j := by
      split at htagged
      · obtain ⟨tag', -, heq⟩ := Option.map_eq_some_iff.1 htagged
        obtain ⟨-, rfl⟩ := Prod.mk.inj heq
        exact .refl _
      · obtain ⟨-, rfl⟩ := Prod.mk.inj (Option.some.inj htagged)
        exact fun t ht => List.mem_append_right _ ht
      · exact absurd htagged (by simp)
    exact spells_of_ofFields? (fun _ _ => ih)
      (fun i hi => (Json.within_of_fields? hfields hi).trans hrest) h

/-- The variables of a query are read from the value that the query is read from. -/
theorem spells_of_ofJson {j : Json} {a : Algebra} (h : ofJson j = .ok a) : j.Spells a.allVars := by
  unfold ofJson at h
  split at h
  · exact absurd h (by simp)
  · split at h
    · next ha =>
      obtain rfl := Except.ok.inj h
      exact spells_of_ofJsonWith? ha
    · exact absurd h (by simp)

end Algebra

/-- The text is the bare name of the variable, or the variable with blanks around it. -/
def Variable.Unmarked (v : Variable) (text : String) : Prop :=
  text = v.name ∨ Text.trim text.toList ≠ text.toList ∧
    Names.ofSigil? (.ofList (Text.trim text.toList)) = some v.name

/-- A text without a sigil is the name of the variable that it is read as. -/
theorem Variable.ofSigil?_or (text : String) :
    Names.ofSigil? text = some (ofText text).name ∨ text = (ofText text).name := by
  have hdrop : ∀ chars, chars = '?' :: dropSigil chars ∨ chars = '$' :: dropSigil chars ∨
      dropSigil chars = chars := by
    intro chars
    unfold dropSigil
    split <;> simp
  rcases hdrop text.toList with h | h | h
  · exact .inl (by rw [Names.ofSigil?, h, ofText]; simp [dropSigil])
  · exact .inl (by rw [Names.ofSigil?, h, ofText]; simp [dropSigil])
  · exact .inr (by rw [ofText, h, String.ofList_toList])

/-- A text that is read as a variable begins with its sigil, or is unmarked. -/
theorem Variable.IsReadFrom.marked_or {v : Variable} {text : String} (h : v.IsReadFrom text) :
    Names.ofSigil? text = some v.name ∨ v.Unmarked text := by
  rcases h with rfl | hparse
  · exact (ofSigil?_or text).imp id .inl
  · -- Where a term can stand, the sigil is looked for behind the blanks.
    have hsigil : Names.ofSigil? (.ofList (Text.trim text.toList)) = some v.name := by
      simp only [TermPattern.parse] at hparse
      rw [Names.ofSigil?, String.toList_ofList]
      split at hparse
      · exact absurd hparse (by simp)
      · exact absurd hparse (by simp)
      · next heq =>
        obtain rfl := TermPattern.variable.inj (Except.ok.inj hparse)
        simp [heq]
      · next heq =>
        obtain rfl := TermPattern.variable.inj (Except.ok.inj hparse)
        simp [heq]
      · cases hterm : Term.parse (.ofList (Text.trim text.toList)) <;>
          simp [hterm, Except.map] at hparse
    by_cases htrim : Text.trim text.toList = text.toList
    · rw [htrim, String.ofList_toList] at hsigil
      exact .inl hsigil
    · exact .inr (.inr ⟨htrim, hsigil⟩)

/-- **Which variables of a query a source gives out that avoids its JSON value.** It gives out those
that have a numbered name, are written bare or with blanks around them, and are written nowhere with
their sigil at the start. -/
theorem Names.avoiding_gives_iff {j : Json} {a : Algebra} (h : Algebra.ofJson j = .ok a)
    {v : Variable} (hv : v ∈ a.allVars) :
    (∃ i, (after i (avoiding j)).fresh.1 = v) ↔
      (∃ n, v.name = numbered n) ∧ (∃ t ∈ j.texts, v.Unmarked t) ∧
        ∀ t ∈ j.texts, ofSigil? t ≠ some v.name := by
  have hreserved : ∀ name, name ∉ (avoiding j).reserved ↔ ∀ t ∈ j.texts, ofSigil? t ≠ some name := by
    intro name
    rw [avoiding, mentioned_eq, List.mem_filterMap]
    simp
  constructor
  · rintro ⟨i, rfl⟩
    obtain ⟨k, -, -, hfresh, -⟩ := (after i (avoiding j)).fresh_spec
    rw [hfresh, name_ofText_numbered]
    have hfree := (hreserved _).1 (exists_fresh_iff.1 ⟨i, hfresh⟩).2
    obtain ⟨t, ht, hread⟩ := Algebra.spells_of_ofJson h _ hv
    rw [hfresh] at hread
    refine ⟨⟨k, rfl⟩, ⟨t, ht, hread.marked_or.resolve_left ?_⟩, hfree⟩
    rw [name_ofText_numbered]
    exact hfree t ht
  · rintro ⟨⟨k, hname⟩, -, hfree⟩
    obtain rfl : v = .ofText (numbered k) :=
      congrArg Variable.mk (hname.trans (name_ofText_numbered k).symm)
    exact exists_fresh_iff.2 ⟨Nat.zero_le k, (hreserved _).2 (hname ▸ hfree)⟩

namespace Sample

/-- A binding of a variable that is written without its sigil, and named like a fresh one. -/
def bareBind : Json :=
  .obj [("expression", .str "\"1\""), ("type", .str "bind"), ("variable", .str "__v0")]

end Sample

/-- The first variable that is given out is the one that the query binds. -/
theorem Names.avoiding_gives_iff_sample :
    ∃ a, Algebra.ofJson Sample.bareBind = .ok a ∧ ⟨"__v0"⟩ ∈ a.allVars ∧
      (∃ i, (after i (avoiding Sample.bareBind)).fresh.1 = ⟨"__v0"⟩) ∧
      (avoiding Sample.bareBind).fresh.1 = ⟨"__v0"⟩ := by
  have hread : Algebra.ofJson Sample.bareBind =
      .ok (.bind ⟨"__v0"⟩ (.leaf (.term (.literal (.simple "1"))))) := by
    rfl
  have hbound : (⟨"__v0"⟩ : Variable) ∈
      (Algebra.bind ⟨"__v0"⟩ (.leaf (.term (.literal (.simple "1"))))).allVars := by
    decide
  refine ⟨_, hread, hbound, (avoiding_gives_iff hread hbound).2 ⟨⟨0, rfl⟩, ?_, ?_⟩, rfl⟩
  · exact ⟨"__v0", by decide, .inl rfl⟩
  · decide

end PagedSparql
