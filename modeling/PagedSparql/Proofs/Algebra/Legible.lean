import PagedSparql.Algebra.Reading
import PagedSparql.Algebra.Writing
import PagedSparql.Proofs.Json.Written
import PagedSparql.Proofs.Rdf.WireSafety

/-!
# Parts of queries read back

What stands in the nodes of a query, from positions of patterns up to expressions, columns and inline
rows, is read by trying one form after the other: a predicate is a term or variable, else a path; an
expression a call, else an aggregate, else a term or variable; a column an expression, else a
variable. What was written in one form has not the forms that are tried before it. So each part is
read back as it is exactly when its leaves are: its terms are wire-safe, its variables have names
that keep their end, and an unknown path operator has not the symbol of a known one (`Legible`).

Each reader has one law here, an equivalence. The readers of trees take fuel, and their laws hold for
all fuel that is at least the depth of the JSON form.
-/

namespace PagedSparql

/-- A text is read as a term whether its blanks are removed before or not. -/
theorem Term.parse_trim_eq_ok_iff {text : String} {t : Term} :
    parse (.ofList (Text.trim text.toList)) = .ok t ↔ parse text = .ok t := by
  simp only [parse, String.toList_ofList, Text.trim_trim]
  split
  · simp
  · simp
  · simp
  · split <;> simp
  · rfl
  · split <;> simp
  · rfl

namespace TermPattern

/-- A term is wire-safe; a variable has a name, and the name does not end with a blank. -/
def Legible : TermPattern → Prop
  | .variable v => v.name ≠ "" ∧ Text.endsBlank v.name.toList = false
  | .term t => t.WireSafe

/-- A variable is read back exactly when it has a name that keeps its end. -/
theorem parse_variable_iff {v : Variable} :
    parse (TermPattern.variable v).toCompact = .ok (.variable v) ↔
      (TermPattern.variable v).Legible := by
  have htrim : Text.trim (TermPattern.variable v).toCompact.toList =
      '?' :: Text.trimEnd v.name.toList := by
    rw [toCompact, Variable.toList_toText, Text.trim_cons (by decide)]
  simp only [parse, htrim, Legible]
  constructor
  · intro h
    split at h
    · cases h
    · cases h
    · next name hempty heq =>
      -- What is read has the name without the blanks at its end, so there were none.
      obtain rfl := (List.cons.inj heq).2
      have hkept : Text.trimEnd v.name.toList = v.name.toList :=
        (toList_eq_of_ofList_eq
          (congrArg Variable.name (TermPattern.variable.inj (Except.ok.inj h)))).symm
      rw [hkept] at hempty
      exact ⟨fun heq => hempty (by simp [heq]), Text.trimEnd_eq_self_iff.1 hkept⟩
    · next heq => exact absurd (List.cons.inj heq).1 (by decide)
    · next hname _ => exact absurd rfl (hname _)
  · rintro ⟨hne, hend⟩
    rw [Text.trimEnd_eq_self_iff.2 hend]
    cases hname : v.name.toList with
    | nil => exact absurd (String.toList_eq_nil_iff.1 hname) hne
    | cons c rest =>
      have hv : (⟨.ofList (c :: rest)⟩ : Variable) = v := by rw [← hname, String.ofList_toList]
      exact congrArg (fun v => Except.ok (TermPattern.variable v)) hv

/-- A term is read back as a position exactly when it is readable. -/
theorem parse_term_iff {t : Term} :
    parse (TermPattern.term t).toCompact = .ok (.term t) ↔ t.Readable := by
  rw [Term.Readable, ← Term.parse_trim_eq_ok_iff, toCompact]
  constructor
  · intro h
    simp only [parse] at h
    split at h
    · cases h
    · cases h
    · cases h
    · cases h
    · cases hterm : Term.parse (.ofList (Text.trim t.toCompact.toList)) with
      | error fault => rw [hterm] at h; cases h
      | ok u => rw [hterm] at h; cases h; rfl
  · intro h
    have hread := h
    simp only [Term.parse, String.toList_ofList, Text.trim_trim] at hread
    simp only [parse]
    -- What begins with a sigil is no term.
    split
    · next heq => simp [heq] at hread
    · next heq => simp [heq] at hread
    · next heq => simp [heq] at hread
    · next heq => simp [heq] at hread
    · rw [h]
      rfl

/-- A position is read back exactly when it is legible. -/
theorem ofJson?_toJson_iff {p : TermPattern} : ofJson? p.toJson = some p ↔ p.Legible := by
  have hparse : ofJson? p.toJson = some p ↔ parse p.toCompact = .ok p := by
    cases h : parse p.toCompact <;> simp [ofJson?, toJson, Json.str?, h, Except.toOption]
  rw [hparse]
  rcases p with v | t
  · exact parse_variable_iff
  · exact parse_term_iff.trans t.readable_iff

end TermPattern

/-- The symbol of an operator that plans do not know is none of those that they know. -/
def PathKind.Legible (kind : PathKind) : Prop :=
  ∀ symbol, kind = .other symbol → symbol ∉ ["/", "|", "^", "!"]

/-- A path operator is read back exactly when it is legible. -/
theorem PathKind.ofSymbol_symbol_iff {kind : PathKind} :
    ofSymbol kind.symbol = kind ↔ kind.Legible := by
  cases kind with
  | other s =>
    simp only [symbol, ofSymbol, Legible, other.injEq, forall_eq']
    by_cases hsequence : s = "/"
    · simp [hsequence]
    by_cases halternative : s = "|"
    · simp [halternative]
    by_cases hinverse : s = "^"
    · simp [hinverse]
    by_cases hnegated : s = "!"
    · simp [hnegated]
    simp [hsequence, halternative, hinverse, hnegated]
  | _ => simp [symbol, ofSymbol, Legible]

namespace Predicate

mutual

/-- All leaves of the predicate are legible, and all operators of its paths. -/
def Legible : Predicate → Prop
  | .plain p => p.Legible
  | .path kind items => kind.Legible ∧ LegibleEach items

/-- All of the predicates are legible. -/
def LegibleEach : List Predicate → Prop
  | [] => True
  | p :: rest => p.Legible ∧ LegibleEach rest

end

/-- The JSON forms of several predicates are those of each. -/
theorem toJsons_eq (items : List Predicate) : toJsons items = items.map toJson := by
  induction items with
  | nil => rfl
  | cons p rest ih => rw [toJsons, ih, List.map_cons]

mutual

/-- A predicate is read back exactly when it is legible. -/
theorem ofJsonWith?_toJson_iff : (p : Predicate) → {fuel : Nat} → p.toJson.depth ≤ fuel →
    (ofJsonWith? fuel p.toJson = some p ↔ p.Legible)
  | .plain p, fuel, h => by
    obtain ⟨fuel, rfl⟩ := Json.exists_fuel h
    rw [Legible, ← TermPattern.ofJson?_toJson_iff, toJson, ofJsonWith?]
    cases hp : TermPattern.ofJson? p.toJson with
    | none => simp [TermPattern.toJson, Json.fields?]
    | some q => simp
  | .path kind items, fuel, h => by
    obtain ⟨fuel, rfl⟩ := Json.exists_fuel h
    have hfields : (Predicate.path kind items).toJson.fields? ["pathType", "items"] =
        some [some (.str kind.symbol), some (.arr (items.map toJson))] := by
      rw [toJson, toJsons_eq, Json.fields?_mkObj]
      rfl
    -- The leaf is tried first, but a path is written as an object.
    have hleaf : TermPattern.ofJson? (Predicate.path kind items).toJson = none := by
      rw [toJson]
      rfl
    have hitems : ∀ p ∈ items, p.toJson.depth ≤ fuel := by
      intro p hp
      have hp := Json.depth_lt_of_mem (List.mem_map_of_mem (f := toJson) hp)
      have hlist := Json.depth_lt_of_fields? hfields (.tail _ (.head _))
      omega
    rw [Legible, ← ofJsonWith?_toJsons_iff items hitems, ← PathKind.ofSymbol_symbol_iff,
      ← Json.list?_map_eq_some_iff, ofJsonWith?, hleaf, hfields]
    simp only [Option.map_eq_some_iff, path.injEq]
    constructor
    · rintro ⟨read, hread, hkind, rfl⟩
      exact ⟨hkind, hread⟩
    · rintro ⟨hkind, hread⟩
      exact ⟨items, hread, hkind, rfl⟩

/-- Predicates are read back exactly when all of them are legible. -/
theorem ofJsonWith?_toJsons_iff : (items : List Predicate) → {fuel : Nat} →
    (∀ p ∈ items, p.toJson.depth ≤ fuel) →
      ((∀ p ∈ items, ofJsonWith? fuel p.toJson = some p) ↔ LegibleEach items)
  | [], fuel, h => by simp [LegibleEach]
  | p :: rest, fuel, h => by
    rw [List.forall_mem_cons, LegibleEach, ofJsonWith?_toJson_iff p (h p List.mem_cons_self),
      ofJsonWith?_toJsons_iff rest fun q hq => h q (List.mem_cons_of_mem _ hq)]

end

end Predicate

namespace TriplePattern

/-- All three positions of the pattern are legible. -/
def Legible (t : TriplePattern) : Prop :=
  t.subject.Legible ∧ t.predicate.Legible ∧ t.object.Legible

/-- A triple pattern is read back exactly when it is legible. -/
theorem ofJson?_toJson_iff {t : TriplePattern} : ofJson? t.toJson = some t ↔ t.Legible := by
  have hfields : t.toJson.fields? ["subject", "predicate", "object"] =
      some [some t.subject.toJson, some t.predicate.toJson, some t.object.toJson] := by
    rw [toJson, Json.fields?_mkObj]
    rfl
  rw [Legible, ← TermPattern.ofJson?_toJson_iff, ← TermPattern.ofJson?_toJson_iff,
    ← Predicate.ofJsonWith?_toJson_iff t.predicate le_rfl, ofJson?, hfields]
  simp only [Option.bind_eq_bind, Option.bind_eq_some_iff, Option.some.injEq]
  constructor
  · rintro ⟨s, hs, p, hp, o, ho, rfl⟩
    exact ⟨hs, hp, ho⟩
  · rintro ⟨hs, hp, ho⟩
    exact ⟨_, hs, _, hp, _, ho, rfl⟩

end TriplePattern

namespace Expression

mutual

/-- All variables and terms in the expression are legible. -/
def Legible : Expression → Prop
  | .leaf p => p.Legible
  | .call _ args => LegibleEach args
  | .aggregate _ _ none _ => True
  | .aggregate _ _ (some e) _ => e.Legible

/-- All of the expressions are legible. -/
def LegibleEach : List Expression → Prop
  | [] => True
  | e :: rest => e.Legible ∧ LegibleEach rest

end

/-- The JSON forms of several expressions are those of each. -/
theorem toJsons_eq (es : List Expression) : toJsons es = es.map toJson := by
  induction es with
  | nil => rfl
  | cons e rest ih => rw [toJsons, ih, List.map_cons]

/-- A call is read from the members of a value. -/
theorem callOfJson?_eq (readArg : Json → Option Expression) (j : Json) :
    callOfJson? readArg j =
      match j.get? "operator" with
      | some (.str operator) =>
        (Json.optional? (Json.list? readArg) [] (j.get? "args")).map (.call operator)
      | _ => none := by
  cases j <;> rfl

/-- No expression is written as `null`. -/
theorem toJson_ne_null (e : Expression) : e.toJson ≠ .null := by
  cases e with
  | leaf p => simp [toJson, TermPattern.toJson]
  | call operator args => simp [toJson, Json.mkObj]
  | aggregate function distinct argument separator =>
    cases argument <;> simp [toJson, Json.mkObj]

end Expression

namespace Aggregate

/-- An aggregate is written as an object whose members have the keys of its fields. -/
theorem toJson_eq (a : Aggregate) :
    a.toJson = .mkObj ([("aggregation", .str a.function), ("distinct", .bool a.distinct)] ++
      Json.optionalMember "expression" (a.argument.map Expression.toJson) ++
      Json.optionalMember "separator" (a.separator.map .str)) := by
  obtain ⟨function, distinct, argument, separator⟩ := a
  rw [toJson, toExpression]
  cases argument <;> rw [Expression.toJson] <;> rfl

/-- The fields of an aggregate. -/
theorem fields?_toJson (a : Aggregate) :
    a.toJson.fields? ["aggregation", "distinct", "expression", "separator"] =
      some [some (.str a.function), some (.bool a.distinct), a.argument.map Expression.toJson,
        a.separator.map .str] := by
  rw [toJson_eq, Json.fields?_mkObj]
  cases a.argument <;> cases a.separator <;> rfl

/-- An aggregate is read back exactly when it is legible, if this is so of its argument. -/
theorem ofJsonWith?_toJson_iff {readArg : Json → Option Expression} {a : Aggregate}
    (hread : ∀ e, a.argument = some e → (readArg e.toJson = some e ↔ e.Legible)) :
    ofJsonWith? readArg a.toJson = some a ↔ a.toExpression.Legible := by
  obtain ⟨function, distinct, argument, separator⟩ := a
  have hdistinct : Json.optional? Json.bool? false (some (.bool distinct)) = some distinct := rfl
  have hseparator : Json.optional? (Json.nullable? Json.str?) none (separator.map .str) =
      some separator := by
    cases separator <;> rfl
  have hargument : Json.optional? (Json.nullable? readArg) none (argument.map Expression.toJson) =
      some argument ↔ (Expression.aggregate function distinct argument separator).Legible := by
    cases argument with
    | none => simp [Json.optional?, Expression.Legible]
    | some e =>
      simp [Json.optional?, Json.nullable?_of_ne_null e.toJson_ne_null, hread e rfl,
        Expression.Legible]
  rw [ofJsonWith?, fields?_toJson, toExpression, ← hargument]
  simp [hdistinct, hseparator, Option.bind_eq_some_iff]

end Aggregate

namespace Expression

/-- An aggregate is read back as an expression exactly when it is legible, if this is so of its
argument. -/
theorem ofJsonWith?_aggregate_iff {fuel : Nat} {a : Aggregate}
    (hread : ∀ e, a.argument = some e → (ofJsonWith? fuel e.toJson = some e ↔ e.Legible)) :
    ofJsonWith? (fuel + 1) a.toJson = some a.toExpression ↔ a.toExpression.Legible := by
  have hcall : callOfJson? (ofJsonWith? fuel) a.toJson = none := by
    rw [callOfJson?_eq, Aggregate.toJson_eq, Json.get?_mkObj]
    cases a.argument <;> cases a.separator <;> rfl
  have hleaf : TermPattern.ofJson? a.toJson = none := by
    rw [Aggregate.toJson_eq]
    rfl
  rw [← Aggregate.ofJsonWith?_toJson_iff hread, ofJsonWith?, hcall, hleaf]
  cases Aggregate.ofJsonWith? (ofJsonWith? fuel) a.toJson with
  | none => simp
  | some b =>
    simp only [Option.some.injEq]
    exact ⟨Aggregate.toExpression_inj, fun h => h ▸ rfl⟩

mutual

/-- An expression is read back exactly when it is legible. -/
theorem ofJsonWith?_toJson_iff : (e : Expression) → {fuel : Nat} → e.toJson.depth ≤ fuel →
    (ofJsonWith? fuel e.toJson = some e ↔ e.Legible)
  | .leaf p, fuel, h => by
    obtain ⟨fuel, rfl⟩ := Json.exists_fuel h
    rw [Legible, ← TermPattern.ofJson?_toJson_iff, toJson, ofJsonWith?]
    -- A text is neither a call nor an aggregate.
    simp [TermPattern.toJson, callOfJson?, Aggregate.ofJsonWith?, Json.fields?]
  | .call operator args, fuel, h => by
    obtain ⟨fuel, rfl⟩ := Json.exists_fuel h
    have hoperator : (Expression.call operator args).toJson.get? "operator" =
        some (.str operator) := by
      rw [toJson, Json.get?_mkObj]
      rfl
    have hargs : (Expression.call operator args).toJson.get? "args" =
        some (.arr (args.map toJson)) := by
      rw [toJson, toJsons_eq, Json.get?_mkObj]
      rfl
    have hdepth : ∀ e ∈ args, e.toJson.depth ≤ fuel := by
      intro e he
      have he := Json.depth_lt_of_mem (List.mem_map_of_mem (f := toJson) he)
      have hlist := Json.depth_lt_of_get? "args" hargs
      omega
    -- If an argument cannot be read, the other two forms are tried, and the call has neither.
    have haggregate :
        Aggregate.ofJsonWith? (ofJsonWith? fuel) (Expression.call operator args).toJson = none := by
      rw [toJson, Aggregate.ofJsonWith?, Json.fields?_mkObj]
      rfl
    have hleaf : TermPattern.ofJson? (Expression.call operator args).toJson = none := by
      rw [toJson]
      rfl
    rw [Legible, ← ofJsonWith?_toJsons_iff args hdepth, ← Json.list?_map_eq_some_iff, ofJsonWith?,
      callOfJson?_eq, hoperator, hargs, haggregate, hleaf]
    cases hlist : Json.list? (ofJsonWith? fuel) (.arr (args.map toJson)) <;>
      simp [Json.optional?, hlist]
  | .aggregate function distinct none separator, fuel, h => by
    obtain ⟨fuel, rfl⟩ := Json.exists_fuel h
    exact ofJsonWith?_aggregate_iff (a := ⟨function, distinct, none, separator⟩) nofun
  | .aggregate function distinct (some e) separator, fuel, h => by
    obtain ⟨fuel, rfl⟩ := Json.exists_fuel h
    refine ofJsonWith?_aggregate_iff (a := ⟨function, distinct, some e, separator⟩) ?_
    rintro _ ⟨rfl⟩
    have he := Json.depth_lt_of_fields?
      (Aggregate.fields?_toJson ⟨function, distinct, some e, separator⟩)
      (.tail _ (.tail _ (.head _)))
    exact ofJsonWith?_toJson_iff e (Nat.le_of_lt_succ (he.trans_le h))

/-- Expressions are read back exactly when all of them are legible. -/
theorem ofJsonWith?_toJsons_iff : (es : List Expression) → {fuel : Nat} →
    (∀ e ∈ es, e.toJson.depth ≤ fuel) →
      ((∀ e ∈ es, ofJsonWith? fuel e.toJson = some e) ↔ LegibleEach es)
  | [], fuel, h => by simp [LegibleEach]
  | e :: rest, fuel, h => by
    rw [List.forall_mem_cons, LegibleEach, ofJsonWith?_toJson_iff e (h e List.mem_cons_self),
      ofJsonWith?_toJsons_iff rest fun q hq => h q (List.mem_cons_of_mem _ hq)]

end

end Expression

/-- A variable is read back, whatever its name. -/
@[simp] theorem Variable.ofJson?_toJson (v : Variable) : ofJson? v.toJson = some v := by
  simp [ofJson?, toJson, Json.str?]

/-- A term is read back exactly when it is wire-safe. -/
theorem Term.ofJson?_toJson_iff {t : Term} : ofJson? t.toJson = some t ↔ t.WireSafe := by
  rw [← readable_iff, Readable]
  cases h : parse t.toCompact <;> simp [ofJson?, toJson, Json.str?, h, Except.toOption]

/-- An expression is read back exactly when it is legible. -/
theorem Expression.ofJson?_toJson_iff {e : Expression} : ofJson? e.toJson = some e ↔ e.Legible :=
  e.ofJsonWith?_toJson_iff le_rfl

/-- A group key is read back exactly when its expression is legible. -/
theorem GroupKey.ofJson?_toJson_iff {k : GroupKey} :
    ofJson? k.toJson = some k ↔ k.expression.Legible := by
  obtain ⟨expression, alias?⟩ := k
  have hfields : (GroupKey.mk expression alias?).toJson.fields? ["expression", "variable"] =
      some [some expression.toJson, alias?.map Variable.toJson] := by
    rw [toJson, Json.fields?_mkObj]
    cases alias? <;> rfl
  have halias : Json.optional? (Json.nullable? Variable.ofJson?) none
      (alias?.map Variable.toJson) = some alias? := by
    cases alias? with
    | none => rfl
    | some v =>
      have hv : v.toJson ≠ .null := nofun
      simp [Json.optional?, Json.nullable?_of_ne_null hv]
  rw [ofJson?, hfields, ← Expression.ofJson?_toJson_iff]
  simp [halias, Option.bind_eq_some_iff]

/-- An aggregate with its variable is read back exactly when the aggregate is legible. -/
theorem AggregateBinding.ofJson?_toJson_iff {b : AggregateBinding} :
    ofJson? b.toJson = some b ↔ b.aggregate.toExpression.Legible := by
  obtain ⟨target, aggregate⟩ := b
  have hfields : (AggregateBinding.mk target aggregate).toJson.fields? ["variable", "aggregate"] =
      some [some target.toJson, some aggregate.toJson] := by
    rw [toJson, Json.fields?_mkObj]
    rfl
  rw [ofJson?, hfields, ← Aggregate.ofJsonWith?_toJson_iff fun _ _ => Expression.ofJson?_toJson_iff]
  simp [Aggregate.ofJson?, Option.bind_eq_some_iff]

/-- All variables and terms in the expression of a column are legible. -/
def Column.Legible : Column → Prop
  | .expression e _ => e.Legible
  | .variable _ => True

/-- A column is read back exactly when it is legible. -/
theorem Column.ofJson?_toJson_iff : (c : Column) → (ofJson? c.toJson = some c ↔ c.Legible)
  | .expression e v => by
    obtain ⟨members, hobj, hlookup⟩ :=
      Json.mkObj_spec [("expression", e.toJson), ("variable", v.toJson)]
    have he : members.lookup "expression" = some e.toJson := hlookup _
    have hv : members.lookup "variable" = some v.toJson := hlookup _
    have hvariable : Variable.ofJson? (.obj members) = none := rfl
    rw [Legible, ← Expression.ofJson?_toJson_iff, toJson, hobj, ofJson?, hvariable,
      expressionOfJson?, he, hv]
    simp [Option.bind_eq_some_iff]
  | .variable v => by
    have hexpression : expressionOfJson? v.toJson = none := rfl
    simp [toJson, ofJson?, hexpression, Legible]

/-- A sort key is read back exactly when its expression is legible. -/
theorem OrderCondition.ofJson?_toJson_iff {c : OrderCondition} :
    ofJson? c.toJson = some c ↔ c.expression.Legible := by
  obtain ⟨expression, descending⟩ := c
  have hfields : (OrderCondition.mk expression descending).toJson.fields?
      ["expression", "descending"] = some [some expression.toJson, some (.bool descending)] := by
    rw [toJson, Json.fields?_mkObj]
    rfl
  rw [ofJson?, hfields, ← Expression.ofJson?_toJson_iff]
  simp [Json.optional?, Json.bool?, Option.bind_eq_some_iff]

/-- The cell of an inline row, or `null` for a variable without term. -/
def valuesCellToJson (e : Variable × Option Term) : String × Json :=
  (e.1.toText, (e.2.map Term.toJson).getD .null)

/-- Reads a cell of an inline row. -/
def valuesCellOfJson? (m : String × Json) : Option (Variable × Option Term) :=
  (Json.nullable? Term.ofJson? m.2).map fun t => (.ofText m.1, t)

/-- A cell is read back exactly when its term is wire-safe, if it has one. -/
theorem valuesCellOfJson?_toJson_iff {e : Variable × Option Term} :
    valuesCellOfJson? (valuesCellToJson e) = some e ↔ ∀ t, e.2 = some t → t.WireSafe := by
  obtain ⟨v, t?⟩ := e
  cases t? with
  | none => simp [valuesCellOfJson?, valuesCellToJson, Json.nullable?]
  | some t =>
    have ht : t.toJson ≠ .null := nofun
    simp [valuesCellOfJson?, valuesCellToJson, Json.nullable?_of_ne_null ht,
      ← Term.ofJson?_toJson_iff]

/-- Reading cells keeps their variables. -/
theorem names_of_mapM_valuesCellOfJson? {entries read : List (Variable × Option Term)}
    (h : (entries.map valuesCellToJson).mapM valuesCellOfJson? = some read) :
    read.map (·.1.name) = entries.map (·.1.name) := by
  induction entries generalizing read with
  | nil =>
    obtain rfl : read = [] := by simpa using h.symm
    rfl
  | cons e rest ih =>
    simp only [List.map_cons, List.mapM_cons, Option.bind_eq_bind, Option.bind_eq_some_iff,
      Option.pure_def, Option.some.injEq] at h
    obtain ⟨e', he', rest', hrest, rfl⟩ := h
    obtain ⟨t, -, rfl⟩ := Option.map_eq_some_iff.1 he'
    rw [List.map_cons, List.map_cons, ih hrest]
    exact congrArg (fun v : Variable => v.name :: _) (Variable.ofText_toText e.1)

/-- An inline row is read back exactly when all its terms are wire-safe. -/
theorem valuesRowOfJson?_toJson_iff {row : VariableMap (Option Term)} :
    valuesRowOfJson? (valuesRowToJson row) = some row ↔
      ∀ v t, row.get? v = some (some t) → t.WireSafe := by
  have hwritten : valuesRowToJson row = .obj (row.entries.map valuesCellToJson) :=
    Json.mkObj_of_sorted <| List.pairwise_map.2 <|
      row.sorted.imp fun h => Variable.toText_lt_toText h
  have hread : valuesRowOfJson? (valuesRowToJson row) = some row ↔
      (row.entries.map valuesCellToJson).mapM valuesCellOfJson? = some row.entries := by
    rw [hwritten, valuesRowOfJson?, Option.map_eq_some_iff]
    constructor
    · rintro ⟨read, hread, hrow⟩
      -- The entries that are read have the variables of the row, and so stand in order.
      have hsorted : read.Pairwise fun a b => a.1.name < b.1.name := by
        have hnames : (row.entries.map (·.1.name)).Pairwise (· < ·) :=
          List.pairwise_map.2 row.sorted
        rw [← names_of_mapM_valuesCellOfJson? hread] at hnames
        exact List.pairwise_map.1 hnames
      have hentries : read = row.entries := by
        rw [← hrow]
        exact (congrArg VariableMap.entries (VariableMap.ofList_entries ⟨read, hsorted⟩)).symm
      rw [hentries] at hread
      exact hread
    · exact fun h => ⟨row.entries, h, row.ofList_entries⟩
  rw [hread, Json.mapM_map_eq_some_iff]
  simp only [valuesCellOfJson?_toJson_iff, Prod.forall, VariableMap.mem_entries_iff]
  constructor
  · exact fun h v t hv => h v (some t) hv t rfl
  · rintro h v _ hv t rfl
    exact h v t hv

end PagedSparql
