import PagedSparql.Algebra.Writing
import PagedSparql.Proofs.Algebra.Solutions
import PagedSparql.Proofs.Plan.FreshNames
import PagedSparql.Proofs.Rdf.RowNotation

/-!
# The variables of a query

A query has its variables in patterns, paths and templates, in expressions, in the heads of inline
tables, and as new names (`Algebra.allVars`). Each of them stands with its sigil in the JSON form of
the query, as a text or as a key (`Algebra.toText_mem_texts`), so a source of fresh variables that
avoids this form reserves the names of all of them (`Algebra.name_mem_mentioned`).
-/

namespace PagedSparql

namespace Json

mutual

/-- The texts and the keys in a value. -/
def texts : Json → List String
  | .str s => [s]
  | .arr items => itemTexts items
  | .obj members => memberTexts members
  | _ => []

/-- The texts and the keys in the values of a list. -/
def itemTexts : List Json → List String
  | [] => []
  | j :: rest => j.texts ++ itemTexts rest

/-- The texts and the keys in the members of an object. -/
def memberTexts : List (String × Json) → List String
  | [] => []
  | (key, j) :: rest => key :: j.texts ++ memberTexts rest

end

/-- The texts in the values of a list are those of each value. -/
theorem mem_itemTexts {items : List Json} {t : String} :
    t ∈ itemTexts items ↔ ∃ j ∈ items, t ∈ j.texts := by
  induction items with
  | nil => simp [itemTexts]
  | cons j rest ih => simp [itemTexts, ih]

/-- The texts in the members of an object are the keys and those of each value. -/
theorem mem_memberTexts {members : List (String × Json)} {t : String} :
    t ∈ memberTexts members ↔ ∃ m ∈ members, t = m.1 ∨ t ∈ m.2.texts := by
  induction members with
  | nil => simp [memberTexts]
  | cons m rest ih => simp [memberTexts, ih, or_assoc]

/-- A member that was put in stays. -/
theorem mem_insertMember_self (key : String) (value : Json) (members : List (String × Json)) :
    (key, value) ∈ insertMember key value members := by
  induction members with
  | nil => exact List.mem_singleton_self _
  | cons m rest ih =>
    obtain ⟨k, v⟩ := m
    rw [insertMember]
    split_ifs
    · exact List.mem_cons_self
    · exact List.mem_cons_self
    · exact List.mem_cons_of_mem _ ih

/-- Members with other keys stay. -/
theorem mem_insertMember_of_ne {key : String} {value : Json} {members : List (String × Json)}
    {m : String × Json} (hm : m ∈ members) (hkey : m.1 ≠ key) :
    m ∈ insertMember key value members := by
  induction members with
  | nil => exact absurd hm List.not_mem_nil
  | cons m' rest ih =>
    obtain ⟨k, v⟩ := m'
    rw [insertMember]
    split_ifs with hlt heq
    · exact List.mem_cons_of_mem _ hm
    · refine List.mem_cons_of_mem _ ((List.mem_cons.1 hm).resolve_left ?_)
      rintro rfl
      exact hkey heq.symm
    · rcases List.mem_cons.1 hm with rfl | hm
      · exact List.mem_cons_self
      · exact List.mem_cons_of_mem _ (ih hm)

/-- An object has all members with different keys that it is made of. -/
theorem mem_mkObj {members : List (String × Json)}
    (hkeys : members.Pairwise fun a b => a.1 ≠ b.1) {m : String × Json} (hm : m ∈ members) :
    ∃ all, mkObj members = .obj all ∧ m ∈ all := by
  -- What is in the object stays there, as long as no member with its key comes.
  have hfold : ∀ (rest before : List (String × Json)),
      (rest.Pairwise fun a b => a.1 ≠ b.1) →
        m ∈ rest ∨ m ∈ before ∧ (∀ m' ∈ rest, m.1 ≠ m'.1) →
          m ∈ rest.foldl (fun o m => insertMember m.1 m.2 o) before := by
    intro rest
    induction rest with
    | nil => intro before _ h; simpa using h
    | cons m' rest ih =>
      intro before hkeys h
      obtain ⟨hm', hrest⟩ := List.pairwise_cons.1 hkeys
      rw [List.foldl_cons]
      refine ih _ hrest ?_
      rcases h with h | ⟨hbefore, hother⟩
      · rcases List.mem_cons.1 h with rfl | h
        · exact .inr ⟨mem_insertMember_self _ _ _, hm'⟩
        · exact .inl h
      · exact .inr ⟨mem_insertMember_of_ne hbefore (hother m' List.mem_cons_self),
          fun m'' hm'' => hother m'' (List.mem_cons_of_mem _ hm'')⟩
  exact ⟨_, rfl, hfold members [] hkeys (.inl hm)⟩

/-- The texts of a member with a key of its own are in the object. -/
theorem mem_texts_mkObj {members : List (String × Json)}
    (hkeys : members.Pairwise fun a b => a.1 ≠ b.1) {m : String × Json} (hm : m ∈ members)
    {t : String} (ht : t = m.1 ∨ t ∈ m.2.texts) : t ∈ (mkObj members).texts := by
  obtain ⟨all, hall, hmem⟩ := mem_mkObj hkeys hm
  rw [hall, texts]
  exact mem_memberTexts.2 ⟨m, hmem, ht⟩

/-- All texts and keys of a value are in another one. -/
def Within (j k : Json) : Prop := ∀ t ∈ j.texts, t ∈ k.texts

variable {j k : Json}

/-- A value is within itself. -/
theorem Within.refl (j : Json) : j.Within j := fun _ h => h

/-- A part of a part of a value is within it. -/
theorem Within.trans {i : Json} (h : i.Within j) (h' : j.Within k) : i.Within k :=
  fun t ht => h' t (h t ht)

/-- The items of a list are within it. -/
theorem within_arr {items : List Json} (h : j ∈ items) : j.Within (.arr items) :=
  fun _ ht => mem_itemTexts.2 ⟨j, h, ht⟩

/-- The items of a list are within a longer one. -/
theorem within_arr_cons (i : Json) (items : List Json) : (arr items).Within (.arr (i :: items)) :=
  fun _ ht => List.mem_append_right _ ht

/-- A member with a key of its own is within the object. -/
theorem within_mkObj {members : List (String × Json)} {key : String}
    (hkeys : members.Pairwise fun a b => a.1 ≠ b.1) (h : (key, j) ∈ members) :
    j.Within (mkObj members) :=
  fun _ ht => mem_texts_mkObj hkeys h (.inr ht)

/-- Each of the variables stands in the value, as a text or a key that is written for it in a certain
way. -/
def Shows (j : Json) (written : Variable → String → Prop) (V : List Variable) : Prop :=
  ∀ v ∈ V, ∃ t ∈ j.texts, written v t

variable {written : Variable → String → Prop} {V W : List Variable}

/-- No variables need to stand anywhere. -/
theorem Shows.nil : j.Shows written [] := fun _ h => absurd h List.not_mem_nil

/-- The variables of two lists stand in the value. -/
theorem Shows.append (hV : j.Shows written V) (hW : j.Shows written W) :
    j.Shows written (V ++ W) :=
  fun v hv => (List.mem_append.1 hv).elim (hV v) (hW v)

/-- What stands in a part of a value stands in the value. -/
theorem Shows.within (h : j.Shows written V) (hjk : j.Within k) : k.Shows written V := fun v hv =>
  have ⟨t, ht, hwritten⟩ := h v hv
  ⟨t, hjk t ht, hwritten⟩

end Json

namespace Names

mutual

/-- The names that a value mentions are those of its texts and keys that have a sigil. -/
theorem mentioned_eq : (j : Json) → mentioned j = j.texts.filterMap ofSigil?
  | .str s => by cases h : ofSigil? s <;> simp [mentioned, Json.texts, h]
  | .arr items => by rw [mentioned, Json.texts, mentionedItems_eq]
  | .obj members => by rw [mentioned, Json.texts, mentionedMembers_eq]
  | .null => rfl
  | .bool _ => rfl
  | .int _ => rfl
  | .real _ => rfl

/-- The names in the values of a list. -/
theorem mentionedItems_eq : (items : List Json) →
    mentionedItems items = (Json.itemTexts items).filterMap ofSigil?
  | [] => rfl
  | j :: rest => by
    rw [mentionedItems, Json.itemTexts, mentioned_eq j, mentionedItems_eq rest,
      List.filterMap_append]

/-- The names in the members of an object. -/
theorem mentionedMembers_eq : (members : List (String × Json)) →
    mentionedMembers members = (Json.memberTexts members).filterMap ofSigil?
  | [] => rfl
  | (key, j) :: rest => by
    rw [mentionedMembers, Json.memberTexts, mentioned_eq j, mentionedMembers_eq rest,
      List.cons_append, List.filterMap_cons, List.filterMap_append]
    cases h : ofSigil? key <;> simp

end

/-- The name of a variable is read from its text. -/
@[simp] theorem ofSigil?_toText (v : Variable) : ofSigil? v.toText = some v.name := by
  rw [ofSigil?, Variable.toList_toText]
  simp

/-- A value that has the text of a variable mentions its name. -/
theorem name_mem_mentioned {j : Json} {v : Variable} (h : v.toText ∈ j.texts) :
    v.name ∈ mentioned j := by
  rw [mentioned_eq]
  exact List.mem_filterMap.2 ⟨v.toText, h, ofSigil?_toText v⟩

end Names

/-- The variables of a group key. -/
def GroupKey.allVars (k : GroupKey) : List Variable :=
  k.expression.occurrences ++ k.alias?.toList

/-- The variables of an aggregate with its new name. -/
def AggregateBinding.allVars (b : AggregateBinding) : List Variable :=
  b.target :: b.aggregate.toExpression.occurrences

/-- The variables of a column. -/
def Column.allVars : Column → List Variable
  | .expression e v => e.occurrences ++ [v]
  | .variable v => [v]

namespace Algebra

mutual

/-- The variables of a query, wherever they stand. -/
def allVars : Algebra → List Variable
  | .bgp triples => Bgp.allVars triples
  | .join patterns => allVarsEach patterns
  | .leftJoin patterns => allVarsEach patterns
  | .union patterns => allVarsEach patterns
  | .filter e => e.occurrences
  | .bind v e => v :: e.occurrences
  | .values rows => rows.flatMap VariableMap.keys
  | .service _ _ patterns => allVarsEach patterns
  | .groupBy input keys aggregates =>
    input.allVars ++ keys.flatMap GroupKey.allVars ++ aggregates.flatMap AggregateBinding.allVars
  | .having input e => input.allVars ++ e.occurrences
  | .project input columns => input.allVars ++ columns.flatMap Column.allVars
  | .orderBy input conditions =>
    input.allVars ++ conditions.flatMap fun c => c.expression.occurrences
  | .distinct input => input.allVars
  | .slice input _ _ => input.allVars
  | .construct template input => Bgp.allVars template ++ input.allVars
  | .describe terms input => (terms.flatMap fun p => p.var?.toList) ++ input.allVars
  | .ask input => input.allVars
  | .minus patterns => allVarsEach patterns
  | .graph name patterns => name.var?.toList ++ allVarsEach patterns

/-- The variables of several nodes. -/
def allVarsEach : List Algebra → List Variable
  | [] => []
  | a :: rest => a.allVars ++ allVarsEach rest

end

end Algebra

namespace Json

/-- The variables stand in the value with their sigils. -/
def Writes (j : Json) (V : List Variable) : Prop := j.Shows (fun v t => t = v.toText) V

variable {j : Json} {V : List Variable}

/-- A list writes what its items write. -/
theorem Writes.arr {α : Type} {xs : List α} {toJson : α → Json} {vars : α → List Variable}
    (h : ∀ x, (toJson x).Writes (vars x)) :
    (Json.arr (xs.map toJson)).Writes (xs.flatMap vars) := by
  intro v hv
  obtain ⟨x, hx, hv⟩ := List.mem_flatMap.1 hv
  exact (h x).within (within_arr (List.mem_map_of_mem hx)) v hv

/-- An object writes what its members write. -/
theorem Writes.member {members : List (String × Json)} {key : String} (h : j.Writes V)
    (hm : (key, j) ∈ members) (hkeys : members.Pairwise fun a b => a.1 ≠ b.1) :
    (mkObj members).Writes V :=
  h.within (within_mkObj hkeys hm)

end Json

/-- A variable stands in its JSON form. -/
theorem Variable.writes_toJson (v : Variable) : v.toJson.Writes [v] := by
  intro w hw
  obtain rfl := List.mem_singleton.1 hw
  exact ⟨_, List.mem_singleton_self _, rfl⟩

/-- The variable of a position stands in its JSON form. -/
theorem TermPattern.writes_toJson : (p : TermPattern) → p.toJson.Writes p.var?.toList
  | .variable v => v.writes_toJson
  | .term _ => .nil

namespace Predicate

mutual

/-- The variables of a predicate stand in its JSON form. -/
theorem writes_toJson : (p : Predicate) → p.toJson.Writes p.allVars
  | .plain p => p.writes_toJson
  | .path kind items => by
    rw [toJson, allVars]
    exact (writes_toJsons items).member (.tail _ (.head _)) (by simp)

/-- The variables of several predicates stand in the list of their JSON forms. -/
theorem writes_toJsons : (items : List Predicate) →
    (Json.arr (toJsons items)).Writes (allVarsEach items)
  | [] => .nil
  | p :: rest => by
    rw [toJsons, allVarsEach]
    exact ((writes_toJson p).within (Json.within_arr List.mem_cons_self)).append
      ((writes_toJsons rest).within (Json.within_arr_cons _ _))

end

end Predicate

/-- The variables of a triple pattern stand in its JSON form. -/
theorem TriplePattern.writes_toJson (t : TriplePattern) : t.toJson.Writes t.allVars := by
  have hkeys : [("subject", t.subject.toJson), ("predicate", t.predicate.toJson),
      ("object", t.object.toJson)].Pairwise fun a b => a.1 ≠ b.1 := by simp
  exact ((t.subject.writes_toJson.member (.head _) hkeys).append
    (t.predicate.writes_toJson.member (.tail _ (.head _)) hkeys)).append
      (t.object.writes_toJson.member (.tail _ (.tail _ (.head _))) hkeys)

namespace Expression

mutual

/-- The variables of an expression stand in its JSON form. -/
theorem writes_toJson : (e : Expression) → e.toJson.Writes e.occurrences
  | .leaf p => by
    rw [toJson, occurrences]
    exact p.writes_toJson
  | .call operator args => by
    rw [toJson, occurrences]
    exact (writes_toJsons args).member (.tail _ (.head _)) (by simp)
  | .aggregate function distinct none separator => by
    rw [occurrences]
    exact .nil
  | .aggregate function distinct (some e) separator => by
    rw [toJson, occurrences]
    refine (writes_toJson e).member
      (List.mem_append_left _ (List.mem_append_right _ (.head _))) ?_
    cases separator <;> simp [Json.optionalMember]

/-- The variables of several expressions stand in the list of their JSON forms. -/
theorem writes_toJsons : (es : List Expression) →
    (Json.arr (toJsons es)).Writes (allOccurrences es)
  | [] => .nil
  | e :: rest => by
    rw [toJsons, allOccurrences]
    exact ((writes_toJson e).within (Json.within_arr List.mem_cons_self)).append
      ((writes_toJsons rest).within (Json.within_arr_cons _ _))

end

end Expression

/-- The variables of a group key stand in its JSON form. -/
theorem GroupKey.writes_toJson (k : GroupKey) : k.toJson.Writes k.allVars := by
  obtain ⟨e, alias?⟩ := k
  cases alias? with
  | none =>
    exact (e.writes_toJson.member (.head _) (by simp [Json.optionalMember])).append .nil
  | some v =>
    exact (e.writes_toJson.member (.head _) (by simp [Json.optionalMember])).append
      (v.writes_toJson.member (.tail _ (.head _)) (by simp [Json.optionalMember]))

/-- The variables of an aggregate stand in its JSON form. -/
theorem AggregateBinding.writes_toJson (b : AggregateBinding) : b.toJson.Writes b.allVars := by
  have hkeys : [("variable", b.target.toJson), ("aggregate", b.aggregate.toJson)].Pairwise
      fun a b => a.1 ≠ b.1 := by simp
  exact (b.target.writes_toJson.member (.head _) hkeys).append
    (b.aggregate.toExpression.writes_toJson.member (.tail _ (.head _)) hkeys)

/-- The variables of a column stand in its JSON form. -/
theorem Column.writes_toJson : (c : Column) → c.toJson.Writes c.allVars
  | .expression e v =>
    (e.writes_toJson.member (.head _) (by simp)).append
      (v.writes_toJson.member (.tail _ (.head _)) (by simp))
  | .variable v => v.writes_toJson

/-- The variables of a sort key stand in its JSON form. -/
theorem OrderCondition.writes_toJson (c : OrderCondition) :
    c.toJson.Writes c.expression.occurrences :=
  c.expression.writes_toJson.member (.head _) (by simp)

/-- The variables of an inline row stand in its JSON form as keys. -/
theorem writes_valuesRowToJson (row : VariableMap (Option Term)) :
    (valuesRowToJson row).Writes row.keys := by
  intro v hv
  obtain ⟨e, he, rfl⟩ := List.mem_map.1 hv
  refine ⟨_, Json.mem_texts_mkObj ?_ (List.mem_map_of_mem he) (.inl rfl), rfl⟩
  rw [List.pairwise_map]
  refine row.sorted.imp fun {a b} h (heq : a.1.toText = b.1.toText) => ?_
  have hlt := Variable.toText_lt_toText h
  rw [heq] at hlt
  exact String.lt_irrefl _ hlt

namespace Algebra

/-- A node writes what its fields write. -/
theorem writes_node {kind key : String} {fields : List (String × Json)} {j : Json}
    {V : List Variable} (hm : (key, j) ∈ fields) (h : j.Writes V)
    (hkeys : (fields.map (·.1)).Nodup ∧ "type" ∉ fields.map (·.1)) :
    (node kind fields).Writes V := by
  refine h.member (List.mem_cons_of_mem _ hm) (List.pairwise_cons.2 ⟨fun m hm heq => ?_, ?_⟩)
  · exact hkeys.2 (List.mem_map.2 ⟨m, hm, heq.symm⟩)
  · exact List.pairwise_map.1 hkeys.1

mutual

/-- The variables of a query stand in its JSON form. -/
theorem writes_toJson : (a : Algebra) → a.toJson.Writes a.allVars
  | .bgp triples => by
    rw [toJson, allVars]
    exact writes_node (.head _) (.arr TriplePattern.writes_toJson) (by simp)
  | .join patterns => by
    rw [toJson, allVars]
    exact writes_node (.head _) (writes_toJsons patterns) (by simp)
  | .leftJoin patterns => by
    rw [toJson, allVars]
    exact writes_node (.head _) (writes_toJsons patterns) (by simp)
  | .union patterns => by
    rw [toJson, allVars]
    exact writes_node (.head _) (writes_toJsons patterns) (by simp)
  | .filter e => by
    rw [toJson, allVars]
    exact writes_node (.head _) e.writes_toJson (by simp)
  | .bind v e => by
    rw [toJson, allVars]
    exact .append (V := [v]) (writes_node (.head _) v.writes_toJson (by simp))
      (writes_node (.tail _ (.head _)) e.writes_toJson (by simp))
  | .values rows => by
    rw [toJson, allVars]
    exact writes_node (.head _) (.arr writes_valuesRowToJson) (by simp)
  | .service name silent patterns => by
    rw [toJson, allVars]
    exact writes_node (.tail _ (.tail _ (.head _))) (writes_toJsons patterns) (by simp)
  | .groupBy input keys aggregates => by
    rw [toJson, allVars]
    exact .append
      (.append (writes_node (.head _) (writes_toJson input) (by simp))
        (writes_node (.tail _ (.head _)) (.arr GroupKey.writes_toJson) (by simp)))
      (writes_node (.tail _ (.tail _ (.head _))) (.arr AggregateBinding.writes_toJson) (by simp))
  | .having input e => by
    rw [toJson, allVars]
    exact .append (writes_node (.head _) (writes_toJson input) (by simp))
      (writes_node (.tail _ (.head _)) e.writes_toJson (by simp))
  | .project input columns => by
    rw [toJson, allVars]
    exact .append (writes_node (.head _) (writes_toJson input) (by simp))
      (writes_node (.tail _ (.head _)) (.arr Column.writes_toJson) (by simp))
  | .orderBy input conditions => by
    rw [toJson, allVars]
    exact .append (writes_node (.head _) (writes_toJson input) (by simp))
      (writes_node (.tail _ (.head _)) (.arr OrderCondition.writes_toJson) (by simp))
  | .distinct input => by
    rw [toJson, allVars]
    exact writes_node (.head _) (writes_toJson input) (by simp)
  | .slice input offset limit => by
    rw [toJson, allVars]
    exact writes_node (.head _) (writes_toJson input) (by simp)
  | .construct template input => by
    rw [toJson, allVars]
    exact .append (writes_node (.head _) (.arr TriplePattern.writes_toJson) (by simp))
      (writes_node (.tail _ (.head _)) (writes_toJson input) (by simp))
  | .describe terms input => by
    rw [toJson, allVars]
    exact .append (writes_node (.head _) (.arr TermPattern.writes_toJson) (by simp))
      (writes_node (.tail _ (.head _)) (writes_toJson input) (by simp))
  | .ask input => by
    rw [toJson, allVars]
    exact writes_node (.head _) (writes_toJson input) (by simp)
  | .minus patterns => by
    rw [toJson, allVars]
    exact writes_node (.head _) (writes_toJsons patterns) (by simp)
  | .graph name patterns => by
    rw [toJson, allVars]
    exact .append (writes_node (.head _) name.writes_toJson (by simp))
      (writes_node (.tail _ (.head _)) (writes_toJsons patterns) (by simp))

/-- The variables of several nodes stand in the list of their JSON forms. -/
theorem writes_toJsons : (as : List Algebra) → (Json.arr (toJsons as)).Writes (allVarsEach as)
  | [] => .nil
  | a :: rest => by
    rw [toJsons, allVarsEach]
    exact ((writes_toJson a).within (Json.within_arr List.mem_cons_self)).append
      ((writes_toJsons rest).within (Json.within_arr_cons _ _))

end

/-- A source that avoids the JSON form of a query avoids the variables of the query. -/
theorem avoids_avoiding (a : Algebra) : (Names.avoiding a.toJson).Avoids {v | v ∈ a.allVars} :=
  Names.avoids_of_reserved fun v hv =>
    have ⟨_, ht, htext⟩ := a.writes_toJson v hv
    Names.name_mem_mentioned (htext ▸ ht)

end Algebra

end PagedSparql
