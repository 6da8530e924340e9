import PagedSparql.Algebra.Reading
import PagedSparql.Algebra.Writing
import PagedSparql.Proofs.Json.Written
import PagedSparql.Proofs.Rdf.RowNotation

/-!
# The kinds of written nodes

A query is read only if no value in its text has a `type` that names an unknown kind of node
(`Algebra.unknownKind?`), at whatever place the value stands. What `Algebra.toJson` writes has none
(`Algebra.unknownKind?_toJson`): only nodes have a member of that key, since the keys of inline rows
begin with a sigil.
-/

namespace PagedSparql

namespace Algebra

/-- A list names no unknown kind exactly when none of its values does. -/
theorem unknownKindItems?_eq_none_iff {items : List Json} :
    unknownKindItems? items = none ↔ ∀ j ∈ items, unknownKind? j = none := by
  induction items with
  | nil => simp [unknownKindItems?]
  | cons j rest ih => simp [unknownKindItems?, ih]

/-- Members name no unknown kind exactly when none of their values does. -/
theorem unknownKindMembers?_eq_none_iff {members : List (String × Json)} :
    unknownKindMembers? members = none ↔ ∀ m ∈ members, unknownKind? m.2 = none := by
  induction members with
  | nil => simp [unknownKindMembers?]
  | cons m rest ih => simp [unknownKindMembers?, ih]

/-- A text names no kind. -/
@[simp] theorem unknownKind?_str (s : String) : unknownKind? (.str s) = none := rfl

/-- A truth value names no kind. -/
@[simp] theorem unknownKind?_bool (b : Bool) : unknownKind? (.bool b) = none := rfl

/-- Values written to a list name no unknown kind if none of them does. -/
theorem unknownKind?_arr_map {α : Type} {write : α → Json} {xs : List α}
    (h : ∀ x ∈ xs, unknownKind? (write x) = none) : unknownKind? (.arr (xs.map write)) = none := by
  rw [unknownKind?, unknownKindItems?_eq_none_iff]
  exact List.forall_mem_map.2 h

/-- An object names no unknown kind if its values name none and its own kind, if any, is known. -/
theorem unknownKind?_mkObj {members : List (String × Json)}
    (hvalues : ∀ m ∈ members, unknownKind? m.2 = none)
    (htype : ∀ kind, ("type", .str kind) ∈ members → kind ∈ kinds) :
    unknownKind? (.mkObj members) = none := by
  obtain ⟨all, hobj, hsub⟩ := Json.exists_mkObj_subset members
  rw [hobj, unknownKind?, unknownKindMembers?_eq_none_iff.2 fun m hm => hvalues m (hsub hm)]
  simp only [Option.or_none]
  split
  · next kind hkind =>
    obtain ⟨before, after, rfl, -⟩ := List.lookup_eq_some_iff.1 hkind
    rw [if_pos (List.contains_iff_mem.2 (htype kind (hsub (by simp))))]
  · rfl

/-- A record that is no node names no unknown kind if its values name none. -/
theorem unknownKind?_record {members : List (String × Json)}
    (h : ∀ m ∈ members, m.1 ≠ "type" ∧ unknownKind? m.2 = none) :
    unknownKind? (.mkObj members) = none :=
  unknownKind?_mkObj (fun m hm => (h m hm).2) fun _ hm => absurd rfl (h _ hm).1

/-- A node of a known kind names no unknown one if its fields name none. -/
theorem unknownKind?_node {kind : String} {fields : List (String × Json)} (hkind : kind ∈ kinds)
    (h : ∀ m ∈ fields, m.1 ≠ "type" ∧ unknownKind? m.2 = none) :
    unknownKind? (node kind fields) = none := by
  refine unknownKind?_mkObj (fun m hm => ?_) fun kind' hm => ?_
  · rcases List.mem_cons.1 hm with rfl | hm
    · rfl
    · exact (h m hm).2
  · rcases List.mem_cons.1 hm with heq | hm
    · cases heq
      exact hkind
    · exact absurd rfl (h _ hm).1

end Algebra

open PagedSparql.Algebra (unknownKind? unknownKindItems? unknownKind?_record)

/-- A position names no kind. -/
@[simp] theorem TermPattern.unknownKind?_toJson (p : TermPattern) :
    unknownKind? p.toJson = none := rfl

/-- A term names no kind. -/
@[simp] theorem Term.unknownKind?_toJson (t : Term) : unknownKind? t.toJson = none := rfl

/-- A variable names no kind. -/
@[simp] theorem Variable.unknownKind?_toJson (v : Variable) : unknownKind? v.toJson = none := rfl

mutual

/-- A predicate names no kind. -/
@[simp] theorem Predicate.unknownKind?_toJson : (p : Predicate) → unknownKind? p.toJson = none
  | .plain p => by rw [Predicate.toJson, TermPattern.unknownKind?_toJson]
  | .path kind items => by
    rw [Predicate.toJson]
    refine unknownKind?_record ?_
    simp [unknownKind?, Predicate.unknownKindItems?_toJsons items]

/-- Predicates name no kinds. -/
theorem Predicate.unknownKindItems?_toJsons :
    (items : List Predicate) → unknownKindItems? (Predicate.toJsons items) = none
  | [] => rfl
  | p :: rest => by
    rw [Predicate.toJsons, unknownKindItems?, Predicate.unknownKind?_toJson p,
      Predicate.unknownKindItems?_toJsons rest]
    rfl

end

/-- A triple pattern names no kind. -/
theorem TriplePattern.unknownKind?_toJson (t : TriplePattern) : unknownKind? t.toJson = none :=
  unknownKind?_record (by simp)

mutual

/-- An expression names no kind. -/
@[simp] theorem Expression.unknownKind?_toJson : (e : Expression) → unknownKind? e.toJson = none
  | .leaf p => by rw [Expression.toJson, TermPattern.unknownKind?_toJson]
  | .call operator args => by
    rw [Expression.toJson]
    refine unknownKind?_record ?_
    simp [unknownKind?, Expression.unknownKindItems?_toJsons args]
  | .aggregate function distinct none separator => by
    rw [Expression.toJson]
    refine unknownKind?_record ?_
    cases separator <;> simp [Json.optionalMember]
  | .aggregate function distinct (some e) separator => by
    have he := Expression.unknownKind?_toJson e
    rw [Expression.toJson]
    refine unknownKind?_record ?_
    cases separator <;> simp [Json.optionalMember, he]

/-- Expressions name no kinds. -/
theorem Expression.unknownKindItems?_toJsons :
    (es : List Expression) → unknownKindItems? (Expression.toJsons es) = none
  | [] => rfl
  | e :: rest => by
    rw [Expression.toJsons, unknownKindItems?, Expression.unknownKind?_toJson e,
      Expression.unknownKindItems?_toJsons rest]
    rfl

end

/-- A group key names no kind. -/
theorem GroupKey.unknownKind?_toJson (k : GroupKey) : unknownKind? k.toJson = none := by
  refine unknownKind?_record ?_
  cases k.alias? <;> simp [Json.optionalMember]

/-- An aggregate with its variable names no kind. -/
theorem AggregateBinding.unknownKind?_toJson (b : AggregateBinding) :
    unknownKind? b.toJson = none :=
  unknownKind?_record (by simp [Aggregate.toJson])

/-- A column names no kind. -/
theorem Column.unknownKind?_toJson : (c : Column) → unknownKind? c.toJson = none
  | .expression _ _ => unknownKind?_record (by simp)
  | .variable v => v.unknownKind?_toJson

/-- A sort key names no kind. -/
theorem OrderCondition.unknownKind?_toJson (c : OrderCondition) : unknownKind? c.toJson = none :=
  unknownKind?_record (by simp)

/-- An inline row names no kind, whatever its variables are called. -/
theorem unknownKind?_valuesRowToJson (row : VariableMap (Option Term)) :
    unknownKind? (valuesRowToJson row) = none := by
  refine unknownKind?_record (List.forall_mem_map.2 fun (v, t) _ => ⟨fun heq => ?_, ?_⟩)
  · -- The key of a cell begins with a sigil, and so is not `type`.
    have hsigil := congrArg String.toList heq
    rw [Variable.toList_toText] at hsigil
    exact absurd (List.cons.inj hsigil).1 (by decide)
  · cases t <;> rfl

namespace Algebra

mutual

/-- A query that is written names no unknown kind of node. -/
theorem unknownKind?_toJson : (a : Algebra) → unknownKind? a.toJson = none
  | .bgp triples => by
    have htriples := unknownKind?_arr_map fun t (_ : t ∈ triples) => t.unknownKind?_toJson
    rw [toJson]
    exact unknownKind?_node (kind_mem_kinds (.bgp [])) (by simp [htriples])
  | .join patterns => by
    have hpatterns := unknownKindItems?_toJsons patterns
    rw [toJson]
    exact unknownKind?_node (kind_mem_kinds (.join [])) (by simp [unknownKind?, hpatterns])
  | .leftJoin patterns => by
    have hpatterns := unknownKindItems?_toJsons patterns
    rw [toJson]
    exact unknownKind?_node (kind_mem_kinds (.leftJoin [])) (by simp [unknownKind?, hpatterns])
  | .union patterns => by
    have hpatterns := unknownKindItems?_toJsons patterns
    rw [toJson]
    exact unknownKind?_node (kind_mem_kinds (.union [])) (by simp [unknownKind?, hpatterns])
  | .filter e => by
    rw [toJson]
    exact unknownKind?_node (kind_mem_kinds (.filter e)) (by simp)
  | .bind v e => by
    rw [toJson]
    exact unknownKind?_node (kind_mem_kinds (.bind v e)) (by simp)
  | .values rows => by
    have hrows := unknownKind?_arr_map fun row (_ : row ∈ rows) => unknownKind?_valuesRowToJson row
    rw [toJson]
    exact unknownKind?_node (kind_mem_kinds (.values [])) (by simp [hrows])
  | .service name silent patterns => by
    have hpatterns := unknownKindItems?_toJsons patterns
    rw [toJson]
    exact unknownKind?_node (kind_mem_kinds (.service name silent []))
      (by simp [unknownKind?, hpatterns])
  | .groupBy input keys aggregates => by
    have hinput := unknownKind?_toJson input
    have hkeys := unknownKind?_arr_map fun k (_ : k ∈ keys) => k.unknownKind?_toJson
    have haggregates := unknownKind?_arr_map fun b (_ : b ∈ aggregates) => b.unknownKind?_toJson
    rw [toJson]
    exact unknownKind?_node (kind_mem_kinds (.groupBy input [] []))
      (by simp [hinput, hkeys, haggregates])
  | .having input e => by
    have hinput := unknownKind?_toJson input
    rw [toJson]
    exact unknownKind?_node (kind_mem_kinds (.having input e)) (by simp [hinput])
  | .project input columns => by
    have hinput := unknownKind?_toJson input
    have hcolumns := unknownKind?_arr_map fun c (_ : c ∈ columns) => c.unknownKind?_toJson
    rw [toJson]
    exact unknownKind?_node (kind_mem_kinds (.project input [])) (by simp [hinput, hcolumns])
  | .orderBy input conditions => by
    have hinput := unknownKind?_toJson input
    have hconditions := unknownKind?_arr_map fun c (_ : c ∈ conditions) => c.unknownKind?_toJson
    rw [toJson]
    exact unknownKind?_node (kind_mem_kinds (.orderBy input [])) (by simp [hinput, hconditions])
  | .distinct input => by
    have hinput := unknownKind?_toJson input
    rw [toJson]
    exact unknownKind?_node (kind_mem_kinds (.distinct input)) (by simp [hinput])
  | .slice input offset limit => by
    have hinput := unknownKind?_toJson input
    have hoffset : unknownKind? (.ofUInt64 offset) = none := rfl
    have hlimit : unknownKind? ((limit.map Json.ofUInt64).getD .null) = none := by
      cases limit <;> rfl
    rw [toJson]
    exact unknownKind?_node (kind_mem_kinds (.slice input offset limit))
      (by simp [hinput, hoffset, hlimit])
  | .construct template input => by
    have hinput := unknownKind?_toJson input
    have htemplate := unknownKind?_arr_map fun t (_ : t ∈ template) => t.unknownKind?_toJson
    rw [toJson]
    exact unknownKind?_node (kind_mem_kinds (.construct [] input)) (by simp [hinput, htemplate])
  | .describe terms input => by
    have hinput := unknownKind?_toJson input
    have hterms := unknownKind?_arr_map fun p (_ : p ∈ terms) => p.unknownKind?_toJson
    rw [toJson]
    exact unknownKind?_node (kind_mem_kinds (.describe [] input)) (by simp [hinput, hterms])
  | .ask input => by
    have hinput := unknownKind?_toJson input
    rw [toJson]
    exact unknownKind?_node (kind_mem_kinds (.ask input)) (by simp [hinput])
  | .minus patterns => by
    have hpatterns := unknownKindItems?_toJsons patterns
    rw [toJson]
    exact unknownKind?_node (kind_mem_kinds (.minus [])) (by simp [unknownKind?, hpatterns])
  | .graph name patterns => by
    have hpatterns := unknownKindItems?_toJsons patterns
    rw [toJson]
    exact unknownKind?_node (kind_mem_kinds (.graph name [])) (by simp [unknownKind?, hpatterns])

/-- Queries that are written name no unknown kinds of nodes. -/
theorem unknownKindItems?_toJsons : (as : List Algebra) → unknownKindItems? (toJsons as) = none
  | [] => rfl
  | a :: rest => by
    rw [toJsons, unknownKindItems?, unknownKind?_toJson a, unknownKindItems?_toJsons rest]
    rfl

end

end Algebra

end PagedSparql
