import PagedSparql.Proofs.Algebra.KnownKinds
import PagedSparql.Proofs.Algebra.Legible

/-!
# Queries read back

`Algebra.toJson` writes a query and `Algebra.ofJson` reads it. A query is read back as it is exactly
when it is legible (`Algebra.ofJson_toJson_eq_ok_iff`), which is a condition on its leaves alone. The
kind of a node is told by its `type`, so nodes are never taken for others, and their fields are found
by their names. The law of one node (`Algebra.ofJsonWith?_succ_iff`) says what has to be read back
under it and what has to be legible beside that. The law of the tree is by induction on the fuel,
which has to be at least the depth of the JSON form.
-/

namespace PagedSparql

/-- A number of 64 bits is read back. -/
@[simp] theorem Json.uint64?_ofUInt64 (n : UInt64) : uint64? (ofUInt64 n) = some n := by
  have hn := n.toNat_lt
  have hrange : 0 ≤ (n.toNat : Int) ∧ (n.toNat : Int) < UInt64.size := by
    rw [UInt64.size]
    omega
  rw [ofUInt64, uint64?, if_pos hrange]
  simp

namespace Algebra

mutual

/-- All terms of the query are wire-safe, all variables that stand where a term could are legible,
and so are all operators of its paths. A variable that stands where only a variable can may have any
name. -/
def Legible : Algebra → Prop
  | .bgp triples => ∀ t ∈ triples, t.Legible
  | .join patterns => LegibleEach patterns
  | .leftJoin patterns => LegibleEach patterns
  | .union patterns => LegibleEach patterns
  | .filter e => e.Legible
  | .bind _ e => e.Legible
  | .values rows => ∀ row ∈ rows, ∀ v t, row.get? v = some (some t) → t.WireSafe
  | .service name _ patterns => name.WireSafe ∧ LegibleEach patterns
  | .groupBy input keys aggregates =>
    input.Legible ∧ (∀ k ∈ keys, k.expression.Legible) ∧
      ∀ b ∈ aggregates, b.aggregate.toExpression.Legible
  | .having input e => input.Legible ∧ e.Legible
  | .project input columns => input.Legible ∧ ∀ c ∈ columns, c.Legible
  | .orderBy input conditions => input.Legible ∧ ∀ c ∈ conditions, c.expression.Legible
  | .distinct input => input.Legible
  | .slice input _ _ => input.Legible
  | .construct template input => (∀ t ∈ template, t.Legible) ∧ input.Legible
  | .describe terms input => (∀ p ∈ terms, p.Legible) ∧ input.Legible
  | .ask input => input.Legible
  | .minus patterns => LegibleEach patterns
  | .graph name patterns => name.Legible ∧ LegibleEach patterns

/-- All of the nodes are legible. -/
def LegibleEach : List Algebra → Prop
  | [] => True
  | a :: rest => a.Legible ∧ LegibleEach rest

end

/-- The JSON forms of several nodes are those of each. -/
theorem toJsons_eq (as : List Algebra) : toJsons as = as.map toJson := by
  induction as with
  | nil => rfl
  | cons a rest ih => rw [toJsons, ih, List.map_cons]

/-- A node is read from its fields. -/
theorem ofJsonWith?_node (fuel : Nat) (root : Bool) (kind : String) {fields : List (String × Json)}
    (htype : "type" ∉ fields.map (·.1)) :
    ofJsonWith? (fuel + 1) root (node kind fields) =
      ofFields? (ofJsonWith? fuel false) kind
        ((fieldNames kind).map
          fun name => (("type", .str kind) :: fields).reverse.lookup name) := by
  obtain ⟨members, hobj, hlookup⟩ := Json.mkObj_spec (("type", .str kind) :: fields)
  have hkind : members.lookup "type" = some (.str kind) := by
    have hother : fields.reverse.lookup "type" = none :=
      List.lookup_eq_none_iff.2 fun m hm => by
        simpa using fun heq : "type" = m.1 =>
          htype (heq ▸ List.mem_map_of_mem (List.mem_reverse.1 hm))
    rw [hlookup, List.reverse_cons, List.lookup_append, hother]
    rfl
  rw [node, hobj, ofJsonWith?]
  simp [hkind, kindOfJson?, Json.fields?, hlookup]

/-- What stands under a key of a node is nested less deeply than the node. -/
theorem depth_lt_of_node {kind : String} {fields : List (String × Json)} {j : Json} (key : String)
    (hkey : (("type", .str kind) :: fields).reverse.lookup key = some j) :
    j.depth < (node kind fields).depth :=
  Json.depth_lt_of_get? key ((Json.get?_mkObj _ _).trans hkey)

/-- Nodes in a list under a key of a node are nested less deeply than the node. -/
theorem depth_lt_of_mem_node {kind : String} {fields : List (String × Json)} {as : List Algebra}
    (key : String)
    (hkey : (("type", .str kind) :: fields).reverse.lookup key = some (.arr (toJsons as))) :
    ∀ a ∈ as, a.toJson.depth < (node kind fields).depth := by
  intro a ha
  rw [toJsons_eq] at hkey
  exact (Json.depth_lt_of_mem (List.mem_map_of_mem ha)).trans (depth_lt_of_node key hkey)

/-! ## One node -/

/-- The nodes right under a node. -/
def children : Algebra → List Algebra
  | .bgp _ | .filter _ | .bind _ _ | .values _ => []
  | .join patterns | .leftJoin patterns | .union patterns | .minus patterns => patterns
  | .service _ _ patterns | .graph _ patterns => patterns
  | .groupBy input _ _ | .having input _ | .project input _ | .orderBy input _ => [input]
  | .distinct input | .slice input _ _ | .ask input => [input]
  | .construct _ input | .describe _ input => [input]

/-- What a node has beside the nodes under it is legible. -/
def LegibleHere : Algebra → Prop
  | .bgp triples => ∀ t ∈ triples, t.Legible
  | .filter e | .bind _ e | .having _ e => e.Legible
  | .values rows => ∀ row ∈ rows, ∀ v t, row.get? v = some (some t) → t.WireSafe
  | .service name _ _ => name.WireSafe
  | .groupBy _ keys aggregates =>
    (∀ k ∈ keys, k.expression.Legible) ∧ ∀ b ∈ aggregates, b.aggregate.toExpression.Legible
  | .project _ columns => ∀ c ∈ columns, c.Legible
  | .orderBy _ conditions => ∀ c ∈ conditions, c.expression.Legible
  | .construct template _ => ∀ t ∈ template, t.Legible
  | .describe terms _ => ∀ p ∈ terms, p.Legible
  | .graph name _ => name.Legible
  | .join _ | .leftJoin _ | .union _ | .minus _ | .distinct _ | .slice _ _ _ | .ask _ => True

/-- Nodes are legible when each is. -/
theorem legibleEach_iff {as : List Algebra} : LegibleEach as ↔ ∀ a ∈ as, a.Legible := by
  induction as with
  | nil => simp [LegibleEach]
  | cons a rest ih => rw [LegibleEach, ih, List.forall_mem_cons]

/-- A node is legible when the nodes under it are and so is what it has beside them. -/
theorem legible_iff (a : Algebra) : a.Legible ↔ (∀ m ∈ a.children, m.Legible) ∧ a.LegibleHere := by
  cases a <;> simp [Legible, LegibleHere, children, legibleEach_iff, and_comm]

/-- The nodes under a node are nested less deeply. -/
theorem depth_lt_of_mem_children {a : Algebra} :
    ∀ m ∈ a.children, m.toJson.depth < a.toJson.depth := by
  cases a with
  | bgp | filter | bind | values => exact fun _ hm => absurd hm List.not_mem_nil
  | join | leftJoin | union | minus | service | graph =>
    rw [toJson]
    exact depth_lt_of_mem_node "patterns" rfl
  | groupBy | having | project | orderBy | distinct | construct | describe | ask =>
    rw [toJson]
    exact List.forall_mem_singleton.2 (depth_lt_of_node "input" rfl)
  | slice =>
    rw [toJson]
    exact List.forall_mem_singleton.2 (depth_lt_of_node "input" (by simp [Json.lookup_cons_eq]))

/-- A node over a list of nodes is read back exactly when these are. -/
theorem ofJsonWith?_group_iff {fuel : Nat} {root : Bool} {kind : String}
    {make : List Algebra → Algebra} (hmake : Function.Injective make) {patterns : List Algebra}
    (hread : ∀ j, ofJsonWith? (fuel + 1) root (node kind [("patterns", j)]) =
      (Json.list? (ofJsonWith? fuel false) j).map make) :
    ofJsonWith? (fuel + 1) root (node kind [("patterns", .arr (toJsons patterns))]) =
        some (make patterns) ↔
      (∀ a ∈ patterns, ofJsonWith? fuel false a.toJson = some a) ∧ True := by
  rw [hread, toJsons_eq, and_true, ← Json.list?_map_eq_some_iff, Option.map_eq_some_iff]
  exact ⟨fun ⟨read, hlist, heq⟩ => hmake heq ▸ hlist, fun hlist => ⟨patterns, hlist, rfl⟩⟩

/-- A node is read back exactly when the nodes under it are and what it has beside them is
legible. -/
theorem ofJsonWith?_succ_iff (fuel : Nat) (root : Bool) (a : Algebra) :
    ofJsonWith? (fuel + 1) root a.toJson = some a ↔
      (∀ m ∈ a.children, ofJsonWith? fuel false m.toJson = some m) ∧ a.LegibleHere := by
  cases a with
  | bgp triples =>
    have hread : ofJsonWith? (fuel + 1) root (Algebra.bgp triples).toJson =
        (Json.list? TriplePattern.ofJson? (.arr (triples.map TriplePattern.toJson))).map .bgp := by
      rw [toJson]
      exact ofJsonWith?_node fuel root "bgp" (by simp)
    rw [hread]
    simp [children, LegibleHere, Json.list?_map_eq_some_iff, TriplePattern.ofJson?_toJson_iff]
  | join patterns =>
    rw [toJson]
    exact ofJsonWith?_group_iff (fun _ _ => join.inj)
      fun _ => ofJsonWith?_node fuel root "join" (by simp)
  | leftJoin patterns =>
    rw [toJson]
    exact ofJsonWith?_group_iff (fun _ _ => leftJoin.inj)
      fun _ => ofJsonWith?_node fuel root "leftJoin" (by simp)
  | union patterns =>
    rw [toJson]
    exact ofJsonWith?_group_iff (fun _ _ => union.inj)
      fun _ => ofJsonWith?_node fuel root "union" (by simp)
  | filter e =>
    have hread : ofJsonWith? (fuel + 1) root (Algebra.filter e).toJson =
        (Expression.ofJson? e.toJson).map .filter := by
      rw [toJson]
      exact ofJsonWith?_node fuel root "filter" (by simp)
    rw [hread]
    simp [children, LegibleHere, Expression.ofJson?_toJson_iff]
  | bind v e =>
    have hread : ofJsonWith? (fuel + 1) root (Algebra.bind v e).toJson =
        (do some (.bind (← Variable.ofJson? v.toJson) (← Expression.ofJson? e.toJson))) := by
      rw [toJson]
      exact ofJsonWith?_node fuel root "bind" (by simp)
    rw [hread]
    simp [children, LegibleHere, Option.bind_eq_some_iff, Expression.ofJson?_toJson_iff]
  | values rows =>
    have hread : ofJsonWith? (fuel + 1) root (Algebra.values rows).toJson =
        (Json.list? valuesRowOfJson? (.arr (rows.map valuesRowToJson))).map .values := by
      rw [toJson]
      exact ofJsonWith?_node fuel root "values" (by simp)
    rw [hread]
    simp [children, LegibleHere, Json.list?_map_eq_some_iff, valuesRowOfJson?_toJson_iff]
  | service name silent patterns =>
    have hread : ofJsonWith? (fuel + 1) root (Algebra.service name silent patterns).toJson =
        (do
          let name ← Term.ofJson? name.toJson
          let patterns ← Json.list? (ofJsonWith? fuel false) (.arr (patterns.map toJson))
          some (.service name silent patterns)) := by
      rw [toJson, toJsons_eq]
      exact ofJsonWith?_node fuel root "service" (by simp)
    rw [hread]
    simp [children, LegibleHere, Option.bind_eq_some_iff, Json.list?_map_eq_some_iff,
      Term.ofJson?_toJson_iff, and_comm]
  | groupBy input keys aggregates =>
    have hread : ofJsonWith? (fuel + 1) root (Algebra.groupBy input keys aggregates).toJson =
        (do
          let input ← ofJsonWith? fuel false input.toJson
          let keys ← Json.list? GroupKey.ofJson? (.arr (keys.map GroupKey.toJson))
          let aggregates ←
            Json.list? AggregateBinding.ofJson? (.arr (aggregates.map AggregateBinding.toJson))
          some (.groupBy input keys aggregates)) := by
      rw [toJson]
      exact ofJsonWith?_node fuel root "groupBy" (by simp)
    rw [hread]
    simp [children, LegibleHere, Option.bind_eq_some_iff, Json.list?_map_eq_some_iff,
      GroupKey.ofJson?_toJson_iff, AggregateBinding.ofJson?_toJson_iff]
  | having input e =>
    have hread : ofJsonWith? (fuel + 1) root (Algebra.having input e).toJson =
        (do
          let input ← ofJsonWith? fuel false input.toJson
          some (.having input (← Expression.ofJson? e.toJson))) := by
      rw [toJson]
      exact ofJsonWith?_node fuel root "having" (by simp)
    rw [hread]
    simp [children, LegibleHere, Option.bind_eq_some_iff, Expression.ofJson?_toJson_iff]
  | project input columns =>
    have hread : ofJsonWith? (fuel + 1) root (Algebra.project input columns).toJson =
        (do
          let input ← ofJsonWith? fuel false input.toJson
          let columns ← Json.list? Column.ofJson? (.arr (columns.map Column.toJson))
          some (.project input columns)) := by
      rw [toJson]
      exact ofJsonWith?_node fuel root "project" (by simp)
    rw [hread]
    simp [children, LegibleHere, Option.bind_eq_some_iff, Json.list?_map_eq_some_iff,
      Column.ofJson?_toJson_iff]
  | orderBy input conditions =>
    have hread : ofJsonWith? (fuel + 1) root (Algebra.orderBy input conditions).toJson =
        (do
          let input ← ofJsonWith? fuel false input.toJson
          let conditions ←
            Json.list? OrderCondition.ofJson? (.arr (conditions.map OrderCondition.toJson))
          some (.orderBy input conditions)) := by
      rw [toJson]
      exact ofJsonWith?_node fuel root "orderBy" (by simp)
    rw [hread]
    simp [children, LegibleHere, Option.bind_eq_some_iff, Json.list?_map_eq_some_iff,
      OrderCondition.ofJson?_toJson_iff]
  | distinct input =>
    have hread : ofJsonWith? (fuel + 1) root (Algebra.distinct input).toJson =
        (ofJsonWith? fuel false input.toJson).map .distinct := by
      rw [toJson]
      exact ofJsonWith?_node fuel root "distinct" (by simp)
    rw [hread]
    simp [children, LegibleHere]
  | slice input offset limit =>
    -- The fields are variables here, so that no number of 64 bits is unfolded.
    have hread : ∀ i o l, ofJsonWith? (fuel + 1) root
        (node "slice" [("input", i), ("offset", o), ("limit", l)]) =
        (do
          let input ← ofJsonWith? fuel false i
          let offset ← Json.uint64? o
          let limit ← Json.nullable? Json.uint64? l
          some (.slice input offset limit)) :=
      fun i o l => ofJsonWith?_node fuel root "slice" (by simp)
    have hlimit : Json.nullable? Json.uint64? ((limit.map Json.ofUInt64).getD .null) =
        some limit := by
      cases limit with
      | none => rfl
      | some n =>
        have hn : Json.ofUInt64 n ≠ .null := nofun
        simp [Json.nullable?_of_ne_null hn]
    rw [toJson, hread, hlimit]
    simp [children, LegibleHere, Option.bind_eq_some_iff]
  | construct template input =>
    have hread : ofJsonWith? (fuel + 1) root (Algebra.construct template input).toJson =
        (do
          let template ← Json.list? TriplePattern.ofJson? (.arr (template.map TriplePattern.toJson))
          some (.construct template (← ofJsonWith? fuel false input.toJson))) := by
      rw [toJson]
      exact ofJsonWith?_node fuel root "construct" (by simp)
    rw [hread]
    simp [children, LegibleHere, Option.bind_eq_some_iff, Json.list?_map_eq_some_iff,
      TriplePattern.ofJson?_toJson_iff, and_comm]
  | describe terms input =>
    have hread : ofJsonWith? (fuel + 1) root (Algebra.describe terms input).toJson =
        (do
          let terms ← Json.list? TermPattern.ofJson? (.arr (terms.map TermPattern.toJson))
          some (.describe terms (← ofJsonWith? fuel false input.toJson))) := by
      rw [toJson]
      exact ofJsonWith?_node fuel root "describe" (by simp)
    rw [hread]
    simp [children, LegibleHere, Option.bind_eq_some_iff, Json.list?_map_eq_some_iff,
      TermPattern.ofJson?_toJson_iff, and_comm]
  | ask input =>
    have hread : ofJsonWith? (fuel + 1) root (Algebra.ask input).toJson =
        (ofJsonWith? fuel false input.toJson).map .ask := by
      rw [toJson]
      exact ofJsonWith?_node fuel root "ask" (by simp)
    rw [hread]
    simp [children, LegibleHere]
  | minus patterns =>
    rw [toJson]
    exact ofJsonWith?_group_iff (fun _ _ => minus.inj)
      fun _ => ofJsonWith?_node fuel root "minus" (by simp)
  | graph name patterns =>
    have hread : ofJsonWith? (fuel + 1) root (Algebra.graph name patterns).toJson =
        (do
          let name ← TermPattern.ofJson? name.toJson
          let patterns ← Json.list? (ofJsonWith? fuel false) (.arr (patterns.map toJson))
          some (.graph name patterns)) := by
      rw [toJson, toJsons_eq]
      exact ofJsonWith?_node fuel root "graph" (by simp)
    rw [hread]
    simp [children, LegibleHere, Option.bind_eq_some_iff, Json.list?_map_eq_some_iff,
      TermPattern.ofJson?_toJson_iff, and_comm]

/-! ## The tree -/

/-- A node is read back exactly when it is legible. -/
theorem ofJsonWith?_toJson_iff (a : Algebra) {fuel : Nat} {root : Bool}
    (h : a.toJson.depth ≤ fuel) : ofJsonWith? fuel root a.toJson = some a ↔ a.Legible := by
  induction fuel generalizing a root with
  | zero =>
    obtain ⟨_, h₀⟩ := Json.exists_fuel h
    exact absurd h₀ (Nat.zero_ne_add_one _)
  | succ fuel ih =>
    rw [ofJsonWith?_succ_iff, legible_iff]
    refine and_congr_left' (forall₂_congr fun m hm => ih m ?_)
    exact Nat.le_of_lt_succ ((depth_lt_of_mem_children m hm).trans_le h)

/-- A query is read back from its JSON form exactly when it is legible. -/
theorem ofJson_toJson_eq_ok_iff (a : Algebra) : ofJson a.toJson = .ok a ↔ a.Legible := by
  have hread : ofJsonWith? a.toJson.depth true a.toJson = some a ↔ a.Legible :=
    ofJsonWith?_toJson_iff a le_rfl
  rw [← hread, ofJson, unknownKind?_toJson, ofJson?]
  cases ofJsonWith? a.toJson.depth true a.toJson <;> simp

end Algebra

end PagedSparql
