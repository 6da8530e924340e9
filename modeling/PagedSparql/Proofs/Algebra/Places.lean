import PagedSparql.Proofs.Plan.Groups

/-!
# Places of patterns

The place of a node is the nearest service around it, whether it stands in an optional group, and
the inline rows before it (`Place`). Planning goes from a node to those right below it
(`Algebra.Below`): a service is a place of its own for its clauses, and only for these; groups,
alternatives and queries inside a group set whether rows are kept; inline rows are put into the
basic graph patterns behind them in their group; all other nodes leave the place as it is.

The nodes that planning comes to (`Algebra.Visits`) are the same at every place, so that the
services among them can be told without one (`Algebra.Calls`).
-/

namespace PagedSparql

/-- Where a node of a query stands. -/
structure Place where
  /-- The address of the nearest service around it, if there is one. -/
  service? : Option String := none
  /-- Patterns keep the rows that they do not extend. -/
  optional : Bool := false
  /-- The inline rows that are put into a pattern. -/
  rows : List Row := []

/-- The place of a clause of a group behind inline rows, which are put into basic graph patterns. A
query that stands in a group is not optional. -/
def Place.clause (place : Place) (rows : List Row) (a : Algebra) : Place :=
  { place with
    optional := place.optional && !Plan.isSubquery a
    rows := if (Arrangeable.triples? a).isSome then rows else [] }

/-- The place of a basic graph pattern of a group. -/
theorem Place.clause_bgp (place : Place) (rows : List Row) (B : List TriplePattern) :
    place.clause rows (.bgp B) = { place with rows } := by
  simp [Place.clause, Plan.isSubquery, Arrangeable.triples?, Algebra.triples?]

/-- Where the nodes of a place are planned. The address of a service also names its graph. -/
def Scope.at (scope : Scope) (place : Place) : Scope :=
  { scope with
    address := place.service?.getD scope.address
    graph := place.service?.getD scope.graph
    optional := place.optional }

namespace Algebra

/-- The clauses of a group, and the place of the group. -/
def group? (place : Place) : Algebra → Option (Place × List Algebra)
  | .join patterns => some ({ place with optional := false }, patterns)
  | .leftJoin patterns => some ({ place with optional := true }, patterns)
  | .service name _ patterns =>
    match Plan.serviceAddress name with
    | .ok address => some ({ place with service? := some address }, patterns)
    | .error _ => none
  | _ => none

/-- The node that is modified. -/
def input? : Algebra → Option Algebra
  | .groupBy input _ _ => some input
  | .having input _ => some input
  | .project input _ => some input
  | .orderBy input _ => some input
  | .distinct input => some input
  | .slice input _ _ => some input
  | _ => none

/-- The node is among those of a list that planning comes to, behind some inline rows. What follows
inline rows is planned once for each of them, so that nothing follows where there are none. -/
inductive Reached (a : Algebra) : List Row → List Algebra → Prop
  /-- It is the first one. -/
  | head (rest : List Algebra) : Reached a [] (a :: rest)
  /-- It is one of those behind a clause. -/
  | tail {rows : List Row} {first : Algebra} {rest : List Algebra}
    (hfirst : ∀ inline, first ≠ .values inline) (h : Reached a rows rest) :
    Reached a rows (first :: rest)
  /-- It is one of those behind inline rows. -/
  | inline {row : Row} {rows : List Row} {inline : List (VariableMap (Option Term))}
    {rest : List Algebra} (hrow : row ∈ Plan.inlineRows inline) (h : Reached a rows rest) :
    Reached a (row :: rows) (.values inline :: rest)

/-- A node with its place is planned right below another one. -/
inductive Below : Place → Algebra → Place → Algebra → Prop
  /-- A clause of a group. -/
  | clause {place inside : Place} {a b : Algebra} {patterns : List Algebra} {rows : List Row}
    (hgroup : a.group? place = some (inside, patterns)) (h : Reached b rows (arrange patterns)) :
    Below place a (inside.clause rows b) b
  /-- An alternative. -/
  | branch {place : Place} {patterns : List Algebra} {b : Algebra} (h : b ∈ patterns) :
    Below place (.union patterns) { place with optional := false } b
  /-- What is modified. -/
  | input {place : Place} {a b : Algebra} (h : a.input? = some b) : Below place a place b

/-- Planning a node at a place comes to a node at a place. -/
inductive Visits : Place → Algebra → Place → Algebra → Prop
  /-- It begins with the node. -/
  | self (place : Place) (a : Algebra) : Visits place a place a
  /-- It goes on with the nodes below. -/
  | down {place place' place'' : Place} {a b c : Algebra} (h : Below place a place' b)
    (hc : Visits place' b place'' c) : Visits place a place'' c

/-- Planning the node comes to a service with the address. -/
def Calls (a : Algebra) (address : String) : Prop :=
  ∃ place place' name silent patterns,
    a.Visits place place' (.service name silent patterns) ∧
      Plan.serviceAddress name = .ok address

variable {place place' q : Place} {a b c : Algebra} {address : String}

/-- A group has the same clauses at every place. -/
theorem group?_anywhere {inside : Place} {patterns : List Algebra}
    (h : a.group? place = some (inside, patterns)) (q : Place) :
    ∃ inside', a.group? q = some (inside', patterns) := by
  cases a with
  | join _ =>
    obtain ⟨-, rfl⟩ := Prod.mk.inj (Option.some.inj h)
    exact ⟨_, rfl⟩
  | leftJoin _ =>
    obtain ⟨-, rfl⟩ := Prod.mk.inj (Option.some.inj h)
    exact ⟨_, rfl⟩
  | service name _ _ =>
    rw [group?] at h ⊢
    split at h
    · obtain ⟨-, rfl⟩ := Prod.mk.inj (Option.some.inj h)
      exact ⟨_, rfl⟩
    · exact absurd h (by simp)
  | _ => exact absurd h (by simp [group?])

/-- What is below a node is below it at every place. -/
theorem Below.anywhere (h : Below place a place' b) (q : Place) : ∃ q', Below q a q' b := by
  cases h with
  | clause hgroup hb =>
    obtain ⟨inside', hgroup'⟩ := group?_anywhere hgroup q
    exact ⟨_, .clause hgroup' hb⟩
  | branch hb => exact ⟨_, .branch hb⟩
  | input hb => exact ⟨_, .input hb⟩

/-- What is below a group is one of its clauses. -/
theorem Below.of_group {inside q q' : Place} {patterns : List Algebra}
    (hgroup : a.group? place = some (inside, patterns)) (h : Below q a q' b) :
    ∃ rows, Reached b rows (arrange patterns) := by
  cases h with
  | clause hgroup' hb =>
    obtain ⟨inside', hgroup⟩ := group?_anywhere hgroup q
    obtain ⟨-, rfl⟩ := Prod.mk.inj (Option.some.inj (hgroup.symm.trans hgroup'))
    exact ⟨_, hb⟩
  | branch hb => exact absurd hgroup (by simp [group?])
  | input hb => cases a <;> simp_all [group?, input?]

/-- What is below a union is one of its alternatives. -/
theorem Below.of_union {patterns : List Algebra} (h : Below place (.union patterns) place' b) :
    b ∈ patterns := by
  cases h with
  | clause hgroup _ => exact absurd hgroup (by simp [group?])
  | branch hb => exact hb
  | input hb => exact absurd hb (by simp [input?])

/-- What is below a node that modifies another one is this one, at the same place. -/
theorem Below.of_input (hinput : a.input? = some c) (h : Below place a place' b) :
    place' = place ∧ b = c := by
  cases h with
  | clause hgroup _ => cases a <;> simp_all [group?, input?]
  | branch _ => exact absurd hinput (by simp [input?])
  | input hb => exact ⟨rfl, Option.some.inj (hb.symm.trans hinput)⟩

/-- Planning comes to nodes of the list. -/
theorem Reached.mem {rows : List Row} {as : List Algebra} (h : Reached a rows as) : a ∈ as := by
  induction h with
  | head rest => exact List.mem_cons_self
  | tail _ _ ih => exact List.mem_cons_of_mem _ ih
  | inline _ _ ih => exact List.mem_cons_of_mem _ ih

/-- Planning comes to the same nodes at every place. -/
theorem Visits.anywhere (h : Visits place a place' b) (q : Place) : ∃ q', Visits q a q' b := by
  induction h generalizing q with
  | self => exact ⟨q, .self q _⟩
  | down h _ ih =>
    obtain ⟨q', h'⟩ := h.anywhere q
    obtain ⟨q'', hc⟩ := ih q'
    exact ⟨q'', .down h' hc⟩

/-- A node calls what a node below it calls. -/
theorem Calls.below (h : Below place a place' b) (hb : b.Calls address) : a.Calls address := by
  obtain ⟨q, q', name, silent, patterns, hvisits, haddress⟩ := hb
  obtain ⟨q'', hvisits⟩ := hvisits.anywhere place'
  exact ⟨place, q'', name, silent, patterns, .down h hvisits, haddress⟩

/-- The address that a node brings in as a service. -/
def Brings (a : Algebra) (address : String) : Prop :=
  ∃ name silent patterns, a = .service name silent patterns ∧
    Plan.serviceAddress name = .ok address

/-- A node calls what it brings in as a service, and what a node below it calls. -/
theorem Calls.inv (h : a.Calls address) :
    a.Brings address ∨ ∃ place place' b, Below place a place' b ∧ b.Calls address := by
  obtain ⟨place, place', name, silent, patterns, hvisits, haddress⟩ := h
  cases hvisits with
  | self => exact .inl ⟨name, silent, patterns, rfl, haddress⟩
  | down h hc => exact .inr ⟨_, _, _, h, _, _, name, silent, patterns, hc, haddress⟩

/-- A group calls what its clauses call, and what it brings in as a service. -/
theorem calls_group {inside : Place} {patterns : List Algebra}
    (hgroup : a.group? place = some (inside, patterns)) (address : String) :
    (a.Brings address ∨ ∃ rows b, Reached b rows (arrange patterns) ∧ b.Calls address) ↔
      a.Calls address := by
  constructor
  · rintro (⟨name, silent, patterns, rfl, haddress⟩ | ⟨rows, b, hb, hcalls⟩)
    · exact ⟨place, place, name, silent, patterns, .self _ _, haddress⟩
    · exact hcalls.below (.clause hgroup hb)
  · intro hcalls
    refine hcalls.inv.imp_right fun ⟨_, _, b, hbelow, hb⟩ => ?_
    obtain ⟨rows, hreached⟩ := hbelow.of_group hgroup
    exact ⟨rows, b, hreached, hb⟩

/-- A union calls what its alternatives call. -/
theorem calls_union {patterns : List Algebra} (address : String) :
    (∃ b ∈ patterns, b.Calls address) ↔ (union patterns).Calls address := by
  constructor
  · rintro ⟨b, hb, hcalls⟩
    have hbelow : Below {} (union patterns) {} b := .branch hb
    exact hcalls.below hbelow
  · intro hcalls
    obtain ⟨_, _, _, h, -⟩ | ⟨_, _, b, hbelow, hb⟩ := hcalls.inv
    · exact absurd h (by simp)
    · exact ⟨b, hbelow.of_union, hb⟩

/-- A node that modifies another one calls what this one calls. -/
theorem calls_input (hinput : a.input? = some b) (address : String) :
    b.Calls address ↔ a.Calls address := by
  have hbelow : Below {} a {} b := .input hinput
  refine ⟨fun hcalls => hcalls.below hbelow, fun hcalls => ?_⟩
  obtain ⟨_, _, _, rfl, -⟩ | ⟨_, _, c, hbelow, hc⟩ := hcalls.inv
  · exact absurd hinput (by simp [input?])
  · exact (hbelow.of_input hinput).2 ▸ hc

/-- No node is planned below the node. -/
def isEnd : Algebra → Bool
  | .join _ => false
  | .leftJoin _ => false
  | .service _ _ _ => false
  | .union _ => false
  | a => a.input?.isNone

/-- Planning such a node comes to no other. -/
theorem not_below (h : a.isEnd = true) : ¬Below place a place' b := by
  intro hbelow
  cases hbelow with
  | clause hgroup _ => cases a <;> simp_all [isEnd, group?]
  | branch _ => exact absurd h (by simp [isEnd])
  | input hinput => cases a <;> simp_all [isEnd, input?]

/-- Such a node calls nobody. -/
theorem not_calls (h : a.isEnd = true) : ¬a.Calls address := by
  intro hcalls
  obtain ⟨_, _, _, rfl, -⟩ | ⟨_, _, b, hb, -⟩ := hcalls.inv
  · exact absurd h (by simp [isEnd])
  · exact not_below h hb

/-- The clauses of a list call what the first one calls and what those behind it call. -/
theorem calls_cons {a : Algebra} {rest : List Algebra} (ha : ∀ inline, a ≠ .values inline)
    (address : String) :
    (∃ rows b, Reached b rows (a :: rest) ∧ b.Calls address) ↔
      a.Calls address ∨ ∃ rows b, Reached b rows rest ∧ b.Calls address := by
  constructor
  · rintro ⟨rows, b, hb, hcalls⟩
    cases hb with
    | head => exact .inl hcalls
    | tail _ hb => exact .inr ⟨rows, b, hb, hcalls⟩
    | inline _ _ => exact absurd rfl (ha _)
  · rintro (hcalls | ⟨rows, b, hb, hcalls⟩)
    · exact ⟨[], a, .head rest, hcalls⟩
    · exact ⟨rows, b, .tail ha hb, hcalls⟩

/-- The clauses of a list behind inline rows call what they call without them, if there are any. -/
theorem calls_inline {inline : List (VariableMap (Option Term))} {rest : List Algebra}
    (address : String) :
    (∃ rows b, Reached b rows (.values inline :: rest) ∧ b.Calls address) ↔
      Plan.inlineRows inline ≠ [] ∧ ∃ rows b, Reached b rows rest ∧ b.Calls address := by
  constructor
  · rintro ⟨rows, b, hb, hcalls⟩
    cases hb with
    | head => exact absurd hcalls (not_calls rfl)
    | tail hfirst _ => exact absurd rfl (hfirst inline)
    | inline hrow hb => exact ⟨List.ne_nil_of_mem hrow, _, b, hb, hcalls⟩
  · rintro ⟨hne, rows, b, hb, hcalls⟩
    obtain ⟨row, hrow⟩ := List.exists_mem_of_ne_nil _ hne
    exact ⟨row :: rows, b, .inline hrow hb, hcalls⟩

end Algebra

end PagedSparql
