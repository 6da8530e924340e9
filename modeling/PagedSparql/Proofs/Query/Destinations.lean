import PagedSparql.Proofs.Algebra.LiftedPlaces
import PagedSparql.Proofs.Plan.Places
import PagedSparql.Proofs.Query.Cancellation

/-!
# Where queries go

Each request of a query is one for a basic graph pattern of the query. It goes to the endpoint of
the nearest service around the pattern, and is about the graph that has the name of this endpoint;
if there is no such service, it goes to the endpoint of the query and is about its graph. A query
that describes terms has a pattern of its own for each of them, which stands outside of all
services.

A query has one client for its endpoint, and one for each endpoint of a service that planning comes
to (`Engine.compile_destinations`).
-/

namespace PagedSparql

variable {σ : Type}

namespace Algebra

/-- The pattern of a query. -/
def body : Algebra → Algebra
  | .construct _ input => input
  | .describe _ input => input
  | .ask input => input
  | a => a

/-- The basic graph patterns of a query with their places. -/
inductive Patterns (a : Algebra) : Place → List TriplePattern → Prop
  /-- Those that planning comes to. -/
  | body {place : Place} {B : List TriplePattern} (h : a.body.Visits {} place (.bgp B)) :
    Patterns a place B
  /-- Those that describe terms. -/
  | description {terms : List TermPattern} {input : Algebra} {term : TermPattern}
    {predicate object : Variable} (ha : a = .describe terms input) (h : term ∈ terms) :
    Patterns a {} [⟨term, .plain (.variable predicate), .variable object⟩]

/-- A pattern in front of descriptions stays there, unless it is a condition. -/
theorem arrange_described (b : Algebra) (patterns : List Algebra) :
    arrange [b, .union patterns] = [b, .union patterns] ∨
      arrange [b, .union patterns] = [.union patterns, b] := by
  cases b with
  | filter _ => exact .inr rfl
  | _ => exact .inl rfl

/-- Planning a pattern together with descriptions comes to the pattern. -/
theorem reached_body (b : Algebra) (patterns : List Algebra) :
    Reached b [] (arrange [b, .union patterns]) := by
  obtain heq | heq := arrange_described b patterns <;> rw [heq]
  · exact .head _
  · exact .tail (fun _ => nofun) (.head _)

/-- Besides, it comes to the descriptions only. -/
theorem reached_described {b c : Algebra} {patterns : List Algebra} {rows : List Row}
    (h : Reached c rows (arrange [b, .union patterns])) :
    c = b ∧ rows = [] ∨ c = .union patterns := by
  obtain heq | heq := arrange_described b patterns <;> rw [heq] at h
  · cases h with
    | head => exact .inl ⟨rfl, rfl⟩
    | tail _ h => exact .inr (by simpa using h.mem)
    | inline _ h => exact .inr (by simpa using h.mem)
  · cases h with
    | head => exact .inr rfl
    | tail _ h =>
      cases h with
      | head => exact .inl ⟨rfl, rfl⟩
      | tail _ h => exact nomatch h
      | inline _ h => exact nomatch h

end Algebra

/-- Nothing is around a query. -/
theorem Place.clause_empty (a : Algebra) : Place.clause {} [] a = {} := by simp [Place.clause]

/-- The bound joins of the plan are told some patterns. -/
def QueryPlan.Serves (goals : BoundPattern → Prop) : QueryPlan → Prop
  | .solutions stage => stage.Serves goals
  | .triples construction => construction.source.Serves goals
  | .truth stage => stage.Serves goals

/-- More patterns. -/
theorem QueryPlan.Serves.mono {goals goals' : BoundPattern → Prop} {plan : QueryPlan}
    (h : plan.Serves goals) (hgoals : ∀ g, goals g → goals' g) : plan.Serves goals' := by
  cases plan with
  | solutions stage => exact Stage.Serves.mono h hgoals
  | triples construction => exact Stage.Serves.mono h hgoals
  | truth stage => exact Stage.Serves.mono h hgoals

namespace Plan

open Planner PagedSparql.Algebra

/-- What bound joins are told for the basic graph patterns of a query. -/
def Goals (base : Scope) (a : Algebra) (goal : BoundPattern) : Prop :=
  ∃ place B, a.Patterns place B ∧ Tells (base.at place) place.rows B goal

/-- Lifting a query opens nothing. -/
theorem still_lifted (a : Algebra) : (lifted a).Still := still_naming _

/-- What a query is lifted to. -/
theorem gives_lifted (a : Algebra) : (lifted a).Gives a.Lifts := by
  intro scope n b n' h
  obtain ⟨names, hlift⟩ := naming_inv h
  exact ⟨⟨[], n.naming⟩, (Prod.mk.inj (Except.ok.inj hlift)).1⟩

/-- The pattern of a query, lifted and planned. -/
theorem plans_lifted (input : Algebra) {f : Stage → QueryPlan}
    (hf : ∀ {goals : BoundPattern → Prop} {st : Stage}, st.Serves goals → (f st).Serves goals) :
    (do return f (← stage (← lifted input)) : Planner QueryPlan).Plans input.Calls
      fun scope plan => ∀ base, Scope.at base {} = scope → plan.Serves (Asked base {} input) := by
  refine (still_lifted input).bind_plans_of_gives (gives_lifted input) fun b hb => ?_
  refine ((plans_stage b).map fun scope st hst base hscope => hf ?_).congr (calls_lifts hb)
    fun _ _ h => h
  refine Stage.Serves.mono (hst base {} hscope rfl) fun goal hgoal => ?_
  obtain ⟨place, B, hvisits, htells⟩ := hgoal
  exact ⟨place, B, visits_of_lifts hb hvisits, htells⟩

/-- The description of a term is a pattern about it. -/
theorem gives_descriptions (terms : List TermPattern) : (descriptions terms).Gives fun template =>
    ∀ t ∈ template, ∃ term ∈ terms, ∃ predicate object : Variable,
      t = ⟨term, .plain (.variable predicate), .variable object⟩ := by
  induction terms with
  | nil => exact gives_pure (by simp)
  | cons term rest ih =>
    refine gives_bind fun predicate => gives_bind fun object => ih.bind fun others hothers =>
      gives_pure (List.forall_mem_cons.2 ⟨⟨term, List.mem_cons_self, predicate, object, rfl⟩, ?_⟩)
    intro t ht
    obtain ⟨term', hterm', h⟩ := hothers t ht
    exact ⟨term', List.mem_cons_of_mem _ hterm', h⟩

/-- A basic graph pattern of a pattern together with descriptions is one of the pattern, or a
description, which stands outside. -/
theorem visits_described {b : Algebra} {template : List TriplePattern} {place : Place}
    {B : List TriplePattern}
    (h : (Algebra.join [b, .union (template.map fun t => .bgp [t])]).Visits {} place (.bgp B)) :
    b.Visits {} place (.bgp B) ∨ place = {} ∧ ∃ t ∈ template, B = [t] := by
  cases h with
  | down hbelow hvisits =>
    cases hbelow with
    | clause hgroup hc =>
      obtain ⟨rfl, rfl⟩ := Prod.mk.inj (Option.some.inj hgroup)
      obtain ⟨rfl, rfl⟩ | rfl := reached_described hc
      · rw [Place.clause_empty] at hvisits
        exact .inl hvisits
      · cases hvisits with
        | down hbelow hvisits =>
          cases hbelow with
          | clause hgroup _ => exact nomatch hgroup
          | branch hd =>
            obtain ⟨t, ht, rfl⟩ := List.mem_map.1 hd
            cases hvisits with
            | self => exact .inr ⟨rfl, t, ht, rfl⟩
            | down hbelow _ => exact absurd hbelow (not_below rfl)
          | input hinput => exact nomatch hinput
    | input hinput => exact nomatch hinput

/-- A pattern together with descriptions calls what the pattern calls. -/
theorem calls_described (b : Algebra) (template : List TriplePattern) (address : String) :
    (Algebra.join [b, .union (template.map fun t => .bgp [t])]).Calls address ↔
      b.Calls address := by
  have hgroup : (Algebra.join [b, .union (template.map fun t => .bgp [t])]).group? {} =
      some ({}, [b, .union (template.map fun t => .bgp [t])]) := rfl
  rw [← calls_group hgroup]
  constructor
  · rintro (⟨_, _, _, h, -⟩ | ⟨rows, c, hc, hcalls⟩)
    · exact nomatch h
    · obtain ⟨rfl, rfl⟩ | rfl := reached_described hc
      · exact hcalls
      · obtain ⟨d, hd, hcalls⟩ := (calls_union address).2 hcalls
        obtain ⟨t, -, rfl⟩ := List.mem_map.1 hd
        exact absurd hcalls (not_calls rfl)
  · exact fun h => .inr ⟨[], b, reached_body b _, h⟩

/-- **Where queries go.** The bound joins of a plan are told what the basic graph patterns of the
query tell at their places, and a client is opened for each service that planning comes to. -/
theorem plans_query (a : Algebra) : (query a).Plans a.body.Calls fun scope plan =>
    ∀ base, Scope.at base {} = scope → plan.Serves (Goals base a) := by
  have hbody : ∀ {base goal}, Asked base {} a.body goal → Goals base a goal :=
    fun ⟨place, B, hvisits, htells⟩ => ⟨place, B, .body hvisits, htells⟩
  unfold query
  split
  · next template input =>
    exact (plans_lifted input (f := fun st => .triples (.ofTemplate template st.fromEmptyRow))
      Stage.Each.fromEmptyRow).congr (fun _ => .rfl)
        fun scope plan hplan base hscope => (hplan base hscope).mono fun _ => hbody
  · next terms input =>
    refine (still_descriptions terms).bind_plans_of_gives (gives_descriptions terms)
      fun template htemplate => (still_lifted input).bind_plans_of_gives (gives_lifted input)
        fun b hb => ((plans_stage _).map (g := fun source =>
          QueryPlan.triples (.ofTemplate template source.fromEmptyRow))
          fun scope st hst base hscope => ?_).congr
            (fun address => (calls_described b template address).trans (calls_lifts hb address))
              fun _ _ h => h
    refine Stage.Each.fromEmptyRow (Stage.Serves.mono (hst base {} hscope rfl) ?_)
    rintro goal ⟨place, B, hvisits, htells⟩
    obtain hvisits | ⟨rfl, t, ht, rfl⟩ := visits_described hvisits
    · exact ⟨place, B, .body (visits_of_lifts hb hvisits), htells⟩
    · obtain ⟨term, hterm, predicate, object, rfl⟩ := htemplate t ht
      exact ⟨{}, _, .description rfl hterm, htells⟩
  · next input =>
    exact (plans_lifted input (f := fun st => .truth st.fromEmptyRow)
      Stage.Each.fromEmptyRow).congr (fun _ => .rfl)
        fun scope plan hplan base hscope => (hplan base hscope).mono fun _ => hbody
  · next hconstruct hdescribe hask =>
    have hself : a.body = a := by
      unfold Algebra.body
      split <;> simp_all
    rw [hself] at hbody ⊢
    exact (plans_lifted a (f := fun st => .solutions st.fromEmptyRow)
      Stage.Each.fromEmptyRow).congr (fun _ => .rfl)
        fun scope plan hplan base hscope => (hplan base hscope).mono fun _ => hbody

end Plan

section Running

variable {net : Network σ} {now : DateTime} {goals : BoundPattern → Prop} {q q' : QueryStream σ}

/-- A pull of a construction sends only requests of the bound joins of its source. -/
theorem Construction.pull_serves {c : Construction} (h : c.source.Serves goals) (net : Network σ)
    (now : DateTime) (n : Nat) (s : Session σ) :
    (c.pull net now n s).2.1.source.Serves goals ∧
      s.Sends (BoundPattern.AnyAsks goals) (c.pull net now n s).2.2 := by
  induction n generalizing c s with
  | zero => exact ⟨h, .refl⟩
  | succ n ih =>
    obtain ⟨source, templates, pending⟩ := c
    cases pending with
    | cons t rest => exact ⟨h, .refl⟩
    | nil =>
      obtain ⟨hsource, hsends⟩ := h.step net now (if source.wants then some .done else none) s
      rw [pull]
      simp only
      rcases hstep : source.step net now (if source.wants then some .done else none) s with
        ⟨⟨source', y?⟩, s'⟩
      rw [hstep] at hsource hsends
      rcases y? with _ | r | _ | e
      · obtain ⟨hsource', hsends'⟩ := ih (c := ⟨source', templates, []⟩) hsource s'
        exact ⟨hsource', hsends.trans hsends'⟩
      · have hlabels : s'.Sends (BoundPattern.AnyAsks goals) (triplesOf templates r s').2 :=
          .of_eq rfl rfl
        obtain ⟨hsource', hsends'⟩ :=
          ih (c := ⟨source', templates, (triplesOf templates r s').1⟩) hsource
            (triplesOf templates r s').2
        exact ⟨hsource', (hsends.trans hlabels).trans hsends'⟩
      · exact ⟨hsource, hsends⟩
      · exact ⟨hsource, hsends⟩

namespace QueryStream

/-- A pull of a plan sends only requests of its bound joins. -/
theorem pullPlan_serves {plan : QueryPlan} (h : plan.Serves goals) (net : Network σ)
    (now : DateTime) (steps : Nat) (hidden : List Variable) (s : Session σ) :
    (pullPlan net now steps hidden plan s).2.1.Serves goals ∧
      s.Sends (BoundPattern.AnyAsks goals) (pullPlan net now steps hidden plan s).2.2 := by
  cases plan with
  | solutions stage => exact Stage.Serves.pull h net now steps s
  | triples construction => exact Construction.pull_serves h net now steps s
  | truth stage => exact Stage.Serves.pull h net now steps s

/-- A pull of a query sends only requests of the bound joins of its plan. -/
theorem next_serves (h : q.plan.Serves goals) (net : Network σ) (now : DateTime) (steps : Nat) :
    (q.next net now steps).2.plan.Serves goals ∧
      q.session.Sends (BoundPattern.AnyAsks goals) (q.next net now steps).2.session := by
  unfold QueryStream.next
  split
  · exact ⟨h, .refl⟩
  · obtain ⟨hplan, hsends⟩ := pullPlan_serves h net now steps q.hidden q.session
    rcases hpull : pullPlan net now steps q.hidden q.plan q.session with ⟨x?, plan, session⟩
    rw [hpull] at hplan hsends
    rcases x? with _ | x | _ | e
    · exact ⟨hplan, hsends⟩
    · exact ⟨hplan, hsends.trans (.of_eq rfl rfl)⟩
    · exact ⟨hplan, hsends⟩
    · exact ⟨hplan, hsends⟩

/-- **A query sends its own requests only**, however often it is pulled, and whenever it is closed.
-/
theorem Course.serves (hcourse : Course net now q q') (h : q.plan.Serves goals) :
    q'.plan.Serves goals ∧ q.session.Sends (BoundPattern.AnyAsks goals) q'.session := by
  induction hcourse with
  | start => exact ⟨h, .refl⟩
  | next _ steps ih =>
    obtain ⟨hplan, hsends⟩ := ih
    obtain ⟨hplan', hsends'⟩ := next_serves hplan net now steps
    exact ⟨hplan', hsends.trans hsends'⟩
  | close _ ih =>
    obtain ⟨hplan, hsends⟩ := ih
    unfold QueryStream.close
    split
    · exact ⟨hplan, hsends⟩
    · exact ⟨hplan, hsends.trans (.of_eq rfl rfl)⟩
  | cancel _ ih =>
    obtain ⟨hplan, hsends⟩ := ih
    exact ⟨hplan, hsends.trans (.of_eq rfl rfl)⟩

end QueryStream

end Running

namespace Engine

/-- Where a query is planned. -/
def scope (engine : Engine) (connect : String → Except TransportError Unit) : Scope where
  address := engine.address
  graph := engine.graph
  bufferSize := engine.settings.bufferSize.toNat
  connect := connect

variable {engine : Engine} {net : Network σ} {world : σ} {meter? : Option Meter} {a : Algebra}
  {names : Names} {q : QueryStream σ}

/-- What is known of a query when it has been planned. -/
theorem serves_compile (h : engine.compile net world meter? a names = .ok q) :
    q.plan.Serves (Plan.Goals (engine.scope net.connect) a) ∧ q.session.clients.Nodup ∧
      ∀ address, address ∈ q.session.clients ↔ address = engine.address ∨ a.body.Calls address := by
  obtain ⟨⟨plan, state⟩, hplan, h⟩ := Paths.bind_inv h
  obtain rfl := Except.ok.inj h
  obtain ⟨_, n₁, hopen, hquery⟩ := Planner.bind_inv hplan
  obtain ⟨-, hnodup, hclients⟩ := Planner.plans_openClient _ _ _ _ _ hopen
  obtain ⟨hserves, hnodup', hclients'⟩ := Plan.plans_query a _ _ _ _ hquery
  refine ⟨hserves (engine.scope net.connect) rfl, hnodup' (hnodup List.nodup_nil),
    fun address => ?_⟩
  rw [hclients', hclients]
  simp

/-- **Requests go to the endpoints of their own patterns.** Whatever query is planned, whatever the
network answers, and whatever is done to the query: each request is one for a basic graph pattern of
the query, with inline rows before it in its group put into it, or for the description of a term. It
goes to the nearest service around the pattern and is about the graph with the same name, or else to
the endpoint of the query and about its graph. There is one client for this endpoint, and one for
each endpoint of a service that planning comes to. -/
theorem compile_destinations (engine : Engine) (net : Network σ) (world : σ) (meter? : Option Meter)
    (a : Algebra) (names : Names) (q : QueryStream σ)
    (h : engine.compile net world meter? a names = .ok q) (now : DateTime) (q' : QueryStream σ)
    (hcourse : QueryStream.Course net now q q') :
    (∀ e ∈ q'.session.requests, ∃ place B goal, a.Patterns place B ∧
      Plan.Tells ((engine.scope net.connect).at place) place.rows B goal ∧ goal.Asks e.1 e.2 ∧
        e.1 = place.service?.getD engine.address ∧
        e.2.graph = place.service?.getD engine.graph) ∧
      q'.session.clients.Nodup ∧
      ∀ address, address ∈ q'.session.clients ↔
        address = engine.address ∨ a.body.Calls address := by
  obtain ⟨hserves, hnodup, hclients⟩ := serves_compile h
  obtain ⟨-, -, hfirst, -⟩ := sound_compile h
  obtain ⟨-, ⟨sent, hrequests, hsent⟩, hkept⟩ := hcourse.serves hserves
  refine ⟨fun e he => ?_, hkept ▸ hnodup, hkept ▸ hclients⟩
  rw [hrequests, hfirst, List.nil_append] at he
  obtain ⟨goal, ⟨place, B, hB, htells⟩, hasks⟩ := hsent e he
  obtain ⟨haddress, hgraph, -⟩ := htells.about
  exact ⟨place, B, goal, hB, htells, hasks, hasks.address.trans haddress,
    hasks.graph.trans hgraph⟩

end Engine

namespace Sample

/-- Endpoints that answer each request with one row. -/
def answering : Network Nat where
  connect := fun _ => .ok ()
  send := fun _ _ w =>
    ({ reply := .ok ⟨[.obj [("y", .str "http://example.org/c")]], none, false, none⟩ }, w + 1)

/-- The query for the two patterns after its first pull. -/
def answered : QueryStream Nat := (servicesQuery.next answering now 20).2

/-- A query for the description of a term, without any pattern of its own. -/
def describing : Algebra := .describe [.term resource] (.join [])

/-- What describes the term. -/
def description : TriplePattern :=
  ⟨.term resource, .plain (.variable ⟨"__v0"⟩), .variable ⟨"__v1"⟩⟩

/-- The bound join for the description. -/
def describe : Stage :=
  .remote (.ofPattern ⟨[description], "http://example.org/", "http://example.org/g", 15, false⟩)

/-- The query for the description. -/
def describingQuery : QueryStream Nat where
  plan := .triples (.ofTemplate [description]
    (.chain (.source [.empty] .done) (.forkOf [describe])))
  hidden := [⟨"__v0"⟩, ⟨"__v1"⟩]
  session := { world := 0, clients := ["http://example.org/"],
               evaluation := { labels := { stem := "b" } } }

/-- A service behind inline rows of which there are none. -/
def unreached : Algebra := .join [.values [], .service (.iri "http://example.org/b") false []]

/-- The description is asked for as it stands. -/
theorem clear_description : Bgp.Clear [description] where
  plain := by
    intro t ht
    obtain rfl := List.mem_singleton.1 ht
    rfl
  bare := by
    simp only [show Bgp.vars [description] = [⟨"__v0"⟩, ⟨"__v1"⟩] from rfl, List.forall_mem_cons]
    exact ⟨rfl, rfl, by simp⟩
  noBlanks := by
    intro t ht label
    obtain rfl := List.mem_singleton.1 ht
    exact ⟨by simp [description, resource], by simp [description]⟩

/-- Two variables are drawn for the description. -/
theorem descriptions_resource (scope : Scope) (clients : List String) :
    Plan.descriptions [.term resource] scope ⟨⟨.avoiding .null, []⟩, clients⟩ =
      .ok ([description], ⟨⟨⟨2, []⟩, [⟨"__v0"⟩, ⟨"__v1"⟩]⟩, clients⟩) := by
  have hpredicate : Variable.ofText (Names.numbered 0) = ⟨"__v0"⟩ := by decide +kernel
  have hobject : Variable.ofText (Names.numbered 1) = ⟨"__v1"⟩ := by decide +kernel
  rw [description, ← hpredicate, ← hobject]
  rfl

/-- The query is planned. -/
theorem compile_describing :
    engine.compile answering 0 none describing (.avoiding .null) = .ok describingQuery := by
  let before : PlanState := ⟨⟨.avoiding .null, []⟩, ["http://example.org/"]⟩
  let after : PlanState := ⟨⟨⟨2, []⟩, [⟨"__v0"⟩, ⟨"__v1"⟩]⟩, ["http://example.org/"]⟩
  let place : Scope := engine.scope answering.connect
  have hbranch : Plan.stage (.bgp [description]) place after = .ok (describe, after) :=
    Plan.triplesStage_of_clear clear_description
  have hbranches : Plan.branches [.bgp [description]] place after = .ok ([describe], after) :=
    Plan.bind_of_eq hbranch
  have hunion : Plan.stage (.union [.bgp [description]]) place after =
      .ok (.forkOf [describe], after) := Plan.bind_of_eq hbranches
  have hstage : Plan.stage (.join [.join [], .union [.bgp [description]]]) place after =
      .ok (.forkOf [describe], after) := by
    refine (Plan.bind_of_eq (a := .input) (m := after) rfl).trans ?_
    exact (Plan.bind_of_eq ((Plan.bind_of_eq hunion).trans rfl)).trans rfl
  have hplan : engine.plan answering.connect describing (.avoiding .null) =
      .ok (describingQuery.plan, after) := by
    refine (Plan.bind_of_eq (a := ()) (m := before) rfl).trans ?_
    refine (Plan.bind_of_eq (descriptions_resource place _)).trans ?_
    refine (Plan.bind_of_eq (a := .join []) (m := after) rfl).trans ?_
    exact (Plan.bind_of_eq hstage).trans rfl
  rw [Engine.compile, hplan]
  rfl

end Sample

namespace Engine

/-- A pattern at the endpoint and one at a service: each is asked for where it stands. -/
theorem compile_destinations_sample :
    Sample.engine.compile Sample.answering 0 none Sample.services (.avoiding .null) =
        .ok Sample.servicesQuery ∧
      Sample.answered.session.requests.map (fun e => (e.1, e.2.graph)) =
        [("http://example.org/", "http://example.org/g"),
          ("http://example.org/b", "http://example.org/b")] ∧
      Sample.answered.session.clients = ["http://example.org/", "http://example.org/b"] ∧
      ∃ place B, Sample.services.Patterns place B ∧
        place.service? = some "http://example.org/b" := by
  have hrequests : Sample.answered.session.requests.map (fun e => (e.1, e.2.graph)) =
      [("http://example.org/", "http://example.org/g"),
        ("http://example.org/b", "http://example.org/b")] := by decide +kernel
  obtain ⟨hall, -, -⟩ := compile_destinations Sample.engine Sample.answering 0 none
    Sample.services (.avoiding .null) Sample.servicesQuery Sample.compile_services Sample.now
    Sample.answered (QueryStream.Course.start.next 20)
  refine ⟨Sample.compile_services, hrequests, by decide +kernel, ?_⟩
  have hsecond : ("http://example.org/b", "http://example.org/b") ∈
      Sample.answered.session.requests.map (fun e => (e.1, e.2.graph)) := by simp [hrequests]
  obtain ⟨e, he, heq⟩ := List.mem_map.1 hsecond
  obtain ⟨place, B, goal, hB, -, -, haddress, -⟩ := hall e he
  refine ⟨place, B, hB, ?_⟩
  rw [(Prod.mk.inj heq).1] at haddress
  cases hservice : place.service? with
  | none => simp [hservice, Sample.engine] at haddress
  | some address =>
    simp only [hservice, Option.getD_some] at haddress
    rw [haddress]

/-- The description of a term is asked for although the query has no pattern, and no client is
opened for a service that planning does not come to. -/
theorem compile_describes :
    Sample.engine.compile Sample.answering 0 none Sample.describing (.avoiding .null) =
        .ok Sample.describingQuery ∧
      (∀ place B, ¬Sample.describing.body.Visits {} place (.bgp B)) ∧
      (Sample.describingQuery.next Sample.answering Sample.now 20).2.session.requests.map Prod.fst =
        ["http://example.org/"] ∧
      ∃ q,
        Sample.engine.compile Sample.answering 0 none Sample.unreached (.avoiding .null) = .ok q ∧
        Plan.serviceAddress (.iri "http://example.org/b") = .ok "http://example.org/b" ∧
        q.session.clients = ["http://example.org/"] := by
  refine ⟨Sample.compile_describing, ?_, by decide +kernel, ?_⟩
  · intro place B hvisits
    have hgroup : Sample.describing.body.group? {} = some ({}, []) := rfl
    cases hvisits with
    | down hbelow _ => exact nomatch hbelow.of_group hgroup
  · have hclients : (Sample.engine.compile Sample.answering 0 none Sample.unreached
        (.avoiding .null)).toOption.map (fun q => q.session.clients) =
          some ["http://example.org/"] := by decide +kernel
    cases hq : Sample.engine.compile Sample.answering 0 none Sample.unreached (.avoiding .null) with
    | error e => simp [hq, Except.toOption] at hclients
    | ok q =>
      rw [hq] at hclients
      exact ⟨q, rfl, by decide +kernel, Option.some.inj hclients⟩

end Engine

end PagedSparql
