import PagedSparql.Proofs.Pipeline.Contract

/-!
# Stages at work

The stages of a plan meet the same endpoints, and each has to bear what the others do. A scene is
what they share: the network, what its endpoints know and tell, and how the world may move. What a
stage does there is said by its specification alone (`Scene.Running`, `Scene.Meets`): there is some
invariant under which the stage has the contract of that specification, whoever is at work above,
below or beside it. The largest such invariant is itself one (`Scene.running_contract`), so that the
contract of a stage with stages inside can be put together from what the inner ones meet.
-/

namespace PagedSparql

/-- What the stages of a query share. -/
structure Scene (σ : Type) where
  /-- The endpoints. -/
  net : Network σ
  /-- The time of the query. -/
  now : DateTime
  /-- How the world may move while a stage waits. -/
  others : σ → σ → Prop
  /-- The worlds in which the endpoints answer. -/
  ready : σ → Prop
  /-- What the endpoint with an address knows of a graph. -/
  solutions : String → String → Solutions
  /-- The unions of patterns that endpoints read as they are meant. They read a text, and a text
  does not tell a term that holds the marks of a pattern from that pattern. -/
  understood : List Bgp → Prop
  /-- What is known of the pages of an answer besides their rows. -/
  tells : List Bgp → List Page → Prop

namespace Scene

variable {σ : Type}

/-- Endpoints answer whatever the stages of a query ask for, and are faithful if they understand it.
-/
structure Lawful (E : Scene σ) : Prop where
  /-- The world need not move. -/
  refl : ∀ w, E.others w w
  /-- The world may move several times. -/
  trans : ∀ {w w' w''}, E.others w w' → E.others w' w'' → E.others w w''
  /-- A request is one of the moves. -/
  sends : ∀ address request w, E.others w (E.net.send address request w).2
  /-- The world stays ready when it moves. -/
  stays : ∀ {w w'}, E.ready w → E.others w w' → E.ready w'
  /-- The endpoints answer unions of patterns without paths; the pages for a union that is
  understood hold the solutions of all patterns, in any order. -/
  answers : ∀ address graph (Bs : List Bgp) {w}, (∀ B ∈ Bs, B.Plain) → E.ready w →
    E.net.Answers E.others address
      (fun pages w' => E.ready w' ∧ (E.understood Bs → E.tells Bs pages ∧
        (pages.flatMap Page.rows : Multiset Row) = (Bs.map (E.solutions address graph).of).sum))
      ⟨QueryText.ofUnion Bs, graph, none⟩ w

/-- The endpoints answer, and no client is closed. -/
structure Ready (E : Scene σ) (s : Session σ) : Prop where
  /-- The endpoints answer. -/
  world : E.ready s.world
  /-- No client is closed. -/
  isOpen : ∀ address, s.isClosed address = false

/-- The contract of a stage for all rows, in the company of stages that do the same. -/
abbrev Contract (E : Scene σ) (hasty : Prop) (spec : List Row → List Row → Prop)
    (inv : Stage → Traffic → Session σ → Prop) : Prop :=
  Stage.Contract E.net E.now E.others E.others (fun _ => True) hasty spec inv

/-- A stage with some traffic behind it goes on so that it meets its specification. -/
def Running (E : Scene σ) (hasty : Prop) (spec : List Row → List Row → Prop) (st : Stage)
    (h : Traffic) (s : Session σ) : Prop :=
  ∃ inv, E.Contract hasty spec inv ∧ inv st h s

/-- A stage meets its specification. -/
def Meets (E : Scene σ) (hasty : Prop) (st : Stage) (spec : List Row → List Row → Prop) : Prop :=
  ∀ s, E.Ready s → E.Running hasty spec st {} s

variable {E : Scene σ} {hasty hasty' : Prop} {spec spec' : List Row → List Row → Prop}
  {inv inv' : Stage → Traffic → Session σ → Prop} {st : Stage} {h : Traffic} {s s' : Session σ}

/-- The world need not move. -/
theorem Lawful.std_refl (hE : E.Lawful) : Std.Refl E.others := ⟨hE.refl⟩

/-- The world may move several times. -/
theorem Lawful.isTrans (hE : E.Lawful) : IsTrans σ E.others := ⟨fun _ _ _ => hE.trans⟩

/-- Nothing need happen to a session. -/
theorem Lawful.moves_refl (hE : E.Lawful) (s : Session σ) : Session.Moves E.others s s :=
  ⟨hE.refl _, rfl⟩

/-- Something may happen twice to a session. -/
theorem Lawful.moves_trans (hE : E.Lawful) {s'' : Session σ} (h : Session.Moves E.others s s')
    (h' : Session.Moves E.others s' s'') : Session.Moves E.others s s'' :=
  ⟨hE.trans h.world h'.world, h'.closed.trans h.closed⟩

/-- A session stays ready when the world moves. -/
theorem Ready.move (hE : E.Lawful) (hs : E.Ready s) (hmoves : Session.Moves E.others s s') :
    E.Ready s' where
  world := hE.stays hs.world hmoves.world
  isOpen address := by rw [hmoves.isClosed, hs.isOpen]

/-- A step comes to what a larger invariant and a weaker specification say. -/
theorem fulfils_mono (hhasty : hasty → hasty') (hspec : ∀ U W, spec U W → spec' U W)
    (hinv : ∀ st h s, inv st h s → inv' st h s) {out : Stage × Option Signal}
    (hout : Stage.Fulfils (fun _ => True) hasty spec inv h s out) :
    Stage.Fulfils (fun _ => True) hasty' spec' inv' h s out := by
  obtain ⟨st, x?⟩ := out
  match x?, hout with
  | none, hout => exact hinv _ _ _ hout
  | some (.row r), hout => exact hinv _ _ _ hout
  | some .done, hout =>
    exact ⟨hout.1.imp_right hhasty, fun rest hrest h' => hspec _ _ (hout.2 rest hrest h')⟩

/-- The specification of a contract may be weakened. -/
theorem contract_mono (hc : E.Contract hasty spec inv) (hhasty : hasty → hasty')
    (hspec : ∀ U W, spec U W → spec' U W) : E.Contract hasty' spec' inv where
  stable := hc.stable
  rests := hc.rests
  acts hinv hwants :=
    ⟨(hc.acts hinv hwants).1, fulfils_mono hhasty hspec (fun _ _ _ => id) (hc.acts hinv hwants).2⟩
  takes hinv hwants hin :=
    ⟨(hc.takes hinv hwants hin).1,
      fulfils_mono hhasty hspec (fun _ _ _ => id) (hc.takes hinv hwants hin).2⟩
  ends hinv hwants hin :=
    ⟨(hc.ends hinv hwants hin).1,
      fulfils_mono hhasty hspec (fun _ _ _ => id) (hc.ends hinv hwants hin).2⟩
  halts := hc.halts

/-- **The largest invariant.** A stage at work has the contract of what it goes on to meet. -/
theorem running_contract (E : Scene σ) (hasty : Prop) (spec : List Row → List Row → Prop) :
    E.Contract hasty spec (E.Running hasty spec) where
  stable := by
    rintro st h s s' ⟨inv, hc, hinv⟩ hmoves
    exact ⟨inv, hc, hc.stable hinv hmoves⟩
  rests := by
    rintro st h s ⟨inv, hc, hinv⟩ hended
    exact hc.rests hinv hended
  acts := by
    rintro st h s ⟨inv, hc, hinv⟩ hwants
    obtain ⟨hmoves, hout⟩ := hc.acts hinv hwants
    exact ⟨hmoves, fulfils_mono id (fun _ _ => id) (fun _ _ _ hinv => ⟨inv, hc, hinv⟩) hout⟩
  takes := by
    rintro st h s r ⟨inv, hc, hinv⟩ hwants hin
    obtain ⟨hmoves, hout⟩ := hc.takes hinv hwants hin
    exact ⟨hmoves, fulfils_mono id (fun _ _ => id) (fun _ _ _ hinv => ⟨inv, hc, hinv⟩) hout⟩
  ends := by
    rintro st h s ⟨inv, hc, hinv⟩ hwants hin
    obtain ⟨hmoves, hout⟩ := hc.ends hinv hwants hin
    exact ⟨hmoves, fulfils_mono id (fun _ _ => id) (fun _ _ _ hinv => ⟨inv, hc, hinv⟩) hout⟩
  halts := by
    rintro st h s ⟨inv, hc, hinv⟩
    exact hc.halts hinv

/-- What a stage goes on to meet may be weakened. -/
theorem Running.mono (hrun : E.Running hasty spec st h s) (hhasty : hasty → hasty')
    (hspec : ∀ U W, spec U W → spec' U W) : E.Running hasty' spec' st h s := by
  obtain ⟨inv, hc, hinv⟩ := hrun
  exact ⟨inv, contract_mono hc hhasty hspec, hinv⟩

/-- What a stage meets may be weakened. -/
theorem Meets.mono (hmeets : E.Meets hasty st spec) (hhasty : hasty → hasty')
    (hspec : ∀ U W, spec U W → spec' U W) : E.Meets hasty' st spec' :=
  fun s hs => (hmeets s hs).mono hhasty hspec

/-- A stage with a contract meets its specification. -/
theorem Meets.of_contract (hc : E.Contract hasty spec inv)
    (hinv : ∀ s, E.Ready s → inv st {} s) : E.Meets hasty st spec :=
  fun s hs => ⟨inv, hc, hinv s hs⟩

/-- A contract for all rows is one for the rows of a list. -/
theorem contract_inputs (hc : E.Contract hasty spec inv) (inputs : List Row → Prop) :
    Stage.Contract E.net E.now E.others E.others inputs hasty spec inv := by
  have hweaken : ∀ {h : Traffic} {s : Session σ} {out : Stage × Option Signal},
      Stage.Fulfils (fun _ => True) hasty spec inv h s out →
      Stage.Fulfils inputs hasty spec inv h s out := by
    rintro h s ⟨st, x?⟩ hout
    match x?, hout with
    | none, hout => exact hout
    | some (.row r), hout => exact hout
    | some .done, hout => exact ⟨hout.1, fun rest hrest _ => hout.2 rest hrest trivial⟩
  constructor
  case stable => exact hc.stable
  case rests => exact hc.rests
  case acts => exact fun hinv hwants => ⟨(hc.acts hinv hwants).1, hweaken (hc.acts hinv hwants).2⟩
  case takes =>
    intro st h s r hinv hwants _
    obtain ⟨hmoves, hout⟩ := hc.takes hinv hwants ⟨[], trivial⟩
    exact ⟨hmoves, hweaken hout⟩
  case ends =>
    intro st h s hinv hwants _
    obtain ⟨hmoves, hout⟩ := hc.ends hinv hwants trivial
    exact ⟨hmoves, hweaken hout⟩
  case halts => exact hc.halts

/-- **Stages at work can be completed.** Whatever rows may still come in, there is what a stage
hands on for them in the end. -/
theorem Running.completes (hE : E.Lawful) (hrun : E.Running hasty spec st h s) {rest : List Row}
    (hrest : h.Rest rest) : ∃ V, spec (h.taken ++ rest) (h.given ++ V) := by
  obtain ⟨inv, hc, hinv⟩ := hrun
  have := hE.std_refl
  have hc' := contract_inputs hc (· = h.taken ++ rest)
  cases hended : h.ended with
  | false =>
    obtain ⟨V, -, -, -, hV⟩ := hc'.collects hinv hended rfl
    exact ⟨V, hV⟩
  | true =>
    obtain rfl := hrest hended
    have hcollects : ∃ V st' s', Stage.Collects E.net E.now (.chain .input st) s V st' s' ∧
        spec (h.taken ++ []) (h.given ++ V) := hc'.collects_ended hinv hended (by simp)
    obtain ⟨V, -, -, -, hV⟩ := hcollects
    exact ⟨V, hV⟩

/-- **What a stage makes of the rows of a list.** -/
theorem Meets.collects (hE : E.Lawful) (hmeets : E.Meets hasty st spec) (hs : E.Ready s)
    (U : List Row) :
    ∃ W st' s', Stage.Collects E.net E.now (.chain (.source U .done) st) s W st' s' ∧ spec U W := by
  obtain ⟨inv, hc, hinv⟩ := hmeets s hs
  have := hE.std_refl
  obtain ⟨W, st', s', hcollects, hspec⟩ :=
    (contract_inputs hc (· = U)).collects hinv rfl (List.nil_append U)
  exact ⟨W, st', s', hcollects, hspec⟩

end Scene

end PagedSparql
