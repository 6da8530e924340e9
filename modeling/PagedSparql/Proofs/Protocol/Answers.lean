import PagedSparql.Proofs.Rdf.Solutions
import PagedSparql.Protocol.PageSequence
import PagedSparql.Protocol.QueryText

/-!
# Answers in pages

An endpoint answers a request in pages, each of which carries the token to ask for the next one.
Between two requests for one answer the world may move: other requests may be sent. `Answers` says
that an answer comes to an end with pages of a certain kind, however the world moves meanwhile; it
is inductive, so that an answer has finitely many pages, and each of its premises is about all
worlds that may have come up.

A faithful endpoint (`Faithful`) answers a union of patterns with the solutions of all of them, in
any order and cut into pages in any way.
-/

namespace PagedSparql

variable {σ : Type}

namespace Network

/-- The endpoint with an address answers a request with a page, and no client is closed meanwhile.
-/
def Brings (net : Network σ) (address : String) (request : Request) (w : σ) (page : Page) : Prop :=
  (net.send address request w).1.closing = .nothing ∧
    ∃ response, (net.send address request w).1.reply = .ok response ∧
      Page.ofResponse response = .ok page

/-- The request is answered by pages that, with the world after the last of them, have the property
`Q`. Before each page the world may move as `others` tells. -/
inductive Answers (net : Network σ) (others : σ → σ → Prop) (address : String) :
    (List Page → σ → Prop) → Request → σ → Prop
  | pages {Q : List Page → σ → Prop} {request : Request} {w : σ}
    (brings : ∀ w', others w w' → ∃ page, net.Brings address request w' page)
    (last : ∀ w' page, others w w' → net.Brings address request w' page → page.hasNext = false →
      Q [page] (net.send address request w').2)
    (more : ∀ w' page, others w w' → net.Brings address request w' page → page.hasNext = true →
      Answers net others address (fun pages => Q (page :: pages))
        { request with token? := page.token? } (net.send address request w').2) :
    Answers net others address Q request w

/-- A request brings one page only. -/
theorem Brings.unique {net : Network σ} {address : String} {request : Request} {w : σ}
    {page page' : Page} (h : net.Brings address request w page)
    (h' : net.Brings address request w page') : page = page' := by
  obtain ⟨-, response, hr, hp⟩ := h
  obtain ⟨-, response', hr', hp'⟩ := h'
  rw [hr] at hr'
  obtain rfl := Except.ok.inj hr'
  rw [hp] at hp'
  exact Except.ok.inj hp'

/-- An answer is still one after the world has moved. -/
theorem Answers.move {net : Network σ} {others : σ → σ → Prop} [IsTrans σ others]
    {address : String} {Q : List Page → σ → Prop} {request : Request} {w w' : σ}
    (h : net.Answers others address Q request w) (hw : others w w') :
    net.Answers others address Q request w' := by
  cases h with
  | pages brings last more =>
    exact .pages (fun w₁ h₁ => brings w₁ (trans_of others hw h₁))
      (fun w₁ page h₁ => last w₁ page (trans_of others hw h₁))
      (fun w₁ page h₁ => more w₁ page (trans_of others hw h₁))

/-- An answer whose pages have a property has every property that follows from it. -/
theorem Answers.weaken {net : Network σ} {others : σ → σ → Prop} {address : String}
    {Q Q' : List Page → σ → Prop} {request : Request} {w : σ}
    (h : net.Answers others address Q request w) (hQ : ∀ pages w, Q pages w → Q' pages w) :
    net.Answers others address Q' request w := by
  induction h generalizing Q' with
  | pages brings last _ ih =>
    exact .pages brings (fun w₁ page h₁ hb hn => hQ _ _ (last w₁ page h₁ hb hn))
      (fun w₁ page h₁ hb hn => ih w₁ page h₁ hb hn fun pages w => hQ (page :: pages) w)

/-- The network of endpoints that reply to requests in always the same way. -/
def ofReplies (reply : String → Request → Response) : Network Unit where
  connect := fun _ => .ok ()
  send := fun address request w => ({ reply := .ok (reply address request) }, w)

section OfReplies

variable {reply : String → Request → Response} {others : Unit → Unit → Prop} {address : String}
  {Q : List Page → Unit → Prop} {request : Request} {w : Unit} {page : Page}

/-- An endpoint brings what it replies. -/
theorem ofReplies_brings (hpage : Page.ofResponse (reply address request) = .ok page) :
    (ofReplies reply).Brings address request w page := ⟨rfl, _, rfl, hpage⟩

/-- An answer whose page announces no other. -/
theorem Answers.ofReplies_last (hpage : Page.ofResponse (reply address request) = .ok page)
    (hnext : page.hasNext = false) (hQ : Q [page] w) :
    (ofReplies reply).Answers others address Q request w := by
  refine .pages (fun _ _ => ⟨page, ofReplies_brings hpage⟩) ?_ ?_
  · intro w' page' _ hbrings _
    obtain rfl := hbrings.unique (ofReplies_brings hpage)
    exact hQ
  · intro w' page' _ hbrings hmore
    obtain rfl := hbrings.unique (ofReplies_brings hpage)
    exact absurd hmore (by simp [hnext])

/-- An answer whose first page announces another one. -/
theorem Answers.ofReplies_more (hpage : Page.ofResponse (reply address request) = .ok page)
    (hnext : page.hasNext = true)
    (hrest : (ofReplies reply).Answers others address (fun pages => Q (page :: pages))
      { request with token? := page.token? } w) :
    (ofReplies reply).Answers others address Q request w := by
  refine .pages (fun _ _ => ⟨page, ofReplies_brings hpage⟩) ?_ ?_
  · intro w' page' _ hbrings hlast
    obtain rfl := hbrings.unique (ofReplies_brings hpage)
    exact absurd hlast (by simp [hnext])
  · intro w' page' _ hbrings _
    obtain rfl := hbrings.unique (ofReplies_brings hpage)
    exact hrest

end OfReplies

end Network

/-- An endpoint answers unions of patterns about a graph with the solutions of all of them, as long
as the world is `ready`, and leaves it so. It does so at least for the unions that are `asked`;
`tells` is what else is known of its pages. -/
structure Faithful (net : Network σ) (others : σ → σ → Prop) (ready : σ → Prop)
    (address graph : String) (S : Solutions) (asked : List Bgp → Prop)
    (tells : List Bgp → List Page → Prop) : Prop where
  /-- The world stays ready when it moves. -/
  stays : ∀ {w w'}, ready w → others w w' → ready w'
  /-- The pages of an answer hold the solutions of all patterns, in any order. -/
  answers : ∀ {w} (Bs : List Bgp), ready w → asked Bs →
    net.Answers others address
      (fun pages w' => ready w' ∧ tells Bs pages ∧
        (pages.flatMap Page.rows : Multiset Row) = (Bs.map S.of).sum)
      ⟨QueryText.ofUnion Bs, graph, none⟩ w

/-- The pages tell no numbers of solutions. -/
def NoCounts (pages : List Page) : Prop := ∀ page ∈ pages, page.cardinalities = []

/-- The first page tells how many solutions each pattern has. -/
def ExactCounts (S : Solutions) (Bs : List Bgp) (pages : List Page) : Prop :=
  ∃ page, pages.head? = some page ∧
    page.cardinalities.map UInt64.toNat = Bs.map fun B => (S.of B).card

namespace Session

/-- What others may have done to a session: the world has moved, and no client was closed. -/
structure Moves (others : σ → σ → Prop) (s s' : Session σ) : Prop where
  /-- The world has moved. -/
  world : others s.world s'.world
  /-- The closed clients are the same. -/
  closed : s'.closed = s.closed

/-- Nothing need have happened. -/
theorem Moves.refl {others : σ → σ → Prop} [Std.Refl others] (s : Session σ) :
    Moves others s s := ⟨Std.Refl.refl _, rfl⟩

/-- Something may have happened twice. -/
theorem Moves.trans {others : σ → σ → Prop} [IsTrans σ others] {s s' s'' : Session σ}
    (h : Moves others s s') (h' : Moves others s' s'') : Moves others s s'' :=
  ⟨trans_of others h.world h'.world, h'.closed.trans h.closed⟩

/-- The client of an endpoint is open after others have moved as it was before. -/
theorem Moves.isClosed {others : σ → σ → Prop} {s s' : Session σ} (h : Moves others s s')
    (address : String) : s'.isClosed address = s.isClosed address := by
  simp [Session.isClosed, h.closed]

/-- An open client fetches the page that the endpoint brings. -/
theorem fetch_of_brings {net : Network σ} {s : Session σ} {address : String} {request : Request}
    {page : Page} (hopen : s.isClosed address = false)
    (h : net.Brings address request s.world page) :
    ∃ s', s.fetch net address request = (.ok page, s') ∧
      s'.world = (net.send address request s.world).2 ∧ s'.closed = s.closed := by
  obtain ⟨hclosing, response, hreply, hpage⟩ := h
  have hd : (s.deliver net address request).1 = (net.send address request s.world).1 := rfl
  have hs : (s.deliver net address request).2.world = (net.send address request s.world).2 ∧
      (s.deliver net address request).2.closed = s.closed := by
    simp [deliver, hclosing, closeFor, measure]
  refine ⟨(s.deliver net address request).2, ?_, hs.1, hs.2⟩
  have hopen' : (s.deliver net address request).2.isClosed address = false := by
    simpa [isClosed, hs.2] using hopen
  simp only [fetch, hopen, Bool.false_eq_true, if_false, hopen', pageOfDelivery, hd, hreply, hpage]

end Session

end PagedSparql
