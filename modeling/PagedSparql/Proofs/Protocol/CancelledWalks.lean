import PagedSparql.Proofs.Protocol.ClosedClients

/-!
# Walks that are cancelled

A walk over pages is cancelled by closing its client: the next pull brings the exhausted page and
sends nothing. A walk that has failed keeps the token of the failed request. One that is cancelled
takes the exhausted page for the last one, and so its token is gone (`PageSequence.next_of_closed`).

A sequence that starts from the token of a cancelled one therefore begins at the first page again.
What was delivered before is delivered once more, and the pages of both are those of the whole walk
only if nothing was delivered before (`PageSequence.cancelled_restarts`).
-/

namespace PagedSparql

variable {σ τ : Type}

namespace PageSequence

variable {net : Network σ} {net' : Network τ} {p : PageSequence} {s : Session σ} {n m : Nat}

/-- The pages among what several pulls have brought. -/
def pagesOf (brought : List (Except TransportError (Option Page))) : List Page :=
  brought.filterMap (·.toOption.join)

/-- Pulls that bring a page each bring as many pages. -/
theorem length_pagesOf {xs : List (Except TransportError (Option Page))}
    (h : ∀ x ∈ xs, ∃ page, x = .ok (some page)) : (pagesOf xs).length = xs.length := by
  induction xs with
  | nil => rfl
  | cons x rest ih =>
    obtain ⟨⟨page, rfl⟩, hrest⟩ := List.forall_mem_cons.1 h
    have hpage : pagesOf (.ok (some page) :: rest) = page :: pagesOf rest := rfl
    rw [hpage, List.length_cons, List.length_cons, ih hrest]

/-- After the end of a walk there are no more pages. -/
theorem pagesOf_pulls_add (h : (pulls net m p s).2.1.finished = true) (n : Nat) :
    pagesOf (pulls net (m + n) p s).1 = pagesOf (pulls net m p s).1 := by
  have hnothing : pagesOf (List.replicate n (.ok none)) = [] := by
    rw [pagesOf, List.filterMap_eq_nil_iff]
    intro x hx
    rw [List.eq_of_mem_replicate hx]
    rfl
  rw [pulls_add, pulls_of_finished h, pagesOf, List.filterMap_append]
  exact (congrArg _ hnothing).trans (List.append_nil _)

/-- A sequence that is over and has brought nothing but pages has no token. -/
theorem token?_of_pages (hp : p.finished = true → p.token? = none)
    (hpages : ∀ x ∈ (pulls net n p s).1, ∃ page, x = .ok (some page))
    (hover : (pulls net n p s).2.1.finished = true) : (pulls net n p s).2.1.token? = none := by
  induction n generalizing p s with
  | zero => exact hp hover
  | succ n ih =>
    rw [pulls_succ] at hpages hover ⊢
    obtain ⟨⟨page, hpage⟩, hrest⟩ := List.forall_mem_cons.1 hpages
    refine ih (fun hfinished => ?_) hrest hover
    cases hgoing : p.finished with
    | true =>
      rw [next_of_finished hgoing] at hpage
      exact absurd hpage (by simp)
    | false =>
      rw [next_of_unfinished hgoing] at hpage hfinished ⊢
      cases hfetch : (s.fetch net p.address p.request).1 with
      | error e =>
        rw [hfetch] at hpage
        exact absurd hpage (by simp [Except.map])
      | ok page' =>
        rw [hfetch] at hfinished
        cases hnext : page'.hasNext with
        | true => simp [advance, hnext, hgoing] at hfinished
        | false => simp [advance, hnext]

/-- A pull through a closed client sends nothing. It takes the exhausted page for the last one, and
after that there is no token. -/
theorem next_of_closed (h : s.isClosed p.address = true)
    (hp : p.finished = true → p.token? = none) :
    (p.next net s).1 = .ok (if p.finished then none else some .exhausted) ∧
      (p.next net s).2.1.finished = true ∧ (p.next net s).2.1.token? = none ∧
      (p.next net s).2.2 = s := by
  cases hover : p.finished with
  | true =>
    rw [next_of_finished hover]
    exact ⟨rfl, hover, hp hover, rfl⟩
  | false =>
    rw [next_of_unfinished hover, Session.fetch_of_closed h]
    exact ⟨rfl, rfl, rfl, rfl⟩

/-- **A cancelled walk starts again.** A sequence has delivered some pages, one with each pull, when
its client is closed and it is pulled once more. This pull sends nothing, it brings the exhausted
page, or no page if the walk was over, and it leaves the sequence without token. So a sequence that
goes on from there, on an open client of an endpoint that always replies in the same way, brings what
a walk from the first page brings. If that walk comes to an end, then the pages delivered before and
those brought now are the pages of the whole walk if and only if none was delivered before. -/
theorem cancelled_restarts (net : Network σ) (address query graph : String) (token? : Option String)
    (s : Session σ) (answer : Request → Except TransportError Response)
    (hserves : net.Serves address answer) (n : Nat)
    (hpages : ∀ x ∈ (pulls net n (resume address query graph token?) s).1,
      ∃ page, x = .ok (some page))
    (before after : PageSequence) (s₁ s₂ : Session σ)
    (brought : Except TransportError (Option Page))
    (hbefore : (pulls net n (resume address query graph token?) s).2 = (before, s₁))
    (hafter : before.next net (s₁.close address) = (brought, after, s₂)) :
    brought = .ok (if before.finished then none else some .exhausted) ∧ after.finished = true ∧
      after.token? = none ∧ s₂.requests = s₁.requests ∧
    ∀ {τ : Type} (net' : Network τ) (address' : String) (s' : Session τ),
      net'.Serves address' answer → token? = none → ∀ m,
      (pulls net (m + n) (resume address query graph token?) s).2.2.isClosed address = false →
      (pulls net' m (resume address' query graph after.token?) s').2.2.isClosed address' = false →
        (pulls net' m (resume address' query graph after.token?) s').1 =
            (pulls net m (resume address query graph token?) s).1 ∧
        ((pulls net m (resume address query graph token?) s).2.1.finished = true →
          (pagesOf (pulls net n (resume address query graph token?) s).1 ++
              pagesOf (pulls net' m (resume address' query graph after.token?) s').1 =
            pagesOf (pulls net (m + n) (resume address query graph token?) s).1 ↔ n = 0)) := by
  have hfinal : before.finished = true → before.token? = none := by
    have h := token?_of_pages (fun hover => absurd hover (by simp [resume])) hpages
    rwa [hbefore] at h
  have haddress : before.address = address := by
    have h := (pulls_about net n (resume address query graph token?) s).1
    rwa [hbefore] at h
  have hclosed : (s₁.close address).isClosed before.address = true := by
    simp [haddress, Session.isClosed, Session.close]
  have hcancelled : (before.next net (s₁.close address)).1 = _ ∧ _ := next_of_closed hclosed hfinal
  rw [hafter] at hcancelled
  obtain ⟨hbrought, hover, htoken, hsession⟩ := hcancelled
  have hsent : s₂.requests = (s₁.close address).requests := congrArg Session.requests hsession
  refine ⟨hbrought, hover, htoken, hsent, ?_⟩
  rintro τ net' address' s' hserves' rfl m hopen hopen'
  rw [htoken] at hopen' ⊢
  have hopen₁ : (pulls net m (resume address query graph none) s).2.2.isClosed address = false := by
    rw [pulls_add] at hopen
    exact isClosed_of_pulls hopen
  -- Without a token the sequence asks for the first page.
  have hagain : (pulls net' m (resume address' query graph none) s').1 =
      (pulls net m (resume address query graph none) s).1 :=
    pulls_congr hserves hserves' rfl rfl hopen₁ hopen'
  refine ⟨hagain, fun hend => ⟨fun h => ?_, ?_⟩⟩
  · have hlength := congrArg List.length h
    rw [hagain, pagesOf_pulls_add hend, List.length_append, length_pagesOf hpages,
      length_pulls] at hlength
    omega
  · rintro rfl
    rw [hagain]
    rfl

end PageSequence

namespace Sample

/-- A page with a row, and a last page without rows. -/
def pairedReply (_ : String) (request : Request) : Response :=
  match request.token? with
  | none => ⟨[.obj [("x", .str "http://example.org/a")]], some "1", true, none⟩
  | some _ => ⟨[], none, false, none⟩

/-- The first of these pages. -/
def firstPage : Page := ⟨[.ofList [(⟨"x"⟩, .iri "http://example.org/a")]], some "1", true, []⟩

/-- The sequence of these pages after the first one. -/
def pausedWalk : PageSequence := walk (some "1")

/-- The same after it was cancelled. -/
def cancelledWalk : PageSequence := { walk none with finished := true }

end Sample

namespace PageSequence

/-- A walk of two pages is cancelled after the first one. It has no token then, and the sequence that
starts from there delivers the first page again. -/
theorem cancelled_restarts_sample :
    (pulls (.ofReplies Sample.pairedReply) 1 (Sample.walk none) Sample.idle).1 =
      [.ok (some Sample.firstPage)] ∧
    (∃ s, Sample.pausedWalk.next (.ofReplies Sample.pairedReply)
      ((pulls (.ofReplies Sample.pairedReply) 1 (Sample.walk none) Sample.idle).2.2.close
        "http://example.org/") = (.ok (some .exhausted), Sample.cancelledWalk, s)) ∧
    (pulls (.ofReplies Sample.pairedReply) 2 (Sample.walk Sample.cancelledWalk.token?)
      Sample.idle).1 = [.ok (some Sample.firstPage), .ok (some .exhausted)] ∧
    pagesOf (pulls (.ofReplies Sample.pairedReply) 1 (Sample.walk none) Sample.idle).1 ++
        pagesOf (pulls (.ofReplies Sample.pairedReply) 2 (Sample.walk Sample.cancelledWalk.token?)
          Sample.idle).1 ≠
      pagesOf (pulls (.ofReplies Sample.pairedReply) 3 (Sample.walk none) Sample.idle).1 := by
  have hfirst : (pulls (.ofReplies Sample.pairedReply) 1 (Sample.walk none) Sample.idle).1 =
      [.ok (some Sample.firstPage)] := rfl
  obtain ⟨-, -, -, -, hagain⟩ := cancelled_restarts (.ofReplies Sample.pairedReply)
    "http://example.org/" "SELECT * WHERE {}" "http://example.org/g" none Sample.idle
    (fun request => .ok (Sample.pairedReply "http://example.org/" request)) (fun _ _ => rfl) 1
    (fun x hx => ⟨Sample.firstPage, List.mem_singleton.1 (hfirst ▸ hx)⟩)
    Sample.pausedWalk Sample.cancelledWalk _ _ _ rfl rfl
  obtain ⟨hsame, hcomplete⟩ := hagain (.ofReplies Sample.pairedReply) "http://example.org/"
    Sample.idle (fun _ _ => rfl) rfl 2 rfl rfl
  exact ⟨hfirst, ⟨_, rfl⟩, hsame, fun h => absurd ((hcomplete rfl).1 h) (by decide)⟩

end PageSequence

end PagedSparql
