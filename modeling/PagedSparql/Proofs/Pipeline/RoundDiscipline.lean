import PagedSparql.Proofs.Pipeline.AnyAnswers
import PagedSparql.Proofs.Pipeline.Interrupted

/-!
# The order of rounds

Rounds do not overlap. A bound join that has begun a round takes no further row and sends no request
for other rows until the round has brought its last page and has handed on all that it had to. So
the record of a run falls into the rounds that are complete and a current one
(`BoundJoin.Disciplined`): which rows they are for, which requests were sent for them, with which
replies, and which rows were handed on. `BoundJoin.runs_disciplined` says this of every moment of
every run, for any endpoint and any number of pages.

The record is kept along the run (`BoundJoin.Kept`). What is sent and handed on goes into the
current round, and a complete round joins the others only when the next row is asked for. What the
join itself knows of a round is a function of the record of the round (`RoundRecord.round`), so a
page that comes in need only be put on record.
-/

namespace PagedSparql

/-! ## Runs of rows -/

/-- The run with a number, if rows are cut into runs of `K` rows from the first one on. The last run
may be shorter, and there are no rows in the runs after it. -/
def rowRun (K : Nat) (U : List Row) (n : Nat) : List Row := (U.drop (n * K)).take K

/-- The buckets after the first ones are those of the other rows. -/
theorem drop_buckets {K : Nat} (hK : 0 < K) (U : List Row) (n : Nat) :
    (buckets K U).drop n = buckets K (U.drop (n * K)) := by
  induction n generalizing U with
  | zero => simp
  | succ n ih =>
    cases U with
    | nil => simp [buckets]
    | cons r rest =>
      -- The first bucket is the first row with `K - 1` others, so `K` rows are left out with it.
      have hnumber : (n + 1) * K = (K - 1 + n * K) + 1 := by
        rw [Nat.succ_mul]
        omega
      rw [buckets, List.drop_succ_cons, ih, List.drop_drop, hnumber, List.drop_succ_cons]

/-- The buckets are the runs that have rows. -/
theorem getElem?_buckets {K : Nat} (hK : 0 < K) {U bucket : List Row} {n : Nat} :
    (buckets K U)[n]? = some bucket ↔ bucket = rowRun K U n ∧ bucket ≠ [] := by
  rw [← List.head?_drop, drop_buckets hK, rowRun]
  cases U.drop (n * K) with
  | nil =>
    simp only [buckets, List.head?_nil, List.take_nil]
    exact ⟨fun h => absurd h (by simp), fun h => absurd h.1 h.2⟩
  | cons r rest =>
    obtain ⟨k, rfl⟩ := Nat.exists_eq_succ_of_ne_zero hK.ne'
    simp only [buckets, List.head?_cons, Option.some.injEq, List.take_succ_cons,
      Nat.succ_eq_add_one, Nat.add_sub_cancel]
    exact ⟨fun h => ⟨h.symm, by simp [← h]⟩, fun h => h.1.symm⟩

namespace Network

variable {σ : Type} {net : Network σ} {address : String}

/-- The world after requests were sent to the endpoint with an address. -/
def after (net : Network σ) (address : String) (trips : List RoundTrip) (w : σ) : σ :=
  trips.foldl (fun w x => (net.send address x.request w).2) w

/-- Replies to several requests come in two parts. -/
theorem replies_append {trips more : List RoundTrip} {w : σ} :
    net.Replies address (trips ++ more) w ↔
      net.Replies address trips w ∧ net.Replies address more (net.after address trips w) := by
  induction trips generalizing w with
  | nil => simp [Replies, after]
  | cons x rest ih =>
    simp only [List.cons_append, Replies, ih, and_assoc]
    rfl

end Network

/-! ## The record of a round -/

/-- A round does not know how many rows a bucket may hold. -/
theorem Round.start_bufferSize (goal : BoundPattern) (K : Nat) (bucket : List Row) :
    Round.start { goal with bufferSize := K } bucket = Round.start goal bucket := rfl

/-- What is on record of a round. -/
structure RoundRecord where
  /-- The rows that the round is for. -/
  bucket : List Row
  /-- The requests that were sent for them, with the replies. -/
  trips : List RoundTrip := []
  /-- The rows that were handed on. -/
  given : List Row := []

namespace RoundRecord

variable {goal : BoundPattern} {r : RoundRecord} {x : RoundTrip} {page : Page} {w : Row}

/-- The text that is asked for: the pattern for the one empty row, else the union of the patterns
for all rows, each with its row put in and its variables renamed. -/
def text (goal : BoundPattern) (r : RoundRecord) : String :=
  if r.bucket = [.empty] then QueryText.ofPattern goal.triples
  else QueryText.ofUnion (RoundTable.patterns goal.triples r.bucket)

/-- The pages that the replies bring, in order. -/
def pages (r : RoundRecord) : List Page := r.trips.filterMap (·.page.toOption)

/-- A page was received that announces no other. -/
def isOver (r : RoundRecord) : Bool := r.pages.getLast?.any (!·.hasNext)

/-- The rows to hand on, once the pages are read: what the pages extend, page by page, and after the
last page, if the join is optional, the rows that no page has extended. -/
def due (goal : BoundPattern) (r : RoundRecord) : List Row :=
  ((Round.start goal r.bucket).absorbAll r.pages).1 ++
    if r.isOver && goal.optional then
      ((Round.start goal r.bucket).absorbAll r.pages).2.table.unobserved else []

/-- The requests of a round and the rows that it hands on are in order. -/
structure Orderly (goal : BoundPattern) (r : RoundRecord) : Prop where
  /-- All requests carry the text of the round. -/
  about : ∀ x ∈ r.trips, x.request.query = r.text goal ∧ x.request.graph = goal.graph
  /-- The first request has no token. -/
  first : ∀ x ∈ r.trips.head?, x.request.token? = none
  /-- A request follows a page that announces another one, and carries its token. -/
  later : r.trips.IsChain fun x y =>
    ∃ page, x.page = .ok page ∧ page.hasNext = true ∧ y.request.token? = page.token?
  /-- The replies bring pages. -/
  read : ∀ x ∈ r.trips, ∃ page, x.page = .ok page
  /-- The rows handed on are the first ones of those to hand on. -/
  given : r.given <+: r.due goal

/-- The record after a reply. -/
def receive (r : RoundRecord) (x : RoundTrip) : RoundRecord := { r with trips := r.trips ++ [x] }

/-- The record after a row was handed on. -/
def give (r : RoundRecord) (w : Row) : RoundRecord := { r with given := r.given ++ [w] }

/-- The sequence that asks for the next page. -/
def sequence (goal : BoundPattern) (r : RoundRecord) : PageSequence :=
  ⟨goal.address, r.text goal, goal.graph,
    if r.isOver then none else r.pages.getLast?.bind Page.token?, r.isOver⟩

/-- What the join knows of the round. -/
def round (goal : BoundPattern) (r : RoundRecord) : Round :=
  { ((Round.start goal r.bucket).absorbAll r.pages).2 with pages := r.sequence goal }

/-- A round begins without pages. -/
theorem round_begin (goal : BoundPattern) (bucket : List Row) :
    ({ bucket } : RoundRecord).round goal = Round.start goal bucket := by
  have hsequence : ({ bucket } : RoundRecord).sequence goal = (Round.start goal bucket).pages := by
    simp only [sequence, text, Round.start]
    split <;> rfl
  rw [round, hsequence]
  rfl

/-- A page that is received is the last one so far. -/
theorem pages_receive (hpage : x.page = .ok page) : (r.receive x).pages = r.pages ++ [page] := by
  simp [pages, receive, hpage, Except.toOption]

/-- The page that is received decides whether the round is over. -/
theorem isOver_receive (hpage : x.page = .ok page) : (r.receive x).isOver = !page.hasNext := by
  simp [isOver, pages_receive hpage]

/-- A page that is received tells how to go on. -/
theorem sequence_receive (hover : r.isOver = false) (hpage : x.page = .ok page) :
    (r.sequence goal).advance (.ok page) = (r.receive x).sequence goal := by
  have htext : (r.receive x).text goal = r.text goal := rfl
  simp only [sequence, isOver_receive hpage, pages_receive hpage, htext, PageSequence.advance]
  cases page.hasNext <;> simp [hover]

/-- What a page extends is handed on after what the pages before have extended. -/
theorem absorb_round (r : RoundRecord) (goal : BoundPattern) (hpage : x.page = .ok page)
    (hover : r.isOver = false) :
    let absorbed := Round.absorb
      { r.round goal with pages := (r.sequence goal).advance (.ok page) } page
    ((Round.start goal r.bucket).absorbAll r.pages).1 ++ absorbed.1 =
        ((Round.start goal r.bucket).absorbAll (r.receive x).pages).1 ∧
      absorbed.2 = (r.receive x).round goal := by
  have hpages : (r.receive x).pages = r.pages ++ [page] := pages_receive hpage
  have hround : (r.receive x).round goal =
      { ((Round.start goal r.bucket).absorbAll (r.pages ++ [page])).2 with
        pages := (r.sequence goal).advance (.ok page) } := by
    rw [sequence_receive hover hpage, ← hpages]
    rfl
  rw [hround, hpages, Round.absorbAll_append]
  simp only [Round.absorbAll, Round.absorb_eq, List.append_nil]
  exact ⟨rfl, rfl⟩

/-- While a round is not over, only what its pages extend is handed on. -/
theorem due_of_not_over (hover : r.isOver = false) :
    r.due goal = ((Round.start goal r.bucket).absorbAll r.pages).1 := by
  simp [due, hover]

/-- What the pages extend is handed on first. -/
theorem absorbAll_prefix_due (goal : BoundPattern) (r : RoundRecord) :
    ((Round.start goal r.bucket).absorbAll r.pages).1 <+: r.due goal := List.prefix_append _ _

/-- The record of a round that has not begun is in order. -/
theorem orderly_begin (goal : BoundPattern) (bucket : List Row) :
    ({ bucket } : RoundRecord).Orderly goal where
  about := by simp
  first := by simp
  later := .nil
  read := by simp
  given := List.nil_prefix

/-- The last page is that of the last reply. -/
theorem getLast?_pages {trips : List RoundTrip} {y : RoundTrip} (htrips : r.trips = trips ++ [y])
    (hpage : y.page = .ok page) : r.pages.getLast? = some page := by
  simp [pages, htrips, hpage, Except.toOption]

/-- A row is handed on that is due. -/
theorem Orderly.give (h : r.Orderly goal) (hdue : r.given ++ [w] <+: r.due goal) :
    (r.give w).Orderly goal where
  about := h.about
  first := h.first
  later := h.later
  read := h.read
  given := hdue

/-- A page is received for the next request of a round. -/
theorem Orderly.receive (h : r.Orderly goal) (hover : r.isOver = false)
    (hrequest : x.request = (r.sequence goal).request) (hpage : x.page = .ok page) :
    (r.receive x).Orderly goal := by
  have htoken : x.request.token? = r.pages.getLast?.bind Page.token? := by
    simp [hrequest, sequence, PageSequence.request, hover]
  constructor
  · intro y hy
    rcases List.mem_append.1 hy with hy | hy
    · exact h.about y hy
    · obtain rfl := List.mem_singleton.1 hy
      rw [hrequest]
      exact ⟨rfl, rfl⟩
  · intro y hy
    cases htrips : r.trips with
    | nil =>
      obtain rfl : x = y := by simpa [RoundRecord.receive, htrips] using hy
      rw [htoken, pages, htrips]
      rfl
    | cons z rest =>
      obtain rfl : z = y := by simpa [RoundRecord.receive, htrips] using hy
      exact h.first z (by simp [htrips])
  · refine List.isChain_append.2 ⟨h.later, .singleton x, ?_⟩
    rintro y hy _ ⟨⟩
    -- The round goes on, so its last page has announced another one.
    obtain ⟨trips, htrips⟩ := List.getLast?_eq_some_iff.1 hy
    obtain ⟨before, hbefore⟩ := h.read y (htrips ▸ by simp)
    have hlast := getLast?_pages htrips hbefore
    refine ⟨before, hbefore, ?_, ?_⟩
    · simpa [isOver, hlast] using hover
    · rw [htoken, hlast]
      rfl
  · intro y hy
    rcases List.mem_append.1 hy with hy | hy
    · exact h.read y hy
    · obtain rfl := List.mem_singleton.1 hy
      exact ⟨page, hpage⟩
  · have hgrows : r.due goal <+: ((Round.start goal r.bucket).absorbAll (r.receive x).pages).1 := by
      rw [due_of_not_over hover, ← (absorb_round r goal hpage hover).1]
      exact List.prefix_append _ _
    exact h.given.trans (hgrows.trans (absorbAll_prefix_due goal (r.receive x)))

end RoundRecord

namespace Stage

variable {σ : Type} {net : Network σ} {now : DateTime} {address : String} {st st' : Stage}
  {s s' : Session σ} {W : List Row}

/-- A stage at the top of a pipeline makes some number of steps in one session and hands on the rows
`W`. No step fails, and the client of an endpoint stays open. -/
inductive OpenRun (net : Network σ) (now : DateTime) (address : String) (st : Stage)
    (s : Session σ) : List Row → Stage → Session σ → Prop
  /-- No step was made. -/
  | start (isOpen : s.isClosed address = false) : OpenRun net now address st s [] st s
  /-- A further step is made. -/
  | step {W : List Row} {st' st'' : Stage} {y? : Option Signal} {s' s'' : Session σ}
    (before : OpenRun net now address st s W st' s')
    (h : st'.step net now (if st'.wants then some .done else none) s' = ((st'', y?), s''))
    (isOpen : s''.isClosed address = false) (well : ∀ e, y? ≠ some (.fail e)) :
    OpenRun net now address st s (W ++ handedOn y?) st'' s''

/-- A step may hand on nothing. -/
theorem OpenRun.silent {st'' : Stage} {s'' : Session σ}
    (before : OpenRun net now address st s W st' s')
    (h : st'.step net now (if st'.wants then some .done else none) s' = ((st'', none), s''))
    (isOpen : s''.isClosed address = false) : OpenRun net now address st s W st'' s'' := by
  have hnext := before.step h isOpen fun e he => absurd he (by simp)
  simpa [handedOn] using hnext

/-- A step may hand on a row. -/
theorem OpenRun.row {st'' : Stage} {s'' : Session σ} {r : Row}
    (before : OpenRun net now address st s W st' s')
    (h : st'.step net now (if st'.wants then some .done else none) s' =
      ((st'', some (.row r)), s''))
    (isOpen : s''.isClosed address = false) :
    OpenRun net now address st s (W ++ [r]) st'' s'' :=
  before.step h isOpen fun e he => absurd he (by simp)

/-- The client is open at the end of the run. -/
theorem OpenRun.isClosed_eq_false (h : OpenRun net now address st s W st' s') :
    s'.isClosed address = false := by
  cases h with
  | start isOpen => exact isOpen
  | step before hstep isOpen well => exact isOpen

end Stage

namespace BoundJoin

variable {σ : Type} {net : Network σ} {now : DateTime} {goal : BoundPattern} {U rest W : List Row}
  {s₀ s s' : Session σ} {past : List RoundRecord} {current : RoundRecord} {j : BoundJoin}
  {K : Nat}

/-- The records of rounds account for all requests that were sent and for all rows that were handed
on. -/
structure Account (net : Network σ) (goal : BoundPattern) (s₀ : Session σ) (W : List Row)
    (s : Session σ) (past : List RoundRecord) (current : RoundRecord) : Prop where
  /-- The requests of the rounds were sent, in order, and no others. -/
  sent : s.requests = s₀.requests ++
    ((past ++ [current]).flatMap RoundRecord.trips).map fun x => (goal.address, x.request)
  /-- The endpoint replied like this. -/
  replies : net.Replies goal.address ((past ++ [current]).flatMap RoundRecord.trips) s₀.world
  /-- This has become of the world. -/
  world : s.world = net.after goal.address ((past ++ [current]).flatMap RoundRecord.trips) s₀.world
  /-- The rows of the rounds were handed on, in order, and no others. -/
  given : W = (past ++ [current]).flatMap RoundRecord.given
  /-- Each round is in order. -/
  orderly : ∀ r ∈ past ++ [current], r.Orderly goal
  /-- The rounds before the current one have read their last page and have handed on all rows. -/
  complete : ∀ r ∈ past, r.isOver = true ∧ r.given = r.due goal

namespace Account

/-- The account before the first step. -/
theorem start (net : Network σ) (goal : BoundPattern) (s : Session σ) (bucket : List Row) :
    Account net goal s [] s [] { bucket } where
  sent := by simp
  replies := trivial
  world := rfl
  given := rfl
  orderly := by simp [RoundRecord.orderly_begin]
  complete := by simp

/-- What goes into a bucket is not sent yet. -/
theorem fill {bucket : List Row} (h : Account net goal s₀ W s past { bucket })
    (bucket' : List Row) : Account net goal s₀ W s past { bucket := bucket' } where
  sent := by simpa using h.sent
  replies := by simpa using h.replies
  world := by simpa using h.world
  given := by simpa using h.given
  orderly := by
    intro r hr
    rcases List.mem_append.1 hr with hr | hr
    · exact h.orderly r (List.mem_append_left _ hr)
    · obtain rfl := List.mem_singleton.1 hr
      exact RoundRecord.orderly_begin goal bucket'
  complete := h.complete

/-- A row is handed on that is due. -/
theorem give {w : Row} (h : Account net goal s₀ W s past current)
    (hdue : current.given ++ [w] <+: current.due goal) :
    Account net goal s₀ (W ++ [w]) s past (current.give w) where
  sent := by simpa [RoundRecord.give] using h.sent
  replies := by simpa [RoundRecord.give] using h.replies
  world := by simpa [RoundRecord.give] using h.world
  given := by simp [h.given, RoundRecord.give]
  orderly := by
    intro r hr
    rcases List.mem_append.1 hr with hr | hr
    · exact h.orderly r (List.mem_append_left _ hr)
    · obtain rfl := List.mem_singleton.1 hr
      exact (h.orderly current (by simp)).give hdue
  complete := h.complete

/-- A page is received for the next request of the current round. -/
theorem receive {x : RoundTrip} {page : Page} (h : Account net goal s₀ W s past current)
    (hover : current.isOver = false) (hrequest : x.request = (current.sequence goal).request)
    (hpage : x.page = .ok page)
    (hreply : (net.send goal.address x.request s.world).1.reply = x.reply)
    (hworld : s'.world = (net.send goal.address x.request s.world).2)
    (hsent : s'.requests = s.requests ++ [(goal.address, x.request)]) :
    Account net goal s₀ W s' past (current.receive x) := by
  have htrips : (past ++ [current.receive x]).flatMap RoundRecord.trips =
      (past ++ [current]).flatMap RoundRecord.trips ++ [x] := by
    simp [RoundRecord.receive]
  constructor
  case sent =>
    rw [hsent, h.sent, htrips]
    simp
  case replies =>
    rw [htrips, Network.replies_append, ← h.world]
    exact ⟨h.replies, hreply, trivial⟩
  case world =>
    rw [htrips, Network.after, List.foldl_append, hworld, h.world]
    rfl
  case given => simpa [RoundRecord.receive] using h.given
  case orderly =>
    intro r hr
    rcases List.mem_append.1 hr with hr | hr
    · exact h.orderly r (List.mem_append_left _ hr)
    · obtain rfl := List.mem_singleton.1 hr
      exact (h.orderly current (by simp)).receive hover hrequest hpage
  case complete => exact h.complete

/-- A round that is complete joins the others. -/
theorem settle (h : Account net goal s₀ W s past current) (hover : current.isOver = true)
    (hgiven : current.given = current.due goal) (bucket : List Row) :
    Account net goal s₀ W s (past ++ [current]) { bucket } where
  sent := by simpa using h.sent
  replies := by simpa using h.replies
  world := by simpa using h.world
  given := by simpa using h.given
  orderly := by
    intro r hr
    rcases List.mem_append.1 hr with hr | hr
    · exact h.orderly r hr
    · obtain rfl := List.mem_singleton.1 hr
      exact RoundRecord.orderly_begin goal bucket
  complete := by
    intro r hr
    rcases List.mem_append.1 hr with hr | hr
    · exact h.complete r hr
    · obtain rfl := List.mem_singleton.1 hr
      exact ⟨hover, hgiven⟩

end Account

/-- Where a bound join with buckets of `K` rows stands with its current round, when of the rows `U`
the rows `rest` have not come in. -/
inductive Stands (goal : BoundPattern) (K : Nat) (U rest : List Row) (past : List RoundRecord)
    (current : RoundRecord) (j : BoundJoin) : Prop
  /-- The bucket of the round is being filled. -/
  | filling (idle : j.round? = none) (drained : j.pending = [])
    (record : current = { bucket := j.bucket }) (small : j.bucket.length < K)
    (ended : j.finished = true → j.inputDone = true)
    (cut : buckets K U =
      past.map RoundRecord.bucket ++ buckets K (j.bucket ++ rest))
  /-- The pages of the round are being read. -/
  | reading (round : j.round? = some (current.round goal))
    (waiting : current.given ++ j.pending =
      ((Round.start goal current.bucket).absorbAll current.pages).1)
    (empty : j.bucket = []) (working : j.finished = false)
    (cut : buckets K U =
      past.map RoundRecord.bucket ++ current.bucket :: buckets K rest)
  /-- The last page was read, and the last rows are handed on. -/
  | draining (idle : j.round? = none) (last : current.isOver = true)
    (waiting : current.given ++ j.pending = current.due goal)
    (empty : j.bucket = []) (working : j.finished = false)
    (cut : buckets K U =
      past.map RoundRecord.bucket ++ current.bucket :: buckets K rest)

/-- The record of a run is right. -/
structure Kept (net : Network σ) (goal : BoundPattern) (K : Nat) (U rest : List Row)
    (s₀ : Session σ) (W : List Row) (s : Session σ) (past : List RoundRecord)
    (current : RoundRecord) (j : BoundJoin) : Prop where
  /-- What the join is told does not change. -/
  told : j.goal = { goal with bufferSize := K }
  /-- After the last row nothing waits for another one. -/
  ended : j.inputDone = true → rest = [] ∧ j.bucket = []
  /-- All is on record. -/
  account : Account net goal s₀ W s past current
  /-- The record says where the join stands. -/
  stands : Stands goal K U rest past current j

namespace Kept

/-- Between two rounds the rounds so far are complete, and the next bucket is being filled. -/
theorem of_idle (hK : 0 < K) (h : Kept net goal K U rest s₀ W s past current j)
    (hr : j.round? = none) (hp : j.pending = []) :
    ∃ past' : List RoundRecord, Account net goal s₀ W s past' { bucket := j.bucket } ∧
      j.bucket.length < K ∧ (j.finished = true → j.inputDone = true) ∧
      buckets K U =
        past'.map RoundRecord.bucket ++ buckets K (j.bucket ++ rest) := by
  cases h.stands with
  | filling idle drained record small ended cut =>
    exact ⟨past, record ▸ h.account, small, ended, cut⟩
  | reading round waiting empty working cut => exact absurd (hr.symm.trans round) (by simp)
  | draining idle last waiting empty working cut =>
    -- Nothing waits any more, so the current round has handed on all that is due.
    rw [hp, List.append_nil] at waiting
    refine ⟨past ++ [current], h.account.settle last waiting _, ?_, ?_, ?_⟩
    · rw [empty]
      exact hK
    · intro hf
      exact absurd (hf.symm.trans working) (by simp)
    · simp [cut, empty]

/-- A row goes into the bucket, and a full bucket begins a round. -/
theorem take (hK : 0 < K) {r : Row}
    (h : Kept net goal K U (r :: rest) s₀ W s past current j) (hwants : j.wants = true) :
    (j.accept (.row r)).2 = none ∧
      ∃ past' current', Kept net goal K U rest s₀ W s past' current' (j.accept (.row r)).1 := by
  obtain ⟨hp, hf, hr, hd⟩ := wants_iff.1 hwants
  obtain ⟨past', haccount, hsmall, -, hcut⟩ := h.of_idle hK hr hp
  have hcut' : buckets K U =
      past'.map RoundRecord.bucket ++ buckets K ((j.bucket ++ [r]) ++ rest) := by
    simpa using hcut
  by_cases hfull : (j.bucket ++ [r]).length < K
  · rw [accept_row_of_lt (by rwa [h.told])]
    exact ⟨rfl, past', _, h.told, fun hd' => absurd (hd.symm.trans hd') (by simp),
      haccount.fill (j.bucket ++ [r]),
      .filling hr hp rfl hfull (fun hf' => absurd (hf.symm.trans hf') (by simp)) hcut'⟩
  · -- The round of a full bucket begins, and nothing was sent for it yet.
    have hlength : (j.bucket ++ [r]).length = K := length_of_full hsmall hfull
    rw [buckets_append hK hlength] at hcut'
    rw [accept_row_of_full (by rwa [h.told]), h.told]
    refine ⟨rfl, past', _, rfl, fun hd' => absurd (hd.symm.trans hd') (by simp),
      haccount.fill (j.bucket ++ [r]), .reading ?_ ?_ rfl hf hcut'⟩
    · rw [RoundRecord.round_begin, Round.start_bufferSize]
    · simp [hp, RoundRecord.pages, Round.absorbAll]

/-- After the last row the rows of the bucket begin the last round. -/
theorem close (hK : 0 < K) (h : Kept net goal K U [] s₀ W s past current j)
    (hwants : j.wants = true) :
    (j.accept .done).2 = none ∧
      ∃ past' current', Kept net goal K U [] s₀ W s past' current' (j.accept .done).1 := by
  obtain ⟨hp, hf, hr, hd⟩ := wants_iff.1 hwants
  obtain ⟨past', haccount, hsmall, -, hcut⟩ := h.of_idle hK hr hp
  by_cases hnil : j.bucket = []
  · rw [accept_done_of_nil hnil]
    exact ⟨rfl, past', _, h.told, fun _ => ⟨rfl, hnil⟩, haccount,
      .filling hr hp rfl hsmall (fun _ => rfl) hcut⟩
  · rw [List.append_nil, buckets_of_length_le hnil hsmall.le] at hcut
    rw [accept_done_of_ne_nil hnil, h.told]
    refine ⟨rfl, past', _, rfl, fun _ => ⟨rfl, rfl⟩, haccount, .reading ?_ ?_ rfl hf ?_⟩
    · rw [RoundRecord.round_begin, Round.start_bufferSize]
    · simp [hp, RoundRecord.pages, Round.absorbAll]
    · rw [hcut, buckets]

/-- A row is handed on that has waited. -/
theorem give {w : Row} {pending : List Row} (h : Kept net goal K U rest s₀ W s past current j)
    (hp : j.pending = w :: pending) :
    Kept net goal K U rest s₀ (W ++ [w]) s past (current.give w) { j with pending } := by
  have hgiven : (current.give w).given ++ pending = current.given ++ j.pending := by
    simp [RoundRecord.give, hp]
  have hfirst : current.given ++ [w] <+: current.given ++ j.pending := by
    rw [← hgiven]
    exact List.prefix_append _ _
  cases h.stands with
  | filling idle drained => exact absurd (hp.symm.trans drained) (by simp)
  | reading round waiting empty working cut =>
    have hdue : current.given ++ [w] <+: current.due goal :=
      (waiting ▸ hfirst).trans (current.absorbAll_prefix_due goal)
    exact ⟨h.told, h.ended, h.account.give hdue,
      .reading round (hgiven.trans waiting) empty working cut⟩
  | draining idle last waiting empty working cut =>
    exact ⟨h.told, h.ended, h.account.give (waiting ▸ hfirst),
      .draining idle last (hgiven.trans waiting) empty working cut⟩

end Kept

/-- What a step tells when it hands on the end or a failure. -/
structure Tells (net : Network σ) (goal : BoundPattern) (rest : List Row) (current : RoundRecord)
    (s : Session σ) (y? : Option Signal) (s' : Session σ) : Prop where
  /-- At the end all rows have come in, and all rounds are complete. -/
  done : y? = some .done → rest = [] ∧ current = { bucket := [] }
  /-- A failure comes from a reply that brings no page. -/
  failed : ∀ e, y? = some (.fail e) → ∃ x : RoundTrip, x.page = .error e ∧
    s'.requests = s.requests ++ [(goal.address, x.request)] ∧
      net.Replies goal.address [x] s.world

/-- A step that hands on no end and no failure tells nothing. -/
theorem Tells.of_none : Tells net goal rest current s none s' where
  done := fun h => absurd h (by simp)
  failed := fun e h => absurd h (by simp)

/-- A join that reads a round sends the next request, and takes in the page of the reply if its
client is open afterwards. -/
theorem advance_of_reply {round : Round} (hp : j.pending = []) (hf : j.finished = false)
    (hr : j.round? = some round) (hmore : round.pages.finished = false)
    (haddress : round.pages.address = j.goal.address)
    (hopen : (j.advance net s).2.isClosed j.goal.address = false) :
    ∃ x : RoundTrip, x.request = round.pages.request ∧
      (j.advance net s).1 = j.takePage { round with pages := round.pages.advance x.page } false
        (x.page.map some) ∧
      (net.send j.goal.address x.request s.world).1.reply = x.reply ∧
      (j.advance net s).2.world = (net.send j.goal.address x.request s.world).2 ∧
      (j.advance net s).2.requests = s.requests ++ [(j.goal.address, x.request)] := by
  have hadvance : j.advance net s = _ := advance_of_reading hp hf hr hmore
  rw [haddress] at hadvance
  rw [hadvance] at hopen ⊢
  obtain ⟨hpage, hworld, hlog⟩ := Session.fetch_of_open hopen
  refine ⟨⟨round.pages.request, (net.send j.goal.address round.pages.request s.world).1.reply⟩, rfl,
    ?_, rfl, hworld, ?_⟩
  · rw [hopen, hpage]
  · rw [Session.requests, hlog, List.reverse_cons]
    rfl

namespace Kept

/-- The reply to the next request of a round is put on record. -/
theorem receive (h : Kept net goal K U rest s₀ W s past current j) (hp : j.pending = [])
    (round : j.round? = some (current.round goal))
    (waiting : current.given ++ j.pending =
      ((Round.start goal current.bucket).absorbAll current.pages).1)
    (empty : j.bucket = []) (working : j.finished = false)
    (cut : buckets K U = past.map RoundRecord.bucket ++ current.bucket :: buckets K rest)
    (hover : current.isOver = false)
    (hopen : (j.advance net s).2.isClosed goal.address = false) :
    Tells net goal rest current s (j.advance net s).1.2 (j.advance net s).2 ∧
      ((∀ e, (j.advance net s).1.2 ≠ some (.fail e)) → ∃ current',
        Kept net goal K U rest s₀ (W ++ Stage.handedOn (j.advance net s).1.2) (j.advance net s).2
          past current' (j.advance net s).1.1) := by
  have haddress : goal.address = j.goal.address := by rw [h.told]
  rw [haddress] at hopen
  obtain ⟨x, hrequest, hjoin, hreply, hworld, hsent⟩ :=
    advance_of_reply hp working round hover haddress hopen
  rw [← haddress] at hreply hworld hsent
  rw [hjoin]
  cases hpage : x.page with
  | error e =>
    -- The step fails, and the record is given up.
    refine ⟨⟨fun hdone => absurd hdone (by simp [takePage, Except.map]), fun e' he => ?_⟩,
      fun hwell => absurd rfl (hwell e)⟩
    obtain rfl : e = e' := by simpa [takePage, Except.map] using he
    exact ⟨x, hpage, hsent, hreply, trivial⟩
  | ok page =>
    refine ⟨.of_none, fun _ => ⟨current.receive x, h.told, h.ended, ?_, ?_⟩⟩
    · simpa [takePage, Except.map, Stage.handedOn] using
        h.account.receive hover hrequest hpage hreply hworld hsent
    · obtain ⟨hrows, hround⟩ := current.absorb_round goal hpage hover
      refine .reading (congrArg some hround) ?_ empty working cut
      have hgiven : current.given ++ (j.pending ++ (Round.absorb
          { current.round goal with pages := (current.sequence goal).advance (.ok page) } page).1) =
            ((Round.start goal current.bucket).absorbAll (current.receive x).pages).1 := by
        rw [← hrows, ← waiting, List.append_assoc]
      exact hgiven

/-- A step of a bound join on its own. -/
theorem act (hK : 0 < K) (h : Kept net goal K U rest s₀ W s past current j)
    (hwants : j.wants = false) (hopen : (j.advance net s).2.isClosed goal.address = false) :
    Tells net goal rest current s (j.advance net s).1.2 (j.advance net s).2 ∧
      ((∀ e, (j.advance net s).1.2 ≠ some (.fail e)) → ∃ past' current',
        Kept net goal K U rest s₀ (W ++ Stage.handedOn (j.advance net s).1.2) (j.advance net s).2
          past' current' (j.advance net s).1.1) := by
  cases hp : j.pending with
  | cons w pending =>
    rw [advance_of_pending hp]
    exact ⟨⟨fun hdone => absurd hdone (by simp), fun e he => absurd he (by simp)⟩,
      fun _ => ⟨past, _, h.give hp⟩⟩
  | nil =>
    cases hr : j.round? with
    | none =>
      obtain ⟨past', haccount, hsmall, hended, hcut⟩ := h.of_idle hK hr hp
      cases hf : j.finished with
      | true =>
        -- The end is told only by a join that has finished, and that has no round any more.
        rw [advance_of_finished hp hf]
        refine ⟨⟨fun _ => ?_, fun e he => absurd he (by simp)⟩, fun _ => ⟨past', _, h.told, h.ended,
          by simpa [Stage.handedOn] using haccount, .filling hr hp rfl hsmall hended hcut⟩⟩
        obtain ⟨hrest, hbucket⟩ := h.ended (hended hf)
        cases h.stands with
        | filling idle drained record => exact ⟨hrest, by rw [record, hbucket]⟩
        | reading round waiting empty working => exact absurd (hf.symm.trans working) (by simp)
        | draining idle last waiting empty working => exact absurd (hf.symm.trans working) (by simp)
      | false =>
        have hdone : j.inputDone = true := by simpa [wants, hp, hf, hr] using hwants
        rw [advance_of_idle hp hf hr]
        exact ⟨.of_none, fun _ => ⟨past', _, h.told, h.ended,
          by simpa [Stage.handedOn] using haccount,
          .filling hr hp rfl hsmall (fun _ => hdone) hcut⟩⟩
    | some round =>
      cases h.stands with
      | filling idle => exact absurd (hr.symm.trans idle) (by simp)
      | draining idle => exact absurd (hr.symm.trans idle) (by simp)
      | reading hround waiting empty working cut =>
        cases hover : current.isOver with
        | false =>
          obtain ⟨htells, hkept⟩ := h.receive hp hround waiting empty working cut hover hopen
          exact ⟨htells, fun hwell => ⟨past, hkept hwell⟩⟩
        | true =>
          -- The round is over, and nothing is sent.
          have hopen' : s.isClosed j.goal.address = false := by
            cases hclosed : s.isClosed j.goal.address with
            | false => rfl
            | true =>
              rw [h.told] at hclosed
              have hlater : (j.advance net s).2.isClosed goal.address = true :=
                isClosed_advance hclosed
              exact hlater.symm.trans hopen
          rw [advance_of_last hp working hround hover hopen']
          refine ⟨.of_none, fun _ => ⟨past, current, h.told, h.ended,
            by simpa [Stage.handedOn] using h.account, .draining rfl hover ?_ empty working cut⟩⟩
          rw [hp, List.append_nil] at waiting
          rw [waiting, h.told, RoundRecord.due, hover, Bool.true_and]
          rfl

/-- A step of a bound join below a list of rows. -/
theorem step (hK : 0 < K) (h : Kept net goal K U rest s₀ W s past current j) {y? : Option Signal}
    {st' : Stage}
    (hstep : (Stage.chain (.source rest .done) (.remote j)).step net now none s = ((st', y?), s'))
    (hopen : s'.isClosed goal.address = false) :
    Tells net goal rest current s y? s' ∧
      ((∀ e, y? ≠ some (.fail e)) → ∃ rest' j' past' current',
        st' = .chain (.source rest' .done) (.remote j') ∧
          Kept net goal K U rest' s₀ (W ++ Stage.handedOn y?) s' past' current' j') := by
  cases hwants : j.wants with
  | false =>
    have hlower : (Stage.remote j).wants = false := hwants
    rw [Stage.step_chain_of_not_wants hlower, step_none] at hstep
    obtain ⟨⟨rfl, rfl⟩, rfl⟩ := (Prod.mk.inj hstep).imp_left Prod.mk.inj
    obtain ⟨htells, hkept⟩ := h.act hK hwants hopen
    refine ⟨htells, fun hwell => ?_⟩
    obtain ⟨past', current', hkept'⟩ := hkept hwell
    exact ⟨rest, _, past', current', rfl, hkept'⟩
  | true =>
    have hlower : (Stage.remote j).wants = true := hwants
    -- What comes from above is taken in, and nothing is handed on.
    have haccept : ∀ (rest' : List Row) (x : Signal),
        (Stage.source rest .done).step net now none s = ((.source rest' .done, some x), s) →
        ((j.accept x).2 = none ∧
          ∃ past' current', Kept net goal K U rest' s₀ W s past' current' (j.accept x).1) →
        Tells net goal rest current s y? s' ∧
          ((∀ e, y? ≠ some (.fail e)) → ∃ rest' j' past' current',
            st' = .chain (.source rest' .done) (.remote j') ∧
              Kept net goal K U rest' s₀ (W ++ Stage.handedOn y?) s' past' current' j') := by
      rintro rest' x hsource ⟨hnone, past', current', hkept⟩
      rw [Stage.step_chain_of_some hlower hsource, step_some, hnone] at hstep
      obtain ⟨⟨rfl, rfl⟩, rfl⟩ := (Prod.mk.inj hstep).imp_left Prod.mk.inj
      refine ⟨.of_none, fun _ => ⟨rest', _, past', current', rfl, ?_⟩⟩
      simpa [Stage.handedOn] using hkept
    cases rest with
    | cons r rest => exact haccept rest (.row r) rfl (h.take hK hwants)
    | nil => exact haccept [] .done rfl (h.close hK hwants)

end Kept

/-- The record of a bound join is kept over a whole run. -/
theorem kept_of_openRun {st : Stage}
    (h : Stage.OpenRun net now goal.address (.chain (.source U .done) (.remote (.ofPattern goal)))
      s₀ W st s) :
    ∃ rest j past current, st = .chain (.source rest .done) (.remote j) ∧
      Kept net goal (max goal.bufferSize 1) U rest s₀ W s past current j := by
  have hK : 0 < max goal.bufferSize 1 := Nat.lt_of_lt_of_le Nat.one_pos (Nat.le_max_right _ _)
  induction h with
  | start isOpen =>
    have hended : (ofPattern goal).inputDone = true → U = [] ∧ (ofPattern goal).bucket = [] :=
      fun hd => absurd hd (by simp [ofPattern])
    have hfinished : (ofPattern goal).finished = true → (ofPattern goal).inputDone = true :=
      fun hf => absurd hf (by simp [ofPattern])
    exact ⟨U, .ofPattern goal, [], { bucket := [] }, rfl, rfl, hended, .start net goal s₀ [],
      .filling rfl rfl rfl hK hfinished (by simp [ofPattern])⟩
  | step before hstep isOpen well ih =>
    obtain ⟨rest, j, past, current, rfl, hkept⟩ := ih
    have hwants : (Stage.chain (.source rest .done) (.remote j)).wants = false := by
      simp [Stage.wants]
    simp only [hwants, Bool.false_eq_true, if_false] at hstep
    exact (hkept.step hK hstep isOpen).2 well

/-- The record of a run of a bound join with buckets of `K` rows: the complete rounds, and the
current one, whose bucket may still be filled. -/
structure Disciplined (net : Network σ) (goal : BoundPattern) (K : Nat) (U rest : List Row)
    (s₀ : Session σ) (W : List Row) (s : Session σ) (past : List RoundRecord)
    (current : RoundRecord) : Prop extends Account net goal s₀ W s past current where
  /-- The rows of the rounds have come in, in order, and no others. -/
  pulled : U = (past ++ [current]).flatMap RoundRecord.bucket ++ rest
  /-- Each complete round is for the run of rows with its number, which is not empty. -/
  runs : ∀ n r, past[n]? = some r → r.bucket = rowRun K U n ∧ r.bucket ≠ []
  /-- So is the current round, once a request was sent for it. -/
  begun : current.trips ≠ [] → current.bucket = rowRun K U past.length ∧ current.bucket ≠ []
  /-- No more than `K` rows have come in whose round is not complete. -/
  bounded : current.bucket.length ≤ K

/-- The buckets are those of the complete rounds and then that of the current one, if it is full. -/
theorem Stands.cut (h : Stands goal K U rest past current j) :
    ∃ more, buckets K U = past.map RoundRecord.bucket ++ more ∧
      (more = current.bucket :: buckets K rest ∨
        more = buckets K (current.bucket ++ rest) ∧ current.trips = [] ∧
          current.bucket.length < K) := by
  cases h with
  | filling idle drained record small ended cut =>
    subst record
    exact ⟨_, cut, .inr ⟨rfl, rfl, small⟩⟩
  | reading round waiting empty working cut => exact ⟨_, cut, .inl rfl⟩
  | draining idle last waiting empty working cut => exact ⟨_, cut, .inl rfl⟩

/-- What is kept on record is that rounds do not overlap. -/
theorem Kept.disciplined (hK : 0 < K) (h : Kept net goal K U rest s₀ W s past current j) :
    Disciplined net goal K U rest s₀ W s past current := by
  obtain ⟨more, hcut, hmore⟩ := h.stands.cut
  have hflat : more.flatten = current.bucket ++ rest := by
    rcases hmore with rfl | ⟨rfl, -, -⟩
    · rw [List.flatten_cons, flatten_buckets]
    · rw [flatten_buckets]
  -- If the bucket of the current round is cut off already, it is the next one of the input.
  have hcurrent : more = current.bucket :: buckets K rest →
      current.bucket = rowRun K U past.length ∧ current.bucket ≠ [] := by
    rintro rfl
    refine (getElem?_buckets hK).1 ?_
    rw [hcut, List.getElem?_append_right (by simp)]
    simp
  refine ⟨h.account, ?_, ?_, ?_, ?_⟩
  · calc
      U = (buckets K U).flatten := (flatten_buckets K U).symm
      _ = (past.map RoundRecord.bucket).flatten ++ (current.bucket ++ rest) := by
        rw [hcut, List.flatten_append, hflat]
      _ = (past ++ [current]).flatMap RoundRecord.bucket ++ rest := by
        simp [List.flatMap_def]
  · intro n r hr
    refine (getElem?_buckets hK).1 ?_
    have hmap : (past.map RoundRecord.bucket)[n]? = some r.bucket := by simp [hr]
    rw [hcut, List.getElem?_append_left (List.getElem?_eq_some_iff.1 hmap).1, hmap]
  · intro htrips
    rcases hmore with hmore | ⟨-, hnone, -⟩
    · exact hcurrent hmore
    · exact absurd hnone htrips
  · rcases hmore with hmore | ⟨-, -, hsmall⟩
    · rw [(hcurrent hmore).1, rowRun]
      exact List.length_take_le _ _
    · exact hsmall.le

/-- **Rounds do not overlap.** At every moment of a run, while its client is open and all replies
bring pages, the requests that a bound join has sent and the rows that it has handed on are those of
some complete rounds and of a current one. Each round is for the next run of rows, asks for all of
its pages before any request is sent for later rows, and hands on what these pages extend, in order,
with the rows that no page has extended after the last one. The next step tells the end only after
rounds for all rows, and fails only if a reply brings no page. -/
theorem runs_disciplined {st : Stage}
    (h : Stage.OpenRun net now goal.address (.chain (.source U .done) (.remote (.ofPattern goal)))
      s₀ W st s) :
    ∃ rest j past current, st = .chain (.source rest .done) (.remote j) ∧
      Disciplined net goal (max goal.bufferSize 1) U rest s₀ W s past current ∧
      ∀ st' y? s', st.step net now none s = ((st', y?), s') → s'.isClosed goal.address = false →
        Tells net goal rest current s y? s' := by
  have hK : 0 < max goal.bufferSize 1 := Nat.lt_of_lt_of_le Nat.one_pos (Nat.le_max_right _ _)
  obtain ⟨rest, j, past, current, rfl, hkept⟩ := kept_of_openRun h
  exact ⟨rest, j, past, current, rfl, hkept.disciplined hK,
    fun st' y? s' hstep hopen => (hkept.step hK hstep hopen).1⟩

end BoundJoin

namespace Sample

/-- A run over two rows that share a round, whose answer has two pages with a row each. -/
theorem paged_openRun : ∃ j s, (j.pending = [] ∧ j.finished = true) ∧
    s.requests.map (·.2.token?) = [none, some "1"] ∧
    Stage.OpenRun (.ofReplies pagedReply) now (goal 2).address
      (.chain (.source [half, half'] .done) (.remote (.ofPattern (goal 2)))) session
      [half'.insert ⟨"y"⟩ resource, extended] (.chain (.source [] .done) (.remote j)) s := by
  have hstart : Stage.OpenRun (.ofReplies pagedReply) now (goal 2).address
      (.chain (.source [half, half'] .done) (.remote (.ofPattern (goal 2)))) session []
      (.chain (.source [half, half'] .done) (.remote (.ofPattern (goal 2)))) session := .start rfl
  have hfilled := (hstart.silent rfl rfl).silent rfl rfl
  -- Each page is followed by the row that it extends.
  have hfirst := (hfilled.silent rfl rfl).row rfl rfl
  have hsecond := (hfirst.silent rfl rfl).row rfl rfl
  -- The round is over, and no row comes in any more.
  exact ⟨_, _, ⟨rfl, rfl⟩, rfl, (hsecond.silent rfl rfl).silent rfl rfl⟩

end Sample

namespace BoundJoin

/-- Two requests were sent for two rows that share a round. Now the round is complete, and the next
one has no row. -/
theorem runs_disciplined_sample : ∃ st s,
    Stage.OpenRun (.ofReplies Sample.pagedReply) Sample.now (Sample.goal 2).address
      (.chain (.source [Sample.half, Sample.half'] .done) (.remote (.ofPattern (Sample.goal 2))))
      Sample.session [Sample.half'.insert ⟨"y"⟩ Sample.resource, Sample.extended] st s ∧
    s.requests.map (·.2.token?) = [none, some "1"] ∧
    ∃ past, Disciplined (.ofReplies Sample.pagedReply) (Sample.goal 2) 2 [Sample.half, Sample.half']
      [] Sample.session [Sample.half'.insert ⟨"y"⟩ Sample.resource, Sample.extended] s past
      { bucket := [] } := by
  obtain ⟨j, s, ⟨hp, hf⟩, htokens, hrun⟩ := Sample.paged_openRun
  refine ⟨_, s, hrun, htokens, ?_⟩
  obtain ⟨rest, j', past, current, hst, hdisciplined, htells⟩ := runs_disciplined hrun
  -- The next step tells the end.
  have hwants : (Stage.remote j).wants = false := by simp [Stage.wants, wants, hf]
  have hstep : (Stage.chain (.source [] .done) (.remote j)).step (.ofReplies Sample.pagedReply)
      Sample.now none s = ((.chain (.source [] .done) (.remote j), some .done), s) := by
    rw [Stage.step_chain_of_not_wants hwants, step_none, advance_of_finished hp hf]
  obtain ⟨rfl, rfl⟩ := (htells _ _ _ hstep hrun.isClosed_eq_false).done rfl
  exact ⟨past, hdisciplined⟩

end BoundJoin

end PagedSparql
