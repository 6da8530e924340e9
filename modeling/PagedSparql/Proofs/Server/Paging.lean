import PagedSparql.Proofs.Plan.OptionalRun
import PagedSparql.Proofs.Protocol.PageWalk
import PagedSparql.Proofs.Rdf.RowNotation
import PagedSparql.Server.Endpoint

/-!
# Pages of an endpoint

An endpoint cuts the rows of a query into pages (`Paged`), and a sequence of pages puts them together
again. The token of a page is the number of rows before it, so the invariant of a walk is that number:
it is 0 at the start, and later it is at least the size of a page and less than the number of all
rows. Hence its sum with the page size fits 64 bits, if there are at most `2^63` rows.

A token comes from a client, so it may stand for any number of 64 bits, whether the endpoint has
given it out or not. The page for it is a window of the rows (`Endpoint.window`): as many of them as
the page size, from that number on, and a token if there are rows behind. But the number and the page
size are added first, also where no row is left, and a sum that does not fit 64 bits stops the program
(`Endpoint.pageOf_eq_window_iff`).
-/

namespace PagedSparql

variable {σ : Type}

/-- The rows, cut into pages of a size. -/
structure Paged (size : Nat) (rows : List Row) (pages : List Page) : Prop where
  /-- The pages hold all rows, in order. -/
  whole : pages.flatMap Page.rows = rows
  /-- There is a page for every `size` rows begun, but one at least. -/
  count : pages.length = max 1 ((rows.length + size - 1) / size)
  /-- All pages but the last are full. -/
  full : ∀ page ∈ pages.dropLast, page.rows.length = size
  /-- No page is empty unless there are no rows. -/
  filled : rows ≠ [] → ∀ page ∈ pages, page.rows ≠ []

namespace Paged

variable {size : Nat} {rows : List Row} {page : Page} {pages : List Page}

/-- Rows that fit on one page. -/
theorem single (hsize : 0 < size) (hrows : page.rows.length ≤ size) :
    Paged size page.rows [page] := by
  refine ⟨by simp, ?_, by simp, fun h => by simpa using h⟩
  have hcount : (page.rows.length + size - 1) / size ≤ 1 := by
    rw [Nat.div_le_iff_le_mul_add_pred hsize]
    omega
  simp only [List.length_singleton]
  omega

/-- A full page before others. -/
theorem cons (hsize : 0 < size) (hpage : page.rows.length = size) (hrows : rows ≠ [])
    (h : Paged size rows pages) : Paged size (page.rows ++ rows) (page :: pages) := by
  have hpos := List.length_pos_of_ne_nil hrows
  have hcount : (size + rows.length + size - 1) / size = (rows.length + size - 1) / size + 1 := by
    rw [← Nat.add_div_right _ hsize]
    congr 1
    omega
  have hone : 1 ≤ (rows.length + size - 1) / size := by
    rw [Nat.le_div_iff_mul_le hsize]
    omega
  have hne : pages ≠ [] := List.ne_nil_of_length_pos (by rw [h.count]; omega)
  refine ⟨by simp [h.whole], ?_, ?_, ?_⟩
  · rw [List.length_cons, List.length_append, hpage, h.count, hcount]
    omega
  · rw [List.dropLast_cons_of_ne_nil hne]
    exact List.forall_mem_cons.2 ⟨hpage, h.full⟩
  · intro _
    refine List.forall_mem_cons.2 ⟨?_, h.filled hrows⟩
    exact List.ne_nil_of_length_pos (by omega)

end Paged

namespace PageSequence

variable {net : Network σ} {p : PageSequence} {page : Page} {pages : List Page}

/-- Through a client that stays open a sequence brings these pages, with one request for each of
them, and nothing after the last. -/
def Brings (net : Network σ) (p : PageSequence) (pages : List Page) : Prop :=
  ∀ n s, (pulls net n p s).2.2.isClosed p.address = false →
    (pulls net n p s).1 =
        (pages.map fun page => .ok (some page)).take n ++
          List.replicate (n - pages.length) (.ok none) ∧
      (pulls net n p s).2.2.requests.length = s.requests.length + min n pages.length

/-- A sequence that is over brings no pages. -/
theorem Brings.of_finished (h : p.finished = true) : Brings net p [] := by
  intro n s _
  simp [pulls_of_finished h]

/-- A sequence brings the page that its request is answered with, and then what comes after it. -/
theorem Brings.step {reply : Except TransportError Response}
    (hreply : ∀ w, (net.send p.address p.request w).1.reply = reply) (hp : p.finished = false)
    (hpage : RoundTrip.page ⟨p.request, reply⟩ = .ok page)
    (hrest : Brings net (p.advance (.ok page)) pages) : Brings net p (page :: pages) := by
  intro n s hopen
  cases n with
  | zero => simp [pulls]
  | succ n =>
    obtain ⟨page?, s₁, hpage?, -, hrequests, hpulls⟩ := pulls_of_open hp hopen
    rw [hreply, hpage] at hpage?
    subst hpage?
    rw [hpulls] at hopen ⊢
    obtain ⟨hbrought, hsent⟩ := hrest n s₁ (by rwa [(p.advance_about (.ok page)).1])
    refine ⟨?_, ?_⟩
    · rw [hbrought]
      simp [Except.map]
    · rw [hsent, hrequests]
      simp only [List.length_append, List.length_cons, List.length_nil]
      omega

end PageSequence

/-- Rows whose terms are read back can be read from their JSON. -/
theorem Page.readRows_toJson {rows : List Row}
    (h : ∀ row ∈ rows, ∀ v t, row.get? v = some t → t.Readable) :
    readRows (rows.map Row.toJson) = .ok rows := by
  rw [readRows_eq_ok_iff, List.map_map]
  refine List.map_congr_left fun row hrow => ?_
  have hread := Row.ofJson_toJson (h row hrow)
  rw [Row.toJson_eq] at hread
  rw [Function.comp_apply, Row.toJson_eq]
  simp only [readRow, hread]
  rfl

namespace Endpoint

/-- The number of a token is read back if it is one of 64 bits. -/
theorem readToken?_toString {n : Nat} (h : n < UInt64.size) :
    readToken? (toString n) = some (.ofNat n) := by
  have hdigits := Numeric.isDigit_toDigits n
  have hne : (Nat.toDigits 10 n).isEmpty = false := by
    rw [List.isEmpty_eq_false_iff]
    exact Nat.toDigits_ne_nil
  have hvalue : Double.ofDigits (Nat.toDigits 10 n) = n := Nat.ofDigitChars_ten_toDigits
  have htext : (toString n).toList = Nat.toDigits 10 n := Nat.toList_repr
  unfold readToken?
  rw [htext]
  split
  · next heq =>
    rw [heq, List.all_cons, Bool.and_eq_true] at hdigits
    exact absurd hdigits.1 (by decide)
  · simp [hne, hdigits, hvalue, h]

/-- The token of the page behind so many rows. -/
def token? (n : Nat) : Option String := if n = 0 then none else some (toString n)

/-- The number of rows is read from the token. -/
theorem offset_token? {n : Nat} (h : n < UInt64.size) : offset (token? n) = .ok (.ofNat n) := by
  by_cases hn : n = 0
  · subst hn
    rfl
  · rw [token?, if_neg hn, offset, readToken?_toString h]

/-- The answer with a window of the rows. -/
def window (rows : List Row) (offset size : Nat) : Response :=
  ⟨((rows.drop offset).take size).map Row.toJson,
    if offset + size < rows.length then some (toString (offset + size)) else none,
    decide (offset + size < rows.length), none⟩

variable {net : Network σ} {address query graph : String} {size offset : UInt64} {rows : List Row}
  {select : String → Except EndpointError (List Row)} {n : Nat}

/-- The section is the window if the sum of the offset and the page size fits. -/
theorem section?_of_fits (h : offset.toNat + size.toNat < UInt64.size) : section? size offset rows =
      .ok ((rows.drop offset.toNat).take size.toNat,
        (window rows offset.toNat size.toNat).token?) := by
  have hstop : section? size offset rows =
      .ok ((rows.drop offset.toNat).take
          (min (offset.toNat + size.toNat) rows.length - offset.toNat),
        if min (offset.toNat + size.toNat) rows.length < rows.length
          then some (toString (min (offset.toNat + size.toNat) rows.length)) else none) := by
    rw [section?, Checked.uint64, if_pos h]
    rfl
  rw [hstop, window]
  by_cases hlast : offset.toNat + size.toNat < rows.length
  · simp [hlast, Nat.min_eq_left hlast.le]
  · have hrows : min (offset.toNat + size.toNat) rows.length = rows.length := by omega
    rw [hrows]
    simp only [lt_self_iff_false, if_false, hlast]
    rw [List.take_of_length_le (by simp), List.take_of_length_le (by simp; omega)]

/-- A page that is asked for by an offset is its window, unless the program stops. -/
theorem pageOf_of_offset {r : Request} (hoffset : Endpoint.offset r.token? = .ok offset)
    (hselect : select r.query = .ok rows) : pageOf select size r =
      if offset.toNat + size.toNat < UInt64.size
        then .ok (.ok (window rows offset.toNat size.toNat)) else .error .overflow := by
  simp only [pageOf, hoffset, hselect]
  by_cases hfits : offset.toNat + size.toNat < UInt64.size
  · rw [section?_of_fits hfits, if_pos hfits]
    by_cases hmore : offset.toNat + size.toNat < rows.length <;>
      simp [window, hmore, Bind.bind, Except.bind]
  · rw [section?, Checked.uint64, if_neg hfits, if_neg hfits]
    rfl

/-- The page behind so many rows. -/
def pageAt (size : UInt64) (rows : List Row) (n : Nat) : Page :=
  ⟨(rows.drop n).take size.toNat,
    if n + size.toNat < rows.length then some (toString (n + size.toNat)) else none,
    decide (n + size.toNat < rows.length), []⟩

/-- The endpoint answers the token for so many rows with the page behind them. -/
theorem page_answerOf (hselect : select query = .ok rows)
    (hread : ∀ row ∈ rows, ∀ v t, row.get? v = some t → t.Readable)
    (hfits : n + size.toNat < UInt64.size) :
    ∃ reply, answerOf select size ⟨query, graph, token? n⟩ = .ok reply ∧
      RoundTrip.page ⟨⟨query, graph, token? n⟩, reply⟩ = .ok (pageAt size rows n) := by
  have hrows : ∀ row ∈ (rows.drop n).take size.toNat, ∀ v t, row.get? v = some t → t.Readable :=
    fun row hrow => hread row (List.mem_of_mem_drop (List.mem_of_mem_take hrow))
  have hoffset : (UInt64.ofNat n).toNat = n := UInt64.toNat_ofNat_of_lt' (by omega)
  have hpage : pageOf select size ⟨query, graph, token? n⟩ =
      .ok (.ok (window rows n size.toNat)) := by
    rw [pageOf_of_offset (offset_token? (by omega)) hselect, hoffset, if_pos hfits]
  refine ⟨.ok (window rows n size.toNat), by rw [answerOf, hpage]; rfl, ?_⟩
  refine Page.ofResponse_eq_ok_iff.2 ⟨?_, Page.readRows_toJson hrows, ?_, ?_, rfl⟩
  · by_cases hmore : n + size.toNat < rows.length <;> simp [window, hmore]
  · by_cases hmore : n + size.toNat < rows.length <;> simp [pageAt, window, hmore]
  · rfl

/-- The endpoint at an address answers like this, as long as the program is not stopped. -/
def AnswersAt (net : Network σ) (address : String)
    (answer : Request → Checked (Except TransportError Response)) : Prop :=
  ∀ request reply, answer request = .ok reply →
    ∀ w, (net.send address request w).1.reply = reply

/-- What is left of a walk behind so many rows. -/
theorem exists_paged (hselect : select query = .ok rows)
    (hread : ∀ row ∈ rows, ∀ v t, row.get? v = some t → t.Readable) (hsize : 0 < size.toNat)
    (hlength : rows.length ≤ 2 ^ 63) (hserves : AnswersAt net address (answerOf select size))
    (hn : n = 0 ∨ size.toNat ≤ n ∧ n < rows.length) :
    ∃ pages, Paged size.toNat (rows.drop n) pages ∧
      PageSequence.Brings net (.resume address query graph (token? n)) pages := by
  -- Each page leaves fewer rows.
  induction hleft : rows.length - n using Nat.strongRecOn generalizing n with
  | ind left ih =>
    -- Behind the first page the size is at most the number of rows before, so the sum is no more than
    -- twice that number; at the first page it is the size itself.
    have hfits : n + size.toNat < UInt64.size := by
      have hword : size.toNat < UInt64.size := size.toNat_lt
      have hbits : UInt64.size = 2 ^ 64 := rfl
      omega
    obtain ⟨reply, hanswer, hpage⟩ :
        ∃ reply, answerOf select size ⟨query, graph, token? n⟩ = .ok reply ∧ _ :=
      page_answerOf hselect hread hfits
    have hreply := hserves _ _ hanswer
    by_cases hmore : n + size.toNat < rows.length
    · obtain ⟨pages, hpaged, hbrings⟩ := ih (rows.length - (n + size.toNat)) (by omega)
        (n := n + size.toNat) (.inr ⟨by omega, hmore⟩) rfl
      have hadvance : (PageSequence.resume address query graph (token? n)).advance
          (.ok (pageAt size rows n)) = .resume address query graph (token? (n + size.toNat)) := by
        have htoken : token? (n + size.toNat) = some (toString (n + size.toNat)) :=
          if_neg (by omega)
        rw [htoken]
        simp [PageSequence.advance, PageSequence.resume, pageAt, hmore]
      refine ⟨pageAt size rows n :: pages, ?_, .step hreply rfl hpage (hadvance ▸ hbrings)⟩
      have hfull : (pageAt size rows n).rows.length = size.toNat := by
        simp only [pageAt, List.length_take, List.length_drop]
        omega
      have hrest : rows.drop (n + size.toNat) ≠ [] := by simp [hmore]
      have hsplit : rows.drop n = (pageAt size rows n).rows ++ rows.drop (n + size.toNat) := by
        rw [← List.drop_drop]
        exact (List.take_append_drop _ _).symm
      rw [hsplit]
      exact hpaged.cons hsize hfull hrest
    · have hfinished : ((PageSequence.resume address query graph (token? n)).advance
          (.ok (pageAt size rows n))).finished = true := by
        simp [PageSequence.advance, pageAt, hmore]
      refine ⟨[pageAt size rows n], ?_, .step hreply rfl hpage (.of_finished hfinished)⟩
      have hrest : rows.drop n = (pageAt size rows n).rows :=
        (List.take_of_length_le (by rw [List.length_drop]; omega)).symm
      rw [hrest]
      exact .single hsize (List.length_take_le _ _)

/-- The greater of a word and one. -/
theorem toNat_max_one (size : UInt64) : (max size 1).toNat = max size.toNat 1 := by
  show (if size ≤ 1 then 1 else size).toNat = _
  have hone : (1 : UInt64).toNat = 1 := rfl
  split
  · next hle =>
    rw [UInt64.le_iff_toNat_le] at hle
    omega
  · next hlt =>
    rw [UInt64.le_iff_toNat_le] at hlt
    omega

/-- **Client and endpoint agree on pages.** An endpoint selects the same rows for a query whenever it
is asked, no more than fit in memory, and their terms are read back from JSON. A sequence of pages
that starts without a token brings these rows cut into pages of the size of the endpoint, which is
one at least, with one request for each page. -/
theorem walk_paged (net : Network σ) (address query graph : String)
    (select : String → Except EndpointError (List Row)) (pageSize : UInt64) (rows : List Row)
    (hselect : select query = .ok rows)
    (hread : ∀ row ∈ rows, ∀ v t, row.get? v = some t → t.Readable)
    (hlength : rows.length ≤ 2 ^ 63)
    (hserves : AnswersAt net address (answerOf select (max pageSize 1))) :
    ∃ pages, Paged (max pageSize.toNat 1) rows pages ∧
      PageSequence.Brings net (.resume address query graph none) pages := by
  have hmax := toNat_max_one pageSize
  have hsize : 0 < (max pageSize 1).toNat := by omega
  obtain ⟨pages, hpaged, hbrings⟩ :
      ∃ pages, Paged (max pageSize 1).toNat (rows.drop 0) pages ∧
        PageSequence.Brings net (.resume address query graph (token? 0)) pages :=
    exists_paged hselect hread hsize hlength hserves (.inl rfl)
  rw [hmax] at hpaged
  exact ⟨pages, hpaged, hbrings⟩

/-- An endpoint for pages of a size has pages of one row at least. -/
theorem answer_ofStore (store : Store) (pageSize : UInt64) :
    (ofStore store pageSize).answer = answerOf (ofStore store pageSize).select (max pageSize 1) := by
  have hsize : (ofStore store pageSize).pageSize = max pageSize 1 := by
    unfold ofStore
    rw [← UInt64.toNat_inj, toNat_max_one]
    split
    · next h =>
      have hpos : 0 < pageSize.toNat := UInt64.lt_iff_toNat_lt.1 h
      show pageSize.toNat = _
      omega
    · next h =>
      rw [UInt64.lt_iff_toNat_lt] at h
      have hzero : (0 : UInt64).toNat = 0 := rfl
      show 1 = _
      omega
  funext r
  rw [answer, hsize]

end Endpoint

namespace Sample

/-- A store of two triples with one subject, and one with another. -/
def store : Store :=
  let p : Term := .iri "http://example.org/p"
  ⟨[⟨.iri "http://example.org/a", p, .iri "http://example.org/b"⟩,
    ⟨.iri "http://example.org/a", p, .iri "http://example.org/c"⟩,
    ⟨.iri "http://example.org/b", p, .literal (.tagged "say \"b\"" "en")⟩]⟩

/-- An endpoint for pages of two rows. -/
def endpoint : Endpoint := .ofStore store 2

/-- The way to that endpoint. -/
def served : Network Unit where
  connect := fun _ => .ok ()
  send := fun _ request w =>
    -- Whoever stops does not answer.
    let failed : Except TransportError Response := .error (.http "connection closed")
    ({ reply := (endpoint.answer request).toOption.getD failed }, w)

/-- A query for the objects. -/
def objects : String := "SELECT ?o WHERE \x7b ?s <http://example.org/p> ?o \x7d"

/-- The pages for that query. -/
def objectWalk : PageSequence :=
  .resume "http://example.org/" objects "http://example.org/g" none

/-- The objects. -/
def objectRows : List Row :=
  [.ofList [(⟨"o"⟩, .iri "http://example.org/b")], .ofList [(⟨"o"⟩, .iri "http://example.org/c")],
    .ofList [(⟨"o"⟩, .literal (.tagged "say \"b\"" "en"))]]

end Sample

namespace Endpoint

/-- Three rows are brought in two pages, with two requests. -/
theorem walk_paged_sample : ∃ pages : List Page, pages.length = 2 ∧
    pages.flatMap Page.rows = Sample.objectRows ∧
    (PageSequence.pulls Sample.served 3 Sample.objectWalk Sample.idle).1 =
      pages.map (fun page => .ok (some page)) ++ [.ok none] ∧
    (PageSequence.pulls Sample.served 3 Sample.objectWalk Sample.idle).2.2.requests.length = 2 := by
  have hselect : Sample.endpoint.select Sample.objects = .ok Sample.objectRows := by
    decide +kernel
  have hread : ∀ row ∈ Sample.objectRows, ∀ v t, row.get? v = some t → t.Readable := by
    have hentries : ∀ row ∈ Sample.objectRows, ∀ e ∈ row.entries, e.2.Readable := by decide
    exact fun row hrow v t h => hentries row hrow (v, t) (VariableMap.mem_entries_iff.2 h)
  obtain ⟨pages, hpaged, hbrings⟩ := walk_paged Sample.served "http://example.org/" Sample.objects
    "http://example.org/g" Sample.endpoint.select 2 Sample.objectRows hselect hread (by decide)
    fun request reply hreply _ => by
      have hanswer : Sample.endpoint.answer request = .ok reply :=
        (congrFun (answer_ofStore Sample.store 2) request).trans hreply
      simp [Sample.served, hanswer, Except.toOption]
  have hopen : (PageSequence.pulls Sample.served 3 Sample.objectWalk
      Sample.idle).2.2.isClosed "http://example.org/" = false := by decide +kernel
  obtain ⟨hbrought, hsent⟩ := hbrings 3 Sample.idle hopen
  have hcount : pages.length = 2 := hpaged.count
  refine ⟨pages, hcount, hpaged.whole, hbrought.trans ?_, hsent.trans ?_⟩
  · rw [List.take_of_length_le (by simp [hcount]), hcount]
    rfl
  · rw [hcount]
    rfl

/-! ## Tokens of any client -/

/-- **The page for a token is the window, unless the sum does not fit.** For every token that stands
for a number, and all rows: the page holds the rows from that number on, up to the page size, and
announces another one with the right token, if and only if the number and the page size have a sum of
64 bits. In the remaining case the program stops. -/
theorem pageOf_eq_window_iff (select : String → Except EndpointError (List Row)) (size : UInt64)
    (query graph token : String) (offset : UInt64) (rows : List Row)
    (htoken : readToken? token = some offset) (hselect : select query = .ok rows) :
    (pageOf select size ⟨query, graph, some token⟩ =
        .ok (.ok (window rows offset.toNat size.toNat)) ↔
      offset.toNat + size.toNat < UInt64.size) ∧
    (UInt64.size ≤ offset.toNat + size.toNat →
      pageOf select size ⟨query, graph, some token⟩ = .error .overflow) := by
  have hoffset : Endpoint.offset (some token) = .ok offset := by
    rw [Endpoint.offset, htoken]
  have hpage : pageOf select size ⟨query, graph, some token⟩ = _ :=
    pageOf_of_offset hoffset hselect
  rw [hpage]
  refine ⟨⟨fun h => ?_, fun hfits => if_pos hfits⟩, fun hlarge => if_neg (by omega)⟩
  -- A program that has stopped has no page.
  by_contra hlarge
  rw [if_neg hlarge] at h
  cases h

/-- The greatest token, at an endpoint for pages of two rows: the program stops, where an empty page
is the window and the last one. The token for so many rows less gets that page. -/
theorem pageOf_eq_window_iff_sample :
    readToken? "18446744073709551615" = some 18446744073709551615 ∧
    pageOf (fun _ => .ok Sample.objectRows) 2
        ⟨Sample.objects, "http://example.org/g", some "18446744073709551615"⟩ =
      .error .overflow ∧
    window Sample.objectRows 18446744073709551615 2 = ⟨[], none, false, none⟩ ∧
    readToken? "18446744073709551613" = some 18446744073709551613 ∧
    pageOf (fun _ => .ok Sample.objectRows) 2
        ⟨Sample.objects, "http://example.org/g", some "18446744073709551613"⟩ =
      .ok (.ok ⟨[], none, false, none⟩) := by
  have hgreatest : readToken? "18446744073709551615" = some 18446744073709551615 := by
    decide +kernel
  have hless : readToken? "18446744073709551613" = some 18446744073709551613 := by decide +kernel
  obtain ⟨-, hstops⟩ := pageOf_eq_window_iff (fun _ => .ok Sample.objectRows) 2 Sample.objects
    "http://example.org/g" "18446744073709551615" 18446744073709551615 Sample.objectRows hgreatest
    rfl
  obtain ⟨hpage, -⟩ := pageOf_eq_window_iff (fun _ => .ok Sample.objectRows) 2 Sample.objects
    "http://example.org/g" "18446744073709551613" 18446744073709551613 Sample.objectRows hless rfl
  exact ⟨hgreatest, hstops (by decide +kernel), rfl, hless, hpage.2 (by decide +kernel)⟩

end Endpoint

end PagedSparql
