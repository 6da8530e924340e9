import PagedSparql.Proofs.Pipeline.Scene
import PagedSparql.Proofs.Pipeline.TeeRows

/-!
# Branches

The branches of a fork work one after the other, and each of them takes in all rows: the tee keeps
for the later ones what the earlier ones have read (`Fork.Reading`). So a fork hands on what its
branches hand on, one after the other (`Scene.Meets.fork`). A branch may be done before it has read
all rows; then what it has handed on is what it makes of them however they go on.
-/

namespace PagedSparql

variable {σ : Type}

namespace Fork

/-- What several stages that take in the same rows hand on, one after the other. -/
def Each (spec : Stage → List Row → List Row → Prop) (branches : List Stage) (U W : List Row) :
    Prop :=
  ∃ parts, List.Forall₂ (fun b V => spec b U V) branches parts ∧ W = parts.flatten

/-- Branches that are done, with what they have handed on. -/
structure Over (hasty : Stage → Prop) (spec : Stage → List Row → List Row → Prop)
    (past : List Stage) (parts : List (List Row)) (h : Traffic) : Prop where
  /-- They have met their specifications for all rows that may have come in. -/
  spec : ∀ rest, h.Rest rest → List.Forall₂ (fun b V => spec b (h.taken ++ rest) V) past parts
  /-- If rows still come in, all of them are hasty. -/
  hasty : h.ended = true ∨ ∀ b ∈ past, hasty b

/-- A branch of a fork is at work; `h` is what has come to the fork, and `hb` what has come to the
branch. -/
structure Reading (E : Scene σ) (hasty : Stage → Prop) (spec : Stage → List Row → List Row → Prop)
    (past rest : List Stage) (parts : List (List Row)) (tee : Tee) (h hb : Traffic)
    (s : Session σ) : Prop where
  /-- The branches before it are done. -/
  behind : Over hasty spec past parts h
  /-- The branches after it have not begun. -/
  meets : ∀ b ∈ rest, E.Meets (hasty b) b (spec b)
  /-- They can begin. -/
  ready : E.Ready s
  /-- The tee holds what has come to the fork. -/
  holds : tee.Holds h.taken h.ended
  /-- The branch is the reader that its place in the fork tells. -/
  reader : tee.readers[past.length]? = some ⟨hb.taken.length, hb.ended⟩
  /-- The branches after it have read nothing. -/
  later : ∀ i, past.length < i → i ≤ past.length + rest.length → tee.readers[i]? = some {}
  /-- The rows that have come to the branch are the first ones of the fork. -/
  taken : hb.taken <+: h.taken
  /-- The branch has seen the end after all rows of the fork. -/
  ended : hb.ended = true → h.ended = true ∧ hb.taken = h.taken
  /-- What was handed on comes from the branches so far. -/
  given : h.given = parts.flatten ++ hb.given

variable {E : Scene σ} {hasty : Stage → Prop} {spec : Stage → List Row → List Row → Prop}
  {past rest : List Stage} {parts : List (List Row)} {tee : Tee} {h hb : Traffic}
  {s s' : Session σ} {first branch : Stage}

/-- Branches that are done are so when another row comes in. -/
theorem Over.take (hover : Over hasty spec past parts h) (hended : h.ended = false) (r : Row) :
    Over hasty spec past parts (h.take r) where
  spec rest _ := by
    have := hover.spec (r :: rest) fun h' => absurd h' (by simp [hended])
    simpa [Traffic.take] using this
  hasty := hover.hasty

/-- Branches that are done are so when the last row has come in. -/
theorem Over.close (hover : Over hasty spec past parts h) : Over hasty spec past parts h.close where
  spec rest hrest := by
    obtain rfl := hrest rfl
    exact hover.spec [] fun _ => rfl
  hasty := .inl rfl

/-- One more branch is done. -/
theorem Reading.over_snoc (hread : Reading E hasty spec past rest parts tee h hb s)
    (hdone : hb.ended = true ∨ hasty first)
    (hspec : ∀ rest, hb.Rest rest → spec first (hb.taken ++ rest) hb.given) :
    Over hasty spec (past ++ [first]) (parts ++ [hb.given]) h where
  spec U hU := by
    refine List.rel_append (hread.behind.spec U hU) (.cons ?_ .nil)
    obtain ⟨more, hmore⟩ := hread.taken
    rw [← hmore, List.append_assoc]
    refine hspec _ fun hended => ?_
    -- A branch that has seen the end has seen all rows.
    obtain ⟨hclosed, hall⟩ := hread.ended hended
    obtain rfl := hU hclosed
    have hnil : more = [] := by simpa [hall] using hmore
    simp [hnil]
  hasty := by
    rcases hread.behind.hasty with hended | hpast
    · exact .inl hended
    · rcases hdone with hended | hfirst
      · exact .inl (hread.ended hended).1
      · refine .inr fun b hb => ?_
        rcases List.mem_append.1 hb with hb | hb
        · exact hpast b hb
        · exact List.mem_singleton.1 hb ▸ hfirst

/-- A branch is at work while others move the world. -/
theorem Reading.move (hE : E.Lawful) (hread : Reading E hasty spec past rest parts tee h hb s)
    (hmoves : Session.Moves E.others s s') : Reading E hasty spec past rest parts tee h hb s' :=
  { hread with ready := hread.ready.move hE hmoves }

/-- The branch hands on rows. -/
theorem Reading.give (hread : Reading E hasty spec past rest parts tee h hb s) (W : List Row) :
    Reading E hasty spec past rest parts tee ⟨h.taken, h.ended, h.given ++ W⟩
      ⟨hb.taken, hb.ended, hb.given ++ W⟩ s :=
  { hread with behind := ⟨hread.behind.spec, hread.behind.hasty⟩
               given := by simp [hread.given] }

/-- A row comes to the fork. -/
theorem Reading.receive_row (hread : Reading E hasty spec past rest parts tee h hb s)
    (hended : h.ended = false) (r : Row) :
    Reading E hasty spec past rest parts (tee.receive (.row r)) (h.take r) hb s :=
  { hread with behind := hread.behind.take hended r
               holds := hread.holds.receive_row r
               taken := hread.taken.trans (List.prefix_append _ _)
               ended := fun h' => absurd (hread.ended h').1 (by simp [hended]) }

/-- The last row has come to the fork. -/
theorem Reading.receive_done (hread : Reading E hasty spec past rest parts tee h hb s) :
    Reading E hasty spec past rest parts (tee.receive .done) h.close hb s :=
  { hread with behind := hread.behind.close
               holds := hread.holds.receive_done
               ended := fun h' => ⟨rfl, (hread.ended h').2⟩ }

/-- The branch is served a row that has come to the fork. -/
theorem Reading.serve_row (hread : Reading E hasty spec past rest parts tee h hb s)
    (hended : hb.ended = false) {r : Row} (hr : h.taken[hb.taken.length]? = some r) :
    ∃ tee', tee.serve? past.length = some (.row r, tee') ∧
      Reading E hasty spec past rest parts tee' h (hb.take r) s := by
  obtain ⟨hserve, hholds⟩ := hread.holds.serve?_row hread.reader hended hr
  refine ⟨_, hserve, { hread with holds := hholds, reader := ?_, later := ?_, taken := ?_,
                                  ended := fun h' => absurd h' (by simp [Traffic.take, hended]),
                                  given := hread.given }⟩
  · simp [hread.reader, Traffic.take]
  · intro i hi hle
    simp [hread.later i hi hle, show past.length ≠ i by omega]
  · obtain ⟨more, hmore⟩ := hread.taken
    rw [← hmore, List.getElem?_append_right (Nat.le_refl _), Nat.sub_self] at hr
    obtain ⟨more, rfl⟩ : ∃ rest, more = r :: rest := by
      cases more with
      | nil => exact absurd hr (by simp)
      | cons r' rest =>
        obtain rfl : r' = r := by simpa using hr
        exact ⟨rest, rfl⟩
    exact ⟨more, by simp [Traffic.take, ← hmore]⟩

/-- The branch is served the end. -/
theorem Reading.serve_done (hread : Reading E hasty spec past rest parts tee h hb s)
    (hended : hb.ended = false) (hclosed : h.ended = true)
    (hr : h.taken[hb.taken.length]? = none) :
    ∃ tee', tee.serve? past.length = some (.done, tee') ∧
      Reading E hasty spec past rest parts tee' h hb.close s := by
  obtain ⟨hserve, hholds⟩ := (hclosed ▸ hread.holds).serve?_done hread.reader hended hr
  refine ⟨_, hserve,
    { hread with holds := hclosed ▸ hholds, reader := ?_, later := ?_, ended := ?_ }⟩
  · simp [hread.reader, Traffic.close]
  · intro i hi hle
    simp [hread.later i hi hle, show past.length ≠ i by omega]
  · intro _
    rw [List.getElem?_eq_none_iff] at hr
    exact ⟨hclosed, hread.taken.eq_of_length_le hr⟩

/-- The branch asks for a row when it has taken all that have come to the fork. -/
theorem Reading.serve_none (hread : Reading E hasty spec past rest parts tee h hb s)
    (hended : hb.ended = false) :
    tee.serve? past.length = none ↔ h.ended = false ∧ h.taken[hb.taken.length]? = none := by
  constructor
  · intro hnone
    cases hr : h.taken[hb.taken.length]? with
    | some r =>
      obtain ⟨tee', hserve, -⟩ := hread.serve_row hended hr
      exact absurd (hnone.symm.trans hserve) (by simp)
    | none =>
      cases hclosed : h.ended with
      | false => exact ⟨rfl, rfl⟩
      | true =>
        obtain ⟨tee', hserve, -⟩ := hread.serve_done hended hclosed hr
        exact absurd (hnone.symm.trans hserve) (by simp)
  · rintro ⟨hmore, hr⟩
    exact (hmore ▸ hread.holds).serve?_none hread.reader hended hr

/-- The invariant of a fork. -/
inductive Inv (E : Scene σ) (hasty : Stage → Prop) (spec : Stage → List Row → List Row → Prop)
    (all : List Stage) : Stage → Traffic → Session σ → Prop
  /-- A branch is at work. -/
  | reading {past rest : List Stage} {first branch : Stage} {parts : List (List Row)} {tee : Tee}
    {h hb : Traffic} {s : Session σ} (all_eq : all = past ++ first :: rest)
    (reads : Reading E hasty spec past rest parts tee h hb s)
    (running : E.Running (hasty first) (spec first) branch hb s) :
    Inv E hasty spec all (.fork tee past.length (branch :: rest)) h s
  /-- All branches are done. -/
  | finished {parts : List (List Row)} {tee : Tee} {position : Nat} {h : Traffic} {s : Session σ}
    (behind : Over hasty spec all parts h) (given : h.given = parts.flatten) :
    Inv E hasty spec all (.fork tee position []) h s

/-- The fork after a step of its branch. -/
def after (tee : Tee) (position : Nat) (rest : List Stage) :
    Stage × Option Signal → Stage × Option Signal
  | (_, some .done) => (.fork tee (position + 1) rest, none)
  | (branch, y?) => (.fork tee position (branch :: rest), y?)

/-- The next branch is the one at work once the branch is done. -/
theorem after_of_done {tee : Tee} {position : Nat} {rest : List Stage}
    {out : Stage × Option Signal} (h : out.2 = some .done) :
    after tee position rest out = (.fork tee (position + 1) rest, none) := by
  obtain ⟨branch, y?⟩ := out
  subst h
  rfl

/-- The branch goes on until it is done. -/
theorem after_of_ne {tee : Tee} {position : Nat} {rest : List Stage}
    {out : Stage × Option Signal} (h : out.2 ≠ some .done) :
    after tee position rest out = (.fork tee position (out.1 :: rest), out.2) := by
  obtain ⟨branch, _ | _ | _ | _⟩ := out
  · rfl
  · rfl
  · exact absurd rfl h
  · rfl

/-- A step of a fork is one of its branch. -/
theorem step_fork (net : Network σ) (now : DateTime) (tee : Tee) (position : Nat) (branch : Stage)
    (rest : List Stage) (x? : Option Signal) (s : Session σ) :
    (Stage.fork tee position (branch :: rest)).step net now x? s =
      (after (Stage.teeSignal tee position branch.wants x?).2 position rest
          (branch.step net now (Stage.teeSignal tee position branch.wants x?).1 s).1,
        (branch.step net now (Stage.teeSignal tee position branch.wants x?).1 s).2) := by
  rw [Stage.step]
  rcases Stage.teeSignal tee position branch.wants x? with ⟨x?, tee⟩
  simp only
  rcases branch.step net now x? s with ⟨⟨branch', _ | _ | _ | _⟩, s'⟩ <;> rfl

variable {all : List Stage}

/-- The next branch begins, if there is one. -/
theorem Reading.next (hread : Reading E hasty spec past rest parts tee h hb s)
    (hall : all = past ++ first :: rest) (hover : hb.ended = true ∨ hasty first)
    (hspec : ∀ rest, hb.Rest rest → spec first (hb.taken ++ rest) hb.given) :
    Inv E hasty spec all (.fork tee (past.length + 1) rest) h s := by
  have hsnoc := hread.over_snoc hover hspec
  have hgiven : h.given = (parts ++ [hb.given]).flatten := by simp [hread.given]
  cases rest with
  | nil => exact .finished (hall ▸ hsnoc) hgiven
  | cons next rest =>
    have hlength : (past ++ [first]).length = past.length + 1 := by simp
    have hnext : Reading E hasty spec (past ++ [first]) rest (parts ++ [hb.given]) tee h {} s := by
      constructor
      · exact hsnoc
      · exact fun b hb => hread.meets b (List.mem_cons_of_mem _ hb)
      · exact hread.ready
      · exact hread.holds
      · rw [hlength]
        exact hread.later _ (by omega) (by simp)
      · intro i hi hle
        rw [hlength] at hi hle
        exact hread.later i (by omega) (by simp only [List.length_cons]; omega)
      · exact List.nil_prefix
      · exact fun h' => absurd h' (by simp)
      · simpa using hgiven
    rw [← hlength]
    exact .reading (by simp [hall]) hnext (hread.meets next List.mem_cons_self s hread.ready)

/-- What a step of the branch comes to. -/
theorem Reading.fulfils (hread : Reading E hasty spec past rest parts tee h hb s)
    (hall : all = past ++ first :: rest) {out : Stage × Option Signal}
    (hout : Stage.Fulfils (fun _ => True) (hasty first) (spec first)
      (E.Running (hasty first) (spec first)) hb s out) :
    Stage.Fulfils (fun _ => True) (∀ b ∈ all, hasty b) (Each spec all) (Inv E hasty spec all) h s
      (after tee past.length rest out) := by
  obtain ⟨branch, y?⟩ := out
  match y?, hout with
  | none, hout => exact .reading hall hread hout
  | some (.row r), hout => exact .reading hall (hread.give [r]) hout
  | some .done, hout =>
    exact hread.next hall hout.1 fun rest hrest => hout.2 rest hrest trivial

/-- A fork that wants nothing has a signal for its branch, or the branch wants nothing. Each signal
brings the branch nearer to the end of what has come to the fork. -/
theorem Reading.turn (hread : Reading E hasty spec past rest parts tee h hb s)
    (running : E.Running (hasty first) (spec first) branch hb s)
    (hwants : (Stage.fork tee past.length (branch :: rest)).wants = false) :
    ∃ x? tee' hb', Stage.teeSignal tee past.length branch.wants none = (x?, tee') ∧
      Reading E hasty spec past rest parts tee' h hb' s ∧
      (branch.wants = false ∧ x? = none ∧ hb' = hb ∨ branch.wants = true ∧
        hb'.taken.length + hb'.ended.toNat = hb.taken.length + hb.ended.toNat + 1) ∧
      Session.Moves E.others s (branch.step E.net E.now x? s).2 ∧
      Stage.Fulfils (fun _ => True) (hasty first) (spec first)
        (E.Running (hasty first) (spec first)) hb' (branch.step E.net E.now x? s).2
        (branch.step E.net E.now x? s).1 := by
  have hc := E.running_contract (hasty first) (spec first)
  cases hbranch : branch.wants with
  | false =>
    obtain ⟨hmoves, hout⟩ := hc.acts running hbranch
    exact ⟨none, tee, hb, rfl, hread, .inl ⟨rfl, rfl, rfl⟩, hmoves, hout⟩
  | true =>
    have hended : hb.ended = false := by
      by_contra hended
      exact absurd (hc.rests running (by simpa using hended)) (by simp [hbranch])
    have hserve : tee.serve? past.length ≠ none := by
      rw [← Option.isSome_iff_ne_none]
      simpa [Stage.wants, hbranch] using hwants
    -- The branch gets the next row that has come to the fork, or the end if all of them were read.
    cases hr : h.taken[hb.taken.length]? with
    | some r =>
      obtain ⟨tee', hserve', hread'⟩ := hread.serve_row hended hr
      obtain ⟨hmoves, hout⟩ := hc.takes running hbranch (r := r) ⟨[], trivial⟩
      refine ⟨some (.row r), tee', hb.take r, ?_, hread', .inr ⟨rfl, ?_⟩, hmoves, hout⟩
      · simp [Stage.teeSignal, hserve']
      · simp only [Traffic.take, List.length_append, List.length_singleton]
        omega
    | none =>
      have hclosed : h.ended = true := by
        by_contra hmore
        exact hserve ((hread.serve_none hended).2 ⟨by simpa using hmore, hr⟩)
      obtain ⟨tee', hserve', hread'⟩ := hread.serve_done hended hclosed hr
      obtain ⟨hmoves, hout⟩ := hc.ends running hbranch trivial
      refine ⟨some .done, tee', hb.close, ?_, hread', .inr ⟨rfl, ?_⟩, hmoves, hout⟩
      · simp [Stage.teeSignal, hserve']
      · simp [Traffic.close, hended]

/-- A fork that wants a signal hands it to its branch. -/
theorem Reading.asked (hread : Reading E hasty spec past rest parts tee h hb s)
    (running : E.Running (hasty first) (spec first) branch hb s)
    (hwants : (Stage.fork tee past.length (branch :: rest)).wants = true) :
    branch.wants = true ∧ h.ended = false ∧ hb.ended = false ∧
      tee.serve? past.length = none ∧ hb.taken = h.taken := by
  have hc := E.running_contract (hasty first) (spec first)
  obtain ⟨hbranch, hserve⟩ : branch.wants = true ∧ tee.serve? past.length = none := by
    simpa [Stage.wants] using hwants
  have hended : hb.ended = false := by
    by_contra hended
    exact absurd (hc.rests running (by simpa using hended)) (by simp [hbranch])
  obtain ⟨hmore, hr⟩ := (hread.serve_none hended).1 hserve
  rw [List.getElem?_eq_none_iff] at hr
  exact ⟨hbranch, hmore, hended, hserve, hread.taken.eq_of_length_le hr⟩

/-- A fork whose branches are all done is done. -/
theorem halts_finished {net : Network σ} {now : DateTime} {rely : σ → σ → Prop}
    (tee : Tee) (position : Nat) (s : Session σ) :
    Stage.Halts net now rely (.fork tee position []) s :=
  .acts rfl fun _ _ hne => absurd rfl hne

/-- A fork comes to an end if it does so once the branch at work is done. -/
theorem Reading.halts (hE : E.Lawful) (hall : all = past ++ first :: rest)
    (hread : Reading E hasty spec past rest parts tee h hb s)
    (running : E.Running (hasty first) (spec first) branch hb s)
    (hnext : ∀ tee h s, Inv E hasty spec all (.fork tee (past.length + 1) rest) h s →
      Stage.Halts E.net E.now E.others (.fork tee (past.length + 1) rest) s) :
    Stage.Halts E.net E.now E.others (.fork tee past.length (branch :: rest)) s := by
  have hc := E.running_contract (hasty first) (spec first)
  -- What has come to the fork is finite, and so are the steps of the branch between two signals.
  generalize hn : h.taken.length + 1 - (hb.taken.length + hb.ended.toNat) = n
  induction n using Nat.strong_induction_on generalizing branch tee h hb s with
  | _ n ihn =>
    have hhalts := hc.halts running
    induction hhalts generalizing tee h hb with
    | @wants branch s hbranch =>
      cases hwants : (Stage.fork tee past.length (branch :: rest)).wants with
      | true => exact .wants hwants
      | false =>
        refine .acts hwants fun s' hmoves _ => ?_
        have hread' := hread.move hE hmoves
        obtain ⟨x?, tee', hb', hsignal, hread'', hprogress, hmoves', hout⟩ :=
          hread'.turn (hc.stable running hmoves) hwants
        obtain ⟨-, hprogress⟩ := hprogress.resolve_left (by simp [hbranch])
        have hread₃ := hread''.move hE hmoves'
        rw [step_fork, hsignal]
        by_cases hdone : (branch.step E.net E.now x? s').1.2 = some .done
        · have hfulfils := hread₃.fulfils hall hout
          rw [after_of_done hdone] at hfulfils ⊢
          exact hnext _ _ _ hfulfils
        · obtain ⟨W, hrun⟩ := hout.keeps hdone
          rw [after_of_ne hdone]
          refine ihn _ ?_ (hread₃.give W) hrun rfl
          have hle := hread₃.taken.length_le
          have hflag : hb'.ended.toNat ≤ 1 := Bool.toNat_le _
          show h.taken.length + 1 - (hb'.taken.length + hb'.ended.toNat) < n
          omega
    | @acts branch s hbranch _ ih =>
      have hwants : (Stage.fork tee past.length (branch :: rest)).wants = false := by
        simp [Stage.wants, hbranch]
      refine .acts hwants fun s' hmoves _ => ?_
      have hread' := hread.move hE hmoves
      obtain ⟨hmoves', hout⟩ := hc.acts (hc.stable running hmoves) hbranch
      have hread'' := hread'.move hE hmoves'
      have hsignal : Stage.teeSignal tee past.length branch.wants none = (none, tee) := by
        simp [Stage.teeSignal, hbranch]
      rw [step_fork, hsignal]
      by_cases hdone : (branch.step E.net E.now none s').1.2 = some .done
      · have hfulfils := hread''.fulfils hall hout
        rw [after_of_done hdone] at hfulfils ⊢
        exact hnext _ _ _ hfulfils
      · obtain ⟨W, hrun⟩ := hout.keeps hdone
        rw [after_of_ne hdone]
        exact ih s' hmoves hdone (hread''.give W) hrun hn

/-- A fork comes to an end. -/
theorem Inv.halts (hE : E.Lawful) {st : Stage} (hinv : Inv E hasty spec all st h s) :
    Stage.Halts E.net E.now E.others st s := by
  obtain ⟨rest, hrest⟩ : ∃ rest, (∃ tee position, st = .fork tee position rest) := by
    cases hinv with
    | reading all_eq reads running => exact ⟨_, _, _, rfl⟩
    | finished behind given => exact ⟨_, _, _, rfl⟩
  induction rest generalizing st h s with
  | nil =>
    obtain ⟨tee, position, rfl⟩ := hrest
    exact halts_finished tee position s
  | cons branch rest ih =>
    obtain ⟨tee, position, rfl⟩ := hrest
    cases hinv with
    | reading all_eq reads running =>
      exact reads.halts hE all_eq running fun tee h s hinv => ih hinv ⟨_, _, rfl⟩

/-- The contract of a fork. -/
theorem contract (hE : E.Lawful) :
    E.Contract (∀ b ∈ all, hasty b) (Each spec all) (Inv E hasty spec all) := by
  have hc := fun b => E.running_contract (hasty b) (spec b)
  constructor
  case stable =>
    intro st h s s' hinv hmoves
    cases hinv with
    | reading all_eq reads running =>
      exact .reading all_eq (reads.move hE hmoves) ((hc _).stable running hmoves)
    | finished behind given => exact .finished behind given
  case rests =>
    intro st h s hinv hended
    cases hinv with
    | finished behind given => rfl
    | @reading past rest first branch parts tee _ hb _ all_eq reads running =>
      by_contra hwants
      obtain ⟨-, hmore, -⟩ := reads.asked running (by simpa using hwants)
      exact absurd hended (by simp [hmore])
  case acts =>
    intro st h s hinv hwants
    cases hinv with
    | finished behind given =>
      refine ⟨hE.moves_refl s, behind.hasty, fun rest hrest _ => ⟨_, behind.spec rest hrest, given⟩⟩
    | reading all_eq reads running =>
      obtain ⟨x?, tee', hb', hsignal, hread, -, hmoves, hout⟩ := reads.turn running hwants
      rw [step_fork, hsignal]
      exact ⟨hmoves, (hread.move hE hmoves).fulfils all_eq hout⟩
  case takes =>
    intro st h s r hinv hwants _
    cases hinv with
    | finished behind given => exact absurd hwants (by simp [Stage.wants])
    | @reading past rest first branch parts tee _ hb _ all_eq reads running =>
      obtain ⟨hbranch, hmore, hended, hserve, hall⟩ := reads.asked running hwants
      have hrow : (h.take r).taken[hb.taken.length]? = some r := by simp [Traffic.take, hall]
      obtain ⟨tee', hserve', hread⟩ := (reads.receive_row hmore r).serve_row hended hrow
      have hsignal : Stage.teeSignal tee past.length branch.wants (some (.row r)) =
          (some (.row r), tee') := by
        simp [Stage.teeSignal, hbranch, hserve, Tee.answer, hserve']
      obtain ⟨hmoves, hout⟩ := (hc first).takes running hbranch (r := r) ⟨[], trivial⟩
      rw [step_fork, hsignal]
      exact ⟨hmoves, (hread.move hE hmoves).fulfils all_eq hout⟩
  case ends =>
    intro st h s hinv hwants _
    cases hinv with
    | finished behind given => exact absurd hwants (by simp [Stage.wants])
    | @reading past rest first branch parts tee _ hb _ all_eq reads running =>
      obtain ⟨hbranch, hmore, hended, hserve, hall⟩ := reads.asked running hwants
      have hrow : h.close.taken[hb.taken.length]? = none := by simp [Traffic.close, hall]
      obtain ⟨tee', hserve', hread⟩ := reads.receive_done.serve_done hended rfl hrow
      have hsignal : Stage.teeSignal tee past.length branch.wants (some .done) =
          (some .done, tee') := by
        simp [Stage.teeSignal, hbranch, hserve, Tee.answer, hserve']
      obtain ⟨hmoves, hout⟩ := (hc first).ends running hbranch trivial
      rw [step_fork, hsignal]
      exact ⟨hmoves, (hread.move hE hmoves).fulfils all_eq hout⟩
  case halts =>
    exact fun hinv => hinv.halts hE

end Fork

namespace Scene

variable {E : Scene σ} {hasty : Stage → Prop} {spec : Stage → List Row → List Row → Prop}
  {branches : List Stage}

/-- **Branches.** A fork hands on what its branches make of all rows, one branch after the other. -/
theorem Meets.fork (hE : E.Lawful) (hbranches : ∀ b ∈ branches, E.Meets (hasty b) b (spec b)) :
    E.Meets (∀ b ∈ branches, hasty b) (.fork (.ofReaders branches.length) 0 branches)
      (Fork.Each spec branches) := by
  refine .of_contract (Fork.contract hE) fun s hs => ?_
  have hover : Fork.Over hasty spec [] [] {} := ⟨fun _ _ => .nil, .inr (by simp)⟩
  cases branches with
  | nil => exact .finished hover rfl
  | cons first rest =>
    suffices hread :
        Fork.Reading E hasty spec [] rest [] (.ofReaders (rest.length + 1)) {} {} s from
      .reading rfl hread (hbranches first List.mem_cons_self s hs)
    constructor
    · exact hover
    · exact fun b hb => hbranches b (List.mem_cons_of_mem _ hb)
    · exact hs
    · exact Tee.holds_ofReaders _
    · simp [Tee.ofReaders]
    · intro i _ hle
      simp only [List.length_nil, Nat.zero_add] at hle
      simp [Tee.ofReaders, Nat.lt_succ_of_le hle]
    · exact List.prefix_rfl
    · exact fun h' => absurd h' (by simp)
    · rfl

end Scene

end PagedSparql
