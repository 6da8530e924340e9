import PagedSparql.Proofs.Pipeline.BoundJoinLaw
import PagedSparql.Proofs.Pipeline.Production
import PagedSparql.Proofs.Pipeline.SharedLabels
import PagedSparql.Proofs.Rdf.RowSet

/-!
# Blank nodes of rows

A projection evaluates its columns row by row. The label that `BNODE(key)` gets in a column is known
to the source of labels when the row is finished (`BlankColumn.row_spec`). The source forgets the
keys when it enters a row that differs from the row before, and only then; what it gives out from
then on has greater numbers. So two blank nodes of the output are the same if and only if they were
made for one key and the rows from the one to the other are all equal (`Stage.project_blanks`): in
particular in one row, but also in neighbouring rows that are equal.
-/

namespace PagedSparql

variable {σ : Type}

/-- The projections of some rows, one after the other. -/
def Stage.projectRows (now : DateTime) (columns : List Column) (hidden : List Variable) :
    List Row → Session σ → List Row × Session σ
  | [], s => ([], s)
  | r :: rest, s =>
    let (row, s) := projectRow now columns hidden r s
    let (rows, s) := projectRows now columns hidden rest s
    (row :: rows, s)

/-- A column of a projection that makes a blank node for a key, and that no later column replaces.
-/
structure BlankColumn (columns : List Column) (hidden : List Variable) where
  /-- The columns before it. -/
  before : List Column
  /-- The operator, in any letter case. -/
  operator : String
  /-- The key. -/
  key : Expression
  /-- The variable that is bound. -/
  target : Variable
  /-- The columns after it. -/
  rest : List Column
  /-- The operator makes blank nodes. -/
  isBlank : operator.toLower = "bnode"
  /-- The column stands in its place. -/
  place : columns = before ++ .expression (.call operator [key]) target :: rest
  /-- No later column computes the variable. -/
  last : ∀ e, .expression e target ∉ rest
  /-- The variable is not one of those that a wildcard hides. -/
  shown : columns.any Column.isWildcard = true → target ∉ hidden

namespace BlankColumn

variable {columns : List Column} {hidden : List Variable}

/-- The text of the key for a row, if it is a string. -/
def key? (c : BlankColumn columns hidden) (now : DateTime) (r : Row) (s : Session σ) :
    Option String :=
  let (row, evaluation) := Stage.extendColumns now c.before r (Eval.enterRow s.evaluation r)
  match (Eval.evaluate now row c.key).run.run evaluation with
  | (.ok t, _) => (Value.stringArg t).toOption.map Prod.fst
  | (.error _, _) => none

end BlankColumn

namespace Stage

variable {now : DateTime} {columns before rest : List Column} {hidden : List Variable}

/-- Columns are evaluated one after the other. -/
theorem extendColumns_append (now : DateTime) (before rest : List Column) (r : Row)
    (s : EvalState) : extendColumns now (before ++ rest) r s =
      extendColumns now rest (extendColumns now before r s).1 (extendColumns now before r s).2 := by
  induction before generalizing r s with
  | nil => rfl
  | cons c before ih =>
    cases c with
    | «variable» v => exact ih r s
    | expression e v =>
      rw [List.cons_append, extendColumns, extendColumns]
      rcases (Eval.evaluate now r e).run.run s with ⟨_ | t, s'⟩ <;> exact ih _ _

/-- Columns bind the variables only that they compute. -/
theorem get?_extendColumns {v : Variable} (h : ∀ e, .expression e v ∉ rest) (r : Row)
    (s : EvalState) : (extendColumns now rest r s).1.get? v = r.get? v := by
  induction rest generalizing r s with
  | nil => rfl
  | cons c rest ih =>
    have hrest : ∀ e, .expression e v ∉ rest := fun e he => h e (List.mem_cons_of_mem _ he)
    cases c with
    | «variable» w => exact ih hrest r s
    | expression e w =>
      have hne : v ≠ w := fun heq => h e (heq ▸ List.mem_cons_self)
      rw [extendColumns]
      rcases (Eval.evaluate now r e).run.run s with ⟨_ | t, s'⟩
      · exact ih hrest r s'
      · exact (ih hrest _ s').trans (by rw [VariableMap.get?_insert, if_neg hne])

/-- A projection keeps the variable of a column that no wildcard hides. -/
theorem get?_projectRow_name (now : DateTime) {c : Column} (hc : c ∈ columns)
    (hshown : columns.any Column.isWildcard = true → c.name ∉ hidden) (r : Row) (s : Session σ) :
    (projectRow now columns hidden r s).1.get? c.name =
      (extendColumns now columns r (Eval.enterRow s.evaluation r)).1.get? c.name := by
  rw [projectRow]
  dsimp only
  split
  · next hwildcard => rw [Row.get?_without, if_neg (hshown hwildcard)]
  · rw [Row.get?_project, if_pos (List.mem_map_of_mem hc)]

/-- A pipeline that projects a list of rows hands on their projections. -/
theorem yields_project (net : Network σ) (now : DateTime) (columns : List Column)
    (hidden : List Variable) (rows : List Row) (ending : Ending) (s : Session σ) :
    ∃ st' s', Yields net now (.chain (.source rows ending) (.project columns hidden)) s
      (projectRows now columns hidden rows s).1 ending st' s' := by
  induction rows generalizing s with
  | nil =>
    have hends : (Stage.project columns hidden).step net now (some ending.signal) s =
        ((.project columns hidden, some ending.signal), s) := by
      cases ending <;> rfl
    have hsource : (Stage.source [] ending).step net now none s =
        ((.source [] ending, some ending.signal), s) := rfl
    have hstep : (Stage.chain (.source [] ending) (.project columns hidden)).step net now none s =
        ((.chain (.source [] ending) (.project columns hidden), some ending.signal), s) := by
      rw [step_chain_of_some rfl hsource, hends]
    exact ⟨_, _, .ends (pull_one_of_some rfl hstep)⟩
  | cons r rest ih =>
    obtain ⟨st', s', hyields⟩ := ih (projectRow now columns hidden r s).2
    have hsource : (Stage.source (r :: rest) ending).step net now none s =
        ((.source rest ending, some (.row r)), s) := rfl
    exact ⟨st', s', .row (pull_one_of_some rfl (step_chain_of_some rfl hsource)) hyields⟩

/-- The projections of some rows and then others. -/
theorem projectRows_append (U V : List Row) (s : Session σ) :
    projectRows now columns hidden (U ++ V) s =
      ((projectRows now columns hidden U s).1 ++
        (projectRows now columns hidden V (projectRows now columns hidden U s).2).1,
      (projectRows now columns hidden V (projectRows now columns hidden U s).2).2) := by
  induction U generalizing s with
  | nil => rfl
  | cons r rest ih => simp only [List.cons_append, projectRows, ih]

/-- There is one projection for each row. -/
theorem length_projectRows (U : List Row) (s : Session σ) :
    (projectRows now columns hidden U s).1.length = U.length := by
  induction U generalizing s with
  | nil => rfl
  | cons r rest ih => exact congrArg (· + 1) (ih _)

end Stage

/-- The label of the column's blank node is that of the key when the row is finished. -/
theorem BlankColumn.row_spec {columns : List Column} {hidden : List Variable}
    (c : BlankColumn columns hidden) {now : DateTime} {r : Row} {s : Session σ} {key : String}
    (hkey : c.key? now r s = some key) :
    ∃ label, (Stage.projectRow now columns hidden r s).1.get? c.target = some (.blank label) ∧
      (Stage.projectRow now columns hidden r s).2.labels.ofKeys.lookup key = some label := by
  -- The columns before that of the blank node are evaluated first, then this one, and then the
  -- others.
  have hcolumns : Stage.extendColumns now columns r (Eval.enterRow s.evaluation r) =
      Stage.extendColumns now (.expression (.call c.operator [c.key]) c.target :: c.rest)
        (Stage.extendColumns now c.before r (Eval.enterRow s.evaluation r)).1
        (Stage.extendColumns now c.before r (Eval.enterRow s.evaluation r)).2 := by
    rw [← Stage.extendColumns_append, ← c.place]
  have hmem : Column.expression (.call c.operator [c.key]) c.target ∈ columns := by
    simp [c.place]
  have hname := Stage.get?_projectRow_name now hmem c.shown r s
  rw [key?] at hkey
  dsimp only at hkey
  have hlabels : (Stage.projectRow now columns hidden r s).2.labels =
      (Stage.extendColumns now columns r (Eval.enterRow s.evaluation r)).2.labels := rfl
  rw [Column.name] at hname
  rw [hname, hlabels, hcolumns]
  generalize Stage.extendColumns now c.before r (Eval.enterRow s.evaluation r) = out at hkey ⊢
  obtain ⟨row, evaluation⟩ := out
  rw [Stage.extendColumns, Eval.run_bnode_key now row c.isBlank]
  rcases hrun : (Eval.evaluate now row c.key).run.run evaluation with ⟨_ | t, evaluation'⟩
  · simp [hrun] at hkey
  · simp only [hrun] at hkey
    cases hstring : Value.stringArg t with
    | error e => simp [hstring, Except.toOption] at hkey
    | ok value =>
      obtain ⟨key', language?⟩ := value
      obtain rfl : key' = key := by simpa [hstring, Except.toOption] using hkey
      simp only [hstring]
      refine ⟨_, ?_, (Stage.draws_extendColumns now c.rest _ _).lookup
        (evaluation'.labels.lookup_ofKey key')⟩
      rw [Stage.get?_extendColumns c.last, VariableMap.get?_insert, if_pos rfl]

namespace Stage

variable {now : DateTime} {columns : List Column} {hidden : List Variable} {rows : List Row}
  {s : Session σ} {i j : Nat}

/-- The rows from one to another are all equal. -/
def SameRows (rows : List Row) (i j : Nat) : Prop := ∀ m, i ≤ m → m ≤ j → rows[m]? = rows[i]?

/-- The session after the first rows. -/
def sessionAt (now : DateTime) (columns : List Column) (hidden : List Variable) (rows : List Row)
    (s : Session σ) (i : Nat) : Session σ := (projectRows now columns hidden (rows.take i) s).2

/-- The session after one row more. -/
theorem sessionAt_succ (hi : i < rows.length) : sessionAt now columns hidden rows s (i + 1) =
    (projectRow now columns hidden rows[i] (sessionAt now columns hidden rows s i)).2 := by
  rw [sessionAt, List.take_succ_eq_append_getElem hi, projectRows_append]
  rfl

/-- The projection of a row. -/
theorem getElem?_projectRows (hi : i < rows.length) :
    (projectRows now columns hidden rows s).1[i]? =
      some (projectRow now columns hidden rows[i] (sessionAt now columns hidden rows s i)).1 := by
  have hrows : rows = rows.take i ++ rows[i] :: rows.drop (i + 1) := by simp
  have hlength : (projectRows now columns hidden (rows.take i) s).1.length = i := by
    rw [length_projectRows, List.length_take, Nat.min_eq_left hi.le]
  conv_lhs => rw [hrows, projectRows_append]
  dsimp only
  rw [List.getElem?_append_right (by rw [hlength]), hlength, Nat.sub_self]
  rfl

variable (now columns hidden s)

/-- The row that the source of labels is in. -/
theorem row?_sessionAt_succ (hi : i < rows.length) :
    (sessionAt now columns hidden rows s (i + 1)).labels.row? = some rows[i] := by
  rw [sessionAt_succ hi, (draws_projectRow now columns hidden rows[i] _).row?]
  by_cases h : (sessionAt now columns hidden rows s i).labels.row? = some rows[i]
  · rw [Labels.enterRow_of_eq h, h]
  · rw [Labels.enterRow_of_ne h]

/-- The source of labels is used from one row to the next. -/
theorem later_sessionAt (hij : i ≤ j) (hj : j ≤ rows.length) :
    (sessionAt now columns hidden rows s i).labels.Later
      (sessionAt now columns hidden rows s j).labels := by
  induction j, hij using Nat.le_induction with
  | base => exact .refl _
  | succ j hij ih =>
    rw [sessionAt_succ hj]
    exact (ih (by omega)).trans (later_projectRow now columns hidden rows[j] _)

variable {now columns hidden s}

/-- As long as the rows are equal, the labels of keys are kept. -/
theorem lookup_of_same {key label : String} (hij : i ≤ j) (hj : j < rows.length)
    (hsame : SameRows rows i j)
    (hkey : (sessionAt now columns hidden rows s (i + 1)).labels.ofKeys.lookup key = some label) :
    (sessionAt now columns hidden rows s (j + 1)).labels.ofKeys.lookup key = some label := by
  induction j, hij using Nat.le_induction with
  | base => exact hkey
  | succ j hij ih =>
    have hkept := ih (by omega) fun m hm hm' => hsame m hm (by omega)
    have heq : rows[j]? = rows[j + 1]? :=
      (hsame j hij (by omega)).trans (hsame (j + 1) (by omega) (Nat.le_refl _)).symm
    rw [List.getElem?_eq_getElem (by omega), List.getElem?_eq_getElem hj] at heq
    have hrow := row?_sessionAt_succ now columns hidden s (show j < rows.length by omega)
    have hdraws := draws_projectRow now columns hidden rows[j + 1]
      (sessionAt now columns hidden rows s (j + 1))
    rw [Labels.enterRow_of_eq (hrow.trans heq)] at hdraws
    rw [sessionAt_succ hj]
    exact hdraws.lookup hkept

/-- After the rows have differed, the labels of keys are new. -/
theorem keysFrom_of_not_same (hij : i ≤ j) (hj : j < rows.length) (hdiffer : ¬SameRows rows i j) :
    (sessionAt now columns hidden rows s (j + 1)).labels.KeysFrom
      (sessionAt now columns hidden rows s (i + 1)).labels.next := by
  induction j, hij using Nat.le_induction with
  | base => exact absurd (fun m hm hm' => by rw [Nat.le_antisymm hm' hm]) hdiffer
  | succ j hij ih =>
    obtain ⟨uses, huses⟩ := later_sessionAt now columns hidden s
      (show i + 1 ≤ j + 1 by omega) hj.le
    have hle : (sessionAt now columns hidden rows s (i + 1)).labels.next ≤
        (sessionAt now columns hidden rows s (j + 1)).labels.next :=
      huses ▸ Labels.next_le_after _ uses
    obtain ⟨drawn, -, hdrawn⟩ := draws_projectRow now columns hidden rows[j + 1]
      (sessionAt now columns hidden rows s (j + 1))
    have hle' := hle.trans (Labels.next_le_use _ (.enterRow rows[j + 1]))
    rw [sessionAt_succ hj, hdrawn]
    refine Labels.KeysFrom.after ?_ hle' drawn
    by_cases hsame : SameRows rows i j
    · -- The row differs from the one before, so the keys are forgotten.
      refine Labels.keysFrom_enterRow fun hrow => hdiffer fun m hm hm' => ?_
      rw [row?_sessionAt_succ now columns hidden s (by omega)] at hrow
      rcases Nat.le_or_eq_of_le_succ hm' with hlt | rfl
      · exact hsame m hm hlt
      · rw [List.getElem?_eq_getElem hj, ← hrow, ← hsame j hij (Nat.le_refl _)]
        exact (List.getElem?_eq_getElem _).symm
    · exact (ih (by omega) hsame).use hle (.enterRow rows[j + 1])

end Stage

/-- The text of the key for a row of a list. -/
def BlankColumn.keyAt? {columns : List Column} {hidden : List Variable}
    (c : BlankColumn columns hidden) (now : DateTime) (rows : List Row) (s : Session σ) (i : Nat) :
    Option String :=
  rows[i]?.bind (c.key? now · (Stage.sessionAt now columns hidden rows s i))

/-- What a column binds for a row of a list. -/
theorem BlankColumn.rows_spec {now : DateTime} {columns : List Column} {hidden : List Variable}
    (c : BlankColumn columns hidden) {rows : List Row} {s : Session σ} {i : Nat} {key : String}
    (hkey : c.keyAt? now rows s i = some key) : i < rows.length ∧ ∃ label,
      (Stage.projectRows now columns hidden rows s).1[i]?.bind (·.get? c.target) =
          some (.blank label) ∧
        (Stage.sessionAt now columns hidden rows s (i + 1)).labels.ofKeys.lookup key =
          some label := by
  obtain ⟨r, hr, hkey⟩ := Option.bind_eq_some_iff.1 hkey
  obtain ⟨hi, rfl⟩ := List.getElem?_eq_some_iff.1 hr
  obtain ⟨label, hlabel, hlookup⟩ := c.row_spec hkey
  refine ⟨hi, label, ?_, ?_⟩
  · rw [Stage.getElem?_projectRows hi]
    exact hlabel
  · rwa [Stage.sessionAt_succ hi]

namespace Stage

/-- **Blank nodes of rows.** A pipeline that projects a list of rows hands on one row for each of
them. A column that makes a blank node for a key binds one for each row for which the key is a text;
and two of these, of the same or of different columns, in the same or in different rows, are the
same blank node if and only if they were made for the same text and all rows from the one to the
other are equal. -/
theorem project_blanks (net : Network σ) (now : DateTime) (columns : List Column)
    (hidden : List Variable) (rows : List Row) (ending : Ending) (stem : String)
    (past : List LabelUse) (s : Session σ) (hs : s.labels = (Labels.new stem).after past) :
    ∃ W st' s', Yields net now (.chain (.source rows ending) (.project columns hidden)) s W ending
        st' s' ∧ W.length = rows.length ∧
      ∀ (c d : BlankColumn columns hidden) (i j : Nat) (key key' : String), i ≤ j →
        c.keyAt? now rows s i = some key → d.keyAt? now rows s j = some key' →
        ∃ label label', W[i]?.bind (·.get? c.target) = some (.blank label) ∧
          W[j]?.bind (·.get? d.target) = some (.blank label') ∧
          (label = label' ↔ key = key' ∧ SameRows rows i j) := by
  obtain ⟨st', s', hyields⟩ := yields_project net now columns hidden rows ending s
  refine ⟨_, st', s', hyields, length_projectRows rows s, fun c d i j key key' hij hkey hkey' => ?_⟩
  obtain ⟨hi, label, hlabel, hlookup⟩ := c.rows_spec hkey
  obtain ⟨hj, label', hlabel', hlookup'⟩ := d.rows_spec hkey'
  refine ⟨label, label', hlabel, hlabel', ?_⟩
  have hsound : ∀ k ≤ rows.length, (sessionAt now columns hidden rows s k).labels.Sound := by
    intro k hk
    obtain ⟨uses, huses⟩ := later_sessionAt now columns hidden s (Nat.zero_le k) hk
    have hzero : (sessionAt now columns hidden rows s 0).labels = s.labels := rfl
    rw [huses, hzero, hs, ← Labels.after_append]
    exact (Labels.sound_new stem).after _
  by_cases hsame : SameRows rows i j
  · have hkept := lookup_of_same hij hj hsame hlookup
    constructor
    · rintro rfl
      exact ⟨(hsound _ hj).lookup_inj hkept hlookup', hsame⟩
    · rintro ⟨rfl, -⟩
      exact Option.some.inj (hkept.symm.trans hlookup')
  · refine iff_of_false (fun heq => ?_) fun h => hsame h.2
    -- The label of the first row was counted before the other one.
    obtain ⟨uses, huses⟩ := later_sessionAt now columns hidden s
      (show i + 1 ≤ j + 1 by omega) hj
    obtain ⟨n, hn, hnumber⟩ := (hsound (i + 1) hi).of_lookup hlookup
    obtain ⟨m, hm, hnumber'⟩ := (keysFrom_of_not_same hij hj hsame).of_lookup hlookup'
    rw [huses, Labels.stem_after, ← heq, hnumber] at hnumber'
    have := Labels.numbered_inj hnumber'
    omega

end Stage

namespace Sample

/-- A blank node for a key. -/
def blankColumns : List Column :=
  [.expression (.call "BNODE" [.leaf (.term (.string "k"))]) ⟨"b"⟩]

/-- The column of the blank node. -/
def blankColumn : BlankColumn blankColumns [] where
  before := []
  operator := "BNODE"
  key := .leaf (.term (.string "k"))
  target := ⟨"b"⟩
  rest := []
  isBlank := by decide +kernel
  place := rfl
  last := by simp
  shown := by simp

/-- Two equal rows and another one. -/
def threeRows : List Row := [half, half, .empty]

end Sample

namespace Stage

/-- Two rows that are equal share the blank node, and the third row has another one. -/
theorem project_blanks_sample : ∃ W st' s', Yields (.ofReplies Sample.pagedReply) Sample.now
      (.chain (.source Sample.threeRows .done) (.project Sample.blankColumns [])) Sample.session W
      .done st' s' ∧
    ∃ x y z, W[0]?.bind (·.get? ⟨"b"⟩) = some (.blank x) ∧
      W[1]?.bind (·.get? ⟨"b"⟩) = some (.blank y) ∧
      W[2]?.bind (·.get? ⟨"b"⟩) = some (.blank z) ∧ x = y ∧ y ≠ z := by
  obtain ⟨W, st', s', hyields, -, hblanks⟩ := project_blanks (.ofReplies Sample.pagedReply)
    Sample.now Sample.blankColumns [] Sample.threeRows .done "b" [] Sample.session rfl
  have hkey : ∀ i < 3, Sample.blankColumn.keyAt? Sample.now Sample.threeRows Sample.session i =
      some "k" := by decide +kernel
  have hsame : SameRows Sample.threeRows 0 1 := by
    intro m _ hm
    rcases Nat.le_one_iff_eq_zero_or_eq_one.1 hm with rfl | rfl <;> rfl
  have hdiffer : ¬SameRows Sample.threeRows 1 2 := fun h =>
    absurd (h 2 (by omega) (by omega)) (by decide +kernel)
  obtain ⟨x, y, hx, hy, hxy⟩ := hblanks Sample.blankColumn Sample.blankColumn 0 1 "k" "k"
    (by omega) (hkey 0 (by omega)) (hkey 1 (by omega))
  obtain ⟨y', z, hy', hz, hyz⟩ := hblanks Sample.blankColumn Sample.blankColumn 1 2 "k" "k"
    (by omega) (hkey 1 (by omega)) (hkey 2 (by omega))
  obtain rfl : y = y' := Term.blank.inj (Option.some.inj (hy.symm.trans hy'))
  exact ⟨W, st', s', hyields, x, y, z, hx, hy, hz, hxy.2 ⟨rfl, hsame⟩,
    fun heq => hdiffer (hyz.1 heq).2⟩

end Stage

end PagedSparql
