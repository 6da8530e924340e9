import PagedSparql.Proofs.Eval.Steady
import PagedSparql.Proofs.Pipeline.Suffix

/-!
# Labels given out

The source of the labels of blank nodes numbers them behind its stem and never goes back, so a label
that was given out is given out again only as the label of a key of the row being evaluated. Which
labels those are, the source remembers; from a label that is numbered below the next one and is not
among them, every later label is different (`Labels.not_mem_given`). A source that is new gives out
exactly the labels that it counts (`Labels.mem_given_iff`).

An evaluation only takes labels (`Eval.draws_evaluate`). So it leaves the row of the source as it
is, and keeps what keys were given.
-/

namespace PagedSparql

/-- What is done with a source of labels. -/
inductive LabelUse where
  /-- A new label is taken. -/
  | fresh
  /-- The label of a key is taken. -/
  | ofKey (key : String)
  /-- A row begins to be evaluated. -/
  | enterRow (row : Row)
  /-- The row being evaluated is extended. -/
  | extendRow (row : Row)

/-- A label is taken. -/
def LabelUse.takes : LabelUse → Bool
  | .fresh => true
  | .ofKey _ => true
  | .enterRow _ => false
  | .extendRow _ => false

namespace Labels

/-- The source of the labels of a query that begins. -/
def new (stem : String) : Labels := { stem }

/-- The label with a number. -/
def numbered (stem : String) (n : Nat) : String := stem ++ toString n

/-- What one use of a source gives, and the source after it. -/
def use (l : Labels) : LabelUse → Option String × Labels
  | .fresh => (some l.fresh.1, l.fresh.2)
  | .ofKey key => (some (l.ofKey key).1, (l.ofKey key).2)
  | .enterRow row => (none, l.enterRow row)
  | .extendRow row => (none, l.extendRow row)

/-- The source after some uses. -/
def after (l : Labels) (uses : List LabelUse) : Labels := uses.foldl (fun l u => (l.use u).2) l

/-- The labels that some uses give, in order. -/
def given (l : Labels) : List LabelUse → List String
  | [] => []
  | u :: rest => (l.use u).1.toList ++ given (l.use u).2 rest

/-- One source is another one after some uses. -/
def Later (l l' : Labels) : Prop := ∃ uses, l' = l.after uses

/-- One source is another one from which only labels were taken. -/
def Draws (l l' : Labels) : Prop :=
  ∃ uses : List LabelUse, (∀ u ∈ uses, u.takes) ∧ l' = l.after uses

/-- The labels of keys are labels that were given out, and different keys have different labels. -/
structure Sound (l : Labels) : Prop where
  /-- The labels were given out. -/
  counted : ∀ e ∈ l.ofKeys, ∃ n < l.next, e.2 = numbered l.stem n
  /-- The labels are different. -/
  nodup : (l.ofKeys.map Prod.snd).Nodup

variable {l l' l'' : Labels} {uses uses' : List LabelUse} {u : LabelUse} {stem label : String}
  {n m : Nat}

/-- Labels with different numbers are different. -/
theorem numbered_inj (h : numbered stem n = numbered stem m) : n = m := by
  refine toDigits_inj ?_
  simpa [numbered, Nat.toList_repr] using congrArg String.toList h

/-! ## Uses -/

@[simp] theorem after_nil (l : Labels) : l.after [] = l := rfl

@[simp] theorem after_cons (l : Labels) (u : LabelUse) (rest : List LabelUse) :
    l.after (u :: rest) = (l.use u).2.after rest := rfl

/-- Some uses and then others. -/
theorem after_append (l : Labels) (uses uses' : List LabelUse) :
    l.after (uses ++ uses') = (l.after uses).after uses' := List.foldl_append

/-- A source after no use. -/
theorem Later.refl (l : Labels) : l.Later l := ⟨[], rfl⟩

/-- A source after some uses and then others. -/
theorem Later.trans (h : l.Later l') (h' : l'.Later l'') : l.Later l'' := by
  obtain ⟨uses, rfl⟩ := h
  obtain ⟨uses', rfl⟩ := h'
  exact ⟨uses ++ uses', (after_append l uses uses').symm⟩

/-- A source after one use. -/
theorem later_use (l : Labels) (u : LabelUse) : l.Later (l.use u).2 := ⟨[u], rfl⟩

/-- A source from which nothing was taken. -/
theorem Draws.refl (l : Labels) : l.Draws l := ⟨[], by simp, rfl⟩

/-- A source from which labels were taken and then others. -/
theorem Draws.trans (h : l.Draws l') (h' : l'.Draws l'') : l.Draws l'' := by
  obtain ⟨uses, huses, rfl⟩ := h
  obtain ⟨uses', huses', rfl⟩ := h'
  exact ⟨uses ++ uses', List.forall_mem_append.2 ⟨huses, huses'⟩, (after_append l uses uses').symm⟩

/-- A source from which one label was taken. -/
theorem draws_use (l : Labels) (hu : u.takes) : l.Draws (l.use u).2 := ⟨[u], by simpa using hu, rfl⟩

/-- To take labels is to use the source. -/
theorem Draws.later (h : l.Draws l') : l.Later l' := h.imp fun _ h => h.2

/-! ## One use -/

/-- A key that has a label keeps it. -/
theorem ofKey_of_some {key : String} (h : l.ofKeys.lookup key = some label) :
    l.ofKey key = (label, l) := by rw [ofKey, h]

/-- A key that has no label gets a new one. -/
theorem ofKey_of_none {key : String} (h : l.ofKeys.lookup key = none) : l.ofKey key =
    (l.fresh.1, { l with next := l.next + 1, ofKeys := (key, l.fresh.1) :: l.ofKeys }) := by
  rw [ofKey, h]
  rfl

/-- The row is the same as before. -/
theorem enterRow_of_eq {row : Row} (h : l.row? = some row) : l.enterRow row = l := if_pos h

/-- The row is another one. -/
theorem enterRow_of_ne {row : Row} (h : l.row? ≠ some row) :
    l.enterRow row = { l with row? := some row, ofKeys := [] } := if_neg h

/-- What one use may come to. -/
inductive Outcome (l : Labels) : Option String × Labels → Prop
  /-- A label is counted. -/
  | counts : Outcome l (some (numbered l.stem l.next), { l with next := l.next + 1 })
  /-- A label is counted, and kept for a key. -/
  | keeps (key : String) : Outcome l (some (numbered l.stem l.next),
      { l with next := l.next + 1, ofKeys := (key, numbered l.stem l.next) :: l.ofKeys })
  /-- The label of a key is given again. -/
  | repeats (label : String) (h : label ∈ l.ofKeys.map Prod.snd) : Outcome l (some label, l)
  /-- The row may have changed. -/
  | moves (row : Row) : Outcome l (none, { l with row? := some row })
  /-- A row begins to be evaluated, and the labels of keys are forgotten. -/
  | forgets (row : Row) : Outcome l (none, { l with row? := some row, ofKeys := [] })

/-- What one use comes to. -/
theorem outcome_use (l : Labels) (u : LabelUse) : l.Outcome (l.use u) := by
  cases u with
  | fresh => exact .counts
  | ofKey key =>
    cases h : l.ofKeys.lookup key with
    | none =>
      rw [use, ofKey_of_none h]
      exact .keeps key
    | some label =>
      rw [use, ofKey_of_some h]
      exact .repeats label (List.mem_map_of_mem (PatternCache.mem_of_lookup h))
  | enterRow row =>
    by_cases h : l.row? = some row
    · have hmoves := Outcome.moves (l := l) row
      rw [← h] at hmoves
      rw [use, enterRow_of_eq h]
      exact hmoves
    · rw [use, enterRow_of_ne h]
      exact .forgets row
  | extendRow row => exact .moves row

/-- The stem stays. -/
@[simp] theorem stem_use (l : Labels) (u : LabelUse) : (l.use u).2.stem = l.stem := by
  have h := l.outcome_use u
  generalize l.use u = out at h ⊢
  cases h <;> rfl

/-- The counter does not go back. -/
theorem next_le_use (l : Labels) (u : LabelUse) : l.next ≤ (l.use u).2.next := by
  have h := l.outcome_use u
  generalize l.use u = out at h ⊢
  cases h <;> simp

/-- A label that has been counted has a number below the next one. -/
theorem Sound.mono (h : l.Sound) (hle : l.next ≤ n) :
    ∀ e ∈ l.ofKeys, ∃ m < n, e.2 = numbered l.stem m := fun e he =>
  (h.counted e he).imp fun _ hm => ⟨hm.1.trans_le hle, hm.2⟩

/-- The next label is not that of a key. -/
theorem Sound.next_not_mem (h : l.Sound) : numbered l.stem l.next ∉ l.ofKeys.map Prod.snd := by
  intro hmem
  obtain ⟨e, he, hlabel⟩ := List.mem_map.1 hmem
  obtain ⟨n, hn, hlabel'⟩ := h.counted e he
  exact absurd (numbered_inj (hlabel'.symm.trans hlabel)) (by omega)

/-- A use keeps the labels of keys sound. -/
theorem Sound.use (h : l.Sound) (u : LabelUse) : (l.use u).2.Sound := by
  have hout := l.outcome_use u
  generalize l.use u = out at hout ⊢
  cases hout with
  | counts => exact ⟨h.mono (Nat.le_succ _), h.nodup⟩
  | keeps key =>
    refine ⟨List.forall_mem_cons.2 ⟨⟨l.next, Nat.lt_succ_self _, rfl⟩, h.mono (Nat.le_succ _)⟩, ?_⟩
    exact List.nodup_cons.2 ⟨h.next_not_mem, h.nodup⟩
  | repeats label _ => exact h
  | moves row => exact ⟨h.counted, h.nodup⟩
  | forgets row => exact ⟨by simp, by simp⟩

/-! ## All uses -/

/-- The stem stays. -/
@[simp] theorem stem_after (l : Labels) (uses : List LabelUse) : (l.after uses).stem = l.stem := by
  induction uses generalizing l with
  | nil => rfl
  | cons u rest ih => rw [after_cons, ih, stem_use]

/-- The counter does not go back. -/
theorem next_le_after (l : Labels) (uses : List LabelUse) : l.next ≤ (l.after uses).next := by
  induction uses generalizing l with
  | nil => exact Nat.le_refl _
  | cons u rest ih => exact (l.next_le_use u).trans (ih _)

/-- The labels of keys stay sound. -/
theorem Sound.after (h : l.Sound) (uses : List LabelUse) : (l.after uses).Sound := by
  induction uses generalizing l with
  | nil => exact h
  | cons u rest ih => exact ih (h.use u)

/-- A new source is sound. -/
theorem sound_new (stem : String) : (new stem).Sound := ⟨by simp [new], by simp [new]⟩

/-- The label of a key is one that some number has. -/
theorem Sound.of_mem (h : l.Sound) (hlabel : label ∈ l.ofKeys.map Prod.snd) :
    ∃ n < l.next, label = numbered l.stem n := by
  obtain ⟨e, he, rfl⟩ := List.mem_map.1 hlabel
  exact h.counted e he

/-- The label that a key has is one that some number has. -/
theorem Sound.of_lookup (h : l.Sound) {key : String} (hkey : l.ofKeys.lookup key = some label) :
    ∃ n < l.next, label = numbered l.stem n :=
  h.counted _ (PatternCache.mem_of_lookup hkey)

/-- Different keys have different labels. -/
theorem Sound.lookup_inj (h : l.Sound) {key key' : String} (hkey : l.ofKeys.lookup key = some label)
    (hkey' : l.ofKeys.lookup key' = some label) : key = key' :=
  congrArg Prod.fst (List.inj_on_of_nodup_map h.nodup (PatternCache.mem_of_lookup hkey)
    (PatternCache.mem_of_lookup hkey') rfl)

/-- A label that is given was counted then, or was that of a key before. -/
theorem Sound.of_mem_given (h : l.Sound) (hlabel : label ∈ l.given uses) :
    ∃ n < (l.after uses).next, label = numbered l.stem n ∧
      (l.next ≤ n ∨ label ∈ l.ofKeys.map Prod.snd) := by
  induction uses generalizing l with
  | nil => exact absurd hlabel List.not_mem_nil
  | cons u rest ih =>
    have hsound := h.use u
    have hout := l.outcome_use u
    -- The label is given by the first use, or by one of the rest, of which the induction knows.
    rw [given, List.mem_append] at hlabel
    rw [after_cons]
    -- From here on the outcome of the first use is any one, so that its cases can be split.
    generalize l.use u = out at hsound hout hlabel ⊢
    have hle := out.2.next_le_after rest
    have hrest := hlabel.imp_right fun h => ih hsound h
    clear ih hlabel
    cases hout with
    | counts =>
      rcases hrest with hfirst | ⟨n, hn, rfl, hnew⟩
      · obtain rfl : label = numbered l.stem l.next := by simpa using hfirst
        exact ⟨l.next, hle, rfl, .inl (Nat.le_refl _)⟩
      · exact ⟨n, hn, rfl, hnew.imp_left (Nat.le_of_succ_le ·)⟩
    | keeps key =>
      rcases hrest with hfirst | ⟨n, hn, rfl, hnew | hkey⟩
      · obtain rfl : label = numbered l.stem l.next := by simpa using hfirst
        exact ⟨l.next, hle, rfl, .inl (Nat.le_refl _)⟩
      · exact ⟨n, hn, rfl, .inl (Nat.le_of_succ_le hnew)⟩
      · refine ⟨n, hn, rfl, (List.mem_cons.1 hkey).imp_left fun heq => ?_⟩
        exact (numbered_inj heq).ge
    | repeats label' hkey =>
      rcases hrest with hfirst | ⟨n, hn, rfl, hnew⟩
      · obtain rfl : label = label' := by simpa using hfirst
        obtain ⟨n, hn, hlabel⟩ := h.of_mem hkey
        exact ⟨n, hn.trans_le hle, hlabel, .inr hkey⟩
      · exact ⟨n, hn, rfl, hnew⟩
    | moves row => exact hrest.resolve_left List.not_mem_nil
    | forgets row =>
      obtain ⟨n, hn, rfl, hnew⟩ := hrest.resolve_left List.not_mem_nil
      exact ⟨n, hn, rfl, .inl (hnew.resolve_right List.not_mem_nil)⟩

/-- **A label is not given twice.** A label with a number below the next one, which is not that of a
key, is not given any more. -/
theorem Sound.not_mem_given (h : l.Sound) (hn : n < l.next)
    (hkeys : numbered l.stem n ∉ l.ofKeys.map Prod.snd) (uses : List LabelUse) :
    numbered l.stem n ∉ l.given uses := by
  intro hgiven
  obtain ⟨m, -, hlabel, hle | hkey⟩ := h.of_mem_given hgiven
  · obtain rfl := numbered_inj hlabel
    omega
  · exact hkeys hkey

/-- All labels are given that are counted. -/
theorem numbered_mem_given (hn : l.next ≤ n) (hn' : n < (l.after uses).next) :
    numbered l.stem n ∈ l.given uses := by
  induction uses generalizing l with
  | nil => exact absurd hn' (by simpa using hn)
  | cons u rest ih =>
    have hlater : (l.use u).2.next ≤ n → numbered l.stem n ∈ (l.use u).2.given rest := fun h =>
      stem_use l u ▸ ih h hn'
    have hout := l.outcome_use u
    rw [given, List.mem_append]
    generalize l.use u = out at hout hlater ⊢
    rcases Nat.eq_or_lt_of_le hn with rfl | hlt
    · cases hout with
      | counts => exact .inl (by simp)
      | keeps key => exact .inl (by simp)
      | _ => exact .inr (hlater (Nat.le_refl _))
    · refine .inr (hlater ?_)
      cases hout with
      | counts => exact hlt
      | keeps key => exact hlt
      | _ => exact hn

/-- **A new source gives out the labels that it counts.** -/
theorem mem_given_iff (stem : String) (uses : List LabelUse) (label : String) :
    label ∈ (new stem).given uses ↔
      ∃ n < ((new stem).after uses).next, label = numbered stem n := by
  constructor
  · intro h
    obtain ⟨n, hn, hlabel, -⟩ := (sound_new stem).of_mem_given h
    exact ⟨n, hn, hlabel⟩
  · rintro ⟨n, hn, rfl⟩
    exact numbered_mem_given (l := new stem) (Nat.zero_le n) hn

/-! ## Labels of keys -/

/-- The labels of keys were given out from some number on. -/
def KeysFrom (l : Labels) (n : Nat) : Prop :=
  ∀ e ∈ l.ofKeys, ∃ m, n ≤ m ∧ e.2 = numbered l.stem m

/-- A use gives out new labels from the next number on. -/
theorem KeysFrom.use (h : l.KeysFrom n) (hle : n ≤ l.next) (u : LabelUse) :
    (l.use u).2.KeysFrom n := by
  have hout := l.outcome_use u
  generalize l.use u = out at hout ⊢
  cases hout with
  | counts => exact h
  | keeps key => exact List.forall_mem_cons.2 ⟨⟨l.next, hle, rfl⟩, h⟩
  | repeats label _ => exact h
  | moves row => exact h
  | forgets row => exact fun e he => absurd he List.not_mem_nil

/-- Some uses give out new labels from the next number on. -/
theorem KeysFrom.after (h : l.KeysFrom n) (hle : n ≤ l.next) (uses : List LabelUse) :
    (l.after uses).KeysFrom n := by
  induction uses generalizing l with
  | nil => exact h
  | cons u rest ih => exact ih (h.use hle u) (hle.trans (l.next_le_use u))

/-- A row that is not the one before has no labels of keys at first. -/
theorem keysFrom_enterRow {row : Row} (h : l.row? ≠ some row) : (l.enterRow row).KeysFrom n := by
  rw [enterRow_of_ne h]
  exact fun e he => absurd he List.not_mem_nil

/-- A label of a key has one of those numbers. -/
theorem KeysFrom.of_lookup (h : l.KeysFrom n) {key : String}
    (hkey : l.ofKeys.lookup key = some label) : ∃ m, n ≤ m ∧ label = numbered l.stem m :=
  h _ (PatternCache.mem_of_lookup hkey)

/-! ## Taking labels -/

/-- To take a label leaves the row as it is. -/
theorem row?_use (l : Labels) (hu : u.takes) : (l.use u).2.row? = l.row? := by
  cases u with
  | fresh => rfl
  | ofKey key =>
    cases h : l.ofKeys.lookup key with
    | none => rw [use, ofKey_of_none h]
    | some label => rw [use, ofKey_of_some h]
  | enterRow row => exact absurd hu (by simp [LabelUse.takes])
  | extendRow row => exact absurd hu (by simp [LabelUse.takes])

/-- To take a label keeps the labels of keys. -/
theorem lookup_use {key : String} (hu : u.takes) (h : l.ofKeys.lookup key = some label) :
    (l.use u).2.ofKeys.lookup key = some label := by
  cases u with
  | fresh => exact h
  | ofKey key' =>
    cases h' : l.ofKeys.lookup key' with
    | some label' => rwa [use, ofKey_of_some h']
    | none =>
      rw [use, ofKey_of_none h', List.lookup_cons]
      have hne : (key == key') = false := by
        refine beq_eq_false_iff_ne.2 fun heq => ?_
        rw [heq, h'] at h
        exact absurd h (by simp)
      rwa [hne]
  | enterRow row => exact absurd hu (by simp [LabelUse.takes])
  | extendRow row => exact absurd hu (by simp [LabelUse.takes])

/-- To take labels leaves the row as it is. -/
theorem Draws.row? (h : l.Draws l') : l'.row? = l.row? := by
  obtain ⟨uses, huses, rfl⟩ := h
  induction uses generalizing l with
  | nil => rfl
  | cons u rest ih =>
    obtain ⟨hu, hrest⟩ := List.forall_mem_cons.1 huses
    rw [after_cons, ih hrest, row?_use l hu]

/-- To take labels keeps the labels of keys. -/
theorem Draws.lookup (h : l.Draws l') {key : String} (hkey : l.ofKeys.lookup key = some label) :
    l'.ofKeys.lookup key = some label := by
  obtain ⟨uses, huses, rfl⟩ := h
  induction uses generalizing l with
  | nil => exact hkey
  | cons u rest ih =>
    obtain ⟨hu, hrest⟩ := List.forall_mem_cons.1 huses
    exact ih (lookup_use hu hkey) hrest

/-- A key has its label once it was taken. -/
theorem lookup_ofKey (l : Labels) (key : String) :
    (l.ofKey key).2.ofKeys.lookup key = some (l.ofKey key).1 := by
  cases h : l.ofKeys.lookup key with
  | none => rw [ofKey_of_none h, List.lookup_cons, beq_self_eq_true]
  | some label => rwa [ofKey_of_some h]

end Labels

namespace Eval

/-- The states have the same labels, about which something is known, and the same UUIDs. -/
structure Supply (P : Labels → Prop) (s s' : EvalState) : Prop where
  /-- The labels are the same. -/
  labels : s.labels = s'.labels
  /-- The UUIDs are the same. -/
  uuids : s.uuids = s'.uuids
  /-- What is known about the labels. -/
  known : P s.labels

variable {P : Labels → Prop}

/-- Compiled patterns supply nothing, and nor does a stop. -/
theorem blind_supply : Blind (Supply P) := fun _ _ _ _ h => ⟨h.labels, h.uuids, h.known⟩

/-- What taking labels keeps is known of the states after each supply. -/
theorem supplied_supply (hP : ∀ l u, LabelUse.takes u → P l → P (l.use u).2) :
    Supplied (Supply P) where
  fresh s s' h := by
    obtain ⟨hlabels, huuids, hknown⟩ := h
    exact ⟨congrArg (fun l : Labels => Except.ok (Term.blank l.fresh.1)) hlabels,
      congrArg (fun l : Labels => l.fresh.2) hlabels, huuids, hP _ .fresh rfl hknown⟩
  ofKey key s s' h := by
    obtain ⟨hlabels, huuids, hknown⟩ := h
    exact ⟨congrArg (fun l : Labels => Except.ok (Term.blank (l.ofKey key).1)) hlabels,
      congrArg (fun l : Labels => (l.ofKey key).2) hlabels, huuids, hP _ (.ofKey key) rfl hknown⟩
  uuid s s' h := by
    obtain ⟨hlabels, huuids, hknown⟩ := h
    exact ⟨congrArg (fun n => Except.ok (uuidText n)) huuids, hlabels, congrArg (· + 1) huuids,
      hknown⟩

/-- **An evaluation only takes labels.** -/
theorem draws_evaluate (now : DateTime) (r : Row) (e : Expression) (s : EvalState) :
    s.labels.Draws ((evaluate now r e).run.run s).2.labels :=
  have hsupplied : Supplied (Supply s.labels.Draws) :=
    supplied_supply fun _ _ hu h => h.trans (Labels.draws_use _ hu)
  (alike_evaluate blind_supply now e (.inr hsupplied) (.refl _ r) s s ⟨rfl, rfl, .refl _⟩).2.known

/-- A call of the function that makes blank nodes evaluates its arguments first. -/
theorem evaluate_bnode (now : DateTime) (r : Row) {operator : String}
    (h : operator.toLower = "bnode") (args : List Expression) :
    evaluate now r (.call operator args) =
      (do let values ← evaluateAll now r args; apply now "bnode" values) := by
  -- A cast has a colon in its name, which lower case keeps.
  have hcast : operator.toList.contains ':' = false := by
    have hlower : operator.toList.map Char.toLower = ['b', 'n', 'o', 'd', 'e'] := by
      rw [← String.toList_map]
      exact congrArg String.toList h
    by_contra hcolon
    have hmem : ':' ∈ operator.toList := by simpa using hcolon
    have hmem' := List.mem_map_of_mem (f := Char.toLower) hmem
    rw [hlower] at hmem'
    exact absurd hmem' (by decide)
  rw [evaluate, hcast, h]
  rfl

/-- The call without argument takes a new label. -/
theorem run_bnode (now : DateTime) (r : Row) {operator : String} (h : operator.toLower = "bnode")
    (s : EvalState) : (evaluate now r (.call operator [])).run.run s =
      (.ok (.blank s.labels.fresh.1), { s with labels := s.labels.fresh.2 }) := by
  rw [evaluate_bnode now r h]
  rfl

/-- The call with an argument takes the label of its value. -/
theorem run_bnode_key (now : DateTime) (r : Row) {operator : String}
    (h : operator.toLower = "bnode") (e : Expression) (s : EvalState) :
    (evaluate now r (.call operator [e])).run.run s =
      match (evaluate now r e).run.run s with
      | (.error error, s) => (.error error, s)
      | (.ok t, s) =>
        match Value.stringArg t with
        | .error error => (.error error, s)
        | .ok (key, _) =>
          (.ok (.blank (s.labels.ofKey key).1), { s with labels := (s.labels.ofKey key).2 }) := by
  rw [evaluate_bnode now r h, evaluateAll, evaluateAll, bind_assoc, run_bind]
  rcases (evaluate now r e).run.run s with ⟨error | t, s'⟩
  · rfl
  · simp only [pure_bind, apply, run_bind]
    cases Value.stringArg t <;> rfl

end Eval

end PagedSparql
