import Mathlib.Data.List.Induction
import PagedSparql.Pipeline.Stage
import PagedSparql.Proofs.Eval.Steady
import PagedSparql.Proofs.Rdf.Row

/-!
# Rows that are computed

What a stage computes of a row, of its sort keys or of a group by steady expressions does not depend
on the state of evaluation, so it is said by functions of rows alone: the columns of a projection
(`Column.select`), the keys that a row is sorted by (`KeyedRow.ofSteady`), and the row of a group
(`Fold.row`). A group has all rows with its key, and groups are in the order of their first rows
(`Group.classes`), although rows are put into them one by one (`Group.partition_eq`).

A computed column that has no value leaves its variable as the row has it, and so does an aggregate.
-/

namespace PagedSparql

namespace Column

/-- The row extended by the computed columns that have a value. -/
def extend (now : DateTime) : List Column → Row → Row
  | [], r => r
  | .variable _ :: rest, r => extend now rest r
  | .expression e v :: rest, r => extend now rest ((e.value? now r).elim r (r.insert v))

/-- The row of a projection. -/
def select (now : DateTime) (columns : List Column) (hidden : List Variable) (r : Row) : Row :=
  if columns.any isWildcard then Row.without (extend now columns r) hidden
  else Row.project (extend now columns r) (columns.map name)

/-- The column makes no blank node and no UUID. -/
def isSteady : Column → Bool
  | .variable _ => true
  | .expression e _ => e.isSteady

end Column

namespace KeyedRow

/-- A row with the lexical forms of its keys. -/
def ofSteady (now : DateTime) (conditions : List OrderCondition) (r : Row) : KeyedRow :=
  ⟨conditions.map fun c => ((c.expression.value? now r).map Term.lexical).getD "", r⟩

end KeyedRow

namespace Group

/-- The groups of a list of rows: those with equal keys, in the order of their first rows. -/
def classes (keys : List Variable) (rows : List Row) : List Group :=
  if keys.isEmpty then [⟨.empty, rows⟩]
  else (rows.map (Row.project · keys)).eraseDups.map fun key =>
    ⟨key, rows.filter fun r => Row.project r keys == key⟩

end Group

namespace Fold

/-- The value of an aggregate for the rows of a group. -/
def value? (now : DateTime) (rows : List Row) (f : Fold) : Option Term :=
  match f.argument with
  | none =>
    some (AggregateFunction.countTerm (if f.distinct then rows.eraseDups else rows).length)
  | some e =>
    let terms := rows.filterMap (e.value? now)
    (f.function.apply (if f.distinct then terms.eraseDups else terms)).toOption

/-- The row of a group: its key and the aggregates that have a value. -/
def row (now : DateTime) (folds : List Fold) (g : Group) : Row :=
  folds.foldl (fun r f => (f.value? now g.rows).elim r (r.insert f.target)) g.key

/-- The aggregate makes no blank node and no UUID. -/
def isSteady (f : Fold) : Bool := f.argument.all Expression.isSteady

end Fold

/-! ## Evaluation in any state -/

variable {σ : Type} {net : Network σ} {now : DateTime}

namespace Session

/-- A steady expression has its value in any session. -/
theorem toOption_evaluateRow {e : Expression} (he : e.isSteady = true) (s : Session σ) (r : Row) :
    (s.evaluateRow r (Eval.evaluate now r e)).1.toOption = e.value? now r :=
  Expression.value?_eq he _

end Session

namespace Column

/-- Steady columns have their values in any state. -/
theorem extendColumns_eq {columns : List Column} (h : columns.all isSteady = true) (r : Row)
    (s : EvalState) : (Stage.extendColumns now columns r s).1 = extend now columns r := by
  induction columns generalizing r s with
  | nil => rfl
  | cons c rest ih =>
    rw [List.all_cons, Bool.and_eq_true] at h
    match c with
    | .variable v => exact ih h.2 r s
    | .expression e v =>
      have hvalue : ((Eval.evaluate now r e).run.run s).1.toOption = e.value? now r :=
        Expression.value?_eq h.1 s
      rw [Stage.extendColumns, extend, ← hvalue]
      rcases (Eval.evaluate now r e).run.run s with ⟨_ | t, s'⟩
      · exact ih h.2 r s'
      · exact ih h.2 (r.insert v t) s'

end Column

namespace KeyedRow

/-- Steady keys have their values in any state. -/
theorem keysOf_eq {conditions : List OrderCondition}
    (h : conditions.all (·.expression.isSteady) = true) (r : Row) (s : EvalState) :
    (keysOf now r conditions s).1 =
      conditions.map fun c => ((c.expression.value? now r).map Term.lexical).getD "" := by
  induction conditions generalizing s with
  | nil => rfl
  | cons c rest ih =>
    rw [List.all_cons, Bool.and_eq_true] at h
    rw [List.map_cons, ← ih h.2 ((Eval.evaluate now r c.expression).run.run s).2,
      ← Expression.value?_eq h.1 s]
    rfl

end KeyedRow

namespace Fold

/-- The first of equal items are kept. -/
theorem firsts_eq {α : Type} [DecidableEq α] (items : List α) : firsts items = items.eraseDups := by
  have hfirsts : ∀ seen : List α,
      (items.foldl (fun seen x => if x ∈ seen then seen else x :: seen) seen).reverse =
        seen.reverse ++ (items.filter fun x => x ∉ seen).eraseDups := by
    induction items with
    | nil => simp
    | cons x rest ih =>
      intro seen
      rw [List.foldl_cons, ih]
      by_cases hx : x ∈ seen
      · simp [hx]
      · rw [if_neg hx, List.filter_cons_of_pos (by simpa using hx), List.eraseDups_cons,
          List.filter_filter, List.reverse_cons, List.append_assoc, List.singleton_append]
        congr 3
        refine List.filter_congr fun y _ => ?_
        grind
  have hempty := hfirsts []
  simp only [List.not_mem_nil, not_false_eq_true, decide_true, List.filter_true, List.reverse_nil,
    List.nil_append] at hempty
  exact hempty

/-- A steady expression has its values in any session. -/
theorem values_eq {e : Expression} (he : e.isSteady = true) (rows : List Row) (s : Session σ) :
    (values now e rows s).1 = rows.filterMap (e.value? now) := by
  induction rows generalizing s with
  | nil => rfl
  | cons r rest ih =>
    have hvalue : (s.evaluateRow r (Eval.evaluate now r e)).1.toOption = e.value? now r :=
      s.toOption_evaluateRow he r
    have hcons : (r :: rest).filterMap (e.value? now) =
        (e.value? now r).toList ++ rest.filterMap (e.value? now) := by
      cases hr : e.value? now r <;> simp [hr]
    rw [hcons, ← hvalue, ← ih (s.evaluateRow r (Eval.evaluate now r e)).2]
    rfl

/-- A steady aggregate has its value in any session. -/
theorem apply_eq {f : Fold} (hf : f.isSteady = true) (rows : List Row) (s : Session σ) :
    (f.apply now rows s).1.toOption = f.value? now rows := by
  unfold apply value?
  cases harg : f.argument with
  | none =>
    simp only [firsts_eq]
    rfl
  | some e =>
    have he : e.isSteady = true := by simpa [isSteady, harg] using hf
    simp only [firsts_eq, ← values_eq he rows s]

/-- Steady aggregates have their values in any session. -/
theorem extend_eq {folds : List Fold} (h : folds.all isSteady = true) (rows : List Row) (r : Row)
    (s : Session σ) : (extend now rows folds r s).1 =
      folds.foldl (fun r f => (f.value? now rows).elim r (r.insert f.target)) r := by
  induction folds generalizing r s with
  | nil => rfl
  | cons f rest ih =>
    rw [List.all_cons, Bool.and_eq_true] at h
    have hvalue : (f.apply now rows s).1.toOption = f.value? now rows := apply_eq h.1 rows s
    rw [extend, List.foldl_cons, ← hvalue]
    rcases f.apply now rows s with ⟨_ | t, s'⟩
    · exact ih h.2 r s'
    · exact ih h.2 (r.insert f.target t) s'

/-- The rows of groups with steady aggregates are the same in any session. -/
theorem extendAll_eq {folds : List Fold} (h : folds.all isSteady = true) (groups : List Group)
    (s : Session σ) : (extendAll now folds groups s).1 = groups.map (row now folds) := by
  induction groups generalizing s with
  | nil => rfl
  | cons g rest ih =>
    rw [List.map_cons, ← ih (extend now g.rows folds g.key s).2, row, ← extend_eq h g.rows g.key s]
    rfl

end Fold

namespace Group

/-- A row is put into the group with its key, which there is already. -/
theorem insert_of_mem {ks : List Row} (hks : ks.Nodup) {key : Row} (hkey : key ∈ ks) (r : Row)
    (rows : Row → List Row) : insert key r (ks.map fun k => ⟨k, rows k⟩) =
      ks.map fun k => ⟨k, if k = key then r :: rows k else rows k⟩ := by
  induction ks with
  | nil => exact absurd hkey List.not_mem_nil
  | cons k rest ih =>
    obtain ⟨hk, hrest⟩ := List.nodup_cons.1 hks
    rw [List.map_cons, List.map_cons, insert]
    by_cases heq : k = key
    · rw [if_pos heq, if_pos heq]
      refine congrArg _ (List.map_congr_left fun k' hk' => ?_)
      have hne : k' ≠ key := fun h => hk (by rwa [heq, ← h])
      rw [if_neg hne]
    · have hmem : key ∈ rest := (List.mem_cons.1 hkey).resolve_left fun h => heq h.symm
      rw [if_neg heq, if_neg heq, ih hrest hmem]

/-- A row whose key is new begins a group at the end. -/
theorem insert_of_not_mem {ks : List Row} {key : Row} (hkey : key ∉ ks) (r : Row)
    (rows : Row → List Row) : insert key r (ks.map fun k => ⟨k, rows k⟩) =
      (ks.map fun k => ⟨k, rows k⟩) ++ [⟨key, [r]⟩] := by
  induction ks with
  | nil => rfl
  | cons k rest ih =>
    rw [List.mem_cons, not_or] at hkey
    rw [List.map_cons, insert, if_neg fun h => hkey.1 h.symm, ih hkey.2]
    rfl

/-- No key is there twice. -/
theorem nodup_eraseDups {α : Type} [DecidableEq α] (items : List α) : items.eraseDups.Nodup := by
  generalize hn : items.length = n
  induction n using Nat.strong_induction_on generalizing items with
  | h n ih =>
    cases items with
    | nil => exact List.nodup_nil
    | cons x rest =>
      subst hn
      rw [List.eraseDups_cons]
      refine List.nodup_cons.2 ⟨by simp, ih _ ?_ _ rfl⟩
      exact Nat.lt_succ_of_le (List.length_filter_le _ _)

/-- Rows are put into their groups one by one. -/
theorem partition_eq (keys : List Variable) (rows : List Row) :
    partition keys rows = classes keys rows := by
  unfold partition classes initial
  split
  · next hkeys =>
    obtain rfl := List.isEmpty_iff.1 hkeys
    -- Without keys there is one group, which is there from the start.
    have hinsert : ∀ taken, rows.foldl (fun groups r => insert (Row.project r []) r groups)
        [⟨.empty, taken⟩] = [⟨.empty, rows.reverse ++ taken⟩] := by
      induction rows with
      | nil => exact fun _ => rfl
      | cons r rest ih =>
        intro taken
        rw [List.foldl_cons, Row.project_nil, insert, if_pos rfl, ih]
        simp
    rw [hinsert]
    simp
  · have hinsert : rows.foldl (fun groups r => insert (Row.project r keys) r groups) [] =
        (rows.map (Row.project · keys)).eraseDups.map fun key =>
          ⟨key, (rows.filter fun r => Row.project r keys == key).reverse⟩ := by
      induction rows using List.reverseRecOn with
      | nil => rfl
      | append_singleton rows r ih =>
        rw [List.foldl_append, ih, List.foldl_cons, List.foldl_nil, List.map_append,
          List.eraseDups_append]
        -- The last row joins the group of its key, or begins one after all others.
        by_cases hmem : Row.project r keys ∈ rows.map (Row.project · keys)
        · have hold : [Row.project r keys].removeAll (rows.map (Row.project · keys)) = [] := by
            simpa [List.removeAll] using hmem
          rw [insert_of_mem (nodup_eraseDups _) (List.mem_eraseDups.2 hmem), List.map_singleton,
            hold, List.eraseDups_nil, List.append_nil]
          refine List.map_congr_left fun key _ => ?_
          by_cases hkey : key = Row.project r keys
          · simp [hkey]
          · simp [hkey, Ne.symm hkey]
        · have hnew : [Row.project r keys].removeAll (rows.map (Row.project · keys)) =
              [Row.project r keys] := by
            simpa [List.removeAll] using hmem
          have hnone : rows.filter (fun r' => Row.project r' keys == Row.project r keys) = [] :=
            List.filter_eq_nil_iff.2 fun r' hr' heq =>
              hmem (List.mem_map.2 ⟨r', hr', beq_iff_eq.1 heq⟩)
          rw [insert_of_not_mem fun h => hmem (List.mem_eraseDups.1 h), List.map_singleton, hnew,
            List.map_append]
          congr 1
          · refine List.map_congr_left fun key hkey => ?_
            have hne : Row.project r keys ≠ key :=
              fun h => hmem (List.mem_eraseDups.1 (h ▸ hkey))
            simp [hne]
          · simp [List.eraseDups_cons, List.filter_append, hnone]
    rw [hinsert]
    simp

end Group

end PagedSparql
