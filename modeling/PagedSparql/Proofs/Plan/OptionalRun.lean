import PagedSparql.Proofs.Number.Digits
import PagedSparql.Proofs.Plan.PathFreeRun

/-!
# Patterns in optional groups

In an optional group a pattern without paths keeps the rows that it does not extend
(`PathFree.LeftJoins`). If it is a single bound join, the join itself sees to that. Otherwise the
rows are numbered before they are extended: an extended row keeps its number, and the number is read
back from it, provided that it is an integer of 64 bits (`PathFree.tagOf?_of_extends`).
-/

namespace PagedSparql

namespace Numeric

/-- A number in decimal digits begins with no sign. -/
theorem takeSign_of_digits {digits : List Char} (h : digits.all Double.isDigit = true) :
    Double.takeSign digits = (false, digits) := by
  cases digits with
  | nil => rfl
  | cons c rest =>
    rw [List.all_cons, Bool.and_eq_true] at h
    unfold Double.takeSign
    split
    · next heq =>
      obtain ⟨rfl, -⟩ := List.cons.inj heq
      exact absurd h.1 (by decide)
    · next heq =>
      obtain ⟨rfl, -⟩ := List.cons.inj heq
      exact absurd h.1 (by decide)
    · rfl

/-- A natural number is read back from its text if it fits in 64 bits. -/
theorem readInteger?_toString (n : Nat) :
    readInteger? (toString (n : Int)).toList = if fits n then some (n : Int) else none := by
  have htext : (toString (n : Int)).toList = Nat.toDigits 10 n := by
    show (toString n).toList = _
    exact Nat.toList_repr
  have hdigits := isDigit_toDigits n
  have hne : (Nat.toDigits 10 n).isEmpty = false := by
    rw [List.isEmpty_eq_false_iff]
    exact Nat.toDigits_ne_nil
  have hvalue : Double.ofDigits (Nat.toDigits 10 n) = n := Nat.ofDigitChars_ten_toDigits
  unfold readInteger?
  rw [htext, takeSign_of_digits hdigits]
  simp [hne, hdigits, hvalue]

end Numeric

/-- A row is looked up under the variable itself. -/
def Variable.Direct (v : Variable) : Prop := ∀ r : Row, r.getNamed? v = r.get? v

variable {σ : Type} {E : Scene σ} {U V W : List Row} {X : List (Nat × Row)} {tag : Variable}

namespace PathFree

/-- An extended row keeps its number. -/
theorem tagOf?_of_extends (htag : tag.Direct) {r u : Row} {n : Nat}
    (h : r.Extends (Optional.number tag (u, n))) :
    Stage.tagOf? tag r = if Numeric.fits n then some (n : Int) else none := by
  have hget : r.get? tag = some (.literal (.integer n)) := h _ _ (by
    rw [Optional.number, VariableMap.get?_insert, if_pos rfl])
  have hvalue : (Literal.integer n).value = toString (n : Int) := rfl
  unfold Stage.tagOf?
  rw [htag r, hget]
  show Numeric.readInteger? (Literal.integer n).value.toList = _
  rw [hvalue, Numeric.readInteger?_toString]

/-- Rows that extend numbered rows keep their numbers. -/
theorem tagOf?_of_mem (htag : tag.Direct) (h : Extending (Optional.numbered tag U) X)
    {x : Nat × Row} (hx : x ∈ X) :
    x.1 < U.length ∧
      Stage.tagOf? tag x.2 = if Numeric.fits x.1 then some (x.1 : Int) else none := by
  obtain ⟨u, hu, hext⟩ := h x hx
  unfold Optional.numbered at hu
  rw [List.getElem?_map, List.getElem?_zipIdx] at hu
  cases hrow : U[x.1]? with
  | none => simp [hrow] at hu
  | some r =>
    obtain rfl : Optional.number tag (r, x.1) = u := by simpa [hrow] using hu
    exact ⟨(List.getElem?_eq_some_iff.1 hrow).1, tagOf?_of_extends htag hext⟩

/-- Patterns make up no numbers. -/
theorem tagged_pathFreeStage (htag : tag.Direct) {scope : Scope} (hopt : scope.optional = false)
    (p : PathFree) : Optional.Tagged tag ((Plan.pathFreeStage scope p).means E) := by
  intro U V hV v hv
  obtain ⟨X, hX, rfl⟩ := means_pathFreeStage hopt p hV
  obtain ⟨x, hx, rfl⟩ := List.mem_map.1 hv
  obtain ⟨hlt, htagOf⟩ := tagOf?_of_mem htag hX.extending hx
  rw [htagOf]
  split
  · intro heq
    have := Option.some.inj heq
    omega
  · simp

/-- The rows whose numbers are not read back are those that are not extended. -/
theorem unmatched_eq (htag : tag.Direct) (h : Extending (Optional.numbered tag U) X)
    (seen : List Row) :
    (Optional.unmatched tag seen (X.map Prod.snd)).map Prod.snd =
      unextended seen (X.filter fun x => Numeric.fits x.1) := by
  unfold Optional.unmatched unextended
  rw [List.filter_map, List.map_map]
  refine congrArg _ (List.filter_congr fun e _ => ?_)
  rw [Bool.eq_iff_iff]
  simp only [Function.comp_apply, List.all_map, List.all_eq_true, bne_iff_ne, List.mem_filter]
  constructor
  · rintro hall x ⟨hx, hfits⟩ heq
    refine hall x hx ?_
    rw [(tagOf?_of_mem htag h hx).2, if_pos hfits, heq]
  · intro hall x hx heq
    rw [(tagOf?_of_mem htag h hx).2] at heq
    split at heq
    · next hfits =>
      exact hall x ⟨hx, hfits⟩ (Int.ofNat.inj (Option.some.inj heq))
    · exact absurd heq (by simp)

/-- What a pattern without paths makes of rows in an optional group: it hands on the rows that it
extends rows to and, once and unchanged, each row that it does not extend. In a pattern that is more
than one bound join, the rows are under their numbers while they are extended, and a pattern that
reads no rows at all may end early. -/
def LeftJoins (E : Scene σ) (scope : Scope) (p : PathFree) (U W : List Row) : Prop :=
  if Plan.isSimple p then
    ∃ X, p.Extends E scope U X ∧
      (W : Multiset Row) = (X.map Prod.snd : Multiset Row) + (unextended U X : Multiset Row)
  else
    ∃ tag seen X, seen <+: U ∧ (p.reads = true → seen = U) ∧
      p.Extends E scope (Optional.numbered tag U) X ∧
      W = X.map (fun x => Row.without x.2 [tag]) ++
        unextended seen (X.filter fun x => Numeric.fits x.1)

/-- A bound join of an optional group keeps the rows that it does not extend. -/
theorem leftJoins_of_isSimple {scope : Scope} (hopt : scope.optional = true) {p : PathFree}
    (hsimple : Plan.isSimple p = true) (h : (Plan.pathFreeStage scope p).means E U W) :
    p.LeftJoins E scope U W := by
  unfold LeftJoins
  rw [if_pos hsimple]
  cases p with
  | split branches conditions => exact absurd hsimple (by simp [Plan.isSimple])
  | flat triples conditions =>
    obtain rfl : conditions = [] := by simpa [Plan.isSimple] using hsimple
    rw [Plan.pathFreeStage] at h
    obtain ⟨V, hV, hW⟩ := Stage.means_andThen h
    obtain rfl : W = V := hW
    obtain ⟨X, hX, hrows⟩ := Plan.means_joinStage hV
    rw [if_pos hopt] at hrows
    exact ⟨X, ⟨X, hX, rfl⟩, hrows⟩

/-- Numbered rows that are not extended are kept. -/
theorem leftJoins_of_optional (htag : tag.Direct) {scope : Scope} {p : PathFree}
    (hsimple : Plan.isSimple p = false)
    (h : (Stage.optionalOf tag
      (Plan.pathFreeStage { scope with optional := false } p)).means E U W) :
    p.LeftJoins E scope U W := by
  unfold LeftJoins
  rw [if_neg (by simp [hsimple])]
  obtain ⟨seen, V, hseen, hall, hV, rfl⟩ := h
  obtain ⟨X, hX, rfl⟩ := means_pathFreeStage rfl p hV
  refine ⟨tag, seen, X, hseen, fun hreads => hall ?_, hX.option, ?_⟩
  · rw [hasty_pathFreeStage, hreads]
    simp
  · rw [unmatched_eq htag hX.extending, List.map_map]
    rfl

end PathFree

end PagedSparql
