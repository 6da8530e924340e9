import PagedSparql.Proofs.Pipeline.BoundJoinLaw
import PagedSparql.Proofs.Pipeline.Chain
import PagedSparql.Proofs.Pipeline.Fork
import PagedSparql.Proofs.Pipeline.Leaf
import PagedSparql.Proofs.Pipeline.Nested
import PagedSparql.Proofs.Pipeline.Optional

/-!
# What stages mean

The meaning of a stage relates the rows that come in to those that it hands on (`Stage.means`). It
is a relation because endpoints answer in any order, and is put together from the meanings of the
stages inside, with no mention of how their steps interleave. A stage is sound if it meets its
meaning among endpoints that answer (`Scene.Sound`): then it comes to an end, without failure, and
hands on rows that its meaning allows. The theorems `Scene.sound_*` put sound stages together.
-/

namespace PagedSparql

variable {σ : Type}

/-- What is known of the pages that an endpoint answers for a bucket. -/
def Scene.Served (E : Scene σ) (goal : BoundPattern) (bucket : List Row) (pages : List Page) :
    Prop :=
  E.understood (Round.union goal bucket) →
    BoundJoin.Served (E.solutions goal.address goal.graph) goal E.tells bucket pages

namespace Stage

mutual

/-- What a stage that has not begun makes of the rows that come in. -/
def means (E : Scene σ) : Stage → List Row → List Row → Prop
  | .input => fun U W => W = U
  | .remote join => BoundJoin.Spec join.goal (E.Served join.goal)
  | .nested _ right _ _ _ => fun U W => ∃ table, means E right [] table ∧ W = joinTable table U
  | .fork _ _ branches => meansEach E branches
  | .optional tag inner _ _ _ => Optional.Spec tag (inner.hasty = true) (means E inner)
  | .chain upper lower => Relation.Comp (means E upper) (means E lower)
  | st => Works σ E.now st

/-- What several stages make of the same rows, one after the other. -/
def meansEach (E : Scene σ) : List Stage → List Row → List Row → Prop
  | [] => fun _ W => W = []
  | b :: rest => fun U W => ∃ V V', means E b U V ∧ meansEach E rest U V' ∧ W = V ++ V'

end

variable {E : Scene σ}

/-- What several stages make of the same rows is what each of them makes of them. -/
theorem meansEach_iff {branches : List Stage} {U W : List Row} :
    meansEach E branches U W ↔ Fork.Each (means E) branches U W := by
  induction branches generalizing W with
  | nil =>
    constructor
    · rintro rfl
      exact ⟨[], .nil, rfl⟩
    · rintro ⟨parts, hparts, rfl⟩
      cases hparts
      rfl
  | cons b rest ih =>
    constructor
    · rintro ⟨V, V', hV, hV', rfl⟩
      obtain ⟨parts, hparts, rfl⟩ := ih.1 hV'
      exact ⟨V :: parts, .cons hV hparts, rfl⟩
    · rintro ⟨parts, hparts, rfl⟩
      cases hparts with
      | @cons _ V _ parts hV hparts =>
        exact ⟨V, parts.flatten, hV, ih.2 ⟨parts, hparts, rfl⟩, rfl⟩

/-- All stages of a list may be done early when each of them may. -/
theorem allHasty_iff {branches : List Stage} :
    allHasty branches = true ↔ ∀ b ∈ branches, b.hasty = true := by
  induction branches with
  | nil => simp [allHasty]
  | cons b rest ih => simp [allHasty, ih]

/-- A stage that only hands on what comes in does so. -/
theorem eq_of_works_input {now : DateTime} {U W : List Row} (h : Works σ now .input U W) :
    W = U := by
  induction U generalizing W with
  | nil => exact h.last_inv rfl fun _ => rfl
  | cons r U ih =>
    obtain ⟨s, y?, W', hrow, hrest, rfl⟩ := h.take_inv rfl
    obtain rfl : y? = some r := by cases y? <;> simp_all [stepRow]
    rw [ih hrest]
    rfl

end Stage

/-- The patterns that a round asks for have no paths. -/
theorem Round.plain_union {goal : BoundPattern} (hB : Bgp.Plain goal.triples) (bucket : List Row) :
    ∀ B ∈ Round.union goal bucket, B.Plain := by
  intro B hB'
  rw [Round.union_eq] at hB'
  obtain ⟨e, -, rfl⟩ := List.mem_map.1 hB'
  unfold Round.patternOf
  split
  · exact hB
  · intro t ht
    obtain ⟨u, hu, rfl⟩ := List.mem_map.1 ht
    simpa using hB u hu

namespace Scene

variable {E : Scene σ}

/-- A stage meets its meaning. -/
def Sound (E : Scene σ) (st : Stage) : Prop := E.Meets (st.hasty = true) st (st.means E)

/-- Leaves are sound. -/
theorem sound_leaf (hE : E.Lawful) {st : Stage} (h : st.isLeaf = true) : E.Sound st := by
  refine (meets_leaf hE h).mono id fun U W hworks => ?_
  cases st with
  | input => exact Stage.eq_of_works_input hworks
  | remote | nested | fork | optional | chain => exact absurd h (by simp [Stage.isLeaf])
  | _ => exact hworks

/-- The endpoints answer for every bucket of a bound join with a pattern without paths. -/
theorem Lawful.asks (hE : E.Lawful) {goal : BoundPattern} (hB : Bgp.Plain goal.triples)
    (bucket : List Row) :
    BoundJoin.Asks E.net E.others E.ready goal (E.Served goal) bucket := by
  intro w hw
  rw [BoundJoin.request_start]
  refine (hE.answers _ _ _ (Round.plain_union hB bucket) hw).weaken fun pages w' h => ⟨h.1, ?_⟩
  exact fun hunderstood => ⟨(h.2 hunderstood).1, (h.2 hunderstood).2⟩

/-- Bound joins with patterns without paths are sound. -/
theorem sound_remote (hE : E.Lawful) {goal : BoundPattern} (hB : Bgp.Plain goal.triples) :
    E.Sound (.remote (.ofPattern goal)) := by
  let goal' : BoundPattern := (BoundJoin.ofPattern goal).goal
  have := hE.std_refl
  have := hE.isTrans
  have hB' : Bgp.Plain goal'.triples := hB
  have hasks : ∀ U, True → ∀ bucket ∈ buckets goal'.bufferSize U,
      BoundJoin.Asks E.net E.others E.ready goal' (E.Served goal') bucket :=
    fun _ _ bucket _ => hE.asks hB' bucket
  have hK : 0 < goal'.bufferSize := Nat.lt_of_lt_of_le Nat.one_pos (Nat.le_max_right _ _)
  have hc : E.Contract False (BoundJoin.Spec goal' (E.Served goal'))
      (BoundJoin.StageInv E.net E.others E.ready goal' (E.Served goal')) :=
    BoundJoin.contract hE.sends (fun _ _ hw h => hE.stays hw h) hK hasks
  have hmeets : E.Meets False (.remote (.ofPattern goal)) (BoundJoin.Spec goal' (E.Served goal')) :=
    .of_contract hc fun s hs => BoundJoin.inv_ofPattern goal (hs.isOpen _) hs.world
  exact hmeets.mono False.elim fun _ _ => id

/-- Joins with the rows of a sound stage are sound. -/
theorem sound_nested (hE : E.Lawful) {right : Stage} (hright : E.Sound right)
    (hsealed : right.isSealed = true) : E.Sound (.nested .input right false [] none) :=
  (Meets.nested hE hright hsealed).mono False.elim fun _ _ => id

/-- Sound branches are sound together. -/
theorem sound_fork (hE : E.Lawful) {branches : List Stage} (hbranches : ∀ b ∈ branches, E.Sound b) :
    E.Sound (.fork (.ofReaders branches.length) 0 branches) :=
  (Meets.fork hE hbranches).mono Stage.allHasty_iff.2 fun _ _ h => Stage.meansEach_iff.2 h

/-- A sound stage is sound around numbered rows, if it makes up no numbers. -/
theorem sound_optional (hE : E.Lawful) {tag : Variable} {inner : Stage} (hinner : E.Sound inner)
    (htagged : Optional.Tagged tag (inner.means E)) :
    E.Sound (.optional tag inner 0 [] none) :=
  (Meets.optional hE hinner htagged).mono id fun _ _ => id

/-- Sound stages are sound below one another. -/
theorem sound_chain (hE : E.Lawful) {upper lower : Stage} (hupper : E.Sound upper)
    (hlower : E.Sound lower) : E.Sound (.chain upper lower) :=
  (Meets.chain hE hupper hlower).mono (by simp [Stage.hasty]) fun _ _ => id

/-- **Sound stages compute what they mean.** -/
theorem Sound.collects (hE : E.Lawful) {st : Stage} (hst : E.Sound st) {s : Session σ}
    (hs : E.Ready s) (U : List Row) :
    ∃ W st' s', Stage.Collects E.net E.now (.chain (.source U .done) st) s W st' s' ∧
      st.means E U W :=
  Meets.collects hE hst hs U

end Scene

end PagedSparql
