import PagedSparql.Proofs.Pipeline.AnyAnswers

/-!
# Which solutions are read back

Every row of a round has its own pattern, and the table of the round reads a solution of any of them
back: it tells the number of the row and gives the variables their old names
(`RoundTable.revert?_undoes`). A new name tells both its old name and its number, also where names
have underscores and digits of their own, since the number begins after the last underscore: `x_1`
for row 1 and `x` for row 11 become `x_1_1` and `x_11`.

All other solutions are refused. The variables of the patterns are the new names and nothing else
(`RoundTable.exists_mem_patterns_iff`), so a solution with another variable has a name that the
table does not know, and one with names of two rows belongs to neither of them. An empty solution
has no name to go by, and it is taken for that of the only row of a round.
-/

namespace PagedSparql.RoundTable

variable {B : Bgp} {rows : List Row} {m : Row}

/-- The variables of the patterns of a round are its new names. -/
theorem exists_mem_patterns_iff {w : Variable} :
    (∃ P ∈ patterns B rows, w ∈ Bgp.vars P) ↔ ∃ key, IsNew B rows key w := by
  have hvars : ∀ key row, w ∈ Bgp.vars (patternFor B key row) ↔
      ∃ x ∈ (B.substitute row).vars, w = suffixed x key := by
    intro key row
    rw [patternFor_eq, Bgp.vars_rename, List.mem_map]
    exact exists_congr fun x => and_congr_right fun _ => eq_comm
  constructor
  · rintro ⟨P, hP, hw⟩
    obtain ⟨key, hkey, rfl⟩ := List.mem_mapIdx.1 hP
    obtain ⟨x, hx, heq⟩ := (hvars key _).1 hw
    exact ⟨key, rows[key], x, List.getElem?_eq_getElem hkey, hx, heq⟩
  · rintro ⟨key, row, x, hrow, hx, heq⟩
    obtain ⟨hkey, rfl⟩ := List.getElem?_eq_some_iff.1 hrow
    exact ⟨_, List.mem_mapIdx.2 ⟨key, hkey, rfl⟩, (hvars key _).2 ⟨x, hx, heq⟩⟩

/-- A solution with a variable of no pattern of the round is not read back. -/
theorem revert?_eq_none_of_unknown {w : Variable} (hw : m.binds w = true)
    (h : ∀ P ∈ patterns B rows, w ∉ Bgp.vars P) : (build B rows).revert? m = none := by
  rw [Option.eq_none_iff_forall_ne_some]
  rintro ⟨key, added⟩ hrevert
  obtain ⟨P, hP, hmem⟩ := exists_mem_patterns_iff.2 ⟨key, (revert?_spec hrevert).1 w hw⟩
  exact h P hP hmem

/-- A solution with names of two rows is not read back. -/
theorem revert?_eq_none_of_mixed {v w : Variable} {k l : Nat} (hv : m.binds (suffixed v k) = true)
    (hw : m.binds (suffixed w l) = true) (hkl : k ≠ l) : (build B rows).revert? m = none := by
  rw [Option.eq_none_iff_forall_ne_some]
  rintro ⟨key, added⟩ hrevert
  obtain ⟨hnames, -⟩ := revert?_spec hrevert
  -- All names have the number of the row that the solution tells.
  have hkey : ∀ {x : Variable} {i : Nat}, m.binds (suffixed x i) = true → i = key := by
    intro x i hbinds
    obtain ⟨-, y, -, -, heq⟩ := hnames _ hbinds
    exact suffixed_key_inj heq
  exact hkl ((hkey hv).trans (hkey hw).symm)

/-- **Reading back undoes the renaming.** For every number of a row of a round, a row that is not
empty and binds variables of the pattern that the row with that number leaves unbound is read back
from its new names: the number and the row itself. A solution with names of two rows and one with a
variable that stands in no pattern of the round are not read back. The empty solution is read back
for the first row if this is the only one, and not otherwise. -/
theorem revert?_undoes (hB : ∀ v ∈ B.vars, v.Bare) (rows : List Row) :
    (∀ key row m, rows[key]? = some row → m ≠ .empty →
      (∀ v, m.binds v = true → v ∈ B.vars ∧ row.binds v = false) →
      (build B rows).revert? (Row.rename (suffixed · key) m) = some (key, m)) ∧
    (∀ m v w k l, m.binds (suffixed v k) = true → m.binds (suffixed w l) = true → k ≠ l →
      (build B rows).revert? m = none) ∧
    (∀ m w, m.binds w = true → (∀ P ∈ patterns B rows, w ∉ Bgp.vars P) →
      (build B rows).revert? m = none) ∧
    (build B rows).revert? .empty = if rows.length = 1 then some (0, .empty) else none := by
  refine ⟨fun key row m hrow hne hm => ?_, fun m v w k l => revert?_eq_none_of_mixed,
    fun m w => revert?_eq_none_of_unknown, revert?_empty B rows⟩
  exact revert?_rename hB hrow (fun v hv => Bgp.mem_vars_substitute.2 (hm v hv)) hne

/-- Twelve rows, and a pattern with one variable whose name is that of the other one with a number
behind it. -/
theorem revert?_undoes_sample :
    let B : Bgp :=
      [⟨.variable ⟨"x"⟩, .plain (.term (.iri "http://example.org/p")), .variable ⟨"x_1"⟩⟩]
    let table := build B (List.replicate 12 (.ofList [(⟨"y"⟩, .string "1")]))
    (∀ v ∈ B.vars, v.Bare) ∧
    table.revert? (.ofList [(⟨"x_1_1"⟩, .string "v")]) =
      some (1, .ofList [(⟨"x_1"⟩, .string "v")]) ∧
    table.revert? (.ofList [(⟨"x_11"⟩, .string "v")]) = some (11, .ofList [(⟨"x"⟩, .string "v")]) ∧
    table.revert? (.ofList [(⟨"x_1_1"⟩, .string "v"), (⟨"x_11"⟩, .string "v")]) = none ∧
    table.revert? (.ofList [(⟨"x_12"⟩, .string "v")]) = none ∧
    table.revert? .empty = none := by
  intro B table
  have hvars : B.vars = [⟨"x"⟩, ⟨"x_1"⟩] := rfl
  have hB : ∀ v ∈ B.vars, v.Bare := by
    simp only [hvars, List.forall_mem_cons]
    exact ⟨rfl, rfl, by simp⟩
  obtain ⟨hrenamed, hmixed, hunknown, hempty⟩ :=
    revert?_undoes hB (List.replicate 12 (.ofList [(⟨"y"⟩, .string "1")]))
  have hback : ∀ {key : Nat} {v : Variable}, key < 12 → v ∈ B.vars →
      table.revert? (.ofList [(suffixed v key, .string "v")]) =
        some (key, .ofList [(v, .string "v")]) := by
    intro key v hkey hv
    refine hrenamed key _ (.ofList [(v, .string "v")])
      (by rw [List.getElem?_replicate, if_pos hkey])
      (fun h => Bool.false_ne_true (congrArg VariableMap.isEmpty h)) fun w hw => ?_
    obtain rfl : w = v := by
      by_contra hne
      simp [VariableMap.ofList, VariableMap.insertAll, VariableMap.binds, VariableMap.get?_insert,
        hne] at hw
    refine ⟨hv, ?_⟩
    rw [hvars, List.mem_pair] at hv
    rcases hv with rfl | rfl <;> rfl
  refine ⟨hB, ?_, ?_, ?_, ?_, hempty⟩
  · exact (show suffixed ⟨"x_1"⟩ 1 = ⟨"x_1_1"⟩ by decide) ▸ hback (by decide) (by decide)
  · exact (show suffixed ⟨"x"⟩ 11 = ⟨"x_11"⟩ by decide) ▸ hback (by decide) (by decide)
  · exact hmixed _ ⟨"x_1"⟩ ⟨"x"⟩ 1 11 (by decide +kernel) (by decide +kernel) (by decide)
  · exact hunknown _ ⟨"x_12"⟩ (by decide +kernel) (by decide +kernel)

end PagedSparql.RoundTable
