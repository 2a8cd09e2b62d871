import AutoMana.Relational.Table

/-!
# Rows numbered from one

A group of rows is keyed by the group and a number. Every list of values is inserted
under the numbers from one on, and a taken number keeps the row it has. The first list of
a group is kept whole; of any later one at least the first value is lost.
-/

namespace Relational

variable {G V : Type} [DecidableEq G]

/-- `for value in values: INSERT (group, number, value) ON CONFLICT DO NOTHING; number += 1`. -/
def insertNumbered (group : G) : ℕ → List V → Table (G × ℕ) V → Table (G × ℕ) V
  | _, [], table => table
  | number, value :: rest, table =>
    insertNumbered group (number + 1) rest (table.insertMissing [((group, number), value)])

/-- The values of a table with their groups. -/
def recorded (table : Table (G × ℕ) V) : List (G × V) :=
  table.rows.map fun row => (row.1.1, row.2)

/-- A group with any number has the number one. -/
def StartsAtOne (table : Table (G × ℕ) V) : Prop :=
  ∀ group number, (table.get? (group, number)).isSome → (table.get? (group, 1)).isSome

theorem recorded_insertMissing_single (table : Table (G × ℕ) V) (group : G) (number : ℕ)
    (value : V) :
    recorded (table.insertMissing [((group, number), value)]) =
      recorded table ++
        if (table.get? (group, number)).isSome then [] else [(group, value)] := by
  rw [recorded, Table.rows_insertMissing_single, List.map_append, recorded]
  split <;> rfl

theorem isSome_insertMissing_single (table : Table (G × ℕ) V) (stored key : G × ℕ) (value : V) :
    ((table.insertMissing [(stored, value)]).get? key).isSome ↔
      (table.get? key).isSome ∨ key = stored := by
  rw [Table.get?_insertMissing]
  by_cases hkey : key = stored
  · simp [hkey]
  · simp [hkey, Ne.symm hkey]

/-- The numbers taken are the ones taken before and the ones inserted. -/
theorem isSome_insertNumbered (group : G) (number : ℕ) (values : List V)
    (table : Table (G × ℕ) V) (key : G × ℕ) :
    ((insertNumbered group number values table).get? key).isSome ↔
      (table.get? key).isSome ∨
        key.1 = group ∧ number ≤ key.2 ∧ key.2 < number + values.length := by
  induction values generalizing number table with
  | nil =>
    simp only [insertNumbered, List.length_nil, Nat.add_zero]
    constructor
    · exact Or.inl
    · intro hkey
      rcases hkey with hkey | ⟨-, hle, hlt⟩
      · exact hkey
      · omega
  | cons value rest ih =>
    rw [insertNumbered, ih, isSome_insertMissing_single, List.length_cons, Prod.ext_iff]
    constructor
    · intro hkey
      rcases hkey with (hkey | ⟨hgroup, hnumber⟩) | ⟨hgroup, hle, hlt⟩
      · exact Or.inl hkey
      · exact Or.inr ⟨hgroup, by omega, by omega⟩
      · exact Or.inr ⟨hgroup, by omega, by omega⟩
    · intro hkey
      rcases hkey with hkey | ⟨hgroup, hle, hlt⟩
      · exact Or.inl (Or.inl hkey)
      · by_cases hnumber : key.2 = number
        · exact Or.inl (Or.inr ⟨hgroup, hnumber⟩)
        · exact Or.inr ⟨hgroup, by omega, by omega⟩

theorem StartsAtOne.insertNumbered {table : Table (G × ℕ) V} (hone : StartsAtOne table)
    (group : G) (values : List V) :
    StartsAtOne (Relational.insertNumbered group 1 values table) := by
  intro other number hnumber
  rw [isSome_insertNumbered] at hnumber ⊢
  rcases hnumber with hstored | ⟨hgroup, hle, hlt⟩
  · exact Or.inl (hone other number hstored)
  · exact Or.inr ⟨hgroup, Nat.le_refl 1, by omega⟩

/-- What is recorded of a list is part of it. -/
theorem exists_recorded_insertNumbered (group : G) (number : ℕ) (values : List V)
    (table : Table (G × ℕ) V) :
    ∃ kept, kept.Sublist (values.map fun value => (group, value)) ∧
      recorded (insertNumbered group number values table) = recorded table ++ kept := by
  induction values generalizing number table with
  | nil => exact ⟨[], .slnil, (List.append_nil _).symm⟩
  | cons value rest ih =>
    obtain ⟨kept, hkept, hrecorded⟩ :=
      ih (number + 1) (table.insertMissing [((group, number), value)])
    rw [recorded_insertMissing_single, List.append_assoc] at hrecorded
    refine ⟨_, ?_, hrecorded⟩
    split
    · exact hkept.cons _
    · exact hkept.cons_cons _

/-- A list under free numbers is recorded whole. -/
theorem recorded_insertNumbered_of_free {group : G} {number : ℕ} {table : Table (G × ℕ) V}
    (hfree : ∀ later, number ≤ later → table.get? (group, later) = none) (values : List V) :
    recorded (insertNumbered group number values table) =
      recorded table ++ values.map fun value => (group, value) := by
  induction values generalizing number table with
  | nil => exact (List.append_nil _).symm
  | cons value rest ih =>
    rw [insertNumbered, ih, recorded_insertMissing_single, hfree number (Nat.le_refl _),
      Option.isSome_none, if_neg Bool.false_ne_true, List.append_assoc]
    · rfl
    · intro later hlater
      rw [Table.get?_insertMissing_of_notMem, hfree later (by omega)]
      intro other hmem
      have hnumber := (Prod.mk.inj (Prod.mk.inj (List.mem_singleton.mp hmem)).1).2
      omega

/-- A list whose first number is taken is not recorded whole. -/
theorem length_recorded_of_taken {group : G} {number : ℕ} {table : Table (G × ℕ) V}
    (htaken : (table.get? (group, number)).isSome) {values : List V} (hne : values ≠ []) :
    (recorded (insertNumbered group number values table)).length <
      (recorded table).length + values.length := by
  cases values with
  | nil => exact absurd rfl hne
  | cons value rest =>
    rw [insertNumbered]
    obtain ⟨kept, hkept, hrecorded⟩ := exists_recorded_insertNumbered group (number + 1) rest
      (table.insertMissing [((group, number), value)])
    have hlength := hkept.length_le
    rw [recorded_insertMissing_single, if_pos htaken, List.append_nil] at hrecorded
    rw [hrecorded, List.length_append, List.length_cons]
    rw [List.length_map] at hlength
    omega

/-- A group of which something is recorded has taken the number one. -/
theorem isSome_one_of_mem_recorded {table : Table (G × ℕ) V} (hone : StartsAtOne table)
    {group : G} {value : V} (hmem : (group, value) ∈ recorded table) :
    (table.get? (group, 1)).isSome := by
  obtain ⟨row, hrow, heq⟩ := List.mem_map.mp hmem
  cases heq
  apply hone _ row.1.2
  rw [(table.mem_rows_iff row.1 row.2).mp hrow, Option.isSome_some]

/-- A group of which nothing is recorded has taken no number. -/
theorem get?_eq_none_of_recorded {table : Table (G × ℕ) V} {group : G}
    (hnone : ∀ value, (group, value) ∉ recorded table) (number : ℕ) :
    table.get? (group, number) = none := by
  cases hget : table.get? (group, number) with
  | none => rfl
  | some value =>
    have hrow := (table.mem_rows_iff _ _).mpr hget
    exact absurd (List.mem_map_of_mem hrow) (hnone value)

end Relational
