import Mathlib.Algebra.Group.Nat.Units
import Mathlib.Algebra.Group.Units.Basic
import Mathlib.Data.Finset.Card
import Mathlib.Data.List.Dedup

/-!
# Waterfalls of mapping tables

A mapping table is the set of pairs that the rows of a batch give rise to; a
row is joined back to it on the key alone. A waterfall left-joins a row to one
mapping table after another and coalesces what they give, the first first. Each
table multiplies the rows by the number of its matches, so a row stays one row
exactly when no table matches it twice.
-/

namespace Relational

variable {R K V M : Type}

section Mapping

variable [DecidableEq K] [DecidableEq V]

/-- `SELECT DISTINCT key, value FROM rows JOIN ...`; a null key is left out. -/
def mappingTable (keyOf : R → Option K) (valuesOf : R → List V) (rows : List R) : List (K × V) :=
  (rows.flatMap fun row =>
    match keyOf row with
    | none => []
    | some key => (valuesOf row).map (key, ·)).dedup

/-- The values a mapping table gives a key. -/
def mappedTo (table : List (K × V)) (key : Option K) : List V :=
  table.filterMap fun entry => if some entry.1 = key then some entry.2 else none

/-- The rows of a batch that share a key. -/
def sharing (keyOf : R → Option K) (key : Option K) (rows : List R) : List R :=
  rows.filter fun row => (keyOf row).isSome && keyOf row = key

theorem mappedTo_dedup (entries : List (K × V)) (key : Option K) :
    mappedTo entries.dedup key = (mappedTo entries key).dedup := by
  induction entries with
  | nil => rfl
  | cons entry rest ih =>
      by_cases hkey : some entry.1 = key
      · have hmem : entry.2 ∈ mappedTo rest key ↔ entry ∈ rest := by
          simp only [mappedTo, List.mem_filterMap, Option.ite_none_right_eq_some, Option.some.injEq]
          constructor
          · intro hvalue
            obtain ⟨other, hother, hotherKey, hsame⟩ := hvalue
            have heq : other = entry :=
              Prod.ext (Option.some.inj (hotherKey.trans hkey.symm)) hsame
            exact heq ▸ hother
          · exact fun hentry => ⟨entry, hentry, hkey, rfl⟩
        have hcons (tail : List (K × V)) :
            mappedTo (entry :: tail) key = entry.2 :: mappedTo tail key := by
          simp [mappedTo, hkey]
        by_cases hrest : entry ∈ rest
        · rw [List.dedup_cons_of_mem hrest, ih, hcons, List.dedup_cons_of_mem (hmem.mpr hrest)]
        · rw [List.dedup_cons_of_notMem hrest, hcons, ih, hcons,
            List.dedup_cons_of_notMem (mt hmem.mp hrest)]
      · have hcons (tail : List (K × V)) : mappedTo (entry :: tail) key = mappedTo tail key := by
          simp [mappedTo, hkey]
        by_cases hrest : entry ∈ rest
        · rw [List.dedup_cons_of_mem hrest, ih, hcons]
        · rw [List.dedup_cons_of_notMem hrest, hcons, ih, hcons]

/-- What a mapping table gives a key comes from the rows that share it. -/
theorem mappedTo_mappingTable (keyOf : R → Option K) (valuesOf : R → List V) (rows : List R)
    (key : Option K) :
    mappedTo (mappingTable keyOf valuesOf rows) key =
      ((sharing keyOf key rows).flatMap valuesOf).dedup := by
  rw [mappingTable, mappedTo_dedup]
  congr 1
  induction rows with
  | nil => rfl
  | cons row rest ih =>
      have happend (left right : List (K × V)) :
          mappedTo (left ++ right) key = mappedTo left key ++ mappedTo right key :=
        List.filterMap_append
      rw [List.flatMap_cons, happend, ih]
      cases hkey : keyOf row with
      | none => simp [sharing, mappedTo, hkey]
      | some rowKey =>
          by_cases heq : some rowKey = key
          · subst heq
            simp [sharing, mappedTo, hkey, List.filterMap_map]
          · simp [sharing, mappedTo, hkey, heq, List.filterMap_map]

/-- A mapping table gives a key what some row with the key finds. -/
theorem mem_mappedTo_iff {keyOf : R → Option K} {valuesOf : R → List V}
    (hnull : ∀ row, keyOf row = none → valuesOf row = []) (rows : List R) (key : Option K)
    (value : V) :
    value ∈ mappedTo (mappingTable keyOf valuesOf rows) key ↔
      ∃ row ∈ rows, keyOf row = key ∧ value ∈ valuesOf row := by
  rw [mappedTo_mappingTable]
  simp only [List.mem_dedup, sharing, List.mem_flatMap, List.mem_filter, Bool.and_eq_true,
    decide_eq_true_eq]
  constructor
  · intro hvalue
    obtain ⟨row, ⟨hrow, -, hkey⟩, hmem⟩ := hvalue
    exact ⟨row, hrow, hkey, hmem⟩
  · intro hvalue
    obtain ⟨row, hrow, hkey, hmem⟩ := hvalue
    refine ⟨row, ⟨hrow, ?_, hkey⟩, hmem⟩
    rw [Option.isSome_iff_ne_none]
    intro hnone
    simp [hnull row hnone] at hmem

theorem mappedTo_ne_nil_iff {keyOf : R → Option K} {valuesOf : R → List V}
    (hnull : ∀ row, keyOf row = none → valuesOf row = []) (rows : List R) (key : Option K) :
    mappedTo (mappingTable keyOf valuesOf rows) key ≠ [] ↔
      ∃ row ∈ rows, keyOf row = key ∧ valuesOf row ≠ [] := by
  constructor
  · intro hne
    obtain ⟨value, hvalue⟩ := List.exists_mem_of_ne_nil _ hne
    obtain ⟨row, hrow, hkey, hmem⟩ := (mem_mappedTo_iff hnull rows key value).mp hvalue
    exact ⟨row, hrow, hkey, List.ne_nil_of_mem hmem⟩
  · intro hfound
    obtain ⟨row, hrow, hkey, hne⟩ := hfound
    obtain ⟨value, hmem⟩ := List.exists_mem_of_ne_nil _ hne
    exact List.ne_nil_of_mem ((mem_mappedTo_iff hnull rows key value).mpr ⟨row, hrow, hkey, hmem⟩)

end Mapping

namespace Waterfall

/-- The rows a `LEFT JOIN` makes of one row with these matches. -/
def leftJoin (values : List V) : List (Option V) :=
  if values.isEmpty then [none] else values.map some

/-- A row left-joined to each step in turn, with the first match of each
resulting row and the step it is from. -/
def resolutions : List (M × List V) → List (Option (V × M))
  | [] => [none]
  | (step, values) :: rest =>
    (leftJoin values).flatMap fun value =>
      (resolutions rest).map fun later => (value.map (·, step)).or later

/-- The value is from the first step that has any, or no step has one. -/
def IsPreferred : List (M × List V) → Option (V × M) → Prop
  | [], resolution => resolution = none
  | (step, values) :: rest, resolution =>
    (values = [] ∧ IsPreferred rest resolution) ∨ ∃ value ∈ values, resolution = some (value, step)

/-- A `LEFT JOIN` drops no row. -/
theorem exists_mem_resolutions (steps : List (M × List V)) :
    ∃ resolution, resolution ∈ resolutions steps := by
  induction steps with
  | nil => exact ⟨none, List.mem_singleton_self none⟩
  | cons step rest ih =>
      obtain ⟨later, hlater⟩ := ih
      have hjoin : ∃ value, value ∈ leftJoin step.2 := by
        cases hvalues : step.2 with
        | nil => exact ⟨none, List.mem_singleton_self none⟩
        | cons value others => exact ⟨some value, List.mem_cons_self⟩
      obtain ⟨value, hvalue⟩ := hjoin
      exact ⟨_, List.mem_flatMap.mpr ⟨value, hvalue, List.mem_map_of_mem hlater⟩⟩

theorem mem_resolutions_iff (steps : List (M × List V)) (resolution : Option (V × M)) :
    resolution ∈ resolutions steps ↔ IsPreferred steps resolution := by
  induction steps generalizing resolution with
  | nil => exact List.mem_singleton
  | cons step rest ih =>
      obtain ⟨name, values⟩ := step
      simp only [resolutions, List.mem_flatMap, List.mem_map, ih, IsPreferred]
      cases values with
      | nil => simp [leftJoin]
      | cons first others =>
          obtain ⟨later, hlater⟩ := exists_mem_resolutions rest
          rw [ih] at hlater
          constructor
          · intro hmem
            obtain ⟨value, hvalue, _, _, rfl⟩ := hmem
            obtain ⟨found, hfound, rfl⟩ := List.mem_map.mp hvalue
            exact Or.inr ⟨found, hfound, rfl⟩
          · intro hpreferred
            -- the steps after a match do not matter
            rcases hpreferred with ⟨hnil, -⟩ | ⟨found, hfound, rfl⟩
            · cases hnil
            · exact ⟨some found, List.mem_map_of_mem hfound, later, hlater, rfl⟩

/-- A row is resolved exactly when some step has a value for it. -/
theorem exists_isSome_iff (steps : List (M × List V)) :
    (∃ resolution ∈ resolutions steps, resolution.isSome) ↔ ∃ step ∈ steps, step.2 ≠ [] := by
  simp only [mem_resolutions_iff]
  induction steps with
  | nil => simp [IsPreferred]
  | cons step rest ih =>
      obtain ⟨name, values⟩ := step
      cases values with
      | nil => simpa [IsPreferred] using ih
      | cons first others => simp [IsPreferred]

end Waterfall

end Relational
