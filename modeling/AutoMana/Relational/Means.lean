import AutoMana.Relational.Aggregates
import Mathlib.Algebra.Order.Field.Rat
import Mathlib.Tactic.FieldSimp
import Mathlib.Tactic.Linarith

/-!
# Exact averages

`AVG` of a nullable column is the mean of its values. The average that is stored as an integer
is within one half of it.
-/

namespace Relational.Aggregate

/-- `AVG(column)`. -/
def mean (column : List (Option Nat)) : Option ℚ :=
  match column.reduceOption with
  | [] => none
  | values => some (values.sum / values.length)

theorem reduceOption_ne_nil_iff {column : List (Option Nat)} :
    column.reduceOption ≠ [] ↔ ∃ value, some value ∈ column := by
  constructor
  · intro hsome
    obtain ⟨value, hvalue⟩ := List.exists_mem_of_ne_nil _ hsome
    exact ⟨value, List.reduceOption_mem_iff.mp hvalue⟩
  · rintro ⟨value, hvalue⟩
    exact List.ne_nil_of_mem (List.reduceOption_mem_iff.mpr hvalue)

theorem isSome_mean {column : List (Option Nat)} :
    (mean column).isSome ↔ ∃ value, some value ∈ column := by
  rw [← reduceOption_ne_nil_iff]
  unfold mean
  cases column.reduceOption <;> simp

theorem isSome_avg {column : List (Option Nat)} :
    (avg column).isSome ↔ ∃ value, some value ∈ column := by
  rw [← reduceOption_ne_nil_iff]
  unfold avg
  cases column.reduceOption <;> simp

theorem mean_eq_none_iff {column : List (Option Nat)} : mean column = none ↔ avg column = none := by
  unfold mean avg
  cases column.reduceOption <;> simp

@[simp] theorem mean_nil : mean [] = none := rfl

@[simp] theorem mean_singleton (value : Option Nat) :
    mean [value] = value.map (Nat.cast : Nat → ℚ) := by
  cases value with
  | none => rfl
  | some value => simp [mean, List.reduceOption]

theorem mean_perm {first second : List (Option Nat)} (hperm : first.Perm second) :
    mean first = mean second := by
  have hvalues : first.reduceOption.Perm second.reduceOption := hperm.filterMap id
  unfold mean
  cases hfirst : first.reduceOption with
  | nil =>
    rw [hfirst] at hvalues
    rw [hvalues.nil_eq]
  | cons value rest =>
    cases hsecond : second.reduceOption with
    | nil => exact absurd hvalues (by simp [hfirst, hsecond])
    | cons value' rest' =>
      rw [hfirst, hsecond] at hvalues
      dsimp only
      rw [hvalues.sum_eq, hvalues.length_eq]

/-- Rows without a value do not count in an average. -/
theorem mean_map_filter_congr {α : Type} {column : α → Option Nat} {rows : List α}
    {first second : α → Bool}
    (hdiffer : ∀ row ∈ rows, first row ≠ second row → column row = none) :
    mean ((rows.filter first).map column) = mean ((rows.filter second).map column) := by
  have hvalues : ((rows.filter first).map column).reduceOption =
      ((rows.filter second).map column).reduceOption := by
    simp only [List.reduceOption, List.filterMap_map, List.filterMap_filter]
    apply List.filterMap_congr
    intro row hrow
    by_cases hsame : first row = second row
    · rw [hsame]
    · simp [hdiffer row hrow hsame]
  unfold mean
  rw [hvalues]

theorem abs_roundedQuotient_sub_le (total : Nat) {count : Nat} (hcount : 0 < count) :
    |(roundedQuotient total count : ℚ) - total / count| ≤ 1 / 2 := by
  have hpos : (0 : ℚ) < count := Nat.cast_pos.mpr hcount
  unfold roundedQuotient
  set rounded := (2 * total + count) / (2 * count) with hrounded
  have hlow : 2 * count * rounded ≤ 2 * total + count := Nat.mul_div_le _ _
  have hhigh : 2 * total + count < 2 * count * (rounded + 1) :=
    Nat.lt_mul_div_succ _ (by omega)
  have hlow' : 2 * (count : ℚ) * rounded ≤ 2 * total + count := by exact_mod_cast hlow
  have hhigh' : 2 * (total : ℚ) + count < 2 * count * (rounded + 1) := by exact_mod_cast hhigh
  rw [abs_le]
  constructor
  · rw [neg_le_sub_iff_le_add, div_le_iff₀ hpos]
    nlinarith
  · rw [sub_le_iff_le_add, ← sub_le_iff_le_add', le_div_iff₀ hpos]
    nlinarith

/-- The rounded average is within one half of the exact one. -/
theorem abs_avg_sub_mean_le {column : List (Option Nat)} {rounded : Nat} {exact : ℚ}
    (havg : avg column = some rounded) (hmean : mean column = some exact) :
    |(rounded : ℚ) - exact| ≤ 1 / 2 := by
  unfold avg at havg
  unfold mean at hmean
  cases hvalues : column.reduceOption with
  | nil =>
    rw [hvalues] at havg
    cases havg
  | cons first rest =>
    rw [hvalues] at havg hmean
    obtain rfl := Option.some.inj havg
    obtain rfl := Option.some.inj hmean
    exact abs_roundedQuotient_sub_le _ (Nat.succ_pos _)

theorem exists_avg {column : List (Option Nat)} {exact : ℚ} (hmean : mean column = some exact) :
    ∃ rounded, avg column = some rounded ∧ |(rounded : ℚ) - exact| ≤ 1 / 2 := by
  have hsome : avg column ≠ none := by
    rw [Ne, ← mean_eq_none_iff, hmean]
    exact Option.some_ne_none _
  obtain ⟨rounded, havg⟩ := Option.ne_none_iff_exists'.mp hsome
  exact ⟨rounded, havg, abs_avg_sub_mean_le havg hmean⟩

/-- The first average that is there is of the same column, rounded or not. -/
theorem exists_avg_or {first second : List (Option Nat)} {exact : ℚ}
    (hmean : (mean first).or (mean second) = some exact) :
    ∃ rounded, (avg first).or (avg second) = some rounded ∧ |(rounded : ℚ) - exact| ≤ 1 / 2 := by
  rcases Option.or_eq_some_iff.mp hmean with hfirst | ⟨hnone, hsecond⟩
  · obtain ⟨rounded, havg, hclose⟩ := exists_avg hfirst
    exact ⟨rounded, by rw [havg, Option.some_or], hclose⟩
  · obtain ⟨rounded, havg, hclose⟩ := exists_avg hsecond
    exact ⟨rounded, by rw [mean_eq_none_iff.mp hnone, Option.none_or, havg], hclose⟩

end Relational.Aggregate
