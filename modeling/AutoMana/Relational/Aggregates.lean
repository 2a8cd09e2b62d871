import Mathlib.Algebra.BigOperators.Group.List.Basic
import Mathlib.Algebra.GroupWithZero.Nat
import Mathlib.Data.Finset.Card
import Mathlib.Data.List.Dedup
import Mathlib.Data.List.ReduceOption

/-!
# Aggregate functions over nullable columns

The aggregates see a column as the list of its values in one group. A null
contributes to none of them, and the aggregate of no value is null.
-/

namespace Relational.Aggregate

variable {α : Type}

/-- Division rounded to the nearest integer, halves away from zero, as the cast
of an exact quotient to an integer rounds it. -/
def roundedQuotient (total count : Nat) : Nat := (2 * total + count) / (2 * count)

/-- `MIN(column)`. -/
def min (column : List (Option Nat)) : Option Nat := column.reduceOption.min?

/-- `MAX(column)`. -/
def max (column : List (Option Nat)) : Option Nat := column.reduceOption.max?

/-- `AVG(column)::INTEGER`. -/
def avg (column : List (Option Nat)) : Option Nat :=
  match column.reduceOption with
  | [] => none
  | values => some (roundedQuotient values.sum values.length)

theorem mem_of_min {column : List (Option Nat)} {value : Nat} (hmin : min column = some value) :
    some value ∈ column :=
  List.reduceOption_mem_iff.mp (List.min?_mem hmin)

/-- An average rounds to zero only when a value is zero. -/
theorem zero_mem_of_avg {column : List (Option Nat)} (havg : avg column = some 0) :
    some 0 ∈ column := by
  rw [← List.reduceOption_mem_iff]
  unfold avg at havg
  cases hvalues : column.reduceOption with
  | nil =>
    rw [hvalues] at havg
    cases havg
  | cons first rest =>
    rw [hvalues] at havg
    by_contra hzero
    -- no value is below one
    have hone : ∀ value ∈ first :: rest, 1 ≤ value := by
      intro value hvalue
      exact Nat.one_le_iff_ne_zero.mpr fun hsame => hzero (hsame ▸ hvalue)
    have hsum := List.length_le_sum_of_one_le _ hone
    have hquotient := Option.some.inj havg
    rw [roundedQuotient, Nat.div_eq_zero_iff] at hquotient
    rw [List.length_cons] at hsum hquotient
    omega

/-- `COUNT(DISTINCT column)` of a column that is never null. -/
def countDistinct [DecidableEq α] (column : List α) : Nat := column.dedup.length

/-- Counting an extended column gives the same number exactly when the
extension brings no new value. -/
theorem countDistinct_append_eq_iff [DecidableEq α] (old new : List α) :
    countDistinct new = countDistinct (old ++ new) ↔
      ∀ value ∈ old, value ∈ new := by
  unfold countDistinct
  rw [← List.card_toFinset, ← List.card_toFinset, List.toFinset_append]
  constructor
  · intro hcard value hvalue
    have heq := Finset.eq_of_subset_of_card_le Finset.subset_union_right hcard.ge
    have hmem : value ∈ old.toFinset ∪ new.toFinset :=
      Finset.mem_union_left _ (List.mem_toFinset.mpr hvalue)
    exact List.mem_toFinset.mp (heq ▸ hmem)
  · intro hsub
    rw [Finset.union_eq_right.mpr]
    intro value hvalue
    exact List.mem_toFinset.mpr (hsub value (List.mem_toFinset.mp hvalue))

example : avg [some 1, none, some 2] = some 2 := by decide

end Relational.Aggregate
