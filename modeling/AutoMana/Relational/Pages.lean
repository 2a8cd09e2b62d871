import Mathlib.Data.List.Basic

/-!
# Pages of a list

Rows are read by limit and offset. The pages at the multiples of the limit are the rows, cut.
-/

namespace Relational

variable {α : Type}

/-- `LIMIT limit OFFSET offset` -/
def page (rows : List α) (limit offset : ℕ) : List α := (rows.drop offset).take limit

/-- The pages at the offsets `0`, `limit`, `2 * limit`, and so on. -/
def pages (rows : List α) (limit count : ℕ) : List α :=
  (List.range count).flatMap fun index => page rows limit (index * limit)

theorem pages_eq_take (rows : List α) (limit count : ℕ) :
    pages rows limit count = rows.take (count * limit) := by
  induction count with
  | zero => simp [pages]
  | succ count ih =>
    rw [pages, List.range_succ, List.flatMap_append, List.flatMap_singleton]
    change pages rows limit count ++ _ = _
    rw [ih, page, Nat.succ_mul, List.take_add]

/-- Enough pages are all rows. -/
theorem pages_eq_self {rows : List α} {limit count : ℕ} (hcount : rows.length ≤ count * limit) :
    pages rows limit count = rows := by
  rw [pages_eq_take, List.take_of_length_le hcount]

end Relational
