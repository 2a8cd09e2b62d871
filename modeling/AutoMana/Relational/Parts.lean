import AutoMana.Relational.Dict

/-!
# Parts of a table

The part of a table is the rows of one owner, say. A change of rows that keeps their owners
changes the part of each owner by itself, and leaves the parts of the owners whose rows it does
not change.
-/

namespace Relational.Table

variable {K V : Type}

theorem eq_of_rows {first second : Table K V} (hrows : first.rows = second.rows) :
    first = second := by
  cases first
  cases second
  simpa only [mk.injEq] using hrows

/-- The rows that are kept, in their order. -/
def part (table : Table K V) (keep : K → V → Bool) : Table K V :=
  table.deleteWhere fun key value => !keep key value

theorem rows_part (table : Table K V) (keep : K → V → Bool) :
    (table.part keep).rows = table.rows.filter fun row => keep row.1 row.2 := by
  simp only [part, deleteWhere, Bool.not_not]

/-- Within the part, rows are selected as in the whole table. -/
theorem filter_rows_part (table : Table K V) {keep : K → V → Bool} {selected : K × V → Bool}
    (hkept : ∀ row, selected row = true → keep row.1 row.2 = true) :
    (table.part keep).rows.filter selected = table.rows.filter selected := by
  rw [rows_part, List.filter_filter]
  apply List.filter_congr
  intro row _
  cases hselected : selected row with
  | false => rfl
  | true => rw [hkept row hselected, Bool.and_self]

theorem any_rows_part (table : Table K V) {keep : K → V → Bool} {selected : K × V → Bool}
    (hkept : ∀ row, selected row = true → keep row.1 row.2 = true) :
    (table.part keep).rows.any selected = table.rows.any selected := by
  rw [rows_part, List.any_filter]
  refine congrArg table.rows.any (funext fun row => ?_)
  cases hselected : selected row with
  | false => exact Bool.and_false _
  | true => rw [hkept row hselected, Bool.and_self]

/-- The owner of rows depends on another table, which has changed. -/
theorem part_congr {table : Table K V} {keep other : K → V → Bool}
    (hsame : ∀ row ∈ table.rows, keep row.1 row.2 = other row.1 row.2) :
    table.part keep = table.part other := by
  apply eq_of_rows
  rw [rows_part, rows_part]
  exact List.filter_congr hsame

/-- Rows that are changed but keep their owner. -/
theorem part_mapValues (table : Table K V) {keep : K → V → Bool} {change : K → V → V}
    (hkeep : ∀ key value, keep key (change key value) = keep key value) :
    (table.mapValues change).part keep = (table.part keep).mapValues change := by
  apply eq_of_rows
  change _ = (table.part keep).rows.map fun row => (row.1, change row.1 row.2)
  rw [rows_part, rows_part, mapValues, List.filter_map]
  refine congrArg (List.map _) (List.filter_congr fun row _ => ?_)
  exact hkeep row.1 row.2

/-- Nothing is changed in a part of which no row is changed. -/
theorem mapValues_of_same (table : Table K V) {change : K → V → V}
    (hsame : ∀ row ∈ table.rows, change row.1 row.2 = row.2) : table.mapValues change = table := by
  apply eq_of_rows
  refine (List.map_congr_left fun row hrow => ?_).trans (List.map_id table.rows)
  exact Prod.ext rfl (hsame row hrow)

theorem part_deleteWhere (table : Table K V) (keep doomed : K → V → Bool) :
    (table.deleteWhere doomed).part keep = (table.part keep).deleteWhere doomed := by
  apply eq_of_rows
  change _ = (table.part keep).rows.filter fun row => !doomed row.1 row.2
  rw [rows_part, rows_part, deleteWhere, List.filter_filter, List.filter_filter]
  exact List.filter_congr fun row _ => Bool.and_comm _ _

theorem deleteWhere_of_none (table : Table K V) {doomed : K → V → Bool}
    (hnone : ∀ row ∈ table.rows, doomed row.1 row.2 = false) :
    table.deleteWhere doomed = table := by
  apply eq_of_rows
  refine List.filter_eq_self.mpr fun row hrow => ?_
  rw [hnone row hrow, Bool.not_false]

variable [DecidableEq K]

@[simp] theorem get?_part (table : Table K V) (keep : K → V → Bool) (key : K) :
    (table.part keep).get? key = (table.get? key).filter (keep key) := by
  simp only [part, get?_deleteWhere, Bool.not_not]

/-- A new row of the owner. -/
theorem part_set_of_kept {table : Table K V} {keep : K → V → Bool} {key : K}
    (hnew : table.get? key = none) {value : V} (hkept : keep key value = true) :
    (table.set key value).part keep = (table.part keep).set key value := by
  have hpart : (table.part keep).get? key = none := by
    rw [get?_part, hnew, Option.filter_none]
  apply eq_of_rows
  rw [rows_part, rows_set_of_new hnew, rows_set_of_new hpart, rows_part, List.filter_append,
    List.filter_singleton]
  simp [hkept]

/-- A new row of another owner. -/
theorem part_set_of_dropped {table : Table K V} {keep : K → V → Bool} {key : K}
    (hnew : table.get? key = none) {value : V} (hdropped : keep key value = false) :
    (table.set key value).part keep = table.part keep := by
  apply eq_of_rows
  rw [rows_part, rows_set_of_new hnew, rows_part, List.filter_append, List.filter_singleton]
  simp [hdropped]

end Relational.Table
