import AutoMana.Relational.Table
import Mathlib.Data.List.MinMax

/-!
# Tables with a serial key

A serial key is drawn from a counter that never goes back, so a deleted key is
not drawn again.
-/

namespace Relational

/-- A table whose key is drawn from a sequence. -/
structure SerialTable (V : Type) where
  table : Table Nat V
  nextId : Nat
  lt_nextId : ∀ id ∈ table.rows.map Prod.fst, id < nextId

namespace SerialTable

variable {V : Type}

def empty : SerialTable V := ⟨.empty, 1, by simp [Table.empty]⟩

/-- The rows of an insert, under the keys they draw. -/
def drawn (nextId : Nat) : List V → List (Nat × V)
  | [] => []
  | value :: rest => (nextId, value) :: drawn (nextId + 1) rest

theorem map_snd_drawn (nextId : Nat) (values : List V) :
    (drawn nextId values).map Prod.snd = values := by
  induction values generalizing nextId with
  | nil => rfl
  | cons value rest ih => rw [drawn, List.map_cons, ih]

theorem map_fst_drawn (nextId : Nat) (values : List V) :
    (drawn nextId values).map Prod.fst = List.range' nextId values.length := by
  induction values generalizing nextId with
  | nil => rfl
  | cons value rest ih => rw [drawn, List.map_cons, ih, List.length_cons, List.range'_succ]

/-- `INSERT INTO table SELECT values`. -/
def insert (serial : SerialTable V) (values : List V) : SerialTable V where
  table := {
    rows := serial.table.rows ++ drawn serial.nextId values
    nodup_keys := by
      rw [List.map_append, map_fst_drawn]
      apply List.Nodup.append serial.table.nodup_keys List.nodup_range'
      -- stored keys are below the counter, drawn ones are not
      intro id hstored hdrawn
      have hlt := serial.lt_nextId id hstored
      have hle := (List.mem_range'_1.mp hdrawn).1
      omega }
  nextId := serial.nextId + values.length
  lt_nextId := by
    intro id hid
    rw [List.map_append, map_fst_drawn, List.mem_append, List.mem_range'_1] at hid
    rcases hid with hstored | hdrawn
    · exact (serial.lt_nextId id hstored).trans_le (Nat.le_add_right _ _)
    · exact hdrawn.2

@[simp] theorem get?_insert (serial : SerialTable V) (value : V) (id : Nat) :
    (serial.insert [value]).table.get? id =
      if id = serial.nextId then some value else serial.table.get? id := by
  apply Table.get?_eq_of_mem_iff
  intro stored
  simp only [insert, drawn, List.mem_append, List.mem_singleton, Prod.mk.injEq,
    Table.mem_rows_iff]
  split_ifs with heq
  · -- the drawn key is above every stored one
    have habsent : serial.table.get? id = none := by
      by_contra hstored
      have hlt := serial.lt_nextId id
        ((Table.mem_keys_iff _ _).mpr (Option.isSome_iff_ne_none.mpr hstored))
      omega
    rw [habsent]
    simp [heq, eq_comm]
  · simp [heq]

def deleteWhere (serial : SerialTable V) (doomed : Nat → V → Bool) : SerialTable V where
  table := serial.table.deleteWhere doomed
  nextId := serial.nextId
  lt_nextId := fun id hid =>
    serial.lt_nextId id ((List.filter_sublist.map Prod.fst).subset hid)

/-- `UPDATE table SET value = change value`. -/
def mapValues (serial : SerialTable V) (change : Nat → V → V) : SerialTable V where
  table := serial.table.mapValues change
  nextId := serial.nextId
  lt_nextId := by
    intro id hid
    apply serial.lt_nextId id
    simpa [Table.mapValues, Function.comp_def] using hid

@[simp] theorem get?_mapValues (serial : SerialTable V) (change : Nat → V → V) (id : Nat) :
    (serial.mapValues change).table.get? id = (serial.table.get? id).map (change id) :=
  Table.get?_mapValues serial.table change id

def values (serial : SerialTable V) : List V := serial.table.rows.map Prod.snd

@[simp] theorem values_empty : (empty : SerialTable V).values = [] := rfl

@[simp] theorem values_insert (serial : SerialTable V) (values : List V) :
    (serial.insert values).values = serial.values ++ values := by
  rw [SerialTable.values, insert, List.map_append, map_snd_drawn]
  rfl

theorem mem_values_iff (serial : SerialTable V) (value : V) :
    value ∈ serial.values ↔ ∃ id, serial.table.get? id = some value := by
  simp only [values, List.mem_map, Prod.exists, exists_eq_right, Table.mem_rows_iff]

/-- `SELECT * FROM table WHERE selected ORDER BY column DESC LIMIT 1`. -/
def newestWhere {D : Type} [LinearOrder D] (serial : SerialTable V) (selected : V → Bool)
    (column : V → D) : Option V :=
  (serial.values.filter selected).argmax column

section NewestWhere

variable {D : Type} [LinearOrder D] {serial : SerialTable V} {selected : V → Bool}
  {column : V → D}

theorem of_newestWhere {value : V} (hnewest : serial.newestWhere selected column = some value) :
    value ∈ serial.values ∧ selected value = true :=
  List.mem_filter.mp (List.argmax_mem hnewest)

theorem newestWhere_eq_none_iff :
    serial.newestWhere selected column = none ↔
      ∀ value ∈ serial.values, selected value = false := by
  rw [newestWhere, List.argmax_eq_none, List.filter_eq_nil_iff]
  simp only [Bool.not_eq_true]

end NewestWhere

end SerialTable

end Relational
