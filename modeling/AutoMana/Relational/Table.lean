import Mathlib.Data.List.Dedup
import Mathlib.Data.List.MinMax
import Mathlib.Data.List.Nodup

/-!
# Keyed tables

A table with a primary key is a list of rows in physical order together with
the proof that no key occurs twice. Every operation of this file keeps that
proof, and each is characterized by what it does to `get?`, so that clients
reason about lookups and never about the physical order.
-/

namespace Relational

/-- A table with a primary key. -/
structure Table (K V : Type) where
  rows : List (K × V)
  nodup_keys : (rows.map Prod.fst).Nodup

namespace Table

variable {K V W α : Type}

/-- A row is among those of a selection when its key is. -/
theorem key_mem_selected_iff (table : Table K V) {selected : List (K × V)}
    (hselected : selected ⊆ table.rows) {row : K × V} (hrow : row ∈ table.rows) :
    row.1 ∈ selected.map Prod.fst ↔ row ∈ selected := by
  constructor
  · intro hkey
    obtain ⟨other, hother, hsame⟩ := List.mem_map.mp hkey
    obtain rfl := List.inj_on_of_nodup_map table.nodup_keys (hselected hother) hrow hsame
    exact hother
  · exact List.mem_map_of_mem

variable [DecidableEq K]

/-- Under a unique column, the first row of a value is the row of the value. -/
theorem find?_unique_iff {column : α → K} {rows : List α} (hnodup : (rows.map column).Nodup)
    (value : K) (row : α) :
    rows.find? (fun other => column other = value) = some row ↔
      row ∈ rows ∧ column row = value := by
  constructor
  · intro hfound
    exact ⟨List.mem_of_find?_eq_some hfound, by simpa using List.find?_some hfound⟩
  · rintro ⟨hrow, rfl⟩
    cases hfound : rows.find? (fun other => column other = column row) with
    | none =>
      rw [List.find?_eq_none] at hfound
      exact absurd (decide_eq_true rfl) (hfound row hrow)
    | some found =>
      have hcolumn : column found = column row := by simpa using List.find?_some hfound
      have hmem := List.mem_of_find?_eq_some hfound
      rw [List.inj_on_of_nodup_map hnodup hmem hrow hcolumn]

def empty : Table K V := ⟨[], List.nodup_nil⟩

def single (key : K) (value : V) : Table K V := ⟨[(key, value)], List.nodup_singleton _⟩

/-- The row stored under a key. -/
def get? (table : Table K V) (key : K) : Option V := table.rows.lookup key

@[simp] theorem get?_empty (key : K) : (empty : Table K V).get? key = none := rfl

@[simp] theorem get?_single (stored key : K) (value : V) :
    (single stored value).get? key = if key = stored then some value else none := by
  rw [single, get?, List.lookup_cons, List.lookup_nil, beq_eq_decide]
  by_cases heq : key = stored <;> simp [heq]

theorem lookup_eq_some_iff_mem {rows : List (K × V)} (hnodup : (rows.map Prod.fst).Nodup)
    (key : K) (value : V) : rows.lookup key = some value ↔ (key, value) ∈ rows := by
  induction rows with
  | nil => simp
  | cons row rest ih =>
      obtain ⟨rowKey, rowValue⟩ := row
      rw [List.map_cons, List.nodup_cons] at hnodup
      by_cases heq : key = rowKey
      · subst heq
        have hrest : (key, value) ∉ rest :=
          fun hmem => hnodup.1 (List.mem_map.mpr ⟨_, hmem, rfl⟩)
        simp [hrest, eq_comm]
      · have hne : (key == rowKey) = false := by simpa using heq
        simp [List.lookup_cons, hne, ih hnodup.2, heq]

theorem lookup_eq_none_of_notMem {rows : List (K × V)} {key : K}
    (hkey : key ∉ rows.map Prod.fst) : rows.lookup key = none := by
  rw [List.lookup_eq_none_iff]
  intro row hrow
  have hne : key ≠ row.1 := fun hsame => hkey (hsame ▸ List.mem_map_of_mem hrow)
  simpa using hne

/-- Changes of one key each, no key twice, leave under a key what its own change leaves. -/
theorem read_foldl_of_nodup {σ ρ : Type} {step : σ → K × V → σ} (read : σ → K → ρ)
    (write : K → V → ρ → ρ)
    (hstep : ∀ state entry key, read (step state entry) key =
      if key = entry.1 then write key entry.2 (read state key) else read state key)
    {entries : List (K × V)} (hnodup : (entries.map Prod.fst).Nodup) (state : σ) (key : K) :
    read (entries.foldl step state) key =
      (entries.lookup key).elim (read state key) (write key · (read state key)) := by
  induction entries generalizing state with
  | nil => rfl
  | cons entry rest ih =>
    obtain ⟨stored, value⟩ := entry
    rw [List.map_cons, List.nodup_cons] at hnodup
    obtain ⟨hfirst, hrest⟩ := hnodup
    rw [List.foldl_cons, ih hrest, hstep, List.lookup_cons]
    by_cases hkey : key = stored
    · subst hkey
      -- no later change is of this key
      have hnone := lookup_eq_none_of_notMem hfirst
      simp [hnone]
    · have hne : (key == stored) = false := by simpa using hkey
      simp [hne, hkey]

/-- A row is stored exactly when its key looks it up. -/
theorem mem_rows_iff (table : Table K V) (key : K) (value : V) :
    (key, value) ∈ table.rows ↔ table.get? key = some value :=
  (lookup_eq_some_iff_mem table.nodup_keys key value).symm

theorem mem_keys_iff (table : Table K V) (key : K) :
    key ∈ table.rows.map Prod.fst ↔ (table.get? key).isSome := by
  rw [Option.isSome_iff_exists]
  constructor
  · intro hmem
    obtain ⟨⟨_, value⟩, hrow, rfl⟩ := List.mem_map.mp hmem
    exact ⟨value, (table.mem_rows_iff _ _).mp hrow⟩
  · rintro ⟨value, hget⟩
    exact List.mem_map_of_mem (f := Prod.fst) ((table.mem_rows_iff _ _).mpr hget)

/-- A key that is new is no key of a row. -/
theorem ne_of_new {table : Table K V} {key new : K} {value : V} (hnew : table.get? new = none)
    (hstored : table.get? key = some value) : key ≠ new := by
  rintro rfl
  rw [hnew] at hstored
  cases hstored

/-- Under a unique column one key has each value. -/
theorem key_unique {table : Table K V} (hvalues : (table.rows.map Prod.snd).Nodup) {key other : K}
    {value : V} (hkey : table.get? key = some value) (hother : table.get? other = some value) :
    key = other := by
  rw [← mem_rows_iff] at hkey hother
  exact congrArg Prod.fst (List.inj_on_of_nodup_map hvalues hkey hother rfl)

/-- Two descriptions of a lookup agree when they are `some` of the same rows. -/
theorem get?_eq_of_mem_iff {table : Table K V} {key : K} {expected : Option V}
    (hmem : ∀ value, (key, value) ∈ table.rows ↔ expected = some value) :
    table.get? key = expected := by
  apply Option.ext
  intro value
  rw [← mem_rows_iff, hmem]

/-- A key has one row, or none. -/
theorem count_key (table : Table K V) (key : K) :
    (table.rows.map Prod.fst).count key = if (table.get? key).isSome then 1 else 0 := by
  rw [List.Nodup.count table.nodup_keys]
  simp only [mem_keys_iff]

/-- So many rows have one of some stored keys. -/
theorem length_filter_keys (table : Table K V) {keys : List K}
    (hstored : ∀ key ∈ keys, (table.get? key).isSome) :
    (table.rows.filter (·.1 ∈ keys)).length = keys.dedup.length := by
  have hperm : ((table.rows.filter (·.1 ∈ keys)).map Prod.fst).Perm keys.dedup := by
    rw [List.perm_ext_iff_of_nodup
      (table.nodup_keys.sublist (List.filter_sublist.map Prod.fst)) (List.nodup_dedup keys)]
    intro key
    simp only [List.mem_map, List.mem_filter, decide_eq_true_eq, List.mem_dedup]
    constructor
    · rintro ⟨row, ⟨-, hkey⟩, rfl⟩
      exact hkey
    · intro hkey
      obtain ⟨row, hrow, rfl⟩ := List.mem_map.mp ((table.mem_keys_iff key).mpr (hstored key hkey))
      exact ⟨row, ⟨hrow, hkey⟩, rfl⟩
  rw [← hperm.length_eq, List.length_map]

/-- `DELETE FROM table WHERE doomed`. -/
def deleteWhere (table : Table K V) (doomed : K → V → Bool) : Table K V where
  rows := table.rows.filter (fun row => !doomed row.1 row.2)
  nodup_keys := table.nodup_keys.sublist (List.filter_sublist.map Prod.fst)

@[simp] theorem get?_deleteWhere (table : Table K V) (doomed : K → V → Bool) (key : K) :
    (table.deleteWhere doomed).get? key =
      (table.get? key).filter (fun value => !doomed key value) := by
  apply get?_eq_of_mem_iff
  intro value
  rw [Option.filter_eq_some_iff, ← mem_rows_iff]
  simp [deleteWhere]

/-- Deleting the rows of a selection by their keys leaves the other rows. -/
theorem rows_deleteWhere_keys (table : Table K V) (selected : K × V → Bool) :
    (table.deleteWhere fun key _ => key ∈ (table.rows.filter selected).map Prod.fst).rows =
      table.rows.filter (!selected ·) := by
  apply List.filter_congr
  intro row hrow
  have hkey := table.key_mem_selected_iff (List.filter_subset_self (p := selected) _) hrow
  simp only [hkey, List.mem_filter, hrow, true_and, Bool.decide_eq_true]

theorem get?_deleteWhere_keys (table : Table K V) {selected : List (K × V)}
    (hselected : selected ⊆ table.rows) {key : K} {value : V} :
    (table.deleteWhere fun key _ => key ∈ selected.map Prod.fst).get? key = some value ↔
      table.get? key = some value ∧ (key, value) ∉ selected := by
  rw [get?_deleteWhere, Option.filter_eq_some_iff, Bool.not_eq_true', decide_eq_false_iff_not]
  apply and_congr_right
  intro hget
  exact not_congr (table.key_mem_selected_iff hselected ((mem_rows_iff _ _ _).mpr hget))

/-- `SELECT key, change value FROM table`, a row being left out when the change
gives `none`. -/
def filterMapValues (table : Table K V) (change : K → V → Option W) : Table K W where
  rows := table.rows.filterMap fun row => (change row.1 row.2).map (row.1, ·)
  nodup_keys := by
    have hsublist : ((table.rows.filterMap fun row =>
        (change row.1 row.2).map (row.1, ·)).map Prod.fst).Sublist (table.rows.map Prod.fst) := by
      induction table.rows with
      | nil => exact .slnil
      | cons row rest ih =>
          cases hchange : change row.1 row.2 with
          | none => simpa [hchange] using ih.cons row.1
          | some value => simpa [hchange] using ih.cons_cons row.1
    exact table.nodup_keys.sublist hsublist

@[simp] theorem get?_filterMapValues (table : Table K V) (change : K → V → Option W) (key : K) :
    (table.filterMapValues change).get? key = (table.get? key).bind (change key) := by
  apply get?_eq_of_mem_iff
  intro value
  simp only [filterMapValues, List.mem_filterMap, Option.map_eq_some_iff, Option.bind_eq_some_iff,
    Prod.exists, Prod.mk.injEq, mem_rows_iff]
  constructor
  · intro hmem
    obtain ⟨_, old, hget, _, hchange, rfl, rfl⟩ := hmem
    exact ⟨old, hget, hchange⟩
  · intro hmem
    obtain ⟨old, hget, hchange⟩ := hmem
    exact ⟨key, old, hget, value, hchange, rfl, rfl⟩

/-- `UPDATE table SET value = change value`, the `WHERE` being part of `change`. -/
def mapValues (table : Table K V) (change : K → V → W) : Table K W where
  rows := table.rows.map (fun row => (row.1, change row.1 row.2))
  nodup_keys := by simpa [Function.comp_def] using table.nodup_keys

@[simp] theorem get?_mapValues (table : Table K V) (change : K → V → W) (key : K) :
    (table.mapValues change).get? key = (table.get? key).map (change key) := by
  apply get?_eq_of_mem_iff
  intro value
  simp only [mapValues, List.mem_map, Option.map_eq_some_iff, Prod.exists, Prod.mk.injEq,
    mem_rows_iff]
  constructor
  · rintro ⟨_, old, hget, rfl, rfl⟩
    exact ⟨old, hget, rfl⟩
  · rintro ⟨old, hget, rfl⟩
    exact ⟨key, old, hget, rfl, rfl⟩

/-- What an `INSERT ... ON CONFLICT DO UPDATE` leaves under one key: the
stored row, the excluded row, or their reconciliation. -/
def reconcile (onConflict : V → V → V) : Option V → Option V → Option V
  | stored, none => stored
  | none, some excluded => some excluded
  | some stored, some excluded => some (onConflict stored excluded)

/-- `INSERT INTO table SELECT excluded ON CONFLICT (key) DO UPDATE`. The
excluded rows have distinct keys, as the statement demands of them. -/
def upsert (table excluded : Table K V) (onConflict : V → V → V) : Table K V where
  rows := (table.mapValues (fun key stored =>
      (excluded.get? key).elim stored (onConflict stored))).rows ++
    (excluded.deleteWhere (fun key _ => (table.get? key).isSome)).rows
  nodup_keys := by
    rw [List.map_append]
    apply List.Nodup.append (mapValues table _).nodup_keys (deleteWhere excluded _).nodup_keys
    -- what is inserted has no stored row
    intro key hstored hnew
    rw [mem_keys_iff] at hstored hnew
    cases hget : table.get? key <;> simp [hget] at hstored hnew

@[simp] theorem get?_upsert (table excluded : Table K V) (onConflict : V → V → V) (key : K) :
    (table.upsert excluded onConflict).get? key =
      reconcile onConflict (table.get? key) (excluded.get? key) := by
  apply get?_eq_of_mem_iff
  intro value
  simp only [upsert, List.mem_append, mem_rows_iff, get?_mapValues, get?_deleteWhere]
  cases table.get? key <;> cases excluded.get? key <;> simp [reconcile]

/-- The rows that stay, one of them perhaps updated in its place, and a new one behind them. -/
theorem rows_upsert_single (table : Table K V) (key : K) (value : V) (onConflict : V → V → V) :
    (table.upsert (single key value) onConflict).rows =
      (table.rows.map fun row =>
        (row.1, if row.1 = key then onConflict row.2 value else row.2)) ++
        if (table.get? key).isSome then [] else [(key, value)] := by
  have hkept : (table.mapValues fun stored old =>
      ((single key value).get? stored).elim old (onConflict old)).rows =
        table.rows.map fun row =>
          (row.1, if row.1 = key then onConflict row.2 value else row.2) := by
    rw [mapValues]
    apply List.map_congr_left
    intro row _
    rw [get?_single]
    by_cases hkey : row.1 = key <;> simp [hkey]
  have hnew : ((single key value).deleteWhere fun key _ => (table.get? key).isSome).rows =
      if (table.get? key).isSome then [] else [(key, value)] := by
    simp only [deleteWhere, single, List.filter_cons, List.filter_nil]
    cases (table.get? key).isSome <;> rfl
  exact congrArg₂ (· ++ ·) hkept hnew

/-- An unconditional `DO UPDATE` prefers the excluded row. -/
@[simp] theorem reconcile_excluded (stored excluded : Option V) :
    reconcile (fun _ new => new) stored excluded = excluded.or stored := by
  cases stored <;> cases excluded <;> rfl

/-- `DO NOTHING` prefers the stored row. -/
@[simp] theorem reconcile_stored (stored excluded : Option V) :
    reconcile (fun old _ => old) stored excluded = stored.or excluded := by
  cases stored <;> cases excluded <;> rfl

/-- A key has a row after an upsert when it had one before or is one of those excluded. -/
theorem isSome_reconcile (onConflict : V → V → V) (stored excluded : Option V) :
    (reconcile onConflict stored excluded).isSome = (stored.isSome || excluded.isSome) := by
  cases stored <;> cases excluded <;> rfl

/-- `SELECT key, aggregate FROM rows GROUP BY key`, a group being left out
when the aggregate of its rows is `none`. -/
def groupBy (keyOf : α → K) (aggregate : List α → Option V) (rows : List α) : Table K V where
  rows := (rows.map keyOf).dedup.filterMap fun key =>
    (aggregate (rows.filter (keyOf · = key))).map (key, ·)
  nodup_keys := by
    rw [List.map_filterMap]
    refine List.Nodup.filterMap ?_ (List.nodup_dedup _)
    -- a group's row is stored under the group's own key
    intro left right key hleft hright
    simp only [Option.map_map, Option.mem_def, Option.map_eq_some_iff] at hleft hright
    obtain ⟨_, _, rfl⟩ := hleft
    obtain ⟨_, _, hright⟩ := hright
    exact hright.symm

theorem get?_groupBy (keyOf : α → K) (aggregate : List α → Option V)
    (hempty : aggregate [] = none) (rows : List α) (key : K) :
    (groupBy keyOf aggregate rows).get? key = aggregate (rows.filter (keyOf · = key)) := by
  apply get?_eq_of_mem_iff
  intro value
  simp only [groupBy, List.mem_filterMap, List.mem_dedup, Option.map_eq_some_iff, Prod.mk.injEq]
  constructor
  · rintro ⟨_, _, _, hagg, rfl, rfl⟩
    exact hagg
  · intro hagg
    refine ⟨key, ?_, value, hagg, rfl, rfl⟩
    by_contra habsent
    have hnone : rows.filter (keyOf · = key) = [] := by
      rw [List.filter_eq_nil_iff]
      intro row hrow heq
      exact habsent (List.mem_map.mpr ⟨row, hrow, by simpa using heq⟩)
    rw [hnone, hempty] at hagg
    cases hagg

/-- Grouping rows of which a group is kept whole or not at all. -/
theorem get?_groupBy_filter {keyOf : α → K} {aggregate : List α → Option V}
    (hempty : aggregate [] = none) (rows : List α) {keep : α → Bool} {key : K} {kept : Prop}
    [Decidable kept] (hkeep : ∀ row, keyOf row = key → (keep row = true ↔ kept)) :
    (groupBy keyOf aggregate (rows.filter keep)).get? key =
      if kept then aggregate (rows.filter (keyOf · = key)) else none := by
  rw [get?_groupBy keyOf aggregate hempty, List.filter_filter]
  split_ifs with hkept
  · congr 1
    apply List.filter_congr
    intro row _
    by_cases hrow : keyOf row = key
    · simp [hrow, (hkeep row hrow).mpr hkept]
    · simp [hrow]
  · rw [List.filter_eq_nil_iff.mpr, hempty]
    intro row _ hrow
    simp only [Bool.and_eq_true, decide_eq_true_eq] at hrow
    exact hkept ((hkeep row hrow.1).mp hrow.2)

/-- `INSERT INTO table SELECT rows ON CONFLICT (key) DO NOTHING`, the rows in the order in
which they reach the table. -/
def insertMissing (table : Table K V) (rows : List (K × V)) : Table K V :=
  table.upsert (groupBy Prod.fst (fun group => group.head?.map Prod.snd) rows) fun old _ => old

theorem get?_insertMissing (table : Table K V) (rows : List (K × V)) (key : K) :
    (table.insertMissing rows).get? key =
      (table.get? key).or ((rows.filter (Prod.fst · = key)).head?.map Prod.snd) := by
  rw [insertMissing, get?_upsert, reconcile_stored, get?_groupBy _ _ rfl]

/-- Rows that bring at most one value for the key. -/
theorem get?_insertMissing_of_mem_iff {rows : List (K × V)} {key : K} {brought : Option V}
    (hmem : ∀ value, (key, value) ∈ rows ↔ brought = some value) (table : Table K V) :
    (table.insertMissing rows).get? key = (table.get? key).or brought := by
  rw [get?_insertMissing]
  congr 1
  cases hhead : (rows.filter (Prod.fst · = key)).head? with
  | none =>
    cases brought with
    | none => rfl
    | some value =>
      have hrow := (hmem value).mpr rfl
      rw [List.head?_eq_none_iff, List.filter_eq_nil_iff] at hhead
      exact absurd (decide_eq_true rfl) (hhead _ hrow)
  | some row =>
    obtain ⟨hrow, hkey⟩ := List.mem_filter.mp (List.mem_of_mem_head? hhead)
    rw [Option.map_some]
    exact ((hmem row.2).mp (of_decide_eq_true hkey ▸ hrow)).symm

theorem get?_insertMissing_of_stored {table : Table K V} {key : K} {value : V}
    (hstored : table.get? key = some value) (rows : List (K × V)) :
    (table.insertMissing rows).get? key = some value := by
  rw [get?_insertMissing, hstored, Option.some_or]

theorem get?_insertMissing_of_notMem {rows : List (K × V)} {key : K}
    (hnew : ∀ value, (key, value) ∉ rows) (table : Table K V) :
    (table.insertMissing rows).get? key = table.get? key := by
  have hnone : rows.filter (Prod.fst · = key) = [] := by
    rw [List.filter_eq_nil_iff]
    intro row hrow hkey
    exact hnew row.2 (by rwa [← of_decide_eq_true hkey])
  rw [get?_insertMissing, hnone, List.head?_nil, Option.map_none, Option.or_none]

/-- The rows of before stay, and the new ones are behind them. -/
theorem rows_insertMissing (table : Table K V) (rows : List (K × V)) :
    (table.insertMissing rows).rows = table.rows ++
      ((groupBy Prod.fst (fun group => group.head?.map Prod.snd) rows).deleteWhere
        fun key _ => (table.get? key).isSome).rows := by
  have hkept : (table.mapValues fun stored old =>
      ((groupBy Prod.fst (fun group => group.head?.map Prod.snd) rows).get? stored).elim
        old fun _ => old).rows = table.rows := by
    rw [mapValues]
    conv_rhs => rw [← List.map_id table.rows]
    apply List.map_congr_left
    intro row _
    cases (groupBy Prod.fst (fun group => group.head?.map Prod.snd) rows).get? row.1 <;> rfl
  exact congrArg (· ++ _) hkept

theorem exists_rows_insertMissing (table : Table K V) (rows : List (K × V)) :
    ∃ added, (table.insertMissing rows).rows = table.rows ++ added ∧ added ⊆ rows := by
  refine ⟨_, rows_insertMissing table rows, ?_⟩
  intro row hrow
  have hget := (mem_rows_iff _ row.1 row.2).mp hrow
  rw [get?_deleteWhere, Option.filter_eq_some_iff, get?_groupBy _ _ rfl] at hget
  obtain ⟨first, hfirst, hvalue⟩ := Option.map_eq_some_iff.mp hget.1
  obtain ⟨hmem, hkey⟩ := List.mem_filter.mp (List.mem_of_mem_head? hfirst)
  rwa [← Prod.ext (of_decide_eq_true hkey) hvalue]

/-- One row is added behind the others, or nothing when its key is taken. -/
theorem rows_insertMissing_single (table : Table K V) (key : K) (value : V) :
    (table.insertMissing [(key, value)]).rows =
      table.rows ++ if (table.get? key).isSome then [] else [(key, value)] := by
  have hgroup : (groupBy Prod.fst (fun group => group.head?.map Prod.snd) [(key, value)]).rows =
      [(key, value)] := by
    simp [groupBy]
  rw [rows_insertMissing]
  congr 1
  simp only [deleteWhere, hgroup]
  cases hkey : table.get? key <;> simp [hkey]

theorem insertMissing_of_stored {table : Table K V} {key : K} (hstored : (table.get? key).isSome)
    (value : V) : table.insertMissing [(key, value)] = table := by
  have hrows : (table.insertMissing [(key, value)]).rows = table.rows := by
    rw [rows_insertMissing_single, if_pos hstored, List.append_nil]
  cases table
  simp only [insertMissing, upsert, mk.injEq]
  exact hrows

/-- A row of the table after the insert was stored before it or is one of the rows. -/
theorem stored_or_mem_of_insertMissing {table : Table K V} {rows : List (K × V)} {key : K}
    {value : V} (hget : (table.insertMissing rows).get? key = some value) :
    table.get? key = some value ∨ (key, value) ∈ rows := by
  rw [get?_insertMissing, Option.or_eq_some_iff] at hget
  rcases hget with hstored | ⟨-, hhead⟩
  · exact Or.inl hstored
  · obtain ⟨row, hrow, rfl⟩ := Option.map_eq_some_iff.mp hhead
    have hmem := List.mem_filter.mp (List.mem_of_mem_head? hrow)
    refine Or.inr ?_
    rw [← of_decide_eq_true hmem.2]
    exact hmem.1

/-- Every key inserted has a row after the insert. -/
theorem exists_get?_insertMissing (table : Table K V) {rows : List (K × V)} {key : K} {value : V}
    (hrow : (key, value) ∈ rows) :
    ∃ kept, (table.insertMissing rows).get? key = some kept := by
  rw [get?_insertMissing]
  cases hstored : table.get? key with
  | some stored => exact ⟨stored, rfl⟩
  | none =>
    have hmem : (key, value) ∈ rows.filter (Prod.fst · = key) :=
      List.mem_filter.mpr ⟨hrow, decide_eq_true rfl⟩
    cases hfilter : rows.filter (Prod.fst · = key) with
    | nil => simp [hfilter] at hmem
    | cons first rest => exact ⟨first.2, rfl⟩

end Table

end Relational
