import AutoMana.Relational.LeftJoin
import Mathlib.Data.List.Forall2

/-!
# Joining rows with a table

A join pairs each row with the rows of a table that have its key, and an outer join keeps the rows
that have none. Over a table with a primary key no row is multiplied, and where each key is stored
none is dropped. A key that is `NULL` joins nothing. Columns that are merged on a key make a row of
every choice of one entry from each.
-/

namespace Relational

variable {α β K V : Type} [DecidableEq K]

/-- `rows JOIN table ON key` -/
def innerJoin (key : α → Option K) (combine : α → V → β) (rows : List α) (table : List (K × V)) :
    List β :=
  rows.flatMap fun row =>
    (table.filter fun entry => decide (key row = some entry.1)).map fun entry =>
      combine row entry.2

/-- `rows LEFT JOIN table ON key` -/
def outerJoin (key : α → Option K) (combine : α → Option V → β) (rows : List α)
    (table : List (K × V)) : List β :=
  rows.flatMap fun row =>
    match table.filter fun entry => decide (key row = some entry.1) with
    | [] => [combine row none]
    | matched => matched.map fun entry => combine row (some entry.2)

variable {key : α → Option K} {rows : List α} {table : Table K V}

/-- The entries of a row's key are the one that is found under it. -/
theorem filter_joined (key : Option K) (table : Table K V) :
    (table.rows.filter fun entry => decide (key = some entry.1)).map Prod.snd =
      (key.bind table.get?).toList := by
  cases key with
  | none => simp
  | some key =>
    have hsame : (table.rows.filter fun entry => decide (some key = some entry.1)) =
        table.rows.filter (·.1 = key) :=
      List.filter_congr fun entry _ => by simp [eq_comm]
    rw [hsame, Table.filter_key, Option.bind_some]
    cases table.get? key <;> rfl

/-- A join with a table finds at most one entry for each row. -/
theorem innerJoin_rows (combine : α → V → β) :
    innerJoin key combine rows table.rows =
      rows.filterMap fun row => ((key row).bind table.get?).map (combine row) := by
  rw [innerJoin, List.filterMap_eq_flatMap_toList]
  apply List.flatMap_congr
  intro row _
  have hfound := congrArg (List.map (combine row)) (filter_joined (key row) table)
  rw [List.map_map] at hfound
  refine hfound.trans ?_
  cases (key row).bind table.get? <;> rfl

/-- An outer join with a table keeps each row once. -/
theorem outerJoin_rows (combine : α → Option V → β) :
    outerJoin key combine rows table.rows =
      rows.map fun row => combine row ((key row).bind table.get?) := by
  rw [outerJoin, ← List.flatMap_singleton' (rows.map _), List.flatMap_map]
  apply List.flatMap_congr
  intro row _
  have hfound := filter_joined (key row) table
  cases hget : (key row).bind table.get? with
  | none =>
    rw [hget, Option.toList_none, List.map_eq_nil_iff] at hfound
    rw [hfound]
  | some value =>
    rw [hget, Option.toList_some, List.map_eq_singleton_iff] at hfound
    obtain ⟨entry, hfilter, rfl⟩ := hfound
    rw [hfilter]
    rfl

/-! ## Merging columns -/

/-- `rows.merge(column, how="outer")`: every row is paired with the entries of its key, and a key
that only one side has is filled up with nulls. The rows are of a number of columns. -/
def outerMerge (width : Nat) (rows : List (K × List (Option V))) (column : List (K × Option V)) :
    List (K × List (Option V)) :=
  (rows.flatMap fun row =>
    match column.filter (·.1 = row.1) with
    | [] => [(row.1, row.2 ++ [none])]
    | matched => matched.map fun entry => (row.1, row.2 ++ [entry.2])) ++
  (column.filter (·.1 ∉ rows.map Prod.fst)).map fun entry =>
    (entry.1, List.replicate width none ++ [entry.2])

/-- One merge after another. -/
def mergeAll (columns : List (List (K × Option V))) : List (K × List (Option V)) :=
  columns.zipIdx.foldl (fun rows column => outerMerge column.2 rows column.1) []

/-- What a merged row has of a column: an entry of the key, or null when there is none. -/
def Takes (key : K) (column : List (K × Option V)) (value : Option V) : Prop :=
  (key, value) ∈ column ∨ value = none ∧ key ∉ column.map Prod.fst

theorem exists_takes (key : K) (column : List (K × Option V)) :
    ∃ value, Takes key column value := by
  by_cases hkey : key ∈ column.map Prod.fst
  · obtain ⟨entry, hentry, rfl⟩ := List.mem_map.mp hkey
    exact ⟨entry.2, Or.inl hentry⟩
  · exact ⟨none, Or.inr ⟨rfl, hkey⟩⟩

theorem exists_forall₂_takes (key : K) (columns : List (List (K × Option V))) :
    ∃ values, List.Forall₂ (Takes key) columns values := by
  induction columns with
  | nil => exact ⟨[], .nil⟩
  | cons column rest ih =>
    obtain ⟨value, hvalue⟩ := exists_takes key column
    obtain ⟨values, hvalues⟩ := ih
    exact ⟨value :: values, .cons hvalue hvalues⟩

omit [DecidableEq K] in
/-- Of a key that no column has all values are null. -/
theorem forall₂_takes_iff_of_notMem {key : K} {columns : List (List (K × Option V))}
    (hkey : ∀ column ∈ columns, key ∉ column.map Prod.fst) (values : List (Option V)) :
    List.Forall₂ (Takes key) columns values ↔ values = List.replicate columns.length none := by
  induction columns generalizing values with
  | nil => simp
  | cons column rest ih =>
    have hfirst : ∀ value, Takes key column value ↔ value = none := by
      intro value
      have hnot := hkey column List.mem_cons_self
      constructor
      · rintro (hmem | ⟨hnone, -⟩)
        · exact absurd (List.mem_map_of_mem hmem) hnot
        · exact hnone
      · exact fun hnone => Or.inr ⟨hnone, hnot⟩
    have hrest := ih fun column hmem => hkey column (List.mem_cons_of_mem _ hmem)
    cases values with
    | nil => simp
    | cons value values =>
      rw [List.forall₂_cons, hfirst, hrest, List.length_cons, List.replicate_succ, List.cons.injEq]

theorem forall₂_concat_iff {r : α → β → Prop} {items : List α} {item : α} {values : List β} :
    List.Forall₂ r (items ++ [item]) values ↔
      ∃ first last, values = first ++ [last] ∧ List.Forall₂ r items first ∧ r item last := by
  induction items generalizing values with
  | nil =>
    cases values with
    | nil => simp
    | cons value rest => cases rest <;> simp
  | cons head tail ih =>
    cases values with
    | nil => simp
    | cons value rest =>
      rw [List.cons_append, List.forall₂_cons, ih]
      constructor
      · rintro ⟨hhead, first, last, rfl, hfirst, hlast⟩
        exact ⟨value :: first, last, rfl, .cons hhead hfirst, hlast⟩
      · rintro ⟨first, last, hsplit, hfirst, hlast⟩
        cases hfirst with
        | cons hhead htail =>
          obtain ⟨rfl, rfl⟩ := List.cons.inj hsplit
          exact ⟨hhead, _, _, rfl, htail, hlast⟩

theorem mem_outerMerge {width : Nat} {rows : List (K × List (Option V))}
    {column : List (K × Option V)} {key : K} {values : List (Option V)} :
    (key, values) ∈ outerMerge width rows column ↔
      (∃ first value, values = first ++ [value] ∧ (key, first) ∈ rows ∧ Takes key column value) ∨
      key ∉ rows.map Prod.fst ∧ ∃ value, values = List.replicate width none ++ [value] ∧
        (key, value) ∈ column := by
  rw [outerMerge, List.mem_append, List.mem_flatMap, List.mem_map]
  refine or_congr ?_ ?_
  · constructor
    · rintro ⟨row, hrow, hpaired⟩
      split at hpaired
      · rename_i hnone
        obtain ⟨rfl, rfl⟩ := Prod.mk.inj (List.mem_singleton.mp hpaired)
        refine ⟨row.2, none, rfl, hrow, Or.inr ⟨rfl, fun hkey => ?_⟩⟩
        obtain ⟨entry, hentry, hsame⟩ := List.mem_map.mp hkey
        rw [List.filter_eq_nil_iff] at hnone
        exact hnone entry hentry (decide_eq_true hsame)
      · obtain ⟨entry, hentry, heq⟩ := List.mem_map.mp hpaired
        obtain ⟨rfl, rfl⟩ := Prod.mk.inj heq
        obtain ⟨hmem, hsame⟩ := List.mem_filter.mp hentry
        refine ⟨row.2, entry.2, rfl, hrow, Or.inl ?_⟩
        rw [← of_decide_eq_true hsame]
        exact hmem
    · rintro ⟨first, value, rfl, hrow, htakes⟩
      refine ⟨(key, first), hrow, ?_⟩
      rcases htakes with hmem | ⟨rfl, hkey⟩
      · have hmatched : (key, value) ∈ column.filter (·.1 = key) :=
          List.mem_filter.mpr ⟨hmem, decide_eq_true rfl⟩
        split
        · rename_i hnone
          rw [hnone] at hmatched
          cases hmatched
        · exact List.mem_map.mpr ⟨(key, value), hmatched, rfl⟩
      · have hnone : column.filter (·.1 = key) = [] := by
          rw [List.filter_eq_nil_iff]
          intro entry hentry hsame
          exact hkey (List.mem_map.mpr ⟨entry, hentry, of_decide_eq_true hsame⟩)
        rw [hnone]
        exact List.mem_singleton_self _
  · simp only [List.mem_filter, decide_eq_true_eq, Prod.mk.injEq]
    constructor
    · rintro ⟨entry, ⟨hmem, hnew⟩, rfl, rfl⟩
      exact ⟨hnew, entry.2, rfl, hmem⟩
    · rintro ⟨hnew, value, rfl, hmem⟩
      exact ⟨(key, value), ⟨hmem, hnew⟩, rfl, rfl⟩

/-- The keys of rows that have every choice of entries for the keys of a condition. -/
theorem mem_keys_of_choices {rows : List (K × List (Option V))}
    {columns : List (List (K × Option V))} {key : K} {condition : Prop}
    (hrows : ∀ values, (key, values) ∈ rows ↔
      condition ∧ List.Forall₂ (Takes key) columns values) :
    key ∈ rows.map Prod.fst ↔ condition := by
  constructor
  · intro hkey
    obtain ⟨row, hrow, rfl⟩ := List.mem_map.mp hkey
    exact ((hrows row.2).mp hrow).1
  · intro hcondition
    obtain ⟨values, hvalues⟩ := exists_forall₂_takes key columns
    exact List.mem_map.mpr ⟨(key, values), (hrows values).mpr ⟨hcondition, hvalues⟩, rfl⟩

/-- The merged rows: each key of a column has every choice of its entries, column by column. -/
theorem mem_mergeAll {columns : List (List (K × Option V))} {key : K} {values : List (Option V)} :
    (key, values) ∈ mergeAll columns ↔
      (∃ column ∈ columns, key ∈ column.map Prod.fst) ∧
        List.Forall₂ (Takes key) columns values := by
  induction columns using List.reverseRecOn generalizing values with
  | nil => simp [mergeAll]
  | append_singleton columns column ih =>
    have hkeys : key ∈ (mergeAll columns).map Prod.fst ↔
        ∃ column ∈ columns, key ∈ column.map Prod.fst := mem_keys_of_choices fun _ => ih
    have hstep : mergeAll (columns ++ [column]) =
        outerMerge columns.length (mergeAll columns) column := by
      simp [mergeAll, List.zipIdx_append]
    rw [hstep, mem_outerMerge, hkeys, forall₂_concat_iff]
    by_cases hexists : ∃ column ∈ columns, key ∈ column.map Prod.fst
    · have hsome : ∃ other ∈ columns ++ [column], key ∈ other.map Prod.fst := by
        obtain ⟨other, hother, hkey⟩ := hexists
        exact ⟨other, List.mem_append_left _ hother, hkey⟩
      simp only [hexists, hsome, not_true, false_and, or_false, true_and, ih]
    · have hnone : ∀ other ∈ columns, key ∉ other.map Prod.fst :=
        fun other hother hkey => hexists ⟨other, hother, hkey⟩
      have hsome : (∃ other ∈ columns ++ [column], key ∈ other.map Prod.fst) ↔
          key ∈ column.map Prod.fst := by
        constructor
        · rintro ⟨other, hother, hkey⟩
          rcases List.mem_append.mp hother with hold | hnew
          · exact absurd hkey (hnone other hold)
          · rwa [← List.mem_singleton.mp hnew]
        · exact fun hkey => ⟨column, List.mem_append_right _ (List.mem_singleton_self _), hkey⟩
      simp only [ih, hexists, false_and, and_false, exists_false, false_or, not_false_iff, true_and,
        hsome, forall₂_takes_iff_of_notMem hnone]
      constructor
      · rintro ⟨value, rfl, hmem⟩
        exact ⟨List.mem_map_of_mem hmem, _, value, rfl, rfl, Or.inl hmem⟩
      · rintro ⟨hkey, first, value, rfl, rfl, hmem | ⟨-, hnot⟩⟩
        · exact ⟨value, rfl, hmem⟩
        · exact absurd hkey hnot

theorem mem_keys_mergeAll {columns : List (List (K × Option V))} {key : K} :
    key ∈ (mergeAll columns).map Prod.fst ↔ ∃ column ∈ columns, key ∈ column.map Prod.fst :=
  mem_keys_of_choices fun _ => mem_mergeAll

end Relational
