import AutoMana.Relational.Table
import Mathlib.Data.Fintype.EquivFin

/-!
# Dictionaries

A table that is filled one assignment after another. An assignment replaces the value of a
key that is there, in its place, and puts a new key behind the others. So of several values
assigned to a key the last one stays, and the keys stand in the order of their first
assignments.
-/

namespace Relational.Table

variable {K V α : Type} [DecidableEq K]

/-- `table[key] = value` -/
def set (table : Table K V) (key : K) (value : V) : Table K V :=
  table.upsert (single key value) fun _ new => new

/-- One assignment after another. -/
def setAll (table : Table K V) (entries : List (K × V)) : Table K V :=
  entries.foldl (fun dict entry => dict.set entry.1 entry.2) table

/-- A dictionary comprehension. -/
def ofPairs (entries : List (K × V)) : Table K V := empty.setAll entries

@[simp] theorem get?_set (table : Table K V) (key : K) (value : V) (other : K) :
    (table.set key value).get? other = if other = key then some value else table.get? other := by
  rw [set, get?_upsert, reconcile_excluded, get?_single]
  split_ifs <;> rfl

/-- There is a key that no row has. -/
theorem exists_new [Infinite K] (table : Table K V) : ∃ key, table.get? key = none := by
  obtain ⟨key, hkey⟩ := Infinite.exists_notMem_finset (table.rows.map Prod.fst).toFinset
  refine ⟨key, Option.not_isSome_iff_eq_none.mp fun hstored => hkey ?_⟩
  exact List.mem_toFinset.mpr ((mem_keys_iff table key).mpr hstored)

/-- The rows that stay, updated in their places, and the new ones behind them. -/
theorem rows_set (table : Table K V) (key : K) (value : V) :
    (table.set key value).rows =
      (table.rows.map fun row => (row.1, if row.1 = key then value else row.2)) ++
        if (table.get? key).isSome then [] else [(key, value)] :=
  rows_upsert_single table key value fun _ new => new

theorem keys_set_of_stored {table : Table K V} {key : K} (hstored : (table.get? key).isSome)
    (value : V) : (table.set key value).rows.map Prod.fst = table.rows.map Prod.fst := by
  rw [rows_set, if_pos hstored, List.append_nil, List.map_map]
  rfl

theorem rows_set_of_new {table : Table K V} {key : K} (hnew : table.get? key = none) (value : V) :
    (table.set key value).rows = table.rows ++ [(key, value)] := by
  rw [rows_set, hnew]
  congr 1
  conv_rhs => rw [← List.map_id table.rows]
  apply List.map_congr_left
  intro row hrow
  have hne : row.1 ≠ key := by
    rintro rfl
    rw [(mem_rows_iff table row.1 row.2).mp hrow] at hnew
    cases hnew
  rw [if_neg hne]
  rfl

/-- New keys are put behind the others. -/
theorem rows_setAll {table : Table K V} {entries : List (K × V)}
    (hnodup : (entries.map Prod.fst).Nodup)
    (hnew : ∀ entry ∈ entries, table.get? entry.1 = none) :
    (table.setAll entries).rows = table.rows ++ entries := by
  induction entries generalizing table with
  | nil => exact (List.append_nil table.rows).symm
  | cons entry rest ih =>
    rw [List.map_cons, List.nodup_cons] at hnodup
    obtain ⟨hfirst, hrest⟩ := hnodup
    have hstored := hnew entry List.mem_cons_self
    have hothers : ∀ other ∈ rest, (table.set entry.1 entry.2).get? other.1 = none := by
      intro other hother
      have hne : other.1 ≠ entry.1 := fun hsame => hfirst (hsame ▸ List.mem_map_of_mem hother)
      rw [get?_set, if_neg hne]
      exact hnew other (List.mem_cons_of_mem _ hother)
    rw [setAll, List.foldl_cons, ← setAll, ih hrest hothers, rows_set_of_new hstored,
      List.append_assoc, List.singleton_append]

theorem rows_ofPairs {entries : List (K × V)} (hnodup : (entries.map Prod.fst).Nodup) :
    (ofPairs entries).rows = entries :=
  rows_setAll hnodup fun _ _ => rfl

/-- The last value assigned stays. -/
theorem get?_setAll (table : Table K V) (entries : List (K × V)) (key : K) :
    (table.setAll entries).get? key = (entries.reverse.lookup key).or (table.get? key) := by
  induction entries generalizing table with
  | nil => rfl
  | cons entry rest ih =>
    rw [setAll, List.foldl_cons, ← setAll, ih, get?_set, List.reverse_cons, List.lookup_append,
      Option.or_assoc]
    congr 1
    rw [List.lookup_cons, List.lookup_nil, beq_eq_decide]
    by_cases hsame : key = entry.1 <;> simp [hsame]

theorem get?_ofPairs (entries : List (K × V)) (key : K) :
    (ofPairs entries).get? key = entries.reverse.lookup key := by
  rw [ofPairs, get?_setAll, get?_empty, Option.or_none]

/-- All entries of a key have one value. -/
theorem get?_ofPairs_of_unique {entries : List (K × V)} {key : K} {value : V}
    (hmem : (key, value) ∈ entries) (hunique : ∀ entry ∈ entries, entry.1 = key → entry.2 = value) :
    (ofPairs entries).get? key = some value := by
  rw [get?_ofPairs]
  cases hfound : entries.reverse.lookup key with
  | none =>
    rw [List.lookup_eq_none_iff] at hfound
    have hne := hfound _ (List.mem_reverse.mpr hmem)
    simp at hne
  | some other =>
    obtain ⟨before, after, hsplit, -⟩ := List.lookup_eq_some_iff.mp hfound
    have hother : (key, other) ∈ entries := by
      rw [← List.mem_reverse, hsplit]
      simp
    obtain rfl : other = value := hunique _ hother rfl
    rfl

/-- Entries of some keys only. -/
theorem get?_ofPairs_filter (entries : List (K × V)) (keep : K → Bool) (key : K) :
    (ofPairs (entries.filter fun entry => keep entry.1)).get? key =
      if keep key then (ofPairs entries).get? key else none := by
  rw [get?_ofPairs, get?_ofPairs, ← List.filter_reverse]
  induction entries.reverse with
  | nil => simp
  | cons entry rest ih =>
    obtain ⟨stored, value⟩ := entry
    rw [List.filter_cons]
    by_cases hsame : key = stored
    · subst hsame
      cases hkeep : keep key with
      | true => simp
      | false => simpa [hkeep] using ih
    · have hne : (key == stored) = false := by simpa using hsame
      cases hkeep : keep stored with
      | true => simp [List.lookup_cons, hne, ih]
      | false => simp [List.lookup_cons, hne, ih]

theorem setAll_concat (table : Table K V) (entries : List (K × V)) (entry : K × V) :
    table.setAll (entries ++ [entry]) = (table.setAll entries).set entry.1 entry.2 := by
  rw [setAll, List.foldl_append, ← setAll]
  rfl

theorem mem_keys_ofPairs {entries : List (K × V)} {key : K} :
    key ∈ (ofPairs entries).rows.map Prod.fst ↔ key ∈ entries.map Prod.fst := by
  rw [mem_keys_iff, get?_ofPairs, List.lookup_isSome_iff]
  simp only [List.mem_reverse, List.mem_map, beq_iff_eq]
  exact exists_congr fun entry => and_congr_right fun _ => eq_comm

/-- The keys stand in the order of their first assignments. -/
theorem head?_filterMap_keys_ofPairs (entries : List (K × V)) (read : K → Option α) :
    (((ofPairs entries).rows.map Prod.fst).filterMap read).head? =
      ((entries.map Prod.fst).filterMap read).head? := by
  induction entries using List.reverseRecOn with
  | nil => rfl
  | append_singleton entries entry ih =>
    rw [ofPairs, setAll_concat, ← ofPairs, List.map_append, List.map_singleton,
      List.filterMap_append, List.head?_append, ← ih]
    cases hstored : (ofPairs entries).get? entry.1 with
    | none =>
      rw [rows_set_of_new hstored, List.map_append, List.map_singleton, List.filterMap_append,
        List.head?_append]
    | some value =>
      -- a key that is there is found before it is assigned again
      have hmem : entry.1 ∈ (ofPairs entries).rows.map Prod.fst :=
        (mem_keys_iff _ _).mpr (Option.isSome_of_eq_some hstored)
      rw [keys_set_of_stored (Option.isSome_of_eq_some hstored)]
      cases hread : read entry.1 with
      | none =>
        rw [List.filterMap_cons_none hread, List.filterMap_nil, List.head?_nil, Option.or_none]
      | some found =>
        have hfound : found ∈ ((ofPairs entries).rows.map Prod.fst).filterMap read :=
          List.mem_filterMap.mpr ⟨entry.1, hmem, hread⟩
        cases hfirst : ((ofPairs entries).rows.map Prod.fst).filterMap read with
        | nil =>
          rw [hfirst] at hfound
          cases hfound
        | cons first rest => rfl

/-- Assignments that are made only to some keys, when each key comes once. -/
theorem foldl_set_if {table : Table K V} {entries : List (K × V)}
    {accepts : Table K V → K → Bool} {eligible : K → Bool}
    (haccepts : ∀ dict key, dict.get? key = none → accepts dict key = eligible key)
    (hnodup : (entries.map Prod.fst).Nodup)
    (hnew : ∀ entry ∈ entries, table.get? entry.1 = none) :
    (entries.foldl
      (fun dict entry => if accepts dict entry.1 then dict.set entry.1 entry.2 else dict) table) =
      table.setAll (entries.filter fun entry => eligible entry.1) := by
  induction entries generalizing table with
  | nil => rfl
  | cons entry rest ih =>
    rw [List.map_cons, List.nodup_cons] at hnodup
    obtain ⟨hfirst, hrest⟩ := hnodup
    have hothers : ∀ other ∈ rest, table.get? other.1 = none :=
      fun other hother => hnew other (List.mem_cons_of_mem _ hother)
    rw [List.foldl_cons, haccepts table entry.1 (hnew entry List.mem_cons_self), List.filter_cons]
    split_ifs with heligible
    · have hset : ∀ other ∈ rest, (table.set entry.1 entry.2).get? other.1 = none := by
        intro other hother
        have hne : other.1 ≠ entry.1 := fun hsame => hfirst (hsame ▸ List.mem_map_of_mem hother)
        rw [get?_set, if_neg hne]
        exact hothers other hother
      rw [ih hrest hset, setAll, setAll, List.foldl_cons]
    · exact ih hrest hothers

end Relational.Table
