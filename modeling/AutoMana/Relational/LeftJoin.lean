import AutoMana.Relational.Table

/-!
# Joining keys with a table

A left join lists each key with every row it has, and once with none when it has none. Over the
rows of a table that is the lookup of each key. The rows of one table, and those of another for
the keys that the first one lacks, are again a table.
-/

namespace Relational

variable {K V : Type} [DecidableEq K]

/-- `keys LEFT JOIN rows ON key` -/
def leftJoin (keys : List K) (rows : List (K × V)) : List (K × Option V) :=
  keys.flatMap fun key =>
    match rows.filter (·.1 = key) with
    | [] => [(key, none)]
    | matched => matched.map fun row => (key, some row.2)

namespace Table

/-- The rows of a key are the one that is found under it. -/
theorem filter_key (table : Table K V) (key : K) :
    table.rows.filter (·.1 = key) = ((table.get? key).map (key, ·)).toList := by
  obtain ⟨rows, hnodup⟩ := table
  unfold get?
  dsimp only
  induction rows with
  | nil => rfl
  | cons row rest ih =>
    obtain ⟨stored, value⟩ := row
    rw [List.map_cons, List.nodup_cons] at hnodup
    rw [List.lookup_cons, beq_eq_decide, List.filter_cons]
    by_cases hkey : stored = key
    · subst hkey
      have hrest : rest.filter (·.1 = stored) = [] := by
        rw [List.filter_eq_nil_iff]
        intro other hother hsame
        exact hnodup.1 (List.mem_map.mpr ⟨other, hother, of_decide_eq_true hsame⟩)
      simp [hrest]
    · simp [hkey, Ne.symm hkey, ih hnodup.2]

theorem leftJoin_rows (keys : List K) (table : Table K V) :
    leftJoin keys table.rows = keys.map fun key => (key, table.get? key) := by
  rw [leftJoin, ← List.flatMap_singleton' (keys.map _), List.flatMap_map]
  apply List.flatMap_congr
  intro key _
  rw [filter_key]
  cases table.get? key <;> rfl

/-- Tables with the same lookups have the same rows, in some order. -/
theorem rows_perm {first second : Table K V} (hsame : ∀ key, first.get? key = second.get? key) :
    first.rows.Perm second.rows := by
  rw [List.perm_ext_iff_of_nodup first.nodup_keys.of_map second.nodup_keys.of_map]
  rintro ⟨key, value⟩
  rw [mem_rows_iff, mem_rows_iff, hsame]

/-- `first UNION ALL second WHERE key NOT IN (SELECT key FROM first)` -/
def unionMissing (first second : Table K V) : Table K V where
  rows := first.rows ++ second.rows.filter fun row => row.1 ∉ first.rows.map Prod.fst
  nodup_keys := by
    rw [List.map_append, List.nodup_append']
    refine ⟨first.nodup_keys, second.nodup_keys.sublist (List.filter_sublist.map _), ?_⟩
    intro key hfirst hsecond
    obtain ⟨row, hrow, rfl⟩ := List.mem_map.mp hsecond
    exact of_decide_eq_true (List.mem_filter.mp hrow).2 hfirst

theorem get?_unionMissing (first second : Table K V) (key : K) :
    (first.unionMissing second).get? key = (first.get? key).or (second.get? key) := by
  apply get?_eq_of_mem_iff
  intro value
  simp only [unionMissing, List.mem_append, List.mem_filter, decide_eq_true_eq, mem_rows_iff,
    mem_keys_iff, Option.or_eq_some_iff, Option.not_isSome_iff_eq_none]
  exact or_congr_right and_comm

end Table

end Relational
