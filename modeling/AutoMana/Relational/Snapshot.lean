import AutoMana.Relational.Table

/-!
# Snapshots of the newest row

A history table is keyed by a date and a key; its snapshot keeps, for each key,
the row of the greatest date. Upserting a batch into the history
unconditionally, and the newest rows of that batch into the snapshot unless
they are older than what it holds, maintains the snapshot. The batch may carry
any dates, older and newer than the history's.
-/

namespace Relational

variable {D K V : Type} [LinearOrder D] [DecidableEq K]

/-- The row of a key with the greatest date. -/
def IsNewest (history : Table (D × K) V) (key : K) (row : D × V) : Prop :=
  history.get? (row.1, key) = some row.2 ∧
    ∀ date value, history.get? (date, key) = some value → date ≤ row.1

/-- `SELECT DISTINCT ON (key) ... ORDER BY key, date DESC`. -/
def newestPerKey (history : Table (D × K) V) : Table K (D × V) :=
  Table.groupBy (fun row => row.1.2)
    (fun group => (group.argmax (fun row => row.1.1)).map fun row => (row.1.1, row.2))
    history.rows

theorem newestPerKey_get? (history : Table (D × K) V) (key : K) :
    (newestPerKey history).get? key =
      ((history.rows.filter (fun row => row.1.2 = key)).argmax (fun row => row.1.1)).map
        fun row => (row.1.1, row.2) :=
  Table.get?_groupBy _ _ rfl _ _

theorem newestPerKey_eq_none_iff (history : Table (D × K) V) (key : K) :
    (newestPerKey history).get? key = none ↔ ∀ date, history.get? (date, key) = none := by
  rw [newestPerKey_get?, Option.map_eq_none_iff, List.argmax_eq_none, List.filter_eq_nil_iff]
  constructor
  · intro habsent date
    rw [Option.eq_none_iff_forall_ne_some]
    intro value hget
    exact habsent _ ((history.mem_rows_iff _ _).mpr hget) (by simp)
  · rintro habsent ⟨⟨date, other⟩, value⟩ hrow heq
    obtain rfl : other = key := by simpa using heq
    rw [history.mem_rows_iff, habsent] at hrow
    cases hrow

theorem IsNewest.unique {history : Table (D × K) V} {key : K} {left right : D × V}
    (hleft : IsNewest history key left) (hright : IsNewest history key right) :
    left = right := by
  have hdate : left.1 = right.1 :=
    le_antisymm (hright.2 _ _ hleft.1) (hleft.2 _ _ hright.1)
  have hvalue := hleft.1
  rw [hdate, hright.1] at hvalue
  exact Prod.ext hdate (Option.some.inj hvalue).symm

theorem newestPerKey_eq_some_iff (history : Table (D × K) V) (key : K) (row : D × V) :
    (newestPerKey history).get? key = some row ↔ IsNewest history key row := by
  have hsound : ∀ found, (newestPerKey history).get? key = some found →
      IsNewest history key found := by
    intro found hfound
    rw [newestPerKey_get?, Option.map_eq_some_iff] at hfound
    obtain ⟨⟨⟨date, other⟩, value⟩, hargmax, rfl⟩ := hfound
    have hmem := List.mem_filter.mp (List.argmax_mem hargmax)
    obtain rfl : other = key := by simpa using hmem.2
    refine ⟨(history.mem_rows_iff _ _).mp hmem.1, ?_⟩
    intro date' value' hget
    have hrow := (history.mem_rows_iff _ _).mpr hget
    exact List.le_of_mem_argmax (f := fun row : (D × K) × V => row.1.1)
      (List.mem_filter.mpr ⟨hrow, by simp⟩) hargmax
  constructor
  · exact hsound row
  · intro hnewest
    cases hget : (newestPerKey history).get? key with
    | none =>
        have habsent := (newestPerKey_eq_none_iff history key).mp hget row.1
        rw [hnewest.1] at habsent
        cases habsent
    | some found => rw [(hsound found hget).unique hnewest]

/-! ## Rows of a query -/

section Query

variable {α : Type} {keyOf : α → K} {rows : List α} {key : K} {row : α}

/-- `SELECT DISTINCT ON (key) ... ORDER BY key`: of tied rows the first. -/
def firstPerKey (keyOf : α → K) (rows : List α) : Table K α :=
  Table.groupBy keyOf List.head? rows

/-- `SELECT DISTINCT ON (key) ... ORDER BY key, column DESC`: of tied rows the first. -/
def greatestPerKey (keyOf : α → K) (column : α → D) (rows : List α) : Table K α :=
  Table.groupBy keyOf (List.argmax column) rows

theorem firstPerKey_eq_none_iff :
    (firstPerKey keyOf rows).get? key = none ↔ ∀ row ∈ rows, keyOf row ≠ key := by
  rw [firstPerKey, Table.get?_groupBy _ _ rfl, List.head?_eq_none_iff, List.filter_eq_nil_iff]
  simp only [decide_eq_true_eq, ne_eq]

theorem mem_of_firstPerKey (hfirst : (firstPerKey keyOf rows).get? key = some row) :
    row ∈ rows ∧ keyOf row = key := by
  rw [firstPerKey, Table.get?_groupBy _ _ rfl] at hfirst
  obtain ⟨hmem, hkey⟩ := List.mem_filter.mp (List.mem_of_mem_head? hfirst)
  exact ⟨hmem, of_decide_eq_true hkey⟩

variable {column : α → D}

theorem greatestPerKey_eq_none_iff :
    (greatestPerKey keyOf column rows).get? key = none ↔ ∀ row ∈ rows, keyOf row ≠ key := by
  rw [greatestPerKey, Table.get?_groupBy _ _ rfl, List.argmax_eq_none, List.filter_eq_nil_iff]
  simp only [decide_eq_true_eq, ne_eq]

theorem mem_of_greatestPerKey (hgreatest : (greatestPerKey keyOf column rows).get? key = some row) :
    row ∈ rows ∧ keyOf row = key := by
  rw [greatestPerKey, Table.get?_groupBy _ _ rfl] at hgreatest
  obtain ⟨hmem, hkey⟩ := List.mem_filter.mp (List.argmax_mem hgreatest)
  exact ⟨hmem, of_decide_eq_true hkey⟩

theorem le_of_greatestPerKey (hgreatest : (greatestPerKey keyOf column rows).get? key = some row)
    {other : α} (hmem : other ∈ rows) (hkey : keyOf other = key) : column other ≤ column row := by
  rw [greatestPerKey, Table.get?_groupBy _ _ rfl] at hgreatest
  apply List.le_of_mem_argmax (List.mem_filter.mpr ⟨hmem, _⟩) hgreatest
  exact decide_eq_true hkey

end Query

/-! ## Maintenance -/

/-- The guarded `DO UPDATE`: an excluded row replaces a stored one that is not
newer. -/
def keepNewest (stored excluded : D × V) : D × V :=
  if stored.1 ≤ excluded.1 then excluded else stored

/-- The snapshot holds the newest row of every key of the history. -/
def Mirrors (history : Table (D × K) V) (snapshot : Table K (D × V)) : Prop :=
  ∀ key, snapshot.get? key = (newestPerKey history).get? key

theorem Mirrors.eq_some_iff {history : Table (D × K) V} {snapshot : Table K (D × V)}
    (hmirrors : Mirrors history snapshot) (key : K) (row : D × V) :
    snapshot.get? key = some row ↔ IsNewest history key row := by
  rw [hmirrors key, newestPerKey_eq_some_iff]

theorem Mirrors.isSome_iff {history : Table (D × K) V} {snapshot : Table K (D × V)}
    (hmirrors : Mirrors history snapshot) (key : K) :
    (snapshot.get? key).isSome ↔ ∃ date, (history.get? (date, key)).isSome := by
  rw [hmirrors key, ← not_iff_not]
  simp only [Option.not_isSome_iff_eq_none, newestPerKey_eq_none_iff, not_exists]

theorem mirrors_empty : Mirrors (Table.empty : Table (D × K) V) Table.empty := by
  intro key
  rw [Table.get?_empty, eq_comm, newestPerKey_eq_none_iff]
  exact fun _ => rfl

/-- A batch whose newest row is no older than the history brings the newest row. -/
theorem IsNewest.upsert_newer {history batch : Table (D × K) V} {key : K} {excluded : D × V}
    (hnewest : IsNewest batch key excluded)
    (hstored : ∀ date value, history.get? (date, key) = some value → date ≤ excluded.1) :
    IsNewest (history.upsert batch fun _ new => new) key excluded := by
  refine ⟨by simp [hnewest.1], ?_⟩
  intro date value hget
  rw [Table.get?_upsert, Table.reconcile_excluded, Option.or_eq_some_iff] at hget
  rcases hget with hnew | ⟨_, hold⟩
  · exact hnewest.2 date value hnew
  · exact hstored date value hold

/-- A batch that is older than the newest stored row leaves it the newest. -/
theorem IsNewest.upsert_older {history batch : Table (D × K) V} {key : K} {stored : D × V}
    (hnewest : IsNewest history key stored)
    (hbatch : ∀ date value, batch.get? (date, key) = some value → date < stored.1) :
    IsNewest (history.upsert batch fun _ new => new) key stored := by
  have hmissing : batch.get? (stored.1, key) = none := by
    rw [Option.eq_none_iff_forall_ne_some]
    exact fun value hget => lt_irrefl _ (hbatch _ value hget)
  refine ⟨by simp [hmissing, hnewest.1], ?_⟩
  intro date value hget
  rw [Table.get?_upsert, Table.reconcile_excluded, Option.or_eq_some_iff] at hget
  rcases hget with hnew | ⟨_, hold⟩
  · exact (hbatch date value hnew).le
  · exact hnewest.2 date value hold

/-- The newest row after an unconditional upsert is the reconciliation of the
newest stored row and the newest excluded one. -/
theorem newestPerKey_upsert (history batch : Table (D × K) V) (key : K) :
    (newestPerKey (history.upsert batch fun _ new => new)).get? key =
      Table.reconcile keepNewest ((newestPerKey history).get? key)
        ((newestPerKey batch).get? key) := by
  cases hhistory : (newestPerKey history).get? key with
  | none =>
      have hnone := (newestPerKey_eq_none_iff history key).mp hhistory
      cases hbatch : (newestPerKey batch).get? key with
      | none =>
          have habsent := (newestPerKey_eq_none_iff batch key).mp hbatch
          simp [newestPerKey_eq_none_iff, Table.reconcile, hnone, habsent]
      | some excluded =>
          have hnewest := (newestPerKey_eq_some_iff batch key excluded).mp hbatch
          exact (newestPerKey_eq_some_iff _ key excluded).mpr
            (hnewest.upsert_newer (by simp [hnone]))
  | some stored =>
      have hstored := (newestPerKey_eq_some_iff history key stored).mp hhistory
      cases hbatch : (newestPerKey batch).get? key with
      | none =>
          have habsent := (newestPerKey_eq_none_iff batch key).mp hbatch
          exact (newestPerKey_eq_some_iff _ key stored).mpr
            (hstored.upsert_older (by simp [habsent]))
      | some excluded =>
          have hexcluded := (newestPerKey_eq_some_iff batch key excluded).mp hbatch
          refine (newestPerKey_eq_some_iff _ key (keepNewest stored excluded)).mpr ?_
          unfold keepNewest
          split
          next hle =>
            -- on equal dates the upsert has replaced the stored row
            exact hexcluded.upsert_newer fun date value hget =>
              (hstored.2 date value hget).trans hle
          next hlt =>
            exact hstored.upsert_older fun date value hget =>
              (hexcluded.2 date value hget).trans_lt (not_le.mp hlt)

/-- One batch of maintenance keeps the snapshot a mirror of its history. -/
theorem Mirrors.upsert {history batch : Table (D × K) V} {snapshot : Table K (D × V)}
    (hmirrors : Mirrors history snapshot) :
    Mirrors (history.upsert batch fun _ new => new)
      (snapshot.upsert (newestPerKey batch) keepNewest) := by
  intro key
  rw [newestPerKey_upsert, Table.get?_upsert, hmirrors key]

end Relational
