import AutoMana.Pricing.Schema
import AutoMana.Relational.Runs

/-!
# archive_to_weekly

The procedure rolls the daily rows before a Monday cutoff into one weekly row
per key, a week at a time, and deletes them. A week whose batch raises keeps its
daily rows. Over a weekly table that has no row for the archived weeks, one call
splits the old daily rows by week: each is either rolled up and deleted, or
still there.
-/

namespace AutoMana.Pricing

open Relational

abbrev DailyRow := (Int × PriceKey) × DailyPrice

/-- `DATE_TRUNC('week', price_date)` and the dimensions of a daily row. -/
def weekOf (row : DailyRow) : Int × PriceKey := (truncWeek row.1.1, row.1.2)

/-- The select list of the weekly aggregate, over the rows of one group. -/
def weeklyAggregate : List DailyRow → Option WeeklyPrice
  | [] => none
  | group => some {
      prices := {
        listLowCents := Aggregate.min (group.map (·.2.prices.listLowCents))
        listAvgCents := Aggregate.avg (group.map (·.2.prices.listAvgCents))
        soldAvgCents := Aggregate.avg (group.map (·.2.prices.soldAvgCents)) }
      nDays := Aggregate.countDistinct (group.map (·.1.1))
      nProviders := Aggregate.max (group.map (·.2.nProviders)) }

/-- The daily rows of a window. -/
def rowsIn (daily : Table (Int × PriceKey) DailyPrice) (window : Window) : List DailyRow :=
  daily.rows.filter fun row => window.Contains row.1.1

/-- The temporary table `_weekly_batch` of a window. -/
def weeklyBatch (daily : Table (Int × PriceKey) DailyPrice) (window : Window) :
    Table (Int × PriceKey) WeeklyPrice :=
  Table.groupBy weekOf weeklyAggregate (rowsIn daily window)

/-- One `CALL pricing.archive_to_weekly(p_older_than)`: the interval, as what
subtracting it from a day gives, the day the call runs on, and the windows whose
batch raises. -/
structure ArchiveCall where
  pOlderThan : Int → Int
  currentDate : Int
  raises : Window → Bool

/-- `v_cutoff`: the Monday at or before `CURRENT_DATE - p_older_than`. -/
def archiveCutoff (call : ArchiveCall) : Int := truncWeek (call.pOlderThan call.currentDate)

/-- The upsert into the weekly table and the delete from the daily one. -/
def rollUpWeek (window : Window) (tiers : Tiers) : Tiers :=
  { tiers with
    printPriceWeekly :=
      tiers.printPriceWeekly.upsert (weeklyBatch tiers.printPriceDaily window) fun _ new => new
    printPriceDaily := tiers.printPriceDaily.deleteWhere fun key _ => window.Contains key.1 }

/-- One iteration of the batch loop, with its commit or rollback. -/
def archiveBatch (call : ArchiveCall) (window : Window) (tiers : Tiers) : Tiers :=
  if call.raises window then tiers
  else (rollUpWeek window tiers).setWatermark .weekly window.stop

/-- `v_min_date`: the oldest daily row before the cutoff. -/
def oldestBefore (daily : Table (Int × PriceKey) DailyPrice) (v_cutoff : Int) : Option Int :=
  ((daily.rows.map (·.1.1)).filter (· < v_cutoff)).min?

/-- The loop runs while `v_start < v_cutoff`, that is up to `v_cutoff - 1`. -/
def archiveToWeekly (call : ArchiveCall) (tiers : Tiers) : Tiers :=
  match oldestBefore tiers.printPriceDaily (archiveCutoff call) with
  | none => tiers
  | some v_min_date =>
    batchLoop 7 (archiveBatch call) (archiveCutoff call - 1) (truncWeek v_min_date) tiers

/-! ## A call as a sequence of batches -/

/-- The weeks a call visits, in order. -/
def archiveWindows (call : ArchiveCall) (tiers : Tiers) : List Window :=
  match oldestBefore tiers.printPriceDaily (archiveCutoff call) with
  | none => []
  | some v_min_date => batchWindows 7 (archiveCutoff call - 1) (truncWeek v_min_date)

theorem archiveToWeekly_eq_foldl (call : ArchiveCall) (tiers : Tiers) :
    archiveToWeekly call tiers =
      (archiveWindows call tiers).foldl (fun tiers window => archiveBatch call window tiers)
        tiers := by
  unfold archiveToWeekly archiveWindows
  cases oldestBefore tiers.printPriceDaily (archiveCutoff call) with
  | none => rfl
  | some v_min_date => exact batchLoop_eq_foldl 7 _ _ _ _

/-- Every window of a call is a whole week, Monday to Sunday. -/
theorem archiveWindows_week {call : ArchiveCall} {tiers : Tiers} {window : Window}
    (hmem : window ∈ archiveWindows call tiers) :
    truncWeek window.start = window.start ∧ window.stop = window.start + 6 := by
  unfold archiveWindows at hmem
  cases holdest : oldestBefore tiers.printPriceDaily (archiveCutoff call) with
  | none => simp [holdest] at hmem
  | some v_min_date =>
      rw [holdest] at hmem
      exact week_of_mem_batchWindows (truncWeek_idem _) (truncWeek_idem _) hmem

theorem archiveWindows_contains_iff {call : ArchiveCall} {tiers : Tiers} {window : Window}
    (hmem : window ∈ archiveWindows call tiers) (date : Int) :
    window.Contains date ↔ truncWeek date = window.start := by
  obtain ⟨hmonday, hsunday⟩ := archiveWindows_week hmem
  rw [truncWeek_eq_iff hmonday, ← hsunday]
  rfl

theorem archiveWindows_lt_cutoff {call : ArchiveCall} {tiers : Tiers} {window : Window}
    (hmem : window ∈ archiveWindows call tiers) : window.stop < archiveCutoff call := by
  unfold archiveWindows at hmem
  cases holdest : oldestBefore tiers.printPriceDaily (archiveCutoff call) with
  | none => simp [holdest] at hmem
  | some v_min_date =>
      rw [holdest] at hmem
      have hbounds := bounds_of_mem_batchWindows hmem
      omega

theorem archiveWindows_nodup (call : ArchiveCall) (tiers : Tiers) :
    (archiveWindows call tiers).Nodup := by
  unfold archiveWindows
  split
  · exact List.nodup_nil
  · exact batchWindows_nodup _ _ _

/-- Every daily row before the cutoff is in a window. -/
theorem exists_archiveWindow {call : ArchiveCall} {tiers : Tiers} {row : DailyRow}
    (hrow : row ∈ tiers.printPriceDaily.rows) (hold : row.1.1 < archiveCutoff call) :
    ∃ window ∈ archiveWindows call tiers, window.Contains row.1.1 := by
  have hdate : row.1.1 ∈ (tiers.printPriceDaily.rows.map (·.1.1)).filter
      (· < archiveCutoff call) := by
    simp only [List.mem_filter, List.mem_map, decide_eq_true_eq]
    exact ⟨⟨row, hrow, rfl⟩, hold⟩
  unfold archiveWindows
  cases holdest : oldestBefore tiers.printPriceDaily (archiveCutoff call) with
  | none =>
      rw [oldestBefore, List.min?_eq_none_iff] at holdest
      rw [holdest] at hdate
      simp at hdate
  | some v_min_date =>
      have hmin : v_min_date ≤ row.1.1 := (List.min?_eq_some_iff.mp holdest).2 _ hdate
      exact exists_mem_batchWindows 7 ((truncWeek_le v_min_date).trans hmin) (by omega)

/-- No day is in two windows. -/
theorem eq_of_mem_archiveWindows {call : ArchiveCall} {tiers : Tiers} {left right : Window}
    {date : Int} (hleft : left ∈ archiveWindows call tiers)
    (hright : right ∈ archiveWindows call tiers) (hdate : left.Contains date)
    (hdate' : right.Contains date) : left = right := by
  unfold archiveWindows at hleft hright
  cases holdest : oldestBefore tiers.printPriceDaily (archiveCutoff call) with
  | none => simp [holdest] at hleft
  | some v_min_date =>
      rw [holdest] at hleft hright
      exact eq_of_contains hleft hright hdate hdate'

/-! ## What one batch does -/

/-- The aggregate of all daily rows of one week and key. -/
def weeklyReference (daily : Table (Int × PriceKey) DailyPrice) (week : Int × PriceKey) :
    Option WeeklyPrice :=
  weeklyAggregate (daily.rows.filter fun row => weekOf row = week)

theorem weeklyBatch_get? (daily : Table (Int × PriceKey) DailyPrice) (window : Window)
    (week : Int × PriceKey) :
    (weeklyBatch daily window).get? week =
      weeklyAggregate ((rowsIn daily window).filter fun row => weekOf row = week) :=
  Table.get?_groupBy _ _ rfl _ _

theorem archiveBatch_of_raises {call : ArchiveCall} {window : Window}
    (hraises : call.raises window = true) (tiers : Tiers) :
    archiveBatch call window tiers = tiers := by
  simp [archiveBatch, hraises]

theorem archiveBatch_daily {call : ArchiveCall} {window : Window}
    (hcommit : call.raises window = false) (tiers : Tiers) (date : Int) (key : PriceKey) :
    (archiveBatch call window tiers).printPriceDaily.get? (date, key) =
      if window.Contains date then none else tiers.printPriceDaily.get? (date, key) := by
  simp only [archiveBatch, hcommit, Bool.false_eq_true, if_false, rollUpWeek, Tiers.setWatermark,
    Table.get?_deleteWhere]
  split_ifs with hcontains <;> cases tiers.printPriceDaily.get? (date, key) <;>
    simp [hcontains]

theorem archiveBatch_weekly {call : ArchiveCall} {window : Window}
    (hcommit : call.raises window = false) (tiers : Tiers) (week : Int × PriceKey) :
    (archiveBatch call window tiers).printPriceWeekly.get? week =
      ((weeklyBatch tiers.printPriceDaily window).get? week).or
        (tiers.printPriceWeekly.get? week) := by
  simp only [archiveBatch, hcommit, Bool.false_eq_true, if_false, rollUpWeek, Tiers.setWatermark,
    Table.get?_upsert, Table.reconcile_excluded]

/-- The windows of a call as days: whole weeks. -/
def IsWeek (window : Window) : Prop :=
  ∀ date, window.Contains date ↔ truncWeek date = window.start

theorem weeklyBatch_of_isWeek {window : Window} (hweek : IsWeek window)
    (daily : Table (Int × PriceKey) DailyPrice) (week : Int × PriceKey) :
    (weeklyBatch daily window).get? week =
      if window.start = week.1 then weeklyReference daily week else none := by
  apply Table.get?_groupBy_filter rfl
  intro row hrow
  rw [decide_eq_true_eq, hweek, ← hrow]
  exact eq_comm

/-- Archiving one week leaves the daily rows of every other week. -/
theorem weeklyReference_archiveBatch {call : ArchiveCall} {window : Window}
    (hweek : IsWeek window) (tiers : Tiers) {week : Int × PriceKey}
    (hother : window.start ≠ week.1) :
    weeklyReference (archiveBatch call window tiers).printPriceDaily week =
      weeklyReference tiers.printPriceDaily week := by
  unfold archiveBatch
  split_ifs
  · rfl
  · simp only [rollUpWeek, Tiers.setWatermark, Table.deleteWhere, weeklyReference,
      List.filter_filter]
    congr 1
    apply List.filter_congr
    intro row _
    by_cases hrow : weekOf row = week
    · have houtside : ¬ window.Contains row.1.1 := by
        rw [hweek]
        rintro hstart
        exact hother (hstart.symm.trans (congrArg Prod.fst hrow))
      simp [hrow, houtside]
    · simp [hrow]

/-! ## What a call does -/

theorem foldl_archiveBatch_daily (call : ArchiveCall) (windows : List Window) (tiers : Tiers)
    (date : Int) (key : PriceKey) :
    (windows.foldl (fun tiers window => archiveBatch call window tiers)
        tiers).printPriceDaily.get? (date, key) =
      if ∃ window ∈ windows, call.raises window = false ∧ window.Contains date then none
      else tiers.printPriceDaily.get? (date, key) := by
  induction windows generalizing tiers with
  | nil => simp
  | cons window rest ih =>
      rw [List.foldl_cons, ih]
      cases hcommit : call.raises window with
      | true => simp [archiveBatch_of_raises hcommit, hcommit]
      | false =>
          rw [archiveBatch_daily hcommit]
          by_cases hfirst : window.Contains date <;> simp [hfirst, hcommit]

theorem foldl_archiveBatch_weekly (call : ArchiveCall) {windows : List Window}
    (hweeks : ∀ window ∈ windows, IsWeek window) (hnodup : (windows.map (·.start)).Nodup)
    (tiers : Tiers) (week : Int × PriceKey) :
    (windows.foldl (fun tiers window => archiveBatch call window tiers)
        tiers).printPriceWeekly.get? week =
      if ∃ window ∈ windows, call.raises window = false ∧ window.start = week.1 then
        (weeklyReference tiers.printPriceDaily week).or (tiers.printPriceWeekly.get? week)
      else tiers.printPriceWeekly.get? week := by
  induction windows generalizing tiers with
  | nil => simp
  | cons window rest ih =>
      rw [List.forall_mem_cons] at hweeks
      rw [List.map_cons, List.nodup_cons] at hnodup
      rw [List.foldl_cons, ih hweeks.2 hnodup.2]
      cases hcommit : call.raises window with
      | true => simp [archiveBatch_of_raises hcommit, hcommit]
      | false =>
          rw [archiveBatch_weekly hcommit, weeklyBatch_of_isWeek hweeks.1]
          by_cases hstart : window.start = week.1
          · -- the weeks are distinct, so no later batch touches this one
            have hrest : ¬ ∃ later ∈ rest, call.raises later = false ∧ later.start = week.1 := by
              rintro ⟨later, hmem, -, hlater⟩
              exact hnodup.1 (List.mem_map.mpr ⟨later, hmem, hlater.trans hstart.symm⟩)
            simp only [if_neg hrest, if_pos hstart]
            rw [if_pos ⟨window, List.mem_cons_self, hcommit, hstart⟩]
          · rw [weeklyReference_archiveBatch hweeks.1 tiers hstart]
            simp [hstart]

theorem archiveWindows_isWeek {call : ArchiveCall} {tiers : Tiers} :
    ∀ window ∈ archiveWindows call tiers, IsWeek window :=
  fun _ hmem => archiveWindows_contains_iff hmem

theorem archiveWindows_starts_nodup (call : ArchiveCall) (tiers : Tiers) :
    ((archiveWindows call tiers).map (·.start)).Nodup := by
  apply (List.nodup_map_iff_inj_on (archiveWindows_nodup call tiers)).mpr
  -- whole weeks are determined by their Monday
  rintro ⟨start, stop, hle⟩ hleft ⟨start', stop', hle'⟩ hright heq
  have hstop := (archiveWindows_week hleft).2
  have hstop' := (archiveWindows_week hright).2
  dsimp only at heq hstop hstop'
  subst heq
  obtain rfl : stop = stop' := hstop.trans hstop'.symm
  rfl

theorem archiveToWeekly_daily (call : ArchiveCall) (tiers : Tiers) (date : Int)
    (key : PriceKey) :
    (archiveToWeekly call tiers).printPriceDaily.get? (date, key) =
      if ∃ window ∈ archiveWindows call tiers, call.raises window = false ∧ window.Contains date
      then none else tiers.printPriceDaily.get? (date, key) := by
  rw [archiveToWeekly_eq_foldl, foldl_archiveBatch_daily]

theorem archiveToWeekly_weekly (call : ArchiveCall) (tiers : Tiers) (week : Int × PriceKey) :
    (archiveToWeekly call tiers).printPriceWeekly.get? week =
      if ∃ window ∈ archiveWindows call tiers, call.raises window = false ∧ window.start = week.1
      then (weeklyReference tiers.printPriceDaily week).or (tiers.printPriceWeekly.get? week)
      else tiers.printPriceWeekly.get? week := by
  rw [archiveToWeekly_eq_foldl, foldl_archiveBatch_weekly call archiveWindows_isWeek
    (archiveWindows_starts_nodup call tiers)]

theorem weeklyReference_of_mem {daily : Table (Int × PriceKey) DailyPrice} {row : DailyRow}
    (hrow : row ∈ daily.rows) : ∃ price, weeklyReference daily (weekOf row) = some price := by
  have hgroup : row ∈ daily.rows.filter (fun other => weekOf other = weekOf row) :=
    List.mem_filter.mpr ⟨hrow, by simp⟩
  unfold weeklyReference
  cases hfilter : daily.rows.filter (fun other => weekOf other = weekOf row) with
  | nil => simp [hfilter] at hgroup
  | cons first rest => exact ⟨_, rfl⟩

/-- A row of a committed window leaves the daily table and is counted in the
weekly row of its own week and key. -/
theorem archived_row {call : ArchiveCall} {tiers : Tiers} {window : Window} {row : DailyRow}
    (hmem : window ∈ archiveWindows call tiers) (hcontains : window.Contains row.1.1)
    (hrow : row ∈ tiers.printPriceDaily.rows) (hcommit : call.raises window = false) :
    (archiveToWeekly call tiers).printPriceDaily.get? row.1 = none ∧
      ∃ price, weeklyReference tiers.printPriceDaily (weekOf row) = some price ∧
        (archiveToWeekly call tiers).printPriceWeekly.get? (weekOf row) = some price := by
  have hstart := (archiveWindows_contains_iff hmem row.1.1).mp hcontains
  obtain ⟨price, hprice⟩ := weeklyReference_of_mem hrow
  refine ⟨?_, price, hprice, ?_⟩
  · change (archiveToWeekly call tiers).printPriceDaily.get? (row.1.1, row.1.2) = none
    rw [archiveToWeekly_daily, if_pos ⟨window, hmem, hcommit, hcontains⟩]
  · rw [archiveToWeekly_weekly, if_pos ⟨window, hmem, hcommit, hstart.symm⟩, hprice]
    rfl

/-- A row of a window that raised stays, and its week is not rolled up. -/
theorem kept_row {call : ArchiveCall} {tiers : Tiers} {window : Window} {row : DailyRow}
    (hmem : window ∈ archiveWindows call tiers) (hcontains : window.Contains row.1.1)
    (hrow : row ∈ tiers.printPriceDaily.rows) (hraises : call.raises window = true) :
    row ∈ (archiveToWeekly call tiers).printPriceDaily.rows ∧
      (archiveToWeekly call tiers).printPriceWeekly.get? (weekOf row) =
        tiers.printPriceWeekly.get? (weekOf row) := by
  have hstart := (archiveWindows_contains_iff hmem row.1.1).mp hcontains
  have hbatch : ∀ other ∈ archiveWindows call tiers, call.raises other = false →
      truncWeek row.1.1 ≠ other.start := by
    intro other hother hcommit heq
    have hsame := eq_of_mem_archiveWindows hother hmem
      ((archiveWindows_contains_iff hother _).mpr heq) hcontains
    rw [hsame, hraises] at hcommit
    cases hcommit
  constructor
  · change ((row.1.1, row.1.2), row.2) ∈ (archiveToWeekly call tiers).printPriceDaily.rows
    rw [Table.mem_rows_iff, archiveToWeekly_daily, if_neg, ← Table.mem_rows_iff]
    · exact hrow
    · rintro ⟨other, hother, hcommit, hin⟩
      exact hbatch other hother hcommit ((archiveWindows_contains_iff hother _).mp hin)
  · rw [archiveToWeekly_weekly, if_neg]
    rintro ⟨other, hother, hcommit, hin⟩
    exact hbatch other hother hcommit hin.symm

/-- The loop visits as many windows as there are weeks. -/
theorem length_archiveWindows {call : ArchiveCall} {tiers : Tiers} {oldest : Int}
    (holdest : oldestBefore tiers.printPriceDaily (archiveCutoff call) = some oldest) :
    7 * ((archiveWindows call tiers).length : Int) = archiveCutoff call - truncWeek oldest := by
  have hlt := List.mem_filter.mp (List.min?_eq_some_iff.mp holdest).1
  unfold archiveWindows
  rw [holdest]
  apply length_weekWindows (truncWeek_idem _) (truncWeek_idem _)
  exact (truncWeek_le oldest).trans (of_decide_eq_true hlt.2).le

/-- One call over a weekly table without rows for the archived weeks. Every
daily row before the cutoff lies in exactly one processed Monday-to-Sunday
window. When that batch commits, the row leaves the daily table and the weekly
row of its week and key is the aggregate of all daily rows of that week and key;
when it raises, the row stays and its week has no weekly row. No weekly row is
built from anything else, rows from the cutoff on are unchanged, and the loop
ends after as many iterations as there are weeks. -/
theorem archive_partitions_daily_rows (call : ArchiveCall) (tiers : Tiers)
    (hfresh : ∀ window ∈ archiveWindows call tiers, ∀ key,
      tiers.printPriceWeekly.get? (window.start, key) = none) :
    let next := archiveToWeekly call tiers
    (∀ row ∈ tiers.printPriceDaily.rows, row.1.1 < archiveCutoff call →
      ∃ window, (window ∈ archiveWindows call tiers ∧ window.Contains row.1.1) ∧
        (∀ other, other ∈ archiveWindows call tiers ∧ other.Contains row.1.1 → other = window) ∧
        window.start = truncWeek row.1.1 ∧ window.stop = window.start + 6 ∧
        (call.raises window = false → next.printPriceDaily.get? row.1 = none ∧
          ∃ price, weeklyReference tiers.printPriceDaily (weekOf row) = some price ∧
            next.printPriceWeekly.get? (weekOf row) = some price) ∧
        (call.raises window = true → row ∈ next.printPriceDaily.rows ∧
          next.printPriceWeekly.get? (weekOf row) = none)) ∧
    (∀ week price, next.printPriceWeekly.get? week = some price →
      tiers.printPriceWeekly.get? week = some price ∨
        weeklyReference tiers.printPriceDaily week = some price ∧
          ∃ window ∈ archiveWindows call tiers,
            call.raises window = false ∧ window.start = week.1) ∧
    (∀ date key, archiveCutoff call ≤ date →
      next.printPriceDaily.get? (date, key) = tiers.printPriceDaily.get? (date, key)) ∧
    (archiveWindows call tiers).Nodup ∧
    ∀ oldest, oldestBefore tiers.printPriceDaily (archiveCutoff call) = some oldest →
      7 * ((archiveWindows call tiers).length : Int) =
        archiveCutoff call - truncWeek oldest := by
  intro next
  refine ⟨?_, ?_, ?_, archiveWindows_nodup call tiers, fun _ => length_archiveWindows⟩
  · intro row hrow hold
    obtain ⟨window, hmem, hcontains⟩ := exists_archiveWindow hrow hold
    have hstart := (archiveWindows_contains_iff hmem row.1.1).mp hcontains
    refine ⟨window, ⟨hmem, hcontains⟩, ?_, hstart.symm, (archiveWindows_week hmem).2,
      archived_row hmem hcontains hrow, ?_⟩
    · exact fun other hother => eq_of_mem_archiveWindows hother.1 hmem hother.2 hcontains
    · intro hraises
      obtain ⟨hkept, hweekly⟩ := kept_row hmem hcontains hrow hraises
      refine ⟨hkept, hweekly.trans ?_⟩
      unfold weekOf
      rw [hstart]
      exact hfresh window hmem row.1.2
  · intro week price hprice
    rw [archiveToWeekly_weekly] at hprice
    split_ifs at hprice with harchived
    · rw [Option.or_eq_some_iff] at hprice
      exact hprice.symm.imp (fun hbefore => hbefore.2) (fun hnew => ⟨hnew, harchived⟩)
    · exact Or.inl hprice
  · intro date key hcutoff
    rw [archiveToWeekly_daily, if_neg]
    rintro ⟨window, hmem, -, hcontains⟩
    have hlt := archiveWindows_lt_cutoff hmem
    have hle := hcontains.2
    omega

/-- Archive everything before 1970-01-12, a Monday. -/
def archiveFirstWeeks : ArchiveCall where
  pOlderThan := id
  currentDate := 11
  raises := fun _ => false

/-- One daily row, on 1970-01-05, and nothing else. -/
def oneDailyRow : Tiers where
  printPriceDaily := ⟨[((4, ⟨1, 1, 1, 1, 1, 1⟩), ⟨⟨some 100, none, none⟩, some 1⟩)], by simp⟩
  printPriceLatest := .empty
  printPriceWeekly := .empty
  tierWatermark := .empty

/-- The row of a committed week is gone from the daily table. -/
theorem archive_partitions_one_row :
    (archiveToWeekly archiveFirstWeeks oneDailyRow).printPriceDaily.get?
      (4, ⟨1, 1, 1, 1, 1, 1⟩) = none := by
  obtain ⟨hrows, -⟩ :=
    archive_partitions_daily_rows archiveFirstWeeks oneDailyRow (fun _ _ _ => rfl)
  obtain ⟨window, -, -, -, -, hcommitted, -⟩ := hrows _ List.mem_cons_self (by decide)
  exact (hcommitted rfl).1

end AutoMana.Pricing
