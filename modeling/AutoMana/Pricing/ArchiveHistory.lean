import AutoMana.Pricing.DailyRollup
import AutoMana.Pricing.WeeklyArchive

/-!
# Archiving interleaved with refreshing

A refresh may re-create daily rows of a week that is already archived, and a
later archive call rolls that week up again. Its upsert overwrites the weekly
row with the aggregate of the daily rows that exist now, so the days archived
before count only if they are all there again.
-/

namespace AutoMana.Pricing

open Relational

inductive TierCall where
  | refresh (call : RefreshCall)
  | archive (call : ArchiveCall)

inductive TierBatch where
  | refresh (call : RefreshCall) (window : Window)
  | archive (call : ArchiveCall) (window : Window)

/-- The tiers, with every daily row an archive batch has deleted so far. -/
structure ArchiveHistory where
  tiers : Tiers
  archived : List DailyRow

def historyStep (history : ArchiveHistory) : TierBatch → ArchiveHistory
  | .refresh call window =>
    { history with tiers := refreshBatch call window history.tiers }
  | .archive call window => {
      tiers := archiveBatch call window history.tiers
      archived := if call.raises window then history.archived
        else history.archived ++ rowsIn history.tiers.printPriceDaily window }

/-- The batches a call runs from a state. -/
def tierActions (tiers : Tiers) : TierCall → List TierBatch
  | .refresh call => (refreshWindows call tiers).map (.refresh call)
  | .archive call => (archiveWindows call tiers).map (.archive call)

def historyPlan (history : ArchiveHistory) (calls : List TierCall) : List TierBatch :=
  Run.plan historyStep (fun history call => tierActions history.tiers call) history calls

/-- The committed state after a call. -/
def afterCall (tiers : Tiers) : TierCall → Tiers
  | .refresh call => afterRefresh tiers call
  | .archive call => archiveToWeekly call tiers

theorem foldl_refresh_tiers (history : ArchiveHistory) (call : RefreshCall)
    (windows : List Window) :
    ((windows.map (TierBatch.refresh call)).foldl historyStep history).tiers =
      windows.foldl (fun tiers window => refreshBatch call window tiers) history.tiers := by
  rw [List.foldl_map]
  exact (List.foldl_hom ArchiveHistory.tiers fun _ _ => rfl).symm

theorem foldl_archive_tiers (history : ArchiveHistory) (call : ArchiveCall)
    (windows : List Window) :
    ((windows.map (TierBatch.archive call)).foldl historyStep history).tiers =
      windows.foldl (fun tiers window => archiveBatch call window tiers) history.tiers := by
  rw [List.foldl_map]
  exact (List.foldl_hom ArchiveHistory.tiers fun _ _ => rfl).symm

/-- The bookkeeping follows the calls: the planned batches end in their state. -/
theorem historyPlan_tiers (history : ArchiveHistory) (calls : List TierCall) :
    ((historyPlan history calls).foldl historyStep history).tiers =
      calls.foldl afterCall history.tiers := by
  apply Run.project_foldl_plan
  intro history call
  cases call with
  | refresh call => exact (foldl_refresh_tiers _ _ _).trans (afterRefresh_eq_foldl _ _).symm
  | archive call => exact (foldl_archive_tiers _ _ _).trans (archiveToWeekly_eq_foldl _ _).symm

/-- The archived rows of one week and key. -/
def archivedOf (history : ArchiveHistory) (week : Int × PriceKey) : List DailyRow :=
  history.archived.filter fun row => weekOf row = week

/-- Each weekly row counts the distinct days ever archived for its week and key
and carries the lowest price of all their rows. -/
structure LosesNoDay (history : ArchiveHistory) : Prop where
  absent : ∀ week, history.tiers.printPriceWeekly.get? week = none → archivedOf history week = []
  counted : ∀ week price, history.tiers.printPriceWeekly.get? week = some price →
    price.nDays = Aggregate.countDistinct ((archivedOf history week).map (·.1.1)) ∧
    price.prices.listLowCents =
      Aggregate.min ((archivedOf history week).map (·.2.prices.listLowCents))

/-- The rows of one week and key that a batch is about to roll up. -/
def rowsToRollUp (history : ArchiveHistory) (window : Window) (week : Int × PriceKey) :
    List DailyRow :=
  (rowsIn history.tiers.printPriceDaily window).filter fun row => weekOf row = week

/-- For every week and key the batch rolls up, the daily rows are again there
for every day archived before, and none of the archived rows was cheaper. -/
def CoversArchived (history : ArchiveHistory) : TierBatch → Prop
  | .refresh _ _ => True
  | .archive call window => call.raises window = true ∨
    ∀ week, rowsToRollUp history window week ≠ [] →
      (∀ row ∈ archivedOf history week,
        row.1.1 ∈ (rowsToRollUp history window week).map (·.1.1)) ∧
      Aggregate.min ((rowsToRollUp history window week).map (·.2.prices.listLowCents)) =
        Aggregate.min ((archivedOf history week ++ rowsToRollUp history window week).map
          (·.2.prices.listLowCents))

theorem weeklyAggregate_eq_some {group : List DailyRow} (hgroup : group ≠ []) :
    ∃ price, weeklyAggregate group = some price ∧
      price.nDays = Aggregate.countDistinct (group.map (·.1.1)) ∧
      price.prices.listLowCents = Aggregate.min (group.map (·.2.prices.listLowCents)) := by
  cases group with
  | nil => exact absurd rfl hgroup
  | cons row rest => exact ⟨_, rfl, rfl, rfl⟩

theorem historyStep_archivedOf {call : ArchiveCall} {window : Window}
    (hcommit : call.raises window = false) (history : ArchiveHistory) (week : Int × PriceKey) :
    archivedOf (historyStep history (.archive call window)) week =
      archivedOf history week ++ rowsToRollUp history window week := by
  simp [archivedOf, historyStep, hcommit, rowsToRollUp]

theorem historyStep_weekly {call : ArchiveCall} {window : Window}
    (hcommit : call.raises window = false) (history : ArchiveHistory) (week : Int × PriceKey) :
    (historyStep history (.archive call window)).tiers.printPriceWeekly.get? week =
      (weeklyAggregate (rowsToRollUp history window week)).or
        (history.tiers.printPriceWeekly.get? week) := by
  simp only [historyStep, archiveBatch_weekly hcommit, weeklyBatch_get?]
  rfl

theorem historyStep_of_raises {call : ArchiveCall} {window : Window}
    (hraises : call.raises window = true) (history : ArchiveHistory) :
    historyStep history (.archive call window) = history := by
  simp [historyStep, archiveBatch_of_raises hraises, hraises]

theorem refreshBatch_weekly (call : RefreshCall) (window : Window) (tiers : Tiers) :
    (refreshBatch call window tiers).printPriceWeekly = tiers.printPriceWeekly := by
  unfold refreshBatch
  split_ifs <;> rfl

/-- One committed archive batch keeps the weekly rows exact exactly when the
daily rows it rolls up cover what was archived before. -/
theorem losesNoDay_archive_iff {call : ArchiveCall} {window : Window}
    (hcommit : call.raises window = false) {history : ArchiveHistory}
    (hkept : LosesNoDay history) :
    LosesNoDay (historyStep history (.archive call window)) ↔
      CoversArchived history (.archive call window) := by
  constructor
  · intro hnext
    refine Or.inr fun week hrows => ?_
    -- the weekly row is overwritten by the aggregate of the batch alone
    obtain ⟨price, hprice, hdays, hlow⟩ := weeklyAggregate_eq_some hrows
    have hcounted := hnext.counted week price
      (by rw [historyStep_weekly hcommit, hprice]; rfl)
    rw [historyStep_archivedOf hcommit, hdays, hlow, List.map_append,
      Aggregate.countDistinct_append_eq_iff] at hcounted
    refine ⟨fun row hrow => hcounted.1 _ (List.mem_map.mpr ⟨row, hrow, rfl⟩), ?_⟩
    simpa using hcounted.2
  · rintro (hraises | hcovers)
    · simp [hcommit] at hraises
    · refine ⟨fun week hnone => ?_, fun week price hprice => ?_⟩
      · rw [historyStep_weekly hcommit, Option.or_eq_none_iff] at hnone
        have hempty : rowsToRollUp history window week = [] := by
          by_contra hrows
          obtain ⟨price, hprice, -⟩ := weeklyAggregate_eq_some hrows
          simp [hprice] at hnone
        rw [historyStep_archivedOf hcommit, hkept.absent week hnone.2, hempty, List.append_nil]
      · rw [historyStep_weekly hcommit] at hprice
        rw [historyStep_archivedOf hcommit]
        by_cases hrows : rowsToRollUp history window week = []
        -- a week outside the batch keeps its row and gains no archived day
        · rw [hrows, List.append_nil]
          exact hkept.counted week price (by simpa [hrows, weeklyAggregate] using hprice)
        · obtain ⟨fresh, hfresh, hdays, hlow⟩ := weeklyAggregate_eq_some hrows
          obtain ⟨hdates, hmin⟩ := hcovers week hrows
          rw [hfresh, Option.some_or, Option.some.injEq] at hprice
          subst hprice
          refine ⟨?_, hlow.trans hmin⟩
          rw [hdays, List.map_append, Aggregate.countDistinct_append_eq_iff]
          intro date hdate
          obtain ⟨row, hrow, rfl⟩ := List.mem_map.mp hdate
          exact hdates row hrow

theorem losesNoDay_step_iff (history : ArchiveHistory) (batch : TierBatch)
    (hkept : LosesNoDay history) :
    LosesNoDay (historyStep history batch) ↔ CoversArchived history batch := by
  cases batch with
  | refresh call window =>
      refine ⟨fun _ => trivial, fun _ => ⟨?_, ?_⟩⟩
      · intro week
        simp only [historyStep, refreshBatch_weekly]
        exact hkept.absent week
      · intro week price
        simp only [historyStep, refreshBatch_weekly]
        exact hkept.counted week price
  | archive call window =>
      cases hcommit : call.raises window with
      | true =>
          rw [historyStep_of_raises hcommit]
          exact ⟨fun _ => Or.inl hcommit, fun _ => hkept⟩
      | false => exact losesNoDay_archive_iff hcommit hkept

/-- Tiers whose weekly table is still empty, before any row was archived. -/
def unarchived (tiers : Tiers) : ArchiveHistory where
  tiers := { tiers with printPriceWeekly := .empty }
  archived := []

/-- A run of refresh and archive calls keeps every weekly row exact in every
state it visits exactly when each archive batch covers what was archived before. -/
theorem archive_loses_no_day_iff (tiers : Tiers) (calls : List TierCall) :
    (∀ history ∈ Run.visited historyStep (unarchived tiers)
        (historyPlan (unarchived tiers) calls), LosesNoDay history) ↔
      Run.StepsMeet historyStep CoversArchived (unarchived tiers)
        (historyPlan (unarchived tiers) calls) :=
  Run.forall_visited_iff losesNoDay_step_iff
    ⟨fun _ _ => rfl, fun week price hprice => by simp [unarchived] at hprice⟩

/-- A day is archived; another day of its week is filled in late and archived;
the weekly row counts only the second. -/
theorem backfilled_week_is_overwritten :
    ¬ ∀ (tiers : Tiers) (calls : List TierCall),
      LosesNoDay ((historyPlan (unarchived tiers) calls).foldl historyStep (unarchived tiers)) := by
  intro hkept
  have hcounted := (hkept (.unrolled .empty .empty)
    [.refresh (refreshDay 4 (observedOn 4)), .archive archiveFirstWeeks,
      .refresh (refreshDay 5 (observedOn 5)), .archive archiveFirstWeeks]).counted
    (4, ⟨1, 1, 1, 1, 1, 1⟩) ⟨⟨some 100, none, none⟩, 1, some 1⟩ (by decide +kernel)
  revert hcounted
  decide +kernel

end AutoMana.Pricing
