import AutoMana.Pricing.DailyRollup
import AutoMana.Pricing.WeeklyArchive

/-!
# Observations of days already refreshed

Tier 1 takes observations of any day at any time: a history load and the
promotion of sold prices both book past days. A scheduled refresh passes no
dates, so it starts on the day after the daily watermark and never returns to a
day it has passed. The daily table follows tier 1 exactly as long as no load
changes the aggregate of a passed day.
-/

namespace AutoMana.Pricing

open Relational

/-- The pricing tables between the calls of a run. -/
structure TierRun where
  tier1 : Tier1
  /-- Tier 1 as the latest refresh call found it. -/
  refreshedFrom : Tier1
  tiers : Tiers
  /-- The weeks whose archive batch has committed so far. -/
  archived : List Window

inductive TierEvent where
  /-- An upsert into `price_observation`, and the products as its load leaves them. -/
  | observe (excluded : Table ObservationKey Observation)
      (onConflict : Observation → Observation → Observation) (products : Products)
  /-- `CALL pricing.refresh_daily_prices(NULL, NULL)`. -/
  | refresh (currentDate : Int)
  | archive (call : ArchiveCall)

/-- A refresh call without dates of which no batch fails. -/
def scheduledRefresh (tier1 : Tier1) (currentDate : Int) : RefreshCall where
  pFrom := none
  pTo := none
  currentDate := currentDate
  tier1 := tier1
  raises := fun _ => false

def tierStep (run : TierRun) : TierEvent → TierRun
  | .observe excluded onConflict products =>
    { run with tier1 := ⟨run.tier1.priceObservation.upsert excluded onConflict, products⟩ }
  | .refresh currentDate =>
    { run with
      refreshedFrom := run.tier1
      tiers := afterRefresh run.tiers (scheduledRefresh run.tier1 currentDate) }
  | .archive call =>
    { run with
      tiers := archiveToWeekly call run.tiers
      archived := run.archived ++ (archiveWindows call run.tiers).filter (!call.raises ·) }

/-- A database without prices, its daily watermark seeded on a given day. -/
def freshRun (seed : Int) : TierRun where
  tier1 := ⟨.empty, ⟨.empty, List.nodup_nil, .empty, List.nodup_nil⟩⟩
  refreshedFrom := ⟨.empty, ⟨.empty, List.nodup_nil, .empty, List.nodup_nil⟩⟩
  tiers := .unrolled .empty ⟨[(.daily, seed)], List.nodup_singleton _⟩
  archived := []

def IsArchived (run : TierRun) (date : Int) : Prop :=
  ∃ window ∈ run.archived, window.Contains date

/-- Up to the daily watermark, every day that is not archived holds the
aggregates of tier 1 as the latest refresh call found it. -/
def UpToDate (run : TierRun) : Prop :=
  ∀ last, run.tiers.tierWatermark.get? .daily = some last →
    ∀ date ≤ last, ¬ IsArchived run date → ∀ key,
      run.tiers.printPriceDaily.get? (date, key) = dailyReference run.refreshedFrom date key

/-- Nothing is rolled up past the daily watermark. -/
def EmptyAhead (run : TierRun) : Prop :=
  ∀ last, run.tiers.tierWatermark.get? .daily = some last →
    ∀ date, last < date → ∀ key, run.tiers.printPriceDaily.get? (date, key) = none

/-- A refresh finds the aggregates of the days it does not return to as the
previous refresh found them. -/
def LeavesPassedDays (run : TierRun) : TierEvent → Prop
  | .refresh _ => ∀ last, run.tiers.tierWatermark.get? .daily = some last →
    ∀ date ≤ last, ¬ IsArchived run date → ∀ key,
      dailyReference run.tier1 date key = dailyReference run.refreshedFrom date key
  | _ => True

/-! ## What a call without dates does -/

theorem scheduledRefresh_range {tiers : Tiers} {last : Int}
    (hlast : tiers.tierWatermark.get? .daily = some last) (tier1 : Tier1) (currentDate : Int) :
    refreshRange (scheduledRefresh tier1 currentDate) tiers =
      .ok (last + 1, currentDate - 1) := by
  simp only [refreshRange, scheduledRefresh, hlast]
  rfl

theorem foldl_refreshBatch_watermark {call : RefreshCall}
    (hcommit : ∀ window, call.raises window = false) (v_to v_from : Int) (tiers : Tiers)
    (last : Int) (hlast : tiers.tierWatermark.get? .daily = some last) :
    ((batchWindows 30 v_to v_from).foldl (fun tiers window => refreshBatch call window tiers)
        tiers).tierWatermark.get? .daily = some (if v_from ≤ v_to then v_to else last) := by
  fun_induction batchWindows 30 v_to v_from generalizing tiers last with
  | case1 v_from hle v_end ih =>
      rw [List.foldl_cons]
      rw [ih _ v_end ((refreshBatch_watermark (hcommit _) tiers).trans (by rw [hlast]; rfl))]
      -- the last window ends on the last day of the range
      split_ifs with hrest
      · rfl
      · congr 1
        change min _ v_to = v_to
        omega
  | case2 v_from hgt => rw [List.foldl_nil, hlast, if_neg hgt]

theorem scheduledRefresh_watermark {tiers : Tiers} {last : Int}
    (hlast : tiers.tierWatermark.get? .daily = some last) (tier1 : Tier1) (currentDate : Int) :
    (afterRefresh tiers (scheduledRefresh tier1 currentDate)).tierWatermark.get? .daily =
      some (max last (currentDate - 1)) := by
  rw [afterRefresh_eq_foldl, refreshWindows, scheduledRefresh_range hlast]
  rw [foldl_refreshBatch_watermark (fun _ => rfl) _ _ _ _ hlast]
  congr 1
  split_ifs <;> omega

/-- The call touches the days after the watermark and no other. -/
theorem scheduledRefresh_daily {tiers : Tiers} {last : Int}
    (hlast : tiers.tierWatermark.get? .daily = some last) (tier1 : Tier1)
    (currentDate date : Int) (key : PriceKey) :
    (afterRefresh tiers (scheduledRefresh tier1 currentDate)).printPriceDaily.get? (date, key) =
      if last < date ∧ date < currentDate then
        (dailyReference tier1 date key).or (tiers.printPriceDaily.get? (date, key))
      else tiers.printPriceDaily.get? (date, key) := by
  rw [afterRefresh_eq_foldl, foldl_refreshBatch_daily fun _ _ => rfl]
  simp only [exists_refreshWindow_iff (scheduledRefresh_range hlast tier1 currentDate)]
  exact if_congr (by omega) rfl rfl

theorem scheduledRefresh_unseeded {tiers : Tiers}
    (hnone : tiers.tierWatermark.get? .daily = none) (tier1 : Tier1) (currentDate : Int) :
    afterRefresh tiers (scheduledRefresh tier1 currentDate) = tiers := by
  simp only [afterRefresh, refreshDailyPrices, refreshRange, scheduledRefresh, hnone]
  rfl

/-! ## What an archive call does -/

theorem archiveToWeekly_dailyWatermark (call : ArchiveCall) (tiers : Tiers) :
    (archiveToWeekly call tiers).tierWatermark.get? .daily =
      tiers.tierWatermark.get? .daily := by
  rw [archiveToWeekly_eq_foldl]
  generalize archiveWindows call tiers = windows
  induction windows generalizing tiers with
  | nil => rfl
  | cons window rest ih =>
      rw [List.foldl_cons, ih, archiveBatch]
      split_ifs
      · rfl
      · simp [Tiers.setWatermark, rollUpWeek]

/-- The days of an archive call are the archived ones, and only those lose rows. -/
theorem archive_daily {run : TierRun} {call : ArchiveCall} {date : Int}
    (hkept : ¬ IsArchived (tierStep run (.archive call)) date) (key : PriceKey) :
    ¬ IsArchived run date ∧
      (tierStep run (.archive call)).tiers.printPriceDaily.get? (date, key) =
        run.tiers.printPriceDaily.get? (date, key) := by
  constructor
  · rintro ⟨window, hmem, hcontains⟩
    exact hkept ⟨window, List.mem_append_left _ hmem, hcontains⟩
  · simp only [tierStep]
    rw [archiveToWeekly_daily, if_neg]
    rintro ⟨window, hmem, hcommit, hcontains⟩
    refine hkept ⟨window, List.mem_append_right _ ?_, hcontains⟩
    exact List.mem_filter.mpr ⟨hmem, by simp [hcommit]⟩

/-! ## Runs -/

theorem emptyAhead_step {run : TierRun} (event : TierEvent) (hahead : EmptyAhead run) :
    EmptyAhead (tierStep run event) := by
  intro last' hlast' date hdate key
  cases event with
  | observe excluded onConflict products => exact hahead last' hlast' date hdate key
  | refresh currentDate =>
      simp only [tierStep] at hlast' ⊢
      cases hlast : run.tiers.tierWatermark.get? .daily with
      | none =>
          rw [scheduledRefresh_unseeded hlast, hlast] at hlast'
          cases hlast'
      | some last =>
          rw [scheduledRefresh_watermark hlast, Option.some.injEq] at hlast'
          rw [scheduledRefresh_daily hlast, if_neg (by omega)]
          exact hahead last hlast date (by omega) key
  | archive call =>
      simp only [tierStep, archiveToWeekly_dailyWatermark] at hlast' ⊢
      rw [archiveToWeekly_daily]
      split_ifs
      · rfl
      · exact hahead last' hlast' date hdate key

/-- A refresh brings the days it rolls up up to date whatever they hold; the
days it has passed stay as they were. -/
theorem upToDate_refresh_iff {run : TierRun} (hahead : EmptyAhead run) (hkept : UpToDate run)
    (currentDate : Int) :
    UpToDate (tierStep run (.refresh currentDate)) ↔
      LeavesPassedDays run (.refresh currentDate) := by
  cases hlast : run.tiers.tierWatermark.get? .daily with
  | none => simp [UpToDate, LeavesPassedDays, tierStep, scheduledRefresh_unseeded hlast, hlast]
  | some last =>
      simp only [UpToDate, LeavesPassedDays, tierStep, scheduledRefresh_watermark hlast,
        scheduledRefresh_daily hlast, hlast, Option.some.injEq, forall_eq']
      constructor
      · intro hnext date hle hnot key
        have hday := hnext date (by omega) hnot key
        rw [if_neg (by omega), hkept last hlast date hle hnot key] at hday
        exact hday.symm
      · intro hpassed date hle hnot key
        by_cases hdate : date ≤ last
        · rw [if_neg (by omega), hkept last hlast date hdate hnot key]
          exact (hpassed date hdate hnot key).symm
        · rw [if_pos (by omega), hahead last hlast date (by omega) key, Option.or_none]

theorem upToDate_step_iff {run : TierRun} (hahead : EmptyAhead run) (hkept : UpToDate run)
    (event : TierEvent) : UpToDate (tierStep run event) ↔ LeavesPassedDays run event := by
  cases event with
  | observe excluded onConflict products => exact ⟨fun _ => trivial, fun _ => hkept⟩
  | refresh currentDate => exact upToDate_refresh_iff hahead hkept currentDate
  | archive call =>
      refine ⟨fun _ => trivial, fun _ last hlast date hle hnot key => ?_⟩
      obtain ⟨hnot', hsame⟩ := archive_daily hnot key
      rw [hsame]
      simp only [tierStep, archiveToWeekly_dailyWatermark] at hlast
      exact hkept last hlast date hle hnot' key

theorem freshRun_upToDate (seed : Int) : EmptyAhead (freshRun seed) ∧ UpToDate (freshRun seed) :=
  ⟨fun _ _ _ _ _ => rfl, fun _ _ _ _ _ _ => rfl⟩

/-- A run of loads, scheduled refreshes and archive calls leaves the daily table
up to date after every call exactly when each refresh finds the aggregates of
the days it has passed unchanged. -/
theorem late_observations_reach_daily_iff (seed : Int) (events : List TierEvent) :
    (∀ run ∈ Run.visited tierStep (freshRun seed) events, UpToDate run) ↔
      Run.StepsMeet tierStep LeavesPassedDays (freshRun seed) events := by
  have hproperty : ∀ run, EmptyAhead run ∧ UpToDate run → UpToDate run := fun _ hrun => hrun.2
  apply Run.forall_visited_iff_of_inv hproperty ?_ ?_ (freshRun_upToDate seed)
  · intro run event hrun hmeet
    exact ⟨emptyAhead_step event hrun.1, (upToDate_step_iff hrun.1 hrun.2 event).mpr hmeet⟩
  · intro run event hrun hnext
    exact (upToDate_step_iff hrun.1 hrun.2 event).mp hnext

/-- The key of the observation that `observedOn` books. -/
def observedKey (day : Int) : ObservationKey := ⟨day, 1, 1, 1, 1, 1, 1⟩

/-- One price of the product, upserted for a day. -/
def observePrice (day : Int) (cents : Nat) : TierEvent :=
  .observe ⟨[(observedKey day, ⟨⟨some cents, none, none⟩, none, none, 0⟩)], by simp⟩
    (fun _ new => new) oneProduct

/-- A price of day 7 that is corrected after day 7 was refreshed stays as it was. -/
theorem late_observation_is_missed :
    ¬ ∀ (seed : Int) (events : List TierEvent),
      ∀ run ∈ Run.visited tierStep (freshRun seed) events, UpToDate run := by
  intro hupToDate
  have hday := hupToDate 6
    [observePrice 7 100, .refresh 8, observePrice 7 250, .refresh 9] _
    (Run.foldl_mem_visited _ _ _) 8 (by decide +kernel) 7 (by decide)
    (by rintro ⟨_, hmem, _⟩; cases hmem) ⟨1, 1, 1, 1, 1, 1⟩
  revert hday
  decide +kernel

end AutoMana.Pricing
