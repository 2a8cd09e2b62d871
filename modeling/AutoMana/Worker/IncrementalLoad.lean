import AutoMana.Relational.Runs
import AutoMana.Worker.TierRefresh
import Mathlib.Data.List.Dedup

/-!
# The incremental load after the tiered refresh

The incremental load does not know what the slot tasks fetched: it recomputes their
slices. Both sides read the clock, the slot task once and the load once for every slot
and market, and the slice depends on the date read.
-/

namespace AutoMana.Worker

open Relational Relational.Run

/-- A slot task that ran, with the instant of its `date.today()`. -/
structure SlotTask where
  tier : Tier
  slot : ℕ
  scheduled : slot < tier.slotsPerDay
  readAt : ℤ

/-- What happens to the tiered refresh: a slot task runs, or an incremental load whose
`date.today()` is called at an instant for each tier, market and slot. -/
inductive Beat where
  | refresh (task : SlotTask)
  | load (readAt : Tier → Market → ℕ → ℤ)

/-- An incremental load that ran: the slot tasks since the load before it, and the market
and `ids_filter` of each of its `bulk_load` steps. -/
structure LoadRun where
  fetched : List SlotTask
  bulkLoads : List (Market × List ℤ)

structure RefreshState where
  sinceLoad : List SlotTask
  loads : List LoadRun

section

variable (today : ℤ → ℤ) (ids : Tier → List ℤ)

/-- The pairs that a slot task fetches. -/
def SlotTask.pairs (task : SlotTask) : List (ℤ × Market) :=
  tierSlicePairs (today task.readAt) (ids task.tier) task.tier task.slot

/-- `_tier_today_ids_for_market`. -/
def tierTodayIdsForMarket (tier : Tier) (market : Market) (readAt : ℕ → ℤ) : List ℤ :=
  let found := (List.range tier.slotsPerDay).flatMap fun slot =>
    ((tierSlicePairs (today (readAt slot)) (ids tier) tier slot).filter
      fun pair => pair.2 = market).map Prod.fst
  found.dedup.insertionSort (· ≤ ·)

/-- The ids of a market that `mtgstock_incremental_load` collects over the tiers. -/
def marketIds (readAt : Tier → Market → ℕ → ℤ) (market : Market) : List ℤ :=
  let found := [Tier.tier1, .tier2, .tier3].flatMap fun tier =>
    if market ∈ tierMarkets tier then
      tierTodayIdsForMarket today ids tier market (readAt tier market)
    else []
  found.dedup.insertionSort (· ≤ ·)

/-- The `bulk_load` steps of `mtgstock_incremental_load`. A market without ids has none. -/
def mtgstockIncrementalLoad (readAt : Tier → Market → ℕ → ℤ) : List (Market × List ℤ) :=
  [Market.tcg, .cardmarket, .cardkingdom, .starcity].filterMap fun market =>
    let market_ids := marketIds today ids readAt market
    if market_ids.isEmpty then none else some (market, market_ids)

def beatStep (state : RefreshState) : Beat → RefreshState
  | .refresh task => { state with sinceLoad := state.sinceLoad ++ [task] }
  | .load readAt =>
    { sinceLoad := []
      loads := state.loads ++ [⟨state.sinceLoad, mtgstockIncrementalLoad today ids readAt⟩] }

/-- Every pair fetched since the load before is in the `ids_filter` of its market. -/
def LoadRun.Complete (load : LoadRun) : Prop :=
  ∀ task ∈ load.fetched, ∀ pair ∈ task.pairs today ids,
    ∃ bulk ∈ load.bulkLoads, bulk.1 = pair.2 ∧ pair.1 ∈ bulk.2

def RefreshState.EveryFetchLoaded (state : RefreshState) : Prop :=
  ∀ load ∈ state.loads, load.Complete today ids

instance : DecidablePred (RefreshState.EveryFetchLoaded today ids) := fun state =>
  inferInstanceAs (Decidable (∀ load ∈ state.loads, ∀ task ∈ load.fetched,
    ∀ pair ∈ task.pairs today ids, ∃ bulk ∈ load.bulkLoads, bulk.1 = pair.2 ∧ pair.1 ∈ bulk.2))

/-- A load reads the date of every slot task since the load before it, up to whole
windows, for each market in which the task has pairs. -/
def SlotDatesRead (state : RefreshState) : Beat → Prop
  | .refresh _ => True
  | .load readAt =>
    ∀ task ∈ state.sinceLoad, ∀ pair ∈ task.pairs today ids,
      (task.tier.windowDays : ℤ) ∣
        today (readAt task.tier pair.2 task.slot) - today task.readAt

instance (state : RefreshState) : DecidablePred (SlotDatesRead today ids state)
  | .refresh _ => isTrue trivial
  | .load readAt =>
    inferInstanceAs (Decidable (∀ task ∈ state.sinceLoad, ∀ pair ∈ task.pairs today ids,
      (task.tier.windowDays : ℤ) ∣
        today (readAt task.tier pair.2 task.slot) - today task.readAt))

end

/-- The print ids of the tiers: every mapped print id falls into exactly one tier. -/
structure TierIds (ids : Tier → List ℤ) : Prop where
  nodup : ∀ tier, (ids tier).Nodup
  oneTier : ∀ tier tier' pid, pid ∈ ids tier → pid ∈ ids tier' → tier = tier'

variable {today : ℤ → ℤ} {ids : Tier → List ℤ}

theorem mem_tierTodayIdsForMarket {tier : Tier} {market : Market} {readAt : ℕ → ℤ} {pid : ℤ} :
    pid ∈ tierTodayIdsForMarket today ids tier market readAt ↔
      ∃ slot < tier.slotsPerDay,
        (pid, market) ∈ tierSlicePairs (today (readAt slot)) (ids tier) tier slot := by
  simp only [tierTodayIdsForMarket, List.mem_insertionSort, List.mem_dedup, List.mem_flatMap,
    List.mem_range, List.mem_map, List.mem_filter, decide_eq_true_eq]
  constructor
  · intro hpid
    obtain ⟨slot, hslot, pair, ⟨hpair, rfl⟩, rfl⟩ := hpid
    exact ⟨slot, hslot, hpair⟩
  · intro hpid
    obtain ⟨slot, hslot, hpair⟩ := hpid
    exact ⟨slot, hslot, _, ⟨hpair, rfl⟩, rfl⟩

/-- The ids of a market are those of the pairs in the slices that the load recomputes. -/
theorem mem_marketIds {readAt : Tier → Market → ℕ → ℤ} {market : Market} {pid : ℤ} :
    pid ∈ marketIds today ids readAt market ↔
      ∃ tier, ∃ slot < tier.slotsPerDay,
        (pid, market) ∈
          tierSlicePairs (today (readAt tier market slot)) (ids tier) tier slot := by
  simp only [marketIds, List.mem_insertionSort, List.mem_dedup, List.mem_flatMap]
  constructor
  · intro hpid
    obtain ⟨tier, -, hpid⟩ := hpid
    split at hpid
    · exact ⟨tier, mem_tierTodayIdsForMarket.mp hpid⟩
    · cases hpid
  · intro hpid
    obtain ⟨tier, slot, hslot, hpair⟩ := hpid
    refine ⟨tier, by cases tier <;> decide, ?_⟩
    rw [if_pos (mem_of_mem_tierSlicePairs hpair).2]
    exact mem_tierTodayIdsForMarket.mpr ⟨slot, hslot, hpair⟩

theorem mem_bulkLoads_iff {readAt : Tier → Market → ℕ → ℤ} {market : Market} {pid : ℤ} :
    (∃ bulk ∈ mtgstockIncrementalLoad today ids readAt, bulk.1 = market ∧ pid ∈ bulk.2) ↔
      pid ∈ marketIds today ids readAt market := by
  simp only [mtgstockIncrementalLoad, List.mem_filterMap]
  constructor
  · intro hbulk
    obtain ⟨bulk, ⟨named, -, hsome⟩, rfl, hpid⟩ := hbulk
    split at hsome
    · cases hsome
    · cases hsome
      exact hpid
  · intro hpid
    have hids : marketIds today ids readAt market ≠ [] := List.ne_nil_of_mem hpid
    refine ⟨(market, marketIds today ids readAt market),
      ⟨market, by cases market <;> decide, ?_⟩, rfl, hpid⟩
    rw [if_neg (by simpa using hids)]

/-- A load that reads a task's date has each of its pairs in the filter. -/
theorem complete_of_slotDatesRead {state : RefreshState} {readAt : Tier → Market → ℕ → ℤ}
    (hdates : SlotDatesRead today ids state (.load readAt)) :
    LoadRun.Complete today ids ⟨state.sinceLoad, mtgstockIncrementalLoad today ids readAt⟩ := by
  intro task htask pair hpair
  apply mem_bulkLoads_iff.mpr
  apply mem_marketIds.mpr
  refine ⟨task.tier, task.slot, task.scheduled, ?_⟩
  exact mem_tierSlicePairs_of_dvd task.scheduled (hdates task htask pair hpair) hpair

theorem slotDatesRead_of_complete (hids : TierIds ids) {state : RefreshState}
    {readAt : Tier → Market → ℕ → ℤ}
    (hcomplete : LoadRun.Complete today ids
      ⟨state.sinceLoad, mtgstockIncrementalLoad today ids readAt⟩) :
    SlotDatesRead today ids state (.load readAt) := by
  intro task htask pair hpair
  obtain ⟨tier, slot, hslot, hfound⟩ :=
    mem_marketIds.mp (mem_bulkLoads_iff.mp (hcomplete task htask pair hpair))
  -- the pair was found in the tier that fetched it, and there in the same slot
  have htier : task.tier = tier := by
    apply hids.oneTier _ _ pair.1
    · exact (mem_of_mem_tierSlicePairs hpair).1
    · exact (mem_of_mem_tierSlicePairs hfound).1
  subst htier
  obtain ⟨rfl, hdvd⟩ :=
    (mem_tierSlicePairs_iff_of_mem (hids.nodup _) task.scheduled hslot hpair).mp hfound
  exact hdvd

/-- A beat keeps every fetch loaded when it is a slot task or its load is complete. -/
theorem everyFetchLoaded_beatStep {state : RefreshState}
    (hloaded : state.EveryFetchLoaded today ids) (beat : Beat) :
    (beatStep today ids state beat).EveryFetchLoaded today ids ↔
      ∀ readAt, beat = .load readAt → LoadRun.Complete today ids
        ⟨state.sinceLoad, mtgstockIncrementalLoad today ids readAt⟩ := by
  cases beat with
  | refresh task => exact iff_of_true hloaded (fun _ heq => Beat.noConfusion heq)
  | load readAt =>
    simp only [beatStep, RefreshState.EveryFetchLoaded, List.forall_mem_append,
      List.forall_mem_singleton, Beat.load.injEq, forall_eq']
    exact and_iff_right hloaded

/-- Over any order of slot tasks and loads and any readings of the clock, every pair
fetched is in the filter of the next load when each load reads the dates of the slot tasks
before it; for tiers that share no print id this is exact. -/
theorem everyFetchLoaded_of_slotDatesRead (today : ℤ → ℤ) (ids : Tier → List ℤ)
    (run : List Beat) :
    (StepsMeet (beatStep today ids) (SlotDatesRead today ids) ⟨[], []⟩ run →
      ∀ state ∈ visited (beatStep today ids) ⟨[], []⟩ run, state.EveryFetchLoaded today ids) ∧
    (TierIds ids →
      (∀ state ∈ visited (beatStep today ids) ⟨[], []⟩ run, state.EveryFetchLoaded today ids) →
      StepsMeet (beatStep today ids) (SlotDatesRead today ids) ⟨[], []⟩ run) := by
  have hinit : RefreshState.EveryFetchLoaded today ids ⟨[], []⟩ := List.forall_mem_nil _
  constructor
  · intro hmeet
    refine forall_visited ?_ hinit hmeet
    intro state beat hloaded hdates
    apply (everyFetchLoaded_beatStep hloaded beat).mpr
    intro readAt hbeat
    subst hbeat
    exact complete_of_slotDatesRead hdates
  · intro hids
    refine (forall_visited_iff ?_ hinit).mp
    intro state beat hloaded
    rw [everyFetchLoaded_beatStep hloaded beat]
    cases beat with
    | refresh task => exact iff_of_true (fun _ heq => Beat.noConfusion heq) trivial
    | load readAt =>
      simp only [Beat.load.injEq, forall_eq']
      exact ⟨slotDatesRead_of_complete hids, complete_of_slotDatesRead⟩

/-- The instant of a time of the beat schedule on 2026-06-15, ten hours ahead of UTC, in
seconds. -/
def beatInstant (hour minute : ℤ) : ℤ := 20619 * 86400 - 36000 + hour * 3600 + minute * 60

/-- The beat schedule of a day. -/
def beatDay : List Beat :=
  [.refresh ⟨.tier1, 0, by decide, beatInstant 0 30⟩,
    .refresh ⟨.tier1, 1, by decide, beatInstant 6 30⟩,
    .refresh ⟨.tier2, 0, by decide, beatInstant 8 30⟩,
    .refresh ⟨.tier1, 2, by decide, beatInstant 12 0⟩,
    .refresh ⟨.tier3, 0, by decide, beatInstant 14 30⟩,
    .refresh ⟨.tier1, 3, by decide, beatInstant 17 0⟩,
    .load fun _ _ _ => beatInstant 22 0]

/-- Tiers of one print each. -/
def singleIds : Tier → List ℤ
  | .tier1 => [5]
  | .tier2 => [7]
  | .tier3 => [9]

/-- `date.today()` of a process whose clock is some seconds ahead of UTC. -/
def processDate (ahead instant : ℤ) : ℤ := (instant + ahead) / 86400

theorem singleIds_tierIds : TierIds singleIds := by
  constructor
  · intro tier
    cases tier <;> exact List.nodup_singleton _
  · intro tier tier' pid hpid hpid'
    cases tier <;> cases tier' <;> simp_all [singleIds]

/-- In a process on the clock of the beat schedule the whole day has one date. -/
theorem everyFetchLoaded_beatDay_local :
    (∀ state ∈ visited (beatStep (processDate 36000) singleIds) ⟨[], []⟩ beatDay,
      state.EveryFetchLoaded (processDate 36000) singleIds) ∧
    StepsMeet (beatStep (processDate 36000) singleIds) (SlotDatesRead (processDate 36000) singleIds)
      ⟨[], []⟩ beatDay :=
  have hdates := everyFetchLoaded_of_slotDatesRead (processDate 36000) singleIds beatDay
  have hloaded := hdates.1 (by decide)
  ⟨hloaded, hdates.2 singleIds_tierIds hloaded⟩

/-- In a process on UTC the date rolls over after the slot task of tier 2, and the load
recomputes another slice. -/
theorem everyFetchLoaded_beatDay_utc :
    ¬ ∀ state ∈ visited (beatStep (processDate 0) singleIds) ⟨[], []⟩ beatDay,
      state.EveryFetchLoaded (processDate 0) singleIds := by
  decide

end AutoMana.Worker
