import AutoMana.Relational.Slices
import Mathlib.Data.List.Sort
import Mathlib.Data.Int.Order.Basic

/-!
# The tiered refresh

Each tier of the print catalogue is refreshed over a window of days, in slots a day.
A slot task computes its slice of the `(print_id, market)` work list from the date
and the slot alone, so no task needs to know what the others fetched.
-/

namespace AutoMana.Worker

open Relational

inductive Market where
  | tcg
  | cardmarket
  | cardkingdom
  | starcity
deriving DecidableEq, Repr

/-- The place of a market's name in the order of strings, by which `sort` compares it. -/
def Market.rank : Market → ℕ
  | .cardkingdom => 0
  | .cardmarket => 1
  | .starcity => 2
  | .tcg => 3

inductive Tier where
  | tier1
  | tier2
  | tier3
deriving DecidableEq, Repr

/-- `_MTGSTOCK_EPOCH`, 2026-06-01, in days since 1970-01-01. -/
def mtgstockEpoch : ℤ := 20605

/-- `_TIER_MARKETS`. -/
def tierMarkets : Tier → List Market
  | .tier1 => [.tcg, .cardmarket, .cardkingdom, .starcity]
  | .tier2 => [.tcg, .cardmarket]
  | .tier3 => [.tcg]

/-- `_TIER_WINDOW`: the days of a tier's window and its slots a day. -/
def tierWindow : Tier → ℕ × ℕ
  | .tier1 => (7, 4)
  | .tier2 => (14, 1)
  | .tier3 => (30, 1)

abbrev Tier.windowDays (tier : Tier) : ℕ := (tierWindow tier).1

abbrev Tier.slotsPerDay (tier : Tier) : ℕ := (tierWindow tier).2

/-- The order of the pairs as tuples. -/
def PairLe (first second : ℤ × Market) : Prop :=
  first.1 < second.1 ∨ first.1 = second.1 ∧ first.2.rank ≤ second.2.rank

instance : DecidableRel PairLe := fun first second =>
  inferInstanceAs (Decidable (first.1 < second.1 ∨
    first.1 = second.1 ∧ first.2.rank ≤ second.2.rank))

/-- `_tier_worklist`. -/
def tierWorklist (print_ids : List ℤ) (tier : Tier) : List (ℤ × Market) :=
  let markets := tierMarkets tier
  let pairs := (print_ids.insertionSort (· ≤ ·)).flatMap fun pid => markets.map fun m => (pid, m)
  pairs.insertionSort PairLe

/-- `_tier_slice_pairs`, where `today` is what its `date.today()` returns. -/
def tierSlicePairs (today : ℤ) (print_ids : List ℤ) (tier : Tier) (slot : ℕ) :
    List (ℤ × Market) :=
  let pairs := tierWorklist print_ids tier
  let window_days := (tierWindow tier).1
  let slots_per_day := (tierWindow tier).2
  let total_slots := window_days * slots_per_day
  if pairs.isEmpty then []
  else
    let slice_size := pairs.length / total_slots
    let day_offset := today - mtgstockEpoch
    let slice_idx := ((day_offset * slots_per_day + slot) % (total_slots : ℕ)).toNat
    let start := slice_idx * slice_size
    let stop := if slice_idx < total_slots - 1 then start + slice_size else pairs.length
    (pairs.take stop).drop start

theorem mem_tierWorklist {print_ids : List ℤ} {tier : Tier} {pair : ℤ × Market} :
    pair ∈ tierWorklist print_ids tier ↔ pair.1 ∈ print_ids ∧ pair.2 ∈ tierMarkets tier := by
  simp only [tierWorklist, List.mem_insertionSort, List.mem_flatMap, List.mem_map]
  constructor
  · intro hpair
    obtain ⟨pid, hpid, market, hmarket, rfl⟩ := hpair
    exact ⟨hpid, hmarket⟩
  · intro hpair
    exact ⟨pair.1, hpair.1, pair.2, hpair.2, rfl⟩

theorem tierMarkets_nodup (tier : Tier) : (tierMarkets tier).Nodup := by
  cases tier <;> decide

theorem tierWorklist_nodup {print_ids : List ℤ} (hnodup : print_ids.Nodup) (tier : Tier) :
    (tierWorklist print_ids tier).Nodup := by
  apply (List.perm_insertionSort _ _).nodup_iff.mpr
  apply List.nodup_flatMap.mpr
  constructor
  · intro pid _
    exact (tierMarkets_nodup tier).map fun first second heq => (Prod.mk.inj heq).2
  · have hsorted : (print_ids.insertionSort (· ≤ ·)).Nodup :=
      (List.perm_insertionSort _ _).nodup_iff.mpr hnodup
    apply hsorted.imp
    intro first second hne pair hfirst hsecond
    obtain ⟨_, _, rfl⟩ := List.mem_map.mp hfirst
    obtain ⟨_, _, heq⟩ := List.mem_map.mp hsecond
    exact hne (Prod.mk.inj heq).1.symm

theorem tierWindow_pos (tier : Tier) : 0 < tier.windowDays ∧ 0 < tier.slotsPerDay := by
  cases tier <;> decide

/-- A slot task takes the slice of its turn. -/
theorem tierSlicePairs_eq_slice (today : ℤ) (print_ids : List ℤ) (tier : Tier) (slot : ℕ) :
    tierSlicePairs today print_ids tier slot =
      slice (tierWorklist print_ids tier) (tier.windowDays * tier.slotsPerDay)
        (turn tier.windowDays tier.slotsPerDay (today - mtgstockEpoch) slot) := by
  by_cases hempty : tierWorklist print_ids tier = []
  · rw [hempty, slice, List.take_nil, List.drop_nil, tierSlicePairs, if_pos (by simp [hempty])]
  · rw [tierSlicePairs, if_neg (by simp [hempty])]
    rfl

theorem mem_of_mem_tierSlicePairs {today : ℤ} {print_ids : List ℤ} {tier : Tier} {slot : ℕ}
    {pair : ℤ × Market} (hpair : pair ∈ tierSlicePairs today print_ids tier slot) :
    pair.1 ∈ print_ids ∧ pair.2 ∈ tierMarkets tier := by
  rw [tierSlicePairs_eq_slice] at hpair
  exact mem_tierWorklist.mp (mem_of_mem_slice hpair)

/-- The turns of two slot tasks of a tier are the same exactly when they are the same slot,
whole windows apart. -/
theorem slotTurn_eq_iff {tier : Tier} (today today' : ℤ) {slot slot' : ℕ}
    (hslot : slot < tier.slotsPerDay) (hslot' : slot' < tier.slotsPerDay) :
    turn tier.windowDays tier.slotsPerDay (today - mtgstockEpoch) slot =
        turn tier.windowDays tier.slotsPerDay (today' - mtgstockEpoch) slot' ↔
      slot = slot' ∧ (tier.windowDays : ℤ) ∣ today' - today := by
  rw [turn_eq_iff (tierWindow_pos tier).1 hslot hslot', sub_sub_sub_cancel_right]

theorem mem_tierSlicePairs_of_dvd {print_ids : List ℤ} {tier : Tier} {today today' : ℤ}
    {slot : ℕ} (hslot : slot < tier.slotsPerDay)
    (hdvd : (tier.windowDays : ℤ) ∣ today' - today) {pair : ℤ × Market}
    (hpair : pair ∈ tierSlicePairs today print_ids tier slot) :
    pair ∈ tierSlicePairs today' print_ids tier slot := by
  rw [tierSlicePairs_eq_slice] at hpair ⊢
  rwa [← (slotTurn_eq_iff today today' hslot hslot).mpr ⟨rfl, hdvd⟩]

/-- A pair of distinct ids is in the slices of two slot tasks of its tier exactly when they
are the same slot, whole windows apart. -/
theorem mem_tierSlicePairs_iff_of_mem {print_ids : List ℤ} (hnodup : print_ids.Nodup)
    {tier : Tier} {today today' : ℤ} {slot slot' : ℕ} (hslot : slot < tier.slotsPerDay)
    (hslot' : slot' < tier.slotsPerDay) {pair : ℤ × Market}
    (hpair : pair ∈ tierSlicePairs today print_ids tier slot) :
    pair ∈ tierSlicePairs today' print_ids tier slot' ↔
      slot = slot' ∧ (tier.windowDays : ℤ) ∣ today' - today := by
  constructor
  · intro hpair'
    obtain ⟨hwindow, hslots⟩ := tierWindow_pos tier
    rw [tierSlicePairs_eq_slice] at hpair hpair'
    apply (slotTurn_eq_iff today today' hslot hslot').mp
    exact slice_index_unique (tierWorklist_nodup hnodup tier) (turn_lt hwindow hslots _ _)
      (turn_lt hwindow hslots _ _) hpair hpair'
  · intro hsame
    obtain ⟨rfl, hdvd⟩ := hsame
    exact mem_tierSlicePairs_of_dvd hslot hdvd hpair

/-- Over a window of days from any first day on, every pair is in some slice. -/
theorem exists_mem_tierSlicePairs {print_ids : List ℤ} {tier : Tier} (first : ℤ)
    {pair : ℤ × Market} (hid : pair.1 ∈ print_ids) (hmarket : pair.2 ∈ tierMarkets tier) :
    ∃ day < tier.windowDays, ∃ slot < tier.slotsPerDay,
      pair ∈ tierSlicePairs (first + (day : ℕ)) print_ids tier slot := by
  obtain ⟨hwindow, hslots⟩ := tierWindow_pos tier
  obtain ⟨index, hindex, hslice⟩ := exists_slice_of_mem (Nat.mul_pos hwindow hslots)
    (mem_tierWorklist.mpr ⟨hid, hmarket⟩)
  obtain ⟨day, hday, slot, hslot, hturn⟩ := exists_turn_eq (first - mtgstockEpoch) hindex
  refine ⟨day, hday, slot, hslot, ?_⟩
  rw [tierSlicePairs_eq_slice, add_sub_right_comm, hturn]
  exact hslice

/-- Over any window of consecutive days, the slices of a tier's slots are disjoint and
together they are the work list. -/
theorem tierSlicePairs_partition {print_ids : List ℤ} (hnodup : print_ids.Nodup) (tier : Tier)
    (first : ℤ) :
    (∀ day < tier.windowDays, ∀ slot < tier.slotsPerDay,
      (tierSlicePairs (first + (day : ℕ)) print_ids tier slot).Nodup) ∧
    (∀ day < tier.windowDays, ∀ slot < tier.slotsPerDay,
      ∀ day' < tier.windowDays, ∀ slot' < tier.slotsPerDay, (day, slot) ≠ (day', slot') →
        List.Disjoint (tierSlicePairs (first + (day : ℕ)) print_ids tier slot)
          (tierSlicePairs (first + (day' : ℕ)) print_ids tier slot')) ∧
    ∀ pair, (∃ day < tier.windowDays, ∃ slot < tier.slotsPerDay,
      pair ∈ tierSlicePairs (first + (day : ℕ)) print_ids tier slot) ↔
        pair.1 ∈ print_ids ∧ pair.2 ∈ tierMarkets tier := by
  refine ⟨?_, ?_, ?_⟩
  · intro day _ slot _
    rw [tierSlicePairs_eq_slice]
    exact slice_nodup (tierWorklist_nodup hnodup tier) _ _
  · intro day hday slot hslot day' hday' slot' hslot' hne pair hpair hpair'
    obtain ⟨rfl, hdvd⟩ := (mem_tierSlicePairs_iff_of_mem hnodup hslot hslot' hpair).mp hpair'
    rw [add_sub_add_left_eq_sub] at hdvd
    -- the two days are in one window, so a multiple of its length apart is none
    have hsame : (day' : ℤ) - day = 0 := by
      apply Int.eq_zero_of_abs_lt_dvd hdvd
      rw [abs_lt]
      omega
    exact hne (by simp only [Prod.mk.injEq, and_true]; omega)
  · intro pair
    constructor
    · intro hpair
      obtain ⟨_, _, _, _, hmem⟩ := hpair
      exact mem_of_mem_tierSlicePairs hmem
    · intro hpair
      exact exists_mem_tierSlicePairs first hpair.1 hpair.2

theorem tierSlicePairs_partition_threeIds :
    (∀ day < Tier.tier1.windowDays, ∀ slot < Tier.tier1.slotsPerDay,
      (tierSlicePairs (20600 + (day : ℕ)) [30, 10, 20] .tier1 slot).Nodup) ∧
    (∀ day < Tier.tier1.windowDays, ∀ slot < Tier.tier1.slotsPerDay,
      ∀ day' < Tier.tier1.windowDays, ∀ slot' < Tier.tier1.slotsPerDay,
        (day, slot) ≠ (day', slot') →
        List.Disjoint (tierSlicePairs (20600 + (day : ℕ)) [30, 10, 20] .tier1 slot)
          (tierSlicePairs (20600 + (day' : ℕ)) [30, 10, 20] .tier1 slot')) ∧
    ∀ pair, (∃ day < Tier.tier1.windowDays, ∃ slot < Tier.tier1.slotsPerDay,
      pair ∈ tierSlicePairs (20600 + (day : ℕ)) [30, 10, 20] .tier1 slot) ↔
        pair.1 ∈ [30, 10, 20] ∧ pair.2 ∈ tierMarkets .tier1 :=
  tierSlicePairs_partition (by decide) .tier1 20600

end AutoMana.Worker
