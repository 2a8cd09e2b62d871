import AutoMana.Pricing.DailyRefresh

/-!
# What the daily refresh keeps in tiers 2 and latest

Whatever windows the calls ask for, in whatever order, and whichever batches
raise, the latest table stays the newest-row snapshot of the daily table. The
daily table itself is maintained by upserts only: a call makes every key that
has current tier-1 rows exact, and leaves every other row as it was.
-/

namespace AutoMana.Pricing

open Relational

/-! ## The latest table -/

/-- Tiers with nothing rolled up yet. -/
def Tiers.unrolled (weekly : Table (Int × PriceKey) WeeklyPrice)
    (watermark : Table TierName Int) : Tiers where
  printPriceDaily := .empty
  printPriceLatest := .empty
  printPriceWeekly := weekly
  tierWatermark := watermark

/-- A batch either raises and changes nothing, or commits both upserts. -/
theorem refreshBatch_mirrors (call : RefreshCall) (window : Window) {tiers : Tiers}
    (hmirrors : Mirrors tiers.printPriceDaily tiers.printPriceLatest) :
    Mirrors (refreshBatch call window tiers).printPriceDaily
      (refreshBatch call window tiers).printPriceLatest := by
  unfold refreshBatch
  split_ifs
  -- rolled back, or both upserts
  · exact hmirrors
  · exact hmirrors.upsert

theorem afterRefresh_mirrors (call : RefreshCall) {tiers : Tiers}
    (hmirrors : Mirrors tiers.printPriceDaily tiers.printPriceLatest) :
    Mirrors (afterRefresh tiers call).printPriceDaily
      (afterRefresh tiers call).printPriceLatest := by
  rw [afterRefresh_eq_foldl]
  generalize refreshWindows call tiers = windows
  induction windows generalizing tiers with
  | nil => exact hmirrors
  | cons window rest ih => exact ih (refreshBatch_mirrors call window hmirrors)

theorem runRefresh_mirrors (calls : List RefreshCall) {tiers : Tiers}
    (hmirrors : Mirrors tiers.printPriceDaily tiers.printPriceLatest) :
    Mirrors (runRefresh tiers calls).printPriceDaily
      (runRefresh tiers calls).printPriceLatest := by
  induction calls generalizing tiers with
  | nil => exact hmirrors
  | cons call rest ih => exact ih (afterRefresh_mirrors call hmirrors)

/-- After any sequence of refresh calls over empty tables, the latest table has
one row for each key of the daily table and no other, and it is the daily row
of the greatest date. -/
theorem latest_is_newest_daily (weekly : Table (Int × PriceKey) WeeklyPrice)
    (watermark : Table TierName Int) (calls : List RefreshCall) (key : PriceKey) :
    let tiers := runRefresh (Tiers.unrolled weekly watermark) calls
    ((∃ date, (tiers.printPriceDaily.get? (date, key)).isSome) →
      (tiers.printPriceLatest.rows.map Prod.fst).count key = 1) ∧
    ((∀ date, tiers.printPriceDaily.get? (date, key) = none) →
      (tiers.printPriceLatest.rows.map Prod.fst).count key = 0) ∧
    ∀ row, (key, row) ∈ tiers.printPriceLatest.rows →
      IsNewest tiers.printPriceDaily key row := by
  intro tiers
  have hmirrors : Mirrors tiers.printPriceDaily tiers.printPriceLatest :=
    runRefresh_mirrors calls mirrors_empty
  refine ⟨?_, ?_, ?_⟩
  · intro hpresent
    rw [Table.count_key, if_pos ((hmirrors.isSome_iff key).mpr hpresent)]
  · intro habsent
    have hnone : ¬ (tiers.printPriceLatest.get? key).isSome := by
      rw [hmirrors.isSome_iff key]
      simp [habsent]
    rw [Table.count_key, if_neg hnone]
  · intro row hrow
    rw [Table.mem_rows_iff] at hrow
    exact (hmirrors.eq_some_iff key row).mp hrow

/-! ## The daily table -/

/-- The aggregate of the current tier-1 rows of one key on one day, or nothing
when none of them carries a price. -/
def dailyReference (tier1 : Tier1) (date : Int) (key : PriceKey) : Option DailyPrice :=
  dailyAggregate ((dailyInputs tier1).filter fun row => row.priceDate = date ∧ row.key = key)

/-- The batch of a window is the reference on its days, however wide it is. -/
theorem dailyBatch_get? (tier1 : Tier1) (window : Window) (date : Int) (key : PriceKey) :
    (dailyBatch tier1 window).get? (date, key) =
      if window.Contains date then dailyReference tier1 date key else none := by
  simp only [dailyReference, ← Prod.mk.injEq]
  apply Table.get?_groupBy_filter rfl
  intro row hrow
  rw [decide_eq_true_eq, (Prod.mk.inj hrow).1]

theorem refreshBatch_daily {call : RefreshCall} {window : Window}
    (hcommit : call.raises window = false) (tiers : Tiers) (date : Int) (key : PriceKey) :
    (refreshBatch call window tiers).printPriceDaily.get? (date, key) =
      if window.Contains date then
        (dailyReference call.tier1 date key).or (tiers.printPriceDaily.get? (date, key))
      else tiers.printPriceDaily.get? (date, key) := by
  simp only [refreshBatch, hcommit, Bool.false_eq_true, if_false, upsertDaily, Tiers.setWatermark,
    Table.get?_upsert, Table.reconcile_excluded, dailyBatch_get?]
  split_ifs <;> rfl

theorem refreshBatch_watermark {call : RefreshCall} {window : Window}
    (hcommit : call.raises window = false) (tiers : Tiers) :
    (refreshBatch call window tiers).tierWatermark.get? .daily =
      (tiers.tierWatermark.get? .daily).map fun _ => window.stop := by
  simp only [refreshBatch, hcommit, Bool.false_eq_true, if_false, Tiers.setWatermark_get?]
  rfl

/-- How the batches cut the range does not matter: a day is exact as soon as
some window of the list contains it. -/
theorem foldl_refreshBatch_daily {call : RefreshCall} {windows : List Window}
    (hcommit : ∀ window ∈ windows, call.raises window = false) (tiers : Tiers) (date : Int)
    (key : PriceKey) :
    (windows.foldl (fun tiers window => refreshBatch call window tiers)
        tiers).printPriceDaily.get? (date, key) =
      if ∃ window ∈ windows, window.Contains date then
        (dailyReference call.tier1 date key).or (tiers.printPriceDaily.get? (date, key))
      else tiers.printPriceDaily.get? (date, key) := by
  induction windows generalizing tiers with
  | nil => simp
  | cons window rest ih =>
      rw [List.forall_mem_cons] at hcommit
      rw [List.foldl_cons, ih hcommit.2, refreshBatch_daily hcommit.1]
      -- a day of two windows is upserted twice with one reference
      by_cases hfirst : window.Contains date <;>
        by_cases hrest : ∃ window ∈ rest, window.Contains date <;>
        simp [hfirst, hrest, ← Option.or_assoc]

theorem exists_refreshWindow_iff {call : RefreshCall} {tiers : Tiers} {v_from v_to : Int}
    (hrange : refreshRange call tiers = .ok (v_from, v_to)) (date : Int) :
    (∃ window ∈ refreshWindows call tiers, window.Contains date) ↔
      v_from ≤ date ∧ date ≤ v_to := by
  unfold refreshWindows
  rw [hrange]
  constructor
  · rintro ⟨window, hmem, hfrom, hto⟩
    have hbounds := bounds_of_mem_batchWindows hmem
    exact ⟨hbounds.1.trans hfrom, hto.trans hbounds.2⟩
  · rintro ⟨hfrom, hto⟩
    exact exists_mem_batchWindows 30 hfrom hto

/-- A call in which no batch raises leaves, on the days of its range, the
aggregate of the current tier-1 rows under every key that has one, and under
every other key the row of before; other days are untouched. -/
theorem refresh_upserts_reference (call : RefreshCall) (tiers : Tiers) {v_from v_to : Int}
    (hrange : refreshRange call tiers = .ok (v_from, v_to))
    (hcommit : ∀ window ∈ refreshWindows call tiers, call.raises window = false)
    (date : Int) (key : PriceKey) :
    (afterRefresh tiers call).printPriceDaily.get? (date, key) =
      if v_from ≤ date ∧ date ≤ v_to then
        (dailyReference call.tier1 date key).or (tiers.printPriceDaily.get? (date, key))
      else tiers.printPriceDaily.get? (date, key) := by
  rw [afterRefresh_eq_foldl, foldl_refreshBatch_daily hcommit]
  simp only [exists_refreshWindow_iff hrange]

/-! ### A key that vanishes from tier 1 -/

/-- One source product of one card. -/
def oneProduct : Products where
  sourceProduct := ⟨[(1, ⟨1, 1⟩)], by decide⟩
  sourceProduct_unique := by decide
  mtgCardProducts := ⟨[(1, 1)], by decide⟩
  mtgCardProducts_unique := by decide

/-- Its price, observed on the given day. -/
def observedOn (day : Int) : Tier1 where
  priceObservation :=
    ⟨[(⟨day, 1, 1, 1, 1, 1, 1⟩, ⟨⟨some 100, none, none⟩, none, none, 0⟩)], by simp⟩
  products := oneProduct

/-- The same catalogue once the observation is deleted. -/
def unobserved : Tier1 where
  priceObservation := .empty
  products := oneProduct

/-- A call over a single day of which no batch raises. -/
def refreshDay (day : Int) (tier1 : Tier1) : RefreshCall where
  pFrom := some day
  pTo := some day
  currentDate := day + 1
  tier1 := tier1
  raises := fun _ => false

/-- A refresh of the day of an observation books its aggregate. -/
theorem refresh_upserts_reference_observed :
    (afterRefresh (.unrolled .empty .empty) (refreshDay 7 (observedOn 7))).printPriceDaily.get?
        (7, ⟨1, 1, 1, 1, 1, 1⟩) =
      some ⟨⟨some 100, none, none⟩, some 1⟩ := by
  have hrange : refreshRange (refreshDay 7 (observedOn 7)) (.unrolled .empty .empty) =
      .ok (7, 7) := rfl
  rw [refresh_upserts_reference _ _ hrange fun _ _ => rfl]
  decide +kernel

/-- A second refresh of the same day, after the observation is deleted, leaves
the key's row although no tier-1 row stands behind it. -/
theorem refresh_keeps_stale_key :
    ¬ ∀ (history : List RefreshCall) (call : RefreshCall) (v_from v_to : Int),
      let tiers := runRefresh (.unrolled .empty .empty) history
      refreshRange call tiers = .ok (v_from, v_to) →
      (∀ window ∈ refreshWindows call tiers, call.raises window = false) →
      ∀ date key, v_from ≤ date → date ≤ v_to →
        (afterRefresh tiers call).printPriceDaily.get? (date, key) =
          dailyReference call.tier1 date key := by
  intro hexact
  have hstale := hexact [refreshDay 7 (observedOn 7)] (refreshDay 7 unobserved) 7 7 rfl
    (fun _ _ => rfl) 7 ⟨1, 1, 1, 1, 1, 1⟩ (by decide) (by decide)
  revert hstale
  decide +kernel

end AutoMana.Pricing
