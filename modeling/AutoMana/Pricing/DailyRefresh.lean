import AutoMana.Pricing.Schema
import AutoMana.Relational.Runs
import AutoMana.Relational.Snapshot

/-!
# refresh_daily_prices

The procedure walks its date range in 30-day windows. Each window is aggregated
from tier 1 and upserted into the daily and the latest table inside one
exception block; a window that raises is rolled back and the loop goes on. A
window that commits moves the daily watermark to its own end.
-/

namespace AutoMana.Pricing

open Relational

/-- A row of `price_observation JOIN source_product JOIN mtg_card_products`.
Both joins are on the primary key of the joined table. -/
structure DailyInput where
  priceDate : Int
  key : PriceKey
  dataProviderId : Nat
  prices : Prices Nat
deriving DecidableEq, Repr

def attributeCard (products : Products) (row : ObservationKey × Observation) :
    Option DailyInput := do
  let sp ← products.sourceProduct.get? row.1.sourceProductId
  let cardVersionId ← products.mtgCardProducts.get? sp.productId
  return {
    priceDate := row.1.tsDate
    key := {
      cardVersionId
      sourceId := sp.sourceId
      transactionTypeId := row.1.priceTypeId
      finishId := row.1.finishId
      conditionId := row.1.conditionId
      languageId := row.1.languageId }
    dataProviderId := row.1.dataProviderId
    prices := row.2.prices }

/-- The tier-1 rows that carry a price, with the card they are attributed to. -/
def dailyInputs (tier1 : Tier1) : List DailyInput :=
  (tier1.priceObservation.rows.filterMap (attributeCard tier1.products)).filter
    fun row => !row.prices.allNull

/-- The select list of the daily aggregate, over the rows of one group. -/
def dailyAggregate : List DailyInput → Option DailyPrice
  | [] => none
  | group => some {
      prices := {
        listLowCents := Aggregate.min (group.map (·.prices.listLowCents))
        listAvgCents := Aggregate.avg (group.map (·.prices.listAvgCents))
        soldAvgCents := Aggregate.avg (group.map (·.prices.soldAvgCents)) }
      nProviders := some (Aggregate.countDistinct (group.map (·.dataProviderId))) }

/-- The temporary table `_daily_batch` of a window. -/
def dailyBatch (tier1 : Tier1) (window : Window) : Table (Int × PriceKey) DailyPrice :=
  Table.groupBy (fun row => (row.priceDate, row.key)) dailyAggregate
    ((dailyInputs tier1).filter fun row => window.Contains row.priceDate)

/-- One `CALL pricing.refresh_daily_prices(p_from, p_to)`: its arguments, the
day it runs on, the tier-1 content it reads, and the windows whose batch raises. -/
structure RefreshCall where
  pFrom : Option Int
  pTo : Option Int
  currentDate : Int
  tier1 : Tier1
  raises : Window → Bool

/-- The two upserts of a window. -/
def upsertDaily (tier1 : Tier1) (window : Window) (tiers : Tiers) : Tiers :=
  { tiers with
    printPriceDaily := tiers.printPriceDaily.upsert (dailyBatch tier1 window) fun _ new => new
    printPriceLatest :=
      tiers.printPriceLatest.upsert (newestPerKey (dailyBatch tier1 window)) keepNewest }

/-- One iteration of the batch loop, with its commit or rollback. -/
def refreshBatch (call : RefreshCall) (window : Window) (tiers : Tiers) : Tiers :=
  if call.raises window then tiers
  else (upsertDaily call.tier1 window tiers).setWatermark .daily window.stop

/-- `v_from` and `v_to`. -/
def refreshRange (call : RefreshCall) (tiers : Tiers) : Except String (Int × Int) := do
  let v_from ← match call.pFrom with
    | some day => pure day
    | none => match tiers.tierWatermark.get? .daily with
      | some last => pure (last + 1)
      | none => throw "tier_watermark has no daily row; re-seed or pass p_from explicitly"
  return (v_from, call.pTo.getD (call.currentDate - 1))

def refreshDailyPrices (call : RefreshCall) (tiers : Tiers) : Except String Tiers := do
  let (v_from, v_to) ← refreshRange call tiers
  if v_from > v_to then return tiers
  return batchLoop 30 (refreshBatch call) v_to v_from tiers

/-! ## A call as a sequence of batches -/

/-- The windows a call visits, in order. A call that raises visits none. -/
def refreshWindows (call : RefreshCall) (tiers : Tiers) : List Window :=
  match refreshRange call tiers with
  | .ok (v_from, v_to) => batchWindows 30 v_to v_from
  | .error _ => []

/-- The committed state after a call; an exception leaves it unchanged. -/
def afterRefresh (tiers : Tiers) (call : RefreshCall) : Tiers :=
  match refreshDailyPrices call tiers with
  | .ok next => next
  | .error _ => tiers

theorem afterRefresh_eq_foldl (tiers : Tiers) (call : RefreshCall) :
    afterRefresh tiers call =
      (refreshWindows call tiers).foldl (fun tiers window => refreshBatch call window tiers)
        tiers := by
  unfold afterRefresh refreshDailyPrices refreshWindows
  cases refreshRange call tiers with
  | error message => rfl
  | ok range =>
      obtain ⟨v_from, v_to⟩ := range
      simp only [bind, Except.bind, pure, Except.pure]
      split_ifs with hempty
      -- nothing to do: the range has no window
      · rw [batchWindows_of_lt 30 hempty, List.foldl_nil]
      · exact batchLoop_eq_foldl 30 (refreshBatch call) v_to v_from tiers

/-- The batches a call runs from a state. -/
def refreshActions (tiers : Tiers) (call : RefreshCall) : List (RefreshCall × Window) :=
  (refreshWindows call tiers).map (call, ·)

/-- The committed state after a sequence of calls. -/
def runRefresh (tiers : Tiers) (calls : List RefreshCall) : Tiers :=
  calls.foldl afterRefresh tiers

end AutoMana.Pricing
