import AutoMana.Ebay.Schema
import Mathlib.Algebra.Ring.Int.Defs

/-!
# promote_sold_obs

The staged sales that have a source product and are not promoted are grouped by day and
dimension, each channel by itself, the average and the number of each group are upserted,
and the rows of the groups are marked. The own sales go first.
-/

namespace AutoMana.Ebay

open Relational Pricing

/-! ## Rounding -/

/-- `round` of a quotient: to the nearest integer, halves to the even one. -/
def roundHalfEven (total : Int) (count : Nat) : Int :=
  let below := total / count
  let rest := 2 * (total % count)
  if rest < count ∨ rest = count ∧ below % 2 = 0 then below else below + 1

/-! ## Staged sales -/

/-- A resolved row of either staging table. -/
structure StagedSale (ι : Type) where
  id : ι
  sourceProductId : SourceProductId
  cents : Nat
  currency : Option String
  soldAt : Timestamp
  finishId : Nat
  conditionId : Option Nat
  languageId : Nat
  promotedToObs : Bool

/-- `_EBAY_DATA_PROVIDER_ID` -/
def ebayDataProviderId : Nat := 4

/-- `_SELL_PRICE_TYPE_ID` -/
def sellPriceTypeId : Nat := 1

/-- The key under which a sale is aggregated. -/
def StagedSale.observationKey {ι : Type} (sale : StagedSale ι) : ObservationKey where
  tsDate := dateOf sale.soldAt
  sourceProductId := sale.sourceProductId
  priceTypeId := sellPriceTypeId
  finishId := sale.finishId
  conditionId := (sale.conditionId.filter (· ≠ 0)).getD 1
  languageId := sale.languageId
  dataProviderId := ebayDataProviderId

/-- An own sale; the query leaves the currency out. -/
def ownSale? (id : OrderItemKey) (row : OrderSourceProduct) : Option (StagedSale OrderItemKey) :=
  row.sourceProductId.map fun sourceProductId => {
    id
    sourceProductId
    cents := row.soldPriceCents
    currency := none
    soldAt := row.soldAt
    finishId := row.finishId
    conditionId := row.conditionId
    languageId := row.languageId
    promotedToObs := row.promotedToObs }

def scrapedSale? (id : String) (row : ScrapedSold) : Option (StagedSale String) :=
  row.sourceProductId.map fun sourceProductId => {
    id
    sourceProductId
    cents := row.priceCents
    currency := some row.currency
    soldAt := row.soldAt
    finishId := row.finishId
    conditionId := row.conditionId
    languageId := row.languageId
    promotedToObs := row.promotedToObs }

def ownSales (staging : Staging) : List (StagedSale OrderItemKey) :=
  staging.orderSourceProduct.rows.filterMap fun row => ownSale? row.1 row.2

def scrapedSales (staging : Staging) : List (StagedSale String) :=
  staging.scrapedSold.rows.filterMap fun row => scrapedSale? row.1 row.2

/-- `get_unpromoted` -/
def unpromoted {ι : Type} (sales : List (StagedSale ι)) : List (StagedSale ι) :=
  sales.filter (!·.promotedToObs)

/-! ## Aggregation -/

/-- The rates to USD by currency, in millionths. -/
abbrev FxMap := Table String Int

/-- `(row.get("currency") or "USD").upper()` -/
def currencyOf {ι : Type} (upper : String → String) (sale : StagedSale ι) : String :=
  upper ((sale.currency.filter (· ≠ "")).getD "USD")

/-- What a sale adds to the total of its group. -/
def priceCents {ι : Type} (upper : String → String) (fxMap : Option FxMap) (sale : StagedSale ι) :
    Int :=
  if currencyOf upper sale = "USD" then sale.cents
  else
    match fxMap.bind fun rates => rates.get? (currencyOf upper sale) with
    | some rate => roundHalfEven (sale.cents * rate) 1000000
    | none => sale.cents

structure Bucket (ι : Type) where
  total : Int
  count : Nat
  ids : List ι

def bucket? {ι : Type} (upper : String → String) (fxMap : Option FxMap)
    (sales : List (StagedSale ι)) : Option (Bucket ι) :=
  if sales.isEmpty then none
  else some {
    total := (sales.map (priceCents upper fxMap)).sum
    count := sales.length
    ids := sales.map (·.id) }

/-- `_aggregate` -/
def aggregate {ι : Type} (upper : String → String) (fxMap : Option FxMap)
    (sales : List (StagedSale ι)) : Table ObservationKey (Bucket ι) :=
  Table.groupBy StagedSale.observationKey (bucket? upper fxMap) sales

/-! ## Promotion -/

/-- Which calls of a channel raise for a reason of their own. -/
structure Faults where
  upsertRaises : ObservationKey → Bool
  markRaises : Bool

structure PromoteCall where
  /-- `str.upper` -/
  upper : String → String
  fxRates : FxMap
  now : Timestamp
  own : Faults
  scraped : Faults

/-- `fx_map or None` -/
def PromoteCall.fxMap (call : PromoteCall) : Option FxMap :=
  if call.fxRates.rows.isEmpty then none else some call.fxRates

/-- The row a sold price inserts; its other columns take their defaults. -/
def soldObservation (now : Timestamp) (soldAvgCents soldCount : Nat) : Observation where
  prices := ⟨none, none, some soldAvgCents⟩
  listCount := none
  soldCount := some soldCount
  scrapedAt := now

/-- `DO UPDATE SET sold_avg_cents = EXCLUDED.sold_avg_cents, sold_count = ...` -/
def updateSold (stored excluded : Observation) : Observation :=
  { stored with
    prices := { stored.prices with soldAvgCents := excluded.prices.soldAvgCents }
    soldCount := excluded.soldCount }

/-- `upsert_price_observation`; `none` when it raises. -/
def upsertPriceObservation (now : Timestamp) (raises : Bool)
    (priceObservation : Table ObservationKey Observation) (key : ObservationKey)
    (soldAvgCents : Int) (soldCount : Nat) : Option (Table ObservationKey Observation) :=
  if raises then none
  else (cents? soldAvgCents).map fun soldAvgCents =>
    priceObservation.upsert (Table.single key (soldObservation now soldAvgCents soldCount))
      updateSold

/-- A turn of the loop over the groups, with the ids of those upserted so far. -/
def promoteGroup {ι : Type} (now : Timestamp) (faults : Faults)
    (state : Table ObservationKey Observation × List ι) (group : ObservationKey × Bucket ι) :
    Table ObservationKey Observation × List ι :=
  let avgCents := roundHalfEven group.2.total group.2.count
  match upsertPriceObservation now (faults.upsertRaises group.1) state.1 group.1 avgCents
      group.2.count with
  | some priceObservation => (priceObservation, state.2 ++ group.2.ids)
  | none => state

/-- `_promote_channel` up to its mark. -/
def promoteChannel {ι : Type} (call : PromoteCall) (faults : Faults) (fxMap : Option FxMap)
    (sales : List (StagedSale ι)) (priceObservation : Table ObservationKey Observation) :
    Table ObservationKey Observation × List ι :=
  (aggregate call.upper fxMap (unpromoted sales)).rows.foldl (promoteGroup call.now faults)
    (priceObservation, [])

structure SoldTables where
  staging : Staging
  priceObservation : Table ObservationKey Observation

/-- `MARK_OWN_SALES_PROMOTED` -/
def markOwnPromoted (faults : Faults) (ids : List OrderItemKey) (staging : Staging) : Staging :=
  if faults.markRaises then staging
  else
    { staging with
      orderSourceProduct := staging.orderSourceProduct.mapValues fun id row =>
        if id ∈ ids then { row with promotedToObs := true } else row }

/-- `MARK_SCRAPED_PROMOTED` -/
def markScrapedPromoted (faults : Faults) (ids : List String) (staging : Staging) : Staging :=
  if faults.markRaises then staging
  else
    { staging with
      scrapedSold := staging.scrapedSold.mapValues fun id row =>
        if id ∈ ids then { row with promotedToObs := true } else row }

/-- `promote_sold_obs`, with the number it reports. -/
def promoteSoldObs (call : PromoteCall) (tables : SoldTables) : SoldTables × Nat :=
  let own := promoteChannel call call.own none (ownSales tables.staging) tables.priceObservation
  let staging := markOwnPromoted call.own own.2 tables.staging
  let scraped := promoteChannel call call.scraped call.fxMap (scrapedSales staging) own.1
  (⟨markScrapedPromoted call.scraped scraped.2 staging, scraped.1⟩,
    own.2.length + scraped.2.length)

end AutoMana.Ebay
