import AutoMana.Relational.Aggregates
import AutoMana.Relational.DateWindows
import AutoMana.Relational.Table

/-!
# The pricing tables

Tier 1 (`price_observation`) holds every scraped price of a source product;
tiers 2 and 3 (`print_price_daily`, `print_price_weekly`) roll it up per card,
source, and dimension, and `print_price_latest` is the current price of each
such key. Audit columns (`created_at`, `updated_at`) are left out.

UUIDs and serial identifiers are natural numbers; a price is in cents, and its
type carries the `>= 0` check of the price columns.
-/

namespace AutoMana.Pricing

open Relational

abbrev CardVersionId := Nat
abbrev ProductId := Nat
abbrev SourceId := Nat
abbrev SourceProductId := Nat

/-- Microseconds since the epoch. -/
abbrev Timestamp := Int

/-- The three nullable price columns every pricing table carries. -/
structure Prices (α : Type) where
  listLowCents : Option α
  listAvgCents : Option α
  soldAvgCents : Option α
deriving DecidableEq, Repr

/-- No price to observe: all three columns are null. -/
def Prices.allNull {α : Type} (prices : Prices α) : Bool :=
  prices.listLowCents.isNone && prices.listAvgCents.isNone && prices.soldAvgCents.isNone

inductive PriceColumn where
  | listLowCents
  | listAvgCents
  | soldAvgCents
deriving DecidableEq, Repr

namespace Prices

variable {α β γ : Type}

def get (prices : Prices α) : PriceColumn → Option α
  | .listLowCents => prices.listLowCents
  | .listAvgCents => prices.listAvgCents
  | .soldAvgCents => prices.soldAvgCents

/-- One expression evaluated for each of the three columns. -/
def combine (expr : Option α → Option β → Option γ) (left : Prices α) (right : Prices β) :
    Prices γ where
  listLowCents := expr left.listLowCents right.listLowCents
  listAvgCents := expr left.listAvgCents right.listAvgCents
  soldAvgCents := expr left.soldAvgCents right.soldAvgCents

@[simp] theorem get_combine (expr : Option α → Option β → Option γ) (left : Prices α)
    (right : Prices β) (column : PriceColumn) :
    (combine expr left right).get column = expr (left.get column) (right.get column) := by
  cases column <;> rfl

/-- `chk_nonneg_prices`: prices the column check accepts. -/
def checked? (prices : Prices Int) : Option (Prices Nat) :=
  if (∀ cents ∈ prices.listLowCents, 0 ≤ cents) ∧ (∀ cents ∈ prices.listAvgCents, 0 ≤ cents) ∧
      ∀ cents ∈ prices.soldAvgCents, 0 ≤ cents then
    some {
      listLowCents := prices.listLowCents.map Int.toNat
      listAvgCents := prices.listAvgCents.map Int.toNat
      soldAvgCents := prices.soldAvgCents.map Int.toNat }
  else none

/-- The check lets a price through unchanged. -/
theorem get_of_checked {prices : Prices Int} {cents : Prices Nat}
    (hchecked : prices.checked? = some cents) (column : PriceColumn) :
    (cents.get column).map Int.ofNat = prices.get column := by
  have hnonneg {price : Option Int} (hprice : ∀ value ∈ price, 0 ≤ value) :
      (price.map Int.toNat).map Int.ofNat = price := by
    cases price with
    | none => rfl
    | some value => exact congrArg some (Int.toNat_of_nonneg (hprice value rfl))
  simp only [checked?, Option.ite_none_right_eq_some, Option.some.injEq] at hchecked
  obtain ⟨⟨hlow, havg, hsold⟩, rfl⟩ := hchecked
  cases column with
  | listLowCents => exact hnonneg hlow
  | listAvgCents => exact hnonneg havg
  | soldAvgCents => exact hnonneg hsold

end Prices

/-- Primary key of `price_observation`. -/
@[ext] structure ObservationKey where
  tsDate : Int
  sourceProductId : SourceProductId
  priceTypeId : Nat
  finishId : Nat
  conditionId : Nat
  languageId : Nat
  dataProviderId : Nat
deriving DecidableEq, Repr

structure Observation where
  prices : Prices Nat
  listCount : Option Nat
  soldCount : Option Nat
  scrapedAt : Timestamp
deriving DecidableEq, Repr

structure SourceProduct where
  productId : ProductId
  sourceId : SourceId
deriving DecidableEq, Repr

/-- Which card of which source a source product is. -/
structure Products where
  sourceProduct : Table SourceProductId SourceProduct
  /-- `UNIQUE (product_id, source_id)` -/
  sourceProduct_unique : (sourceProduct.rows.map Prod.snd).Nodup
  mtgCardProducts : Table ProductId CardVersionId
  /-- `UNIQUE (card_version_id)` -/
  mtgCardProducts_unique : (mtgCardProducts.rows.map Prod.snd).Nodup

/-- Everything the tier procedures read and do not write. -/
structure Tier1 where
  priceObservation : Table ObservationKey Observation
  products : Products

/-- The dimensions of tiers 2 and 3 and of the latest-price snapshot. -/
structure PriceKey where
  cardVersionId : CardVersionId
  sourceId : SourceId
  transactionTypeId : Nat
  finishId : Nat
  conditionId : Nat
  languageId : Nat
deriving DecidableEq, Repr

structure DailyPrice where
  prices : Prices Nat
  nProviders : Option Nat
deriving DecidableEq, Repr

structure WeeklyPrice where
  prices : Prices Nat
  nDays : Nat
  nProviders : Option Nat
deriving DecidableEq, Repr

inductive TierName where
  | daily
  | weekly
deriving DecidableEq, Repr

/-- The rollup tables. A row of `print_price_latest` is the date and columns of
one `print_price_daily` row. -/
structure Tiers where
  printPriceDaily : Table (Int × PriceKey) DailyPrice
  printPriceLatest : Table PriceKey (Int × DailyPrice)
  printPriceWeekly : Table (Int × PriceKey) WeeklyPrice
  tierWatermark : Table TierName Int

/-- `UPDATE tier_watermark SET last_processed_date = day WHERE tier_name = tier`. -/
def Tiers.setWatermark (tiers : Tiers) (tier : TierName) (day : Int) : Tiers :=
  { tiers with
    tierWatermark := tiers.tierWatermark.mapValues
      fun name last => if name = tier then day else last }

theorem Tiers.setWatermark_get? (tiers : Tiers) (tier : TierName) (day : Int) :
    (tiers.setWatermark tier day).tierWatermark.get? tier =
      (tiers.tierWatermark.get? tier).map fun _ => day := by
  simp [setWatermark]

end AutoMana.Pricing
