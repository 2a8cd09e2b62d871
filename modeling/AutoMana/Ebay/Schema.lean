import AutoMana.Pricing.Schema

/-!
# The eBay staging tables

Sold prices reach `price_observation` through two staging tables: the sellers' own sales,
by order, app, and item, and the scraped sales of any seller, by item. Each row says
whether it has been promoted. Serial ids, which stand for the unique keys, and audit columns
are left out.
-/

namespace AutoMana.Ebay

open Relational Pricing

/-- Microseconds since the epoch of a day. -/
def dayMicros : Int := 86400000000

/-- `sold_at.date()` of a timestamp in UTC. -/
def dateOf (timestamp : Timestamp) : Int := timestamp / dayMicros

/-- `UNIQUE (order_id, app_code, item_id)` -/
structure OrderItemKey where
  orderId : String
  appCode : String
  itemId : String
deriving DecidableEq, Repr

/-- A row of `ebay_order_source_product`. -/
structure OrderSourceProduct where
  title : Option String
  sourceProductId : Option SourceProductId
  quantity : Nat
  soldPriceCents : Nat
  currency : String
  finishId : Nat
  conditionId : Option Nat
  languageId : Nat
  soldAt : Timestamp
  buyerUsername : Option String
  promotedToObs : Bool
  marketplaceId : Option String
deriving DecidableEq, Repr

/-- A row of `ebay_scraped_sold`. -/
structure ScrapedSold where
  title : String
  sourceProductId : Option SourceProductId
  priceCents : Nat
  currency : String
  marketplaceId : String
  conditionId : Option Nat
  finishId : Nat
  languageId : Nat
  soldAt : Timestamp
  promotedToObs : Bool
deriving DecidableEq, Repr

/-- The own sales, and the scraped sales by their `item_id`. -/
structure Staging where
  orderSourceProduct : Table OrderItemKey OrderSourceProduct
  scrapedSold : Table String ScrapedSold

/-- A python `int` as an `int` column with a `>= 0` check takes it. -/
def cents? (value : Int) : Option Nat :=
  if 0 ≤ value ∧ value ≤ 2147483647 then some value.toNat else none

/-- `DO UPDATE SET source_product_id = EXCLUDED.source_product_id, sold_price_cents = ...` -/
def OrderSourceProduct.resync (stored excluded : OrderSourceProduct) : OrderSourceProduct :=
  { stored with
    sourceProductId := excluded.sourceProductId
    soldPriceCents := excluded.soldPriceCents }

/-- `UPSERT_ORDER_SOURCE_PRODUCT` -/
def upsertOrderSourceProduct (table : Table OrderItemKey OrderSourceProduct) (key : OrderItemKey)
    (row : OrderSourceProduct) : Table OrderItemKey OrderSourceProduct :=
  table.upsert (Table.single key { row with promotedToObs := false }) OrderSourceProduct.resync

theorem get?_upsertOrderSourceProduct (table : Table OrderItemKey OrderSourceProduct)
    (key : OrderItemKey) (row : OrderSourceProduct) (other : OrderItemKey) :
    (upsertOrderSourceProduct table key row).get? other =
      if other = key then
        some ((table.get? key).elim { row with promotedToObs := false } (·.resync row))
      else table.get? other := by
  rw [upsertOrderSourceProduct, Table.get?_upsert, Table.get?_single]
  split_ifs with hkey
  · subst hkey
    cases table.get? other <;> rfl
  · cases table.get? other <;> rfl

theorem rows_upsertOrderSourceProduct (table : Table OrderItemKey OrderSourceProduct)
    (key : OrderItemKey) (row : OrderSourceProduct) :
    (upsertOrderSourceProduct table key row).rows =
      (table.rows.map fun stored =>
        (stored.1, if stored.1 = key then stored.2.resync row else stored.2)) ++
        if (table.get? key).isSome then [] else [(key, { row with promotedToObs := false })] :=
  Table.rows_upsert_single table key _ OrderSourceProduct.resync

/-- `INSERT_SCRAPED_SOLD` -/
def insertScrapedSold (table : Table String ScrapedSold) (itemId : String) (row : ScrapedSold) :
    Table String ScrapedSold :=
  table.insertMissing [(itemId, { row with promotedToObs := false })]

end AutoMana.Ebay
