import AutoMana.Pricing.Schema
import Mathlib.Data.Rat.Defs

/-!
# Staging the Shopify prices

The price rows of a market are copied into the staging table without a source. An update then
gives the source of the market to the staged rows without one whose product the market has
registered. A product is registered under its identifier alone, for the market that came first
with it.
-/

namespace AutoMana.Shopify

open Relational Pricing

/-- A row of the parquet files, as the columns of the staging table take it. -/
structure PriceRow where
  productId : Int
  date : Option Int
  variation : Option String
  price : Option ℚ
  scrapedAt : Option Timestamp
  tcgId : Option Int
  deriving DecidableEq

/-- A row of `shopify_staging_raw`. -/
structure StagingRow extends PriceRow where
  sourceId : Option SourceId
  deriving DecidableEq

structure MarketRef where
  marketId : Int
  sourceId : SourceId
  deriving DecidableEq

/-- A row of `markets.product_ref` under its `product_shop_id`. -/
structure ProductRef where
  productId : String
  marketId : Int
  handle : Option String
  title : Option String
  deriving DecidableEq

abbrev ProductRefs := Table String ProductRef

/-! ## Registering the products -/

/-- One row of `upsert_product_handles`; `none` when the market has registered the product under
another key. -/
def upsertProductHandle (productRefs : ProductRefs) (row : ProductRef) : Option ProductRefs :=
  if (productRefs.get? row.productId).isSome then
    -- the market of the stored row stays
    some (productRefs.mapValues fun productShopId stored =>
      if productShopId = row.productId then { stored with handle := row.handle, title := row.title }
      else stored)
  else if productRefs.rows.any fun stored =>
      stored.2.marketId = row.marketId && stored.2.productId = row.productId then none
  else some (productRefs.insertMissing [(row.productId, row)])

def upsertProductHandles (productRefs : ProductRefs) (rows : List ProductRef) :
    Option ProductRefs :=
  rows.foldlM upsertProductHandle productRefs

/-- The market has registered the product. -/
def Registers (productRefs : ProductRefs) (market : MarketRef) (productId : Int) : Prop :=
  ∃ stored ∈ productRefs.rows, stored.2.productId = toString productId ∧
    stored.2.marketId = market.marketId

instance (productRefs : ProductRefs) (market : MarketRef) (productId : Int) :
    Decidable (Registers productRefs market productId) :=
  inferInstanceAs (Decidable (∃ stored ∈ productRefs.rows, _))

/-! ## Staging -/

/-- A staged row and the market that it was fetched from, which no statement reads. -/
structure Fetched where
  market : MarketRef
  row : StagingRow
  deriving DecidableEq

/-- The rows of a market as they are copied. -/
def MarketRef.fetch (market : MarketRef) (rows : List PriceRow) : List Fetched :=
  rows.map fun row => ⟨market, { row with sourceId := none }⟩

section Staging

variable {productRefs : ProductRefs} {parquetDirs : ParquetDirs}

end Staging

/-- A product that is registered stays with its market. -/
theorem market_kept_of_upsert {productRefs next : ProductRefs} {rows : List ProductRef}
    (hupsert : upsertProductHandles productRefs rows = some next) {productShopId : String}
    {stored : ProductRef} (hstored : productRefs.get? productShopId = some stored) :
    ∃ later, next.get? productShopId = some later ∧ later.marketId = stored.marketId ∧
      later.productId = stored.productId := by
  induction rows generalizing productRefs stored with
  | nil =>
    obtain rfl := Option.some.inj hupsert
    exact ⟨stored, hstored, rfl, rfl⟩
  | cons row rest ih =>
    rw [upsertProductHandles, List.foldlM_cons] at hupsert
    obtain ⟨first, hfirst, hrest⟩ := Option.bind_eq_some_iff.mp hupsert
    have hkept : ∃ later, first.get? productShopId = some later ∧
        later.marketId = stored.marketId ∧ later.productId = stored.productId := by
      rw [upsertProductHandle] at hfirst
      split_ifs at hfirst
      · obtain rfl := Option.some.inj hfirst
        rw [Table.get?_mapValues, hstored]
        refine ⟨_, rfl, ?_⟩
        dsimp only
        split_ifs <;> exact ⟨rfl, rfl⟩
      · obtain rfl := Option.some.inj hfirst
        exact ⟨stored, Table.get?_insertMissing_of_stored hstored _, rfl, rfl⟩
    obtain ⟨middle, hmiddle, hmarket, hproduct⟩ := hkept
    obtain ⟨later, hlater, hmarket', hproduct'⟩ := ih hrest hmiddle
    exact ⟨later, hlater, hmarket'.trans hmarket, hproduct'.trans hproduct⟩

end AutoMana.Shopify
