import AutoMana.Pricing.Schema
import AutoMana.Relational.Serial

/-!
# The staging tables

`raw_mtg_stock_price` is the landing table of the scraped prices. Loading splits
each raw row into a non-foil and a foil price and sends it, with its card
resolved, to `stg_price_observation`, or else to `stg_price_observation_reject`;
promotion drains the staged rows into `price_observation`.

A `numeric(12,4)` is an integer number of ten-thousandths.
-/

namespace AutoMana.Staging

open Relational Pricing

/-- The columns a raw price shares with the rows split off from it: when and
where it was scraped, and everything that may identify its card. -/
structure Listing where
  tsDate : Int
  gameCode : String
  printId : Int
  sourceCode : String
  scrapedAt : Timestamp
  cardName : Option String
  setAbbr : Option String
  collectorNumber : Option String
  scryfallId : Option String
  tcgId : Option String
  cardtraderId : Option String
deriving DecidableEq, Repr

/-- A row of `raw_mtg_stock_price`. -/
structure RawPrice extends Listing where
  priceLow : Option Int
  priceAvg : Option Int
  priceFoil : Option Int
  priceMarket : Option Int
  priceMarketFoil : Option Int
deriving DecidableEq, Repr

/-- A row of `tmp_batch_foil_split`: the non-foil or the foil price of a raw row. -/
structure SplitPrice extends Listing where
  prices : Prices Int
  isFoil : Bool
  value : Option Int
  dataProviderId : Nat
deriving DecidableEq, Repr

/-- A row of `stg_price_observation_reject`. -/
structure RejectPrice extends SplitPrice where
  isTerminal : Bool
  terminalReason : Option String
  resolutionAttemptedAt : Timestamp
  rejectReason : String
  resolvedAt : Option Timestamp
  resolvedSourceProductId : Option SourceProductId
  resolvedProductId : Option ProductId
  resolvedCardVersionId : Option CardVersionId
  resolvedMethod : Option String
deriving DecidableEq, Repr

/-- A row of `stg_price_observation`, without its `stg_id`. -/
structure StagedPrice where
  tsDate : Int
  gameCode : String
  printId : Int
  prices : Prices Int
  isFoil : Bool
  sourceCode : String
  dataProviderId : Nat
  value : Option Int
  productId : ProductId
  cardVersionId : Option CardVersionId
  sourceProductId : SourceProductId
  setAbbr : Option String
  collectorNumber : Option String
  cardName : Option String
  scryfallId : Option String
  tcgId : Option String
  scrapedAt : Timestamp
deriving DecidableEq, Repr

/-- What promotion reads and writes. -/
structure StagingTables where
  stgPriceObservation : SerialTable StagedPrice
  priceObservation : Table ObservationKey Observation

end AutoMana.Staging
