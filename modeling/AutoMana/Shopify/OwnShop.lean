import AutoMana.Shopify.Promote
import AutoMana.Staging.ExactlyOnce

/-!
# Whose price it is

The dictionary of the source products has the card as its key, without the source. So when a card
is staged under two sources, the prices of both are booked under the one that comes last in a set.
A staged row gets its source from the market that has registered its product, and only one market
has.
-/

namespace AutoMana.Shopify

open Relational Pricing Staging

/-- The card 7 has the `tcg_id` 55. -/
def sampleReference : Reference where
  tcgplayerId := .single 7 55
  sellTypeId := 1
  dataProviderId := 4
  languageId := 1
  conditions := .single "NM" 1
  finishes := .single "nonfoil" 1

def sampleCall : PromoteCall where
  text := ⟨String.toLower, id⟩
  supply := sampleSupply
  reference := sampleReference
  insertRaises := false

/-- A price of the product 900 in cents. -/
def sampleRow (tcgId : Option Int) (sourceId : Option SourceId) (cents scrapedAt : Int) :
    StagingRow where
  productId := 900
  date := some 20
  variation := some "Near Mint"
  price := some (cents / 100)
  scrapedAt := some scrapedAt
  tcgId := tcgId
  sourceId := sourceId

def stagedTables (staging : List StagingRow) : ShopifyTables where
  staging := staging
  products := noProducts
  priceObservation := .empty
  referenced := nofun

end AutoMana.Shopify
