import AutoMana.Pricing.Schema
import AutoMana.Relational.Links

/-!
# Prices of cards

A batch of Scryfall prices is booked under the source products of its cards. Cards without a product
get one: as many products are created as there are such cards, and the two meet by row numbers. The
prices of another source get their source products in the same way.
-/

namespace AutoMana.Pricing.CardPrices

open Relational

/-! ## The tables -/

/-- What is read and not written, with what the schema seeds. -/
structure Catalogue where
  /-- The ids of `card_version`. -/
  cardVersion : List CardVersionId
  cardIdentifierRef : Table Nat String
  /-- `UNIQUE (identifier_name)` -/
  identifierName_unique : (cardIdentifierRef.rows.map Prod.snd).Nodup
  /-- The value of each `(card_version_id, card_identifier_ref_id)`. -/
  cardExternalIdentifier : Table (CardVersionId × Nat) String
  external_card : ∀ row ∈ cardExternalIdentifier.rows, row.1.1 ∈ cardVersion
  priceSource : Table SourceId String
  /-- `UNIQUE (code)` -/
  sourceCode_unique : (priceSource.rows.map Prod.snd).Nodup
  cardFinished : Table Nat String
  /-- `UNIQUE (code)` -/
  finishCode_unique : (cardFinished.rows.map Prod.snd).Nodup
  /-- The `game_id` of `mtg`. -/
  mtgGameId : Nat
  /-- The `transaction_type_id` of `sell`. -/
  priceTypeId : Nat
  /-- The `condition_id` of `NM`. -/
  conditionId : Nat
  /-- The `language_id` of `en`. -/
  languageId : Nat
  /-- The `data_provider_id` of `scryfall`. -/
  dataProviderId : Nat

structure Tables where
  /-- The game of each product. -/
  productRef : Table ProductId Nat
  products : Products
  priceObservation : Table ObservationKey Observation

/-- What the database decides of a call: the ids that it draws, and the order of its rows. -/
structure Engine where
  productIds : Supply ProductId
  sourceProductIds : Supply SourceProductId
  resolved : Listing (String × CardVersionId × Option ProductId)
  numberedProducts : Listing ProductId
  numberedCards : Listing CardVersionId
  returned : Listing (ProductId × CardVersionId)
  linked : Listing (CardVersionId × ProductId)
  sourceProducts : Listing (SourceProductId × ProductId × String)
  now : Timestamp

/-! ## The statements -/

/-- New rows of `mtg_card_products`; a card that has a product keeps it. -/
def linkCards? (pairs : List (ProductId × CardVersionId)) (products : Products) :
    Option Products :=
  match hlink : products.mtgCardProducts.link? pairs with
  | none => none
  | some mtgCardProducts => some { products with
      mtgCardProducts
      mtgCardProducts_unique := (Table.links_of_link hlink).unique products.mtgCardProducts_unique }

/-- New rows of `source_product`; a product of a source that is there is kept. -/
def linkSources? (pairs : List (SourceProductId × SourceProduct)) (products : Products) :
    Option Products :=
  match hlink : products.sourceProduct.link? pairs with
  | none => none
  | some sourceProduct => some { products with
      sourceProduct
      sourceProduct_unique := (Table.links_of_link hlink).unique products.sourceProduct_unique }

section Statements

variable (catalogue : Catalogue) (engine : Engine)

/-- The product of a card. -/
def productOf? (products : Products) (card : CardVersionId) : Option ProductId :=
  (products.mtgCardProducts.keysOf card).head?

/-- `_RESOLVE_SCRYFALL_IDS_SQL` -/
def resolveScryfallIds (scryfallIds : List String) (products : Products) :
    List (String × CardVersionId × Option ProductId) :=
  engine.resolved.list ((catalogue.cardExternalIdentifier.rows.filter fun row =>
    catalogue.cardIdentifierRef.get? row.1.2 = some "scryfall_id" ∧ row.2 ∈ scryfallIds).map
      fun row => (row.2, row.1.1, productOf? products row.1.1))

/-- `_INSERT_PRODUCTS_BATCH_SQL`, with the rows that it returns. -/
def insertProductsBatch? (cards : List CardVersionId) (tables : Tables) :
    Option (Tables × List (ProductId × CardVersionId)) :=
  let unlinked := cards.filter (· ∉ tables.products.mtgCardProducts.values)
  let created := engine.productIds.take (tables.productRef.rows.map Prod.fst) unlinked.length
  let zipped := (engine.numberedProducts.list created).zip (engine.numberedCards.list unlinked)
  -- a card that does not exist violates the foreign key
  if unlinked.all (· ∈ catalogue.cardVersion) then
    (linkCards? zipped tables.products).map fun products =>
      ({ tables with
          productRef := tables.productRef.setAll (created.map (·, catalogue.mtgGameId))
          products },
        engine.returned.list (products.mtgCardProducts.rows.filter fun row =>
          (tables.products.mtgCardProducts.get? row.1).isNone))
  else none

/-- `_GET_PRODUCT_IDS_FOR_CARDS_SQL` -/
def getProductIdsForCards (cards : List CardVersionId) (products : Products) :
    List (CardVersionId × ProductId) :=
  engine.linked.list ((products.mtgCardProducts.rows.filter (·.2 ∈ cards)).map Prod.swap)

/-- `_ENSURE_SOURCE_PRODUCT_SQL` -/
def ensureSourceProduct? (wanted : List (ProductId × String)) (tables : Tables) : Option Tables :=
  let joined := wanted.flatMap fun product =>
    (catalogue.priceSource.keysOf product.2).map fun sourceId => SourceProduct.mk product.1 sourceId
  let ids := engine.sourceProductIds.take
    (tables.products.sourceProduct.rows.map Prod.fst) joined.length
  (linkSources? (ids.zip joined) tables.products).map fun products => { tables with products }

/-- `_FETCH_SOURCE_PRODUCT_IDS_SQL` -/
def fetchSourceProductIds (productIds : List ProductId) (sourceCodes : List String)
    (products : Products) : List (SourceProductId × ProductId × String) :=
  engine.sourceProducts.list (products.sourceProduct.rows.filterMap fun row =>
    (catalogue.priceSource.get? row.2.sourceId).bind fun code =>
      if row.2.productId ∈ productIds ∧ code ∈ sourceCodes then some (row.1, row.2.productId, code)
      else none)

/-- A price as the batch is sent. -/
structure SentPrice where
  sourceProductId : SourceProductId
  finishCode : String
  priceCents : Int

/-- The key under which a price is booked, if its finish exists. -/
def observationKey? (tsDate : Int) (sent : SentPrice) : Option ObservationKey :=
  ((catalogue.cardFinished.keysOf sent.finishCode).head?).map fun finishId =>
    ⟨tsDate, sent.sourceProductId, catalogue.priceTypeId, finishId, catalogue.conditionId,
      catalogue.languageId, catalogue.dataProviderId⟩

/-- A price of the column, which is no negative one. -/
def columnPrice? (priceCents : Int) : Option Nat :=
  if 0 ≤ priceCents then some priceCents.toNat else none

/-- An `int` of the database. -/
def isInt4 (value : Int) : Bool := decide (-2147483648 ≤ value ∧ value ≤ 2147483647)

/-- The rows that the prices are joined to, with the price where the column takes it. -/
def joinedPrices (tsDate : Int) (sent : List SentPrice) : List (ObservationKey × Option Nat) :=
  sent.filterMap fun price =>
    (observationKey? catalogue tsDate price).map fun key => (key, columnPrice? price.priceCents)

/-- The rows that are to be inserted. -/
def excludedPrices (tsDate : Int) (sent : List SentPrice) : List (ObservationKey × Observation) :=
  (joinedPrices catalogue tsDate sent).filterMap fun row =>
    row.2.map fun cents => (row.1, ⟨⟨none, some cents, none⟩, none, none, engine.now⟩)

/-- `DO UPDATE SET list_avg_cents, scraped_at` -/
def updatedPrice (stored excluded : Observation) : Observation :=
  { stored with
    prices := { stored.prices with listAvgCents := excluded.prices.listAvgCents }
    scrapedAt := excluded.scrapedAt }

/-- `_UPSERT_PRICE_OBSERVATION_SQL`, with the number of rows it writes; `none` when a price is no
`int` or a negative one, or when a key is written twice. -/
def upsertPriceObservation? (tsDate : Int) (sent : List SentPrice) (tables : Tables) :
    Option (Tables × Nat) :=
  if sent.all (isInt4 ·.priceCents) ∧ (joinedPrices catalogue tsDate sent).all (·.2.isSome) then
    if hkeys : ((excludedPrices catalogue engine tsDate sent).map Prod.fst).Nodup then
      some ({ tables with
          priceObservation := tables.priceObservation.upsert
            ⟨excludedPrices catalogue engine tsDate sent, hkeys⟩ updatedPrice },
        (excludedPrices catalogue engine tsDate sent).length)
    else none
  else none

end Statements

/-! ## upsert_scryfall_price_batch -/

/-- An item of `rows`. -/
structure PriceRow where
  scryfallId : String
  sourceCode : String
  finishCode : String
  priceCents : Int
  deriving DecidableEq

/-- A value of `scryfall_to_meta`. -/
structure CardMeta where
  cardVersionId : CardVersionId
  productId : Option ProductId

abbrev ScryfallToMeta := Table String CardMeta

/-- The cards that have no product yet. -/
def ScryfallToMeta.missing (scryfallToMeta : ScryfallToMeta) : List CardVersionId :=
  (scryfallToMeta.rows.filter fun entry => entry.2.productId.isNone).map (·.2.cardVersionId)

def ScryfallToMeta.setProduct (scryfallToMeta : ScryfallToMeta) (scryfallId : String)
    (productId : ProductId) : ScryfallToMeta :=
  scryfallToMeta.mapValues fun key entry =>
    if key = scryfallId then { entry with productId := some productId } else entry

/-- The product of the card with the id of a row. -/
def metaProduct? (scryfallToMeta : ScryfallToMeta) (row : PriceRow) : Option ProductId :=
  (scryfallToMeta.get? row.scryfallId).bind (·.productId)

/-- What is sent for a row. -/
def sentPrice? (scryfallToMeta : ScryfallToMeta)
    (spLookup : Table (ProductId × String) SourceProductId) (row : PriceRow) : Option SentPrice :=
  (metaProduct? scryfallToMeta row).bind fun productId =>
    (spLookup.get? (productId, row.sourceCode)).map fun sourceProductId =>
      ⟨sourceProductId, row.finishCode, row.priceCents⟩

section Calls

variable (catalogue : Catalogue) (engine : Engine)

/-- Step 1: the cards and products of the ids. -/
def resolvedMeta (rows : List PriceRow) (tables : Tables) : ScryfallToMeta :=
  .ofPairs ((resolveScryfallIds catalogue engine (rows.map (·.scryfallId)) tables.products).map
    fun record => (record.1, ⟨record.2.1, record.2.2⟩))

/-- What a row that `_INSERT_PRODUCTS_BATCH_SQL` returns changes. -/
def takeNewRow (cvIdToSid : Table CardVersionId String) (scryfallToMeta : ScryfallToMeta)
    (row : ProductId × CardVersionId) : ScryfallToMeta :=
  match cvIdToSid.get? row.2 with
  | some scryfallId => scryfallToMeta.setProduct scryfallId row.1
  | none => scryfallToMeta

/-- Step 2: products for the cards without one. -/
def createProducts? (scryfallToMeta : ScryfallToMeta) (tables : Tables) :
    Option (Tables × ScryfallToMeta) :=
  let cvIdToSid := Table.ofPairs
    (scryfallToMeta.rows.map fun entry => (entry.2.cardVersionId, entry.1))
  if scryfallToMeta.missing = [] then some (tables, scryfallToMeta)
  else
    (insertProductsBatch? catalogue engine scryfallToMeta.missing tables).map fun inserted =>
      let created := inserted.2.foldl (takeNewRow cvIdToSid) scryfallToMeta
      -- some cards may have had conflicts
      let cvToProduct := Table.ofPairs
        (getProductIdsForCards engine created.missing inserted.1.products)
      (inserted.1, created.mapValues fun _ entry =>
        { entry with productId := entry.productId.or (cvToProduct.get? entry.cardVersionId) })

/-- Steps 3 to 5: the source products of the rows, and their prices. -/
def bookPrices? (tsDate : Int) (rows : List PriceRow) (scryfallToMeta : ScryfallToMeta)
    (tables : Tables) : Option (Tables × Nat) :=
  let wanted := rows.filterMap fun row =>
    (metaProduct? scryfallToMeta row).map (·, row.sourceCode)
  if wanted = [] then some (tables, 0)
  else
    (ensureSourceProduct? catalogue engine wanted tables).bind fun ensured =>
      let spLookup := Table.ofPairs ((fetchSourceProductIds catalogue engine (wanted.map Prod.fst)
        (wanted.map Prod.snd) ensured.products).map fun record => (record.2, record.1))
      let sent := rows.filterMap (sentPrice? scryfallToMeta spLookup)
      if sent = [] then some (ensured, 0)
      else upsertPriceObservation? catalogue engine tsDate sent ensured

/-- `upsert_scryfall_price_batch`; `none` when it raises. -/
def upsertScryfallPriceBatch? (tsDate : Int) (rows : List PriceRow) (tables : Tables) :
    Option (Tables × Nat) :=
  (createProducts? catalogue engine (resolvedMeta catalogue engine rows tables) tables).bind
    fun created => bookPrices? catalogue engine tsDate rows created.2 created.1

/-! ## upsert_source_products_for_cards -/

/-- `upsert_source_products_for_cards`, with the dictionary that it returns; `none` when it
raises. -/
def upsertSourceProductsForCards? (cards : List CardVersionId) (sourceCode : String)
    (tables : Tables) : Option (Tables × Table CardVersionId SourceProductId) :=
  let cvIds := cards.reverse.dedup.reverse
  if cvIds = [] then some (tables, .empty)
  else
    (insertProductsBatch? catalogue engine cvIds tables).bind fun inserted =>
      let cvToProduct := Table.ofPairs (getProductIdsForCards engine cvIds inserted.1.products)
      let productIds := cvToProduct.rows.map Prod.snd
      if productIds = [] then some (inserted.1, .empty)
      else
        (ensureSourceProduct? catalogue engine (productIds.map (·, sourceCode)) inserted.1).map
          fun ensured =>
            let productToSpid := Table.ofPairs ((fetchSourceProductIds catalogue engine productIds
              [sourceCode] ensured.products).map fun record => (record.2.1, record.1))
            (ensured, cvToProduct.filterMapValues fun _ productId => productToSpid.get? productId)

end Calls

end AutoMana.Pricing.CardPrices
