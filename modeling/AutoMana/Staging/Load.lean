import AutoMana.Relational.Aggregates
import AutoMana.Relational.Registry
import AutoMana.Staging.NewestPrice
import AutoMana.Staging.Resolution

/-!
# load_staging_prices_batched

The raw prices are loaded in date windows. A batch splits its raw rows by foil,
resolves their cards, learns print ids, sends what it could not resolve to the
reject table, makes sure the resolved cards have a product of the source, and
stages the rest, which it then promotes.
-/

namespace AutoMana.Staging

open Relational Pricing

/-! ## Splitting a raw row -/

/-- `(price * 100)::int` before its range check. -/
def centsOf (price : Int) : Int := price.sign * Aggregate.roundedQuotient price.natAbs 100

def splitPrice (dataProviderId : Nat) (raw : RawPrice) (isFoil : Bool)
    (low average sold value : Option Int) : SplitPrice where
  toListing := raw.toListing
  prices := ⟨low.map centsOf, average.map centsOf, sold.map centsOf⟩
  isFoil := isFoil
  value := value
  dataProviderId := dataProviderId

/-- The non-foil and the foil row, where they carry a price. -/
def foilSplit (dataProviderId : Nat) (raw : RawPrice) : List SplitPrice :=
  [splitPrice dataProviderId raw false raw.priceLow raw.priceAvg raw.priceMarket
      (raw.priceAvg.or (raw.priceMarket.or raw.priceLow)),
    splitPrice dataProviderId raw true none raw.priceFoil raw.priceMarketFoil
      (raw.priceFoil.or raw.priceMarketFoil)].filter (·.value.isSome)

/-- A price of the row does not fit an integer column. -/
def centsOverflow (split : SplitPrice) : Bool :=
  let overflows (cents : Option Int) :=
    cents.any fun cents => cents < -2147483648 || 2147483647 < cents
  overflows split.prices.listLowCents || overflows split.prices.listAvgCents ||
    overflows split.prices.soldAvgCents

/-! ## Products -/

/-- The identifiers drawn for new products and source products, never the same
one for two of them. -/
structure IdSupply where
  productId : CardVersionId → ProductId
  productId_injective : Function.Injective productId
  sourceProductId : SourceProduct → SourceProductId
  sourceProductId_injective : Function.Injective sourceProductId

/-- No id still to be drawn is taken. -/
structure IdSupply.Fresh (supply : IdSupply) (products : Products) : Prop where
  productId : ∀ card, card ∉ products.mtgCardProducts.values →
    products.mtgCardProducts.get? (supply.productId card) = none
  sourceProductId : ∀ product, product ∉ products.sourceProduct.values →
    products.sourceProduct.get? (supply.sourceProductId product) = none

/-- Products are added, under ids of the supply, and none is removed. -/
structure ProductsGrow (supply : IdSupply) (earlier later : Products) : Prop where
  mtgCardProducts :
    Table.Grows supply.productId earlier.mtgCardProducts later.mtgCardProducts
  sourceProduct : Table.Grows supply.sourceProductId earlier.sourceProduct later.sourceProduct

theorem ProductsGrow.trans {supply : IdSupply} {first second third : Products}
    (hfirst : ProductsGrow supply first second) (hsecond : ProductsGrow supply second third) :
    ProductsGrow supply first third where
  mtgCardProducts := hfirst.mtgCardProducts.trans hsecond.mtgCardProducts
  sourceProduct := hfirst.sourceProduct.trans hsecond.sourceProduct

/-- A product for each card, and one of the source for each of these products;
`none` when a drawn id is taken. -/
def ensureProducts (supply : IdSupply) (sourceId : SourceId) (cards : List CardVersionId)
    (products : Products) : Option Products :=
  match hcards : products.mtgCardProducts.register? supply.productId cards with
  | none => none
  | some mtgCardProducts =>
    -- the new products are already in the table this join reads
    let wanted := cards.flatMap fun card =>
      (mtgCardProducts.keysOf card).map fun productId => ⟨productId, sourceId⟩
    match hwanted : products.sourceProduct.register? supply.sourceProductId wanted with
    | none => none
    | some sourceProduct => some {
        sourceProduct
        sourceProduct_unique :=
          Table.nodup_values_of_register products.sourceProduct_unique hwanted
        mtgCardProducts
        mtgCardProducts_unique :=
          Table.nodup_values_of_register products.mtgCardProducts_unique hcards }

/-- `mtg_card_products JOIN source_product` of a card and a source. -/
def productLookup (products : Products) (sourceId : SourceId) (card : CardVersionId) :
    List (ProductId × SourceProductId) :=
  (products.mtgCardProducts.keysOf card).flatMap fun productId =>
    (products.sourceProduct.keysOf ⟨productId, sourceId⟩).map (productId, ·)

theorem mem_productLookup {products : Products} {sourceId : SourceId} {card : CardVersionId}
    {product : ProductId × SourceProductId} :
    product ∈ productLookup products sourceId card ↔
      products.mtgCardProducts.get? product.1 = some card ∧
        products.sourceProduct.get? product.2 = some ⟨product.1, sourceId⟩ := by
  obtain ⟨productId, sourceProductId⟩ := product
  simp only [productLookup, List.mem_flatMap, List.mem_map, Table.mem_keysOf, Prod.mk.injEq]
  constructor
  · intro hmem
    obtain ⟨_, hproduct, _, hsource, rfl, rfl⟩ := hmem
    exact ⟨hproduct, hsource⟩
  · intro hmem
    exact ⟨productId, hmem.1, sourceProductId, hmem.2, rfl, rfl⟩

/-- Fresh ids are enough to ensure products. -/
theorem exists_ensureProducts {supply : IdSupply} {products : Products}
    (hfresh : supply.Fresh products) (sourceId : SourceId) (cards : List CardVersionId) :
    ∃ next, ensureProducts supply sourceId cards products = some next := by
  rw [← Option.isSome_iff_exists]
  simp only [ensureProducts]
  split
  · next hnone =>
      obtain ⟨mtgCardProducts, hcards⟩ :=
        Table.exists_register supply.productId_injective hfresh.productId cards
      simp [hcards] at hnone
  · next mtgCardProducts _ =>
      split
      · next hnone =>
          obtain ⟨sourceProduct, hwanted⟩ :=
            Table.exists_register supply.sourceProductId_injective hfresh.sourceProductId
              (cards.flatMap fun card =>
                (mtgCardProducts.keysOf card).map fun productId => ⟨productId, sourceId⟩)
          simp [hwanted] at hnone
      · rfl

/-- Ensuring products adds products. -/
theorem productsGrow_of_ensure {supply : IdSupply} {sourceId : SourceId}
    {cards : List CardVersionId} {products next : Products}
    (hensure : ensureProducts supply sourceId cards products = some next) :
    ProductsGrow supply products next := by
  simp only [ensureProducts] at hensure
  split at hensure
  · cases hensure
  · next mtgCardProducts hcards =>
      split at hensure
      · cases hensure
      · next sourceProduct hwanted =>
          cases hensure
          exact ⟨Table.grows_of_register hcards, Table.grows_of_register hwanted⟩

/-- Ensuring a card's products makes its lookup one row. -/
theorem productLookup_of_ensure {supply : IdSupply} {sourceId : SourceId}
    {cards : List CardVersionId} {products next : Products}
    (hensure : ensureProducts supply sourceId cards products = some next)
    {card : CardVersionId} (hcard : card ∈ cards) :
    ∃ product, productLookup next sourceId card = [product] := by
  simp only [ensureProducts] at hensure
  split at hensure
  · cases hensure
  · next mtgCardProducts hcards =>
      split at hensure
      · cases hensure
      · next sourceProduct hwanted =>
          cases hensure
          obtain ⟨productId, hproduct⟩ := Table.keysOf_eq_singleton
            (Table.nodup_values_of_register products.mtgCardProducts_unique hcards)
            (Table.mem_values_of_register hcards hcard)
          have hwants : SourceProduct.mk productId sourceId ∈ cards.flatMap fun card =>
              (mtgCardProducts.keysOf card).map fun productId => ⟨productId, sourceId⟩ := by
            simp only [List.mem_flatMap, List.mem_map]
            exact ⟨card, hcard, productId, by simp [hproduct], rfl⟩
          obtain ⟨sourceProductId, hsource⟩ := Table.keysOf_eq_singleton
            (Table.nodup_values_of_register products.sourceProduct_unique hwanted)
            (Table.mem_values_of_register hwanted hwants)
          exact ⟨(productId, sourceProductId), by simp [productLookup, hproduct, hsource]⟩

/-- Ensuring the products again changes nothing. -/
theorem ensureProducts_of_ensured {supply : IdSupply} {sourceId : SourceId}
    {cards : List CardVersionId} {products next : Products}
    (hensure : ensureProducts supply sourceId cards products = some next) :
    ensureProducts supply sourceId cards next = some next := by
  simp only [ensureProducts] at hensure
  split at hensure
  · cases hensure
  · next mtgCardProducts hcards =>
      split at hensure
      · cases hensure
      · next sourceProduct hwanted =>
          cases hensure
          have hagain := Table.register_of_registered
            (fun card hcard => Table.mem_values_of_register hcards hcard) supply.productId
          have hwantedAgain := Table.register_of_registered
            (fun wanted hmem => Table.mem_values_of_register hwanted hmem) supply.sourceProductId
          simp only [ensureProducts]
          split
          · next hnone => simp [hagain] at hnone
          · next again hcardsAgain =>
              obtain rfl := Option.some.inj (hagain.symm.trans hcardsAgain)
              split
              · next hnone => simp [hwantedAgain] at hnone
              · next again hsourceAgain =>
                  obtain rfl := Option.some.inj (hwantedAgain.symm.trans hsourceAgain)
                  rfl

/-! ## Learning print ids -/

/-- The back-fill of `mtgstock_id`: a print id resolved to one card is recorded
for it, the smallest one per card, where the card has none yet. -/
def backfill (catalogue : Catalogue) (resolvedPrints : List (Int × CardVersionId)) : Catalogue :=
  match anyIdWhere catalogue.cardIdentifierRef (· = "mtgstock_id") with
  | none => catalogue
  | some refId =>
    let unambiguous := resolvedPrints.dedup.filter fun row =>
      (resolvedPrints.dedup.filter (·.1 = row.1)).length = 1
    let pickOnePerCv : Table (CardVersionId × Nat) String :=
      Table.groupBy (fun row => (row.2, refId))
        (fun group => (group.map Prod.fst).min?.map toString) unambiguous
    { catalogue with
      cardExternalIdentifier :=
        catalogue.cardExternalIdentifier.upsert pickOnePerCv fun stored _ => stored }

/-! ## One batch -/

/-- A row of `tmp_resolved`. -/
abbrev ResolvedPrice := SplitPrice × Resolution

def rejectReason : String :=
  "Could not resolve card_version_id via print_id/external_id/set+collector"

/-- The row inserted into the reject table; its other columns take their defaults. -/
def rejectOf (now : Timestamp) (split : SplitPrice) : RejectPrice where
  toSplitPrice := split
  isTerminal := false
  terminalReason := none
  resolutionAttemptedAt := now
  rejectReason := rejectReason
  resolvedAt := none
  resolvedSourceProductId := none
  resolvedProductId := none
  resolvedCardVersionId := none
  resolvedMethod := none

/-- The row inserted into staging. -/
def stagedOf (split : SplitPrice) (card : CardVersionId)
    (product : ProductId × SourceProductId) : StagedPrice where
  tsDate := split.tsDate
  gameCode := split.gameCode
  printId := split.printId
  prices := split.prices
  isFoil := split.isFoil
  sourceCode := split.sourceCode
  dataProviderId := split.dataProviderId
  value := split.value
  productId := product.1
  cardVersionId := some card
  sourceProductId := product.2
  setAbbr := split.setAbbr
  collectorNumber := split.collectorNumber
  cardName := split.cardName
  scryfallId := split.scryfallId
  tcgId := split.tcgId
  scrapedAt := split.scrapedAt

/-- The staged rows of one resolved row. -/
def stagedRows (products : Products) (sourceId : SourceId) (row : ResolvedPrice) :
    List StagedPrice :=
  row.2.toList.flatMap fun resolved =>
    (productLookup products sourceId resolved.1).map (stagedOf row.1 resolved.1)

theorem mem_stagedRows {products : Products} {sourceId : SourceId} {split : SplitPrice}
    {resolution : Resolution} {staged : StagedPrice} :
    staged ∈ stagedRows products sourceId (split, resolution) ↔
      ∃ card method product, resolution = some (card, method) ∧
        product ∈ productLookup products sourceId card ∧ staged = stagedOf split card product := by
  simp only [stagedRows, List.mem_flatMap, List.mem_map, Option.mem_toList]
  constructor
  · intro hmem
    obtain ⟨⟨card, method⟩, hresolution, product, hproduct, rfl⟩ := hmem
    exact ⟨card, method, product, hresolution, hproduct, rfl⟩
  · intro hmem
    obtain ⟨card, method, product, hresolution, hproduct, rfl⟩ := hmem
    exact ⟨(card, method), hresolution, product, hproduct, rfl⟩

/-- The rejected row of an unresolved row. -/
def rejectedRow (now : Timestamp) (row : ResolvedPrice) : Option RejectPrice :=
  if row.2.isNone then some (rejectOf now row.1) else none

/-- What a batch is run with. -/
structure LoadContext where
  locale : TextLocale
  supply : IdSupply
  sourceId : SourceId
  dataProviderId : Nat
  now : Timestamp

/-- The foil-split rows of a batch. -/
def splitBatch (context : LoadContext) (raws : List RawPrice) : List SplitPrice :=
  raws.flatMap (foilSplit context.dataProviderId)

/-- The scan order of a batch: which of several tied external matches comes first. -/
abbrev ScanOrder (catalogue : Catalogue) (raws : List RawPrice) :=
  ExternalMap false catalogue (raws.map RawPrice.toListing)

def resolvePrice (context : LoadContext) (catalogue : Catalogue) (raws : List RawPrice)
    (scan : ScanOrder catalogue raws) (split : SplitPrice) : List Resolution :=
  resolve false context.locale catalogue ((splitBatch context raws).map SplitPrice.toListing)
    (raws.map RawPrice.toListing) scan split.toListing

/-- The temporary table `tmp_resolved`. -/
def tmpResolved (context : LoadContext) (catalogue : Catalogue) (raws : List RawPrice)
    (scan : ScanOrder catalogue raws) : List ResolvedPrice :=
  (splitBatch context raws).flatMap fun split =>
    (resolvePrice context catalogue raws scan split).map (split, ·)

/-- A cast of the batch raises. -/
def castRaises (context : LoadContext) (raws : List RawPrice) : Bool :=
  (splitBatch context raws).any centsOverflow ||
    malformedScryfallId (raws.map RawPrice.toListing)

/-- What a batch writes before its promotion. -/
structure LoadedBatch where
  staged : List StagedPrice
  rejected : List RejectPrice
  products : Products
  catalogue : Catalogue

def resolvedCards (resolved : List ResolvedPrice) : List CardVersionId :=
  resolved.filterMap fun row => row.2.map Prod.fst

/-- The batch up to its promotion; `none` when a statement of it raises. -/
def stageBatch (context : LoadContext) (catalogue : Catalogue) (products : Products)
    (raws : List RawPrice) (scan : ScanOrder catalogue raws) : Option LoadedBatch :=
  if castRaises context raws then none
  else
    let resolved := tmpResolved context catalogue raws scan
    (ensureProducts context.supply context.sourceId (resolvedCards resolved) products).map
      fun products => {
        staged := resolved.flatMap (stagedRows products context.sourceId)
        rejected := resolved.filterMap (rejectedRow context.now)
        products
        catalogue := backfill catalogue
          (resolved.filterMap fun row => row.2.map fun card => (row.1.printId, card.1)) }

/-- What a batch that commits has written. -/
theorem stageBatch_spec {context : LoadContext} {catalogue : Catalogue} {products : Products}
    {raws : List RawPrice} {scan : ScanOrder catalogue raws} {loaded : LoadedBatch}
    (hloaded : stageBatch context catalogue products raws scan = some loaded) :
    ensureProducts context.supply context.sourceId
        (resolvedCards (tmpResolved context catalogue raws scan)) products =
      some loaded.products ∧
    loaded.staged = (tmpResolved context catalogue raws scan).flatMap
      (stagedRows loaded.products context.sourceId) ∧
    loaded.rejected =
      (tmpResolved context catalogue raws scan).filterMap (rejectedRow context.now) := by
  simp only [stageBatch, Option.ite_none_left_eq_some, Option.map_eq_some_iff] at hloaded
  obtain ⟨-, next, hensure, rfl⟩ := hloaded
  exact ⟨hensure, rfl, rfl⟩

/-- What the procedure reads and writes besides its input. -/
structure LoadTables where
  catalogue : Catalogue
  products : Products
  staging : StagingTables
  rejects : SerialTable RejectPrice

/-- One `CALL pricing.load_staging_prices_batched` after its pre-flight, with
the windows whose batch raises for a reason of its own. -/
structure LoadCall extends LoadContext where
  dims : PromotionDims
  batchDays : ℕ+
  scan : ∀ catalogue raws, ScanOrder catalogue raws
  failed : Window → Bool

/-- One iteration of the batch loop, with its commit or rollback. -/
def loadWindow (call : LoadCall) (raw : List RawPrice) (window : Window) (tables : LoadTables) :
    LoadTables :=
  let raws := raw.filter fun row => window.Contains row.tsDate
  match stageBatch call.toLoadContext tables.catalogue tables.products raws (call.scan _ _) with
  | none => tables
  | some loaded =>
    let staging := { tables.staging with
      stgPriceObservation := tables.staging.stgPriceObservation.insert loaded.staged }
    -- the window commits or rolls back as a whole, its promotion included
    if call.failed window ||
        promotionRaises call.locale call.dims window staging.stgPriceObservation then tables
    else {
      catalogue := loaded.catalogue
      products := loaded.products
      staging := promote call.locale call.dims window staging
      rejects := tables.rejects.insert loaded.rejected }

/-- The procedure after its pre-flight. -/
def loadStagingPricesBatched (call : LoadCall) (raw : List RawPrice) (tables : LoadTables) :
    LoadTables :=
  match (raw.map (·.tsDate)).min?, (raw.map (·.tsDate)).max? with
  | some v_min, some v_max => batchLoop call.batchDays (loadWindow call raw) v_max v_min tables
  | _, _ => tables

/-- To the staging tables, a window is one loader batch: its staged rows arrive and
are promoted together. -/
theorem loadWindow_staging (call : LoadCall) (raw : List RawPrice) (window : Window)
    (tables : LoadTables) :
    ∃ rows failed, (loadWindow call raw window tables).staging =
      PromotionHistory.afterEvent call.locale call.dims tables.staging
        (.loadBatch rows window failed) := by
  simp only [loadWindow, PromotionHistory.afterEvent]
  split
  · exact ⟨[], true, rfl⟩
  · next loaded _ =>
      refine ⟨loaded.staged, call.failed window, ?_⟩
      exact apply_ite LoadTables.staging _ _ _

/-- To the staging tables, a call is a sequence of loader batches. -/
theorem loadStagingPricesBatched_staging (call : LoadCall) (raw : List RawPrice)
    (tables : LoadTables) :
    ∃ batches : List (List StagedPrice × Window × Bool),
      (loadStagingPricesBatched call raw tables).staging =
        (batches.map fun batch => PromotionEvent.loadBatch batch.1 batch.2.1 batch.2.2).foldl
          (PromotionHistory.afterEvent call.locale call.dims) tables.staging := by
  have hwindows (windows : List Window) : ∃ batches : List (List StagedPrice × Window × Bool),
      (windows.foldl (fun tables window => loadWindow call raw window tables) tables).staging =
        (batches.map fun batch => PromotionEvent.loadBatch batch.1 batch.2.1 batch.2.2).foldl
          (PromotionHistory.afterEvent call.locale call.dims) tables.staging := by
    induction windows generalizing tables with
    | nil => exact ⟨[], rfl⟩
    | cons window rest ih =>
        obtain ⟨rows, failed, hfirst⟩ := loadWindow_staging call raw window tables
        obtain ⟨batches, hrest⟩ := ih (loadWindow call raw window tables)
        rw [hfirst] at hrest
        exact ⟨(rows, window, failed) :: batches, hrest⟩
  unfold loadStagingPricesBatched
  split
  · rw [batchLoop_eq_foldl]
    exact hwindows _
  · exact ⟨[], rfl⟩

/-- The reference tables of the pre-flight. -/
structure SourceTables extends DimensionTables where
  /-- The `code` of each price source. -/
  priceSource : Table SourceId String
  /-- The `code` of each data provider. -/
  dataProvider : Table Nat String

/-- The pre-flight: `v_source_id`, `v_data_provider_id`, and the dimension ids. -/
def loadPreflight (locale : TextLocale) (tables : SourceTables) (source_name : String) :
    Except String (SourceId × Nat × PromotionDims) := do
  let v_source_id ← match anyIdWhere tables.priceSource (· = source_name) with
    | some id => pure id
    | none => throw s!"Missing source_code={source_name} in pricing.price_source"
  let v_data_provider_id ← match anyIdWhere tables.dataProvider (· = "mtgstocks") with
    | some id => pure id
    | none => throw "Missing pricing.data_provider row with code=mtgstocks"
  let dims ← promotionDims locale "No 'sell' row in pricing.transaction_type"
    tables.toDimensionTables
  return (v_source_id, v_data_provider_id, dims)

/-- A call is refused for one of its reference rows, which the error names. -/
theorem loadPreflight_error_cases {locale : TextLocale} {tables : SourceTables}
    {source_name message : String}
    (herror : loadPreflight locale tables source_name = .error message) :
    (message = s!"Missing source_code={source_name} in pricing.price_source" ∧
        ∀ id code, tables.priceSource.get? id = some code → code ≠ source_name) ∨
      (message = "Missing pricing.data_provider row with code=mtgstocks" ∧
        ∀ id code, tables.dataProvider.get? id = some code → code ≠ "mtgstocks") ∨
      (message = "No 'sell' row in pricing.transaction_type" ∧
        ∀ id code, tables.transactionType.get? id = some code → locale.lower code ≠ "sell") := by
  have habsent {table : Table Nat String} {name : String}
      (hnone : anyIdWhere table (· = name) = none) :
      ∀ id code, table.get? id = some code → code ≠ name :=
    fun id code hget => of_decide_eq_false (anyIdWhere_eq_none_iff.mp hnone id code hget)
  simp only [loadPreflight, bind, Except.bind, pure, Except.pure] at herror
  cases hsource : anyIdWhere tables.priceSource (· = source_name) with
  | none =>
      simp only [hsource] at herror
      cases herror
      exact Or.inl ⟨rfl, habsent hsource⟩
  | some v_source_id =>
      simp only [hsource] at herror
      cases hprovider : anyIdWhere tables.dataProvider (· = "mtgstocks") with
      | none =>
          simp only [hprovider] at herror
          cases herror
          exact Or.inr (Or.inl ⟨rfl, habsent hprovider⟩)
      | some v_data_provider_id =>
          simp only [hprovider] at herror
          cases hdims : promotionDims locale "No 'sell' row in pricing.transaction_type"
              tables.toDimensionTables with
          | error reason =>
              simp only [hdims] at herror
              cases herror
              exact Or.inr (Or.inr (promotionDims_eq_error_iff.mp hdims))
          | ok dims =>
              simp only [hdims] at herror
              cases herror

end AutoMana.Staging
