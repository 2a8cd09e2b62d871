import AutoMana.Mtgjson.Joins
import AutoMana.Relational.Snapshot

/-!
# load_price_observation_from_mtgjson_sealed_staging

The MTGJson prices of sealed products land in a staging table of their own. A call
normalizes the staged rows and promotes them in date windows, as the card loader does;
a window that raises is skipped with a warning. A window upserts one observation per
key, and into `sealed_price_latest` the newest price of each product, source, and
transaction type.
-/

namespace AutoMana.Sealed

open Relational Pricing
open Mtgjson (IdSupply LoadError PriceValue insertProductSource returning storedSources
  transactionType updateObservation varchar3?)
open Staging (anyIdWhere)

/-! ## The tables -/

/-- A row of `mtgjson_sealed_prices_staging`, without its `id`. -/
structure StagedSealed where
  sealedUuid : String
  priceSource : String
  priceType : Option String
  currency : String
  priceValue : PriceValue
  priceDate : Int
deriving DecidableEq, Repr

/-- Primary key of `sealed_price_latest`. -/
@[ext] structure LatestKey where
  productId : ProductId
  sourceId : SourceId
  transactionTypeId : Nat
deriving DecidableEq, Repr

structure LatestPrice where
  priceDate : Int
  prices : Prices Nat
  nProviders : Option Nat
deriving DecidableEq, Repr

/-- What a promotion reads and nothing here writes. -/
structure Reference where
  dataProvider : Table Nat String
  /-- The codes of `currency_ref`. -/
  currencyRef : List String
  /-- `pricing.default_finish_id()` -/
  finishId : Nat
  /-- `pricing.default_condition_id()` -/
  conditionId : Nat
  /-- `card_catalog.default_language_id()` -/
  languageId : Nat

structure SealedTables where
  reference : Reference
  staging : SerialTable StagedSealed
  /-- The `source_id` and the `currency_code` of each code. -/
  priceSource : CodeTable String
  products : Products
  /-- The product of each `mtgjson_uuid` of `pricing.sealed_products`. -/
  sealedProducts : Table String ProductId
  priceObservation : Table ObservationKey Observation
  sealedPriceLatest : Table LatestKey LatestPrice

/-- A row of `resolved`, with the keys it is upserted under. -/
structure ResolvedSealed where
  id : Nat
  key : ObservationKey
  latest : LatestKey
  priceCents : Option Int
deriving DecidableEq, Repr

/-- What the execution of a call decides: in which order a `DISTINCT` returns the codes
and currencies to register, in which order tied rows reach each `DISTINCT ON`, and in
which windows a statement raises for a reason of its own. -/
structure Plan where
  sources : List (String × String) → List (String × String)
  sources_perm : ∀ selected, (sources selected).Perm selected.dedup
  upserted : List ResolvedSealed → List ResolvedSealed
  upserted_perm : ∀ rows, (upserted rows).Perm rows
  snapshotInsert : List ResolvedSealed → List ResolvedSealed
  snapshotInsert_perm : ∀ rows, (snapshotInsert rows).Perm rows
  raises : Window → Bool

structure LoadCall where
  locale : TextLocale
  supply : IdSupply
  now : Timestamp
  batchDays : Option Int

/-! ## Normalization -/

def normalizeType (locale : TextLocale) (row : StagedSealed) : StagedSealed :=
  { row with
    priceType := row.priceType.map fun code =>
      if locale.lower code ∈ ["retail", "market"] then "sell"
      else if locale.lower code ∈ ["buylist", "directlow"] then "buy"
      else locale.lower code }

def normalizeSource (locale : TextLocale) (row : StagedSealed) : StagedSealed :=
  if locale.lower row.priceSource = "tcgplayer" then { row with priceSource := "tcg" } else row

/-- The `UPDATE`s of the staging table. -/
def normalizeStaging (locale : TextLocale) (tables : SealedTables) : SealedTables :=
  { tables with
    staging := tables.staging.mapValues fun _ row =>
      normalizeSource locale (normalizeType locale row) }

/-! ## The joins -/

/-- `INSERT INTO price_source ... ON CONFLICT (code) DO NOTHING` for the staged rows of
a window; `none` when a currency is too long or unknown. -/
def registerSources (call : LoadCall) (plan : Plan) (rows : List StagedSealed)
    (tables : SealedTables) : Option (CodeTable String) :=
  let selected := plan.sources (rows.map fun row => (row.priceSource, row.currency))
  if selected.any fun source => (varchar3? source.2).isNone then none
  else
    (tables.priceSource.insertMissing? call.supply.sourceId
        (storedSources selected)).filter fun next =>
      next.table.rows.all fun row =>
        (tables.priceSource.get? row.1).isSome ||
          decide (row.2.2 ∈ tables.reference.currencyRef)

/-- `tt` on the code. -/
def transactionTypeId? (row : StagedSealed) : Option Nat :=
  row.priceType.bind fun code => anyIdWhere transactionType (· = code)

/-- `src` on the code, `prod` on the uuid. -/
def sourceProduct? (tables : SealedTables) (row : StagedSealed) : Option SourceProduct := do
  let (sourceId, _) ← tables.priceSource.get? row.priceSource
  let productId ← tables.sealedProducts.get? row.sealedUuid
  return ⟨productId, sourceId⟩

/-- The joins of the upsert and of the delete. -/
def latestKey? (tables : SealedTables) (row : StagedSealed) : Option LatestKey := do
  let transactionTypeId ← transactionTypeId? row
  let sourceProduct ← sourceProduct? tables row
  return ⟨sourceProduct.productId, sourceProduct.sourceId, transactionTypeId⟩

def LatestKey.sourceProduct (latest : LatestKey) : SourceProduct :=
  ⟨latest.productId, latest.sourceId⟩

/-- The key of the observation of a source product on a day. -/
def observationKey (reference : Reference) (v_data_provider_id : Nat) (latest : LatestKey)
    (sourceProductId : SourceProductId) (tsDate : Int) : ObservationKey where
  tsDate
  sourceProductId
  priceTypeId := latest.transactionTypeId
  finishId := reference.finishId
  conditionId := reference.conditionId
  languageId := reference.languageId
  dataProviderId := v_data_provider_id

/-- The rows of `resolved` a staged row becomes. -/
def resolvedSealed (v_data_provider_id : Nat) (tables : SealedTables)
    (returned : List (SourceProductId × SourceProduct)) (staged : Nat × StagedSealed) :
    List ResolvedSealed :=
  match latestKey? tables staged.2 with
  | none => []
  | some latest => (returned.filter (·.2 = latest.sourceProduct)).map fun sourceProduct => {
      id := staged.1
      key := observationKey tables.reference v_data_provider_id latest sourceProduct.1
        staged.2.priceDate
      latest
      priceCents := staged.2.priceValue.cents? }

/-! ## The writes -/

/-- The price columns of both inserts. -/
def ResolvedSealed.prices (price : ResolvedSealed) : Prices Int :=
  let whenType (transactionTypeId : Nat) : Option Int :=
    if price.latest.transactionTypeId = transactionTypeId then price.priceCents else none
  ⟨none, whenType 1, whenType 2⟩

/-- The row inserted into `price_observation`; `none` when the price check raises. -/
def observation? (call : LoadCall) (price : ResolvedSealed) : Option Observation :=
  price.prices.checked?.map fun prices => {
    prices
    listCount := if price.latest.transactionTypeId = 1 then some 1 else none
    soldCount := if price.latest.transactionTypeId = 2 then some 1 else none
    scrapedAt := call.now }

/-- The row inserted into `sealed_price_latest`; `none` when the price check raises. -/
def latestPrice? (price : ResolvedSealed) : Option LatestPrice :=
  price.prices.checked?.map fun prices =>
    { priceDate := price.key.tsDate, prices, nProviders := some 1 }

/-- `DO UPDATE ... WHERE EXCLUDED.price_date >= price_date`, which keeps the stored
`list_low_cents`. -/
def updateLatest (stored excluded : LatestPrice) : LatestPrice :=
  if stored.priceDate ≤ excluded.priceDate then
    { excluded with prices := { excluded.prices with listLowCents := stored.prices.listLowCents } }
  else stored

/-- The rows that reach `price_observation`. -/
def upserted (plan : Plan) (resolved : List ResolvedSealed) :
    Table ObservationKey ResolvedSealed :=
  firstPerKey ResolvedSealed.key (plan.upserted resolved)

/-- The rows that reach `sealed_price_latest`. -/
def snapshotInsert (plan : Plan) (resolved : List ResolvedSealed) :
    Table LatestKey ResolvedSealed :=
  greatestPerKey ResolvedSealed.latest (·.key.tsDate) (plan.snapshotInsert resolved)

/-- Both inserts; `none` when a cast or a check raises. -/
def writePrices (call : LoadCall) (plan : Plan) (resolved : List ResolvedSealed)
    (tables : SealedTables) : Option SealedTables :=
  if resolved.any (·.priceCents.isNone) ||
      (upserted plan resolved).rows.any (fun survivor => (observation? call survivor.2).isNone) ||
      (snapshotInsert plan resolved).rows.any fun survivor => (latestPrice? survivor.2).isNone then
    none
  else some { tables with
    priceObservation := tables.priceObservation.upsert
      ((upserted plan resolved).filterMapValues fun _ price => observation? call price)
      updateObservation
    sealedPriceLatest := tables.sealedPriceLatest.upsert
      ((snapshotInsert plan resolved).filterMapValues fun _ price => latestPrice? price)
      updateLatest }

/-- Whether a staged row is among the `staged_ids` of the delete. -/
def deletes (tables : SealedTables) (row : StagedSealed) : Bool :=
  (latestKey? tables row).any fun latest =>
    tables.products.sourceProduct.rows.any (·.2 = latest.sourceProduct)

/-! ## The loop -/

/-- The staged rows of a window. -/
def stagedIn (window : Window) (staging : SerialTable StagedSealed) :
    List (Nat × StagedSealed) :=
  staging.table.rows.filter fun staged => window.Contains staged.2.priceDate

/-- The rows of `resolved` of a window. -/
def resolvedIn (v_data_provider_id : Nat) (window : Window) (tables : SealedTables)
    (products : Products) : List ResolvedSealed :=
  let staged := stagedIn window tables.staging
  let pairs := (staged.map Prod.snd).filterMap (sourceProduct? tables)
  staged.flatMap (resolvedSealed v_data_provider_id tables (returning pairs products))

/-- The statements of one window; `none` when one raises. -/
def promoteWindow (call : LoadCall) (plan : Plan) (v_data_provider_id : Nat) (window : Window)
    (tables : SealedTables) : Option SealedTables :=
  if plan.raises window then none
  else do
    let rows := (stagedIn window tables.staging).map Prod.snd
    let priceSource ← registerSources call plan rows tables
    let tables := { tables with priceSource }
    let products ← insertProductSource call.supply (rows.filterMap (sourceProduct? tables))
      tables.products
    let resolved := resolvedIn v_data_provider_id window tables products
    let tables ← writePrices call plan resolved { tables with products }
    let stagedIds := ((stagedIn window tables.staging).filter fun staged =>
      deletes tables staged.2).map Prod.fst
    return { tables with staging := tables.staging.deleteWhere fun id _ => id ∈ stagedIds }

/-- A window that raises is rolled back, with a warning. -/
def promoteOrWarn (call : LoadCall) (plan : Plan) (v_data_provider_id : Nat)
    (tables : SealedTables) (window : Window) : SealedTables :=
  (promoteWindow call plan v_data_provider_id window tables).getD tables

/-- The windows from the first staged day to the last; without rows there are none. -/
def stagingWindows (batchDays : ℕ+) (staging : SerialTable StagedSealed) : List Window :=
  let dates := staging.values.map StagedSealed.priceDate
  match dates.min?, dates.max? with
  | some v_min, some v_max => wholeWindows batchDays v_max v_min
  | _, _ => []

/-- `SELECT data_provider_id FROM data_provider WHERE code = 'mtgjson' LIMIT 1`. -/
def providerId? (tables : SealedTables) : Option Nat :=
  anyIdWhere tables.reference.dataProvider (· = "mtgjson")

theorem toNat_pos {batchDays : Int} (hdays : 0 < batchDays) : 0 < batchDays.toNat :=
  Int.pos_iff_toNat_pos.mp hdays

/-- The tables a call leaves, and the error it ends with. -/
def loadPriceObservationFromMtgjsonSealedStaging (call : LoadCall) (plan : Plan)
    (tables : SealedTables) : SealedTables × Option LoadError :=
  match call.batchDays with
  | none => (tables, some (.raised "batch_days must be > 0 (got <NULL>)"))
  | some batchDays =>
    if hdays : 0 < batchDays then
      let normalized := normalizeStaging call.locale tables
      match providerId? normalized with
      | none =>
        (normalized, some (.raised "Missing pricing.data_provider row with code=mtgjson"))
      | some v_data_provider_id =>
        ((stagingWindows ⟨batchDays.toNat, toNat_pos hdays⟩
            normalized.staging).foldl (promoteOrWarn call plan v_data_provider_id) normalized,
          none)
    else (tables, some (.raised s!"batch_days must be > 0 (got {batchDays})"))

end AutoMana.Sealed
