import AutoMana.Mtgjson.Schema
import AutoMana.Staging.Load

/-!
# load_price_observation_from_mtgjson_staging_batched

A call gives every staged card a product, normalizes the staged rows, and promotes
them in date windows. A window registers the sources and finishes of its rows, makes
sure each staged product has a source product, upserts one observation per key, and
deletes the rows that resolved.
-/

namespace AutoMana.Mtgjson

open Relational Pricing
open Staging (anyIdWhere)

/-- The identifiers drawn for new rows, never the same one for two of them. -/
structure IdSupply extends Staging.IdSupply where
  sourceId : String → SourceId
  sourceId_injective : Function.Injective sourceId
  finishId : String → Nat
  finishId_injective : Function.Injective finishId

/-- A row of `resolved`, with the key it is upserted under. -/
structure ResolvedPrice where
  id : Nat
  key : ObservationKey
  priceCents : Option Int
deriving DecidableEq, Repr

/-- What the execution of a call decides: in which order a `DISTINCT` returns the codes
and currencies to register, in which order tied rows reach a `DISTINCT ON`, and in
which windows a statement raises for a reason of its own. -/
structure Plan where
  sources : List (String × String) → List (String × String)
  sources_perm : ∀ selected, (sources selected).Perm selected.dedup
  resolved : List ResolvedPrice → List ResolvedPrice
  resolved_perm : ∀ rows, (resolved rows).Perm rows
  raises : Window → Bool

structure LoadCall where
  reference : Reference
  locale : TextLocale
  supply : IdSupply
  /-- `pricing.default_condition_id()` -/
  conditionId : Nat
  /-- `card_catalog.default_language_id()` -/
  languageId : Nat
  now : Timestamp
  batchDays : Option Int

/-! ## Bootstrap -/

/-- The MTGJson uuids of the catalogue: `mtgjson_id` identifiers, then aliases. -/
def identifiers (reference : Reference) : List (String × CardVersionId) :=
  (reference.cardIdentifierRef.rows.flatMap fun ref =>
    if ref.2 = "mtgjson_id" then
      (reference.cardExternalIdentifier.rows.filter (·.1.2 = ref.1)).map fun row =>
        (row.2, row.1.1)
    else []) ++ reference.mtgjsonUuidAlias.rows

/-- The cards one of whose uuids is spelled as a staged row spells it. -/
def stagedCards (reference : Reference) (staging : Table Nat StagedPrice) : List CardVersionId :=
  staging.rows.flatMap fun staged =>
    ((identifiers reference).filter (·.1 = staged.2.cardUuid)).map Prod.snd

/-- A product for each staged card without one; `none` when a drawn id is taken. -/
def bootstrap (call : LoadCall) (tables : MtgjsonTables) : Option MtgjsonTables :=
  match hcards : tables.products.mtgCardProducts.register? call.supply.productId
      (stagedCards call.reference tables.staging) with
  | none => none
  | some mtgCardProducts => some { tables with
      products := { tables.products with
        mtgCardProducts
        mtgCardProducts_unique :=
          Table.nodup_values_of_register tables.products.mtgCardProducts_unique hcards } }

/-! ## Normalization -/

def normalizeFinish (locale : TextLocale) (row : StagedPrice) : StagedPrice :=
  if locale.lower row.finishType = "normal" then { row with finishType := "NONFOIL" } else row

def upperFinish (locale : TextLocale) (row : StagedPrice) : StagedPrice :=
  { row with finishType := locale.upper row.finishType }

def normalizeSource (locale : TextLocale) (row : StagedPrice) : StagedPrice :=
  if locale.lower row.priceSource = "tcgplayer" then { row with priceSource := "tcg" } else row

def normalizeType (locale : TextLocale) (row : StagedPrice) : StagedPrice :=
  { row with
    priceType := row.priceType.map fun code =>
      if locale.lower code ∈ ["retail", "market"] then "sell"
      else if locale.lower code ∈ ["buylist", "directlow"] then "buy"
      else locale.lower code }

/-- The four updates, in their order. -/
def normalize (locale : TextLocale) (row : StagedPrice) : StagedPrice :=
  normalizeType locale (normalizeSource locale (upperFinish locale (normalizeFinish locale row)))

/-- The `UPDATE`s of the staging table. -/
def normalizeStaging (locale : TextLocale) (tables : MtgjsonTables) : MtgjsonTables :=
  { tables with staging := tables.staging.mapValues fun _ row => normalize locale row }

/-- Normalization leaves the card, the currency, the price, and the date alone. -/
theorem normalize_fields (locale : TextLocale) (row : StagedPrice) :
    (normalize locale row).cardUuid = row.cardUuid ∧
      (normalize locale row).currency = row.currency ∧
      (normalize locale row).priceValue = row.priceValue ∧
      (normalize locale row).priceDate = row.priceDate := by
  unfold normalize normalizeType normalizeSource upperFinish normalizeFinish
  split_ifs <;> exact ⟨rfl, rfl, rfl, rfl⟩

/-! ## Registering sources and finishes -/

/-- `text::varchar(3)` on assignment: only spaces are cut off. -/
def varchar3? (text : String) : Option String :=
  if (text.toList.drop 3).all (· = ' ') then some (String.ofList (text.toList.take 3)) else none

/-- The code and the stored currency of each selected source. -/
def storedSources (selected : List (String × String)) : List (String × String) :=
  selected.filterMap fun source => (varchar3? source.2).map (source.1, ·)

/-- `INSERT INTO price_source ... ON CONFLICT (code) DO NOTHING` for the staged rows of
a window; `none` when a currency is too long or unknown. -/
def registerSources (call : LoadCall) (plan : Plan) (rows : List StagedPrice)
    (priceSource : CodeTable String) : Option (CodeTable String) :=
  let selected := plan.sources (rows.map fun row => (row.priceSource, row.currency))
  if selected.any fun source => (varchar3? source.2).isNone then none
  else
    (priceSource.insertMissing? call.supply.sourceId (storedSources selected)).filter fun next =>
      next.table.rows.all fun row =>
        (priceSource.get? row.1).isSome || decide (row.2.2 ∈ call.reference.currencyRef)

/-- `INSERT INTO card_finished ... ON CONFLICT (code) DO NOTHING`. -/
def registerFinishes (call : LoadCall) (rows : List StagedPrice) (cardFinished : CodeTable Unit) :
    Option (CodeTable Unit) :=
  cardFinished.insertMissing? call.supply.finishId
    (rows.map fun row => (call.locale.upper row.finishType, ()))

/-! ## The joins -/

def priceTypeId? (row : StagedPrice) : Option Nat :=
  row.priceType.bind fun code => anyIdWhere transactionType (· = code)

/-- `src` on code and currency. -/
def sourceId? (priceSource : CodeTable String) (row : StagedPrice) : Option SourceId :=
  (priceSource.get? row.priceSource).bind fun source =>
    if source.2 = row.currency then some source.1 else none

/-- `fin` on code. -/
def finishId? (cardFinished : CodeTable Unit) (row : StagedPrice) : Option Nat :=
  (cardFinished.get? row.finishType).map Prod.fst

/-- `cv` on the uuid. A text that is no uuid joins nothing. -/
def cardsOf (reference : Reference) (cardUuid : String) : List CardVersionId :=
  match Uuid.parse? cardUuid with
  | none => []
  | some uuid => (identifiers reference).filterMap fun id =>
    if Uuid.parse? id.1 = some uuid then some id.2 else none

/-- `prod` on the uuid. -/
def productsOf (reference : Reference) (products : Products) (cardUuid : String) :
    List ProductId :=
  (cardsOf reference cardUuid).flatMap products.mtgCardProducts.keysOf

/-- The rows of `pairs`. -/
def pairs (call : LoadCall) (tables : MtgjsonTables) (rows : List StagedPrice) :
    List SourceProduct :=
  rows.flatMap fun row =>
    (sourceId? tables.priceSource row).toList.flatMap fun sourceId =>
      (productsOf call.reference tables.products row.cardUuid).map (⟨·, sourceId⟩)

/-- A source product for each pair; `none` when a drawn id is taken. -/
def insertProductSource (supply : IdSupply) (pairs : List SourceProduct) (products : Products) :
    Option Products :=
  match hpairs : products.sourceProduct.register? supply.sourceProductId pairs with
  | none => none
  | some sourceProduct => some { products with
      sourceProduct
      sourceProduct_unique :=
        Table.nodup_values_of_register products.sourceProduct_unique hpairs }

/-- The rows the insert returns: those of its pairs, stored before or not. -/
def returning (pairs : List SourceProduct) (products : Products) :
    List (SourceProductId × SourceProduct) :=
  products.sourceProduct.rows.filter (·.2 ∈ pairs)

/-- The rows of `resolved` a staged row becomes. -/
def resolvedPrices (call : LoadCall) (v_data_provider_id : Nat) (tables : MtgjsonTables)
    (returned : List (SourceProductId × SourceProduct)) (staged : Nat × StagedPrice) :
    List ResolvedPrice :=
  match priceTypeId? staged.2, sourceId? tables.priceSource staged.2,
      finishId? tables.cardFinished staged.2 with
  | some priceTypeId, some sourceId, some finishId =>
    (productsOf call.reference tables.products staged.2.cardUuid).flatMap fun productId =>
      (returned.filter (·.2 = ⟨productId, sourceId⟩)).map fun sourceProduct => {
        id := staged.1
        key := {
          tsDate := staged.2.priceDate
          sourceProductId := sourceProduct.1
          priceTypeId
          finishId
          conditionId := call.conditionId
          languageId := call.languageId
          dataProviderId := v_data_provider_id }
        priceCents := staged.2.priceValue.cents? }
  | _, _, _ => []

/-- The row inserted for a resolved price; `none` when the price check raises. -/
def observation? (call : LoadCall) (price : ResolvedPrice) : Option Observation :=
  let whenType {α : Type} (priceTypeId : Nat) (value : Option α) : Option α :=
    if price.key.priceTypeId = priceTypeId then value else none
  (Prices.checked? ⟨none, whenType 1 price.priceCents, whenType 2 price.priceCents⟩).map
    fun prices => {
      prices
      listCount := whenType 1 (some 1)
      soldCount := whenType 2 (some 1)
      scrapedAt := call.now }

/-- `DO UPDATE`, which keeps the stored `list_low_cents`. -/
def updateObservation (stored excluded : Observation) : Observation :=
  { excluded with prices := { excluded.prices with listLowCents := stored.prices.listLowCents } }

/-- `SELECT DISTINCT ON (key)`: of tied rows the first. -/
def distinctOnKey (resolved : List ResolvedPrice) : Table ObservationKey ResolvedPrice :=
  Table.groupBy ResolvedPrice.key List.head? resolved

/-- `INSERT INTO price_observation`; `none` when a cast or a check raises. -/
def upsertObservations (call : LoadCall) (resolved : List ResolvedPrice)
    (priceObservation : Table ObservationKey Observation) :
    Option (Table ObservationKey Observation) :=
  let survivors := distinctOnKey resolved
  if resolved.any (·.priceCents.isNone) ||
      survivors.rows.any fun survivor => (observation? call survivor.2).isNone then none
  else some (priceObservation.upsert
    (survivors.filterMapValues fun _ survivor => observation? call survivor) updateObservation)

/-- Whether a staged row is among the `resolved_ids` of the delete. -/
def deletes (call : LoadCall) (tables : MtgjsonTables) (row : StagedPrice) : Bool :=
  (priceTypeId? row).isSome && (finishId? tables.cardFinished row).isSome &&
    (sourceId? tables.priceSource row).any fun sourceId =>
      (productsOf call.reference tables.products row.cardUuid).any fun productId =>
        tables.products.sourceProduct.rows.any (·.2 = ⟨productId, sourceId⟩)

/-! ## The loop -/

/-- The staged rows of a window. -/
def stagedIn (window : Window) (staging : Table Nat StagedPrice) : List (Nat × StagedPrice) :=
  staging.rows.filter fun staged => window.Contains staged.2.priceDate

/-- The statements of one window; `none` when one raises. -/
def promoteWindow (call : LoadCall) (plan : Plan) (v_data_provider_id : Nat) (window : Window)
    (tables : MtgjsonTables) : Option MtgjsonTables :=
  if plan.raises window then none
  else do
    let staged := stagedIn window tables.staging
    let rows := staged.map Prod.snd
    let priceSource ← registerSources call plan rows tables.priceSource
    let cardFinished ← registerFinishes call rows tables.cardFinished
    let tables := { tables with priceSource, cardFinished }
    let pairs := pairs call tables rows
    let products ← insertProductSource call.supply pairs tables.products
    let resolved := plan.resolved
      (staged.flatMap (resolvedPrices call v_data_provider_id tables (returning pairs products)))
    let priceObservation ← upsertObservations call resolved tables.priceObservation
    let tables := { tables with products, priceObservation }
    let resolvedIds := ((stagedIn window tables.staging).filter fun staged =>
      deletes call tables staged.2).map Prod.fst
    return { tables with staging := tables.staging.deleteWhere fun id _ => id ∈ resolvedIds }

inductive LoadError where
  /-- `RAISE EXCEPTION` -/
  | raised (message : String)
  /-- A statement raises by itself. -/
  | statement
deriving DecidableEq, Repr

/-- The windows one after the other, each committed when it succeeds. A failed window
leaves what was committed last. -/
def promoteWindows (call : LoadCall) (plan : Plan) (v_data_provider_id : Nat) :
    List Window → MtgjsonTables → MtgjsonTables → MtgjsonTables × Option LoadError
  | [], _, tables => (tables, none)
  | window :: rest, committed, tables =>
    match promoteWindow call plan v_data_provider_id window tables with
    | none => (committed, some .statement)
    | some next => promoteWindows call plan v_data_provider_id rest next next

/-- The windows from the first staged day to the last; without rows there are none. -/
def stagingWindows (batchDays : ℕ+) (staging : Table Nat StagedPrice) : List Window :=
  let dates := staging.rows.map (·.2.priceDate)
  match dates.min?, dates.max? with
  | some v_min, some v_max => wholeWindows batchDays v_max v_min
  | _, _ => []

/-- The tables a call leaves, and the error it ends with. -/
def loadPriceObservationFromMtgjsonStagingBatched (call : LoadCall) (plan : Plan)
    (tables : MtgjsonTables) : MtgjsonTables × Option LoadError :=
  match call.batchDays with
  | none => (tables, some (.raised "batch_days must be > 0 (got <NULL>)"))
  | some batchDays =>
    if hdays : 0 < batchDays then
      match bootstrap call tables with
      | none => (tables, some .statement)
      | some bootstrapped =>
        let normalized := normalizeStaging call.locale bootstrapped
        match anyIdWhere call.reference.dataProvider (· = "mtgjson") with
        | none =>
          (bootstrapped,
            some (.raised "Missing pricing.data_provider row with code=mtgjson"))
        | some v_data_provider_id =>
          promoteWindows call plan v_data_provider_id
            (stagingWindows ⟨batchDays.toNat, Int.pos_iff_toNat_pos.mp hdays⟩ normalized.staging)
            bootstrapped normalized
    else (tables, some (.raised s!"batch_days must be > 0 (got {batchDays})"))

end AutoMana.Mtgjson
