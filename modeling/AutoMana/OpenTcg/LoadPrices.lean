import AutoMana.Json
import AutoMana.Relational.Batches
import AutoMana.Staging.Load

/-!
# load_opentcg_prices

The Open TCG feed prices the SKUs of each set: a TCGPlayer product in a finish, a
condition, and a language. A load normalizes their codes and upserts the prices in
batches, all in one transaction. A batch resolves its TCGPlayer ids to cards through a
dictionary, which keeps one card per id, and makes sure each card has a product.
-/

namespace AutoMana.OpenTcg

open Relational Pricing
open Staging (IdSupply anyIdWhere ensureProducts productLookup)

/-! ## The codes -/

/-- `_FINISH_MAP` -/
def finishMap : List (String × String) := [("N", "NONFOIL"), ("F", "FOIL"), ("E", "ETCHED")]

/-- `_CONDITION_MAP` -/
def conditionMap : List (String × String) :=
  [("NM", "NM"), ("LP", "LP"), ("MP", "MP"), ("HP", "HP"), ("D", "DMG")]

/-- `_LANGUAGE_MAP` -/
def languageMap : List (String × String) := [
  ("EN", "en"),
  ("FR", "fr"),
  ("DE", "de"),
  ("ES", "es"),
  ("IT", "it"),
  ("PT", "pt"),
  ("JP", "jp"),
  ("KO", "ko"),
  ("RU", "ru"),
  ("ZHS", "zh"),
  ("ZHT", "zh")]

/-! ## The tables -/

/-- What a load reads and nothing here writes, with what the schema seeds. -/
structure Reference where
  cardIdentifierRef : Table Nat String
  /-- `UNIQUE (identifier_name)` -/
  identifierName_unique : (cardIdentifierRef.rows.map Prod.snd).Nodup
  /-- The value of each `(card_version_id, card_identifier_ref_id)`. -/
  cardExternalIdentifier : Table (CardVersionId × Nat) String
  cardFinished : Table Nat String
  finish_seeded : ∀ code ∈ finishMap.map Prod.snd, (anyIdWhere cardFinished (· = code)).isSome
  cardCondition : Table Nat String
  condition_seeded : ∀ code ∈ conditionMap.map Prod.snd,
    (anyIdWhere cardCondition (· = code)).isSome
  languageRef : Table Nat String
  language_seeded : ∀ code ∈ languageMap.map Prod.snd,
    (anyIdWhere languageRef (· = code)).isSome
  /-- The `source_id` of `tcg`. -/
  sourceId : SourceId
  /-- The `transaction_type_id` of `sell`. -/
  priceTypeId : Nat
  /-- The `data_provider_id` of `tcgtracking`. -/
  dataProviderId : Nat

/-- A row of `price_observation`, whose `list_count` may be any integer. -/
structure StoredPrice where
  prices : Prices Nat
  listCount : Option Int
  soldCount : Option Int
  scrapedAt : Timestamp

structure Tables where
  products : Products
  priceObservation : Table ObservationKey StoredPrice

/-- `round(float(val) * 100)` -/
inductive Rounded where
  | cents (value : Int)
  /-- A `TypeError` or a `ValueError`. -/
  | invalid
  | overflow

/-- What python reads from a value. -/
structure Parsers where
  toStr : Json → String
  roundCents : Json → Rounded

/-- What a load is run with. -/
structure Load where
  parsers : Parsers
  supply : IdSupply
  reference : Reference
  /-- `_BATCH_SIZE` -/
  batchSize : Nat
  tsDate : Int
  now : Timestamp
  /-- In which order each batch receives the cards of its ids. -/
  resolved : Nat → List (String × CardVersionId) → List (String × CardVersionId)
  resolved_perm : ∀ batch records, (resolved batch records).Perm records

structure LoadState where
  tables : Tables
  /-- How many batches have been upserted. -/
  batches : Nat
  totalCount : Nat

/-! ## Reading a SKU -/

/-- An item of `batch`. -/
structure PriceRow where
  tcgplayerId : String
  finishCode : String
  conditionCode : String
  languageCode : String
  listAvgCents : Int
  listLowCents : Int
  listCount : Json

/-- `codes.get(value)`; `none` when the value is not hashable. -/
def code? (codes : List (String × String)) (value : Json) : Option (Option String) :=
  match value with
  | .str text => some (codes.lookup text)
  | other => if other.hashable then some none else none

/-- `_to_cents`; `none` when it raises. -/
def toCents (parsers : Parsers) (val : Json) : Option (Option Int) :=
  match val with
  | .null => some none
  | val =>
    match parsers.roundCents val with
    | .cents value => some (some value)
    | .invalid => some none
    | .overflow => none

/-- The item of a SKU, which may be skipped; `none` when reading it raises. -/
def priceRow? (parsers : Parsers) (sku : Json) : Option (Option PriceRow) := do
  let productId ← sku.get? "product_id" .null
  let finishCode ← (sku.get? "var" (.str "N")).bind (code? finishMap)
  let conditionCode ← (sku.get? "cnd" (.str "NM")).bind (code? conditionMap)
  let languageCode ← (sku.get? "lng" (.str "EN")).bind (code? languageMap)
  match finishCode, conditionCode, languageCode with
  | some finishCode, some conditionCode, some languageCode => do
    let mktCents ← (sku.get? "mkt" .null).bind (toCents parsers)
    let lowCents ← (sku.get? "low" .null).bind (toCents parsers)
    let count ← sku.get? "cnt" (.number 0 0)
    if mktCents.isNone && lowCents.isNone then return none
    else
      return some {
        tcgplayerId := parsers.toStr productId
        finishCode
        conditionCode
        languageCode
        listAvgCents := mktCents.getD 0
        listLowCents := lowCents.getD 0
        listCount := if count.truthy then count else .number 0 0 }
  | _, _, _ => return none

/-! ## upsert_opentcg_price_batch -/

/-- `_RESOLVE_TCGPLAYER_IDS_SQL`, without the products. -/
def resolveTcgplayerIds (reference : Reference) (tcgplayerIds : List String) :
    List (String × CardVersionId) :=
  (reference.cardExternalIdentifier.rows.filter fun row =>
    reference.cardIdentifierRef.get? row.1.2 = some "tcgplayer_id" ∧ row.2 ∈ tcgplayerIds).map
      fun row => (row.2, row.1.1)

/-- The card of an id in `tid_to_meta`, the last one received. -/
def tidToMeta (load : Load) (batch : Nat) (rows : List PriceRow) (tcgplayerId : String) :
    Option CardVersionId :=
  (load.resolved batch (resolveTcgplayerIds load.reference
    (rows.map PriceRow.tcgplayerId))).reverse.lookup tcgplayerId

/-- The source product a row is sent with. -/
def sent? (load : Load) (batch : Nat) (rows : List PriceRow) (products : Products)
    (row : PriceRow) : Option (SourceProductId × PriceRow) := do
  let card ← tidToMeta load batch rows row.tcgplayerId
  let product ← (productLookup products load.reference.sourceId card).head?
  return (product.2, row)

/-- A python `int` as an `int` column takes it. -/
def int4? (value : Int) : Option Int :=
  if -2147483648 ≤ value ∧ value ≤ 2147483647 then some value else none

/-- A value of `list_count`; `none` when it is no integer. -/
def listCount? : Json → Option Int
  | .number units 0 => int4? units
  | .bool value => some value.toNat
  | _ => none

/-- The columns of a row that are sent as integers; `none` when one does not fit. -/
def columns? (row : PriceRow) : Option (Prices Int × Int) := do
  let listAvgCents ← int4? row.listAvgCents
  let listLowCents ← int4? row.listLowCents
  let listCount ← listCount? row.listCount
  return (⟨some listLowCents, some listAvgCents, none⟩, listCount)

/-- The row that is inserted; `none` when it does not fit or the price check raises. -/
def storedPrice? (load : Load) (row : PriceRow) : Option StoredPrice := do
  let (prices, listCount) ← columns? row
  let prices ← prices.checked?
  return { prices, listCount := some listCount, soldCount := none, scrapedAt := load.now }

/-- The joins of the insert. -/
def observationKey? (load : Load) (sourceProductId : SourceProductId) (row : PriceRow) :
    Option ObservationKey := do
  let finishId ← anyIdWhere load.reference.cardFinished (· = row.finishCode)
  let conditionId ← anyIdWhere load.reference.cardCondition (· = row.conditionCode)
  let languageId ← anyIdWhere load.reference.languageRef (· = row.languageCode)
  return {
    tsDate := load.tsDate
    sourceProductId
    priceTypeId := load.reference.priceTypeId
    finishId
    conditionId
    languageId
    dataProviderId := load.reference.dataProviderId }

/-- A row of the insert, under its key. -/
def excluded? (load : Load) (sent : SourceProductId × PriceRow) :
    Option (ObservationKey × StoredPrice) := do
  let key ← observationKey? load sent.1 sent.2
  let price ← storedPrice? load sent.2
  return (key, price)

/-- A row that is sent does not fit, or does not pass the price check. -/
def rejected (load : Load) (sent : SourceProductId × PriceRow) : Bool :=
  (columns? sent.2).isNone ||
    (observationKey? load sent.1 sent.2).isSome && (storedPrice? load sent.2).isNone

/-- `DO UPDATE`, which keeps the sold columns. -/
def updatePrice (stored excluded : StoredPrice) : StoredPrice :=
  { excluded with
    prices := { excluded.prices with soldAvgCents := stored.prices.soldAvgCents }
    soldCount := stored.soldCount }

/-- The statements of a batch; `none` when one raises, as the insert does for two rows under
one key. -/
def upsertOpentcgPriceBatch (load : Load) (state : LoadState) (rows : List PriceRow) :
    Option LoadState := do
  let products ← ensureProducts load.supply load.reference.sourceId
    (rows.filterMap fun row => tidToMeta load state.batches rows row.tcgplayerId)
    state.tables.products
  let sent := rows.filterMap (sent? load state.batches rows products)
  let excluded := sent.filterMap (excluded? load)
  if sent.any (rejected load) then none
  else if hkeys : (excluded.map Prod.fst).Nodup then
    some {
      tables := {
        products
        priceObservation :=
          state.tables.priceObservation.upsert ⟨excluded, hkeys⟩ updatePrice }
      batches := state.batches + 1
      totalCount := state.totalCount + excluded.length }
  else none

/-! ## The load -/

/-- One round of the loops over the sets and their SKUs. -/
def loadSku (load : Load) : LoadState × List PriceRow → Json → Option (LoadState × List PriceRow) :=
  readItem (priceRow? load.parsers) (pushItem load.batchSize (upsertOpentcgPriceBatch load))

/-- The tables after a load, and its `prices_loaded`; `none` when it raises and is rolled
back. -/
def loadOpentcgPrices (load : Load) (allSkus : List (Nat × List Json)) (tables : Tables) :
    Option (Tables × Nat) := do
  let state ← (allSkus.flatMap Prod.snd).foldlM (loadSku load) (⟨tables, 0, 0⟩, [])
  let state ← emitRest (upsertOpentcgPriceBatch load) state
  return (state.tables, state.totalCount)

end AutoMana.OpenTcg
