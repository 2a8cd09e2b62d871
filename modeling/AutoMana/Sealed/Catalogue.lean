import AutoMana.Sealed.Stream

/-!
# bootstrap_sealed_catalog_from_set

A set JSON lists the sealed products of a set. A bootstrap writes them into the card
catalogue, keeps their identifiers there, and gives each of them a product in
`mtg_sealed_products`; the prices of a set are read through these tables.
-/

namespace AutoMana.Sealed

open Relational Pricing
open Mtgjson (transactionType)
open Staging (anyIdWhere)

/-! ## The tables -/

abbrev SealedProductId := Nat

structure SealedProduct where
  setId : Option Nat
  gameId : Nat
  sealedTypeId : Nat
  sealedSubtypeId : Option Nat
  languageId : Nat
  name : String
  releaseDate : Option Int

structure Catalogue where
  /-- The `set_code` of each set. -/
  sets : Table Nat String
  cardGamesRef : Table Nat String
  languageRef : Table Nat String
  sealedIdentifierRef : Table Nat String
  sealedTypeRef : CodeTable Unit
  sealedSubtypeRef : CodeTable Unit
  sealedProduct : Table SealedProductId SealedProduct
  /-- The `value` under a product and a `sealed_identifier_ref_id`. -/
  sealedExternalIdentifier : Table (SealedProductId × Nat) String
  /-- The `game_id` of each product. -/
  productRef : Table ProductId Nat
  mtgSealedProducts : Table ProductId SealedProductId

/-- What the execution of a bootstrap decides: the order of a set of names, and the ids
that are drawn. -/
structure BootstrapDraws where
  identifierKeys : List String
  identifierKeys_perm : identifierKeys.Perm
    ["mtgjson_uuid", "tcgplayer_product_id", "cardkingdom_id", "mcm_id", "scg_id", "abu_id"]
  sealedTypeId : String → Nat
  sealedSubtypeId : String → Nat
  sealedProductId : Table SealedProductId SealedProduct → SealedProductId
  productId : Table ProductId Nat → ProductId

/-! ## The products of a set JSON -/

/-- An item of `products`. -/
structure CatalogProduct where
  mtgjsonUuid : String
  name : String
  setCode : String
  gameCode : String
  languageCode : String
  typeCode : String
  subtypeCode : String
  releaseDate : Option Int
  /-- The identifiers other than the uuid, by name. -/
  identifiers : List (String × String)

/-- `_MTGJSON_IDENTIFIER_MAP` -/
def mtgjsonIdentifierMap : List (String × String) := [
  ("tcgplayer_product_id", "tcgplayerProductId"),
  ("cardkingdom_id", "cardKingdomId"),
  ("mcm_id", "mcmId"),
  ("scg_id", "scgId"),
  ("abu_id", "abuId")]

/-- `value or default` -/
def orElse (value default : Json) : Json := if value.truthy then value else default

/-- `_parse_date` -/
def parseDate (parsers : Parsers) : Json → Option Int
  | .str value => if value = "" then none else parsers.fromIsoformat value
  | _ => none

/-- The product of an entry with a uuid; `none` when an attribute is missing, or when a
statement of the upsert does not take a value that is no text. -/
def catalogProduct? (parsers : Parsers) (setCode : String) (mtgjsonUuid rawProduct : Json) :
    Option CatalogProduct := do
  let identifiers ← rawProduct.get? "identifiers" .null
  let found ← mtgjsonIdentifierMap.mapM fun key =>
    ((orElse identifiers (.dict [])).get? key.2 .null).map (key.1, ·)
  let mtgjsonUuid ← textOf? mtgjsonUuid
  let name ← (rawProduct.get? "name" (.str "")).bind textOf?
  let typeCode ← (rawProduct.get? "category" (.str "")).bind textOf?
  let subtypeCode ← (rawProduct.get? "subtype" .null).bind fun subtype =>
    textOf? (orElse subtype (.str ""))
  let releaseDate ← rawProduct.get? "releaseDate" .null
  return {
    mtgjsonUuid
    name
    setCode
    gameCode := "mtg"
    languageCode := "en"
    typeCode
    subtypeCode
    releaseDate := parseDate parsers releaseDate
    identifiers := (found.filter (·.2.truthy)).map fun key => (key.1, parsers.toStr key.2) }

/-- The product of an entry, an entry without a uuid being skipped. -/
def productOf? (parsers : Parsers) (setCode : String) (rawProduct : Json) :
    Option (Option CatalogProduct) := do
  let mtgjsonUuid ← rawProduct.get? "uuid" .null
  if mtgjsonUuid.truthy then (catalogProduct? parsers setCode mtgjsonUuid rawProduct).map some
  else return none

/-- `raw.get("data", {}).get("sealedProduct", [])` -/
def sealedProductsRaw? (raw : Json) : Option Json :=
  (raw.get? "data" (.dict [])).bind fun data => data.get? "sealedProduct" (.list [])

/-- The `products` of a set JSON; `none` when reading it raises. -/
def productsOf? (parsers : Parsers) (setCode : String) (raw : Json) :
    Option (List CatalogProduct) := do
  let sealedProductsRaw ← sealedProductsRaw? raw
  match sealedProductsRaw with
  | .list entries => (entries.mapM (productOf? parsers setCode)).map List.reduceOption
  | other => if other.truthy then none else some []

/-! ## upsert_sealed_catalog -/

/-- The id of a code, which is registered when it is missing. -/
def ensureCode (draw : String → Nat) (code : String) (codes : CodeTable Unit) :
    Option (Nat × CodeTable Unit) := do
  let next ← codes.insertMissing? draw [(code, ())]
  let (id, _) ← next.get? code
  return (id, next)

/-- The id of the subtype, which may be empty. -/
def ensureSubtype (draws : BootstrapDraws) (subtypeCode : String) (codes : CodeTable Unit) :
    Option (Option Nat × CodeTable Unit) :=
  if subtypeCode = "" then some (none, codes)
  else do
    let (id, next) ← ensureCode draws.sealedSubtypeId subtypeCode codes
    return (some id, next)

/-- `_FIND_SEALED_PRODUCT_BY_UUID_SQL` -/
def findSealedProductByUuid (mtgjsonUuid : String) (catalogue : Catalogue) :
    Option SealedProductId :=
  (catalogue.sealedExternalIdentifier.rows.find? fun row =>
    row.2 = mtgjsonUuid ∧ catalogue.sealedIdentifierRef.get? row.1.2 = some "mtgjson_uuid").map
      (·.1.1)

/-- `SELECT set_id FROM sets WHERE lower(set_code) = lower($)` as a value; `none` when it
selects several sets. -/
def setId? (locale : TextLocale) (setCode : String) (catalogue : Catalogue) :
    Option (Option Nat) :=
  match catalogue.sets.rows.filter fun set => locale.lower set.2 = locale.lower setCode with
  | [] => some none
  | [set] => some (some set.1)
  | _ => none

/-- `_INSERT_SEALED_PRODUCT_SQL`; `none` when a column is `NULL` or the drawn id is taken. -/
def insertSealedProduct (draws : BootstrapDraws) (product : CatalogProduct) (setId : Option Nat)
    (sealedTypeId : Nat) (sealedSubtypeId : Option Nat) (catalogue : Catalogue) :
    Option (SealedProductId × Catalogue) := do
  let gameId ← anyIdWhere catalogue.cardGamesRef (· = product.gameCode)
  let languageId ← anyIdWhere catalogue.languageRef (· = product.languageCode)
  let id := draws.sealedProductId catalogue.sealedProduct
  if (catalogue.sealedProduct.get? id).isSome then none
  else
    return (id, { catalogue with
      sealedProduct := catalogue.sealedProduct.insertMissing [(id, {
        setId
        gameId
        sealedTypeId
        sealedSubtypeId
        languageId
        name := product.name
        releaseDate := product.releaseDate })] })

/-- `_UPDATE_SEALED_PRODUCT_SQL` -/
def updateSealedProduct (id : SealedProductId) (product : CatalogProduct) (setId : Option Nat)
    (sealedTypeId : Nat) (sealedSubtypeId : Option Nat) (catalogue : Catalogue) : Catalogue :=
  { catalogue with
    sealedProduct := catalogue.sealedProduct.mapValues fun storedId stored =>
      if storedId = id then { stored with
        setId
        sealedTypeId
        sealedSubtypeId
        name := product.name
        releaseDate := product.releaseDate }
      else stored }

/-- `product.get(id_name)` as a text. -/
def CatalogProduct.identifier? (product : CatalogProduct) (idName : String) : Option String :=
  if idName = "mtgjson_uuid" then some product.mtgjsonUuid else product.identifiers.lookup idName

/-- `_UPSERT_EXTERNAL_ID_SQL` of a name that has an id; `none` when another product has the
value. -/
def upsertExternalId (product : CatalogProduct) (id : SealedProductId) (catalogue : Catalogue)
    (idName : String) : Option Catalogue :=
  match product.identifier? idName, anyIdWhere catalogue.sealedIdentifierRef (· = idName) with
  | some value, some refId =>
    if catalogue.sealedExternalIdentifier.rows.any fun row =>
        row.1.1 ≠ id ∧ row.1.2 = refId ∧ row.2 = value then none
    else some { catalogue with
      sealedExternalIdentifier := catalogue.sealedExternalIdentifier.upsert
        (.single (id, refId) value) fun _ excluded => excluded }
  | _, _ => some catalogue

/-- The row of `mtg_sealed_products`, with its `product_ref`; `none` when there is no game or
the drawn id is taken. -/
def ensureProduct (draws : BootstrapDraws) (id : SealedProductId) (catalogue : Catalogue) :
    Option Catalogue :=
  if catalogue.mtgSealedProducts.rows.any (·.2 = id) then some catalogue
  else do
    let gameId ← anyIdWhere catalogue.cardGamesRef (· = "mtg")
    let productId := draws.productId catalogue.productRef
    if (catalogue.productRef.get? productId).isSome then none
    else
      return { catalogue with
        productRef := catalogue.productRef.insertMissing [(productId, gameId)]
        mtgSealedProducts := catalogue.mtgSealedProducts.insertMissing [(productId, id)] }

/-- The row of `sealed_product`, which is inserted or updated. -/
def upsertSealedProduct (locale : TextLocale) (draws : BootstrapDraws) (product : CatalogProduct)
    (sealedTypeId : Nat) (sealedSubtypeId : Option Nat) (catalogue : Catalogue) :
    Option (SealedProductId × Catalogue) := do
  let setId ← setId? locale product.setCode catalogue
  match findSealedProductByUuid product.mtgjsonUuid catalogue with
  | none => insertSealedProduct draws product setId sealedTypeId sealedSubtypeId catalogue
  | some id =>
    return (id, updateSealedProduct id product setId sealedTypeId sealedSubtypeId catalogue)

/-- One round of the loop of `upsert_sealed_catalog`. -/
def upsertProduct (locale : TextLocale) (draws : BootstrapDraws) (catalogue : Catalogue)
    (product : CatalogProduct) : Option Catalogue := do
  let (typeId, sealedTypeRef) ←
    ensureCode draws.sealedTypeId product.typeCode catalogue.sealedTypeRef
  let (subtypeId, sealedSubtypeRef) ← ensureSubtype draws product.subtypeCode
    catalogue.sealedSubtypeRef
  let (id, catalogue) ← upsertSealedProduct locale draws product typeId subtypeId
    { catalogue with sealedTypeRef, sealedSubtypeRef }
  let catalogue ← draws.identifierKeys.foldlM (upsertExternalId product id) catalogue
  ensureProduct draws id catalogue

/-- `upsert_sealed_catalog` -/
def upsertSealedCatalog (locale : TextLocale) (draws : BootstrapDraws)
    (products : List CatalogProduct) (catalogue : Catalogue) : Option Catalogue :=
  products.foldlM (upsertProduct locale draws) catalogue

/-- The catalogue after a bootstrap; `none` when it raises and is rolled back. -/
def bootstrapSealedCatalogFromSet (locale : TextLocale) (parsers : Parsers)
    (draws : BootstrapDraws) (setCode : String) (raw : Json) (catalogue : Catalogue) :
    Option Catalogue := do
  let products ← productsOf? parsers setCode raw
  upsertSealedCatalog locale draws products catalogue

/-! ## get_sealed_prices_by_set -/

structure SealedPriceRow where
  productId : ProductId
  sealedProductId : SealedProductId
  name : String
  typeCode : String
  subtypeCode : Option String
  languageCode : String
  source : String
  transactionType : String
  priceDate : Int
  prices : Prices Nat
  mtgjsonUuid : Option String
  tcgplayerProductId : Option String

/-- The code of an id. -/
def codeOf? {V : Type} (codes : CodeTable V) (id : Nat) : Option String :=
  (codes.table.rows.find? (·.2.1 = id)).map Prod.fst

/-- The value of an identifier of a product. -/
def externalIdentifier? (catalogue : Catalogue) (id : SealedProductId) (idName : String) :
    Option String :=
  (anyIdWhere catalogue.sealedIdentifierRef (· = idName)).bind fun refId =>
    catalogue.sealedExternalIdentifier.get? (id, refId)

/-- The joins of a product with one of the latest prices. -/
def sealedPriceRow? (locale : TextLocale) (setCode : String) (catalogue : Catalogue)
    (tables : SealedTables) (product : ProductId × SealedProductId)
    (price : LatestKey × LatestPrice) : Option SealedPriceRow := do
  let sealedProduct ← catalogue.sealedProduct.get? product.2
  let storedCode ← sealedProduct.setId.bind catalogue.sets.get?
  guard (locale.lower storedCode = locale.lower setCode)
  guard (price.1.productId = product.1)
  let typeCode ← codeOf? catalogue.sealedTypeRef sealedProduct.sealedTypeId
  let languageCode ← catalogue.languageRef.get? sealedProduct.languageId
  let source ← codeOf? tables.priceSource price.1.sourceId
  let transactionType ← transactionType.get? price.1.transactionTypeId
  return {
    productId := product.1
    sealedProductId := product.2
    name := sealedProduct.name
    typeCode
    subtypeCode := sealedProduct.sealedSubtypeId.bind (codeOf? catalogue.sealedSubtypeRef)
    languageCode
    source
    transactionType
    priceDate := price.2.priceDate
    prices := price.2.prices
    mtgjsonUuid := externalIdentifier? catalogue product.2 "mtgjson_uuid"
    tcgplayerProductId := externalIdentifier? catalogue product.2 "tcgplayer_product_id" }

/-- `get_sealed_prices_by_set`, in no order. -/
def getSealedPricesBySet (locale : TextLocale) (setCode : String) (catalogue : Catalogue)
    (tables : SealedTables) : List SealedPriceRow :=
  catalogue.mtgSealedProducts.rows.flatMap fun product =>
    tables.sealedPriceLatest.rows.filterMap
      (sealedPriceRow? locale setCode catalogue tables product)

end AutoMana.Sealed
