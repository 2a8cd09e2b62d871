import AutoMana.Collections.Schema

/-!
# The services of collections

Every service is a transaction: when it raises, nothing is changed. The services read and write
by the ids of a request, which the client chooses, and the id of the user.
-/

namespace AutoMana.Collections

open Relational

/-! ## Requests, replies and errors -/

structure CreateCollection where
  collectionName : String
  description : String
  shortName : collectionName.length ≤ 20
  shortDescription : description.length ≤ 100

/-- The fields that are set, each of them perhaps to `null`. -/
structure UpdateCollection where
  collectionName : Option (Option String)
  description : Option (Option String)
  isActive : Option (Option Bool)
  shortName : ∀ name, collectionName = some (some name) → name.length ≤ 20
  shortDescription : ∀ text, description = some (some text) → text.length ≤ 100

structure AddCollectionEntryRequest where
  cardVersionId : Option String
  scryfallId : Option String
  setCode : Option String
  collectorNumber : Option String
  condition : Conditions
  finish : Finish
  purchasePrice : Nat
  currencyCode : String
  purchaseDate : Nat
  languageId : Option Nat
  status : EntryStatus
  ebayItemId : Option String
  isWishlist : Bool
  identified : cardVersionId.isSome ∨ scryfallId.isSome ∨
    setCode.isSome ∧ collectorNumber.isSome

inductive Request where
  | addCollection (created : CreateCollection)
  | getCollection (collectionId : String)
  | getAllCollections
  | getMany (collectionIds : List String)
  | updateCollection (collectionId : String) (updated : UpdateCollection)
  | deleteCollection (collectionId : String)
  | addEntry (collectionId : String) (request : AddCollectionEntryRequest)
  | getEntry (collectionId entryId : String)
  | listEntries (collectionId : String) (limit offset : Int) (isWishlist : Option Bool)
  | updateEntryStatus (collectionId entryId : String) (status : EntryStatus)
  | deleteEntry (collectionId entryId : String)

structure PublicCollection where
  collectionId : String
  username : String
  collection : Collection

structure PublicCollectionEntry where
  itemId : String
  cardVersionId : String
  cardName : String
  setCode : String
  collectorNumber : String
  finish : Finish
  purchaseDate : Nat
  purchasePrice : Nat
  condition : Conditions
  currencyCode : String
  languageId : Option Nat
  imageNormal : Option String
  price : Option Int
  priceChange1d : Int
  status : EntryStatus
  ebayItemId : Option String
  isWishlist : Bool

inductive Reply where
  | created (collectionId : String) (collection : Collection)
  | collection (collection : PublicCollection)
  | collections (collections : List (String × Collection))
  | entry (entry : PublicCollectionEntry)
  | entries (entries : List PublicCollectionEntry)
  | done

/-- What the database raises. -/
inductive Violation where
  | unique (constraint : String)
  | foreignKey (column : String)
  | notNull (column : String)
  | numericOverflow
  | negativeLimit
  | syntaxError

inductive Error where
  | notFound (message : String)
  | creation (message : String)
  | creationFailed (cause : Violation)
  | update (message : String)
  | updateFailed (cause : Violation)
  | retrievalFailed (cause : Violation)
  /-- An error of the database that the service does not catch. -/
  | database (cause : Violation)
  /-- `model_validate` fails. -/
  | validation

/-! ## The repository -/

section Repository

variable (reference : Reference) (database : Database) (userId : String)

/-- `CollectionRepository.get` -/
def get (collectionId : String) : Option PublicCollection := do
  let row ← database.collections.get? collectionId
  let username ← reference.users.get? row.userId
  if row.userId = userId ∧ row.isActive = some true then some ⟨collectionId, username, row⟩
  else none

/-- `CollectionRepository.get_all` -/
def getAll : List (String × Collection) :=
  database.collections.rows.filter fun row =>
    decide (row.2.userId = userId) && decide (row.2.isActive = some true) &&
      (reference.users.get? row.2.userId).isSome

/-- A collection of the user other than this one has the name. -/
def taken (collectionId collectionName : String) : Bool :=
  database.collections.rows.any fun row =>
    decide (row.1 ≠ collectionId) && decide (row.2.userId = userId) &&
      decide (row.2.collectionName = collectionName)

/-- `CollectionRepository.add`, with the default `uuid_generate_v4()` of the id. -/
def add (newId : String) (now : Nat) (created : CreateCollection) :
    Except Violation (Collection × Database) :=
  let row : Collection := ⟨created.collectionName, created.description, userId, now, some true⟩
  if (database.collections.get? newId).isSome then .error (.unique "collections_pkey")
  else if taken database userId newId created.collectionName then
    .error (.unique "uc_collection_name_user")
  else if (reference.users.get? userId).isNone then .error (.foreignKey "user_id")
  else .ok (row, database.insertCollection newId row)

/-- `CollectionRepository.update`. A row that is not there breaks no constraint. -/
def update (collectionId : String) (updated : UpdateCollection) : Except Violation Database :=
  if database.owns userId collectionId then
    if updated.collectionName = some none then .error (.notNull "collection_name")
    else if updated.description = some none then .error (.notNull "description")
    else if updated.collectionName.join.any (taken database userId collectionId) then
      .error (.unique "uc_collection_name_user")
    else .ok (database.updateCollections fun id row =>
      if id = collectionId ∧ row.userId = userId then
        { row with
          collectionName := updated.collectionName.join.getD row.collectionName
          description := updated.description.join.getD row.description
          isActive := updated.isActive.getD row.isActive }
      else row)
  else .ok database

/-- `CollectionRepository.delete` -/
def delete (collectionId : String) : Database :=
  database.updateCollections fun id row =>
    if id = collectionId ∧ row.userId = userId then { row with isActive := some false } else row

/-- An item of a collection of the user. -/
def isEntry (collectionId itemId : String) (id : String) (item : Item) : Bool :=
  decide (id = itemId) && decide (item.collectionId = collectionId) &&
    database.owns userId item.collectionId

/-- The rows that `get_entry` and `get_all_entries` join with an item. -/
structure EntryRow where
  itemId : String
  item : Item
  version : CardVersion
  finish : String
  spark : Option Spark
  status : EntryStatus

/-- An item is shown as listed while its listing on eBay has not ended. -/
def shownStatus (item : Item) : EntryStatus :=
  match item.ebayItemId.bind reference.listings.get? with
  | some none => .listed
  | _ => item.status

def entryRow (itemId : String) (item : Item) : Option EntryRow := do
  let version ← reference.versions.get? item.cardVersionId
  let finish ← reference.finishes.get? item.finishId
  some ⟨itemId, item, version, finish, reference.sparks.get? item.cardVersionId,
    shownStatus reference item⟩

/-- `CollectionRepository.get_entry` -/
def findEntry (itemId collectionId : String) : Option EntryRow :=
  ((database.items.get? itemId).filter (isEntry database userId collectionId itemId itemId)).bind
    (entryRow reference itemId)

/-- The newer purchase first, then by the id. -/
def listedBefore (row other : EntryRow) : Bool :=
  decide (other.item.purchaseDate < row.item.purchaseDate) ||
    decide (other.item.purchaseDate = row.item.purchaseDate) && decide (row.itemId ≤ other.itemId)

/-- `CollectionRepository.get_all_entries` -/
def getAllEntries (collectionId : String) (limit offset : Int) (isWishlist : Option Bool) :
    Except Violation (List EntryRow) :=
  if limit < 0 ∨ offset < 0 then .error .negativeLimit
  else
    let items := database.items.rows.filter fun row =>
      decide (row.2.collectionId = collectionId) && database.owns userId row.2.collectionId &&
        isWishlist.all fun wished => decide (row.2.isWishlist = wished)
    let rows := items.filterMap fun row => entryRow reference row.1 row.2
    .ok (((rows.mergeSort listedBefore).drop offset.toNat).take limit.toNat)

/-- `CollectionRepository.update_entry_status`; `none` when no row was updated. -/
def setEntryStatus (itemId collectionId : String) (status : EntryStatus) : Option Database :=
  if (database.items.get? itemId).any (isEntry database userId collectionId itemId itemId) then
    some (database.updateStatus (isEntry database userId collectionId itemId) status)
  else none

/-- `CollectionRepository.delete_entry`; `none` when no row was deleted. -/
def removeEntry (itemId collectionId : String) : Option Database :=
  if (database.items.get? itemId).any (isEntry database userId collectionId itemId itemId) then
    some (database.deleteItems (isEntry database userId collectionId itemId))
  else none

end Repository

/-! ## The services -/

section Services

variable (reference : Reference) (database : Database) (userId : String)

def Finish.ofCode? : String → Option Finish
  | "NONFOIL" => some .nonfoil
  | "FOIL" => some .foil
  | "ETCHED" => some .etched
  | _ => none

/-- `_FINISH_CODE_TO_ID` -/
def finishId : Finish → Nat
  | .nonfoil => 1
  | .foil => 2
  | .etched => 3

/-- `PublicCollectionEntry.model_validate`; the collector number, the finish and the change of the
price are required. -/
def modelValidate (row : EntryRow) : Option PublicCollectionEntry := do
  let collectorNumber ← row.version.collectorNumber
  let finish ← Finish.ofCode? row.finish
  let priceChange1d ← row.spark.bind Spark.priceChange1d
  some ⟨row.itemId, row.item.cardVersionId, row.version.cardName, row.version.setCode,
    collectorNumber, finish, row.item.purchaseDate, row.item.purchasePrice, row.item.condition,
    row.item.currencyCode, row.item.languageId, row.version.imageNormal,
    row.spark.bind Spark.price, priceChange1d, row.status, row.item.ebayItemId,
    row.item.isWishlist⟩

def validated (row : Option EntryRow) : Except Error Reply :=
  match row.bind modelValidate with
  | some entry => .ok (.entry entry)
  | none => .error .validation

/-- The card version of a request. An empty scryfall id counts as missing. -/
def resolveVersion (request : AddCollectionEntryRequest) : Except Error String :=
  match request.cardVersionId, request.scryfallId.filter (· ≠ "") with
  | some cardVersionId, _ => .ok cardVersionId
  | none, some scryfallId =>
    match reference.scryfallIds.lookup scryfallId with
    | some cardVersionId => .ok cardVersionId
    | none => .error (.creation ("No card found for scryfall_id=" ++ scryfallId))
  | none, none =>
    match reference.versions.rows.find? fun row =>
        decide (some row.2.setCode = request.setCode) && row.2.collectorNumber.isSome &&
          decide (row.2.collectorNumber = request.collectorNumber) with
    | some row => .ok row.1
    | none => .error (.creation ("No card found for " ++ request.setCode.getD "None" ++ "/" ++
        request.collectorNumber.getD "None"))

/-- `CollectionRepository.add_entry` and what follows it in the service. -/
def insertEntry (newId collectionId cardVersionId : String) (request : AddCollectionEntryRequest)
    (hstored : (database.collections.get? collectionId).isSome) :
    Except Error (Reply × Database) :=
  let item : Item := ⟨collectionId, cardVersionId, finishId request.finish, request.purchaseDate,
    request.purchasePrice, request.condition, request.currencyCode, request.languageId,
    request.status, request.ebayItemId, request.isWishlist⟩
  if 10000000000 ≤ request.purchasePrice then .error (.database .numericOverflow)
  else if (database.items.get? newId).isSome then
    .error (.database (.unique "collection_items_pkey"))
  else if (reference.versions.get? cardVersionId).isNone then
    .error (.database (.foreignKey "unique_card_id"))
  else if (reference.finishes.get? item.finishId).isNone then
    .error (.database (.foreignKey "finish_id"))
  else if request.languageId.any (· ∉ reference.languages) then
    .error (.database (.foreignKey "language_id"))
  else
    let next := database.insertItem newId item hstored
    (validated (findEntry reference next userId newId collectionId)).map (·, next)

def noCollection (collectionId : String) : Error :=
  .notFound ("Collection " ++ collectionId ++ " not found")

def noEntry (entryId : String) : Error := .notFound ("Entry " ++ entryId ++ " not found")

def addEntry (newId collectionId : String) (request : AddCollectionEntryRequest) :
    Except Error (Reply × Database) := do
  let cardVersionId ← resolveVersion reference request
  if (get reference database userId collectionId).isNone then .error (noCollection collectionId)
  else if hstored : (database.collections.get? collectionId).isSome then
    insertEntry reference database userId newId collectionId cardVersionId request hstored
  else .error (noCollection collectionId)

/-- What a service replies, and the database after it. -/
def serve (newId : String) (now : Nat) : Request → Except Error (Reply × Database)
  | .addCollection created =>
    match add reference database userId newId now created with
    | .ok (row, next) => .ok (.created newId row, next)
    | .error cause => .error (.creationFailed cause)
  | .getCollection collectionId =>
    match get reference database userId collectionId with
    | some collection => .ok (.collection collection, database)
    | none => .error (.notFound ("Collection with ID " ++ collectionId ++ " not found"))
  | .getAllCollections => .ok (.collections (getAll reference database userId), database)
  | .getMany [] => .error (.retrievalFailed .syntaxError)
  | .getMany collectionIds =>
    match (getAll reference database userId).filter (·.1 ∈ collectionIds) with
    | [] => .error (.notFound ("No collections found for user " ++ userId))
    | collections => .ok (.collections collections, database)
  | .updateCollection collectionId updated =>
    if updated.collectionName = none ∧ updated.description = none ∧ updated.isActive = none then
      .error (.update "No fields to update")
    else
      match update database userId collectionId updated with
      | .ok next => .ok (.done, next)
      | .error cause => .error (.updateFailed cause)
  | .deleteCollection collectionId => .ok (.done, delete database userId collectionId)
  | .addEntry collectionId request =>
    addEntry reference database userId newId collectionId request
  | .getEntry collectionId entryId =>
    match findEntry reference database userId entryId collectionId with
    | some row => (validated (some row)).map (·, database)
    | none => .error (noEntry entryId)
  | .listEntries collectionId limit offset isWishlist =>
    if (get reference database userId collectionId).isNone then
      .error (noCollection collectionId)
    else
      match getAllEntries reference database userId collectionId limit offset isWishlist with
      | .error cause => .error (.database cause)
      | .ok rows =>
        match rows.mapM modelValidate with
        | some entries => .ok (.entries entries, database)
        | none => .error .validation
  | .updateEntryStatus collectionId entryId status =>
    match setEntryStatus database userId entryId collectionId status with
    | some next => (validated (findEntry reference next userId entryId collectionId)).map (·, next)
    | none => .error (noEntry entryId)
  | .deleteEntry collectionId entryId =>
    match removeEntry database userId entryId collectionId with
    | some next => .ok (.done, next)
    | none => .error (noEntry entryId)

end Services

/-- A call of a user, with the id that is new in it and its time. -/
structure Action where
  request : Request
  newId : String
  now : Nat

/-- A call that raises is rolled back. -/
def step (reference : Reference) (userId : String) (database : Database) (action : Action) :
    Database × Except Error Reply :=
  match serve reference database userId action.newId action.now action.request with
  | .ok (reply, next) => (next, .ok reply)
  | .error error => (database, .error error)

end AutoMana.Collections
