import AutoMana.Collections.Isolation
import AutoMana.Json

/-!
# The tools of the chat agent

A tool is a query with the arguments that the model has chosen. It runs as the role
`agent_reader`, which reads every row of the tables it may read.
-/

namespace AutoMana.Ai

open Relational

/-! ## The tables -/

/-- A row of `v_card_versions_complete`. -/
structure Card where
  cardName : String
  setCode : String
  manaCost : Option String
  typeLine : Option String
  rarityName : String
  lang : String
  searchVector : String

/-- A price observation with its card, set, finish and provider. -/
structure Price where
  cardName : String
  setCode : String
  finish : String
  listAvgCents : Option Int
  listLowCents : Option Int
  soldAvgCents : Option Int
  provider : String
  tsDate : Int

/-- A row of `ebay_order_status`. -/
structure OrderStatus where
  localStatus : String
  trackingNumber : Option String
  carrierCode : Option String
  shippedAt : Option Int

/-- What the tools read, and the links of users to apps. -/
structure Database where
  collections : Collections.Database
  /-- The codes of the apps. -/
  appInfo : Table String String
  /-- Pairs of a user and an app. -/
  appUser : List (String × String)
  /-- By the id of the order and the code of the app. -/
  orders : Table (String × String) OrderStatus
  /-- `app_code VARCHAR(50)` -/
  shortCodes : ∀ row ∈ orders.rows, row.1.2.length ≤ 50
  cards : List Card
  prices : List Price
  /-- `agent_reader` may use the schemas of users, apps and prices; on production it may not. -/
  granted : Bool

/-- The user is linked to the app of the code. -/
def Linked (database : Database) (userId appCode : String) : Prop :=
  ∃ appId, (userId, appId) ∈ database.appUser ∧ database.appInfo.get? appId = some appCode

/-- What the driver and the database make of arguments and texts. A parameter is `none` when its
encoding raises, and `some none` when it is `NULL`. -/
structure Libraries where
  /-- `str(value)` -/
  str : Json → String
  textArg : Json → Option (Option String)
  intArg : Json → Option (Option Int)
  /-- `now() - text::interval`; `none` when it raises. -/
  minusInterval : Int → String → Option Int
  ilike : String → String → Bool
  /-- `search_vector @@ websearch_to_tsquery('english', query)` -/
  searches : String → String → Bool
  rank : String → String → Nat
  collate : String → String → Bool
  /-- `str` of a time. -/
  timestamp : Int → String

/-! ## Arguments -/

abbrev Fields := List (String × Json)

/-- The keyword arguments fit the parameters of a function. -/
def accepts (fields : Fields) (required optional : List String) : Bool :=
  required.all (· ∈ fields.map Prod.fst) &&
    (fields.map Prod.fst).all (· ∈ required ++ optional)

def argument (fields : Fields) (name : String) (default : Json) : Json :=
  (fields.lookup name).getD default

/-- `LIMIT`; `none` when it raises. -/
def limited {α : Type} (limit : Option Int) (rows : List α) : Option (List α) :=
  match limit with
  | none => some rows
  | some count => if count < 0 then none else some (rows.take count.toNat)

def text? : Option String → Json
  | some text => .str text
  | none => .null

def cents? : Option Int → Json
  | some cents => .number cents 0
  | none => .null

/-! ## The tools -/

section Tools

variable (lib : Libraries) (now : Int) (database : Database)

/-- The cards of a search, one of each name. -/
def searchRows (query : String) : List Card :=
  let rows := database.cards.filter fun card => decide (card.lang = "en") &&
    (lib.searches card.searchVector query || lib.ilike card.cardName ("%" ++ query ++ "%"))
  let ordered := rows.mergeSort fun card other =>
    if card.cardName = other.cardName then
      decide (lib.rank other.searchVector query ≤ lib.rank card.searchVector query)
    else lib.collate card.cardName other.cardName
  ordered.eraseDupsBy fun card other => decide (card.cardName = other.cardName)

def searchCards (fields : Fields) : Option Json := do
  guard (accepts fields ["query"] ["limit"])
  let query ← lib.textArg (argument fields "query" .null)
  let limit ← lib.intArg (argument fields "limit" (.number 10 0))
  let rows ← limited limit (query.elim [] (searchRows lib database))
  some (.list (rows.map fun card => .dict [("card_name", .str card.cardName),
    ("set_code", .str card.setCode), ("mana_cost", text? card.manaCost),
    ("type_line", text? card.typeLine), ("rarity_name", .str card.rarityName)]))

/-- The newest prices of the cards whose names are like the pattern. -/
def priceRows (pattern : Option String) (selected : Price → Bool) (limit : Nat) : List Price :=
  let rows := database.prices.filter fun price =>
    pattern.any (lib.ilike price.cardName) && selected price
  (rows.mergeSort fun price other => decide (other.tsDate ≤ price.tsDate)).take limit

def priceFields (price : Price) : Fields :=
  [("card_name", .str price.cardName), ("set_code", .str price.setCode),
    ("finish", .str price.finish), ("list_avg_cents", cents? price.listAvgCents),
    ("list_low_cents", cents? price.listLowCents), ("provider", .str price.provider),
    ("ts_date", .str (lib.timestamp price.tsDate))]

def getCardPrices (fields : Fields) : Option Json := do
  guard (database.granted && accepts fields ["card_name"] ["set_code"])
  let pattern ← lib.textArg (argument fields "card_name" .null)
  let setCode := argument fields "set_code" .null
  let selected ←
    if setCode.truthy then
      (lib.textArg setCode).map fun code price => decide (some price.setCode = code)
    else some fun _ => true
  some (.list ((priceRows lib database pattern selected 20).map (.dict <| priceFields lib ·)))

/-- The condition is an argument, but it is not used. -/
def getMarketComps (fields : Fields) : Option Json := do
  guard (database.granted && accepts fields ["card_name"] ["condition"])
  let pattern ← lib.textArg (argument fields "card_name" .null)
  some (.list ((priceRows lib database pattern (fun _ => true) 30).map fun price =>
    .dict (priceFields lib price ++ [("sold_avg_cents", cents? price.soldAvgCents)])))

/-- The items in active collections of the user. -/
def activeItems (userId : String) : List (String × Collections.Item) :=
  database.collections.items.rows.filter fun row =>
    (database.collections.collections.get? row.2.collectionId).any fun collection =>
      decide (collection.userId = userId) && decide (collection.isActive = some true)

/-- Ids are kept in the form in which they are passed. -/
def getCollectionSummary (fields : Fields) : Option Json := do
  guard (database.granted && accepts fields ["user_id"] [])
  let userId ← (argument fields "user_id" .null).str?
  let items := activeItems database userId
  some (.list [.dict [("total_cards", .number items.length 0),
    ("unique_cards", .number (items.map (·.2.cardVersionId)).dedup.length 0)]])

/-- It selects `listing_id`, `price`, `quantity` and `condition`, which are not columns of
`ebay_active_listings`, so it always raises. -/
def getActiveListings (_ : Fields) : Option Json := none

/-- The parameters of the query of sold orders. -/
structure SoldOrdersQuery where
  appCode : Option String
  since : Int
  limit : Option Nat

def soldOrdersQuery (granted : Bool) (fields : Fields) : Option SoldOrdersQuery := do
  guard (granted && accepts fields ["app_code"] ["days", "limit"])
  let appCode ← lib.textArg (argument fields "app_code" .null)
  let limit ← lib.intArg (argument fields "limit" (.number 20 0))
  let since ← lib.minusInterval now (lib.str (argument fields "days" (.number 7 0)) ++ " days")
  guard (limit.all (0 ≤ ·))
  some ⟨appCode, since, limit.map Int.toNat⟩

/-- The order of a row is the newest shipping first. -/
def soldOrderRows (query : SoldOrdersQuery) : List ((String × String) × OrderStatus) :=
  let rows := database.orders.rows.filter fun row =>
    decide (some row.1.2 = query.appCode) && row.2.shippedAt.any (query.since ≤ ·)
  let ordered := rows.mergeSort fun row other =>
    decide (other.2.shippedAt.getD 0 ≤ row.2.shippedAt.getD 0)
  query.limit.elim ordered ordered.take

def orderFields (row : (String × String) × OrderStatus) : Fields :=
  [("order_id", .str row.1.1), ("local_status", .str row.2.localStatus),
    ("tracking_number", text? row.2.trackingNumber), ("carrier_code", text? row.2.carrierCode),
    ("shipped_at", text? (row.2.shippedAt.map lib.timestamp))]

def soldOrders (query : SoldOrdersQuery) : Json :=
  .list ((soldOrderRows database query).map (.dict <| orderFields lib ·))

def getSoldOrders (fields : Fields) : Option Json :=
  (soldOrdersQuery lib now database.granted fields).map (soldOrders lib database)

/-- The tools that are to come take any arguments, but for the connection. -/
def notImplemented (fields : Fields) : Option Json := do
  guard ("conn" ∉ fields.map Prod.fst)
  some (.dict [("status", .str "not_implemented"), ("message", .str "Coming soon")])

/-- `TOOL_MAP` -/
def toolMap : String → Option (Fields → Option Json)
  | "search_cards" => some (searchCards lib database)
  | "get_card_prices" => some (getCardPrices lib database)
  | "get_collection_summary" => some (getCollectionSummary database)
  | "get_active_listings" => some getActiveListings
  | "get_sold_orders" => some (getSoldOrders lib now database)
  | "get_market_comps" => some (getMarketComps lib database)
  | "get_listings_needing_action" => some notImplemented
  | "get_card_buy_recommendations" => some notImplemented
  | _ => none

end Tools

end AutoMana.Ai
