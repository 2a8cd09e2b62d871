import AutoMana.Ebay.Orders

/-!
# sync_own_sales

For every active seller one page of the order history is fetched; each order gets the local
status `sold`, and each of its line items a row. A line item that cannot be stored is logged
and left out; any other error ends the seller's turn.
-/

namespace AutoMana.Ebay

open Relational Pricing

/-! ## Orders -/

structure Cost where
  value : Option String
  currency : Option String
deriving DecidableEq, Repr

structure LineItem where
  legacyItemId : Option String
  title : Option String
  lineItemCost : Option Cost
  quantity : Option Int
deriving DecidableEq, Repr

structure Buyer where
  username : Option String
deriving DecidableEq, Repr

/-- A validated `FulfillmentResponse`. -/
structure Order where
  orderId : Option String
  creationDate : Option String
  buyer : Option Buyer
  lineItems : Option (List LineItem)
deriving DecidableEq, Repr

/-- A user with a refresh token for an app. -/
structure Seller where
  userId : Nat
  appCode : String
deriving DecidableEq, Repr

/-- The order and the line item of a sale. -/
structure Sale where
  seller : Seller
  order : Order
  line : LineItem
deriving DecidableEq, Repr

/-- A row of `ebay_active_listings`. -/
structure ActiveListing where
  cardVersionId : CardVersionId
  conditionId : Option Nat
  finishId : Option Nat
  languageId : Option Nat
  marketplaceId : Option String
deriving DecidableEq, Repr

structure Candidate where
  cardVersionId : CardVersionId
  cardName : String
  setCode : Option String
deriving DecidableEq, Repr

/-- Which calls raise. -/
structure SyncFaults where
  /-- The token, the environment, or the order history. -/
  seller : Seller → Bool
  validate : Seller → Order → Bool
  status : Seller → Order → Bool
  /-- A query of the card or of the listing. -/
  resolve : Sale → Bool
  ensureSourceProduct : Sale → Bool
  upsert : Sale → Bool

structure SyncCall where
  sellers : List Seller
  /-- The orders of a seller in the window of the API. -/
  orders : Seller → List Order
  /-- `round(float(value) * 100)` -/
  toCents : String → Option Int
  parseSoldAt : Option String → Timestamp
  activeListings : Table String ActiveListing
  suggest : String → List Candidate
  /-- `score_title`, in hundredths. -/
  score : String → Candidate → Int
  ensureSourceProduct : CardVersionId → Option SourceProductId
  faults : SyncFaults

structure OrderTables where
  orderStatus : Table OrderKey OrderStatus
  orderSourceProduct : Table OrderItemKey OrderSourceProduct

/-! ## A line item -/

/-- `_price_to_cents` of the cost. -/
def linePrice? (call : SyncCall) (line : LineItem) : Option Int :=
  (line.lineItemCost.bind (·.value)).bind call.toCents

/-- `line.quantity or 1` -/
def lineQuantity (line : LineItem) : Int := (line.quantity.filter (· ≠ 0)).getD 1

def lineCurrency (line : LineItem) : String :=
  (((line.lineItemCost.map (·.currency)).getD (some "USD")).filter (· ≠ "")).getD "USD"

/-- `_SCORE_THRESHOLD` -/
def scoreThreshold : Int := 70

/-- The listing of a line item with an item id. -/
def listing? (call : SyncCall) (line : LineItem) : Option ActiveListing :=
  (line.legacyItemId.filter (· ≠ "")).bind call.activeListings.get?

/-- `_resolve_card_version`: of equal scores the later candidate is taken. -/
def resolveCardVersion (call : SyncCall) (line : LineItem) : Option CardVersionId :=
  match listing? call line with
  | some listing => some listing.cardVersionId
  | none =>
    let title := line.title.getD ""
    ((call.suggest title).foldl (fun best candidate =>
      if best.2 ≤ call.score title candidate then
        (some candidate.cardVersionId, call.score title candidate)
      else best) (none, scoreThreshold)).1

/-- A `SMALLINT` with a `> 0` check. -/
def quantity? (value : Int) : Option Nat :=
  if 0 < value ∧ value ≤ 32767 then some value.toNat else none

/-- The row of a line item; `none` when a check of the table refuses it. -/
def saleRow? (call : SyncCall) (order : Order) (line : LineItem) (priceCents : Int) :
    Option OrderSourceProduct := do
  let soldPriceCents ← cents? priceCents
  let quantity ← quantity? (lineQuantity line)
  let listing := listing? call line
  if 3 < (lineCurrency line).length then none
  else some {
    title := some (line.title.getD "")
    sourceProductId := (resolveCardVersion call line).bind call.ensureSourceProduct
    quantity
    soldPriceCents
    currency := lineCurrency line
    finishId := ((listing.bind (·.finishId)).filter (· ≠ 0)).getD 1
    conditionId := (listing.bind (·.conditionId)).filter (· ≠ 0)
    languageId := ((listing.bind (·.languageId)).filter (· ≠ 0)).getD 1
    soldAt := call.parseSoldAt order.creationDate
    buyerUsername := order.buyer.bind (·.username)
    promotedToObs := false
    marketplaceId := listing.bind (·.marketplaceId) }

/-- The key of a line item, if its order has an id. -/
def Sale.key? (sale : Sale) : Option OrderItemKey :=
  (sale.order.orderId.filter (· ≠ "")).map fun orderId =>
    ⟨orderId, sale.seller.appCode, sale.line.legacyItemId.getD ""⟩

/-- `_process_line_item`, and whether it raises. -/
def processLineItem (call : SyncCall) (seller : Seller) (order : Order) (orderId : String)
    (tables : OrderTables) (line : LineItem) : OrderTables × Bool :=
  match linePrice? call line with
  | none => (tables, false)
  | some priceCents =>
    if call.faults.resolve ⟨seller, order, line⟩ then (tables, true)
    else if (resolveCardVersion call line).isSome &&
        call.faults.ensureSourceProduct ⟨seller, order, line⟩ then (tables, false)
    else if call.faults.upsert ⟨seller, order, line⟩ ||
        (tables.orderStatus.get? ⟨orderId, seller.appCode⟩).isNone then (tables, false)
    else
      match saleRow? call order line priceCents with
      | none => (tables, false)
      | some row =>
        ({ tables with
            orderSourceProduct := upsertOrderSourceProduct tables.orderSourceProduct
              ⟨orderId, seller.appCode, line.legacyItemId.getD ""⟩ row }, false)

/-! ## The loops -/

/-- A loop that ends with the first turn that raises. -/
def forEach {S α : Type} (body : S → α → S × Bool) : S → List α → S × Bool
  | state, [] => (state, false)
  | state, item :: rest =>
    match body state item with
    | (next, true) => (next, true)
    | (next, false) => forEach body next rest

def soldStatus : OrderStatus := ⟨.sold, none, none, none⟩

/-- A turn of the loop over the orders of a page. -/
def syncOrder (call : SyncCall) (seller : Seller) (tables : OrderTables) (order : Order) :
    OrderTables × Bool :=
  if call.faults.validate seller order then (tables, true)
  else
    match order.orderId.filter (· ≠ "") with
    | none => (tables, false)
    | some orderId =>
      let orderStatus :=
        if call.faults.status seller order then tables.orderStatus
        else upsertOrderStatus tables.orderStatus ⟨orderId, seller.appCode⟩ soldStatus
      forEach (processLineItem call seller order orderId) { tables with orderStatus }
        (order.lineItems.getD [])

/-- The API pages by limit and offset. -/
def getHistory (call : SyncCall) (seller : Seller) (limit offset : Nat) : List Order :=
  ((call.orders seller).drop offset).take limit

/-- `_sync_for_user`, and whether it raises. -/
def syncForUser (call : SyncCall) (tables : OrderTables) (seller : Seller) : OrderTables × Bool :=
  if call.faults.seller seller then (tables, true)
  else forEach (syncOrder call seller) tables (getHistory call seller 50 0)

/-- `sync_own_sales`, with the number it reports. -/
def syncOwnSales (call : SyncCall) (tables : OrderTables) : OrderTables × Nat :=
  call.sellers.foldl (fun state seller =>
    let synced := syncForUser call state.1 seller
    (synced.1, if synced.2 then state.2 else state.2 + 1)) (tables, 0)

/-! ## A sample -/

def sampleSeller : Seller := ⟨1, "app"⟩

/-- One seller, with no listings and no candidates. -/
def sampleSync (orders : List Order) : SyncCall where
  sellers := [sampleSeller]
  orders _ := orders
  toCents _ := some 1
  parseSoldAt _ := 0
  activeListings := .empty
  suggest _ := []
  score _ _ := 0
  ensureSourceProduct _ := none
  faults := ⟨fun _ => false, fun _ _ => false, fun _ _ => false, fun _ => false, fun _ => false,
    fun _ => false⟩

end AutoMana.Ebay
