import AutoMana.Ebay.SalesSync
import AutoMana.Json

/-!
# Commands on orders

A user marks an order as shipped or sets its local status, and the sync upserts the status of
every order it sees. All three write through one upsert, a row at a time; so what a command
does to the statuses is a list of writes.
-/

namespace AutoMana.Ebay

open Relational Pricing

/-! ## mark_order_shipped -/

/-- An HTTP answer. `parsed` is `none` when `_parse_response` raises. -/
structure Answer where
  statusCode : Nat
  parsed : Option Json

/-- `response.status_code in (200, 201, 204)` -/
def Answer.accepted (answer : Answer) : Bool := [200, 201, 204].contains answer.statusCode

inductive ShipResult where
  | success (orderId : String)
  | parsed (body : Json)

/-- `create_shipping_fulfillment`; `none` when it raises. -/
def createShippingFulfillment (orderId : String) (answer : Answer) : Option ShipResult :=
  if orderId = "" then none
  else if answer.accepted then some (.success orderId)
  else answer.parsed.map .parsed

structure ShipCall where
  key : OrderKey
  trackingNumber : Option String
  carrierCode : Option String
  /-- `none` when the token, the environment, or the request raises. -/
  answer : Option Answer
  /-- `datetime.now` at the upsert. -/
  shippedAt : Timestamp
  upsertRaises : Bool

def ShipCall.row (call : ShipCall) : OrderStatus :=
  ⟨.sent, call.trackingNumber, call.carrierCode, some call.shippedAt⟩

/-- `mark_order_shipped`; `none` when it raises and its transaction is rolled back. -/
def markOrderShipped (call : ShipCall) (table : Table OrderKey OrderStatus) :
    Option (Table OrderKey OrderStatus × ShipResult) := do
  let answer ← call.answer
  let result ← createShippingFulfillment call.key.orderId answer
  if call.upsertRaises then none
  else return (upsertOrderStatus table call.key call.row, result)

/-! ## update_order_local_status -/

structure UpdateCall where
  key : OrderKey
  localStatus : String
  /-- The token, the cache, or the commit. -/
  raises : Bool

/-- `update_order_local_status`, with the order and the status it returns; `none` when it raises
and its transaction is rolled back. -/
def updateOrderLocalStatus (call : UpdateCall) (table : Table OrderKey OrderStatus) :
    Option (Table OrderKey OrderStatus × String × String) := do
  let status ← LocalStatus.ofText? call.localStatus
  if call.raises then none
  else return (upsertOrderStatus table call.key ⟨status, none, none, none⟩,
    call.key.orderId, call.localStatus)

/-! ## Writes of a command -/

/-- An upsert of a status that is committed. -/
inductive Write where
  | sync (key : OrderKey)
  | update (key : OrderKey) (status : LocalStatus)
  | ship (call : ShipCall) (answer : Answer)

def Write.key : Write → OrderKey
  | .sync key => key
  | .update key _ => key
  | .ship call _ => call.key

def Write.row : Write → OrderStatus
  | .sync _ => soldStatus
  | .update _ status => ⟨status, none, none, none⟩
  | .ship call _ => call.row

def Write.apply (table : Table OrderKey OrderStatus) (write : Write) :
    Table OrderKey OrderStatus :=
  upsertOrderStatus table write.key write.row

inductive OrderCommand where
  | markOrderShipped (call : ShipCall)
  | updateOrderLocalStatus (call : UpdateCall)
  | syncOwnSales (call : SyncCall)

/-- The key that a turn of the sync upserts. -/
def statusKey? (call : SyncCall) (seller : Seller) (order : Order) : Option OrderKey :=
  if call.faults.validate seller order || call.faults.status seller order then none
  else (order.orderId.filter (· ≠ "")).map (⟨·, seller.appCode⟩)

def lineRaises (call : SyncCall) (sale : Sale) : Bool :=
  (linePrice? call sale.line).isSome && call.faults.resolve sale

/-- A turn of the sync raises. -/
def orderRaises (call : SyncCall) (seller : Seller) (order : Order) : Bool :=
  call.faults.validate seller order ||
    (order.orderId.filter (· ≠ "")).isSome &&
      (order.lineItems.getD []).any fun line => lineRaises call ⟨seller, order, line⟩

/-- The keys that the sync upserts for orders of a seller. -/
def statusKeys (call : SyncCall) (seller : Seller) : List Order → List OrderKey
  | [] => []
  | order :: rest =>
    (statusKey? call seller order).toList ++
      if orderRaises call seller order then [] else statusKeys call seller rest

def syncWrites (call : SyncCall) : List Write :=
  (call.sellers.flatMap fun seller =>
    if call.faults.seller seller then []
    else statusKeys call seller (getHistory call seller 50 0)).map .sync

def writes : OrderCommand → List Write
  | .markOrderShipped call =>
    match call.answer with
    | none => []
    | some answer =>
      if (createShippingFulfillment call.key.orderId answer).isSome && !call.upsertRaises then
        [.ship call answer]
      else []
  | .updateOrderLocalStatus call =>
    match LocalStatus.ofText? call.localStatus with
    | none => []
    | some status => if call.raises then [] else [.update call.key status]
  | .syncOwnSales call => syncWrites call

theorem writes_markOrderShipped (call : ShipCall) (table : Table OrderKey OrderStatus) :
    (writes (.markOrderShipped call)).foldl Write.apply table =
      ((markOrderShipped call table).map Prod.fst).getD table := by
  cases hanswer : call.answer with
  | none => simp [writes, markOrderShipped, hanswer]
  | some answer =>
    cases hresult : createShippingFulfillment call.key.orderId answer <;>
      cases hraises : call.upsertRaises <;>
      simp [writes, markOrderShipped, hanswer, hresult, hraises, Write.apply, Write.key, Write.row]

theorem writes_updateOrderLocalStatus (call : UpdateCall) (table : Table OrderKey OrderStatus) :
    (writes (.updateOrderLocalStatus call)).foldl Write.apply table =
      ((updateOrderLocalStatus call table).map Prod.fst).getD table := by
  cases hstatus : LocalStatus.ofText? call.localStatus <;> cases hraises : call.raises <;>
    simp [writes, updateOrderLocalStatus, hstatus, hraises, Write.apply, Write.key, Write.row]

/-- A line item leaves the statuses as they are, and they do not decide whether it raises. -/
theorem processLineItem_spec (call : SyncCall) (seller : Seller) (order : Order)
    (orderId : String) (tables : OrderTables) (line : LineItem) :
    (processLineItem call seller order orderId tables line).1.orderStatus = tables.orderStatus ∧
      (processLineItem call seller order orderId tables line).2 =
        lineRaises call ⟨seller, order, line⟩ := by
  rw [processLineItem, lineRaises]
  cases hprice : linePrice? call line with
  | none => exact ⟨rfl, rfl⟩
  | some priceCents =>
    cases hresolve : call.faults.resolve ⟨seller, order, line⟩ with
    | true => exact ⟨rfl, rfl⟩
    | false =>
      simp only [Bool.false_eq_true, if_false]
      split_ifs
      · exact ⟨rfl, rfl⟩
      · exact ⟨rfl, rfl⟩
      · cases saleRow? call order line priceCents <;> exact ⟨rfl, rfl⟩

theorem forEach_processLineItem_spec (call : SyncCall) (seller : Seller) (order : Order)
    (orderId : String) (tables : OrderTables) (lines : List LineItem) :
    (forEach (processLineItem call seller order orderId) tables lines).1.orderStatus =
        tables.orderStatus ∧
      (forEach (processLineItem call seller order orderId) tables lines).2 =
        lines.any fun line => lineRaises call ⟨seller, order, line⟩ := by
  induction lines generalizing tables with
  | nil => exact ⟨rfl, rfl⟩
  | cons line rest ih =>
    obtain ⟨hstatus, hraises⟩ := processLineItem_spec call seller order orderId tables line
    rw [forEach, List.any_cons]
    cases hturn : processLineItem call seller order orderId tables line with
    | mk next raises =>
      rw [hturn] at hstatus hraises
      subst hraises
      cases hline : lineRaises call ⟨seller, order, line⟩ with
      | true => exact ⟨hstatus, rfl⟩
      | false =>
        obtain ⟨hnext, hrest⟩ := ih next
        exact ⟨hnext.trans hstatus, by rw [hrest, Bool.false_or]⟩

theorem syncOrder_spec (call : SyncCall) (seller : Seller) (tables : OrderTables)
    (order : Order) :
    (syncOrder call seller tables order).1.orderStatus =
        (statusKey? call seller order).elim tables.orderStatus
          (upsertOrderStatus tables.orderStatus · soldStatus) ∧
      (syncOrder call seller tables order).2 = orderRaises call seller order := by
  rw [syncOrder, statusKey?, orderRaises]
  cases hvalidate : call.faults.validate seller order with
  | true => simp
  | false =>
    cases horder : order.orderId.filter (· ≠ "") with
    | none => simp
    | some orderId =>
      simp only [Bool.false_eq_true, if_false, Bool.false_or, Option.isSome_some, Bool.true_and,
        forEach_processLineItem_spec, and_true]
      split_ifs <;> rfl

/-- The sync of a seller's orders does what its writes do. -/
theorem orderStatus_forEach_syncOrder (call : SyncCall) (seller : Seller) (tables : OrderTables)
    (orders : List Order) :
    (forEach (syncOrder call seller) tables orders).1.orderStatus =
      ((statusKeys call seller orders).map Write.sync).foldl Write.apply tables.orderStatus := by
  induction orders generalizing tables with
  | nil => rfl
  | cons order rest ih =>
    obtain ⟨hstatus, hraises⟩ := syncOrder_spec call seller tables order
    rw [forEach, statusKeys, List.map_append, List.foldl_append]
    have hfirst : ((statusKey? call seller order).toList.map Write.sync).foldl Write.apply
        tables.orderStatus = (syncOrder call seller tables order).1.orderStatus := by
      rw [hstatus]
      cases statusKey? call seller order <;> rfl
    rw [hfirst, ← hraises]
    cases hturn : syncOrder call seller tables order with
    | mk next raises =>
      cases raises with
      | true => rfl
      | false => exact ih next

theorem orderStatus_syncForUser (call : SyncCall) (tables : OrderTables) (seller : Seller) :
    (syncForUser call tables seller).1.orderStatus =
      ((if call.faults.seller seller then []
        else statusKeys call seller (getHistory call seller 50 0)).map Write.sync).foldl
        Write.apply tables.orderStatus := by
  rw [syncForUser]
  split_ifs
  · rfl
  · exact orderStatus_forEach_syncOrder call seller tables _

theorem writes_syncOwnSales (call : SyncCall) (tables : OrderTables) :
    (writes (.syncOwnSales call)).foldl Write.apply tables.orderStatus =
      (syncOwnSales call tables).1.orderStatus := by
  have hloop : ∀ (sellers : List Seller) (state : OrderTables × Nat),
      ((sellers.flatMap fun seller =>
        if call.faults.seller seller then []
        else statusKeys call seller (getHistory call seller 50 0)).map Write.sync).foldl
        Write.apply state.1.orderStatus =
      (sellers.foldl (fun state seller =>
        let synced := syncForUser call state.1 seller
        (synced.1, if synced.2 then state.2 else state.2 + 1)) state).1.orderStatus := by
    intro sellers
    induction sellers with
    | nil => exact fun _ => rfl
    | cons seller rest ih =>
      intro state
      rw [List.flatMap_cons, List.map_append, List.foldl_append, ← orderStatus_syncForUser,
        List.foldl_cons, ← ih]
  exact hloop call.sellers (tables, 0)

end AutoMana.Ebay
