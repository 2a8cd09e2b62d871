import AutoMana.Ebay.SalesSync

/-!
# Sales that are stored

A sync reads the first page of a seller's orders, and it stores a line item under its order,
app, and item id. So every sale has a row of its own when the orders fit on the page, or the
others were stored before, and no two line items have one key.
-/

namespace AutoMana.Ebay

open Relational Pricing

/-! ## What is claimed -/

/-- The line items of orders. -/
def salesOfOrders (seller : Seller) (orders : List Order) : List Sale :=
  orders.flatMap fun order => (order.lineItems.getD []).map (⟨seller, order, ·⟩)

/-- The line items of all orders of the sellers. -/
def sales (call : SyncCall) : List Sale :=
  call.sellers.flatMap fun seller => salesOfOrders seller (call.orders seller)

/-- A row shows a sale. -/
structure Shows (call : SyncCall) (sale : Sale) (row : OrderSourceProduct) : Prop where
  title : row.title = some (sale.line.title.getD "")
  quantity : (row.quantity : Int) = lineQuantity sale.line
  price : some (row.soldPriceCents : Int) = linePrice? call sale.line

/-- Every line item has a row that shows it, and no two share a row. -/
structure StoresEverySale (call : SyncCall) (tables : OrderTables) : Prop where
  stored : ∀ sale ∈ sales call, ∃ key row, sale.key? = some key ∧
    tables.orderSourceProduct.get? key = some row ∧ Shows call sale row
  apart : ((sales call).map Sale.key?).Nodup

/-! ## The condition -/

/-- The line items on the first page of each seller. -/
def firstPage (call : SyncCall) : List Sale :=
  call.sellers.flatMap fun seller => salesOfOrders seller (getHistory call seller 50 0)

/-- The line items of the other orders. -/
def laterPages (call : SyncCall) : List Sale :=
  call.sellers.flatMap fun seller => salesOfOrders seller ((call.orders seller).drop 50)

def EachHasCost (call : SyncCall) : Prop := ∀ sale ∈ sales call, (linePrice? call sale.line).isSome

/-- No call of the run raises, and the table refuses no row. -/
structure NoCallRaises (call : SyncCall) : Prop where
  seller : ∀ seller ∈ call.sellers, call.faults.seller seller = false
  order : ∀ seller ∈ call.sellers, ∀ order ∈ getHistory call seller 50 0,
    call.faults.validate seller order = false ∧ call.faults.status seller order = false
  line : ∀ sale ∈ firstPage call, call.faults.resolve sale = false ∧
    call.faults.ensureSourceProduct sale = false ∧ call.faults.upsert sale = false ∧
    ∀ priceCents, linePrice? call sale.line = some priceCents →
      (saleRow? call sale.order sale.line priceCents).isSome

/-- Orders have ids and line items have keys of their own; a row that is stored under the key
of a line item on the first page has its title and quantity, and the other line items have
rows that show them. -/
structure SalesFit (call : SyncCall) (tables : OrderTables) : Prop where
  identified : ∀ sale ∈ sales call, sale.key?.isSome
  apart : ((sales call).map Sale.key?).Nodup
  first : ∀ sale ∈ firstPage call, ∀ key row, sale.key? = some key →
    tables.orderSourceProduct.get? key = some row →
    row.title = some (sale.line.title.getD "") ∧ (row.quantity : Int) = lineQuantity sale.line
  later : ∀ sale ∈ laterPages call, ∃ key row, sale.key? = some key ∧
    tables.orderSourceProduct.get? key = some row ∧ Shows call sale row

/-! ## What a sync writes -/

/-- The row of a sale, with its key. -/
def keyedRow? (call : SyncCall) (sale : Sale) : Option (OrderItemKey × OrderSourceProduct) := do
  let key ← sale.key?
  let priceCents ← linePrice? call sale.line
  let row ← saleRow? call sale.order sale.line priceCents
  return (key, row)

/-- The own sales after the rows of sales are upserted. -/
def storeSales (call : SyncCall) (table : Table OrderItemKey OrderSourceProduct)
    (sales : List Sale) : Table OrderItemKey OrderSourceProduct :=
  (sales.filterMap (keyedRow? call)).foldl (fun table entry =>
    upsertOrderSourceProduct table entry.1 entry.2) table

theorem storeSales_append (call : SyncCall) (table : Table OrderItemKey OrderSourceProduct)
    (first second : List Sale) :
    storeSales call table (first ++ second) =
      storeSales call (storeSales call table first) second := by
  rw [storeSales, List.filterMap_append, List.foldl_append]
  rfl

theorem storeSales_cons (call : SyncCall) (table : Table OrderItemKey OrderSourceProduct)
    (sale : Sale) (rest : List Sale) :
    storeSales call table (sale :: rest) = storeSales call (storeSales call table [sale]) rest :=
  storeSales_append call table [sale] rest

/-- No turn of a loop raises when each keeps an invariant under which none does. -/
theorem forEach_of_returns {S α : Type} {body : S → α → S × Bool} {after : S → α → S}
    {Inv : S → Prop} {items : List α}
    (hbody : ∀ state, Inv state → ∀ item ∈ items,
      body state item = (after state item, false) ∧ Inv (after state item))
    {state : S} (hinv : Inv state) :
    forEach body state items = (items.foldl after state, false) := by
  induction items generalizing state with
  | nil => rfl
  | cons item rest ih =>
    obtain ⟨hturn, hnext⟩ := hbody state hinv item List.mem_cons_self
    rw [forEach, hturn, List.foldl_cons]
    exact ih (fun state hstate other hother =>
      hbody state hstate other (List.mem_cons_of_mem _ hother)) hnext

/-- What must hold of a sale for its turn to return. -/
def LineReturns (call : SyncCall) (sale : Sale) : Prop :=
  call.faults.resolve sale = false ∧ call.faults.ensureSourceProduct sale = false ∧
    call.faults.upsert sale = false

theorem processLineItem_of_returns {call : SyncCall} {seller : Seller} {order : Order}
    {orderId : String} {tables : OrderTables} {line : LineItem}
    (hreturns : LineReturns call ⟨seller, order, line⟩)
    (horder : order.orderId.filter (· ≠ "") = some orderId)
    (hstatus : (tables.orderStatus.get? ⟨orderId, seller.appCode⟩).isSome) :
    processLineItem call seller order orderId tables line =
      ({ tables with
          orderSourceProduct :=
            storeSales call tables.orderSourceProduct [⟨seller, order, line⟩] }, false) := by
  obtain ⟨hresolve, hensure, hupsert⟩ := hreturns
  have hkey : Sale.key? ⟨seller, order, line⟩ =
      some ⟨orderId, seller.appCode, line.legacyItemId.getD ""⟩ := by
    rw [Sale.key?, horder, Option.map_some]
  rw [processLineItem, storeSales]
  cases hprice : linePrice? call line with
  | none =>
    rw [List.filterMap_cons_none (by simp [keyedRow?, hkey, hprice])]
    rfl
  | some priceCents =>
    simp only [hresolve, hensure, hupsert, Bool.and_false, Bool.false_or, Bool.false_eq_true,
      if_false, Option.isNone_iff_eq_none, Option.ne_none_iff_isSome.mpr hstatus]
    cases hrow : saleRow? call order line priceCents with
    | none =>
      rw [List.filterMap_cons_none (by simp [keyedRow?, hkey, hprice, hrow])]
      rfl
    | some row =>
      have hentry : keyedRow? call ⟨seller, order, line⟩ =
          some (⟨orderId, seller.appCode, line.legacyItemId.getD ""⟩, row) := by
        simp [keyedRow?, hkey, hprice, hrow]
      rw [List.filterMap_cons_some hentry]
      rfl

/-- The line items of an order with an id, whose status is stored. -/
theorem forEach_processLineItem {call : SyncCall} {seller : Seller} {order : Order}
    {orderId : String} (horder : order.orderId.filter (· ≠ "") = some orderId)
    {lines : List LineItem} (hreturns : ∀ line ∈ lines, LineReturns call ⟨seller, order, line⟩)
    (tables : OrderTables)
    (hstatus : (tables.orderStatus.get? ⟨orderId, seller.appCode⟩).isSome) :
    forEach (processLineItem call seller order orderId) tables lines =
      ({ tables with
          orderSourceProduct := storeSales call tables.orderSourceProduct
            (lines.map (⟨seller, order, ·⟩)) }, false) := by
  induction lines generalizing tables with
  | nil => rfl
  | cons line rest ih =>
    rw [forEach, processLineItem_of_returns (hreturns line List.mem_cons_self) horder hstatus]
    have hrest := ih (fun other hother => hreturns other (List.mem_cons_of_mem _ hother))
      { tables with
        orderSourceProduct :=
          storeSales call tables.orderSourceProduct [⟨seller, order, line⟩] } hstatus
    rw [List.map_cons, storeSales_cons call _ _ (rest.map (⟨seller, order, ·⟩))]
    exact hrest

/-- An order without an id has nothing to store. -/
theorem storeSales_of_noId {seller : Seller} {order : Order}
    (horder : order.orderId.filter (· ≠ "") = none) (call : SyncCall)
    (table : Table OrderItemKey OrderSourceProduct) (lines : List LineItem) :
    storeSales call table (lines.map (⟨seller, order, ·⟩)) = table := by
  have hnone : (lines.map (Sale.mk seller order)).filterMap (keyedRow? call) = [] := by
    rw [List.filterMap_eq_nil_iff]
    intro sale hsale
    obtain ⟨line, -, rfl⟩ := List.mem_map.mp hsale
    have hkey : Sale.key? ⟨seller, order, line⟩ = none := by
      rw [Sale.key?, horder, Option.map_none]
    rw [keyedRow?, hkey]
    rfl
  rw [storeSales, hnone]
  rfl

/-- What an order leaves when its turn returns: the status, and the rows of its line items. -/
def afterOrder (call : SyncCall) (seller : Seller) (tables : OrderTables) (order : Order) :
    OrderTables where
  orderStatus := (order.orderId.filter (· ≠ "")).elim tables.orderStatus fun orderId =>
    upsertOrderStatus tables.orderStatus ⟨orderId, seller.appCode⟩ soldStatus
  orderSourceProduct := storeSales call tables.orderSourceProduct (salesOfOrders seller [order])

theorem syncOrder_of_returns {call : SyncCall} {seller : Seller} {order : Order}
    (hvalidate : call.faults.validate seller order = false)
    (hstatus : call.faults.status seller order = false)
    (hreturns : ∀ line ∈ order.lineItems.getD [], LineReturns call ⟨seller, order, line⟩)
    (tables : OrderTables) :
    syncOrder call seller tables order = (afterOrder call seller tables order, false) := by
  rw [syncOrder, hvalidate, if_neg Bool.false_ne_true, hstatus, afterOrder, salesOfOrders,
    List.flatMap_singleton]
  cases horder : order.orderId.filter (· ≠ "") with
  | none =>
    simp only [storeSales_of_noId horder]
    rfl
  | some orderId =>
    have hstored : ((upsertOrderStatus tables.orderStatus ⟨orderId, seller.appCode⟩
        soldStatus).get? ⟨orderId, seller.appCode⟩).isSome := by
      rw [← Option.isSome_map, localStatus_upsertOrderStatus, if_pos rfl]
      rfl
    simp only [Bool.false_eq_true, if_false, Option.elim_some]
    exact forEach_processLineItem horder hreturns _ hstored

theorem salesOfOrders_cons (seller : Seller) (order : Order) (rest : List Order) :
    salesOfOrders seller (order :: rest) =
      salesOfOrders seller [order] ++ salesOfOrders seller rest := by
  rw [salesOfOrders, salesOfOrders, salesOfOrders, List.flatMap_cons, List.flatMap_singleton]

theorem orderSourceProduct_foldl_afterOrder (call : SyncCall) (seller : Seller)
    (tables : OrderTables) (orders : List Order) :
    (orders.foldl (afterOrder call seller) tables).orderSourceProduct =
      storeSales call tables.orderSourceProduct (salesOfOrders seller orders) := by
  induction orders generalizing tables with
  | nil => rfl
  | cons order rest ih =>
    rw [List.foldl_cons, ih, salesOfOrders_cons, storeSales_append]
    rfl

/-- A turn of a seller whose calls return goes through the first page. -/
theorem syncForUser_of_returns {call : SyncCall} (hreturns : NoCallRaises call) {seller : Seller}
    (hseller : seller ∈ call.sellers) (tables : OrderTables) :
    syncForUser call tables seller =
      ((getHistory call seller 50 0).foldl (afterOrder call seller) tables, false) := by
  rw [syncForUser, hreturns.seller seller hseller, if_neg Bool.false_ne_true]
  have horder : ∀ state, True → ∀ order ∈ getHistory call seller 50 0,
      syncOrder call seller state order = (afterOrder call seller state order, false) ∧ True := by
    intro state _ order hmem
    obtain ⟨hvalidate, hstatus⟩ := hreturns.order seller hseller order hmem
    refine ⟨syncOrder_of_returns hvalidate hstatus ?_ state, trivial⟩
    intro line hline
    have hpage : (⟨seller, order, line⟩ : Sale) ∈ firstPage call :=
      List.mem_flatMap.mpr ⟨seller, hseller,
        List.mem_flatMap.mpr ⟨order, hmem, List.mem_map.mpr ⟨line, hline, rfl⟩⟩⟩
    obtain ⟨hresolve, hensure, hupsert, -⟩ := hreturns.line _ hpage
    exact ⟨hresolve, hensure, hupsert⟩
  exact forEach_of_returns horder trivial

/-- A run in which no call raises upserts the rows of the first pages. -/
theorem orderSourceProduct_syncOwnSales {call : SyncCall} (hreturns : NoCallRaises call)
    (tables : OrderTables) :
    (syncOwnSales call tables).1.orderSourceProduct =
      storeSales call tables.orderSourceProduct (firstPage call) := by
  have hloop : ∀ (sellers : List Seller) (state : OrderTables × Nat),
      (∀ seller ∈ sellers, seller ∈ call.sellers) →
      (sellers.foldl (fun state seller =>
        let synced := syncForUser call state.1 seller
        (synced.1, if synced.2 then state.2 else state.2 + 1)) state).1.orderSourceProduct =
      storeSales call state.1.orderSourceProduct
        (sellers.flatMap fun seller => salesOfOrders seller (getHistory call seller 50 0)) := by
    intro sellers
    induction sellers with
    | nil => exact fun _ _ => rfl
    | cons seller rest ih =>
      intro state hsellers
      obtain ⟨hseller, hrest⟩ := List.forall_mem_cons.mp hsellers
      rw [List.foldl_cons, ih _ hrest, List.flatMap_cons, storeSales_append,
        syncForUser_of_returns hreturns hseller]
      simp only [orderSourceProduct_foldl_afterOrder]
  exact hloop call.sellers (tables, 0) fun _ => id

/-! ## What is stored under a key -/

/-- Entries of different keys. -/
theorem get?_foldl_upsert {entries : List (OrderItemKey × OrderSourceProduct)}
    (hnodup : (entries.map Prod.fst).Nodup) (table : Table OrderItemKey OrderSourceProduct)
    (key : OrderItemKey) :
    (entries.foldl (fun table entry => upsertOrderSourceProduct table entry.1 entry.2)
      table).get? key =
      (entries.lookup key).elim (table.get? key) fun row =>
        some ((table.get? key).elim { row with promotedToObs := false } (·.resync row)) := by
  refine Table.read_foldl_of_nodup Table.get?
    (fun _ row old => some (old.elim { row with promotedToObs := false } (·.resync row))) ?_
    hnodup table key
  intro table entry key
  rw [get?_upsertOrderSourceProduct]
  split_ifs with hkey
  · rw [hkey]
  · rfl

theorem perm_sales (call : SyncCall) : (firstPage call ++ laterPages call).Perm (sales call) := by
  have hsplit : sales call = call.sellers.flatMap fun seller =>
      salesOfOrders seller (getHistory call seller 50 0) ++
        salesOfOrders seller ((call.orders seller).drop 50) := by
    rw [sales]
    congr 1
    funext seller
    rw [salesOfOrders, salesOfOrders, salesOfOrders, ← List.flatMap_append, getHistory,
      List.drop_zero, List.take_append_drop]
  rw [hsplit]
  exact List.flatMap_append_perm _ _ _

theorem mem_sales_iff {call : SyncCall} {sale : Sale} :
    sale ∈ sales call ↔ sale ∈ firstPage call ∨ sale ∈ laterPages call := by
  rw [← (perm_sales call).mem_iff, List.mem_append]

/-- A row made for a sale shows it. -/
theorem shows_of_saleRow {call : SyncCall} {sale : Sale} {priceCents : Int}
    {row : OrderSourceProduct} (hprice : linePrice? call sale.line = some priceCents)
    (hrow : saleRow? call sale.order sale.line priceCents = some row) : Shows call sale row := by
  simp only [saleRow?, Option.bind_eq_bind, Option.bind_eq_some_iff,
    Option.ite_none_left_eq_some] at hrow
  obtain ⟨soldPriceCents, hcents, quantity, hquantity, -, hsome⟩ := hrow
  simp only [cents?, quantity?, Option.ite_none_right_eq_some, Option.some.injEq]
    at hcents hquantity
  obtain ⟨⟨hnonneg, -⟩, rfl⟩ := hcents
  obtain ⟨⟨hpos, -⟩, rfl⟩ := hquantity
  cases hsome
  exact ⟨rfl, Int.toNat_of_nonneg hpos.le, by rw [hprice, Int.toNat_of_nonneg hnonneg]⟩

/-- A row that is stored takes over the price of a sale, but not its title and quantity. -/
theorem shows_resync_iff {call : SyncCall} {sale : Sale} {row : OrderSourceProduct}
    (hshows : Shows call sale row) (stored : OrderSourceProduct) :
    Shows call sale (stored.resync row) ↔
      stored.title = some (sale.line.title.getD "") ∧
        (stored.quantity : Int) = lineQuantity sale.line :=
  ⟨fun hnext => ⟨hnext.title, hnext.quantity⟩, fun hstored => ⟨hstored.1, hstored.2, hshows.price⟩⟩

section Run

variable {call : SyncCall} {tables : OrderTables}

/-- Every identified sale of the first page has an entry. -/
theorem exists_entry (hcosts : EachHasCost call) (hreturns : NoCallRaises call) {sale : Sale}
    (hsale : sale ∈ firstPage call) {key : OrderItemKey} (hkey : sale.key? = some key) :
    ∃ row, keyedRow? call sale = some (key, row) ∧ Shows call sale row := by
  obtain ⟨priceCents, hprice⟩ :=
    Option.isSome_iff_exists.mp (hcosts sale (mem_sales_iff.mpr (Or.inl hsale)))
  obtain ⟨-, -, -, haccepted⟩ := hreturns.line sale hsale
  obtain ⟨row, hrow⟩ := Option.isSome_iff_exists.mp (haccepted priceCents hprice)
  exact ⟨row, by simp [keyedRow?, hkey, hprice, hrow], shows_of_saleRow hprice hrow⟩

theorem key_of_entry {sale : Sale} {entry : OrderItemKey × OrderSourceProduct}
    (hentry : keyedRow? call sale = some entry) : sale.key? = some entry.1 := by
  simp only [keyedRow?, Option.bind_eq_bind, Option.bind_eq_some_iff] at hentry
  obtain ⟨key, hkey, _, -, _, -, hsome⟩ := hentry
  cases hsome
  exact hkey

/-- The entries have different keys when the line items do. -/
theorem nodup_entries (hapart : ((sales call).map Sale.key?).Nodup) :
    (((firstPage call).filterMap (keyedRow? call)).map Prod.fst).Nodup := by
  have hfirst : ((firstPage call).map Sale.key?).Nodup := by
    have hboth := ((perm_sales call).map Sale.key?).nodup_iff.mpr hapart
    rw [List.map_append] at hboth
    exact hboth.of_append_left
  have hkeys : (((firstPage call).filterMap (keyedRow? call)).map (some ∘ Prod.fst)).Sublist
      ((firstPage call).map Sale.key?) := by
    induction firstPage call with
    | nil => exact .slnil
    | cons sale rest ih =>
      cases hentry : keyedRow? call sale with
      | none =>
        rw [List.filterMap_cons_none hentry]
        exact ih.cons _
      | some entry =>
        rw [List.filterMap_cons_some hentry, List.map_cons, List.map_cons, key_of_entry hentry]
        exact ih.cons_cons _
  have hnodup := hfirst.sublist hkeys
  rw [← List.map_map] at hnodup
  exact hnodup.of_map

theorem get?_of_first (hreturns : NoCallRaises call)
    (hapart : ((sales call).map Sale.key?).Nodup) {sale : Sale} (hsale : sale ∈ firstPage call)
    {key : OrderItemKey} {row : OrderSourceProduct}
    (hentry : keyedRow? call sale = some (key, row)) :
    (syncOwnSales call tables).1.orderSourceProduct.get? key =
      some ((tables.orderSourceProduct.get? key).elim { row with promotedToObs := false }
        (·.resync row)) := by
  have hnodup := nodup_entries hapart
  have hlookup := (Table.lookup_eq_some_iff_mem hnodup key row).mpr
    (List.mem_filterMap.mpr ⟨sale, hsale, hentry⟩)
  rw [orderSourceProduct_syncOwnSales hreturns, storeSales, get?_foldl_upsert hnodup, hlookup,
    Option.elim_some]

theorem get?_of_later (hreturns : NoCallRaises call)
    (hapart : ((sales call).map Sale.key?).Nodup) {sale : Sale} (hsale : sale ∈ laterPages call)
    {key : OrderItemKey} (hkey : sale.key? = some key) :
    (syncOwnSales call tables).1.orderSourceProduct.get? key =
      tables.orderSourceProduct.get? key := by
  have hnone : ((firstPage call).filterMap (keyedRow? call)).lookup key = none := by
    apply Table.lookup_eq_none_of_notMem
    intro hmem
    obtain ⟨entry, hentry, rfl⟩ := List.mem_map.mp hmem
    obtain ⟨other, hother, hsome⟩ := List.mem_filterMap.mp hentry
    -- the line items of the first page have other keys
    have hboth := ((perm_sales call).map Sale.key?).nodup_iff.mpr hapart
    rw [List.map_append, List.nodup_append] at hboth
    have hne := hboth.2.2 _ (List.mem_map_of_mem hother) _ (List.mem_map_of_mem hsale)
    exact hne ((key_of_entry hsome).trans hkey.symm)
  rw [orderSourceProduct_syncOwnSales hreturns, storeSales,
    get?_foldl_upsert (nodup_entries hapart), hnone, Option.elim_none]

/-- `integrations.ebay.sync_own_sales` without a raising call: every sale has a row of its own
exactly when the sales fit. -/
theorem storesEverySale_iff (hcosts : EachHasCost call) (hreturns : NoCallRaises call) :
    StoresEverySale call (syncOwnSales call tables).1 ↔ SalesFit call tables := by
  constructor
  · intro hstores
    refine ⟨fun sale hsale => ?_, hstores.apart, fun sale hsale key stored hkey hget => ?_,
      fun sale hsale => ?_⟩
    · obtain ⟨key, -, hkey, -⟩ := hstores.stored sale hsale
      exact Option.isSome_of_eq_some hkey
    · obtain ⟨row, hentry, hshows⟩ := exists_entry hcosts hreturns hsale hkey
      obtain ⟨other, final, hother, hfinal, hshown⟩ :=
        hstores.stored sale (mem_sales_iff.mpr (Or.inl hsale))
      obtain rfl := Option.some.inj (hkey.symm.trans hother)
      rw [get?_of_first hreturns hstores.apart hsale hentry, hget] at hfinal
      obtain rfl := Option.some.inj hfinal
      exact (shows_resync_iff hshows stored).mp hshown
    · obtain ⟨key, row, hkey, hget, hshown⟩ :=
        hstores.stored sale (mem_sales_iff.mpr (Or.inr hsale))
      rw [get?_of_later hreturns hstores.apart hsale hkey] at hget
      exact ⟨key, row, hkey, hget, hshown⟩
  · intro hfit
    refine ⟨fun sale hsale => ?_, hfit.apart⟩
    rcases mem_sales_iff.mp hsale with hfirst | hlater
    · obtain ⟨key, hkey⟩ := Option.isSome_iff_exists.mp (hfit.identified sale hsale)
      obtain ⟨row, hentry, hshows⟩ := exists_entry hcosts hreturns hfirst hkey
      refine ⟨key, _, hkey, get?_of_first hreturns hfit.apart hfirst hentry, ?_⟩
      cases hstored : tables.orderSourceProduct.get? key with
      | none => exact ⟨hshows.title, hshows.quantity, hshows.price⟩
      | some stored =>
        exact (shows_resync_iff hshows stored).mpr (hfit.first sale hfirst key stored hkey hstored)
    · obtain ⟨key, row, hkey, hget, hshown⟩ := hfit.later sale hlater
      rw [← get?_of_later hreturns hfit.apart hlater hkey] at hget
      exact ⟨key, row, hkey, hget, hshown⟩

end Run

/-! ## Samples -/

/-- A single of a cent. -/
def sampleLine (legacyItemId title : String) : LineItem :=
  ⟨some legacyItemId, some title, some ⟨some "0.01", some "USD"⟩, some 1⟩

theorem isSome_saleRow?_sampleLine (call : SyncCall) (order : Order)
    (legacyItemId title : String) :
    (saleRow? call order (sampleLine legacyItemId title) 1).isSome := by
  have hquantity : lineQuantity (sampleLine legacyItemId title) = 1 := rfl
  have hlength : ¬ 3 < (lineCurrency (sampleLine legacyItemId title)).length := by
    have hcurrency : lineCurrency (sampleLine legacyItemId title) = "USD" := rfl
    rw [hcurrency]
    decide
  simp [saleRow?, hquantity, hlength, cents?, quantity?]

/-- A run of the sample raises nothing when its line items are those of singles. -/
theorem noCallRaises_sampleSync {orders : List Order}
    (hlines : ∀ order ∈ orders, ∀ line ∈ order.lineItems.getD [],
      ∃ legacyItemId title, line = sampleLine legacyItemId title) :
    EachHasCost (sampleSync orders) ∧ NoCallRaises (sampleSync orders) := by
  have hmem : ∀ sale ∈ sales (sampleSync orders),
      ∃ legacyItemId title, sale.line = sampleLine legacyItemId title := by
    intro sale hsale
    obtain ⟨seller, -, hseller⟩ := List.mem_flatMap.mp hsale
    obtain ⟨order, horder, hline⟩ := List.mem_flatMap.mp hseller
    obtain ⟨line, hmem, rfl⟩ := List.mem_map.mp hline
    exact hlines order horder line hmem
  refine ⟨fun sale hsale => ?_, fun _ _ => rfl, fun _ _ _ _ => ⟨rfl, rfl⟩, fun sale hsale => ?_⟩
  · obtain ⟨legacyItemId, title, hline⟩ := hmem sale hsale
    rw [hline]
    rfl
  · refine ⟨rfl, rfl, rfl, fun priceCents hprice => ?_⟩
    obtain ⟨legacyItemId, title, hline⟩ := hmem sale (mem_sales_iff.mpr (Or.inl hsale))
    rw [hline] at hprice ⊢
    obtain rfl := Option.some.inj hprice
    exact isSome_saleRow?_sampleLine _ _ _ _

/-- Two singles of one listing, say in two conditions. -/
def oneListingTwice : SyncCall :=
  sampleSync [⟨some "1", none, none, some [sampleLine "7" "Ponder NM", sampleLine "7" "Ponder LP"]⟩]

theorem one_listing_twice_shares_a_row :
    ¬ ∀ (call : SyncCall) (tables : OrderTables), EachHasCost call → NoCallRaises call →
      StoresEverySale call (syncOwnSales call tables).1 := by
  intro hclaim
  obtain ⟨hcosts, hreturns⟩ : EachHasCost oneListingTwice ∧ NoCallRaises oneListingTwice :=
    noCallRaises_sampleSync (by simp)
  have hstores := hclaim oneListingTwice ⟨.empty, .empty⟩ hcosts hreturns
  have hnodup := hstores.apart
  revert hnodup
  decide

/-- Singles of two listings. -/
def twoListings : SyncCall :=
  sampleSync [⟨some "1", none, none, some [sampleLine "7" "Ponder", sampleLine "8" "Brainstorm"]⟩]

theorem storesEverySale_twoListings :
    StoresEverySale twoListings (syncOwnSales twoListings ⟨.empty, .empty⟩).1 := by
  obtain ⟨hcosts, hreturns⟩ : EachHasCost twoListings ∧ NoCallRaises twoListings :=
    noCallRaises_sampleSync (by simp)
  have hapart : ((sales twoListings).map Sale.key?).Nodup := by decide
  have hlater : laterPages twoListings = [] := rfl
  refine (storesEverySale_iff hcosts hreturns).mpr ⟨by decide, hapart, ?_, ?_⟩
  · intro sale _ key row _ hget
    cases hget
  · intro sale hsale
    rw [hlater] at hsale
    cases hsale

end AutoMana.Ebay
