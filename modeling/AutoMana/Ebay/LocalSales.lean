import AutoMana.Ebay.Orders
import AutoMana.Relational.Dict
import AutoMana.Relational.Pages

/-!
# Pages of local sales

The service asks its repository for the sales of a user under an app. The repository's class
defines the method twice: the first definition takes the user and reads line items, the second
takes no user and reads the orders of the app. The second one is what the class has, so every
call of the service raises.
-/

namespace AutoMana.Ebay.LocalSales

open Relational Pricing

/-! ## Calls by keyword -/

inductive Value where
  | text (value : String)
  | int (value : ℕ)

inductive Raised where
  | attributeError
  | typeError
  /-- A statement is refused. -/
  | postgresError

/-- The parameters of a method after `self`, and those of them that have a default. -/
structure Signature where
  parameters : List String
  optional : List String

/-- A call passes parameters only, and each that has no default. -/
def Signature.accepts (signature : Signature) (arguments : List (String × Value)) : Bool :=
  (arguments.all fun argument => argument.1 ∈ signature.parameters) &&
    signature.parameters.all fun parameter =>
      parameter ∈ arguments.map Prod.fst || parameter ∈ signature.optional

theorem accepts_of_unexpected {signature : Signature} {arguments : List (String × Value)}
    {argument : String × Value} (hmem : argument ∈ arguments)
    (hunexpected : argument.1 ∉ signature.parameters) : signature.accepts arguments = false := by
  rw [Signature.accepts, Bool.and_eq_false_iff]
  left
  rw [List.all_eq_false]
  exact ⟨argument, hmem, by simpa using hunexpected⟩

/-- The attribute of a class: a later definition of a name replaces an earlier one. -/
def attribute? {α : Type} (body : List (String × α)) (name : String) : Option α :=
  (Table.ofPairs body).get? name

/-! ## The tables -/

structure SalesTables where
  orderSourceProduct : Table OrderItemKey OrderSourceProduct
  orderStatus : Table OrderKey OrderStatus
  /-- The foreign key to `ebay_order_status`. -/
  hasStatus : ∀ key row, orderSourceProduct.get? key = some row →
    (orderStatus.get? ⟨key.orderId, key.appCode⟩).isSome
  /-- The codes of the apps, by their ids. -/
  appInfo : Table String String
  /-- The users and the ids of their apps. -/
  appUser : List (String × String)

/-- A row of `LIST_LOCAL_SALES`. -/
structure SaleLine where
  orderId : String
  itemId : String
  title : Option String
  quantity : ℕ
  soldPriceCents : ℕ
  currency : String
  buyerUsername : Option String
  marketplaceId : Option String
  soldAt : Timestamp

/-- An item of `line_items`. -/
structure OrderLine where
  legacyItemId : String
  title : Option String
  quantity : ℕ

/-- A row of `GET_LOCAL_SALES_PAGINATED`. -/
structure LocalOrder where
  orderId : String
  localStatus : LocalStatus
  buyerUsername : Option String
  soldAt : Timestamp
  currency : String
  totalPriceCents : ℕ
  lineItems : List OrderLine

/-- How the server orders the rows of each statement: by the time, the newest first. -/
structure Plan where
  lines : List SaleLine → List SaleLine
  lines_perm : ∀ rows, (lines rows).Perm rows
  lines_newest : ∀ rows, (lines rows).Pairwise fun row later => later.soldAt ≤ row.soldAt
  orders : List LocalOrder → List LocalOrder
  orders_perm : ∀ rows, (orders rows).Perm rows
  orders_newest : ∀ rows, (orders rows).Pairwise fun row later => later.soldAt ≤ row.soldAt

/-! ## The first definition -/

/-- The links of the user to the app. -/
def links (tables : SalesTables) (userId appCode : String) : List (String × String) :=
  (tables.appInfo.rows.filter (·.2 = appCode)).flatMap fun info =>
    tables.appUser.filter (· = (userId, info.1))

def Linked (tables : SalesTables) (userId appCode : String) : Prop :=
  ∃ appId, tables.appInfo.get? appId = some appCode ∧ (userId, appId) ∈ tables.appUser

/-- The line items of an app. -/
def linesOfApp (tables : SalesTables) (appCode : String) :
    List (OrderItemKey × OrderSourceProduct) :=
  tables.orderSourceProduct.rows.filter (·.1.appCode = appCode)

def saleLine (row : OrderItemKey × OrderSourceProduct) : SaleLine where
  orderId := row.1.orderId
  itemId := row.1.itemId
  title := row.2.title
  quantity := row.2.quantity
  soldPriceCents := row.2.soldPriceCents
  currency := row.2.currency
  buyerUsername := row.2.buyerUsername
  marketplaceId := row.2.marketplaceId
  soldAt := row.2.soldAt

/-- `LIST_LOCAL_SALES` without its limit, in some order. -/
def userLines (tables : SalesTables) (userId appCode : String) : List SaleLine :=
  (linesOfApp tables appCode).flatMap fun row =>
    (links tables userId appCode).map fun _ => saleLine row

/-- `list_local_sales(self, user_id, app_code, limit, offset)`; the total is in the rows. -/
def listLocalSalesOfUser (plan : Plan) (tables : SalesTables) (userId appCode : String)
    (limit offset : ℕ) : List SaleLine × ℕ :=
  let rows := page (plan.lines (userLines tables userId appCode)) limit offset
  (rows, if rows.isEmpty then 0 else (userLines tables userId appCode).length)

/-! ## The second definition -/

/-- `MAX` of texts. -/
def greatest (texts : List String) : Option String :=
  texts.foldl (fun best text => some (best.elim text fun old => if old < text then text else old))
    none

/-- The orders of an app. -/
def orderIds (tables : SalesTables) (appCode : String) : List String :=
  ((linesOfApp tables appCode).map (·.1.orderId)).dedup

/-- The group of an order, which the join gives its status. -/
def localOrder? (tables : SalesTables) (appCode orderId : String) : Option LocalOrder := do
  let status ← tables.orderStatus.get? ⟨orderId, appCode⟩
  let lines := (linesOfApp tables appCode).filter (·.1.orderId = orderId)
  let soldAt ← (lines.map (·.2.soldAt)).max?
  let currency ← greatest (lines.map (·.2.currency))
  return {
    orderId
    localStatus := status.localStatus
    buyerUsername := greatest (lines.filterMap (·.2.buyerUsername))
    soldAt
    currency
    totalPriceCents := (lines.map (·.2.soldPriceCents)).sum
    lineItems := lines.map fun row => ⟨row.1.itemId, row.2.title, row.2.quantity⟩ }

/-- `GET_LOCAL_SALES_PAGINATED` without its limit, in some order. -/
def localOrders (tables : SalesTables) (appCode : String) : List LocalOrder :=
  (orderIds tables appCode).filterMap (localOrder? tables appCode)

/-- `list_local_sales(self, app_code, limit, offset)`. A sum that is no `INT` is refused. -/
def listLocalSalesOfApp (plan : Plan) (tables : SalesTables) (appCode : String)
    (limit offset : ℕ) : Except Raised (List LocalOrder × ℕ) :=
  if (localOrders tables appCode).any fun order => 2147483647 < order.totalPriceCents then
    .error .postgresError
  else
    .ok (page (plan.orders (localOrders tables appCode)) limit offset,
      (orderIds tables appCode).length)

/-! ## The class and the service -/

/-- An item of the answer. -/
inductive Item where
  | line (row : SaleLine)
  | order (row : LocalOrder)

def Item.orderId : Item → String
  | .line row => row.orderId
  | .order row => row.orderId

/-- The two definitions of `list_local_sales`. -/
inductive Definition where
  | ofUser
  | ofApp

def Definition.signature : Definition → Signature
  | .ofUser => ⟨["user_id", "app_code", "limit", "offset"], ["limit", "offset"]⟩
  | .ofApp => ⟨["app_code", "limit", "offset"], []⟩

/-- The definitions of the name in the body of `EbaySalesRepository`, in their order. -/
def classBody : List (String × Definition) :=
  [("list_local_sales", .ofUser), ("list_local_sales", .ofApp)]

/-- A body with its arguments bound; values of other types are refused. -/
def Definition.run (definition : Definition) (plan : Plan) (tables : SalesTables)
    (arguments : List (String × Value)) : Except Raised (List Item × ℕ) :=
  match definition, arguments.lookup "user_id", arguments.lookup "app_code",
    (arguments.lookup "limit").getD (.int 25), (arguments.lookup "offset").getD (.int 0) with
  | .ofUser, some (.text userId), some (.text appCode), .int limit, .int offset =>
    let read := listLocalSalesOfUser plan tables userId appCode limit offset
    .ok (read.1.map .line, read.2)
  | .ofApp, _, some (.text appCode), .int limit, .int offset =>
    (listLocalSalesOfApp plan tables appCode limit offset).map fun read =>
      (read.1.map .order, read.2)
  | _, _, _, _, _ => .error .postgresError

/-- `ebay_sales_repository.name(...)` -/
def callRepository (plan : Plan) (tables : SalesTables) (name : String)
    (arguments : List (String × Value)) : Except Raised (List Item × ℕ) :=
  match attribute? classBody name with
  | none => .error .attributeError
  | some definition =>
    if definition.signature.accepts arguments then definition.run plan tables arguments
    else .error .typeError

structure Listed where
  items : List Item
  total : ℕ
  hasMore : Bool

/-- `list_local_sales` of the service. -/
def listLocalSales (plan : Plan) (tables : SalesTables) (userId appCode : String)
    (limit offset : ℕ) : Except Raised Listed :=
  (callRepository plan tables "list_local_sales" [("user_id", .text userId),
    ("app_code", .text appCode), ("limit", .int limit), ("offset", .int offset)]).map fun read =>
      ⟨read.1, read.2, decide (offset + read.1.length < read.2)⟩

/-! ## What is claimed -/

/-- The orders of the accounts of a user under an app. -/
def ordersOf (tables : SalesTables) (userId appCode : String) : List String :=
  if (links tables userId appCode).isEmpty then [] else orderIds tables appCode

/-- The items of the pages at `0`, `limit`, `2 * limit`, and so on. -/
def itemsOfPages (plan : Plan) (tables : SalesTables) (userId appCode : String)
    (limit count : ℕ) : List Item :=
  (List.range count).flatMap fun index =>
    match listLocalSales plan tables userId appCode limit (index * limit) with
    | .ok listed => listed.items
    | .error _ => []

structure PagesExact (plan : Plan) (tables : SalesTables) (userId appCode : String) (limit : ℕ) :
    Prop where
  answers : ∀ index, ∃ listed,
    listLocalSales plan tables userId appCode limit (index * limit) = .ok listed
  once : ∀ count, (ordersOf tables userId appCode).length ≤ count * limit →
    ((itemsOfPages plan tables userId appCode limit count).map Item.orderId).Perm
      (ordersOf tables userId appCode)
  total : ∀ index listed,
    listLocalSales plan tables userId appCode limit (index * limit) = .ok listed →
    listed.total = (ordersOf tables userId appCode).length
  unlinked : ¬ Linked tables userId appCode → ∀ index listed,
    listLocalSales plan tables userId appCode limit (index * limit) = .ok listed →
    listed.items = [] ∧ listed.total = 0

/-! ## What the two definitions read -/

theorem links_eq_nil_iff (tables : SalesTables) (userId appCode : String) :
    links tables userId appCode = [] ↔ ¬ Linked tables userId appCode := by
  rw [links, List.flatMap_eq_nil_iff, Linked]
  simp only [List.filter_eq_nil_iff, List.mem_filter, decide_eq_true_eq]
  constructor
  · rintro hnone ⟨appId, hinfo, huser⟩
    exact hnone (appId, appCode) ⟨(Table.mem_rows_iff _ _ _).mpr hinfo, rfl⟩ _ huser rfl
  · rintro hnone ⟨appId, code⟩ ⟨hinfo, rfl⟩ link huser rfl
    exact hnone ⟨appId, (Table.mem_rows_iff _ _ _).mp hinfo, huser⟩

/-- The first definition shows nothing to a user without the app. -/
theorem listLocalSalesOfUser_of_unlinked (plan : Plan) {tables : SalesTables}
    {userId appCode : String} (hunlinked : ¬ Linked tables userId appCode) (limit offset : ℕ) :
    listLocalSalesOfUser plan tables userId appCode limit offset = ([], 0) := by
  have hlines : userLines tables userId appCode = [] := by
    rw [userLines, (links_eq_nil_iff tables userId appCode).mpr hunlinked]
    simp
  have hnone : plan.lines [] = [] := (plan.lines_perm []).eq_nil
  rw [listLocalSalesOfUser, hlines, hnone, page, List.drop_nil, List.take_nil]
  rfl

theorem isSome_greatest {texts : List String} (htexts : texts ≠ []) :
    (greatest texts).isSome := by
  obtain ⟨rest, last, rfl⟩ := (List.eq_nil_or_concat texts).resolve_left htexts
  rw [greatest, List.concat_eq_append, List.foldl_append]
  rfl

theorem orderId_of_localOrder? {tables : SalesTables} {appCode orderId : String}
    {order : LocalOrder} (horder : localOrder? tables appCode orderId = some order) :
    order.orderId = orderId := by
  simp only [localOrder?, Option.bind_eq_bind, Option.bind_eq_some_iff] at horder
  obtain ⟨_, -, _, -, _, -, horder⟩ := horder
  rw [← Option.some.inj horder]

/-- Every order of an app has a group, as its line items have a status. -/
theorem exists_localOrder {tables : SalesTables} {appCode orderId : String}
    (horder : orderId ∈ orderIds tables appCode) :
    ∃ order, localOrder? tables appCode orderId = some order ∧ order.orderId = orderId := by
  obtain ⟨row, hrow, rfl⟩ := List.mem_map.mp (List.mem_dedup.mp horder)
  have hgroup : row ∈ (linesOfApp tables appCode).filter (·.1.orderId = row.1.orderId) :=
    List.mem_filter.mpr ⟨hrow, by simp⟩
  obtain ⟨hstored, happ⟩ := List.mem_filter.mp hrow
  have hstatus := tables.hasStatus row.1 row.2 ((Table.mem_rows_iff _ _ _).mp hstored)
  rw [of_decide_eq_true happ] at hstatus
  obtain ⟨status, hstatus⟩ := Option.isSome_iff_exists.mp hstatus
  have hne := List.ne_nil_of_mem hgroup
  obtain ⟨soldAt, hsoldAt⟩ := Option.isSome_iff_exists.mp
    (List.isSome_max?_of_mem (List.mem_map_of_mem hgroup : _ ∈ List.map (·.2.soldAt) _))
  have hcurrencies : ((linesOfApp tables appCode).filter (·.1.orderId = row.1.orderId)).map
      (·.2.currency) ≠ [] := by
    rwa [ne_eq, List.map_eq_nil_iff]
  obtain ⟨currency, hcurrency⟩ := Option.isSome_iff_exists.mp (isSome_greatest hcurrencies)
  have hsome : (localOrder? tables appCode row.1.orderId).isSome := by
    rw [localOrder?, hstatus]
    simp [hsoldAt, hcurrency]
  obtain ⟨order, horder⟩ := Option.isSome_iff_exists.mp hsome
  exact ⟨order, horder, orderId_of_localOrder? horder⟩

theorem map_filterMap_eq_self {α β : Type} {f : α → Option β} {g : β → α} {items : List α}
    (hitems : ∀ item ∈ items, ∃ value, f item = some value ∧ g value = item) :
    (items.filterMap f).map g = items := by
  induction items with
  | nil => rfl
  | cons item rest ih =>
    obtain ⟨⟨value, hvalue, hback⟩, hrest⟩ := List.forall_mem_cons.mp hitems
    rw [List.filterMap_cons_some hvalue, List.map_cons, hback, ih hrest]

/-- The second definition counts the rows that it pages. -/
theorem orderId_localOrders (tables : SalesTables) (appCode : String) :
    (localOrders tables appCode).map (·.orderId) = orderIds tables appCode :=
  map_filterMap_eq_self fun _ horder => exists_localOrder horder

/-- The pages of the second definition have each order of the app once, whoever asks, when no
sum overflows and the server orders equal times alike for every page. -/
theorem listLocalSalesOfApp_pages (plan : Plan) {tables : SalesTables} {appCode : String}
    (hsums : ∀ order ∈ localOrders tables appCode, order.totalPriceCents ≤ 2147483647)
    {limit count : ℕ} (hcount : (orderIds tables appCode).length ≤ count * limit) :
    ∃ rows, (∀ offset, listLocalSalesOfApp plan tables appCode limit offset =
        .ok (page rows limit offset, (orderIds tables appCode).length)) ∧
      ((pages rows limit count).map (·.orderId)).Perm (orderIds tables appCode) := by
  have hnone : ¬ ((localOrders tables appCode).any fun order =>
      decide (2147483647 < order.totalPriceCents)) = true := by
    rw [List.any_eq_true]
    rintro ⟨order, horder, hover⟩
    exact absurd (hsums order horder) (by simpa using hover)
  have hperm := plan.orders_perm (localOrders tables appCode)
  refine ⟨plan.orders (localOrders tables appCode), fun offset => ?_, ?_⟩
  · rw [listLocalSalesOfApp, if_neg hnone]
  · have hlength : (plan.orders (localOrders tables appCode)).length ≤ count * limit := by
      rw [hperm.length_eq, ← List.length_map (·.orderId), orderId_localOrders]
      exact hcount
    rw [pages_eq_self hlength, ← orderId_localOrders tables appCode]
    exact hperm.map _

/-! ## The service -/

/-- The class has the second definition. -/
theorem attribute?_classBody : attribute? classBody "list_local_sales" = some .ofApp := rfl

/-- The service passes the user to a method that takes none. -/
theorem listLocalSales_raises (plan : Plan) (tables : SalesTables) (userId appCode : String)
    (limit offset : ℕ) :
    listLocalSales plan tables userId appCode limit offset = .error .typeError := by
  have hrefuses : Definition.ofApp.signature.accepts [("user_id", .text userId),
      ("app_code", .text appCode), ("limit", .int limit), ("offset", .int offset)] = false := by
    have hunexpected : "user_id" ∉ Definition.ofApp.signature.parameters := by decide
    exact accepts_of_unexpected List.mem_cons_self hunexpected
  rw [listLocalSales, callRepository, attribute?_classBody]
  simp only [hrefuses, Bool.false_eq_true, if_false]
  rfl

/-- No page of local sales is ever returned. -/
theorem not_pagesExact (plan : Plan) (tables : SalesTables) (userId appCode : String)
    (limit : ℕ) : ¬ PagesExact plan tables userId appCode limit := by
  intro hexact
  obtain ⟨listed, hlisted⟩ := hexact.answers 0
  rw [listLocalSales_raises] at hlisted
  cases hlisted

/-! ## A sample -/

/-- The newest first, and of equal times the one that is stored first. -/
def newestFirst {α : Type} (soldAt : α → Timestamp) (rows : List α) : List α :=
  rows.mergeSort fun row later => soldAt later ≤ soldAt row

theorem pairwise_newestFirst {α : Type} (soldAt : α → Timestamp) (rows : List α) :
    (newestFirst soldAt rows).Pairwise fun row later => soldAt later ≤ soldAt row := by
  have htrans : ∀ first second third, decide (soldAt second ≤ soldAt first) →
      decide (soldAt third ≤ soldAt second) → decide (soldAt third ≤ soldAt first) := by
    intro first second third hfirst hsecond
    exact decide_eq_true ((of_decide_eq_true hsecond).trans (of_decide_eq_true hfirst))
  have htotal : ∀ first second,
      decide (soldAt second ≤ soldAt first) || decide (soldAt first ≤ soldAt second) := by
    intro first second
    simpa using le_total (soldAt second) (soldAt first)
  exact (List.pairwise_mergeSort htrans htotal rows).imp of_decide_eq_true

def samplePlan : Plan where
  lines := newestFirst (·.soldAt)
  lines_perm := fun _ => List.mergeSort_perm _ _
  lines_newest := pairwise_newestFirst _
  orders := newestFirst (·.soldAt)
  orders_perm := fun _ => List.mergeSort_perm _ _
  orders_newest := pairwise_newestFirst _

/-- One sale of an app that the user is linked to. -/
def oneSale : SalesTables where
  orderSourceProduct := .single ⟨"o", "app", "7"⟩
    ⟨some "Ponder", none, 1, 100, "USD", 1, none, 1, 0, none, false, none⟩
  orderStatus := .single ⟨"o", "app"⟩ ⟨.sold, none, none, none⟩
  hasStatus := by
    intro key row hrow
    rw [Table.get?_single] at hrow
    split_ifs at hrow with hkey
    rw [hkey]
    rfl
  appInfo := .single "1" "app"
  appUser := [("user", "1")]

theorem one_sale_is_not_listed :
    ¬ ∀ (plan : Plan) (tables : SalesTables) (userId appCode : String) (limit : ℕ),
      PagesExact plan tables userId appCode limit := by
  intro hclaim
  obtain ⟨listed, hlisted⟩ := (hclaim samplePlan oneSale "user" "app" 25).answers 0
  rw [listLocalSales_raises] at hlisted
  cases hlisted

end AutoMana.Ebay.LocalSales
