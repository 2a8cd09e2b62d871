import AutoMana.Ebay.SalesStored
import AutoMana.Json
import Mathlib.Data.Fintype.EquivFin

/-!
# Sales of listed cards

The from-card endpoint records the listing of a card, so that the sync can book its sales on the
card. It looks for the item id below `AddItemResponse`, but its call is `AddFixedPriceItem`; and
the insert names a column that `language_ref` lacks. So no listing is ever recorded, and a sale
is booked on the card only when a row of the item id was there before.
-/

namespace AutoMana.Ebay.ListedSales

open Relational Pricing

/-! ## The insert -/

/-- The codes and ids of `card_condition`, `card_finished` and `language_ref`. -/
structure Reference where
  conditions : List (String × Nat)
  finishes : List (String × Nat)
  languages : List (String × Nat)

/-- The columns of `card_catalog.language_ref`. -/
def languageRefColumns : List String := ["language_id", "language_code", "language_name"]

/-- A subselect of an id: `NULL` without a row, and refused with several. -/
def subselect (rows : List (String × Nat)) (wanted : String → Bool) : Except String (Option Nat) :=
  match rows.filter fun row => wanted row.1 with
  | [] => .ok none
  | [row] => .ok (some row.2)
  | _ => .error "more than one row returned by a subquery used as an expression"

/-- `UPPER(code) = UPPER($n)` -/
def sameUpper (wanted code : String) : Bool := code.toUpper = wanted.toUpper

/-- The body of the endpoint, and its query and header. -/
structure FromCard where
  idempotencyKey : Option String
  appCode : String
  cardVersionId : CardVersionId
  condition : String
  foil : Bool
  lang : String
  marketplaceId : String
  /-- What `build_and_create` returns; `none` when it raises. -/
  result : Option Json

def finishCode (foil : Bool) : String := if foil then "FOIL" else "NONFOIL"

/-- `UPSERT_ACTIVE_LISTING`: the language is selected `WHERE code = $6`. -/
def upsertActiveListing (reference : Reference) (listings : Table String ActiveListing)
    (itemId : String) (call : FromCard) : Except String (Table String ActiveListing) :=
  if "code" ∉ languageRefColumns then .error "column \"code\" does not exist"
  else do
    let conditionId ← subselect reference.conditions (sameUpper call.condition)
    let finishId ← subselect reference.finishes (sameUpper (finishCode call.foil))
    let languageId ← subselect reference.languages (· = call.lang)
    return listings.insertMissing [(itemId,
      ⟨call.cardVersionId, conditionId, finishId, languageId, some call.marketplaceId⟩)]

/-! ## The endpoint -/

/-- `result.get("AddItemResponse", {}).get("ItemID")`, if these are dictionaries. -/
def ebayItemId (result : Json) : Json :=
  ((result.get? "AddItemResponse" (.dict [])).bind (·.get? "ItemID" .null)).getD .null

/-- `track_active_listing`. Only a text can be bound to the item id. -/
def trackActiveListing (reference : Reference) (listings : Table String ActiveListing)
    (itemId : Json) (call : FromCard) : Except String (Table String ActiveListing) :=
  match itemId with
  | .str itemId => upsertActiveListing reference listings itemId call
  | _ => .error "expected str"

/-- `build_and_create_listing`: that the listing is not recorded is only logged. -/
def buildAndCreateListing (reference : Reference) (listings : Table String ActiveListing)
    (call : FromCard) : Table String ActiveListing :=
  match call.idempotencyKey.filter (· ≠ ""), call.result with
  | some _, some result =>
    if (ebayItemId result).truthy then
      match trackActiveListing reference listings (ebayItemId result) call with
      | .ok next => next
      | .error _ => listings
    else listings
  | _, _ => listings

/-! ## Endpoint calls and syncs -/

structure World where
  activeListings : Table String ActiveListing
  tables : OrderTables

/-- What does not change: the reference tables, and the source products of eBay. -/
structure Catalog where
  reference : Reference
  sourceProduct : CardVersionId → Option SourceProductId

inductive Event where
  | fromCard (call : FromCard)
  /-- The turn of a sync for an order of a seller. -/
  | order (sync : SyncCall) (seller : Seller) (order : Order)

/-- A sync reads the tables as they are. -/
def syncOn (catalog : Catalog) (world : World) (sync : SyncCall) : SyncCall :=
  { sync with
    activeListings := world.activeListings
    ensureSourceProduct := catalog.sourceProduct }

def step (catalog : Catalog) (world : World) : Event → World
  | .fromCard call =>
    { world with
      activeListings := buildAndCreateListing catalog.reference world.activeListings call }
  | .order sync seller order =>
    { world with
      tables := (syncOrder (syncOn catalog world sync) seller world.tables order).1 }

/-! ## What is claimed, and the condition -/

/-- The reply of `AddFixedPriceItem`, with an item id. -/
def Carries (call : FromCard) (itemId : String) : Prop :=
  itemId ≠ "" ∧ ∃ fields, call.result = some (.dict [("AddFixedPriceItemResponse", .dict fields)]) ∧
    fields.lookup "ItemID" = some (.str itemId)

/-- The ids of the condition, the finish and the language that were listed. -/
structure Listed (reference : Reference) (call : FromCard) (conditionId finishId languageId : Nat) :
    Prop where
  condition : subselect reference.conditions (sameUpper call.condition) = .ok (some conditionId)
  finish : subselect reference.finishes (sameUpper (finishCode call.foil)) = .ok (some finishId)
  language : subselect reference.languages (· = call.lang) = .ok (some languageId)

/-- A row has the source product of the card, and the variant that was listed. -/
def Books (catalog : Catalog) (call : FromCard) (row : OrderSourceProduct) : Prop :=
  row.sourceProductId.isSome ∧ row.sourceProductId = catalog.sourceProduct call.cardVersionId ∧
    ∃ conditionId, row.conditionId = some conditionId ∧
      Listed catalog.reference call conditionId row.finishId row.languageId

/-- The table can take the row of a line item, and nothing raises in the turn of its order. -/
structure Storable (sync : SyncCall) (sale : Sale) : Prop where
  validates : sync.faults.validate sale.seller sale.order = false
  status : sync.faults.status sale.seller sale.order = false
  lines : ∀ line ∈ sale.order.lineItems.getD [], LineReturns sync ⟨sale.seller, sale.order, line⟩
  line : sale.line ∈ sale.order.lineItems.getD []
  row : ∃ priceCents, linePrice? sync sale.line = some priceCents ∧
    (saleRow? sync sale.order sale.line priceCents).isSome

/-- After any events, a line item of the item id is stored, and the row of one that is later than
the call books it on the card. -/
structure BookedOnCard (catalog : Catalog) (world : World) (call : FromCard) (itemId : String) :
    Prop where
  stored : ∀ (events : List Event) (sync : SyncCall) (sale : Sale) (key : OrderItemKey),
    sale.key? = some key → key.itemId = itemId →
    Storable (syncOn catalog (events.foldl (step catalog) (step catalog world (.fromCard call)))
      sync)
      sale →
    (((events ++ [Event.order sync sale.seller sale.order]).foldl (step catalog)
      (step catalog world (.fromCard call))).tables.orderSourceProduct.get? key).isSome
  booked : ∀ (events : List Event) (key : OrderItemKey), key.appCode = call.appCode →
    key.itemId = itemId → world.tables.orderSourceProduct.get? key = none → ∀ row,
    (events.foldl (step catalog)
      (step catalog world (.fromCard call))).tables.orderSourceProduct.get? key = some row →
    Books catalog call row

/-- The item id had a row, of a card with that source product and of the variant that is listed;
a finish or language that is missing counts as the first. -/
def ListedBefore (catalog : Catalog) (world : World) (call : FromCard) (itemId : String) : Prop :=
  ∃ listing, world.activeListings.get? itemId = some listing ∧
    (catalog.sourceProduct call.cardVersionId).isSome ∧
    catalog.sourceProduct listing.cardVersionId = catalog.sourceProduct call.cardVersionId ∧
    ∃ conditionId, listing.conditionId.filter (· ≠ 0) = some conditionId ∧
      Listed catalog.reference call conditionId ((listing.finishId.filter (· ≠ 0)).getD 1)
        ((listing.languageId.filter (· ≠ 0)).getD 1)

/-! ## No listing is recorded -/

theorem trackActiveListing_raises (reference : Reference) (listings : Table String ActiveListing)
    (itemId : Json) (call : FromCard) :
    ∃ message, trackActiveListing reference listings itemId call = .error message := by
  cases itemId with
  | str itemId =>
    refine ⟨"column \"code\" does not exist", ?_⟩
    rw [trackActiveListing, upsertActiveListing, if_pos (by decide)]
  | null | bool | number | list | dict => exact ⟨_, rfl⟩

theorem buildAndCreateListing_eq (reference : Reference) (listings : Table String ActiveListing)
    (call : FromCard) : buildAndCreateListing reference listings call = listings := by
  rw [buildAndCreateListing]
  split
  · split_ifs
    · obtain ⟨message, hraises⟩ := trackActiveListing_raises reference listings
        (ebayItemId ‹Json›) call
      rw [hraises]
    · rfl
  · rfl

section Events

variable {catalog : Catalog} {world : World}

theorem step_fromCard (call : FromCard) : step catalog world (.fromCard call) = world := by
  rw [step, buildAndCreateListing_eq]

theorem activeListings_step (event : Event) :
    (step catalog world event).activeListings = world.activeListings := by
  cases event with
  | fromCard call => rw [step_fromCard]
  | order sync seller order => rfl

/-! ## A line item is stored -/

theorem isSome_upsertOrderSourceProduct {table : Table OrderItemKey OrderSourceProduct}
    {key : OrderItemKey} (hstored : (table.get? key).isSome) (other : OrderItemKey)
    (row : OrderSourceProduct) :
    ((upsertOrderSourceProduct table other row).get? key).isSome := by
  rw [get?_upsertOrderSourceProduct]
  split_ifs
  · rfl
  · exact hstored

/-- Every entry that is upserted is stored. -/
theorem isSome_foldl_upsert {entries : List (OrderItemKey × OrderSourceProduct)}
    {key : OrderItemKey} (table : Table OrderItemKey OrderSourceProduct)
    (hstored : (table.get? key).isSome ∨ ∃ row, (key, row) ∈ entries) :
    ((entries.foldl (fun table entry => upsertOrderSourceProduct table entry.1 entry.2)
      table).get? key).isSome := by
  induction entries generalizing table with
  | nil => simpa using hstored
  | cons entry rest ih =>
    refine ih _ ?_
    rcases hstored with hstored | ⟨row, hrow⟩
    · exact Or.inl (isSome_upsertOrderSourceProduct hstored _ _)
    · rcases List.mem_cons.mp hrow with hfirst | hrest
      · left
        rw [← hfirst, get?_upsertOrderSourceProduct, if_pos rfl]
        rfl
      · exact Or.inr ⟨row, hrest⟩

/-- The turn of an order stores the line items that the table can take. -/
theorem isSome_syncOrder {sync : SyncCall} {sale : Sale} {key : OrderItemKey}
    (hkey : sale.key? = some key) (hstorable : Storable sync sale) (tables : OrderTables) :
    ((syncOrder sync sale.seller tables sale.order).1.orderSourceProduct.get? key).isSome := by
  obtain ⟨priceCents, hprice, hrow⟩ := hstorable.row
  obtain ⟨row, hrow⟩ := Option.isSome_iff_exists.mp hrow
  have hentry : keyedRow? sync sale = some (key, row) := by
    rw [keyedRow?, hkey, hprice]
    simp [hrow]
  have hsale : sale ∈ salesOfOrders sale.seller [sale.order] := by
    rw [salesOfOrders, List.flatMap_singleton, List.mem_map]
    exact ⟨sale.line, hstorable.line, rfl⟩
  rw [syncOrder_of_returns hstorable.validates hstorable.status hstorable.lines]
  exact isSome_foldl_upsert _ (Or.inr ⟨row, List.mem_filterMap.mpr ⟨sale, hsale, hentry⟩⟩)

/-! ## What a line item of the item id is booked on -/

variable {call : FromCard} {itemId : String}

theorem listing?_syncOn (hid : itemId ≠ "") {line : LineItem}
    (hline : line.legacyItemId.getD "" = itemId) (sync : SyncCall) :
    listing? (syncOn catalog world sync) line = world.activeListings.get? itemId := by
  have hsome : line.legacyItemId = some itemId := by
    cases hlegacy : line.legacyItemId with
    | none =>
      rw [hlegacy] at hline
      exact absurd hline.symm hid
    | some other =>
      rw [hlegacy] at hline
      exact congrArg some hline
  rw [listing?, hsome, Option.filter_some, if_pos (by simpa using hid), Option.bind_some]
  rfl

/-- What a row shows of the listing and of the card. -/
theorem saleRow?_spec {sync : SyncCall} {order : Order} {line : LineItem} {priceCents : Int}
    {row : OrderSourceProduct} (hrow : saleRow? sync order line priceCents = some row) :
    row.sourceProductId = (resolveCardVersion sync line).bind sync.ensureSourceProduct ∧
      row.conditionId = ((listing? sync line).bind (·.conditionId)).filter (· ≠ 0) ∧
      row.finishId = (((listing? sync line).bind (·.finishId)).filter (· ≠ 0)).getD 1 ∧
      row.languageId = (((listing? sync line).bind (·.languageId)).filter (· ≠ 0)).getD 1 := by
  simp only [saleRow?, Option.bind_eq_bind, Option.bind_eq_some_iff] at hrow
  obtain ⟨_, -, _, -, hrow⟩ := hrow
  split_ifs at hrow
  obtain rfl := Option.some.inj hrow
  exact ⟨rfl, rfl, rfl, rfl⟩

/-- A new row of a line item books it on the card exactly when the item id had a row before. -/
theorem books_saleRow?_iff (hid : itemId ≠ "") {sync : SyncCall} {order : Order} {line : LineItem}
    (hline : line.legacyItemId.getD "" = itemId) {priceCents : Int} {row : OrderSourceProduct}
    (hrow : saleRow? (syncOn catalog world sync) order line priceCents = some row) :
    Books catalog call row ↔ ListedBefore catalog world call itemId := by
  obtain ⟨hproduct, hcondition, hfinish, hlanguage⟩ := saleRow?_spec hrow
  have hlisting : listing? (syncOn catalog world sync) line = world.activeListings.get? itemId :=
    listing?_syncOn hid hline sync
  rw [hlisting] at hcondition hfinish hlanguage
  rw [Books, ListedBefore, hproduct, hcondition, hfinish, hlanguage, resolveCardVersion, hlisting]
  cases hactive : world.activeListings.get? itemId with
  | none =>
    constructor
    · rintro ⟨-, -, conditionId, hnone, -⟩
      cases hnone
    · rintro ⟨listing, hnone, -⟩
      cases hnone
  | some listing =>
    simp only [Option.bind_some]
    constructor
    · rintro ⟨hsome, hsame, hvariant⟩
      have hsame : catalog.sourceProduct listing.cardVersionId =
        catalog.sourceProduct call.cardVersionId := hsame
      exact ⟨listing, rfl, hsame ▸ hsome, hsame, hvariant⟩
    · rintro ⟨other, hother, hsome, hsame, hvariant⟩
      obtain rfl := Option.some.inj hother
      have hproduct : (syncOn catalog world sync).ensureSourceProduct listing.cardVersionId =
        catalog.sourceProduct call.cardVersionId := hsame
      exact ⟨hproduct ▸ hsome, hproduct, hvariant⟩

/-! ## Runs -/

/-- A line item changes no row, or upserts its own. -/
theorem processLineItem_rows (sync : SyncCall) (seller : Seller) (order : Order) (orderId : String)
    (tables : OrderTables) (line : LineItem) :
    (processLineItem sync seller order orderId tables line).1.orderSourceProduct =
        tables.orderSourceProduct ∨
      ∃ priceCents row, saleRow? sync order line priceCents = some row ∧
        (processLineItem sync seller order orderId tables line).1.orderSourceProduct =
          upsertOrderSourceProduct tables.orderSourceProduct
            ⟨orderId, seller.appCode, line.legacyItemId.getD ""⟩ row := by
  rw [processLineItem]
  cases linePrice? sync line with
  | none => exact Or.inl rfl
  | some priceCents =>
    dsimp only
    split_ifs
    · exact Or.inl rfl
    · exact Or.inl rfl
    · exact Or.inl rfl
    · cases hrow : saleRow? sync order line priceCents with
      | none => exact Or.inl rfl
      | some row => exact Or.inr ⟨priceCents, row, hrow, rfl⟩

/-- A loop keeps what each turn keeps. -/
theorem forEach_keeps {S α : Type} {body : S → α → S × Bool} (Inv : S → Prop)
    (hbody : ∀ state item, Inv state → Inv (body state item).1) {state : S} (hinv : Inv state)
    (items : List α) : Inv (forEach body state items).1 := by
  induction items generalizing state with
  | nil => exact hinv
  | cons item rest ih =>
    have hnext := hbody state item hinv
    rw [forEach]
    split
    · rename_i hturn
      rwa [hturn] at hnext
    · rename_i hturn
      rw [hturn] at hnext
      exact ih hnext

/-- The rows of the item id and the app, but those that were there before, book the sale. -/
def NewRowsBook (catalog : Catalog) (call : FromCard) (itemId : String)
    (before after : Table OrderItemKey OrderSourceProduct) : Prop :=
  ∀ key : OrderItemKey, key.appCode = call.appCode → key.itemId = itemId →
    before.get? key = none → ∀ row, after.get? key = some row → Books catalog call row

/-- The first row of a key has the variant, and a later one the source product. -/
theorem newRowsBook_upsert {before after : Table OrderItemKey OrderSourceProduct}
    (hbook : NewRowsBook catalog call itemId before after) {key : OrderItemKey}
    {row : OrderSourceProduct} (hrow : key.itemId = itemId → Books catalog call row) :
    NewRowsBook catalog call itemId before (upsertOrderSourceProduct after key row) := by
  intro other happ hitem hnew stored hstored
  rw [get?_upsertOrderSourceProduct] at hstored
  split_ifs at hstored with hkey
  · subst hkey
    obtain ⟨hsome, hproduct, hvariant⟩ := hrow hitem
    cases hafter : after.get? other with
    | none =>
      rw [hafter] at hstored
      obtain rfl := Option.some.inj hstored
      exact ⟨hsome, hproduct, hvariant⟩
    | some old =>
      rw [hafter] at hstored
      obtain rfl := Option.some.inj hstored
      obtain ⟨-, -, hlisted⟩ := hbook other happ hitem hnew old hafter
      exact ⟨hsome, hproduct, hlisted⟩
  · exact hbook other happ hitem hnew stored hstored

theorem newRowsBook_lines (hid : itemId ≠ "") (hlisted : ListedBefore catalog world call itemId)
    {before : Table OrderItemKey OrderSourceProduct} (sync : SyncCall) (seller : Seller)
    (order : Order) (orderId : String) (tables : OrderTables)
    (hbook : NewRowsBook catalog call itemId before tables.orderSourceProduct)
    (lines : List LineItem) :
    NewRowsBook catalog call itemId before
      (forEach (processLineItem (syncOn catalog world sync) seller order orderId) tables
        lines).1.orderSourceProduct := by
  refine forEach_keeps (fun tables : OrderTables =>
    NewRowsBook catalog call itemId before tables.orderSourceProduct) ?_ hbook lines
  intro tables line htables
  rcases processLineItem_rows (syncOn catalog world sync) seller order orderId tables line with
    hsame | ⟨priceCents, row, hrow, hupsert⟩
  · rwa [hsame]
  · rw [hupsert]
    exact newRowsBook_upsert htables fun hline => (books_saleRow?_iff hid hline hrow).mpr hlisted

theorem newRowsBook_step (hid : itemId ≠ "") (hlisted : ListedBefore catalog world call itemId)
    {before : Table OrderItemKey OrderSourceProduct}
    (hbook : NewRowsBook catalog call itemId before world.tables.orderSourceProduct)
    (event : Event) :
    NewRowsBook catalog call itemId before
      (step catalog world event).tables.orderSourceProduct := by
  cases event with
  | fromCard other => rwa [step_fromCard]
  | order sync seller order =>
    change NewRowsBook catalog call itemId before
      (syncOrder (syncOn catalog world sync) seller world.tables order).1.orderSourceProduct
    rw [syncOrder]
    split
    · exact hbook
    · split
      · exact hbook
      · apply newRowsBook_lines hid hlisted
        exact hbook

theorem listedBefore_congr {other : World} (hsame : other.activeListings = world.activeListings) :
    ListedBefore catalog other call itemId ↔ ListedBefore catalog world call itemId := by
  rw [ListedBefore, ListedBefore, hsame]

theorem newRowsBook_foldl (hid : itemId ≠ "") (hlisted : ListedBefore catalog world call itemId)
    {before : Table OrderItemKey OrderSourceProduct}
    (hbook : NewRowsBook catalog call itemId before world.tables.orderSourceProduct)
    (events : List Event) :
    NewRowsBook catalog call itemId before
      (events.foldl (step catalog) world).tables.orderSourceProduct := by
  induction events generalizing world with
  | nil => exact hbook
  | cons event rest ih =>
    exact ih ((listedBefore_congr (activeListings_step event)).mpr hlisted)
      (newRowsBook_step hid hlisted hbook event)

/-! ## The condition is needed -/

/-- No row of the item has this order id. -/
theorem exists_new_key (table : Table OrderItemKey OrderSourceProduct) (appCode itemId : String) :
    ∃ orderId, orderId ≠ "" ∧ table.get? ⟨orderId, appCode, itemId⟩ = none := by
  obtain ⟨orderId, hfresh⟩ := Infinite.exists_notMem_finset
    (insert "" ((table.rows.map fun row => row.1.orderId).toFinset))
  rw [Finset.mem_insert, not_or, List.mem_toFinset] at hfresh
  refine ⟨orderId, hfresh.1, ?_⟩
  by_contra hstored
  rw [← ne_eq, Option.ne_none_iff_isSome, ← Table.mem_keys_iff] at hstored
  obtain ⟨row, hrow, hkey⟩ := List.mem_map.mp hstored
  exact hfresh.2 (List.mem_map.mpr ⟨row, hrow, by rw [hkey]⟩)

/-- The sale of one item. -/
def saleOf (appCode orderId itemId : String) : Sale :=
  ⟨⟨1, appCode⟩, ⟨some orderId, none, none, some [sampleLine itemId ""]⟩, sampleLine itemId ""⟩

theorem storable_saleOf (catalog : Catalog) (world : World) (appCode orderId itemId : String) :
    Storable (syncOn catalog world (sampleSync [])) (saleOf appCode orderId itemId) where
  validates := rfl
  status := rfl
  lines _ _ := ⟨rfl, rfl, rfl⟩
  line := List.mem_singleton_self _
  row := ⟨1, rfl, isSome_saleRow?_sampleLine _ _ _ _⟩

theorem key?_saleOf {orderId : String} (horder : orderId ≠ "") (appCode itemId : String) :
    (saleOf appCode orderId itemId).key? = some ⟨orderId, appCode, itemId⟩ := by
  rw [Sale.key?, saleOf, Option.filter_some, if_pos (by simpa using horder)]
  rfl

/-- A new order of one line item is booked on the card exactly when the item id had a row. -/
theorem exists_row_step_saleOf (catalog : Catalog) (call : FromCard) (hid : itemId ≠ "")
    {appCode orderId : String} (horder : orderId ≠ "")
    (hnew : world.tables.orderSourceProduct.get? ⟨orderId, appCode, itemId⟩ = none) :
    ∃ row, (step catalog world (.order (sampleSync []) (saleOf appCode orderId itemId).seller
        (saleOf appCode orderId itemId).order)).tables.orderSourceProduct.get?
          ⟨orderId, appCode, itemId⟩ = some row ∧
      (Books catalog call row ↔ ListedBefore catalog world call itemId) := by
  have hstorable := storable_saleOf catalog world appCode orderId itemId
  obtain ⟨row, hrow⟩ : ∃ row, saleRow? (syncOn catalog world (sampleSync []))
      (saleOf appCode orderId itemId).order (saleOf appCode orderId itemId).line 1 = some row :=
    Option.isSome_iff_exists.mp (isSome_saleRow?_sampleLine _ _ _ _)
  have hprice : linePrice? (syncOn catalog world (sampleSync []))
    (saleOf appCode orderId itemId).line = some 1 := rfl
  have hentry : keyedRow? (syncOn catalog world (sampleSync [])) (saleOf appCode orderId itemId) =
      some (⟨orderId, appCode, itemId⟩, row) := by
    rw [keyedRow?, key?_saleOf horder, hprice]
    simp [hrow]
  have hrows : storeSales (syncOn catalog world (sampleSync [])) world.tables.orderSourceProduct
      [saleOf appCode orderId itemId] =
      upsertOrderSourceProduct world.tables.orderSourceProduct ⟨orderId, appCode, itemId⟩ row := by
    rw [storeSales, List.filterMap_cons_some hentry]
    rfl
  refine ⟨{ row with promotedToObs := false }, ?_, ?_⟩
  · rw [step, syncOrder_of_returns hstorable.validates hstorable.status hstorable.lines]
    change (storeSales _ _ [saleOf appCode orderId itemId]).get? _ = _
    rw [hrows, get?_upsertOrderSourceProduct, if_pos rfl, hnew]
    rfl
  · have hline : (saleOf appCode orderId itemId).line.legacyItemId.getD "" = itemId := rfl
    have hiff : Books catalog call row ↔ ListedBefore catalog world call itemId :=
      books_saleRow?_iff hid hline hrow
    exact hiff

/-- What is booked after the call was booked by a row of the item id that was there before. -/
theorem listedBefore_of_booked (hid : itemId ≠ "")
    (hbooked : BookedOnCard catalog world call itemId) :
    ListedBefore catalog world call itemId := by
  obtain ⟨orderId, horder, hnew⟩ :=
    exists_new_key world.tables.orderSourceProduct call.appCode itemId
  have hworld : step catalog world (.fromCard call) = world := step_fromCard call
  rw [← hworld] at hnew
  obtain ⟨row, hrow, hiff⟩ := exists_row_step_saleOf catalog call hid horder hnew
  rw [hworld] at hnew hiff
  exact hiff.mp (hbooked.booked [.order (sampleSync []) (saleOf call.appCode orderId itemId).seller
    (saleOf call.appCode orderId itemId).order] _ rfl rfl hnew row hrow)

/-- A sale of the item is booked on the card exactly when a row of the item id, with the source
product of the card and the variant that is listed, was there before the call. -/
theorem bookedOnCard_iff (catalog : Catalog) (world : World) {call : FromCard} {itemId : String}
    (hreply : Carries call itemId) :
    BookedOnCard catalog world call itemId ↔ ListedBefore catalog world call itemId := by
  obtain ⟨hid, -⟩ := hreply
  constructor
  · exact listedBefore_of_booked hid
  · intro hlisted
    refine ⟨fun events sync sale key hkey _ hstorable => ?_, fun events => ?_⟩
    · rw [List.foldl_append]
      exact isSome_syncOrder hkey hstorable _
    · rw [step_fromCard]
      refine newRowsBook_foldl hid hlisted (fun key _ _ hnone row hrow => ?_) events
      rw [hnone] at hrow
      cases hrow

end Events

/-! ## Samples -/

def sampleCatalog : Catalog where
  reference := ⟨[("NM", 1)], [("NONFOIL", 1)], [("en", 1)]⟩
  sourceProduct cardVersionId := some cardVersionId

/-- A near mint card is listed under an item id. -/
def sampleCall (itemId : String) : FromCard :=
  ⟨some "key", "app", 1, "NM", false, "en", "15",
    some (.dict [("AddFixedPriceItemResponse", .dict [("ItemID", .str itemId)])])⟩

theorem carries_sampleCall {itemId : String} (hid : itemId ≠ "") :
    Carries (sampleCall itemId) itemId :=
  ⟨hid, _, rfl, rfl⟩

/-- A listing with a new item id is not recorded. -/
theorem new_listing_is_not_booked :
    ¬ ∀ (catalog : Catalog) (world : World) (call : FromCard) (itemId : String),
      Carries call itemId → BookedOnCard catalog world call itemId := by
  intro hclaim
  have hbooked := hclaim sampleCatalog ⟨.empty, .empty, .empty⟩ (sampleCall "7") "7"
    (carries_sampleCall (by decide))
  obtain ⟨listing, hlisting, -⟩ := listedBefore_of_booked (by decide) hbooked
  cases hlisting

/-- A listing of the card that was recorded by hand. -/
def recorded : World := ⟨.single "7" ⟨1, some 1, some 1, some 1, some "15"⟩, .empty, .empty⟩

theorem recorded_listing_is_booked : BookedOnCard sampleCatalog recorded (sampleCall "7") "7" := by
  refine (bookedOnCard_iff sampleCatalog recorded (carries_sampleCall (by decide))).mpr
    ⟨_, rfl, rfl, rfl, 1, rfl, ?_, ?_, rfl⟩
  · simp [subselect, sameUpper, sampleCatalog, sampleCall]
  · simp [subselect, sameUpper, sampleCatalog, sampleCall, finishCode, Option.filter]

end AutoMana.Ebay.ListedSales
