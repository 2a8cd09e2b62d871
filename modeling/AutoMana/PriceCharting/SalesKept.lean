import AutoMana.PriceCharting.StageSold
import AutoMana.Relational.Batches
import AutoMana.Staging.Locality

/-!
# Sales that stay rows

The item id of a sale is made of its product, date, price, and title. So the sales of a
product keep one row for each date, price, and title among them, however often they are
staged; sales that differ in their grade or marketplace only share a row.
-/

namespace AutoMana.PriceCharting

open Relational Pricing Ebay
open Staging (ensureProducts productLookup productLookup_of_ensure ensureProducts_of_ensured
  sampleSupply)

/-- The accepted sales of all files, in the order in which they are staged. -/
def acceptedSales (call : StageCall) (cardMap : Table String CardMapRow) : List AcceptedSale :=
  match call.storage "sets.json" with
  | none => []
  | some sets => ((collectSales call (fetchMatchedMap cardMap) sets).getD []).flatten

/-- What the item id is made of. -/
def identity (sale : AcceptedSale) : String × String × Int × String :=
  (sale.productId, sale.soldAt.isoformat, sale.priceCents, sale.title)

/-- No two sales have one item id unless it is made of the same. -/
def CollisionFree (accepted : List AcceptedSale) : Prop :=
  ∀ sale ∈ accepted, ∀ other ∈ accepted, sale.itemId = other.itemId →
    identity sale = identity other

def salesOf (accepted : List AcceptedSale) (product : String) : List AcceptedSale :=
  accepted.filter (·.productId = product)

/-- The rows of the sales of a product. -/
def rowsOf (accepted : List AcceptedSale) (product : String)
    (scrapedSold : Table String ScrapedSold) : List (String × ScrapedSold) :=
  scrapedSold.rows.filter fun row => row.1 ∈ (salesOf accepted product).map (·.itemId)

/-- The sales of each product have as many rows as there are sales. -/
def NoSaleSwallowed (accepted : List AcceptedSale) (scrapedSold : Table String ScrapedSold) :
    Prop :=
  ∀ product, (rowsOf accepted product scrapedSold).length = (salesOf accepted product).length

/-! ## What is accepted -/

theorem of_acceptedSale {parsers : Parsers} {productId : String} {cardMatch : CardMatch}
    {sale : Json} {row : AcceptedSale}
    (haccepted : acceptedSale? parsers productId cardMatch sale = some (some row)) :
    row.productId = productId ∧
      row.itemId = buildItemId parsers productId row.soldAt row.priceCents row.title := by
  simp only [acceptedSale?, Option.bind_eq_bind, Option.bind_eq_some_iff] at haccepted
  obtain ⟨date, -, title, -, grade, -, source, -, price, -, hrow⟩ := haccepted
  split at hrow
  · cases hrow
  · cases hrow
  · obtain ⟨title, -, cents, -, condition, -, marketplace, -, hrow⟩ :=
      by simpa only [Option.bind_eq_some_iff] using hrow
    cases hrow
    exact ⟨rfl, rfl⟩

theorem of_mem_productSales {parsers : Parsers} {catalog : Table String CardMatch}
    {product : String × Json} {sales : List AcceptedSale}
    (hsales : productSales? parsers catalog product = some sales) {row : AcceptedSale}
    (hrow : row ∈ sales) :
    (catalog.get? row.productId).isSome ∧
      row.itemId = buildItemId parsers row.productId row.soldAt row.priceCents row.title := by
  rw [productSales?] at hsales
  split at hsales
  · cases hsales
    cases hrow
  · next cardMatch hmatch =>
    simp only [Option.bind_eq_bind, Option.bind_eq_some_iff, Option.map_eq_some_iff] at hsales
    obtain ⟨items, -, rows, hrows, rfl⟩ := hsales
    obtain ⟨sale, -, hsale⟩ := exists_of_mem_mapM hrows (List.reduceOption_mem_iff.mp hrow)
    obtain ⟨hproduct, hid⟩ := of_acceptedSale hsale
    rw [hproduct, hmatch]
    exact ⟨rfl, hid⟩

theorem of_mem_buildAcceptedSales {parsers : Parsers} {salesProducts : Json}
    {catalog : Table String CardMatch} {sales : List AcceptedSale}
    (hsales : buildAcceptedSales parsers salesProducts catalog = some sales) {row : AcceptedSale}
    (hrow : row ∈ sales) :
    (catalog.get? row.productId).isSome ∧
      row.itemId = buildItemId parsers row.productId row.soldAt row.priceCents row.title := by
  unfold buildAcceptedSales at hsales
  split at hsales
  · obtain ⟨products, hproducts, rfl⟩ := Option.map_eq_some_iff.mp hsales
    obtain ⟨product, hmem, hproduct⟩ := List.mem_flatten.mp hrow
    obtain ⟨source, -, hsource⟩ := exists_of_mem_mapM hproducts hmem
    exact of_mem_productSales hsource hproduct
  · rw [Option.ite_none_left_eq_some] at hsales
    obtain ⟨-, hnone⟩ := hsales
    cases hnone
    cases hrow

theorem of_mem_collectSales {call : StageCall} {catalog : Table String CardMatch}
    {sets : Option Json} {sales : List (List AcceptedSale)}
    (hsales : collectSales call catalog sets = some sales) {row : AcceptedSale}
    (hrow : row ∈ sales.flatten) :
    (catalog.get? row.productId).isSome ∧
      row.itemId = buildItemId call.parsers row.productId row.soldAt row.priceCents row.title := by
  simp only [collectSales, Option.bind_eq_bind, Option.bind_eq_some_iff,
    Option.map_eq_some_iff] at hsales
  obtain ⟨_, -, _, -, _, hbySet, rfl⟩ := hsales
  obtain ⟨ofSet, hmem, hrow⟩ := List.mem_flatten.mp hrow
  obtain ⟨setInfo, -, hset⟩ := exists_of_mem_mapM hbySet (List.reduceOption_mem_iff.mp hmem)
  simp only [setSales?, Option.bind_eq_bind, Option.bind_eq_some_iff] at hset
  obtain ⟨uid, -, hset⟩ := hset
  split at hset
  · cases hset
  · simp only [Option.bind_eq_some_iff, Option.map_eq_some_iff, Option.some.injEq] at hset
    obtain ⟨_, -, salesProducts, -, _, hbuilt, rfl⟩ := hset
    exact of_mem_buildAcceptedSales hbuilt hrow

/-- An accepted sale is of a matched product, and its id is what it is built from. -/
theorem of_mem_acceptedSales {call : StageCall} {cardMap : Table String CardMapRow}
    {row : AcceptedSale} (hrow : row ∈ acceptedSales call cardMap) :
    ((fetchMatchedMap cardMap).get? row.productId).isSome ∧
      row.itemId = buildItemId call.parsers row.productId row.soldAt row.priceCents row.title := by
  rw [acceptedSales] at hrow
  split at hrow
  · cases hrow
  · next sets _ =>
    cases hsales : collectSales call (fetchMatchedMap cardMap) sets with
    | none =>
      rw [hsales] at hrow
      cases hrow
    | some sales =>
      rw [hsales] at hrow
      exact of_mem_collectSales hsales hrow

/-- Without collisions, two sales share an id exactly when it is made of the same. -/
theorem itemId_eq_iff {call : StageCall} {cardMap : Table String CardMapRow}
    (hfree : CollisionFree (acceptedSales call cardMap)) {sale other : AcceptedSale}
    (hsale : sale ∈ acceptedSales call cardMap) (hother : other ∈ acceptedSales call cardMap) :
    sale.itemId = other.itemId ↔ identity sale = identity other := by
  constructor
  · exact hfree sale hsale other hother
  · intro hsame
    simp only [identity, Prod.mk.injEq] at hsame
    obtain ⟨hproduct, hdate, hprice, htitle⟩ := hsame
    rw [(of_mem_acceptedSales hsale).2, (of_mem_acceptedSales hother).2]
    simp only [buildItemId, hproduct, hdate, hprice, htitle]

/-! ## What is stored -/

theorem cvToSpid_of_ensure {call : StageCall} {cards : List CardVersionId}
    {products next : Products}
    (hensure : ensureProducts call.supply call.sourceId cards products = some next)
    {card : CardVersionId} (hcard : card ∈ cards) :
    ∃ spid, cvToSpid call next card = some spid := by
  obtain ⟨product, hlookup⟩ := productLookup_of_ensure hensure hcard
  exact ⟨product.2, by rw [cvToSpid, hlookup]; rfl⟩

theorem insertSale_eq_some_iff {call : StageCall} {products : Products} {sale : AcceptedSale}
    {spid : SourceProductId} (hspid : cvToSpid call products sale.cardVersionId = some spid)
    {table next : Table String ScrapedSold} :
    insertSale call products table sale = some next ↔
      ∃ row, scrapedRow? sale spid = some row ∧
        insertScrapedSold table sale.itemId row = next := by
  unfold insertSale
  rw [hspid]
  exact Option.map_eq_some_iff

/-- The insert loop stores every sale, and going through it again changes nothing. -/
theorem stored_of_insertSales {call : StageCall} {products : Products}
    {accepted : List AcceptedSale} {table next : Table String ScrapedSold}
    (hknown : ∀ sale ∈ accepted, ∃ spid, cvToSpid call products sale.cardVersionId = some spid)
    (hinsert : accepted.foldlM (insertSale call products) table = some next) :
    (∀ key, (table.get? key).isSome → (next.get? key).isSome) ∧
      ∀ sale ∈ accepted, (next.get? sale.itemId).isSome ∧
        insertSale call products next sale = some next := by
  induction accepted generalizing table with
  | nil =>
    cases hinsert
    exact ⟨fun _ => id, List.forall_mem_nil _⟩
  | cons sale rest ih =>
    rw [List.foldlM_cons, Option.bind_eq_bind, Option.bind_eq_some_iff] at hinsert
    obtain ⟨between, hfirst, hrest⟩ := hinsert
    obtain ⟨hkept, hothers⟩ :=
      ih (fun other hother => hknown other (List.mem_cons_of_mem _ hother)) hrest
    obtain ⟨spid, hspid⟩ := hknown sale List.mem_cons_self
    obtain ⟨row, hrow, rfl⟩ := (insertSale_eq_some_iff hspid).mp hfirst
    have hsale : (next.get? sale.itemId).isSome := by
      obtain ⟨stored, hstored⟩ :=
        table.exists_get?_insertMissing (List.mem_singleton_self
          (sale.itemId, { row with promotedToObs := false }))
      exact hkept _ (Option.isSome_of_eq_some hstored)
    refine ⟨fun key hkey => hkept key ?_, List.forall_mem_cons.mpr ⟨⟨hsale, ?_⟩, hothers⟩⟩
    · obtain ⟨value, hvalue⟩ := Option.isSome_iff_exists.mp hkey
      exact Option.isSome_of_eq_some (Table.get?_insertMissing_of_stored hvalue _)
    · exact (insertSale_eq_some_iff hspid).mpr ⟨row, hrow, Table.insertMissing_of_stored hsale _⟩

/-- A loop of which no turn changes the state. -/
theorem foldlM_of_fixed {S α : Type} {step : S → α → Option S} {items : List α} {state : S}
    (hfixed : ∀ item ∈ items, step state item = some state) :
    items.foldlM step state = some state := by
  induction items with
  | nil => rfl
  | cons item rest ih =>
    rw [List.foldlM_cons, hfixed item List.mem_cons_self]
    exact ih fun other hother => hfixed other (List.mem_cons_of_mem _ hother)

/-- Without a matched product no sale is accepted. -/
theorem acceptedSales_of_noMatch {cardMap : Table String CardMapRow}
    (hempty : (fetchMatchedMap cardMap).rows.isEmpty) (call : StageCall) :
    acceptedSales call cardMap = [] := by
  rw [List.eq_nil_iff_forall_not_mem]
  intro sale hsale
  have hmatched := (of_mem_acceptedSales hsale).1
  rw [Table.get?, List.isEmpty_iff.mp hempty] at hmatched
  cases hmatched

/-- After staging sales each has a row of its id, and staging them again changes nothing. -/
theorem stored_of_stageAccepted {call : StageCall} {tables next : StageTables} {sets : Nat}
    {accepted : List AcceptedSale} {report : StageReport}
    (hstage : stageAccepted call tables sets accepted = some (next, report)) :
    next.cardMap = tables.cardMap ∧
      (∀ sale ∈ accepted, (next.scrapedSold.get? sale.itemId).isSome) ∧
      stageAccepted call next sets accepted = some (next, report) := by
  have hagain := hstage
  unfold stageAccepted at hstage
  split at hstage
  · next hnone =>
    cases hstage
    refine ⟨rfl, ?_, hagain⟩
    rw [List.isEmpty_iff.mp hnone]
    exact List.forall_mem_nil _
  · next hsome =>
    simp only [Option.bind_eq_bind, Option.bind_eq_some_iff] at hstage
    obtain ⟨products, hproducts, scrapedSold, hinsert, hnext⟩ := hstage
    cases hnext
    have hknown : ∀ sale ∈ accepted,
        ∃ spid, cvToSpid call products sale.cardVersionId = some spid :=
      fun sale hsale => cvToSpid_of_ensure hproducts (List.mem_map_of_mem hsale)
    obtain ⟨-, hstored⟩ := stored_of_insertSales hknown hinsert
    refine ⟨rfl, fun sale hsale => (hstored sale hsale).1, ?_⟩
    unfold stageAccepted
    simp only [if_neg hsome, ensureProducts_of_ensured hproducts, Option.bind_eq_bind,
      Option.bind_some, Option.pure_def, foldlM_of_fixed fun sale hsale => (hstored sale hsale).2]

/-- After staging, every accepted sale has a row of its id, and staging again changes
nothing. -/
theorem stored_of_stageSold {call : StageCall} {tables next : StageTables} {report : StageReport}
    (hstage : stageSold call tables = some (next, report)) :
    (∀ sale ∈ acceptedSales call tables.cardMap, (next.scrapedSold.get? sale.itemId).isSome) ∧
      stageSold call next = some (next, report) := by
  have hagain := hstage
  unfold stageSold at hstage
  split at hstage
  · next hsets =>
    cases hstage
    refine ⟨?_, hagain⟩
    rw [acceptedSales, hsets]
    exact List.forall_mem_nil _
  · next sets hsets =>
    split at hstage
    · next hempty =>
      cases hstage
      refine ⟨?_, hagain⟩
      rw [acceptedSales_of_noMatch hempty]
      exact List.forall_mem_nil _
    · next hmatched =>
      obtain ⟨salesBySet, hcollect, hstage⟩ := Option.bind_eq_some_iff.mp hstage
      have haccepted : acceptedSales call tables.cardMap = salesBySet.flatten := by
        unfold acceptedSales
        rw [hsets]
        exact congrArg (fun sales => (sales.getD []).flatten) hcollect
      obtain ⟨hmap, hstored, hsame⟩ := stored_of_stageAccepted hstage
      refine ⟨?_, ?_⟩
      · rwa [haccepted]
      · unfold stageSold
        rw [hsets, hmap]
        simp only [if_neg hmatched, hcollect, Option.bind_some, hsame]

/-! ## Rows of a product -/

/-- A list has as many different values under two functions that tell the same items apart. -/
theorem length_dedup_map_congr {α β γ : Type} [DecidableEq β] [DecidableEq γ] {items : List α}
    {left : α → β} {right : α → γ}
    (hsame : ∀ item ∈ items, ∀ other ∈ items,
      left item = left other ↔ right item = right other) :
    (items.map left).dedup.length = (items.map right).dedup.length := by
  induction items with
  | nil => rfl
  | cons item rest ih =>
    have hrest := ih fun other hother another hanother =>
      hsame other (List.mem_cons_of_mem _ hother) another (List.mem_cons_of_mem _ hanother)
    have hmem : left item ∈ rest.map left ↔ right item ∈ rest.map right := by
      simp only [List.mem_map]
      refine exists_congr fun other => and_congr_right fun hother => ?_
      exact hsame other (List.mem_cons_of_mem _ hother) item List.mem_cons_self
    rw [List.map_cons, List.map_cons]
    by_cases hseen : left item ∈ rest.map left
    · rw [List.dedup_cons_of_mem hseen, List.dedup_cons_of_mem (hmem.mp hseen), hrest]
    · rw [List.dedup_cons_of_notMem hseen, List.dedup_cons_of_notMem (mt hmem.mpr hseen),
        List.length_cons, List.length_cons, hrest]

/-- A product has a row for each of its different sales. -/
theorem length_rowsOf {call : StageCall} {tables next : StageTables} {report : StageReport}
    (hstage : stageSold call tables = some (next, report))
    (hfree : CollisionFree (acceptedSales call tables.cardMap)) (product : String) :
    (rowsOf (acceptedSales call tables.cardMap) product next.scrapedSold).length =
      ((salesOf (acceptedSales call tables.cardMap) product).map identity).dedup.length := by
  obtain ⟨hstored, -⟩ := stored_of_stageSold hstage
  have hsales : salesOf (acceptedSales call tables.cardMap) product ⊆
      acceptedSales call tables.cardMap := List.filter_subset_self _
  rw [rowsOf, Table.length_filter_keys]
  · apply length_dedup_map_congr
    intro sale hsale other hother
    exact itemId_eq_iff hfree (hsales hsale) (hsales hother)
  · intro key hkey
    obtain ⟨sale, hsale, rfl⟩ := List.mem_map.mp hkey
    exact hstored sale (hsales hsale)

/-- `pricecharting.stage_sold`: every product has a row for each different date, price, and
title of its accepted sales, and staging the same files again changes nothing. -/
theorem stageSold_keeps_different_sales {call : StageCall} {tables next : StageTables}
    {report : StageReport} (hstage : stageSold call tables = some (next, report))
    (hfree : CollisionFree (acceptedSales call tables.cardMap)) :
    (∀ product, (rowsOf (acceptedSales call tables.cardMap) product next.scrapedSold).length =
      ((salesOf (acceptedSales call tables.cardMap) product).map identity).dedup.length) ∧
    stageSold call next = some (next, report) :=
  ⟨length_rowsOf hstage hfree, (stored_of_stageSold hstage).2⟩

/-! ## A sale that was graded, and one that was not -/

def sampleParsers : Parsers where
  toStr
    | .str text => text
    | _ => ""
  re := ⟨Char.isAlphanum, Char.isWhitespace, fun c d => c.toLower = d.toLower⟩
  parseSoldAt
    | .str "2026-01-02" => some ⟨1767312000000000, "2026-01-02T00:00:00+00:00"⟩
    | _ => none
  digest := id

def sampleSale (grade : String) : Json :=
  .dict [("grade", .str grade), ("sold_at", .str "2026-01-02"), ("title", .str "Sol Ring"),
    ("price_cents", .number 100 0), ("source", .str "ebay")]

def sampleStorage : Storage
  | "sets.json" => some (some (.dict [("sets", .list [.dict [("uid", .str "alpha")]])]))
  | "sales/alpha.json" => some (some (.dict [("products", .dict [("1234", .dict [("sales",
      .list [sampleSale "ungraded", sampleSale "grade9"])])])]))
  | _ => none

def sampleCall : StageCall := ⟨sampleParsers, sampleSupply, 3, sampleStorage⟩

def sampleTables : StageTables where
  cardMap := Table.single "1234" ⟨some 7, some 1⟩
  products := ⟨.empty, List.nodup_nil, .empty, List.nodup_nil⟩
  scrapedSold := .empty

def sampleAccepted (conditionId : Nat) : AcceptedSale where
  itemId := buildItemId sampleParsers "1234" ⟨1767312000000000, "2026-01-02T00:00:00+00:00"⟩ 100
    "Sol Ring"
  productId := "1234"
  cardVersionId := 7
  title := "Sol Ring"
  priceCents := 100
  currency := "USD"
  conditionId
  finishId := some 1
  languageId := 1
  soldAt := ⟨1767312000000000, "2026-01-02T00:00:00+00:00"⟩
  marketplaceId := "EBAY-US"

theorem acceptedSales_sample :
    acceptedSales sampleCall sampleTables.cardMap = [sampleAccepted 1, sampleAccepted 9] := rfl

theorem collisionFree_sample : CollisionFree (acceptedSales sampleCall sampleTables.cardMap) := by
  rw [acceptedSales_sample]
  intro sale hsale other hother _
  simp only [List.mem_cons, List.not_mem_nil, or_false] at hsale hother
  rcases hsale with rfl | rfl <;> rcases hother with rfl | rfl <;> rfl

theorem exists_stageSold_sample :
    ∃ next report, stageSold sampleCall sampleTables = some (next, report) := by
  obtain ⟨⟨next, report⟩, hstage⟩ :=
    Option.isSome_iff_exists.mp (rfl : (stageSold sampleCall sampleTables).isSome = true)
  exact ⟨next, report, hstage⟩

/-- The graded sale is swallowed. -/
theorem graded_sale_shares_a_row :
    ¬ ∀ (call : StageCall) (tables next : StageTables) (report : StageReport),
      stageSold call tables = some (next, report) →
      CollisionFree (acceptedSales call tables.cardMap) →
      NoSaleSwallowed (acceptedSales call tables.cardMap) next.scrapedSold := by
  intro hclaim
  obtain ⟨next, report, hstage⟩ := exists_stageSold_sample
  have hrows := length_rowsOf hstage collisionFree_sample "1234"
  rw [hclaim _ _ _ _ hstage collisionFree_sample "1234", acceptedSales_sample] at hrows
  have hsales : salesOf [sampleAccepted 1, sampleAccepted 9] "1234" =
      [sampleAccepted 1, sampleAccepted 9] := rfl
  have hsame : identity (sampleAccepted 1) = identity (sampleAccepted 9) := rfl
  simp [hsales, hsame] at hrows

theorem stageSold_keeps_different_sales_sample :
    ∃ next report, stageSold sampleCall sampleTables = some (next, report) ∧
      (rowsOf (acceptedSales sampleCall sampleTables.cardMap) "1234" next.scrapedSold).length =
        1 ∧
      stageSold sampleCall next = some (next, report) := by
  obtain ⟨next, report, hstage⟩ := exists_stageSold_sample
  obtain ⟨hrows, hagain⟩ := stageSold_keeps_different_sales hstage collisionFree_sample
  refine ⟨next, report, hstage, ?_, hagain⟩
  rw [hrows "1234", acceptedSales_sample]
  have hsales : salesOf [sampleAccepted 1, sampleAccepted 9] "1234" =
      [sampleAccepted 1, sampleAccepted 9] := rfl
  have hsame : identity (sampleAccepted 1) = identity (sampleAccepted 9) := rfl
  simp [hsales, hsame]

end AutoMana.PriceCharting
