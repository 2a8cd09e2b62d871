import AutoMana.Ebay.SoldHistory
import AutoMana.Mtgjson.Drain
import AutoMana.Mtgjson.Windows
import AutoMana.OpenTcg.MissingPrices
import AutoMana.PriceCharting.StageSold
import AutoMana.Pricing.BookedPrices
import AutoMana.Pricing.DailyRefresh
import AutoMana.Sealed.Windows
import AutoMana.Shopify.Promote
import AutoMana.Staging.Rejects

/-!
# Which card a price is of

All loads of prices share the products of the cards, the source products, and the observations. They
only add to them, so an observation stays with its card and its source, whatever is loaded after it
and in whatever order. The deletion of a card takes its product away from it, and no later load
gives the product to another card.
-/

namespace AutoMana.Pricing.Attribution

open Relational
open Shopify (IsProductOf)

/-! ## What the loads share -/

/-- What a load reads and writes of it. -/
structure View where
  products : Products
  /-- The source products of the prices and the sales that are staged. -/
  staged : Set SourceProductId
  /-- The keys of the observations. -/
  observed : Set ObservationKey

def observedIn {V : Type} (priceObservation : Table ObservationKey V) : Set ObservationKey :=
  {key | (priceObservation.get? key).isSome}

/-- Nothing is taken away. -/
structure Kept (earlier later : Products) : Prop where
  sourceProduct : ∀ id product, earlier.sourceProduct.get? id = some product →
    later.sourceProduct.get? id = some product
  mtgCardProducts : ∀ product card, earlier.mtgCardProducts.get? product = some card →
    later.mtgCardProducts.get? product = some card

/-- The source product is that of a card. -/
def OfCard (products : Products) (id : SourceProductId) : Prop :=
  ∃ card sourceId, IsProductOf products id card sourceId

/-- The source product is that of a sealed product. -/
def OfSealed (sealed : Set ProductId) (products : Products) (id : SourceProductId) : Prop :=
  ∃ product, products.sourceProduct.get? id = some product ∧ product.productId ∈ sealed

/-- What every load does: it stages the source products of cards, and books observations of staged
source products, of cards and of sealed products. -/
structure Books (sealed : Set ProductId) (view next : View) : Prop where
  kept : Kept view.products next.products
  staged : ∀ id ∈ next.staged, id ∈ view.staged ∨ OfCard next.products id
  observed : ∀ key ∈ next.observed, key ∈ view.observed ∨ key.sourceProductId ∈ view.staged ∨
    OfCard next.products key.sourceProductId ∨ OfSealed sealed next.products key.sourceProductId

theorem Kept.refl (products : Products) : Kept products products :=
  ⟨fun _ _ hget => hget, fun _ _ hget => hget⟩

theorem Kept.trans {first second third : Products} (hfirst : Kept first second)
    (hsecond : Kept second third) : Kept first third where
  sourceProduct := fun id product hget => hsecond.sourceProduct id product
    (hfirst.sourceProduct id product hget)
  mtgCardProducts := fun product card hget => hsecond.mtgCardProducts product card
    (hfirst.mtgCardProducts product card hget)

theorem isProductOf_iff {products : Products} {id : SourceProductId} {card : CardVersionId}
    {sourceId : SourceId} : IsProductOf products id card sourceId ↔
      ∃ product, products.sourceProduct.get? id = some ⟨product, sourceId⟩ ∧
        products.mtgCardProducts.get? product = some card := by
  simp only [IsProductOf, Staging.mem_productLookup, and_comm]

theorem OfCard.mono {earlier later : Products} {id : SourceProductId} (hcard : OfCard earlier id)
    (hkept : Kept earlier later) : OfCard later id := by
  obtain ⟨card, sourceId, hproduct⟩ := hcard
  obtain ⟨product, hsource, hlinked⟩ := isProductOf_iff.mp hproduct
  exact ⟨card, sourceId, isProductOf_iff.mpr ⟨product, hkept.sourceProduct _ _ hsource,
    hkept.mtgCardProducts _ _ hlinked⟩⟩

theorem OfSealed.mono {sealed : Set ProductId} {earlier later : Products} {id : SourceProductId}
    (hsealed : OfSealed sealed earlier id) (hkept : Kept earlier later) :
    OfSealed sealed later id := by
  obtain ⟨product, hsource, hmem⟩ := hsealed
  exact ⟨product, hkept.sourceProduct _ _ hsource, hmem⟩

/-- A load that only creates products. -/
theorem Books.of_kept (sealed : Set ProductId) {earlier later : Products}
    (hkept : Kept earlier later) (staged : Set SourceProductId) (observed : Set ObservationKey) :
    Books sealed ⟨earlier, staged, observed⟩ ⟨later, staged, observed⟩ :=
  ⟨hkept, fun _ hid => Or.inl hid, fun _ hkey => Or.inl hkey⟩

theorem Books.refl (sealed : Set ProductId) (view : View) : Books sealed view view :=
  .of_kept sealed (.refl _) _ _

theorem Books.trans {sealed : Set ProductId} {first second third : View}
    (hfirst : Books sealed first second) (hsecond : Books sealed second third) :
    Books sealed first third where
  kept := hfirst.kept.trans hsecond.kept
  staged := by
    intro id hid
    rcases hsecond.staged id hid with hstaged | hcard
    · exact (hfirst.staged id hstaged).imp_right fun hcard => hcard.mono hsecond.kept
    · exact Or.inr hcard
  observed := by
    intro key hkey
    rcases hsecond.observed key hkey with hobserved | hstaged | hbooked
    · rcases hfirst.observed key hobserved with hstored | hstaged | hcard | hsealed
      · exact Or.inl hstored
      · exact Or.inr (Or.inl hstaged)
      · exact Or.inr (Or.inr (Or.inl (hcard.mono hsecond.kept)))
      · exact Or.inr (Or.inr (Or.inr (hsealed.mono hsecond.kept)))
    · rcases hfirst.staged _ hstaged with hstored | hcard
      · exact Or.inr (Or.inl hstored)
      · exact Or.inr (Or.inr (Or.inl (hcard.mono hsecond.kept)))
    · exact Or.inr (Or.inr hbooked)

theorem kept_of_grow {supply : Staging.IdSupply} {earlier later : Products}
    (hgrow : Staging.ProductsGrow supply earlier later) : Kept earlier later where
  sourceProduct := fun _ _ hget => hgrow.sourceProduct.get?_kept hget
  mtgCardProducts := fun _ _ hget => hgrow.mtgCardProducts.get?_kept hget

/-- What is looked up for a card is of the card. -/
theorem ofCard_of_lookup {products : Products} {sourceId : SourceId} {card : CardVersionId}
    {product : ProductId × SourceProductId}
    (hlookup : product ∈ Staging.productLookup products sourceId card) :
    OfCard products product.2 :=
  ⟨card, sourceId, product.1, hlookup⟩

theorem mem_observedIn {V : Type} {table : Table ObservationKey V} {key : ObservationKey} :
    key ∈ observedIn table ↔ (table.get? key).isSome := Iff.rfl

theorem observed_upsert {V : Type} {table excluded : Table ObservationKey V} {merge : V → V → V}
    {key : ObservationKey} (hkey : key ∈ observedIn (table.upsert excluded merge)) :
    key ∈ observedIn table ∨ (excluded.get? key).isSome := by
  rwa [mem_observedIn, Table.get?_upsert, Table.isSome_reconcile, Bool.or_eq_true] at hkey

/-! ## The prices of MTGStocks -/

section Staging

open AutoMana.Staging

/-- The source products of the rows of `stg_price_observation`. -/
def ofPrices (rows : List StagedPrice) : Set SourceProductId :=
  {id | ∃ row ∈ rows, row.sourceProductId = id}

def viewOfStaging (products : Products) (tables : StagingTables) : View where
  products := products
  staged := ofPrices tables.stgPriceObservation.values
  observed := observedIn tables.priceObservation

def viewOfLoad (tables : LoadTables) : View := viewOfStaging tables.products tables.staging

variable {locale : TextLocale} {dims : PromotionDims} {window : Window} {products : Products}
  {tables : StagingTables}

theorem sourceProductId_of_excluded {stg : SerialTable StagedPrice} {key : ObservationKey}
    (hkey : ((excluded locale dims window stg).get? key).isSome) :
    key.sourceProductId ∈ ofPrices stg.values := by
  rw [excluded, Table.get?_filterMapValues] at hkey
  obtain ⟨row, hrow, -⟩ := Option.bind_eq_some_iff.mp (Option.isSome_iff_exists.mp hkey).choose_spec
  rw [dedup, Table.get?_groupBy _ _ rfl] at hrow
  obtain ⟨hbatch, hsame⟩ := List.mem_filter.mp (freshest_spec hrow).1
  obtain ⟨⟨stgId, staged⟩, hstaged, hpromoted⟩ := List.mem_filterMap.mp hbatch
  obtain ⟨observationKey, hobservation, rfl⟩ := Option.map_eq_some_iff.mp hpromoted
  refine ⟨staged, List.mem_map.mpr ⟨_, (List.mem_filter.mp hstaged).1, rfl⟩, ?_⟩
  rw [← of_decide_eq_true hsame]
  simp only [observationKey?, Option.bind_eq_bind, Option.bind_eq_some_iff, Option.pure_def,
    Option.some.injEq] at hobservation
  obtain ⟨_, -, _, -, _, -, rfl⟩ := hobservation
  rfl

/-- A promotion books the prices that are staged. -/
theorem books_promote (sealed : Set ProductId) :
    Books sealed (viewOfStaging products tables)
      (viewOfStaging products (promote locale dims window tables)) where
  kept := .refl products
  staged := by
    rintro id ⟨row, hrow, rfl⟩
    obtain ⟨stored, hstored, hsame⟩ := List.mem_map.mp hrow
    exact Or.inl ⟨row, List.mem_map.mpr ⟨stored, (List.mem_filter.mp hstored).1, hsame⟩, rfl⟩
  observed := by
    intro key hkey
    rcases observed_upsert hkey with hstored | hexcluded
    · exact Or.inl hstored
    · exact Or.inr (Or.inl (sourceProductId_of_excluded hexcluded))

theorem books_promoteBatch (sealed : Set ProductId) (failed : Window → Bool) :
    Books sealed (viewOfStaging products tables)
      (viewOfStaging products (promoteBatch locale dims failed window tables)) := by
  rw [promoteBatch]
  split_ifs
  · exact .refl sealed _
  · exact books_promote sealed

theorem ofCard_of_mem_stagedRows {products : Products} {sourceId : SourceId}
    {resolved : ResolvedPrice} {row : StagedPrice}
    (hrow : row ∈ stagedRows products sourceId resolved) : OfCard products row.sourceProductId := by
  obtain ⟨card, method, product, -, hlookup, rfl⟩ := mem_stagedRows.mp hrow
  exact ofCard_of_lookup hlookup

/-- A window is staged for the cards of its rows, and promoted. -/
theorem books_loadWindow (sealed : Set ProductId) (call : LoadCall) (raw : List RawPrice)
    (window : Window) (tables : LoadTables) :
    Books sealed (viewOfLoad tables) (viewOfLoad (loadWindow call raw window tables)) := by
  rw [loadWindow]
  split
  · exact .refl sealed _
  · next loaded hloaded =>
    dsimp only
    split_ifs
    · exact .refl sealed _
    · obtain ⟨hensure, hstaged, -⟩ := stageBatch_spec hloaded
      have hstages : Books sealed (viewOfLoad tables) (viewOfStaging loaded.products
          { tables.staging with
            stgPriceObservation := tables.staging.stgPriceObservation.insert loaded.staged }) := by
        refine ⟨kept_of_grow (productsGrow_of_ensure hensure), ?_, fun _ hkey => Or.inl hkey⟩
        rintro id ⟨row, hrow, rfl⟩
        rw [SerialTable.values_insert, List.mem_append] at hrow
        rcases hrow with hstored | hnew
        · exact Or.inl ⟨row, hstored, rfl⟩
        · rw [hstaged] at hnew
          obtain ⟨resolved, -, hrow⟩ := List.mem_flatMap.mp hnew
          exact Or.inr (ofCard_of_mem_stagedRows hrow)
      exact hstages.trans (books_promote sealed)

/-- The rejects that are resolved are staged for their cards. -/
theorem books_resolvePriceRejects (sealed : Set ProductId) {context : RetryContext}
    {catalogue : Catalogue} {rejects : SerialTable RejectPrice} {pLimit : Option Nat}
    {pOnlyUnresolved : Bool} {working : WorkingSet pLimit pOnlyUnresolved rejects}
    {scan : RetryScan catalogue working.rows} {choice : UpdateChoice} {result : RetryResult}
    {count : Nat} (hresolve : resolvePriceRejects context catalogue products rejects working scan
      choice = some (result, count)) :
    Books sealed ⟨products, ∅, ∅⟩
      ⟨result.products, ofPrices (result.refed.map Prod.snd), ∅⟩ := by
  rw [resolvePriceRejects] at hresolve
  split at hresolve
  · cases hresolve
  · obtain ⟨next, hensure, hresult⟩ := Option.map_eq_some_iff.mp hresolve
    cases hresult
    refine ⟨kept_of_grow (productsGrow_of_ensure hensure), ?_, fun _ hkey => Or.inl hkey⟩
    rintro id ⟨row, hrow, rfl⟩
    obtain ⟨refed, hrefed, rfl⟩ := List.mem_map.mp hrow
    obtain ⟨resolved, -, hmem⟩ := List.mem_flatMap.mp hrefed
    rw [refedRows] at hmem
    split_ifs at hmem
    · cases hmem
    · obtain ⟨staged, hstaged, rfl⟩ := List.mem_map.mp hmem
      exact Or.inr (ofCard_of_mem_stagedRows hstaged)

end Staging

/-! ## The prices of MTGJSON -/

section Mtgjson

open AutoMana.Mtgjson

def viewOfMtgjson (tables : MtgjsonTables) : View where
  products := tables.products
  staged := ∅
  observed := observedIn tables.priceObservation

variable {call : LoadCall} {plan : Plan} {v_data_provider_id : Nat} {tables next : MtgjsonTables}

theorem books_bootstrap (sealed : Set ProductId) (hbootstrap : bootstrap call tables = some next) :
    Books sealed (viewOfMtgjson tables) (viewOfMtgjson next) := by
  rw [bootstrap] at hbootstrap
  split at hbootstrap
  · cases hbootstrap
  · next mtgCardProducts hcards =>
    cases hbootstrap
    refine .of_kept sealed ?_ _ _
    exact ⟨fun _ _ hget => hget, fun _ _ => (Table.grows_of_register hcards).get?_kept⟩

/-- A window books the prices of the products that its rows are joined to. -/
theorem books_mtgjsonWindow (sealed : Set ProductId) {window : Window}
    (hpromote : promoteWindow call plan v_data_provider_id window tables = some next) :
    Books sealed (viewOfMtgjson tables) (viewOfMtgjson next) := by
  have hpromotion := promotion_of_window hpromote
  refine ⟨⟨fun _ _ => hpromotion.grow.sourceProduct.get?_kept, fun product card hget => ?_⟩,
    fun _ hid => Or.inl hid, fun key hkey => ?_⟩
  · exact hpromotion.grow.mtgCardProducts ▸ hget
  · by_cases hresolved : ∃ id row,
        ResolvedOn call v_data_provider_id {day | window.Contains day} tables.staging next key id
          row
    · obtain ⟨id, row, hrow⟩ := hresolved
      obtain ⟨sourceProduct, hstored, -, hproduct⟩ := hrow.resolves.sourceProduct
      obtain ⟨card, -, hlinked⟩ := List.mem_flatMap.mp hproduct
      exact Or.inr (Or.inr (Or.inl ⟨card, sourceProduct.sourceId, isProductOf_iff.mpr
        ⟨sourceProduct.productId, hstored, Table.mem_keysOf.mp hlinked⟩⟩))
    · refine Or.inl (mem_observedIn.mpr ?_)
      rw [← hpromotion.kept key fun id row hrow => hresolved ⟨id, row, hrow⟩]
      exact hkey

end Mtgjson

section Sealed

open AutoMana.Sealed

def viewOfSealed (tables : SealedTables) : View where
  products := tables.products
  staged := ∅
  observed := observedIn tables.priceObservation

/-- A window books the prices of sealed products. -/
theorem books_sealedWindow {sealed : Set ProductId} {call : LoadCall} {plan : Plan}
    {v_data_provider_id : Nat} {window : Window} {tables next : SealedTables}
    (hsealed : ∀ uuid product, tables.sealedProducts.get? uuid = some product → product ∈ sealed)
    (hpromote : promoteWindow call plan v_data_provider_id window tables = some next) :
    Books sealed (viewOfSealed tables) (viewOfSealed next) := by
  have hpromoted := promoted_of_promoteWindow hpromote
  obtain ⟨joined, priceSource, products, written, rfl, -, hinsert, hwrite, hnext⟩ :=
    promoteWindow_cases hpromote
  have hlinked : next.products.mtgCardProducts = tables.products.mtgCardProducts := by
    rw [hnext, (writePrices_spec hwrite).2.2.2]
    exact (Mtgjson.insertProductSource_spec hinsert).1
  refine ⟨⟨fun _ _ => hpromoted.grow.get?_kept, fun _ _ hget => hlinked ▸ hget⟩,
    fun _ hid => Or.inl hid, fun key hkey => ?_⟩
  by_cases hresolved : ∃ price ∈ resolvedRows v_data_provider_id window tables next,
      price.key = key
  · obtain ⟨price, hprice, rfl⟩ := hresolved
    obtain ⟨row, -, -, hresolves⟩ := mem_resolvedRows.mp hprice
    obtain ⟨id, hstored, hkeyOf⟩ := hresolves.key
    refine Or.inr (Or.inr (Or.inr ⟨price.latest.sourceProduct, ?_, ?_⟩))
    · rw [hkeyOf]
      exact hstored
    · have hproduct := sourceProduct_of_latestKey hresolves.latest
      simp only [sourceProduct?, Option.bind_eq_bind, Option.bind_eq_some_iff, Option.pure_def,
        Option.some.injEq] at hproduct
      obtain ⟨source, -, product, hget, hsame⟩ := hproduct
      rw [← hsame]
      exact hsealed row.sealedUuid product (hpromoted.sealedProducts ▸ hget)
  · refine Or.inl (mem_observedIn.mpr ?_)
    rw [← hpromoted.observation_kept fun price hprice heq => hresolved ⟨price, hprice, heq⟩]
    exact hkey

end Sealed

/-! ## The prices of OpenTCG -/

section OpenTcg

open AutoMana.OpenTcg

def viewOfOpenTcg (tables : OpenTcg.Tables) : View where
  products := tables.products
  staged := ∅
  observed := observedIn tables.priceObservation

variable {load : Load}

/-- A batch books the prices of the cards of its rows. -/
theorem books_upsertOpentcgPriceBatch (sealed : Set ProductId) {state next : LoadState}
    {rows : List PriceRow} (hupsert : upsertOpentcgPriceBatch load state rows = some next) :
    Books sealed (viewOfOpenTcg state.tables) (viewOfOpenTcg next.tables) := by
  obtain ⟨hensured, -, -, excluded, hrows, hobservation⟩ := upsert_cases hupsert
  refine ⟨kept_of_grow (Staging.productsGrow_of_ensure hensured), fun _ hid => Or.inl hid,
    fun key hkey => ?_⟩
  rw [viewOfOpenTcg, hobservation] at hkey
  rcases observed_upsert hkey with hstored | hexcluded
  · exact Or.inl hstored
  · obtain ⟨price, hprice⟩ := Option.isSome_iff_exists.mp hexcluded
    have hmem := (Table.mem_rows_iff _ _ _).mpr hprice
    rw [hrows] at hmem
    obtain ⟨⟨id, row⟩, hsent, hinserted⟩ := List.mem_filterMap.mp hmem
    obtain ⟨other, hrow, hsent⟩ := List.mem_filterMap.mp hsent
    obtain ⟨-, card, -, productId, hlookup⟩ := (sent?_eq_some_iff hensured hrow).mp hsent
    have hkeyOf := (excluded?_eq_some_iff.mp hinserted).1
    have hid : key.sourceProductId = id := by
      simp only [observationKey?, Option.bind_eq_bind, Option.bind_eq_some_iff, Option.pure_def,
        Option.some.injEq] at hkeyOf
      obtain ⟨_, -, _, -, _, -, hkeyOf⟩ := hkeyOf
      rw [← hkeyOf]
    rw [hid]
    exact Or.inr (Or.inr (Or.inl (ofCard_of_lookup hlookup)))

theorem books_batches (sealed : Set ProductId) {batches : List (List PriceRow)}
    {state next : LoadState}
    (hrun : batches.foldlM (upsertOpentcgPriceBatch load) state = some next) :
    Books sealed (viewOfOpenTcg state.tables) (viewOfOpenTcg next.tables) := by
  induction batches generalizing state with
  | nil =>
    obtain rfl := Option.some.inj hrun
    exact .refl sealed _
  | cons batch rest ih =>
    rw [List.foldlM_cons, Option.bind_eq_bind, Option.bind_eq_some_iff] at hrun
    obtain ⟨middle, hmiddle, hnext⟩ := hrun
    exact (books_upsertOpentcgPriceBatch sealed hmiddle).trans (ih hnext)

/-- A load books its batches, and is rolled back when one raises. -/
theorem books_loadOpentcgPrices (sealed : Set ProductId) {allSkus : List (Nat × List Json)}
    {tables next : OpenTcg.Tables} {count : Nat}
    (hload : loadOpentcgPrices load allSkus tables = some (next, count)) :
    Books sealed (viewOfOpenTcg tables) (viewOfOpenTcg next) := by
  obtain ⟨state, hrun, rfl⟩ := run_of_load hload
  exact books_batches sealed hrun

end OpenTcg

/-! ## The prices of cards by their Scryfall ids -/

section CardPrices

open AutoMana.Pricing.CardPrices

def viewOfCards (tables : CardPrices.Tables) : View where
  products := tables.products
  staged := ∅
  observed := observedIn tables.priceObservation

variable {catalogue : Catalogue} {engine : Engine} {tables next : CardPrices.Tables}

/-- What the statements that create products leave. -/
structure Creates (tables next : CardPrices.Tables) : Prop where
  kept : Kept tables.products next.products
  priceObservation : next.priceObservation = tables.priceObservation

theorem Creates.trans {last : CardPrices.Tables} (hfirst : Creates tables next)
    (hsecond : Creates next last) : Creates tables last :=
  ⟨hfirst.kept.trans hsecond.kept, hsecond.priceObservation.trans hfirst.priceObservation⟩

theorem Creates.books (sealed : Set ProductId) (hcreates : Creates tables next) :
    Books sealed (viewOfCards tables) (viewOfCards next) := by
  refine ⟨hcreates.kept, fun _ hid => Or.inl hid, fun key hkey => Or.inl ?_⟩
  rwa [viewOfCards, hcreates.priceObservation] at hkey

theorem creates_of_insert {cards : List CardVersionId}
    {inserted : CardPrices.Tables × List (ProductId × CardVersionId)}
    (hinsert : insertProductsBatch? catalogue engine cards tables = some inserted) :
    Creates tables inserted.1 ∧ ∀ row ∈ inserted.2,
      inserted.1.products.mtgCardProducts.get? row.1 = some row.2 := by
  rw [insertProductsBatch?, Option.ite_none_right_eq_some] at hinsert
  obtain ⟨products, hlink, rfl⟩ := Option.map_eq_some_iff.mp hinsert.2
  rw [linkCards?] at hlink
  split at hlink
  · cases hlink
  · next mtgCardProducts hlinked =>
    cases hlink
    refine ⟨⟨⟨fun _ _ hget => hget, fun _ _ hget => (Table.links_of_link hlinked).kept hget⟩, rfl⟩,
      fun row hrow => ?_⟩
    exact (Table.mem_rows_iff _ _ _).mp (List.mem_filter.mp ((Listing.mem_list _).mp hrow)).1

theorem creates_of_ensure {wanted : List (ProductId × String)}
    (hensure : ensureSourceProduct? catalogue engine wanted tables = some next) :
    Creates tables next := by
  obtain ⟨products, hlink, rfl⟩ := Option.map_eq_some_iff.mp hensure
  rw [linkSources?] at hlink
  split at hlink
  · cases hlink
  · next sourceProduct hlinked =>
    cases hlink
    exact ⟨⟨fun _ _ hget => (Table.links_of_link hlinked).kept hget, fun _ _ hget => hget⟩, rfl⟩

/-- Source products for cards come without prices. -/
theorem books_upsertSourceProductsForCards (sealed : Set ProductId) {cards : List CardVersionId}
    {sourceCode : String} {spids : Table CardVersionId SourceProductId}
    (hupsert : upsertSourceProductsForCards? catalogue engine cards sourceCode tables =
      some (next, spids)) :
    Books sealed (viewOfCards tables) (viewOfCards next) := by
  simp only [upsertSourceProductsForCards?] at hupsert
  split_ifs at hupsert
  · cases hupsert
    exact .refl sealed _
  · obtain ⟨inserted, hinsert, hupsert⟩ := Option.bind_eq_some_iff.mp hupsert
    have hinserted := (creates_of_insert hinsert).1
    split_ifs at hupsert
    · cases hupsert
      exact hinserted.books sealed
    · obtain ⟨ensured, hensure, hresult⟩ := Option.map_eq_some_iff.mp hupsert
      cases hresult
      exact (hinserted.trans (creates_of_ensure hensure)).books sealed

/-- The products in the dictionary are those of cards. -/
def OfCards (tables : CardPrices.Tables) (scryfallToMeta : ScryfallToMeta) : Prop :=
  ∀ scryfallId entry product, scryfallToMeta.get? scryfallId = some entry →
    entry.productId = some product → ∃ card, Linked tables product card

theorem ofCards_resolvedMeta {rows : List PriceRow} :
    OfCards tables (resolvedMeta catalogue engine rows tables) := by
  intro scryfallId entry product hentry hproduct
  obtain ⟨⟨scryfallId', card, productId⟩, hrecord, hsame⟩ :=
    List.mem_map.mp (Table.mem_of_get?_ofPairs hentry)
  obtain ⟨rfl, rfl⟩ := Prod.mk.inj hsame
  obtain ⟨-, -, hproductOf⟩ := (mem_resolveScryfallIds engine).mp hrecord
  exact ⟨card, productOf?_eq_some_iff.mp (hproductOf.symm.trans hproduct)⟩

theorem OfCards.takeNewRow {scryfallToMeta : ScryfallToMeta}
    (hcards : OfCards tables scryfallToMeta) (cvIdToSid : Table CardVersionId String)
    {row : ProductId × CardVersionId} (hrow : Linked tables row.1 row.2) :
    OfCards tables (CardPrices.takeNewRow cvIdToSid scryfallToMeta row) := by
  rw [CardPrices.takeNewRow]
  split
  · intro scryfallId entry product hentry hproduct
    rw [ScryfallToMeta.setProduct, Table.get?_mapValues] at hentry
    obtain ⟨stored, hstored, rfl⟩ := Option.map_eq_some_iff.mp hentry
    split_ifs at hproduct
    · exact ⟨row.2, Option.some.inj hproduct ▸ hrow⟩
    · exact hcards scryfallId stored product hstored hproduct
  · exact hcards

theorem OfCards.foldl_takeNewRow {newRows : List (ProductId × CardVersionId)}
    {scryfallToMeta : ScryfallToMeta} (hcards : OfCards tables scryfallToMeta)
    (cvIdToSid : Table CardVersionId String) (hrows : ∀ row ∈ newRows, Linked tables row.1 row.2) :
    OfCards tables (newRows.foldl (CardPrices.takeNewRow cvIdToSid) scryfallToMeta) := by
  induction newRows generalizing scryfallToMeta with
  | nil => exact hcards
  | cons row rest ih =>
    rw [List.forall_mem_cons] at hrows
    exact ih (hcards.takeNewRow cvIdToSid hrows.1) hrows.2

theorem OfCards.mono {scryfallToMeta : ScryfallToMeta} (hcards : OfCards tables scryfallToMeta)
    (hkept : Kept tables.products next.products) : OfCards next scryfallToMeta := by
  intro scryfallId entry product hentry hproduct
  obtain ⟨card, hlinked⟩ := hcards scryfallId entry product hentry hproduct
  exact ⟨card, hkept.mtgCardProducts _ _ hlinked⟩

theorem creates_of_createProducts {scryfallToMeta : ScryfallToMeta}
    {created : CardPrices.Tables × ScryfallToMeta} (hcards : OfCards tables scryfallToMeta)
    (hcreate : createProducts? catalogue engine scryfallToMeta tables = some created) :
    Creates tables created.1 ∧ OfCards created.1 created.2 := by
  simp only [createProducts?] at hcreate
  split_ifs at hcreate
  · cases hcreate
    exact ⟨⟨.refl _, rfl⟩, hcards⟩
  · obtain ⟨inserted, hinsert, hresult⟩ := Option.map_eq_some_iff.mp hcreate
    cases hresult
    obtain ⟨hcreates, hreturned⟩ := creates_of_insert hinsert
    refine ⟨hcreates, fun scryfallId entry product hentry hproduct => ?_⟩
    rw [Table.get?_mapValues] at hentry
    obtain ⟨stored, hstored, rfl⟩ := Option.map_eq_some_iff.mp hentry
    rcases Option.or_eq_some_iff.mp hproduct with htaken | ⟨-, hlooked⟩
    · exact (hcards.mono hcreates.kept).foldl_takeNewRow _ hreturned _ stored product hstored htaken
    · have hrow := Table.mem_of_get?_ofPairs hlooked
      rw [getProductIdsForCards, Listing.mem_list] at hrow
      obtain ⟨link, hlink, hswap⟩ := List.mem_map.mp hrow
      obtain ⟨-, rfl⟩ := Prod.mk.inj hswap
      exact ⟨link.2, (Table.mem_rows_iff _ _ _).mp (List.mem_filter.mp hlink).1⟩

/-- The prices are upserted under the source products with which they are sent. -/
theorem sent_of_upsert {tsDate : Int} {sent : List SentPrice} {count : Nat}
    (hupsert : upsertPriceObservation? catalogue engine tsDate sent tables = some (next, count)) :
    next.products = tables.products ∧ ∀ key ∈ observedIn next.priceObservation,
      key ∈ observedIn tables.priceObservation ∨
        ∃ price ∈ sent, price.sourceProductId = key.sourceProductId := by
  rw [upsertPriceObservation?] at hupsert
  split_ifs at hupsert
  obtain ⟨rfl, -⟩ := Prod.mk.inj (Option.some.inj hupsert)
  refine ⟨rfl, fun key hkey => (observed_upsert hkey).imp_right fun hexcluded => ?_⟩
  obtain ⟨observation, hget⟩ := Option.isSome_iff_exists.mp hexcluded
  obtain ⟨⟨stored, cents⟩, hjoined, hrow⟩ :=
    List.mem_filterMap.mp ((Table.mem_rows_iff _ _ _).mpr hget)
  obtain ⟨_, -, hsame⟩ := Option.map_eq_some_iff.mp hrow
  obtain ⟨rfl, -⟩ := Prod.mk.inj hsame
  obtain ⟨price, hprice, hkeyOf⟩ := List.mem_filterMap.mp hjoined
  obtain ⟨found, hfound, hpair⟩ := Option.map_eq_some_iff.mp hkeyOf
  obtain ⟨finishId, -, hobservation⟩ := Option.map_eq_some_iff.mp hfound
  refine ⟨price, hprice, ?_⟩
  rw [← (Prod.mk.inj hpair).1, ← hobservation]

/-- A batch books the prices of the cards with the ids of its rows. -/
theorem books_upsertScryfallPriceBatch (sealed : Set ProductId) {tsDate : Int}
    {rows : List PriceRow} {count : Nat}
    (hupsert : upsertScryfallPriceBatch? catalogue engine tsDate rows tables =
      some (next, count)) :
    Books sealed (viewOfCards tables) (viewOfCards next) := by
  obtain ⟨created, hcreate, hbook⟩ := Option.bind_eq_some_iff.mp hupsert
  obtain ⟨hcreates, hcards⟩ := creates_of_createProducts ofCards_resolvedMeta hcreate
  refine (hcreates.books sealed).trans ?_
  simp only [bookPrices?] at hbook
  split_ifs at hbook
  · cases hbook
    exact .refl sealed _
  · obtain ⟨ensured, hensure, hbook⟩ := Option.bind_eq_some_iff.mp hbook
    have hensures := creates_of_ensure hensure
    refine (hensures.books sealed).trans ?_
    split_ifs at hbook
    · cases hbook
      exact .refl sealed _
    · obtain ⟨hproducts, hsent⟩ := sent_of_upsert hbook
      have hview : (viewOfCards next).products = ensured.products := hproducts
      refine ⟨hview ▸ .refl _, fun _ hid => Or.inl hid, fun key hkey => ?_⟩
      refine (hsent key hkey).imp_right fun hprice => ?_
      obtain ⟨price, hprice, hid⟩ := hprice
      obtain ⟨row, -, hrow⟩ := List.mem_filterMap.mp hprice
      obtain ⟨product, hproduct, hlookup⟩ := Option.bind_eq_some_iff.mp hrow
      obtain ⟨spid, hspid, rfl⟩ := Option.map_eq_some_iff.mp hlookup
      obtain ⟨entry, hentry, hentryOf⟩ := Option.bind_eq_some_iff.mp hproduct
      obtain ⟨card, hlinked⟩ := hcards row.scryfallId entry product hentry hentryOf
      obtain ⟨⟨sourceId, -, hsource⟩, -⟩ := get?_spLookup_iff.mp hspid
      refine Or.inr (Or.inl ⟨card, sourceId, isProductOf_iff.mpr ⟨product, ?_, ?_⟩⟩)
      · rw [hview, ← hid]
        exact hsource
      · rw [hview]
        exact hensures.kept.mtgCardProducts _ _ hlinked

end CardPrices

/-! ## Sales -/

section Sales

open AutoMana.Ebay AutoMana.Ebay.SoldHistory AutoMana.PriceCharting

/-- The source products of the scraped sales. -/
def ofScraped (scrapedSold : Table String ScrapedSold) : Set SourceProductId :=
  {id | ∃ itemId row, scrapedSold.get? itemId = some row ∧ row.sourceProductId = some id}

def viewOfScraped (tables : StageTables) : View where
  products := tables.products
  staged := ofScraped tables.scrapedSold
  observed := ∅

theorem staged_of_insertSale {call : StageCall} {products : Products}
    {scrapedSold next : Table String ScrapedSold} {sale : AcceptedSale}
    (hinsert : insertSale call products scrapedSold sale = some next) :
    ∀ id ∈ ofScraped next, id ∈ ofScraped scrapedSold ∨ OfCard products id := by
  rw [insertSale] at hinsert
  split at hinsert
  · cases hinsert
    exact fun id hid => Or.inl hid
  · next spid hspid =>
    obtain ⟨row, hrow, rfl⟩ := Option.map_eq_some_iff.mp hinsert
    rintro id ⟨itemId, stored, hget, hid⟩
    rcases Table.stored_or_mem_of_insertMissing hget with hstored | hnew
    · exact Or.inl ⟨itemId, stored, hstored, hid⟩
    · obtain ⟨-, rfl⟩ := Prod.mk.inj (List.mem_singleton.mp hnew)
      simp only [scrapedRow?, Option.bind_eq_bind, Option.bind_eq_some_iff, Option.pure_def,
        Option.some.injEq] at hrow
      obtain ⟨_, -, _, -, rfl⟩ := hrow
      obtain ⟨product, hproduct, rfl⟩ := Option.map_eq_some_iff.mp hspid
      obtain rfl := Option.some.inj hid
      exact Or.inr (ofCard_of_lookup (List.mem_of_mem_head? hproduct))

theorem staged_of_insertSales {call : StageCall} {products : Products}
    {accepted : List AcceptedSale} {scrapedSold next : Table String ScrapedSold}
    (hinsert : accepted.foldlM (insertSale call products) scrapedSold = some next) :
    ∀ id ∈ ofScraped next, id ∈ ofScraped scrapedSold ∨ OfCard products id := by
  induction accepted generalizing scrapedSold with
  | nil =>
    obtain rfl := Option.some.inj hinsert
    exact fun id hid => Or.inl hid
  | cons sale rest ih =>
    rw [List.foldlM_cons, Option.bind_eq_bind, Option.bind_eq_some_iff] at hinsert
    obtain ⟨middle, hmiddle, hnext⟩ := hinsert
    intro id hid
    rcases ih hnext id hid with hstored | hcard
    · exact staged_of_insertSale hmiddle id hstored
    · exact Or.inr hcard

/-- The sales of PriceCharting are staged for the cards they are matched to. -/
theorem books_stageSold (sealed : Set ProductId) {call : StageCall} {tables next : StageTables}
    {report : StageReport} (hstage : stageSold call tables = some (next, report)) :
    Books sealed (viewOfScraped tables) (viewOfScraped next) := by
  rw [stageSold] at hstage
  split at hstage
  · cases hstage
    exact .refl sealed _
  · split_ifs at hstage
    · cases hstage
      exact .refl sealed _
    · obtain ⟨salesBySet, -, hstage⟩ := Option.bind_eq_some_iff.mp hstage
      rw [stageAccepted] at hstage
      split_ifs at hstage
      · cases hstage
        exact .refl sealed _
      · simp only [Option.bind_eq_bind, Option.bind_eq_some_iff, Option.pure_def,
          Option.some.injEq, Prod.mk.injEq] at hstage
        obtain ⟨products, hensure, scrapedSold, hinsert, rfl, -⟩ := hstage
        exact ⟨kept_of_grow (Staging.productsGrow_of_ensure hensure),
          staged_of_insertSales hinsert, fun _ hkey => Or.inl hkey⟩

/-- `ENSURE_PRODUCT`; `none` when the id that is drawn is taken. -/
def ensureProduct (supply : Staging.IdSupply) (card : CardVersionId) (products : Products) :
    Option Products :=
  match hcards : products.mtgCardProducts.register? supply.productId [card] with
  | none => none
  | some mtgCardProducts => some { products with
      mtgCardProducts
      mtgCardProducts_unique :=
        Table.nodup_values_of_register products.mtgCardProducts_unique hcards }

/-- `ENSURE_SOURCE_PRODUCT`, with the id that it returns. -/
def ensureSourceProduct (supply : Mtgjson.IdSupply) (card : CardVersionId) (sourceId : SourceId)
    (products : Products) : Option (Products × Option SourceProductId) :=
  (Mtgjson.insertProductSource supply
    ((products.mtgCardProducts.keysOf card).map (⟨·, sourceId⟩)) products).map fun next =>
      (next, (Staging.productLookup next sourceId card).head?.map Prod.snd)

theorem books_ensureProduct (sealed : Set ProductId) {supply : Staging.IdSupply}
    {card : CardVersionId} {products next : Products}
    (hensure : ensureProduct supply card products = some next) :
    Books sealed ⟨products, ∅, ∅⟩ ⟨next, ∅, ∅⟩ := by
  rw [ensureProduct] at hensure
  split at hensure
  · cases hensure
  · next mtgCardProducts hcards =>
    cases hensure
    refine .of_kept sealed ?_ _ _
    exact ⟨fun _ _ hget => hget, fun _ _ => (Table.grows_of_register hcards).get?_kept⟩

/-- An own sale is staged for its card. -/
theorem books_ensureSourceProduct (sealed : Set ProductId) {supply : Mtgjson.IdSupply}
    {card : CardVersionId} {sourceId : SourceId} {products next : Products}
    {returned : Option SourceProductId}
    (hensure : ensureSourceProduct supply card sourceId products = some (next, returned)) :
    Books sealed ⟨products, ∅, ∅⟩ ⟨next, {id | returned = some id}, ∅⟩ := by
  obtain ⟨products', hinsert, hresult⟩ := Option.map_eq_some_iff.mp hensure
  obtain ⟨rfl, rfl⟩ := Prod.mk.inj hresult
  obtain ⟨hlinked, hgrows, -⟩ := Mtgjson.insertProductSource_spec hinsert
  refine ⟨⟨fun _ _ => hgrows.get?_kept, fun _ _ hget => hlinked ▸ hget⟩, fun id hid => ?_,
    fun _ hkey => Or.inl hkey⟩
  obtain ⟨product, hproduct, rfl⟩ := Option.map_eq_some_iff.mp hid
  exact Or.inr (ofCard_of_lookup (List.mem_of_mem_head? hproduct))

/-- The source products of the own sales and of the scraped ones. -/
def ofSales (staging : Ebay.Staging) : Set SourceProductId :=
  {id | ∃ key row, staging.orderSourceProduct.get? key = some row ∧
    row.sourceProductId = some id} ∪ ofScraped staging.scrapedSold

def viewOfSales (products : Products) (tables : SoldTables) : View where
  products := products
  staged := ofSales tables.staging
  observed := observedIn tables.priceObservation

theorem observed_of_promoteGroups {ι : Type} {now : Timestamp} {faults : Faults}
    (groups : List (ObservationKey × Bucket ι))
    (state : Table ObservationKey Observation × List ι) :
    ∀ key ∈ observedIn (groups.foldl (promoteGroup now faults) state).1,
      key ∈ observedIn state.1 ∨ ∃ group ∈ groups, group.1 = key := by
  induction groups generalizing state with
  | nil => exact fun key hkey => Or.inl hkey
  | cons group rest ih =>
    intro key hkey
    rcases ih (promoteGroup now faults state group) key hkey with hgroup | ⟨later, hlater, hsame⟩
    · by_cases hsame : group.1 = key
      · exact Or.inr ⟨group, List.mem_cons_self, hsame⟩
      · left
        have hne : ¬ key = group.1 := fun heq => hsame heq.symm
        rw [promoteGroup_eq, upsertPriceObservation] at hgroup
        split_ifs at hgroup
        · exact hgroup
        · cases hcents : cents? group.2.price.1 with
          | none => simpa [hcents] using hgroup
          | some cents =>
            rw [hcents, Option.map_some, Option.elim_some] at hgroup
            rcases observed_upsert hgroup with hstored | hnew
            · exact hstored
            · rw [Table.get?_single, if_neg hne] at hnew
              cases hnew
    · exact Or.inr ⟨later, List.mem_cons_of_mem _ hlater, hsame⟩

theorem observed_of_promoteChannel {ι : Type} {call : PromoteCall} {faults : Faults}
    {fxMap : Option FxMap} {sales : List (StagedSale ι)}
    {priceObservation : Table ObservationKey Observation} :
    ∀ key ∈ observedIn (promoteChannel call faults fxMap sales priceObservation).1,
      key ∈ observedIn priceObservation ∨
        ∃ sale ∈ sales, sale.sourceProductId = key.sourceProductId := by
  intro key hkey
  refine (observed_of_promoteGroups _ _ key hkey).imp_right fun hgroup => ?_
  obtain ⟨⟨_, bucket⟩, hrow, rfl⟩ := hgroup
  have hget := (Table.mem_rows_iff _ _ _).mp hrow
  rw [aggregate, Table.get?_groupBy _ _ rfl, bucket?] at hget
  split_ifs at hget with hnone
  rw [List.isEmpty_iff] at hnone
  obtain ⟨sale, hsale⟩ := List.exists_mem_of_ne_nil _ hnone
  obtain ⟨hpending, hsame⟩ := List.mem_filter.mp hsale
  refine ⟨sale, (List.mem_filter.mp hpending).1, ?_⟩
  rw [← of_decide_eq_true hsame]
  rfl

theorem ofSales_markOwnPromoted (faults : Faults) (ids : List OrderItemKey)
    (staging : Ebay.Staging) : ofSales (markOwnPromoted faults ids staging) ⊆ ofSales staging := by
  rw [markOwnPromoted]
  split_ifs
  · exact subset_rfl
  · rintro id (⟨key, row, hget, hid⟩ | hscraped)
    · rw [Table.get?_mapValues] at hget
      obtain ⟨stored, hstored, rfl⟩ := Option.map_eq_some_iff.mp hget
      refine Or.inl ⟨key, stored, hstored, ?_⟩
      split_ifs at hid <;> exact hid
    · exact Or.inr hscraped

theorem ofSales_markScrapedPromoted (faults : Faults) (ids : List String)
    (staging : Ebay.Staging) :
    ofSales (markScrapedPromoted faults ids staging) ⊆ ofSales staging := by
  rw [markScrapedPromoted]
  split_ifs
  · exact subset_rfl
  · rintro id (hown | ⟨itemId, row, hget, hid⟩)
    · exact Or.inl hown
    · rw [Table.get?_mapValues] at hget
      obtain ⟨stored, hstored, rfl⟩ := Option.map_eq_some_iff.mp hget
      refine Or.inr ⟨itemId, stored, hstored, ?_⟩
      split_ifs at hid <;> exact hid

theorem sourceProductId_mem_ofSales {staging : Ebay.Staging} {key : ObservationKey}
    (hsale : (∃ sale ∈ ownSales staging, sale.sourceProductId = key.sourceProductId) ∨
      ∃ sale ∈ scrapedSales staging, sale.sourceProductId = key.sourceProductId) :
    key.sourceProductId ∈ ofSales staging := by
  rcases hsale with ⟨sale, hsale, hid⟩ | ⟨sale, hsale, hid⟩
  · obtain ⟨row, hrow, hsold⟩ := mem_ownSales.mp hsale
    obtain ⟨sourceProductId, hstored, hsame⟩ := Option.map_eq_some_iff.mp hsold
    rw [← hid, ← hsame]
    exact Or.inl ⟨sale.id, row, hrow, hstored⟩
  · obtain ⟨row, hrow, hsold⟩ := mem_scrapedSales.mp hsale
    obtain ⟨sourceProductId, hstored, hsame⟩ := Option.map_eq_some_iff.mp hsold
    rw [← hid, ← hsame]
    exact Or.inr ⟨sale.id, row, hrow, hstored⟩

/-- A promotion books the sales that are staged. -/
theorem books_promoteSoldObs (sealed : Set ProductId) (call : PromoteCall) (products : Products)
    (tables : SoldTables) :
    Books sealed (viewOfSales products tables)
      (viewOfSales products (promoteSoldObs call tables).1) where
  kept := .refl products
  staged := fun _ hid =>
    Or.inl (ofSales_markOwnPromoted _ _ _ (ofSales_markScrapedPromoted _ _ _ hid))
  observed := by
    intro key hkey
    rcases observed_of_promoteChannel key hkey with hown | hscraped
    · refine (observed_of_promoteChannel key hown).imp_right fun hsale => ?_
      exact Or.inl (sourceProductId_mem_ofSales (Or.inl hsale))
    · rw [scrapedSales_markOwnPromoted] at hscraped
      exact Or.inr (Or.inl (sourceProductId_mem_ofSales (Or.inr hscraped)))

end Sales

/-! ## The prices of Shopify -/

section Shopify

open AutoMana.Shopify

def viewOfShopify (tables : ShopifyTables) : View where
  products := tables.products
  staged := ∅
  observed := observedIn tables.priceObservation

/-- The source products in the dictionary are those of cards. -/
def BooksCards (products : Products) (cvToSp : Table CardVersionId SourceProductId) : Prop :=
  ∀ card id, cvToSp.get? card = some id → OfCard products id

theorem booksCards_of_bootstrap {supply : Staging.IdSupply} {cards : SourceId → List CardVersionId}
    {sources : List SourceId} {state next : Products × Table CardVersionId SourceProductId}
    (hcards : BooksCards state.1 state.2)
    (hbootstrap : bootstrapSources supply cards sources state = some next) :
    Kept state.1 next.1 ∧ BooksCards next.1 next.2 := by
  induction sources generalizing state with
  | nil =>
    obtain rfl := Option.some.inj hbootstrap
    exact ⟨.refl _, hcards⟩
  | cons sourceId rest ih =>
    obtain ⟨products, cvToSp⟩ := state
    rw [bootstrapSources] at hbootstrap
    obtain ⟨⟨middle, mapping⟩, hfirst, hrest⟩ := Option.bind_eq_some_iff.mp hbootstrap
    obtain ⟨ensured, hensure, hsame⟩ := Option.map_eq_some_iff.mp hfirst
    obtain ⟨rfl, rfl⟩ := Prod.mk.inj hsame
    have hkept := kept_of_grow (Staging.productsGrow_of_ensure hensure)
    have hbooks : BooksCards ensured (cvToSp.setAll ((cards sourceId).flatMap fun card =>
        (Staging.productLookup ensured sourceId card).map fun product => (card, product.2))) := by
      intro card id hget
      rw [Table.get?_setAll] at hget
      rcases Option.or_eq_some_iff.mp hget with hnew | ⟨-, hstored⟩
      · obtain ⟨before, after, hsplit, -⟩ := List.lookup_eq_some_iff.mp hnew
        have hmem := List.mem_reverse.mp (hsplit ▸ List.mem_append_right before List.mem_cons_self)
        obtain ⟨other, -, hentry⟩ := List.mem_flatMap.mp hmem
        obtain ⟨product, hlookup, hpair⟩ := List.mem_map.mp hentry
        obtain ⟨rfl, rfl⟩ := Prod.mk.inj hpair
        exact ofCard_of_lookup hlookup
      · exact (hcards card id hstored).mono hkept
    obtain ⟨hlater, hlast⟩ := ih hbooks hrest
    exact ⟨hkept.trans hlater, hlast⟩

/-- A promotion books the prices of the cards with the ids of its rows. -/
theorem books_promoteObservations (sealed : Set ProductId) {call : PromoteCall} {orders : Orders}
    {tables next : ShopifyTables} (hpromote : promoteObservations call orders tables = some next) :
    Books sealed (viewOfShopify tables) (viewOfShopify next) := by
  simp only [promoteObservations] at hpromote
  split_ifs at hpromote
  · cases hpromote
    exact .refl sealed _
  · simp only [Option.bind_eq_bind, Option.bind_eq_some_iff, Option.dite_none_right_eq_some,
      Option.some.injEq] at hpromote
    obtain ⟨bookings, hbookings, priceObservation, hcopy, -, rfl⟩ := hpromote
    obtain ⟨booked, hbootstrap, rfl⟩ := Option.map_eq_some_iff.mp hbookings
    have hempty : BooksCards tables.products .empty := fun card id hget => by cases hget
    obtain ⟨hkept, hcards⟩ := booksCards_of_bootstrap hempty hbootstrap
    refine ⟨hkept, fun _ hid => Or.inl hid, fun key hkey => ?_⟩
    rw [PromoteCall.bulkCopyObservations] at hcopy
    split_ifs at hcopy
    · cases hcopy
      exact Or.inl hkey
    · obtain ⟨inserted, hinserted, rfl⟩ := Option.map_eq_some_iff.mp hcopy
      obtain ⟨observation, hget⟩ := Option.isSome_iff_exists.mp hkey
      rcases Table.stored_or_mem_of_insertMissing hget with hstored | hmem
      · exact Or.inl (Option.isSome_of_eq_some hstored)
      · obtain ⟨record, hrecord, hobservation⟩ := exists_of_mem_mapM hinserted hmem
        obtain ⟨row, -, hrow⟩ := List.mem_filterMap.mp hrecord
        simp only [ObsRecord.observation?, Option.bind_eq_bind, Option.bind_eq_some_iff,
          Option.pure_def, Option.some.injEq, Prod.mk.injEq] at hobservation
        obtain ⟨_, -, _, -, _, -, rfl, -⟩ := hobservation
        simp only [PromoteCall.record?, Option.bind_eq_bind, Option.bind_eq_some_iff,
          Option.pure_def, Option.some.injEq] at hrow
        obtain ⟨_, -, card, -, sourceProductId, hbooked, _, -, rfl⟩ := hrow
        exact Or.inr (Or.inr (Or.inl (hcards card sourceProductId hbooked)))

end Shopify

/-! ## Runs -/

/-- A transaction of a load that is committed. -/
inductive Load (sealed : Set ProductId) : View → View → Prop
  | loadWindow (call : Staging.LoadCall) (raw : List Staging.RawPrice) (window : Window)
      (tables : Staging.LoadTables) :
      Load sealed (viewOfLoad tables) (viewOfLoad (Staging.loadWindow call raw window tables))
  | promoteBatch (locale : TextLocale) (dims : Staging.PromotionDims) (failed : Window → Bool)
      (window : Window) (products : Products) (tables : Staging.StagingTables) :
      Load sealed (viewOfStaging products tables)
        (viewOfStaging products (Staging.promoteBatch locale dims failed window tables))
  | resolvePriceRejects {context : Staging.RetryContext} {catalogue : Staging.Catalogue}
      {products : Products} {rejects : SerialTable Staging.RejectPrice} {pLimit : Option Nat}
      {pOnlyUnresolved : Bool} {working : Staging.WorkingSet pLimit pOnlyUnresolved rejects}
      {scan : Staging.RetryScan catalogue working.rows} {choice : Staging.UpdateChoice}
      {result : Staging.RetryResult} {count : Nat}
      (hresolve : Staging.resolvePriceRejects context catalogue products rejects working scan
        choice = some (result, count)) :
      Load sealed ⟨products, ∅, ∅⟩ ⟨result.products, ofPrices (result.refed.map Prod.snd), ∅⟩
  | mtgjsonProducts {call : Mtgjson.LoadCall} {tables next : Mtgjson.MtgjsonTables}
      (hbootstrap : Mtgjson.bootstrap call tables = some next) :
      Load sealed (viewOfMtgjson tables) (viewOfMtgjson next)
  | mtgjsonWindow {call : Mtgjson.LoadCall} {plan : Mtgjson.Plan} {v_data_provider_id : Nat}
      {window : Window} {tables next : Mtgjson.MtgjsonTables}
      (hpromote : Mtgjson.promoteWindow call plan v_data_provider_id window tables = some next) :
      Load sealed (viewOfMtgjson tables) (viewOfMtgjson next)
  | sealedWindow {call : Sealed.LoadCall} {plan : Sealed.Plan} {v_data_provider_id : Nat}
      {window : Window} {tables next : Sealed.SealedTables}
      (hsealed : ∀ uuid product, tables.sealedProducts.get? uuid = some product →
        product ∈ sealed)
      (hpromote : Sealed.promoteWindow call plan v_data_provider_id window tables = some next) :
      Load sealed (viewOfSealed tables) (viewOfSealed next)
  | opentcgPrices {load : OpenTcg.Load} {allSkus : List (Nat × List Json)}
      {tables next : OpenTcg.Tables} {count : Nat}
      (hload : OpenTcg.loadOpentcgPrices load allSkus tables = some (next, count)) :
      Load sealed (viewOfOpenTcg tables) (viewOfOpenTcg next)
  | scryfallPriceBatch {catalogue : CardPrices.Catalogue} {engine : CardPrices.Engine}
      {tsDate : Int} {rows : List CardPrices.PriceRow} {tables next : CardPrices.Tables}
      {count : Nat} (hupsert : CardPrices.upsertScryfallPriceBatch? catalogue engine tsDate rows
        tables = some (next, count)) :
      Load sealed (viewOfCards tables) (viewOfCards next)
  | sourceProductsForCards {catalogue : CardPrices.Catalogue} {engine : CardPrices.Engine}
      {cards : List CardVersionId} {sourceCode : String} {tables next : CardPrices.Tables}
      {spids : Table CardVersionId SourceProductId}
      (hupsert : CardPrices.upsertSourceProductsForCards? catalogue engine cards sourceCode
        tables = some (next, spids)) :
      Load sealed (viewOfCards tables) (viewOfCards next)
  | stageSold {call : PriceCharting.StageCall} {tables next : PriceCharting.StageTables}
      {report : PriceCharting.StageReport}
      (hstage : PriceCharting.stageSold call tables = some (next, report)) :
      Load sealed (viewOfScraped tables) (viewOfScraped next)
  | ensureProduct {supply : Staging.IdSupply} {card : CardVersionId} {products next : Products}
      (hensure : ensureProduct supply card products = some next) :
      Load sealed ⟨products, ∅, ∅⟩ ⟨next, ∅, ∅⟩
  | ensureSourceProduct {supply : Mtgjson.IdSupply} {card : CardVersionId} {sourceId : SourceId}
      {products next : Products} {returned : Option SourceProductId}
      (hensure : ensureSourceProduct supply card sourceId products = some (next, returned)) :
      Load sealed ⟨products, ∅, ∅⟩ ⟨next, {id | returned = some id}, ∅⟩
  | promoteSoldObs (call : Ebay.PromoteCall) (products : Products) (tables : Ebay.SoldTables) :
      Load sealed (viewOfSales products tables)
        (viewOfSales products (Ebay.promoteSoldObs call tables).1)
  | promoteObservations {call : Shopify.PromoteCall} {orders : Shopify.Orders}
      {tables next : Shopify.ShopifyTables}
      (hpromote : Shopify.promoteObservations call orders tables = some next) :
      Load sealed (viewOfShopify tables) (viewOfShopify next)

theorem Load.books {sealed : Set ProductId} {view next : View} (hload : Load sealed view next) :
    Books sealed view next := by
  cases hload with
  | loadWindow call raw window tables => exact books_loadWindow sealed call raw window tables
  | promoteBatch => exact books_promoteBatch sealed _
  | resolvePriceRejects hresolve => exact books_resolvePriceRejects sealed hresolve
  | mtgjsonProducts hbootstrap => exact books_bootstrap sealed hbootstrap
  | mtgjsonWindow hpromote => exact books_mtgjsonWindow sealed hpromote
  | sealedWindow hsealed hpromote => exact books_sealedWindow hsealed hpromote
  | opentcgPrices hload => exact books_loadOpentcgPrices sealed hload
  | scryfallPriceBatch hupsert => exact books_upsertScryfallPriceBatch sealed hupsert
  | sourceProductsForCards hupsert => exact books_upsertSourceProductsForCards sealed hupsert
  | stageSold hstage => exact books_stageSold sealed hstage
  | ensureProduct hensure => exact books_ensureProduct sealed hensure
  | ensureSourceProduct hensure => exact books_ensureSourceProduct sealed hensure
  | promoteSoldObs call products tables => exact books_promoteSoldObs sealed call products tables
  | promoteObservations hpromote => exact books_promoteObservations sealed hpromote

/-- What `delete_card_query` does to the products. -/
def deleteCard (card : CardVersionId) (products : Products) : Products :=
  { products with
    mtgCardProducts := products.mtgCardProducts.deleteWhere fun _ linked => linked = card
    mtgCardProducts_unique :=
      (List.filter_sublist.map Prod.snd).nodup products.mtgCardProducts_unique }

/-- The products, with what was linked, staged and observed so far. -/
structure Book where
  products : Products
  linked : Set (ProductId × CardVersionId)
  staged : Set SourceProductId
  observed : Set ObservationKey

namespace Book

variable (book : Book)

/-- The load reads these tables. -/
structure Shows (view : View) : Prop where
  products : view.products = book.products
  staged : view.staged ⊆ book.staged
  observed : view.observed ⊆ book.observed

/-- The id of a new product was not drawn before: no row of `product_ref` is ever deleted. -/
def Draws (next : Products) : Prop :=
  ∀ product card, next.mtgCardProducts.get? product = some card →
    book.products.mtgCardProducts.get? product = some card ∨
      ∀ other, (product, other) ∉ book.linked

def after (next : View) : Book where
  products := next.products
  linked := book.linked ∪ {link | next.products.mtgCardProducts.get? link.1 = some link.2}
  staged := book.staged ∪ next.staged
  observed := book.observed ∪ next.observed

def delete (card : CardVersionId) : Book :=
  { book with products := deleteCard card book.products }

end Book

/-- Loads and deletions of cards, one after the other, and the cards that were deleted. -/
inductive Run (sealed : Set ProductId) (book : Book) : List CardVersionId → Book → Prop
  | start : Run sealed book [] book
  | load {deleted : List CardVersionId} {middle : Book} {view next : View}
      (hrun : Run sealed book deleted middle) (hload : Load sealed view next)
      (hshows : middle.Shows view) (hdraws : middle.Draws next.products) :
      Run sealed book deleted (middle.after next)
  | delete {deleted : List CardVersionId} {middle : Book}
      (hrun : Run sealed book deleted middle) (card : CardVersionId) :
      Run sealed book (card :: deleted) (middle.delete card)

/-- Nothing is loaded. -/
def opened : Book := ⟨⟨.empty, List.nodup_nil, .empty, List.nodup_nil⟩, ∅, ∅, ∅⟩

/-- The source product is that of a product that is sealed, or was linked to a card. -/
def Known (sealed : Set ProductId) (book : Book) (id : SourceProductId) : Prop :=
  ∃ product, book.products.sourceProduct.get? id = some product ∧
    (product.productId ∈ sealed ∨ ∃ card, (product.productId, card) ∈ book.linked)

structure Sound (sealed : Set ProductId) (deleted : List CardVersionId) (book : Book) : Prop where
  linked : ∀ product card, book.products.mtgCardProducts.get? product = some card →
    (product, card) ∈ book.linked
  owner : ∀ product card other, (product, card) ∈ book.linked → (product, other) ∈ book.linked →
    card = other
  kept : ∀ product card, (product, card) ∈ book.linked → card ∉ deleted →
    book.products.mtgCardProducts.get? product = some card
  staged : ∀ id ∈ book.staged, Known sealed book id
  observed : ∀ key ∈ book.observed, Known sealed book key.sourceProductId

section Runs

variable {sealed : Set ProductId} {deleted : List CardVersionId} {book middle later : Book}
  {view next : View}

theorem sound_opened : Sound sealed [] opened where
  linked := fun _ _ hget => by cases hget
  owner := fun _ _ _ hlinked => hlinked.elim
  kept := fun _ _ hlinked => hlinked.elim
  staged := fun _ hid => hid.elim
  observed := fun _ hkey => hkey.elim

theorem Known.after {id : SourceProductId} (hknown : Known sealed book id)
    (hkept : Kept book.products next.products) : Known sealed (book.after next) id := by
  obtain ⟨product, hsource, hproduct⟩ := hknown
  refine ⟨product, hkept.sourceProduct _ _ hsource, hproduct.imp_right ?_⟩
  rintro ⟨card, hlinked⟩
  exact ⟨card, Or.inl hlinked⟩

theorem known_of_card {id : SourceProductId} (hcard : OfCard next.products id) :
    Known sealed (book.after next) id := by
  obtain ⟨card, sourceId, hproduct⟩ := hcard
  obtain ⟨product, hsource, hlinked⟩ := isProductOf_iff.mp hproduct
  exact ⟨⟨product, sourceId⟩, hsource, Or.inr ⟨card, Or.inr hlinked⟩⟩

theorem Sound.load (hsound : Sound sealed deleted book) (hload : Load sealed view next)
    (hshows : book.Shows view) (hdraws : book.Draws next.products) :
    Sound sealed deleted (book.after next) := by
  have hbooks := hload.books
  have hkept : Kept book.products next.products := hshows.products ▸ hbooks.kept
  have hnew : ∀ product card other, (product, card) ∈ book.linked →
      next.products.mtgCardProducts.get? product = some other → card = other := by
    intro product card other hcard hother
    rcases hdraws product other hother with hstored | hfree
    · exact hsound.owner product card other hcard (hsound.linked product other hstored)
    · exact absurd hcard (hfree card)
  have hstaged : ∀ id, id ∈ view.staged → Known sealed (book.after next) id :=
    fun id hid => (hsound.staged id (hshows.staged hid)).after hkept
  refine ⟨fun product card hget => Or.inr hget, ?_, ?_, ?_, ?_⟩
  · rintro product card other (hcard | hcard) (hother | hother)
    · exact hsound.owner product card other hcard hother
    · exact hnew product card other hcard hother
    · exact (hnew product other card hother hcard).symm
    · exact Option.some.inj (hcard.symm.trans hother)
  · rintro product card (hcard | hcard) hlives
    · exact hkept.mtgCardProducts _ _ (hsound.kept product card hcard hlives)
    · exact hcard
  · rintro id (hid | hid)
    · exact (hsound.staged id hid).after hkept
    · rcases hbooks.staged id hid with hstored | hcard
      · exact hstaged id hstored
      · exact known_of_card hcard
  · rintro key (hkey | hkey)
    · exact (hsound.observed key hkey).after hkept
    · rcases hbooks.observed key hkey with hstored | hid | hcard | hsealed
      · exact (hsound.observed key (hshows.observed hstored)).after hkept
      · exact hstaged _ hid
      · exact known_of_card hcard
      · obtain ⟨product, hsource, hmem⟩ := hsealed
        exact ⟨product, hsource, Or.inl hmem⟩

theorem get?_delete (book : Book) (card : CardVersionId) (product : ProductId) :
    (book.delete card).products.mtgCardProducts.get? product =
      (book.products.mtgCardProducts.get? product).filter (· ≠ card) := by
  simp only [Book.delete, deleteCard, Table.get?_deleteWhere, decide_not]

theorem Sound.delete (hsound : Sound sealed deleted book) (card : CardVersionId) :
    Sound sealed (card :: deleted) (book.delete card) where
  linked := by
    intro product other hget
    rw [get?_delete, Option.filter_eq_some_iff] at hget
    exact hsound.linked product other hget.1
  owner := hsound.owner
  kept := by
    intro product other hlinked hlives
    rw [List.mem_cons, not_or] at hlives
    rw [get?_delete, hsound.kept product other hlinked hlives.2]
    simpa using hlives.1
  staged := hsound.staged
  observed := hsound.observed

theorem Run.sound (hrun : Run sealed opened deleted book) : Sound sealed deleted book := by
  induction hrun with
  | start => exact sound_opened
  | load _ hload hshows hdraws ih => exact ih.load hload hshows hdraws
  | delete _ card ih => exact ih.delete card

theorem Run.linked (hrun : Run sealed book deleted later) {link : ProductId × CardVersionId}
    (hlink : link ∈ book.linked) : link ∈ later.linked := by
  induction hrun with
  | start => exact hlink
  | load _ _ _ _ ih => exact Or.inl ih
  | delete _ _ ih => exact ih

theorem Run.sourceProduct (hrun : Run sealed book deleted later) {id : SourceProductId}
    {product : SourceProduct} (hget : book.products.sourceProduct.get? id = some product) :
    later.products.sourceProduct.get? id = some product := by
  induction hrun with
  | start => exact hget
  | load _ hload hshows _ ih =>
    exact hload.books.kept.sourceProduct id product (by rw [hshows.products]; exact ih)
  | delete _ _ ih => exact ih

/-- A product stays with its card until the card is deleted, and is not given to another one. -/
theorem Run.get?_mtgCardProducts (hrun : Run sealed book deleted later) {product : ProductId}
    {card : CardVersionId} (hlinked : (product, card) ∈ book.linked)
    (hget : book.products.mtgCardProducts.get? product = some card) :
    later.products.mtgCardProducts.get? product = if card ∈ deleted then none else some card := by
  induction hrun with
  | start => rw [hget, if_neg List.not_mem_nil]
  | load hbefore hload hshows hdraws ih =>
    split_ifs at ih ⊢ with hdeleted
    · rw [Option.eq_none_iff_forall_ne_some]
      intro other hother
      rcases hdraws product other hother with hstored | hfree
      · rw [ih] at hstored
        cases hstored
      · exact hfree card (hbefore.linked hlinked)
    · exact hload.books.kept.mtgCardProducts product card (by rw [hshows.products]; exact ih)
  | delete _ other ih =>
    rw [get?_delete, ih]
    by_cases hsame : card = other
    · simp [hsame]
    · simp [hsame, apply_ite]

/-- The row of the join for a card and a source. -/
def inputOf (row : ObservationKey × Observation) (card : CardVersionId) (sourceId : SourceId) :
    DailyInput where
  priceDate := row.1.tsDate
  key := {
    cardVersionId := card
    sourceId
    transactionTypeId := row.1.priceTypeId
    finishId := row.1.finishId
    conditionId := row.1.conditionId
    languageId := row.1.languageId }
  dataProviderId := row.1.dataProviderId
  prices := row.2.prices

theorem attributeCard_eq (products : Products) (row : ObservationKey × Observation) :
    attributeCard products row =
      (products.sourceProduct.get? row.1.sourceProductId).bind fun product =>
        (products.mtgCardProducts.get? product.productId).map fun card =>
          inputOf row card product.sourceId := by
  simp only [attributeCard, Option.bind_eq_bind, Option.map_eq_bind]
  rfl

theorem exists_of_attributeCard {products : Products} {row : ObservationKey × Observation}
    {input : DailyInput} (hattributed : attributeCard products row = some input) :
    ∃ product card sourceId,
      products.sourceProduct.get? row.1.sourceProductId = some ⟨product, sourceId⟩ ∧
        products.mtgCardProducts.get? product = some card ∧ input = inputOf row card sourceId := by
  rw [attributeCard_eq] at hattributed
  obtain ⟨⟨product, sourceId⟩, hsource, hcard⟩ := Option.bind_eq_some_iff.mp hattributed
  obtain ⟨card, hlinked, rfl⟩ := Option.map_eq_some_iff.mp hcard
  exact ⟨product, card, sourceId, hsource, hlinked, rfl⟩

section Sample

open AutoMana.Ebay AutoMana.Ebay.SoldHistory

def linkedProducts : Products :=
  { opened.products with
    mtgCardProducts := .single 107 7
    mtgCardProducts_unique := List.nodup_singleton _ }

def soldProducts : Products :=
  { linkedProducts with
    sourceProduct := .single 11450 ⟨107, 1⟩
    sourceProduct_unique := List.nodup_singleton _ }

theorem ensureProduct_opened :
    ensureProduct Mtgjson.sampleSupply.toIdSupply 7 opened.products = some linkedProducts := rfl

theorem ensureSourceProduct_linked :
    ensureSourceProduct Mtgjson.sampleSupply 7 1 linkedProducts =
      some (soldProducts, some 11450) := rfl

/-- A sale of card 7 is staged. -/
def stagedSale : SoldTables where
  staging := ⟨.single ⟨"1", "app", "a"⟩ { sampleSale 100 with sourceProductId := some 11450 },
    .empty⟩
  priceObservation := .empty

def promotedSale : SoldTables := (promoteSoldObs sampleCall stagedSale).1

/-- Its observation. -/
def soldRow : ObservationKey × Observation :=
  (sampleKey 11450, ⟨⟨none, none, some 100⟩, none, some 1, 0⟩)

def soldBook : Book :=
  ((opened.after ⟨linkedProducts, ∅, ∅⟩).after
    ⟨soldProducts, {id | some 11450 = some id}, ∅⟩).after (viewOfSales soldProducts promotedSale)

theorem run_soldBook (sealed : Set ProductId) : Run sealed opened [] soldBook := by
  have hproduct : Run sealed opened [] (opened.after ⟨linkedProducts, ∅, ∅⟩) :=
    .load .start (.ensureProduct ensureProduct_opened) ⟨rfl, subset_rfl, subset_rfl⟩
      fun _ _ _ => Or.inr fun _ hlinked => hlinked.elim
  have hsourceProduct := Run.load hproduct (.ensureSourceProduct ensureSourceProduct_linked)
    ⟨rfl, Set.empty_subset _, Set.empty_subset _⟩ fun _ _ hget => Or.inl hget
  refine hsourceProduct.load (.promoteSoldObs sampleCall soldProducts stagedSale) ⟨rfl, ?_, ?_⟩
    fun _ _ hget => Or.inl hget
  · rintro id (⟨key, row, hrow, hid⟩ | ⟨itemId, row, hrow, -⟩)
    · rw [stagedSale, Table.get?_single] at hrow
      split_ifs at hrow
      cases hrow
      exact Or.inr hid
    · cases hrow
  · rintro key hkey
    cases hkey

theorem soldRow_mem : soldRow.1 ∈ soldBook.observed := by
  right
  change ((promoteSoldObs sampleCall stagedSale).1.priceObservation.get? _).isSome = true
  decide

theorem attributeCard_soldRow :
    attributeCard soldBook.products soldRow = some (inputOf soldRow 7 1) := by
  rw [attributeCard_eq]
  simp [soldBook, Book.after, viewOfSales, soldProducts, linkedProducts, soldRow, sampleKey]

end Sample

/-- An observation is attributed as before until its card is deleted, and to no card afterwards.
While the card is there, its prices of the source are all of one source product. -/
theorem attributions_kept {before : List CardVersionId} (hbefore : Run sealed opened before book)
    (hrun : Run sealed book deleted later) {row : ObservationKey × Observation}
    {input : DailyInput} (hattributed : attributeCard book.products row = some input) :
    (attributeCard later.products row =
      if input.key.cardVersionId ∈ deleted then none else some input) ∧
    ∀ other otherInput, attributeCard later.products other = some otherInput →
      otherInput.key.cardVersionId = input.key.cardVersionId →
      otherInput.key.sourceId = input.key.sourceId → input.key.cardVersionId ∉ deleted →
        other.1.sourceProductId = row.1.sourceProductId := by
  obtain ⟨product, card, sourceId, hsource, hlinked, rfl⟩ := exists_of_attributeCard hattributed
  have hlater := hrun.get?_mtgCardProducts (hbefore.sound.linked product card hlinked) hlinked
  have hsourceLater := hrun.sourceProduct hsource
  constructor
  · change _ = if card ∈ deleted then none else some (inputOf row card sourceId)
    rw [attributeCard_eq, hsourceLater, Option.bind_some, hlater]
    split_ifs <;> rfl
  · intro other otherInput hother hcard hsourceId hlives
    obtain ⟨otherProduct, otherCard, otherSource, hotherSource, hotherLinked, rfl⟩ :=
      exists_of_attributeCard hother
    obtain rfl : otherCard = card := hcard
    obtain rfl : otherSource = sourceId := hsourceId
    have hkept := hlater.trans (if_neg hlives)
    -- a card has one product, and a product one source product of the source
    obtain rfl := Table.key_unique later.products.mtgCardProducts_unique hotherLinked hkept
    exact Table.key_unique later.products.sourceProduct_unique hotherSource hsourceLater

theorem attributions_kept_deleted :
    attributeCard (soldBook.delete 7).products soldRow = none := by
  have hkept := attributions_kept (run_soldBook ∅) (.delete .start 7) attributeCard_soldRow
  exact hkept.1.trans (if_pos List.mem_cons_self)

/-- Every observation is that of a sealed product or is attributed to a card, unless its card was
deleted. -/
theorem observations_attributed (hrun : Run sealed opened deleted book) {key : ObservationKey}
    (hkey : key ∈ book.observed) (observation : Observation) :
    OfSealed sealed book.products key.sourceProductId ∨
      (attributeCard book.products (key, observation)).isSome ∨
      ∃ product card, book.products.sourceProduct.get? key.sourceProductId = some product ∧
        (product.productId, card) ∈ book.linked ∧ card ∈ deleted := by
  obtain ⟨product, hsource, hsealed | ⟨card, hlinked⟩⟩ := hrun.sound.observed key hkey
  · exact Or.inl ⟨product, hsource, hsealed⟩
  · by_cases hdeleted : card ∈ deleted
    · exact Or.inr (Or.inr ⟨product, card, hsource, hlinked, hdeleted⟩)
    · refine Or.inr (Or.inl ?_)
      rw [attributeCard_eq, hsource, Option.bind_some,
        hrun.sound.kept product.productId card hlinked hdeleted]
      rfl

theorem observations_attributed_sale :
    (attributeCard soldBook.products soldRow).isSome := by
  rcases observations_attributed (run_soldBook ∅) soldRow_mem soldRow.2 with
    ⟨_, _, hsealed⟩ | hattributed | ⟨_, _, _, _, hdeleted⟩
  · exact hsealed.elim
  · exact hattributed
  · cases hdeleted

end Runs

end AutoMana.Pricing.Attribution
