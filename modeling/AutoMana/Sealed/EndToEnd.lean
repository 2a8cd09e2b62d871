import AutoMana.Sealed.Identified
import AutoMana.Sealed.Services

/-!
# From a set JSON to the prices of a set

A bootstrap registers a product in `mtg_sealed_products`, and the prices of a set are
read through that table. The stream and the promotion know a product by
`pricing.sealed_products` only, which no bootstrap writes. The price of a bootstrapped
product is therefore streamed with those of the cards, and no set has a price.
-/

namespace AutoMana.Sealed

open Relational Pricing
open Mtgjson (StagedPrice)

/-! ## A first pricing -/

/-- A set JSON that is bootstrapped and a price payload that is streamed, where nothing else
has written a sealed product or a sealed price. -/
structure FirstPricing where
  call : LoadCall
  plan : Plan
  parsers : Parsers
  draws : BootstrapDraws
  setCode : String
  raw : Json
  payload : List (String × Json)
  catalogue : Catalogue
  loaded : Catalogue
  cardStaging : SerialTable StagedPrice
  streamed : SerialTable StagedPrice
  tables : SealedTables
  staged : SealedTables
  bootstrap : bootstrapSealedCatalogFromSet call.locale parsers draws setCode raw catalogue =
    some loaded
  sealedProducts_empty : tables.sealedProducts.rows = []
  staging_empty : tables.staging.values = []
  latest_empty : tables.sealedPriceLatest.rows = []
  stream : streamToStaging parsers payload cardStaging tables = some (streamed, staged)

namespace FirstPricing

variable (run : FirstPricing)

/-- The products that are bootstrapped. -/
def products : List CatalogProduct :=
  (productsOf? run.parsers run.setCode run.raw).getD []

/-- The tables after the promotion. -/
def promoted : SealedTables :=
  (loadPriceObservationFromMtgjsonSealedStaging run.call run.plan run.staged).1

/-- What `get_sealed_prices_by_set` returns in the end. -/
def prices : List SealedPriceRow :=
  getSealedPricesBySet run.call.locale run.setCode run.loaded run.promoted

/-- An entry of the payload has a date and a price that parse. -/
def HasPrice (mtgjsonUuid : String) : Prop :=
  ∃ entry, (mtgjsonUuid, entry) ∈ run.payload ∧
    iterSealedRows run.parsers mtgjsonUuid entry ≠ []

/-- The price is that of a staged row of the product, and no staged row of it is newer. -/
def IsNewestPrice (mtgjsonUuid : String) (price : SealedPriceRow) : Prop :=
  ∃ row ∈ run.staged.staging.values, row.sealedUuid = mtgjsonUuid ∧
    row.priceDate = price.priceDate ∧
    (∃ cents : Nat, row.priceValue.cents? = some (cents : Int) ∧
      (price.prices.listAvgCents = some cents ∨ price.prices.soldAvgCents = some cents)) ∧
    ∀ other ∈ run.staged.staging.values, other.sealedUuid = mtgjsonUuid →
      other.priceDate ≤ row.priceDate

/-- The rows of a product are staged as sealed ones, and its newest price is returned. -/
structure Priced (mtgjsonUuid : String) : Prop where
  routed : ∀ entry, (mtgjsonUuid, entry) ∈ run.payload →
    ∀ record ∈ iterSealedRows run.parsers mtgjsonUuid entry,
      ∃ row ∈ run.staged.staging.values, stagedSealed? record = some row
  notCards : ∀ row ∈ run.streamed.values, row.cardUuid = mtgjsonUuid →
    row ∈ run.cardStaging.values
  returned : ∃ price ∈ run.prices, price.mtgjsonUuid = some mtgjsonUuid ∧
    run.IsNewestPrice mtgjsonUuid price

/-- Every bootstrapped product that has a price is priced. -/
def PricedEndToEnd : Prop :=
  ∀ product ∈ run.products, run.HasPrice product.mtgjsonUuid → run.Priced product.mtgjsonUuid

/-! ## What the stream and the promotion miss -/

theorem fetchAllSealedUuids_eq_nil : fetchAllSealedUuids run.tables = [] := by
  rw [fetchAllSealedUuids, run.sealedProducts_empty, List.map_nil]

/-- No row is routed to the sealed staging table. -/
theorem staging_eq_nil : run.staged.staging.values = [] := by
  apply List.eq_nil_iff_forall_not_mem.mpr
  intro row hrow
  rcases (routed_of_streamToStaging run.stream).2.1 row hrow with hstored | hsealed
  · rw [run.staging_empty] at hstored
    exact List.not_mem_nil hstored
  · rw [run.fetchAllSealedUuids_eq_nil] at hsealed
    exact List.not_mem_nil hsealed

/-- A product with a price is not routed. -/
theorem not_priced {mtgjsonUuid : String} (hprice : run.HasPrice mtgjsonUuid) :
    ¬ run.Priced mtgjsonUuid := by
  intro hpriced
  obtain ⟨entry, hentry, hrows⟩ := hprice
  obtain ⟨record, hrecord⟩ := List.exists_mem_of_ne_nil _ hrows
  obtain ⟨row, hrow, -⟩ := hpriced.routed entry hentry record hrecord
  rw [run.staging_eq_nil] at hrow
  exact List.not_mem_nil hrow

end FirstPricing

/-! ## Tables without products -/

/-- No sealed product is known, and none has a price. -/
structure WithoutProducts (tables : SealedTables) : Prop where
  sealedProducts : ∀ mtgjsonUuid, tables.sealedProducts.get? mtgjsonUuid = none
  sealedPriceLatest : ∀ latest, tables.sealedPriceLatest.get? latest = none

section WithoutProducts

variable {call : LoadCall} {plan : Plan} {v_data_provider_id : Nat} {tables next : SealedTables}

theorem WithoutProducts.promoteWindow {window : Window} (hwithout : WithoutProducts tables)
    (hpromote : promoteWindow call plan v_data_provider_id window tables = some next) :
    WithoutProducts next := by
  have hpromoted := promoted_of_promoteWindow hpromote
  constructor
  case sealedProducts =>
    intro mtgjsonUuid
    rw [hpromoted.sealedProducts]
    exact hwithout.sealedProducts mtgjsonUuid
  case sealedPriceLatest =>
    intro latest
    rw [hpromoted.latest_kept, hwithout.sealedPriceLatest]
    intro price hprice
    -- a resolved row would have joined a product
    obtain ⟨row, -, -, hresolves⟩ := mem_resolvedRows.mp hprice
    have hjoins := isSome_latestKey?_iff.mp (Option.isSome_of_eq_some hresolves.latest)
    rw [hpromoted.sealedProducts, hwithout.sealedProducts] at hjoins
    exact absurd hjoins.2.1 Bool.false_ne_true

theorem WithoutProducts.promoteOrWarn (hwithout : WithoutProducts tables) (window : Window) :
    WithoutProducts (promoteOrWarn call plan v_data_provider_id tables window) := by
  unfold Sealed.promoteOrWarn
  cases hpromote : Sealed.promoteWindow call plan v_data_provider_id window tables with
  | none => exact hwithout
  | some next => exact hwithout.promoteWindow hpromote

theorem WithoutProducts.windows (hwithout : WithoutProducts tables) (windows : List Window) :
    WithoutProducts (windows.foldl (Sealed.promoteOrWarn call plan v_data_provider_id) tables) := by
  induction windows generalizing tables with
  | nil => exact hwithout
  | cons window rest ih => exact ih (hwithout.promoteOrWarn window)

/-- A promotion without products leaves no price. -/
theorem WithoutProducts.load (hwithout : WithoutProducts tables) :
    WithoutProducts (loadPriceObservationFromMtgjsonSealedStaging call plan tables).1 := by
  have hnormalized : WithoutProducts (normalizeStaging call.locale tables) :=
    ⟨hwithout.sealedProducts, hwithout.sealedPriceLatest⟩
  unfold loadPriceObservationFromMtgjsonSealedStaging
  cases call.batchDays with
  | none => exact hwithout
  | some batchDays =>
    by_cases hdays : 0 < batchDays
    · dsimp only
      rw [dif_pos hdays]
      cases providerId? (normalizeStaging call.locale tables) with
      | none => exact hnormalized
      | some v_data_provider_id => exact hnormalized.windows _
    · dsimp only
      rw [dif_neg hdays]
      exact hwithout

end WithoutProducts

namespace FirstPricing

variable (run : FirstPricing)

/-- Whatever is bootstrapped and streamed, no set has a price. -/
theorem prices_eq_nil : run.prices = [] := by
  have hstaged := (routed_of_streamToStaging run.stream).1
  have hwithout : WithoutProducts run.staged := by
    rw [hstaged]
    constructor
    case sealedProducts =>
      intro mtgjsonUuid
      rw [Table.get?, run.sealedProducts_empty, List.lookup_nil]
    case sealedPriceLatest =>
      intro latest
      rw [Table.get?, run.latest_empty, List.lookup_nil]
  have hempty : run.promoted.sealedPriceLatest.rows = [] := by
    apply List.eq_nil_iff_forall_not_mem.mpr
    intro row hrow
    have hstored := (Table.mem_rows_iff _ row.1 row.2).mp hrow
    rw [promoted, hwithout.load.sealedPriceLatest] at hstored
    cases hstored
  rw [prices, getSealedPricesBySet, hempty]
  exact List.flatMap_eq_nil_iff.mpr fun _ _ => List.filterMap_nil

/-- The products are registered in `mtg_sealed_products` all the same. -/
theorem identified_of_mem_products (hconsistent : run.catalogue.Consistent)
    (hseeded : ∃ refId, run.catalogue.sealedIdentifierRef.get? refId = some "mtgjson_uuid")
    {product : CatalogProduct} (hproduct : product ∈ run.products) :
    run.loaded.Identified product.mtgjsonUuid := by
  obtain ⟨-, -, hidentified⟩ := identified_of_bootstrap hconsistent hseeded run.bootstrap
  exact hidentified product hproduct

/-- Products are priced end to end exactly when none of those bootstrapped has a price in
the payload. -/
theorem priced_end_to_end_iff : run.PricedEndToEnd ↔
    ∀ product ∈ run.products, ¬ run.HasPrice product.mtgjsonUuid := by
  constructor
  · intro hpriced product hproduct hprice
    exact run.not_priced hprice (hpriced product hproduct hprice)
  · intro hnone product hproduct hprice
    exact absurd hprice (hnone product hproduct)

end FirstPricing

/-! ## A box with a price -/

def boxParsers : Parsers where
  fromIsoformat := fun date => if date = "2024-10-04" then some 20000 else none
  toFloat
    | .number units scale => some (.decimal units scale)
    | _ => none
  toStr
    | .str text => text
    | _ => ""

def boxDraws : BootstrapDraws where
  identifierKeys :=
    ["mtgjson_uuid", "tcgplayer_product_id", "cardkingdom_id", "mcm_id", "scg_id", "abu_id"]
  identifierKeys_perm := List.Perm.refl _
  sealedTypeId := String.length
  sealedSubtypeId := String.length
  sealedProductId := fun stored => stored.rows.length
  productId := fun stored => stored.rows.length

/-- The catalogue before its first bootstrap. -/
def boxCatalogue : Catalogue where
  sets := .single 1 "blb"
  cardGamesRef := .single 1 "mtg"
  languageRef := .single 1 "en"
  sealedIdentifierRef := ⟨[(1, "mtgjson_uuid"), (2, "tcgplayer_product_id"), (3, "cardkingdom_id"),
    (4, "mcm_id"), (5, "scg_id"), (6, "abu_id")], by decide⟩
  sealedTypeRef := ⟨.single "booster_box" (2, ()), List.nodup_singleton _⟩
  sealedSubtypeRef := ⟨.single "collector" (1, ()), List.nodup_singleton _⟩
  sealedProduct := .empty
  sealedExternalIdentifier := .empty
  productRef := .empty
  mtgSealedProducts := .empty

/-- A set with one sealed product. -/
def boxSet : Json := .dict [("data", .dict [("sealedProduct", .list [.dict [
  ("uuid", .str "collector-box"),
  ("name", .str "Collector Booster Box"),
  ("category", .str "booster_box"),
  ("subtype", .str "collector"),
  ("releaseDate", .str "2024-10-04"),
  ("identifiers", .dict [("tcgplayerProductId", .str "541175")])]])])]

/-- One price of the product. -/
def boxPayload : List (String × Json) := [("collector-box", .dict [("paper", .dict [("tcgplayer",
  .dict [("retail", .dict [("normal", .dict [("2024-10-04", .number 25499 2)])]),
    ("currency", .str "USD")])])])]

def boxTables : SealedTables := { sampleTables [] with sealedProducts := .empty }

theorem isSome_boxBootstrap : (bootstrapSealedCatalogFromSet .posix boxParsers boxDraws "blb" boxSet
    boxCatalogue).isSome := by
  decide +kernel

theorem isSome_boxStream : (streamToStaging boxParsers boxPayload .empty boxTables).isSome := by
  decide +kernel

def boxPricing : FirstPricing where
  call := sampleCall
  plan := .inOrder
  parsers := boxParsers
  draws := boxDraws
  setCode := "blb"
  raw := boxSet
  payload := boxPayload
  catalogue := boxCatalogue
  loaded := Option.get _ isSome_boxBootstrap
  cardStaging := .empty
  streamed := (Option.get _ isSome_boxStream).1
  tables := boxTables
  staged := (Option.get _ isSome_boxStream).2
  bootstrap := (Option.some_get isSome_boxBootstrap).symm
  sealedProducts_empty := rfl
  staging_empty := rfl
  latest_empty := rfl
  stream := (Option.some_get isSome_boxStream).symm

theorem bootstrapped_box_is_not_priced : ¬ boxPricing.PricedEndToEnd := by
  intro hpriced
  have hbox : boxPricing.products.map (·.mtgjsonUuid) = ["collector-box"] := by
    decide +kernel
  have hmem : "collector-box" ∈ boxPricing.products.map (·.mtgjsonUuid) := by
    rw [hbox]
    exact List.mem_singleton_self _
  obtain ⟨product, hproduct, huuid⟩ := List.mem_map.mp hmem
  have hprice : boxPricing.HasPrice product.mtgjsonUuid := by
    rw [huuid]
    refine ⟨_, List.mem_singleton_self _, ?_⟩
    apply List.ne_nil_of_length_pos
    decide +kernel
  exact boxPricing.not_priced hprice (hpriced product hproduct hprice)

end AutoMana.Sealed
