import AutoMana.Relational.Arrangement
import AutoMana.Shopify.StageRaw
import AutoMana.Staging.Load

/-!
# Promoting the Shopify prices

The staged rows with a card and a source are booked as observations. Their `tcg_id`s are mapped to
cards, the cards are given products source by source, and the products are collected in one
dictionary under the card. Rows that are not mapped give no record. The staging table is
truncated after the insert.
-/

namespace AutoMana.Shopify

open Relational Pricing Staging

/-! ## The variation -/

/-- `str.lower` and `str.strip` -/
structure PythonText where
  lower : String → String
  strip : String → String

def variationConditionMap : List (String × String) :=
  [("near mint", "NM"), ("lightly played", "LP"), ("slightly played", "LP"),
    ("moderately played", "MP"), ("heavily played", "HP"), ("damaged", "DMG")]

/-- `lower.endswith(" foil")` -/
def isFoil (lower : String) : Bool := " foil".toList.isSuffixOf lower.toList

/-- `lower[: -len(" foil")]` -/
def withoutFoil (lower : String) : String := .ofList (lower.toList.take (lower.length - 5))

/-- The codes of the condition and of the finish. -/
def mapVariation (text : PythonText) (variation : String) : String × String :=
  let lower := text.strip (text.lower variation)
  let base := if isFoil lower then text.strip (withoutFoil lower) else lower
  ((variationConditionMap.lookup base).getD "NM", if isFoil lower then "foil" else "nonfoil")

/-- `r["variation"] or "Near Mint"` -/
def variationOr (variation : Option String) : String :=
  match variation with
  | none => "Near Mint"
  | some text => if text = "" then "Near Mint" else text

/-- `ROUND_HALF_UP` rounds a half away from zero. -/
def priceToCents (price : Rat) : Int :=
  price.num.sign * Aggregate.roundedQuotient (price.num.natAbs * 100) price.den

/-! ## The tables -/

/-- The `tcgplayer_id` of the cards, and what `get_reference_ids` returns. -/
structure Reference where
  tcgplayerId : Table CardVersionId Int
  sellTypeId : Nat
  dataProviderId : Nat
  languageId : Nat
  conditions : Table String Nat
  finishes : Table String Nat

structure ShopifyTables where
  staging : List StagingRow
  products : Products
  priceObservation : Table ObservationKey Observation
  /-- `source_product_id REFERENCES source_product` -/
  referenced : ∀ row ∈ priceObservation.rows,
    (products.sourceProduct.get? row.1.sourceProductId).isSome

/-- What a run of `promote_observations` is given, and whether its insert raises for a reason
of its own. -/
structure PromoteCall where
  text : PythonText
  supply : IdSupply
  reference : Reference
  insertRaises : Bool

/-- The orders in which the sets and the rows of the queries are listed. -/
structure Orders where
  identifiers : Arrangement (Int × CardVersionId)
  sources : Arrangement SourceId
  cards : Arrangement CardVersionId

/-- `get_staging_rows` -/
def selected (staging : List StagingRow) : List StagingRow :=
  staging.filter fun row => row.tcgId.isSome && row.sourceId.isSome

/-! ## The lookups -/

/-- The `tcg_id`s that are looked up. -/
def tcgIds (rows : List StagingRow) : List Int := (rows.filterMap (·.tcgId)).filter (· ≠ 0)

/-- The rows of the query in `find_card_versions_by_tcg_ids`. -/
def Reference.identifierRows (reference : Reference) (tcgIds : List Int) :
    List (Int × CardVersionId) :=
  (reference.tcgplayerId.rows.filter fun row => row.2 ∈ tcgIds).map Prod.swap

def Reference.findCardVersions (reference : Reference) (orders : Orders) (tcgIds : List Int) :
    Table Int CardVersionId :=
  .ofPairs (orders.identifiers.list (reference.identifierRows tcgIds))

def sourceIds (rows : List StagingRow) : List SourceId :=
  (rows.filterMap (·.sourceId)).filter (· ≠ 0)

def relevantTcgIds (rows : List StagingRow) (sourceId : SourceId) : List Int :=
  tcgIds (rows.filter fun row => row.sourceId = some sourceId)

def cvIds (orders : Orders) (rows : List StagingRow) (tcgToCv : Table Int CardVersionId)
    (sourceId : SourceId) : List CardVersionId :=
  orders.cards.list ((relevantTcgIds rows sourceId).filterMap tcgToCv.get?)

/-- `bootstrap_source_products`. An empty list of cards adds nothing. -/
def bootstrapSourceProducts (supply : IdSupply) (cards : List CardVersionId) (sourceId : SourceId)
    (products : Products) : Option (Products × List (CardVersionId × SourceProductId)) :=
  (ensureProducts supply sourceId cards products).map fun next =>
    (next, cards.flatMap fun card =>
      (productLookup next sourceId card).map fun product => (card, product.2))

/-- The loop over the sources. -/
def bootstrapSources (supply : IdSupply) (cards : SourceId → List CardVersionId) :
    List SourceId → Products × Table CardVersionId SourceProductId →
      Option (Products × Table CardVersionId SourceProductId)
  | [], state => some state
  | sourceId :: rest, (products, cvToSp) =>
    (bootstrapSourceProducts supply (cards sourceId) sourceId products).bind fun bootstrapped =>
      bootstrapSources supply cards rest (bootstrapped.1, cvToSp.setAll bootstrapped.2)

/-- The products, and the two dictionaries. -/
structure Bookings where
  products : Products
  tcgToCv : Table Int CardVersionId
  cvToSp : Table CardVersionId SourceProductId

def PromoteCall.bookings (call : PromoteCall) (orders : Orders) (tables : ShopifyTables) :
    Option Bookings :=
  let rows := selected tables.staging
  let tcgToCv := call.reference.findCardVersions orders (tcgIds rows)
  (bootstrapSources call.supply (cvIds orders rows tcgToCv) (orders.sources.list (sourceIds rows))
    (tables.products, .empty)).map fun booked => ⟨booked.1, tcgToCv, booked.2⟩

/-! ## The records -/

/-- A row of the frame. -/
structure ObsRecord where
  tsDate : Option Int
  priceTypeId : Nat
  finishId : Nat
  conditionId : Nat
  languageId : Nat
  listAvgCents : Option Int
  sourceProductId : SourceProductId
  dataProviderId : Nat
  scrapedAt : Option Timestamp
  deriving DecidableEq

/-- The condition and the finish of a row. -/
def PromoteCall.grade? (call : PromoteCall) (row : StagingRow) : Option (Nat × Nat) := do
  let codes := mapVariation call.text (variationOr row.variation)
  let conditionId ← call.reference.conditions.get? codes.1
  let finishId ← call.reference.finishes.get? codes.2
  return (conditionId, finishId)

def PromoteCall.recordOf (call : PromoteCall) (row : StagingRow)
    (sourceProductId : SourceProductId) (grade : Nat × Nat) : ObsRecord where
  tsDate := row.date
  priceTypeId := call.reference.sellTypeId
  finishId := grade.2
  conditionId := grade.1
  languageId := call.reference.languageId
  listAvgCents := row.price.map priceToCents
  sourceProductId := sourceProductId
  dataProviderId := call.reference.dataProviderId
  scrapedAt := row.scrapedAt

/-- The record of a row in `_build_obs_dataframe`. -/
def PromoteCall.record? (call : PromoteCall) (bookings : Bookings) (row : StagingRow) :
    Option ObsRecord := do
  let tcgId ← row.tcgId
  let cardVersionId ← bookings.tcgToCv.get? tcgId
  let sourceProductId ← bookings.cvToSp.get? cardVersionId
  let grade ← call.grade? row
  return call.recordOf row sourceProductId grade

/-- The price as the column takes it. -/
def centsColumn? : Option Int → Option (Option Nat)
  | none => some none
  | some cents => if 0 ≤ cents ∧ cents ≤ 2147483647 then some (some cents.toNat) else none

/-- The record as the table takes it; `none` when it raises. -/
def ObsRecord.observation? (record : ObsRecord) : Option (ObservationKey × Observation) := do
  let tsDate ← record.tsDate
  let listAvgCents ← centsColumn? record.listAvgCents
  let scrapedAt ← record.scrapedAt
  return ({ tsDate
            sourceProductId := record.sourceProductId
            priceTypeId := record.priceTypeId
            finishId := record.finishId
            conditionId := record.conditionId
            languageId := record.languageId
            dataProviderId := record.dataProviderId },
          { prices := ⟨none, listAvgCents, none⟩
            listCount := none
            soldCount := none
            scrapedAt })

/-- `bulk_copy_observations`; `none` when it raises, and then no record is inserted. -/
def PromoteCall.bulkCopyObservations (call : PromoteCall) (records : List ObsRecord)
    (priceObservation : Table ObservationKey Observation) :
    Option (Table ObservationKey Observation) :=
  if records = [] then some priceObservation
  else if call.insertRaises then none
  else (records.mapM ObsRecord.observation?).map priceObservation.insertMissing

/-- `promote_observations`; `none` when it raises, which it does before the staging table is
truncated. -/
def promoteObservations (call : PromoteCall) (orders : Orders) (tables : ShopifyTables) :
    Option ShopifyTables :=
  let rows := selected tables.staging
  if rows = [] then some tables
  else do
    let bookings ← call.bookings orders tables
    let priceObservation ← call.bulkCopyObservations (rows.filterMap (call.record? bookings))
      tables.priceObservation
    if referenced : ∀ row ∈ priceObservation.rows,
        (bookings.products.sourceProduct.get? row.1.sourceProductId).isSome then
      some { staging := [], products := bookings.products, priceObservation, referenced }
    else none

/-! ## The cards -/

section Cards

variable {reference : Reference} {orders : Orders} {tcgId : Int} {card : CardVersionId}

theorem mem_tcgIds {rows : List StagingRow} :
    tcgId ∈ tcgIds rows ↔ tcgId ≠ 0 ∧ ∃ row ∈ rows, row.tcgId = some tcgId := by
  simp only [tcgIds, List.mem_filter, List.mem_filterMap, decide_eq_true_eq, and_comm]

theorem mem_identifierRows {wanted : List Int} :
    (tcgId, card) ∈ reference.identifierRows wanted ↔
      reference.tcgplayerId.get? card = some tcgId ∧ tcgId ∈ wanted := by
  simp only [Reference.identifierRows, List.mem_map, List.mem_filter, decide_eq_true_eq]
  constructor
  · rintro ⟨⟨card, tcgId⟩, ⟨hrow, hwanted⟩, hswap⟩
    obtain ⟨rfl, rfl⟩ := Prod.mk.inj hswap
    exact ⟨(Table.mem_rows_iff _ _ _).mp hrow, hwanted⟩
  · rintro ⟨hcard, hwanted⟩
    exact ⟨(card, tcgId), ⟨(Table.mem_rows_iff _ _ _).mpr hcard, hwanted⟩, rfl⟩

/-- The card of a `tcg_id` carries it. -/
theorem carries_of_findCardVersions {wanted : List Int}
    (hfound : (reference.findCardVersions orders wanted).get? tcgId = some card) :
    reference.tcgplayerId.get? card = some tcgId ∧ tcgId ∈ wanted :=
  mem_identifierRows.mp
    ((Arrangement.mem_list orders.identifiers).mp (Table.mem_of_get?_ofPairs hfound))

theorem exists_findCardVersions (orders : Orders) {wanted : List Int}
    (hcard : reference.tcgplayerId.get? card = some tcgId) (hwanted : tcgId ∈ wanted) :
    ∃ found, (reference.findCardVersions orders wanted).get? tcgId = some found := by
  rw [← Option.isSome_iff_exists, ← Table.mem_keys_iff, Reference.findCardVersions,
    Table.mem_keys_ofPairs]
  exact List.mem_map_of_mem ((Arrangement.mem_list orders.identifiers).mpr
    (mem_identifierRows.mpr ⟨hcard, hwanted⟩))

/-- Any of the cards with a `tcg_id` can be the one that is found. -/
theorem findCardVersions_lastly {wanted : List Int}
    (hidentifiers : orders.identifiers = .lastly (tcgId, card))
    (hcard : reference.tcgplayerId.get? card = some tcgId) (hwanted : tcgId ∈ wanted) :
    (reference.findCardVersions orders wanted).get? tcgId = some card := by
  rw [Reference.findCardVersions, hidentifiers]
  exact Table.get?_ofPairs_lastly (mem_identifierRows.mpr ⟨hcard, hwanted⟩)

/-- The `tcg_id` is staged under the source. -/
def StagedUnder (rows : List StagingRow) (tcgId : Int) (sourceId : SourceId) : Prop :=
  tcgId ≠ 0 ∧ sourceId ≠ 0 ∧ ∃ row ∈ rows, row.tcgId = some tcgId ∧ row.sourceId = some sourceId

theorem mem_sourceIds {rows : List StagingRow} {sourceId : SourceId} :
    sourceId ∈ sourceIds rows ↔ sourceId ≠ 0 ∧ ∃ row ∈ rows, row.sourceId = some sourceId := by
  simp only [sourceIds, List.mem_filter, List.mem_filterMap, decide_eq_true_eq, and_comm]

/-- A card is listed under the sources under which its `tcg_id` is staged. -/
theorem stagedUnder_iff {rows : List StagingRow} {wanted : List Int}
    (hfound : (reference.findCardVersions orders wanted).get? tcgId = some card)
    (sourceId : SourceId) :
    StagedUnder rows tcgId sourceId ↔ sourceId ∈ sourceIds rows ∧
      card ∈ cvIds orders rows (reference.findCardVersions orders wanted) sourceId := by
  simp only [cvIds, Arrangement.mem_list, List.mem_filterMap, relevantTcgIds, mem_tcgIds,
    List.mem_filter, decide_eq_true_eq, mem_sourceIds, StagedUnder]
  constructor
  · rintro ⟨htcg, hsource, row, hrow, hid, hshop⟩
    exact ⟨⟨hsource, row, hrow, hshop⟩, tcgId, ⟨htcg, row, ⟨hrow, hshop⟩, hid⟩, hfound⟩
  · rintro ⟨⟨hsource, -⟩, other, ⟨htcg, row, ⟨hrow, hshop⟩, hid⟩, hother⟩
    -- a card has one `tcg_id`
    have hcarries := (carries_of_findCardVersions hfound).1
    rw [(carries_of_findCardVersions hother).1] at hcarries
    obtain rfl := Option.some.inj hcarries
    exact ⟨htcg, hsource, row, hrow, hid, hshop⟩

end Cards

/-! ## The products of the cards -/

/-- The source product of a card and a source. -/
def IsProductOf (products : Products) (sourceProductId : SourceProductId) (card : CardVersionId)
    (sourceId : SourceId) : Prop :=
  ∃ productId, (productId, sourceProductId) ∈ productLookup products sourceId card

section Products

variable {supply : IdSupply} {products next : Products} {sourceId : SourceId}
  {sourceProductId : SourceProductId} {card : CardVersionId}

/-- A source product is that of one card and one source. -/
theorem IsProductOf.eq {other : CardVersionId} {otherSource : SourceId}
    (hproduct : IsProductOf products sourceProductId card sourceId)
    (hother : IsProductOf products sourceProductId other otherSource) :
    card = other ∧ sourceId = otherSource := by
  obtain ⟨productId, hlookup⟩ := hproduct
  obtain ⟨otherId, hotherLookup⟩ := hother
  obtain ⟨hcard, hsource⟩ := mem_productLookup.mp hlookup
  obtain ⟨hcard', hsource'⟩ := mem_productLookup.mp hotherLookup
  rw [hsource] at hsource'
  obtain ⟨rfl, rfl⟩ := SourceProduct.mk.inj (Option.some.inj hsource')
  exact ⟨Option.some.inj (hcard.symm.trans hcard'), rfl⟩

/-- A card and a source have one source product. -/
theorem IsProductOf.unique {other : SourceProductId}
    (hproduct : IsProductOf products sourceProductId card sourceId)
    (hother : IsProductOf products other card sourceId) : sourceProductId = other := by
  obtain ⟨productId, hlookup⟩ := hproduct
  obtain ⟨otherId, hotherLookup⟩ := hother
  obtain ⟨hcard, hsource⟩ := mem_productLookup.mp hlookup
  obtain ⟨hcard', hsource'⟩ := mem_productLookup.mp hotherLookup
  obtain rfl := Table.key_unique products.mtgCardProducts_unique hcard hcard'
  exact Table.key_unique products.sourceProduct_unique hsource hsource'

theorem IsProductOf.of_grows (hproduct : IsProductOf products sourceProductId card sourceId)
    (hgrows : ProductsGrow supply products next) :
    IsProductOf next sourceProductId card sourceId := by
  obtain ⟨productId, hlookup⟩ := hproduct
  obtain ⟨hcard, hsource⟩ := mem_productLookup.mp hlookup
  exact ⟨productId, mem_productLookup.mpr
    ⟨hgrows.mtgCardProducts.get?_kept hcard, hgrows.sourceProduct.get?_kept hsource⟩⟩

theorem fresh_of_grows (hfresh : supply.Fresh products)
    (hgrows : ProductsGrow supply products next) : supply.Fresh next where
  productId := hgrows.mtgCardProducts.free supply.productId_injective hfresh.productId
  sourceProductId :=
    hgrows.sourceProduct.free supply.sourceProductId_injective hfresh.sourceProductId

/-- A source gives each of its cards a product, and leaves the other cards as they are. -/
theorem bootstrapSourceProducts_spec (hfresh : supply.Fresh products)
    (cards : List CardVersionId) (sourceId : SourceId) :
    ∃ next mapping, bootstrapSourceProducts supply cards sourceId products = some (next, mapping) ∧
      ProductsGrow supply products next ∧
      ∀ (cvToSp : Table CardVersionId SourceProductId) (card : CardVersionId),
        (card ∉ cards → (cvToSp.setAll mapping).get? card = cvToSp.get? card) ∧
        (card ∈ cards → ∃ sourceProductId,
          (cvToSp.setAll mapping).get? card = some sourceProductId ∧
            IsProductOf next sourceProductId card sourceId) := by
  obtain ⟨next, hensure⟩ := exists_ensureProducts hfresh sourceId cards
  refine ⟨next, _, by rw [bootstrapSourceProducts, hensure]; rfl,
    productsGrow_of_ensure hensure, ?_⟩
  intro cvToSp card
  have hentry : ∀ sourceProductId, (card, sourceProductId) ∈ (cards.flatMap fun card =>
      (productLookup next sourceId card).map fun product => (card, product.2)) ↔
        card ∈ cards ∧ IsProductOf next sourceProductId card sourceId := by
    intro sourceProductId
    simp only [List.mem_flatMap, List.mem_map]
    constructor
    · rintro ⟨card, hcard, ⟨productId, sourceProductId⟩, hlookup, hpair⟩
      obtain ⟨rfl, rfl⟩ := Prod.mk.inj hpair
      exact ⟨hcard, productId, hlookup⟩
    · rintro ⟨hcard, productId, hlookup⟩
      exact ⟨card, hcard, (productId, sourceProductId), hlookup, rfl⟩
  rw [Table.get?_setAll]
  constructor
  · intro hcard
    rw [List.lookup_eq_none_iff.mpr, Option.none_or]
    rintro ⟨other, sourceProductId⟩ hmem
    rw [bne_iff_ne]
    rintro rfl
    exact hcard ((hentry _).mp (List.mem_reverse.mp hmem)).1
  · intro hcard
    obtain ⟨⟨productId, sourceProductId⟩, hlookup⟩ := productLookup_of_ensure hensure hcard
    have hproduct : IsProductOf next sourceProductId card sourceId :=
      ⟨productId, hlookup ▸ List.mem_singleton_self _⟩
    refine ⟨sourceProductId, ?_, hproduct⟩
    have hmem := (hentry _).mpr ⟨hcard, hproduct⟩
    rw [← Table.get?_ofPairs, Table.get?_ofPairs_of_unique hmem, Option.some_or]
    rintro ⟨other, otherProduct⟩ hother rfl
    exact ((hentry _).mp hother).2.unique hproduct

end Products

/-- The last of the sources that lists the card. -/
def lastSource (cards : SourceId → List CardVersionId) (card : CardVersionId)
    (sources : List SourceId) : Option SourceId :=
  sources.reverse.find? fun sourceId => card ∈ cards sourceId

/-- The loop gives every listed card the source product of the last source that lists it. -/
theorem bootstrapSources_spec {supply : IdSupply} {cards : SourceId → List CardVersionId}
    (sources : List SourceId) {products : Products}
    {cvToSp : Table CardVersionId SourceProductId} (hfresh : supply.Fresh products) :
    ∃ next dict, bootstrapSources supply cards sources (products, cvToSp) = some (next, dict) ∧
      ProductsGrow supply products next ∧
      ∀ card, (lastSource cards card sources = none → dict.get? card = cvToSp.get? card) ∧
        ∀ sourceId, lastSource cards card sources = some sourceId →
          ∃ sourceProductId, dict.get? card = some sourceProductId ∧
            IsProductOf next sourceProductId card sourceId := by
  induction sources generalizing products cvToSp with
  | nil =>
    exact ⟨products, cvToSp, rfl, ⟨.refl _ _, .refl _ _⟩, fun card => ⟨fun _ => rfl, by
      intro sourceId hlast
      cases hlast⟩⟩
  | cons first rest ih =>
    obtain ⟨middle, mapping, hfirst, hgrows, hmapping⟩ :=
      bootstrapSourceProducts_spec hfresh (cards first) first
    obtain ⟨next, dict, hrest, hgrows', hdict⟩ :=
      @ih middle (cvToSp.setAll mapping) (fresh_of_grows hfresh hgrows)
    refine ⟨next, dict, by rw [bootstrapSources, hfirst]; exact hrest, hgrows.trans hgrows', ?_⟩
    intro card
    obtain ⟨hnone, hsome⟩ := hdict card
    obtain ⟨hunlisted, hlisted⟩ := hmapping cvToSp card
    have hlast : lastSource cards card (first :: rest) =
        (lastSource cards card rest).or (if card ∈ cards first then some first else none) := by
      rw [lastSource, List.reverse_cons, List.find?_append, ← lastSource, List.find?_singleton]
      simp only [decide_eq_true_eq]
    rw [hlast]
    cases hlater : lastSource cards card rest with
    | some sourceId => exact ⟨nofun, fun other hother => hsome other (hlater.trans hother)⟩
    | none =>
      rw [Option.none_or, hnone hlater]
      split_ifs with hcard
      · refine ⟨nofun, fun sourceId hsource => ?_⟩
        obtain rfl := Option.some.inj hsource
        obtain ⟨sourceProductId, hget, hproduct⟩ := hlisted hcard
        exact ⟨sourceProductId, hget, hproduct.of_grows hgrows'⟩
      · exact ⟨fun _ => hunlisted hcard, nofun⟩

/-- The bookings of a call: each card that is found is booked under a source under which it is
staged, and the source that is listed last is the one that counts. -/
structure Booked (call : PromoteCall) (orders : Orders) (tables : ShopifyTables)
    (bookings : Bookings) : Prop where
  tcgToCv : bookings.tcgToCv =
    call.reference.findCardVersions orders (tcgIds (selected tables.staging))
  grows : ProductsGrow call.supply tables.products bookings.products
  staged : ∀ {tcgId card sourceProductId}, bookings.tcgToCv.get? tcgId = some card →
    bookings.cvToSp.get? card = some sourceProductId →
      ∃ sourceId, StagedUnder (selected tables.staging) tcgId sourceId ∧
        IsProductOf bookings.products sourceProductId card sourceId
  booked : ∀ {tcgId card sourceId}, bookings.tcgToCv.get? tcgId = some card →
    StagedUnder (selected tables.staging) tcgId sourceId →
      ∃ sourceProductId, bookings.cvToSp.get? card = some sourceProductId
  last : ∀ {tcgId card sourceId}, bookings.tcgToCv.get? tcgId = some card →
    StagedUnder (selected tables.staging) tcgId sourceId → orders.sources = .lastly sourceId →
      ∃ sourceProductId, bookings.cvToSp.get? card = some sourceProductId ∧
        IsProductOf bookings.products sourceProductId card sourceId

section Bookings

variable {call : PromoteCall} {tables : ShopifyTables}

theorem exists_bookings (hfresh : call.supply.Fresh tables.products) (orders : Orders) :
    ∃ bookings, call.bookings orders tables = some bookings ∧
      Booked call orders tables bookings := by
  let rows := selected tables.staging
  let tcgToCv := call.reference.findCardVersions orders (tcgIds rows)
  obtain ⟨next, dict, hbooked, hgrows, hdict⟩ := @bootstrapSources_spec call.supply
    (cvIds orders rows tcgToCv) (orders.sources.list (sourceIds rows)) tables.products .empty hfresh
  refine ⟨⟨next, tcgToCv, dict⟩, by rw [PromoteCall.bookings, hbooked]; rfl, ?_⟩
  -- the sources that list the card are those under which its `tcg_id` is staged
  have hlists : ∀ {tcgId card sourceId}, tcgToCv.get? tcgId = some card →
      (StagedUnder rows tcgId sourceId ↔
        sourceId ∈ (orders.sources.list (sourceIds rows)).reverse ∧
          card ∈ cvIds orders rows tcgToCv sourceId) := by
    intro tcgId card sourceId hfound
    rw [List.mem_reverse, Arrangement.mem_list]
    exact stagedUnder_iff hfound sourceId
  have hbooks : ∀ {tcgId card sourceId}, tcgToCv.get? tcgId = some card →
      StagedUnder rows tcgId sourceId → ∃ last sourceProductId,
        lastSource (cvIds orders rows tcgToCv) card (orders.sources.list (sourceIds rows)) =
            some last ∧
          dict.get? card = some sourceProductId ∧ IsProductOf next sourceProductId card last := by
    intro tcgId card sourceId hfound hstaged
    obtain ⟨hmem, hcard⟩ := (hlists hfound).mp hstaged
    have hsome : (lastSource (cvIds orders rows tcgToCv) card
        (orders.sources.list (sourceIds rows))).isSome :=
      List.find?_isSome.mpr ⟨sourceId, hmem, decide_eq_true hcard⟩
    obtain ⟨last, hlast⟩ := Option.isSome_iff_exists.mp hsome
    obtain ⟨sourceProductId, hget, hproduct⟩ := (hdict card).2 last hlast
    exact ⟨last, sourceProductId, hlast, hget, hproduct⟩
  refine ⟨rfl, hgrows, ?_, ?_, ?_⟩
  · intro tcgId card sourceProductId hfound hget
    cases hlast : lastSource (cvIds orders rows tcgToCv) card
        (orders.sources.list (sourceIds rows)) with
    | none =>
      rw [(hdict card).1 hlast] at hget
      cases hget
    | some last =>
      obtain ⟨found, hget', hproduct⟩ := (hdict card).2 last hlast
      obtain rfl := Option.some.inj (hget'.symm.trans hget)
      refine ⟨last, (hlists hfound).mpr ⟨List.mem_of_find?_eq_some hlast, ?_⟩, hproduct⟩
      have hcard := List.find?_some hlast
      exact of_decide_eq_true hcard
  · intro tcgId card sourceId hfound hstaged
    obtain ⟨-, sourceProductId, -, hget, -⟩ := hbooks hfound hstaged
    exact ⟨sourceProductId, hget⟩
  · intro tcgId card sourceId hfound hstaged hsources
    obtain ⟨hmem, hcard⟩ := (hlists hfound).mp hstaged
    rw [List.mem_reverse, Arrangement.mem_list] at hmem
    obtain ⟨before, hlist⟩ := Arrangement.list_lastly hmem
    have hlast : lastSource (cvIds orders rows tcgToCv) card
        (orders.sources.list (sourceIds rows)) = some sourceId := by
      rw [hsources, hlist, lastSource, List.reverse_concat, List.find?_cons_of_pos]
      exact decide_eq_true hcard
    exact (hdict card).2 sourceId hlast

/-- A row gives a record when its card is booked and its variation is known. -/
theorem record?_eq_some_iff {bookings : Bookings} {row : StagingRow} {record : ObsRecord} :
    call.record? bookings row = some record ↔
      ∃ tcgId card sourceProductId grade, row.tcgId = some tcgId ∧
        bookings.tcgToCv.get? tcgId = some card ∧
        bookings.cvToSp.get? card = some sourceProductId ∧ call.grade? row = some grade ∧
        call.recordOf row sourceProductId grade = record := by
  simp only [PromoteCall.record?, Option.bind_eq_bind, Option.bind_eq_some_iff, Option.pure_def,
    Option.some.injEq]
  constructor
  · rintro ⟨tcgId, hid, card, hcard, sourceProductId, hproduct, grade, hgrade, hrecord⟩
    exact ⟨tcgId, card, sourceProductId, grade, hid, hcard, hproduct, hgrade, hrecord⟩
  · rintro ⟨tcgId, card, sourceProductId, grade, hid, hcard, hproduct, hgrade, hrecord⟩
    exact ⟨tcgId, hid, card, hcard, sourceProductId, hproduct, grade, hgrade, hrecord⟩

end Bookings

end AutoMana.Shopify
