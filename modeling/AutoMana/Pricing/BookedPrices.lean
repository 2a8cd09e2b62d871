import AutoMana.Pricing.LinkedCards

/-!
# Prices are booked under the cards of their ids

The rows of a batch are sent with the source products of their own cards, and every price that is
sent is booked under its own key.
-/

namespace AutoMana.Pricing.CardPrices

open Relational

/-! ## The source products of a batch -/

section Sources

variable {catalogue : Catalogue} {engine : Engine} {tables : Tables}
  {wanted : List (ProductId × String)}

/-- The source product of a product for the source with the code. -/
def Sold (catalogue : Catalogue) (tables : Tables) (product : ProductId) (sourceCode : String)
    (id : SourceProductId) : Prop :=
  ∃ sourceId, catalogue.priceSource.get? sourceId = some sourceCode ∧
    tables.products.sourceProduct.get? id = some ⟨product, sourceId⟩

/-- What `_ENSURE_SOURCE_PRODUCT_SQL` leaves. -/
structure SourcesEnsured (catalogue : Catalogue) (wanted : List (ProductId × String))
    (tables next : Tables) : Prop where
  grown : Grown catalogue tables next
  sold : ∀ product ∈ wanted, (∃ sourceId, catalogue.priceSource.get? sourceId = some product.2) →
    ∃ id, Sold catalogue next product.1 product.2 id
  mtgCardProducts : next.products.mtgCardProducts = tables.products.mtgCardProducts
  priceObservation : next.priceObservation = tables.priceObservation

theorem exists_ensureSourceProduct :
    ∃ next, ensureSourceProduct? catalogue engine wanted tables = some next ∧
      SourcesEnsured catalogue wanted tables next := by
  let joined := wanted.flatMap fun product =>
    (catalogue.priceSource.keysOf product.2).map fun sourceId => SourceProduct.mk product.1 sourceId
  let ids := engine.sourceProductIds.take
    (tables.products.sourceProduct.rows.map Prod.fst) joined.length
  obtain ⟨hids, hjoined⟩ := zip_of_length_eq (engine.sourceProductIds.length_take
    (tables.products.sourceProduct.rows.map Prod.fst) joined.length)
  have hdrawn : ((ids.zip joined).map Prod.fst).Nodup := by
    rw [hids]
    exact engine.sourceProductIds.nodup_take _ _
  have hnew : ∀ id ∈ (ids.zip joined).map Prod.fst,
      tables.products.sourceProduct.get? id = none := by
    intro id hid
    rw [hids] at hid
    rw [← Option.not_isSome_iff_eq_none, ← Table.mem_keys_iff]
    exact engine.sourceProductIds.notMem_of_mem_take _ hid
  obtain ⟨products, hlink, hlinks, hcards⟩ := exists_linkSources hdrawn hnew
  refine ⟨{ tables with products }, ?_, ?_⟩
  · rw [ensureSourceProduct?, hlink, Option.map_some]
  · exact {
      grown := {
        productRef := fun _ _ => id
        created := fun _ _ => Or.inl
        linked := fun product card hlinked => by rwa [Linked, hcards]
        sourceProduct := fun _ _ hstored => hlinks.kept hstored
        referenced := fun hreferenced product card hlinked => by
          rw [Linked, hcards] at hlinked
          exact hreferenced product card hlinked }
      sold := fun product hproduct hsource => by
        obtain ⟨sourceId, hcode⟩ := hsource
        have hmem : SourceProduct.mk product.1 sourceId ∈ joined :=
          List.mem_flatMap.mpr ⟨product, hproduct,
            List.mem_map.mpr ⟨sourceId, Table.mem_keysOf.mpr hcode, rfl⟩⟩
        rw [← hjoined] at hmem
        obtain ⟨id, hid⟩ := Table.mem_values_iff.mp (hlinks.linked _ hmem)
        exact ⟨id, sourceId, hcode, hid⟩
      mtgCardProducts := hcards
      priceObservation := rfl }

/-- A product has one source product for the code of a source. -/
theorem Sold.id_unique {product : ProductId} {sourceCode : String} {id other : SourceProductId}
    (hsold : Sold catalogue tables product sourceCode id)
    (hother : Sold catalogue tables product sourceCode other) : id = other := by
  obtain ⟨sourceId, hcode, hid⟩ := hsold
  obtain ⟨sourceId', hcode', hid'⟩ := hother
  obtain rfl := Table.key_unique catalogue.sourceCode_unique hcode hcode'
  exact Table.key_unique tables.products.sourceProduct_unique hid hid'

/-- It is the source product of no other product, and of no other code. -/
theorem Sold.product_unique {product other : ProductId} {sourceCode otherCode : String}
    {id : SourceProductId} (hsold : Sold catalogue tables product sourceCode id)
    (hother : Sold catalogue tables other otherCode id) :
    product = other ∧ sourceCode = otherCode := by
  obtain ⟨sourceId, hcode, hid⟩ := hsold
  obtain ⟨sourceId', hcode', hid'⟩ := hother
  rw [hid, Option.some.injEq, SourceProduct.mk.injEq] at hid'
  obtain ⟨rfl, rfl⟩ := hid'
  rw [hcode, Option.some.injEq] at hcode'
  exact ⟨rfl, hcode'⟩

variable (engine) in
theorem mem_fetchSourceProductIds {productIds : List ProductId} {sourceCodes : List String}
    {product : ProductId} {sourceCode : String} {id : SourceProductId} :
    (id, product, sourceCode) ∈ fetchSourceProductIds catalogue engine productIds sourceCodes
      tables.products ↔
        Sold catalogue tables product sourceCode id ∧ product ∈ productIds ∧
          sourceCode ∈ sourceCodes := by
  simp only [fetchSourceProductIds, Listing.mem_list, List.mem_filterMap,
    Option.bind_eq_some_iff, Option.ite_none_right_eq_some, Option.some.injEq, Prod.exists,
    Prod.mk.injEq, Table.mem_rows_iff]
  constructor
  · rintro ⟨_, ⟨product, sourceId⟩, hid, code, hcode, hasked, rfl, rfl, rfl⟩
    exact ⟨⟨sourceId, hcode, hid⟩, hasked⟩
  · rintro ⟨⟨sourceId, hcode, hid⟩, hasked⟩
    exact ⟨id, ⟨product, sourceId⟩, hid, sourceCode, hcode, hasked, rfl, rfl, rfl⟩

theorem get?_spLookup_iff {productIds : List ProductId} {sourceCodes : List String}
    {product : ProductId} {sourceCode : String} {id : SourceProductId} :
    (Table.ofPairs ((fetchSourceProductIds catalogue engine productIds sourceCodes
      tables.products).map fun record => (record.2, record.1))).get? (product, sourceCode) =
        some id ↔
      Sold catalogue tables product sourceCode id ∧ product ∈ productIds ∧
        sourceCode ∈ sourceCodes := by
  refine Table.get?_ofPairs_iff (fun found => Sold catalogue tables product sourceCode found ∧
    product ∈ productIds ∧ sourceCode ∈ sourceCodes)
    (fun found => ?_) fun _ _ hfound hother => hfound.1.id_unique hother.1
  rw [← mem_fetchSourceProductIds engine, List.mem_map]
  constructor
  · rintro ⟨⟨_, _⟩, hrecord, hsame⟩
    obtain ⟨rfl, rfl⟩ := Prod.mk.inj hsame
    exact hrecord
  · exact fun hrecord => ⟨_, hrecord, rfl⟩

end Sources

/-! ## The prices of a batch -/

section Batch

variable {catalogue : Catalogue} {engine : Engine} {tsDate : Int} {tables next : Tables}
  {rows : List PriceRow} {row other : PriceRow}

/-- The source product of the row's own card and source. -/
def Targets (catalogue : Catalogue) (tables : Tables) (row : PriceRow) (id : SourceProductId) :
    Prop :=
  ∃ card product, Carries catalogue card row.scryfallId ∧ Linked tables product card ∧
    Sold catalogue tables product row.sourceCode id

/-- The key of the row's own source product and finish. -/
def IsKey (catalogue : Catalogue) (tsDate : Int) (tables : Tables) (row : PriceRow)
    (key : ObservationKey) : Prop :=
  ∃ id finishId, Targets catalogue tables row id ∧
    catalogue.cardFinished.get? finishId = some row.finishCode ∧
    key = ⟨tsDate, id, catalogue.priceTypeId, finishId, catalogue.conditionId,
      catalogue.languageId, catalogue.dataProviderId⟩

/-- The row's own price is booked under its own key. -/
def Booked (catalogue : Catalogue) (tsDate : Int) (tables : Tables) (row : PriceRow) : Prop :=
  ∃ key observation, IsKey catalogue tsDate tables row key ∧
    tables.priceObservation.get? key = some observation ∧
    observation.prices.listAvgCents.map Int.ofNat = some row.priceCents

def Resolves (catalogue : Catalogue) (row : PriceRow) : Prop :=
  ∃ card, Carries catalogue card row.scryfallId

def HasSource (catalogue : Catalogue) (row : PriceRow) : Prop :=
  ∃ sourceId, catalogue.priceSource.get? sourceId = some row.sourceCode

def HasFinish (catalogue : Catalogue) (row : PriceRow) : Prop :=
  ∃ finishId, catalogue.cardFinished.get? finishId = some row.finishCode

/-- The prices that are sent fit their column, and those that are joined to a finish are no negative
ones. -/
def Accepted (catalogue : Catalogue) (rows : List PriceRow) : Prop :=
  ∀ row ∈ rows, Resolves catalogue row → HasSource catalogue row →
    isInt4 row.priceCents = true ∧ (HasFinish catalogue row → 0 ≤ row.priceCents)

/-- `(scryfall_id, source, finish)` -/
def PriceRow.triple (row : PriceRow) : String × String × String :=
  (row.scryfallId, row.sourceCode, row.finishCode)

/-- What a batch leaves: every row whose id, source and finish are there is booked under its own
card, and no other price is touched. -/
structure OwnPrices (catalogue : Catalogue) (tsDate : Int) (rows : List PriceRow)
    (tables next : Tables) : Prop where
  grown : Grown catalogue tables next
  booked : ∀ row ∈ rows, Resolves catalogue row → HasSource catalogue row →
    HasFinish catalogue row → Booked catalogue tsDate next row
  others : ∀ key, next.priceObservation.get? key ≠ tables.priceObservation.get? key →
    ∃ row ∈ rows, IsKey catalogue tsDate next row key

/-- A key is of one id, one source and one finish. -/
theorem IsKey.triple_eq {key : ObservationKey} (hkey : IsKey catalogue tsDate tables row key)
    (hother : IsKey catalogue tsDate tables other key) : row.triple = other.triple := by
  obtain ⟨id, finishId, ⟨card, product, hcarries, hlinked, hsold⟩, hfinish, rfl⟩ := hkey
  obtain ⟨id', finishId', ⟨card', product', hcarries', hlinked', hsold'⟩, hfinish', hsame⟩ := hother
  rw [ObservationKey.mk.injEq] at hsame
  obtain ⟨-, rfl, -, rfl, -⟩ := hsame
  obtain ⟨rfl, hsource⟩ := hsold.product_unique hsold'
  rw [Linked, hlinked', Option.some.injEq] at hlinked
  subst hlinked
  rw [hfinish, Option.some.injEq] at hfinish'
  rw [PriceRow.triple, PriceRow.triple, hcarries.id_unique hcarries', hsource, hfinish']

theorem observationKey?_eq_some_iff {sent : SentPrice} {key : ObservationKey} :
    observationKey? catalogue tsDate sent = some key ↔
      ∃ finishId, catalogue.cardFinished.get? finishId = some sent.finishCode ∧
        key = ⟨tsDate, sent.sourceProductId, catalogue.priceTypeId, finishId,
          catalogue.conditionId, catalogue.languageId, catalogue.dataProviderId⟩ := by
  rw [observationKey?, Option.map_eq_some_iff]
  constructor
  · rintro ⟨finishId, hfinish, rfl⟩
    exact ⟨finishId, Table.mem_keysOf.mp (List.mem_of_mem_head? hfinish), rfl⟩
  · rintro ⟨finishId, hfinish, rfl⟩
    obtain ⟨found, hfound⟩ := Table.keysOf_eq_singleton catalogue.finishCode_unique
      (Table.mem_values_iff.mpr ⟨finishId, hfinish⟩)
    have hmem := Table.mem_keysOf.mpr hfinish
    rw [hfound] at hmem ⊢
    exact ⟨finishId, by rw [List.mem_singleton.mp hmem]; rfl, rfl⟩

section Sent

variable {sent? : PriceRow → Option SentPrice}

/-- What is sent for each row is its price, its finish, and its own source product. -/
def SendsOwn (catalogue : Catalogue) (tables : Tables) (rows : List PriceRow)
    (sent? : PriceRow → Option SentPrice) : Prop :=
  ∀ row ∈ rows, ∀ sent, sent? row = some sent ↔
    sent.finishCode = row.finishCode ∧ sent.priceCents = row.priceCents ∧
      Targets catalogue tables row sent.sourceProductId

theorem isKey_iff (hsent : SendsOwn catalogue tables rows sent?) (hrow : row ∈ rows)
    {key : ObservationKey} : IsKey catalogue tsDate tables row key ↔
      ∃ sent, sent? row = some sent ∧ observationKey? catalogue tsDate sent = some key := by
  simp only [hsent row hrow, observationKey?_eq_some_iff]
  constructor
  · rintro ⟨id, finishId, htargets, hfinish, rfl⟩
    exact ⟨⟨id, row.finishCode, row.priceCents⟩, ⟨rfl, rfl, htargets⟩, finishId, hfinish, rfl⟩
  · rintro ⟨sent, ⟨hcode, -, htargets⟩, finishId, hfinish, rfl⟩
    exact ⟨sent.sourceProductId, finishId, htargets, hcode ▸ hfinish, rfl⟩

theorem mem_joinedPrices (hsent : SendsOwn catalogue tables rows sent?) {key : ObservationKey}
    {cents : Option Nat} : (key, cents) ∈ joinedPrices catalogue tsDate (rows.filterMap sent?) ↔
      ∃ row ∈ rows, IsKey catalogue tsDate tables row key ∧
        cents = columnPrice? row.priceCents := by
  simp only [joinedPrices, List.mem_filterMap, Option.map_eq_some_iff, Prod.mk.injEq]
  constructor
  · rintro ⟨sent, ⟨row, hrow, hsentRow⟩, _, hkey, rfl, rfl⟩
    refine ⟨row, hrow, (isKey_iff hsent hrow).mpr ⟨sent, hsentRow, hkey⟩, ?_⟩
    rw [((hsent row hrow sent).mp hsentRow).2.1]
  · rintro ⟨row, hrow, hkey, rfl⟩
    obtain ⟨sent, hsentRow, hkey⟩ := (isKey_iff hsent hrow).mp hkey
    refine ⟨sent, ⟨row, hrow, hsentRow⟩, key, hkey, rfl, ?_⟩
    rw [((hsent row hrow sent).mp hsentRow).2.1]

/-- The row that is to be inserted with a price. -/
def newObservation (engine : Engine) (cents : Nat) : Observation :=
  ⟨⟨none, some cents, none⟩, none, none, engine.now⟩

theorem mem_excludedPrices (hsent : SendsOwn catalogue tables rows sent?) {key : ObservationKey}
    {observation : Observation} :
    (key, observation) ∈ excludedPrices catalogue engine tsDate (rows.filterMap sent?) ↔
      ∃ row ∈ rows, IsKey catalogue tsDate tables row key ∧
        ∃ cents, columnPrice? row.priceCents = some cents ∧
          observation = newObservation engine cents := by
  rw [excludedPrices, List.mem_filterMap]
  constructor
  · rintro ⟨⟨stored, price⟩, hjoined, hexcluded⟩
    obtain ⟨cents, rfl, hsame⟩ := Option.map_eq_some_iff.mp hexcluded
    obtain ⟨rfl, rfl⟩ := Prod.mk.inj hsame
    obtain ⟨row, hrow, hkey, hcents⟩ := (mem_joinedPrices hsent).mp hjoined
    exact ⟨row, hrow, hkey, cents, hcents.symm, rfl⟩
  · rintro ⟨row, hrow, hkey, cents, hcents, rfl⟩
    exact ⟨(key, some cents), (mem_joinedPrices hsent).mpr ⟨row, hrow, hkey, hcents.symm⟩, rfl⟩

/-- No key is written twice. -/
theorem nodup_excludedPrices (hdistinct : (rows.map PriceRow.triple).Nodup)
    (hsent : SendsOwn catalogue tables rows sent?) :
    ((excludedPrices catalogue engine tsDate (rows.filterMap sent?)).map Prod.fst).Nodup := by
  rw [List.Nodup, List.pairwise_map, excludedPrices, List.pairwise_filterMap, joinedPrices,
    List.pairwise_filterMap, List.pairwise_filterMap]
  refine (List.pairwise_map.mp hdistinct).imp_of_mem ?_
  intro row other hrow hother hne sent hsentRow sent' hsentOther joined hjoined joined' hjoined'
    excluded hexcluded excluded' hexcluded' hsame
  obtain ⟨key, hkey, rfl⟩ := Option.map_eq_some_iff.mp hjoined
  obtain ⟨key', hkey', rfl⟩ := Option.map_eq_some_iff.mp hjoined'
  obtain ⟨_, -, rfl⟩ := Option.map_eq_some_iff.mp hexcluded
  obtain ⟨_, -, rfl⟩ := Option.map_eq_some_iff.mp hexcluded'
  obtain rfl : key = key' := hsame
  exact hne (((isKey_iff hsent hrow).mpr ⟨sent, hsentRow, hkey⟩).triple_eq
    ((isKey_iff hsent hother).mpr ⟨sent', hsentOther, hkey'⟩))

theorem isSome_columnPrice?_iff {priceCents : Int} :
    (columnPrice? priceCents).isSome ↔ 0 ≤ priceCents := by
  rw [columnPrice?]
  split_ifs with hnonneg <;> simp [hnonneg]

/-- The prices pass exactly when those of the rows with a source product do. -/
theorem isSome_upsertPriceObservation?_iff (hdistinct : (rows.map PriceRow.triple).Nodup)
    (hsent : SendsOwn catalogue tables rows sent?) :
    (upsertPriceObservation? catalogue engine tsDate (rows.filterMap sent?) tables).isSome ↔
      ∀ row ∈ rows, ∀ id, Targets catalogue tables row id →
        isInt4 row.priceCents = true ∧ (HasFinish catalogue row → 0 ≤ row.priceCents) := by
  have hint : (rows.filterMap sent?).all (isInt4 ·.priceCents) = true ↔
      ∀ row ∈ rows, ∀ id, Targets catalogue tables row id → isInt4 row.priceCents = true := by
    simp only [List.all_eq_true, List.mem_filterMap]
    constructor
    · intro hall row hrow id htargets
      exact hall _ ⟨row, hrow, (hsent row hrow ⟨id, row.finishCode, row.priceCents⟩).mpr
        ⟨rfl, rfl, htargets⟩⟩
    · rintro hall sent ⟨row, hrow, hsentRow⟩
      obtain ⟨-, hprice, htargets⟩ := (hsent row hrow sent).mp hsentRow
      exact hprice ▸ hall row hrow _ htargets
  have hcolumn : (joinedPrices catalogue tsDate (rows.filterMap sent?)).all (·.2.isSome) = true ↔
      ∀ row ∈ rows, ∀ id, Targets catalogue tables row id → HasFinish catalogue row →
        0 ≤ row.priceCents := by
    simp only [List.all_eq_true, Prod.forall, mem_joinedPrices hsent]
    constructor
    · rintro hall row hrow id htargets ⟨finishId, hfinish⟩
      exact isSome_columnPrice?_iff.mp
        (hall _ _ ⟨row, hrow, ⟨id, finishId, htargets, hfinish, rfl⟩, rfl⟩)
    · rintro hall key cents ⟨row, hrow, ⟨id, finishId, htargets, hfinish, rfl⟩, rfl⟩
      exact isSome_columnPrice?_iff.mpr (hall row hrow id htargets ⟨finishId, hfinish⟩)
  rw [upsertPriceObservation?, dif_pos (nodup_excludedPrices hdistinct hsent)]
  split_ifs with hpass
  · exact iff_of_true rfl fun row hrow id htargets =>
      ⟨hint.mp hpass.1 row hrow id htargets, hcolumn.mp hpass.2 row hrow id htargets⟩
  · refine iff_of_false Bool.false_ne_true fun hall => hpass ⟨hint.mpr ?_, hcolumn.mpr ?_⟩
    · exact fun row hrow id htargets => (hall row hrow id htargets).1
    · exact fun row hrow id htargets => (hall row hrow id htargets).2

theorem isKey_congr (hproducts : next.products = tables.products) {key : ObservationKey} :
    IsKey catalogue tsDate next row key ↔ IsKey catalogue tsDate tables row key := by
  simp only [IsKey, Targets, Linked, Sold, hproducts]

/-- The prices that are upserted are the rows' own, under their own keys. -/
theorem upsertPriceObservation_books {count : Nat}
    (hsent : SendsOwn catalogue tables rows sent?)
    (hupsert : upsertPriceObservation? catalogue engine tsDate (rows.filterMap sent?) tables =
      some (next, count)) :
    Grown catalogue tables next ∧
      (∀ row ∈ rows, HasFinish catalogue row → (∃ id, Targets catalogue tables row id) →
        Booked catalogue tsDate next row) ∧
      ∀ key, next.priceObservation.get? key ≠ tables.priceObservation.get? key →
        ∃ row ∈ rows, IsKey catalogue tsDate next row key := by
  rw [upsertPriceObservation?] at hupsert
  split_ifs at hupsert with hpass hkeys
  obtain ⟨rfl, -⟩ := Prod.mk.inj (Option.some.inj hupsert)
  have hexcluded : ∀ {key observation},
      (Table.mk (excludedPrices catalogue engine tsDate (rows.filterMap sent?)) hkeys).get? key =
        some observation ↔ ∃ row ∈ rows, IsKey catalogue tsDate tables row key ∧
          ∃ cents, columnPrice? row.priceCents = some cents ∧
            observation = newObservation engine cents := by
    intro key observation
    rw [← Table.mem_rows_iff, ← mem_excludedPrices hsent]
  refine ⟨⟨fun _ _ => id, fun _ _ => Or.inl, fun _ _ => id, fun _ _ => id, id⟩, ?_, ?_⟩
  · intro row hrow hfinish htargets
    obtain ⟨finishId, hfinish⟩ := hfinish
    obtain ⟨id, htargets⟩ := htargets
    have hkey : IsKey catalogue tsDate tables row ⟨tsDate, id, catalogue.priceTypeId, finishId,
        catalogue.conditionId, catalogue.languageId, catalogue.dataProviderId⟩ :=
      ⟨id, finishId, htargets, hfinish, rfl⟩
    have hsome := List.all_eq_true.mp hpass.2 _
      ((mem_joinedPrices hsent).mpr ⟨row, hrow, hkey, rfl⟩)
    obtain ⟨cents, hcents⟩ := Option.isSome_iff_exists.mp hsome
    have hnew := hexcluded.mpr ⟨row, hrow, hkey, cents, hcents, rfl⟩
    have hprice : ((some cents).map Int.ofNat) = some row.priceCents := by
      dsimp only at hcents
      rw [columnPrice?, Option.ite_none_right_eq_some] at hcents
      obtain ⟨hnonneg, hsame⟩ := hcents
      rw [Option.map_some, ← Option.some.inj hsame]
      exact congrArg some (Int.toNat_of_nonneg hnonneg)
    -- a price that is stored is overwritten
    cases hstored : tables.priceObservation.get? ⟨tsDate, id, catalogue.priceTypeId, finishId,
        catalogue.conditionId, catalogue.languageId, catalogue.dataProviderId⟩ with
    | none =>
      refine ⟨_, newObservation engine cents, (isKey_congr rfl).mpr hkey, ?_, hprice⟩
      rw [Table.get?_upsert, hstored, hnew, Table.reconcile]
    | some stored =>
      refine ⟨_, updatedPrice stored (newObservation engine cents), (isKey_congr rfl).mpr hkey,
        ?_, hprice⟩
      rw [Table.get?_upsert, hstored, hnew, Table.reconcile]
  · intro key hchanged
    rw [Table.get?_upsert] at hchanged
    cases hnew : (Table.mk (excludedPrices catalogue engine tsDate (rows.filterMap sent?))
        hkeys).get? key with
    | none =>
      rw [hnew] at hchanged
      cases hstored : tables.priceObservation.get? key <;>
        exact absurd (by rw [hstored, Table.reconcile]) hchanged
    | some observation =>
      obtain ⟨row, hrow, hkey, -⟩ := hexcluded.mp hnew
      exact ⟨row, hrow, (isKey_congr rfl).mpr hkey⟩

end Sent

section Book

variable {scryfallToMeta : ScryfallToMeta}

theorem metaProduct?_eq_some_iff (hmeta : IsMeta catalogue tables rows scryfallToMeta)
    (hrow : row ∈ rows) {product : ProductId} :
    metaProduct? scryfallToMeta row = some product ↔
      ∃ card, Carries catalogue card row.scryfallId ∧ Linked tables product card := by
  rw [metaProduct?, Option.bind_eq_some_iff]
  constructor
  · rintro ⟨entry, hentry, hproduct⟩
    obtain ⟨hcarries, -, hsame⟩ := (hmeta _ _).mp hentry
    exact ⟨entry.cardVersionId, hcarries, productOf?_eq_some_iff.mp (hsame ▸ hproduct)⟩
  · rintro ⟨card, hcarries, hlinked⟩
    exact ⟨⟨card, some product⟩, (hmeta _ _).mpr ⟨hcarries, List.mem_map_of_mem hrow,
      (productOf?_eq_some_iff.mpr hlinked).symm⟩, rfl⟩

/-- A row whose id resolves has a product. -/
theorem exists_metaProduct? (hmeta : IsMeta catalogue tables rows scryfallToMeta)
    (hcomplete : ∀ scryfallId entry, scryfallToMeta.get? scryfallId = some entry →
      entry.productId.isSome)
    (hrow : row ∈ rows) (hresolves : Resolves catalogue row) :
    ∃ product, metaProduct? scryfallToMeta row = some product := by
  obtain ⟨card, hcarries⟩ := hresolves
  have hentry := (hmeta row.scryfallId ⟨card, productOf? tables.products card⟩).mpr
    ⟨hcarries, List.mem_map_of_mem hrow, rfl⟩
  obtain ⟨product, hproduct⟩ := Option.isSome_iff_exists.mp (hcomplete _ _ hentry)
  exact ⟨product, by rw [metaProduct?, hentry]; exact hproduct⟩

variable {wanted : List (ProductId × String)}

/-- The products and the codes that are looked up are those of the rows. -/
theorem sendsOwn_sentPrice? (hmeta : IsMeta catalogue tables rows scryfallToMeta)
    (hwanted : wanted = rows.filterMap fun row =>
      (metaProduct? scryfallToMeta row).map (·, row.sourceCode))
    (hensured : SourcesEnsured catalogue wanted tables next) :
    SendsOwn catalogue next rows (sentPrice? scryfallToMeta (Table.ofPairs
      ((fetchSourceProductIds catalogue engine (wanted.map Prod.fst) (wanted.map Prod.snd)
        next.products).map fun record => (record.2, record.1)))) := by
  intro row hrow sent
  simp only [sentPrice?, Option.bind_eq_some_iff, Option.map_eq_some_iff, get?_spLookup_iff]
  have hlinked : ∀ product card, Linked next product card ↔ Linked tables product card :=
    fun product card => by rw [Linked, Linked, hensured.mtgCardProducts]
  constructor
  · rintro ⟨product, hproduct, id, ⟨hsold, -, -⟩, rfl⟩
    obtain ⟨card, hcarries, hcard⟩ := (metaProduct?_eq_some_iff hmeta hrow).mp hproduct
    exact ⟨rfl, rfl, card, product, hcarries, (hlinked _ _).mpr hcard, hsold⟩
  · rintro ⟨hcode, hprice, card, product, hcarries, hcard, hsold⟩
    have hproduct := (metaProduct?_eq_some_iff hmeta hrow).mpr
      ⟨card, hcarries, (hlinked _ _).mp hcard⟩
    have hmem : (product, row.sourceCode) ∈ wanted := by
      rw [hwanted]
      exact List.mem_filterMap.mpr ⟨row, hrow, by rw [hproduct, Option.map_some]⟩
    refine ⟨product, hproduct, sent.sourceProductId, ⟨hsold, List.mem_map_of_mem hmem,
      List.mem_map_of_mem hmem⟩, ?_⟩
    rw [← hcode, ← hprice]

/-- The rows with a source product are those whose id and source are there. -/
theorem exists_targets_iff (hmeta : IsMeta catalogue tables rows scryfallToMeta)
    (hcomplete : ∀ scryfallId entry, scryfallToMeta.get? scryfallId = some entry →
      entry.productId.isSome)
    (hwanted : wanted = rows.filterMap fun row =>
      (metaProduct? scryfallToMeta row).map (·, row.sourceCode))
    (hensured : SourcesEnsured catalogue wanted tables next) (hrow : row ∈ rows) :
    (∃ id, Targets catalogue next row id) ↔ Resolves catalogue row ∧ HasSource catalogue row := by
  constructor
  · rintro ⟨id, card, product, hcarries, -, sourceId, hcode, -⟩
    exact ⟨⟨card, hcarries⟩, sourceId, hcode⟩
  · rintro ⟨hresolves, hsource⟩
    obtain ⟨product, hproduct⟩ := exists_metaProduct? hmeta hcomplete hrow hresolves
    obtain ⟨card, hcarries, hlinked⟩ := (metaProduct?_eq_some_iff hmeta hrow).mp hproduct
    have hmem : (product, row.sourceCode) ∈ wanted := by
      rw [hwanted]
      exact List.mem_filterMap.mpr ⟨row, hrow, by rw [hproduct, Option.map_some]⟩
    obtain ⟨id, hsold⟩ := hensured.sold _ hmem hsource
    exact ⟨id, card, product, hcarries, hensured.grown.linked _ _ hlinked, hsold⟩

/-- Steps 3 to 5 book the rows' own prices, unless one of them does not fit. -/
theorem bookPrices_own (hdistinct : (rows.map PriceRow.triple).Nodup)
    (hmeta : IsMeta catalogue tables rows scryfallToMeta)
    (hcomplete : ∀ scryfallId entry, scryfallToMeta.get? scryfallId = some entry →
      entry.productId.isSome) :
    ((bookPrices? catalogue engine tsDate rows scryfallToMeta tables).isSome ↔
        Accepted catalogue rows) ∧
      ∀ booked, bookPrices? catalogue engine tsDate rows scryfallToMeta tables = some booked →
        OwnPrices catalogue tsDate rows tables booked.1 := by
  rw [bookPrices?]
  dsimp only
  generalize hwanted : (rows.filterMap fun row =>
    (metaProduct? scryfallToMeta row).map (·, row.sourceCode)) = wanted
  split_ifs with hempty
  · have hnone : ∀ row ∈ rows, ¬ Resolves catalogue row := by
      intro row hrow hresolves
      obtain ⟨product, hproduct⟩ := exists_metaProduct? hmeta hcomplete hrow hresolves
      have hmem : (product, row.sourceCode) ∈ wanted := by
        rw [← hwanted]
        exact List.mem_filterMap.mpr ⟨row, hrow, by rw [hproduct, Option.map_some]⟩
      rw [hempty] at hmem
      cases hmem
    refine ⟨iff_of_true rfl fun row hrow hresolves => absurd hresolves (hnone row hrow), ?_⟩
    rintro booked ⟨⟩
    exact ⟨Grown.refl _ _, fun row hrow hresolves => absurd hresolves (hnone row hrow),
      fun key hchanged => absurd rfl hchanged⟩
  · obtain ⟨next, hensure, hensured⟩ := @exists_ensureSourceProduct catalogue engine tables wanted
    have hsent := @sendsOwn_sentPrice? catalogue engine tables next rows _ _ hmeta hwanted.symm
      hensured
    have htargets : ∀ row ∈ rows, (∃ id, Targets catalogue next row id) ↔
        Resolves catalogue row ∧ HasSource catalogue row := fun row hrow =>
      exists_targets_iff hmeta hcomplete hwanted.symm hensured hrow
    have haccepted : (∀ row ∈ rows, ∀ id, Targets catalogue next row id →
        isInt4 row.priceCents = true ∧ (HasFinish catalogue row → 0 ≤ row.priceCents)) ↔
          Accepted catalogue rows := by
      refine forall₂_congr fun row hrow => ?_
      rw [← exists_imp, htargets row hrow, and_imp]
    rw [hensure, Option.bind_some]
    split_ifs with hnothing
    · have hnone : ∀ row ∈ rows, ∀ id, ¬ Targets catalogue next row id := by
        intro row hrow id htarget
        have hmem := List.mem_filterMap.mpr ⟨row, hrow,
          (hsent row hrow ⟨id, row.finishCode, row.priceCents⟩).mpr ⟨rfl, rfl, htarget⟩⟩
        rw [hnothing] at hmem
        cases hmem
      refine ⟨iff_of_true rfl (haccepted.mp fun row hrow id htarget =>
        absurd htarget (hnone row hrow id)), ?_⟩
      rintro booked ⟨⟩
      refine ⟨hensured.grown, fun row hrow hresolves hsource _ => ?_, fun key hchanged => ?_⟩
      · obtain ⟨id, htarget⟩ := (htargets row hrow).mpr ⟨hresolves, hsource⟩
        exact absurd htarget (hnone row hrow id)
      · exact absurd (by rw [hensured.priceObservation]) hchanged
    · refine ⟨(isSome_upsertPriceObservation?_iff hdistinct hsent).trans haccepted, ?_⟩
      intro booked hbooked
      obtain ⟨hgrown, hbook, hothers⟩ := upsertPriceObservation_books hsent hbooked
      exact {
        grown := hensured.grown.trans hgrown
        booked := fun row hrow hresolves hsource hfinish =>
          hbook row hrow hfinish ((htargets row hrow).mpr ⟨hresolves, hsource⟩)
        others := fun key hchanged => hothers key (hensured.priceObservation ▸ hchanged) }

end Book

variable (engine) in
/-- A batch books the prices of its rows, unless one of them does not fit. -/
theorem upsertScryfallPriceBatch_own (hunique : IdsUnique catalogue)
    (hreferenced : Referenced tables) (hdistinct : (rows.map PriceRow.triple).Nodup) :
    ((upsertScryfallPriceBatch? catalogue engine tsDate rows tables).isSome ↔
        Accepted catalogue rows) ∧
      ∀ booked, upsertScryfallPriceBatch? catalogue engine tsDate rows tables = some booked →
        OwnPrices catalogue tsDate rows tables booked.1 := by
  obtain ⟨created, hcreate, hgrown, hobservations, hmeta, hcomplete⟩ :=
    exists_createProducts engine hunique hreferenced
      (isMeta_resolvedMeta engine rows hunique)
  obtain ⟨haccepted, hbooks⟩ := @bookPrices_own catalogue engine tsDate created.1 rows created.2
    hdistinct hmeta hcomplete
  rw [upsertScryfallPriceBatch?, hcreate, Option.bind_some]
  refine ⟨haccepted, fun booked hbooked => ?_⟩
  have hown := hbooks booked hbooked
  exact {
    grown := hgrown.trans hown.grown
    booked := hown.booked
    others := fun key hchanged => hown.others key (hobservations ▸ hchanged) }

/-- Rows whose id does not resolve change nothing. -/
theorem upsertScryfallPriceBatch_filter (hunique : IdsUnique catalogue)
    (hreferenced : Referenced tables) {keep : PriceRow → Bool}
    (hkeep : ∀ row ∈ rows, Resolves catalogue row → keep row = true) :
    upsertScryfallPriceBatch? catalogue engine tsDate (rows.filter keep) tables =
      upsertScryfallPriceBatch? catalogue engine tsDate rows tables := by
  have hids : resolveScryfallIds catalogue engine ((rows.filter keep).map (·.scryfallId))
      tables.products = resolveScryfallIds catalogue engine (rows.map (·.scryfallId))
        tables.products := by
    rw [resolveScryfallIds, resolveScryfallIds]
    congr 2
    refine List.filter_congr fun entry hentry => decide_eq_decide.mpr (and_congr_right ?_)
    intro hname
    constructor
    · intro hmem
      obtain ⟨row, hrow, hsame⟩ := List.mem_map.mp hmem
      exact List.mem_map.mpr ⟨row, (List.mem_filter.mp hrow).1, hsame⟩
    · intro hmem
      obtain ⟨row, hrow, hsame⟩ := List.mem_map.mp hmem
      have hcarries : Carries catalogue entry.1.1 row.scryfallId :=
        ⟨entry.1.2, hname, hsame ▸ (Table.mem_rows_iff _ _ _).mp hentry⟩
      exact List.mem_map.mpr
        ⟨row, List.mem_filter.mpr ⟨hrow, hkeep row hrow ⟨_, hcarries⟩⟩, hsame⟩
  have hmeta : resolvedMeta catalogue engine (rows.filter keep) tables =
      resolvedMeta catalogue engine rows tables := by
    rw [resolvedMeta, hids, resolvedMeta]
  obtain ⟨created, hcreate, -, -, hcreated, -⟩ :=
    exists_createProducts engine hunique hreferenced
      (isMeta_resolvedMeta engine rows hunique)
  have hfilter : ∀ {β : Type} {f : PriceRow → Option β},
      (∀ row, metaProduct? created.2 row = none → f row = none) →
        (rows.filter keep).filterMap f = rows.filterMap f := by
    intro β f hnone
    rw [List.filterMap_filter]
    refine List.filterMap_congr fun row hrow => ?_
    cases hproduct : metaProduct? created.2 row with
    | none => rw [hnone row hproduct, ite_self]
    | some product =>
      obtain ⟨card, hcarries, -⟩ := (metaProduct?_eq_some_iff hcreated hrow).mp hproduct
      rw [if_pos (hkeep row hrow ⟨card, hcarries⟩)]
  rw [upsertScryfallPriceBatch?, upsertScryfallPriceBatch?, hmeta, hcreate, Option.bind_some,
    Option.bind_some, bookPrices?, bookPrices?]
  have hwanted := hfilter (f := fun row => (metaProduct? created.2 row).map (·, row.sourceCode))
    fun row hnone => by rw [hnone, Option.map_none]
  have hsent := fun spLookup => hfilter (f := sentPrice? created.2 spLookup)
    fun row hnone => by rw [sentPrice?, hnone, Option.bind_none]
  simp only [hwanted, hsent]

end Batch

end AutoMana.Pricing.CardPrices
