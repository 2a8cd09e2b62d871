import AutoMana.OpenTcg.Booking
import AutoMana.Pricing.DailyRollup

/-!
# Missing prices through the tiers

A SKU may quote only a market price, or only a low price. The loader books 0 for the price
it does not find, and the daily refresh takes the minimum and the average over what is
booked. So a price that is missing in the feed is a zero in the daily tier, and the tiers
show what the SKUs have quoted exactly when each SKU that contributes quotes both prices.
-/

namespace AutoMana.OpenTcg

open Relational Pricing
open Staging (ProductsGrow productLookup)

/-! ## What the SKUs quote -/

/-- The prices a SKU quotes, of which it may miss some. -/
def quote? (parsers : Parsers) (sku : Json) : Option (Prices Int) := do
  let mktCents ← (sku.get? "mkt" .null).bind (toCents parsers)
  let lowCents ← (sku.get? "low" .null).bind (toCents parsers)
  return ⟨lowCents, mktCents, none⟩

/-- The columns that the feed fills. -/
def listColumns : List PriceColumn := [.listLowCents, .listAvgCents]

/-- The prices of an item, which are never missing. -/
def PriceRow.prices (row : PriceRow) : Prices Int :=
  ⟨some row.listLowCents, some row.listAvgCents, none⟩

/-- An item has 0 for a price that its SKU does not quote. -/
theorem quote_of_priceRow? {parsers : Parsers} {sku : Json} {row : PriceRow}
    (hrow : priceRow? parsers sku = some (some row)) :
    ∃ quote, quote? parsers sku = some quote ∧
      ∀ column ∈ listColumns, row.prices.get column = some ((quote.get column).getD 0) := by
  simp only [priceRow?, Option.bind_eq_bind, Option.bind_eq_some_iff] at hrow
  obtain ⟨productId, -, finish, -, condition, -, language, -, hrow⟩ := hrow
  split at hrow
  · simp only [Option.bind_eq_some_iff] at hrow
    obtain ⟨mktCents, hmkt, lowCents, hlow, count, -, hrow⟩ := hrow
    split at hrow
    · cases hrow
    · cases hrow
      refine ⟨⟨lowCents, mktCents, none⟩, ?_, ?_⟩
      · simp only [quote?, Option.bind_eq_bind, Option.bind_eq_some_iff]
        exact ⟨mktCents, hmkt, lowCents, hlow, rfl⟩
      · simp [listColumns, Prices.get, PriceRow.prices]
  · cases hrow

/-- The SKUs of a feed that are not skipped, with their items. -/
def readSkus (load : Load) (allSkus : List (Nat × List Json)) : List (Json × PriceRow) :=
  (allSkus.flatMap Prod.snd).filterMap fun sku =>
    (priceRow? load.parsers sku).join.map (sku, ·)

/-- The SKUs of each batch. -/
def skuBatches (load : Load) (allSkus : List (Nat × List Json)) :
    List (List (Json × PriceRow)) :=
  batches load.batchSize [] (readSkus load allSkus)

theorem map_snd_readSkus (load : Load) (allSkus : List (Nat × List Json)) :
    (readSkus load allSkus).map Prod.snd = rowsOf load allSkus := by
  rw [readSkus, rowsOf, List.map_filterMap, List.reduceOption, List.filterMap_filterMap]
  congr 1
  funext sku
  cases priceRow? load.parsers sku with
  | none => rfl
  | some found => cases found <;> rfl

theorem map_skuBatches (load : Load) (allSkus : List (Nat × List Json)) :
    (skuBatches load allSkus).map (List.map Prod.snd) = batchesOf load allSkus := by
  rw [skuBatches, batchesOf, ← map_snd_readSkus, ← batches_map, List.map_nil]

theorem priceRow?_of_mem_skuBatches {load : Load} {allSkus : List (Nat × List Json)}
    {batch : List (Json × PriceRow)} (hbatch : batch ∈ skuBatches load allSkus)
    {sku : Json × PriceRow} (hsku : sku ∈ batch) :
    priceRow? load.parsers sku.1 = some (some sku.2) := by
  have hread : sku ∈ readSkus load allSkus := mem_batches_iff.mpr ⟨batch, hbatch, hsku⟩
  obtain ⟨source, -, hitem⟩ := List.mem_filterMap.mp hread
  obtain ⟨row, hrow, rfl⟩ := Option.map_eq_some_iff.mp hitem
  exact Option.join_eq_some_iff.mp hrow

/-! ## Which SKU contributes -/

/-- A numbered batch. -/
abbrev NumberedBatch := List (Json × PriceRow) × Nat

/-- The batch sends the SKU for the card. -/
def SentFor (load : Load) (batch : NumberedBatch) (sku : Json × PriceRow)
    (card : CardVersionId) : Prop :=
  sku ∈ batch.1 ∧
    tidToMeta load batch.2 (batch.1.map Prod.snd) sku.2.tcgplayerId = some card

/-- A SKU contributes the price of a card when its batch sends it for the card and no later
batch replaces it. -/
def Contributes (load : Load) :
    List NumberedBatch → Json × PriceRow → CardVersionId → Prop
  | [], _, _ => False
  | batch :: later, sku, card =>
    (SentFor load batch sku card ∧ ∀ other ∈ later,
      ¬ Chooses load other.2 (other.1.map Prod.snd) sku.2 card) ∨
    Contributes load later sku card

/-- The key of a row for a card. -/
def StandsUnder (load : Load) (products : Products) (row : PriceRow) (card : CardVersionId)
    (key : ObservationKey) : Prop :=
  ∃ product ∈ productLookup products load.reference.sourceId card,
    observationKey? load product.2 row = some key

/-- The stored prices are those of the item. -/
def Shows (price : StoredPrice) (row : PriceRow) : Prop :=
  ∀ column ∈ listColumns, (price.prices.get column).map Int.ofNat = row.prices.get column

section Products

variable {load : Load} {products grown : Products} {row : PriceRow} {card : CardVersionId}
  {key : ObservationKey}

/-- A card has one source product of a source. -/
theorem productLookup_unique {product other : ProductId × SourceProductId}
    (hproduct : product ∈ productLookup products load.reference.sourceId card)
    (hother : other ∈ productLookup products load.reference.sourceId card) :
    product = other := by
  obtain ⟨hlinked, hsource⟩ := Staging.mem_productLookup.mp hproduct
  obtain ⟨hlinked', hsource'⟩ := Staging.mem_productLookup.mp hother
  have hid := Table.key_unique products.mtgCardProducts_unique hlinked hlinked'
  rw [← hid] at hsource'
  exact Prod.ext hid (Table.key_unique products.sourceProduct_unique hsource hsource')

theorem productLookup_of_grow (hgrow : ProductsGrow load.supply products grown)
    {product : ProductId × SourceProductId}
    (hproduct : product ∈ productLookup products load.reference.sourceId card) :
    product ∈ productLookup grown load.reference.sourceId card := by
  obtain ⟨hlinked, hsource⟩ := Staging.mem_productLookup.mp hproduct
  exact Staging.mem_productLookup.mpr
    ⟨hgrow.mtgCardProducts.get?_kept hlinked, hgrow.sourceProduct.get?_kept hsource⟩

theorem StandsUnder.grow (hstands : StandsUnder load products row card key)
    (hgrow : ProductsGrow load.supply products grown) :
    StandsUnder load grown row card key := by
  obtain ⟨product, hproduct, hkey⟩ := hstands
  exact ⟨product, productLookup_of_grow hgrow hproduct, hkey⟩

/-- Rows that stand under one key for two cards are of one card and have one set of codes. -/
theorem StandsUnder.unique {other : PriceRow} {card' : CardVersionId}
    (hstands : StandsUnder load products row card key)
    (hother : StandsUnder load products other card' key) :
    card = card' ∧ row.codes = other.codes := by
  obtain ⟨product, hproduct, hkey⟩ := hstands
  obtain ⟨product', hproduct', hkey'⟩ := hother
  obtain ⟨hid, hcodes⟩ := codes_eq_of_key hkey hkey'
  obtain ⟨hlinked, hsource⟩ := Staging.mem_productLookup.mp hproduct
  obtain ⟨hlinked', hsource'⟩ := Staging.mem_productLookup.mp hproduct'
  rw [← hid, hsource, Option.some.injEq, SourceProduct.mk.injEq] at hsource'
  rw [← hsource'.1, hlinked, Option.some.injEq] at hlinked'
  exact ⟨hlinked', hcodes⟩

end Products

/-! ## What the batches leave in tier 1 -/

section Batch

variable {load : Load} {rows : List PriceRow} {row : PriceRow} {card : CardVersionId}
  {state next : LoadState} {key : ObservationKey}

/-- The rows of a batch that its insert receives, by their keys. -/
theorem mem_sent_iff (hensured : EnsuredFor load state.batches rows state.tables.products
    next.tables.products) {inserted : ObservationKey × StoredPrice} :
    inserted ∈ (rows.filterMap (sent? load state.batches rows next.tables.products)).filterMap
        (excluded? load) ↔
      ∃ row ∈ rows, ∃ card, tidToMeta load state.batches rows row.tcgplayerId = some card ∧
        StandsUnder load next.tables.products row card inserted.1 ∧
        storedPrice? load row = some inserted.2 := by
  simp only [List.mem_filterMap, excluded?_eq_some_iff]
  constructor
  · intro hinserted
    obtain ⟨⟨id, row⟩, ⟨row', hrow, hsent⟩, hkey, hprice⟩ := hinserted
    obtain ⟨rfl, card, hcard, productId, hproduct⟩ := (sent?_eq_some_iff hensured hrow).mp hsent
    exact ⟨row, hrow, card, hcard, ⟨_, hproduct, hkey⟩, hprice⟩
  · intro hstands
    obtain ⟨row, hrow, card, hcard, ⟨product, hproduct, hkey⟩, hprice⟩ := hstands
    exact ⟨(product.2, row), ⟨row, hrow, (sent?_eq_some_iff hensured hrow).mpr
      ⟨rfl, card, hcard, product.1, hproduct⟩⟩, hkey, hprice⟩

/-- The columns of a row that is inserted are those of its item. -/
theorem shows_of_storedPrice? {price stored : StoredPrice}
    (hprice : storedPrice? load row = some price)
    (hstored : stored = price ∨ ∃ old, stored = updatePrice old price) : Shows stored row := by
  simp only [storedPrice?, columns?, int4?, Option.bind_eq_bind, Option.bind_eq_some_iff,
    Option.pure_def, Option.some.injEq, Option.ite_none_right_eq_some] at hprice
  obtain ⟨⟨prices, count⟩, ⟨avg, ⟨-, rfl⟩, low, ⟨-, rfl⟩, listCount, -, hcolumns⟩, checked,
    hchecked, rfl⟩ := hprice
  obtain ⟨rfl, -⟩ := Prod.mk.inj hcolumns
  have hget := Prices.get_of_checked hchecked
  intro column hcolumn
  have hsame : stored.prices.get column = checked.get column := by
    rcases hstored with rfl | ⟨old, rfl⟩
    · rfl
    · simp only [listColumns, List.mem_cons, List.not_mem_nil, or_false] at hcolumn
      rcases hcolumn with rfl | rfl <;> rfl
  rw [hsame, hget]
  rfl

/-- A batch stores the prices of the rows it sends. -/
theorem shows_of_upsert (hupsert : upsertOpentcgPriceBatch load state rows = some next)
    (hrow : row ∈ rows) (hcard : tidToMeta load state.batches rows row.tcgplayerId = some card)
    (hstands : StandsUnder load next.tables.products row card key) :
    ∃ price, next.tables.priceObservation.get? key = some price ∧ Shows price row := by
  obtain ⟨hensured, -, hpass, excluded, hrows, hobservation⟩ := upsert_cases hupsert
  obtain ⟨product, hproduct, hkey⟩ := hstands
  have hsent : (product.2, row) ∈
      rows.filterMap (sent? load state.batches rows next.tables.products) :=
    List.mem_filterMap.mpr ⟨row, hrow, (sent?_eq_some_iff hensured hrow).mpr
      ⟨rfl, card, hcard, product.1, hproduct⟩⟩
  have hpassed := List.any_eq_false.mp hpass _ hsent
  rw [rejected, hkey, Option.isSome_some, Bool.true_and, Bool.not_eq_true, Bool.or_eq_false_iff,
    Option.isNone_eq_false_iff, Option.isNone_eq_false_iff] at hpassed
  obtain ⟨price, hprice⟩ := Option.isSome_iff_exists.mp hpassed.2
  have hexcluded : excluded.get? key = some price := by
    rw [← Table.mem_rows_iff, hrows]
    exact List.mem_filterMap.mpr ⟨_, hsent, excluded?_eq_some_iff.mpr ⟨hkey, hprice⟩⟩
  rw [hobservation, Table.get?_upsert, hexcluded]
  cases state.tables.priceObservation.get? key with
  | none => exact ⟨price, rfl, shows_of_storedPrice? hprice (Or.inl rfl)⟩
  | some old => exact ⟨_, rfl, shows_of_storedPrice? hprice (Or.inr ⟨old, rfl⟩)⟩

/-- A batch leaves the keys of no row it sends. -/
theorem get?_of_upsert (hupsert : upsertOpentcgPriceBatch load state rows = some next)
    (hfree : ∀ row ∈ rows, ∀ card, tidToMeta load state.batches rows row.tcgplayerId =
      some card → ¬ StandsUnder load next.tables.products row card key) :
    next.tables.priceObservation.get? key = state.tables.priceObservation.get? key := by
  obtain ⟨hensured, -, -, excluded, hrows, hobservation⟩ := upsert_cases hupsert
  have hnone : excluded.get? key = none := by
    by_contra hsome
    obtain ⟨price, hprice⟩ := Option.ne_none_iff_exists'.mp hsome
    rw [← Table.mem_rows_iff, hrows, mem_sent_iff hensured] at hprice
    obtain ⟨row, hrow, card, hcard, hstands, -⟩ := hprice
    exact hfree row hrow card hcard hstands
  rw [hobservation, Table.get?_upsert, hnone]
  cases state.tables.priceObservation.get? key <;> rfl

end Batch

section Run

variable {load : Load} {numbered : List NumberedBatch} {sku : Json × PriceRow}
  {card : CardVersionId} {state next : LoadState} {products : Products} {key : ObservationKey}

/-- A row the batch sends stands under the key it has after any later batch. -/
theorem standsUnder_of_ensure {rows : List PriceRow} {row : PriceRow} {before grown : Products}
    (hensured : EnsuredFor load state.batches rows before products)
    (hgrow : ProductsGrow load.supply products grown) (hrow : row ∈ rows)
    (hcard : tidToMeta load state.batches rows row.tcgplayerId = some card)
    (hstands : StandsUnder load grown row card key) : StandsUnder load products row card key := by
  obtain ⟨product, hproduct, hkey⟩ := hstands
  obtain ⟨found, hfound⟩ := Staging.productLookup_of_ensure hensured
    (List.mem_filterMap.mpr ⟨row, hrow, hcard⟩)
  have hmem : found ∈ productLookup products load.reference.sourceId card := by
    rw [hfound]
    exact List.mem_singleton_self found
  rw [productLookup_unique hproduct (productLookup_of_grow hgrow hmem)] at hkey
  exact ⟨found, hmem, hkey⟩

/-- The rows of numbered batches. -/
def rowBatches (numbered : List NumberedBatch) : List (List PriceRow) :=
  numbered.map fun batch => batch.1.map Prod.snd

/-- The batches have the numbers under which a run reaches them. -/
def NumberedFrom : Nat → List NumberedBatch → Prop
  | _, [] => True
  | start, batch :: later => batch.2 = start ∧ NumberedFrom (start + 1) later

theorem numberedFrom_zipIdx (batches : List (List (Json × PriceRow))) (start : Nat) :
    NumberedFrom start (batches.zipIdx start) := by
  induction batches generalizing start with
  | nil => trivial
  | cons batch rest ih => exact ⟨rfl, ih (start + 1)⟩

/-- One of the batches sends a row for the key. -/
def Written (load : Load) (products : Products) (numbered : List NumberedBatch)
    (key : ObservationKey) : Prop :=
  ∃ batch ∈ numbered, ∃ sku card, SentFor load batch sku card ∧
    StandsUnder load products sku.2 card key

theorem productsGrow_of_run {batches : List (List PriceRow)}
    (hrun : batches.foldlM (upsertOpentcgPriceBatch load) state = some next) :
    ProductsGrow load.supply state.tables.products next.tables.products := by
  induction batches generalizing state with
  | nil =>
    obtain rfl := Option.some.inj hrun
    exact ⟨Table.Grows.refl _ _, Table.Grows.refl _ _⟩
  | cons batch rest ih =>
    rw [List.foldlM_cons, Option.bind_eq_bind, Option.bind_eq_some_iff] at hrun
    obtain ⟨middle, hmiddle, hnext⟩ := hrun
    obtain ⟨hensured, -⟩ := upsert_cases hmiddle
    exact (Staging.productsGrow_of_ensure hensured).trans (ih hnext)

/-- A run leaves the keys for which it sends no row. -/
theorem get?_of_run (hnumbered : NumberedFrom state.batches numbered)
    (hrun : (rowBatches numbered).foldlM (upsertOpentcgPriceBatch load) state = some next)
    (hfree : ¬ Written load next.tables.products numbered key) :
    next.tables.priceObservation.get? key = state.tables.priceObservation.get? key := by
  induction numbered generalizing state with
  | nil =>
    obtain rfl := Option.some.inj hrun
    rfl
  | cons batch later ih =>
    obtain ⟨hnumber, hlater⟩ := hnumbered
    rw [rowBatches, List.map_cons, List.foldlM_cons, Option.bind_eq_bind,
      Option.bind_eq_some_iff] at hrun
    obtain ⟨middle, hmiddle, hnext⟩ := hrun
    obtain ⟨hensured, hbatches, -⟩ := upsert_cases hmiddle
    have hrest : ¬ Written load next.tables.products later key := by
      intro hwritten
      obtain ⟨other, hother, hsent⟩ := hwritten
      exact hfree ⟨other, List.mem_cons_of_mem _ hother, hsent⟩
    rw [ih (hbatches ▸ hlater) hnext hrest]
    apply get?_of_upsert hmiddle
    intro row hrow card hcard hstands
    obtain ⟨sku, hsku, rfl⟩ := List.mem_map.mp hrow
    refine hfree ⟨batch, List.mem_cons_self, sku, card, ⟨hsku, ?_⟩,
      hstands.grow (productsGrow_of_run hnext)⟩
    rw [hnumber]
    exact hcard

/-- After a run the rows of a SKU that contributes show its item. -/
theorem shows_of_run (hnumbered : NumberedFrom state.batches numbered)
    (hrun : (rowBatches numbered).foldlM (upsertOpentcgPriceBatch load) state = some next)
    (hcontributes : Contributes load numbered sku card)
    (hstands : StandsUnder load next.tables.products sku.2 card key) :
    ∃ price, next.tables.priceObservation.get? key = some price ∧ Shows price sku.2 := by
  induction numbered generalizing state with
  | nil => exact hcontributes.elim
  | cons batch later ih =>
    obtain ⟨hnumber, hlater⟩ := hnumbered
    rw [rowBatches, List.map_cons, List.foldlM_cons, Option.bind_eq_bind,
      Option.bind_eq_some_iff] at hrun
    obtain ⟨middle, hmiddle, hnext⟩ := hrun
    obtain ⟨hensured, hbatches, -⟩ := upsert_cases hmiddle
    have hgrow := productsGrow_of_run hnext
    rcases hcontributes with ⟨⟨hsku, hcard⟩, hlast⟩ | hrest
    · -- no later batch touches the key
      have hfree : ¬ Written load next.tables.products later key := by
        intro hwritten
        obtain ⟨other, hother, sku', card', ⟨hsku', hcard'⟩, hstands'⟩ := hwritten
        obtain ⟨rfl, hcodes⟩ := hstands.unique hstands'
        refine hlast other hother ⟨sku'.2, List.mem_map_of_mem hsku', ⟨?_, hcodes.symm⟩, hcard'⟩
        exact (carries_of_tidToMeta hcard').id_unique (carries_of_tidToMeta hcard)
      rw [get?_of_run (hbatches ▸ hlater) hnext hfree]
      rw [hnumber] at hcard
      have hrow := List.mem_map_of_mem (f := Prod.snd) hsku
      exact shows_of_upsert hmiddle hrow hcard
        (standsUnder_of_ensure hensured hgrow hrow hcard hstands)
    · exact ih (hbatches ▸ hlater) hnext hrest

/-- After a run the card of a SKU that is sent has a source product. -/
theorem exists_product_of_run (hnumbered : NumberedFrom state.batches numbered)
    (hrun : (rowBatches numbered).foldlM (upsertOpentcgPriceBatch load) state = some next)
    {batch : NumberedBatch} (hbatch : batch ∈ numbered) (hsent : SentFor load batch sku card) :
    ∃ product, product ∈ productLookup next.tables.products load.reference.sourceId card := by
  induction numbered generalizing state with
  | nil => cases hbatch
  | cons first later ih =>
    obtain ⟨hnumber, hlater⟩ := hnumbered
    rw [rowBatches, List.map_cons, List.foldlM_cons, Option.bind_eq_bind,
      Option.bind_eq_some_iff] at hrun
    obtain ⟨middle, hmiddle, hnext⟩ := hrun
    obtain ⟨hensured, hbatches, -⟩ := upsert_cases hmiddle
    rcases List.mem_cons.mp hbatch with rfl | hmem
    · obtain ⟨hsku, hcard⟩ := hsent
      rw [hnumber] at hcard
      obtain ⟨product, hproduct⟩ := Staging.productLookup_of_ensure hensured
        (List.mem_filterMap.mpr ⟨sku.2, List.mem_map_of_mem hsku, hcard⟩)
      refine ⟨product, productLookup_of_grow (productsGrow_of_run hnext) ?_⟩
      rw [hproduct]
      exact List.mem_singleton_self product
    · exact ih (hbatches ▸ hlater) hnext hmem

/-- Of the SKUs sent for a key, the last contributes. -/
theorem exists_contributes (hwritten : Written load products numbered key) :
    ∃ sku card, Contributes load numbered sku card ∧
      StandsUnder load products sku.2 card key := by
  induction numbered with
  | nil =>
    obtain ⟨batch, hbatch, -⟩ := hwritten
    cases hbatch
  | cons batch later ih =>
    by_cases hlater : Written load products later key
    · obtain ⟨sku, card, hcontributes, hstands⟩ := ih hlater
      exact ⟨sku, card, Or.inr hcontributes, hstands⟩
    · obtain ⟨other, hother, sku, card, hsent, hstands⟩ := hwritten
      rcases List.mem_cons.mp hother with rfl | hmem
      · refine ⟨sku, card, Or.inl ⟨hsent, ?_⟩, hstands⟩
        intro replacing hreplacing hchooses
        obtain ⟨row, hrow, ⟨-, hcodes⟩, hcard⟩ := hchooses
        obtain ⟨sku', hsku', rfl⟩ := List.mem_map.mp hrow
        obtain ⟨product, hproduct, hkey⟩ := hstands
        refine hlater ⟨replacing, hreplacing, sku', card, ⟨hsku', hcard⟩, product, hproduct, ?_⟩
        rw [observationKey?_congr hcodes]
        exact hkey
      · exact absurd ⟨other, hmem, sku, card, hsent, hstands⟩ hlater

end Run

/-! ## The daily tier -/

/-- The tables as the tier procedures read them. -/
def tier1Of (tables : Tables) : Tier1 where
  priceObservation := tables.priceObservation.mapValues fun _ price => {
    prices := price.prices
    listCount := price.listCount.map Int.toNat
    soldCount := price.soldCount.map Int.toNat
    scrapedAt := price.scrapedAt }
  products := tables.products

/-- A row of tier 1 is aggregated under a day and a key. -/
def Attributed (tier1 : Tier1) (observation : ObservationKey) (input : DailyInput) : Prop :=
  ∃ price, tier1.priceObservation.get? observation = some price ∧
    attributeCard tier1.products (observation, price) = some input

theorem mem_dailyInputs {tier1 : Tier1} {input : DailyInput} :
    input ∈ dailyInputs tier1 ↔
      (∃ observation, Attributed tier1 observation input) ∧ input.prices.allNull = false := by
  simp only [dailyInputs, List.mem_filter, List.mem_filterMap, Bool.not_eq_true', Prod.exists,
    Table.mem_rows_iff, Attributed]

/-- An aggregate is zero only when one of its rows is. -/
theorem exists_zero_of_dailyReference {tier1 : Tier1} {date : Int} {key : PriceKey}
    {daily : DailyPrice} (hdaily : dailyReference tier1 date key = some daily)
    {column : PriceColumn} (hzero : daily.prices.get column = some 0) :
    ∃ observation input, Attributed tier1 observation input ∧ input.priceDate = date ∧
      input.key = key ∧ input.prices.get column = some 0 := by
  rw [dailyReference] at hdaily
  generalize hgroup : ((dailyInputs tier1).filter fun row =>
    row.priceDate = date ∧ row.key = key) = group at hdaily
  have hmem : some 0 ∈ group.map (·.prices.get column) := by
    cases group with
    | nil => cases hdaily
    | cons first rest =>
      obtain rfl := Option.some.inj hdaily
      cases column with
      | listLowCents => exact Aggregate.mem_of_min hzero
      | listAvgCents => exact Aggregate.zero_mem_of_avg hzero
      | soldAvgCents => exact Aggregate.zero_mem_of_avg hzero
  obtain ⟨input, hinput, hprice⟩ := List.mem_map.mp hmem
  rw [← hgroup, List.mem_filter, decide_eq_true_eq, mem_dailyInputs] at hinput
  obtain ⟨⟨⟨observation, hattributed⟩, -⟩, hdate, hkey⟩ := hinput
  exact ⟨observation, input, hattributed, hdate, hkey, hprice⟩

/-- The call aggregates the tables of a load, its day included, and no window raises. -/
structure Refreshes (call : RefreshCall) (tiers : Tiers) (tables : Tables) (day : Int) : Prop where
  tier1 : call.tier1 = tier1Of tables
  commits : ∀ window ∈ refreshWindows call tiers, call.raises window = false
  day_mem : ∃ window ∈ refreshWindows call tiers, window.Contains day

section Daily

variable {load : Load} {allSkus : List (Nat × List Json)} {tables next : Tables} {loaded : Nat}
  {call : RefreshCall} {tiers : Tiers}

/-- The SKU whose price is stored under the key after the load. -/
def ContributesUnder (load : Load) (allSkus : List (Nat × List Json)) (next : Tables)
    (sku : Json × PriceRow) (observation : ObservationKey) : Prop :=
  ∃ card, Contributes load (skuBatches load allSkus).zipIdx sku card ∧
    StandsUnder load next.products sku.2 card observation

/-- The SKU really quotes the price, which may be missing. -/
def Quotes (load : Load) (sku : Json × PriceRow) (column : PriceColumn) (cents : Option Int) :
    Prop :=
  ∃ quote, quote? load.parsers sku.1 = some quote ∧ quote.get column = cents

/-- Missing prices are missing in the daily tier. -/
structure StaysMissing (load : Load) (allSkus : List (Nat × List Json)) (next : Tables)
    (call : RefreshCall) (tiers : Tiers) : Prop where
  /-- A price that the refresh makes zero is zero in a SKU, or in a row of no SKU. -/
  zero : ∀ column ∈ listColumns, ∀ date key daily,
    (∃ window ∈ refreshWindows call tiers, window.Contains date) →
    (dailyReference call.tier1 date key).isSome →
    (afterRefresh tiers call).printPriceDaily.get? (date, key) = some daily →
    daily.prices.get column = some 0 →
    ∃ observation input, Attributed call.tier1 observation input ∧ input.priceDate = date ∧
      input.key = key ∧
      ((∃ sku, ContributesUnder load allSkus next sku observation ∧
          Quotes load sku column (some 0)) ∨
        (∀ sku, ¬ ContributesUnder load allSkus next sku observation) ∧
          input.prices.get column = some 0)
  /-- What a SKU contributes to an aggregate is what it quotes. -/
  contributes : ∀ column ∈ listColumns, ∀ sku observation input,
    ContributesUnder load allSkus next sku observation →
    Attributed call.tier1 observation input →
    Quotes load sku column ((input.prices.get column).map Int.ofNat)

/-- Every SKU that contributes quotes both prices. -/
def QuotesBoth (load : Load) (allSkus : List (Nat × List Json)) : Prop :=
  ∀ column ∈ listColumns, ∀ sku card,
    Contributes load (skuBatches load allSkus).zipIdx sku card →
    ∃ cents, Quotes load sku column (some cents)

theorem rowBatches_zipIdx (load : Load) (allSkus : List (Nat × List Json)) :
    rowBatches (skuBatches load allSkus).zipIdx = batchesOf load allSkus := by
  have hcomp : (fun batch : NumberedBatch => batch.1.map Prod.snd) =
      List.map Prod.snd ∘ Prod.fst := rfl
  rw [rowBatches, hcomp, ← List.map_map, List.zipIdx_map_fst, map_skuBatches]

theorem mem_of_contributes {numbered : List NumberedBatch} {sku : Json × PriceRow}
    {card : CardVersionId} (hcontributes : Contributes load numbered sku card) :
    ∃ batch ∈ numbered, SentFor load batch sku card := by
  induction numbered with
  | nil => exact hcontributes.elim
  | cons batch later ih =>
    rcases hcontributes with ⟨hsent, -⟩ | hrest
    · exact ⟨batch, List.mem_cons_self, hsent⟩
    · obtain ⟨other, hother, hsent⟩ := ih hrest
      exact ⟨other, List.mem_cons_of_mem _ hother, hsent⟩

theorem priceRow?_of_contributes {sku : Json × PriceRow} {card : CardVersionId}
    (hcontributes : Contributes load (skuBatches load allSkus).zipIdx sku card) :
    priceRow? load.parsers sku.1 = some (some sku.2) := by
  obtain ⟨batch, hbatch, hsku, -⟩ := mem_of_contributes hcontributes
  have hmem : batch.1 ∈ (skuBatches load allSkus).zipIdx.map Prod.fst := List.mem_map_of_mem hbatch
  rw [List.zipIdx_map_fst] at hmem
  exact priceRow?_of_mem_skuBatches hmem hsku

theorem zipIdx_run_of_load
    (hload : loadOpentcgPrices load allSkus tables = some (next, loaded)) :
    ∃ state, (rowBatches (skuBatches load allSkus).zipIdx).foldlM
      (upsertOpentcgPriceBatch load) ⟨tables, 0, 0⟩ = some state ∧ state.tables = next := by
  rw [rowBatches_zipIdx]
  exact run_of_load hload

/-- A SKU that contributes contributes the prices of its item. -/
theorem prices_of_contributesUnder
    (hload : loadOpentcgPrices load allSkus tables = some (next, loaded))
    {sku : Json × PriceRow} {observation : ObservationKey} {input : DailyInput}
    (hunder : ContributesUnder load allSkus next sku observation)
    (hattributed : Attributed (tier1Of next) observation input) :
    ∀ column ∈ listColumns, (input.prices.get column).map Int.ofNat =
      sku.2.prices.get column := by
  obtain ⟨card, hcontributes, hstands⟩ := hunder
  obtain ⟨state, hrun, rfl⟩ := zipIdx_run_of_load hload
  obtain ⟨price, hprice, hshows⟩ :=
    shows_of_run (numberedFrom_zipIdx _ 0) hrun hcontributes hstands
  obtain ⟨stored, hstored, hcard⟩ := hattributed
  simp only [tier1Of, Table.get?_mapValues, hprice, Option.map_some, Option.some.injEq] at hstored
  simp only [attributeCard, Option.bind_eq_bind, Option.bind_eq_some_iff, Option.pure_def,
    Option.some.injEq] at hcard
  obtain ⟨_, -, _, -, rfl⟩ := hcard
  rw [← hstored]
  exact hshows

/-- A SKU that contributes has a row that is aggregated. -/
theorem exists_attributed_of_contributes
    (hload : loadOpentcgPrices load allSkus tables = some (next, loaded))
    {sku : Json × PriceRow} {card : CardVersionId}
    (hcontributes : Contributes load (skuBatches load allSkus).zipIdx sku card) :
    ∃ observation input, ContributesUnder load allSkus next sku observation ∧
      Attributed (tier1Of next) observation input := by
  obtain ⟨state, hrun, rfl⟩ := zipIdx_run_of_load hload
  obtain ⟨batch, hbatch, hsent⟩ := mem_of_contributes hcontributes
  obtain ⟨product, hproduct⟩ :=
    exists_product_of_run (numberedFrom_zipIdx _ 0) hrun hbatch hsent
  obtain ⟨observation, hkey⟩ := exists_observationKey
    (coded_of_priceRow? (priceRow?_of_contributes hcontributes)) load product.2
  obtain ⟨price, hprice, -⟩ := shows_of_run (numberedFrom_zipIdx _ 0) hrun hcontributes
    ⟨product, hproduct, hkey⟩
  obtain ⟨hlinked, hsource⟩ := Staging.mem_productLookup.mp hproduct
  have hstored : ∃ stored, (tier1Of state.tables).priceObservation.get? observation =
      some stored := by
    rw [tier1Of, Table.get?_mapValues, hprice]
    exact ⟨_, rfl⟩
  obtain ⟨stored, hstored⟩ := hstored
  have hinput : ∃ input, attributeCard (tier1Of state.tables).products (observation, stored) =
      some input := by
    simp only [attributeCard, tier1Of, sourceProductId_of_key hkey, hsource, hlinked,
      Option.bind_eq_bind, Option.bind_some]
    exact ⟨_, rfl⟩
  obtain ⟨input, hinput⟩ := hinput
  exact ⟨observation, input, ⟨card, hcontributes, product, hproduct, hkey⟩, stored, hstored,
    hinput⟩

/-- SKUs that quote both prices contribute what they quote. -/
theorem quotes_of_quotesBoth
    (hload : loadOpentcgPrices load allSkus tables = some (next, loaded))
    (hboth : QuotesBoth load allSkus) {column : PriceColumn} (hcolumn : column ∈ listColumns)
    {sku : Json × PriceRow} {observation : ObservationKey} {input : DailyInput}
    (hunder : ContributesUnder load allSkus next sku observation)
    (hattributed : Attributed (tier1Of next) observation input) :
    Quotes load sku column ((input.prices.get column).map Int.ofNat) := by
  rw [prices_of_contributesUnder hload hunder hattributed column hcolumn]
  obtain ⟨card, hcontributes, -⟩ := hunder
  obtain ⟨cents, quote, hquote, hcents⟩ := hboth column hcolumn sku card hcontributes
  obtain ⟨quote', hquote', hrow⟩ := quote_of_priceRow? (priceRow?_of_contributes hcontributes)
  rw [hquote, Option.some.injEq] at hquote'
  refine ⟨quote, hquote, ?_⟩
  rw [hrow column hcolumn, ← hquote', hcents, Option.getD_some]

/-- A SKU that contributes and misses a price contributes zero for it. -/
theorem quotesBoth_of_staysMissing
    (hload : loadOpentcgPrices load allSkus tables = some (next, loaded))
    (hrefresh : Refreshes call tiers next load.tsDate)
    (hstays : StaysMissing load allSkus next call tiers) : QuotesBoth load allSkus := by
  intro column hcolumn sku card hcontributes
  obtain ⟨observation, input, hunder, hattributed⟩ :=
    exists_attributed_of_contributes hload hcontributes
  have hprices := prices_of_contributesUnder hload hunder hattributed column hcolumn
  rw [← hrefresh.tier1] at hattributed
  have hquotes := hstays.contributes column hcolumn sku observation input hunder hattributed
  obtain ⟨quote, -, hrow⟩ := quote_of_priceRow? (priceRow?_of_contributes hcontributes)
  rw [hprices, hrow column hcolumn] at hquotes
  exact ⟨_, hquotes⟩

/-- After a load and a refresh of its day, missing prices are missing in the daily tier
exactly when every SKU that contributes quotes both prices. -/
theorem staysMissing_iff
    (hload : loadOpentcgPrices load allSkus tables = some (next, loaded))
    (hrefresh : Refreshes call tiers next load.tsDate) :
    StaysMissing load allSkus next call tiers ↔ QuotesBoth load allSkus := by
  constructor
  · exact quotesBoth_of_staysMissing hload hrefresh
  · intro hboth
    refine ⟨?_, ?_⟩
    · intro column hcolumn date key daily hwindow haggregated hdaily hzero
      obtain ⟨reference, hreference⟩ := Option.isSome_iff_exists.mp haggregated
      rw [afterRefresh_eq_foldl, foldl_refreshBatch_daily hrefresh.commits, if_pos hwindow,
        hreference, Option.some_or, Option.some.injEq] at hdaily
      obtain ⟨observation, input, hattributed, hdate, hkey, hprice⟩ :=
        exists_zero_of_dailyReference hreference (hdaily ▸ hzero)
      refine ⟨observation, input, hattributed, hdate, hkey, ?_⟩
      by_cases hsku : ∃ sku, ContributesUnder load allSkus next sku observation
      · obtain ⟨sku, hunder⟩ := hsku
        rw [hrefresh.tier1] at hattributed
        have hquotes := quotes_of_quotesBoth hload hboth hcolumn hunder hattributed
        rw [hprice] at hquotes
        exact Or.inl ⟨sku, hunder, hquotes⟩
      · exact Or.inr ⟨not_exists.mp hsku, hprice⟩
    · intro column hcolumn sku observation input hunder hattributed
      rw [hrefresh.tier1] at hattributed
      exact quotes_of_quotesBoth hload hboth hcolumn hunder hattributed

end Daily

/-! ## A SKU with one price -/

/-- A SKU of the id that quotes the prices. -/
def quotedSku (prices : List (String × Json)) : Json := .dict ([
  ("product_id", .str "8001"),
  ("var", .str "N"),
  ("cnd", .str "NM"),
  ("lng", .str "EN")] ++ prices)

/-- A refresh of the day of the load. -/
def refreshLoad (next : Tables) : RefreshCall := refreshDay 20000 (tier1Of next)

theorem refreshes_refreshLoad (next : Tables) :
    Refreshes (refreshLoad next) (.unrolled .empty .empty) next 20000 := by
  have hrange : refreshRange (refreshLoad next) (.unrolled .empty .empty) =
      .ok (20000, 20000) := rfl
  exact ⟨rfl, fun _ _ => rfl, (exists_refreshWindow_iff hrange 20000).mpr ⟨le_refl _, le_refl _⟩⟩

/-- The load of one SKU of the id. -/
def loadOne (prices : List (String × Json)) : Option (Tables × Nat) :=
  loadOpentcgPrices (sampleLoad [7] (List.nodup_singleton 7)) [(1, [quotedSku prices])] sampleTables

/-- A SKU that quotes both prices, the low one zero. -/
theorem staysMissing_both_quoted : ∃ next loaded,
    loadOne [("mkt", .number 125 2), ("low", .number 0 2)] = some (next, loaded) ∧
    StaysMissing (sampleLoad [7] (List.nodup_singleton 7))
      [(1, [quotedSku [("mkt", .number 125 2), ("low", .number 0 2)]])] next (refreshLoad next)
      (.unrolled .empty .empty) := by
  have hsome : (loadOne [("mkt", .number 125 2), ("low", .number 0 2)]).isSome := by
    decide +kernel
  obtain ⟨⟨next, loaded⟩, hload⟩ := Option.isSome_iff_exists.mp hsome
  refine ⟨next, loaded, hload, (staysMissing_iff hload (refreshes_refreshLoad next)).mpr ?_⟩
  intro column hcolumn sku card hcontributes
  obtain ⟨batch, hbatch, hsku, -⟩ := mem_of_contributes hcontributes
  obtain rfl := List.mem_singleton.mp hbatch
  obtain rfl := List.mem_singleton.mp hsku
  simp only [listColumns, List.mem_cons, List.not_mem_nil, or_false] at hcolumn
  rcases hcolumn with rfl | rfl
  · exact ⟨0, _, rfl, rfl⟩
  · exact ⟨125, _, rfl, rfl⟩

/-- A SKU that quotes only a market price contributes zero as its low price. -/
theorem market_price_alone_is_zero_low : ∃ next loaded,
    loadOne [("mkt", .number 125 2)] = some (next, loaded) ∧
    ¬ StaysMissing (sampleLoad [7] (List.nodup_singleton 7))
      [(1, [quotedSku [("mkt", .number 125 2)]])] next (refreshLoad next)
      (.unrolled .empty .empty) := by
  have hsome : (loadOne [("mkt", .number 125 2)]).isSome := by
    decide +kernel
  obtain ⟨⟨next, loaded⟩, hload⟩ := Option.isSome_iff_exists.mp hsome
  refine ⟨next, loaded, hload, ?_⟩
  intro hstays
  have hboth := quotesBoth_of_staysMissing hload (refreshes_refreshLoad next) hstays
  have hcontributes : Contributes (sampleLoad [7] (List.nodup_singleton 7))
      (skuBatches (sampleLoad [7] (List.nodup_singleton 7))
        [(1, [quotedSku [("mkt", .number 125 2)]])]).zipIdx
      (quotedSku [("mkt", .number 125 2)], ⟨"8001", "NONFOIL", "NM", "en", 125, 0, .number 0 0⟩)
      7 := by
    refine Or.inl ⟨⟨List.mem_singleton_self _, ?_⟩, List.forall_mem_nil _⟩
    rfl
  obtain ⟨cents, quote, hquote, hcents⟩ :=
    hboth .listLowCents List.mem_cons_self _ _ hcontributes
  cases hquote
  cases hcents

end AutoMana.OpenTcg
