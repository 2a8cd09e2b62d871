import AutoMana.Pricing.BookedPrices
import AutoMana.Relational.Runs

/-!
# Prices go to their own card

Calls of both kinds follow each other. None of them misplaces a product, and a price stays booked
under the source product of its own card until a later batch of its day overwrites it.
-/

namespace AutoMana.Pricing.CardPrices

open Relational

/-! ## The source products of cards -/

section ForCards

variable {catalogue : Catalogue} {engine : Engine} {tables : Tables}
  {cards : List CardVersionId} {sourceCode : String}

/-- What `upsert_source_products_for_cards` leaves: the cards that it returns are linked, and the
source product of each is its own. -/
structure OwnSources (catalogue : Catalogue) (cards : List CardVersionId) (sourceCode : String)
    (tables next : Tables) (found : Table CardVersionId SourceProductId) : Prop where
  grown : Grown catalogue tables next
  priceObservation : next.priceObservation = tables.priceObservation
  linked : ∀ card ∈ cards, ∃ product, Linked next product card
  found : ∀ card id, found.get? card = some id ↔
    card ∈ cards ∧ ∃ product, Linked next product card ∧ Sold catalogue next product sourceCode id

theorem get?_cvToProduct_iff {card : CardVersionId} {product : ProductId} :
    (Table.ofPairs (getProductIdsForCards engine cards tables.products)).get? card =
      some product ↔ card ∈ cards ∧ Linked tables product card := by
  refine Table.get?_ofPairs_iff (fun found => card ∈ cards ∧ Linked tables found card)
    (fun found => ?_) fun _ _ hfound hother => hfound.2.product_unique hother.2
  simp only [getProductIdsForCards, Listing.mem_list, List.mem_map, List.mem_filter,
    Prod.exists, Prod.swap_prod_mk, Prod.mk.injEq, Table.mem_rows_iff, decide_eq_true_eq]
  constructor
  · rintro ⟨_, _, ⟨hlinked, hcard⟩, rfl, rfl⟩
    exact ⟨hcard, hlinked⟩
  · rintro ⟨hcard, hlinked⟩
    exact ⟨found, card, ⟨hlinked, hcard⟩, rfl, rfl⟩

theorem get?_productToSpid_iff {productIds : List ProductId} {product : ProductId}
    {id : SourceProductId} :
    (Table.ofPairs ((fetchSourceProductIds catalogue engine productIds [sourceCode]
      tables.products).map fun record => (record.2.1, record.1))).get? product = some id ↔
      Sold catalogue tables product sourceCode id ∧ product ∈ productIds := by
  refine Table.get?_ofPairs_iff (fun found => Sold catalogue tables product sourceCode found ∧
    product ∈ productIds)
    (fun found => ?_) fun _ _ hfound hother => hfound.1.id_unique hother.1
  rw [List.mem_map]
  constructor
  · rintro ⟨⟨_, _, code⟩, hrecord, hsame⟩
    obtain ⟨rfl, rfl⟩ := Prod.mk.inj hsame
    obtain ⟨hsold, hproduct, hcode⟩ := (mem_fetchSourceProductIds engine).mp hrecord
    obtain rfl := List.mem_singleton.mp hcode
    exact ⟨hsold, hproduct⟩
  · rintro ⟨hsold, hproduct⟩
    exact ⟨(found, product, sourceCode),
      (mem_fetchSourceProductIds engine).mpr ⟨hsold, hproduct, List.mem_singleton_self _⟩, rfl⟩

variable (engine sourceCode) in
/-- What is done for the cards once they are linked. -/
theorem linked_forCards_own {inserted : Tables × List (ProductId × CardVersionId)}
    (hinserted : CardsInserted catalogue cards tables inserted) (hne : cards ≠ []) :
    let cvToProduct := Table.ofPairs (getProductIdsForCards engine cards inserted.1.products)
    let productIds := cvToProduct.rows.map Prod.snd
    productIds ≠ [] ∧
      ∃ next, ensureSourceProduct? catalogue engine (productIds.map (·, sourceCode)) inserted.1 =
          some next ∧
        OwnSources catalogue cards sourceCode tables next
          (cvToProduct.filterMapValues fun _ productId => (Table.ofPairs
            ((fetchSourceProductIds catalogue engine productIds [sourceCode] next.products).map
              fun record => (record.2.1, record.1))).get? productId) := by
  intro cvToProduct productIds
  have hproductIds : ∀ product, product ∈ productIds ↔
      ∃ card ∈ cards, Linked inserted.1 product card := by
    intro product
    rw [List.mem_map]
    constructor
    · rintro ⟨⟨card, _⟩, hrow, rfl⟩
      exact ⟨card, get?_cvToProduct_iff.mp ((Table.mem_rows_iff _ _ _).mp hrow)⟩
    · rintro ⟨card, hcard, hlinked⟩
      exact ⟨(card, product), (Table.mem_rows_iff _ _ _).mpr
        (get?_cvToProduct_iff.mpr ⟨hcard, hlinked⟩), rfl⟩
  obtain ⟨next, hensure, hensured⟩ := @exists_ensureSourceProduct catalogue engine inserted.1
    (productIds.map (·, sourceCode))
  refine ⟨fun hnil => ?_, next, hensure, ?_⟩
  · obtain ⟨card, hcard⟩ := List.exists_mem_of_ne_nil _ hne
    obtain ⟨product, hlinked⟩ := hinserted.linked card hcard
    have hmem := (hproductIds product).mpr ⟨card, hcard, hlinked⟩
    rw [hnil] at hmem
    cases hmem
  · have hlinked : ∀ product card, Linked next product card ↔ Linked inserted.1 product card :=
      fun product card => by rw [Linked, Linked, hensured.mtgCardProducts]
    exact {
      grown := hinserted.grown.trans hensured.grown
      priceObservation := hensured.priceObservation.trans hinserted.priceObservation
      linked := fun card hcard => by
        obtain ⟨product, hproduct⟩ := hinserted.linked card hcard
        exact ⟨product, (hlinked _ _).mpr hproduct⟩
      found := fun card id => by
        rw [Table.get?_filterMapValues, Option.bind_eq_some_iff]
        simp only [get?_productToSpid_iff, hproductIds, hlinked]
        constructor
        · rintro ⟨product, hproduct, hsold, -⟩
          obtain ⟨hcard, hcardLinked⟩ := get?_cvToProduct_iff.mp hproduct
          exact ⟨hcard, product, hcardLinked, hsold⟩
        · rintro ⟨hcard, product, hcardLinked, hsold⟩
          exact ⟨product, get?_cvToProduct_iff.mpr ⟨hcard, hcardLinked⟩, hsold, card, hcard,
            hcardLinked⟩ }

variable (catalogue engine sourceCode) in
theorem upsertSourceProductsForCards_own (hreferenced : Referenced tables) :
    ((upsertSourceProductsForCards? catalogue engine cards sourceCode tables).isSome ↔
        ∀ card ∈ cards, card ∉ tables.products.mtgCardProducts.values →
          card ∈ catalogue.cardVersion) ∧
      ∀ result, upsertSourceProductsForCards? catalogue engine cards sourceCode tables =
          some result →
        OwnSources catalogue cards sourceCode tables result.1 result.2 := by
  have hmem : ∀ {card}, card ∈ cards.reverse.dedup.reverse ↔ card ∈ cards := by simp
  have hdistinct : cards.reverse.dedup.reverse.Nodup :=
    List.nodup_reverse.mpr (List.nodup_dedup _)
  rw [upsertSourceProductsForCards?]
  dsimp only
  generalize cards.reverse.dedup.reverse = cvIds at hmem hdistinct
  split_ifs with hempty
  · have hnone : ∀ card, card ∉ cards := fun card hcard => by
      rw [← hmem, hempty] at hcard
      cases hcard
    refine ⟨iff_of_true rfl fun card hcard => absurd hcard (hnone card), ?_⟩
    rintro result ⟨⟩
    exact ⟨Grown.refl _ _, rfl, fun card hcard => absurd hcard (hnone card), fun card id =>
      iff_of_false (by simp) fun hfound => hnone card hfound.1⟩
  · cases hinsert : insertProductsBatch? catalogue engine cvIds tables with
    | none =>
      refine ⟨iff_of_false Bool.false_ne_true fun hcards => ?_, fun result hresult => ?_⟩
      · obtain ⟨inserted, hinserted, -⟩ := exists_insertProductsBatch engine
          hreferenced hdistinct fun card hcard => hcards card (hmem.mp hcard)
        rw [hinsert] at hinserted
        cases hinserted
      · cases hresult
    | some inserted =>
      have hcards := mem_cardVersion_of_insert hinsert
      obtain ⟨found, hfound, hinserted⟩ := exists_insertProductsBatch engine
        hreferenced hdistinct hcards
      rw [hinsert, Option.some.injEq] at hfound
      subst hfound
      obtain ⟨hproducts, next, hensure, hown⟩ := linked_forCards_own engine
        sourceCode hinserted hempty
      rw [Option.bind_some, if_neg hproducts, hensure, Option.map_some]
      refine ⟨iff_of_true rfl fun card hcard => hcards card (hmem.mpr hcard), ?_⟩
      rintro result ⟨⟩
      exact {
        grown := hown.grown
        priceObservation := hown.priceObservation
        linked := fun card hcard => hown.linked card (hmem.mpr hcard)
        found := fun card id => by rw [← hmem, hown.found] }

end ForCards

/-! ## Runs -/

section Runs

/-- A call of one of the two functions. -/
inductive Call where
  | scryfall (engine : Engine) (tsDate : Int) (rows : List PriceRow)
  | forCards (engine : Engine) (cards : List CardVersionId) (sourceCode : String)

/-- The triples of a batch are distinct. -/
def Call.Distinct : Call → Prop
  | .scryfall _ _ rows => (rows.map PriceRow.triple).Nodup
  | .forCards _ _ _ => True

variable (catalogue : Catalogue)

def call? (tables : Tables) : Call → Option Tables
  | .scryfall engine tsDate rows =>
    (upsertScryfallPriceBatch? catalogue engine tsDate rows tables).map Prod.fst
  | .forCards engine cards sourceCode =>
    (upsertSourceProductsForCards? catalogue engine cards sourceCode tables).map Prod.fst

/-- A call that raises is rolled back. -/
def step (tables : Tables) (call : Call) : Tables := (call? catalogue tables call).getD tables

/-- A card has one product, and a product is one card's. -/
def OneToOne (tables : Tables) : Prop :=
  ∀ product card product' card', Linked tables product card → Linked tables product' card' →
    (product = product' ↔ card = card')

/-- What a call does: it books the prices of a batch, whose rows without a card change nothing,
unless one of its prices does not fit; and it does not misplace a product. -/
structure CallRight (tables : Tables) (call : Call) : Prop where
  grown : Grown catalogue tables (step catalogue tables call)
  oneToOne : OneToOne (step catalogue tables call)
  batch : ∀ engine tsDate rows, call = .scryfall engine tsDate rows →
    ((call? catalogue tables call).isSome ↔ Accepted catalogue rows) ∧
      (Accepted catalogue rows →
        OwnPrices catalogue tsDate rows tables (step catalogue tables call)) ∧
      ∀ keep : PriceRow → Bool, (∀ row ∈ rows, Resolves catalogue row → keep row = true) →
        step catalogue tables (.scryfall engine tsDate (rows.filter keep)) =
          step catalogue tables call
  cards : ∀ engine cards sourceCode, call = .forCards engine cards sourceCode →
    (step catalogue tables call).priceObservation = tables.priceObservation ∧
      ∀ result, upsertSourceProductsForCards? catalogue engine cards sourceCode tables =
          some result →
        OwnSources catalogue cards sourceCode tables result.1 result.2

/-- A later batch of the day has the triple of the row. -/
def Rebooks (tsDate : Int) (row : PriceRow) : Call → Prop
  | .scryfall _ day rows => day = tsDate ∧ ∃ other ∈ rows, other.triple = row.triple
  | .forCards _ _ _ => False

variable {catalogue} {tables : Tables} {call : Call}

theorem Linked.oneToOne (tables : Tables) : OneToOne tables := by
  intro product card product' card' hlinked hlinked'
  constructor
  · rintro rfl
    rw [Linked, hlinked, Option.some.injEq] at hlinked'
    exact hlinked'
  · rintro rfl
    exact hlinked.product_unique hlinked'

theorem callRight (hunique : IdsUnique catalogue) (hreferenced : Referenced tables)
    (hdistinct : call.Distinct) : CallRight catalogue tables call := by
  cases call with
  | scryfall engine tsDate rows =>
    obtain ⟨haccepted, hown⟩ := @upsertScryfallPriceBatch_own catalogue engine tsDate tables rows
      hunique hreferenced hdistinct
    have hstep : ∀ booked, upsertScryfallPriceBatch? catalogue engine tsDate rows tables =
        some booked → step catalogue tables (.scryfall engine tsDate rows) = booked.1 := by
      intro booked hbooked
      rw [step, call?, hbooked, Option.map_some, Option.getD_some]
    exact {
      grown := by
        cases hbooked : upsertScryfallPriceBatch? catalogue engine tsDate rows tables with
        | none =>
          rw [step, call?, hbooked, Option.map_none, Option.getD_none]
          exact Grown.refl _ _
        | some booked =>
          rw [hstep booked hbooked]
          exact (hown booked hbooked).grown
      oneToOne := Linked.oneToOne _
      batch := by
        rintro _ _ _ ⟨⟩
        refine ⟨?_, fun hfits => ?_, fun keep hkeep => ?_⟩
        · rw [call?, Option.isSome_map, haccepted]
        · obtain ⟨booked, hbooked⟩ := Option.isSome_iff_exists.mp (haccepted.mpr hfits)
          rw [hstep booked hbooked]
          exact hown booked hbooked
        · rw [step, step, call?, call?,
            upsertScryfallPriceBatch_filter hunique hreferenced hkeep]
      cards := fun _ _ _ hcall => by cases hcall }
  | forCards engine cards sourceCode =>
    obtain ⟨-, hown⟩ := @upsertSourceProductsForCards_own catalogue engine tables cards sourceCode
      hreferenced
    cases hresult : upsertSourceProductsForCards? catalogue engine cards sourceCode tables with
    | none =>
      have hstep : step catalogue tables (.forCards engine cards sourceCode) = tables := by
        rw [step, call?, hresult, Option.map_none, Option.getD_none]
      exact {
        grown := by
          rw [hstep]
          exact Grown.refl _ _
        oneToOne := Linked.oneToOne _
        batch := fun _ _ _ hcall => by cases hcall
        cards := by
          rintro _ _ _ ⟨⟩
          exact ⟨by rw [hstep], hown⟩ }
    | some result =>
      have hstep : step catalogue tables (.forCards engine cards sourceCode) = result.1 := by
        rw [step, call?, hresult, Option.map_some, Option.getD_some]
      exact {
        grown := by
          rw [hstep]
          exact (hown result hresult).grown
        oneToOne := Linked.oneToOne _
        batch := fun _ _ _ hcall => by cases hcall
        cards := by
          rintro _ _ _ ⟨⟩
          exact ⟨by rw [hstep, (hown result hresult).priceObservation], hown⟩ }

/-- A key stays the row's own. -/
theorem IsKey.grown {tsDate : Int} {next : Tables} {row : PriceRow} {key : ObservationKey}
    (hkey : IsKey catalogue tsDate tables row key) (hgrown : Grown catalogue tables next) :
    IsKey catalogue tsDate next row key := by
  obtain ⟨id, finishId, ⟨card, product, hcarries, hlinked, sourceId, hcode, hid⟩, hfinish, rfl⟩ :=
    hkey
  exact ⟨id, finishId, ⟨card, product, hcarries, hgrown.linked _ _ hlinked, sourceId, hcode,
    hgrown.sourceProduct _ _ hid⟩, hfinish, rfl⟩

/-- A price stays booked until a later batch of the day has its triple. -/
theorem Booked.step {tsDate : Int} {row : PriceRow} (hunique : IdsUnique catalogue)
    (hreferenced : Referenced tables) (hdistinct : call.Distinct)
    (hbooked : Booked catalogue tsDate tables row) (hother : ¬ Rebooks tsDate row call) :
    Booked catalogue tsDate (CardPrices.step catalogue tables call) row := by
  have hright := callRight hunique hreferenced hdistinct
  obtain ⟨key, observation, hkey, hstored, hprice⟩ := hbooked
  have hnext := hkey.grown hright.grown
  refine ⟨key, observation, hnext, ?_, hprice⟩
  cases call with
  | forCards engine cards sourceCode =>
    rw [(hright.cards _ _ _ rfl).1, hstored]
  | scryfall engine day rows =>
    obtain ⟨hisSome, hown, -⟩ := hright.batch _ _ _ rfl
    by_cases hfits : Accepted catalogue rows
    · by_contra hchanged
      rw [← hstored] at hchanged
      obtain ⟨other, hmem, hotherKey⟩ := (hown hfits).others key hchanged
      have hday : day = tsDate := by
        obtain ⟨_, _, -, -, rfl⟩ := hnext
        obtain ⟨_, _, -, -, hsame⟩ := hotherKey
        exact (ObservationKey.mk.inj hsame).1.symm
      subst hday
      exact hother ⟨rfl, other, hmem, hotherKey.triple_eq hnext⟩
    · have hraises : call? catalogue tables (.scryfall engine day rows) = none := by
        rw [← Option.not_isSome_iff_eq_none, hisSome]
        exact hfits
      rw [CardPrices.step, hraises, Option.getD_none, hstored]

end Runs

/-! ## Examples -/

def twoPrices : List PriceRow := [⟨"a", "tcg", "NONFOIL", 100⟩, ⟨"b", "tcg", "NONFOIL", 250⟩]

end AutoMana.Pricing.CardPrices
