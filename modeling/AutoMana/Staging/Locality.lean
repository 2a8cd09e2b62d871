import AutoMana.Staging.Load
import Mathlib.Data.Nat.Pairing

/-!
# What the resolution of a row depends on

The mapping tables are built from the whole batch and joined back on the print
id or on set and collector number. A row is therefore resolved with the help of
the rows that share one of these keys with it, and of no other row of its batch.
-/

namespace AutoMana.Staging

open Relational Pricing

/-! ## Lookups see the sharing rows only -/

variable {skipEmptyIds : Bool} {locale : TextLocale} {catalogue : Catalogue}

theorem sharing_printKey (rows : List Listing) (printId : Int) :
    sharing printKey (some printId) rows = rows.filter (·.printId = printId) := by
  simp [sharing, printKey]

theorem mapToken_get? (rows : List Listing) (printId : Int) :
    (mapToken locale catalogue rows).get? printId =
      ((sharing printKey (some printId) rows).flatMap (tokenCards locale catalogue)).min? := by
  rw [mapToken, Table.get?_groupBy _ _ rfl, sharing_printKey]
  congr 1
  induction rows with
  | nil => rfl
  | cons listing rest ih =>
      rw [List.flatMap_cons, List.filter_append, List.map_append, ih]
      by_cases heq : listing.printId = printId
      · simp [heq, List.filter_map, Function.comp_def]
      · simp [heq, List.filter_map, Function.comp_def]

theorem sharingFinds_print_iff {rows : List Listing} {listing : Listing} (hmem : listing ∈ rows) :
    SharingFinds printKey (printCards catalogue) rows listing ↔
      printCards catalogue listing ≠ [] := by
  constructor
  · intro hfound
    obtain ⟨row, -, hkey, hcards⟩ := hfound
    have hprint : row.printId = listing.printId := Option.some.inj hkey
    rwa [printCards, hprint] at hcards
  · exact fun hcards => ⟨listing, hmem, rfl, hcards⟩

theorem chosen_ne_nil_iff {rows : List Listing} (external : ExternalMap skipEmptyIds catalogue rows)
    (listing : Listing) :
    (external.chosen listing.printId).toList ≠ [] ↔
      SharingFinds printKey (externalCards skipEmptyIds catalogue) rows listing := by
  rw [ne_eq, Option.toList_eq_nil_iff, ← ne_eq, Option.ne_none_iff_isSome,
    (external.isOneOf listing.printId).isSome_iff, ne_eq, bestExternal, tied_eq_nil_iff]
  simp [SharingFinds, List.flatMap_eq_nil_iff, printKey]

theorem mapToken_ne_nil_iff (rows : List Listing) (listing : Listing) :
    ((mapToken locale catalogue rows).get? listing.printId).toList ≠ [] ↔
      SharingFinds printKey (tokenCards locale catalogue) rows listing := by
  rw [ne_eq, Option.toList_eq_nil_iff, mapToken_get?, List.min?_eq_none_iff, sharing_printKey]
  simp [SharingFinds, List.flatMap_eq_nil_iff, printKey]

/-- A listing of the batch is resolved exactly when some method finds a card. -/
theorem exists_isSome_resolve_iff {printRows rows : List Listing}
    (external : ExternalMap skipEmptyIds catalogue rows) {listing : Listing}
    (hmem : listing ∈ printRows) :
    (∃ resolution ∈ resolve skipEmptyIds locale catalogue printRows rows external listing,
      resolution.isSome) ↔ FindsCard skipEmptyIds locale catalogue rows listing := by
  have hprint := (mappedTo_ne_nil_iff (printCards_of_null (printCards catalogue)) printRows
    (printKey listing)).trans (sharingFinds_print_iff hmem)
  have hset := mappedTo_ne_nil_iff (fallbackCards_of_null locale catalogue) rows
    (setCollectorKey listing)
  have hart := mappedTo_ne_nil_iff (printCards_of_null (artCards locale catalogue)) rows
    (printKey listing)
  rw [resolve, Waterfall.exists_isSome_iff]
  simp only [cardMatches, List.mem_cons, List.not_mem_nil, or_false, exists_eq_or_imp,
    exists_eq_left]
  exact or_congr hprint (or_congr (chosen_ne_nil_iff external listing)
    (or_congr hset (or_congr hart (mapToken_ne_nil_iff rows listing))))

variable {context : LoadContext}

theorem toListing_of_mem_foilSplit {dataProviderId : Nat} {raw : RawPrice} {split : SplitPrice}
    (hsplit : split ∈ foilSplit dataProviderId raw) : split.toListing = raw.toListing := by
  have hrows := (List.mem_filter.mp hsplit).1
  simp only [List.mem_cons, List.not_mem_nil, or_false] at hrows
  rcases hrows with rfl | rfl <;> rfl

/-- A catalogue of external identifiers only. -/
def catalogueOf (cardExternalIdentifier : Table (CardVersionId × Nat) String) : Catalogue where
  cardIdentifierRef :=
    ⟨[(1, "mtgstock_id"), (2, "scryfall_id"), (3, "tcgplayer_id")], by decide⟩
  cardIdentifierRef_unique := by decide
  cardExternalIdentifier := cardExternalIdentifier
  scryfallMigration := []
  sets := .empty
  cardVersion := .empty
  uniqueCardsRef := .empty
  mtgstockArtSetMap := .empty
  mtgstockTokenSetMap := .empty

/-- Card 7 has a `tcgplayer_id`. -/
def tcgCatalogue : Catalogue := catalogueOf ⟨[((7, 3), "55")], by decide⟩

/-- A raw row of print 1 with an average price. -/
def rawOfPrint (tcgId : Option String) : RawPrice where
  tsDate := 0
  gameCode := "mtg"
  printId := 1
  sourceCode := "tcg"
  scrapedAt := 1
  cardName := none
  setAbbr := none
  collectorNumber := none
  scryfallId := none
  tcgId := tcgId
  cardtraderId := none
  priceLow := none
  priceAvg := some 10000
  priceFoil := none
  priceMarket := none
  priceMarketFoil := none

def sampleSupply : IdSupply where
  productId := fun card => card
  productId_injective := Function.injective_id
  sourceProductId := fun product => Nat.pair product.productId product.sourceId
  sourceProductId_injective := by
    intro left right hpair
    obtain ⟨hproduct, hsource⟩ := Nat.pair_eq_pair.mp hpair
    cases left
    cases right
    simp_all

def sampleContext : LoadContext where
  locale := .posix
  supply := sampleSupply
  sourceId := 1
  dataProviderId := 1
  now := 2

/-- The foil-split row of `rawOfPrint none`. -/
def unidentified : SplitPrice :=
  splitPrice 1 (rawOfPrint none) false none (some 10000) none (some 10000)

end AutoMana.Staging
