import AutoMana.Staging.Locality

/-!
# The finish of a promoted price

The finish of a staged row is the one its card name is mapped to by suffix, and
only otherwise that of its foil flag. The two rows split off one raw row have the
same card name, so a mapped suffix gives them the same finish, and with it the
same key: the promotion keeps the fresher of the two and drops the other price.
-/

namespace AutoMana.Staging

open Relational Pricing

variable {locale : TextLocale} {dims : PromotionDims}

/-- A staged price is promoted under a key of this finish. -/
def PromotedAs (locale : TextLocale) (dims : PromotionDims) (window : Window)
    (tables : StagingTables) (row : StagedPrice) (finishId : Nat) : Prop :=
  ∃ key, observationKey? locale dims row = some key ∧ key.finishId = finishId ∧
    ((promote locale dims window tables).priceObservation.get? key).isSome

/-- Two staged prices are promoted to observations of different finish. -/
def PromotedApart (locale : TextLocale) (dims : PromotionDims) (window : Window)
    (tables : StagingTables) (left right : StagedPrice) : Prop :=
  ∃ finishId finishId', finishId ≠ finishId' ∧
    PromotedAs locale dims window tables left finishId ∧
    PromotedAs locale dims window tables right finishId'

/-- The finish comes from the name, and from the flag where the name has none. -/
theorem finish_of_observationKey? {row : StagedPrice} {key : ObservationKey}
    (hkey : observationKey? locale dims row = some key) :
    (nameFinishId locale dims row.cardName).or
      (if row.isFoil then dims.finishFoilId else dims.finishDefaultId) = some key.finishId := by
  simp only [observationKey?, Option.bind_eq_bind, Option.bind_eq_some_iff, Option.pure_def,
    Option.some.injEq] at hkey
  obtain ⟨finishId, hfinish, _, -, _, -, rfl⟩ := hkey
  exact hfinish

/-- A row of the batch has a key, and an observation is stored under it afterwards. -/
theorem exists_promotedAs {window : Window} {tables : StagingTables} {row : StagedPrice}
    (hok : promotionRaises locale dims window tables.stgPriceObservation = false)
    (hstaged : row ∈ tables.stgPriceObservation.values) (hbatch : inBatch window row = true) :
    ∃ finishId, PromotedAs locale dims window tables row finishId := by
  obtain ⟨⟨stgId, staged⟩, hrow, rfl⟩ := List.mem_map.mp hstaged
  have hmem : (stgId, staged) ∈ stagedIn window tables.stgPriceObservation :=
    List.mem_filter.mpr ⟨hrow, hbatch⟩
  have hraises := hok
  simp only [promotionRaises, Bool.or_eq_false_iff, List.any_eq_false] at hraises
  have hsome := hraises.1 (stgId, staged) hmem
  obtain ⟨key, hkey⟩ := Option.ne_none_iff_exists'.mp
    (Option.isNone_iff_eq_none.not.mp (by simpa using hsome))
  refine ⟨key.finishId, key, hkey, rfl, ?_⟩
  have hreading : (⟨staged.scrapedAt, staged.prices.get .listLowCents⟩ : Reading Timestamp Int) ∈
      readings locale dims key .listLowCents (promotedBy window tables.stgPriceObservation) := by
    refine List.mem_map.mpr ⟨staged, List.mem_filter.mpr ⟨?_, decide_eq_true hkey⟩, rfl⟩
    exact List.mem_map_of_mem hmem
  rcases excluded_cases locale dims hok key with ⟨-, hnone⟩ | ⟨new, hnew, -⟩
  · rw [hnone] at hreading
    cases hreading
  · simp only [promote, Table.get?_upsert, hnew]
    cases tables.priceObservation.get? key <;> rfl

/-- A split-off row carries a price. -/
theorem not_allNull_of_mem_foilSplit {dataProviderId : Nat} {raw : RawPrice} {split : SplitPrice}
    (hsplit : split ∈ foilSplit dataProviderId raw) : split.prices.allNull = false := by
  obtain ⟨hrow, hvalue⟩ := List.mem_filter.mp hsplit
  simp only [List.mem_cons, List.not_mem_nil, or_false] at hrow
  rcases hrow with rfl | rfl
  · cases haverage : raw.priceAvg <;> cases hmarket : raw.priceMarket <;>
      cases hlow : raw.priceLow <;>
      simp_all [splitPrice, Prices.allNull]
  · cases hfoil : raw.priceFoil <;> cases hmarket : raw.priceMarketFoil <;>
      simp_all [splitPrice, Prices.allNull]

/-- The non-foil and the foil price of a raw row, staged and promoted together, end
under different finishes exactly when no suffix of the card name names a finish. -/
theorem promoted_apart_iff {raw : RawPrice} {dataProviderId : Nat} {nonfoil foil : SplitPrice}
    (hnonfoil : nonfoil ∈ foilSplit dataProviderId raw) (hplain : nonfoil.isFoil = false)
    (hfoil : foil ∈ foilSplit dataProviderId raw) (hflag : foil.isFoil = true)
    {card card' : CardVersionId} {product product' : ProductId × SourceProductId}
    {window : Window} {tables : StagingTables}
    (hstaged : stagedOf nonfoil card product ∈ tables.stgPriceObservation.values)
    (hstaged' : stagedOf foil card' product' ∈ tables.stgPriceObservation.values)
    (hwindow : window.Contains raw.tsDate)
    (hok : promotionRaises locale dims window tables.stgPriceObservation = false)
    (hfinish : dims.finishFoilId ≠ dims.finishDefaultId) :
    PromotedApart locale dims window tables (stagedOf nonfoil card product)
        (stagedOf foil card' product') ↔
      nameFinishId locale dims raw.cardName = none := by
  have hlisting := toListing_of_mem_foilSplit hnonfoil
  have hlisting' := toListing_of_mem_foilSplit hfoil
  have hname : (stagedOf nonfoil card product).cardName = raw.cardName :=
    congrArg Listing.cardName hlisting
  have hname' : (stagedOf foil card' product').cardName = raw.cardName :=
    congrArg Listing.cardName hlisting'
  constructor
  · intro hapart
    obtain ⟨_, _, hne, ⟨key, hkey, rfl, -⟩, ⟨key', hkey', rfl, -⟩⟩ := hapart
    have hfrom := finish_of_observationKey? hkey
    have hfrom' := finish_of_observationKey? hkey'
    rw [hname] at hfrom
    rw [hname'] at hfrom'
    -- a named finish is that of both rows
    cases hnamed : nameFinishId locale dims raw.cardName with
    | none => rfl
    | some finishId =>
        rw [hnamed, Option.some_or, Option.some.injEq] at hfrom hfrom'
        exact absurd (hfrom.symm.trans hfrom') hne
  · intro hnone
    have hbatch {split : SplitPrice} (hsplit : split ∈ foilSplit dataProviderId raw)
        (card : CardVersionId) (product : ProductId × SourceProductId) :
        inBatch window (stagedOf split card product) = true := by
      have hdate : split.tsDate = raw.tsDate :=
        congrArg Listing.tsDate (toListing_of_mem_foilSplit hsplit)
      have hpriced := not_allNull_of_mem_foilSplit hsplit
      simp [inBatch, stagedOf, hdate, hwindow, hpriced]
    obtain ⟨finishId, hpromoted⟩ := exists_promotedAs hok hstaged (hbatch hnonfoil card product)
    obtain ⟨finishId', hpromoted'⟩ := exists_promotedAs hok hstaged' (hbatch hfoil card' product')
    refine ⟨finishId, finishId', ?_, hpromoted, hpromoted'⟩
    obtain ⟨key, hkey, rfl, -⟩ := hpromoted
    obtain ⟨key', hkey', rfl, -⟩ := hpromoted'
    have hfrom := finish_of_observationKey? hkey
    have hfrom' := finish_of_observationKey? hkey'
    rw [hname, hnone, Option.none_or] at hfrom
    rw [hname', hnone, Option.none_or] at hfrom'
    have hdefault : dims.finishDefaultId = some key.finishId := by
      simpa [stagedOf, hplain] using hfrom
    have hfoilId : dims.finishFoilId = some key'.finishId := by
      simpa [stagedOf, hflag] using hfrom'
    intro hsame
    rw [hdefault, hfoilId, hsame] at hfinish
    exact hfinish rfl

/-! ## A card name with and without a mapped suffix -/

/-- The suffix 'Surge Foil' stands for finish 4. -/
def surgeDims : PromotionDims :=
  { sampleDims with nameFinishSuffix := ⟨[("Surge Foil", 4)], by decide⟩ }

/-- A raw row with an average price and a foil price. -/
def foilAndNonfoil (cardName : String) : RawPrice :=
  { rawOfPrint none with
    cardName := some cardName
    priceFoil := some 30000 }

def nonfoilOf (cardName : String) : SplitPrice :=
  splitPrice 1 (foilAndNonfoil cardName) false none (some 10000) none (some 10000)

def foilOf (cardName : String) : SplitPrice :=
  splitPrice 1 (foilAndNonfoil cardName) true none (some 30000) none (some 30000)

/-- Both prices of the raw row, staged for one card. -/
def bothStaged (cardName : String) : StagingTables where
  stgPriceObservation :=
    SerialTable.empty.insert
      [stagedOf (nonfoilOf cardName) 7 (7, 1), stagedOf (foilOf cardName) 7 (7, 1)]
  priceObservation := .empty

def firstDay : Window := ⟨0, 0, le_rfl⟩

theorem promoted_apart_plain_name :
    PromotedApart .posix surgeDims firstDay (bothStaged "Bolt")
      (stagedOf (nonfoilOf "Bolt") 7 (7, 1)) (stagedOf (foilOf "Bolt") 7 (7, 1)) :=
  (@promoted_apart_iff .posix surgeDims (foilAndNonfoil "Bolt") 1 (nonfoilOf "Bolt") (foilOf "Bolt")
    (by decide +kernel) rfl (by decide +kernel) rfl 7 7 (7, 1) (7, 1) firstDay (bothStaged "Bolt")
    (by decide +kernel) (by decide +kernel) (by decide +kernel) (by decide +kernel)
    (by decide +kernel)).mpr (by decide +kernel)

/-- A card of the name 'Bolt (Surge Foil)' has one key for both its prices. -/
theorem surge_foil_merges :
    ¬ ∀ (locale : TextLocale) (dims : PromotionDims) (raw : RawPrice) (dataProviderId : Nat)
      (nonfoil foil : SplitPrice) (card : CardVersionId) (product : ProductId × SourceProductId)
      (window : Window) (tables : StagingTables),
      nonfoil ∈ foilSplit dataProviderId raw → nonfoil.isFoil = false →
      foil ∈ foilSplit dataProviderId raw → foil.isFoil = true →
      stagedOf nonfoil card product ∈ tables.stgPriceObservation.values →
      stagedOf foil card product ∈ tables.stgPriceObservation.values →
      window.Contains raw.tsDate →
      promotionRaises locale dims window tables.stgPriceObservation = false →
      dims.finishFoilId ≠ dims.finishDefaultId →
      PromotedApart locale dims window tables (stagedOf nonfoil card product)
        (stagedOf foil card product) := by
  intro hapart
  obtain ⟨_, _, hne, ⟨key, hkey, rfl, -⟩, ⟨key', hkey', rfl, -⟩⟩ :=
    hapart .posix surgeDims (foilAndNonfoil "Bolt (Surge Foil)") 1
    (nonfoilOf "Bolt (Surge Foil)") (foilOf "Bolt (Surge Foil)") 7 (7, 1) firstDay
    (bothStaged "Bolt (Surge Foil)") (by decide +kernel) rfl (by decide +kernel) rfl
    (by decide +kernel) (by decide +kernel) (by decide +kernel) (by decide +kernel)
    (by decide +kernel)
  have hsame : observationKey? .posix surgeDims
        (stagedOf (nonfoilOf "Bolt (Surge Foil)") 7 (7, 1)) =
      observationKey? .posix surgeDims (stagedOf (foilOf "Bolt (Surge Foil)") 7 (7, 1)) := by
    decide +kernel
  rw [hkey, hkey', Option.some.injEq] at hsame
  rw [hsame] at hne
  exact hne rfl

end AutoMana.Staging
