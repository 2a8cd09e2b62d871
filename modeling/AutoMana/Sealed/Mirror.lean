import AutoMana.Sealed.Services

/-!
# The snapshot of the sealed prices

A window writes a price twice: one per key into `price_observation`, and the newest per
product, source, and transaction type into `sealed_price_latest`. Rows staged twice for
one key tie in both selections, and nothing makes both take the same row. The snapshot
mirrors the observations as long as the rows that tie for the newest price agree on it.
-/

namespace AutoMana.Sealed

open Relational Pricing
open Mtgjson (promotedPrices)

variable {call : LoadCall} {plan : Plan} {v_data_provider_id : Nat} {window : Window}
  {tables next : SealedTables} {latest : LatestKey}

/-- The key is that of a mtgjson observation of the product, the source, and the type. -/
structure IsObservationOf (tables : SealedTables) (latest : LatestKey) (key : ObservationKey) :
    Prop where
  dataProvider : providerId? tables = some key.dataProviderId
  priceType : key.priceTypeId = latest.transactionTypeId
  sourceProduct :
    tables.products.sourceProduct.get? key.sourceProductId = some latest.sourceProduct

/-- The snapshot row is the newest of the observations. -/
structure IsNewest (tables : SealedTables) (latest : LatestKey) (row : LatestPrice) : Prop where
  observed : ∃ key observation, IsObservationOf tables latest key ∧
    tables.priceObservation.get? key = some observation ∧ key.tsDate = row.priceDate
  newest : ∀ key observation, IsObservationOf tables latest key →
    tables.priceObservation.get? key = some observation → key.tsDate ≤ row.priceDate
  prices : ∀ key observation, IsObservationOf tables latest key →
    tables.priceObservation.get? key = some observation → key.tsDate = row.priceDate →
    observation.prices.listAvgCents = row.prices.listAvgCents ∧
      observation.prices.soldAvgCents = row.prices.soldAvgCents

/-- `sealed_price_latest` has the newest observation of every product, source, and type
that has one. -/
def Mirrors (tables : SealedTables) : Prop :=
  ∀ latest,
    (∀ row, tables.sealedPriceLatest.get? latest = some row → IsNewest tables latest row) ∧
    (tables.sealedPriceLatest.get? latest = none → ∀ key, IsObservationOf tables latest key →
      tables.priceObservation.get? key = none)

/-- The key is one a promotion writes: of a stored source product, and under the default
finish, condition, and language. -/
structure IsPromotedKey (tables : SealedTables) (key : ObservationKey) : Prop where
  sourceProduct : (tables.products.sourceProduct.get? key.sourceProductId).isSome
  finish : key.finishId = tables.reference.finishId
  condition : key.conditionId = tables.reference.conditionId
  language : key.languageId = tables.reference.languageId

/-- What the promotions keep. -/
structure Mirrored (tables : SealedTables) : Prop where
  mirrors : Mirrors tables
  keys : ∀ key observation, providerId? tables = some key.dataProviderId →
    tables.priceObservation.get? key = some observation → IsPromotedKey tables key

/-- The staged row is of a known product and type, and no row of the window is a newer
price than it, nor is the snapshot. -/
structure IsNewestStaged (window : Window) (tables : SealedTables) (id : Nat)
    (row : StagedSealed) : Prop where
  staged : tables.staging.table.get? id = some row
  day : window.Contains row.priceDate
  transactionType : (transactionTypeId? row).isSome
  product : (tables.sealedProducts.get? row.sealedUuid).isSome
  newest : ∀ other later, tables.staging.table.get? other = some later →
    window.Contains later.priceDate → SamePrice tables later row → later.priceDate ≤ row.priceDate
  guard : ∀ latest stored, latestKey? tables row = some latest →
    tables.sealedPriceLatest.get? latest = some stored → stored.priceDate ≤ row.priceDate

/-- The rows that tie for the newest price agree on it. -/
def TiesAgree (window : Window) (tables : SealedTables) : Prop :=
  ∀ id row other tied, IsNewestStaged window tables id row →
    IsNewestStaged window tables other tied → SamePrice tables tied row →
    tied.priceDate = row.priceDate → tied.priceValue.cents? = row.priceValue.cents?

/-! ## The keys of an observation -/

/-- A resolved row is written as an observation of its product, source, and type. -/
theorem isObservationOf_of_resolved
    (hpromoted : Promoted call plan v_data_provider_id window tables next)
    (hprovider : providerId? tables = some v_data_provider_id) {price : ResolvedSealed}
    (hprice : price ∈ resolvedRows v_data_provider_id window tables next) :
    IsObservationOf next price.latest price.key := by
  obtain ⟨row, -, -, hresolves⟩ := mem_resolvedRows.mp hprice
  obtain ⟨sourceProductId, hstored, hkey⟩ := hresolves.key
  rw [hkey]
  refine ⟨?_, rfl, hstored⟩
  rw [providerId?, hpromoted.reference]
  exact hprovider

theorem isPromotedKey_of_resolved {price : ResolvedSealed}
    (hprice : price ∈ resolvedRows v_data_provider_id window tables next) :
    IsPromotedKey next price.key := by
  obtain ⟨row, -, -, hresolves⟩ := mem_resolvedRows.mp hprice
  obtain ⟨sourceProductId, hstored, hkey⟩ := hresolves.key
  rw [hkey]
  exact ⟨Option.isSome_iff_exists.mpr ⟨_, hstored⟩, rfl, rfl, rfl⟩

/-- One key is not of two products, sources, or types. -/
theorem IsObservationOf.latest_eq {other : LatestKey} {key : ObservationKey}
    (hlatest : IsObservationOf tables latest key) (hother : IsObservationOf tables other key) :
    latest = other := by
  have hsource := Option.some.inj (hlatest.sourceProduct.symm.trans hother.sourceProduct)
  have htype := hlatest.priceType.symm.trans hother.priceType
  cases latest
  cases other
  cases hsource
  cases htype
  rfl

/-- A product, source, and type has one key a day. -/
theorem IsObservationOf.key_eq {key other : ObservationKey}
    (hkey : IsObservationOf tables latest key) (hother : IsObservationOf tables latest other)
    (hpromoted : IsPromotedKey tables key) (hpromoted' : IsPromotedKey tables other)
    (hdate : key.tsDate = other.tsDate) : key = other := by
  ext
  case tsDate => exact hdate
  case sourceProductId => exact sourceProductId_unique hkey.sourceProduct hother.sourceProduct
  case priceTypeId => exact hkey.priceType.trans hother.priceType.symm
  case finishId => exact hpromoted.finish.trans hpromoted'.finish.symm
  case conditionId => exact hpromoted.condition.trans hpromoted'.condition.symm
  case languageId => exact hpromoted.language.trans hpromoted'.language.symm
  case dataProviderId =>
    exact Option.some.inj (hkey.dataProvider.symm.trans hother.dataProvider)

section Window

variable (hpromoted : Promoted call plan v_data_provider_id window tables next)
include hpromoted

theorem isObservationOf_kept {key : ObservationKey} (hkey : IsObservationOf tables latest key) :
    IsObservationOf next latest key where
  dataProvider := by
    rw [providerId?, hpromoted.reference]
    exact hkey.dataProvider
  priceType := hkey.priceType
  sourceProduct := hpromoted.grow.get?_kept hkey.sourceProduct

/-- An observation is there after the window because the window wrote it, or because it was
there before. -/
theorem observation_cases (hmirrored : Mirrored tables)
    (hprovider : providerId? tables = some v_data_provider_id) {key : ObservationKey}
    {observation : Observation} (hkey : IsObservationOf next latest key)
    (hget : next.priceObservation.get? key = some observation) :
    (∃ price ∈ resolvedRows v_data_provider_id window tables next,
      price.latest = latest ∧ price.key = key) ∨
    (IsObservationOf tables latest key ∧
      tables.priceObservation.get? key = some observation) := by
  by_cases hwritten : ∃ price ∈ resolvedRows v_data_provider_id window tables next,
      price.key = key
  · obtain ⟨price, hprice, rfl⟩ := hwritten
    have hof := isObservationOf_of_resolved hpromoted hprovider hprice
    exact Or.inl ⟨price, hprice, hof.latest_eq hkey, rfl⟩
  · right
    push Not at hwritten
    rw [hpromoted.observation_kept hwritten] at hget
    have hkeyProvider : providerId? tables = some key.dataProviderId := by
      rw [← hkey.dataProvider, providerId?, providerId?, hpromoted.reference]
    -- the source product was stored before, and is the one stored now
    obtain ⟨sourceProduct, hsourceProduct⟩ := Option.isSome_iff_exists.mp
      (hmirrored.keys key observation hkeyProvider hget).sourceProduct
    have hkept := hpromoted.grow.get?_kept hsourceProduct
    rw [hkey.sourceProduct] at hkept
    exact ⟨⟨hkeyProvider, hkey.priceType, hsourceProduct.trans hkept.symm⟩, hget⟩

/-- A resolved row whose day no resolved row of its price passes is a newest staged one. -/
theorem isNewestStaged_of_resolved {price : ResolvedSealed} {row : StagedSealed}
    (hget : tables.staging.table.get? price.id = some row) (hday : window.Contains row.priceDate)
    (hresolves : ResolvesTo v_data_provider_id next row price)
    (hnewest : ∀ other ∈ resolvedRows v_data_provider_id window tables next,
      other.latest = price.latest → other.key.tsDate ≤ price.key.tsDate)
    (hguard : ∀ stored, tables.sealedPriceLatest.get? price.latest = some stored →
      stored.priceDate ≤ price.key.tsDate) :
    IsNewestStaged window tables price.id row := by
  obtain ⟨htype, hproduct, currency, hsource⟩ := latestKey?_eq_some_iff.mp hresolves.latest
  have hdate := hresolves.tsDate
  constructor
  case staged => exact hget
  case day => exact hday
  case transactionType => exact Option.isSome_iff_exists.mpr ⟨_, htype⟩
  case product =>
    rw [← hpromoted.sealedProducts]
    exact Option.isSome_iff_exists.mpr ⟨_, hproduct⟩
  case newest =>
    intro other later hother hlater hsame
    have hlatest : latestKey? next later = some price.latest := by
      rw [latestKey?_eq_of_samePrice hpromoted hsame, hresolves.latest]
    obtain ⟨resolved, hmem, -, hsameLatest, hresolved⟩ :=
      hpromoted.exists_resolved hother hlater hlatest
    have hle := hnewest resolved hmem hsameLatest
    rwa [hresolved.tsDate, hdate] at hle
  case guard =>
    intro latest stored hlatest hstored
    have hkept := latestKey?_kept hpromoted hlatest
    rw [hresolves.latest, Option.some.injEq] at hkept
    rw [← hdate]
    exact hguard stored (hkept ▸ hstored)

/-- Rows of one price that tie for the newest of their window agree on it. -/
theorem priceCents_eq_of_ties (hties : TiesAgree window tables) {left right : ResolvedSealed}
    (hleft : left ∈ resolvedRows v_data_provider_id window tables next)
    (hright : right ∈ resolvedRows v_data_provider_id window tables next)
    (hlatest : left.latest = right.latest) (hdate : left.key.tsDate = right.key.tsDate)
    (hnewest : ∀ other ∈ resolvedRows v_data_provider_id window tables next,
      other.latest = right.latest → other.key.tsDate ≤ right.key.tsDate)
    (hguard : ∀ stored, tables.sealedPriceLatest.get? right.latest = some stored →
      stored.priceDate ≤ right.key.tsDate) :
    left.priceCents = right.priceCents := by
  obtain ⟨row, hrow, hday, hresolves⟩ := mem_resolvedRows.mp hleft
  obtain ⟨other, hother, hday', hresolves'⟩ := mem_resolvedRows.mp hright
  have hnewestLeft := isNewestStaged_of_resolved hpromoted hrow hday hresolves
    (by rwa [hlatest, hdate]) (by rwa [hlatest, hdate])
  have hnewestRight := isNewestStaged_of_resolved hpromoted hother hday' hresolves' hnewest hguard
  have hsame : SamePrice tables row other :=
    samePrice_of_latest hpromoted (hlatest ▸ hresolves.latest) hresolves'.latest
  rw [hresolves.tsDate, hresolves'.tsDate] at hdate
  rw [hresolves.priceCents, hresolves'.priceCents]
  exact hties _ _ _ _ hnewestRight hnewestLeft hsame hdate

/-! ## The window keeps the mirror -/

theorem keys_of_promoted (hmirrored : Mirrored tables) {key : ObservationKey}
    {observation : Observation} (hprovider : providerId? next = some key.dataProviderId)
    (hget : next.priceObservation.get? key = some observation) : IsPromotedKey next key := by
  by_cases hwritten : ∃ price ∈ resolvedRows v_data_provider_id window tables next,
      price.key = key
  · obtain ⟨price, hprice, rfl⟩ := hwritten
    exact isPromotedKey_of_resolved hprice
  · push Not at hwritten
    rw [hpromoted.observation_kept hwritten] at hget
    rw [providerId?, hpromoted.reference] at hprovider
    have hkey := hmirrored.keys key observation hprovider hget
    obtain ⟨sourceProduct, hstored⟩ := Option.isSome_iff_exists.mp hkey.sourceProduct
    constructor
    case sourceProduct =>
      exact Option.isSome_iff_exists.mpr ⟨_, hpromoted.grow.get?_kept hstored⟩
    case finish => rw [hpromoted.reference, hkey.finish]
    case condition => rw [hpromoted.reference, hkey.condition]
    case language => rw [hpromoted.reference, hkey.language]

/-- A snapshot row stays the newest when the window has only older prices for it. -/
theorem IsNewest.of_older (hmirrored : Mirrored tables)
    (hprovider : providerId? tables = some v_data_provider_id) {row : LatestPrice}
    (holder : ∀ price ∈ resolvedRows v_data_provider_id window tables next,
      price.latest = latest → price.key.tsDate < row.priceDate)
    (hnewest : IsNewest tables latest row) : IsNewest next latest row := by
  constructor
  case observed =>
    obtain ⟨key, observation, hkey, hget, hdate⟩ := hnewest.observed
    refine ⟨key, observation, isObservationOf_kept hpromoted hkey, ?_, hdate⟩
    rw [hpromoted.observation_kept, hget]
    intro price hprice hsame
    have hof := isObservationOf_of_resolved hpromoted hprovider hprice
    rw [hsame] at hof
    have hlt := holder price hprice (hof.latest_eq (isObservationOf_kept hpromoted hkey))
    rw [hsame, hdate] at hlt
    exact lt_irrefl _ hlt
  case newest =>
    intro key observation hkey hget
    rcases observation_cases hpromoted hmirrored hprovider hkey hget with
      ⟨price, hprice, hlatest, rfl⟩ | ⟨hkept, hstored⟩
    · exact (holder price hprice hlatest).le
    · exact hnewest.newest key observation hkept hstored
  case prices =>
    intro key observation hkey hget hdate
    rcases observation_cases hpromoted hmirrored hprovider hkey hget with
      ⟨price, hprice, hlatest, rfl⟩ | ⟨hkept, hstored⟩
    · exact absurd hdate (holder price hprice hlatest).ne
    · exact hnewest.prices key observation hkept hstored hdate

/-- The newest price of the window becomes the newest of all when no stored one is newer. -/
theorem IsNewest.of_written (hmirrored : Mirrored tables)
    (hprovider : providerId? tables = some v_data_provider_id) (hties : TiesAgree window tables)
    {survivor : ResolvedSealed} {cents : Nat}
    (hmem : survivor ∈ resolvedRows v_data_provider_id window tables next)
    (hcents : survivor.priceCents = some (cents : Int))
    (hnewest : ∀ other ∈ resolvedRows v_data_provider_id window tables next,
      other.latest = survivor.latest → other.key.tsDate ≤ survivor.key.tsDate)
    (hguard : ∀ stored, tables.sealedPriceLatest.get? survivor.latest = some stored →
      stored.priceDate ≤ survivor.key.tsDate)
    (hstored : ∀ key observation, IsObservationOf tables survivor.latest key →
      tables.priceObservation.get? key = some observation → key.tsDate ≤ survivor.key.tsDate)
    {row : LatestPrice} (hdate : row.priceDate = survivor.key.tsDate)
    {listLowCents : Option Nat}
    (hprices : row.prices = promotedPrices survivor.latest.transactionTypeId listLowCents cents) :
    IsNewest next survivor.latest row := by
  obtain ⟨written, hwritten, hkey, paid, hpaid, hobservation⟩ := hpromoted.observation_written hmem
  have hof := isObservationOf_of_resolved hpromoted hprovider hmem
  -- the observation may have the price of another row, which ties
  have hlatest : written.latest = survivor.latest := by
    have hof' := isObservationOf_of_resolved hpromoted hprovider hwritten
    rw [hkey] at hof'
    exact hof'.latest_eq hof
  have hsame : paid = cents := by
    have hties := priceCents_eq_of_ties hpromoted hties hwritten hmem hlatest (by rw [hkey])
      hnewest hguard
    rw [hpaid, hcents] at hties
    exact Int.natCast_inj.mp (Option.some.inj hties)
  rw [hlatest, hsame] at hobservation
  obtain ⟨observation, hget, hobserved⟩ := Option.map_eq_some_iff.mp hobservation
  constructor
  case observed => exact ⟨survivor.key, observation, hof, hget, hdate.symm⟩
  case newest =>
    intro key other hkey hother
    rw [hdate]
    rcases observation_cases hpromoted hmirrored hprovider hkey hother with
      ⟨price, hprice, hlatest, rfl⟩ | ⟨hkept, hgetOther⟩
    · exact hnewest price hprice hlatest
    · exact hstored key other hkept hgetOther
  case prices =>
    intro key other hkey hother hday
    have hsameKey : key = survivor.key := hkey.key_eq hof
      (keys_of_promoted hpromoted hmirrored hkey.dataProvider hother)
      (isPromotedKey_of_resolved hmem) (hday.trans hdate)
    rw [hsameKey, hget, Option.some.injEq] at hother
    rw [← hother, hobserved, hprices]
    exact ⟨rfl, rfl⟩

theorem Mirrored.of_promoted (hmirrored : Mirrored tables)
    (hprovider : providerId? tables = some v_data_provider_id) (hties : TiesAgree window tables) :
    Mirrored next := by
  refine ⟨?_, fun key observation => keys_of_promoted hpromoted hmirrored⟩
  intro latest
  obtain ⟨hsome, hnone⟩ := hmirrored.mirrors latest
  by_cases hexists : ∃ price ∈ resolvedRows v_data_provider_id window tables next,
      price.latest = latest
  · obtain ⟨price, hprice, rfl⟩ := hexists
    obtain ⟨survivor, hmem, hlatest, hnewest, cents, hcents, hwritten⟩ :=
      hpromoted.latest_written hprice
    rw [hwritten]
    cases hget : tables.sealedPriceLatest.get? price.latest with
    | none =>
      refine ⟨?_, fun habsent => nomatch habsent⟩
      intro row hrow
      obtain rfl := Option.some.inj hrow
      rw [← hlatest] at hget hnone hnewest ⊢
      apply IsNewest.of_written hpromoted hmirrored hprovider hties hmem hcents hnewest _ _ rfl rfl
      · intro stored hstored
        rw [hget] at hstored
        cases hstored
      · intro key observation hkey hobservation
        rw [hnone hget key hkey] at hobservation
        cases hobservation
    | some stored =>
      refine ⟨?_, fun habsent => nomatch habsent⟩
      intro row hrow
      obtain rfl := Option.some.inj hrow
      have hstored := hsome stored hget
      by_cases hle : stored.priceDate ≤ survivor.key.tsDate
      · rw [updateLatest, if_pos hle]
        rw [← hlatest] at hget hstored hnewest ⊢
        apply IsNewest.of_written hpromoted hmirrored hprovider hties hmem hcents hnewest
          _ _ rfl rfl
        · intro other hother
          rw [hget] at hother
          obtain rfl := Option.some.inj hother
          exact hle
        · intro key observation hkey hobservation
          exact (hstored.newest key observation hkey hobservation).trans hle
      · rw [updateLatest, if_neg hle]
        apply IsNewest.of_older hpromoted hmirrored hprovider _ hstored
        intro other hother hsame
        exact (hnewest other hother hsame).trans_lt (not_le.mp hle)
  · push Not at hexists
    rw [hpromoted.latest_kept hexists]
    constructor
    · intro row hrow
      apply IsNewest.of_older hpromoted hmirrored hprovider _ (hsome row hrow)
      intro price hprice hlatest
      exact absurd hlatest (hexists price hprice)
    · intro habsent key hkey
      rw [Option.eq_none_iff_forall_ne_some]
      intro observation hget
      rcases observation_cases hpromoted hmirrored hprovider hkey hget with
        ⟨price, hprice, hlatest, -⟩ | ⟨hkept, hstored⟩
      · exact hexists price hprice hlatest
      · rw [hnone habsent key hkept] at hstored
        cases hstored

end Window

/-! ## Runs of the services -/

/-- A change of the staged rows or of the catalogue leaves the mirror alone. -/
theorem Mirrored.congr (hmirrored : Mirrored tables)
    (hreference : next.reference = tables.reference)
    (hproducts : next.products = tables.products)
    (hobservation : next.priceObservation = tables.priceObservation)
    (hlatest : next.sealedPriceLatest = tables.sealedPriceLatest) : Mirrored next := by
  have hprovider : providerId? next = providerId? tables := by
    rw [providerId?, hreference, providerId?]
  have hof (latest : LatestKey) (key : ObservationKey) :
      IsObservationOf next latest key ↔ IsObservationOf tables latest key := by
    constructor
    · intro hkey
      exact ⟨hprovider ▸ hkey.dataProvider, hkey.priceType, hproducts ▸ hkey.sourceProduct⟩
    · intro hkey
      exact ⟨hprovider ▸ hkey.dataProvider, hkey.priceType, hproducts ▸ hkey.sourceProduct⟩
  constructor
  case mirrors =>
    intro latest
    obtain ⟨hsome, hnone⟩ := hmirrored.mirrors latest
    rw [hlatest, hobservation]
    refine ⟨?_, fun habsent key hkey => hnone habsent key ((hof latest key).mp hkey)⟩
    intro row hrow
    obtain ⟨⟨key, observation, hkey, hget⟩, hnewest, hprices⟩ := hsome row hrow
    refine ⟨⟨key, observation, (hof latest key).mpr hkey, hobservation ▸ hget⟩, ?_, ?_⟩
    · intro other observation hother
      rw [hobservation]
      exact hnewest other observation ((hof latest other).mp hother)
    · intro other observation hother
      rw [hobservation]
      exact hprices other observation ((hof latest other).mp hother)
  case keys =>
    intro key observation hkeyProvider hget
    rw [hprovider] at hkeyProvider
    rw [hobservation] at hget
    obtain ⟨hsource, hfinish, hcondition, hlanguage⟩ :=
      hmirrored.keys key observation hkeyProvider hget
    exact ⟨hproducts ▸ hsource, hreference ▸ hfinish, hreference ▸ hcondition,
      hreference ▸ hlanguage⟩

/-- In every window that commits, the rows that tie for a newest price agree on it. -/
def StepTiesAgree (tables : SealedTables) : Action → Prop
  | .promote call plan window => ∀ v_data_provider_id next,
    providerId? tables = some v_data_provider_id →
    promoteWindow call plan v_data_provider_id window tables = some next →
      TiesAgree window tables
  | _ => True

theorem Mirrored.step (hmirrored : Mirrored tables) {action : Action}
    (hties : StepTiesAgree tables action) : Mirrored (step tables action) := by
  cases action with
  | copy records => exact hmirrored.congr rfl rfl rfl rfl
  | catalogue sealedProducts => exact hmirrored.congr rfl rfl rfl rfl
  | normalize call => exact hmirrored.congr rfl rfl rfl rfl
  | truncate => exact hmirrored.congr rfl rfl rfl rfl
  | promote call plan window =>
    rw [Sealed.step]
    cases hprovider : providerId? tables with
    | none => exact hmirrored
    | some v_data_provider_id =>
      rw [Option.elim_some, promoteOrWarn]
      cases hpromote : promoteWindow call plan v_data_provider_id window tables with
      | none => exact hmirrored
      | some next =>
        exact Mirrored.of_promoted (promoted_of_promoteWindow hpromote) hmirrored hprovider
          (hties v_data_provider_id next hprovider hpromote)

/-- No promotion has written a price yet. -/
structure NothingPromoted (tables : SealedTables) : Prop where
  priceObservation : ∀ key, providerId? tables = some key.dataProviderId →
    tables.priceObservation.get? key = none
  sealedPriceLatest : ∀ latest, tables.sealedPriceLatest.get? latest = none

theorem mirrored_of_nothingPromoted (hstart : NothingPromoted tables) : Mirrored tables := by
  constructor
  case mirrors =>
    intro latest
    constructor
    · intro row hrow
      rw [hstart.sealedPriceLatest] at hrow
      cases hrow
    · exact fun _ key hkey => hstart.priceObservation key hkey.dataProvider
  case keys =>
    intro key observation hprovider hget
    rw [hstart.priceObservation key hprovider] at hget
    cases hget

/-- In a run whose windows promote rows that agree where they tie, the snapshot mirrors the
observations in every state. -/
theorem snapshot_mirrors_observations (tables : SealedTables) (hstart : NothingPromoted tables)
    (services : List Service)
    (hmeet : Run.StepsMeet step StepTiesAgree tables
      (Run.plan step Service.actions tables services)) :
    ∀ next ∈ Run.visited step tables (Run.plan step Service.actions tables services),
      Mirrors next := by
  have hmirrored := Run.forall_visited
    (fun tables action (hmirrored : Mirrored tables) hties => hmirrored.step hties)
    (mirrored_of_nothingPromoted hstart) hmeet
  intro next hnext
  exact (hmirrored next hnext).mirrors

/-! ## One price, and two finishes of it -/

/-- The prices of one entry are staged and promoted. -/
def stagedAndPromoted (records : List StagedSealed) (plan : Plan) : List Service :=
  [.copySealedStagingBatch records, .promoteSealedStaging sampleCall plan]

theorem nothingPromoted_sample : NothingPromoted (sampleTables []) :=
  ⟨fun _ _ => rfl, fun _ => rfl⟩

theorem plan_stagedAndPromoted (records : List StagedSealed) (plan : Plan) :
    Run.plan step Service.actions (sampleTables []) (stagedAndPromoted records plan) =
      .copy records :: promotionActions sampleCall plan
        (copySealedStagingBatch records (sampleTables [])) := by
  simp only [stagedAndPromoted, Run.plan, Service.actions, List.cons_append, List.nil_append,
    List.append_nil, List.foldl_cons, List.foldl_nil, step]

theorem snapshot_mirrors_observations_one_price :
    NothingPromoted (sampleTables []) ∧
      ∀ next ∈ Run.visited step (sampleTables []) (Run.plan step Service.actions
        (sampleTables []) (stagedAndPromoted [stagedSell "EUR" 12000 20000] .inOrder)),
      Mirrors next := by
  refine ⟨nothingPromoted_sample, ?_⟩
  apply snapshot_mirrors_observations _ nothingPromoted_sample
  have hwindows : stagingWindows ⟨30, by decide⟩ (normalizeStaging sampleCall.locale
      (copySealedStagingBatch [stagedSell "EUR" 12000 20000] (sampleTables []))).staging =
        [⟨20000, 20029, by decide⟩] := by
    decide +kernel
  rw [plan_stagedAndPromoted,
    @promotionActions_of_windows sampleCall _ ⟨30, by decide⟩ _ rfl rfl hwindows]
  refine ⟨trivial, trivial, ?_, trivial⟩
  intro _ _ _ _ id row other tied hrow htied _ _
  -- there is one staged row
  have hstaged := hrow.staged
  have hother := htied.staged
  simp only [step, normalizeStaging, copySealedStagingBatch, SerialTable.get?_mapValues,
    SerialTable.get?_insert, Option.map_eq_some_iff, Option.ite_none_right_eq_some,
    show ∀ id, (sampleTables []).staging.table.get? id = none from fun _ => rfl] at hstaged hother
  obtain ⟨_, ⟨-, hsome⟩, rfl⟩ := hstaged
  obtain ⟨_, ⟨-, hsome'⟩, rfl⟩ := hother
  rw [← Option.some.inj hsome, ← Option.some.inj hsome']

/-- The snapshot takes the tied rows in the other order. -/
def Plan.reversedSnapshot : Plan :=
  { Plan.inOrder with
    snapshotInsert := List.reverse
    snapshotInsert_perm := List.reverse_perm }

/-- Two finishes of one entry are staged for one day. -/
def twoFinishes : List Service :=
  stagedAndPromoted [stagedSell "EUR" 12000 20000, stagedSell "EUR" 13000 20000] .reversedSnapshot

theorem snapshot_takes_the_other_finish :
    ¬ ∀ next ∈ Run.visited step (sampleTables [])
      (Run.plan step Service.actions (sampleTables []) twoFinishes), Mirrors next := by
  intro hmirrors
  have hlast := hmirrors _ (Run.foldl_mem_visited _ _ _)
  rw [run_services] at hlast
  generalize hfinal : twoFinishes.foldl Service.run (sampleTables []) = final at hlast
  have hrow : (final.sealedPriceLatest.get? ⟨7, 1, 1⟩).map (fun row =>
      (row.priceDate, row.prices.listAvgCents)) = some (20000, some 13000) := by
    rw [← hfinal]
    decide +kernel
  have hobservation : (final.priceObservation.get? ⟨20000, Nat.pair 1 7, 1, 1, 1, 1, 2⟩).map
      (·.prices.listAvgCents) = some (some 12000) := by
    rw [← hfinal]
    decide +kernel
  have hkey : IsObservationOf final ⟨7, 1, 1⟩ ⟨20000, Nat.pair 1 7, 1, 1, 1, 1, 2⟩ := by
    rw [← hfinal]
    exact ⟨by decide +kernel, rfl, by decide +kernel⟩
  obtain ⟨row, hlatest, hdate⟩ := Option.map_eq_some_iff.mp hrow
  obtain ⟨observation, hget, hprice⟩ := Option.map_eq_some_iff.mp hobservation
  obtain ⟨hday, hsnapshot⟩ := Prod.mk.inj hdate
  have hsame := (((hlast ⟨7, 1, 1⟩).1 row hlatest).prices _ _ hkey hget hday.symm).1
  rw [hprice, hsnapshot] at hsame
  cases hsame

end AutoMana.Sealed
