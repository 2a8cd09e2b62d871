import AutoMana.Mtgjson.Windows
import Mathlib.Logic.Equiv.List

/-!
# What a call drains

A call deletes exactly the staged rows that resolve to the product of a card, and
leaves under every key of a deleted row the price of a row deleted with that key. The
bootstrap compares the uuids of the staged rows and of the catalogue as texts, the joins
compare them as uuids. A card without a product that the staging table spells otherwise
resolves in the catalogue, and its rows stay where they are.
-/

namespace AutoMana.Mtgjson

open Relational Pricing

variable {call : LoadCall} {plan : Plan} {v_data_provider_id : Nat} {batchDays : ℕ+}
  {tables bootstrapped after : MtgjsonTables} {row : StagedPrice}

/-- The price type, the source in the currency of the row, the finish, and the uuid of a
normalized row resolve in the tables and the catalogue. -/
structure Resolves (call : LoadCall) (tables : MtgjsonTables) (row : StagedPrice) : Prop where
  priceType : (priceTypeId? row).isSome
  source : (sourceId? tables.priceSource row).isSome
  finish : (finishId? tables.cardFinished row).isSome
  card : ∃ card, card ∈ cardsOf call.reference row.cardUuid

/-- The column a price of the type is promoted to. -/
def priceColumn (priceTypeId : Nat) : PriceColumn :=
  if priceTypeId = 1 then .listAvgCents else .soldAvgCents

/-- The observation under the key has the price of a staged row that the call deleted
and that resolves to the same key. -/
def HoldsDeletedPrice (call : LoadCall) (v_data_provider_id : Nat)
    (tables after : MtgjsonTables) (key : ObservationKey) : Prop :=
  ∃ id row, tables.staging.get? id = some row ∧ after.staging.get? id = none ∧
    ResolvesTo call v_data_provider_id after (normalize call.locale row) key ∧
    ∃ (cents : Nat) (observation : Observation),
      row.priceValue.cents? = some (cents : Int) ∧
      after.priceObservation.get? key = some observation ∧
      observation.prices.get (priceColumn key.priceTypeId) = some cents

/-- The rows that resolve, and no others, are deleted and promoted. -/
structure DrainsExactly (call : LoadCall) (tables after : MtgjsonTables) : Prop where
  deleted : ∀ id row, tables.staging.get? id = some row →
    (after.staging.get? id = none ↔ Resolves call after (normalize call.locale row))
  promoted : ∃ v_data_provider_id,
    call.reference.dataProvider.get? v_data_provider_id = some "mtgjson" ∧
    ∀ id row, tables.staging.get? id = some row → after.staging.get? id = none →
      (∃ key, ResolvesTo call v_data_provider_id after (normalize call.locale row) key) ∧
      ∀ key, ResolvesTo call v_data_provider_id after (normalize call.locale row) key →
        HoldsDeletedPrice call v_data_provider_id tables after key
  retained : ∀ id row, tables.staging.get? id = some row →
    ¬ Resolves call after (normalize call.locale row) →
    ∃ kept, after.staging.get? id = some kept ∧ kept.priceValue = row.priceValue ∧
      kept.priceDate = row.priceDate

/-! ## The bootstrap -/

theorem bootstrap_cases (hbootstrap : bootstrap call tables = some bootstrapped) :
    ∃ mtgCardProducts hunique,
      tables.products.mtgCardProducts.register? call.supply.productId
        (stagedCards call.reference tables.staging) = some mtgCardProducts ∧
      bootstrapped = { tables with
        products := { tables.products with
          mtgCardProducts
          mtgCardProducts_unique := hunique } } := by
  unfold bootstrap at hbootstrap
  split at hbootstrap
  · cases hbootstrap
  · next mtgCardProducts hcards =>
      cases hbootstrap
      exact ⟨mtgCardProducts,
        Table.nodup_values_of_register tables.products.mtgCardProducts_unique hcards, hcards, rfl⟩

/-- The staging table as the loop finds it. -/
def normalizedStaging (call : LoadCall) (tables : MtgjsonTables) : Table Nat StagedPrice :=
  tables.staging.mapValues fun _ row => normalize call.locale row

theorem normalizedStaging_of_bootstrap (hbootstrap : bootstrap call tables = some bootstrapped) :
    (normalizeStaging call.locale bootstrapped).staging = normalizedStaging call tables := by
  obtain ⟨_, _, -, rfl⟩ := bootstrap_cases hbootstrap
  rfl

/-- The card has a product, or gets one because a staged row spells a uuid of it as
the catalogue does. -/
def HasProduct (call : LoadCall) (tables : MtgjsonTables) (card : CardVersionId) : Prop :=
  card ∈ tables.products.mtgCardProducts.values ∨
    card ∈ stagedCards call.reference tables.staging

theorem mem_values_bootstrap (hbootstrap : bootstrap call tables = some bootstrapped)
    (card : CardVersionId) :
    card ∈ bootstrapped.products.mtgCardProducts.values ↔ HasProduct call tables card := by
  obtain ⟨_, _, hcards, rfl⟩ := bootstrap_cases hbootstrap
  exact Table.mem_values_of_register_iff hcards card

/-! ## Which rows are deleted -/

/-- The currency in which a source code resolves after the call. -/
def admittedCurrency (call : LoadCall) (plan : Plan) (batchDays : ℕ+) (tables : MtgjsonTables)
    (code : String) : Option String :=
  registeredCurrency plan (stagingWindows batchDays (normalizedStaging call tables))
    (normalizedStaging call tables) tables.priceSource code

theorem isSome_sourceId?_iff
    (hreturns : Returns call plan v_data_provider_id batchDays tables bootstrapped after)
    (row : StagedPrice) :
    (sourceId? after.priceSource row).isSome ↔
      admittedCurrency call plan batchDays tables row.priceSource = some row.currency := by
  have hcurrency := currency_of_windows (stagingWindows_pairwise _ _) hreturns.windows
    row.priceSource
  rw [normalizedStaging_of_bootstrap hreturns.bootstrap] at hcurrency
  have hsources : (normalizeStaging call.locale bootstrapped).priceSource =
      tables.priceSource := by
    obtain ⟨_, _, -, rfl⟩ := bootstrap_cases hreturns.bootstrap
    rfl
  rw [hsources] at hcurrency
  rw [admittedCurrency, ← hcurrency, Option.isSome_iff_exists, Option.map_eq_some_iff]
  constructor
  · rintro ⟨sourceId, hsource⟩
    exact ⟨_, sourceId?_eq_some_iff.mp hsource, rfl⟩
  · rintro ⟨⟨sourceId, currency⟩, hget, rfl⟩
    exact ⟨sourceId, sourceId?_eq_some_iff.mpr hget⟩

section Deleted

variable (hupper : call.locale.UpperIdempotent)
  (hreturns : Returns call plan v_data_provider_id batchDays tables bootstrapped after)

include hupper hreturns

theorem registered_of_returns {id : Nat} (hget : tables.staging.get? id = some row) :
    Registered call after (normalize call.locale row) := by
  have hpromotion := promotion_of_returns hupper hreturns
  refine hpromotion.registered id _ ?_ (Set.mem_univ _)
  rw [normalizedStaging_of_bootstrap hreturns.bootstrap, normalizedStaging,
    Table.get?_mapValues, hget, Option.map_some]

/-- The finish of a staged row is registered, so it resolves. -/
theorem isSome_finishId? {id : Nat} (hget : tables.staging.get? id = some row) :
    (finishId? after.cardFinished (normalize call.locale row)).isSome := by
  have hfinish := (registered_of_returns hupper hreturns hget).finish
  rw [upper_finishType_normalize hupper] at hfinish
  rw [finishId?, Option.isSome_map, hfinish]

/-- A card has a product after the call when it had or got one before the loop. -/
theorem exists_productsOf_iff (cardUuid : String) :
    (∃ productId, productId ∈ productsOf call.reference after.products cardUuid) ↔
      ∃ card ∈ cardsOf call.reference cardUuid, HasProduct call tables card := by
  have hcards := (promotion_of_returns hupper hreturns).grow.mtgCardProducts
  simp only [mem_productsOf, hcards, ← mem_values_bootstrap hreturns.bootstrap]
  constructor
  · rintro ⟨productId, card, hcard, hproduct⟩
    exact ⟨card, hcard, Table.mem_values_iff.mpr ⟨productId, hproduct⟩⟩
  · rintro ⟨card, hcard, hvalue⟩
    obtain ⟨productId, hproduct⟩ := Table.mem_values_iff.mp hvalue
    exact ⟨productId, card, hcard, hproduct⟩

/-- A staged row resolves to a key when it resolves in the catalogue and one of its cards
has a product. -/
theorem exists_resolvesTo_iff {id : Nat} (hget : tables.staging.get? id = some row) :
    (∃ key, ResolvesTo call v_data_provider_id after (normalize call.locale row) key) ↔
      Resolves call after (normalize call.locale row) ∧
        ∃ card ∈ cardsOf call.reference row.cardUuid, HasProduct call tables card := by
  have hregistered := registered_of_returns hupper hreturns hget
  have huuid := (normalize_fields call.locale row).1
  rw [← exists_productsOf_iff hupper hreturns, ← huuid]
  constructor
  · rintro ⟨key, hresolves⟩
    obtain ⟨sourceProduct, -, hsource, hproduct⟩ := hresolves.sourceProduct
    obtain ⟨card, hcard, -⟩ := mem_productsOf.mp hproduct
    exact ⟨⟨Option.isSome_of_mem hresolves.priceType, Option.isSome_of_mem hsource,
      Option.isSome_of_mem hresolves.finish, card, hcard⟩, _, hproduct⟩
  · rintro ⟨hresolves, productId, hproduct⟩
    obtain ⟨priceTypeId, htype⟩ := Option.isSome_iff_exists.mp hresolves.priceType
    obtain ⟨sourceId, hsource⟩ := Option.isSome_iff_exists.mp hresolves.source
    obtain ⟨finishId, hfinish⟩ := Option.isSome_iff_exists.mp hresolves.finish
    obtain ⟨sourceProductId, hstored⟩ :=
      hregistered.sourceProduct sourceId productId hsource hproduct
    exact ⟨⟨_, sourceProductId, priceTypeId, finishId, call.conditionId, call.languageId,
      v_data_provider_id⟩, rfl, htype, hfinish, ⟨rfl, rfl, rfl⟩, _, hstored, hsource, hproduct⟩

/-- A staged row is deleted when it resolves to a key, and else keeps its price. -/
theorem get?_after {id : Nat} (hget : tables.staging.get? id = some row) :
    (after.staging.get? id = none ↔
        ∃ key, ResolvesTo call v_data_provider_id after (normalize call.locale row) key) ∧
      (after.staging.get? id ≠ none →
        after.staging.get? id = some (normalize call.locale row)) := by
  have hstaging := (promotion_of_returns hupper hreturns).staging id
  rw [normalizedStaging_of_bootstrap hreturns.bootstrap, normalizedStaging,
    Table.get?_mapValues, hget, Option.map_some] at hstaging
  constructor
  · constructor
    · intro hnone
      by_contra hkept
      have hstored := (hstaging _).mpr ⟨rfl, fun hresolves => hkept hresolves.2⟩
      rw [hnone] at hstored
      cases hstored
    · intro hresolves
      rw [Option.eq_none_iff_forall_ne_some]
      intro kept hkept
      obtain ⟨hrow, hunresolved⟩ := (hstaging kept).mp hkept
      rw [Option.some.injEq] at hrow
      exact hunresolved ⟨Set.mem_univ _, hrow ▸ hresolves⟩
  · intro hsome
    obtain ⟨kept, hkept⟩ := Option.ne_none_iff_exists'.mp hsome
    rw [hkept]
    exact ((hstaging kept).mp hkept).1.symm

end Deleted

/-! ## What is promoted -/

theorem get_priceColumn {priceTypeId : Nat} (htype : priceTypeId = 1 ∨ priceTypeId = 2)
    (listLowCents : Option Nat) (cents : Nat) :
    (promotedPrices priceTypeId listLowCents cents).get (priceColumn priceTypeId) =
      some cents := by
  rcases htype with rfl | rfl <;> rfl

/-- Under every key of a deleted row there is the price of a row deleted with it. -/
theorem holdsDeletedPrice (hupper : call.locale.UpperIdempotent)
    (hreturns : Returns call plan v_data_provider_id batchDays tables bootstrapped after) {id : Nat}
    (hget : tables.staging.get? id = some row) {key : ObservationKey}
    (hresolves : ResolvesTo call v_data_provider_id after (normalize call.locale row) key) :
    HoldsDeletedPrice call v_data_provider_id tables after key := by
  have hpromoted := (promotion_of_returns hupper hreturns).promoted key id
    (normalize call.locale row)
  rw [normalizedStaging_of_bootstrap hreturns.bootstrap] at hpromoted
  have hstaged : (normalizedStaging call tables).get? id =
      some (normalize call.locale row) := by
    rw [normalizedStaging, Table.get?_mapValues, hget, Option.map_some]
  obtain ⟨id', survivor, ⟨hget', -, hresolves'⟩, -, cents, hcents, hprices⟩ :=
    hpromoted ⟨hstaged, Set.mem_univ _, hresolves⟩
  rw [normalizedStaging, Table.get?_mapValues, Option.map_eq_some_iff] at hget'
  obtain ⟨source, hsource, rfl⟩ := hget'
  obtain ⟨observation, hobservation, hsame⟩ := Option.map_eq_some_iff.mp hprices
  refine ⟨id', source, hsource, ?_, hresolves', cents, observation, ?_, hobservation, ?_⟩
  · exact (get?_after hupper hreturns hsource).1.mpr ⟨key, hresolves'⟩
  · rw [← hcents, (normalize_fields call.locale source).2.2.1]
  · rw [hsame]
    exact get_priceColumn (priceTypeId?_cases hresolves.priceType) _ cents

/-- Every staged row that resolves in the catalogue names a card that has a product, or
whose uuid a staged row spells as the catalogue does. -/
def CardsBootstrapped (call : LoadCall) (plan : Plan) (batchDays : ℕ+)
    (tables : MtgjsonTables) : Prop :=
  ∀ id row, tables.staging.get? id = some row →
    (priceTypeId? (normalize call.locale row)).isSome →
    admittedCurrency call plan batchDays tables (normalize call.locale row).priceSource =
      some row.currency →
    cardsOf call.reference row.cardUuid ≠ [] →
    ∃ card ∈ cardsOf call.reference row.cardUuid, HasProduct call tables card

/-- A call that returns without an error drains exactly what it promotes when the cards of
the rows that resolve are bootstrapped, and only then. -/
theorem drains_exactly_iff (hupper : call.locale.UpperIdempotent)
    (hdays : call.batchDays = some (batchDays : Int))
    (hload : loadPriceObservationFromMtgjsonStagingBatched call plan tables = (after, none)) :
    DrainsExactly call tables after ↔ CardsBootstrapped call plan batchDays tables := by
  obtain ⟨v_data_provider_id, batchDays', bootstrapped, hdays', hreturns⟩ :=
    load_returns_iff.mp hload
  have hsame : batchDays' = batchDays := by
    rw [hdays, Option.some.injEq] at hdays'
    exact PNat.coe_injective (Int.ofNat_injective hdays'.symm)
  subst hsame
  constructor
  · intro hdrains id row hget htype hsource hcards
    obtain ⟨huuid, hcurrency, -⟩ := normalize_fields call.locale row
    obtain ⟨card, hcard⟩ := List.exists_mem_of_ne_nil _ hcards
    have hresolves : Resolves call after (normalize call.locale row) := by
      refine ⟨htype, ?_, isSome_finishId? hupper hreturns hget, card, ?_⟩
      · rwa [isSome_sourceId?_iff hreturns, hcurrency]
      · rwa [huuid]
    have hdeleted := (hdrains.deleted id row hget).mpr hresolves
    have hkey := (get?_after hupper hreturns hget).1.mp hdeleted
    exact ((exists_resolvesTo_iff hupper hreturns hget).mp hkey).2
  · intro hbootstrapped
    have hdeleted (id : Nat) (row : StagedPrice) (hget : tables.staging.get? id = some row) :
        after.staging.get? id = none ↔ Resolves call after (normalize call.locale row) := by
      rw [(get?_after hupper hreturns hget).1, exists_resolvesTo_iff hupper hreturns hget]
      apply and_iff_left_of_imp
      intro hresolves
      obtain ⟨huuid, hcurrency, -⟩ := normalize_fields call.locale row
      have hsource := (isSome_sourceId?_iff hreturns _).mp hresolves.source
      rw [hcurrency] at hsource
      obtain ⟨card, hcard⟩ := hresolves.card
      rw [huuid] at hcard
      exact hbootstrapped id row hget hresolves.priceType hsource (List.ne_nil_of_mem hcard)
    constructor
    case deleted => exact hdeleted
    case promoted =>
      obtain ⟨code, hprovider, hcode⟩ := Staging.get?_of_anyIdWhere hreturns.provider
      rw [of_decide_eq_true hcode] at hprovider
      refine ⟨v_data_provider_id, hprovider, ?_⟩
      intro id row hget hnone
      refine ⟨(get?_after hupper hreturns hget).1.mp hnone, ?_⟩
      intro key hresolves
      exact holdsDeletedPrice hupper hreturns hget hresolves
    case retained =>
      intro id row hget hunresolved
      have hkept := (get?_after hupper hreturns hget).2
        (mt (hdeleted id row hget).mp hunresolved)
      obtain ⟨-, -, hvalue, hdate⟩ := normalize_fields call.locale row
      exact ⟨_, hkept, hvalue, hdate⟩

/-! ## A staged card, spelled as in the catalogue and otherwise -/

/-- The plan that leaves the rows as they come. -/
def Plan.inOrder : Plan where
  sources := fun selected => selected.reverse.dedup.reverse
  sources_perm := fun selected =>
    (List.reverse_perm _).trans (List.reverse_perm selected).dedup
  resolved := fun rows => rows
  resolved_perm := fun rows => .refl rows
  raises := fun _ => false

/-- An identifier drawn for a code. -/
def codeId (code : String) : Nat := Encodable.encode (code.toList.map Char.toNat)

theorem codeId_injective : Function.Injective codeId := by
  intro left right hsame
  have hinjective : Function.Injective Char.toNat := fun _ _ => Char.toNat_inj.mp
  exact String.toList_inj.mp
    (List.map_injective_iff.mpr hinjective (Encodable.encode_injective hsame))

def sampleSupply : IdSupply where
  productId := fun card => card + 100
  productId_injective := fun _ _ => Nat.add_right_cancel
  sourceProductId := fun product => Nat.pair product.sourceId product.productId
  sourceProductId_injective := by
    rintro ⟨productId, sourceId⟩ ⟨productId', sourceId'⟩ hsame
    obtain ⟨hsource, hproduct⟩ := Nat.pair_eq_pair.mp hsame
    exact SourceProduct.mk.injEq .. ▸ ⟨hproduct, hsource⟩
  sourceId := codeId
  sourceId_injective := codeId_injective
  finishId := codeId
  finishId_injective := codeId_injective

/-- Card 7 has an `mtgjson_id`. -/
def sampleReference : Reference where
  cardIdentifierRef := .single 1 "mtgjson_id"
  cardExternalIdentifier := .single (7, 1) "5f8287b1-5bb6-5f4c-ad17-316a40d5bb0c"
  mtgjsonUuidAlias := .empty
  dataProvider := .single 2 "mtgjson"
  currencyRef := ["USD", "EUR"]

def sampleCall : LoadCall where
  reference := sampleReference
  locale := .posix
  supply := sampleSupply
  conditionId := 1
  languageId := 1
  now := 0
  batchDays := some 30

/-- A staged row as the feed gives it: 2.50 on one day. -/
def stagedRetail (cardUuid : String) : StagedPrice where
  cardUuid
  priceSource := "tcgplayer"
  priceType := some "retail"
  finishType := "normal"
  currency := "USD"
  priceValue := .decimal 250 2
  priceDate := 20000

/-- One staged row, and nothing in the other tables. -/
def oneStaged (row : StagedPrice) : MtgjsonTables where
  staging := .single 1 row
  priceSource := ⟨.empty, List.nodup_nil⟩
  cardFinished := ⟨.empty, List.nodup_nil⟩
  products := ⟨.empty, List.nodup_nil, .empty, List.nodup_nil⟩
  priceObservation := .empty

/-- The row as the catalogue spells its card, and in capitals. -/
def spelled : MtgjsonTables := oneStaged (stagedRetail "5f8287b1-5bb6-5f4c-ad17-316a40d5bb0c")

def misspelt : MtgjsonTables := oneStaged (stagedRetail "5F8287B1-5BB6-5F4C-AD17-316A40D5BB0C")

theorem drains_exactly_spelled :
    DrainsExactly sampleCall spelled
      (loadPriceObservationFromMtgjsonStagingBatched sampleCall .inOrder spelled).1 := by
  have hload : (loadPriceObservationFromMtgjsonStagingBatched sampleCall .inOrder spelled).2 =
      none := by
    decide +kernel
  refine (@drains_exactly_iff sampleCall .inOrder ⟨30, by decide⟩ spelled _
    TextLocale.posix_upperIdempotent rfl (Prod.ext rfl hload)).mpr ?_
  intro id row hget _ _ _
  simp only [spelled, oneStaged, Table.get?_single, Option.ite_none_right_eq_some,
    Option.some.injEq] at hget
  obtain ⟨-, rfl⟩ := hget
  exact ⟨7, by decide +kernel, Or.inr (by decide +kernel)⟩

/-- A card whose uuid is staged in capitals resolves, gets no product, and keeps its row in
staging. -/
theorem misspelt_card_not_drained :
    ¬ ∀ (call : LoadCall) (plan : Plan) (batchDays : ℕ+) (tables after : MtgjsonTables),
      call.locale.UpperIdempotent → call.batchDays = some (batchDays : Int) →
      loadPriceObservationFromMtgjsonStagingBatched call plan tables = (after, none) →
      DrainsExactly call tables after := by
  intro hdrains
  have hload : (loadPriceObservationFromMtgjsonStagingBatched sampleCall .inOrder misspelt).2 =
      none := by
    decide +kernel
  have hdeleted := (hdrains sampleCall .inOrder ⟨30, by decide⟩ misspelt _
    TextLocale.posix_upperIdempotent rfl (Prod.ext rfl hload)).deleted 1 _ rfl
  have hkept : (loadPriceObservationFromMtgjsonStagingBatched sampleCall .inOrder
      misspelt).1.staging.get? 1 ≠ none := by
    decide +kernel
  apply hkept
  rw [hdeleted]
  exact ⟨by decide +kernel, by decide +kernel, by decide +kernel, 7, by decide +kernel⟩

end AutoMana.Mtgjson
