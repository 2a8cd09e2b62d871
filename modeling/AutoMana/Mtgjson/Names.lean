import AutoMana.Mtgjson.Drain

/-!
# The names of observations

A key is made of identifiers, many of them drawn while a call runs. What it stands for
is its name: the day, the card, the source, the price type, and the finish. Two calls
that start from the same reference tables and draw alike agree on which name a key
stands for, whatever order they meet the names in.
-/

namespace AutoMana.Mtgjson

open Relational Pricing

/-- What an observation is of. -/
structure ObservationName where
  priceDate : Int
  cardVersionId : CardVersionId
  priceSource : String
  priceTypeId : Nat
  finishType : String
deriving DecidableEq, Repr

variable {call : LoadCall} {plan : Plan} {v_data_provider_id : Nat} {batchDays : ℕ+}
  {tables bootstrapped after : MtgjsonTables} {row : StagedPrice} {name name' : ObservationName}
  {key key' : ObservationKey}

/-- A normalized row names an observation of each of its cards. -/
structure Names (reference : Reference) (row : StagedPrice) (name : ObservationName) : Prop where
  priceDate : name.priceDate = row.priceDate
  card : name.cardVersionId ∈ cardsOf reference row.cardUuid
  priceSource : name.priceSource = row.priceSource
  priceType : priceTypeId? row = some name.priceTypeId
  finishType : name.finishType = row.finishType

/-- The tables store an observation of the name under the key. -/
structure KeyOf (call : LoadCall) (v_data_provider_id : Nat) (tables : MtgjsonTables)
    (name : ObservationName) (key : ObservationKey) : Prop where
  tsDate : key.tsDate = name.priceDate
  priceType : key.priceTypeId = name.priceTypeId
  finish : tables.cardFinished.get? name.finishType = some (key.finishId, ())
  defaults : key.conditionId = call.conditionId ∧ key.languageId = call.languageId ∧
    key.dataProviderId = v_data_provider_id
  sourceProduct : ∃ productId sourceId currency,
    tables.products.mtgCardProducts.get? productId = some name.cardVersionId ∧
      tables.priceSource.get? name.priceSource = some (sourceId, currency) ∧
      tables.products.sourceProduct.get? key.sourceProductId = some ⟨productId, sourceId⟩

theorem finishId?_eq_some_iff {cardFinished : CodeTable Unit} {row : StagedPrice}
    {finishId : Nat} :
    finishId? cardFinished row = some finishId ↔
      cardFinished.get? row.finishType = some (finishId, ()) := by
  simp only [finishId?, Option.map_eq_some_iff, Prod.exists]
  constructor
  · rintro ⟨_, ⟨⟩, hget, rfl⟩
    exact hget
  · exact fun hget => ⟨finishId, (), hget, rfl⟩

/-- A row resolves to the keys of what it names, as far as its currency is the stored one. -/
theorem resolvesTo_iff_name :
    ResolvesTo call v_data_provider_id tables row key ↔
      ∃ name, Names call.reference row name ∧ KeyOf call v_data_provider_id tables name key ∧
        (tables.priceSource.get? row.priceSource).map Prod.snd = some row.currency := by
  constructor
  · intro hresolves
    obtain ⟨⟨productId, sourceId⟩, hstored, hsource, hproduct⟩ := hresolves.sourceProduct
    obtain ⟨card, hcard, hget⟩ := mem_productsOf.mp hproduct
    have hsource := sourceId?_eq_some_iff.mp hsource
    have hfinish := finishId?_eq_some_iff.mp hresolves.finish
    refine ⟨⟨row.priceDate, card, row.priceSource, key.priceTypeId, row.finishType⟩,
      ⟨rfl, hcard, rfl, hresolves.priceType, rfl⟩, ⟨hresolves.tsDate, rfl, hfinish,
      hresolves.defaults, productId, sourceId, row.currency, hget, hsource, hstored⟩, ?_⟩
    rw [hsource, Option.map_some]
  · rintro ⟨name, hnames, hkey, hcurrency⟩
    obtain ⟨productId, sourceId, currency, hproduct, hsource, hstored⟩ := hkey.sourceProduct
    rw [hnames.priceSource] at hsource
    rw [hsource, Option.map_some, Option.some.injEq] at hcurrency
    dsimp only at hcurrency
    subst hcurrency
    refine ⟨hkey.tsDate.trans hnames.priceDate, hkey.priceType ▸ hnames.priceType,
      finishId?_eq_some_iff.mpr (hnames.finishType ▸ hkey.finish), hkey.defaults, _, hstored,
      sourceId?_eq_some_iff.mpr hsource, ?_⟩
    exact mem_productsOf.mpr ⟨_, hnames.card, hproduct⟩

/-! ## Two futures of the reference tables -/

/-- The later tables keep every source, finish, product, and source product, and draw the
identifiers of new ones. -/
structure Future (supply : IdSupply) (tables later : MtgjsonTables) : Prop where
  priceSource : CodeTable.Grows supply.sourceId tables.priceSource later.priceSource
  cardFinished : CodeTable.Grows supply.finishId tables.cardFinished later.cardFinished
  mtgCardProducts : Table.Grows supply.productId tables.products.mtgCardProducts
    later.products.mtgCardProducts
  sourceProduct : Table.Grows supply.sourceProductId tables.products.sourceProduct
    later.products.sourceProduct

theorem Future.of_bootstrap (hbootstrap : bootstrap call tables = some bootstrapped) :
    Future call.supply tables (normalizeStaging call.locale bootstrapped) := by
  obtain ⟨_, _, hcards, rfl⟩ := bootstrap_cases hbootstrap
  exact ⟨.refl _ _, .refl _ _, Table.grows_of_register hcards, .refl _ _⟩

theorem Future.grow {supply : IdSupply} {later latest : MtgjsonTables}
    (hfuture : Future supply tables later) (hgrow : TablesGrow supply later latest) :
    Future supply tables latest where
  priceSource := hfuture.priceSource.trans hgrow.priceSource
  cardFinished := hfuture.cardFinished.trans hgrow.cardFinished
  mtgCardProducts := hgrow.mtgCardProducts ▸ hfuture.mtgCardProducts
  sourceProduct := hfuture.sourceProduct.trans hgrow.sourceProduct

section Futures

variable {left right : MtgjsonTables} (hleft : Future call.supply tables left)
  (hright : Future call.supply tables right)

include hleft hright

/-- A name has one key in both. -/
theorem KeyOf.key_eq (hkey : KeyOf call v_data_provider_id left name key)
    (hkey' : KeyOf call v_data_provider_id right name key') : key = key' := by
  obtain ⟨productId, sourceId, _, hproduct, hsource, hstored⟩ := hkey.sourceProduct
  obtain ⟨productId', sourceId', _, hproduct', hsource', hstored'⟩ := hkey'.sourceProduct
  have hproductId : productId = productId' := hleft.mtgCardProducts.key_eq
    hright.mtgCardProducts left.products.mtgCardProducts_unique
    right.products.mtgCardProducts_unique hproduct hproduct'
  have hsourceId : sourceId = sourceId' :=
    hleft.priceSource.id_eq hright.priceSource hsource hsource'
  subst hproductId hsourceId
  have hsourceProductId : key.sourceProductId = key'.sourceProductId :=
    hleft.sourceProduct.key_eq hright.sourceProduct left.products.sourceProduct_unique
      right.products.sourceProduct_unique hstored hstored'
  have hfinishId : key.finishId = key'.finishId :=
    hleft.cardFinished.id_eq hright.cardFinished hkey.finish hkey'.finish
  obtain ⟨hcondition, hlanguage, hprovider⟩ := hkey.defaults
  obtain ⟨hcondition', hlanguage', hprovider'⟩ := hkey'.defaults
  have hdate := hkey.tsDate.trans hkey'.tsDate.symm
  have htype := hkey.priceType.trans hkey'.priceType.symm
  obtain ⟨_, _, _, _, _, _, _⟩ := key
  obtain ⟨_, _, _, _, _, _, _⟩ := key'
  simp_all only

/-- A key stands for one name in both. -/
theorem KeyOf.name_eq (hkey : KeyOf call v_data_provider_id left name key)
    (hkey' : KeyOf call v_data_provider_id right name' key) : name = name' := by
  obtain ⟨productId, sourceId, _, hproduct, hsource, hstored⟩ := hkey.sourceProduct
  obtain ⟨productId', sourceId', _, hproduct', hsource', hstored'⟩ := hkey'.sourceProduct
  have hsame := hleft.sourceProduct.value_eq hright.sourceProduct
    call.supply.sourceProductId_injective hstored hstored'
  cases hsame
  have hcard : name.cardVersionId = name'.cardVersionId := hleft.mtgCardProducts.value_eq
    hright.mtgCardProducts call.supply.productId_injective hproduct hproduct'
  have hcode : name.priceSource = name'.priceSource := hleft.priceSource.code_eq
    hright.priceSource call.supply.sourceId_injective hsource hsource'
  have hfinish : name.finishType = name'.finishType := hleft.cardFinished.code_eq
    hright.cardFinished call.supply.finishId_injective hkey.finish hkey'.finish
  have hdate := hkey.tsDate.symm.trans hkey'.tsDate
  have htype := hkey.priceType.symm.trans hkey'.priceType
  obtain ⟨_, _, _, _, _⟩ := name
  obtain ⟨_, _, _, _, _⟩ := name'
  simp_all only

end Futures

end AutoMana.Mtgjson
