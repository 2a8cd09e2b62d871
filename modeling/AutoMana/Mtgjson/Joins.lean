import AutoMana.Mtgjson.LoadPrices
import AutoMana.Relational.Snapshot

/-!
# The joins of a window

The upsert and the delete of a window join the staged rows to observation keys by two
statements of their own, the first over tables it extends itself. Both find the same
rows: those that resolve to a key.
-/

namespace AutoMana.Mtgjson

open Relational Pricing

variable {call : LoadCall} {plan : Plan} {v_data_provider_id : Nat}

/-! ## Registering -/

/-- The currency a window stores for a new code. -/
def selectedCurrency (plan : Plan) (rows : List StagedPrice) (code : String) : Option String :=
  (storedSources (plan.sources (rows.map fun row => (row.priceSource, row.currency)))).lookup code

section Register

variable {rows : List StagedPrice} {row : StagedPrice}

theorem mem_selected (plan : Plan) (source : String × String) :
    source ∈ plan.sources (rows.map fun row => (row.priceSource, row.currency)) ↔
      ∃ row ∈ rows, (row.priceSource, row.currency) = source := by
  rw [(plan.sources_perm _).mem_iff, List.mem_dedup, List.mem_map]

theorem insert_of_registerSources {priceSource next : CodeTable String}
    (hregister : registerSources call plan rows priceSource = some next) :
    priceSource.insertMissing? call.supply.sourceId (storedSources
      (plan.sources (rows.map fun row => (row.priceSource, row.currency)))) = some next := by
  simp only [registerSources, Option.ite_none_left_eq_some, Option.filter_eq_some_iff] at hregister
  exact hregister.2.1

/-- A code keeps its source, or gets the currency selected for it. -/
theorem get?_of_registerSources {priceSource next : CodeTable String}
    (hregister : registerSources call plan rows priceSource = some next) (code : String) :
    next.get? code = (priceSource.get? code).or
      ((selectedCurrency plan rows code).map (call.supply.sourceId code, ·)) :=
  CodeTable.get?_insertMissing (insert_of_registerSources hregister) code

/-- A new source has a known currency. -/
theorem known_of_registerSources {priceSource next : CodeTable String}
    (hregister : registerSources call plan rows priceSource = some next) {code : String}
    {source : Nat × String} (hget : next.get? code = some source) :
    (priceSource.get? code).isSome ∨ source.2 ∈ call.reference.currencyRef := by
  simp only [registerSources, Option.ite_none_left_eq_some, Option.filter_eq_some_iff,
    List.all_eq_true] at hregister
  have hrow := hregister.2.2 (code, source) ((Table.mem_rows_iff _ _ _).mpr hget)
  simpa using hrow

theorem varchar3_of_registerSources {priceSource next : CodeTable String}
    (hregister : registerSources call plan rows priceSource = some next) (hrow : row ∈ rows) :
    (varchar3? row.currency).isSome := by
  simp only [registerSources, Option.ite_none_left_eq_some, List.any_eq_true,
    not_exists, not_and] at hregister
  have hfits := hregister.1 _ ((mem_selected plan _).mpr ⟨row, hrow, rfl⟩)
  simpa [Option.isSome_iff_ne_none] using hfits

/-- A staged code is stored with some currency. -/
theorem isSome_selectedCurrency (plan : Plan) (hrow : row ∈ rows)
    (hfits : (varchar3? row.currency).isSome) :
    (selectedCurrency plan rows row.priceSource).isSome := by
  obtain ⟨currency, hcurrency⟩ := Option.isSome_iff_exists.mp hfits
  refine List.lookup_isSome_iff.mpr ⟨(row.priceSource, currency), ?_, by simp⟩
  exact List.mem_filterMap.mpr
    ⟨_, (mem_selected plan _).mpr ⟨row, hrow, rfl⟩, by simp [hcurrency]⟩

/-- A stored currency comes from a staged row of the code. -/
theorem exists_row_of_selectedCurrency {plan : Plan} {code currency : String}
    (hselected : selectedCurrency plan rows code = some currency) :
    ∃ row ∈ rows, row.priceSource = code := by
  obtain ⟨before, later, hrows, -⟩ := List.lookup_eq_some_iff.mp hselected
  have hmem : (code, currency) ∈ storedSources
      (plan.sources (rows.map fun row => (row.priceSource, row.currency))) := by
    rw [hrows]
    simp
  obtain ⟨source, hsource, hstored⟩ := List.mem_filterMap.mp hmem
  obtain ⟨row, hrow, rfl⟩ := (mem_selected plan source).mp hsource
  obtain ⟨_, -, hcode⟩ := Option.map_eq_some_iff.mp hstored
  exact ⟨row, hrow, congrArg Prod.fst hcode⟩

theorem isSome_source_of_register {priceSource next : CodeTable String}
    (hregister : registerSources call plan rows priceSource = some next) (hrow : row ∈ rows) :
    (next.get? row.priceSource).isSome := by
  have hselected := isSome_selectedCurrency plan hrow
    (varchar3_of_registerSources hregister hrow)
  rw [get?_of_registerSources hregister, Option.isSome_or, Option.isSome_map, hselected,
    Bool.or_true]

theorem isSome_finish_of_register {cardFinished next : CodeTable Unit}
    (hregister : registerFinishes call rows cardFinished = some next) (hrow : row ∈ rows) :
    (next.get? (call.locale.upper row.finishType)).isSome := by
  have hlookup : ((rows.map fun row => (call.locale.upper row.finishType, ())).lookup
      (call.locale.upper row.finishType)).isSome :=
    List.lookup_isSome_iff.mpr
      ⟨(call.locale.upper row.finishType, ()), List.mem_map.mpr ⟨row, hrow, rfl⟩, by simp⟩
  rw [CodeTable.get?_insertMissing hregister, Option.isSome_or, Option.isSome_map, hlookup,
    Bool.or_true]

end Register

/-! ## The joins -/

theorem mem_productsOf {reference : Reference} {products : Products} {cardUuid : String}
    {productId : ProductId} :
    productId ∈ productsOf reference products cardUuid ↔
      ∃ card ∈ cardsOf reference cardUuid,
        products.mtgCardProducts.get? productId = some card := by
  simp only [productsOf, List.mem_flatMap, Table.mem_keysOf]

theorem sourceId?_eq_some_iff {priceSource : CodeTable String} {row : StagedPrice}
    {sourceId : SourceId} :
    sourceId? priceSource row = some sourceId ↔
      priceSource.get? row.priceSource = some (sourceId, row.currency) := by
  simp only [sourceId?, Option.bind_eq_some_iff, Option.ite_none_right_eq_some,
    Option.some.injEq, Prod.exists]
  constructor
  · rintro ⟨_, _, hget, rfl, rfl⟩
    exact hget
  · exact fun hget => ⟨sourceId, row.currency, hget, rfl, rfl⟩

/-- The joins of the procedure take a staged row to an observation key. -/
structure ResolvesTo (call : LoadCall) (v_data_provider_id : Nat) (tables : MtgjsonTables)
    (row : StagedPrice) (key : ObservationKey) : Prop where
  tsDate : key.tsDate = row.priceDate
  priceType : priceTypeId? row = some key.priceTypeId
  finish : finishId? tables.cardFinished row = some key.finishId
  defaults : key.conditionId = call.conditionId ∧ key.languageId = call.languageId ∧
    key.dataProviderId = v_data_provider_id
  sourceProduct : ∃ sourceProduct,
    tables.products.sourceProduct.get? key.sourceProductId = some sourceProduct ∧
      sourceId? tables.priceSource row = some sourceProduct.sourceId ∧
      sourceProduct.productId ∈ productsOf call.reference tables.products row.cardUuid

/-- The upsert resolves a row of its window as the joins say, over the products its
own insert leaves. -/
theorem mem_resolvedPrices {joined : MtgjsonTables} {products : Products}
    (hproducts : products.mtgCardProducts = joined.products.mtgCardProducts)
    {rows : List StagedPrice} {staged : Nat × StagedPrice} (hrow : staged.2 ∈ rows)
    {price : ResolvedPrice} :
    price ∈ resolvedPrices call v_data_provider_id joined
        (returning (pairs call joined rows) products) staged ↔
      price.id = staged.1 ∧ price.priceCents = staged.2.priceValue.cents? ∧
        ResolvesTo call v_data_provider_id { joined with products } staged.2 price.key := by
  have hproductsOf : productsOf call.reference products staged.2.cardUuid =
      productsOf call.reference joined.products staged.2.cardUuid := by
    rw [productsOf, hproducts, productsOf]
  constructor
  · intro hprice
    unfold resolvedPrices at hprice
    split at hprice
    · next priceTypeId sourceId finishId htype hsource hfinish =>
        simp only [List.mem_flatMap, List.mem_map, List.mem_filter, returning,
          decide_eq_true_eq] at hprice
        obtain ⟨productId, hproduct, sourceProduct, ⟨⟨hstored, -⟩, hsame⟩, rfl⟩ := hprice
        refine ⟨rfl, rfl, rfl, htype, hfinish, ⟨rfl, rfl, rfl⟩, _,
          (Table.mem_rows_iff _ _ _).mp hstored, ?_⟩
        rw [hsame, hproductsOf]
        exact ⟨hsource, hproduct⟩
    · cases hprice
  · rintro ⟨hid, hcents, hresolves⟩
    obtain ⟨sourceProduct, hstored, hsource, hproduct⟩ := hresolves.sourceProduct
    rw [hproductsOf] at hproduct
    have hpair : sourceProduct ∈ pairs call joined rows := by
      simp only [pairs, List.mem_flatMap, Option.mem_toList, List.mem_map]
      exact ⟨staged.2, hrow, sourceProduct.sourceId, hsource, sourceProduct.productId, hproduct,
        rfl⟩
    simp only [resolvedPrices, hresolves.priceType, hsource, hresolves.finish, List.mem_flatMap,
      List.mem_map, List.mem_filter, returning, decide_eq_true_eq]
    refine ⟨sourceProduct.productId, hproduct, (price.key.sourceProductId, sourceProduct),
      ⟨⟨(Table.mem_rows_iff _ _ _).mpr hstored, hpair⟩, rfl⟩, ?_⟩
    obtain ⟨id, key, cents⟩ := price
    obtain ⟨hcondition, hlanguage, hprovider⟩ := hresolves.defaults
    have htsDate := hresolves.tsDate
    dsimp only at hid hcents hcondition hlanguage hprovider htsDate ⊢
    rw [← hid, ← hcents, ← hcondition, ← hlanguage, ← hprovider, ← htsDate]

/-- The delete selects the rows the joins resolve. -/
theorem deletes_iff {tables : MtgjsonTables} {row : StagedPrice} :
    deletes call tables row = true ↔ ∃ key, ResolvesTo call v_data_provider_id tables row key := by
  simp only [deletes, Bool.and_eq_true, Option.any_eq_true, List.any_eq_true,
    decide_eq_true_eq, Option.isSome_iff_exists, Prod.exists, Table.mem_rows_iff,
    exists_eq_right]
  constructor
  · rintro ⟨⟨⟨priceTypeId, htype⟩, finishId, hfinish⟩, sourceId, hsource, productId, hproduct,
      sourceProductId, hstored⟩
    exact ⟨⟨row.priceDate, sourceProductId, priceTypeId, finishId, call.conditionId,
      call.languageId, v_data_provider_id⟩, rfl, htype, hfinish, ⟨rfl, rfl, rfl⟩, _, hstored,
      hsource, hproduct⟩
  · rintro ⟨key, hresolves⟩
    obtain ⟨sourceProduct, hstored, hsource, hproduct⟩ := hresolves.sourceProduct
    exact ⟨⟨⟨_, hresolves.priceType⟩, _, hresolves.finish⟩, _, hsource, _, hproduct, _, hstored⟩

/-! ## The upsert -/

theorem transactionType_cases {code : String} {id : Nat}
    (hid : Staging.anyIdWhere transactionType (· = code) = some id) : id = 1 ∨ id = 2 := by
  obtain ⟨value, hget, -⟩ := Staging.get?_of_anyIdWhere hid
  have hmem := (Table.mem_rows_iff _ _ _).mpr hget
  simp only [transactionType, List.mem_cons, Prod.mk.injEq, List.not_mem_nil, or_false] at hmem
  rcases hmem with ⟨hid, -⟩ | ⟨hid, -⟩
  · exact Or.inl hid
  · exact Or.inr hid

theorem priceTypeId?_cases {row : StagedPrice} {priceTypeId : Nat}
    (htype : priceTypeId? row = some priceTypeId) : priceTypeId = 1 ∨ priceTypeId = 2 := by
  obtain ⟨code, -, hcode⟩ := Option.bind_eq_some_iff.mp htype
  exact transactionType_cases hcode

/-- The prices of an observation promoted with this price. -/
def promotedPrices (priceTypeId : Nat) (listLowCents : Option Nat) (cents : Nat) :
    Prices Nat where
  listLowCents
  listAvgCents := if priceTypeId = 1 then some cents else none
  soldAvgCents := if priceTypeId = 2 then some cents else none

/-- The check accepts a price in cents exactly when it is not negative. -/
theorem observation?_eq_some_iff {price : ResolvedPrice} {cents : Int}
    (htype : price.key.priceTypeId = 1 ∨ price.key.priceTypeId = 2)
    (hcents : price.priceCents = some cents) (observation : Observation) :
    observation? call price = some observation ↔
      0 ≤ cents ∧ observation = {
        prices := promotedPrices price.key.priceTypeId none cents.toNat
        listCount := if price.key.priceTypeId = 1 then some 1 else none
        soldCount := if price.key.priceTypeId = 2 then some 1 else none
        scrapedAt := call.now } := by
  rcases htype with htype | htype
  · by_cases hnonneg : 0 ≤ cents <;>
      simp [observation?, Prices.checked?, promotedPrices, htype, hcents, hnonneg, eq_comm]
  · by_cases hnonneg : 0 ≤ cents <;>
      simp [observation?, Prices.checked?, promotedPrices, htype, hcents, hnonneg, eq_comm]

theorem distinctOnKey_eq_none_iff (resolved : List ResolvedPrice) (key : ObservationKey) :
    (distinctOnKey resolved).get? key = none ↔ ∀ price ∈ resolved, price.key ≠ key :=
  firstPerKey_eq_none_iff

theorem mem_of_distinctOnKey {resolved : List ResolvedPrice} {key : ObservationKey}
    {price : ResolvedPrice} (hfirst : (distinctOnKey resolved).get? key = some price) :
    price ∈ resolved ∧ price.key = key :=
  mem_of_firstPerKey hfirst

section Upsert

variable {resolved : List ResolvedPrice} {stored next : Table ObservationKey Observation}
  {key : ObservationKey} {price : ResolvedPrice}

theorem isSome_priceCents_of_upsert
    (hupsert : upsertObservations call resolved stored = some next) (hprice : price ∈ resolved) :
    price.priceCents.isSome := by
  simp only [upsertObservations, Option.ite_none_left_eq_some, Bool.or_eq_true, not_or,
    List.any_eq_true, not_exists, not_and] at hupsert
  rw [Option.isSome_iff_ne_none]
  simpa using hupsert.1.1 price hprice

/-- No row of the window resolves to the key. -/
theorem upsert_keeps (hupsert : upsertObservations call resolved stored = some next)
    (hnone : (distinctOnKey resolved).get? key = none) : next.get? key = stored.get? key := by
  simp only [upsertObservations, Option.ite_none_left_eq_some, Option.some.injEq] at hupsert
  obtain ⟨-, rfl⟩ := hupsert
  rw [Table.get?_upsert, Table.get?_filterMapValues, hnone, Option.bind_none]
  cases stored.get? key <;> rfl

/-- The surviving row has an acceptable price, and leaves it under its key. -/
theorem upsert_promotes (hupsert : upsertObservations call resolved stored = some next)
    (hfirst : (distinctOnKey resolved).get? key = some price)
    (htype : key.priceTypeId = 1 ∨ key.priceTypeId = 2) :
    ∃ cents : Nat, price.priceCents = some (cents : Int) ∧
      (next.get? key).map (·.prices) = some (promotedPrices key.priceTypeId
        ((stored.get? key).bind (·.prices.listLowCents)) cents) := by
  obtain ⟨hmem, hkey⟩ := mem_of_distinctOnKey hfirst
  have hcast := isSome_priceCents_of_upsert hupsert hmem
  simp only [upsertObservations, Option.ite_none_left_eq_some, Option.some.injEq,
    Bool.or_eq_true, not_or, List.any_eq_true, not_exists, not_and] at hupsert
  obtain ⟨⟨-, hcheck⟩, rfl⟩ := hupsert
  obtain ⟨cents, hcents⟩ := Option.isSome_iff_exists.mp hcast
  obtain ⟨observation, hobservation⟩ : ∃ observation,
      observation? call price = some observation := by
    rw [← Option.isSome_iff_exists, Option.isSome_iff_ne_none]
    simpa using hcheck (key, price) ((Table.mem_rows_iff _ _ _).mpr hfirst)
  subst hkey
  obtain ⟨hnonneg, hprices⟩ := (observation?_eq_some_iff htype hcents observation).mp hobservation
  refine ⟨cents.toNat, by rw [hcents, Int.toNat_of_nonneg hnonneg], ?_⟩
  rw [Table.get?_upsert, Table.get?_filterMapValues, hfirst, Option.bind_some, hobservation,
    hprices]
  cases stored.get? price.key <;> rfl

end Upsert

end AutoMana.Mtgjson
