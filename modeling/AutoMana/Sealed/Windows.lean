import AutoMana.Mtgjson.Windows
import AutoMana.Sealed.LoadSealed

/-!
# What a window of sealed prices does

A window that commits resolves its rows, each to one product of one source and to one
transaction type, under tables it extends itself. It upserts one observation per key
and one snapshot row per product, source, and transaction type, each from a row it has
resolved, and deletes exactly the rows it has resolved.
-/

namespace AutoMana.Sealed

open Relational Pricing
open Mtgjson (insertProductSource insertProductSource_spec promotedPrices returning storedSources
  transactionType_cases updateObservation varchar3?)

variable {call : LoadCall} {plan : Plan} {v_data_provider_id : Nat} {window : Window}
  {tables next : SealedTables}

/-! ## Registering -/

/-- The currency a window stores for a new code. -/
def selectedCurrency (plan : Plan) (rows : List StagedSealed) (code : String) : Option String :=
  (storedSources (plan.sources (rows.map fun row => (row.priceSource, row.currency)))).lookup code

section Register

variable {rows : List StagedSealed} {registered : CodeTable String}

theorem insert_of_registerSources
    (hregister : registerSources call plan rows tables = some registered) :
    tables.priceSource.insertMissing? call.supply.sourceId (storedSources
      (plan.sources (rows.map fun row => (row.priceSource, row.currency)))) = some registered := by
  simp only [registerSources, Option.ite_none_left_eq_some, Option.filter_eq_some_iff] at hregister
  exact hregister.2.1

/-- A code keeps its source, or gets the currency selected for it. -/
theorem get?_of_registerSources
    (hregister : registerSources call plan rows tables = some registered) (code : String) :
    registered.get? code = (tables.priceSource.get? code).or
      ((selectedCurrency plan rows code).map (call.supply.sourceId code, ·)) :=
  CodeTable.get?_insertMissing (insert_of_registerSources hregister) code

theorem grows_of_registerSources
    (hregister : registerSources call plan rows tables = some registered) :
    CodeTable.Grows call.supply.sourceId tables.priceSource registered :=
  CodeTable.grows_of_insertMissing (insert_of_registerSources hregister)

theorem isSome_source_of_register
    (hregister : registerSources call plan rows tables = some registered) {row : StagedSealed}
    (hrow : row ∈ rows) : (registered.get? row.priceSource).isSome := by
  have hselected : (row.priceSource, row.currency) ∈
      plan.sources (rows.map fun row => (row.priceSource, row.currency)) :=
    (plan.sources_perm _).mem_iff.mpr (List.mem_dedup.mpr (List.mem_map.mpr ⟨row, hrow, rfl⟩))
  have hfits : (varchar3? row.currency).isSome := by
    simp only [registerSources, Option.ite_none_left_eq_some, List.any_eq_true, not_exists,
      not_and] at hregister
    simpa [Option.isSome_iff_ne_none] using hregister.1 _ hselected
  obtain ⟨currency, hcurrency⟩ := Option.isSome_iff_exists.mp hfits
  have hstored : (selectedCurrency plan rows row.priceSource).isSome :=
    List.lookup_isSome_iff.mpr ⟨(row.priceSource, currency),
      List.mem_filterMap.mpr ⟨_, hselected, by simp [hcurrency]⟩, by simp⟩
  rw [get?_of_registerSources hregister, Option.isSome_or, Option.isSome_map, hstored,
    Bool.or_true]

/-- A code is stored after the window when it was before, or a row of the window names it. -/
theorem isSome_registered_iff
    (hregister : registerSources call plan rows tables = some registered) {code : String} :
    (registered.get? code).isSome ↔ (tables.priceSource.get? code).isSome ∨
      ∃ row ∈ rows, row.priceSource = code := by
  constructor
  · rw [get?_of_registerSources hregister, Option.isSome_or, Option.isSome_map, Bool.or_eq_true]
    apply Or.imp_right
    intro hselected
    obtain ⟨currency, hlookup⟩ := Option.isSome_iff_exists.mp hselected
    obtain ⟨before, later, hrows, -⟩ := List.lookup_eq_some_iff.mp hlookup
    have hmem : (code, currency) ∈ storedSources
        (plan.sources (rows.map fun row => (row.priceSource, row.currency))) := by
      rw [hrows]
      exact List.mem_append_right _ List.mem_cons_self
    obtain ⟨source, hsource, hstored⟩ := List.mem_filterMap.mp hmem
    rw [(plan.sources_perm _).mem_iff, List.mem_dedup, List.mem_map] at hsource
    obtain ⟨row, hrow, rfl⟩ := hsource
    obtain ⟨_, -, hcode⟩ := Option.map_eq_some_iff.mp hstored
    exact ⟨row, hrow, congrArg Prod.fst hcode⟩
  · rintro (hstored | ⟨row, hrow, rfl⟩)
    · obtain ⟨source, hsource⟩ := Option.isSome_iff_exists.mp hstored
      exact Option.isSome_iff_exists.mpr
        ⟨source, (grows_of_registerSources hregister).kept _ _ hsource⟩
    · exact isSome_source_of_register hregister hrow

end Register

/-! ## Resolving -/

/-- The staged row joins to the keys and the price of a resolved row. -/
structure ResolvesTo (v_data_provider_id : Nat) (tables : SealedTables) (row : StagedSealed)
    (price : ResolvedSealed) : Prop where
  latest : latestKey? tables row = some price.latest
  key : ∃ sourceProductId,
    tables.products.sourceProduct.get? sourceProductId = some price.latest.sourceProduct ∧
      price.key = observationKey tables.reference v_data_provider_id price.latest sourceProductId
        row.priceDate
  priceCents : price.priceCents = row.priceValue.cents?

theorem ResolvesTo.tsDate {row : StagedSealed} {price : ResolvedSealed}
    (hresolves : ResolvesTo v_data_provider_id tables row price) :
    price.key.tsDate = row.priceDate := by
  obtain ⟨_, -, hkey⟩ := hresolves.key
  rw [hkey, observationKey]

/-- A key is not of two products, sources, or types. -/
theorem ResolvesTo.latest_eq {row other : StagedSealed} {price price' : ResolvedSealed}
    (hresolves : ResolvesTo v_data_provider_id tables row price)
    (hresolves' : ResolvesTo v_data_provider_id tables other price')
    (hkey : price.key = price'.key) : price.latest = price'.latest := by
  obtain ⟨id, hstored, hkeyOf⟩ := hresolves.key
  obtain ⟨id', hstored', hkeyOf'⟩ := hresolves'.key
  have hid : id = id' := by
    have hids := congrArg ObservationKey.sourceProductId hkey
    rwa [hkeyOf, hkeyOf'] at hids
  have htype : price.latest.transactionTypeId = price'.latest.transactionTypeId := by
    have htypes := congrArg ObservationKey.priceTypeId hkey
    rwa [hkeyOf, hkeyOf'] at htypes
  rw [hid, hstored', Option.some.injEq, LatestKey.sourceProduct, LatestKey.sourceProduct,
    SourceProduct.mk.injEq] at hstored
  ext
  case productId => exact hstored.1.symm
  case sourceId => exact hstored.2.symm
  case transactionTypeId => exact htype

/-- The rows a window that leaves these tables has resolved. -/
def resolvedRows (v_data_provider_id : Nat) (window : Window) (tables next : SealedTables) :
    List ResolvedSealed :=
  resolvedIn v_data_provider_id window { next with staging := tables.staging } next.products

theorem sourceProduct_of_latestKey {row : StagedSealed} {latest : LatestKey}
    (hlatest : latestKey? tables row = some latest) :
    sourceProduct? tables row = some latest.sourceProduct := by
  simp only [latestKey?, Option.bind_eq_bind, Option.bind_eq_some_iff, Option.pure_def,
    Option.some.injEq] at hlatest
  obtain ⟨_, -, sourceProduct, hsourceProduct, rfl⟩ := hlatest
  exact hsourceProduct

theorem latestKey?_eq_some_iff {row : StagedSealed} {latest : LatestKey} :
    latestKey? tables row = some latest ↔
      transactionTypeId? row = some latest.transactionTypeId ∧
      tables.sealedProducts.get? row.sealedUuid = some latest.productId ∧
      ∃ currency, tables.priceSource.get? row.priceSource = some (latest.sourceId, currency) := by
  simp only [latestKey?, sourceProduct?, Option.bind_eq_bind, Option.bind_eq_some_iff,
    Option.pure_def, Option.some.injEq, Prod.exists]
  constructor
  · intro hlatest
    obtain ⟨_, htype, _, ⟨_, currency, hsource, _, hproduct, rfl⟩, rfl⟩ := hlatest
    exact ⟨htype, hproduct, currency, hsource⟩
  · intro hjoins
    obtain ⟨htype, hproduct, currency, hsource⟩ := hjoins
    exact ⟨_, htype, _, ⟨_, currency, hsource, _, hproduct, rfl⟩, rfl⟩

/-- A row joins when its type, its product, and its source are known. -/
theorem isSome_latestKey?_iff {row : StagedSealed} :
    (latestKey? tables row).isSome ↔ (transactionTypeId? row).isSome ∧
      (tables.sealedProducts.get? row.sealedUuid).isSome ∧
      (tables.priceSource.get? row.priceSource).isSome := by
  simp only [Option.isSome_iff_exists, latestKey?_eq_some_iff, Prod.exists]
  constructor
  · intro hjoins
    obtain ⟨latest, htype, hproduct, currency, hsource⟩ := hjoins
    exact ⟨⟨_, htype⟩, ⟨_, hproduct⟩, _, currency, hsource⟩
  · intro hparts
    obtain ⟨⟨transactionTypeId, htype⟩, ⟨productId, hproduct⟩, sourceId, currency, hsource⟩ :=
      hparts
    exact ⟨⟨productId, sourceId, transactionTypeId⟩, htype, hproduct, currency, hsource⟩

/-- A resolved row is a buy or a sell. -/
theorem transactionTypeId_cases {row : StagedSealed} {latest : LatestKey}
    (hlatest : latestKey? tables row = some latest) :
    latest.transactionTypeId = 1 ∨ latest.transactionTypeId = 2 := by
  obtain ⟨code, -, hcode⟩ := Option.bind_eq_some_iff.mp (latestKey?_eq_some_iff.mp hlatest).1
  exact transactionType_cases hcode

theorem mem_stagedIn {staging : SerialTable StagedSealed} {id : Nat} {row : StagedSealed} :
    (id, row) ∈ stagedIn window staging ↔
      staging.table.get? id = some row ∧ window.Contains row.priceDate := by
  rw [stagedIn, List.mem_filter, Table.mem_rows_iff, decide_eq_true_eq]

theorem mem_stagedRows {staging : SerialTable StagedSealed} {id : Nat} {row : StagedSealed}
    (hget : staging.table.get? id = some row) (hday : window.Contains row.priceDate) :
    row ∈ (stagedIn window staging).map Prod.snd :=
  List.mem_map_of_mem (f := Prod.snd) (mem_stagedIn.mpr ⟨hget, hday⟩)

/-- A window resolves the rows of its days that join. -/
theorem mem_resolvedRows {price : ResolvedSealed} :
    price ∈ resolvedRows v_data_provider_id window tables next ↔
      ∃ row, tables.staging.table.get? price.id = some row ∧ window.Contains row.priceDate ∧
        ResolvesTo v_data_provider_id next row price := by
  simp only [resolvedRows, resolvedIn, List.mem_flatMap, Prod.exists, mem_stagedIn]
  constructor
  · intro hprice
    obtain ⟨id, row, ⟨hget, hday⟩, hmem⟩ := hprice
    unfold resolvedSealed at hmem
    cases hlatest : latestKey? next row with
    | none =>
      have hnone : latestKey? { next with staging := tables.staging } row = none := hlatest
      rw [hnone] at hmem
      cases hmem
    | some latest =>
      have hsome : latestKey? { next with staging := tables.staging } row = some latest := hlatest
      rw [hsome] at hmem
      obtain ⟨sourceProduct, hstored, rfl⟩ := List.mem_map.mp hmem
      obtain ⟨hreturned, hsame⟩ := List.mem_filter.mp hstored
      have hrow := (List.mem_filter.mp hreturned).1
      refine ⟨row, hget, hday, hlatest, ⟨sourceProduct.1, ?_, rfl⟩, rfl⟩
      rw [← of_decide_eq_true hsame]
      exact (Table.mem_rows_iff _ _ _).mp hrow
  · intro hresolved
    obtain ⟨row, hget, hday, hresolves⟩ := hresolved
    obtain ⟨sourceProductId, hstored, hkey⟩ := hresolves.key
    refine ⟨price.id, row, ⟨hget, hday⟩, ?_⟩
    have hsome : latestKey? { next with staging := tables.staging } row = some price.latest :=
      hresolves.latest
    have hpair : price.latest.sourceProduct ∈
        ((stagedIn window tables.staging).map Prod.snd).filterMap
          (sourceProduct? { next with staging := tables.staging }) :=
      List.mem_filterMap.mpr
        ⟨row, mem_stagedRows hget hday, sourceProduct_of_latestKey hsome⟩
    unfold resolvedSealed
    rw [hsome]
    refine List.mem_map.mpr ⟨(sourceProductId, price.latest.sourceProduct), ?_, ?_⟩
    · refine List.mem_filter.mpr ⟨List.mem_filter.mpr ⟨?_, decide_eq_true hpair⟩, ?_⟩
      · exact (Table.mem_rows_iff _ _ _).mpr hstored
      · exact decide_eq_true rfl
    · obtain ⟨id, key, latest, cents⟩ := price
      have hcents : cents = row.priceValue.cents? := hresolves.priceCents
      dsimp only at hkey ⊢
      rw [hkey, hcents]

/-! ## The window -/

/-- What a window that commits has done, read off the tables it leaves. -/
structure Promoted (call : LoadCall) (plan : Plan) (v_data_provider_id : Nat) (window : Window)
    (tables next : SealedTables) : Prop where
  sources : registerSources call plan ((stagedIn window tables.staging).map Prod.snd) tables =
    some next.priceSource
  reference : next.reference = tables.reference
  sealedProducts : next.sealedProducts = tables.sealedProducts
  grow : Table.Grows call.supply.sourceProductId tables.products.sourceProduct
    next.products.sourceProduct
  paired : ∀ id row sourceProduct, tables.staging.table.get? id = some row →
    window.Contains row.priceDate → sourceProduct? next row = some sourceProduct →
    ∃ sourceProductId, next.products.sourceProduct.get? sourceProductId = some sourceProduct
  casts : ∀ price ∈ resolvedRows v_data_provider_id window tables next,
    price.priceCents.isSome
  observes : ∀ key price,
    (upserted plan (resolvedRows v_data_provider_id window tables next)).get? key =
      some price → (observation? call price).isSome
  snapshots : ∀ latest price,
    (snapshotInsert plan (resolvedRows v_data_provider_id window tables next)).get? latest =
      some price → (latestPrice? price).isSome
  priceObservation : next.priceObservation = tables.priceObservation.upsert
    ((upserted plan (resolvedRows v_data_provider_id window tables next)).filterMapValues
      fun _ price => observation? call price) updateObservation
  sealedPriceLatest : next.sealedPriceLatest = tables.sealedPriceLatest.upsert
    ((snapshotInsert plan (resolvedRows v_data_provider_id window tables next)).filterMapValues
      fun _ price => latestPrice? price) updateLatest
  staging : ∀ id row, next.staging.table.get? id = some row ↔
    tables.staging.table.get? id = some row ∧
      ¬ (window.Contains row.priceDate ∧ (latestKey? next row).isSome)

theorem writePrices_spec {resolved : List ResolvedSealed}
    (hwrite : writePrices call plan resolved tables = some next) :
    (∀ price ∈ resolved, price.priceCents.isSome) ∧
    (∀ key price, (upserted plan resolved).get? key = some price →
      (observation? call price).isSome) ∧
    (∀ latest price, (snapshotInsert plan resolved).get? latest = some price →
      (latestPrice? price).isSome) ∧
    next = { tables with
      priceObservation := tables.priceObservation.upsert
        ((upserted plan resolved).filterMapValues fun _ price => observation? call price)
        updateObservation
      sealedPriceLatest := tables.sealedPriceLatest.upsert
        ((snapshotInsert plan resolved).filterMapValues fun _ price => latestPrice? price)
        updateLatest } := by
  simp only [writePrices, Option.ite_none_left_eq_some, Option.some.injEq, Bool.or_eq_true, not_or,
    List.any_eq_true, not_exists, not_and, Bool.not_eq_true, Option.isNone_eq_false_iff] at hwrite
  obtain ⟨⟨⟨hcasts, hobserves⟩, hsnapshots⟩, hnext⟩ := hwrite
  refine ⟨hcasts, ?_, ?_, hnext.symm⟩
  · intro key price hget
    exact hobserves (key, price) ((Table.mem_rows_iff _ _ _).mpr hget)
  · intro latest price hget
    exact hsnapshots (latest, price) ((Table.mem_rows_iff _ _ _).mpr hget)

/-- The statements of a window that does not raise. -/
theorem promoteWindow_cases
    (hpromote : promoteWindow call plan v_data_provider_id window tables = some next) :
    ∃ joined priceSource products written,
      joined = { tables with priceSource } ∧
      registerSources call plan ((stagedIn window tables.staging).map Prod.snd) tables =
        some priceSource ∧
      insertProductSource call.supply
        (((stagedIn window tables.staging).map Prod.snd).filterMap (sourceProduct? joined))
        tables.products = some products ∧
      writePrices call plan (resolvedIn v_data_provider_id window joined products)
        { joined with products } = some written ∧
      next = { written with
        staging := written.staging.deleteWhere fun id _ =>
          id ∈ ((stagedIn window written.staging).filter fun staged =>
            deletes written staged.2).map Prod.fst } := by
  simp only [promoteWindow, Option.bind_eq_bind, Option.bind_eq_some_iff, Option.pure_def,
    Option.some.injEq, Option.ite_none_left_eq_some] at hpromote
  obtain ⟨-, priceSource, hsources, products, hproducts, written, hwritten, rfl⟩ := hpromote
  exact ⟨_, priceSource, products, written, rfl, hsources, hproducts, hwritten, rfl⟩

/-- The delete selects the rows of the window that join. -/
theorem mem_stagedIds {id : Nat} {row : StagedSealed}
    (hpaired : ∀ id row sourceProduct, tables.staging.table.get? id = some row →
      window.Contains row.priceDate → sourceProduct? tables row = some sourceProduct →
      ∃ sourceProductId,
        tables.products.sourceProduct.get? sourceProductId = some sourceProduct)
    (hget : tables.staging.table.get? id = some row) :
    id ∈ ((stagedIn window tables.staging).filter fun staged =>
        deletes tables staged.2).map Prod.fst ↔
      window.Contains row.priceDate ∧ (latestKey? tables row).isSome := by
  simp only [List.mem_map, List.mem_filter, Prod.exists, exists_and_right, exists_eq_right,
    mem_stagedIn]
  constructor
  · intro hselected
    obtain ⟨other, ⟨hother, hday⟩, hdeletes⟩ := hselected
    obtain rfl : other = row := Option.some.inj (hother.symm.trans hget)
    obtain ⟨latest, hlatest, -⟩ := (Option.any_eq_true _ _).mp hdeletes
    exact ⟨hday, Option.isSome_iff_exists.mpr ⟨latest, hlatest⟩⟩
  · intro hjoins
    obtain ⟨hday, hsome⟩ := hjoins
    obtain ⟨latest, hlatest⟩ := Option.isSome_iff_exists.mp hsome
    obtain ⟨sourceProductId, hstored⟩ :=
      hpaired id row _ hget hday (sourceProduct_of_latestKey hlatest)
    refine ⟨row, ⟨hget, hday⟩, (Option.any_eq_true _ _).mpr ⟨latest, hlatest, ?_⟩⟩
    exact List.any_eq_true.mpr
      ⟨_, (Table.mem_rows_iff _ _ _).mpr hstored, decide_eq_true rfl⟩

theorem promoted_of_promoteWindow
    (hpromote : promoteWindow call plan v_data_provider_id window tables = some next) :
    Promoted call plan v_data_provider_id window tables next := by
  obtain ⟨joined, priceSource, products, written, hjoined, hsources, hproducts, hwritten, hnext⟩ :=
    promoteWindow_cases hpromote
  obtain ⟨-, hgrow, hpairs⟩ := insertProductSource_spec hproducts
  obtain ⟨hcasts, hobserves, hsnapshots, hwrites⟩ := writePrices_spec hwritten
  have hpaired : ∀ id row sourceProduct, tables.staging.table.get? id = some row →
      window.Contains row.priceDate → sourceProduct? joined row = some sourceProduct →
      ∃ sourceProductId, products.sourceProduct.get? sourceProductId = some sourceProduct := by
    intro id row sourceProduct hget hday hsourceProduct
    apply hpairs
    exact List.mem_filterMap.mpr ⟨row, mem_stagedRows hget hday, hsourceProduct⟩
  subst hjoined hwrites hnext
  refine ⟨hsources, rfl, rfl, hgrow, hpaired, hcasts, hobserves, hsnapshots, rfl, rfl, ?_⟩
  intro id row
  dsimp only [SerialTable.deleteWhere]
  rw [Table.get?_deleteWhere, Option.filter_eq_some_iff]
  apply and_congr_right
  intro hget
  rw [Bool.not_eq_true', decide_eq_false_iff_not]
  exact not_congr (mem_stagedIds hpaired hget)

/-! ## What is written -/

/-- The check lets through a price that is not negative. -/
theorem exists_checked {price : ResolvedSealed}
    (htype : price.latest.transactionTypeId = 1 ∨ price.latest.transactionTypeId = 2)
    (hcast : price.priceCents.isSome) (hchecked : price.prices.checked?.isSome) :
    ∃ cents : Nat, price.priceCents = some (cents : Int) ∧
      price.prices.checked? = some (promotedPrices price.latest.transactionTypeId none cents) := by
  obtain ⟨cents, hcents⟩ := Option.isSome_iff_exists.mp hcast
  have hnonneg : 0 ≤ cents := by
    by_contra hneg
    rcases htype with htype | htype <;>
      simp [ResolvedSealed.prices, Prices.checked?, htype, hcents, hneg] at hchecked
  refine ⟨cents.toNat, by rw [hcents, Int.toNat_of_nonneg hnonneg], ?_⟩
  rcases htype with htype | htype <;>
    simp [ResolvedSealed.prices, Prices.checked?, promotedPrices, htype, hcents, hnonneg]

namespace Promoted

/-- A row of the window that joins is resolved. -/
theorem exists_resolved (hpromoted : Promoted call plan v_data_provider_id window tables next)
    {id : Nat} {row : StagedSealed} {latest : LatestKey}
    (hget : tables.staging.table.get? id = some row) (hday : window.Contains row.priceDate)
    (hlatest : latestKey? next row = some latest) :
    ∃ price ∈ resolvedRows v_data_provider_id window tables next,
      price.id = id ∧ price.latest = latest ∧
        ResolvesTo v_data_provider_id next row price := by
  obtain ⟨sourceProductId, hstored⟩ :=
    hpromoted.paired id row _ hget hday (sourceProduct_of_latestKey hlatest)
  have hresolves : ResolvesTo v_data_provider_id next row {
      id
      key := observationKey next.reference v_data_provider_id latest sourceProductId row.priceDate
      latest
      priceCents := row.priceValue.cents? } :=
    ⟨hlatest, ⟨sourceProductId, hstored, rfl⟩, rfl⟩
  exact ⟨_, mem_resolvedRows.mpr ⟨row, hget, hday, hresolves⟩, rfl, rfl, hresolves⟩

theorem mem_of_upserted {key : ObservationKey} {price : ResolvedSealed}
    (hprice : (upserted plan (resolvedRows v_data_provider_id window tables next)).get? key =
      some price) :
    price ∈ resolvedRows v_data_provider_id window tables next ∧ price.key = key := by
  obtain ⟨hmem, hkey⟩ := mem_of_firstPerKey hprice
  exact ⟨(plan.upserted_perm _).mem_iff.mp hmem, hkey⟩

theorem mem_of_snapshotInsert {latest : LatestKey} {price : ResolvedSealed}
    (hprice : (snapshotInsert plan
      (resolvedRows v_data_provider_id window tables next)).get? latest = some price) :
    price ∈ resolvedRows v_data_provider_id window tables next ∧ price.latest = latest := by
  obtain ⟨hmem, hlatest⟩ := mem_of_greatestPerKey hprice
  exact ⟨(plan.snapshotInsert_perm _).mem_iff.mp hmem, hlatest⟩

/-- A key no row of the window resolves to is left alone. -/
theorem observation_kept (hpromoted : Promoted call plan v_data_provider_id window tables next)
    {key : ObservationKey}
    (hnone : ∀ price ∈ resolvedRows v_data_provider_id window tables next,
      price.key ≠ key) :
    next.priceObservation.get? key = tables.priceObservation.get? key := by
  have habsent : (upserted plan
      (resolvedRows v_data_provider_id window tables next)).get? key = none := by
    apply firstPerKey_eq_none_iff.mpr
    intro price hprice
    exact hnone price ((plan.upserted_perm _).mem_iff.mp hprice)
  rw [hpromoted.priceObservation, Table.get?_upsert, Table.get?_filterMapValues, habsent,
    Option.bind_none]
  cases tables.priceObservation.get? key <;> rfl

/-- A key some row of the window resolves to gets the price of one of its rows. -/
theorem observation_written (hpromoted : Promoted call plan v_data_provider_id window tables next)
    {price : ResolvedSealed}
    (hprice : price ∈ resolvedRows v_data_provider_id window tables next) :
    ∃ survivor ∈ resolvedRows v_data_provider_id window tables next,
      survivor.key = price.key ∧ ∃ cents : Nat, survivor.priceCents = some (cents : Int) ∧
        (next.priceObservation.get? price.key).map (·.prices) =
          some (promotedPrices survivor.latest.transactionTypeId
            ((tables.priceObservation.get? price.key).bind (·.prices.listLowCents)) cents) := by
  cases hget : (upserted plan
      (resolvedRows v_data_provider_id window tables next)).get? price.key with
  | none =>
    have habsent := firstPerKey_eq_none_iff.mp hget price
      ((plan.upserted_perm _).mem_iff.mpr hprice)
    exact absurd rfl habsent
  | some survivor =>
    obtain ⟨hmem, hkey⟩ := mem_of_upserted hget
    obtain ⟨row, -, -, hresolves⟩ := mem_resolvedRows.mp hmem
    have hobserves := hpromoted.observes _ _ hget
    rw [observation?, Option.isSome_map] at hobserves
    obtain ⟨cents, hcents, hchecked⟩ := exists_checked
      (transactionTypeId_cases hresolves.latest) (hpromoted.casts _ hmem) hobserves
    refine ⟨survivor, hmem, hkey, cents, hcents, ?_⟩
    rw [hpromoted.priceObservation, Table.get?_upsert, Table.get?_filterMapValues, hget,
      Option.bind_some, observation?, hchecked]
    cases tables.priceObservation.get? price.key <;> rfl

/-- A product without a price in the window keeps its snapshot row. -/
theorem latest_kept (hpromoted : Promoted call plan v_data_provider_id window tables next)
    {latest : LatestKey}
    (hnone : ∀ price ∈ resolvedRows v_data_provider_id window tables next,
      price.latest ≠ latest) :
    next.sealedPriceLatest.get? latest = tables.sealedPriceLatest.get? latest := by
  have habsent : (snapshotInsert plan
      (resolvedRows v_data_provider_id window tables next)).get? latest = none := by
    apply greatestPerKey_eq_none_iff.mpr
    intro price hprice
    exact hnone price ((plan.snapshotInsert_perm _).mem_iff.mp hprice)
  rw [hpromoted.sealedPriceLatest, Table.get?_upsert, Table.get?_filterMapValues, habsent,
    Option.bind_none]
  cases tables.sealedPriceLatest.get? latest <;> rfl

/-- A product with a price in the window is offered one of its newest. -/
theorem latest_written (hpromoted : Promoted call plan v_data_provider_id window tables next)
    {price : ResolvedSealed}
    (hprice : price ∈ resolvedRows v_data_provider_id window tables next) :
    ∃ survivor ∈ resolvedRows v_data_provider_id window tables next,
      survivor.latest = price.latest ∧
      (∀ other ∈ resolvedRows v_data_provider_id window tables next,
        other.latest = price.latest → other.key.tsDate ≤ survivor.key.tsDate) ∧
      ∃ cents : Nat, survivor.priceCents = some (cents : Int) ∧
        next.sealedPriceLatest.get? price.latest = Table.reconcile updateLatest
          (tables.sealedPriceLatest.get? price.latest) (some {
            priceDate := survivor.key.tsDate
            prices := promotedPrices price.latest.transactionTypeId none cents
            nProviders := some 1 }) := by
  cases hget : (snapshotInsert plan
      (resolvedRows v_data_provider_id window tables next)).get? price.latest with
  | none =>
    have habsent := greatestPerKey_eq_none_iff.mp hget price
      ((plan.snapshotInsert_perm _).mem_iff.mpr hprice)
    exact absurd rfl habsent
  | some survivor =>
    obtain ⟨hmem, hlatest⟩ := mem_of_snapshotInsert hget
    obtain ⟨row, -, -, hresolves⟩ := mem_resolvedRows.mp hmem
    have hsnapshots := hpromoted.snapshots _ _ hget
    rw [latestPrice?, Option.isSome_map] at hsnapshots
    obtain ⟨cents, hcents, hchecked⟩ := exists_checked
      (transactionTypeId_cases hresolves.latest) (hpromoted.casts _ hmem) hsnapshots
    refine ⟨survivor, hmem, hlatest, ?_, cents, hcents, ?_⟩
    · intro other hother hsame
      exact le_of_greatestPerKey hget ((plan.snapshotInsert_perm _).mem_iff.mpr hother) hsame
    · rw [hpromoted.sealedPriceLatest, Table.get?_upsert, Table.get?_filterMapValues, hget,
        Option.bind_some, latestPrice?, hchecked, Option.map_some, hlatest]

end Promoted

/-! ## Rows of one price -/

/-- Two staged rows are of one product, source, and type. -/
def SamePrice (tables : SealedTables) (row other : StagedSealed) : Prop :=
  transactionTypeId? row = transactionTypeId? other ∧ row.priceSource = other.priceSource ∧
    tables.sealedProducts.get? row.sealedUuid = tables.sealedProducts.get? other.sealedUuid

theorem sourceProductId_unique {products : Products} {id other : SourceProductId}
    {sourceProduct : SourceProduct} (hid : products.sourceProduct.get? id = some sourceProduct)
    (hother : products.sourceProduct.get? other = some sourceProduct) : id = other :=
  Table.key_unique products.sourceProduct_unique hid hother

section SamePrice

variable (hpromoted : Promoted call plan v_data_provider_id window tables next)
include hpromoted

theorem samePrice_of_latest {row other : StagedSealed} {latest : LatestKey}
    (hrow : latestKey? next row = some latest)
    (hother : latestKey? next other = some latest) : SamePrice tables row other := by
  obtain ⟨htype, hproduct, currency, hsource⟩ := latestKey?_eq_some_iff.mp hrow
  obtain ⟨htype', hproduct', currency', hsource'⟩ := latestKey?_eq_some_iff.mp hother
  refine ⟨htype.trans htype'.symm, next.priceSource.code_unique hsource hsource', ?_⟩
  rw [← hpromoted.sealedProducts, hproduct, hproduct']

theorem latestKey?_eq_of_samePrice {row other : StagedSealed} (hsame : SamePrice tables other row) :
    latestKey? next other = latestKey? next row := by
  obtain ⟨htype, hsource, hproduct⟩ := hsame
  rw [← hpromoted.sealedProducts] at hproduct
  unfold latestKey? sourceProduct?
  rw [htype, hsource, hproduct]

/-- What a row joined to before the window it joins to after it. -/
theorem latestKey?_kept {row : StagedSealed} {latest : LatestKey}
    (hrow : latestKey? tables row = some latest) :
    latestKey? next row = some latest := by
  obtain ⟨htype, hproduct, currency, hsource⟩ := latestKey?_eq_some_iff.mp hrow
  rw [← hpromoted.sealedProducts] at hproduct
  exact latestKey?_eq_some_iff.mpr ⟨htype, hproduct, currency,
    (grows_of_registerSources hpromoted.sources).kept _ _ hsource⟩

/-- The rows of the window that join are those with a type and a product. -/
theorem isSome_latestKey?_of_staged
    {id : Nat} {row : StagedSealed} (hget : tables.staging.table.get? id = some row)
    (hday : window.Contains row.priceDate) :
    (latestKey? next row).isSome ↔ (transactionTypeId? row).isSome ∧
      (tables.sealedProducts.get? row.sealedUuid).isSome := by
  have hsource := isSome_source_of_register hpromoted.sources (mem_stagedRows hget hday)
  rw [isSome_latestKey?_iff, hpromoted.sealedProducts]
  exact and_congr_right fun _ => and_iff_left hsource

end SamePrice

end AutoMana.Sealed
