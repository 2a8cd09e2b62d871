import AutoMana.Mtgjson.Names

/-!
# Which runs there are

A loop over windows does not raise when the currencies of its rows fit and are known, the
prices of the rows it promotes can be cast, and every name it promotes is offered an
acceptable price, which the plan then keeps. Every loop that does not raise meets these
conditions, and the plan is free to keep the price of any row that is offered.
-/

namespace AutoMana.Mtgjson

open Relational Pricing

variable {call : LoadCall} {plan : Plan} {v_data_provider_id : Nat} {window : Window}
  {windows rest : List Window} {tables next : MtgjsonTables}

/-- Of the rows of a key the plan keeps one with an acceptable price, if there is one. -/
def Plan.PrefersAcceptable (plan : Plan) : Prop :=
  ∀ rows price first, price ∈ rows → Acceptable price.priceCents →
    (distinctOnKey (plan.resolved rows)).get? price.key = some first →
    Acceptable first.priceCents

/-- A staged row of the windows offers an observation of the name: the card has a product,
and the source ends with the currency of the row. -/
structure Offered (call : LoadCall) (plan : Plan) (windows : List Window) (tables : MtgjsonTables)
    (name : ObservationName) (id : Nat) (row : StagedPrice) : Prop where
  staged : tables.staging.get? id = some row
  day : ∃ window ∈ windows, window.Contains row.priceDate
  names : Names call.reference row name
  product : name.cardVersionId ∈ tables.products.mtgCardProducts.values
  currency : registeredCurrency plan windows tables.staging tables.priceSource
    row.priceSource = some row.currency

/-- The staged rows of the windows can be promoted without an error. -/
structure Servable (call : LoadCall) (plan : Plan) (windows : List Window)
    (tables : MtgjsonTables) : Prop where
  fits : ∀ id row, tables.staging.get? id = some row →
    (∃ window ∈ windows, window.Contains row.priceDate) → (varchar3? row.currency).isSome
  known : ∀ id row currency, tables.staging.get? id = some row →
    (∃ window ∈ windows, window.Contains row.priceDate) →
    tables.priceSource.get? row.priceSource = none →
    registeredCurrency plan windows tables.staging tables.priceSource row.priceSource =
      some currency → currency ∈ call.reference.currencyRef
  casts : ∀ name id row, Offered call plan windows tables name id row →
    row.priceValue.cents?.isSome
  accepts : ∀ name id row, Offered call plan windows tables name id row →
    ∃ id' row', Offered call plan windows tables name id' row' ∧ Acceptable row'.priceValue.cents?

/-- No id still to be drawn in the loop is taken. -/
structure FreshIds (supply : IdSupply) (tables : MtgjsonTables) : Prop where
  priceSource : tables.priceSource.Fresh supply.sourceId
  cardFinished : tables.cardFinished.Fresh supply.finishId
  sourceProduct : ∀ product, product ∉ tables.products.sourceProduct.values →
    tables.products.sourceProduct.get? (supply.sourceProductId product) = none

theorem FreshIds.of_grow {supply : IdSupply} {earlier later : MtgjsonTables}
    (hfresh : FreshIds supply earlier) (hgrow : TablesGrow supply earlier later) :
    FreshIds supply later where
  priceSource := hfresh.priceSource.of_grows supply.sourceId_injective hgrow.priceSource
  cardFinished := hfresh.cardFinished.of_grows supply.finishId_injective hgrow.cardFinished
  sourceProduct := hgrow.sourceProduct.free supply.sourceProductId_injective hfresh.sourceProduct

/-! ## A window -/

theorem exists_registerSources {rows : List StagedPrice} {priceSource : CodeTable String}
    (hfresh : priceSource.Fresh call.supply.sourceId)
    (hfits : ∀ row ∈ rows, (varchar3? row.currency).isSome)
    (hknown : ∀ row ∈ rows, priceSource.get? row.priceSource = none → ∀ currency,
      selectedCurrency plan rows row.priceSource = some currency →
      currency ∈ call.reference.currencyRef) :
    ∃ next, registerSources call plan rows priceSource = some next := by
  obtain ⟨next, hnext⟩ := CodeTable.exists_insertMissing call.supply.sourceId_injective hfresh
    (storedSources (plan.sources (rows.map fun row => (row.priceSource, row.currency))))
  refine ⟨next, ?_⟩
  have hfit : ¬ (plan.sources (rows.map fun row => (row.priceSource, row.currency))).any
      (fun source => (varchar3? source.2).isNone) = true := by
    rw [List.any_eq_true]
    rintro ⟨source, hsource, hlong⟩
    obtain ⟨row, hrow, rfl⟩ := (mem_selected plan source).mp hsource
    have hrowFits := hfits row hrow
    simp [Option.isNone_iff_eq_none.mp hlong] at hrowFits
  rw [registerSources, if_neg hfit, hnext, Option.filter_eq_some_iff]
  refine ⟨rfl, ?_⟩
  rw [List.all_eq_true]
  rintro ⟨code, source⟩ hrow
  have hget := CodeTable.get?_insertMissing hnext code
  rw [CodeTable.get?, (Table.mem_rows_iff _ _ _).mp hrow] at hget
  cases hstored : priceSource.get? code with
  | some stored => rfl
  | none =>
      rw [hstored, Option.none_or, eq_comm, Option.map_eq_some_iff] at hget
      obtain ⟨currency, hselected, rfl⟩ := hget
      obtain ⟨row, hstaged, rfl⟩ := exists_row_of_selectedCurrency hselected
      have hcurrency := hknown row hstaged hstored currency hselected
      simp [hcurrency]

theorem exists_insertProductSource (hfresh : FreshIds call.supply tables)
    (pairs : List SourceProduct) :
    ∃ products, insertProductSource call.supply pairs tables.products = some products := by
  obtain ⟨sourceProduct, hregister⟩ := Table.exists_register
    call.supply.sourceProductId_injective hfresh.sourceProduct pairs
  unfold insertProductSource
  split
  · next hnone => simp [hregister] at hnone
  · exact ⟨_, rfl⟩

theorem exists_upsertObservations {resolved : List ResolvedPrice}
    (stored : Table ObservationKey Observation)
    (htypes : ∀ price ∈ resolved, price.key.priceTypeId = 1 ∨ price.key.priceTypeId = 2)
    (hcasts : ∀ price ∈ resolved, price.priceCents.isSome)
    (haccepts : ∀ key first, (distinctOnKey resolved).get? key = some first →
      Acceptable first.priceCents) :
    ∃ next, upsertObservations call resolved stored = some next := by
  refine ⟨_, if_neg ?_⟩
  simp only [Bool.or_eq_true, List.any_eq_true, not_or, not_exists, not_and]
  constructor
  · intro price hprice hnone
    have hsome := hcasts price hprice
    rw [Option.isNone_iff_eq_none.mp hnone] at hsome
    cases hsome
  · rintro ⟨key, first⟩ hrow hnone
    have hfirst := (Table.mem_rows_iff _ _ _).mp hrow
    obtain ⟨hmem, -⟩ := mem_of_distinctOnKey hfirst
    obtain ⟨cents, hcents⟩ := haccepts key first hfirst
    have hobservation := (@observation?_eq_some_iff call first cents (htypes first hmem) hcents
      _).mpr ⟨Int.natCast_nonneg cents, rfl⟩
    rw [hobservation] at hnone
    cases hnone

/-- The currency a code has once the rows of the next window are registered. -/
theorem registeredCurrency_of_register {priceSource : CodeTable String}
    (hregister : registerSources call plan ((stagedIn window tables.staging).map Prod.snd)
      tables.priceSource = some priceSource) {code currency : String}
    (hcurrency : (priceSource.get? code).map Prod.snd = some currency) :
    registeredCurrency plan (window :: rest) tables.staging tables.priceSource code =
      some currency := by
  rw [get?_of_registerSources hregister] at hcurrency
  rw [registeredCurrency]
  cases hstored : tables.priceSource.get? code with
  | some source => simpa [hstored] using hcurrency
  | none =>
      rw [hstored, Option.none_or, Option.map_map] at hcurrency
      have hselected : selectedCurrency plan
          ((stagedIn window tables.staging).map Prod.snd) code = some currency :=
        (congrFun Option.map_id _).symm.trans hcurrency
      simp [hselected]

section Registered

variable {priceSource : CodeTable String} {cardFinished : CodeTable Unit} {products : Products}
  {name : ObservationName} {key : ObservationKey} {id : Nat} {row : StagedPrice}

/-- What resolves in a window is offered. -/
theorem offered_of_resolvesTo
    (hregister : registerSources call plan ((stagedIn window tables.staging).map Prod.snd)
      tables.priceSource = some priceSource)
    (hcards : products.mtgCardProducts = tables.products.mtgCardProducts)
    (hget : tables.staging.get? id = some row) (hwindow : window.Contains row.priceDate)
    (hresolves : ResolvesTo call v_data_provider_id
      { tables with priceSource, cardFinished, products } row key) :
    ∃ name, Offered call plan (window :: rest) tables name id row ∧
      KeyOf call v_data_provider_id { tables with priceSource, cardFinished, products } name key ∧
      (priceSource.get? row.priceSource).map Prod.snd = some row.currency := by
  obtain ⟨name, hnames, hkey, hcurrency⟩ := resolvesTo_iff_name.mp hresolves
  obtain ⟨productId, _, _, hproduct, -, -⟩ := hkey.sourceProduct
  dsimp only at hproduct hcurrency
  rw [hcards] at hproduct
  exact ⟨name, ⟨hget, ⟨window, List.mem_cons_self, hwindow⟩, hnames,
    Table.mem_values_iff.mpr ⟨productId, hproduct⟩,
    registeredCurrency_of_register hregister hcurrency⟩, hkey, hcurrency⟩

/-- Another row that offers the name of a row of the window is of the window too, and
resolves to the key of the name. -/
theorem resolvesTo_of_offered {id' : Nat} {row' : StagedPrice}
    (hrow : Offered call plan (window :: rest) tables name id row)
    (hrow' : Offered call plan (window :: rest) tables name id' row')
    (hkey : KeyOf call v_data_provider_id
      { tables with priceSource, cardFinished, products } name key)
    (hwindow : window.Contains row.priceDate)
    (hcurrency : (priceSource.get? row.priceSource).map Prod.snd = some row.currency) :
    window.Contains row'.priceDate ∧
      ResolvesTo call v_data_provider_id
        { tables with priceSource, cardFinished, products } row' key := by
  have hcode : row'.priceSource = row.priceSource :=
    hrow'.names.priceSource.symm.trans hrow.names.priceSource
  have hsame : row'.currency = row.currency := by
    have hcurrency' := hrow'.currency
    rw [hcode, hrow.currency, Option.some.injEq] at hcurrency'
    exact hcurrency'.symm
  constructor
  · rwa [← hrow'.names.priceDate, hrow.names.priceDate]
  · refine resolvesTo_iff_name.mpr ⟨name, hrow'.names, hkey, ?_⟩
    rw [hcode, hsame]
    exact hcurrency

end Registered

/-- A servable window does not raise under a plan that prefers acceptable prices. -/
theorem exists_promoteWindow (hraises : plan.raises window = false)
    (hprefers : plan.PrefersAcceptable) (hfresh : FreshIds call.supply tables)
    (hservable : Servable call plan (window :: rest) tables) :
    ∃ next, promoteWindow call plan v_data_provider_id window tables = some next := by
  have hday {day : Int} (hwindow : window.Contains day) :
      ∃ window' ∈ window :: rest, window'.Contains day :=
    ⟨window, List.mem_cons_self, hwindow⟩
  have hstaged {row : StagedPrice} (hrow : row ∈ (stagedIn window tables.staging).map Prod.snd) :
      ∃ id, tables.staging.get? id = some row ∧ window.Contains row.priceDate := by
    obtain ⟨⟨id, _⟩, hmem, rfl⟩ := List.mem_map.mp hrow
    exact ⟨id, mem_stagedIn.mp hmem⟩
  obtain ⟨priceSource, hsources⟩ : ∃ priceSource,
      registerSources call plan ((stagedIn window tables.staging).map Prod.snd) tables.priceSource =
        some priceSource := by
    apply exists_registerSources hfresh.priceSource
    · intro row hrow
      obtain ⟨id, hget, hwindow⟩ := hstaged hrow
      exact hservable.fits id row hget (hday hwindow)
    · intro row hrow hstored currency hselected
      obtain ⟨id, hget, hwindow⟩ := hstaged hrow
      apply hservable.known id row currency hget (hday hwindow) hstored
      simp [registeredCurrency, hstored, hselected]
  obtain ⟨cardFinished, hfinishes⟩ := CodeTable.exists_insertMissing
    call.supply.finishId_injective hfresh.cardFinished
    (((stagedIn window tables.staging).map Prod.snd).map fun row =>
      (call.locale.upper row.finishType, ()))
  obtain ⟨products, hproducts⟩ := exists_insertProductSource hfresh
    (pairs call { tables with priceSource, cardFinished }
      ((stagedIn window tables.staging).map Prod.snd))
  obtain ⟨hcards, -, -⟩ := insertProductSource_spec hproducts
  have hsame : products.mtgCardProducts =
      { tables with priceSource, cardFinished : MtgjsonTables }.products.mtgCardProducts := hcards
  obtain ⟨priceObservation, hupsert⟩ : ∃ priceObservation, upsertObservations call
      (resolvedOf call plan v_data_provider_id window { tables with priceSource, cardFinished }
        products) tables.priceObservation = some priceObservation := by
    apply exists_upsertObservations
    · intro price hprice
      obtain ⟨row, -, -, -, hresolves⟩ := (mem_resolvedOf hsame).mp hprice
      exact priceTypeId?_cases hresolves.priceType
    · intro price hprice
      obtain ⟨row, hget, hwindow, hcents, hresolves⟩ := (mem_resolvedOf hsame).mp hprice
      obtain ⟨name, hrow, -, -⟩ := offered_of_resolvesTo hsources hcards hget hwindow hresolves
      rw [hcents]
      exact hservable.casts name price.id row hrow
    · intro key first hfirst
      obtain ⟨hmem, rfl⟩ := mem_of_distinctOnKey hfirst
      obtain ⟨row, hget, hwindow, -, hresolves⟩ := (mem_resolvedOf hsame).mp hmem
      obtain ⟨name, hrow, hkey, hcurrency⟩ :=
        offered_of_resolvesTo hsources hcards hget hwindow hresolves
      obtain ⟨id', row', hrow', hacceptable⟩ := hservable.accepts name first.id row hrow
      obtain ⟨hwindow', hresolves'⟩ :=
        resolvesTo_of_offered hrow hrow' hkey hwindow hcurrency
      have hprice : ResolvedPrice.mk id' first.key row'.priceValue.cents? ∈ resolvedOf call plan
          v_data_provider_id window { tables with priceSource, cardFinished } products :=
        (mem_resolvedOf hsame).mpr ⟨row', hrow'.staged, hwindow', rfl, hresolves'⟩
      exact hprefers _ _ first ((plan.resolved_perm _).mem_iff.mp hprice) hacceptable hfirst
  unfold resolvedOf at hupsert
  rw [← Option.isSome_iff_exists, promoteWindow, if_neg (by simp [hraises])]
  simp only [hsources, registerFinishes, hfinishes, hproducts, hupsert, Option.bind_eq_bind,
    Option.bind_some]
  rfl

/-! ## The loop -/

section Step

variable (hbefore : ∀ later ∈ rest, window.stop < later.start)
  (hpromote : promoteWindow call plan v_data_provider_id window tables = some next)

include hbefore hpromote

/-- A window leaves the rows of later windows where they are. -/
theorem get?_later {id : Nat} {row : StagedPrice}
    (hday : ∃ later ∈ rest, later.Contains row.priceDate) :
    next.staging.get? id = some row ↔ tables.staging.get? id = some row := by
  rw [(promotion_of_window hpromote).staging]
  apply and_iff_left
  rintro ⟨⟨-, hstop⟩, -⟩
  obtain ⟨later, hlater, hstart, -⟩ := hday
  have := hbefore later hlater
  omega

/-- What the later windows are offered, they were offered before. -/
theorem offered_rest_iff {name : ObservationName} {id : Nat} {row : StagedPrice}
    (hday : ∃ later ∈ rest, later.Contains row.priceDate) :
    Offered call plan rest next name id row ↔
      Offered call plan (window :: rest) tables name id row := by
  have hcards := (promotion_of_window hpromote).grow.mtgCardProducts
  have hcurrency := registeredCurrency_of_promoteWindow hbefore hpromote row.priceSource
  have hstaged := @get?_later call plan v_data_provider_id window rest tables next hbefore
    hpromote id row hday
  constructor
  · intro hrow
    exact ⟨hstaged.mp hrow.staged, hday.imp fun _ hlater => ⟨List.mem_cons_of_mem _ hlater.1,
      hlater.2⟩, hrow.names, hcards ▸ hrow.product, hcurrency.symm.trans hrow.currency⟩
  · intro hrow
    exact ⟨hstaged.mpr hrow.staged, hday, hrow.names, hcards ▸ hrow.product,
      hcurrency.trans hrow.currency⟩

theorem Servable.of_promoteWindow (hservable : Servable call plan (window :: rest) tables) :
    Servable call plan rest next := by
  have hcons {day : Int} (hday : ∃ later ∈ rest, later.Contains day) :
      ∃ window' ∈ window :: rest, window'.Contains day :=
    hday.imp fun _ hlater => ⟨List.mem_cons_of_mem _ hlater.1, hlater.2⟩
  constructor
  case fits =>
    intro id row hget hday
    exact hservable.fits id row ((get?_later hbefore hpromote hday).mp hget) (hcons hday)
  case known =>
    intro id row currency hget hday hmissing hcurrency
    rw [registeredCurrency_of_promoteWindow hbefore hpromote] at hcurrency
    refine hservable.known id row currency ((get?_later hbefore hpromote hday).mp hget)
      (hcons hday) ?_ hcurrency
    cases hstored : tables.priceSource.get? row.priceSource with
    | none => rfl
    | some source =>
        have hkept := (promotion_of_window hpromote).grow.priceSource.kept _ _ hstored
        rw [hmissing] at hkept
        cases hkept
  case casts =>
    intro name id row hrow
    exact hservable.casts name id row ((offered_rest_iff hbefore hpromote hrow.day).mp hrow)
  case accepts =>
    intro name id row hrow
    obtain ⟨id', row', hrow', hacceptable⟩ := hservable.accepts name id row
      ((offered_rest_iff hbefore hpromote hrow.day).mp hrow)
    have hday' : ∃ later ∈ rest, later.Contains row'.priceDate := by
      rw [← hrow'.names.priceDate, hrow.names.priceDate]
      exact hrow.day
    exact ⟨id', row', (offered_rest_iff hbefore hpromote hday').mpr hrow', hacceptable⟩

end Step

theorem exists_promoteWindows
    (hpairwise : windows.Pairwise fun earlier later => earlier.stop < later.start)
    (hraises : ∀ window, plan.raises window = false)
    (hprefers : plan.PrefersAcceptable) (hfresh : FreshIds call.supply tables)
    (hservable : Servable call plan windows tables) (committed : MtgjsonTables) :
    ∃ after,
      promoteWindows call plan v_data_provider_id windows committed tables = (after, none) := by
  induction windows generalizing committed tables with
  | nil => exact ⟨tables, rfl⟩
  | cons window rest ih =>
      obtain ⟨hbefore, hrest⟩ := List.pairwise_cons.mp hpairwise
      obtain ⟨next, hpromote⟩ := @exists_promoteWindow call plan v_data_provider_id window rest
        tables (hraises window) hprefers hfresh hservable
      obtain ⟨after, hafter⟩ := ih hrest (hfresh.of_grow (promotion_of_window hpromote).grow)
        (hservable.of_promoteWindow hbefore hpromote) next
      refine ⟨after, ?_⟩
      rw [promoteWindows, hpromote]
      exact hafter

/-! ## A loop that does not raise -/

section Run

variable {after : MtgjsonTables} {name : ObservationName} {key : ObservationKey} {id : Nat}
  {row : StagedPrice}

/-- A loop over windows that does not raise. -/
structure WindowRun (call : LoadCall) (plan : Plan) (v_data_provider_id : Nat)
    (windows : List Window) (tables after : MtgjsonTables) : Prop where
  pairwise : windows.Pairwise fun earlier later => earlier.stop < later.start
  upper : ∀ id row, tables.staging.get? id = some row →
    call.locale.upper row.finishType = row.finishType
  run : ∃ committed,
    promoteWindows call plan v_data_provider_id windows committed tables = (after, none)

variable (hrun : WindowRun call plan v_data_provider_id windows tables after)

include hrun

theorem WindowRun.promotion : Promotion call plan v_data_provider_id
    {day | ∃ window ∈ windows, window.Contains day} tables after := by
  obtain ⟨committed, hrun'⟩ := hrun.run
  exact promotion_of_windows hrun.pairwise hrun.upper hrun'

theorem WindowRun.currency (code : String) :
    (after.priceSource.get? code).map Prod.snd =
      registeredCurrency plan windows tables.staging tables.priceSource code := by
  obtain ⟨committed, hrun'⟩ := hrun.run
  exact currency_of_windows hrun.pairwise hrun' code

/-- The rows that resolve to a key are those that offer what it stands for. -/
theorem resolvedOn_iff_offered :
    ResolvedOn call v_data_provider_id {day | ∃ window ∈ windows, window.Contains day}
        tables.staging after key id row ↔
      ∃ name, Offered call plan windows tables name id row ∧
        KeyOf call v_data_provider_id after name key := by
  constructor
  · rintro ⟨hget, hday, hresolves⟩
    obtain ⟨name, hnames, hkey, hcurrency⟩ := resolvesTo_iff_name.mp hresolves
    obtain ⟨productId, _, _, hproduct, -, -⟩ := hkey.sourceProduct
    rw [hrun.promotion.grow.mtgCardProducts] at hproduct
    refine ⟨name, ⟨hget, hday, hnames, ?_, ?_⟩, hkey⟩
    · exact Table.mem_values_iff.mpr ⟨productId, hproduct⟩
    · rw [← hrun.currency, hcurrency]
  · rintro ⟨name, hrow, hkey⟩
    refine ⟨hrow.staged, hrow.day, resolvesTo_iff_name.mpr ⟨name, hrow.names, hkey, ?_⟩⟩
    rw [hrun.currency, hrow.currency]

theorem exists_keyOf (hrow : Offered call plan windows tables name id row) :
    ∃ key, KeyOf call v_data_provider_id after name key := by
  have hregistered := hrun.promotion.registered id row hrow.staged hrow.day
  have hcurrency := hrow.currency
  rw [← hrun.currency, Option.map_eq_some_iff] at hcurrency
  obtain ⟨⟨sourceId, _⟩, hsource, rfl⟩ := hcurrency
  have hfinish := hregistered.finish
  rw [hrun.upper id row hrow.staged, Option.isSome_iff_exists] at hfinish
  obtain ⟨⟨finishId, ⟨⟩⟩, hfinish⟩ := hfinish
  obtain ⟨productId, hproduct⟩ := Table.mem_values_iff.mp hrow.product
  rw [← hrun.promotion.grow.mtgCardProducts] at hproduct
  obtain ⟨sourceProductId, hstored⟩ := hregistered.sourceProduct sourceId productId
    (sourceId?_eq_some_iff.mpr hsource) (mem_productsOf.mpr ⟨_, hrow.names.card, hproduct⟩)
  exact ⟨⟨name.priceDate, sourceProductId, name.priceTypeId, finishId, call.conditionId,
    call.languageId, v_data_provider_id⟩, rfl, rfl, hrow.names.finishType ▸ hfinish,
    ⟨rfl, rfl, rfl⟩, productId, sourceId, _, hproduct, hrow.names.priceSource ▸ hsource, hstored⟩

theorem Future.self_of_run : Future call.supply tables after where
  priceSource := hrun.promotion.grow.priceSource
  cardFinished := hrun.promotion.grow.cardFinished
  mtgCardProducts := hrun.promotion.grow.mtgCardProducts ▸ Table.Grows.refl _ _
  sourceProduct := hrun.promotion.grow.sourceProduct

/-- A loop that does not raise is servable. -/
theorem servable_of_run : Servable call plan windows tables := by
  have hpromotion := hrun.promotion
  constructor
  case fits => exact hpromotion.fits
  case known =>
    intro id row currency hget hday hmissing hcurrency
    rw [← hrun.currency, Option.map_eq_some_iff] at hcurrency
    obtain ⟨source, hsource, rfl⟩ := hcurrency
    rcases hpromotion.known _ source hsource with hstored | hknown
    · rw [hmissing] at hstored
      cases hstored
    · exact hknown
  case casts =>
    intro name id row hrow
    obtain ⟨key, hkey⟩ := exists_keyOf hrun hrow
    exact hpromotion.casts key id row ((resolvedOn_iff_offered hrun).mpr ⟨name, hrow, hkey⟩)
  case accepts =>
    intro name id row hrow
    obtain ⟨key, hkey⟩ := exists_keyOf hrun hrow
    obtain ⟨id', row', hsurvivor, -, cents, hcents, -⟩ := hpromotion.promoted key id row
      ((resolvedOn_iff_offered hrun).mpr ⟨name, hrow, hkey⟩)
    obtain ⟨name', hrow', hkey'⟩ := (resolvedOn_iff_offered hrun).mp hsurvivor
    have hsame : name' = name := hkey'.name_eq (Future.self_of_run hrun)
      (Future.self_of_run hrun) hkey
    exact ⟨id', row', hsame ▸ hrow', cents, hcents⟩

end Run

end AutoMana.Mtgjson
