import AutoMana.Mtgjson.Servable

/-!
# The order of the staged rows

A call folds several staged rows onto one key: the price types 'retail' and 'market', or
'buylist' and 'directlow', a card under its own uuid and under an alias. The statement
that promotes them keeps any one of them. Two calls on the same rows leave the same
prices exactly when all rows of a name that may be promoted have one price, whatever
currency a new source code is registered with.
-/

namespace AutoMana.Mtgjson

open Relational Pricing

variable {call : LoadCall} {plan : Plan} {v_data_provider_id : Nat} {batchDays : ℕ+}
  {tables bootstrapped after : MtgjsonTables} {name : ObservationName} {key : ObservationKey}
  {id : Nat} {row : StagedPrice}

/-- A normalized staged row offers an observation of the name: the card has a product, and
the source ends with the currency of the row. -/
structure Offers (call : LoadCall) (currencyOf : String → Option String)
    (tables : MtgjsonTables) (name : ObservationName) (id : Nat) (row : StagedPrice) :
    Prop where
  staged : (normalizedStaging call tables).get? id = some row
  names : Names call.reference row name
  product : HasProduct call tables name.cardVersionId
  currency : currencyOf row.priceSource = some row.currency

/-- A row that offers the name has this price. -/
def OffersPrice (call : LoadCall) (currencyOf : String → Option String)
    (tables : MtgjsonTables) (name : ObservationName) (cents : Nat) : Prop :=
  ∃ id row, Offers call currencyOf tables name id row ∧
    row.priceValue.cents? = some (cents : Int)

/-- The inputs on which a call can return without an error. -/
structure CanReturn (call : LoadCall) (currencyOf : String → Option String)
    (tables : MtgjsonTables) : Prop where
  provider : (Staging.anyIdWhere call.reference.dataProvider (· = "mtgjson")).isSome
  fits : ∀ id row, (normalizedStaging call tables).get? id = some row →
    (varchar3? row.currency).isSome
  known : ∀ id row currency, (normalizedStaging call tables).get? id = some row →
    tables.priceSource.get? row.priceSource = none →
    currencyOf row.priceSource = some currency → currency ∈ call.reference.currencyRef
  casts : ∀ name id row, Offers call currencyOf tables name id row →
    row.priceValue.cents?.isSome
  accepts : ∀ name id row, Offers call currencyOf tables name id row →
    ∃ cents, OffersPrice call currencyOf tables name cents

/-! ## From the inputs to the loop -/

theorem priceSource_of_bootstrap (hbootstrap : bootstrap call tables = some bootstrapped) :
    (normalizeStaging call.locale bootstrapped).priceSource = tables.priceSource := by
  obtain ⟨_, _, -, rfl⟩ := bootstrap_cases hbootstrap
  rfl

theorem priceObservation_of_bootstrap
    (hbootstrap : bootstrap call tables = some bootstrapped) :
    (normalizeStaging call.locale bootstrapped).priceObservation = tables.priceObservation := by
  obtain ⟨_, _, -, rfl⟩ := bootstrap_cases hbootstrap
  rfl

/-- The loop is offered what the inputs offer. -/
theorem offered_iff_offers (hbootstrap : bootstrap call tables = some bootstrapped) :
    Offered call plan (stagingWindows batchDays (normalizedStaging call tables))
        (normalizeStaging call.locale bootstrapped) name id row ↔
      Offers call (admittedCurrency call plan batchDays tables) tables name id row := by
  have hstaging := normalizedStaging_of_bootstrap hbootstrap
  have hsource := priceSource_of_bootstrap hbootstrap
  constructor
  · intro hrow
    have hcurrency := hrow.currency
    rw [hstaging, hsource] at hcurrency
    exact ⟨hstaging ▸ hrow.staged, hrow.names,
      (mem_values_bootstrap hbootstrap _).mp hrow.product, hcurrency⟩
  · intro hrow
    refine ⟨hstaging ▸ hrow.staged, exists_mem_stagingWindows batchDays hrow.staged, hrow.names,
      (mem_values_bootstrap hbootstrap _).mpr hrow.product, ?_⟩
    rw [hstaging, hsource]
    exact hrow.currency

theorem servable_of_canReturn (hbootstrap : bootstrap call tables = some bootstrapped)
    (hcan : CanReturn call (admittedCurrency call plan batchDays tables) tables) :
    Servable call plan (stagingWindows batchDays (normalizedStaging call tables))
      (normalizeStaging call.locale bootstrapped) := by
  have hstaging := normalizedStaging_of_bootstrap hbootstrap
  constructor
  case fits =>
    intro id row hget _
    exact hcan.fits id row (hstaging ▸ hget)
  case known =>
    intro id row currency hget _ hmissing hcurrency
    rw [hstaging] at hget hcurrency
    rw [priceSource_of_bootstrap hbootstrap] at hmissing hcurrency
    exact hcan.known id row currency hget hmissing hcurrency
  case casts =>
    intro name id row hrow
    exact hcan.casts name id row ((offered_iff_offers hbootstrap).mp hrow)
  case accepts =>
    intro name id row hrow
    obtain ⟨cents, id', row', hrow', hcents⟩ :=
      hcan.accepts name id row ((offered_iff_offers hbootstrap).mp hrow)
    exact ⟨id', row', (offered_iff_offers hbootstrap).mpr hrow', cents, hcents⟩

/-- No id still to be drawn in the call is taken. -/
structure FreshCall (supply : IdSupply) (tables : MtgjsonTables) : Prop where
  products : supply.toIdSupply.Fresh tables.products
  priceSource : tables.priceSource.Fresh supply.sourceId
  cardFinished : tables.cardFinished.Fresh supply.finishId

theorem exists_bootstrap (hfresh : FreshCall call.supply tables) :
    ∃ bootstrapped, bootstrap call tables = some bootstrapped := by
  obtain ⟨mtgCardProducts, hcards⟩ := Table.exists_register call.supply.productId_injective
    hfresh.products.productId (stagedCards call.reference tables.staging)
  unfold bootstrap
  split
  · next hnone => simp [hcards] at hnone
  · exact ⟨_, rfl⟩

/-- On inputs that can return, a plan that raises nothing of its own and prefers acceptable
prices returns. -/
theorem exists_returns (hfresh : FreshCall call.supply tables)
    (hcan : CanReturn call (admittedCurrency call plan batchDays tables) tables)
    (hraises : ∀ window, plan.raises window = false) (hprefers : plan.PrefersAcceptable) :
    ∃ v_data_provider_id bootstrapped after,
      Returns call plan v_data_provider_id batchDays tables bootstrapped after := by
  obtain ⟨v_data_provider_id, hprovider⟩ := Option.isSome_iff_exists.mp hcan.provider
  obtain ⟨bootstrapped, hbootstrap⟩ := exists_bootstrap hfresh
  have hfreshIds : FreshIds call.supply (normalizeStaging call.locale bootstrapped) := by
    obtain ⟨_, _, -, rfl⟩ := bootstrap_cases hbootstrap
    exact ⟨hfresh.priceSource, hfresh.cardFinished, hfresh.products.sourceProductId⟩
  obtain ⟨after, hafter⟩ := @exists_promoteWindows call plan v_data_provider_id _ _
    (stagingWindows_pairwise batchDays _) hraises hprefers hfreshIds
    (servable_of_canReturn hbootstrap hcan) bootstrapped
  refine ⟨v_data_provider_id, bootstrapped, after, hbootstrap, hprovider, ?_⟩
  rw [normalizedStaging_of_bootstrap hbootstrap]
  exact hafter

/-! ## A call that returns -/

section Returns

variable (hupper : call.locale.UpperIdempotent)
  (hreturns : Returns call plan v_data_provider_id batchDays tables bootstrapped after)

include hupper hreturns

theorem windowRun_of_returns : WindowRun call plan v_data_provider_id
    (stagingWindows batchDays (normalizedStaging call tables))
    (normalizeStaging call.locale bootstrapped) after := by
  refine ⟨stagingWindows_pairwise _ _, ?_, bootstrapped, ?_⟩
  · intro id row hget
    exact upper_of_normalizeStaging hupper hget
  · have hwindows := hreturns.windows
    rwa [normalizedStaging_of_bootstrap hreturns.bootstrap] at hwindows

theorem future_of_returns : Future call.supply tables after :=
  (Future.of_bootstrap hreturns.bootstrap).grow
    (windowRun_of_returns hupper hreturns).promotion.grow

theorem canReturn_of_returns :
    CanReturn call (admittedCurrency call plan batchDays tables) tables := by
  have hservable := servable_of_run (windowRun_of_returns hupper hreturns)
  have hstaging := normalizedStaging_of_bootstrap hreturns.bootstrap
  have hsource := priceSource_of_bootstrap hreturns.bootstrap
  constructor
  case provider => exact Option.isSome_of_mem hreturns.provider
  case fits =>
    intro id row hget
    exact hservable.fits id row (hstaging ▸ hget) (exists_mem_stagingWindows batchDays hget)
  case known =>
    intro id row currency hget hmissing hcurrency
    refine hservable.known id row currency (hstaging ▸ hget)
      (exists_mem_stagingWindows batchDays hget) (hsource ▸ hmissing) ?_
    rw [hstaging, hsource]
    exact hcurrency
  case casts =>
    intro name id row hrow
    exact hservable.casts name id row ((offered_iff_offers hreturns.bootstrap).mpr hrow)
  case accepts =>
    intro name id row hrow
    obtain ⟨id', row', hrow', cents, hcents⟩ :=
      hservable.accepts name id row ((offered_iff_offers hreturns.bootstrap).mpr hrow)
    exact ⟨cents, id', row', (offered_iff_offers hreturns.bootstrap).mp hrow', hcents⟩

/-- A name that is offered ends with an offered price, that of the row the plan puts first. -/
theorem promoted_of_offers
    (hrow : Offers call (admittedCurrency call plan batchDays tables) tables name id row) :
    ∃ key cents, KeyOf call v_data_provider_id after name key ∧
      OffersPrice call (admittedCurrency call plan batchDays tables) tables name cents ∧
      (after.priceObservation.get? key).map (·.prices) = some (promotedPrices key.priceTypeId
        ((tables.priceObservation.get? key).bind (·.prices.listLowCents)) cents) ∧
      (plan.PutsFirst id → Acceptable row.priceValue.cents? →
        row.priceValue.cents? = some (cents : Int)) := by
  have hrun := windowRun_of_returns hupper hreturns
  have hoffered := (offered_iff_offers hreturns.bootstrap).mpr hrow
  obtain ⟨key, hkey⟩ := exists_keyOf hrun hoffered
  obtain ⟨id', row', hsurvivor, hfirst, cents, hcents, hprices⟩ :=
    hrun.promotion.promoted key id row ((resolvedOn_iff_offered hrun).mpr ⟨name, hoffered, hkey⟩)
  obtain ⟨name', hrow', hkey'⟩ := (resolvedOn_iff_offered hrun).mp hsurvivor
  have hsame : name' = name := hkey'.name_eq (Future.self_of_run hrun)
    (Future.self_of_run hrun) hkey
  subst hsame
  rw [priceObservation_of_bootstrap hreturns.bootstrap] at hprices
  refine ⟨key, cents, hkey, ⟨id', row', (offered_iff_offers hreturns.bootstrap).mp hrow', hcents⟩,
    hprices, ?_⟩
  intro hputs hacceptable
  have hid := hfirst hputs hacceptable
  subst hid
  have hstaged := hsurvivor.staged
  rw [hoffered.staged, Option.some.injEq] at hstaged
  rw [hstaged, hcents]

/-- A key of a name that nothing offers keeps its observation. -/
theorem kept_of_not_offered (hnone : ∀ name id row, KeyOf call v_data_provider_id after name key →
      ¬ Offers call (admittedCurrency call plan batchDays tables) tables name id row) :
    after.priceObservation.get? key = tables.priceObservation.get? key := by
  have hrun := windowRun_of_returns hupper hreturns
  rw [hrun.promotion.kept key, priceObservation_of_bootstrap hreturns.bootstrap]
  intro id row hresolved
  obtain ⟨name, hrow, hkey⟩ := (resolvedOn_iff_offered hrun).mp hresolved
  exact hnone name id row hkey ((offered_iff_offers hreturns.bootstrap).mp hrow)

end Returns

/-! ## Plans that keep a row -/

/-- The plan that registers the same currencies, keeps acceptable prices, and among these
the row with the id. -/
def Plan.prefer (plan : Plan) (id : Nat) : Plan where
  sources := plan.sources
  sources_perm := plan.sources_perm
  resolved := fun rows =>
    let ordered := rows.filter (·.id = id) ++ rows.filter fun price => !decide (price.id = id)
    ordered.filter (fun price => price.priceCents.any (0 ≤ ·)) ++
      ordered.filter fun price => !price.priceCents.any (0 ≤ ·)
  resolved_perm := fun rows =>
    (List.filter_append_perm _ _).trans (List.filter_append_perm _ rows)
  raises := fun _ => false

theorem any_nonneg_iff (priceCents : Option Int) :
    priceCents.any (0 ≤ ·) = true ↔ Acceptable priceCents := by
  rw [Option.any_eq_true]
  constructor
  · rintro ⟨cents, rfl, hnonneg⟩
    exact ⟨cents.toNat, by rw [Int.toNat_of_nonneg (of_decide_eq_true hnonneg)]⟩
  · rintro ⟨cents, rfl⟩
    exact ⟨cents, rfl, decide_eq_true (Int.natCast_nonneg cents)⟩

/-- A part that has the key comes first. -/
theorem first_mem_left {left right : List ResolvedPrice} {price first : ResolvedPrice}
    (hprice : price ∈ left)
    (hfirst : (distinctOnKey (left ++ right)).get? price.key = some first) : first ∈ left := by
  rw [distinctOnKey, Table.get?_groupBy _ _ rfl, List.filter_append] at hfirst
  have hmem : price ∈ left.filter (·.key = price.key) := by simp [hprice]
  rw [List.head?_append_of_ne_nil _ (List.ne_nil_of_mem hmem)] at hfirst
  exact (List.mem_filter.mp (List.mem_of_mem_head? hfirst)).1

theorem Plan.prefer_prefersAcceptable (plan : Plan) (id : Nat) :
    (plan.prefer id).PrefersAcceptable := by
  intro rows price first hprice hacceptable hfirst
  have hmem := first_mem_left (List.mem_filter.mpr
    ⟨(List.filter_append_perm _ rows).mem_iff.mpr hprice,
      (any_nonneg_iff price.priceCents).mpr hacceptable⟩) hfirst
  exact (any_nonneg_iff _).mp (List.mem_filter.mp hmem).2

theorem Plan.prefer_putsFirst (plan : Plan) (id : Nat) : (plan.prefer id).PutsFirst id := by
  intro rows price first hprice hid hacceptable hfirst
  simp only [Plan.prefer, List.filter_append, List.append_assoc] at hfirst
  have hmem := first_mem_left (List.mem_filter.mpr
    ⟨List.mem_filter.mpr ⟨hprice, decide_eq_true hid⟩,
      (any_nonneg_iff price.priceCents).mpr hacceptable⟩) hfirst
  exact of_decide_eq_true (List.mem_filter.mp (List.mem_filter.mp hmem).1).2

/-! ## Two orders of the staged rows -/

/-- Every observation is of a stored source product, and that of a stored source. -/
structure Referential (tables : MtgjsonTables) : Prop where
  sourceProduct : ∀ key observation, tables.priceObservation.get? key = some observation →
    ∃ sourceProduct, tables.products.sourceProduct.get? key.sourceProductId = some sourceProduct
  priceSource : ∀ id sourceProduct,
    tables.products.sourceProduct.get? id = some sourceProduct →
    ∃ code currency, tables.priceSource.get? code = some (sourceProduct.sourceId, currency)

/-- Under every key the same prices. -/
def SamePrices (left right : MtgjsonTables) : Prop :=
  ∀ key, (left.priceObservation.get? key).map (·.prices) =
    (right.priceObservation.get? key).map (·.prices)

/-- Two calls on the staged rows in the one and in the other order, both without an error,
leave the same prices. -/
def OrderIrrelevant (call : LoadCall) (tables : MtgjsonTables)
    (left right : Table Nat StagedPrice) : Prop :=
  ∀ (plan plan' : Plan) (afterLeft afterRight : MtgjsonTables),
    loadPriceObservationFromMtgjsonStagingBatched call plan { tables with staging := left } =
      (afterLeft, none) →
    loadPriceObservationFromMtgjsonStagingBatched call plan' { tables with staging := right } =
      (afterRight, none) →
    SamePrices afterLeft afterRight

/-- With these currencies for the new sources, a call on the staged rows can return. -/
def CanReturnOn (call : LoadCall) (plan : Plan) (batchDays : ℕ+) (tables : MtgjsonTables) : Prop :=
  CanReturn call (admittedCurrency call plan batchDays tables) tables

/-- With these currencies for the new sources, a staged row gives the name this price. -/
def Gives (call : LoadCall) (plan : Plan) (batchDays : ℕ+) (tables : MtgjsonTables)
    (name : ObservationName) (cents : Nat) : Prop :=
  OffersPrice call (admittedCurrency call plan batchDays tables) tables name cents

/-- The rows that give a name a price give it one price, and whether there is such a row
does not depend on the currencies that new sources are registered with. -/
def PricesAgree (call : LoadCall) (tables : MtgjsonTables) (left right : Table Nat StagedPrice) :
    Prop :=
  ∀ (batchDays : ℕ+) (plan plan' : Plan), call.batchDays = some (batchDays : Int) →
    CanReturnOn call plan batchDays { tables with staging := left } →
    CanReturnOn call plan' batchDays { tables with staging := right } →
    ∀ name,
      (∀ cents cents', Gives call plan batchDays { tables with staging := left } name cents →
        Gives call plan' batchDays { tables with staging := right } name cents' →
        cents = cents') ∧
      ((∃ cents, Gives call plan batchDays { tables with staging := left } name cents) ↔
        ∃ cents, Gives call plan' batchDays { tables with staging := right } name cents)

variable {left right staging : Table Nat StagedPrice} {plan' : Plan} {cents : Nat}

theorem FreshCall.with_staging {supply : IdSupply} (hfresh : FreshCall supply tables)
    (staging : Table Nat StagedPrice) : FreshCall supply { tables with staging } :=
  ⟨hfresh.products, hfresh.priceSource, hfresh.cardFinished⟩

theorem Future.of_staging {supply : IdSupply}
    (hfuture : Future supply { tables with staging } after) : Future supply tables after :=
  ⟨hfuture.priceSource, hfuture.cardFinished, hfuture.mtgCardProducts, hfuture.sourceProduct⟩

/-- The tables hold the same multiset of staged rows, under whatever ids. -/
def SameRows (left right : Table Nat StagedPrice) : Prop := left.values.Perm right.values

/-- The same rows offer the same names, as far as their currencies are admitted. -/
theorem Offers.of_sameRows {currencyOf currencyOf' : String → Option String}
    (hsame : SameRows left right)
    (hrow : Offers call currencyOf { tables with staging := left } name id row)
    (hcurrency : currencyOf' row.priceSource = some row.currency) :
    ∃ id', Offers call currencyOf' { tables with staging := right } name id' row := by
  obtain ⟨hstaged, hnames, hproduct, -⟩ := hrow
  rw [normalizedStaging, Table.get?_mapValues, Option.map_eq_some_iff] at hstaged
  obtain ⟨staged, hget, rfl⟩ := hstaged
  obtain ⟨id', hget'⟩ := Table.mem_values_iff.mp
    (hsame.mem_iff.mp (Table.mem_values_iff.mpr ⟨id, hget⟩))
  have hcards : (stagedCards call.reference left).Perm (stagedCards call.reference right) := by
    have hmapped := hsame.flatMap_right fun staged =>
      ((identifiers call.reference).filter (·.1 = staged.cardUuid)).map Prod.snd
    rw [Table.values, Table.values, List.flatMap_map, List.flatMap_map] at hmapped
    exact hmapped
  refine ⟨id', ?_, hnames, hproduct.imp_right hcards.mem_iff.mp, hcurrency⟩
  rw [normalizedStaging, Table.get?_mapValues, hget', Option.map_some]

theorem admittedCurrency_of_stored {code currency : String} {sourceId : SourceId}
    (hstored : tables.priceSource.get? code = some (sourceId, currency)) :
    admittedCurrency call plan batchDays tables code = some currency := by
  rw [admittedCurrency, registeredCurrency, hstored]

/-- The row of a stored source offers what it offers, however new sources are registered. -/
theorem Offers.of_stored (hsame : SameRows left right) {sourceId : SourceId} {currency : String}
    (hstored : tables.priceSource.get? row.priceSource = some (sourceId, currency))
    (hrow : Offers call (admittedCurrency call plan batchDays { tables with staging := left })
      { tables with staging := left } name id row) :
    ∃ id', Offers call (admittedCurrency call plan' batchDays { tables with staging := right })
      { tables with staging := right } name id' row := by
  have hleft := @admittedCurrency_of_stored call plan batchDays
    { tables with staging := left } _ _ _ hstored
  have hright := @admittedCurrency_of_stored call plan' batchDays
    { tables with staging := right } _ _ _ hstored
  exact hrow.of_sameRows hsame (hright.trans (hleft.symm.trans hrow.currency))

/-- A call leaves any price that a row gives the name. -/
theorem exists_returns_with_price (hupper : call.locale.UpperIdempotent)
    (hfresh : FreshCall call.supply tables) (hcan : CanReturnOn call plan batchDays tables)
    (hgives : Gives call plan batchDays tables name cents) :
    ∃ keeping v_data_provider_id bootstrapped after key,
      Returns call keeping v_data_provider_id batchDays tables bootstrapped after ∧
      KeyOf call v_data_provider_id after name key ∧
      (after.priceObservation.get? key).map (·.prices) = some (promotedPrices key.priceTypeId
        ((tables.priceObservation.get? key).bind (·.prices.listLowCents)) cents) := by
  obtain ⟨id, row, hrow, hcents⟩ := hgives
  obtain ⟨v_data_provider_id, bootstrapped, after, hreturns⟩ :=
    @exists_returns call (plan.prefer id) batchDays tables hfresh hcan (fun _ => rfl)
      (plan.prefer_prefersAcceptable id)
  obtain ⟨key, kept, hkey, -, hprices, hkept⟩ := promoted_of_offers hupper hreturns hrow
  have hsame := hkept (plan.prefer_putsFirst id) ⟨cents, hcents⟩
  rw [hcents, Option.some.injEq] at hsame
  exact ⟨plan.prefer id, v_data_provider_id, bootstrapped, after, key, hreturns, hkey,
    Int.ofNat_injective hsame ▸ hprices⟩

theorem promotedPrices_injective {priceTypeId : Nat} (htype : priceTypeId = 1 ∨ priceTypeId = 2)
    {listLowCents : Option Nat} {cents cents' : Nat}
    (hsame : promotedPrices priceTypeId listLowCents cents =
      promotedPrices priceTypeId listLowCents cents') : cents = cents' := by
  have hcolumn := get_priceColumn htype listLowCents cents
  rw [hsame, get_priceColumn htype, Option.some.injEq] at hcolumn
  exact hcolumn.symm

/-! ### When the prices agree -/

/-- The left call promotes what the right one does. -/
theorem samePrices_of_agree (hupper : call.locale.UpperIdempotent)
    (hagree : PricesAgree call tables left right) : OrderIrrelevant call tables left right := by
  intro plan plan' afterLeft afterRight hloadLeft hloadRight key
  obtain ⟨v_data_provider_id, batchDays, bootstrappedLeft, hdays, hleft⟩ :=
    load_returns_iff.mp hloadLeft
  obtain ⟨v_data_provider_id', batchDays', bootstrappedRight, hdays', hright⟩ :=
    load_returns_iff.mp hloadRight
  have hprovider : v_data_provider_id = v_data_provider_id' :=
    Option.some.inj (hleft.provider.symm.trans hright.provider)
  have hbatch : batchDays = batchDays' := by
    rw [hdays, Option.some.injEq] at hdays'
    exact PNat.coe_injective (Int.ofNat_injective hdays')
  subst hprovider hbatch
  have hfutureLeft := (future_of_returns hupper hleft).of_staging
  have hfutureRight := (future_of_returns hupper hright).of_staging
  have hname := fun name => hagree batchDays plan plan' hdays (canReturn_of_returns hupper hleft)
    (canReturn_of_returns hupper hright) name
  by_cases hoffered : ∃ name id row, KeyOf call v_data_provider_id afterLeft name key ∧
      Offers call (admittedCurrency call plan batchDays { tables with staging := left })
        { tables with staging := left } name id row
  · obtain ⟨name, id, row, hkey, hrow⟩ := hoffered
    obtain ⟨keyLeft, cents, hkeyLeft, hgives, hpricesLeft, -⟩ :=
      promoted_of_offers hupper hleft hrow
    obtain ⟨cents', id', row', hrow', hcents'⟩ := (hname name).2.mp ⟨cents, hgives⟩
    obtain ⟨keyRight, kept, hkeyRight, hgives', hpricesRight, -⟩ :=
      promoted_of_offers hupper hright hrow'
    have hsameLeft : keyLeft = key := hkeyLeft.key_eq hfutureLeft hfutureLeft hkey
    have hsameRight : keyRight = key := hkeyRight.key_eq hfutureRight hfutureLeft hkey
    subst hsameRight hsameLeft
    rw [hpricesLeft, hpricesRight, (hname name).1 cents kept hgives hgives']
  · have hnoneLeft : ∀ name id row, KeyOf call v_data_provider_id afterLeft name key →
        ¬ Offers call (admittedCurrency call plan batchDays { tables with staging := left })
          { tables with staging := left } name id row :=
      fun name id row hkey hrow => hoffered ⟨name, id, row, hkey, hrow⟩
    rw [kept_of_not_offered hupper hleft hnoneLeft, kept_of_not_offered hupper hright]
    -- what the right call offers under the key, the left one would
    intro name id row hkey hrow
    obtain ⟨_, kept, -, hgives, -, -⟩ := promoted_of_offers hupper hright hrow
    obtain ⟨_, id', row', hrow', -⟩ := (hname name).2.mpr ⟨kept, hgives⟩
    obtain ⟨keyLeft, _, hkeyLeft, -, -, -⟩ := promoted_of_offers hupper hleft hrow'
    have hsame : keyLeft = key := hkeyLeft.key_eq hfutureLeft hfutureRight hkey
    exact hnoneLeft name id' row' (hsame ▸ hkeyLeft) hrow'

/-! ### When the order does not matter -/

theorem load_of_returns {v_data_provider_id : Nat} (hdays : call.batchDays = some (batchDays : Int))
    (hreturns : Returns call plan v_data_provider_id batchDays tables bootstrapped after) :
    loadPriceObservationFromMtgjsonStagingBatched call plan tables = (after, none) :=
  load_returns_iff.mpr ⟨v_data_provider_id, batchDays, bootstrapped, hdays, hreturns⟩

section Irrelevant

variable (hupper : call.locale.UpperIdempotent)
  (hfresh : FreshCall call.supply tables)
  (hdays : call.batchDays = some (batchDays : Int))

include hupper hfresh hdays

/-- Rows of one name have one price. -/
theorem cents_eq_of_irrelevant (hirrelevant : OrderIrrelevant call tables left right)
    (hcanLeft : CanReturnOn call plan batchDays { tables with staging := left })
    (hcanRight : CanReturnOn call plan' batchDays { tables with staging := right })
    {cents' : Nat} (hleft : Gives call plan batchDays { tables with staging := left } name cents)
    (hright : Gives call plan' batchDays { tables with staging := right } name cents') :
    cents = cents' := by
  obtain ⟨keeping, v_data_provider_id, bootstrappedLeft, afterLeft, key, hreturns, hkey, hprices⟩ :=
    exists_returns_with_price hupper (hfresh.with_staging left) hcanLeft hleft
  obtain ⟨keeping', v_data_provider_id', bootstrappedRight, afterRight, key', hreturns', hkey',
      hprices'⟩ :=
    exists_returns_with_price hupper (hfresh.with_staging right) hcanRight hright
  have hprovider : v_data_provider_id = v_data_provider_id' :=
    Option.some.inj (hreturns.provider.symm.trans hreturns'.provider)
  subst hprovider
  have hsame : key = key' := hkey.key_eq (future_of_returns hupper hreturns).of_staging
    (future_of_returns hupper hreturns').of_staging hkey'
  subst hsame
  have hleave := hirrelevant keeping keeping' afterLeft afterRight
    (load_of_returns hdays hreturns) (load_of_returns hdays hreturns') key
  rw [hprices, hprices', Option.some.injEq] at hleave
  obtain ⟨_, row, hrow, -⟩ := hleft
  exact promotedPrices_injective
    (hkey.priceType ▸ priceTypeId?_cases hrow.names.priceType) hleave

/-- A name that has a price in the one order has one in the other. -/
theorem exists_gives_of_irrelevant (hsame : SameRows left right)
    (hreferential : Referential tables) (hirrelevant : OrderIrrelevant call tables left right)
    (hcanLeft : CanReturnOn call plan batchDays { tables with staging := left })
    (hcanRight : CanReturnOn call plan' batchDays { tables with staging := right })
    (hleft : Gives call plan batchDays { tables with staging := left } name cents) :
    ∃ cents', Gives call plan' batchDays { tables with staging := right } name cents' := by
  by_contra hnone
  obtain ⟨keeping, v_data_provider_id, bootstrappedLeft, afterLeft, key, hreturns, hkey, hprices⟩ :=
    exists_returns_with_price hupper (hfresh.with_staging left) hcanLeft hleft
  obtain ⟨v_data_provider_id', bootstrappedRight, afterRight, hreturns'⟩ :=
    @exists_returns call (plan'.prefer 0) batchDays { tables with staging := right }
      (hfresh.with_staging right) hcanRight (fun _ => rfl)
      (plan'.prefer_prefersAcceptable 0)
  have hprovider : v_data_provider_id = v_data_provider_id' :=
    Option.some.inj (hreturns.provider.symm.trans hreturns'.provider)
  subst hprovider
  have hfutureLeft := (future_of_returns hupper hreturns).of_staging
  have hfutureRight := (future_of_returns hupper hreturns').of_staging
  -- the right call keeps what is stored under the key
  have hkept : afterRight.priceObservation.get? key = tables.priceObservation.get? key := by
    apply kept_of_not_offered hupper hreturns'
    intro name' id row hkey' hrow
    have hsame : name' = name := hkey'.name_eq hfutureRight hfutureLeft hkey
    exact hnone (hcanRight.accepts name id row (hsame ▸ hrow))
  have hleave := hirrelevant keeping (plan'.prefer 0) afterLeft afterRight
    (load_of_returns hdays hreturns) (load_of_returns hdays hreturns') key
  rw [hprices, hkept, eq_comm, Option.map_eq_some_iff] at hleave
  obtain ⟨observation, hstored, -⟩ := hleave
  -- so the source of the name is stored, and its currency settled
  obtain ⟨sourceProduct, hsourceProduct⟩ := hreferential.sourceProduct key observation hstored
  obtain ⟨code, currency, hcode⟩ := hreferential.priceSource _ sourceProduct hsourceProduct
  obtain ⟨productId, sourceId, _, -, hsource, hsourceProduct'⟩ := hkey.sourceProduct
  have hlater := hfutureLeft.sourceProduct.get?_kept hsourceProduct
  rw [hsourceProduct', Option.some.injEq] at hlater
  subst hlater
  have hsameCode : code = name.priceSource :=
    afterLeft.priceSource.code_unique (hfutureLeft.priceSource.kept _ _ hcode) hsource
  obtain ⟨id, row, hrow, hcents⟩ := hleft
  rw [hsameCode, hrow.names.priceSource] at hcode
  obtain ⟨id', hrow'⟩ := hrow.of_stored hsame hcode
  exact hnone ⟨cents, id', row, hrow', hcents⟩

end Irrelevant

/-- On two orders of the same staged rows, the calls that return leave the same prices
exactly when the prices of each name agree. -/
theorem staging_order_irrelevant_iff (hupper : call.locale.UpperIdempotent)
    (hsame : SameRows left right) (hfresh : FreshCall call.supply tables)
    (hreferential : Referential tables) :
    OrderIrrelevant call tables left right ↔ PricesAgree call tables left right := by
  constructor
  · intro hirrelevant batchDays plan plan' hdays hcanLeft hcanRight name
    have hreversed : OrderIrrelevant call tables right left := by
      intro plan plan' afterRight afterLeft hright hleft key
      exact (hirrelevant plan' plan afterLeft afterRight hleft hright key).symm
    constructor
    · intro cents cents' hleft hright
      exact cents_eq_of_irrelevant hupper hfresh hdays hirrelevant hcanLeft hcanRight hleft hright
    · constructor
      · rintro ⟨cents, hgives⟩
        exact exists_gives_of_irrelevant hupper hfresh hdays hsame hreferential hirrelevant
          hcanLeft hcanRight hgives
      · rintro ⟨cents, hgives⟩
        exact exists_gives_of_irrelevant hupper hfresh hdays hsame.symm hreferential hreversed
          hcanRight hcanLeft hgives
  · exact samePrices_of_agree hupper

/-! ## Two price types of one card -/

/-- The source of the feed, and nothing in the other tables. -/
def sourceStored : MtgjsonTables where
  staging := .empty
  priceSource := ⟨.single "tcg" (codeId "tcg", "USD"), List.nodup_singleton _⟩
  cardFinished := ⟨.empty, List.nodup_nil⟩
  products := ⟨.empty, List.nodup_nil, .empty, List.nodup_nil⟩
  priceObservation := .empty

theorem sourceStored_fresh : FreshCall sampleSupply sourceStored where
  products := ⟨fun _ _ => rfl, fun _ _ => rfl⟩
  priceSource := by
    intro code hnone code' value hstored
    simp only [sourceStored, CodeTable.get?, Table.get?_single, Option.ite_none_right_eq_some,
      Option.some.injEq, Prod.mk.injEq, ite_eq_right_iff, reduceCtorEq, imp_false] at hnone hstored
    exact hnone (codeId_injective hstored.2.1.symm)
  cardFinished := fun _ _ _ _ hstored => nomatch hstored

theorem sourceStored_referential : Referential sourceStored where
  sourceProduct := fun _ _ hstored => nomatch hstored
  priceSource := fun _ _ hstored => nomatch hstored

/-- The 'retail' price of a card, and a 'market' price of the same card and day. -/
def retail : StagedPrice := stagedRetail "5f8287b1-5bb6-5f4c-ad17-316a40d5bb0c"

def market (units : Int) : StagedPrice :=
  { retail with priceType := some "market", priceValue := .decimal units 2 }

def retailFirst (units : Int) : Table Nat StagedPrice :=
  ⟨[(1, retail), (2, market units)], by simp⟩

def marketFirst (units : Int) : Table Nat StagedPrice :=
  ⟨[(2, market units), (1, retail)], by simp⟩

theorem sameRows_retail_market (units : Int) :
    SameRows (retailFirst units) (marketFirst units) :=
  List.Perm.swap _ _ _

/-- Rows of the stored source with one price agree. -/
theorem pricesAgree_of_one_price {units : Int} {left right : Table Nat StagedPrice}
    (hsame : SameRows left right)
    (hrows : ∀ staged ∈ left.values, staged.priceValue = .decimal units 2 ∧
      (normalize .posix staged).priceSource = "tcg") :
    PricesAgree sampleCall sourceStored left right := by
  have hcents {staging : Table Nat StagedPrice} (hstaging : SameRows left staging) {id : Nat}
      {row : StagedPrice} (hget : (normalizedStaging sampleCall
        { sourceStored with staging }).get? id = some row) :
      row.priceValue = .decimal units 2 ∧ row.priceSource = "tcg" := by
    rw [normalizedStaging, Table.get?_mapValues, Option.map_eq_some_iff] at hget
    obtain ⟨staged, hget, rfl⟩ := hget
    obtain ⟨hvalue, hsource⟩ :=
      hrows staged (hstaging.mem_iff.mpr (Table.mem_values_iff.mpr ⟨id, hget⟩))
    exact ⟨(normalize_fields _ staged).2.2.1.trans hvalue, hsource⟩
  have hstored : sourceStored.priceSource.get? "tcg" = some (codeId "tcg", "USD") := rfl
  intro batchDays plan plan' _ _ _ name
  constructor
  · rintro cents cents' ⟨id, row, hrow, hprice⟩ ⟨id', row', hrow', hprice'⟩
    rw [(hcents (.refl _) hrow.staged).1] at hprice
    rw [(hcents hsame hrow'.staged).1, hprice, Option.some.injEq] at hprice'
    exact Int.ofNat_injective hprice'
  · constructor
    · rintro ⟨cents, id, row, hrow, hprice⟩
      rw [← (hcents (.refl _) hrow.staged).2] at hstored
      obtain ⟨id', hrow'⟩ := hrow.of_stored hsame hstored
      exact ⟨cents, id', row, hrow', hprice⟩
    · rintro ⟨cents, id, row, hrow, hprice⟩
      rw [← (hcents hsame hrow.staged).2] at hstored
      obtain ⟨id', hrow'⟩ := hrow.of_stored hsame.symm hstored
      exact ⟨cents, id', row, hrow', hprice⟩

theorem staging_order_irrelevant_equal_prices :
    OrderIrrelevant sampleCall sourceStored (retailFirst 250) (marketFirst 250) := by
  refine (staging_order_irrelevant_iff TextLocale.posix_upperIdempotent
    (sameRows_retail_market 250) sourceStored_fresh sourceStored_referential).mpr
    (@pricesAgree_of_one_price 250 _ _ (sameRows_retail_market 250) ?_)
  simp only [Table.values, retailFirst, List.map_cons, List.map_nil, List.mem_cons,
    List.not_mem_nil, or_false, forall_eq_or_imp, forall_eq]
  exact ⟨⟨rfl, by decide +kernel⟩, rfl, by decide +kernel⟩

/-- Where the 'retail' and the 'market' price of a card differ, the one that is staged first
is promoted. -/
theorem staging_order_matters :
    ¬ ∀ (call : LoadCall) (tables : MtgjsonTables) (left right : Table Nat StagedPrice),
      call.locale.UpperIdempotent → SameRows left right → FreshCall call.supply tables →
      Referential tables → OrderIrrelevant call tables left right := by
  intro hirrelevant
  have hleft : (loadPriceObservationFromMtgjsonStagingBatched sampleCall .inOrder
      { sourceStored with staging := retailFirst 300 }).2 = none := by
    decide +kernel
  have hright : (loadPriceObservationFromMtgjsonStagingBatched sampleCall .inOrder
      { sourceStored with staging := marketFirst 300 }).2 = none := by
    decide +kernel
  have hsame := hirrelevant sampleCall sourceStored (retailFirst 300) (marketFirst 300)
    TextLocale.posix_upperIdempotent (sameRows_retail_market 300) sourceStored_fresh
    sourceStored_referential .inOrder .inOrder _ _ (Prod.ext rfl hleft) (Prod.ext rfl hright)
    ⟨20000, sampleSupply.sourceProductId ⟨107, codeId "tcg"⟩, 1, codeId "NONFOIL", 1, 1, 2⟩
  revert hsame
  decide +kernel

end AutoMana.Mtgjson
