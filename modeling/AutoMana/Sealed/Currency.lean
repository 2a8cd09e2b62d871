import AutoMana.Sealed.Services

/-!
# The currency of a sealed price

The joins of the sealed promotion match a source by its code and never by its currency,
where those of the card promotion match both. A price keeps its currency when its code's
source happens to have it.
-/

namespace AutoMana.Sealed

open Relational Pricing

variable {call : LoadCall} {plan : Plan} {v_data_provider_id : Nat} {window : Window}
  {tables next : SealedTables}

/-- The source has this currency. -/
def HasCurrency (tables : SealedTables) (sourceId : SourceId) (currency : String) : Prop :=
  ∃ code, tables.priceSource.get? code = some (sourceId, currency)

/-- What a window writes stands under a source of the staged row's currency, and a row of
another currency than its source's stays staged. -/
structure KeepsCurrency (plan : Plan) (v_data_provider_id : Nat) (window : Window)
    (tables next : SealedTables) : Prop where
  observation : ∀ key price row,
    (upserted plan (resolvedRows v_data_provider_id window tables next)).get? key = some price →
    tables.staging.table.get? price.id = some row →
    HasCurrency next price.latest.sourceId row.currency
  latest : ∀ key price row,
    (snapshotInsert plan (resolvedRows v_data_provider_id window tables next)).get? key =
      some price →
    tables.staging.table.get? price.id = some row →
    HasCurrency next price.latest.sourceId row.currency
  kept : ∀ id row sourceId currency, tables.staging.table.get? id = some row →
    next.priceSource.get? row.priceSource = some (sourceId, currency) →
    currency ≠ row.currency → next.staging.table.get? id = some row

/-- The currency of the source of a code, once the window has registered its rows. -/
def sourceCurrency? (plan : Plan) (window : Window) (tables : SealedTables) (code : String) :
    Option String :=
  ((tables.priceSource.get? code).map Prod.snd).or
    (selectedCurrency plan ((stagedIn window tables.staging).map Prod.snd) code)

/-- Every staged row of the window that joins has the currency of its code's source. -/
def CurrenciesMatch (plan : Plan) (window : Window) (tables : SealedTables) : Prop :=
  ∀ id row, tables.staging.table.get? id = some row → window.Contains row.priceDate →
    (transactionTypeId? row).isSome → (tables.sealedProducts.get? row.sealedUuid).isSome →
    sourceCurrency? plan window tables row.priceSource = some row.currency

theorem sourceCurrency?_eq (hpromoted : Promoted call plan v_data_provider_id window tables next)
    (code : String) :
    sourceCurrency? plan window tables code = (next.priceSource.get? code).map Prod.snd := by
  rw [get?_of_registerSources hpromoted.sources, sourceCurrency?]
  cases tables.priceSource.get? code with
  | some source => rfl
  | none =>
    rw [Option.map_none, Option.none_or, Option.none_or, Option.map_map]
    exact Option.map_id'.symm

/-- A resolved row has the currency of the source it is written under. -/
theorem hasCurrency_of_resolved
    (hpromoted : Promoted call plan v_data_provider_id window tables next)
    (hmatch : CurrenciesMatch plan window tables) {price : ResolvedSealed} {row : StagedSealed}
    (hprice : price ∈ resolvedRows v_data_provider_id window tables next)
    (hget : tables.staging.table.get? price.id = some row) :
    HasCurrency next price.latest.sourceId row.currency := by
  obtain ⟨resolved, hresolved, hday, hresolves⟩ := mem_resolvedRows.mp hprice
  obtain rfl : resolved = row := Option.some.inj (hresolved.symm.trans hget)
  obtain ⟨htype, hproduct, currency, hsource⟩ := latestKey?_eq_some_iff.mp hresolves.latest
  have hcurrency := hmatch _ _ hget hday (Option.isSome_iff_exists.mpr ⟨_, htype⟩)
    (hpromoted.sealedProducts ▸ Option.isSome_iff_exists.mpr ⟨_, hproduct⟩)
  rw [sourceCurrency?_eq hpromoted, hsource] at hcurrency
  rw [← Option.some.inj hcurrency]
  exact ⟨_, hsource⟩

/-- A window that commits keeps the currencies exactly when its rows match. -/
theorem keepsCurrency_iff (hpromoted : Promoted call plan v_data_provider_id window tables next) :
    KeepsCurrency plan v_data_provider_id window tables next ↔
      CurrenciesMatch plan window tables := by
  constructor
  · intro hkeeps id row hget hday htype hproduct
    have hjoins := (isSome_latestKey?_of_staged hpromoted hget hday).mpr ⟨htype, hproduct⟩
    have hdeleted : next.staging.table.get? id ≠ some row :=
      fun hkept => ((hpromoted.staging id row).mp hkept).2 ⟨hday, hjoins⟩
    obtain ⟨⟨sourceId, currency⟩, hsource⟩ :=
      Option.isSome_iff_exists.mp (isSome_latestKey?_iff.mp hjoins).2.2
    rw [sourceCurrency?_eq hpromoted, hsource, Option.map_some, Option.some.injEq]
    by_contra hother
    exact hdeleted (hkeeps.kept id row sourceId currency hget hsource hother)
  · intro hmatch
    constructor
    case observation =>
      intro key price row hprice hget
      exact hasCurrency_of_resolved hpromoted hmatch (Promoted.mem_of_upserted hprice).1 hget
    case latest =>
      intro key price row hprice hget
      exact hasCurrency_of_resolved hpromoted hmatch (Promoted.mem_of_snapshotInsert hprice).1 hget
    case kept =>
      intro id row sourceId currency hget hsource hother
      apply (hpromoted.staging id row).mpr ⟨hget, _⟩
      intro hresolved
      obtain ⟨hday, hjoins⟩ := hresolved
      obtain ⟨htype, hproduct⟩ := (isSome_latestKey?_of_staged hpromoted hget hday).mp hjoins
      have hcurrency := hmatch id row hget hday htype hproduct
      rw [sourceCurrency?_eq hpromoted, hsource] at hcurrency
      exact hother (Option.some.inj hcurrency)

/-! ## The promotion -/

/-- Every window that commits keeps the currencies. -/
def StepKeepsCurrency (tables : SealedTables) : Action → Prop
  | .promote call plan window => ∀ v_data_provider_id next,
    providerId? tables = some v_data_provider_id →
    promoteWindow call plan v_data_provider_id window tables = some next →
      KeepsCurrency plan v_data_provider_id window tables next
  | _ => True

/-- The rows of every window that commits match their sources. -/
def StepCurrenciesMatch (tables : SealedTables) : Action → Prop
  | .promote call plan window => ∀ v_data_provider_id next,
    providerId? tables = some v_data_provider_id →
    promoteWindow call plan v_data_provider_id window tables = some next →
      CurrenciesMatch plan window tables
  | _ => True

theorem stepKeepsCurrency_iff (tables : SealedTables) (action : Action) :
    StepKeepsCurrency tables action ↔ StepCurrenciesMatch tables action := by
  cases action with
  | promote call plan window =>
    apply forall₂_congr
    intro v_data_provider_id next
    apply imp_congr_right
    intro _
    apply imp_congr_right
    intro hpromote
    exact keepsCurrency_iff (promoted_of_promoteWindow hpromote)
  | _ => exact Iff.rfl

/-- A promotion keeps the currencies exactly when in every window that commits the rows
that join have the currency of their code's source. -/
theorem promotion_keeps_currency_iff (call : LoadCall) (plan : Plan) (tables : SealedTables) :
    Run.StepsMeet step StepKeepsCurrency tables (promotionActions call plan tables) ↔
      Run.StepsMeet step StepCurrenciesMatch tables (promotionActions call plan tables) := by
  have hsteps : StepKeepsCurrency = StepCurrenciesMatch := by
    funext tables action
    exact propext (stepKeepsCurrency_iff tables action)
  rw [hsteps]

/-! ## A price in dollars under a source in euros -/

/-- The feed names no currency for the source, and the stream has put in `USD`. -/
def dollarPrice : SealedTables := sampleTables [stagedSell "USD" 12000 20000]

theorem dollar_price_becomes_euros :
    ¬ Run.StepsMeet step StepKeepsCurrency dollarPrice
      (promotionActions sampleCall .inOrder dollarPrice) := by
  have hwindows : stagingWindows ⟨30, by decide⟩
      (normalizeStaging sampleCall.locale dollarPrice).staging =
        [⟨20000, 20029, by decide⟩] := by
    decide +kernel
  rw [@promotionActions_of_windows sampleCall dollarPrice ⟨30, by decide⟩ _ rfl rfl hwindows]
  intro hmeet
  have hcommits : (promoteWindow sampleCall .inOrder 2 ⟨20000, 20029, by decide⟩
      (normalizeStaging sampleCall.locale dollarPrice)).isSome := by
    decide +kernel
  obtain ⟨next, hnext⟩ := Option.isSome_iff_exists.mp hcommits
  have hmatch := (stepKeepsCurrency_iff _ _).mp hmeet.2.1 2 next rfl hnext
  have hcurrency := hmatch 1 _ rfl (by decide +kernel) (by decide +kernel) (by decide +kernel)
  exact absurd hcurrency (by decide +kernel)

end AutoMana.Sealed
