import AutoMana.Sealed.Services

/-!
# Cleaning up the sealed staging table

The clean-up truncates what the promotion has left staged. A window that raises is
rolled back with a warning, and the promotion still succeeds; the rows of the window are
then left staged and truncated, resolvable or not.
-/

namespace AutoMana.Sealed

open Relational Pricing
open Mtgjson (LoadError get_priceColumn priceColumn promotedPrices)

variable {call : LoadCall} {plan : Plan} {v_data_provider_id : Nat} {window : Window}
  {tables next final : SealedTables}

/-- `promote_sealed_staging`, then `cleanup_sealed_staging`. -/
def promoteThenCleanup (call : LoadCall) (plan : Plan) (tables : SealedTables) : SealedTables :=
  let promoted := loadPriceObservationFromMtgjsonSealedStaging call plan tables
  if promoted.2.isNone then truncateSealedStaging promoted.1 else promoted.1

/-- The price of the row is stored under the key it resolves to. -/
def HoldsPrice (v_data_provider_id : Nat) (tables : SealedTables) (row : StagedSealed) : Prop :=
  ∃ price, ResolvesTo v_data_provider_id tables row price ∧ ∃ observation, ∃ cents : Nat,
    tables.priceObservation.get? price.key = some observation ∧
      row.priceValue.cents? = some (cents : Int) ∧
      observation.prices.get (priceColumn price.latest.transactionTypeId) = some cents

/-- A row that is gone in the end was in a window that has stored its price, or it does
not resolve in the tables of the end. -/
def DeletedForReason (final tables : SealedTables) : Action → Prop
  | .promote call plan window => ∀ v_data_provider_id,
    providerId? tables = some v_data_provider_id → ∀ id row,
    tables.staging.table.get? id = some row → window.Contains row.priceDate →
    final.staging.table.get? id = none →
    (∃ next, promoteWindow call plan v_data_provider_id window tables = some next ∧
      HoldsPrice v_data_provider_id next row) ∨ latestKey? final row = none
  | _ => True

/-- Rows staged for one key carry one price. -/
def KeysAgree (window : Window) (tables : SealedTables) : Prop :=
  ∀ id row other tied, tables.staging.table.get? id = some row →
    tables.staging.table.get? other = some tied → window.Contains row.priceDate →
    tied.priceDate = row.priceDate → SamePrice tables tied row →
    (transactionTypeId? row).isSome → (tables.sealedProducts.get? row.sealedUuid).isSome →
    tied.priceValue.cents? = row.priceValue.cents?

/-- A window that commits has a staged row of the code. -/
def RegistersCode (code : String) (tables : SealedTables) : Action → Prop
  | .promote call plan window => ∃ v_data_provider_id next,
    providerId? tables = some v_data_provider_id ∧
    promoteWindow call plan v_data_provider_id window tables = some next ∧
    ∃ id row, tables.staging.table.get? id = some row ∧ window.Contains row.priceDate ∧
      row.priceSource = code
  | _ => False

/-- The code is stored, or a window of the promotion that commits has a row of it. -/
def CodeKnown (call : LoadCall) (plan : Plan) (tables : SealedTables) (code : String) : Prop :=
  (tables.priceSource.get? code).isSome ∨
    Run.SomeStepMeets step (RegistersCode code) tables (promotionActions call plan tables)

/-- A window that commits has one price for each key, and one that raises has no row of a
known type, product, and source. -/
def LosesNothing (codeKnown : String → Prop) (tables : SealedTables) : Action → Prop
  | .promote call plan window => ∀ v_data_provider_id,
    providerId? tables = some v_data_provider_id →
    (∀ next, promoteWindow call plan v_data_provider_id window tables = some next →
      KeysAgree window tables) ∧
    (promoteWindow call plan v_data_provider_id window tables = none → ∀ id row,
      tables.staging.table.get? id = some row → window.Contains row.priceDate →
      (transactionTypeId? row).isSome → (tables.sealedProducts.get? row.sealedUuid).isSome →
      ¬ codeKnown row.priceSource)
  | _ => True

/-! ## The codes of a run -/

theorem registersCode_iff (hprovider : providerId? tables = some v_data_provider_id)
    (hpromote : promoteWindow call plan v_data_provider_id window tables = some next)
    (code : String) :
    RegistersCode code tables (.promote call plan window) ↔
      ∃ row ∈ (stagedIn window tables.staging).map Prod.snd, row.priceSource = code := by
  constructor
  · intro hregisters
    obtain ⟨_, _, -, -, id, row, hget, hday, hcode⟩ := hregisters
    exact ⟨row, mem_stagedRows hget hday, hcode⟩
  · intro hrow
    obtain ⟨row, hmem, hcode⟩ := hrow
    obtain ⟨⟨id, _⟩, hstaged, rfl⟩ := List.mem_map.mp hmem
    obtain ⟨hget, hday⟩ := mem_stagedIn.mp hstaged
    exact ⟨v_data_provider_id, next, hprovider, hpromote, id, _, hget, hday, hcode⟩

/-- A step stores the codes of the rows it promotes, and drops none. -/
theorem isSome_step_iff (code : String) (tables : SealedTables) (action : Action) :
    ((step tables action).priceSource.get? code).isSome ↔
      (tables.priceSource.get? code).isSome ∨ RegistersCode code tables action := by
  cases action with
  | promote call plan window =>
    rw [step]
    cases hprovider : providerId? tables with
    | none => simp [RegistersCode, hprovider]
    | some v_data_provider_id =>
      rw [Option.elim_some, promoteOrWarn]
      cases hpromote : promoteWindow call plan v_data_provider_id window tables with
      | none => simp [RegistersCode, hprovider, hpromote]
      | some next =>
        rw [Option.getD_some, registersCode_iff hprovider hpromote]
        exact isSome_registered_iff (promoted_of_promoteWindow hpromote).sources
  | _ => exact (or_iff_left id).symm

theorem isSome_run_iff (code : String) (tables : SealedTables) (run : List Action) :
    ((run.foldl step tables).priceSource.get? code).isSome ↔
      (tables.priceSource.get? code).isSome ∨
        Run.SomeStepMeets step (RegistersCode code) tables run :=
  Run.foldl_iff_someStepMeets (P := fun tables => (tables.priceSource.get? code).isSome = true)
    (isSome_step_iff code) tables run

theorem sealedProducts_promote :
    (step tables (.promote call plan window)).sealedProducts = tables.sealedProducts := by
  rw [step]
  cases providerId? tables with
  | none => rfl
  | some v_data_provider_id =>
    rw [Option.elim_some, promoteOrWarn]
    cases hpromote : promoteWindow call plan v_data_provider_id window tables with
    | none => rfl
    | some next => exact (promoted_of_promoteWindow hpromote).sealedProducts

/-! ## One window -/

/-- A window that commits stores the price of each of its rows that join exactly when it
has one price for each key. -/
theorem holdsPrice_iff (hpromoted : Promoted call plan v_data_provider_id window tables next) :
    (∀ id row, tables.staging.table.get? id = some row → window.Contains row.priceDate →
      (latestKey? next row).isSome → HoldsPrice v_data_provider_id next row) ↔
      KeysAgree window tables := by
  constructor
  · intro hholds id row other tied hget hother hday hdate hsame htype hproduct
    have hjoins := (isSome_latestKey?_of_staged hpromoted hget hday).mpr ⟨htype, hproduct⟩
    have hlatest := latestKey?_eq_of_samePrice hpromoted hsame
    obtain ⟨price, hresolves, observation, cents, hobservation, hcents, hprice⟩ :=
      hholds id row hget hday hjoins
    obtain ⟨price', hresolves', observation', cents', hobservation', hcents', hprice'⟩ :=
      hholds other tied hother (hdate ▸ hday) (hlatest ▸ hjoins)
    have hsameLatest : price'.latest = price.latest := by
      have hboth := hresolves'.latest
      rw [hlatest, hresolves.latest] at hboth
      exact (Option.some.inj hboth).symm
    -- both rows stand under one key
    have hkey : price'.key = price.key := by
      obtain ⟨sourceProductId, hstored, hkey⟩ := hresolves.key
      obtain ⟨sourceProductId', hstored', hkey'⟩ := hresolves'.key
      rw [hsameLatest] at hstored' hkey'
      rw [hkey, hkey', hdate, sourceProductId_unique hstored' hstored]
    rw [hkey, hobservation, Option.some.injEq] at hobservation'
    rw [hsameLatest, ← hobservation', hprice, Option.some.injEq] at hprice'
    rw [hcents, hcents', hprice']
  · intro hagree id row hget hday hjoins
    obtain ⟨latest, hlatest⟩ := Option.isSome_iff_exists.mp hjoins
    obtain ⟨price, hmem, -, rfl, hresolves⟩ := hpromoted.exists_resolved hget hday hlatest
    obtain ⟨survivor, hsurvivor, hkey, cents, hcents, hwritten⟩ :=
      hpromoted.observation_written hmem
    obtain ⟨observation, hobservation, hprices⟩ := Option.map_eq_some_iff.mp hwritten
    -- the survivor of the key is staged for it too
    obtain ⟨other, hother, -, hresolves'⟩ := mem_resolvedRows.mp hsurvivor
    have hsameLatest := hresolves'.latest_eq hresolves hkey
    have hdate : other.priceDate = row.priceDate := by
      rw [← hresolves'.tsDate, ← hresolves.tsDate, hkey]
    have hsame := samePrice_of_latest hpromoted (hsameLatest ▸ hresolves'.latest) hresolves.latest
    obtain ⟨htype, hproduct⟩ := (isSome_latestKey?_of_staged hpromoted hget hday).mp hjoins
    have hcentsEq := hagree id row survivor.id other hget hother hday hdate hsame htype hproduct
    refine ⟨price, hresolves, observation, cents, hobservation, ?_, ?_⟩
    · rw [← hcentsEq, ← hresolves'.priceCents, hcents]
    · rw [hprices, hsameLatest]
      exact get_priceColumn (transactionTypeId_cases hresolves.latest) _ cents

/-- A row of a window that commits joins in the end when it does after the window. -/
theorem isSome_latestKey?_final
    (hpromoted : Promoted call plan v_data_provider_id window tables next)
    (hproducts : final.sealedProducts = tables.sealedProducts)
    (hlater : ∀ code, (next.priceSource.get? code).isSome → (final.priceSource.get? code).isSome)
    {id : Nat} {row : StagedSealed} (hget : tables.staging.table.get? id = some row)
    (hday : window.Contains row.priceDate) :
    (latestKey? final row).isSome ↔ (latestKey? next row).isSome := by
  have hsource := hlater row.priceSource (isSome_source_of_register hpromoted.sources
    (mem_stagedRows hget hday))
  rw [isSome_latestKey?_of_staged hpromoted hget hday, isSome_latestKey?_iff, hproducts]
  exact and_congr_right fun _ => and_iff_left hsource

theorem deletedForReason_iff {codeKnown : String → Prop}
    (hempty : ∀ id, final.staging.table.get? id = none)
    (hproducts : final.sealedProducts = tables.sealedProducts)
    (hknown : ∀ code, codeKnown code ↔ (final.priceSource.get? code).isSome)
    (hlater : ∀ code, ((step tables (.promote call plan window)).priceSource.get? code).isSome →
      (final.priceSource.get? code).isSome) :
    DeletedForReason final tables (.promote call plan window) ↔
      LosesNothing codeKnown tables (.promote call plan window) := by
  apply forall₂_congr
  intro v_data_provider_id hprovider
  rw [step, hprovider, Option.elim_some, promoteOrWarn] at hlater
  cases hpromote : promoteWindow call plan v_data_provider_id window tables with
  | none =>
    -- the rows of the window are truncated as they are
    simp only [hempty, reduceCtorEq, false_and, exists_false, false_or, forall_const,
      IsEmpty.forall_iff, implies_true, true_and, hknown]
    apply forall₄_congr
    intro id row hget hday
    rw [← Option.not_isSome_iff_eq_none, isSome_latestKey?_iff, hproducts]
    simp only [not_and]
  | some next =>
    have hpromoted := promoted_of_promoteWindow hpromote
    rw [hpromote, Option.getD_some] at hlater
    simp only [hempty, Option.some.injEq, exists_eq_left', forall_const, forall_eq', reduceCtorEq,
      IsEmpty.forall_iff, and_true]
    rw [← holdsPrice_iff hpromoted]
    apply forall₄_congr
    intro id row hget hday
    rw [← Option.not_isSome_iff_eq_none,
      isSome_latestKey?_final hpromoted hproducts hlater hget hday, or_comm, imp_iff_not_or]

/-! ## The promotion and the clean-up -/

theorem deletedForReason_run_iff {codeKnown : String → Prop} (windows : List Window)
    (hempty : ∀ id, final.staging.table.get? id = none)
    (hproducts : final.sealedProducts = tables.sealedProducts)
    (hknown : ∀ code, codeKnown code ↔ (final.priceSource.get? code).isSome)
    (hlater : ∀ code, (((windows.map (.promote call plan)).foldl step tables).priceSource.get?
      code).isSome → (final.priceSource.get? code).isSome) :
    Run.StepsMeet step (DeletedForReason final) tables (windows.map (.promote call plan)) ↔
      Run.StepsMeet step (LosesNothing codeKnown) tables (windows.map (.promote call plan)) := by
  induction windows generalizing tables with
  | nil => exact Iff.rfl
  | cons window rest ih =>
    rw [List.map_cons, Run.StepsMeet, Run.StepsMeet]
    apply and_congr
    · apply deletedForReason_iff hempty hproducts hknown
      intro code hstored
      exact hlater code ((isSome_run_iff code (step tables (.promote call plan window))
        (rest.map (.promote call plan))).mpr (Or.inl hstored))
    · apply ih
      · rw [sealedProducts_promote, hproducts]
      · exact hlater

theorem sealedProducts_foldl_promote (windows : List Window) :
    ((windows.map (.promote call plan)).foldl step tables).sealedProducts =
      tables.sealedProducts := by
  induction windows generalizing tables with
  | nil => rfl
  | cons window rest ih => rw [List.map_cons, List.foldl_cons, ih, sealedProducts_promote]

/-- A row is deleted for a reason exactly when every window that commits has one price for
each key and every window that raises has no row of a known type, product, and source. -/
theorem cleanup_deletes_for_reason_iff (call : LoadCall) (plan : Plan) (tables : SealedTables) :
    Run.StepsMeet step (DeletedForReason (promoteThenCleanup call plan tables)) tables
        (promotionActions call plan tables) ↔
      Run.StepsMeet step (LosesNothing (CodeKnown call plan tables)) tables
        (promotionActions call plan tables) := by
  have hcodes (code : String) : CodeKnown call plan tables code ↔
      (((promotionActions call plan tables).foldl step tables).priceSource.get? code).isSome :=
    (isSome_run_iff code tables _).symm
  rcases promotionActions_cases call plan tables with hnone | hnormalize | ⟨windows, hwindows, hok⟩
  · rw [hnone]
    exact Iff.rfl
  · rw [hnormalize]
    exact Iff.rfl
  · have hfinal : promoteThenCleanup call plan tables =
        truncateSealedStaging ((promotionActions call plan tables).foldl step tables) := by
      rw [foldl_promotionActions, promoteThenCleanup, hok, Option.isNone_none, if_pos rfl]
    rw [hwindows, List.foldl_cons] at hcodes hfinal
    rw [hwindows, hfinal, Run.StepsMeet, Run.StepsMeet]
    apply and_congr Iff.rfl
    apply deletedForReason_run_iff
    · intro id
      rw [truncateSealedStaging, SerialTable.deleteWhere, Table.get?_deleteWhere]
      exact Option.filter_eq_none_iff.mpr fun _ _ => Bool.false_ne_true
    · exact sealedProducts_foldl_promote windows
    · exact hcodes
    · exact fun code hstored => hstored

/-! ## A window that raises -/

/-- A statement of every window raises. -/
def Plan.raising : Plan :=
  { Plan.inOrder with raises := fun _ => true }

/-- The row of a known product and source is rolled back with its window, and truncated. -/
theorem failed_batch_is_truncated :
    ¬ Run.StepsMeet step
      (DeletedForReason (promoteThenCleanup sampleCall .raising
        (sampleTables [stagedSell "EUR" 12000 20000])))
      (sampleTables [stagedSell "EUR" 12000 20000])
      (promotionActions sampleCall .raising (sampleTables [stagedSell "EUR" 12000 20000])) := by
  have hwindows : stagingWindows ⟨30, by decide⟩ (normalizeStaging sampleCall.locale
      (sampleTables [stagedSell "EUR" 12000 20000])).staging = [⟨20000, 20029, by decide⟩] := by
    decide +kernel
  rw [@promotionActions_of_windows sampleCall (sampleTables [stagedSell "EUR" 12000 20000])
    ⟨30, by decide⟩ _ rfl rfl hwindows]
  intro hmeet
  have hwindow := hmeet.2.1 2 rfl 1 _ rfl (by decide +kernel) (by decide +kernel)
  rcases hwindow with ⟨next, hnext, -⟩ | hunresolved
  · exact absurd hnext (by simp [promoteWindow, Plan.raising])
  · revert hunresolved
    decide +kernel

end AutoMana.Sealed
