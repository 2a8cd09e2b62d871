import AutoMana.Mtgjson.Drain
import AutoMana.Relational.Runs
import AutoMana.Sealed.Windows

/-!
# The sealed services

Prices are copied into the staging table, promoted, and what is left is truncated. A
promotion is a service that runs outside of a transaction, so every window that commits
is a state of its own, and a run of services is a run of such actions.
-/

namespace AutoMana.Sealed

open Relational Pricing
variable {call : LoadCall} {plan : Plan} {tables : SealedTables}

/-- `copy_sealed_staging_batch` -/
def copySealedStagingBatch (records : List StagedSealed) (tables : SealedTables) : SealedTables :=
  { tables with staging := tables.staging.insert records }

/-- `truncate_sealed_staging`, which keeps the sequence of the ids. -/
def truncateSealedStaging (tables : SealedTables) : SealedTables :=
  { tables with staging := tables.staging.deleteWhere fun _ _ => true }

/-- What changes the tables at once. -/
inductive Action where
  | copy (records : List StagedSealed)
  | catalogue (sealedProducts : Table String ProductId)
  | normalize (call : LoadCall)
  | promote (call : LoadCall) (plan : Plan) (window : Window)
  | truncate

def step (tables : SealedTables) : Action → SealedTables
  | .copy records => copySealedStagingBatch records tables
  | .catalogue sealedProducts => { tables with sealedProducts }
  | .normalize call => normalizeStaging call.locale tables
  | .promote call plan window =>
    (providerId? tables).elim tables fun v_data_provider_id =>
      promoteOrWarn call plan v_data_provider_id tables window
  | .truncate => truncateSealedStaging tables

/-- A service call; the catalogue of sealed products is written by others. -/
inductive Service where
  | copySealedStagingBatch (records : List StagedSealed)
  | writeCatalogue (sealedProducts : Table String ProductId)
  | promoteSealedStaging (call : LoadCall) (plan : Plan)
  | cleanupSealedStaging

/-- The actions of a promotion. -/
def promotionActions (call : LoadCall) (plan : Plan) (tables : SealedTables) : List Action :=
  match call.batchDays with
  | none => []
  | some batchDays =>
    if hdays : 0 < batchDays then
      let normalized := normalizeStaging call.locale tables
      .normalize call ::
        if (providerId? normalized).isNone then []
        else (stagingWindows ⟨batchDays.toNat, toNat_pos hdays⟩
          normalized.staging).map (.promote call plan)
    else []

theorem reference_promoteOrWarn (v_data_provider_id : Nat) (window : Window) :
    (promoteOrWarn call plan v_data_provider_id tables window).reference = tables.reference := by
  unfold promoteOrWarn
  cases hpromote : promoteWindow call plan v_data_provider_id window tables with
  | none => rfl
  | some next => exact (promoted_of_promoteWindow hpromote).reference

theorem foldl_promote {v_data_provider_id : Nat}
    (hprovider : providerId? tables = some v_data_provider_id) (windows : List Window) :
    (windows.map (.promote call plan)).foldl step tables =
      windows.foldl (promoteOrWarn call plan v_data_provider_id) tables := by
  induction windows generalizing tables with
  | nil => rfl
  | cons window rest ih =>
    have hstep : step tables (.promote call plan window) =
        promoteOrWarn call plan v_data_provider_id tables window := by
      rw [step, hprovider, Option.elim_some]
    rw [List.map_cons, List.foldl_cons, List.foldl_cons, hstep]
    apply ih
    rw [providerId?, reference_promoteOrWarn]
    exact hprovider

/-- The promotion of the staged rows is the run of its actions. -/
theorem foldl_promotionActions (call : LoadCall) (plan : Plan) (tables : SealedTables) :
    (promotionActions call plan tables).foldl step tables =
      (loadPriceObservationFromMtgjsonSealedStaging call plan tables).1 := by
  unfold promotionActions loadPriceObservationFromMtgjsonSealedStaging
  cases call.batchDays with
  | none => rfl
  | some batchDays =>
    by_cases hdays : 0 < batchDays
    · dsimp only
      rw [dif_pos hdays, dif_pos hdays, List.foldl_cons]
      cases hprovider : providerId? (normalizeStaging call.locale tables) with
      | none => rfl
      | some v_data_provider_id =>
        rw [Option.isNone_some, if_neg Bool.false_ne_true]
        exact foldl_promote hprovider _
    · dsimp only
      rw [dif_neg hdays, dif_neg hdays]
      rfl

/-- A promotion raises before it promotes a window, or not at all. -/
theorem promotionActions_cases (call : LoadCall) (plan : Plan) (tables : SealedTables) :
    promotionActions call plan tables = [] ∨ promotionActions call plan tables = [.normalize call] ∨
      ∃ windows : List Window,
        promotionActions call plan tables =
          .normalize call :: windows.map (.promote call plan) ∧
        (loadPriceObservationFromMtgjsonSealedStaging call plan tables).2 = none := by
  unfold promotionActions loadPriceObservationFromMtgjsonSealedStaging
  cases call.batchDays with
  | none => exact Or.inl rfl
  | some batchDays =>
    by_cases hdays : 0 < batchDays
    · dsimp only
      rw [dif_pos hdays, dif_pos hdays]
      cases providerId? (normalizeStaging call.locale tables) with
      | none => exact Or.inr (Or.inl rfl)
      | some v_data_provider_id => exact Or.inr (Or.inr ⟨_, rfl, rfl⟩)
    · dsimp only
      rw [dif_neg hdays]
      exact Or.inl rfl

theorem promotionActions_of_windows {batchDays : ℕ+} {windows : List Window}
    (hdays : call.batchDays = some (batchDays : Int)) (hprovider : (providerId? tables).isSome)
    (hwindows : stagingWindows batchDays (normalizeStaging call.locale tables).staging = windows)
    (plan : Plan) :
    promotionActions call plan tables = .normalize call :: windows.map (.promote call plan) := by
  have hpos : (0 : Int) < batchDays := Int.natCast_pos.mpr batchDays.pos
  have hnone : (providerId? (normalizeStaging call.locale tables)).isNone = false :=
    Option.isNone_eq_false_iff.mpr hprovider
  unfold promotionActions
  rw [hdays]
  dsimp only
  rw [dif_pos hpos, hnone, if_neg Bool.false_ne_true, ← hwindows]
  rfl

def Service.actions (tables : SealedTables) : Service → List Action
  | .copySealedStagingBatch records => [.copy records]
  | .writeCatalogue sealedProducts => [.catalogue sealedProducts]
  | .promoteSealedStaging call plan => promotionActions call plan tables
  | .cleanupSealedStaging => [.truncate]

/-- The tables a service leaves. -/
def Service.run (tables : SealedTables) : Service → SealedTables
  | .copySealedStagingBatch records => Sealed.copySealedStagingBatch records tables
  | .writeCatalogue sealedProducts => { tables with sealedProducts }
  | .promoteSealedStaging call plan =>
    (loadPriceObservationFromMtgjsonSealedStaging call plan tables).1
  | .cleanupSealedStaging => truncateSealedStaging tables

/-- The states of a run of services are those its actions reach. -/
theorem run_services (tables : SealedTables) (services : List Service) :
    (Run.plan step Service.actions tables services).foldl step tables =
      services.foldl Service.run tables := by
  rw [Run.foldl_plan]
  congr 1
  funext state service
  cases service with
  | promoteSealedStaging call plan => exact foldl_promotionActions call plan state
  | _ => rfl

/-! ## A small database -/

theorem reverse_dedup_perm (selected : List (String × String)) :
    selected.reverse.dedup.reverse.Perm selected.dedup :=
  (List.reverse_perm _).trans (List.reverse_perm selected).dedup

/-- The plan that leaves the rows as they come. -/
def Plan.inOrder : Plan where
  sources := fun selected => selected.reverse.dedup.reverse
  sources_perm := reverse_dedup_perm
  upserted := fun rows => rows
  upserted_perm := fun rows => .refl rows
  snapshotInsert := fun rows => rows
  snapshotInsert_perm := fun rows => .refl rows
  raises := fun _ => false

def sampleCall : LoadCall where
  locale := .posix
  supply := Mtgjson.sampleSupply
  now := 0
  batchDays := some 30

/-- One sealed product, one source in euros, and these rows staged. -/
def sampleTables (records : List StagedSealed) : SealedTables where
  reference := {
    dataProvider := .single 2 "mtgjson"
    currencyRef := ["USD", "EUR"]
    finishId := 1
    conditionId := 1
    languageId := 1 }
  staging := SerialTable.empty.insert records
  priceSource := ⟨.single "cardmarket" (1, "EUR"), List.nodup_singleton _⟩
  products := ⟨.empty, List.nodup_nil, .empty, List.nodup_nil⟩
  sealedProducts := .single "collector-box" 7
  priceObservation := .empty
  sealedPriceLatest := .empty

/-- A staged sell price of the product. -/
def stagedSell (currency : String) (units : Int) (priceDate : Int) : StagedSealed where
  sealedUuid := "collector-box"
  priceSource := "cardmarket"
  priceType := some "retail"
  currency
  priceValue := .decimal units 2
  priceDate

end AutoMana.Sealed
