import AutoMana.Staging.ExactlyOnce

/-!
# Market cycles

The incremental load runs one cycle per market: `bulk_load` empties the raw table
and copies the prices of the market into it, and `from_raw_to_staging` loads them.
A date batch that raises is rolled back with a warning, and the service still
succeeds; its raw rows are then still there, until the next `bulk_load` empties the
table.
-/

namespace AutoMana.Staging

open Relational Pricing

/-! ## The two services -/

/-- The raw table, and what the loader reads and writes. -/
structure MarketTables where
  rawMtgStockPrice : List RawPrice
  load : LoadTables

/-- The arguments of `bulk_load`, the folders under its root, and the price rows
read from a folder, if it can be read. -/
structure BulkLoad where
  listdir : List String
  processFolder : String → Option (List RawPrice)
  batchSize : ℕ+
  startId : Option Nat
  endId : Option Nat
  idsFilter : Option (List Nat)

/-- `int(f)`, where `f.isdigit()`. -/
def folderId? (folder : String) : Option Nat :=
  if folder ≠ "" ∧ folder.toList.all Char.isDigit then
    some (folder.toList.foldl (fun total digit => 10 * total + (digit.toNat - '0'.toNat)) 0)
  else none

/-- The folders a bulk load reads. -/
def BulkLoad.folders (job : BulkLoad) : List String :=
  let inRange :=
    if job.startId.isSome || job.endId.isSome then
      job.listdir.filter fun folder => (folderId? folder).any fun id =>
        job.startId.all (· ≤ id) && job.endId.all (id ≤ ·)
    else job.listdir
  match job.idsFilter with
  | none => inRange
  | some ids => inRange.filter fun folder => (folderId? folder).any (· ∈ ids)

/-- The rows copied for each chunk of folders; a folder that cannot be read is
counted and left out. -/
def BulkLoad.chunks (job : BulkLoad) : List (List RawPrice) :=
  (job.folders.toChunks job.batchSize).map fun chunk =>
    (chunk.filterMap job.processFolder).flatten

def clearRawPrices (tables : MarketTables) : MarketTables :=
  { tables with rawMtgStockPrice := [] }

def copyPrices (tables : MarketTables) (rows : List RawPrice) : MarketTables :=
  { tables with rawMtgStockPrice := tables.rawMtgStockPrice ++ rows }

def bulkLoad (job : BulkLoad) (tables : MarketTables) : MarketTables :=
  job.chunks.foldl copyPrices (clearRawPrices tables)

/-- The arguments of `from_raw_to_staging`, the reference tables its call finds, and
what the call does not decide itself. -/
structure RawToStaging where
  sourceName : String
  sources : SourceTables
  locale : TextLocale
  supply : IdSupply
  now : Timestamp
  scan : ∀ catalogue raws, ScanOrder catalogue raws
  failed : Window → Bool

/-- The call after its pre-flight. -/
def RawToStaging.call? (job : RawToStaging) : Except String LoadCall := do
  let (v_source_id, v_data_provider_id, dims) ←
    loadPreflight job.locale job.sources job.sourceName
  return {
    locale := job.locale
    supply := job.supply
    sourceId := v_source_id
    dataProviderId := v_data_provider_id
    now := job.now
    dims
    batchDays := ⟨30, by decide⟩
    scan := job.scan
    failed := job.failed }

/-- An empty raw table is found before the pre-flight. -/
def fromRawToStaging (job : RawToStaging) (tables : MarketTables) :
    Except String MarketTables :=
  if tables.rawMtgStockPrice.isEmpty then pure tables
  else do
    let call ← job.call?
    return { tables with
      load := loadStagingPricesBatched call tables.rawMtgStockPrice tables.load }

/-- A service call of the load. -/
inductive MarketCall where
  | bulkLoad (job : BulkLoad)
  | fromRawToStaging (job : RawToStaging)

def runCall (tables : MarketTables) : MarketCall → Except String MarketTables
  | .bulkLoad job => pure (bulkLoad job tables)
  | .fromRawToStaging job => fromRawToStaging job tables

/-! ## What a batch that commits has done with its rows -/

/-- The batch of a window commits. -/
def windowCommits (call : LoadCall) (raw : List RawPrice) (window : Window)
    (tables : LoadTables) : Bool :=
  let raws := raw.filter fun row => window.Contains row.tsDate
  match stageBatch call.toLoadContext tables.catalogue tables.products raws (call.scan _ _) with
  | none => false
  | some loaded => !call.failed window && !promotionRaises call.locale call.dims window
      (tables.staging.stgPriceObservation.insert loaded.staged)

/-- The staged prices the promotion of a window considers. -/
def consideredBy (call : LoadCall) (raw : List RawPrice) (window : Window)
    (tables : LoadTables) : List StagedPrice :=
  let raws := raw.filter fun row => window.Contains row.tsDate
  match stageBatch call.toLoadContext tables.catalogue tables.products raws (call.scan _ _) with
  | none => []
  | some loaded =>
    if windowCommits call raw window tables then
      promotedBy window (tables.staging.stgPriceObservation.insert loaded.staged)
    else []

/-- The raw row has a non-null price. -/
def hasPrice (raw : RawPrice) : Bool :=
  raw.priceLow.isSome || raw.priceAvg.isSome || raw.priceFoil.isSome ||
    raw.priceMarket.isSome || raw.priceMarketFoil.isSome

/-- The foil split leaves out no raw row with a price. -/
theorem foilSplit_eq_nil_iff (dataProviderId : Nat) (raw : RawPrice) :
    foilSplit dataProviderId raw = [] ↔ hasPrice raw = false := by
  cases hlow : raw.priceLow <;> cases havg : raw.priceAvg <;> cases hfoil : raw.priceFoil <;>
    cases hmarket : raw.priceMarket <;> cases hmarketFoil : raw.priceMarketFoil <;>
    simp [foilSplit, splitPrice, hasPrice, hlow, havg, hfoil, hmarket, hmarketFoil]

/-- The price was rejected, or it was staged and is pending or was considered by a
promotion. -/
def IsAccounted (tables : LoadTables) (considered : List StagedPrice) (split : SplitPrice) :
    Prop :=
  (∃ reject ∈ tables.rejects.values, reject.toSplitPrice = split) ∨
    ∃ card product, stagedOf split card product ∈
      tables.staging.stgPriceObservation.values ++ considered

/-- Every price of the raw row is accounted for. -/
def Handled (tables : LoadTables) (considered : List StagedPrice) (raw : RawPrice) : Prop :=
  ∃ dataProviderId, ∀ split ∈ foilSplit dataProviderId raw, IsAccounted tables considered split

variable {call : LoadCall} {raw : List RawPrice} {window : Window} {tables : LoadTables}

/-- A window rolls back, or it commits everything its batch has staged and rejected,
and promotes what it staged. -/
theorem loadWindow_cases (call : LoadCall) (raw : List RawPrice) (window : Window)
    (tables : LoadTables) :
    (windowCommits call raw window tables = false ∧ loadWindow call raw window tables = tables ∧
      consideredBy call raw window tables = []) ∨
    ∃ loaded, windowCommits call raw window tables = true ∧
      stageBatch call.toLoadContext tables.catalogue tables.products
        (raw.filter fun row => window.Contains row.tsDate) (call.scan _ _) = some loaded ∧
      (loadWindow call raw window tables).rejects = tables.rejects.insert loaded.rejected ∧
      (loadWindow call raw window tables).staging = promote call.locale call.dims window
        { tables.staging with
          stgPriceObservation := tables.staging.stgPriceObservation.insert loaded.staged } ∧
      consideredBy call raw window tables =
        promotedBy window (tables.staging.stgPriceObservation.insert loaded.staged) := by
  cases hloaded : stageBatch call.toLoadContext tables.catalogue tables.products
      (raw.filter fun row => window.Contains row.tsDate) (call.scan _ _) with
  | none =>
      have hcommit : windowCommits call raw window tables = false := by
        simp only [windowCommits, hloaded]
      refine Or.inl ⟨hcommit, ?_, ?_⟩
      · simp only [loadWindow, hloaded]
      · simp only [consideredBy, hloaded]
  | some loaded =>
      have hcommits : windowCommits call raw window tables =
          !(call.failed window || promotionRaises call.locale call.dims window
            (tables.staging.stgPriceObservation.insert loaded.staged)) := by
        simp only [windowCommits, hloaded, Bool.not_or]
      cases hraises : call.failed window || promotionRaises call.locale call.dims window
          (tables.staging.stgPriceObservation.insert loaded.staged) with
      | true =>
          rw [hraises] at hcommits
          refine Or.inl ⟨hcommits, ?_, ?_⟩
          · simp only [loadWindow, hloaded, hraises, if_true]
          · simp only [consideredBy, hloaded, hcommits]
            rfl
      | false =>
          rw [hraises] at hcommits
          refine Or.inr ⟨loaded, hcommits, rfl, ?_, ?_, ?_⟩
          · simp only [loadWindow, hloaded, hraises, Bool.false_eq_true, if_false]
          · simp only [loadWindow, hloaded, hraises, Bool.false_eq_true, if_false]
          · simp only [consideredBy, hloaded, hcommits]
            rfl

/-- A staged row that is there when the batch commits is still pending, or it was considered. -/
theorem pending_or_considered {loaded : LoadedBatch}
    (hstaging : (loadWindow call raw window tables).staging = promote call.locale call.dims window
      { tables.staging with
        stgPriceObservation := tables.staging.stgPriceObservation.insert loaded.staged })
    (hconsidered : consideredBy call raw window tables =
      promotedBy window (tables.staging.stgPriceObservation.insert loaded.staged))
    {staged : StagedPrice}
    (hstaged : staged ∈ tables.staging.stgPriceObservation.values ++ loaded.staged)
    (considered : List StagedPrice) :
    staged ∈ (loadWindow call raw window tables).staging.stgPriceObservation.values ++
      (considered ++ consideredBy call raw window tables) := by
  rw [← SerialTable.values_insert] at hstaged
  have hsplit := values_perm_promote call.locale call.dims window
    { tables.staging with
      stgPriceObservation := tables.staging.stgPriceObservation.insert loaded.staged }
  rw [hstaging, hconsidered]
  rcases List.mem_append.mp (hsplit.mem_iff.mp hstaged) with hpending | hpromoted
  · exact List.mem_append_left _ hpending
  · exact List.mem_append_right _ (List.mem_append_right _ hpromoted)

/-- What was accounted for stays so: staged rows only move on to be considered. -/
theorem IsAccounted.loadWindow {considered : List StagedPrice} {split : SplitPrice}
    (haccounted : IsAccounted tables considered split) :
    IsAccounted (loadWindow call raw window tables)
      (considered ++ consideredBy call raw window tables) split := by
  rcases loadWindow_cases call raw window tables with
    ⟨-, hsame, hnone⟩ | ⟨loaded, -, -, hrejects, hstaging, hconsidered⟩
  · rw [hsame, hnone, List.append_nil]
    exact haccounted
  · rcases haccounted with ⟨reject, hreject, rfl⟩ | ⟨card, product, hstaged⟩
    · refine Or.inl ⟨reject, ?_, rfl⟩
      rw [hrejects, SerialTable.values_insert]
      exact List.mem_append_left _ hreject
    · refine Or.inr ⟨card, product, ?_⟩
      rcases List.mem_append.mp hstaged with hpending | hbefore
      · exact pending_or_considered hstaging hconsidered (List.mem_append_left _ hpending) _
      · exact List.mem_append_right _ (List.mem_append_left _ hbefore)

/-- A batch rejects or stages every price of its rows. -/
theorem rejected_or_staged {context : LoadContext} {catalogue : Catalogue} {products : Products}
    {raws : List RawPrice} {scan : ScanOrder catalogue raws} {loaded : LoadedBatch}
    (hloaded : stageBatch context catalogue products raws scan = some loaded)
    {split : SplitPrice} (hsplit : split ∈ splitBatch context raws) :
    (∃ reject ∈ loaded.rejected, reject.toSplitPrice = split) ∨
      ∃ card product, stagedOf split card product ∈ loaded.staged := by
  obtain ⟨hensure, hstaged, hrejected⟩ := stageBatch_spec hloaded
  obtain ⟨resolution, hresolution⟩ := Waterfall.exists_mem_resolutions
    (batchMatches context catalogue raws scan split)
  have hrow : (split, resolution) ∈ tmpResolved context catalogue raws scan :=
    List.mem_flatMap.mpr ⟨split, hsplit, List.mem_map_of_mem hresolution⟩
  cases resolution with
  | none =>
      refine Or.inl ⟨rejectOf context.now split, ?_, rfl⟩
      rw [hrejected]
      exact List.mem_filterMap.mpr ⟨_, hrow, rfl⟩
  | some resolved =>
      have hcard : resolved.1 ∈ resolvedCards (tmpResolved context catalogue raws scan) :=
        List.mem_filterMap.mpr ⟨_, hrow, rfl⟩
      obtain ⟨product, hproduct⟩ := productLookup_of_ensure hensure hcard
      refine Or.inr ⟨resolved.1, product, ?_⟩
      rw [hstaged]
      refine List.mem_flatMap.mpr ⟨_, hrow, mem_stagedRows.mpr ?_⟩
      exact ⟨resolved.1, resolved.2, product, rfl, hproduct ▸ List.mem_singleton_self _, rfl⟩

/-- A window that commits has handled the raw rows of its days. -/
theorem handled_of_commits (hcommit : windowCommits call raw window tables = true)
    {price : RawPrice} (hraw : price ∈ raw) (hdate : window.Contains price.tsDate)
    (considered : List StagedPrice) :
    Handled (loadWindow call raw window tables)
      (considered ++ consideredBy call raw window tables) price := by
  rcases loadWindow_cases call raw window tables with
    ⟨hnot, -, -⟩ | ⟨loaded, -, hloaded, hrejects, hstaging, hconsidered⟩
  · rw [hcommit] at hnot
    cases hnot
  · refine ⟨call.dataProviderId, ?_⟩
    intro split hsplit
    have hmem : split ∈ splitBatch call.toLoadContext
        (raw.filter fun row => window.Contains row.tsDate) :=
      List.mem_flatMap.mpr ⟨price, by simp [hraw, hdate], hsplit⟩
    rcases rejected_or_staged hloaded hmem with ⟨reject, hreject, rfl⟩ | ⟨card, product, hstaged⟩
    · refine Or.inl ⟨reject, ?_, rfl⟩
      rw [hrejects, SerialTable.values_insert]
      exact List.mem_append_right _ hreject
    · exact Or.inr ⟨card, product, pending_or_considered hstaging hconsidered
        (List.mem_append_right _ hstaged) considered⟩

/-! ## A load as a sequence of statements -/

/-- The tables, with every raw row copied so far, every staged price considered so
far, and the raw rows of which no batch has committed since they were copied. -/
structure MarketHistory where
  tables : MarketTables
  copied : List RawPrice
  considered : List StagedPrice
  unloaded : List RawPrice

inductive MarketAction where
  | clearRawPrices
  | copyPrices (rows : List RawPrice)
  | loadWindow (call : LoadCall) (window : Window)

namespace MarketHistory

def step (history : MarketHistory) : MarketAction → MarketHistory
  | .clearRawPrices =>
    { history with
      tables := clearRawPrices history.tables
      unloaded := [] }
  | .copyPrices rows =>
    { history with
      tables := copyPrices history.tables rows
      copied := history.copied ++ rows
      unloaded := history.unloaded ++ rows }
  | .loadWindow call window =>
    let raw := history.tables.rawMtgStockPrice
    { history with
      tables := { history.tables with load := loadWindow call raw window history.tables.load }
      considered := history.considered ++ consideredBy call raw window history.tables.load
      unloaded :=
        if windowCommits call raw window history.tables.load then
          history.unloaded.filter fun price => !decide (window.Contains price.tsDate)
        else history.unloaded }

/-- The windows of a call over the raw table. -/
def loadWindows (batchDays : ℕ+) (raw : List RawPrice) : List Window :=
  match (raw.map (·.tsDate)).min?, (raw.map (·.tsDate)).max? with
  | some v_min, some v_max => batchWindows batchDays v_max v_min
  | _, _ => []

/-- The statements a service call performs; one that raises performs none. -/
def actions (history : MarketHistory) : MarketCall → List MarketAction
  | .bulkLoad job => .clearRawPrices :: job.chunks.map .copyPrices
  | .fromRawToStaging job =>
    match job.call? with
    | .error _ => []
    | .ok call => (loadWindows call.batchDays history.tables.rawMtgStockPrice).map
        (.loadWindow call ·)

/-- Before anything is copied. -/
def start (tables : MarketTables) : MarketHistory := ⟨tables, [], [], []⟩

/-- The statements of a sequence of service calls, each call reading the tables it
finds. -/
def run (tables : MarketTables) (calls : List MarketCall) : List MarketAction :=
  Run.plan step actions (start tables) calls

/-- Every raw row with a price copied so far is still in the raw table, or every
price of it is accounted for. -/
def NoPriceLost (history : MarketHistory) : Prop :=
  ∀ raw ∈ history.copied, hasPrice raw = true →
    raw ∈ history.tables.rawMtgStockPrice ∨ Handled history.tables.load history.considered raw

/-- The raw table is emptied only when every raw row with a price lies in a batch
that committed. -/
def ClearsLoadedRows (history : MarketHistory) : MarketAction → Prop
  | .clearRawPrices => ∀ raw ∈ history.unloaded, hasPrice raw = false
  | _ => True

instance : ∀ history action, Decidable (ClearsLoadedRows history action)
  | history, .clearRawPrices =>
    inferInstanceAs (Decidable (∀ raw ∈ history.unloaded, hasPrice raw = false))
  | _, .copyPrices _ => isTrue trivial
  | _, .loadWindow _ _ => isTrue trivial

/-- The rows of which no batch has committed are still there; the others are handled. -/
def Tracked (history : MarketHistory) : Prop :=
  ∀ raw ∈ history.copied,
    (raw ∈ history.unloaded ∧ raw ∈ history.tables.rawMtgStockPrice) ∨
      Handled history.tables.load history.considered raw

theorem Tracked.noPriceLost {history : MarketHistory} (htracked : Tracked history) :
    NoPriceLost history :=
  fun raw hraw _ => (htracked raw hraw).imp_left And.right

/-- What a statement keeps. -/
theorem Tracked.step {history : MarketHistory} (htracked : Tracked history)
    {action : MarketAction} (hclears : ClearsLoadedRows history action) :
    Tracked (history.step action) := by
  cases action with
  | clearRawPrices =>
      intro raw hraw
      refine Or.inr ?_
      rcases htracked raw hraw with ⟨hunloaded, -⟩ | hhandled
      · -- what is deleted without a batch has no price
        refine ⟨0, fun split hsplit => ?_⟩
        rw [(foilSplit_eq_nil_iff 0 raw).mpr (hclears raw hunloaded)] at hsplit
        cases hsplit
      · exact hhandled
  | copyPrices rows =>
      intro raw hraw
      rcases List.mem_append.mp hraw with hbefore | hnew
      · rcases htracked raw hbefore with ⟨hunloaded, hstored⟩ | hhandled
        · exact Or.inl ⟨List.mem_append_left _ hunloaded, List.mem_append_left _ hstored⟩
        · exact Or.inr hhandled
      · exact Or.inl ⟨List.mem_append_right _ hnew, List.mem_append_right _ hnew⟩
  | loadWindow call window =>
      intro raw hraw
      rcases htracked raw hraw with ⟨hunloaded, hstored⟩ | hhandled
      · by_cases hdone : windowCommits call history.tables.rawMtgStockPrice window
            history.tables.load = true ∧ window.Contains raw.tsDate
        · exact Or.inr (handled_of_commits hdone.1 hstored hdone.2 _)
        · refine Or.inl ⟨?_, hstored⟩
          simp only [MarketHistory.step]
          split_ifs with hcommit
          · rw [List.mem_filter]
            exact ⟨hunloaded, by simpa using fun hdate => hdone ⟨hcommit, hdate⟩⟩
          · exact hunloaded
      · obtain ⟨dataProviderId, hsplits⟩ := hhandled
        exact Or.inr ⟨dataProviderId, fun split hsplit => (hsplits split hsplit).loadWindow⟩

/-! ## The statements follow the services -/

/-- The tables after a service call; one that raises leaves them as they were. -/
def afterCall (tables : MarketTables) (call : MarketCall) : MarketTables :=
  match runCall tables call with
  | .ok next => next
  | .error _ => tables

theorem foldl_loadWindow_tables (call : LoadCall) (windows : List Window)
    (history : MarketHistory) :
    ((windows.map (MarketAction.loadWindow call ·)).foldl step history).tables =
      { history.tables with
        load := windows.foldl (fun load window =>
          loadWindow call history.tables.rawMtgStockPrice window load) history.tables.load } := by
  induction windows generalizing history with
  | nil => rfl
  | cons window rest ih =>
      rw [List.map_cons, List.foldl_cons, ih]
      rfl

theorem loadStagingPricesBatched_eq_foldl (call : LoadCall) (raw : List RawPrice)
    (tables : LoadTables) :
    loadStagingPricesBatched call raw tables =
      (loadWindows call.batchDays raw).foldl
        (fun tables window => loadWindow call raw window tables) tables := by
  unfold loadStagingPricesBatched loadWindows
  cases (raw.map (·.tsDate)).min? with
  | none => rfl
  | some v_min =>
      cases (raw.map (·.tsDate)).max? with
      | none => rfl
      | some v_max => exact batchLoop_eq_foldl _ _ _ _ _

/-- The statements of the services end in the tables the services leave. -/
theorem run_tables (tables : MarketTables) (calls : List MarketCall) :
    ((run tables calls).foldl step (start tables)).tables = calls.foldl afterCall tables := by
  apply Run.project_foldl_plan
  intro history call
  cases call with
  | bulkLoad job =>
      have hcopies (chunks : List (List RawPrice)) (history : MarketHistory) :
          ((chunks.map MarketAction.copyPrices).foldl step history).tables =
            chunks.foldl copyPrices history.tables := by
        rw [List.foldl_map]
        exact (List.foldl_hom MarketHistory.tables fun _ _ => rfl).symm
      exact hcopies _ _
  | fromRawToStaging job =>
      simp only [actions, afterCall, runCall, fromRawToStaging]
      cases hcall : job.call? with
      | error message =>
          split_ifs <;> rfl
      | ok call =>
          refine (foldl_loadWindow_tables call _ history).trans ?_
          rw [← loadStagingPricesBatched_eq_foldl]
          split_ifs with hempty
          -- an empty raw table has no window
          · rw [List.isEmpty_iff.mp hempty]
            rfl
          · rfl

end MarketHistory

open MarketHistory

/-- In every run of bulk loads and raw-to-staging calls that empties the raw table
only of rows without a price or of batches that committed, no price is lost in any
state. -/
theorem no_price_lost (tables : MarketTables) (calls : List MarketCall)
    (hmeet : Run.StepsMeet MarketHistory.step ClearsLoadedRows (start tables)
      (run tables calls)) :
    ∀ history ∈ Run.visited MarketHistory.step (start tables) (run tables calls),
      NoPriceLost history := by
  have hstart : Tracked (start tables) := fun _ hraw => absurd hraw List.not_mem_nil
  have htracked := Run.forall_visited (fun _ _ hbefore hclears => hbefore.step hclears) hstart hmeet
  exact fun history hvisited => (htracked history hvisited).noPriceLost

/-! ## Two markets -/

def marketSources : SourceTables where
  priceSource := ⟨[(1, "tcg"), (2, "cardmarket")], by decide⟩
  dataProvider := ⟨[(1, "mtgstocks")], by decide⟩
  cardFinished := ⟨[(1, "NONFOIL"), (2, "FOIL")], by decide⟩
  transactionType := ⟨[(2, "buy"), (1, "sell")], by decide⟩
  cardCondition := ⟨[(1, some "NM")], by decide⟩
  languageRef := ⟨[(1, "en")], by decide⟩
  nameFinishSuffix := .empty

/-- A bulk load of one folder. -/
def bulkLoadOf (rows : List RawPrice) : BulkLoad where
  listdir := ["1"]
  processFolder := fun _ => some rows
  batchSize := 2000
  startId := none
  endId := none
  idsFilter := some [1]

/-- A load of the market 'tcg'. -/
def loadTcg (failed : Window → Bool) : RawToStaging where
  sourceName := "tcg"
  sources := marketSources
  locale := .posix
  supply := sampleSupply
  now := 2
  scan := fun catalogue _ => .inOrder false catalogue _
  failed

def noMarket : MarketTables where
  rawMtgStockPrice := []
  load := {
    catalogue := tcgCatalogue
    products := noProducts
    staging := ⟨.empty, .empty⟩
    rejects := .empty }

/-- The price of one market, loaded or not, and the next market. -/
def twoMarkets (failed : Window → Bool) : List MarketCall :=
  [.bulkLoad (bulkLoadOf [rawOfPrint (some "55")]), .fromRawToStaging (loadTcg failed),
    .bulkLoad (bulkLoadOf [])]

/-- The batch commits, and the price was considered by its promotion. -/
theorem no_price_lost_committed :
    NoPriceLost ((run noMarket (twoMarkets fun _ => false)).foldl MarketHistory.step
      (start noMarket)) := by
  have hmeet : Run.StepsMeet MarketHistory.step ClearsLoadedRows (start noMarket)
      (run noMarket (twoMarkets fun _ => false)) := by
    decide +kernel
  exact no_price_lost noMarket (twoMarkets fun _ => false) hmeet _ (Run.foldl_mem_visited _ _ _)

/-- The batch raises, both services succeed, and the next market deletes the price. -/
theorem rolled_back_price_is_deleted :
    ¬ ∀ (tables : MarketTables) (calls : List MarketCall),
      (calls.foldlM runCall tables).isOk = true →
      NoPriceLost ((run tables calls).foldl MarketHistory.step (start tables)) := by
  intro hkept
  have hlost := hkept noMarket (twoMarkets fun _ => true) (by decide +kernel)
    (rawOfPrint (some "55")) (by decide +kernel) (by decide +kernel)
  rcases hlost with hraw | ⟨dataProviderId, hsplits⟩
  · revert hraw
    decide +kernel
  · have hpriced : foilSplit dataProviderId (rawOfPrint (some "55")) ≠ [] := by
      rw [ne_eq, foilSplit_eq_nil_iff]
      decide +kernel
    obtain ⟨split, hsplit⟩ := List.exists_mem_of_ne_nil _ hpriced
    -- nothing was rejected, and nothing was staged
    rcases hsplits split hsplit with ⟨reject, hreject, -⟩ | ⟨card, product, hstaged⟩
    · have hnone : ((run noMarket (twoMarkets fun _ => true)).foldl MarketHistory.step
          (start noMarket)).tables.load.rejects.values = [] := by
        decide +kernel
      rw [hnone] at hreject
      cases hreject
    · have hnone : ((run noMarket (twoMarkets fun _ => true)).foldl MarketHistory.step
          (start noMarket)).tables.load.staging.stgPriceObservation.values ++
            ((run noMarket (twoMarkets fun _ => true)).foldl MarketHistory.step
              (start noMarket)).considered = [] := by
        decide +kernel
      rw [hnone] at hstaged
      cases hstaged

end AutoMana.Staging
