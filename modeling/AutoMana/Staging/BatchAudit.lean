import AutoMana.Ops.Schema
import AutoMana.Relational.Numbering
import AutoMana.Relational.Runs
import AutoMana.Relational.Slices
import AutoMana.Staging.MarketCycles

/-!
# The batch audit

`ops.ingestion_step_batches` should hold a row for every batch of a run: the chunks of
folders of `bulk_load` and the date windows of `from_raw_to_staging`. Each call numbers
its batches from one, and the incremental load calls both services once a market, all in
one run.
-/

namespace AutoMana.Staging

open Relational Relational.Run Pricing
open Ops (Status)

/-- The steps of a run that record batches. -/
inductive AuditStep where
  | bulkLoad
  | rawToStaging
deriving DecidableEq, Repr

/-- A row of `ingestion_step_batches` but for its step and its number. -/
structure BatchRow where
  rangeStart : Int
  rangeEnd : Int
  status : Status
  itemsOk : ℕ
  itemsFailed : ℕ
deriving DecidableEq, Repr

/-! ## The batches of the two services -/

/-- The `MTGStockBatchStep` of a chunk of folders. -/
def chunkRow (job : BulkLoad) (chunk_start_idx : ℕ) (chunk : List String) : BatchRow :=
  let price_rows := chunk.filterMap job.processFolder
  let folder_errors := chunk.countP fun folder => (job.processFolder folder).isNone
  { rangeStart := chunk_start_idx
    rangeEnd := chunk_start_idx + chunk.length
    status := if folder_errors = 0 then .success else .incomplete
    itemsOk := price_rows.length
    itemsFailed := folder_errors }

def chunkRows (job : BulkLoad) : ℕ → List (List String) → List BatchRow
  | _, [] => []
  | chunk_start_idx, chunk :: rest =>
    chunkRow job chunk_start_idx chunk :: chunkRows job (chunk_start_idx + chunk.length) rest

/-- The rows a window stages, if it commits. -/
def curRows (call : LoadCall) (raw : List RawPrice) (window : Window) (tables : LoadTables) : ℕ :=
  let raws := raw.filter fun row => window.Contains row.tsDate
  (stageBatch call.toLoadContext tables.catalogue tables.products raws (call.scan _ _)).elim 0
    fun loaded => loaded.staged.length

/-- The audit row of a date window. `EXTRACT(EPOCH FROM date)` is in seconds. -/
def windowRow (call : LoadCall) (raw : List RawPrice) (window : Window) (tables : LoadTables) :
    BatchRow :=
  let v_ok := windowCommits call raw window tables
  { rangeStart := window.start * 86400
    rangeEnd := window.stop * 86400
    status := if v_ok then .success else .failed
    itemsOk := if v_ok then curRows call raw window tables else 0
    itemsFailed := 0 }

def windowRows (call : LoadCall) (raw : List RawPrice) : List Window → LoadTables → List BatchRow
  | [], _ => []
  | window :: rest, tables =>
    windowRow call raw window tables ::
      windowRows call raw rest (loadWindow call raw window tables)

def MarketCall.step : MarketCall → AuditStep
  | .bulkLoad _ => .bulkLoad
  | .fromRawToStaging _ => .rawToStaging

/-- The batches a call executes, each with its own status and counts. -/
def MarketCall.batches (tables : MarketTables) : MarketCall → List BatchRow
  | .bulkLoad job => chunkRows job 0 (job.folders.toChunks job.batchSize)
  | .fromRawToStaging job =>
    match job.call? with
    | .error _ => []
    | .ok call => windowRows call tables.rawMtgStockPrice
        (MarketHistory.loadWindows call.batchDays tables.rawMtgStockPrice) tables.load

/-- The batches a call writes a row for: a chunk only `if price_rows`. -/
def MarketCall.written (tables : MarketTables) : MarketCall → List BatchRow
  | .bulkLoad job => (MarketCall.batches tables (.bulkLoad job)).filter fun row => 0 < row.itemsOk
  | .fromRawToStaging job => MarketCall.batches tables (.fromRawToStaging job)

/-- The folders a call attempts. -/
def MarketCall.attempted : MarketCall → ℕ
  | .bulkLoad job => job.folders.length
  | .fromRawToStaging _ => 0

/-! ## The audit of a run -/

/-- The tables and the batch rows of a run, with every batch executed and the number of
folders attempted so far. `track_step` has created the row of the step before its batches. -/
structure AuditState where
  tables : MarketTables
  batches : Table (AuditStep × ℕ) BatchRow
  executed : List (AuditStep × BatchRow)
  attempted : ℕ

namespace AuditState

/-- A run that has called nothing. -/
def start (tables : MarketTables) : AuditState := ⟨tables, Table.empty, [], 0⟩

/-- A service call; `batch_number` and `v_batch_seq` start from one. -/
def call (state : AuditState) (call : MarketCall) : AuditState where
  tables := MarketHistory.afterCall state.tables call
  batches := insertNumbered call.step 1 (call.written state.tables) state.batches
  executed := state.executed ++ (call.batches state.tables).map fun row => (call.step, row)
  attempted := state.attempted + call.attempted

def folderCount (batches : List (AuditStep × BatchRow)) : ℕ :=
  ((batches.filter fun batch => batch.1 = .bulkLoad).map fun batch =>
    batch.2.itemsOk + batch.2.itemsFailed).sum

/-- The table has one row for every batch executed, so that the folders add up and the
failed windows are there. -/
structure Complete (state : AuditState) : Prop where
  rows : (recorded state.batches).Perm state.executed
  folders : folderCount (recorded state.batches) = state.attempted
  failed : ∀ row, (AuditStep.rawToStaging, row) ∈ state.executed → row.status = .failed →
    (AuditStep.rawToStaging, row) ∈ recorded state.batches

/-- The call has no batch, or no call of its step before it had one, and for `bulk_load`
no chunk whose folders all fail. -/
def FirstBatches (state : AuditState) : MarketCall → Prop
  | .bulkLoad job => job.folders = [] ∨
    (∀ batch ∈ state.executed, batch.1 ≠ .bulkLoad) ∧
      ∀ chunk ∈ job.folders.toChunks job.batchSize,
        ∃ folder ∈ chunk, (job.processFolder folder).isSome
  | .fromRawToStaging job =>
    (state.tables.rawMtgStockPrice = [] ∨ ∃ message, job.call? = .error message) ∨
      ∀ batch ∈ state.executed, batch.1 ≠ .rawToStaging

/-- What holds in any run: rows of executed batches only, numbered from one, and as many
folders in the batches as were attempted. -/
structure Sound (state : AuditState) : Prop where
  executed : (recorded state.batches).Subperm state.executed
  startsAtOne : StartsAtOne state.batches
  folders : folderCount state.executed = state.attempted

end AuditState

theorem chunkRow_items (job : BulkLoad) (chunk_start_idx : ℕ) (chunk : List String) :
    (chunkRow job chunk_start_idx chunk).itemsOk +
      (chunkRow job chunk_start_idx chunk).itemsFailed = chunk.length := by
  simp only [chunkRow]
  induction chunk with
  | nil => rfl
  | cons folder rest ih =>
    cases hfolder : job.processFolder folder with
    | none => simp [hfolder]; omega
    | some rows => simp [hfolder]; omega

theorem sum_chunkRows (job : BulkLoad) (chunk_start_idx : ℕ) (chunks : List (List String)) :
    ((chunkRows job chunk_start_idx chunks).map fun row => row.itemsOk + row.itemsFailed).sum =
      chunks.flatten.length := by
  induction chunks generalizing chunk_start_idx with
  | nil => rfl
  | cons chunk rest ih =>
    rw [chunkRows, List.map_cons, List.sum_cons, ih, chunkRow_items, List.flatten_cons,
      List.length_append]

theorem mem_chunkRows_itemsOk {job : BulkLoad} {chunk_start_idx : ℕ}
    {chunks : List (List String)} :
    (∀ row ∈ chunkRows job chunk_start_idx chunks, 0 < row.itemsOk) ↔
      ∀ chunk ∈ chunks, ∃ folder ∈ chunk, (job.processFolder folder).isSome := by
  induction chunks generalizing chunk_start_idx with
  | nil => simp [chunkRows]
  | cons chunk rest ih =>
    rw [chunkRows, List.forall_mem_cons, List.forall_mem_cons, ih]
    apply and_congr_left
    intro _
    rw [chunkRow, List.length_filterMap_eq_countP, List.countP_pos_iff]

theorem toChunks_eq_nil_iff {α : Type} (size : ℕ) (items : List α) :
    items.toChunks size = [] ↔ items = [] := by
  constructor
  · intro hnil
    rw [← flatten_toChunks size items, hnil, List.flatten_nil]
  · intro hnil
    rw [hnil]
    rfl

theorem loadWindows_eq_nil_iff (batchDays : ℕ+) (raw : List RawPrice) :
    MarketHistory.loadWindows batchDays raw = [] ↔ raw = [] := by
  constructor
  · intro hnil
    by_contra hraw
    have hdates : raw.map (·.tsDate) ≠ [] := by simpa using hraw
    obtain ⟨v_min, hmin⟩ := Option.ne_none_iff_exists'.mp (mt List.min?_eq_none_iff.mp hdates)
    obtain ⟨v_max, hmax⟩ := Option.ne_none_iff_exists'.mp (mt List.max?_eq_none_iff.mp hdates)
    have hle : v_min ≤ v_max := (List.max?_le_iff hmax).mp le_rfl _ (List.min?_mem hmin)
    rw [MarketHistory.loadWindows, hmin, hmax] at hnil
    simp only at hnil
    rw [batchWindows, dif_pos hle] at hnil
    cases hnil
  · intro hnil
    rw [hnil]
    rfl

theorem windowRows_eq_nil_iff (call : LoadCall) (raw : List RawPrice) (windows : List Window)
    (tables : LoadTables) : windowRows call raw windows tables = [] ↔ windows = [] := by
  cases windows <;> simp [windowRows]

namespace AuditState

variable {state : AuditState}

theorem written_sublist (tables : MarketTables) (call : MarketCall) :
    (call.written tables).Sublist (call.batches tables) := by
  cases call with
  | bulkLoad job => exact List.filter_sublist
  | fromRawToStaging job => exact List.Sublist.refl _

/-- The condition on a call in terms of its batches. -/
theorem firstBatches_iff (call : MarketCall) :
    FirstBatches state call ↔
      call.batches state.tables = [] ∨
        (∀ batch ∈ state.executed, batch.1 ≠ call.step) ∧
          call.written state.tables = call.batches state.tables := by
  cases call with
  | bulkLoad job =>
    apply or_congr
    · rw [MarketCall.batches, ← toChunks_eq_nil_iff job.batchSize]
      cases job.folders.toChunks job.batchSize <;> simp [chunkRows]
    · apply and_congr_right
      intro _
      rw [MarketCall.written, MarketCall.batches, List.filter_eq_self]
      simp only [decide_eq_true_eq]
      exact mem_chunkRows_itemsOk.symm
  | fromRawToStaging job =>
    apply or_congr
    · cases hcall : job.call? with
      | error message => simp [MarketCall.batches, hcall]
      | ok call =>
        simp [MarketCall.batches, hcall, windowRows_eq_nil_iff, loadWindows_eq_nil_iff]
    · simp [MarketCall.written, MarketCall.step]

theorem folderCount_perm {first second : List (AuditStep × BatchRow)} (hperm : first.Perm second) :
    folderCount first = folderCount second :=
  ((hperm.filter _).map _).sum_eq

theorem folderCount_append (first second : List (AuditStep × BatchRow)) :
    folderCount (first ++ second) = folderCount first + folderCount second := by
  rw [folderCount, List.filter_append, List.map_append, List.sum_append, folderCount, folderCount]

theorem folderCount_call (tables : MarketTables) (call : MarketCall) :
    folderCount ((call.batches tables).map fun row => (call.step, row)) = call.attempted := by
  cases call with
  | bulkLoad job =>
    rw [folderCount, List.filter_eq_self.mpr (by simp [MarketCall.step]), List.map_map]
    have hsum := sum_chunkRows job 0 (job.folders.toChunks job.batchSize)
    rw [flatten_toChunks] at hsum
    exact hsum
  | fromRawToStaging job =>
    rw [folderCount, List.filter_eq_nil_iff.mpr (by simp [MarketCall.step])]
    rfl

theorem sound_start (tables : MarketTables) : Sound (start tables) where
  executed := List.Subperm.refl _
  startsAtOne := by simp [StartsAtOne, start]
  folders := rfl

theorem Sound.call (hsound : Sound state) (call : MarketCall) : Sound (state.call call) where
  executed := by
    obtain ⟨kept, hkept, hrecorded⟩ := exists_recorded_insertNumbered call.step 1
      (call.written state.tables) state.batches
    simp only [AuditState.call, hrecorded]
    exact hsound.executed.append
      (hkept.trans ((written_sublist state.tables call).map _)).subperm
  startsAtOne := hsound.startsAtOne.insertNumbered call.step _
  folders := by
    simp only [AuditState.call]
    rw [folderCount_append, folderCount_call, hsound.folders]

/-- In a run whose table has a row for each batch, the counts and the failed windows follow. -/
theorem Sound.complete_iff_perm (hsound : Sound state) :
    Complete state ↔ (recorded state.batches).Perm state.executed := by
  constructor
  · intro hcomplete
    exact hcomplete.rows
  · intro hperm
    refine ⟨hperm, ?_, ?_⟩
    · rw [folderCount_perm hperm, hsound.folders]
    · intro row hexecuted _
      exact hperm.mem_iff.mpr hexecuted

/-- A call leaves a complete table exactly when it finds one and is the first of its step
to execute a batch, with a row for each. -/
theorem complete_call_iff (hsound : Sound state) (call : MarketCall) :
    Complete (state.call call) ↔ Complete state ∧ FirstBatches state call := by
  rw [(hsound.call call).complete_iff_perm, hsound.complete_iff_perm, firstBatches_iff]
  obtain ⟨kept, hkept, hrecorded⟩ := exists_recorded_insertNumbered call.step 1
    (call.written state.tables) state.batches
  have hwritten := (written_sublist state.tables call).length_le
  have hkeptLength := hkept.length_le
  have hexecuted := hsound.executed.length_le
  rw [List.length_map] at hkeptLength
  simp only [AuditState.call]
  constructor
  · intro hperm
    have hlength := hperm.length_eq
    rw [hrecorded] at hlength
    simp only [List.length_append, List.length_map] at hlength
    -- nothing was lost before the call, and the call lost nothing
    have hbefore : (recorded state.batches).Perm state.executed :=
      hsound.executed.perm_of_length_le (by omega)
    refine ⟨hbefore, or_iff_not_imp_left.mpr fun hbatches => ?_⟩
    have hall : call.written state.tables = call.batches state.tables :=
      (written_sublist state.tables call).eq_of_length (by omega)
    refine ⟨?_, hall⟩
    intro batch hmem hstep
    have htaken := isSome_one_of_mem_recorded hsound.startsAtOne
      (hbefore.mem_iff.mpr (show (batch.1, batch.2) ∈ state.executed from hmem))
    rw [hstep] at htaken
    have hlost := length_recorded_of_taken htaken (hall ▸ hbatches)
    rw [hrecorded, List.length_append] at hlost
    omega
  · intro hboth
    obtain ⟨hbefore, hfirst⟩ := hboth
    rcases hfirst with hnone | ⟨hfresh, hall⟩
    · have hwrote : call.written state.tables = [] := by
        rw [← List.length_eq_zero_iff]
        rw [hnone, List.length_nil] at hwritten
        omega
      rw [hnone, hwrote, insertNumbered, List.map_nil, List.append_nil]
      exact hbefore
    · have hfree : ∀ later, 1 ≤ later → state.batches.get? (call.step, later) = none := by
        intro later _
        apply get?_eq_none_of_recorded
        intro value hmem
        exact hfresh _ (hbefore.mem_iff.mp hmem) rfl
      rw [recorded_insertNumbered_of_free hfree, hall]
      exact hbefore.append_right _

/-- The audit of a run is complete exactly when each step has its batches in one call, and
no chunk of folders failed as a whole. -/
theorem complete_iff (tables : MarketTables) (calls : List MarketCall) :
    Complete (calls.foldl call (start tables)) ↔
      StepsMeet call FirstBatches (start tables) calls := by
  suffices hrun : ∀ state, Sound state →
      (Complete (calls.foldl call state) ↔
        Complete state ∧ StepsMeet call FirstBatches state calls) by
    rw [hrun _ (sound_start tables)]
    apply and_iff_right
    rw [(sound_start tables).complete_iff_perm]
    exact List.Perm.refl _
  intro state hsound
  induction calls generalizing state with
  | nil => exact (and_iff_left trivial).symm
  | cons first rest ih =>
    rw [List.foldl_cons, ih _ (hsound.call first), complete_call_iff hsound, StepsMeet, and_assoc]

/-- Two markets of one folder each: the second call's row takes the number of the first. -/
theorem complete_two_markets :
    ¬ Complete ([MarketCall.bulkLoad (bulkLoadOf []), .bulkLoad (bulkLoadOf [])].foldl call
      (start noMarket)) := by
  intro hcomplete
  have hlost := hcomplete.folders
  revert hlost
  decide +kernel

end AuditState

end AutoMana.Staging
