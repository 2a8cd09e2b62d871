import AutoMana.Relational.Serial

/-!
# The run tables

`ingestion_runs` holds one row for each execution of a pipeline, found again by
its run key; `ingestion_run_steps` holds one row for each named step of a run.
Progress and the audit columns `created_at` and `updated_at` are left out.
-/

namespace AutoMana.Ops

open Relational

/-- Microseconds since the epoch. -/
abbrev Timestamp := Int

abbrev RunId := Nat

/-- The values of the `status` columns; `incomplete` is the database's `'partial'`. -/
inductive Status where
  | pending
  | running
  | success
  | incomplete
  | failed
deriving DecidableEq, Repr

/-- `status IN ('success','failed','partial','skipped')`. The column check admits
no `'skipped'`. -/
def Status.closes : Status → Bool
  | .success | .failed | .incomplete => true
  | .pending | .running => false

/-- The `error_details` object. -/
structure ErrorDetails where
  message : String
  step : Option String
deriving DecidableEq, Repr

structure IngestionRun where
  pipelineName : String
  sourceId : Nat
  runKey : String
  celeryTaskId : Option String
  status : Status
  currentStep : Option String
  startedAt : Timestamp
  endedAt : Option Timestamp
  errorCode : Option String
  errorDetails : Option ErrorDetails
  notes : Option String
deriving DecidableEq, Repr

structure RunStep where
  status : Status
  startedAt : Timestamp
  endedAt : Option Timestamp
  errorCode : Option String
  errorDetails : Option ErrorDetails
  notes : Option String
deriving DecidableEq, Repr

structure OpsTables where
  /-- `ops.sources`, by its unique name. -/
  sources : Table String Nat
  ingestionRuns : SerialTable IngestionRun
  /-- `UNIQUE (run_key)` -/
  runKey_unique : (ingestionRuns.values.map (·.runKey)).Nodup
  /-- By run and step name, which are unique together. -/
  runSteps : Table (RunId × String) RunStep
  /-- `REFERENCES ops.ingestion_runs(id)` -/
  runSteps_run : ∀ key ∈ runSteps.rows.map Prod.fst,
    (ingestionRuns.table.get? key.1).isSome

namespace OpsTables

def run? (tables : OpsTables) (runId : RunId) : Option IngestionRun :=
  tables.ingestionRuns.table.get? runId

def step? (tables : OpsTables) (runId : RunId) (stepName : String) : Option RunStep :=
  tables.runSteps.get? (runId, stepName)

def runStatus (tables : OpsTables) (runId : RunId) : Option Status :=
  (tables.run? runId).map (·.status)

theorem step?_of_run?_eq_none {tables : OpsTables} {runId : RunId}
    (hnone : tables.run? runId = none) (stepName : String) :
    tables.step? runId stepName = none := by
  by_contra hstep
  have hrun := tables.runSteps_run (runId, stepName)
    ((Table.mem_keys_iff _ _).mpr (Option.isSome_iff_ne_none.mpr hstep))
  rw [run?] at hnone
  simp [hnone] at hrun

/-- `UPDATE ops.ingestion_runs SET ... WHERE id = runId`, for columns other than
the run key. -/
def updateRunRow (tables : OpsTables) (runId : RunId) (change : IngestionRun → IngestionRun)
    (hkey : ∀ run, (change run).runKey = run.runKey) : OpsTables where
  sources := tables.sources
  ingestionRuns := tables.ingestionRuns.mapValues fun id run =>
    if id = runId then change run else run
  runKey_unique := by
    have hsame : ((tables.ingestionRuns.mapValues fun id run =>
        if id = runId then change run else run).values.map (·.runKey)) =
          tables.ingestionRuns.values.map (·.runKey) := by
      simp only [SerialTable.values, SerialTable.mapValues, Table.mapValues, List.map_map]
      apply List.map_congr_left
      intro row _
      simp only [Function.comp_apply]
      split_ifs
      · exact hkey _
      · rfl
    rw [hsame]
    exact tables.runKey_unique
  runSteps := tables.runSteps
  runSteps_run := by
    intro key hmem
    simpa using tables.runSteps_run key hmem

@[simp] theorem run?_updateRunRow (tables : OpsTables) (runId id : RunId)
    (change : IngestionRun → IngestionRun) (hkey : ∀ run, (change run).runKey = run.runKey) :
    (tables.updateRunRow runId change hkey).run? id =
      if id = runId then (tables.run? id).map change else tables.run? id := by
  simp only [run?, updateRunRow, SerialTable.get?_mapValues]
  split_ifs <;> cases tables.ingestionRuns.table.get? id <;> rfl

theorem isSome_run?_updateRunRow (tables : OpsTables) (runId id : RunId)
    (change : IngestionRun → IngestionRun) (hkey : ∀ run, (change run).runKey = run.runKey) :
    ((tables.updateRunRow runId change hkey).run? id).isSome = (tables.run? id).isSome := by
  rw [run?_updateRunRow]
  split_ifs <;> simp

@[simp] theorem step?_updateRunRow (tables : OpsTables) (runId id : RunId) (stepName : String)
    (change : IngestionRun → IngestionRun) (hkey : ∀ run, (change run).runKey = run.runKey) :
    (tables.updateRunRow runId change hkey).step? id stepName = tables.step? id stepName :=
  rfl

/-- An insert of one step row of a stored run, or its update on conflict. -/
def upsertStep (tables : OpsTables) (runId : RunId) (stepName : String) (excluded : RunStep)
    (onConflict : RunStep → RunStep → RunStep) (hrun : (tables.run? runId).isSome) :
    OpsTables where
  sources := tables.sources
  ingestionRuns := tables.ingestionRuns
  runKey_unique := tables.runKey_unique
  runSteps := tables.runSteps.upsert (.single (runId, stepName) excluded) onConflict
  runSteps_run := by
    intro key hmem
    rw [Table.mem_keys_iff, Table.get?_upsert, Table.get?_single] at hmem
    split_ifs at hmem with hkey
    · rw [hkey]
      exact hrun
    · apply tables.runSteps_run key
      rw [Table.mem_keys_iff]
      cases hstored : tables.runSteps.get? key with
      | none => simp [hstored, Table.reconcile] at hmem
      | some stored => rfl

@[simp] theorem run?_upsertStep (tables : OpsTables) (runId id : RunId) (stepName : String)
    (excluded : RunStep) (onConflict : RunStep → RunStep → RunStep)
    (hrun : (tables.run? runId).isSome) :
    (tables.upsertStep runId stepName excluded onConflict hrun).run? id = tables.run? id :=
  rfl

@[simp] theorem step?_upsertStep (tables : OpsTables) (runId id : RunId)
    (stepName name : String) (excluded : RunStep) (onConflict : RunStep → RunStep → RunStep)
    (hrun : (tables.run? runId).isSome) :
    (tables.upsertStep runId stepName excluded onConflict hrun).step? id name =
      if id = runId ∧ name = stepName then
        Table.reconcile onConflict (tables.step? id name) (some excluded)
      else tables.step? id name := by
  simp only [step?, upsertStep, Table.get?_upsert, Table.get?_single, Prod.mk.injEq]
  split_ifs
  · rfl
  · cases tables.runSteps.get? (id, name) <;> rfl

end OpsTables

end AutoMana.Ops
