import AutoMana.Ops.Schema

/-!
# OpsRepository

Each operation is one SQL statement, so it takes effect as a whole or raises
and changes nothing. Only `start_run`, `finish_run` and `fail_run` write the
status of a run; `update_run` writes its steps.
-/

namespace AutoMana.Ops

open Relational

namespace OpsRepository

/-- What a caller of `start_run` passes. -/
structure RunRequest where
  pipelineName : String
  sourceName : String
  runKey : String
  celeryTaskId : Option String
  notes : Option String
deriving DecidableEq, Repr

/-- The row `upsert_run` inserts. -/
def startedRun (request : RunRequest) (sourceId : Nat) (now : Timestamp) : IngestionRun where
  pipelineName := request.pipelineName
  sourceId := sourceId
  runKey := request.runKey
  celeryTaskId := request.celeryTaskId
  status := .running
  currentStep := some "start"
  startedAt := now
  endedAt := none
  errorCode := none
  errorDetails := none
  notes := request.notes

/-- Its `ON CONFLICT (pipeline_name, source_id, run_key) DO UPDATE`. -/
def restartedRun (request : RunRequest) (run : IngestionRun) : IngestionRun :=
  { run with
    status := .running
    celeryTaskId := request.celeryTaskId.or run.celeryTaskId
    currentStep := some "start"
    errorCode := none
    errorDetails := none
    endedAt := none
    notes := request.notes.or run.notes }

theorem restartedRun_runKey (request : RunRequest) (run : IngestionRun) :
    (restartedRun request run).runKey = run.runKey := rfl

/-- The marker step `start`, inserted or updated. -/
def startStep (now : Timestamp) (stored : Option RunStep) : RunStep where
  status := .success
  startedAt := now
  endedAt := some now
  errorCode := none
  errorDetails := none
  notes := stored.bind (·.notes)

def insertRun (tables : OpsTables) (run : IngestionRun)
    (hfresh : run.runKey ∉ tables.ingestionRuns.values.map (·.runKey)) : OpsTables where
  sources := tables.sources
  ingestionRuns := tables.ingestionRuns.insert [run]
  runKey_unique := by
    rw [SerialTable.values_insert, List.map_append]
    apply List.Nodup.append tables.runKey_unique (List.nodup_singleton _)
    intro key hstored hnew
    obtain rfl : key = run.runKey := List.mem_singleton.mp hnew
    exact hfresh hstored
  runSteps := tables.runSteps
  runSteps_run := by
    intro key hmem
    rw [SerialTable.get?_insert]
    split_ifs
    · rfl
    · exact tables.runSteps_run key hmem

@[simp] theorem run?_insertRun (tables : OpsTables) (run : IngestionRun)
    (hfresh : run.runKey ∉ tables.ingestionRuns.values.map (·.runKey)) (id : RunId) :
    (insertRun tables run hfresh).run? id =
      if id = tables.ingestionRuns.nextId then some run else tables.run? id :=
  SerialTable.get?_insert _ _ _

/-- The row with a run key. -/
def runWithKey (tables : OpsTables) (runKey : String) : Option (RunId × IngestionRun) :=
  tables.ingestionRuns.table.rows.find? fun row => row.2.runKey = runKey

theorem runWithKey_eq_some {tables : OpsTables} {runKey : String} {runId : RunId}
    {run : IngestionRun} (hfind : runWithKey tables runKey = some (runId, run)) :
    tables.run? runId = some run ∧ run.runKey = runKey := by
  refine ⟨(Table.mem_rows_iff _ _ _).mp (List.mem_of_find?_eq_some hfind), ?_⟩
  simpa using List.find?_some hfind

theorem runWithKey_eq_none {tables : OpsTables} {runKey : String}
    (hfind : runWithKey tables runKey = none) :
    runKey ∉ tables.ingestionRuns.values.map (·.runKey) := by
  intro hmem
  obtain ⟨run, hrun, rfl⟩ := List.mem_map.mp hmem
  obtain ⟨row, hrow, rfl⟩ := List.mem_map.mp hrun
  simpa using List.find?_eq_none.mp hfind row hrow

/-- `start_step`, over the row that `upsert_run` returns. -/
def markStarted (now : Timestamp) (tables : OpsTables) (runId : RunId)
    (hrun : (tables.run? runId).isSome) : OpsTables :=
  tables.upsertStep runId "start" (startStep now none)
    (fun stored _ => startStep now (some stored)) hrun

/-- `start_run` returns the id of the run it starts, and nothing when the source
is unknown or the run already succeeded. A run key of another pipeline or source
violates its unique constraint. -/
def startRun (now : Timestamp) (request : RunRequest) (tables : OpsTables) :
    Except String (Option RunId × OpsTables) :=
  match tables.sources.get? request.sourceName with
  | none => .ok (none, tables)
  | some sourceId =>
    match hfind : runWithKey tables request.runKey with
    | none =>
      .ok (some tables.ingestionRuns.nextId,
        markStarted now (insertRun tables (startedRun request sourceId now)
          (runWithKey_eq_none hfind)) tables.ingestionRuns.nextId (by simp))
    | some (runId, run) =>
      if run.pipelineName = request.pipelineName ∧ run.sourceId = sourceId then
        if run.status = .success then .ok (none, tables)
        else .ok (some runId,
          markStarted now (tables.updateRunRow runId (restartedRun request)
            (restartedRun_runKey request)) runId (by
              rw [OpsTables.isSome_run?_updateRunRow, (runWithKey_eq_some hfind).1]
              rfl))
      else .error "duplicate key value violates unique constraint"

/-- The arguments of `update_run` besides the run. -/
structure StepReport where
  status : Option Status
  currentStep : Option String
  errorCode : Option String
  errorDetails : Option ErrorDetails
  notes : Option String
deriving DecidableEq, Repr

/-- The step row `update_run` inserts. -/
def reportedStep (now : Timestamp) (report : StepReport) : RunStep :=
  let status := report.status.getD .running
  { status
    startedAt := now
    endedAt := if status.closes then some now else none
    errorCode := report.errorCode
    errorDetails := report.errorDetails
    notes := report.notes }

/-- Its `ON CONFLICT DO UPDATE ... WHERE status <> 'success'`. -/
def mergeStep (now : Timestamp) (stored excluded : RunStep) : RunStep :=
  if stored.status = .success then stored
  else {
    status := excluded.status
    startedAt := stored.startedAt
    endedAt := if excluded.status.closes then some (stored.endedAt.getD now) else stored.endedAt
    errorCode := excluded.errorCode.or stored.errorCode
    errorDetails := excluded.errorDetails.or stored.errorDetails
    notes := excluded.notes.or stored.notes }

/-- `run_update`: a run that is still going shows the step. -/
def showStep (stepName : String) (run : IngestionRun) : IngestionRun :=
  if run.status = .running then { run with currentStep := some stepName } else run

theorem showStep_runKey (stepName : String) (run : IngestionRun) :
    (showStep stepName run).runKey = run.runKey := by
  unfold showStep
  split_ifs <;> rfl

@[simp] theorem showStep_status (stepName : String) (run : IngestionRun) :
    (showStep stepName run).status = run.status := by
  unfold showStep
  split_ifs <;> rfl

def updateRun (now : Timestamp) (runId : RunId) (report : StepReport) (tables : OpsTables) :
    Except String OpsTables :=
  match report.currentStep.or ((tables.run? runId).bind (·.currentStep)) with
  | none => .error "null value in column \"step_name\""
  | some stepName =>
    if hrun : (tables.run? runId).isSome then
      .ok ((tables.upsertStep runId stepName (reportedStep now report) (mergeStep now) hrun
        ).updateRunRow runId (showStep stepName) (showStep_runKey stepName))
    else .error "insert violates foreign key constraint"

/-- `finish_run` does not look at the status it overwrites. -/
def finishedRun (now : Timestamp) (status : Status) (notes : Option String) (run : IngestionRun) :
    IngestionRun :=
  { run with
    status := status
    endedAt := some now
    currentStep := some "finish"
    notes := notes.or run.notes }

theorem finishedRun_runKey (now : Timestamp) (status : Status) (notes : Option String)
    (run : IngestionRun) : (finishedRun now status notes run).runKey = run.runKey := rfl

/-- A null run id matches no row. -/
def finishRun (now : Timestamp) (runId : Option RunId) (status : Status) (notes : Option String)
    (tables : OpsTables) : Except String OpsTables :=
  if status = .success ∨ status = .incomplete then
    match runId with
    | none => .ok tables
    | some runId =>
      .ok (tables.updateRunRow runId (finishedRun now status notes)
        (finishedRun_runKey now status notes))
  else .error "finish_run status must be 'success' or 'partial'"

def failedRun (now : Timestamp) (errorCode : String) (errorDetails : Option ErrorDetails)
    (notes : Option String) (run : IngestionRun) : IngestionRun :=
  { run with
    status := .failed
    endedAt := some now
    errorCode := some errorCode
    errorDetails := errorDetails.or run.errorDetails
    notes := notes.or run.notes }

theorem failedRun_runKey (now : Timestamp) (errorCode : String)
    (errorDetails : Option ErrorDetails) (notes : Option String) (run : IngestionRun) :
    (failedRun now errorCode errorDetails notes run).runKey = run.runKey := rfl

def failRun (now : Timestamp) (runId : RunId) (errorCode : String)
    (errorDetails : Option ErrorDetails) (notes : Option String) (tables : OpsTables) :
    OpsTables :=
  tables.updateRunRow runId (failedRun now errorCode errorDetails notes)
    (failedRun_runKey now errorCode errorDetails notes)

/-- The status of the most recently started run with a run key. -/
def getRunStatusForKey (runKey : String) (tables : OpsTables) : Option Status :=
  (tables.ingestionRuns.newestWhere (·.runKey = runKey) (·.startedAt)).map (·.status)

/-- Run keys are unique, so there is no other run to choose from. -/
theorem getRunStatusForKey_of_run? {tables : OpsTables} {runId : RunId} {run : IngestionRun}
    (hrun : tables.run? runId = some run) :
    getRunStatusForKey run.runKey tables = some run.status := by
  have hmem : run ∈ tables.ingestionRuns.values :=
    (SerialTable.mem_values_iff _ _).mpr ⟨runId, hrun⟩
  unfold getRunStatusForKey
  cases hnewest : tables.ingestionRuns.newestWhere (·.runKey = run.runKey) (·.startedAt) with
  | none =>
      have hother := SerialTable.newestWhere_eq_none_iff.mp hnewest run hmem
      simp at hother
  | some newest =>
      obtain ⟨hnewestMem, hkey⟩ := SerialTable.of_newestWhere hnewest
      have hsame := List.inj_on_of_nodup_map tables.runKey_unique hnewestMem hmem
        (of_decide_eq_true hkey)
      rw [hsame]
      rfl

theorem run?_of_getRunStatusForKey {tables : OpsTables} {runKey : String} {status : Status}
    (hstatus : getRunStatusForKey runKey tables = some status) :
    ∃ runId run, tables.run? runId = some run ∧ run.runKey = runKey ∧ run.status = status := by
  obtain ⟨run, hnewest, rfl⟩ := Option.map_eq_some_iff.mp hstatus
  obtain ⟨hmem, hkey⟩ := SerialTable.of_newestWhere hnewest
  obtain ⟨runId, hrun⟩ := (SerialTable.mem_values_iff _ _).mp hmem
  exact ⟨runId, run, hrun, of_decide_eq_true hkey, rfl⟩

/-- Whether the run has concluded, `false` when there is no such run. -/
def getRunIsFinished (runId : RunId) (tables : OpsTables) : Bool :=
  (tables.run? runId).any (·.endedAt.isSome)

def getRunningIngestionRuns (tables : OpsTables) : List RunId :=
  (tables.ingestionRuns.table.rows.filter fun row => row.2.status = .running).map Prod.fst

/-! ## What each statement writes -/

/-- `update_run` writes the step row it names and no status of a run. -/
theorem updateRun_spec {now : Timestamp} {runId : RunId} {report : StepReport}
    {stepName : String} (hstep : report.currentStep = some stepName) {tables next : OpsTables}
    (hupdate : updateRun now runId report tables = .ok next) :
    (tables.run? runId).isSome ∧
    (∀ id name, next.step? id name =
      if id = runId ∧ name = stepName then
        Table.reconcile (mergeStep now) (tables.step? id name) (some (reportedStep now report))
      else tables.step? id name) ∧
    ∀ id, next.run? id =
      if id = runId then (tables.run? id).map (showStep stepName) else tables.run? id := by
  simp only [updateRun, hstep, Option.some_or] at hupdate
  split_ifs at hupdate with hrun
  obtain rfl := Except.ok.inj hupdate
  refine ⟨hrun, ?_, ?_⟩
  · intro id name
    rw [OpsTables.step?_updateRunRow, OpsTables.step?_upsertStep]
  · intro id
    rw [OpsTables.run?_updateRunRow, OpsTables.run?_upsertStep]

theorem markStarted_step? (now : Timestamp) (tables : OpsTables) (runId id : RunId)
    (name : String) (hrun : (tables.run? runId).isSome) :
    (markStarted now tables runId hrun).step? id name =
      if id = runId ∧ name = "start" then some (startStep now (tables.step? id name))
      else tables.step? id name := by
  rw [markStarted, OpsTables.step?_upsertStep]
  split_ifs
  · cases tables.step? id name <;> rfl
  · rfl

/-- What `start_run` leaves when it returns a run: that run is going, under the
requested key, and no other run is touched. It had not succeeded before. -/
structure Started (now : Timestamp) (request : RunRequest) (runId : RunId)
    (tables started : OpsTables) : Prop where
  run : ∃ run, started.run? runId = some run ∧ run.status = .running ∧ run.endedAt = none ∧
    run.runKey = request.runKey
  others : ∀ id ≠ runId, started.run? id = tables.run? id
  steps : ∀ id name, started.step? id name =
    if id = runId ∧ name = "start" then some (startStep now (tables.step? id name))
    else tables.step? id name
  unfinished : tables.runStatus runId ≠ some .success
  source : (tables.sources.get? request.sourceName).isSome
  sources : started.sources = tables.sources

/-- `start_run` starts a run, or changes nothing because the source is unknown
or the run has succeeded. -/
theorem startRun_spec {now : Timestamp} {request : RunRequest} {tables next : OpsTables}
    {started : Option RunId} (hstart : startRun now request tables = .ok (started, next)) :
    started = none ∧ next = tables ∧
        (tables.sources.get? request.sourceName = none ∨
          ∃ runId run, tables.run? runId = some run ∧ run.runKey = request.runKey ∧
            run.status = .success) ∨
      ∃ runId, started = some runId ∧ Started now request runId tables next := by
  unfold startRun at hstart
  split at hstart
  next hsource =>
    simp only [Except.ok.injEq, Prod.mk.injEq] at hstart
    exact Or.inl ⟨hstart.1.symm, hstart.2.symm, Or.inl hsource⟩
  next sourceId hsource =>
    split at hstart
    next hfind =>
      -- a new run, under the next id of the sequence
      simp only [Except.ok.injEq, Prod.mk.injEq] at hstart
      obtain ⟨rfl, rfl⟩ := hstart
      have hnew : tables.run? tables.ingestionRuns.nextId = none := by
        by_contra hstored
        have hlt := tables.ingestionRuns.lt_nextId _
          ((Table.mem_keys_iff _ _).mpr (Option.isSome_iff_ne_none.mpr hstored))
        omega
      refine Or.inr ⟨_, rfl, ?_, ?_, ?_, ?_, by simp [hsource], rfl⟩
      · exact ⟨startedRun request sourceId now, by simp [markStarted], rfl, rfl, rfl⟩
      · intro id hid
        simp [markStarted, hid]
      · intro id name
        rw [markStarted_step?]
        rfl
      · simp [OpsTables.runStatus, hnew]
    next runId run hfind =>
      obtain ⟨hrun, hkey⟩ := runWithKey_eq_some hfind
      split_ifs at hstart with hsame hsuccess
      · simp only [Except.ok.injEq, Prod.mk.injEq] at hstart
        exact Or.inl ⟨hstart.1.symm, hstart.2.symm, Or.inr ⟨runId, run, hrun, hkey, hsuccess⟩⟩
      · simp only [Except.ok.injEq, Prod.mk.injEq] at hstart
        obtain ⟨rfl, rfl⟩ := hstart
        refine Or.inr ⟨_, rfl, ?_, ?_, ?_, ?_, by simp [hsource], rfl⟩
        · exact ⟨restartedRun request run, by simp [markStarted, hrun], rfl, rfl, hkey⟩
        · intro id hid
          simp [markStarted, hid]
        · intro id name
          rw [markStarted_step?]
          rfl
        · simp [OpsTables.runStatus, hrun, hsuccess]

theorem updateRun_sources {now : Timestamp} {runId : RunId} {report : StepReport}
    {tables next : OpsTables} (hupdate : updateRun now runId report tables = .ok next) :
    next.sources = tables.sources := by
  unfold updateRun at hupdate
  split at hupdate
  next => cases hupdate
  next =>
    split_ifs at hupdate
    obtain rfl := Except.ok.inj hupdate
    rfl

theorem updateRun_isOk (now : Timestamp) {runId : RunId} {report : StepReport}
    {stepName : String} (hstep : report.currentStep = some stepName) {tables : OpsTables}
    (hrun : (tables.run? runId).isSome) :
    ∃ next, updateRun now runId report tables = .ok next := by
  simp only [updateRun, hstep, Option.some_or, dif_pos hrun, Except.ok.injEq, exists_eq']

@[simp] theorem step?_failRun (now : Timestamp) (runId id : RunId) (errorCode name : String)
    (errorDetails : Option ErrorDetails) (notes : Option String) (tables : OpsTables) :
    (failRun now runId errorCode errorDetails notes tables).step? id name =
      tables.step? id name :=
  rfl

theorem run?_failRun (now : Timestamp) (runId id : RunId) (errorCode : String)
    (errorDetails : Option ErrorDetails) (notes : Option String) (tables : OpsTables) :
    (failRun now runId errorCode errorDetails notes tables).run? id =
      if id = runId then (tables.run? id).map (failedRun now errorCode errorDetails notes)
      else tables.run? id :=
  OpsTables.run?_updateRunRow _ _ _ _ _

end OpsRepository

end AutoMana.Ops
