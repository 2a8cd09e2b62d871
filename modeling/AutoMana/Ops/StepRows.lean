import AutoMana.Ops.PipelineServices
import AutoMana.Relational.Runs

/-!
# What the step rows of a run say

Each execution of a step under `track_step` reports its start and its end to
one row per step name. The report is an upsert that leaves a row alone once it
says `'success'`, keeps an error code it is not given, and keeps the end time of
an earlier attempt. So the rows of a run tell the truth about the latest
execution of every step as long as no step name comes a second time.
-/

namespace AutoMana.Ops

open OpsRepository Relational

/-- One use of `track_step`: its arguments, its times, and the exception its
body raises, if any. -/
structure StepExecution where
  stepName : String
  errorCode : String
  exception : Option String
  clock : StepClock

/-- The statements `track_step` commits one after the other. -/
inductive StepWrite where
  | enter (execution : StepExecution)
  | close (execution : StepExecution)
  | failRun (execution : StepExecution) (exception : String)

def stepWrites (execution : StepExecution) : List StepWrite :=
  [.enter execution, .close execution] ++
    (execution.exception.map (StepWrite.failRun execution)).toList

/-- How far the latest execution of a step has come. -/
inductive Attempt where
  | inProgress
  | succeeded
  | failed
deriving DecidableEq, Repr

def Attempt.status : Attempt → Status
  | .inProgress => .running
  | .succeeded => .success
  | .failed => .failed

def StepExecution.outcome (execution : StepExecution) : Attempt :=
  if execution.exception.isSome then .failed else .succeeded

/-- The run tables, and the latest execution of every step name so far. -/
structure StepLog where
  ops : OpsTables
  latest : String → Option Attempt

def closingReport (execution : StepExecution) : StepReport :=
  match execution.exception with
  | none => successReport execution.stepName
  | some exception => failedReport execution.stepName execution.errorCode exception

theorem closingReport_currentStep (execution : StepExecution) :
    (closingReport execution).currentStep = some execution.stepName := by
  unfold closingReport
  split <;> rfl

/-- A committed statement; one that raises changes nothing. -/
def commit (statement : OpsTables → Except String OpsTables) (ops : OpsTables) : OpsTables :=
  match statement ops with
  | .ok next => next
  | .error _ => ops

def stepWrite (runId : RunId) (log : StepLog) : StepWrite → StepLog
  | .enter execution => {
      ops := commit (updateRun execution.clock.entered runId
        (runningReport execution.stepName)) log.ops
      latest := Function.update log.latest execution.stepName (some .inProgress) }
  | .close execution => {
      ops := commit (updateRun execution.clock.closed runId (closingReport execution)) log.ops
      latest := Function.update log.latest execution.stepName (some execution.outcome) }
  | .failRun execution exception =>
    { log with
      ops := OpsRepository.failRun execution.clock.runFailed runId execution.errorCode
        (some ⟨exception, some execution.stepName⟩) none log.ops }

/-- A row has no end exactly while it says `'running'`, and no error when it
says `'success'`. -/
structure Consistent (step : RunStep) : Prop where
  ended : step.endedAt = none ↔ step.status = .running
  clean : step.status = .success → step.errorCode = none

/-- The row of a step name agrees with its latest execution. A name without one
may have a closed row from before. -/
def RowTells : Option Attempt → Option RunStep → Prop
  | none, row => ∀ step ∈ row, step.status ≠ .running ∧ Consistent step
  | some attempt, row => ∃ step ∈ row, step.status = attempt.status ∧ Consistent step

def TellsTruth (runId : RunId) (log : StepLog) : Prop :=
  ∀ stepName, RowTells (log.latest stepName) (log.ops.step? runId stepName)

/-- The run exists, its rows tell the truth, and no step is in progress. -/
structure Settled (runId : RunId) (log : StepLog) : Prop where
  run : (log.ops.run? runId).isSome
  truth : TellsTruth runId log
  idle : ∀ stepName, log.latest stepName ≠ some .inProgress

/-! ## One statement -/

theorem commit_updateRun {now : Timestamp} {runId : RunId} {report : StepReport}
    {stepName : String} (hstep : report.currentStep = some stepName) {ops : OpsTables}
    (hrun : (ops.run? runId).isSome) :
    ((commit (updateRun now runId report) ops).run? runId).isSome ∧
    ∀ name, (commit (updateRun now runId report) ops).step? runId name =
      if name = stepName then
        Table.reconcile (mergeStep now) (ops.step? runId name) (some (reportedStep now report))
      else ops.step? runId name := by
  obtain ⟨next, hnext⟩ := updateRun_isOk now hstep hrun
  obtain ⟨-, hsteps, hruns⟩ := updateRun_spec hstep hnext
  simp only [commit, hnext]
  constructor
  · rw [hruns, if_pos rfl, Option.isSome_map]
    exact hrun
  · intro name
    rw [hsteps]
    simp

/-- A row that is there already does not say that its step is running: a success
is kept, and another closed row keeps its end. -/
theorem not_tells_reentered {now : Timestamp} {stepName : String} {stored : RunStep}
    {attempt : Option Attempt} (htells : RowTells attempt (some stored))
    (hidle : attempt ≠ some .inProgress) :
    ¬ RowTells (some .inProgress)
      (some (mergeStep now stored (reportedStep now (runningReport stepName)))) := by
  have hclosed : stored.status ≠ .running ∧ Consistent stored := by
    cases attempt with
    | none => exact htells stored rfl
    | some attempt =>
        obtain ⟨step, hstep, hstatus, hconsistent⟩ := htells
        obtain rfl : stored = step := Option.some.inj hstep
        refine ⟨?_, hconsistent⟩
        rw [hstatus]
        cases attempt <;> simp_all [Attempt.status]
  obtain ⟨hnotRunning, hconsistent⟩ := hclosed
  rintro ⟨merged, hmerge, hstatus, hmerged⟩
  obtain rfl := Option.some.inj hmerge
  by_cases hsuccess : stored.status = .success
  · simp [mergeStep, hsuccess, Attempt.status] at hstatus
  · have hended := hmerged.ended.mpr hstatus
    simp only [mergeStep, hsuccess, if_false, reportedStep, runningReport, Option.getD_some,
      Status.closes] at hended
    exact hnotRunning (hconsistent.ended.mp hended)

/-- The row of a first execution, from its start to its end. -/
theorem tells_closed (execution : StepExecution) :
    RowTells (some execution.outcome)
      (some (mergeStep execution.clock.closed
        (reportedStep execution.clock.entered (runningReport execution.stepName))
        (reportedStep execution.clock.closed (closingReport execution)))) := by
  refine ⟨_, rfl, ?_⟩
  cases hexception : execution.exception with
  | none =>
      simp only [mergeStep, reportedStep, runningReport, closingReport, hexception, successReport,
        StepExecution.outcome]
      exact ⟨rfl, ⟨by simp [Status.closes], fun _ => rfl⟩⟩
  | some exception =>
      simp only [mergeStep, reportedStep, runningReport, closingReport, hexception, failedReport,
        StepExecution.outcome]
      exact ⟨rfl, ⟨by simp [Status.closes], by simp⟩⟩

/-! ## One execution -/

/-- Failing the run touches no step. -/
theorem settled_failRun {runId : RunId} {log : StepLog} (hsettled : Settled runId log)
    (execution : StepExecution) (exception : String) :
    Settled runId (stepWrite runId log (.failRun execution exception)) where
  run := by
    have hsome := OpsTables.isSome_run?_updateRunRow log.ops runId runId _
      (failedRun_runKey execution.clock.runFailed execution.errorCode
        (some ⟨exception, some execution.stepName⟩) none)
    exact hsome.trans hsettled.run
  truth := hsettled.truth
  idle := hsettled.idle

theorem tellsTruth_of_update (stepName : String) {runId : RunId} {log next : StepLog}
    (htruth : TellsTruth runId log)
    (hothers : ∀ name ≠ stepName, next.latest name = log.latest name ∧
      next.ops.step? runId name = log.ops.step? runId name)
    (hrow : RowTells (next.latest stepName) (next.ops.step? runId stepName)) :
    TellsTruth runId next := by
  intro name
  by_cases hname : name = stepName
  · rw [hname]
    exact hrow
  · rw [(hothers name hname).1, (hothers name hname).2]
    exact htruth name

section Execution

variable {runId : RunId} {log : StepLog} (execution : StepExecution)

theorem enter_spec (hrun : (log.ops.run? runId).isSome) :
    ((stepWrite runId log (.enter execution)).ops.run? runId).isSome ∧
    ∀ name, (stepWrite runId log (.enter execution)).ops.step? runId name =
      if name = execution.stepName then
        Table.reconcile (mergeStep execution.clock.entered) (log.ops.step? runId name)
          (some (reportedStep execution.clock.entered (runningReport execution.stepName)))
      else log.ops.step? runId name :=
  commit_updateRun rfl hrun

theorem close_spec (hrun : (log.ops.run? runId).isSome) :
    ((stepWrite runId log (.close execution)).ops.run? runId).isSome ∧
    ∀ name, (stepWrite runId log (.close execution)).ops.step? runId name =
      if name = execution.stepName then
        Table.reconcile (mergeStep execution.clock.closed) (log.ops.step? runId name)
          (some (reportedStep execution.clock.closed (closingReport execution)))
      else log.ops.step? runId name :=
  commit_updateRun (closingReport_currentStep execution) hrun

/-- A first execution keeps the rows true at every statement. -/
theorem firstExecution_tells (hsettled : Settled runId log)
    (hfirst : log.ops.step? runId execution.stepName = none) :
    (∀ next ∈ Run.visited (stepWrite runId) log (stepWrites execution), TellsTruth runId next) ∧
    Settled runId ((stepWrites execution).foldl (stepWrite runId) log) ∧
    ∀ name, ((stepWrites execution).foldl (stepWrite runId) log).ops.step? runId name = none ↔
      name ≠ execution.stepName ∧ log.ops.step? runId name = none := by
  obtain ⟨hentered, henteredSteps⟩ := enter_spec execution hsettled.run
  obtain ⟨hclosed, hclosedSteps⟩ := close_spec execution hentered
  set entered := stepWrite runId log (.enter execution) with henteredDef
  set closed := stepWrite runId entered (.close execution) with hclosedDef
  have henteredTruth : TellsTruth runId entered := by
    refine tellsTruth_of_update execution.stepName hsettled.truth ?_ ?_
    · intro name hname
      rw [henteredSteps, if_neg hname]
      exact ⟨Function.update_of_ne hname _ _, rfl⟩
    · rw [henteredSteps, if_pos rfl, hfirst, henteredDef]
      simp only [stepWrite, Function.update_self]
      exact ⟨_, rfl, rfl, ⟨by simp [reportedStep, runningReport, Status.closes], by
        simp [reportedStep, runningReport]⟩⟩
  have hclosedTruth : TellsTruth runId closed := by
    refine tellsTruth_of_update execution.stepName henteredTruth ?_ ?_
    · intro name hname
      rw [hclosedSteps, if_neg hname]
      exact ⟨Function.update_of_ne hname _ _, rfl⟩
    · rw [hclosedSteps, if_pos rfl, henteredSteps, if_pos rfl, hfirst, hclosedDef]
      simp only [stepWrite, Function.update_self]
      exact tells_closed execution
  have hsettledClosed : Settled runId closed := by
    refine ⟨hclosed, hclosedTruth, ?_⟩
    intro name
    by_cases hname : name = execution.stepName
    · simp only [hclosedDef, stepWrite, hname, Function.update_self, StepExecution.outcome]
      split_ifs <;> simp
    · simp only [hclosedDef, henteredDef, stepWrite, Function.update_of_ne hname]
      exact hsettled.idle name
  have hnames : ∀ name, closed.ops.step? runId name = none ↔
      name ≠ execution.stepName ∧ log.ops.step? runId name = none := by
    intro name
    rw [hclosedSteps, henteredSteps]
    by_cases hname : name = execution.stepName
    · simp [hname, hfirst, Table.reconcile]
    · simp [hname]
  unfold stepWrites
  cases execution.exception with
  | none =>
      refine ⟨?_, hsettledClosed, hnames⟩
      simp only [Option.map_none, Option.toList_none, List.append_nil, Run.visited, List.mem_cons,
        List.not_mem_nil, or_false, forall_eq_or_imp, forall_eq]
      exact ⟨hsettled.truth, henteredTruth, hclosedTruth⟩
  | some exception =>
      have hfailed := settled_failRun hsettledClosed execution exception
      refine ⟨?_, hfailed, hnames⟩
      simp only [Option.map_some, Option.toList_some, List.cons_append, List.nil_append,
        Run.visited, List.mem_cons, List.not_mem_nil, or_false, forall_eq_or_imp, forall_eq]
      exact ⟨hsettled.truth, henteredTruth, hclosedTruth, hfailed.truth⟩

/-- A step whose name has a row does not tell the truth once it is entered. -/
theorem repeatedExecution_misleads (hsettled : Settled runId log)
    (hrepeated : log.ops.step? runId execution.stepName ≠ none) :
    ¬ ∀ next ∈ Run.visited (stepWrite runId) log (stepWrites execution),
      TellsTruth runId next := by
  intro htruth
  obtain ⟨stored, hstored⟩ := Option.ne_none_iff_exists'.mp hrepeated
  have htells := htruth (stepWrite runId log (.enter execution))
    (by simp [stepWrites, Run.visited]) execution.stepName
  rw [(enter_spec execution hsettled.run).2, if_pos rfl, hstored] at htells
  simp only [stepWrite, Function.update_self] at htells
  have hbefore := hsettled.truth execution.stepName
  rw [hstored] at hbefore
  exact not_tells_reentered hbefore (hsettled.idle execution.stepName) htells

end Execution

/-- `track_step` around a body that leaves the run tables alone commits the
statements of its execution. -/
theorem trackStep_commits {D α : Type} {runId : RunId} {execution : StepExecution}
    {body : Service D α} {db : Database D} (hrun : (db.ops.run? runId).isSome)
    (hops : ∀ db, (after body db).ops = db.ops)
    (hraised : ∀ db, raised body db = execution.exception) (latest : String → Option Attempt) :
    (after (trackStep execution.clock (some runId) execution.stepName execution.errorCode body)
        db).ops =
      ((stepWrites execution).foldl (stepWrite runId) ⟨db.ops, latest⟩).ops := by
  obtain ⟨entered, hentered⟩ := updateRun_isOk execution.clock.entered
    (show (runningReport execution.stepName).currentStep = some execution.stepName from rfl) hrun
  have henteredRun : (entered.run? runId).isSome := by
    rw [(updateRun_spec rfl hentered).2.2, if_pos rfl, Option.isSome_map]
    exact hrun
  have hbody := hops { db with ops := entered }
  have hexception := hraised { db with ops := entered }
  cases hresult : body { db with ops := entered } with
  | ok value next =>
      simp only [after, raised, hresult] at hbody hexception
      simp only [after, trackStep, enterStep, closeStep, execute, bind, EStateM.bind, hentered,
        hresult, stepWrites, ← hexception, Option.map_none, Option.toList_none, List.append_nil,
        List.foldl_cons, List.foldl_nil, stepWrite, commit, closingReport, hbody]
      cases updateRun execution.clock.closed runId (successReport execution.stepName) entered with
      | ok closed => rfl
      | error rejected => exact hbody
  | error exception next =>
      obtain ⟨closed, hclosed⟩ := updateRun_isOk execution.clock.closed
        (show (failedReport execution.stepName execution.errorCode exception).currentStep =
          some execution.stepName from rfl) henteredRun
      simp only [after, raised, hresult] at hbody hexception
      simp only [after, trackStep, enterStep, recordFailure, execute, bind, EStateM.bind, hentered,
        hresult, stepWrites, ← hexception, Option.map_some, Option.toList_some, List.cons_append,
        List.nil_append, List.foldl_cons, List.foldl_nil, stepWrite, commit, closingReport, hbody,
        hclosed]
      rfl

/-! ## All executions of a run -/

/-- From settled rows, the rows tell the truth after every statement of a
sequence of executions exactly when no execution has the name of another or of a
row that was there before. -/
theorem step_rows_tell_truth_iff (runId : RunId) (log : StepLog)
    (executions : List StepExecution) (hsettled : Settled runId log) :
    (∀ next ∈ Run.visited (stepWrite runId) log (executions.flatMap stepWrites),
        TellsTruth runId next) ↔
      (executions.map (·.stepName)).Nodup ∧
        ∀ execution ∈ executions, log.ops.step? runId execution.stepName = none := by
  induction executions generalizing log with
  | nil => simpa [Run.visited] using hsettled.truth
  | cons execution rest ih =>
      rw [List.flatMap_cons, Run.forall_visited_append, List.map_cons, List.nodup_cons,
        List.forall_mem_cons]
      by_cases hfirst : log.ops.step? runId execution.stepName = none
      · obtain ⟨htells, hnext, hnames⟩ := firstExecution_tells execution hsettled hfirst
        rw [ih _ hnext]
        simp only [hnames]
        constructor
        · rintro ⟨-, hnodup, hothers⟩
          refine ⟨⟨?_, hnodup⟩, hfirst, fun other hother => (hothers other hother).2⟩
          intro hmem
          obtain ⟨other, hother, hsame⟩ := List.mem_map.mp hmem
          exact (hothers other hother).1 hsame
        · rintro ⟨⟨hnotMem, hnodup⟩, -, hothers⟩
          refine ⟨htells, hnodup, fun other hother => ⟨?_, hothers other hother⟩⟩
          intro hsame
          exact hnotMem (List.mem_map.mpr ⟨other, hother, hsame⟩)
      · have hmisleads := repeatedExecution_misleads execution hsettled hfirst
        exact ⟨fun htruth => absurd htruth.1 hmisleads, fun hfirsts => absurd hfirsts.2.1 hfirst⟩

/-- The rows of a run that `start_run` has just created are settled. -/
theorem settled_startRun {now : Timestamp} {request : RunRequest} {tables started : OpsTables}
    {runId : RunId} (hnew : tables.run? runId = none)
    (hstart : startRun now request tables = .ok (some runId, started)) :
    Settled runId ⟨started, fun _ => none⟩ := by
  rcases startRun_spec hstart with ⟨hnone, -⟩ | ⟨_, hsome, hstarted⟩
  · cases hnone
  · obtain rfl := Option.some.inj hsome
    obtain ⟨run, hrun, -⟩ := hstarted.run
    refine ⟨by simp [hrun], ?_, by simp⟩
    intro stepName step hstep
    rw [hstarted.steps, OpsTables.step?_of_run?_eq_none hnew] at hstep
    split_ifs at hstep
    · obtain rfl := Option.some.inj hstep
      exact ⟨by simp [startStep], ⟨by simp [startStep], fun _ => rfl⟩⟩
    · cases hstep

/-! ### The load of several markets -/

/-- A database that has seen no run yet. -/
def noRuns : OpsTables where
  sources := .single "mtgstocks" 1
  ingestionRuns := .empty
  runKey_unique := List.nodup_nil
  runSteps := .empty
  runSteps_run := by simp [Table.empty]

def loadRequest : RunRequest where
  pipelineName := "mtgstock_incremental_load"
  sourceName := "mtgstocks"
  runKey := "mtgStock_load:2026-01-01"
  celeryTaskId := none
  notes := none

/-- The load of the day, just started as run 1. -/
def startedLoad : OpsTables :=
  match startRun 0 loadRequest noRuns with
  | .ok (_, started) => started
  | .error _ => noRuns

def cleanExecution (stepName : String) : StepExecution where
  stepName := stepName
  errorCode := "step_failed"
  exception := none
  clock := ⟨10, 20, 20⟩

/-- One market: every step comes once. -/
theorem step_rows_tell_truth_one_market :
    Settled 1 ⟨startedLoad, fun _ => none⟩ ∧
      ∀ next ∈ Run.visited (stepWrite 1) ⟨startedLoad, fun _ => none⟩
        ([cleanExecution "bulk_load", cleanExecution "raw_to_staging"].flatMap stepWrites),
        TellsTruth 1 next := by
  have hsettled : Settled 1 ⟨startedLoad, fun _ => none⟩ :=
    settled_startRun (show noRuns.run? 1 = none by rfl)
      (show startRun 0 loadRequest noRuns = .ok (some 1, startedLoad) by rfl)
  refine ⟨hsettled, (step_rows_tell_truth_iff 1 _ _ hsettled).mpr ⟨by decide, ?_⟩⟩
  simp only [List.forall_mem_cons, List.not_mem_nil, false_imp_iff, implies_true, and_true]
  exact ⟨by decide, by decide⟩

/-- The log when the second market enters `bulk_load`. -/
def secondEntry : StepLog :=
  [StepWrite.enter (cleanExecution "bulk_load"), .close (cleanExecution "bulk_load"),
    .enter (cleanExecution "bulk_load")].foldl (stepWrite 1) ⟨startedLoad, fun _ => none⟩

/-- The second market enters `bulk_load` again, and the row still says `'success'`. -/
theorem second_market_misleads :
    ¬ ∀ (now : Timestamp) (request : RunRequest) (tables started : OpsTables) (runId : RunId)
      (executions : List StepExecution), tables.run? runId = none →
      startRun now request tables = .ok (some runId, started) →
      ∀ next ∈ Run.visited (stepWrite runId) ⟨started, fun _ => none⟩
        (executions.flatMap stepWrites), TellsTruth runId next := by
  intro htruth
  have hload := htruth 0 loadRequest noRuns startedLoad 1
    [cleanExecution "bulk_load", cleanExecution "bulk_load"] rfl rfl secondEntry
    (List.mem_cons_of_mem _ (List.mem_cons_of_mem _ (List.mem_cons_of_mem _ List.mem_cons_self)))
  have hlatest : secondEntry.latest "bulk_load" = some .inProgress := rfl
  have hsuccess : (secondEntry.ops.step? 1 "bulk_load").map (·.status) = some .success := by
    decide
  have htells := hload "bulk_load"
  rw [hlatest] at htells
  obtain ⟨step, hstep, hstatus, -⟩ := htells
  rw [Option.mem_def.mp hstep, Option.map_some, hstatus] at hsuccess
  cases hsuccess

end AutoMana.Ops
