import AutoMana.Ops.PipelineServices

/-!
# What is left of a failed step

`track_step` records a failure on the connection of the service that failed.
Under the default registration that connection is inside a transaction, and the
exception that `track_step` re-raises rolls the record back. Without the
transaction the record stands, unless the step's row is already closed as a
success, which no later report changes.
-/

namespace AutoMana.Ops

open OpsRepository Relational

variable {D : Type}

/-- The step row and the run row say `'failed'`, and the run has ended. -/
def FailureRecorded (runId : RunId) (stepName : String) (ops : OpsTables) : Prop :=
  (∃ step, ops.step? runId stepName = some step ∧ step.status = .failed) ∧
  ∃ run, ops.run? runId = some run ∧ run.status = .failed ∧ run.endedAt.isSome

/-- With a transaction around the call, what was recorded before it; without
one, the run exists when the body raises and the step is not closed as a success. -/
def FailureSurvives (config : ServiceConfig) (runId : RunId) (stepName : String)
    (called raised : OpsTables) : Prop :=
  if config.runsInTransaction then FailureRecorded runId stepName called
  else (raised.run? runId).isSome ∧
    ∀ step, raised.step? runId stepName = some step → step.status ≠ .success

theorem failed_mergeStep_iff (now : Timestamp) (stepName errorCode exception : String)
    (stored : RunStep) :
    (mergeStep now stored (reportedStep now (failedReport stepName errorCode exception))).status =
      .failed ↔ stored.status ≠ .success := by
  by_cases hsuccess : stored.status = .success
  · simp [mergeStep, hsuccess]
  · simp [mergeStep, hsuccess, reportedStep, failedReport]

/-- The `except` branch records the failure of a stored run exactly when the
step is not closed as a success. -/
theorem recordFailure_spec (clock : StepClock) (runId : RunId)
    (stepName errorCode exception : String) (raised : Database D) :
    ∃ exception' committed,
      (do recordFailure clock runId stepName errorCode exception
          throw exception : Service D Unit) raised = .error exception' committed ∧
      (FailureRecorded runId stepName committed.ops ↔
        (raised.ops.run? runId).isSome ∧
          ∀ step, raised.ops.step? runId stepName = some step → step.status ≠ .success) := by
  have hcurrent : (failedReport stepName errorCode exception).currentStep = some stepName := rfl
  cases hupdate : updateRun clock.closed runId (failedReport stepName errorCode exception)
      raised.ops with
  | error rejected =>
      -- the run is gone, and with it everything there is to record
      refine ⟨rejected, raised, ?_, ?_⟩
      · simp [recordFailure, execute, bind, EStateM.bind, hupdate]
      · have hgone : (raised.ops.run? runId).isSome = false := by
          by_contra hrun
          obtain ⟨next, hnext⟩ := updateRun_isOk clock.closed hcurrent
            (Bool.not_eq_false _ ▸ hrun)
          rw [hupdate] at hnext
          cases hnext
        rw [Option.isSome_eq_false_iff, Option.isNone_iff_eq_none] at hgone
        simp [FailureRecorded, hgone]
  | ok updated =>
      refine ⟨exception, ⟨failRun clock.runFailed runId errorCode
        (some ⟨exception, some stepName⟩) none updated, raised.data⟩, ?_, ?_⟩
      · simp [recordFailure, execute, bind, EStateM.bind, hupdate]
        rfl
      · obtain ⟨hrun, hsteps, hruns⟩ := updateRun_spec hcurrent hupdate
        obtain ⟨run, hrun⟩ := Option.isSome_iff_exists.mp hrun
        simp only [FailureRecorded, step?_failRun, run?_failRun, hsteps, hruns, and_self, if_true,
          hrun]
        cases hstep : raised.ops.step? runId stepName with
        | none => simp [failedRun, Table.reconcile, reportedStep, failedReport]
        | some stored =>
            have hmerge := failed_mergeStep_iff clock.closed stepName errorCode exception stored
            simp [failedRun, Table.reconcile, hmerge]

theorem trackStep_of_raises {clock : StepClock} {runId : RunId} {stepName : String}
    {body : Service D Unit} {started entered raised : Database D} {exception : String}
    (hentered : enterStep clock runId stepName started = .ok () entered)
    (hraised : body entered = .error exception raised) (errorCode : String) :
    trackStep clock (some runId) stepName errorCode body started =
      (do recordFailure clock runId stepName errorCode exception
          throw exception : Service D Unit) raised := by
  simp only [trackStep, bind, EStateM.bind, hentered, hraised]

/-- A service that has entered a step and raises inside it leaves the failure
recorded exactly when its registration and the step's row let the record
survive. -/
theorem failed_step_recorded_iff (config : ServiceConfig) (clock : StepClock) (runId : RunId)
    (stepName errorCode : String) (before body : Service D Unit)
    {called started entered raised : Database D} {exception : String}
    (hstarted : before called = .ok () started)
    (hentered : enterStep clock runId stepName started = .ok () entered)
    (hraised : body entered = .error exception raised) :
    ∃ exception' committed,
      executeService config (do before; trackStep clock (some runId) stepName errorCode body)
        called = .error exception' committed ∧
      (FailureRecorded runId stepName committed.ops ↔
        FailureSurvives config runId stepName called.ops raised.ops) := by
  obtain ⟨exception', recorded, hrecord, hiff⟩ :=
    recordFailure_spec clock runId stepName errorCode exception raised
  have hbody : (do before; trackStep clock (some runId) stepName errorCode body) called =
      .error exception' recorded := by
    rw [← hrecord, ← trackStep_of_raises hentered hraised errorCode]
    simp only [bind, EStateM.bind, hstarted]
  unfold executeService FailureSurvives
  split_ifs with htransaction
  · -- the re-raised exception takes the record with it
    exact ⟨exception', called, by simp only [transaction, hbody], Iff.rfl⟩
  · exact ⟨exception', recorded, hbody, hiff⟩

/-! ### One failed step -/

/-- A pipeline source and one run of it, in progress. -/
def oneRun : OpsTables where
  sources := ⟨[("mtgjson", 1)], by decide⟩
  ingestionRuns := SerialTable.empty.insert
    [startedRun ⟨"mtgjson_daily", "mtgjson", "mtgjson_daily:2026-01-01", none, none⟩ 1 0]
  runKey_unique := by decide
  runSteps := .empty
  runSteps_run := by decide

def stepTimes : StepClock := ⟨1, 2, 3⟩

/-- The stream of a step breaks off after some writes to its own tables. -/
def brokenStream : Service Nat Unit := fun db => .error "stream ended" { db with data := 5 }

/-- The database when the broken stream raises. -/
def brokenAt (stepName : String) : Database Nat :=
  match enterStep stepTimes 1 stepName ⟨oneRun, 0⟩ with
  | .ok _ db => { db with data := 5 }
  | .error _ db => db

/-- A registration without a transaction keeps the record of a broken step. -/
theorem failed_step_recorded_autocommit :
    ∃ exception committed,
      executeService ⟨false⟩
        (do pure (); trackStep stepTimes (some 1) "retry_rejects" "step_failed" brokenStream)
        ⟨oneRun, 0⟩ = .error exception committed ∧
      FailureRecorded 1 "retry_rejects" committed.ops := by
  have hstarted : (pure () : Service Nat Unit) ⟨oneRun, 0⟩ = .ok () ⟨oneRun, 0⟩ := rfl
  obtain ⟨exception, committed, hcommitted, hiff⟩ :=
    failed_step_recorded_iff ⟨false⟩ stepTimes 1 "retry_rejects" "step_failed" (pure ())
      brokenStream hstarted rfl rfl
  refine ⟨exception, committed, hcommitted, hiff.mpr ⟨by decide, ?_⟩⟩
  have hrunning : ((brokenAt "retry_rejects").ops.step? 1 "retry_rejects").map (·.status) =
      some .running := by decide
  intro step hstep
  change (brokenAt "retry_rejects").ops.step? 1 "retry_rejects" = some step at hstep
  rw [hstep, Option.map_some, Option.some.injEq] at hrunning
  simp [hrunning]

/-- Under the default registration the record of the broken step is rolled back. -/
theorem failed_step_rolled_back :
    ¬ ∀ (config : ServiceConfig) (clock : StepClock) (runId : RunId)
      (stepName errorCode : String) (body : Service Nat Unit)
      (called entered raised committed : Database Nat) (exception exception' : String),
      enterStep clock runId stepName called = .ok () entered →
      body entered = .error exception raised →
      executeService config (trackStep clock (some runId) stepName errorCode body) called =
        .error exception' committed →
      FailureRecorded runId stepName committed.ops := by
  intro hrecorded
  obtain ⟨-, run, hrun, hstatus, -⟩ := hrecorded {} stepTimes 1 "stream_to_staging"
    "stream_to_staging_failed" brokenStream ⟨oneRun, 0⟩ _ (brokenAt "stream_to_staging")
    ⟨oneRun, 0⟩ "stream ended" "stream ended" rfl rfl rfl
  have hrunning : (oneRun.run? 1).map (·.status) = some .running := by decide
  rw [hrun, Option.map_some, hstatus] at hrunning
  cases hrunning

end AutoMana.Ops
