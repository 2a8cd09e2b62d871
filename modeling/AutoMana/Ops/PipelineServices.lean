import AutoMana.Ops.OpsRepository

/-!
# The pipeline services and the connection they run on

A service runs on one connection. What it wrote before it raised is committed
or rolled back as its registration says: each statement by itself, or all of
them in one transaction around the call. `track_step` writes on that same
connection.
-/

namespace AutoMana.Ops

open OpsRepository

/-- The run tables, and everything else a service reads and writes. -/
structure Database (D : Type) where
  ops : OpsTables
  data : D

/-- A coroutine on a connection: it returns or raises, and either way leaves the
database as its statements made it. -/
abbrev Service (D α : Type) := EStateM String (Database D) α

variable {D α : Type}

def execute (statement : OpsTables → Except String OpsTables) : Service D Unit := fun db =>
  match statement db.ops with
  | .ok ops => .ok () { db with ops }
  | .error exception => .error exception db

/-- The database a service leaves, whether it returns or raises. -/
def after (service : Service D α) (db : Database D) : Database D :=
  match service db with
  | .ok _ db => db
  | .error _ db => db

/-- The exception a service raises, if any. -/
def raised (service : Service D α) (db : Database D) : Option String :=
  match service db with
  | .ok _ _ => none
  | .error exception _ => some exception

/-- The times of the statements of one `track_step`. -/
structure StepClock where
  entered : Timestamp
  closed : Timestamp
  runFailed : Timestamp

def runningReport (stepName : String) : StepReport where
  status := some .running
  currentStep := some stepName
  errorCode := none
  errorDetails := none
  notes := none

def failedReport (stepName errorCode exception : String) : StepReport where
  status := some .failed
  currentStep := some stepName
  errorCode := some errorCode
  errorDetails := some ⟨exception, none⟩
  notes := none

def successReport (stepName : String) : StepReport where
  status := some .success
  currentStep := some stepName
  errorCode := none
  errorDetails := none
  notes := none

def enterStep (clock : StepClock) (runId : RunId) (stepName : String) : Service D Unit :=
  execute (updateRun clock.entered runId (runningReport stepName))

def closeStep (clock : StepClock) (runId : RunId) (stepName : String) : Service D Unit :=
  execute (updateRun clock.closed runId (successReport stepName))

/-- The `except` branch, up to its re-raise. -/
def recordFailure (clock : StepClock) (runId : RunId) (stepName errorCode exception : String) :
    Service D Unit := do
  execute (updateRun clock.closed runId (failedReport stepName errorCode exception))
  execute fun ops => .ok
    (failRun clock.runFailed runId errorCode (some ⟨exception, some stepName⟩) none ops)

/-- `track_step` around a body. Run ids are drawn from 1 on, so only a missing
one is falsy. -/
def trackStep (clock : StepClock) (runId : Option RunId) (stepName errorCode : String)
    (body : Service D α) : Service D α :=
  match runId with
  | none => body
  | some runId => do
    enterStep clock runId stepName
    fun db =>
      match body db with
      | .ok value db => (do closeStep clock runId stepName; return value) db
      | .error exception db =>
        (do recordFailure clock runId stepName errorCode exception; throw exception) db

/-! ## ServiceManager -/

structure ServiceConfig where
  runsInTransaction : Bool := true

/-- `ServiceManager.transaction`: commit on return, roll back and re-raise on an
exception. -/
def transaction (body : Service D α) : Service D α := fun db =>
  match body db with
  | .ok value db => .ok value db
  | .error exception _ => .error exception db

def executeService (config : ServiceConfig) (body : Service D α) : Service D α :=
  if config.runsInTransaction then transaction body else body

/-! ## Services over runs -/

/-- `is_run_active`. -/
def isRunActive (runKey : String) (ops : OpsTables) : Bool :=
  match getRunStatusForKey runKey ops with
  | some .running | some .success => true
  | _ => false

/-- `reconcile_orphaned_runs`. -/
def reconcileOrphanedRuns (now : Timestamp) (ops : OpsTables) : OpsTables :=
  (getRunningIngestionRuns ops).foldl (fun ops runId =>
    failRun now runId "orphaned_by_restart"
      (some ⟨"Worker restarted while run was in progress", none⟩) none ops) ops

end AutoMana.Ops
