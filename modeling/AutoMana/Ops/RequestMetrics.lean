import AutoMana.Relational.Runs
import AutoMana.Relational.Tally

/-!
# The metrics of the requests

Every process counts its requests in a buffer, in one bucket for each hour, endpoint and status
code. A flush run takes the buffer of its process, and then inserts a row for each bucket. The
insert is called with all values as arguments of their own, of which the repository takes one.
-/

namespace AutoMana.Ops

open Relational

/-- The counts of a `MetricBucket`. -/
structure MetricBucket where
  requestCount : Nat
  errorCount : Nat
  cacheHitCount : Nat
  deriving DecidableEq

def MetricBucket.empty : MetricBucket := ⟨0, 0, 0⟩

def MetricBucket.add (bucket : MetricBucket) (isError isCacheHit : Bool) : MetricBucket where
  requestCount := bucket.requestCount + 1
  errorCount := if isError then bucket.errorCount + 1 else bucket.errorCount
  cacheHitCount := if isCacheHit then bucket.cacheHitCount + 1 else bucket.cacheHitCount

structure CeleryMetricBucket where
  successCount : Nat
  failureCount : Nat
  deriving DecidableEq

def CeleryMetricBucket.add (bucket : CeleryMetricBucket) (isSuccess : Bool) :
    CeleryMetricBucket :=
  if isSuccess then { bucket with successCount := bucket.successCount + 1 }
  else { bucket with failureCount := bucket.failureCount + 1 }

structure ApiKey where
  hourKey : Int
  endpoint : String
  statusCode : Int
  deriving DecidableEq

structure TaskKey where
  hourKey : Int
  taskName : String
  deriving DecidableEq

structure MetricsBuffer where
  apiBuffer : Table ApiKey MetricBucket
  celeryBuffer : Table TaskKey CeleryMetricBucket

namespace MetricsBuffer

def empty : MetricsBuffer := ⟨.empty, .empty⟩

def addApiMetric (buffer : MetricsBuffer) (key : ApiKey) (isError isCacheHit : Bool) :
    MetricsBuffer :=
  let bucket := (buffer.apiBuffer.get? key).getD .empty
  { buffer with apiBuffer := buffer.apiBuffer.set key (bucket.add isError isCacheHit) }

def addCeleryMetric (buffer : MetricsBuffer) (key : TaskKey) (isSuccess : Bool) : MetricsBuffer :=
  let bucket := (buffer.celeryBuffer.get? key).getD ⟨0, 0⟩
  { buffer with celeryBuffer := buffer.celeryBuffer.set key (bucket.add isSuccess) }

end MetricsBuffer

/-- A row of `reporting.hourly_metrics`, with its counts. -/
structure MetricRow where
  hour : Int
  metricType : String
  endpoint : Option String
  taskName : Option String
  statusCode : Option Int
  requestCount : Nat
  errorCount : Nat
  cacheHitCount : Nat
  celerySuccessCount : Option Nat
  celeryFailureCount : Option Nat
  deriving DecidableEq

def apiRow (entry : ApiKey × MetricBucket) : MetricRow where
  hour := entry.1.hourKey * 3600
  metricType := "api_request"
  endpoint := some entry.1.endpoint
  taskName := none
  statusCode := some entry.1.statusCode
  requestCount := entry.2.requestCount
  errorCount := entry.2.errorCount
  cacheHitCount := entry.2.cacheHitCount
  celerySuccessCount := none
  celeryFailureCount := none

def celeryRow (entry : TaskKey × CeleryMetricBucket) : MetricRow where
  hour := entry.1.hourKey * 3600
  metricType := "celery_task"
  endpoint := none
  taskName := some entry.1.taskName
  statusCode := none
  requestCount := 0
  errorCount := 0
  cacheHitCount := 0
  celerySuccessCount := some entry.2.successCount
  celeryFailureCount := some entry.2.failureCount

/-- `metrics_to_insert` -/
def MetricsBuffer.metricsToInsert (buffer : MetricsBuffer) : List MetricRow :=
  buffer.apiBuffer.rows.map apiRow ++ buffer.celeryBuffer.rows.map celeryRow

/-! ## The insert -/

/-- Two columns of a unique constraint agree. A `NULL` agrees with nothing. -/
def agree {α : Type} [DecidableEq α] : Option α → Option α → Bool
  | some first, some second => first = second
  | _, _ => false

/-- `UNIQUE (hour, metric_type, endpoint, task_name, status_code)` -/
def MetricRow.conflicts (row stored : MetricRow) : Bool :=
  row.hour = stored.hour && row.metricType = stored.metricType &&
    agree row.endpoint stored.endpoint && agree row.taskName stored.taskName &&
    agree row.statusCode stored.statusCode

/-- `ON CONFLICT (...) DO NOTHING` -/
def insertRow (table : List MetricRow) (row : MetricRow) : List MetricRow :=
  if table.any row.conflicts then table else table ++ [row]

/-- The values of a row among the parameters. -/
def valuesPerRow : Nat := 16

/-- `execute_command(self, query, values=())` -/
def executeCommandTakes : Nat := 1

/-- `insert_hourly_metrics`; `none` when it raises. The repository's method is given all values
behind the query, and may take fewer. -/
def insertHourlyMetrics (takes : Nat) (databaseRaises : Bool) (rows table : List MetricRow) :
    Option (List MetricRow) :=
  if rows = [] then some table
  else if takes < valuesPerRow * rows.length then none
  else if databaseRaises then none
  else some (rows.foldl insertRow table)

/-! ## The processes -/

/-- What is counted. -/
inductive Counter where
  | requests
  | errors
  deriving DecidableEq

def MetricBucket.count (bucket : MetricBucket) : Counter → Nat
  | .requests => bucket.requestCount
  | .errors => bucket.errorCount

def MetricRow.count (row : MetricRow) : Counter → Nat
  | .requests => row.requestCount
  | .errors => row.errorCount

/-- The buffers of the processes, what the flush runs have taken and not inserted yet, and the
table. What was recorded is kept beside them. -/
structure MetricsState where
  buffers : Table Nat MetricsBuffer
  taken : Table Nat (List MetricRow)
  hourlyMetrics : List MetricRow
  recorded : Counter → Nat

namespace MetricsState

def initial : MetricsState := ⟨.empty, .empty, [], fun _ => 0⟩

def buffer (state : MetricsState) (process : Nat) : MetricsBuffer :=
  (state.buffers.get? process).getD .empty

end MetricsState

/-- What happens in a process: a request or a task is recorded, a flush run takes the buffer, or
its insert ends. -/
inductive MetricsEvent where
  | request (process : Nat) (key : ApiKey) (isError isCacheHit : Bool)
  | task (process : Nat) (key : TaskKey) (isSuccess : Bool)
  | take (run process : Nat)
  | insert (run : Nat) (databaseRaises : Bool)

/-- A request counts as one request, and as an error when it is one. -/
def counted (isError : Bool) : Counter → Nat
  | .requests => 1
  | .errors => if isError then 1 else 0

def MetricsState.step (takes : Nat) (state : MetricsState) : MetricsEvent → MetricsState
  | .request process key isError isCacheHit =>
    { state with
      buffers := state.buffers.set process
        ((state.buffer process).addApiMetric key isError isCacheHit)
      recorded := fun counter => state.recorded counter + counted isError counter }
  | .task process key isSuccess =>
    { state with
      buffers := state.buffers.set process ((state.buffer process).addCeleryMetric key isSuccess) }
  | .take run process =>
    if (state.taken.get? run).isSome then state
    else
      { state with
        buffers := state.buffers.set process .empty
        taken := state.taken.set run (state.buffer process).metricsToInsert }
  | .insert run databaseRaises =>
    match state.taken.get? run with
    | none => state
    | some rows =>
      { state with
        taken := state.taken.deleteWhere fun stored _ => stored = run
        hourlyMetrics := (insertHourlyMetrics takes databaseRaises rows state.hourlyMetrics).getD
          state.hourlyMetrics }

/-! ## The counts -/

def MetricsBuffer.count (buffer : MetricsBuffer) (counter : Counter) : Nat :=
  buffer.apiBuffer.tally (·.count counter)

namespace MetricsState

def stored (state : MetricsState) (counter : Counter) : Nat :=
  tally (·.count counter) state.hourlyMetrics

def buffered (state : MetricsState) (counter : Counter) : Nat :=
  state.buffers.tally (·.count counter)

/-- What the flush runs have taken out of the buffers and not inserted yet. -/
def inserting (state : MetricsState) (counter : Counter) : Nat :=
  state.taken.tally (tally (·.count counter))

/-- What is stored and what is buffered is what was recorded. -/
def Conserved (state : MetricsState) : Prop :=
  ∀ counter, state.stored counter + state.buffered counter = state.recorded counter

/-- The same with what the flush runs have yet to insert. -/
def Accounted (state : MetricsState) : Prop :=
  ∀ counter, state.stored counter + state.buffered counter + state.inserting counter =
    state.recorded counter

/-- A flush run finds nothing in the buffer of its process. -/
def TakesNothing (state : MetricsState) : MetricsEvent → Prop
  | .take run process =>
    state.taken.get? run = none → ∀ counter, (state.buffer process).count counter = 0
  | _ => True

/-- An insert that raises has no request among its rows. -/
def KeepsCounts (takes : Nat) (state : MetricsState) : MetricsEvent → Prop
  | .insert run databaseRaises => ∀ rows, state.taken.get? run = some rows →
    insertHourlyMetrics takes databaseRaises rows state.hourlyMetrics = none →
      ∀ counter, tally (·.count counter) rows = 0
  | _ => True

/-- A flush run that ends has taken no request. -/
def LosesNothing (state : MetricsState) : MetricsEvent → Prop
  | .insert run _ => ∀ rows, state.taken.get? run = some rows →
    ∀ counter, tally (·.count counter) rows = 0
  | _ => True

end MetricsState

section Counts

variable {counter : Counter}

theorem count_add (bucket : MetricBucket) (isError isCacheHit : Bool) :
    (bucket.add isError isCacheHit).count counter =
      bucket.count counter + counted isError counter := by
  cases counter with
  | requests => rfl
  | errors => cases isError <;> rfl

/-- A request that is recorded is counted in the buffer. -/
theorem count_addApiMetric (buffer : MetricsBuffer) (key : ApiKey) (isError isCacheHit : Bool) :
    (buffer.addApiMetric key isError isCacheHit).count counter =
      buffer.count counter + counted isError counter := by
  have hset := Table.tally_set (·.count counter) buffer.apiBuffer key
    (((buffer.apiBuffer.get? key).getD .empty).add isError isCacheHit)
  have hshare : buffer.apiBuffer.share (·.count counter) key =
      ((buffer.apiBuffer.get? key).getD .empty).count counter := by
    rw [Table.share]
    cases buffer.apiBuffer.get? key with
    | some bucket => rfl
    | none => cases counter <;> rfl
  rw [count_add, hshare] at hset
  dsimp only [MetricsBuffer.count, MetricsBuffer.addApiMetric]
  omega

theorem count_empty : MetricsBuffer.empty.count counter = 0 := rfl

/-- The rows of a flush have the counts of the buffer. -/
theorem tally_metricsToInsert (buffer : MetricsBuffer) :
    tally (·.count counter) buffer.metricsToInsert = buffer.count counter := by
  have hapi : ∀ entry : ApiKey × MetricBucket,
      (apiRow entry).count counter = entry.2.count counter := by
    intro entry
    cases counter <;> rfl
  have hcelery : tally (·.count counter) (buffer.celeryBuffer.rows.map celeryRow) = 0 := by
    refine tally_eq_zero ?_
    rintro row hrow
    obtain ⟨entry, -, rfl⟩ := List.mem_map.mp hrow
    cases counter <;> rfl
  rw [MetricsBuffer.metricsToInsert, tally_append, hcelery, tally_map, Nat.add_zero]
  simp only [hapi]
  rfl

/-- The rows of a flush have a `NULL` among the columns of the constraint. -/
theorem metricsToInsert_null {buffer : MetricsBuffer} {row : MetricRow}
    (hrow : row ∈ buffer.metricsToInsert) : row.taskName = none ∨ row.endpoint = none := by
  rw [MetricsBuffer.metricsToInsert, List.mem_append] at hrow
  rcases hrow with hrow | hrow
  · obtain ⟨entry, -, rfl⟩ := List.mem_map.mp hrow
    exact Or.inl rfl
  · obtain ⟨entry, -, rfl⟩ := List.mem_map.mp hrow
    exact Or.inr rfl

/-- So they conflict with no row, and all of them are inserted. -/
theorem foldl_insertRow {rows : List MetricRow}
    (hnull : ∀ row ∈ rows, row.taskName = none ∨ row.endpoint = none) (table : List MetricRow) :
    rows.foldl insertRow table = table ++ rows := by
  induction rows generalizing table with
  | nil => exact (List.append_nil table).symm
  | cons row rest ih =>
    rw [List.forall_mem_cons] at hnull
    have hconflicts : ∀ stored : MetricRow, row.conflicts stored = false := by
      intro stored
      rw [MetricRow.conflicts]
      rcases hnull.1 with hnull | hnull <;> simp [hnull, agree]
    have hany : table.any row.conflicts = false := by simp [hconflicts]
    rw [List.foldl_cons, insertRow, hany, if_neg Bool.false_ne_true, ih hnull.2,
      List.append_assoc, List.singleton_append]

/-- An insert that returns stores the counts of its rows. -/
theorem tally_insertHourlyMetrics {takes : Nat} {databaseRaises : Bool}
    {rows table next : List MetricRow}
    (hnull : ∀ row ∈ rows, row.taskName = none ∨ row.endpoint = none)
    (hinsert : insertHourlyMetrics takes databaseRaises rows table = some next) :
    tally (·.count counter) next =
      tally (·.count counter) table + tally (·.count counter) rows := by
  rw [insertHourlyMetrics] at hinsert
  split_ifs at hinsert with hempty
  · obtain rfl := Option.some.inj hinsert
    rw [hempty, tally_nil, Nat.add_zero]
  · obtain rfl := Option.some.inj hinsert
    rw [foldl_insertRow hnull, tally_append]

/-- The method takes fewer values than one row has. -/
theorem insertHourlyMetrics_raises {databaseRaises : Bool} {rows table : List MetricRow}
    (hrows : rows ≠ []) :
    insertHourlyMetrics executeCommandTakes databaseRaises rows table = none := by
  have hlength := List.length_pos_iff.mpr hrows
  rw [insertHourlyMetrics, if_neg hrows, if_pos]
  rw [executeCommandTakes, valuesPerRow]
  omega

end Counts

/-! ## One step -/

namespace MetricsState

/-- The rows that are taken conflict with nothing. -/
def Sound (state : MetricsState) : Prop :=
  ∀ run rows, state.taken.get? run = some rows →
    ∀ row ∈ rows, row.taskName = none ∨ row.endpoint = none

variable {takes : Nat} {state : MetricsState} {counter : Counter}

theorem sound_step (hsound : state.Sound) (event : MetricsEvent) :
    (state.step takes event).Sound := by
  cases event with
  | request => exact hsound
  | task => exact hsound
  | take run process =>
    rw [step]
    split_ifs
    · exact hsound
    · intro other rows htaken
      rw [Table.get?_set] at htaken
      split_ifs at htaken
      · obtain rfl := Option.some.inj htaken
        exact fun row => metricsToInsert_null
      · exact hsound other rows htaken
  | insert run databaseRaises =>
    rw [step]
    split
    · exact hsound
    · intro other rows htaken
      rw [Table.get?_deleteWhere, Option.filter_eq_some_iff] at htaken
      exact hsound other rows htaken.1

/-- A buffer that is changed changes the total by its own counts. -/
theorem tally_set_buffer (state : MetricsState) (process : Nat) (buffer : MetricsBuffer) :
    (state.buffers.set process buffer).tally (·.count counter) +
        (state.buffer process).count counter =
      state.buffered counter + buffer.count counter := by
  have hset := Table.tally_set (·.count counter) state.buffers process buffer
  have hshare : state.buffers.share (·.count counter) process =
      (state.buffer process).count counter := by
    rw [Table.share, MetricsState.buffer]
    cases state.buffers.get? process <;> rfl
  rw [← hshare]
  exact hset

/-- A recorded request adds to the buffers what it adds to the record. -/
theorem buffered_request (process : Nat) (key : ApiKey) (isError isCacheHit : Bool) :
    (state.step takes (.request process key isError isCacheHit)).buffered counter =
      state.buffered counter + counted isError counter := by
  have hset := @tally_set_buffer counter state process
    ((state.buffer process).addApiMetric key isError isCacheHit)
  rw [count_addApiMetric] at hset
  dsimp only [step, buffered] at hset ⊢
  omega

theorem buffered_task (process : Nat) (key : TaskKey) (isSuccess : Bool) :
    (state.step takes (.task process key isSuccess)).buffered counter =
      state.buffered counter := by
  have hset := @tally_set_buffer counter state process
    ((state.buffer process).addCeleryMetric key isSuccess)
  have hcount : ((state.buffer process).addCeleryMetric key isSuccess).count counter =
      (state.buffer process).count counter := rfl
  rw [hcount] at hset
  dsimp only [step, buffered] at hset ⊢
  omega

/-- A flush run moves the counts of a buffer to what it has yet to insert. -/
theorem counts_take {run process : Nat} (hnew : state.taken.get? run = none) :
    (state.step takes (.take run process)).buffered counter +
        (state.buffer process).count counter = state.buffered counter ∧
      (state.step takes (.take run process)).inserting counter =
        state.inserting counter + (state.buffer process).count counter := by
  have hset := @tally_set_buffer counter state process .empty
  have htaken := Table.tally_set (tally (·.count counter)) state.taken run
    (state.buffer process).metricsToInsert
  rw [Table.share, hnew, tally_metricsToInsert] at htaken
  have hnot : ¬ (state.taken.get? run).isSome := by simp [hnew]
  rw [step, if_neg hnot]
  exact ⟨hset, htaken⟩

/-- A flush run that ends has its rows among the stored ones, or nowhere. -/
theorem counts_insert (hsound : state.Sound) {run : Nat} {rows : List MetricRow}
    (htaken : state.taken.get? run = some rows) (databaseRaises : Bool) :
    (state.step takes (.insert run databaseRaises)).inserting counter +
        tally (·.count counter) rows = state.inserting counter ∧
      (state.step takes (.insert run databaseRaises)).stored counter =
        if insertHourlyMetrics takes databaseRaises rows state.hourlyMetrics = none then
          state.stored counter
        else state.stored counter + tally (·.count counter) rows := by
  have hdelete := Table.tally_deleteKey (tally (·.count counter)) state.taken run
  rw [Table.share, htaken] at hdelete
  constructor
  · simp only [step, htaken]
    exact hdelete
  · simp only [step, htaken, stored]
    cases hinsert : insertHourlyMetrics takes databaseRaises rows state.hourlyMetrics with
    | none => rw [if_pos rfl, Option.getD_none]
    | some next =>
      rw [if_neg (Option.some_ne_none next), Option.getD_some]
      exact tally_insertHourlyMetrics (hsound run rows htaken) hinsert

/-- Nothing but an insert that raises with requests loses a count. -/
theorem accounted_step_iff (hsound : state.Sound) (haccounted : state.Accounted)
    (event : MetricsEvent) :
    (state.step takes event).Accounted ↔ state.KeepsCounts takes event := by
  cases event with
  | request process key isError isCacheHit =>
    refine iff_of_true (fun counter => ?_) trivial
    have hbuffered :=
      @buffered_request takes state counter process key isError isCacheHit
    have hbefore := haccounted counter
    dsimp only [step, stored, inserting] at hbuffered hbefore ⊢
    omega
  | task process key isSuccess =>
    refine iff_of_true (fun counter => ?_) trivial
    rw [buffered_task]
    exact haccounted counter
  | take run process =>
    refine iff_of_true (fun counter => ?_) trivial
    cases hrun : state.taken.get? run with
    | some rows =>
      have hsame : state.step takes (.take run process) = state := by
        rw [step, hrun]
        rfl
      rw [hsame]
      exact haccounted counter
    | none =>
      obtain ⟨hbuffered, hinserting⟩ := @counts_take takes state counter run process hrun
      have hbefore := haccounted counter
      have hstored : (state.step takes (.take run process)).stored counter =
          state.stored counter := by
        rw [step]
        split_ifs <;> rfl
      have hrecorded : (state.step takes (.take run process)).recorded counter =
          state.recorded counter := by
        rw [step]
        split_ifs <;> rfl
      omega
  | insert run databaseRaises =>
    rw [KeepsCounts]
    cases hrun : state.taken.get? run with
    | none =>
      have hsame : state.step takes (.insert run databaseRaises) = state := by
        simp only [step, hrun]
      rw [hsame]
      exact iff_of_true haccounted nofun
    | some rows =>
      have hbuffered : ∀ counter, (state.step takes (.insert run databaseRaises)).buffered counter =
          state.buffered counter := by
        intro counter
        simp only [step, hrun, buffered]
      have hrecorded : ∀ counter, (state.step takes (.insert run databaseRaises)).recorded counter =
          state.recorded counter := by
        intro counter
        simp only [step, hrun]
      have hcounts := fun counter =>
        @counts_insert takes state counter hsound run rows hrun databaseRaises
      simp only [Option.some.injEq, forall_eq']
      constructor
      · intro hafter hraises counter
        obtain ⟨hinserting, hstored⟩ := hcounts counter
        rw [if_pos hraises] at hstored
        have hbefore := haccounted counter
        have hlater := hafter counter
        have hbuffer := hbuffered counter
        have hrecord := hrecorded counter
        omega
      · intro hkeeps counter
        obtain ⟨hinserting, hstored⟩ := hcounts counter
        have hbefore := haccounted counter
        have hbuffer := hbuffered counter
        have hrecord := hrecorded counter
        split_ifs at hstored with hraises
        · have hzero := hkeeps hraises counter
          omega
        · omega

/-- No insert of the repository returns, so nothing is lost when there is nothing to lose. -/
theorem keepsCounts_iff (state : MetricsState) (event : MetricsEvent) :
    state.KeepsCounts executeCommandTakes event ↔ state.LosesNothing event := by
  cases event with
  | insert run databaseRaises =>
    refine forall₂_congr fun rows htaken => ?_
    constructor
    · intro hkeeps
      by_cases hempty : rows = []
      · intro counter
        rw [hempty, tally_nil]
      · exact hkeeps (insertHourlyMetrics_raises hempty)
    · intro hzero _
      exact hzero
  | _ => exact Iff.rfl

/-- Nothing is under way, and nothing is lost. -/
structure Settled (state : MetricsState) : Prop where
  sound : state.Sound
  conserved : state.Conserved
  inserting : ∀ counter, state.inserting counter = 0

theorem Settled.accounted (hsettled : state.Settled) : state.Accounted := by
  intro counter
  rw [hsettled.inserting, Nat.add_zero]
  exact hsettled.conserved counter

theorem Settled.step (hsettled : state.Settled) {event : MetricsEvent}
    (htakes : state.TakesNothing event) : (state.step takes event).Settled := by
  have hinserting : ∀ counter, (state.step takes event).inserting counter = 0 := by
    intro counter
    have hbefore := hsettled.inserting counter
    cases event with
    | request => exact hbefore
    | task => exact hbefore
    | take run process =>
      cases hrun : state.taken.get? run with
      | some rows =>
        rw [MetricsState.step, hrun]
        exact hbefore
      | none => rw [(counts_take hrun).2, hbefore, htakes hrun counter]
    | insert run databaseRaises =>
      cases hrun : state.taken.get? run with
      | none =>
        simp only [MetricsState.step, hrun]
        exact hbefore
      | some rows =>
        have hcounts := (@counts_insert takes state counter hsettled.sound run rows hrun
          databaseRaises).1
        omega
  have haccounted : (state.step takes event).Accounted := by
    rw [accounted_step_iff hsettled.sound hsettled.accounted]
    cases event with
    | insert run databaseRaises =>
      intro rows hrun _ counter
      have hcounts := (@counts_insert takes state counter hsettled.sound run rows hrun
        databaseRaises).1
      have hbefore := hsettled.inserting counter
      omega
    | _ => trivial
  refine ⟨sound_step hsettled.sound event, fun counter => ?_, hinserting⟩
  have hafter := haccounted counter
  rwa [hinserting, Nat.add_zero] at hafter

/-- A flush run that takes requests out of a buffer breaks the sum at once. -/
theorem takesNothing_of_conserved (hsettled : state.Settled) {event : MetricsEvent}
    (hafter : (state.step takes event).Conserved) : state.TakesNothing event := by
  cases event with
  | take run process =>
    intro hrun counter
    have hbuffered := (@counts_take takes state counter run process hrun).1
    have hbefore := hsettled.conserved counter
    have hlater := hafter counter
    have hnot : ¬ (state.taken.get? run).isSome := by simp [hrun]
    have hstored : (state.step takes (.take run process)).stored counter =
        state.stored counter := by
      rw [MetricsState.step, if_neg hnot]
      rfl
    have hrecorded : (state.step takes (.take run process)).recorded counter =
        state.recorded counter := by
      rw [MetricsState.step, if_neg hnot]
    omega
  | _ => trivial

theorem settled_initial : initial.Settled where
  sound := nofun
  conserved := by
    intro counter
    rfl
  inserting := by
    intro counter
    rfl

end MetricsState

/-! ## Every interleaving -/

/-- In every interleaving, what is stored and buffered is what was recorded exactly when no flush
run finds a request in its buffer; with what the flush runs have yet to insert, exactly when no
flush run that ends has taken one. -/
theorem metrics_conserved_iff (run : List MetricsEvent) :
    ((∀ state ∈ Run.visited (MetricsState.step executeCommandTakes) .initial run,
        state.Conserved) ↔
      Run.StepsMeet (MetricsState.step executeCommandTakes) MetricsState.TakesNothing .initial
        run) ∧
    ((∀ state ∈ Run.visited (MetricsState.step executeCommandTakes) .initial run,
        state.Accounted) ↔
      Run.StepsMeet (MetricsState.step executeCommandTakes) MetricsState.LosesNothing .initial
        run) := by
  constructor
  · exact Run.forall_visited_iff_of_inv (fun _ => MetricsState.Settled.conserved)
      (fun _ _ hsettled htakes => hsettled.step htakes)
      (fun _ _ hsettled hafter => MetricsState.takesNothing_of_conserved hsettled hafter)
      MetricsState.settled_initial
  · have hcongr := @Run.stepsMeet_congr MetricsState MetricsEvent
      (MetricsState.step executeCommandTakes)
      (fun state => state.KeepsCounts executeCommandTakes) MetricsState.LosesNothing
      (fun _ => True) (fun state event _ => state.keepsCounts_iff event) (fun _ _ _ _ => trivial)
      .initial run trivial
    rw [← hcongr]
    exact Run.forall_visited_iff_of_inv
      (fun (state : MetricsState) (hinv : state.Sound ∧ state.Accounted) => hinv.2)
      (fun state event hinv hkeeps => ⟨MetricsState.sound_step hinv.1 event,
        (MetricsState.accounted_step_iff hinv.1 hinv.2 event).mpr hkeeps⟩)
      (fun state event hinv hafter =>
        (MetricsState.accounted_step_iff hinv.1 hinv.2 event).mp hafter)
      ⟨MetricsState.settled_initial.sound, MetricsState.settled_initial.accounted⟩

/-- One request, one flush run whose insert the database would accept. -/
def flushedRequest : List MetricsEvent :=
  [.request 0 ⟨480000, "/api/cards", 200⟩ false false, .take 1 0, .insert 1 false]

/-- The request is neither stored nor buffered, and no flush run is under way. -/
theorem flushed_request_is_lost :
    (¬ ∀ state ∈ Run.visited (MetricsState.step executeCommandTakes) .initial flushedRequest,
        state.Conserved) ∧
      (flushedRequest.foldl (MetricsState.step executeCommandTakes) .initial).taken.rows = [] ∧
      (flushedRequest.foldl (MetricsState.step executeCommandTakes) .initial).stored .requests = 0 ∧
      (flushedRequest.foldl (MetricsState.step executeCommandTakes) .initial).buffered
        .requests = 0 ∧
      (flushedRequest.foldl (MetricsState.step executeCommandTakes) .initial).recorded
        .requests = 1 := by
  have hlost : (flushedRequest.foldl (MetricsState.step executeCommandTakes) .initial).stored
        .requests = 0 ∧
      (flushedRequest.foldl (MetricsState.step executeCommandTakes) .initial).buffered
        .requests = 0 ∧
      (flushedRequest.foldl (MetricsState.step executeCommandTakes) .initial).recorded
        .requests = 1 := by decide +kernel
  refine ⟨fun hall => ?_, by decide +kernel, hlost⟩
  have hlast := hall _ (Run.foldl_mem_visited _ _ _) .requests
  rw [hlost.1, hlost.2.1, hlost.2.2] at hlast
  cases hlast

end AutoMana.Ops
