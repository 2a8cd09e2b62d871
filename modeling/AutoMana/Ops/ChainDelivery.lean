import AutoMana.Ops.StepRows

/-!
# Delivering the links of a chain

A pipeline is a chain of tasks: `start_run`, its services, `finish_run`. The
broker keeps a task's message until it is acknowledged, which happens after the
task has ended, so a message whose worker crashed, or was slow, is delivered
again. `run_service` skips a redelivered link whose run has ended. It takes the
end of the run as a sign that the link is stale, but a run that was failed
because its worker restarted has ended as well.
-/

namespace AutoMana.Ops

open OpsRepository Relational

/-- A service of a chain: its registration, and the step name and error code of
its `track_step`, if it has one. -/
structure PipelineService where
  config : ServiceConfig
  tracked : Option (String × String)

/-- Link 0 is `start_run`, link `k + 1` is the service at `k`, and the link after
the last service is `finish_run`. -/
structure Chain where
  request : RunRequest
  services : List PipelineService

/-- A link's message. The context is the `ingestion_run_id` of the dictionary
that the links pass on. -/
structure Message where
  tag : Nat
  link : Nat
  context : Option RunId
  delivered : Bool
deriving DecidableEq, Repr

inductive Phase where
  | received
  | executing
  | returning (context : Option RunId)
  | dispatched
deriving DecidableEq, Repr

/-- One delivery of a message, on a worker. -/
structure Task where
  message : Message
  redelivered : Bool
  phase : Phase
deriving DecidableEq, Repr

structure System where
  ops : OpsTables
  /-- The messages not acknowledged yet. -/
  messages : List Message
  nextTag : Nat
  tasks : List Task
  /-- The links whose body has run to completion, with their run. -/
  completed : List (RunId × Nat)

/-- What can happen next; a task or message is named by its position. -/
inductive Event where
  | deliver (position : Nat)
  | check (position : Nat) (clock : StepClock)
  | complete (position : Nat) (now : Timestamp) (clock : StepClock)
  | raise (position : Nat) (exception : String) (clock : StepClock)
  | dispatch (position : Nat)
  | acknowledge (position : Nat)
  | crash (position : Nat)
  | restart (now : Timestamp)

/-- The audit writes of a service, as its registration commits them. -/
def PipelineService.writes (service : PipelineService) (exception : Option String)
    (clock : StepClock) : List StepWrite :=
  match service.tracked with
  | none => []
  | some (stepName, errorCode) => stepWrites ⟨stepName, errorCode, exception, clock⟩

/-- Those committed before the body runs. -/
def PipelineService.writesAtStart (service : PipelineService) (clock : StepClock) :
    List StepWrite :=
  if service.config.runsInTransaction then [] else (service.writes none clock).take 1

def PipelineService.writesOnReturn (service : PipelineService) (clock : StepClock) :
    List StepWrite :=
  if service.config.runsInTransaction then service.writes none clock
  else (service.writes none clock).drop 1

def PipelineService.writesOnRaise (service : PipelineService) (exception : String)
    (clock : StepClock) : List StepWrite :=
  if service.config.runsInTransaction then [] else (service.writes (some exception) clock).drop 1

/-- `track_step` does nothing without a run. -/
def commitWrites (context : Option RunId) (writes : List StepWrite) (ops : OpsTables) :
    OpsTables :=
  match context with
  | none => ops
  | some runId => (writes.foldl (stepWrite runId) ⟨ops, fun _ => none⟩).ops

def Chain.service? (chain : Chain) : Nat → Option PipelineService
  | 0 => none
  | k + 1 => chain.services[k]?

/-- The body of a link that completes: the context it returns and what it writes. -/
def Chain.perform (chain : Chain) (link : Nat) (context : Option RunId) (now : Timestamp)
    (clock : StepClock) (ops : OpsTables) : Except String (Option RunId × OpsTables) :=
  if link = 0 then startRun now chain.request ops
  else match chain.service? link with
    | some service => .ok (context, commitWrites context (service.writesOnReturn clock) ops)
    | none => (finishRun now context .success none ops).map (context, ·)

/-- The redelivery guard of `run_service`. -/
def Task.skipped (task : Task) (ops : OpsTables) : Bool :=
  task.redelivered && task.message.context.any (getRunIsFinished · ops)

def System.setPhase (system : System) (position : Nat) (task : Task) (phase : Phase) : System :=
  { system with tasks := system.tasks.set position { task with phase } }

/-- The task has ended, and its message is acknowledged. -/
def System.close (system : System) (position : Nat) (task : Task) : System :=
  { system with
    messages := system.messages.filter (·.tag ≠ task.message.tag)
    tasks := system.tasks.eraseIdx position }

/-- The next link, as a first delivery. -/
def System.enqueueNext (system : System) (chain : Chain) (task : Task)
    (context : Option RunId) : System :=
  if task.message.link ≤ chain.services.length then
    { system with
      messages := system.messages ++ [⟨system.nextTag, task.message.link + 1, context, false⟩]
      nextTag := system.nextTag + 1 }
  else system

def checkTask (chain : Chain) (system : System) (position : Nat) (task : Task)
    (clock : StepClock) : System :=
  if task.skipped system.ops then system.setPhase position task (.returning task.message.context)
  else
    { system.setPhase position task .executing with
      ops := commitWrites task.message.context
        ((chain.service? task.message.link).elim [] (·.writesAtStart clock)) system.ops }

def completeTask (chain : Chain) (system : System) (position : Nat) (task : Task)
    (now : Timestamp) (clock : StepClock) : System :=
  match chain.perform task.message.link task.message.context now clock system.ops with
  | .error _ => system.close position task
  | .ok (context, ops) =>
    { system.setPhase position task (.returning context) with
      ops
      completed := (task.message.context.map (·, task.message.link)).toList ++ system.completed }

def raiseTask (chain : Chain) (system : System) (position : Nat) (task : Task)
    (exception : String) (clock : StepClock) : System :=
  { system.close position task with
    ops := commitWrites task.message.context
      ((chain.service? task.message.link).elim [] (·.writesOnRaise exception clock)) system.ops }

def systemStep (chain : Chain) (system : System) : Event → System
  | .deliver position =>
    match system.messages[position]? with
    | some message =>
      { system with
        messages := system.messages.set position { message with delivered := true }
        tasks := system.tasks ++ [⟨message, message.delivered, .received⟩] }
    | none => system
  | .check position clock =>
    match system.tasks[position]? with
    | some task =>
      if task.phase = .received then checkTask chain system position task clock else system
    | none => system
  | .complete position now clock =>
    match system.tasks[position]? with
    | some task =>
      if task.phase = .executing then completeTask chain system position task now clock
      else system
    | none => system
  | .raise position exception clock =>
    match system.tasks[position]? with
    | some task =>
      if task.phase = .executing then raiseTask chain system position task exception clock
      else system
    | none => system
  | .dispatch position =>
    match system.tasks[position]? with
    | some task =>
      match task.phase with
      | .returning context =>
        (system.enqueueNext chain task context).setPhase position task .dispatched
      | _ => system
    | none => system
  | .acknowledge position =>
    match system.tasks[position]? with
    | some task => if task.phase = .dispatched then system.close position task else system
    | none => system
  | .crash position => { system with tasks := system.tasks.eraseIdx position }
  | .restart now => { system with ops := reconcileOrphanedRuns now system.ops }

/-- A chain whose first link has just been enqueued. -/
def enqueued (ops : OpsTables) : System where
  ops := ops
  messages := [⟨0, 0, none, false⟩]
  nextTag := 1
  tasks := []
  completed := []

/-! ## What the writes do to the status of runs -/

/-- Runs stay under their keys, and a status changes only to `'failed'`. -/
structure OnlyFails (before after : OpsTables) : Prop where
  sources : after.sources = before.sources
  keys : ∀ runId, (after.run? runId).map (·.runKey) = (before.run? runId).map (·.runKey)
  status : ∀ runId, after.runStatus runId = before.runStatus runId ∨
    after.runStatus runId = some .failed

theorem OnlyFails.refl (ops : OpsTables) : OnlyFails ops ops :=
  ⟨rfl, fun _ => rfl, fun _ => Or.inl rfl⟩

theorem OnlyFails.trans {first second third : OpsTables} (hfirst : OnlyFails first second)
    (hsecond : OnlyFails second third) : OnlyFails first third where
  sources := hsecond.sources.trans hfirst.sources
  keys := fun runId => (hsecond.keys runId).trans (hfirst.keys runId)
  status := by
    intro runId
    rcases hsecond.status runId with hsame | hfailed
    · rw [hsame]
      exact hfirst.status runId
    · exact Or.inr hfailed

theorem onlyFails_failRun (now : Timestamp) (runId : RunId) (errorCode : String)
    (errorDetails : Option ErrorDetails) (notes : Option String) (ops : OpsTables) :
    OnlyFails ops (failRun now runId errorCode errorDetails notes ops) where
  sources := rfl
  keys := by
    intro id
    rw [run?_failRun]
    split_ifs
    · rw [Option.map_map]
      rfl
    · rfl
  status := by
    intro id
    rw [OpsTables.runStatus, OpsTables.runStatus, run?_failRun]
    split_ifs
    · cases ops.run? id with
      | none => exact Or.inl rfl
      | some run => exact Or.inr rfl
    · exact Or.inl rfl

theorem onlyFails_updateRun {now : Timestamp} {runId : RunId} {report : StepReport}
    {stepName : String} (hstep : report.currentStep = some stepName) (ops : OpsTables) :
    OnlyFails ops (commit (updateRun now runId report) ops) := by
  cases hupdate : updateRun now runId report ops with
  | error exception => simpa only [commit, hupdate] using OnlyFails.refl ops
  | ok next =>
      obtain ⟨-, -, hruns⟩ := updateRun_spec hstep hupdate
      simp only [commit, hupdate]
      refine ⟨updateRun_sources hupdate, fun id => ?_, fun id => Or.inl ?_⟩
      · rw [hruns]
        split_ifs
        · rw [Option.map_map]
          exact congrArg (Option.map · _) (funext (showStep_runKey stepName))
        · rfl
      · rw [OpsTables.runStatus, OpsTables.runStatus, hruns]
        split_ifs
        · rw [Option.map_map]
          exact congrArg (Option.map · _) (funext (showStep_status stepName))
        · rfl

theorem onlyFails_stepWrite (runId : RunId) (log : StepLog) (write : StepWrite) :
    OnlyFails log.ops (stepWrite runId log write).ops := by
  cases write with
  | enter execution => exact onlyFails_updateRun rfl log.ops
  | close execution => exact onlyFails_updateRun (closingReport_currentStep execution) log.ops
  | failRun execution exception => exact onlyFails_failRun _ _ _ _ _ _

theorem onlyFails_commitWrites (context : Option RunId) (writes : List StepWrite)
    (ops : OpsTables) : OnlyFails ops (commitWrites context writes ops) := by
  cases context with
  | none => exact .refl ops
  | some runId =>
      unfold commitWrites
      generalize hlog : (⟨ops, fun _ => none⟩ : StepLog) = log
      obtain rfl : log.ops = ops := hlog ▸ rfl
      clear hlog
      induction writes generalizing log with
      | nil => exact .refl _
      | cons write rest ih => exact (onlyFails_stepWrite runId log write).trans (ih _)

theorem onlyFails_reconcile (now : Timestamp) (ops : OpsTables) :
    OnlyFails ops (reconcileOrphanedRuns now ops) := by
  unfold reconcileOrphanedRuns
  generalize getRunningIngestionRuns ops = running
  induction running generalizing ops with
  | nil => exact .refl ops
  | cons runId rest ih => exact (onlyFails_failRun _ _ _ _ _ ops).trans (ih _)

/-- No run becomes a success. -/
def NoNewSuccess (before after : OpsTables) : Prop :=
  ∀ runId, after.runStatus runId = some .success → before.runStatus runId = some .success

theorem OnlyFails.noNewSuccess {before after : OpsTables} (hfails : OnlyFails before after) :
    NoNewSuccess before after := by
  intro runId hsuccess
  rcases hfails.status runId with hsame | hfailed
  · exact hsame ▸ hsuccess
  · rw [hfailed] at hsuccess
    cases hsuccess

theorem noNewSuccess_startRun {now : Timestamp} {request : RunRequest} {ops next : OpsTables}
    {started : Option RunId} (hstart : startRun now request ops = .ok (started, next)) :
    NoNewSuccess ops next := by
  rcases startRun_spec hstart with ⟨-, rfl, -⟩ | ⟨runId, -, hstarted⟩
  · exact fun _ hsuccess => hsuccess
  · intro id hsuccess
    by_cases hid : id = runId
    · obtain ⟨run, hrun, hstatus, -⟩ := hstarted.run
      simp [hid, OpsTables.runStatus, hrun, hstatus] at hsuccess
    · rwa [OpsTables.runStatus, hstarted.others id hid] at hsuccess

/-- `finish_run` makes a success of its own run only. -/
theorem success_of_finishRun {now : Timestamp} {context : Option RunId} {status : Status}
    {notes : Option String} {ops next : OpsTables}
    (hfinish : finishRun now context status notes ops = .ok next) {runId : RunId}
    (hsuccess : next.runStatus runId = some .success) :
    ops.runStatus runId = some .success ∨ context = some runId := by
  unfold finishRun at hfinish
  split_ifs at hfinish
  cases context with
  | none =>
      obtain rfl := Except.ok.inj hfinish
      exact Or.inl hsuccess
  | some finished =>
      obtain rfl := Except.ok.inj hfinish
      rw [OpsTables.runStatus, OpsTables.run?_updateRunRow] at hsuccess
      split_ifs at hsuccess with hsame
      · exact Or.inr (congrArg some hsame.symm)
      · exact Or.inl hsuccess

/-! ## The links behind a message -/

/-- The services before a link have run to completion for the run of its context. -/
def StepsDone (chain : Chain) (completed : List (RunId × Nat)) (context : Option RunId)
    (link : Nat) : Prop :=
  ∀ runId ∈ context, ∀ k < chain.services.length, k + 1 < link → (runId, k + 1) ∈ completed

theorem StepsDone.mono {chain : Chain} {completed later : List (RunId × Nat)}
    {context : Option RunId} {link : Nat} (hdone : StepsDone chain completed context link)
    (hlater : completed ⊆ later) : StepsDone chain later context link :=
  fun runId hrun k hk hbefore => hlater (hdone runId hrun k hk hbefore)

/-- What the chain claims of a run that it has made a success. -/
def ServicesRan (chain : Chain) (completed : List (RunId × Nat)) (runId : RunId) : Prop :=
  ∀ k < chain.services.length, (runId, k + 1) ∈ completed

/-- A run that has become a success has run every service. -/
def SuccessIsEarned (chain : Chain) (initial : OpsTables) (system : System) : Prop :=
  ∀ runId, system.ops.runStatus runId = some .success →
    initial.runStatus runId = some .success ∨ ServicesRan chain system.completed runId

/-- The guard skips a service only when its body has run to completion. -/
def SkipsCompleted (chain : Chain) (system : System) : Event → Prop
  | .check position _ => ∀ task ∈ system.tasks[position]?,
    task.phase = .received → task.skipped system.ops = true →
      (chain.service? task.message.link).isSome →
        ∀ runId ∈ task.message.context, (runId, task.message.link) ∈ system.completed
  | _ => True

instance (chain : Chain) (system : System) (event : Event) :
    Decidable (SkipsCompleted chain system event) :=
  match event with
  | .check position _ => inferInstanceAs (Decidable (∀ task ∈ system.tasks[position]?,
      task.phase = .received → task.skipped system.ops = true →
        (chain.service? task.message.link).isSome →
          ∀ runId ∈ task.message.context, (runId, task.message.link) ∈ system.completed))
  | .deliver _ | .complete _ _ _ | .raise _ _ _ | .dispatch _ | .acknowledge _ | .crash _
  | .restart _ => isTrue trivial

/-- Whatever is under way has the services before it behind it. -/
structure InOrder (chain : Chain) (initial : OpsTables) (system : System) : Prop where
  messages : ∀ message ∈ system.messages,
    StepsDone chain system.completed message.context message.link
  tasks : ∀ task ∈ system.tasks,
    StepsDone chain system.completed task.message.context task.message.link
  returning : ∀ task ∈ system.tasks, ∀ context, task.phase = .returning context →
    StepsDone chain system.completed context (task.message.link + 1)
  success : SuccessIsEarned chain initial system

/-! ## One event -/

section Step

variable {chain : Chain} {initial : OpsTables} {system : System} {position : Nat} {task : Task}

theorem InOrder.writeOps (horder : InOrder chain initial system) {ops : OpsTables}
    (hkept : NoNewSuccess system.ops ops) : InOrder chain initial { system with ops } where
  messages := horder.messages
  tasks := horder.tasks
  returning := horder.returning
  success := fun runId hsuccess => horder.success runId (hkept runId hsuccess)

theorem InOrder.setPhase (horder : InOrder chain initial system)
    (htask : system.tasks[position]? = some task) {phase : Phase}
    (hreturning : ∀ context, phase = .returning context →
      StepsDone chain system.completed context (task.message.link + 1)) :
    InOrder chain initial (system.setPhase position task phase) where
  messages := horder.messages
  tasks := by
    intro other hother
    rcases List.mem_or_eq_of_mem_set hother with hold | rfl
    · exact horder.tasks other hold
    · exact horder.tasks task (List.mem_of_getElem? htask)
  returning := by
    intro other hother context hphase
    rcases List.mem_or_eq_of_mem_set hother with hold | rfl
    · exact horder.returning other hold context hphase
    · exact hreturning context hphase
  success := horder.success

theorem InOrder.close (horder : InOrder chain initial system) :
    InOrder chain initial (system.close position task) where
  messages := fun message hmessage => horder.messages message (List.mem_of_mem_filter hmessage)
  tasks := fun other hother => horder.tasks other (List.mem_of_mem_eraseIdx hother)
  returning := fun other hother => horder.returning other (List.mem_of_mem_eraseIdx hother)
  success := horder.success

theorem InOrder.complete (horder : InOrder chain initial system) {completed : List (RunId × Nat)}
    (hgrown : system.completed ⊆ completed) :
    InOrder chain initial { system with completed } where
  messages := fun message hmessage => (horder.messages message hmessage).mono hgrown
  tasks := fun other hother => (horder.tasks other hother).mono hgrown
  returning := fun other hother context hphase =>
    (horder.returning other hother context hphase).mono hgrown
  success := fun runId hsuccess =>
    (horder.success runId hsuccess).imp_right fun hran k hk => hgrown (hran k hk)

/-- The services before the link after a service are those before it, and itself. -/
theorem StepsDone.succ {completed : List (RunId × Nat)} {context : Option RunId} {link : Nat}
    (hdone : StepsDone chain completed context link)
    (hlink : ∀ k < chain.services.length, link = k + 1 →
      ∀ runId ∈ context, (runId, k + 1) ∈ completed) :
    StepsDone chain completed context (link + 1) := by
  intro runId hrun k hk hbefore
  by_cases hthis : link = k + 1
  · exact hlink k hk hthis runId hrun
  · exact hdone runId hrun k hk (by omega)

theorem checkTask_inOrder (horder : InOrder chain initial system)
    (htask : system.tasks[position]? = some task)
    (hskips : task.skipped system.ops = true → (chain.service? task.message.link).isSome →
      ∀ runId ∈ task.message.context, (runId, task.message.link) ∈ system.completed)
    (clock : StepClock) :
    InOrder chain initial (checkTask chain system position task clock) := by
  unfold checkTask
  split_ifs with hskipped
  · apply horder.setPhase htask
    intro context hphase
    obtain rfl : task.message.context = context := Phase.returning.inj hphase
    refine (horder.tasks task (List.mem_of_getElem? htask)).succ fun k hk hlink runId hrun => ?_
    have hservice : (chain.service? task.message.link).isSome := by
      simp [hlink, Chain.service?, hk]
    exact hlink ▸ hskips hskipped hservice runId hrun
  · have hexecuting : InOrder chain initial (system.setPhase position task .executing) :=
      horder.setPhase htask (by simp)
    exact hexecuting.writeOps (onlyFails_commitWrites _ _ _).noNewSuccess

theorem service?_eq_none_iff {link : Nat} (hlink : link ≠ 0) :
    chain.service? link = none ↔ chain.services.length < link := by
  obtain ⟨k, rfl⟩ := Nat.exists_eq_succ_of_ne_zero hlink
  rw [Chain.service?, List.getElem?_eq_none_iff]
  omega

/-- A run becomes a success only by the link after the last service, in whose
context it is; the context changes only at `start_run`. -/
theorem perform_spec {link : Nat} {context next : Option RunId} {now : Timestamp}
    {clock : StepClock} {ops written : OpsTables}
    (hperform : chain.perform link context now clock ops = .ok (next, written)) :
    (link ≠ 0 → next = context) ∧
    ∀ runId, written.runStatus runId = some .success →
      ops.runStatus runId = some .success ∨
        context = some runId ∧ chain.services.length < link := by
  unfold Chain.perform at hperform
  split_ifs at hperform with hstart
  · exact ⟨fun hne => absurd hstart hne, fun runId hsuccess =>
      Or.inl (noNewSuccess_startRun hperform runId hsuccess)⟩
  · split at hperform
    next service hservice =>
      simp only [Except.ok.injEq, Prod.mk.injEq] at hperform
      obtain ⟨rfl, rfl⟩ := hperform
      exact ⟨fun _ => rfl, fun runId hsuccess =>
        Or.inl ((onlyFails_commitWrites _ _ _).noNewSuccess runId hsuccess)⟩
    next hfinish =>
      cases hfinished : finishRun now context .success none ops with
      | error exception => simp [hfinished, Except.map] at hperform
      | ok finished =>
          simp only [hfinished, Except.map, Except.ok.injEq, Prod.mk.injEq] at hperform
          obtain ⟨rfl, rfl⟩ := hperform
          refine ⟨fun _ => rfl, fun runId hsuccess => ?_⟩
          exact (success_of_finishRun hfinished hsuccess).imp_right
            fun hrun => ⟨hrun, (service?_eq_none_iff hstart).mp hfinish⟩

theorem completeTask_inOrder (horder : InOrder chain initial system)
    (htask : system.tasks[position]? = some task) (now : Timestamp) (clock : StepClock) :
    InOrder chain initial (completeTask chain system position task now clock) := by
  unfold completeTask
  split
  next => exact horder.close
  next context written hperform =>
    obtain ⟨hcontext, hsuccess⟩ := perform_spec hperform
    have hbehind := horder.tasks task (List.mem_of_getElem? htask)
    have hgrown : system.completed ⊆
        (task.message.context.map (·, task.message.link)).toList ++ system.completed :=
      List.subset_append_right _ _
    have hcompleted := horder.complete hgrown
    have hdone : StepsDone chain
        ((task.message.context.map (·, task.message.link)).toList ++ system.completed) context
        (task.message.link + 1) := by
      by_cases hstart : task.message.link = 0
      · intro runId hrun k hk hbefore
        omega
      · rw [hcontext hstart]
        -- the body of this very link is the one that has completed
        refine (hbehind.mono hgrown).succ fun k hk hlink runId hrun => ?_
        rw [Option.mem_def.mp hrun, ← hlink]
        simp
    have hreturning := hcompleted.setPhase htask (fun returned hphase =>
      show StepsDone chain _ returned _ from Phase.returning.inj hphase ▸ hdone)
    refine { hreturning with success := ?_ }
    intro runId hrun
    rcases hsuccess runId hrun with hold | ⟨hthis, hlast⟩
    · exact hcompleted.success runId hold
    · refine Or.inr fun k hk => hgrown (hbehind runId hthis k hk (by omega))

/-- One event keeps the order, as long as the guard skips no service that has
still to run. -/
theorem inOrder_step (horder : InOrder chain initial system) (event : Event)
    (hskips : SkipsCompleted chain system event) :
    InOrder chain initial (systemStep chain system event) := by
  cases event with
  | deliver position =>
      simp only [systemStep]
      split
      next message hmessage =>
        have hbehind := horder.messages message (List.mem_of_getElem? hmessage)
        refine ⟨?_, ?_, ?_, horder.success⟩
        · intro other hother
          rcases List.mem_or_eq_of_mem_set hother with hold | rfl
          · exact horder.messages other hold
          · exact hbehind
        · simp only [List.forall_mem_append, List.forall_mem_singleton]
          exact ⟨horder.tasks, hbehind⟩
        · simp only [List.forall_mem_append, List.forall_mem_singleton]
          exact ⟨horder.returning, by simp⟩
      next => exact horder
  | check position clock =>
      simp only [systemStep]
      split
      next task htask =>
        split_ifs with hphase
        · exact checkTask_inOrder horder htask (hskips task htask hphase) clock
        · exact horder
      next => exact horder
  | complete position now clock =>
      simp only [systemStep]
      split
      next task htask =>
        split_ifs
        · exact completeTask_inOrder horder htask now clock
        · exact horder
      next => exact horder
  | raise position exception clock =>
      simp only [systemStep]
      split
      next task htask =>
        split_ifs
        · exact horder.close.writeOps (onlyFails_commitWrites _ _ _).noNewSuccess
        · exact horder
      next => exact horder
  | dispatch position =>
      simp only [systemStep]
      split
      next task htask =>
        split
        next context hphase =>
          have hnext := horder.returning task (List.mem_of_getElem? htask) context hphase
          refine InOrder.setPhase ?_ ?_ (by simp)
          · unfold System.enqueueNext
            split_ifs
            · refine ⟨?_, horder.tasks, horder.returning, horder.success⟩
              simp only [List.forall_mem_append, List.forall_mem_singleton]
              exact ⟨horder.messages, hnext⟩
            · exact horder
          · unfold System.enqueueNext
            split_ifs <;> exact htask
        next => exact horder
      next => exact horder
  | acknowledge position =>
      simp only [systemStep]
      split
      next task htask =>
        split_ifs
        · exact horder.close
        · exact horder
      next => exact horder
  | crash position =>
      exact ⟨horder.messages,
        fun other hother => horder.tasks other (List.mem_of_mem_eraseIdx hother),
        fun other hother => horder.returning other (List.mem_of_mem_eraseIdx hother),
        horder.success⟩
  | restart now => exact horder.writeOps (onlyFails_reconcile now system.ops).noNewSuccess

end Step

theorem inOrder_enqueued (chain : Chain) (ops : OpsTables) :
    InOrder chain ops (enqueued ops) where
  messages := by simp [enqueued, StepsDone]
  tasks := by simp [enqueued]
  returning := by simp [enqueued]
  success := fun _ hsuccess => Or.inl hsuccess

/-- In every run of a chain whose redelivery guard skips only services that have
run to completion, whatever crashes, restarts and is redelivered, a run that has
become a success has run every service. -/
theorem success_is_earned (chain : Chain) (initial : OpsTables) (events : List Event)
    (hskips : Run.StepsMeet (systemStep chain) (SkipsCompleted chain) (enqueued initial) events) :
    ∀ system ∈ Run.visited (systemStep chain) (enqueued initial) events,
      SuccessIsEarned chain initial system := by
  intro system hsystem
  have hordered : ∀ system ∈ Run.visited (systemStep chain) (enqueued initial) events,
      InOrder chain initial system :=
    Run.forall_visited (fun _ event horder => inOrder_step horder event)
      (inOrder_enqueued chain initial) hskips
  exact (hordered system hsystem).success

/-! ### A worker that restarts -/

/-- A chain of one service, over a database that has seen no run. -/
def retryChain : Chain where
  request := loadRequest
  services := [⟨⟨false⟩, some ("retry_rejects", "step_failed")⟩]

/-- A delivery of the one waiting message, up to its acknowledgement. -/
def runLink : List Event :=
  [.deliver 0, .check 0 ⟨1, 2, 3⟩, .complete 0 2 ⟨1, 2, 3⟩, .dispatch 0, .acknowledge 0]

/-- The worker restarts while the service runs, and its message comes again. -/
def crashAndRedeliver : List Event :=
  [.deliver 0, .check 0 ⟨1, 2, 3⟩, .crash 0, .restart 4, .deliver 0, .check 0 ⟨5, 6, 7⟩,
    .dispatch 0, .acknowledge 0]

/-- Without a crash the guard skips nothing, and the success is earned. -/
theorem success_is_earned_undisturbed :
    SuccessIsEarned retryChain noRuns
      ((runLink ++ runLink ++ runLink).foldl (systemStep retryChain) (enqueued noRuns)) :=
  success_is_earned retryChain noRuns (runLink ++ runLink ++ runLink) (by decide +kernel) _
    (Run.foldl_mem_visited _ _ _)

/-- The run is reconciled as failed, the redelivered service is skipped as stale,
and the chain goes on to make the run a success. -/
theorem skipped_service_succeeds :
    ¬ ∀ (chain : Chain) (initial : OpsTables) (events : List Event),
      ∀ system ∈ Run.visited (systemStep chain) (enqueued initial) events,
        SuccessIsEarned chain initial system := by
  intro hearned
  have hran := hearned retryChain noRuns (runLink ++ crashAndRedeliver ++ runLink) _
    (Run.foldl_mem_visited _ _ _) 1 (by decide +kernel)
  rcases hran with hinitial | hran
  · cases hinitial
  · have hcompleted := hran 0 (by decide)
    revert hcompleted
    decide +kernel

end AutoMana.Ops

