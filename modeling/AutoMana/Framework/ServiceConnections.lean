import AutoMana.Relational.Runs
import AutoMana.Relational.Settings
import Mathlib.Algebra.Order.Floor.Defs
import Mathlib.Data.Rat.Floor
import Mathlib.Logic.Function.Basic

/-!
# The connection of a service

A service runs on a connection of the pool. Its own timeout is put into the configuration of the
client and set on the server before the block that restores them, so a connection can go back
with the timeout of a service: when the `SET` fails, when the `RESET` does not reach the server,
and when a transaction is neither committed nor rolled back.
-/

namespace AutoMana.Framework

open Relational

/-- What leaves an `await`: an `Exception`, or the `CancelledError`, which is none. -/
inductive Fault where
  | exception
  | cancelled
  deriving DecidableEq

/-- What comes of a statement that is sent, and whether it took effect when it failed. -/
inductive Reply where
  | returned
  | failed (fault : Fault) (applied : Bool)
  deriving DecidableEq

namespace Reply

def fault : Reply → Option Fault
  | returned => none
  | failed fault _ => some fault

def applied : Reply → Bool
  | returned => true
  | failed _ applied => applied

@[simp] theorem fault_returned : returned.fault = none := rfl

@[simp] theorem fault_failed (fault : Fault) (applied : Bool) :
    (failed fault applied).fault = some fault := rfl

@[simp] theorem applied_returned : returned.applied = true := rfl

theorem fault_eq_none_iff {reply : Reply} : reply.fault = none ↔ reply = .returned := by
  cases reply with
  | returned => exact iff_of_true rfl rfl
  | failed => exact iff_of_false nofun nofun

end Reply

structure ServiceConfig where
  runsInTransaction : Bool
  commandTimeout : Option Rat
  deriving DecidableEq

/-- A call of a service on a connection, with what comes of each statement. The body is the
building of the repositories and the service itself. -/
structure ServiceCall where
  config : ServiceConfig
  start : Reply
  set : Reply
  body : Option Fault
  reset : Reply
  commit : Reply
  rollback : Reply
  deriving DecidableEq

/-- The `command_timeout` of the client's configuration, and the `statement_timeout` of the
session in milliseconds. -/
structure Connection where
  commandTimeout : Rat
  statementTimeout : Setting Int

/-- What the pool gives a new connection. -/
structure PoolDefaults where
  commandTimeout : Rat
  statementTimeout : Int

/-- The connection after a statement that changes the setting when it takes effect. -/
def Connection.send (connection : Connection) (reply : Reply)
    (change : Setting Int → Setting Int) : Connection :=
  if reply.applied then
    { connection with statementTimeout := change connection.statementTimeout }
  else connection

/-- `int(command_timeout * 1000)`, which truncates. -/
def timeoutMs (commandTimeout : Rat) : Int :=
  if 0 ≤ commandTimeout then ⌊commandTimeout * 1000⌋ else ⌈commandTimeout * 1000⌉

namespace ServiceCall

/-- The connection after the `SET`, when the service has a timeout. -/
def applyTimeout (call : ServiceCall) (connection : Connection) : Connection :=
  match call.config.commandTimeout with
  | none => connection
  | some commandTimeout =>
    let underlying := { connection with commandTimeout }
    underlying.send call.set fun setting =>
      if call.config.runsInTransaction then setting.setLocal (timeoutMs commandTimeout)
      else setting.setSession (timeoutMs commandTimeout)

/-- The fault of the `SET`, when it is sent. -/
def setFault (call : ServiceCall) : Option Fault :=
  call.config.commandTimeout.bind fun _ => call.set.fault

/-- The block of the connection's context. -/
def block (call : ServiceCall) (defaults : PoolDefaults) (connection : Connection) :
    Connection × Option Fault :=
  let underlying := call.applyTimeout connection
  match call.setFault with
  -- this is before the `try` whose `finally` restores
  | some fault => (underlying, some fault)
  | none =>
    let restored := { underlying with commandTimeout := connection.commandTimeout }
    if call.config.commandTimeout.isSome && !call.config.runsInTransaction then
      (restored.send call.reset (·.setSession defaults.statementTimeout),
        -- an `Exception` of the `RESET` is swallowed
        if call.reset.fault = some .cancelled then some .cancelled else call.body)
    else (restored, call.body)

/-- The end of `transaction()`: only an `Exception` is rolled back. -/
def finish (call : ServiceCall) (connection : Connection) : Option Fault → Connection
  | none =>
    let committed := connection.send call.commit Setting.commit
    if call.commit.fault = some .exception then committed.send call.rollback Setting.rollback
    else committed
  | some .exception => connection.send call.rollback Setting.rollback
  | some .cancelled => connection

/-- The connection as the call releases it. -/
def release (call : ServiceCall) (defaults : PoolDefaults) (connection : Connection) :
    Connection :=
  if call.config.runsInTransaction then
    let started := connection.send call.start Setting.start
    match call.start.fault with
    | some _ => started
    | none =>
      let ended := call.block defaults started
      call.finish ended.1 ended.2
  else (call.block defaults connection).1

/-- The connection on which the service runs, when it is run. -/
def serviceConnection (call : ServiceCall) (connection : Connection) : Option Connection :=
  if call.config.runsInTransaction then
    if call.start = .returned ∧ call.setFault = none then
      some (call.applyTimeout (connection.send call.start Setting.start))
    else none
  else if call.setFault = none then some (call.applyTimeout connection) else none

end ServiceCall

/-! ## The pool -/

abbrev Pool := Nat → Connection

/-- A call on a connection of the pool. A call that gets none touches nothing. -/
structure Execution where
  connection : Nat
  call : ServiceCall

def Pool.execute (defaults : PoolDefaults) (pool : Pool) (execution : Execution) : Pool :=
  Function.update pool execution.connection
    (execution.call.release defaults (pool execution.connection))

def Pool.opened (defaults : PoolDefaults) : Pool :=
  fun _ => ⟨defaults.commandTimeout, .initial defaults.statementTimeout⟩

/-- The connection is released with the `command_timeout` it was acquired with and the pool's
`statement_timeout`, and the service has run under its own timeout, or the pool's. -/
structure ReleasesClean (defaults : PoolDefaults) (pool : Pool) (execution : Execution) : Prop where
  commandTimeout : (execution.call.release defaults (pool execution.connection)).commandTimeout =
    (pool execution.connection).commandTimeout
  statementTimeout :
    (execution.call.release defaults (pool execution.connection)).statementTimeout.current =
      defaults.statementTimeout
  own : ∀ connection, execution.call.serviceConnection (pool execution.connection) =
      some connection →
    connection.commandTimeout =
      execution.call.config.commandTimeout.getD defaults.commandTimeout ∧
    connection.statementTimeout.current =
      (execution.call.config.commandTimeout.map timeoutMs).getD defaults.statementTimeout

/-! ## What has to happen -/

/-- A transaction that was begun at the outer setting ends, so that nothing of it stays. -/
def ServiceCall.Ends (call : ServiceCall) (outer : Setting Int) : Option Fault → Prop
  | none => (call.commit.applied = true ∧ outer.begun = []) ∨
      (call.commit.fault = some .exception ∧ call.rollback.applied = true)
  | some .exception => call.rollback.applied = true
  | some .cancelled => False

/-- What the `SET` did on the server is undone. -/
def ServiceCall.Undoes (call : ServiceCall) (connection : Connection) : Prop :=
  if call.config.runsInTransaction then
    call.Ends connection.statementTimeout (call.setFault.or call.body)
  else call.set = .returned ∧ call.reset.applied = true

/-- When the timeout of a service is sent, the `SET` returns, and what it did is undone. It may
also be the pool's timeout, or not have reached the server. -/
def Restores (defaults : PoolDefaults) (connection : Connection) (call : ServiceCall) : Prop :=
  ∀ commandTimeout, call.config.commandTimeout = some commandTimeout →
    (call.config.runsInTransaction = true → call.start = .returned) →
    (call.set = .returned ∨ commandTimeout = defaults.commandTimeout) ∧
      (timeoutMs commandTimeout = defaults.statementTimeout ∨ call.set.applied = false ∨
        call.Undoes connection)

/-- The connection has the timeouts of the pool. -/
structure Unchanged (defaults : PoolDefaults) (connection : Connection) : Prop where
  commandTimeout : connection.commandTimeout = defaults.commandTimeout
  statementTimeout : Setting.Holds defaults.statementTimeout connection.statementTimeout

section Finish

variable {call : ServiceCall} {connection : Connection} {value timeout : Int}
  {outer : Setting Int}

@[simp] theorem commandTimeout_send (reply : Reply) (change : Setting Int → Setting Int) :
    (connection.send reply change).commandTimeout = connection.commandTimeout := by
  rw [Connection.send]
  split_ifs <;> rfl

theorem statementTimeout_send (reply : Reply) (change : Setting Int → Setting Int) :
    (connection.send reply change).statementTimeout =
      if reply.applied then change connection.statementTimeout
      else connection.statementTimeout := by
  rw [Connection.send]
  split_ifs <;> rfl

theorem holds_send {change : Setting Int → Setting Int}
    (hchange : ∀ setting, Setting.Holds value setting → Setting.Holds value (change setting))
    (hholds : Setting.Holds value connection.statementTimeout) (reply : Reply) :
    Setting.Holds value (connection.send reply change).statementTimeout := by
  rw [statementTimeout_send]
  split_ifs
  · exact hchange _ hholds
  · exact hholds

@[simp] theorem commandTimeout_finish (fault : Option Fault) :
    (call.finish connection fault).commandTimeout = connection.commandTimeout := by
  unfold ServiceCall.finish
  split
  · dsimp only
    split_ifs <;> simp
  · simp
  · rfl

theorem holds_finish (hholds : Setting.Holds value connection.statementTimeout)
    (fault : Option Fault) :
    Setting.Holds value (call.finish connection fault).statementTimeout := by
  have hcommitted := holds_send (fun _ => Setting.Holds.commit) hholds call.commit
  unfold ServiceCall.finish
  split
  · dsimp only
    split_ifs
    · exact holds_send (fun _ => Setting.Holds.rollback) hcommitted call.rollback
    · exact hcommitted
  · exact holds_send (fun _ => Setting.Holds.rollback) hholds call.rollback
  · exact hholds

/-- A timeout that was set for the transaction is gone after its end. -/
theorem holds_finish_of_ends (hholds : Setting.Holds value outer)
    (hset : connection.statementTimeout = outer.start.setLocal timeout) {fault : Option Fault}
    (hends : call.Ends outer fault) :
    Setting.Holds value (call.finish connection fault).statementTimeout := by
  have hrolledBack : Setting.Holds value (outer.start.setLocal timeout).rollback := hholds
  match fault with
  | some .cancelled => exact hends.elim
  | some .exception =>
    have hrollback : call.rollback.applied = true := hends
    rw [ServiceCall.finish, statementTimeout_send, hset, if_pos hrollback]
    exact hrolledBack
  | none =>
    simp only [ServiceCall.finish]
    rcases hends with ⟨hcommit, houter⟩ | ⟨hfault, hrollback⟩
    · have hcommitted : Setting.Holds value
          (connection.send call.commit Setting.commit).statementTimeout := by
        rw [statementTimeout_send, hset, if_pos hcommit]
        exact hholds.commit_setLocal houter timeout
      split_ifs
      · exact holds_send (fun _ => Setting.Holds.rollback) hcommitted call.rollback
      · exact hcommitted
    · rw [if_pos hfault, statementTimeout_send, if_pos hrollback, statementTimeout_send, hset]
      split_ifs
      · exact hholds.rollback_commit_setLocal timeout
      · exact hrolledBack

/-- A timeout that was set for the transaction is in force as long as it does not end. -/
theorem current_finish_of_not_ends
    (hset : connection.statementTimeout = outer.start.setLocal timeout) {fault : Option Fault}
    (hends : ¬ call.Ends outer fault) :
    (call.finish connection fault).statementTimeout.current = timeout := by
  have hcurrent : connection.statementTimeout.current = timeout := by
    rw [hset, Setting.current_setLocal]
  match fault with
  | some .cancelled => exact hcurrent
  | some .exception =>
    have hrollback : ¬ call.rollback.applied = true := hends
    rw [ServiceCall.finish, statementTimeout_send, if_neg hrollback]
    exact hcurrent
  | none =>
    simp only [ServiceCall.Ends, not_or, not_and] at hends
    obtain ⟨hcommit, hrollback⟩ := hends
    have hcommitted :
        (connection.send call.commit Setting.commit).statementTimeout.current = timeout := by
      rw [statementTimeout_send]
      split_ifs with happlied
      · rw [hset, Setting.commit_setLocal_of_inner (hcommit happlied)]
        rfl
      · exact hcurrent
    simp only [ServiceCall.finish]
    split_ifs with hfault
    · rw [statementTimeout_send, if_neg (hrollback hfault)]
      exact hcommitted
    · exact hcommitted

end Finish

/-! ## One call -/

section Call

variable {defaults : PoolDefaults} {connection : Connection} {call : ServiceCall}
  {commandTimeout : Rat}

/-- A service without a timeout changes nothing. -/
theorem unchanged_release_of_none (hunchanged : Unchanged defaults connection)
    (htimeout : call.config.commandTimeout = none) :
    Unchanged defaults (call.release defaults connection) := by
  have hblock : ∀ connection, call.block defaults connection = (connection, call.body) := by
    intro connection
    rw [ServiceCall.block, ServiceCall.setFault, ServiceCall.applyTimeout, htimeout]
    rfl
  have hstarted := holds_send (fun _ => Setting.Holds.start) hunchanged.statementTimeout call.start
  rw [ServiceCall.release]
  split_ifs
  · dsimp only
    split
    · exact ⟨(commandTimeout_send _ _).trans hunchanged.commandTimeout, hstarted⟩
    · rw [hblock]
      refine ⟨?_, holds_finish hstarted _⟩
      rw [commandTimeout_finish, commandTimeout_send]
      exact hunchanged.commandTimeout
  · rw [hblock]
    exact hunchanged

/-- The client's timeout after the block of a service with a timeout. -/
theorem commandTimeout_block (htimeout : call.config.commandTimeout = some commandTimeout) :
    (call.block defaults connection).1.commandTimeout =
      if call.set = .returned then connection.commandTimeout else commandTimeout := by
  rw [ServiceCall.block, ServiceCall.setFault, htimeout, Option.bind_some]
  cases hset : call.set with
  | returned =>
    rw [if_pos rfl]
    simp only [Reply.fault_returned]
    split_ifs <;> simp
  | failed fault applied =>
    have hfailed : ¬ Reply.failed fault applied = .returned := by simp
    rw [if_neg hfailed, ServiceCall.applyTimeout, htimeout]
    exact commandTimeout_send _ _

/-- The fault that leaves the block of a service in a transaction. -/
theorem block_snd (htransaction : call.config.runsInTransaction = true) :
    (call.block defaults connection).2 = call.setFault.or call.body := by
  rw [ServiceCall.block]
  cases call.setFault with
  | some fault => rfl
  | none => simp [htransaction]

theorem statementTimeout_block_of_transaction
    (htransaction : call.config.runsInTransaction = true)
    (htimeout : call.config.commandTimeout = some commandTimeout) :
    (call.block defaults connection).1.statementTimeout =
      if call.set.applied then connection.statementTimeout.setLocal (timeoutMs commandTimeout)
      else connection.statementTimeout := by
  have happlied : (call.applyTimeout connection).statementTimeout =
      if call.set.applied then connection.statementTimeout.setLocal (timeoutMs commandTimeout)
      else connection.statementTimeout := by
    rw [ServiceCall.applyTimeout, htimeout]
    simp only [statementTimeout_send, htransaction, if_true]
  rw [ServiceCall.block, ← happlied]
  cases call.setFault with
  | some fault => rfl
  | none => simp [htransaction]

theorem statementTimeout_block_of_session
    (htransaction : call.config.runsInTransaction = false)
    (htimeout : call.config.commandTimeout = some commandTimeout) :
    (call.block defaults connection).1.statementTimeout =
      if call.set = .returned ∧ call.reset.applied then
        (connection.statementTimeout.setSession (timeoutMs commandTimeout)).setSession
          defaults.statementTimeout
      else if call.set.applied then
        connection.statementTimeout.setSession (timeoutMs commandTimeout)
      else connection.statementTimeout := by
  have happlied : (call.applyTimeout connection).statementTimeout =
      if call.set.applied then connection.statementTimeout.setSession (timeoutMs commandTimeout)
      else connection.statementTimeout := by
    rw [ServiceCall.applyTimeout, htimeout]
    simp only [statementTimeout_send, htransaction, Bool.false_eq_true, if_false]
  rw [ServiceCall.block, ServiceCall.setFault, htimeout, Option.bind_some]
  cases hset : call.set with
  | returned =>
    rw [hset] at happlied
    simp [htransaction, statementTimeout_send, happlied]
  | failed fault applied =>
    rw [hset] at happlied
    simp [happlied]

/-- Where the `SET` is not sent, the transaction was not started. -/
theorem release_of_not_started (htransaction : call.config.runsInTransaction = true)
    (hstart : call.start ≠ .returned) :
    call.release defaults connection = connection.send call.start Setting.start := by
  rw [ServiceCall.release, if_pos htransaction]
  cases hreply : call.start with
  | returned => exact absurd hreply hstart
  | failed fault applied => rfl

theorem release_of_started (htransaction : call.config.runsInTransaction = true)
    (hstart : call.start = .returned) :
    call.release defaults connection =
      call.finish (call.block defaults (connection.send .returned Setting.start)).1
        (call.setFault.or call.body) := by
  rw [ServiceCall.release, if_pos htransaction, hstart]
  simp only [Reply.fault_returned, block_snd htransaction]

/-- The client's timeout is that of before when the `SET` returned, or is the same anyway. -/
theorem commandTimeout_release (hunchanged : Unchanged defaults connection)
    (htimeout : call.config.commandTimeout = some commandTimeout)
    (hsent : call.config.runsInTransaction = true → call.start = .returned) :
    (call.release defaults connection).commandTimeout = connection.commandTimeout ↔
      call.set = .returned ∨ commandTimeout = defaults.commandTimeout := by
  have hclient : (call.release defaults connection).commandTimeout =
      if call.set = .returned then connection.commandTimeout else commandTimeout := by
    cases htransaction : call.config.runsInTransaction with
    | false =>
      rw [ServiceCall.release, htransaction]
      exact commandTimeout_block htimeout
    | true =>
      rw [release_of_started htransaction (hsent htransaction), commandTimeout_finish,
        commandTimeout_block htimeout, commandTimeout_send]
  rw [hclient, hunchanged.commandTimeout]
  split_ifs with hset
  · exact iff_of_true rfl (Or.inl hset)
  · exact (or_iff_right hset).symm

/-- The server's timeout is the pool's exactly when what the `SET` did is undone, or made no
difference. -/
theorem statementTimeout_release (hunchanged : Unchanged defaults connection)
    (htimeout : call.config.commandTimeout = some commandTimeout)
    (hsent : call.config.runsInTransaction = true → call.start = .returned) :
    ((call.release defaults connection).statementTimeout.current = defaults.statementTimeout ↔
        timeoutMs commandTimeout = defaults.statementTimeout ∨ call.set.applied = false ∨
          call.Undoes connection) ∧
      ((call.release defaults connection).statementTimeout.current = defaults.statementTimeout →
        Setting.Holds defaults.statementTimeout
          (call.release defaults connection).statementTimeout) := by
  have hholds := hunchanged.statementTimeout
  cases htransaction : call.config.runsInTransaction with
  | false =>
    have hrelease : call.release defaults connection = (call.block defaults connection).1 := by
      rw [ServiceCall.release, htransaction]
      rfl
    rw [hrelease, statementTimeout_block_of_session htransaction htimeout, ServiceCall.Undoes,
      htransaction, if_neg Bool.false_ne_true]
    split_ifs with hundone happlied
    · have hreset := hholds.reset (timeoutMs commandTimeout)
      exact ⟨iff_of_true hreset.current (Or.inr (Or.inr hundone)), fun _ => hreset⟩
    · have hcurrent : (connection.statementTimeout.setSession
          (timeoutMs commandTimeout)).current = timeoutMs commandTimeout := rfl
      rw [hcurrent]
      refine ⟨by simp [happlied, hundone], fun hsame => ?_⟩
      rw [hsame]
      exact hholds.setSession
    · exact ⟨iff_of_true hholds.current (Or.inr (Or.inl (Bool.eq_false_iff.mpr happlied))),
        fun _ => hholds⟩
  | true =>
    rw [release_of_started htransaction (hsent htransaction), ServiceCall.Undoes,
      if_pos htransaction]
    have hset := @statementTimeout_block_of_transaction defaults
      (connection.send .returned Setting.start) call commandTimeout htransaction htimeout
    rw [statementTimeout_send, Reply.applied_returned, if_pos rfl] at hset
    by_cases happlied : call.set.applied = true
    · rw [if_pos happlied] at hset
      by_cases hends : call.Ends connection.statementTimeout (call.setFault.or call.body)
      · have hended := holds_finish_of_ends hholds hset hends
        exact ⟨iff_of_true hended.current (Or.inr (Or.inr hends)), fun _ => hended⟩
      · rw [current_finish_of_not_ends hset hends]
        refine ⟨by simp [happlied, hends], fun hsame => holds_finish ?_ _⟩
        rw [hset, hsame]
        exact hholds.start.setLocal
    · rw [if_neg happlied] at hset
      have hfinished : Setting.Holds defaults.statementTimeout
          (call.finish (call.block defaults (connection.send .returned Setting.start)).1
            (call.setFault.or call.body)).statementTimeout := by
        refine holds_finish ?_ _
        rw [hset]
        exact hholds.start
      exact ⟨iff_of_true hfinished.current (Or.inr (Or.inl (Bool.eq_false_iff.mpr happlied))),
        fun _ => hfinished⟩

/-- The service runs under its own timeouts, or those of the pool. -/
theorem serviceConnection_own (hunchanged : Unchanged defaults connection)
    {running : Connection} (hruns : call.serviceConnection connection = some running) :
    running.commandTimeout = call.config.commandTimeout.getD defaults.commandTimeout ∧
      running.statementTimeout.current =
        (call.config.commandTimeout.map timeoutMs).getD defaults.statementTimeout := by
  have hset : call.setFault = none → call.config.commandTimeout.isSome →
      call.set.applied = true := by
    intro hfault hsome
    obtain ⟨commandTimeout, htimeout⟩ := Option.isSome_iff_exists.mp hsome
    rw [ServiceCall.setFault, htimeout, Option.bind_some, Reply.fault_eq_none_iff] at hfault
    rw [hfault, Reply.applied_returned]
  have hholds := hunchanged.statementTimeout
  rw [ServiceCall.serviceConnection] at hruns
  cases htransaction : call.config.runsInTransaction with
  | false =>
    rw [htransaction, if_neg Bool.false_ne_true] at hruns
    split_ifs at hruns with hfault
    obtain rfl := Option.some.inj hruns
    rw [ServiceCall.applyTimeout]
    cases htimeout : call.config.commandTimeout with
    | none => exact ⟨hunchanged.commandTimeout, hholds.current⟩
    | some commandTimeout =>
      have happlied := hset hfault (Option.isSome_of_eq_some htimeout)
      simp [statementTimeout_send, happlied, htransaction, Setting.current, Setting.setSession]
  | true =>
    rw [if_pos htransaction] at hruns
    split_ifs at hruns with hstarted
    obtain ⟨hstart, hfault⟩ := hstarted
    obtain rfl := Option.some.inj hruns
    rw [ServiceCall.applyTimeout, hstart]
    cases htimeout : call.config.commandTimeout with
    | none =>
      refine ⟨(commandTimeout_send _ _).trans hunchanged.commandTimeout, ?_⟩
      exact (holds_send (fun _ => Setting.Holds.start) hholds .returned).current
    | some commandTimeout =>
      have happlied := hset hfault (Option.isSome_of_eq_some htimeout)
      simp [statementTimeout_send, happlied, htransaction]

theorem unchanged_release (hunchanged : Unchanged defaults connection)
    (hrestores : Restores defaults connection call) :
    Unchanged defaults (call.release defaults connection) := by
  cases htimeout : call.config.commandTimeout with
  | none => exact unchanged_release_of_none hunchanged htimeout
  | some commandTimeout =>
    by_cases hsent : call.config.runsInTransaction = true → call.start = .returned
    · obtain ⟨hclient, hserver⟩ := hrestores commandTimeout htimeout hsent
      obtain ⟨hcurrent, hholds⟩ := statementTimeout_release hunchanged htimeout hsent
      refine ⟨?_, hholds (hcurrent.mpr hserver)⟩
      rw [(commandTimeout_release hunchanged htimeout hsent).mpr hclient]
      exact hunchanged.commandTimeout
    · simp only [Classical.not_imp] at hsent
      rw [release_of_not_started hsent.1 hsent.2]
      exact ⟨(commandTimeout_send _ _).trans hunchanged.commandTimeout,
        holds_send (fun _ => Setting.Holds.start) hunchanged.statementTimeout call.start⟩

end Call

/-! ## Every run -/

/-- On a connection with the pool's timeouts, a call releases it clean exactly when it restores
them. -/
theorem releasesClean_iff {defaults : PoolDefaults} {pool : Pool} {execution : Execution}
    (hunchanged : Unchanged defaults (pool execution.connection)) :
    ReleasesClean defaults pool execution ↔
      Restores defaults (pool execution.connection) execution.call := by
  constructor
  · intro hclean commandTimeout htimeout hsent
    exact ⟨(commandTimeout_release hunchanged htimeout hsent).mp hclean.commandTimeout,
      (statementTimeout_release hunchanged htimeout hsent).1.mp hclean.statementTimeout⟩
  · intro hrestores
    have hreleased := unchanged_release hunchanged hrestores
    exact ⟨hreleased.commandTimeout.trans hunchanged.commandTimeout.symm,
      hreleased.statementTimeout.current, fun _ => serviceConnection_own hunchanged⟩

/-- In every run of calls over the connections of a pool, all calls release their connections
clean exactly when all of them restore the timeouts. -/
theorem releases_clean_iff (defaults : PoolDefaults) (run : List Execution) :
    Run.StepsMeet (Pool.execute defaults) (ReleasesClean defaults) (Pool.opened defaults) run ↔
      Run.StepsMeet (Pool.execute defaults)
        (fun pool execution => Restores defaults (pool execution.connection) execution.call)
        (Pool.opened defaults) run := by
  apply @Run.stepsMeet_congr Pool Execution (Pool.execute defaults) (ReleasesClean defaults) _
    fun pool => ∀ connection, Unchanged defaults (pool connection)
  · intro pool execution hunchanged
    exact releasesClean_iff (hunchanged execution.connection)
  · intro pool execution hunchanged hrestores connection
    rw [Pool.execute, Function.update_apply]
    split_ifs
    · exact unchanged_release (hunchanged execution.connection) hrestores
    · exact hunchanged connection
  · intro connection
    exact ⟨rfl, Setting.holds_initial _⟩

/-! ## Timeouts that leak -/

def poolDefaults : PoolDefaults := ⟨60, 0⟩

/-- A call in which every statement returns. -/
def smoothCall (config : ServiceConfig) : ServiceCall where
  config := config
  start := .returned
  set := .returned
  body := none
  reset := .returned
  commit := .returned
  rollback := .returned

/-- The `SET` raises, and the next service runs under the timeout of this one; the `RESET` raises;
a service in a transaction is cancelled. -/
theorem timeouts_leak :
    ¬ Run.StepsMeet (Pool.execute poolDefaults) (ReleasesClean poolDefaults)
        (Pool.opened poolDefaults)
        [⟨0, { smoothCall ⟨false, some 3600⟩ with set := .failed .exception false }⟩] ∧
      ((smoothCall ⟨false, none⟩).serviceConnection
        (({ smoothCall ⟨false, some 3600⟩ with set := .failed .exception false }).release
          poolDefaults (Pool.opened poolDefaults 0))).map Connection.commandTimeout = some 3600 ∧
      ¬ Run.StepsMeet (Pool.execute poolDefaults) (ReleasesClean poolDefaults)
        (Pool.opened poolDefaults)
        [⟨0, { smoothCall ⟨false, some 3600⟩ with reset := .failed .exception false }⟩] ∧
      ¬ Run.StepsMeet (Pool.execute poolDefaults) (ReleasesClean poolDefaults)
        (Pool.opened poolDefaults)
        [⟨0, { smoothCall ⟨true, some 120⟩ with body := some .cancelled }⟩] := by
  refine ⟨fun hclean => ?_, by decide +kernel, fun hclean => ?_, fun hclean => ?_⟩
  · exact absurd hclean.1.commandTimeout (by decide +kernel)
  · exact absurd hclean.1.statementTimeout (by decide +kernel)
  · exact absurd hclean.1.statementTimeout (by decide +kernel)

end AutoMana.Framework
