import AutoMana.Ops.ChainDelivery

/-!
# Several triggers of one pipeline

A pipeline task asks whether a run of its key is active and, if not, enqueues a
chain. The chain claims the run only later, in its first link, and goes on
whatever that link returns: `start_run` returns the same run to a second chain,
and no run at all to one that comes after a success. One execution at a time is
what the triggers get only when no chain starts while another executes or after
the run has succeeded.
-/

namespace AutoMana.Ops

open OpsRepository Relational

/-- A chain from its trigger on. While it executes its data steps it passes on
the run id that `start_run` returned. -/
inductive Launch where
  | enqueued
  | executing (context : Option RunId)
  | ended
deriving DecidableEq, Repr

structure Launches where
  ops : OpsTables
  chains : List Launch

/-- A chain is named by its position. -/
inductive LaunchEvent where
  | trigger
  | start (position : Nat) (now : Timestamp)
  | step (position : Nat) (service : PipelineService) (clock : StepClock)
  | finish (position : Nat) (now : Timestamp)
  | fail (position : Nat) (service : PipelineService) (exception : String) (clock : StepClock)

def Launches.setChain (launches : Launches) (position : Nat) (launch : Launch) : Launches :=
  { launches with chains := launches.chains.set position launch }

def startChain (request : RunRequest) (launches : Launches) (position : Nat) (now : Timestamp) :
    Launches :=
  match startRun now request launches.ops with
  | .error _ => launches.setChain position .ended
  | .ok (context, ops) => { launches.setChain position (.executing context) with ops }

def finishChain (launches : Launches) (position : Nat) (context : Option RunId)
    (now : Timestamp) : Launches :=
  match finishRun now context .success none launches.ops with
  | .error _ => launches.setChain position .ended
  | .ok ops => { launches.setChain position .ended with ops }

def launchStep (request : RunRequest) (launches : Launches) : LaunchEvent → Launches
  | .trigger =>
    if isRunActive request.runKey launches.ops then launches
    else { launches with chains := launches.chains ++ [.enqueued] }
  | .start position now =>
    match launches.chains[position]? with
    | some .enqueued => startChain request launches position now
    | _ => launches
  | .step position service clock =>
    match launches.chains[position]? with
    | some (.executing context) =>
      { launches with
        ops := commitWrites context (service.writesAtStart clock ++ service.writesOnReturn clock)
          launches.ops }
    | _ => launches
  | .finish position now =>
    match launches.chains[position]? with
    | some (.executing context) => finishChain launches position context now
    | _ => launches
  | .fail position service exception clock =>
    match launches.chains[position]? with
    | some (.executing context) =>
      { launches.setChain position .ended with
        ops := commitWrites context
          (service.writesAtStart clock ++ service.writesOnRaise exception clock) launches.ops }
    | _ => launches

def Executes (launches : Launches) (position : Nat) : Prop :=
  ∃ context, launches.chains[position]? = some (.executing context)

/-- While the run is going at most one chain executes, and none once it has
succeeded. -/
structure Exclusive (request : RunRequest) (launches : Launches) : Prop where
  alone : getRunStatusForKey request.runKey launches.ops = some .running →
    ∀ left right, Executes launches left → Executes launches right → left = right
  done : getRunStatusForKey request.runKey launches.ops = some .success →
    ∀ position, ¬ Executes launches position

/-- A chain starts when no other executes and the run has not succeeded. It does
no harm either when its `start_run` raises, or when there is neither a source to
start it nor a run. -/
def StartsAlone (request : RunRequest) (launches : Launches) : LaunchEvent → Prop
  | .start position now => launches.chains[position]? = some .enqueued →
    (∀ other, ¬ Executes launches other) ∧
        getRunStatusForKey request.runKey launches.ops ≠ some .success ∨
      (∃ exception, startRun now request launches.ops = .error exception) ∨
      launches.ops.sources.get? request.sourceName = none ∧
        isRunActive request.runKey launches.ops = false
  | _ => True

/-- A chain that executes with a run is the only one, its source is known, and
its run has the key. -/
structure Tracked (request : RunRequest) (launches : Launches) (position : Nat)
    (runId : RunId) : Prop where
  source : (launches.ops.sources.get? request.sourceName).isSome
  key : (launches.ops.run? runId).map (·.runKey) = some request.runKey
  only : ∀ other, Executes launches other → other = position

structure ExclusiveRun (request : RunRequest) (launches : Launches) : Prop where
  exclusive : Exclusive request launches
  tracked : ∀ position runId,
    launches.chains[position]? = some (.executing (some runId)) →
      Tracked request launches position runId

/-! ## Chains and the status of the run -/

theorem setChain_get? {launches : Launches} {position : Nat} {old : Launch}
    (hold : launches.chains[position]? = some old) (launch : Launch) (other : Nat) :
    (launches.setChain position launch).chains[other]? =
      if other = position then some launch else launches.chains[other]? := by
  have hlt := (List.getElem?_eq_some_iff.mp hold).1
  rw [Launches.setChain, List.getElem?_set]
  by_cases hsame : position = other
  · subst hsame
    simp [hlt]
  · simp [hsame, Ne.symm hsame]

theorem getRunStatusForKey_eq_some_iff {ops : OpsTables} {runKey : String} {status : Status} :
    getRunStatusForKey runKey ops = some status ↔
      ∃ runId, (ops.run? runId).map (·.runKey) = some runKey ∧
        ops.runStatus runId = some status := by
  constructor
  · intro hstatus
    obtain ⟨runId, run, hrun, hkey, hstatus⟩ := run?_of_getRunStatusForKey hstatus
    exact ⟨runId, by rw [hrun, Option.map_some, hkey], by simp [OpsTables.runStatus, hrun, hstatus]⟩
  · rintro ⟨runId, hkey, hstatus⟩
    obtain ⟨run, hrun, rfl⟩ := Option.map_eq_some_iff.mp hkey
    rw [getRunStatusForKey_of_run? hrun, ← hstatus, OpsTables.runStatus, hrun, Option.map_some]

/-- Failing runs changes the status under a key to `'failed'`, if at all. -/
theorem OnlyFails.statusForKey {before after : OpsTables} (hfails : OnlyFails before after)
    {runKey : String} {status : Status} (hne : status ≠ .failed)
    (hstatus : getRunStatusForKey runKey after = some status) :
    getRunStatusForKey runKey before = some status := by
  obtain ⟨runId, hkey, hstatus⟩ := getRunStatusForKey_eq_some_iff.mp hstatus
  rw [getRunStatusForKey_eq_some_iff]
  refine ⟨runId, (hfails.keys runId).symm.trans hkey, ?_⟩
  rcases hfails.status runId with hsame | hfailed
  · exact hsame.symm.trans hstatus
  · rw [hfailed, Option.some.injEq] at hstatus
    exact absurd hstatus.symm hne

theorem isRunActive_iff (runKey : String) (ops : OpsTables) :
    isRunActive runKey ops = true ↔
      getRunStatusForKey runKey ops = some .running ∨
        getRunStatusForKey runKey ops = some .success := by
  unfold isRunActive
  cases getRunStatusForKey runKey ops with
  | none => simp
  | some status => cases status <;> simp

/-- The run that `start_run` returns is going. -/
theorem statusForKey_of_started {now : Timestamp} {request : RunRequest} {runId : RunId}
    {ops next : OpsTables} (hstarted : Started now request runId ops next) :
    getRunStatusForKey request.runKey next = some .running ∧
      (next.run? runId).map (·.runKey) = some request.runKey := by
  obtain ⟨run, hrun, hstatus, -, hkey⟩ := hstarted.run
  refine ⟨?_, by rw [hrun, Option.map_some, hkey]⟩
  rw [← hkey, getRunStatusForKey_of_run? hrun, hstatus]

/-- A run that `start_run` starts is not under the key of one that succeeded. -/
theorem unfinished_of_started {now : Timestamp} {request : RunRequest} {runId : RunId}
    {ops next : OpsTables} (hstarted : Started now request runId ops next) :
    getRunStatusForKey request.runKey ops ≠ some .success := by
  intro hsuccess
  obtain ⟨id, hkey, hstatus⟩ := getRunStatusForKey_eq_some_iff.mp hsuccess
  have hne : id ≠ runId := by
    rintro rfl
    exact hstarted.unfinished hstatus
  have hafter : getRunStatusForKey request.runKey next = some .success := by
    rw [getRunStatusForKey_eq_some_iff]
    refine ⟨id, ?_, ?_⟩
    · rw [hstarted.others id hne, hkey]
    · rw [OpsTables.runStatus, hstarted.others id hne]
      exact hstatus
  rw [(statusForKey_of_started hstarted).1] at hafter
  cases hafter

/-! ## One event -/

section Step

variable {request : RunRequest} {launches : Launches} {position : Nat}

/-- Fewer executing chains over runs that at most fail. -/
theorem ExclusiveRun.weaken {next : Launches} (hrun : ExclusiveRun request launches)
    (hfails : OnlyFails launches.ops next.ops)
    (hchains : ∀ (other : Nat) (context : Option RunId),
      next.chains[other]? = some (.executing context) →
        launches.chains[other]? = some (.executing context)) :
    ExclusiveRun request next := by
  have hexecutes : ∀ other, Executes next other → Executes launches other :=
    fun other hother => hother.imp (hchains other)
  refine ⟨⟨?_, ?_⟩, ?_⟩
  · intro hrunning left right hleft hright
    exact hrun.exclusive.alone (hfails.statusForKey (by simp) hrunning) left right
      (hexecutes left hleft) (hexecutes right hright)
  · intro hsuccess other hother
    exact hrun.exclusive.done (hfails.statusForKey (by simp) hsuccess) other
      (hexecutes other hother)
  · intro other runId hother
    obtain ⟨hsource, hkey, honly⟩ := hrun.tracked other runId (hchains other _ hother)
    exact ⟨hfails.sources ▸ hsource, (hfails.keys runId).trans hkey,
      fun another hanother => honly another (hexecutes another hanother)⟩

theorem ExclusiveRun.of_idle {next : Launches} (hidle : ∀ other, ¬ Executes next other) :
    ExclusiveRun request next where
  exclusive := ⟨fun _ left _ hleft => absurd hleft (hidle left), fun _ => hidle⟩
  tracked := fun other runId hother => absurd ⟨some runId, hother⟩ (hidle other)

theorem setChain_ended {old : Launch} (hposition : launches.chains[position]? = some old)
    {other : Nat} {context : Option RunId}
    (hother : (launches.setChain position .ended).chains[other]? = some (.executing context)) :
    other ≠ position ∧ launches.chains[other]? = some (.executing context) := by
  rw [setChain_get? hposition] at hother
  split_ifs at hother with hsame
  · cases hother
  · exact ⟨hsame, hother⟩

theorem finishChain_exclusiveRun (hrun : ExclusiveRun request launches) {context : Option RunId}
    (hposition : launches.chains[position]? = some (.executing context)) (now : Timestamp) :
    ExclusiveRun request (finishChain launches position context now) := by
  cases context with
  | none =>
      -- a chain without a run changes nothing
      have hfinish :
          finishChain launches position none now = launches.setChain position .ended := by
        rfl
      rw [hfinish]
      exact hrun.weaken (.refl _) fun other context hother => (setChain_ended hposition hother).2
  | some runId =>
      apply ExclusiveRun.of_idle
      have honly := (hrun.tracked position runId hposition).only
      rintro other ⟨context, hother⟩
      simp only [finishChain, finishRun, true_or, if_true] at hother
      obtain ⟨hne, hbefore⟩ := setChain_ended hposition hother
      exact hne (honly other ⟨context, hbefore⟩)

/-- What is there once `start_run` has returned: the chain executes with the run
it returned, and the other chains are as before. -/
theorem startChain_get? (hposition : launches.chains[position]? = some .enqueued)
    {now : Timestamp} {context : Option RunId} {ops : OpsTables}
    (hstart : startRun now request launches.ops = .ok (context, ops)) (other : Nat) :
    (startChain request launches position now).chains[other]? =
      if other = position then some (.executing context) else launches.chains[other]? := by
  simp only [startChain, hstart]
  exact setChain_get? hposition _ other

theorem startChain_ops (position : Nat) {now : Timestamp} {context : Option RunId} {ops : OpsTables}
    (hstart : startRun now request launches.ops = .ok (context, ops)) :
    (startChain request launches position now).ops = ops := by
  simp only [startChain, hstart]

theorem startChain_executes (hposition : launches.chains[position]? = some .enqueued)
    {now : Timestamp} {context : Option RunId} {ops : OpsTables}
    (hstart : startRun now request launches.ops = .ok (context, ops)) (other : Nat) :
    Executes (startChain request launches position now) other ↔
      other = position ∨ Executes launches other := by
  simp only [Executes, startChain_get? hposition hstart]
  by_cases hsame : other = position <;> simp [hsame]

/-- The first chain to execute is the only one, and its run is going. -/
theorem startChain_of_idle (hposition : launches.chains[position]? = some .enqueued)
    (hidle : ∀ other, ¬ Executes launches other)
    (hunfinished : getRunStatusForKey request.runKey launches.ops ≠ some .success)
    {now : Timestamp} {context : Option RunId} {ops : OpsTables}
    (hstart : startRun now request launches.ops = .ok (context, ops)) :
    ExclusiveRun request (startChain request launches position now) := by
  have hops : (startChain request launches position now).ops = ops := startChain_ops position hstart
  have honly : ∀ other, Executes (startChain request launches position now) other →
      other = position := fun other hother =>
    ((startChain_executes hposition hstart other).mp hother).resolve_right (hidle other)
  refine ⟨⟨?_, ?_⟩, ?_⟩
  · intro _ left right hleft hright
    exact (honly left hleft).trans (honly right hright).symm
  · intro hsuccess
    rw [hops] at hsuccess
    rcases startRun_spec hstart with ⟨-, rfl, -⟩ | ⟨runId, -, hstarted⟩
    · exact absurd hsuccess hunfinished
    · rw [(statusForKey_of_started hstarted).1] at hsuccess
      cases hsuccess
  · intro other runId hother
    obtain rfl := honly other ⟨_, hother⟩
    rw [startChain_get? hposition hstart, if_pos rfl, Option.some.injEq,
      Launch.executing.injEq] at hother
    rcases startRun_spec hstart with ⟨hnone, -⟩ | ⟨_, hsome, hstarted⟩
    · rw [hnone] at hother
      cases hother
    · obtain rfl : _ = runId := Option.some.inj (hsome.symm.trans hother)
      refine ⟨?_, ?_, honly⟩
      · rw [hops, hstarted.sources]
        exact hstarted.source
      · rw [hops]
        exact (statusForKey_of_started hstarted).2

/-- Starting a chain under the condition keeps the exclusion. -/
theorem startChain_exclusiveRun (hrun : ExclusiveRun request launches)
    (hposition : launches.chains[position]? = some .enqueued) {now : Timestamp}
    (halone : StartsAlone request launches (.start position now)) :
    ExclusiveRun request (startChain request launches position now) := by
  cases hstart : startRun now request launches.ops with
  | error exception =>
      simp only [startChain, hstart]
      exact hrun.weaken (.refl _) fun other context hother => (setChain_ended hposition hother).2
  | ok result =>
      obtain ⟨context, ops⟩ := result
      rcases halone hposition with ⟨hidle, hunfinished⟩ | ⟨exception, herror⟩ | ⟨hsource, hinactive⟩
      · exact startChain_of_idle hposition hidle hunfinished hstart
      · rw [hstart] at herror
        cases herror
      · -- without a source there is no run to start, and none that is active
        rcases startRun_spec hstart with ⟨rfl, rfl, -⟩ | ⟨runId, -, hstarted⟩
        · have hactive := (isRunActive_iff request.runKey launches.ops).not.mp (by simp [hinactive])
          rw [← startChain_ops position hstart] at hactive
          refine ⟨⟨?_, ?_⟩, ?_⟩
          · exact fun hrunning => absurd (Or.inl hrunning) hactive
          · exact fun hsuccess => absurd (Or.inr hsuccess) hactive
          · intro other runId hother
            rw [startChain_get? hposition hstart] at hother
            split_ifs at hother
            · cases hother
            · have htracked := (hrun.tracked other runId hother).source
              simp [hsource] at htracked
        · have hknown := hstarted.source
          simp [hsource] at hknown

/-- Without the condition the exclusion breaks. -/
theorem startsAlone_of_exclusive {now : Timestamp}
    (hexclusive : Exclusive request (launchStep request launches (.start position now))) :
    StartsAlone request launches (.start position now) := by
  intro hposition
  simp only [launchStep, hposition] at hexclusive
  by_contra hcondition
  simp only [not_or, not_and_or, not_exists, not_forall, not_not] at hcondition
  obtain ⟨hothers, hraises, hactive⟩ := hcondition
  cases hstart : startRun now request launches.ops with
  | error exception => exact hraises exception hstart
  | ok result =>
      obtain ⟨context, ops⟩ := result
      have hexecutes := startChain_executes hposition hstart
      have hself := (hexecutes position).mpr (Or.inl rfl)
      have hnotBefore : ¬ Executes launches position := by
        rintro ⟨_, hexecuting⟩
        rw [hposition] at hexecuting
        cases hexecuting
      -- while the run is going, another executing chain is one too many
      have halone : getRunStatusForKey request.runKey ops = some .running →
          ∀ other, ¬ Executes launches other := by
        intro hrunning other hother
        rw [← startChain_ops position hstart] at hrunning
        have hsame := hexclusive.alone hrunning other position
          ((hexecutes other).mpr (Or.inr hother)) hself
        exact hnotBefore (hsame ▸ hother)
      have hdone : getRunStatusForKey request.runKey ops ≠ some .success := by
        intro hsuccess
        rw [← startChain_ops position hstart] at hsuccess
        exact hexclusive.done hsuccess position hself
      rcases startRun_spec hstart with ⟨-, rfl, hreason⟩ | ⟨runId, -, hstarted⟩
      · obtain ⟨other, hother⟩ := hothers.resolve_right hdone
        rcases hreason with hsource | ⟨runId, run, hrun, hkey, hsuccess⟩
        · have hrunActive := hactive.resolve_left (not_not_intro hsource)
          rw [Bool.not_eq_false, isRunActive_iff] at hrunActive
          exact halone (hrunActive.resolve_right hdone) other hother
        · apply hdone
          rw [← hkey, getRunStatusForKey_of_run? hrun, hsuccess]
      · obtain ⟨other, hother⟩ := hothers.resolve_right (unfinished_of_started hstarted)
        exact halone (statusForKey_of_started hstarted).1 other hother

theorem exclusiveRun_step (hrun : ExclusiveRun request launches) (event : LaunchEvent)
    (halone : StartsAlone request launches event) :
    ExclusiveRun request (launchStep request launches event) := by
  cases event with
  | trigger =>
      simp only [launchStep]
      split_ifs
      · exact hrun
      · refine hrun.weaken (.refl _) fun other context hother => ?_
        -- what is appended does not execute yet
        rw [List.getElem?_append] at hother
        split_ifs at hother
        · exact hother
        · rw [List.getElem?_singleton] at hother
          split_ifs at hother
          cases hother
  | start position now =>
      simp only [launchStep]
      split
      next hposition => exact startChain_exclusiveRun hrun hposition halone
      next => exact hrun
  | step position service clock =>
      simp only [launchStep]
      split
      next context hposition =>
        exact hrun.weaken (onlyFails_commitWrites _ _ _) fun other context hother => hother
      next => exact hrun
  | finish position now =>
      simp only [launchStep]
      split
      next context hposition => exact finishChain_exclusiveRun hrun hposition now
      next => exact hrun
  | fail position service exception clock =>
      simp only [launchStep]
      split
      next context hposition =>
        exact hrun.weaken (onlyFails_commitWrites _ _ _) fun other context hother =>
          (setChain_ended hposition hother).2
      next => exact hrun

end Step

/-- A database with no chain under way. -/
def noChains (ops : OpsTables) : Launches := ⟨ops, []⟩

/-- In every interleaving of triggers and the chains they enqueue, at most one
chain executes while the run is going and none after it has succeeded, exactly
when every chain starts alone. -/
theorem one_execution_per_key_iff (request : RunRequest) (ops : OpsTables)
    (events : List LaunchEvent) :
    (∀ launches ∈ Run.visited (launchStep request) (noChains ops) events,
        Exclusive request launches) ↔
      Run.StepsMeet (launchStep request) (StartsAlone request) (noChains ops) events := by
  have hproperty : ∀ launches, ExclusiveRun request launches → Exclusive request launches :=
    fun _ hrun => hrun.exclusive
  apply Run.forall_visited_iff_of_inv hproperty
  · exact fun launches event hrun halone => exclusiveRun_step hrun event halone
  · intro launches event _ hexclusive
    cases event with
    | start position now => exact startsAlone_of_exclusive hexclusive
    | trigger | step | finish | fail => trivial
  · apply ExclusiveRun.of_idle
    rintro other ⟨context, hother⟩
    cases hother

/-- Two triggers both find no active run; both chains start it. -/
theorem second_trigger_executes_too :
    ¬ ∀ (request : RunRequest) (ops : OpsTables) (events : List LaunchEvent),
      ∀ launches ∈ Run.visited (launchStep request) (noChains ops) events,
        Exclusive request launches := by
  intro hexclusive
  have hboth := (hexclusive loadRequest noRuns
    [.trigger, .trigger, .start 0 10, .start 1 20] _ (Run.foldl_mem_visited _ _ _)).alone
    (by decide +kernel) 0 1 ⟨some 1, by decide +kernel⟩ ⟨some 1, by decide +kernel⟩
  cases hboth

end AutoMana.Ops
