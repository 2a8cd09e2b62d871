import AutoMana.Json
import AutoMana.Relational.Runs
import AutoMana.Relational.Table
import Mathlib.Data.List.DropRight

/-!
# run_alert_check

A run asks every integrity service for its report, stores a snapshot of each, and posts to
Discord the check sets whose status is not that of their latest earlier snapshot. The
snapshots are stored whether or not the post succeeds, so they say what was seen, and not what
was announced. A check set is passed over when it is still in a status whose post has failed.
-/

namespace AutoMana.Ops

open Relational

inductive HealthStatus where
  | ok
  | warn
  | error
  deriving DecidableEq

/-- What `run_alert_check` makes texts with. -/
structure AlertTexts where
  toStr : Json → String
  isSpace : Char → Bool

/-! ## Reports -/

/-- A row of a check. -/
structure CheckRow where
  checkName : String
  severity : String
  details : Json

structure CheckReport where
  checkSet : String
  totalChecks : Nat
  errorCount : Nat
  warnCount : Nat
  errors : List CheckRow

/-- `_build_report` -/
def buildReport (checkSet : String) (rows : List CheckRow) : CheckReport :=
  let errors := rows.filter fun row => row.severity = "error"
  let warnings := rows.filter fun row => row.severity = "warn"
  { checkSet
    totalChecks := rows.length
    errorCount := errors.length
    warnCount := warnings.length
    errors }

/-- What is stored of a report, or of an exception. -/
inductive HealthReport where
  | checks (report : CheckReport)
  | exception (checkSet exception traceback serviceKey : String)

def deriveStatus (errorCount warnCount : Nat) : HealthStatus :=
  if 0 < errorCount then .error else if 0 < warnCount then .warn else .ok

/-- `_KNOWN_PIPELINES` -/
def knownPipelines : List String := ["scryfall", "mtgjson", "mtgstock", "pricing"]

def derivePipeline (checkSet : String) : String :=
  let first := String.ofList (checkSet.toList.takeWhile (· ≠ '_'))
  if first ∈ knownPipelines then first else "infrastructure"

/-- A row of `ops.pipeline_health_snapshot`. Run ids are numbered as the runs are, and so is
`captured_at`. -/
structure Snapshot where
  runId : Nat
  checkSet : String
  pipeline : String
  status : HealthStatus
  errorCount : Nat
  warnCount : Nat
  totalChecks : Nat
  report : HealthReport

def rowFromReport (runId : Nat) (report : CheckReport) : Snapshot :=
  let name := if report.checkSet = "" then "unknown" else report.checkSet
  { runId
    checkSet := name
    pipeline := derivePipeline name
    status := deriveStatus report.errorCount report.warnCount
    errorCount := report.errorCount
    warnCount := report.warnCount
    totalChecks := report.totalChecks
    report := .checks report }

/-- The path that all integrity services are registered under. -/
def integrityPath : String := "ops.integrity."

/-- `service_key.removeprefix("ops.integrity.")` -/
def checkSetOfKey (serviceKey : String) : String :=
  if integrityPath.toList.isPrefixOf serviceKey.toList then
    String.ofList (serviceKey.toList.drop integrityPath.length)
  else serviceKey

def rowFromException (runId : Nat) (serviceKey exception traceback : String) : Snapshot :=
  let name := checkSetOfKey serviceKey
  { runId
    checkSet := name
    pipeline := derivePipeline name
    status := .error
    errorCount := 1
    warnCount := 0
    totalChecks := 0
    report := .exception name exception traceback serviceKey }

def deltaSummary (texts : AlertTexts) : HealthReport → String
  | .checks report =>
    if 0 < report.errorCount then
      match report.errors with
      | [] => toString report.errorCount ++ " new error(s)"
      | top :: _ =>
        let details :=
          match top.details with
          | .list items => if items.isEmpty then "" else "[" ++ toString items.length ++ " rows]"
          | details => if details.truthy then texts.toStr details else ""
        let line := toString report.errorCount ++ " new error(s), top: " ++ top.checkName ++ " " ++
          String.ofList (details.toList.take 60)
        String.ofList (line.toList.rdropWhile texts.isSpace)
    else if 0 < report.warnCount then toString report.warnCount ++ " new warning(s)"
    else "all clear"
  -- without an `error_count` an exception has no errors
  | .exception .. => "all clear"

/-! ## Transitions -/

def HealthStatus.rank : HealthStatus → Nat
  | .ok => 0
  | .warn => 1
  | .error => 2

/-- `_ICON` -/
def HealthStatus.icon : HealthStatus → String
  | .ok => "✅"
  | .warn => "⚠️"
  | .error => "❌"

inductive Verdict where
  | baseline
  | unchanged
  | degraded
  | recovered
  deriving DecidableEq

def classifyTransition (prior : Option HealthStatus) (current : HealthStatus) : Verdict :=
  match prior with
  | none => .baseline
  | some prior =>
    if current.rank = prior.rank then .unchanged
    else if prior.rank < current.rank then .degraded
    else .recovered

/-- A check set that is alerted. -/
structure Transition where
  checkSet : String
  pipeline : String
  fromStatus : HealthStatus
  toStatus : HealthStatus
  deltaSummary : String

/-! ## The message -/

def formatLine (item : Transition) : String :=
  "· " ++ item.checkSet ++ ": " ++ item.fromStatus.icon ++ " → " ++ item.toStatus.icon ++
    " (" ++ item.deltaSummary ++ ")"

/-- `MAX` -/
def maxListed : Nat := 5

def moreLine (dropped runId : Nat) : String :=
  "… and " ++ toString dropped ++ " more (run_id=" ++ toString runId ++ ")"

/-- The lines of the first transitions, and the count of the others. -/
def listing (items : List Transition) (runId : Nat) : List String :=
  (items.take maxListed).map formatLine ++
    if items.drop maxListed = [] then [] else [moreLine (items.drop maxListed).length runId]

def block (label : String) (items : List Transition) (runId : Nat) : List String :=
  if items = [] then [] else (label ++ ":") :: listing items runId

/-- The lines of the message; `none` when there is nothing to alert on. -/
def formatDiscordPayload (capturedAt : String) (degraded recovered : List Transition)
    (runId : Nat) : Option (List String) :=
  match degraded, recovered with
  | [], [] => none
  | _ :: _, _ :: _ =>
    some (("⚠️ Pipeline health changed — " ++ capturedAt) ::
      (block "Degraded" degraded runId ++ block "Recovered" recovered runId))
  | _ :: _, [] => some (("⚠️ Pipeline health degraded — " ++ capturedAt) :: listing degraded runId)
  | [], _ :: _ => some (("✅ Pipeline health recovered — " ++ capturedAt) :: listing recovered runId)

/-! ## A run -/

/-- What an integrity service ends with: the rows of its report, or an exception. -/
inductive CheckOutcome where
  | reported (rows : List CheckRow)
  | raised (exception traceback : String)

/-- What the post ends with. -/
inductive Delivery where
  /-- There is no webhook. -/
  | unset
  | status (code : Nat)
  | raised

def Delivery.succeeds : Delivery → Bool
  | .status code => 200 ≤ code && code < 300
  | _ => false

/-- What a run meets. Each service is registered under the path and the name of its check set,
which is also the one in its report. -/
structure HealthRun where
  capturedAt : String
  services : List (String × CheckOutcome)
  nodup : (services.map Prod.fst).Nodup
  named : "" ∉ services.map Prod.fst
  delivery : Delivery

/-- The row of a service. -/
def snapshotOf (runId : Nat) (service : String × CheckOutcome) : Snapshot :=
  match service.2 with
  | .raised exception traceback =>
    rowFromException runId (integrityPath ++ service.1) exception traceback
  | .reported rows => rowFromReport runId (buildReport service.1 rows)

def latestForCheckSet (snapshots : List Snapshot) (checkSet : String) (excludeRunId : Nat) :
    Option Snapshot :=
  (snapshots.filter fun row => row.checkSet = checkSet ∧ row.runId ≠ excludeRunId).getLast?

/-- The snapshots, and of each check set the status that was announced last: the first one, and
then those of the posts that succeeded. -/
structure AlertState where
  snapshots : List Snapshot
  runs : Nat
  announced : String → Option HealthStatus

def AlertState.start : AlertState := ⟨[], 0, fun _ => none⟩

namespace AlertState

variable (texts : AlertTexts) (state : AlertState) (run : HealthRun)

def rows : List Snapshot := run.services.map (snapshotOf state.runs)

/-- The status of the latest snapshot that an earlier run has stored. -/
def priorStatus (checkSet : String) : Option HealthStatus :=
  (latestForCheckSet (state.snapshots ++ state.rows run) checkSet state.runs).map (·.status)

def verdict (row : Snapshot) : Verdict :=
  classifyTransition (state.priorStatus run row.checkSet) row.status

def transition (row : Snapshot) : Transition where
  checkSet := row.checkSet
  pipeline := row.pipeline
  fromStatus := (state.priorStatus run row.checkSet).getD .ok
  toStatus := row.status
  deltaSummary := deltaSummary texts row.report

/-- The transitions with a verdict. -/
def transitions (verdict : Verdict) : List Transition :=
  ((state.rows run).filter fun row => state.verdict run row = verdict).map
    (state.transition texts run)

def payload : Option (List String) :=
  formatDiscordPayload run.capturedAt (state.transitions texts run .degraded)
    (state.transitions texts run .recovered) state.runs

def alerted : Bool := (state.payload texts run).isSome && run.delivery.succeeds

/-- What is announced of a check set after the run. -/
def announcedAfter (checkSet : String) : Option HealthStatus :=
  match (state.rows run).find? (·.checkSet = checkSet) with
  | none => state.announced checkSet
  | some row =>
    match state.verdict run row with
    | .baseline => some row.status
    | .unchanged => state.announced checkSet
    | _ => if state.alerted texts run then some row.status else state.announced checkSet

/-- `run_alert_check` -/
def step : AlertState where
  snapshots := state.snapshots ++ state.rows run
  runs := state.runs + 1
  announced := state.announcedAfter texts run

/-! ## What is claimed of a run -/

/-- A transition has a line in the message, or is one of those that it counts. -/
def Reported (items : List Transition) (lines : List String) (item : Transition) : Prop :=
  item ∈ items ∧ (formatLine item ∈ lines ∨ item ∈ items.drop maxListed ∧
    moreLine (items.drop maxListed).length state.runs ∈ lines)

/-- The message reports a transition of the check set with this verdict. -/
def Announces (verdict : Verdict) (checkSet : String) : Prop :=
  ∃ lines, state.payload texts run = some lines ∧ ∃ item, item.checkSet = checkSet ∧
    state.Reported (state.transitions texts run verdict) lines item

/-- The message reports each check set that is in another status than was announced last, and,
as degraded, each one whose service raises after its check set was ok. -/
structure Alerts : Prop where
  changed : ∀ row ∈ state.rows run, ∀ last, state.announced row.checkSet = some last →
    row.status ≠ last → ∃ verdict, (verdict = .degraded ∨ verdict = .recovered) ∧
      state.Announces texts run verdict row.checkSet
  raised : ∀ name exception traceback, (name, .raised exception traceback) ∈ run.services →
    state.priorStatus run name = some .ok → state.Announces texts run .degraded name

/-- A check set that is still in the status of its latest snapshot is in the one that was
announced last. -/
def NothingMissed : Prop :=
  ∀ row ∈ state.rows run, state.priorStatus run row.checkSet = some row.status →
    state.announced row.checkSet = some row.status

/-! ## The rows of a run -/

section Rows

theorem checkSetOfKey_path (name : String) : checkSetOfKey (integrityPath ++ name) = name := by
  have hpath : integrityPath.toList.isPrefixOf (integrityPath ++ name).toList := by
    rw [String.toList_append, List.isPrefixOf_iff_prefix]
    exact List.prefix_append _ _
  rw [checkSetOfKey, if_pos hpath, String.toList_append, ← String.length_toList,
    List.drop_left, String.ofList_toList]

theorem checkSet_snapshotOf {runId : Nat} {service : String × CheckOutcome}
    (hnamed : service.1 ≠ "") : (snapshotOf runId service).checkSet = service.1 := by
  unfold snapshotOf
  cases service.2 with
  | raised exception traceback => exact checkSetOfKey_path service.1
  | reported rows => exact if_neg hnamed

theorem runId_snapshotOf (runId : Nat) (service : String × CheckOutcome) :
    (snapshotOf runId service).runId = runId := by
  unfold snapshotOf
  cases service.2 <;> rfl

theorem checkSets_rows : (state.rows run).map (·.checkSet) = run.services.map Prod.fst := by
  rw [rows, List.map_map]
  apply List.map_congr_left
  intro service hservice
  apply checkSet_snapshotOf
  intro hempty
  exact run.named (hempty ▸ List.mem_map_of_mem hservice)

theorem nodup_rows : ((state.rows run).map (·.checkSet)).Nodup := by
  rw [checkSets_rows]
  exact run.nodup

theorem runId_of_mem_rows {row : Snapshot} (hrow : row ∈ state.rows run) :
    row.runId = state.runs := by
  obtain ⟨service, -, rfl⟩ := List.mem_map.mp hrow
  exact runId_snapshotOf state.runs service

end Rows

/-! ## Verdicts -/

section Verdicts

variable {state run}

theorem rank_injective : Function.Injective HealthStatus.rank := by
  intro first second hrank
  cases first <;> cases second <;> first | rfl | cases hrank

theorem classifyTransition_baseline_iff {prior : Option HealthStatus} {current : HealthStatus} :
    classifyTransition prior current = .baseline ↔ prior = none := by
  cases prior with
  | none => exact iff_of_true rfl rfl
  | some prior =>
    unfold classifyTransition
    refine iff_of_false ?_ (Option.some_ne_none prior)
    dsimp only
    split_ifs <;> decide

theorem classifyTransition_unchanged_iff {prior : Option HealthStatus} {current : HealthStatus} :
    classifyTransition prior current = .unchanged ↔ prior = some current := by
  cases prior with
  | none =>
    refine iff_of_false ?_ (Option.some_ne_none current).symm
    exact Verdict.noConfusion
  | some prior =>
    unfold classifyTransition
    rw [Option.some.injEq, ← rank_injective.eq_iff]
    dsimp only
    split_ifs with hsame hworse
    · exact iff_of_true rfl hsame.symm
    · exact iff_of_false (by decide) (Ne.symm hsame)
    · exact iff_of_false (by decide) (Ne.symm hsame)

/-- A status other than the prior one is a transition. -/
theorem transition_of_ne {prior current : HealthStatus} (hne : prior ≠ current) :
    classifyTransition (some prior) current = .degraded ∨
      classifyTransition (some prior) current = .recovered := by
  cases hverdict : classifyTransition (some prior) current with
  | baseline => cases classifyTransition_baseline_iff.mp hverdict
  | unchanged =>
    exact absurd (Option.some.inj (classifyTransition_unchanged_iff.mp hverdict)) hne
  | degraded => exact Or.inl rfl
  | recovered => exact Or.inr rfl

end Verdicts

/-! ## The message reports all transitions -/

section Message

variable {texts state run}

theorem reported_of_listing {items : List Transition} {lines : List String}
    (hlines : listing items state.runs ⊆ lines) {item : Transition} (hitem : item ∈ items) :
    state.Reported items lines item := by
  refine ⟨hitem, ?_⟩
  rw [← List.take_append_drop maxListed items, List.mem_append] at hitem
  rcases hitem with hlisted | hdropped
  · exact Or.inl (hlines (List.mem_append_left _ (List.mem_map_of_mem hlisted)))
  · refine Or.inr ⟨hdropped, hlines (List.mem_append_right _ ?_)⟩
    rw [if_neg (List.ne_nil_of_mem hdropped)]
    exact List.mem_singleton_self _

theorem listing_subset_block (label : String) {items : List Transition} (runId : Nat)
    (hsome : items ≠ []) : listing items runId ⊆ block label items runId := by
  rw [block, if_neg hsome]
  exact List.subset_cons_self _ _

/-- The message lists the transitions of either kind. -/
theorem exists_payload (capturedAt : String) {degraded recovered : List Transition} (runId : Nat)
    (hsome : degraded ≠ [] ∨ recovered ≠ []) :
    ∃ lines, formatDiscordPayload capturedAt degraded recovered runId = some lines ∧
      (degraded ≠ [] → listing degraded runId ⊆ lines) ∧
      (recovered ≠ [] → listing recovered runId ⊆ lines) := by
  cases degraded with
  | nil =>
    cases recovered with
    | nil => simp at hsome
    | cons first rest =>
      exact ⟨_, rfl, fun hne => absurd rfl hne, fun _ => List.subset_cons_self _ _⟩
  | cons worse others =>
    cases recovered with
    | nil => exact ⟨_, rfl, fun _ => List.subset_cons_self _ _, fun hne => absurd rfl hne⟩
    | cons better rest =>
      refine ⟨_, rfl, fun hne => ?_, fun hne => ?_⟩
      · apply List.subset_cons_of_subset
        exact List.Subset.trans (listing_subset_block _ _ hne) (List.subset_append_left _ _)
      · apply List.subset_cons_of_subset
        exact List.Subset.trans (listing_subset_block _ _ hne) (List.subset_append_right _ _)

variable (texts) in
/-- A row with the verdict of a transition is reported. -/
theorem announces_of_row {row : Snapshot} (hrow : row ∈ state.rows run) {verdict : Verdict}
    (hverdict : state.verdict run row = verdict)
    (hkind : verdict = .degraded ∨ verdict = .recovered) :
    state.Announces texts run verdict row.checkSet := by
  have hitem : state.transition texts run row ∈ state.transitions texts run verdict :=
    List.mem_map_of_mem (List.mem_filter.mpr ⟨hrow, decide_eq_true hverdict⟩)
  have hsome := List.ne_nil_of_mem hitem
  rcases hkind with rfl | rfl
  · obtain ⟨lines, hlines, hlisted, -⟩ := exists_payload run.capturedAt state.runs
      (Or.inl hsome : _ ∨ state.transitions texts run .recovered ≠ [])
    exact ⟨lines, hlines, _, rfl, reported_of_listing (hlisted hsome) hitem⟩
  · obtain ⟨lines, hlines, -, hlisted⟩ := exists_payload run.capturedAt state.runs
      (Or.inr hsome : state.transitions texts run .degraded ≠ [] ∨ _)
    exact ⟨lines, hlines, _, rfl, reported_of_listing (hlisted hsome) hitem⟩

/-- What is reported of a check set is the verdict on its row. -/
theorem verdict_of_announces {row : Snapshot} (hrow : row ∈ state.rows run) {verdict : Verdict}
    (hannounced : state.Announces texts run verdict row.checkSet) :
    state.verdict run row = verdict := by
  obtain ⟨lines, -, item, hname, hitem, -⟩ := hannounced
  obtain ⟨other, hother, rfl⟩ := List.mem_map.mp hitem
  obtain ⟨hmem, hverdict⟩ := List.mem_filter.mp hother
  rw [List.inj_on_of_nodup_map (nodup_rows state run) hrow hmem hname.symm]
  exact of_decide_eq_true hverdict

end Message

/-! ## What is known of a check set -/

section Known

variable {texts state run}

/-- The snapshots are of earlier runs, and something is announced of the check sets that have
one. -/
structure Sound (state : AlertState) : Prop where
  numbered : ∀ row ∈ state.snapshots, row.runId < state.runs
  known : ∀ checkSet, (state.announced checkSet).isSome ↔
    ∃ row ∈ state.snapshots, row.checkSet = checkSet

theorem sound_start : Sound .start :=
  ⟨fun _ hrow => absurd hrow List.not_mem_nil, fun _ => by simp [start]⟩

/-- The status of the latest snapshot of a check set. -/
def lastStatus (state : AlertState) (checkSet : String) : Option HealthStatus :=
  (state.snapshots.filter (·.checkSet = checkSet)).getLast?.map (·.status)

variable (run) in
theorem priorStatus_eq (hsound : Sound state) (checkSet : String) :
    state.priorStatus run checkSet = state.lastStatus checkSet := by
  have hold : state.snapshots.filter
      (fun row => row.checkSet = checkSet ∧ row.runId ≠ state.runs) =
        state.snapshots.filter (·.checkSet = checkSet) := by
    apply List.filter_congr
    intro row hrow
    simp [(hsound.numbered row hrow).ne]
  have hnew : (state.rows run).filter
      (fun row => row.checkSet = checkSet ∧ row.runId ≠ state.runs) = [] := by
    apply List.filter_eq_nil_iff.mpr
    intro row hrow
    simp [runId_of_mem_rows state run hrow]
  rw [priorStatus, latestForCheckSet, List.filter_append, hold, hnew, List.append_nil, lastStatus]

variable (run) in
theorem isSome_priorStatus (hsound : Sound state) (checkSet : String) :
    (state.priorStatus run checkSet).isSome ↔ (state.announced checkSet).isSome := by
  rw [priorStatus_eq run hsound, hsound.known, lastStatus, Option.isSome_map, List.getLast?_isSome,
    Ne, List.filter_eq_nil_iff]
  simp

theorem Sound.step (hsound : Sound state) : Sound (state.step texts run) := by
  constructor
  case numbered =>
    intro row hrow
    rcases List.mem_append.mp hrow with hold | hnew
    · exact Nat.lt_succ_of_lt (hsound.numbered row hold)
    · exact Nat.lt_succ_of_le (runId_of_mem_rows state run hnew).le
  case known =>
    intro checkSet
    change (state.announcedAfter texts run checkSet).isSome ↔
      ∃ row ∈ state.snapshots ++ state.rows run, row.checkSet = checkSet
    unfold announcedAfter
    cases hfind : (state.rows run).find? (·.checkSet = checkSet) with
    | none =>
      rw [hsound.known]
      have hnone : ∀ row ∈ state.rows run, row.checkSet ≠ checkSet := by
        simpa using List.find?_eq_none.mp hfind
      simp only [List.mem_append, or_and_right, exists_or]
      exact (or_iff_left fun ⟨row, hrow, hname⟩ => hnone row hrow hname).symm
    | some row =>
      obtain ⟨hrow, hname⟩ := (Table.find?_unique_iff (nodup_rows state run) _ _).mp hfind
      have hknown : state.verdict run row ≠ .baseline → (state.announced checkSet).isSome := by
        intro hseen
        rw [← isSome_priorStatus run hsound, ← hname, Option.isSome_iff_ne_none]
        exact fun hnone => hseen (classifyTransition_baseline_iff.mpr hnone)
      refine iff_of_true ?_ ⟨row, List.mem_append_right _ hrow, hname⟩
      dsimp only
      cases hverdict : state.verdict run row with
      | baseline => rfl
      | unchanged => exact hknown (by rw [hverdict]; decide)
      | degraded =>
        dsimp only
        split_ifs
        · rfl
        · exact hknown (by rw [hverdict]; decide)
      | recovered =>
        dsimp only
        split_ifs
        · rfl
        · exact hknown (by rw [hverdict]; decide)

/-- A check set in another status than its latest snapshot has is announced. -/
theorem announces_of_ne (texts : AlertTexts) {row : Snapshot} (hrow : row ∈ state.rows run)
    {prior : HealthStatus} (hprior : state.priorStatus run row.checkSet = some prior)
    (hne : prior ≠ row.status) :
    ∃ verdict, (verdict = .degraded ∨ verdict = .recovered) ∧
      state.Announces texts run verdict row.checkSet := by
  have hverdict : state.verdict run row = classifyTransition (some prior) row.status :=
    congrArg (classifyTransition · row.status) hprior
  exact ⟨_, transition_of_ne hne, announces_of_row texts hrow hverdict (transition_of_ne hne)⟩

/-- A check set in the status of its latest snapshot is not. -/
theorem not_announces_of_eq {row : Snapshot} (hrow : row ∈ state.rows run)
    (hprior : state.priorStatus run row.checkSet = some row.status) {verdict : Verdict}
    (hkind : verdict = .degraded ∨ verdict = .recovered) :
    ¬ state.Announces texts run verdict row.checkSet := by
  intro hannounced
  have hunchanged : state.verdict run row = .unchanged :=
    classifyTransition_unchanged_iff.mpr hprior
  rw [verdict_of_announces hrow hannounced] at hunchanged
  rcases hkind with rfl | rfl <;> cases hunchanged

/-- A service that raises after its check set was ok is announced as degraded. -/
theorem announces_raised (texts : AlertTexts) {name exception traceback : String}
    (hservice : (name, .raised exception traceback) ∈ run.services)
    (hprior : state.priorStatus run name = some .ok) :
    state.Announces texts run .degraded name := by
  have hnamed : name ≠ "" := fun hempty => run.named (hempty ▸ List.mem_map_of_mem hservice)
  have hrow : snapshotOf state.runs (name, .raised exception traceback) ∈ state.rows run :=
    List.mem_map_of_mem hservice
  have hname : (snapshotOf state.runs (name, .raised exception traceback)).checkSet = name :=
    checkSet_snapshotOf hnamed
  have hverdict : state.verdict run (snapshotOf state.runs (name, .raised exception traceback)) =
      .degraded := by
    rw [AlertState.verdict, hname, hprior]
    rfl
  rw [← hname]
  exact announces_of_row texts hrow hverdict (Or.inl rfl)

/-- A run alerts everything exactly when it misses nothing. -/
theorem alerts_iff (hsound : Sound state) : state.Alerts texts run ↔ state.NothingMissed run := by
  constructor
  · intro halerts row hrow hprior
    have hknown : (state.announced row.checkSet).isSome := by
      rw [← isSome_priorStatus run hsound, hprior]
      rfl
    obtain ⟨last, hlast⟩ := Option.isSome_iff_exists.mp hknown
    by_contra hmissed
    have hne : row.status ≠ last := fun hsame => hmissed (hlast.trans (congrArg some hsame.symm))
    obtain ⟨verdict, hkind, hannounced⟩ := halerts.changed row hrow last hlast hne
    exact not_announces_of_eq hrow hprior hkind hannounced
  · intro hmissed
    constructor
    case changed =>
      intro row hrow last hlast hne
      have hseen : (state.priorStatus run row.checkSet).isSome := by
        rw [isSome_priorStatus run hsound, hlast]
        rfl
      obtain ⟨prior, hprior⟩ := Option.isSome_iff_exists.mp hseen
      refine announces_of_ne texts hrow hprior ?_
      rintro rfl
      exact hne (Option.some.inj ((hmissed row hrow hprior).symm.trans hlast))
    case raised =>
      intro name exception traceback hservice hprior
      exact announces_raised texts hservice hprior

/-- Of each check set its latest status is announced. -/
def UpToDate (state : AlertState) : Prop :=
  ∀ checkSet, state.announced checkSet = state.lastStatus checkSet

theorem lastStatus_step_of_mem {row : Snapshot} (hrow : row ∈ state.rows run) :
    (state.step texts run).lastStatus row.checkSet = some row.status := by
  have hmem : row ∈ (state.rows run).filter (·.checkSet = row.checkSet) :=
    List.mem_filter.mpr ⟨hrow, decide_eq_true rfl⟩
  obtain ⟨last, hlast⟩ := Option.isSome_iff_exists.mp
    (List.getLast?_isSome.mpr (List.ne_nil_of_mem hmem))
  obtain ⟨hother, hname⟩ := List.mem_filter.mp (List.mem_of_getLast? hlast)
  obtain rfl := List.inj_on_of_nodup_map (nodup_rows state run) hother hrow
    (of_decide_eq_true hname)
  rw [lastStatus, AlertState.step, List.filter_append, List.getLast?_append, hlast]
  rfl

/-- When the message of the run is delivered, all latest statuses are announced. -/
theorem UpToDate.step (hsound : Sound state) (hupToDate : UpToDate state)
    (hdelivered : (state.payload texts run).isSome → run.delivery.succeeds) :
    UpToDate (state.step texts run) := by
  intro checkSet
  change state.announcedAfter texts run checkSet = _
  unfold announcedAfter
  cases hfind : (state.rows run).find? (·.checkSet = checkSet) with
  | none =>
    have hnone : (state.rows run).filter (·.checkSet = checkSet) = [] :=
      List.filter_eq_nil_iff.mpr (List.find?_eq_none.mp hfind)
    rw [lastStatus, AlertState.step, List.filter_append, hnone, List.append_nil]
    exact hupToDate checkSet
  | some row =>
    obtain ⟨hrow, rfl⟩ := (Table.find?_unique_iff (nodup_rows state run) _ _).mp hfind
    have halerted (hkind : state.verdict run row = .degraded ∨ state.verdict run row = .recovered) :
        state.alerted texts run = true := by
      obtain ⟨lines, hlines, -⟩ := announces_of_row texts hrow rfl hkind
      have hsome : (state.payload texts run).isSome := Option.isSome_of_eq_some hlines
      rw [alerted, hsome, hdelivered hsome]
      rfl
    rw [lastStatus_step_of_mem hrow]
    dsimp only
    cases hverdict : state.verdict run row with
    | baseline => rfl
    | unchanged =>
      dsimp only
      rw [hupToDate, ← priorStatus_eq run hsound]
      exact classifyTransition_unchanged_iff.mp hverdict
    | degraded => exact if_pos (halerted (Or.inl hverdict))
    | recovered => exact if_pos (halerted (Or.inr hverdict))

theorem nothingMissed_of_upToDate (hsound : Sound state) (hupToDate : UpToDate state) :
    state.NothingMissed run := by
  intro row hrow hprior
  rw [hupToDate, ← priorStatus_eq run hsound, hprior]

end Known

end AlertState

/-- A history whose messages are all delivered misses nothing. -/
theorem nothingMissed_of_delivered {texts : AlertTexts} {history : List HealthRun}
    (hdelivered : Run.StepsMeet (AlertState.step texts)
      (fun state run => (state.payload texts run).isSome → run.delivery.succeeds) .start history) :
    Run.StepsMeet (AlertState.step texts) AlertState.NothingMissed .start history := by
  have hinit : AlertState.Sound .start ∧ AlertState.UpToDate .start :=
    ⟨AlertState.sound_start, fun _ => rfl⟩
  generalize AlertState.start = state at hinit hdelivered
  induction history generalizing state with
  | nil => trivial
  | cons run rest ih =>
    obtain ⟨hsound, hupToDate⟩ := hinit
    exact ⟨AlertState.nothingMissed_of_upToDate hsound hupToDate,
      ih _ ⟨hsound.step, hupToDate.step hsound hdelivered.1⟩ hdelivered.2⟩

/-- Every run of a history reports all check sets in another status than was announced last, and
all that begin to raise, exactly when no run finds a check set in the status of its latest
snapshot that was not announced. -/
theorem alerts_all_iff (texts : AlertTexts) (history : List HealthRun) :
    Run.StepsMeet (AlertState.step texts) (fun state run => state.Alerts texts run) .start
        history ↔
      Run.StepsMeet (AlertState.step texts) AlertState.NothingMissed .start history :=
  Run.stepsMeet_congr (fun _ _ (hsound : AlertState.Sound _) => AlertState.alerts_iff hsound)
    (fun _ _ hsound _ => hsound.step)
    AlertState.sound_start

/-! ## A missed transition -/

/-- A run that asks one service. -/
def integrityRun (outcome : CheckOutcome) (delivery : Delivery) : HealthRun where
  capturedAt := "2026-05-01 06:00 AEST"
  services := [("scryfall_integrity", outcome)]
  nodup := List.nodup_singleton _
  named := by simp
  delivery

/-- The check is ok, and then raises, when Discord does not answer. -/
def raisesUnposted : List HealthRun := [
  integrityRun (.reported []) .unset,
  integrityRun (.raised "TimeoutError" "") (.status 503)]

def sampleTexts : AlertTexts := ⟨fun _ => "", fun _ => false⟩

/-- The next run is silent about it. -/
theorem unposted_is_never_alerted :
    ¬ Run.StepsMeet (AlertState.step sampleTexts) (fun state run => state.Alerts sampleTexts run)
      .start (raisesUnposted ++ [integrityRun (.raised "TimeoutError" "") (.status 204)]) := by
  intro halerts
  obtain ⟨-, -, halerts, -⟩ := halerts
  obtain ⟨verdict, hkind, lines, hlines, -⟩ :=
    halerts.changed _ List.mem_cons_self .ok (by decide) (by decide)
  have hsilent : (raisesUnposted.foldl (AlertState.step sampleTexts) .start).payload sampleTexts
      (integrityRun (.raised "TimeoutError" "") (.status 204)) = none := by decide
  cases hsilent.symm.trans hlines

end AutoMana.Ops
