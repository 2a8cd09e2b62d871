import AutoMana.Json
import AutoMana.Relational.Grouping

/-!
# The purge of stale beat tasks

When a worker starts it reads the broker's queue, groups the messages of the beat tasks
by a fingerprint and removes all but the first of each group. A fingerprint is the name of
the task, with the service path for `run_service`; it leaves the other arguments out.
-/

namespace AutoMana.Worker

open Relational

/-- What `_task_fingerprint` returns: the name of a task, or a path of `run_service`. -/
inductive Fingerprint where
  | task (name : Json)
  | runService (path : Json)

/-- An element of `_build_beat_fingerprints`. -/
inductive BeatTask where
  | task (name : String)
  | runService (path : String)
deriving DecidableEq, Repr

/-- The task and the arguments of a message. -/
structure Call where
  task : String
  args : Json
  kwargs : Json

/-- The `task` and `kwargs` of the entries of `beat_schedule`. -/
def beatSchedule : List (String × Json) :=
  [("automana.worker.tasks.pipelines.daily_scryfall_data_pipeline", .dict []),
    ("automana.worker.tasks.pipelines.daily_mtgjson_data_pipeline", .dict []),
    ("automana.worker.tasks.analytics.daily_summary_analytics_task", .dict []),
    ("automana.worker.tasks.pipelines.pipeline_health_alert_task", .dict []),
    ("automana.worker.tasks.pipelines.pipeline_health_alert_task", .dict []),
    ("automana.worker.tasks.pipelines.log_analysis_daily_task", .dict []),
    ("run_service", .dict [("path", .str "ops.integrity.card_catalog_report")]),
    ("run_service", .dict [("path", .str "ops.integrity.pricing_report")]),
    ("refresh_daily_prices", .dict []),
    ("archive_to_weekly_prices", .dict []),
    ("automana.worker.tasks.pipelines.shopify_weekly_pipeline", .dict []),
    ("automana.worker.tasks.ebay.ebay_sync_own_sales_task", .dict []),
    ("run_service", .dict [("path", .str "integrations.ebay.promote_sold_obs")]),
    ("run_service", .dict [("path", .str "integrations.pricing.fetch_fx_rates")]),
    ("automana.worker.tasks.ebay.ebay_cleanup_raw_files_task", .dict []),
    ("automana.worker.tasks.ebay_actions.drain_listing_actions_task", .dict []),
    ("automana.worker.tasks.pipelines.open_tcg_pricing_pipeline", .dict []),
    ("automana.worker.tasks.pipelines.mtgstock_build_id_mapping", .dict []),
    ("automana.worker.tasks.pipelines.mtgstock_tier1_refresh", .dict [("slot", .number 0 0)]),
    ("automana.worker.tasks.pipelines.mtgstock_tier1_refresh", .dict [("slot", .number 1 0)]),
    ("automana.worker.tasks.pipelines.mtgstock_tier1_refresh", .dict [("slot", .number 2 0)]),
    ("automana.worker.tasks.pipelines.mtgstock_tier1_refresh", .dict [("slot", .number 3 0)]),
    ("automana.worker.tasks.pipelines.mtgstock_tier2_refresh", .dict []),
    ("automana.worker.tasks.pipelines.mtgstock_tier3_refresh", .dict []),
    ("automana.worker.tasks.pipelines.mtgstock_incremental_load", .dict []),
    ("automana.worker.tasks.pipelines.mtgstock_discover_new_ids", .dict [])]

/-- `_build_beat_fingerprints`. -/
def buildBeatFingerprints : List BeatTask :=
  beatSchedule.filterMap fun entry =>
    if entry.1 = "run_service" then
      match entry.2.get? "path" .null with
      | some (.str path) => if path ≠ "" then some (.runService path) else none
      | _ => none
    else some (.task entry.1)

/-- The element of a fingerprint set that a fingerprint is equal to. -/
def Fingerprint.beatTask? : Fingerprint → Option BeatTask
  | .task (.str name) => if .task name ∈ buildBeatFingerprints then some (.task name) else none
  | .runService (.str path) =>
    if .runService path ∈ buildBeatFingerprints then some (.runService path) else none
  | _ => none

def Fingerprint.hashable : Fingerprint → Bool
  | .task name => name.hashable
  | .runService path => path.hashable

section

variable {Raw : Type} (loads : Raw → Option Json) (b64decode : Json → Option Raw)

/-- `json.loads(base64.b64decode(msg["body"]))`. -/
def messageBody (msg : Json) : Option Json := do
  let body ← msg.item? "body"
  let decoded ← b64decode body
  loads decoded

/-- The `kwargs` that the fingerprint reads from a body. -/
def bodyKwargs : Json → Json
  | .list (_ :: kwargs :: _) => kwargs
  | _ => .dict []

/-- `_task_fingerprint`; an exception inside it is caught and gives no fingerprint. -/
def taskFingerprint (raw : Raw) : Option Fingerprint := do
  let msg ← loads raw
  let headers ← msg.get? "headers" (.dict [])
  let task_name ← headers.get? "task" .null
  if !task_name.truthy then none
  else if task_name.isStr "run_service" then do
    let body ← messageBody loads b64decode msg
    let path := ((bodyKwargs body).get? "path" .null).getD .null
    if path.truthy then some (.runService path) else none
  else some (.task task_name)

/-- The beat task whose fingerprint a message has. -/
def beatTask? (raw : Raw) : Option BeatTask :=
  (taskFingerprint loads b64decode raw).bind Fingerprint.beatTask?

/-- `fp in beat_fingerprints` raises, because the fingerprint has no hash. -/
def raisesOn (raw : Raw) : Bool :=
  (taskFingerprint loads b64decode raw).any fun fingerprint => !fingerprint.hashable

/-- The call that a message asks for. -/
def callOf (raw : Raw) : Option Call := do
  let msg ← loads raw
  let headers ← msg.get? "headers" (.dict [])
  match headers.get? "task" .null, messageBody loads b64decode msg with
  | some (.str task), some (.list (args :: kwargs :: _)) => some ⟨task, args, kwargs⟩
  | _, _ => none

variable [DecidableEq Raw]

/-- `_purge_stale_beat_tasks` on the content of the `celery` list. -/
def purgeStaleBeatTasks (raw_items : List Raw) : List Raw :=
  if raw_items.any (raisesOn loads b64decode) then raw_items
  else
    let groups := groupBy (beatTask? loads b64decode) [] raw_items
    groups.foldl (fun queue group =>
      if 1 < group.2.length then group.2.tail.foldl List.erase queue else queue) raw_items

/-- No message is removed but a duplicate: every call in the list still has a message, the
messages of no beat task are all there, and what is left is in its order. -/
def PurgesOnlyDuplicates (raw_items : List Raw) : Prop :=
  (∀ raw ∈ raw_items, ∀ call, callOf loads b64decode raw = some call →
    ∃ kept ∈ purgeStaleBeatTasks loads b64decode raw_items,
      callOf loads b64decode kept = some call) ∧
  (∀ raw, beatTask? loads b64decode raw = none →
    (purgeStaleBeatTasks loads b64decode raw_items).count raw = raw_items.count raw) ∧
  (purgeStaleBeatTasks loads b64decode raw_items).Sublist raw_items

/-- Every message of a beat task asks for the call of the first message of that task, or
the purge stops before it removes anything. -/
def OneCallPerBeatTask (raw_items : List Raw) : Prop :=
  (∃ raw ∈ raw_items, raisesOn loads b64decode raw) ∨
  ∀ raw ∈ raw_items, ∀ task, beatTask? loads b64decode raw = some task →
    ∀ call, callOf loads b64decode raw = some call →
      ∀ first, raw_items.find? (fun other => beatTask? loads b64decode other = some task) =
        some first → callOf loads b64decode first = some call

end

section

variable {Raw : Type} {loads : Raw → Option Json} {b64decode : Json → Option Raw}

theorem exists_of_callOf {raw : Raw} {call : Call}
    (hcall : callOf loads b64decode raw = some call) :
    ∃ msg headers rest, loads raw = some msg ∧ msg.get? "headers" (.dict []) = some headers ∧
      headers.get? "task" .null = some (.str call.task) ∧
      messageBody loads b64decode msg = some (.list (call.args :: call.kwargs :: rest)) := by
  simp only [callOf, Option.bind_eq_bind, Option.bind_eq_some_iff] at hcall
  obtain ⟨msg, hmsg, headers, hheaders, hcall⟩ := hcall
  split at hcall
  · next task args kwargs rest htask hbody =>
    cases hcall
    exact ⟨msg, headers, rest, hmsg, hheaders, htask, hbody⟩
  · cases hcall

/-- The fingerprint of a message is determined by its call. -/
theorem taskFingerprint_of_callOf {raw : Raw} {call : Call}
    (hcall : callOf loads b64decode raw = some call) :
    taskFingerprint loads b64decode raw =
      if call.task = "" then none
      else if call.task = "run_service" then
        let path := ((call.kwargs.get? "path" .null).getD .null)
        if path.truthy then some (.runService path) else none
      else some (.task (.str call.task)) := by
  obtain ⟨msg, headers, rest, hmsg, hheaders, htask, hbody⟩ := exists_of_callOf hcall
  simp [taskFingerprint, hmsg, hheaders, htask, hbody, Json.truthy, Json.isStr, bodyKwargs]

theorem beatTask?_eq_of_callOf {raw other : Raw} {call : Call}
    (hraw : callOf loads b64decode raw = some call)
    (hother : callOf loads b64decode other = some call) :
    beatTask? loads b64decode raw = beatTask? loads b64decode other := by
  rw [beatTask?, beatTask?, taskFingerprint_of_callOf hraw, taskFingerprint_of_callOf hother]

variable [DecidableEq Raw]

theorem purgeStaleBeatTasks_of_raisesOn {raw_items : List Raw}
    (hraises : ∃ raw ∈ raw_items, raisesOn loads b64decode raw) :
    purgeStaleBeatTasks loads b64decode raw_items = raw_items := by
  rw [purgeStaleBeatTasks, if_pos (List.any_eq_true.mpr hraises)]

/-- The `lrem` calls take the tails of the groups out of the queue. -/
theorem purgeStaleBeatTasks_eq_diff {raw_items : List Raw}
    (hhash : ¬ ∃ raw ∈ raw_items, raisesOn loads b64decode raw) :
    purgeStaleBeatTasks loads b64decode raw_items =
      raw_items.diff ((groupBy (beatTask? loads b64decode) [] raw_items).flatMap
        fun group => group.2.tail) := by
  rw [purgeStaleBeatTasks, if_neg (fun hany => hhash (List.any_eq_true.mp hany)),
    List.diff_eq_foldl, List.foldl_flatMap]
  apply List.foldl_ext
  intro queue group _
  split
  · rfl
  · next hshort =>
    have htail : group.2.tail = [] := by
      rw [← List.length_eq_zero_iff, List.length_tail]
      omega
    rw [htail, List.foldl_nil]

/-- What is left when the purge runs: the messages of no beat task and the first of each. -/
theorem purgeStaleBeatTasks_perm_firsts {raw_items : List Raw}
    (hhash : ¬ ∃ raw ∈ raw_items, raisesOn loads b64decode raw) :
    (purgeStaleBeatTasks loads b64decode raw_items).Perm
      (firsts (beatTask? loads b64decode) [] raw_items) := by
  rw [purgeStaleBeatTasks_eq_diff hhash]
  exact diff_tails_perm_firsts _ _

theorem purgeStaleBeatTasks_sublist (raw_items : List Raw) :
    (purgeStaleBeatTasks loads b64decode raw_items).Sublist raw_items := by
  by_cases hraises : ∃ raw ∈ raw_items, raisesOn loads b64decode raw
  · rw [purgeStaleBeatTasks_of_raisesOn hraises]
  · rw [purgeStaleBeatTasks_eq_diff hraises]
    exact List.diff_sublist _ _

theorem count_purgeStaleBeatTasks {raw : Raw} (hbeat : beatTask? loads b64decode raw = none)
    (raw_items : List Raw) :
    (purgeStaleBeatTasks loads b64decode raw_items).count raw = raw_items.count raw := by
  by_cases hraises : ∃ raw ∈ raw_items, raisesOn loads b64decode raw
  · rw [purgeStaleBeatTasks_of_raisesOn hraises]
  · rw [(purgeStaleBeatTasks_perm_firsts hraises).count_eq]
    exact count_firsts_of_keyless hbeat _ _

theorem mem_purgeStaleBeatTasks {raw_items : List Raw}
    (hhash : ¬ ∃ raw ∈ raw_items, raisesOn loads b64decode raw) {raw : Raw} :
    raw ∈ purgeStaleBeatTasks loads b64decode raw_items ↔
      raw ∈ raw_items ∧ ∀ task, beatTask? loads b64decode raw = some task →
        raw_items.find? (fun other => beatTask? loads b64decode other = some task) =
          some raw := by
  rw [(purgeStaleBeatTasks_perm_firsts hhash).mem_iff, mem_firsts]
  simp only [List.not_mem_nil, not_false_eq_true, true_and]

/-- The purge removes only duplicates exactly when the messages of each beat task ask for
one call. -/
theorem purgesOnlyDuplicates_iff (loads : Raw → Option Json) (b64decode : Json → Option Raw)
    (raw_items : List Raw) :
    PurgesOnlyDuplicates loads b64decode raw_items ↔
      OneCallPerBeatTask loads b64decode raw_items := by
  constructor
  · intro hpurges
    by_cases hraises : ∃ raw ∈ raw_items, raisesOn loads b64decode raw
    · exact Or.inl hraises
    · apply Or.inr
      intro raw hraw task htask call hcall first hfirst
      obtain ⟨kept, hkept, hkeptCall⟩ := hpurges.1 raw hraw call hcall
      -- the message kept for the call has the same fingerprint, so it is the first
      have hsame := beatTask?_eq_of_callOf hkeptCall hcall
      have hfind := ((mem_purgeStaleBeatTasks hraises).mp hkept).2 task (hsame.trans htask)
      rw [hfirst, Option.some.injEq] at hfind
      rwa [hfind]
  · intro hone
    refine ⟨?_, ?_, purgeStaleBeatTasks_sublist raw_items⟩
    · intro raw hraw call hcall
      by_cases hraises : ∃ raw ∈ raw_items, raisesOn loads b64decode raw
      · exact ⟨raw, by rwa [purgeStaleBeatTasks_of_raisesOn hraises], hcall⟩
      · cases htask : beatTask? loads b64decode raw with
        | none =>
          refine ⟨raw, (mem_purgeStaleBeatTasks hraises).mpr ⟨hraw, ?_⟩, hcall⟩
          intro task hsome
          rw [htask] at hsome
          cases hsome
        | some task =>
          have hfound : (raw_items.find? fun other =>
              beatTask? loads b64decode other = some task).isSome :=
            List.find?_isSome.mpr ⟨raw, hraw, decide_eq_true htask⟩
          obtain ⟨first, hfirst⟩ := Option.isSome_iff_exists.mp hfound
          have hfirstTask : beatTask? loads b64decode first = some task := by
            simpa using List.find?_some hfirst
          have hfirstCall := hone.resolve_left hraises raw hraw task htask call hcall first hfirst
          refine ⟨first, (mem_purgeStaleBeatTasks hraises).mpr
            ⟨List.mem_of_find?_eq_some hfirst, ?_⟩, hfirstCall⟩
          intro task' hsome
          rw [hfirstTask, Option.some.injEq] at hsome
          rwa [← hsome]
    · intro raw hbeat
      exact count_purgeStaleBeatTasks hbeat raw_items

end

/-- The message of a slot of tier 1, with its encoded body. -/
def tier1Message (body : String) : String :=
  "\x7b\"body\": \"" ++ body ++ "\", \"headers\": \x7b\"task\": " ++
    "\"automana.worker.tasks.pipelines.mtgstock_tier1_refresh\"\x7d\x7d"

/-- The encoded body of a slot of tier 1, the text it decodes to, and the slot. -/
def tier1Bodies : List (String × String × Int) :=
  [("W1tdLCB7InNsb3QiOiAwfSwge31d", "[[], \x7b\"slot\": 0\x7d, \x7b\x7d]", 0),
    ("W1tdLCB7InNsb3QiOiAxfSwge31d", "[[], \x7b\"slot\": 1\x7d, \x7b\x7d]", 1)]

/-- `base64.b64decode` of the bodies of tier 1. -/
def tier1Decode : Json → Option String
  | .str body => (tier1Bodies.find? fun entry => entry.1 = body).map fun entry => entry.2.1
  | _ => none

/-- `json.loads` of the messages and the bodies of tier 1. -/
def tier1Loads (text : String) : Option Json :=
  match tier1Bodies.find? fun entry => tier1Message entry.1 = text with
  | some entry => some (.dict [("body", .str entry.1),
      ("headers",
        .dict [("task", .str "automana.worker.tasks.pipelines.mtgstock_tier1_refresh")])])
  | none => (tier1Bodies.find? fun entry => entry.2.1 = text).map fun entry =>
      .list [.list [], .dict [("slot", .number entry.2.2 0)], .dict []]

/-- Two slots of tier 1 wait in the queue, and the purge removes the second. -/
theorem purgesOnlyDuplicates_tier1 :
    ¬ PurgesOnlyDuplicates tier1Loads tier1Decode
      [tier1Message "W1tdLCB7InNsb3QiOiAwfSwge31d",
        tier1Message "W1tdLCB7InNsb3QiOiAxfSwge31d"] := by
  intro hpurges
  have hleft : purgeStaleBeatTasks tier1Loads tier1Decode
      [tier1Message "W1tdLCB7InNsb3QiOiAwfSwge31d",
        tier1Message "W1tdLCB7InNsb3QiOiAxfSwge31d"] =
      [tier1Message "W1tdLCB7InNsb3QiOiAwfSwge31d"] := by
    decide
  obtain ⟨kept, hkept, hcall⟩ := hpurges.1 (tier1Message "W1tdLCB7InNsb3QiOiAxfSwge31d")
    (by simp) _ rfl
  rw [hleft, List.mem_singleton] at hkept
  subst hkept
  have hfirst : (callOf tier1Loads tier1Decode (tier1Message "W1tdLCB7InNsb3QiOiAwfSwge31d")).map
      Call.kwargs = some (.dict [("slot", .number 0 0)]) := rfl
  rw [hcall] at hfirst
  simp at hfirst

end AutoMana.Worker
