import AutoMana.CardCatalog.BulkImport
import AutoMana.CardCatalog.Reimport
import AutoMana.CardCatalog.Replies

/-!
# What a bulk import does with its rows

A batch stays where it is when its insert is given up, so its rows are tried again with those that
follow. They are passed on in the end, and were counted as failed before.
-/

namespace AutoMana.CardCatalog

open Relational Statement

/-! ## Batches of groups -/

section Fill

variable {R : Type} (size : Nat)

/-- The rows of a record, after the batches that were full and those that wait. -/
def fill (state : List (List R) × List R) (rows : List R) : List (List R) × List R :=
  if size ≤ (state.2 ++ rows).length then (state.1 ++ [state.2 ++ rows], [])
  else (state.1, state.2 ++ rows)

/-- The full batches of records, and the rows that are left. -/
def fillAll (groups : List (List R)) : List (List R) × List R := groups.foldl (fill size) ([], [])

theorem fillAll_append_singleton (groups : List (List R)) (rows : List R) :
    fillAll size (groups ++ [rows]) = fill size (fillAll size groups) rows := by
  rw [fillAll, List.foldl_append]
  rfl

end Fill

/-! ## What is claimed -/

section Claim

variable {R D : Type}

/-- What a record is: its rows, nothing when it is not read, or an error. -/
def ImportService.read (service : ImportService R D) (item : Json) :
    Except ImportError (Option (List R)) := do
  if ← service.accepts item then
    let rows ← service.rows item
    pure (some rows)
  else pure none

/-- The rows of a record that is imported. -/
def ImportService.group (service : ImportService R D) (item : Json) : Option (List R) :=
  (service.read item).toOption.join

/-- The record fails validation. -/
def ImportService.fails (service : ImportService R D) (item : Json) : Bool :=
  !(service.read item).isOk

/-- The record of a failure. -/
def Failure.data : Failure → Option Json
  | .record _ data _ => some data
  | .insert _ _ => none

/-- Every row was passed to a call of `add_many` that returned or is among those given up, once;
the records that failed validation are in the file once; and the counts add up to the rows. -/
structure Conserved (service : ImportService R D) (items : List Json)
    (final : ImportState R D) : Prop where
  once : (final.passed.flatten ++ final.givenUp.flatMap fun batch => batch.2.1).Perm
    (items.filterMap service.group).flatten
  failed : (final.file.filterMap Failure.data).filter service.fails = items.filter service.fails
  counted : final.stats.successfulInserts + final.stats.failedInserts +
    final.stats.skippedInserts = (items.filterMap service.group).flatten.length

/-- No full batch is given up: one of the attempts at it does not raise. -/
def NoneGivenUp (service : ImportService R D) (config : ProcessingConfig)
    (raises : Nat → Nat → Option ImportError) (items : List Json) : Prop :=
  ∀ call < (fillAll config.batchSize (items.filterMap service.group)).1.length,
    retried (raises call) config.maxRetries = none

end Claim

/-! ## A round -/

section Round

variable {R D : Type} {service : ImportService R D} {config : ProcessingConfig}
  {raises : Nat → Nat → Option ImportError} {resumeFromBatch : Nat}
  {state next : ImportState R D} {item : Json}

/-- What a round that skips no batch does to its record. -/
inductive Round (service : ImportService R D) (config : ProcessingConfig)
    (raises : Nat → Nat → Option ImportError) (state : ImportState R D) (item : Json) :
    ImportState R D → Prop where
  | skipped : service.read item = .ok none → Round service config raises state item state
  | failed (error : ImportError) : service.read item = .error error →
      Round service config raises state item (state.fail item error)
  | waiting (rows : List R) : service.read item = .ok (some rows) →
      ¬ config.batchSize ≤ (state.batch ++ rows).length →
      Round service config raises state item (state.collect rows)
  | passed (rows : List R) : service.read item = .ok (some rows) →
      config.batchSize ≤ (state.batch ++ rows).length →
      retried (raises state.calls) config.maxRetries = none →
      Round service config raises state item
        (((state.collect rows).insertBatch service).nextBatch service)
  | givenUp (rows : List R) (error : ImportError) : service.read item = .ok (some rows) →
      config.batchSize ≤ (state.batch ++ rows).length →
      retried (raises state.calls) config.maxRetries = some error →
      Round service config raises state item (((state.collect rows).giveUp error).fail item
        (.batch (state.batchCount + 1) config.maxRetries error))

theorem round_of_importRound (hresumed : ¬ state.batchCount < resumeFromBatch)
    (hnext : importRound service config raises resumeFromBatch state item = .ok next) :
    Round service config raises state item next := by
  rw [importRound, readRecord] at hnext
  cases haccepts : service.accepts item with
  | error error =>
    have hread : service.read item = .error error := by rw [ImportService.read, haccepts]; rfl
    simp only [haccepts] at hnext
    split_ifs at hnext
    cases hnext
    exact .failed error hread
  | ok accepted =>
    cases accepted with
    | false =>
      have hread : service.read item = .ok none := by rw [ImportService.read, haccepts]; rfl
      simp only [haccepts] at hnext
      cases hnext
      exact .skipped hread
    | true =>
      simp only [haccepts, hresumed, if_false] at hnext
      cases hrows : service.rows item with
      | error error =>
        have hread : service.read item = .error error := by
          rw [ImportService.read, haccepts, hrows]; rfl
        simp only [hrows] at hnext
        split_ifs at hnext
        cases hnext
        exact .failed error hread
      | ok rows =>
        have hread : service.read item = .ok (some rows) := by
          rw [ImportService.read, haccepts, hrows]; rfl
        simp only [hrows, processBatch] at hnext
        by_cases hfull : config.batchSize ≤ (state.collect rows).batch.length
        · rw [if_pos hfull] at hnext
          cases htried : retried (raises state.calls) config.maxRetries with
          | none =>
            have hcalls : retried (raises (state.collect rows).calls) config.maxRetries = none :=
              htried
            simp only [hcalls] at hnext
            cases hnext
            exact .passed rows hread hfull htried
          | some error =>
            have hcalls : retried (raises (state.collect rows).calls) config.maxRetries =
              some error := htried
            simp only [hcalls] at hnext
            split_ifs at hnext
            cases hnext
            exact .givenUp rows error hread hfull htried
        · rw [if_neg hfull] at hnext
          cases hnext
          exact .waiting rows hread hfull

end Round

/-! ## What a state holds -/

section Fields

variable {R D : Type} (service : ImportService R D) (state : ImportState R D)

theorem saveFailed_kept : (state.saveFailed service).batch = state.batch ∧
    (state.saveFailed service).stats = state.stats ∧
    (state.saveFailed service).givenUp = state.givenUp ∧
    (state.saveFailed service).calls = state.calls ∧
    (state.saveFailed service).passed = state.passed := by
  rw [ImportState.saveFailed]
  split_ifs <;> exact ⟨rfl, rfl, rfl, rfl, rfl⟩

theorem nextBatch_kept : (state.nextBatch service).batch = [] ∧
    (state.nextBatch service).givenUp = state.givenUp ∧
    (state.nextBatch service).calls = state.calls ∧
    (state.nextBatch service).passed = state.passed := by
  obtain ⟨hbatch, -, hgivenUp, hcalls, hpassed⟩ := saveFailed_kept service
    { state with batch := [], batchCount := state.batchCount + 1 }
  exact ⟨hbatch, hgivenUp, hcalls, hpassed⟩

/-- The failures, saved or not. -/
def ImportState.failures : List Failure := state.file ++ state.failed

theorem failures_saveFailed : (state.saveFailed service).failures = state.failures := by
  rw [ImportState.saveFailed]
  split_ifs
  · exact List.append_nil _
  · rfl

/-- The records that failed. -/
def ImportState.failedRecords : List Json := state.failures.filterMap Failure.data

theorem failedRecords_insertBatch :
    (state.insertBatch service).failedRecords = state.failedRecords := by
  have hinserts : ∀ (batch : Nat) (errors : List (String × Violation × Option Nat)),
      (errors.map (Failure.insert batch)).filterMap Failure.data = [] := by
    intro batch errors
    rw [List.filterMap_map]
    exact List.filterMap_eq_nil_iff.mpr fun _ _ => rfl
  simp only [ImportState.failedRecords, ImportState.failures, ImportState.insertBatch]
  split_ifs
  · rw [← List.append_assoc, List.filterMap_append, hinserts, List.append_nil]
  · rfl

theorem failedRecords_saveFailed :
    (state.saveFailed service).failedRecords = state.failedRecords := by
  rw [ImportState.failedRecords, failures_saveFailed, ImportState.failedRecords]

theorem failedRecords_fail (item : Json) (error : ImportError) :
    (state.fail item error).failedRecords = state.failedRecords ++ [item] := by
  simp only [ImportState.failedRecords, ImportState.failures, ImportState.fail]
  rw [← List.append_assoc, List.filterMap_append]
  rfl

end Fields

/-- What holds of the records so far: their rows are passed on or wait, those that failed are
kept, and the rows that were given up are counted beside those that were passed on. -/
structure Accounted {R D : Type} (service : ImportService R D) (done : List Json)
    (state : ImportState R D) : Prop where
  rows : state.passed.flatten ++ state.batch = (done.filterMap service.group).flatten
  failed : state.failedRecords.filter service.fails = done.filter service.fails
  counted : state.stats.successfulInserts + state.stats.failedInserts =
    state.passed.flatten.length + (state.givenUp.flatMap fun batch => batch.2.1).length
  skipped : state.stats.skippedInserts = 0
  givenUp : ∀ batch ∈ state.givenUp, batch.2.1 ≠ []

section Invariants

variable {R D : Type} {service : ImportService R D} {config : ProcessingConfig}
  {raises : Nat → Nat → Option ImportError} {state next : ImportState R D} {item : Json}
  {done : List Json}

theorem group_of_read {result : Except ImportError (Option (List R))}
    (hread : service.read item = result) :
    service.group item = result.toOption.join ∧ service.fails item = !result.isOk := by
  rw [ImportService.group, ImportService.fails, hread]
  exact ⟨rfl, rfl⟩

theorem rows_ne_nil_of_read {rows : List R} (hread : service.read item = .ok (some rows)) :
    rows ≠ [] := by
  obtain ⟨_, -, hrows⟩ := bind_eq_ok_iff.mp hread
  split_ifs at hrows
  · obtain ⟨_, hrows, heq⟩ := bind_eq_ok_iff.mp hrows
    cases heq
    exact service.rows_ne_nil item rows hrows
  · cases hrows

theorem groups_append_singleton : ((done ++ [item]).filterMap service.group).flatten =
    (done.filterMap service.group).flatten ++ (service.group item).getD [] := by
  rw [List.filterMap_append, List.flatten_append]
  cases hgroup : service.group item with
  | none => simp [hgroup]
  | some rows => simp [hgroup]

theorem fails_append_singleton : (done ++ [item]).filter service.fails =
    done.filter service.fails ++ if service.fails item then [item] else [] := by
  rw [List.filter_append]
  cases hfails : service.fails item <;> simp [hfails]

theorem accounted_start (database : D) : Accounted service [] (.start database) where
  rows := rfl
  failed := rfl
  counted := rfl
  skipped := rfl
  givenUp _ hmem := by cases hmem

/-- The batch is passed on, and another one begins. -/
theorem Accounted.insertBatch (batchCount : Nat)
    (hreply : ∀ database rows, (service.addMany database rows).1.successfulInserts +
      (service.addMany database rows).1.failedInserts = rows.length)
    (haccounted : Accounted service done state) :
    Accounted service done
      { state.insertBatch service with batch := [], batchCount := batchCount } where
  rows := by
    rw [List.append_nil, ← haccounted.rows]
    exact List.flatten_concat
  failed := by
    rw [← haccounted.failed, ← failedRecords_insertBatch service state]
    rfl
  counted := by
    have hbatch := hreply state.database state.batch
    have hcounted := haccounted.counted
    have hpassed : (state.passed ++ [state.batch]).flatten.length =
        state.passed.flatten.length + state.batch.length := by
      rw [List.flatten_concat, List.length_append]
    simp only [ImportState.insertBatch]
    omega
  skipped := haccounted.skipped
  givenUp := haccounted.givenUp

theorem Accounted.saveFailed (haccounted : Accounted service done state) :
    Accounted service done (state.saveFailed service) := by
  obtain ⟨hbatch, hstats, hgivenUp, -, hpassed⟩ := saveFailed_kept service state
  constructor
  · rw [hpassed, hbatch]
    exact haccounted.rows
  · rw [failedRecords_saveFailed]
    exact haccounted.failed
  · rw [hstats, hpassed, hgivenUp]
    exact haccounted.counted
  · rw [hstats]
    exact haccounted.skipped
  · rw [hgivenUp]
    exact haccounted.givenUp

theorem Accounted.skip (haccounted : Accounted service done state)
    (hread : service.read item = .ok none) : Accounted service (done ++ [item]) state := by
  obtain ⟨hgroup, hfails⟩ := group_of_read hread
  refine { haccounted with rows := ?_, failed := ?_ }
  · rw [groups_append_singleton, hgroup, haccounted.rows]
    exact (List.append_nil _).symm
  · rw [fails_append_singleton, hfails, haccounted.failed]
    exact (List.append_nil _).symm

theorem Accounted.failRecord (haccounted : Accounted service done state) {error : ImportError}
    (hread : service.read item = .error error) (kept : ImportError) :
    Accounted service (done ++ [item]) (state.fail item kept) := by
  obtain ⟨hgroup, hfails⟩ := group_of_read hread
  refine ⟨?_, ?_, haccounted.counted, haccounted.skipped, haccounted.givenUp⟩
  · rw [groups_append_singleton, hgroup, ← haccounted.rows]
    exact (List.append_nil _).symm
  · rw [fails_append_singleton, failedRecords_fail, fails_append_singleton, haccounted.failed]

/-- The rows of a record wait. -/
theorem Accounted.collect (haccounted : Accounted service done state) {rows : List R}
    (hread : service.read item = .ok (some rows)) :
    Accounted service (done ++ [item]) (state.collect rows) := by
  obtain ⟨hgroup, hfails⟩ := group_of_read hread
  refine ⟨?_, ?_, haccounted.counted, haccounted.skipped, haccounted.givenUp⟩
  · rw [groups_append_singleton, hgroup, ← haccounted.rows]
    exact (List.append_assoc _ _ _).symm
  · rw [fails_append_singleton, hfails, ← haccounted.failed]
    exact (List.append_nil _).symm

/-- A batch that is given up stays, and its last record is kept as one that failed. -/
theorem Accounted.giveUp (haccounted : Accounted service done state) {rows : List R}
    (hread : service.read item = .ok (some rows)) (error kept : ImportError) :
    Accounted service (done ++ [item]) (((state.collect rows).giveUp error).fail item kept) := by
  have hcollected := haccounted.collect hread
  have hrows := rows_ne_nil_of_read hread
  refine ⟨hcollected.rows, ?_, ?_, hcollected.skipped, ?_⟩
  · have hfails := (group_of_read hread).2
    rw [failedRecords_fail, fails_append_singleton, hfails, ← hcollected.failed]
    exact List.append_nil _
  · have hcounted := hcollected.counted
    simp only [ImportState.fail, ImportState.giveUp, List.flatMap_append, List.flatMap_singleton,
      List.length_append] at hcounted ⊢
    omega
  · intro batch hbatch
    rcases List.mem_append.mp hbatch with hbefore | hlast
    · exact hcollected.givenUp batch hbefore
    · cases List.mem_singleton.mp hlast
      exact fun hnil => hrows (List.append_eq_nil_iff.mp hnil).2

theorem Accounted.round
    (hreply : ∀ database rows, (service.addMany database rows).1.successfulInserts +
      (service.addMany database rows).1.failedInserts = rows.length)
    (haccounted : Accounted service done state)
    (hround : Round service config raises state item next) :
    Accounted service (done ++ [item]) next := by
  cases hround with
  | skipped hread => exact haccounted.skip hread
  | failed error hread => exact haccounted.failRecord hread error
  | waiting rows hread _ => exact haccounted.collect hread
  | passed rows hread _ _ => exact ((haccounted.collect hread).insertBatch _ hreply).saveFailed
  | givenUp rows error hread _ _ => exact haccounted.giveUp hread error _

/-- No batch was given up, and they are the full batches of the records; or one of these was. -/
def Decided (service : ImportService R D) (config : ProcessingConfig)
    (raises : Nat → Nat → Option ImportError) (done : List Json) (state : ImportState R D) :
    Prop :=
  (state.givenUp = [] ∧
      (state.passed, state.batch) = fillAll config.batchSize (done.filterMap service.group) ∧
      state.calls = state.passed.length ∧
      ∀ call < state.passed.length, retried (raises call) config.maxRetries = none) ∨
    state.givenUp ≠ [] ∧
      ∃ call < (fillAll config.batchSize (done.filterMap service.group)).1.length,
        retried (raises call) config.maxRetries ≠ none

theorem length_fill_le (size : Nat) (state : List (List R) × List R) (rows : List R) :
    state.1.length ≤ (fill size state rows).1.length := by
  rw [fill]
  split_ifs
  · rw [List.length_append]
    exact Nat.le_add_right _ _
  · exact Nat.le_refl _

/-- One of the batches that were full is one of those that are. -/
theorem fillAll_groups_append_singleton (size : Nat) :
    fillAll size ((done ++ [item]).filterMap service.group) =
      match service.group item with
      | none => fillAll size (done.filterMap service.group)
      | some rows => fill size (fillAll size (done.filterMap service.group)) rows := by
  rw [List.filterMap_append]
  cases hgroup : service.group item with
  | none => simp [hgroup]
  | some rows =>
    have hone : [item].filterMap service.group = [rows] := by simp [hgroup]
    rw [hone, fillAll_append_singleton]

theorem Decided.round (hdecided : Decided service config raises done state)
    (hround : Round service config raises state item next) :
    Decided service config raises (done ++ [item]) next := by
  have hfill := @fillAll_groups_append_singleton R D service item done config.batchSize
  rcases hdecided with ⟨hnone, hbatches, hcalls, hpassed⟩ | ⟨hsome, call, hcall, hraises⟩
  · cases hround with
    | skipped hread =>
      rw [(group_of_read hread).1] at hfill
      exact Or.inl ⟨hnone, hbatches.trans hfill.symm, hcalls, hpassed⟩
    | failed error hread =>
      rw [(group_of_read hread).1] at hfill
      exact Or.inl ⟨hnone, hbatches.trans hfill.symm, hcalls, hpassed⟩
    | waiting rows hread hfull =>
      rw [(group_of_read hread).1] at hfill
      refine Or.inl ⟨hnone, Eq.trans ?_ hfill.symm, hcalls, hpassed⟩
      simp only [Except.toOption, Option.join_some, ← hbatches, fill, if_neg hfull]
      rfl
    | passed rows hread hfull htried =>
      rw [(group_of_read hread).1] at hfill
      obtain ⟨hbatch, hgivenUp, hcallsKept, hpassedKept⟩ :=
        nextBatch_kept service ((state.collect rows).insertBatch service)
      refine Or.inl ⟨hgivenUp.trans hnone, ?_, ?_, ?_⟩
      · rw [hpassedKept, hbatch, hfill]
        simp only [Except.toOption, Option.join_some, ← hbatches, fill, if_pos hfull]
        rfl
      · rw [hcallsKept, hpassedKept]
        simp only [ImportState.insertBatch, ImportState.collect, List.length_append, hcalls,
          List.length_singleton]
      · intro call hcall
        rw [hpassedKept] at hcall
        simp only [ImportState.insertBatch, ImportState.collect, List.length_append,
          List.length_singleton] at hcall
        rcases Nat.lt_succ_iff_lt_or_eq.mp hcall with hbefore | rfl
        · exact hpassed call hbefore
        · exact hcalls ▸ htried
    | givenUp rows error hread hfull htried =>
      rw [(group_of_read hread).1] at hfill
      refine Or.inr ⟨List.append_ne_nil_of_right_ne_nil _ (List.cons_ne_nil _ _),
        state.calls, ?_, by rw [htried]; exact Option.some_ne_none _⟩
      rw [hfill, hcalls]
      simp only [Except.toOption, Option.join_some, ← hbatches, fill, if_pos hfull]
      rw [List.length_append]
      exact Nat.lt_succ_self _
  · refine Or.inr ⟨?_, call, ?_, hraises⟩
    · cases hround with
      | skipped _ => exact hsome
      | failed error _ => exact hsome
      | waiting rows _ _ => exact hsome
      | passed rows _ _ _ =>
        rw [(nextBatch_kept service _).2.1]
        exact hsome
      | givenUp rows error _ _ _ =>
        exact List.append_ne_nil_of_right_ne_nil _ (List.cons_ne_nil _ _)
    · rw [hfill]
      cases service.group item with
      | none => exact hcall
      | some rows => exact Nat.lt_of_lt_of_le hcall (length_fill_le _ _ rows)

end Invariants

/-! ## Imports that return -/

section Returns

variable {R D : Type} {service : ImportService R D} {config : ProcessingConfig}
  {raises : Nat → Nat → Option ImportError} {items : List Json} {database : D}
  {final : ImportState R D}

/-- What a full import that returns leaves: all rows are passed on, and the counts are those of
the rows and of the batches that were given up. -/
structure Returned (service : ImportService R D) (items : List Json) (final : ImportState R D) :
    Prop where
  rows : final.passed.flatten = (items.filterMap service.group).flatten
  failed : final.failedRecords.filter service.fails = items.filter service.fails
  counted : final.stats.successfulInserts + final.stats.failedInserts +
    final.stats.skippedInserts = (items.filterMap service.group).flatten.length +
      (final.givenUp.flatMap fun batch => batch.2.1).length
  givenUp : ∀ batch ∈ final.givenUp, batch.2.1 ≠ []

theorem Accounted.returned {state : ImportState R D} (haccounted : Accounted service items state)
    (hempty : state.batch = []) : Returned service items state := by
  have hrows := haccounted.rows
  rw [hempty, List.append_nil] at hrows
  refine ⟨hrows, haccounted.failed, ?_, haccounted.givenUp⟩
  rw [haccounted.skipped, Nat.add_zero, haccounted.counted, hrows]

theorem returned_of_process
    (hreply : ∀ database rows, (service.addMany database rows).1.successfulInserts +
      (service.addMany database rows).1.failedInserts = rows.length)
    (hfinal : processFileStream service config raises 0 database items = .ok final) :
    Returned service items final ∧
      (final.givenUp = [] ↔ NoneGivenUp service config raises items) := by
  obtain ⟨state, hstate, hrest⟩ := bind_eq_ok_iff.mp hfinal
  have haccounted : Accounted service items state := foldlM_history
    (fun _ _ _ _ hbefore hnext =>
      hbefore.round hreply (round_of_importRound (Nat.not_lt_zero _) hnext))
    (accounted_start database) hstate
  have hdecided : Decided service config raises items state :=
    @foldlM_history _ _ _ _ (Decided service config raises)
      (fun _ _ _ _ hbefore hnext =>
        hbefore.round (round_of_importRound (Nat.not_lt_zero _) hnext)) [] items
      (.start database) state
      (Or.inl ⟨rfl, rfl, rfl, fun _ hlt => absurd hlt (Nat.not_lt_zero _)⟩) hstate
  have hnone : state.givenUp = [] ↔ NoneGivenUp service config raises items := by
    rcases hdecided with ⟨hnone, hbatches, -, hpassed⟩ | ⟨hsome, call, hcall, hraises⟩
    · refine iff_of_true hnone fun call hcall => hpassed call ?_
      rwa [← hbatches] at hcall
    · exact iff_of_false hsome fun hall => hraises (hall call hcall)
  rw [importRest] at hrest
  split_ifs at hrest with hempty
  · cases hrest
    rw [(saveFailed_kept service state).2.2.1]
    exact ⟨haccounted.saveFailed.returned ((saveFailed_kept service state).1.trans
      (List.isEmpty_iff.mp hempty)), hnone⟩
  · rw [processBatch] at hrest
    cases htried : retried (raises state.calls) config.maxRetries with
    | some error =>
      simp only [htried] at hrest
      cases hrest
    | none =>
      simp only [htried] at hrest
      cases hrest
      -- the last batch stays where it is, which nothing reads
      have hreturned := ((haccounted.insertBatch state.batchCount hreply).returned rfl)
      obtain ⟨-, hstats, hgivenUp, -, hpassed⟩ :=
        saveFailed_kept service (state.insertBatch service)
      refine ⟨⟨?_, ?_, ?_, ?_⟩, by rw [hgivenUp]; exact hnone⟩
      · rw [hpassed]
        exact hreturned.rows
      · rw [failedRecords_saveFailed]
        exact hreturned.failed
      · rw [hstats, hgivenUp]
        exact hreturned.counted
      · rw [hgivenUp]
        exact hreturned.givenUp

end Returns

/-! ## Cards -/

/-- `EnhancedCardImportService.process_large_cards_json` of a whole file that is there. -/
def processLargeCardsJson (uuids : Uuids) (validate : Json → Except String CreateCard)
    (config : ProcessingConfig) (raises : Nat → Nat → Option ImportError) (catalog : Catalog)
    (items : List Json) : Except ImportError (ImportState CreateCard Catalog) :=
  processFileStream (cardImportService uuids validate) config raises 0 catalog items

/-- The import of cards ends with every failure in the file. -/
theorem failed_of_processLargeCardsJson {uuids : Uuids}
    {validate : Json → Except String CreateCard} {config : ProcessingConfig}
    {raises : Nat → Nat → Option ImportError} {catalog : Catalog} {items : List Json}
    {final : ImportState CreateCard Catalog}
    (hfinal : processLargeCardsJson uuids validate config raises catalog items = .ok final) :
    final.failed = [] := by
  obtain ⟨state, -, hrest⟩ := bind_eq_ok_iff.mp hfinal
  have hsaved : ∀ state : ImportState CreateCard Catalog,
      (state.saveFailed (cardImportService uuids validate)).failed = [] := fun _ => rfl
  rw [importRest] at hrest
  split_ifs at hrest with hempty
  · cases hrest
    exact hsaved state
  · split at hrest
    next inserted _ =>
      cases hrest
      exact hsaved inserted
    next => cases hrest

/-- A bulk import of cards that returns has conserved its rows exactly when no full batch was
given up. -/
theorem conserved_iff (uuids : Uuids) (validate : Json → Except String CreateCard)
    (config : ProcessingConfig) (raises : Nat → Nat → Option ImportError) (catalog : Catalog)
    (items : List Json) (final : ImportState CreateCard Catalog)
    (hfinal : processLargeCardsJson uuids validate config raises catalog items = .ok final) :
    Conserved (cardImportService uuids validate) items final ↔
      NoneGivenUp (cardImportService uuids validate) config raises items := by
  obtain ⟨hreturned, hnone⟩ := returned_of_process
    (fun catalog cards => counted_insertBatchCardVersions uuids catalog cards) hfinal
  rw [← hnone]
  constructor
  · intro hconserved
    have hlength := hreturned.counted.symm.trans hconserved.counted
    have hrows : (final.givenUp.flatMap fun batch => batch.2.1) = [] :=
      List.eq_nil_of_length_eq_zero (by omega)
    refine List.eq_nil_iff_forall_not_mem.mpr fun batch hbatch => ?_
    exact hreturned.givenUp batch hbatch (List.flatMap_eq_nil_iff.mp hrows batch hbatch)
  · intro hempty
    have hfile := hreturned.failed
    rw [ImportState.failedRecords, ImportState.failures,
      failed_of_processLargeCardsJson hfinal, List.append_nil] at hfile
    refine ⟨?_, hfile, ?_⟩
    · rw [hempty, List.flatMap_nil, List.append_nil, hreturned.rows]
    · rw [hreturned.counted, hempty]
      rfl

/-! ## A file of one card -/

/-- A model that validates dictionaries. -/
def validateForest : Json → Except String CreateCard
  | .dict _ => .ok forest
  | _ => .error "Input should be a valid dictionary"

def importForest (batchSize : Nat) (raises : Nat → Nat → Option ImportError) :
    Except ImportError (ImportState CreateCard Catalog) :=
  processLargeCardsJson .longer validateForest ⟨batchSize, 0, true⟩ raises (.ofSets alpha)
    [.dict []]

/-- The first attempt raises. -/
def firstRaises (call _ : Nat) : Option ImportError :=
  if call = 0 then some (.database "timeout") else none

theorem exists_importForest {batchSize : Nat} {raises : Nat → Nat → Option ImportError}
    (hok : (importForest batchSize raises).isOk = true) :
    ∃ final, importForest batchSize raises = .ok final := by
  cases hresult : importForest batchSize raises with
  | error =>
    rw [hresult] at hok
    cases hok
  | ok final => exact ⟨final, rfl⟩

theorem conserved_forest : ∃ final, importForest 1 (fun _ _ => none) = .ok final ∧
    Conserved (cardImportService .longer validateForest) [.dict []] final := by
  obtain ⟨final, hfinal⟩ := @exists_importForest 1 (fun _ _ => none) (by decide)
  exact ⟨final, hfinal, (conserved_iff .longer validateForest ⟨1, 0, true⟩ (fun _ _ => none)
    (.ofSets alpha) [.dict []] final hfinal).mpr fun _ _ => rfl⟩

/-- The batch of the card is given up, and passed on with what follows: the card is counted as
inserted and as failed. -/
theorem given_up_is_passed_on : ∃ final, importForest 1 firstRaises = .ok final ∧
    final.passed.flatten.length = 1 ∧ final.stats.successfulInserts = 1 ∧
      final.stats.failedInserts = 1 ∧
      ¬ Conserved (cardImportService .longer validateForest) [.dict []] final := by
  obtain ⟨final, hfinal⟩ := @exists_importForest 1 firstRaises (by decide)
  have hcounts : (importForest 1 firstRaises).toOption.map (fun final =>
      (final.passed.flatten.length, final.stats.successfulInserts, final.stats.failedInserts)) =
        some (1, 1, 1) := by decide
  rw [hfinal] at hcounts
  simp only [Except.toOption, Option.map_some, Option.some.injEq, Prod.mk.injEq] at hcounts
  obtain ⟨hpassed, hsuccessful, hfailed⟩ := hcounts
  refine ⟨final, hfinal, hpassed, hsuccessful, hfailed, fun hconserved => ?_⟩
  have hcounted := hconserved.counted
  have hrows : (List.filterMap (cardImportService .longer validateForest).group
      [.dict []]).flatten.length = 1 := by decide
  omega

end AutoMana.CardCatalog
