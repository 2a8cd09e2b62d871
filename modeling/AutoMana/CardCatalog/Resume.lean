import AutoMana.CardCatalog.Conservation

/-!
# Imports that are resumed

The records of a batch that is skipped are not collected, so no batch that is to be skipped fills,
and the first one is skipped until the end of the file.
-/

namespace AutoMana.CardCatalog

open Relational Statement

/-! ## What is claimed -/

section Claim

variable {R D : Type} (service : ImportService R D) (batchSize maxRetries k : Nat)
  (items : List Json)

/-- An import none of whose inserts raises; records that do not validate are skipped, as the
services have it. -/
def importFrom (resumeFromBatch : Nat) (database : D) : Except ImportError (ImportState R D) :=
  processFileStream service ⟨batchSize, maxRetries, true⟩ (fun _ _ => none) resumeFromBatch
    database items

/-- A run that is resumed passes on what the full run passes on after the first batches, and these
and it are all rows. -/
def Resumes (database after : D) : Prop :=
  ∃ full resumed, importFrom service batchSize maxRetries items 0 database = .ok full ∧
    importFrom service batchSize maxRetries items k after = .ok resumed ∧
    resumed.passed.flatten = (full.passed.drop k).flatten ∧
    (full.passed.take k).flatten ++ resumed.passed.flatten =
      (items.filterMap service.group).flatten

/-- The batches of records, with the last one. -/
def allBatches (groups : List (List R)) : List (List R) :=
  (fillAll batchSize groups).1 ++
    if (fillAll batchSize groups).2.isEmpty then [] else [(fillAll batchSize groups).2]

/-- The records that are read. -/
def ImportService.accepted : List Json :=
  items.filter fun item => (service.accepts item).toOption.getD false

/-- Nothing is to be skipped, or nothing is left after it. Batches without a size are records that
validate, of which a resumed run takes every record that it reads for one. -/
def Resumable : Prop :=
  k = 0 ∨ if batchSize = 0 then
      (∀ item ∈ (service.accepted items).take k, (service.group item).isSome) ∨
        ∀ item ∈ (service.accepted items).drop k, service.group item = none
    else (allBatches batchSize (items.filterMap service.group)).length ≤ k

end Claim

/-! ## Runs that return -/

section Runs

variable {R D : Type} {service : ImportService R D} {batchSize maxRetries resumeFromBatch : Nat}
  {state : ImportState R D} {item : Json} {items : List Json}

theorem retried_none (retries : Nat) : retried (fun _ => none) retries = none := by
  cases retries <;> rfl

theorem exists_importRound (state : ImportState R D) (item : Json) :
    ∃ next, importRound service ⟨batchSize, maxRetries, true⟩ (fun _ _ => none) resumeFromBatch
      state item = .ok next := by
  rw [importRound]
  split
  next next _ => exact ⟨next, rfl⟩
  next next error _ => exact ⟨next.fail item error, rfl⟩

theorem exists_foldlM {S A E : Type} {step : S → A → Except E S}
    (hstep : ∀ state item, ∃ next, step state item = .ok next) (state : S) (items : List A) :
    ∃ last, items.foldlM step state = .ok last := by
  induction items generalizing state with
  | nil => exact ⟨state, rfl⟩
  | cons item rest ih =>
      obtain ⟨next, hnext⟩ := hstep state item
      obtain ⟨last, hlast⟩ := ih next
      exact ⟨last, bind_eq_ok_iff.mpr ⟨next, hnext, hlast⟩⟩

/-- The rows that wait are passed on. -/
theorem exists_importRest (state : ImportState R D) :
    ∃ final, importRest service ⟨batchSize, maxRetries, true⟩ (fun _ _ => none) state = .ok final ∧
      final.passed = state.passed ++ if state.batch.isEmpty then [] else [state.batch] := by
  rw [importRest]
  split_ifs with hempty
  · exact ⟨_, rfl, (saveFailed_kept service state).2.2.2.2.trans (List.append_nil _).symm⟩
  · rw [processBatch, retried_none]
    exact ⟨_, rfl, (saveFailed_kept service (state.insertBatch service)).2.2.2.2⟩

/-- An import returns, and what holds of the loop holds before the last batch. -/
theorem exists_importFrom {Inv : List Json → ImportState R D → Prop}
    (hstep : ∀ done state item next, Inv done state →
      importRound service ⟨batchSize, maxRetries, true⟩ (fun _ _ => none) resumeFromBatch state
        item = .ok next → Inv (done ++ [item]) next)
    (database : D) (hinit : Inv [] (.start database)) :
    ∃ state final, Inv items state ∧
      importFrom service batchSize maxRetries items resumeFromBatch database = .ok final ∧
      final.passed = state.passed ++ if state.batch.isEmpty then [] else [state.batch] := by
  obtain ⟨state, hstate⟩ := exists_foldlM
    (@exists_importRound R D service batchSize maxRetries resumeFromBatch) (.start database) items
  obtain ⟨final, hfinal, hpassed⟩ := @exists_importRest R D service batchSize maxRetries state
  have hinv : Inv ([] ++ items) state := foldlM_history hstep hinit hstate
  exact ⟨state, final, hinv, bind_eq_ok_iff.mpr ⟨state, hstate, hfinal⟩, hpassed⟩

/-- A full import passes on all batches. -/
theorem exists_full (database : D) :
    ∃ final, importFrom service batchSize maxRetries items 0 database = .ok final ∧
      final.passed = allBatches batchSize (items.filterMap service.group) := by
  obtain ⟨state, final, hdecided, hfinal, hpassed⟩ := @exists_importFrom R D service batchSize
    maxRetries 0 items (Decided service ⟨batchSize, maxRetries, true⟩ fun _ _ => none)
    (fun _ _ _ _ hbefore hnext =>
      hbefore.round (round_of_importRound (Nat.not_lt_zero _) hnext)) database
    (Or.inl ⟨rfl, rfl, rfl, fun _ _ => retried_none _⟩)
  refine ⟨final, hfinal, ?_⟩
  rcases hdecided with ⟨-, hbatches, -⟩ | ⟨-, _, -, hraises⟩
  · rw [hpassed, allBatches, ← hbatches]
  · exact absurd (retried_none _) hraises

/-- A round over a record that is not read changes no batch. -/
theorem importRound_of_not_accepted {next : ImportState R D}
    (haccepts : service.accepts item ≠ .ok true)
    (hnext : importRound service ⟨batchSize, maxRetries, true⟩ (fun _ _ => none) resumeFromBatch
      state item = .ok next) :
    next.batch = state.batch ∧ next.batchCount = state.batchCount ∧
      next.passed = state.passed := by
  rw [importRound, readRecord] at hnext
  split at hnext
  next next hread =>
    cases hnext
    split at hread
    next => cases hread
    next => cases hread; exact ⟨rfl, rfl, rfl⟩
    next haccepted => exact absurd haccepted haccepts
  next next error hread =>
    cases hnext
    split at hread
    next => cases hread; exact ⟨rfl, rfl, rfl⟩
    next => cases hread
    next haccepted => exact absurd haccepted haccepts

/-- A round that skips counts a batch only when one has filled. -/
theorem importRound_of_skipped (haccepts : service.accepts item = .ok true)
    (hskipped : state.batchCount < resumeFromBatch) :
    importRound service ⟨batchSize, maxRetries, true⟩ (fun _ _ => none) resumeFromBatch state item =
      .ok (if batchSize ≤ state.batch.length then
        { state with batch := [], batchCount := state.batchCount + 1 } else state) := by
  rw [importRound, readRecord]
  simp only [haccepts, if_pos hskipped]
  split_ifs <;> rfl

/-- When batches have a size, a run that is resumed passes nothing on. -/
theorem exists_resumed_of_pos (hsize : 0 < batchSize) (hresume : 0 < resumeFromBatch)
    (database : D) :
    ∃ final, importFrom service batchSize maxRetries items resumeFromBatch database = .ok final ∧
      final.passed = [] := by
  obtain ⟨state, final, ⟨hbatch, -, hstate⟩, hfinal, hpassed⟩ := @exists_importFrom R D service
    batchSize maxRetries resumeFromBatch items
    (fun _ state => state.batch = [] ∧ state.batchCount = 0 ∧ state.passed = [])
    (fun done state item next hbefore hnext => by
      by_cases haccepts : service.accepts item = .ok true
      · obtain ⟨hbatch, hcount, hpassed⟩ := hbefore
        have hwaits : ¬ batchSize ≤ state.batch.length := by
          rw [hbatch]
          exact Nat.not_le_of_lt hsize
        rw [importRound_of_skipped haccepts (hcount ▸ hresume), if_neg hwaits] at hnext
        cases hnext
        exact ⟨hbatch, hcount, hpassed⟩
      · obtain ⟨hbatch, hcount, hpassed⟩ := importRound_of_not_accepted haccepts hnext
        rw [hbatch, hcount, hpassed]
        exact hbefore) database ⟨rfl, rfl, rfl⟩
  refine ⟨final, hfinal, ?_⟩
  rw [hpassed, hstate, hbatch]
  rfl

theorem accepted_append_singleton (done : List Json) (item : Json) :
    service.accepted (done ++ [item]) =
      service.accepted done ++
        if (service.accepts item).toOption.getD false then [item] else [] := by
  rw [ImportService.accepted, List.filter_append, ← ImportService.accepted]
  cases haccepts : (service.accepts item).toOption.getD false <;> simp [haccepts]

/-- What a run without a batch size has passed on: the records behind those that it skips. -/
structure Skipping (service : ImportService R D) (resumeFromBatch : Nat) (done : List Json)
    (state : ImportState R D) : Prop where
  batch : state.batch = []
  passed : state.passed =
    ((service.accepted done).drop resumeFromBatch).filterMap service.group
  before : (service.accepted done).length < resumeFromBatch →
    state.batchCount = (service.accepted done).length
  behind : resumeFromBatch ≤ (service.accepted done).length → resumeFromBatch ≤ state.batchCount

theorem Skipping.step {done : List Json} {next : ImportState R D}
    (hskipping : Skipping service resumeFromBatch done state)
    (hnext : importRound service ⟨0, maxRetries, true⟩ (fun _ _ => none) resumeFromBatch state
      item = .ok next) : Skipping service resumeFromBatch (done ++ [item]) next := by
  obtain ⟨hbatch, hpassed, hbefore, hbehind⟩ := hskipping
  by_cases haccepts : service.accepts item = .ok true
  · have hdone : service.accepted (done ++ [item]) = service.accepted done ++ [item] := by
      rw [accepted_append_singleton, haccepts]
      rfl
    by_cases hskipped : state.batchCount < resumeFromBatch
    · -- the record counts as a batch
      have hshort : (service.accepted done).length < resumeFromBatch := by
        by_contra hlong
        exact absurd (hbehind (Nat.not_lt.mp hlong)) (Nat.not_le_of_lt hskipped)
      have hcount := hbefore hshort
      rw [importRound_of_skipped haccepts hskipped, if_pos (Nat.zero_le _)] at hnext
      cases hnext
      refine ⟨rfl, ?_, fun _ => ?_, fun _ => ?_⟩
      · rw [hpassed, hdone, List.drop_of_length_le hshort.le, List.drop_of_length_le]
        rw [List.length_append]
        exact hshort
      · rw [hdone, List.length_append, List.length_singleton, ← hcount]
      · have hlength : (service.accepted (done ++ [item])).length = state.batchCount + 1 := by
          rw [hdone, List.length_append, List.length_singleton, hcount]
        exact Nat.le_trans ‹_› (Nat.le_of_eq hlength)
    · have hlong : resumeFromBatch ≤ (service.accepted done).length := by
        by_contra hshort
        exact hskipped (by rw [hbefore (Nat.not_le.mp hshort)]; exact Nat.not_le.mp hshort)
      have hdrop : ((service.accepted (done ++ [item])).drop resumeFromBatch).filterMap
          service.group = state.passed ++ (service.group item).toList := by
        rw [hdone, List.drop_append_of_le_length hlong, List.filterMap_append, hpassed]
        cases hgroup : service.group item <;> simp [hgroup]
      have hlengths : ¬ (service.accepted (done ++ [item])).length < resumeFromBatch := by
        rw [hdone, List.length_append]
        omega
      have hcount := hbehind hlong
      cases round_of_importRound hskipped hnext with
      | skipped hread =>
        rw [(group_of_read hread).1] at hdrop
        exact ⟨hbatch, (hdrop.trans (List.append_nil _)).symm, fun hlt => absurd hlt hlengths,
          fun _ => hcount⟩
      | failed error hread =>
        rw [(group_of_read hread).1] at hdrop
        exact ⟨hbatch, (hdrop.trans (List.append_nil _)).symm, fun hlt => absurd hlt hlengths,
          fun _ => hcount⟩
      | waiting rows _ hfull => exact absurd (Nat.zero_le _) hfull
      | passed rows hread _ _ =>
        rw [(group_of_read hread).1] at hdrop
        obtain ⟨hempty, -, -, hkept⟩ :=
          nextBatch_kept service ((state.collect rows).insertBatch service)
        refine ⟨hempty, hkept.trans (Eq.trans ?_ hdrop.symm), fun hlt => absurd hlt hlengths,
          fun _ => ?_⟩
        · simp only [ImportState.insertBatch, ImportState.collect, hbatch, List.nil_append]
          rfl
        · rw [ImportState.nextBatch, ImportState.saveFailed]
          split_ifs <;> exact Nat.le_succ_of_le hcount
      | givenUp rows error _ _ hraises =>
        rw [retried_none] at hraises
        cases hraises
  · have hdone : service.accepted (done ++ [item]) = service.accepted done := by
      rw [accepted_append_singleton]
      cases haccepted : service.accepts item with
      | error => exact List.append_nil _
      | ok read =>
        cases read with
        | false => exact List.append_nil _
        | true => exact absurd haccepted haccepts
    obtain ⟨hnextBatch, hnextCount, hnextPassed⟩ := importRound_of_not_accepted haccepts hnext
    constructor
    · rw [hnextBatch, hbatch]
    · rw [hnextPassed, hpassed, hdone]
    · rw [hnextCount, hdone]
      exact hbefore
    · rw [hnextCount, hdone]
      exact hbehind

theorem exists_resumed_of_zero (database : D) :
    ∃ final, importFrom service 0 maxRetries items resumeFromBatch database = .ok final ∧
      final.passed =
        ((service.accepted items).drop resumeFromBatch).filterMap service.group := by
  obtain ⟨state, final, hskipping, hfinal, hpassed⟩ := @exists_importFrom R D service 0 maxRetries
    resumeFromBatch items (Skipping service resumeFromBatch)
    (fun _ _ _ _ hbefore hnext => hbefore.step hnext) database
    ⟨rfl, List.drop_nil.symm ▸ rfl, fun _ => rfl, fun hle => hle⟩
  refine ⟨final, hfinal, ?_⟩
  rw [hpassed, hskipping.passed, hskipping.batch]
  exact List.append_nil _

end Runs

/-! ## Batches of groups -/

section Groups

variable {R : Type} {size : Nat} {groups : List (List R)}

/-- What is collected keeps its order, and no batch is empty. -/
theorem fillAll_spec (hgroups : ∀ rows ∈ groups, rows ≠ []) :
    (fillAll size groups).1.flatten ++ (fillAll size groups).2 = groups.flatten ∧
      ∀ batch ∈ (fillAll size groups).1, batch ≠ [] := by
  induction groups using List.reverseRecOn with
  | nil => exact ⟨rfl, fun _ hmem => by cases hmem⟩
  | append_singleton groups rows ih =>
    obtain ⟨hflatten, hbatches⟩ := ih fun other hother =>
      hgroups other (List.mem_append_left _ hother)
    have hrows := hgroups rows (List.mem_append_right _ (List.mem_singleton_self rows))
    rw [fillAll_append_singleton, fill, List.flatten_concat, ← hflatten]
    split_ifs with hfull
    · refine ⟨?_, fun batch hbatch => ?_⟩
      · simp only [List.flatten_concat, List.append_nil, List.append_assoc]
      · rcases List.mem_append.mp hbatch with hbefore | hlast
        · exact hbatches batch hbefore
        · rw [List.mem_singleton.mp hlast]
          exact List.append_ne_nil_of_right_ne_nil _ hrows
    · exact ⟨(List.append_assoc _ _ _).symm, hbatches⟩

theorem flatten_allBatches (hgroups : ∀ rows ∈ groups, rows ≠ []) :
    (allBatches size groups).flatten = groups.flatten := by
  rw [← (@fillAll_spec R size groups hgroups).1, allBatches, List.flatten_append]
  cases (fillAll size groups).2 <;> simp

theorem ne_nil_of_mem_allBatches (hgroups : ∀ rows ∈ groups, rows ≠ []) {batch : List R}
    (hbatch : batch ∈ allBatches size groups) : batch ≠ [] := by
  rcases List.mem_append.mp hbatch with hfull | hrest
  · exact (fillAll_spec hgroups).2 batch hfull
  · split_ifs at hrest with hempty
    · cases hrest
    · rw [List.mem_singleton.mp hrest]
      exact fun hnil => hempty (List.isEmpty_iff.mpr hnil)

theorem fillAll_zero : fillAll 0 groups = (groups, []) := by
  induction groups using List.reverseRecOn with
  | nil => rfl
  | append_singleton groups rows ih =>
    rw [fillAll_append_singleton, ih, fill, if_pos (Nat.zero_le _), List.nil_append]

theorem allBatches_zero : allBatches 0 groups = groups := by
  rw [allBatches, fillAll_zero]
  exact List.append_nil groups

/-- Lists without empty parts are left when nothing is dropped, or when there is nothing. -/
theorem flatten_drop_eq_iff (hgroups : ∀ rows ∈ groups, rows ≠ []) (n : Nat) :
    groups.flatten = (groups.drop n).flatten ↔ n = 0 ∨ groups = [] := by
  constructor
  · intro hflatten
    have htake : (groups.take n).flatten = [] := by
      have hsplit := congrArg List.flatten (List.take_append_drop n groups)
      rw [List.flatten_append, hflatten] at hsplit
      exact List.append_left_eq_self.mp hsplit
    cases n with
    | zero => exact Or.inl rfl
    | succ n =>
      cases groups with
      | nil => exact Or.inr rfl
      | cons rows rest =>
        rw [List.flatten_eq_nil_iff] at htake
        exact absurd (htake rows List.mem_cons_self) (hgroups rows List.mem_cons_self)
  · rintro (rfl | rfl)
    · rw [List.drop_zero]
    · rw [List.drop_nil]

end Groups

/-! ## Runs that are resumed -/

section Resumed

variable {R D : Type} {service : ImportService R D} {batchSize maxRetries k : Nat}
  {items : List Json}

theorem group_ne_nil {rows : List R} (hrows : rows ∈ items.filterMap service.group) :
    rows ≠ [] := by
  obtain ⟨item, -, hgroup⟩ := List.mem_filterMap.mp hrows
  rw [ImportService.group] at hgroup
  cases hread : service.read item with
  | error =>
    rw [hread] at hgroup
    cases hgroup
  | ok found =>
    rw [hread] at hgroup
    exact rows_ne_nil_of_read (hread.trans (congrArg Except.ok hgroup))

/-- The rows are those of the records that are read. -/
theorem groups_accepted :
    (service.accepted items).filterMap service.group = items.filterMap service.group := by
  rw [ImportService.accepted, List.filterMap_filter]
  congr 1
  funext item
  split_ifs with haccepts
  · rfl
  · rw [ImportService.group, ImportService.read]
    cases haccepted : service.accepts item with
    | error => rfl
    | ok read =>
      cases read with
      | false => rfl
      | true =>
        rw [haccepted] at haccepts
        exact absurd rfl haccepts

/-- What a full run passes on behind its first batches is what is left of the records that are
read, when every batch is a record. -/
theorem flatten_behind_iff :
    (((service.accepted items).drop k).filterMap service.group).flatten =
        ((items.filterMap service.group).drop k).flatten ↔
      (∀ item ∈ (service.accepted items).take k, (service.group item).isSome) ∨
        ∀ item ∈ (service.accepted items).drop k, service.group item = none := by
  have hsplit : items.filterMap service.group =
      ((service.accepted items).take k).filterMap service.group ++
        ((service.accepted items).drop k).filterMap service.group := by
    rw [← List.filterMap_append, List.take_append_drop, groups_accepted]
  have hshort : (((service.accepted items).take k).filterMap service.group).length ≤
      ((service.accepted items).take k).length := List.length_filterMap_le _ _
  have htake := List.length_take_le k (service.accepted items)
  have hgroups : ∀ rows ∈ ((service.accepted items).drop k).filterMap service.group,
      rows ≠ [] := fun rows => group_ne_nil
  rw [hsplit, List.drop_append, List.drop_of_length_le (hshort.trans htake), List.nil_append,
    flatten_drop_eq_iff hgroups, List.filterMap_eq_nil_iff]
  constructor
  · rintro (hall | hnone)
    · refine Or.inl (List.filterMap_length_eq_length.mp ?_)
      omega
    · exact Or.inr hnone
  · rintro (hall | hnone)
    · have hlength := List.filterMap_length_eq_length.mpr hall
      by_cases hlong : k ≤ (service.accepted items).length
      · rw [hlength, List.length_take, Nat.min_eq_left hlong]
        exact Or.inl (Nat.sub_self k)
      · -- nothing is behind the first records
        rw [List.drop_of_length_le (Nat.le_of_not_le hlong)]
        exact Or.inr fun _ hmem => by cases hmem
    · exact Or.inr hnone

theorem resumes_iff_of_passed {database after : D} {passed : List (List R)}
    (hresumed : ∃ final, importFrom service batchSize maxRetries items k after = .ok final ∧
      final.passed = passed) :
    Resumes service batchSize maxRetries k items database after ↔
      passed.flatten =
        ((allBatches batchSize (items.filterMap service.group)).drop k).flatten := by
  obtain ⟨resumed, hresumed, rfl⟩ := hresumed
  obtain ⟨full, hfull, hpassed⟩ :=
    @exists_full R D service batchSize maxRetries items database
  constructor
  · rintro ⟨otherFull, otherResumed, hotherFull, hotherResumed, hsame, -⟩
    cases hfull.symm.trans hotherFull
    cases hresumed.symm.trans hotherResumed
    rw [hsame, hpassed]
  · intro hsame
    rw [← hpassed] at hsame
    refine ⟨full, resumed, hfull, hresumed, hsame, ?_⟩
    rw [hsame, ← List.flatten_append, List.take_append_drop, hpassed,
      flatten_allBatches fun rows => group_ne_nil]

/-- A run that is resumed completes the interrupted one exactly when nothing was to be skipped or
nothing is left. -/
theorem resumes_iff (service : ImportService R D) (batchSize maxRetries k : Nat)
    (items : List Json) (database after : D) :
    Resumes service batchSize maxRetries k items database after ↔
      Resumable service batchSize k items := by
  rw [Resumable]
  rcases Nat.eq_zero_or_pos k with rfl | hresume
  · rw [resumes_iff_of_passed (exists_full after)]
    exact iff_of_true (by rw [List.drop_zero]) (Or.inl rfl)
  · rw [or_iff_right hresume.ne']
    split_ifs with hsize
    · subst hsize
      rw [resumes_iff_of_passed (exists_resumed_of_zero after), allBatches_zero,
        flatten_behind_iff]
    · rw [resumes_iff_of_passed (exists_resumed_of_pos (Nat.pos_of_ne_zero hsize) hresume after),
        List.flatten_nil, eq_comm, List.flatten_eq_nil_iff, ← List.drop_eq_nil_iff]
      constructor
      · intro hempty
        refine List.eq_nil_iff_forall_not_mem.mpr fun batch hbatch => ?_
        exact ne_nil_of_mem_allBatches (fun rows => group_ne_nil) (List.mem_of_mem_drop hbatch)
          (hempty batch hbatch)
      · intro hnil batch hbatch
        rw [hnil] at hbatch
        cases hbatch

end Resumed

/-- Neither import service resumes an interrupted import unless nothing was to be skipped or
nothing is left. -/
theorem imports_resume_iff (uuids : Uuids) (validateCard : Json → Except String CreateCard)
    (validateSet : Json → Except String NewSet) (batchSize maxRetries k : Nat)
    (items : List Json) (catalog catalogAfter : Catalog) (sets setsAfter : Sets) :
    (Resumes (cardImportService uuids validateCard) batchSize maxRetries k items catalog
        catalogAfter ↔
      Resumable (cardImportService uuids validateCard) batchSize k items) ∧
    (Resumes (setImportService validateSet) batchSize maxRetries k items sets setsAfter ↔
      Resumable (setImportService validateSet) batchSize k items) :=
  ⟨resumes_iff _ batchSize maxRetries k items catalog catalogAfter,
    resumes_iff _ batchSize maxRetries k items sets setsAfter⟩

/-! ## A file of two records -/

def validateAlpha (_ : Json) : Except String NewSet :=
  .ok ⟨"s", "Alpha", "lea", "core", "1993-08-05", false, false, false, none, none⟩

/-- What a full run passes on after its first batch and what a resumed run does, of two records. -/
def passedBehind {R D : Type} (service : ImportService R D) (database : D) : Option (Nat × Nat) :=
  match importFrom service 1 0 [.dict [], .dict []] 0 database,
    importFrom service 1 0 [.dict [], .dict []] 1 database with
  | .ok full, .ok resumed =>
    some ((full.passed.drop 1).flatten.length, resumed.passed.flatten.length)
  | _, _ => none

/-- The second record is passed on by a full run and not by one that skips the first batch, in
either service. -/
theorem resumed_run_passes_nothing :
    passedBehind (cardImportService .longer validateForest) (.ofSets alpha) = some (1, 0) ∧
      passedBehind (setImportService validateAlpha) alpha = some (1, 0) ∧
      ¬ Resumes (cardImportService .longer validateForest) 1 0 1 [.dict [], .dict []]
        (.ofSets alpha) (.ofSets alpha) ∧
      ¬ Resumes (setImportService validateAlpha) 1 0 1 [.dict [], .dict []] alpha alpha := by
  have hnot : ∀ {R D : Type} {service : ImportService R D} {database : D},
      passedBehind service database = some (1, 0) →
        ¬ Resumes service 1 0 1 [.dict [], .dict []] database database := by
    rintro R D service database hpassed ⟨full, resumed, hfull, hresumed, hsame, -⟩
    rw [passedBehind, hfull, hresumed] at hpassed
    simp only [hsame, Option.some.injEq, Prod.mk.injEq] at hpassed
    omega
  exact ⟨by decide, by decide, hnot (by decide), hnot (by decide)⟩

end AutoMana.CardCatalog
