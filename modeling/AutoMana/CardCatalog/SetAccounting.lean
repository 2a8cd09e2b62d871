import AutoMana.CardCatalog.BulkImport
import AutoMana.CardCatalog.SetOutcome

/-!
# What the batch of sets accounts for

A set is counted as inserted before its icon is linked. When the link raises, the set is rolled
back and stays counted.
-/

namespace AutoMana.CardCatalog

open Relational Statement

/-! ## What is claimed -/

/-- The set is stored after the batch and was not before. -/
def NewlyStored (before after : Sets) (id : String) : Prop :=
  before.rows.get? id = none ∧ (after.rows.get? id).isSome

instance (before after : Sets) (id : String) : Decidable (NewlyStored before after id) :=
  inferInstanceAs (Decidable (_ ∧ _))

/-- The records whose block raises, and so leaves nothing. -/
def raising (sets : Sets) : List NewSet → List NewSet
  | [] => []
  | record :: rest =>
    match sets.insertSet record with
    | .error _ => record :: raising sets rest
    | .ok next => raising next rest

/-- Exactly the sets that are new are inserted, each once. -/
def InsertsAreNew (sets : Sets) (records : List NewSet) : Prop :=
  let (reply, next) := insertBatchSets sets records
  reply.successfulInserts = reply.insertedSetIds.length ∧
    ∀ id, reply.insertedSetIds.count id = if NewlyStored sets next id then 1 else 0

/-- Exactly the records that leave nothing have failed. -/
def FailuresLeaveNothing (sets : Sets) (records : List NewSet) : Prop :=
  let (reply, _) := insertBatchSets sets records
  reply.failedInserts = (raising sets records).length ∧
    reply.errors.map Prod.fst = (raising sets records).map NewSet.label

/-- The errors of the procedure are those of the response. -/
def HandsErrorsOn (sets : Sets) (records : List NewSet) : Prop :=
  (addManySets sets records).1.errors.map (fun error => (error.1, error.2.1)) =
    (insertBatchSets sets records).1.errors

structure AccountsTruly (sets : Sets) (records : List NewSet) : Prop where
  inserts : InsertsAreNew sets records
  failures : FailuresLeaveNothing sets records
  errors : HandsErrorsOn sets records

/-- What is asked of a record: a set that is new and can be stored has an icon that fits. -/
def IconFitsIfNew (sets : Sets) (record : NewSet) : Prop :=
  (sets.rows.get? record.setId).isSome ∨ ¬ (record.RowFits ∧ sets.taken record = false) ∨
    record.IconFits

/-! ## One record -/

section Record

variable {before sets next : Sets} {record : NewSet} {reply : SetsReply}

/-- The ids that a record adds to those that are inserted. -/
def countedIds (sets : Sets) (record : NewSet) : List String :=
  if (sets.upsertSet record).isOk && (sets.rows.get? record.setId).isNone then [record.setId]
  else []

theorem insertSet_of_upsertSet {upserted : Sets}
    (hupserted : sets.upsertSet record = .ok upserted) :
    sets.insertSet record = upserted.linkIcon record := by
  rw [Sets.insertSet, hupserted]
  rfl

theorem insertSet_of_error {error : Violation} (hupserted : sets.upsertSet record = .error error) :
    sets.insertSet record = .error error := by
  rw [Sets.insertSet, hupserted]
  rfl

/-- What a record adds to the reply. -/
theorem processed_reply (reply : SetsReply) (sets : Sets) (record : NewSet) :
    (reply.processed sets record).1.insertedSetIds =
        reply.insertedSetIds ++ countedIds sets record ∧
      (reply.processed sets record).1.successfulInserts =
        reply.successfulInserts + (countedIds sets record).length ∧
      (reply.processed sets record).1.failedInserts =
        reply.failedInserts + (if (sets.insertSet record).isOk then 0 else 1) ∧
      (reply.processed sets record).1.errors.map Prod.fst =
        reply.errors.map Prod.fst ++
          if (sets.insertSet record).isOk then [] else [record.label] := by
  rw [SetsReply.processed, countedIds]
  cases hupserted : sets.upsertSet record with
  | error error =>
    rw [insertSet_of_error hupserted]
    simp [SetsReply.failed, Except.isOk, Except.toBool]
  | ok upserted =>
    rw [insertSet_of_upsertSet hupserted]
    cases hstored : sets.rows.get? record.setId with
    | some row =>
      cases hlinked : upserted.linkIcon record <;>
        simp [hlinked, SetsReply.failed, Except.isOk, Except.toBool]
    | none =>
      cases hlinked : upserted.linkIcon record <;>
        simp [hlinked, SetsReply.failed, Except.isOk, Except.toBool]

/-- So often a set that is new is to be counted. -/
def newCount (before sets : Sets) (id : String) : Nat :=
  if NewlyStored before sets id then 1 else 0

/-- A record that is stored is counted when it is new. -/
theorem newCount_of_insertSet
    (hgrown : ∀ id, (before.rows.get? id).isSome → (sets.rows.get? id).isSome)
    (hnext : sets.insertSet record = .ok next) (id : String) :
    newCount before next id = newCount before sets id + (countedIds sets record).count id := by
  have hupsert : (sets.upsertSet record).isOk = true := by
    obtain ⟨_, hupserted, -⟩ := bind_eq_ok_iff.mp hnext
    rw [hupserted]
    rfl
  have hstored := isSome_get?_insertSet hnext id
  rw [newCount, newCount, countedIds, hupsert]
  by_cases hid : id = record.setId
  · subst hid
    cases hbefore : sets.rows.get? record.setId with
    | some row =>
      rw [hbefore] at hstored
      simp [NewlyStored, hbefore, hstored]
    | none =>
      have hfirst : before.rows.get? record.setId = none := by
        refine Option.not_isSome_iff_eq_none.mp fun hsome => ?_
        have hkept := hgrown record.setId hsome
        rw [hbefore] at hkept
        cases hkept
      have hnew := hstored.mpr (Or.inl rfl)
      simp [NewlyStored, hbefore, hfirst, hnew]
  · have hcount : (if true && (sets.rows.get? record.setId).isNone then [record.setId]
        else []).count id = 0 := by
      refine List.count_eq_zero.mpr fun hmem => ?_
      split_ifs at hmem
      · exact hid (List.mem_singleton.mp hmem)
      · cases hmem
    rw [hcount, Nat.add_zero]
    congr 1
    rw [NewlyStored, NewlyStored, hstored, or_iff_right hid]

/-- A record that raises is counted when it is new and only its icon does not fit. -/
theorem countedIds_eq_nil_iff (hraises : ∀ next, sets.insertSet record ≠ .ok next) :
    countedIds sets record = [] ↔ IconFitsIfNew sets record := by
  have hicon : (record.RowFits ∧ sets.taken record = false) → ¬ record.IconFits :=
    fun hrow hicon => (exists_insertSet_iff.mpr ⟨hrow, hicon⟩).elim hraises
  have hupsert : (sets.upsertSet record).isOk = true ↔
      record.RowFits ∧ sets.taken record = false := by
    rw [← exists_upsertSet_iff]
    cases sets.upsertSet record with
    | error error => simp [Except.isOk, Except.toBool]
    | ok upserted => simp [Except.isOk, Except.toBool]
  rw [countedIds, IconFitsIfNew]
  cases hstored : sets.rows.get? record.setId with
  | some row => simp
  | none =>
    simp only [Option.isNone_none, Bool.and_true, Option.isSome_none, Bool.false_eq_true, false_or]
    split_ifs with hok
    · have hrow := hupsert.mp hok
      exact iff_of_false not_false (not_or.mpr ⟨not_not.mpr hrow, hicon hrow⟩)
    · exact iff_of_true rfl (Or.inl fun hrow => hok (hupsert.mpr hrow))

end Record

/-! ## A batch -/

section Batch

variable {before sets : Sets} {records : List NewSet}

/-- The loop over the records, from any reply. -/
def processAll (state : SetsReply × Sets) (records : List NewSet) : SetsReply × Sets :=
  records.foldl (fun state record => state.1.processed state.2 record) state

theorem insertSet_cases (sets : Sets) (record : NewSet) :
    (∃ next, sets.insertSet record = .ok next ∧
        attempt (·.insertSet record) sets = next) ∨
      (∀ next, sets.insertSet record ≠ .ok next) ∧
        attempt (·.insertSet record) sets = sets := by
  by_cases hok : ∃ next, sets.insertSet record = .ok next
  · obtain ⟨next, hnext⟩ := hok
    exact Or.inl ⟨next, hnext, attempt_of_ok hnext⟩
  · exact Or.inr ⟨not_exists.mp hok, attempt_of_error (not_exists.mp hok)⟩

/-- The failures are the records that raise. -/
theorem failures_processAll (reply : SetsReply) (sets : Sets) (records : List NewSet) :
    (processAll (reply, sets) records).1.failedInserts =
        reply.failedInserts + (raising sets records).length ∧
      (processAll (reply, sets) records).1.errors.map Prod.fst =
        reply.errors.map Prod.fst ++ (raising sets records).map NewSet.label := by
  induction records generalizing reply sets with
  | nil => exact ⟨rfl, (List.append_nil _).symm⟩
  | cons record rest ih =>
      obtain ⟨-, -, hfailed, herrors⟩ := processed_reply reply sets record
      rw [processAll, List.foldl_cons, ← processAll]
      have hrest := ih (reply.processed sets record).1 (reply.processed sets record).2
      rw [Prod.mk.eta, hfailed, herrors, processed_sets] at hrest
      rw [raising]
      cases hinsert : sets.insertSet record with
      | error error =>
        have hsame : attempt (·.insertSet record) sets = sets :=
          attempt_of_error fun next hnext => by rw [hinsert] at hnext; cases hnext
        rw [hsame, hinsert] at hrest
        refine ⟨hrest.1.trans ?_, hrest.2.trans ?_⟩
        · exact (Nat.add_assoc _ _ _).trans (congrArg _ (Nat.add_comm 1 _))
        · exact List.append_assoc _ _ _
      | ok next =>
        have hnext : attempt (·.insertSet record) sets = next := attempt_of_ok hinsert
        rw [hnext, hinsert] at hrest
        refine ⟨hrest.1, hrest.2.trans ?_⟩
        exact congrArg (· ++ _) (List.append_nil _)

/-- So many are counted as are inserted. -/
theorem successful_processAll {state : SetsReply × Sets}
    (hcount : state.1.successfulInserts = state.1.insertedSetIds.length) :
    (processAll state records).1.successfulInserts =
      (processAll state records).1.insertedSetIds.length := by
  induction records generalizing state with
  | nil => exact hcount
  | cons record rest ih =>
      obtain ⟨hids, hsuccessful, -, -⟩ := processed_reply state.1 state.2 record
      exact ih (by rw [hids, hsuccessful, hcount, List.length_append])

/-- No set that was stored is lost. -/
def Grown (before sets : Sets) : Prop :=
  ∀ id, (before.rows.get? id).isSome → (sets.rows.get? id).isSome

theorem Grown.attempt (hgrown : Grown before sets) (record : NewSet) :
    Grown before (attempt (·.insertSet record) sets) := by
  intro id hid
  rcases insertSet_cases sets record with ⟨next, hnext, hattempt⟩ | ⟨-, hattempt⟩
  · rw [hattempt]
    exact (isSome_get?_insertSet hnext id).mpr (Or.inr (hgrown id hid))
  · rw [hattempt]
    exact hgrown id hid

/-- A record counts no set less than it stores, and more only when its icon does not fit. -/
theorem newCount_attempt (hgrown : Grown before sets) (record : NewSet) :
    (∀ id, newCount before (attempt (·.insertSet record) sets) id ≤
        newCount before sets id + (countedIds sets record).count id) ∧
      (IconFitsIfNew sets record ↔
        ∀ id, newCount before (attempt (·.insertSet record) sets) id =
          newCount before sets id + (countedIds sets record).count id) := by
  rcases insertSet_cases sets record with ⟨next, hnext, hattempt⟩ | ⟨hraises, hattempt⟩
  · rw [hattempt]
    have hcount := newCount_of_insertSet hgrown hnext
    exact ⟨fun id => (hcount id).le,
      iff_of_true (Or.inr (Or.inr (exists_insertSet_iff.mp ⟨next, hnext⟩).2)) hcount⟩
  · rw [hattempt, ← countedIds_eq_nil_iff hraises]
    refine ⟨fun id => Nat.le_add_right _ _, fun hnil id => ?_, fun hall => ?_⟩
    · rw [hnil, List.count_nil, Nat.add_zero]
    · refine List.eq_nil_iff_forall_not_mem.mpr fun id hmem => ?_
      have hpos := List.count_pos_iff.mpr hmem
      have hsame := hall id
      omega

/-- The sets are counted as they are stored, or one of them more often. -/
theorem counts_processAll {reply : SetsReply} (hgrown : Grown before sets)
    (hcounted : ∀ id, reply.insertedSetIds.count id = newCount before sets id) :
    (∀ id, (processAll (reply, sets) records).1.insertedSetIds.count id =
        newCount before (processAll (reply, sets) records).2 id) ↔
      Run.StepsMeet (fun sets record => attempt (·.insertSet record) sets) IconFitsIfNew sets
        records := by
  have hstep : ∀ (state : SetsReply × Sets) (record : NewSet),
      (state.1.processed state.2 record).2 = attempt (·.insertSet record) state.2 :=
    fun state _ => processed_sets state.1
  have hdecided := @Run.final_of_decided (SetsReply × Sets) NewSet
    (fun state record => state.1.processed state.2 record)
    (fun state record => IconFitsIfNew state.2 record)
    (fun state => Grown before state.2 ∧
      ∀ id, state.1.insertedSetIds.count id = newCount before state.2 id)
    (fun state => Grown before state.2 ∧
      ∃ id, newCount before state.2 id < state.1.insertedSetIds.count id)
    (fun state record hgood hfits => by
      refine ⟨hstep state record ▸ hgood.1.attempt record, fun id => ?_⟩
      rw [(processed_reply state.1 state.2 record).1, List.count_append, hgood.2, hstep]
      exact ((newCount_attempt hgood.1 record).2.mp hfits id).symm)
    (fun state record hgood hfits => by
      refine ⟨hstep state record ▸ hgood.1.attempt record, ?_⟩
      obtain ⟨hle, hexact⟩ := newCount_attempt hgood.1 record
      obtain ⟨id, hne⟩ := not_forall.mp (mt hexact.mpr hfits)
      refine ⟨id, ?_⟩
      rw [(processed_reply state.1 state.2 record).1, List.count_append, hgood.2, hstep]
      exact Nat.lt_of_le_of_ne (hle id) hne)
    (fun state record hlost => by
      refine ⟨hstep state record ▸ hlost.1.attempt record, ?_⟩
      obtain ⟨hgrown, id, hless⟩ := hlost
      refine ⟨id, ?_⟩
      rw [(processed_reply state.1 state.2 record).1, List.count_append, hstep]
      exact Nat.lt_of_le_of_lt ((newCount_attempt hgrown record).1 id)
        (Nat.add_lt_add_right hless _))
    (reply, sets) records ⟨hgrown, hcounted⟩
  rw [← @Run.stepsMeet_view _ _ _ _ _ Prod.snd _ hstep (reply, sets)]
  rcases hdecided with ⟨hmeet, -, hfinal⟩ | ⟨hmiss, -, id, hless⟩
  · exact iff_of_true hfinal hmeet
  · exact iff_of_false (fun hall => absurd (hall id) hless.ne') hmiss

theorem raising_eq_nil_iff : raising sets records = [] ↔
    Run.StepsMeet (fun sets record => attempt (·.insertSet record) sets)
      (fun sets record => (record.RowFits ∧ sets.taken record = false) ∧ record.IconFits) sets
      records := by
  induction records generalizing sets with
  | nil => exact iff_of_true rfl trivial
  | cons record rest ih =>
      rw [raising, Run.StepsMeet, ← exists_insertSet_iff, ← ih]
      cases hinsert : sets.insertSet record with
      | error error =>
        exact iff_of_false (List.cons_ne_nil _ _) fun hall => by
          obtain ⟨⟨_, hnext⟩, -⟩ := hall
          cases hnext
      | ok next =>
        have hnext : attempt (·.insertSet record) sets = next := attempt_of_ok hinsert
        rw [hnext]
        exact (and_iff_right ⟨next, rfl⟩).symm

end Batch

/-- The ids and the count of the sets that are inserted are true exactly when no set that is new
has an icon that does not fit. The failures are true of every batch. Their errors reach the caller,
and so the account as a whole is true, exactly when no record raises. -/
theorem accountsTruly_iff (sets : Sets) (records : List NewSet) :
    (InsertsAreNew sets records ↔
      Run.StepsMeet (fun sets record => attempt (·.insertSet record) sets) IconFitsIfNew sets
        records) ∧
    FailuresLeaveNothing sets records ∧
    (AccountsTruly sets records ↔
      Run.StepsMeet (fun sets record => attempt (·.insertSet record) sets)
        (fun sets record => (record.RowFits ∧ sets.taken record = false) ∧ record.IconFits) sets
        records) := by
  have hinserts : InsertsAreNew sets records ↔ Run.StepsMeet
      (fun sets record => attempt (·.insertSet record) sets) IconFitsIfNew sets records := by
    have hcounts := @counts_processAll sets sets records ⟨records.length, 0, 0, [], []⟩
      (fun _ hstored => hstored) fun id => by
        rw [newCount, if_neg]
        · rfl
        · rintro ⟨hnone, hsome⟩
          rw [hnone] at hsome
          cases hsome
    exact (and_iff_right (successful_processAll rfl)).trans hcounts
  have hfailures : FailuresLeaveNothing sets records := by
    obtain ⟨hfailed, herrors⟩ := failures_processAll ⟨records.length, 0, 0, [], []⟩ sets records
    exact ⟨hfailed.trans (Nat.zero_add _), herrors⟩
  refine ⟨hinserts, hfailures, ?_⟩
  have hhands : HandsErrorsOn sets records ↔ raising sets records = [] := by
    have hlength := congrArg List.length hfailures.2
    rw [List.length_map, List.length_map] at hlength
    rw [← List.length_eq_zero_iff, ← hlength, List.length_eq_zero_iff]
    exact eq_comm
  rw [← raising_eq_nil_iff]
  constructor
  · exact fun htrue => hhands.mp htrue.errors
  · intro hnone
    refine ⟨hinserts.mpr ?_, hfailures, hhands.mpr hnone⟩
    exact (raising_eq_nil_iff.mp hnone).imp fun _ _ hfits => Or.inr (Or.inr hfits.2)

/-! ## An icon that does not fit -/

def noSets : Sets := ⟨.empty, .empty⟩

def alphaWithIcon (uri : String) : NewSet :=
  ⟨"s", "Alpha", "lea", "core", "1993-08-05", false, false, false, none, some uri⟩

theorem insertBatchSets_alphaWithIcon {uri : String} (hlong : 500 < uri.length) :
    insertBatchSets noSets [alphaWithIcon uri] =
      (⟨1, 1, 1, ["s"], [("Alpha", .tooLong)]⟩, noSets) := by
  have huri : nonEmpty (some uri) = some uri := by
    refine Option.filter_eq_some_iff.mpr ⟨rfl, decide_eq_true ?_⟩
    rintro rfl
    exact absurd hlong (by decide)
  have hlink : ∀ sets : Sets, sets.linkIcon (alphaWithIcon uri) = .error .tooLong := by
    intro sets
    rw [Sets.linkIcon, alphaWithIcon, huri]
    dsimp only
    rw [varchar, check, if_neg (Nat.not_le_of_lt hlong)]
    rfl
  change (⟨1, 0, 0, [], []⟩ : SetsReply).processed noSets (alphaWithIcon uri) = _
  rw [SetsReply.processed]
  have hfits : (alphaWithIcon uri).RowFits :=
    ⟨(by decide : "core".length ≤ 20), (by decide : "Alpha".length ≤ 100),
      (by decide : "lea".length ≤ 10)⟩
  obtain ⟨upserted, hupserted⟩ := exists_upsertSet_iff.mpr
    ⟨hfits, (rfl : noSets.taken (alphaWithIcon uri) = false)⟩
  rw [hupserted]
  dsimp only
  rw [hlink]
  rfl

/-- A uri that is longer than its column. -/
@[irreducible] def uriOf (length : Nat) : String := String.ofList (List.replicate length 'i')

theorem length_uriOf (length : Nat) : (uriOf length).length = length := by
  rw [uriOf, String.length_ofList, List.length_replicate]

/-- A new set whose icon does not fit is counted as inserted and is not stored, and the caller sees
no error. -/
theorem rolled_back_set_is_counted :
    (insertBatchSets noSets [alphaWithIcon (uriOf 501)]).1.insertedSetIds = ["s"] ∧
      (insertBatchSets noSets [alphaWithIcon (uriOf 501)]).1.errors = [("Alpha", .tooLong)] ∧
      (insertBatchSets noSets [alphaWithIcon (uriOf 501)]).2 = noSets ∧
      (addManySets noSets [alphaWithIcon (uriOf 501)]).1.errors = [] ∧
      ¬ InsertsAreNew noSets [alphaWithIcon (uriOf 501)] ∧
      ¬ HandsErrorsOn noSets [alphaWithIcon (uriOf 501)] := by
  have hlong : 500 < (uriOf 501).length := by
    rw [length_uriOf]
    exact Nat.lt_succ_self 500
  have hbatch := insertBatchSets_alphaWithIcon hlong
  refine ⟨by rw [hbatch], by rw [hbatch], by rw [hbatch], ?_, ?_, ?_⟩
  · rw [addManySets, hbatch]
    rfl
  · rw [InsertsAreNew, hbatch]
    rintro ⟨-, hcounts⟩
    have hcount : ["s"].count "s" = if NewlyStored noSets noSets "s" then 1 else 0 := hcounts "s"
    exact absurd hcount (by decide)
  · rw [HandsErrorsOn, addManySets, hbatch]
    intro hhands
    cases hhands

end AutoMana.CardCatalog
