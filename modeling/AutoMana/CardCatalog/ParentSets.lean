import AutoMana.CardCatalog.SetAccounting

/-!
# The parents of sets converge

Every upsert overwrites the parent of a set by what its code finds at that moment. The first import
of a list of records leaves each code with its set, and no later import of the list moves a code, so
from the second import on the parents are what the codes of the whole table say, in whatever order
and batches the records come.
-/

namespace AutoMana.CardCatalog

open Relational Statement

/-! ## Imports -/

/-- A list of records in batches. -/
def importSets (sets : Sets) (batches : List (List NewSet)) : Sets :=
  batches.foldl (fun sets batch => (insertBatchSets sets batch).2) sets

/-- No record fails in any batch. -/
def NoneFails (sets : Sets) (batches : List (List NewSet)) : Prop :=
  Run.StepsMeet (fun sets batch => (insertBatchSets sets batch).2)
    (fun sets batch => (insertBatchSets sets batch).1.failedInserts = 0) sets batches

/-- The unique constraints of the names and the codes. -/
def Sets.Unique (sets : Sets) : Prop :=
  ∀ id other row otherRow, sets.rows.get? id = some row → sets.rows.get? other = some otherRow →
    row.setName = otherRow.setName ∨ row.setCode = otherRow.setCode → id = other

/-- The row of a record, with the parent that its code finds. -/
def NewSet.row (record : NewSet) (parent : Option String) : SetRow :=
  ⟨record.setName, record.setCode, record.setType, record.releasedAt, record.digital,
    record.nonfoilOnly, record.foilOnly, parent⟩

/-- The parent that a record's code finds. -/
def NewSet.parentBy (record : NewSet) (owner : String → Option String) : Option String :=
  (nonEmpty record.parentSet).bind owner

/-! ## One record -/

section Record

variable {sets next : Sets} {record : NewSet}

theorem get?_insertSet (hnext : sets.insertSet record = .ok next) :
    (∀ id, next.rows.get? id = if id = record.setId then
        some (record.row (record.parentBy sets.idOfCode)) else sets.rows.get? id) ∧
      ∀ id, next.icons.get? id = (sets.icons.get? id).or
        (if id = record.setId then nonEmpty record.iconSvgUri else none) := by
  obtain ⟨upserted, hupserted, hlinked⟩ := bind_eq_ok_iff.mp hnext
  simp only [Sets.upsertSet, bind_eq_ok_iff, varchar_eq_ok_iff, check_eq_ok_iff, pure_eq_ok_iff,
    exists_const] at hupserted
  obtain ⟨-, -, -, -, rfl⟩ := hupserted
  refine ⟨fun id => ?_, fun id => ?_⟩
  · rw [linkIcon_rows hlinked, Table.get?_set]
    rfl
  · rw [Sets.linkIcon] at hlinked
    cases huri : nonEmpty record.iconSvgUri with
    | none =>
      rw [huri] at hlinked
      rw [pure_eq_ok_iff.mp hlinked, ite_self, Option.or_none]
    | some uri =>
      simp only [huri, bind_eq_ok_iff, pure_eq_ok_iff] at hlinked
      obtain ⟨_, -, rfl⟩ := hlinked
      refine Table.get?_insertMissing_of_mem_iff (fun value => ?_) _
      rw [List.mem_singleton]
      split_ifs with hid
      · simp [hid, eq_comm]
      · simp [hid]

theorem taken_eq_false_iff : sets.taken record = false ↔
    ∀ id row, sets.rows.get? id = some row → id ≠ record.setId →
      row.setName ≠ record.setName ∧ row.setCode ≠ record.setCode := by
  simp only [Sets.taken, List.any_eq_false, Bool.and_eq_true, Bool.or_eq_true, decide_eq_true_eq,
    Prod.forall, Table.mem_rows_iff, not_and, not_or]

/-- The set of a code. -/
theorem idOfCode_eq_some_iff (hunique : sets.Unique) (code id : String) :
    sets.idOfCode code = some id ↔ ∃ row, sets.rows.get? id = some row ∧ row.setCode = code := by
  rw [Sets.idOfCode, Option.map_eq_some_iff]
  constructor
  · rintro ⟨⟨found, row⟩, hfound, rfl⟩
    have hcode := List.find?_some hfound
    exact ⟨row, (Table.mem_rows_iff _ _ _).mp (List.mem_of_find?_eq_some hfound),
      of_decide_eq_true hcode⟩
  · rintro ⟨row, hrow, rfl⟩
    have hmem := (Table.mem_rows_iff _ _ _).mpr hrow
    cases hfound : sets.rows.rows.find? fun other => decide (other.2.setCode = row.setCode) with
    | none => exact absurd (decide_eq_true rfl) (List.find?_eq_none.mp hfound _ hmem)
    | some found =>
      have hcode := List.find?_some hfound
      have hstored := (Table.mem_rows_iff _ _ _).mp (List.mem_of_find?_eq_some hfound)
      exact ⟨found, rfl, hunique _ _ _ _ hstored hrow (Or.inr (of_decide_eq_true hcode))⟩

/-- The codes of a table that has the same codes find the same sets. -/
theorem idOfCode_congr (hsets : sets.Unique) (hnext : next.Unique)
    (hcodes : ∀ id, (next.rows.get? id).map SetRow.setCode =
      (sets.rows.get? id).map SetRow.setCode) : next.idOfCode = sets.idOfCode := by
  funext code
  refine Option.ext fun id => ?_
  rw [idOfCode_eq_some_iff hsets, idOfCode_eq_some_iff hnext, ← Option.map_eq_some_iff,
    ← Option.map_eq_some_iff, hcodes]

/-- A record that is inserted keeps the names and the codes unique. -/
theorem unique_insertSet (hunique : sets.Unique) (hnext : sets.insertSet record = .ok next) :
    next.Unique := by
  have htaken := taken_eq_false_iff.mp (exists_insertSet_iff.mp ⟨next, hnext⟩).1.2
  obtain ⟨hrows, -⟩ := get?_insertSet hnext
  intro id other row otherRow hrow hother hsame
  rw [hrows] at hrow hother
  split_ifs at hrow with hid <;> split_ifs at hother with hotherId
  · rw [hid, hotherId]
  · obtain rfl := Option.some.inj hrow
    obtain ⟨hname, hcode⟩ := htaken other otherRow hother hotherId
    rcases hsame with hsame | hsame
    · exact absurd hsame.symm hname
    · exact absurd hsame.symm hcode
  · obtain rfl := Option.some.inj hother
    obtain ⟨hname, hcode⟩ := htaken id row hrow hid
    rcases hsame with hsame | hsame
    · exact absurd hsame hname
    · exact absurd hsame hcode
  · exact hunique _ _ _ _ hrow hother hsame

end Record

/-! ## One import -/

def insertStep (sets : Sets) (record : NewSet) : Sets := attempt (·.insertSet record) sets

def insertAll (sets : Sets) (records : List NewSet) : Sets := records.foldl insertStep sets

/-- The block of a record does not raise. -/
def Insertable (sets : Sets) (record : NewSet) : Prop :=
  (record.RowFits ∧ sets.taken record = false) ∧ record.IconFits

theorem exists_of_insertable {sets : Sets} {record : NewSet} (hok : Insertable sets record) :
    ∃ next, sets.insertSet record = .ok next ∧ insertStep sets record = next := by
  obtain ⟨next, hnext⟩ := exists_insertSet_iff.mpr hok
  exact ⟨next, hnext, attempt_of_ok hnext⟩

section Run

variable {sets : Sets} {records : List NewSet}

theorem sets_processAll (state : SetsReply × Sets) (records : List NewSet) :
    (processAll state records).2 = insertAll state.2 records := by
  induction records generalizing state with
  | nil => rfl
  | cons record rest ih =>
    rw [processAll, List.foldl_cons, ← processAll, ih, processed_sets]
    rfl

theorem importSets_eq (batches : List (List NewSet)) :
    importSets sets batches = insertAll sets batches.flatten := by
  induction batches generalizing sets with
  | nil => rfl
  | cons batch rest ih =>
    rw [importSets, List.foldl_cons, ← importSets, ih, List.flatten_cons, insertAll, insertAll,
      List.foldl_append]
    exact congrArg (fun sets => rest.flatten.foldl insertStep sets) (sets_processAll _ _)

theorem noneFails_iff (batches : List (List NewSet)) : NoneFails sets batches ↔
    Run.StepsMeet insertStep Insertable sets batches.flatten := by
  induction batches generalizing sets with
  | nil => exact Iff.rfl
  | cons batch rest ih =>
    have hfailed : (insertBatchSets sets batch).1.failedInserts = (raising sets batch).length :=
      (failures_processAll _ sets batch).1.trans (Nat.zero_add _)
    have hsets : (insertBatchSets sets batch).2 = batch.foldl insertStep sets :=
      sets_processAll _ _
    have hbatch : (insertBatchSets sets batch).1.failedInserts = 0 ↔
        Run.StepsMeet insertStep Insertable sets batch := by
      rw [hfailed, List.length_eq_zero_iff]
      exact raising_eq_nil_iff
    rw [List.flatten_cons, Run.stepsMeet_append, ← hbatch, ← hsets, ← ih]
    rfl

/-- What is inserted fits. -/
theorem fits_of_insertable (hmeet : Run.StepsMeet insertStep Insertable sets records) :
    ∀ record ∈ records, record.RowFits ∧ record.IconFits := by
  induction records generalizing sets with
  | nil => exact fun _ hmem => absurd hmem List.not_mem_nil
  | cons record rest ih =>
    obtain ⟨hfirst, hrest⟩ := hmeet
    exact List.forall_mem_cons.mpr ⟨⟨hfirst.1.1, hfirst.2⟩, ih hrest⟩

theorem unique_insertAll (hunique : sets.Unique)
    (hmeet : Run.StepsMeet insertStep Insertable sets records) :
    ∀ next ∈ Run.visited insertStep sets records, next.Unique := by
  refine Run.forall_visited (fun before record hbefore hok => ?_) hunique hmeet
  obtain ⟨next, hnext, hstep⟩ := exists_of_insertable hok
  rw [hstep]
  exact unique_insertSet hbefore hnext

/-- What an import without failures leaves: the rows of its records, each with the parent of some
moment, the other rows, and the first icons. -/
theorem get?_insertAll (hids : (records.map NewSet.setId).Nodup)
    (hmeet : Run.StepsMeet insertStep Insertable sets records) :
    (∀ record ∈ records, ∃ moment ∈ Run.visited insertStep sets records,
        (insertAll sets records).rows.get? record.setId =
          some (record.row (record.parentBy moment.idOfCode))) ∧
      (∀ id ∉ records.map NewSet.setId,
        (insertAll sets records).rows.get? id = sets.rows.get? id) ∧
      ∀ id uri, (insertAll sets records).icons.get? id = some uri ↔
        sets.icons.get? id = some uri ∨ sets.icons.get? id = none ∧
          ∃ record ∈ records, record.setId = id ∧ nonEmpty record.iconSvgUri = some uri := by
  induction records generalizing sets with
  | nil =>
    refine ⟨fun _ hmem => absurd hmem List.not_mem_nil, fun _ _ => rfl, fun id uri => ?_⟩
    simp [insertAll]
  | cons record rest ih =>
    obtain ⟨hok, hrest⟩ := hmeet
    obtain ⟨next, hnext, hstep⟩ := exists_of_insertable hok
    rw [List.map_cons, List.nodup_cons] at hids
    obtain ⟨hnew, hids⟩ := hids
    rw [hstep] at hrest
    obtain ⟨hrows, hicons⟩ := get?_insertSet hnext
    obtain ⟨hrestRows, hothers, hrestIcons⟩ := ih hids hrest
    have hall : insertAll sets (record :: rest) = insertAll next rest :=
      congrArg (fun sets => rest.foldl insertStep sets) hstep
    rw [hall]
    refine ⟨List.forall_mem_cons.mpr ⟨?_, fun other hother => ?_⟩, fun id hid => ?_,
      fun id uri => ?_⟩
    · refine ⟨sets, List.mem_cons_self, ?_⟩
      rw [hothers _ hnew, hrows, if_pos rfl]
    · obtain ⟨moment, hmoment, hrow⟩ := hrestRows other hother
      refine ⟨moment, List.mem_cons_of_mem _ ?_, hrow⟩
      rwa [hstep]
    · rw [List.map_cons, List.mem_cons, not_or] at hid
      rw [hothers id hid.2, hrows, if_neg hid.1]
    · rw [hrestIcons, hicons]
      by_cases hid : id = record.setId
      · obtain rfl := hid
        -- the record is the only one of its set
        have hnone : ¬ ∃ other ∈ rest, other.setId = record.setId ∧
            nonEmpty other.iconSvgUri = some uri := by
          rintro ⟨other, hother, hsame, -⟩
          exact hnew (hsame ▸ List.mem_map_of_mem hother)
        simp only [List.mem_cons, exists_eq_or_imp, hnone, and_false, or_false, if_true,
          Option.or_eq_some_iff, true_and]
      · have hother : record.setId ≠ id := fun hsame => hid hsame.symm
        simp only [List.mem_cons, exists_eq_or_imp, hother, if_neg hid, Option.or_none,
          false_and, false_or]

end Run

/-! ## Imports of the same records -/

section Again

variable {sets other after : Sets} {records first second : List NewSet}
  {owner : String → Option String}

/-- Each record has its row, and each code its set. -/
structure Known (records : List NewSet) (owner : String → Option String) (sets : Sets) : Prop where
  unique : sets.Unique
  codes : sets.idOfCode = owner
  rows : ∀ record ∈ records, ∃ parent, sets.rows.get? record.setId = some (record.row parent)

/-- A record whose row is stored can be inserted again. -/
theorem Known.insertable (hknown : Known records owner sets) {record : NewSet}
    (hrecord : record ∈ records) (hfits : record.RowFits ∧ record.IconFits) :
    Insertable sets record := by
  obtain ⟨parent, hrow⟩ := hknown.rows record hrecord
  refine ⟨⟨hfits.1, taken_eq_false_iff.mpr fun id row hstored hne => ?_⟩, hfits.2⟩
  constructor
  · exact fun hname => hne (hknown.unique _ _ _ _ hstored hrow (Or.inl hname))
  · exact fun hcode => hne (hknown.unique _ _ _ _ hstored hrow (Or.inr hcode))

/-- It moves no code. -/
theorem Known.insertStep (hids : (records.map NewSet.setId).Nodup)
    (hknown : Known records owner sets) {record : NewSet} (hrecord : record ∈ records)
    (hfits : record.RowFits ∧ record.IconFits) :
    Known records owner (insertStep sets record) := by
  obtain ⟨next, hnext, hstep⟩ := exists_of_insertable (hknown.insertable hrecord hfits)
  rw [hstep]
  obtain ⟨hrows, -⟩ := get?_insertSet hnext
  have hunique := unique_insertSet hknown.unique hnext
  refine ⟨hunique, ?_, fun known hmem => ?_⟩
  · refine (idOfCode_congr hknown.unique hunique fun id => ?_).trans hknown.codes
    rw [hrows]
    split_ifs with hid
    · obtain ⟨parent, hrow⟩ := hknown.rows record hrecord
      rw [hid, hrow]
      rfl
    · rfl
  · rw [hrows]
    split_ifs with hid
    · rw [List.inj_on_of_nodup_map hids hmem hrecord hid]
      exact ⟨_, rfl⟩
    · exact hknown.rows known hmem

/-- So the whole list can be imported again, in any order. -/
theorem Known.again (hids : (records.map NewSet.setId).Nodup)
    (hfits : ∀ record ∈ records, record.RowFits ∧ record.IconFits)
    (hknown : Known records owner sets) (hsubset : second ⊆ records) :
    Run.StepsMeet CardCatalog.insertStep Insertable sets second ∧
      ∀ next ∈ Run.visited CardCatalog.insertStep sets second, Known records owner next := by
  induction second generalizing sets with
  | nil => exact ⟨trivial, fun next hnext => List.mem_singleton.mp hnext ▸ hknown⟩
  | cons record rest ih =>
    obtain ⟨hrecord, hrest⟩ := List.cons_subset.mp hsubset
    obtain ⟨hmeet, hvisited⟩ := ih (hknown.insertStep hids hrecord (hfits record hrecord)) hrest
    exact ⟨⟨hknown.insertable hrecord (hfits record hrecord), hmeet⟩,
      List.forall_mem_cons.mpr ⟨hknown, hvisited⟩⟩

/-- What any import of the records leaves of a table: the other rows, and the first icons. -/
structure Imported (records : List NewSet) (sets after : Sets) : Prop where
  others : ∀ id ∉ records.map NewSet.setId, after.rows.get? id = sets.rows.get? id
  icons : ∀ id uri, after.icons.get? id = some uri ↔
    sets.icons.get? id = some uri ∨ sets.icons.get? id = none ∧
      ∃ record ∈ records, record.setId = id ∧ nonEmpty record.iconSvgUri = some uri

theorem Imported.trans {next : Sets} (hafter : Imported records sets after)
    (hnext : Imported records after next) : Imported records sets next := by
  refine ⟨fun id hid => (hnext.others id hid).trans (hafter.others id hid), fun id uri => ?_⟩
  rw [hnext.icons]
  constructor
  · rintro (hicon | ⟨hnone, hrecord⟩)
    · exact (hafter.icons id uri).mp hicon
    · refine Or.inr ⟨Option.eq_none_iff_forall_ne_some.mpr fun stored hstored => ?_, hrecord⟩
      have hkept := (hafter.icons id stored).mpr (Or.inl hstored)
      rw [hnone] at hkept
      cases hkept
  · exact fun hicon => Or.inl ((hafter.icons id uri).mpr hicon)

/-- The table after an import: the rows of its records have the parents of their codes. -/
structure Settled (records : List NewSet) (owner : String → Option String) (sets after : Sets) :
    Prop extends Imported records sets after where
  codes : after.idOfCode = owner
  unique : after.Unique
  rows : ∀ record ∈ records, after.rows.get? record.setId =
    some (record.row (record.parentBy owner))

theorem Settled.known (hsettled : Settled records owner sets after) :
    Known records owner after :=
  ⟨hsettled.unique, hsettled.codes, fun record hmem => ⟨_, hsettled.rows record hmem⟩⟩

/-- An import without failures leaves a row for each record, and the rest of the table. -/
theorem imported_insertAll (hids : (records.map NewSet.setId).Nodup)
    (hperm : first.Perm records) (hunique : sets.Unique)
    (hmeet : Run.StepsMeet CardCatalog.insertStep Insertable sets first) :
    Imported records sets (insertAll sets first) ∧
      Known records (insertAll sets first).idOfCode (insertAll sets first) := by
  have hfirst : (first.map NewSet.setId).Nodup := (hperm.map _).nodup_iff.mpr hids
  obtain ⟨hrows, hothers, hicons⟩ := get?_insertAll hfirst hmeet
  refine ⟨⟨fun id hid => ?_, fun id uri => ?_⟩, ?_, rfl, fun record hmem => ?_⟩
  · exact hothers id fun hmem => hid ((hperm.map _).mem_iff.mp hmem)
  · simp only [hicons, hperm.mem_iff]
  · exact unique_insertAll hunique hmeet _ (Run.foldl_mem_visited _ sets first)
  · obtain ⟨moment, -, hrow⟩ := hrows record (hperm.mem_iff.mpr hmem)
    exact ⟨_, hrow⟩

/-- Once each code has its set, an import of the records in any order settles the table. -/
theorem Known.settled (hids : (records.map NewSet.setId).Nodup)
    (hfits : ∀ record ∈ records, record.RowFits ∧ record.IconFits)
    (hknown : Known records owner sets) (hperm : second.Perm records) :
    Settled records owner sets (insertAll sets second) := by
  obtain ⟨hmeet, hvisited⟩ := hknown.again hids hfits hperm.subset
  have hsecond : (second.map NewSet.setId).Nodup := (hperm.map _).nodup_iff.mpr hids
  have hend := hvisited _ (Run.foldl_mem_visited _ sets second)
  refine ⟨(imported_insertAll hids hperm hknown.unique hmeet).1, hend.codes, hend.unique,
    fun record hmem => ?_⟩
  obtain ⟨moment, hmoment, hrow⟩ :=
    (get?_insertAll hsecond hmeet).1 record (hperm.mem_iff.mpr hmem)
  rw [hrow, (hvisited moment hmoment).codes]

/-- Tables that are settled from the same one by the same codes have the same rows and icons. -/
theorem Settled.same (hafter : Settled records owner sets after)
    (hother : Settled records owner sets other) (id : String) :
    other.rows.get? id = after.rows.get? id ∧ other.icons.get? id = after.icons.get? id := by
  constructor
  · by_cases hid : id ∈ records.map NewSet.setId
    · obtain ⟨record, hmem, rfl⟩ := List.mem_map.mp hid
      rw [hother.rows record hmem, hafter.rows record hmem]
    · rw [hother.others id hid, hafter.others id hid]
  · exact Option.ext fun uri => (hother.icons id uri).trans (hafter.icons id uri).symm

/-- The codes after an import do not depend on the order of the records. -/
theorem Known.codes_eq (hsets : Imported records sets after) (hother : Imported records sets other)
    (hafterKnown : Known records after.idOfCode after)
    (hotherKnown : Known records other.idOfCode other) : other.idOfCode = after.idOfCode := by
  refine idOfCode_congr hafterKnown.unique hotherKnown.unique fun id => ?_
  by_cases hid : id ∈ records.map NewSet.setId
  · obtain ⟨record, hmem, rfl⟩ := List.mem_map.mp hid
    obtain ⟨parent, hrow⟩ := hafterKnown.rows record hmem
    obtain ⟨otherParent, hotherRow⟩ := hotherKnown.rows record hmem
    rw [hrow, hotherRow]
    rfl
  · rw [hother.others id hid, hsets.others id hid]

/-- After two imports the table is settled by the codes of the first one. -/
theorem settled_twice (hids : (records.map NewSet.setId).Nodup) (hunique : sets.Unique)
    (hfirst : first.Perm records) (hsecond : second.Perm records)
    (hmeet : Run.StepsMeet CardCatalog.insertStep Insertable sets first) :
    Settled records (insertAll sets first).idOfCode sets
      (insertAll (insertAll sets first) second) := by
  obtain ⟨himported, hknown⟩ := imported_insertAll hids hfirst hunique hmeet
  have hfits : ∀ record ∈ records, record.RowFits ∧ record.IconFits :=
    fun record hmem => fits_of_insertable hmeet record (hfirst.mem_iff.mpr hmem)
  have hsettled := hknown.settled hids hfits hsecond
  exact { hsettled with toImported := himported.trans hsettled.toImported }

end Again

/-! ## Convergence -/

/-- Each set has the parent of its record: the stored set of the code, if there is one. -/
def ParentsFollow (records : List NewSet) (after : Sets) : Prop :=
  ∀ record ∈ records, ∃ row, after.rows.get? record.setId = some row ∧
    ∀ parent, row.parentSet = some parent ↔ ∃ code, nonEmpty record.parentSet = some code ∧
      ∃ parentRow, after.rows.get? parent = some parentRow ∧ parentRow.setCode = code

/-- Two imports of a list settle the parents, whatever their orders and batches, with the same
table for all of them, and a third one changes nothing. -/
theorem parents_converge {sets : Sets} {records : List NewSet}
    {first second third : List (List NewSet)} (hunique : sets.Unique)
    (hids : (records.map NewSet.setId).Nodup) (hfirst : first.flatten.Perm records)
    (hsecond : second.flatten.Perm records) (hthird : third.flatten.Perm records)
    (hnone : NoneFails sets first) :
    ParentsFollow records (importSets (importSets sets first) second) ∧
      (∀ otherFirst otherSecond : List (List NewSet), otherFirst.flatten.Perm records →
        otherSecond.flatten.Perm records → NoneFails sets otherFirst → ∀ id,
          (importSets (importSets sets otherFirst) otherSecond).rows.get? id =
            (importSets (importSets sets first) second).rows.get? id ∧
          (importSets (importSets sets otherFirst) otherSecond).icons.get? id =
            (importSets (importSets sets first) second).icons.get? id) ∧
      ∀ id, (importSets (importSets (importSets sets first) second) third).rows.get? id =
          (importSets (importSets sets first) second).rows.get? id ∧
        (importSets (importSets (importSets sets first) second) third).icons.get? id =
          (importSets (importSets sets first) second).icons.get? id := by
  simp only [importSets_eq]
  have hmeet := (noneFails_iff first).mp hnone
  have hsettled := settled_twice hids hunique hfirst hsecond hmeet
  refine ⟨fun record hmem => ⟨_, hsettled.rows record hmem, fun parent => ?_⟩, ?_, fun id => ?_⟩
  · rw [NewSet.row, NewSet.parentBy, Option.bind_eq_some_iff]
    simp only [← hsettled.codes, idOfCode_eq_some_iff hsettled.unique]
  · intro otherFirst otherSecond hotherFirst hotherSecond hotherNone id
    have hotherMeet := (noneFails_iff otherFirst).mp hotherNone
    have hother := settled_twice hids hunique hotherFirst hotherSecond hotherMeet
    obtain ⟨himported, hknown⟩ := imported_insertAll hids hfirst hunique hmeet
    obtain ⟨hotherImported, hotherKnown⟩ := imported_insertAll hids hotherFirst hunique hotherMeet
    rw [Known.codes_eq himported hotherImported hknown hotherKnown] at hother
    exact hsettled.same hother id
  · have hfits : ∀ record ∈ records, record.RowFits ∧ record.IconFits :=
      fun record hmem => fits_of_insertable hmeet record (hfirst.mem_iff.mpr hmem)
    have hagain := hsettled.known.settled hids hfits hthird
    have hfrom : Settled records _ sets _ :=
      { hagain with toImported := hsettled.toImported.trans hagain.toImported }
    exact hsettled.same hfrom id

/-- A set of a batch. -/
def setOf (id name code : String) (parent : Option String) : NewSet :=
  ⟨id, name, code, "expansion", "2024-01-01", false, false, false, parent, none⟩

theorem noSets_unique : noSets.Unique := fun _ _ _ _ hrow => by cases hrow

/-- A child that comes before its parent. -/
theorem parents_converge_child :
    ParentsFollow [setOf "c" "Child" "cld" (some "par"), setOf "p" "Parent" "par" none]
      (importSets (importSets noSets
        [[setOf "c" "Child" "cld" (some "par")], [setOf "p" "Parent" "par" none]])
        [[setOf "p" "Parent" "par" none, setOf "c" "Child" "cld" (some "par")]]) :=
  (@parents_converge noSets
    [setOf "c" "Child" "cld" (some "par"), setOf "p" "Parent" "par" none]
    [[setOf "c" "Child" "cld" (some "par")], [setOf "p" "Parent" "par" none]]
    [[setOf "p" "Parent" "par" none, setOf "c" "Child" "cld" (some "par")]]
    [[setOf "p" "Parent" "par" none, setOf "c" "Child" "cld" (some "par")]]
    noSets_unique (by decide) (List.Perm.refl _) (List.Perm.swap _ _ _) (List.Perm.swap _ _ _)
    ⟨rfl, rfl, trivial⟩).1

/-! ## An empty code -/

/-- The parent is the stored set of the record's code, whatever the code. -/
def ParentsNamed (records : List NewSet) (after : Sets) : Prop :=
  ∀ record ∈ records, ∃ row, after.rows.get? record.setId = some row ∧
    ∀ parent, row.parentSet = some parent ↔ ∃ code, record.parentSet = some code ∧
      ∃ parentRow, after.rows.get? parent = some parentRow ∧ parentRow.setCode = code

/-- A set without a code, and one that names it as its parent. -/
def unnamed : List NewSet := [setOf "u" "Unnamed" "" none, setOf "c" "Child" "cld" (some "")]

/-- An empty code stands for no parent, also when a set has it. -/
theorem unnamed_not_parent : (unnamed.map NewSet.setId).Nodup ∧
    (unnamed.map NewSet.setCode).Nodup ∧ NoneFails noSets [unnamed] ∧
    NoneFails (importSets noSets [unnamed]) [unnamed] ∧
    ¬ ParentsNamed unnamed (importSets (importSets noSets [unnamed]) [unnamed]) := by
  refine ⟨by decide, by decide, ⟨rfl, trivial⟩, ⟨rfl, trivial⟩, fun hnamed => ?_⟩
  obtain ⟨row, hrow, hparent⟩ := hnamed (setOf "c" "Child" "cld" (some ""))
    (List.mem_cons_of_mem _ List.mem_cons_self)
  have hnone : row.parentSet = none := by
    obtain rfl := Option.some.inj hrow
    rfl
  have hstored := (hparent "u").mpr ⟨"", rfl, _, rfl, rfl⟩
  rw [hnone] at hstored
  cases hstored

end AutoMana.CardCatalog
