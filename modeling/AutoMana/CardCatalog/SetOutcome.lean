import AutoMana.CardCatalog.Outcome

/-!
# When the import of a set succeeds

A record of a set is stored exactly when its texts fit, and neither its name nor its code is
another set's. In its block it is then what the batch leaves.
-/

namespace AutoMana.CardCatalog

open Relational Statement

/-- The texts that the upsert stores fit their columns. -/
structure NewSet.RowFits (record : NewSet) : Prop where
  setType : record.setType.length ≤ 20
  setName : record.setName.length ≤ 100
  setCode : record.setCode.length ≤ 10

/-- The uri of the icon fits. -/
def NewSet.IconFits (record : NewSet) : Prop :=
  ∀ uri, nonEmpty record.iconSvgUri = some uri → uri.length ≤ 500

section Sets

variable {sets next : Sets} {record : NewSet}

theorem exists_upsertSet_iff : (∃ next, sets.upsertSet record = .ok next) ↔
    record.RowFits ∧ sets.taken record = false := by
  simp only [Sets.upsertSet, bind_eq_ok_iff, varchar_eq_ok_iff, check_eq_ok_iff, pure_eq_ok_iff,
    exists_const, exists_and_left, exists_eq, and_true]
  constructor
  · rintro ⟨htype, hname, hcode, htaken⟩
    exact ⟨⟨htype, hname, hcode⟩, htaken⟩
  · rintro ⟨⟨htype, hname, hcode⟩, htaken⟩
    exact ⟨htype, hname, hcode, htaken⟩

/-- The upsert stores the row of its record and no other. -/
theorem upsertSet_rows (hnext : sets.upsertSet record = .ok next) :
    ∃ row, next.rows = sets.rows.set record.setId row := by
  simp only [Sets.upsertSet, bind_eq_ok_iff, varchar_eq_ok_iff, check_eq_ok_iff, pure_eq_ok_iff,
    exists_const] at hnext
  obtain ⟨-, -, -, -, rfl⟩ := hnext
  exact ⟨_, rfl⟩

theorem exists_linkIcon_iff : (∃ next, sets.linkIcon record = .ok next) ↔ record.IconFits := by
  rw [Sets.linkIcon, NewSet.IconFits]
  cases nonEmpty record.iconSvgUri with
  | none => exact iff_of_true ⟨_, rfl⟩ fun _ huri => by cases huri
  | some uri =>
    simp only [bind_eq_ok_iff, varchar_eq_ok_iff, pure_eq_ok_iff, exists_const, exists_and_left,
      exists_eq, and_true, Option.some.injEq, forall_eq']

theorem linkIcon_rows (hnext : sets.linkIcon record = .ok next) : next.rows = sets.rows := by
  rw [Sets.linkIcon] at hnext
  cases huri : nonEmpty record.iconSvgUri with
  | none =>
    rw [huri] at hnext
    rw [pure_eq_ok_iff.mp hnext]
  | some uri =>
    simp only [huri, bind_eq_ok_iff, pure_eq_ok_iff] at hnext
    obtain ⟨_, -, rfl⟩ := hnext
    rfl

theorem exists_insertSet_iff : (∃ next, sets.insertSet record = .ok next) ↔
    (record.RowFits ∧ sets.taken record = false) ∧ record.IconFits := by
  rw [← exists_upsertSet_iff]
  simp only [Sets.insertSet, bind_eq_ok_iff]
  constructor
  · rintro ⟨next, upserted, hupserted, hlinked⟩
    exact ⟨⟨upserted, hupserted⟩, exists_linkIcon_iff.mp ⟨next, hlinked⟩⟩
  · rintro ⟨⟨upserted, hupserted⟩, hicon⟩
    obtain ⟨next, hlinked⟩ := exists_linkIcon_iff.mpr hicon
    exact ⟨next, upserted, hupserted, hlinked⟩

/-- The sets that are stored after a record. -/
theorem isSome_get?_insertSet (hnext : sets.insertSet record = .ok next) (id : String) :
    (next.rows.get? id).isSome ↔ id = record.setId ∨ (sets.rows.get? id).isSome := by
  obtain ⟨upserted, hupserted, hlinked⟩ := bind_eq_ok_iff.mp hnext
  obtain ⟨row, hrow⟩ := upsertSet_rows hupserted
  rw [linkIcon_rows hlinked, hrow, Table.get?_set]
  split_ifs with hid
  · exact iff_of_true rfl (Or.inl hid)
  · rw [or_iff_right hid]

/-- What a block of the batch leaves. -/
theorem processed_sets (reply : SetsReply) :
    (reply.processed sets record).2 = attempt (·.insertSet record) sets := by
  rw [SetsReply.processed]
  cases hupserted : sets.upsertSet record with
  | error error =>
    have hraises : ∀ next, sets.insertSet record ≠ .ok next := by
      intro next hnext
      obtain ⟨upserted, hok, -⟩ := bind_eq_ok_iff.mp hnext
      rw [hupserted] at hok
      cases hok
    exact (attempt_of_error hraises).symm
  | ok upserted =>
    dsimp only
    cases hlinked : upserted.linkIcon record with
    | error error =>
      have hraises : ∀ next, sets.insertSet record ≠ .ok next := by
        intro next hnext
        obtain ⟨other, hok, hlink⟩ := bind_eq_ok_iff.mp hnext
        rw [hupserted] at hok
        cases hok
        rw [hlinked] at hlink
        cases hlink
      exact (attempt_of_error hraises).symm
    | ok next =>
      have hinsert : sets.insertSet record = .ok next := bind_eq_ok_iff.mpr ⟨_, hupserted, hlinked⟩
      exact (attempt_of_ok hinsert).symm

end Sets

end AutoMana.CardCatalog
