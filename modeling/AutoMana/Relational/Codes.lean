import AutoMana.Relational.Table

/-!
# Code tables

A code table gives each code a drawn identifier and further columns. Registering rows
keeps the stored code; of several new rows with one code the first is stored. Two
futures of a code table that draw alike agree on the identifier of a code and on the
code of an identifier, and may differ in the further columns.
-/

namespace Relational

/-- A table with a unique code and a unique identifier. -/
structure CodeTable (V : Type) where
  table : Table String (Nat × V)
  ids_nodup : (table.rows.map fun row => row.2.1).Nodup

namespace CodeTable

variable {V : Type}

def get? (codes : CodeTable V) (code : String) : Option (Nat × V) := codes.table.get? code

theorem code_unique (codes : CodeTable V) {code code' : String} {id : Nat} {value value' : V}
    (hcode : codes.get? code = some (id, value)) (hcode' : codes.get? code' = some (id, value')) :
    code = code' := by
  have hrow := (codes.table.mem_rows_iff _ _).mpr hcode
  have hrow' := (codes.table.mem_rows_iff _ _).mpr hcode'
  exact congrArg Prod.fst (List.inj_on_of_nodup_map codes.ids_nodup hrow hrow' rfl)

/-- The row each code is inserted with, were it not stored yet. -/
def excluded (draw : String → Nat) (rows : List (String × V)) : Table String (Nat × V) :=
  Table.groupBy Prod.fst (fun group => group.head?.map fun row => (draw row.1, row.2)) rows

theorem get?_excluded (draw : String → Nat) (rows : List (String × V)) (code : String) :
    (excluded draw rows).get? code = (rows.lookup code).map (draw code, ·) := by
  rw [excluded, Table.get?_groupBy Prod.fst _ rfl]
  induction rows with
  | nil => rfl
  | cons row rest ih =>
      obtain ⟨rowCode, value⟩ := row
      by_cases hcode : rowCode = code
      · subst hcode
        simp
      · have hne : (code == rowCode) = false := by simpa using Ne.symm hcode
        simpa [List.lookup_cons, hcode, hne] using ih

/-- `INSERT INTO codes SELECT rows ON CONFLICT (code) DO NOTHING`; `none` when a drawn
identifier is taken. -/
def insertMissing? (codes : CodeTable V) (draw : String → Nat) (rows : List (String × V)) :
    Option (CodeTable V) :=
  let table := codes.table.upsert (excluded draw rows) fun stored _ => stored
  if hids : (table.rows.map fun row => row.2.1).Nodup then some ⟨table, hids⟩ else none

/-- A code keeps its row, or takes the first row given for it. -/
theorem get?_insertMissing {codes next : CodeTable V} {draw : String → Nat}
    {rows : List (String × V)} (hinsert : codes.insertMissing? draw rows = some next)
    (code : String) :
    next.get? code = (codes.get? code).or ((rows.lookup code).map (draw code, ·)) := by
  simp only [insertMissing?, Option.dite_none_right_eq_some, Option.some.injEq] at hinsert
  obtain ⟨_, rfl⟩ := hinsert
  rw [get?, Table.get?_upsert, Table.reconcile_stored, get?_excluded, get?]

/-- No identifier still to be drawn is taken. -/
def Fresh (draw : String → Nat) (codes : CodeTable V) : Prop :=
  ∀ code, codes.get? code = none → ∀ code' value, codes.get? code' ≠ some (draw code, value)

theorem exists_insertMissing {codes : CodeTable V} {draw : String → Nat}
    (hdraw : Function.Injective draw) (hfresh : codes.Fresh draw) (rows : List (String × V)) :
    ∃ next, codes.insertMissing? draw rows = some next := by
  refine ⟨_, dif_pos ?_⟩
  generalize htable : codes.table.upsert (excluded draw rows) (fun stored _ => stored) = table
  have hentry (code : String) (entry : Nat × V) (hmem : (code, entry) ∈ table.rows) :
      codes.get? code = some entry ∨ codes.get? code = none ∧ entry.1 = draw code := by
    rw [Table.mem_rows_iff, ← htable, Table.get?_upsert, Table.reconcile_stored, get?_excluded,
      Option.or_eq_some_iff, Option.map_eq_some_iff] at hmem
    rcases hmem with hstored | ⟨hnone, value, -, rfl⟩
    · exact Or.inl hstored
    · exact Or.inr ⟨hnone, rfl⟩
  apply List.Nodup.map_on _ (List.Nodup.of_map Prod.fst table.nodup_keys)
  rintro ⟨code, id, value⟩ hmem ⟨code', id', value'⟩ hmem' hid
  have hid : id = id' := hid
  have hcode : code = code' := by
    rcases hentry code _ hmem with hstored | ⟨hnone, hdrawn⟩ <;>
      rcases hentry code' _ hmem' with hstored' | ⟨hnone', hdrawn'⟩
    · subst hid
      exact codes.code_unique hstored hstored'
    · rw [hid, show id' = draw code' from hdrawn'] at hstored
      exact absurd hstored (hfresh code' hnone' code value)
    · rw [← hid, show id = draw code from hdrawn] at hstored'
      exact absurd hstored' (hfresh code hnone code' value')
    · apply hdraw
      exact hdrawn.symm.trans (hid.trans hdrawn')
  subst hcode
  rw [Table.mem_rows_iff] at hmem hmem'
  exact congrArg (Prod.mk code) (Option.some.inj (hmem.symm.trans hmem'))

/-! ## Futures of a code table -/

/-- The later table keeps every row, and draws the identifier of every new one. -/
structure Grows (draw : String → Nat) (earlier later : CodeTable V) : Prop where
  kept : ∀ code entry, earlier.get? code = some entry → later.get? code = some entry
  drawn : ∀ code entry, later.get? code = some entry →
    earlier.get? code = some entry ∨ earlier.get? code = none ∧ entry.1 = draw code

theorem Grows.refl (draw : String → Nat) (codes : CodeTable V) : Grows draw codes codes :=
  ⟨fun _ _ hcode => hcode, fun _ _ hcode => Or.inl hcode⟩

theorem Grows.trans {draw : String → Nat} {first second third : CodeTable V}
    (hfirst : Grows draw first second) (hsecond : Grows draw second third) :
    Grows draw first third where
  kept := fun code entry hcode => hsecond.kept code entry (hfirst.kept code entry hcode)
  drawn := by
    intro code entry hcode
    rcases hsecond.drawn code entry hcode with hstored | ⟨hnone, hdrawn⟩
    · exact hfirst.drawn code entry hstored
    · cases hget : first.get? code with
      | none => exact Or.inr ⟨rfl, hdrawn⟩
      | some stored => simp [hfirst.kept code stored hget] at hnone

theorem grows_of_insertMissing {codes next : CodeTable V} {draw : String → Nat}
    {rows : List (String × V)} (hinsert : codes.insertMissing? draw rows = some next) :
    Grows draw codes next where
  kept := by
    intro code entry hcode
    rw [get?_insertMissing hinsert, hcode, Option.some_or]
  drawn := by
    intro code entry hcode
    rw [get?_insertMissing hinsert, Option.or_eq_some_iff, Option.map_eq_some_iff] at hcode
    rcases hcode with hstored | ⟨hnone, value, -, rfl⟩
    · exact Or.inl hstored
    · exact Or.inr ⟨hnone, rfl⟩

theorem Fresh.of_grows {draw : String → Nat} (hdraw : Function.Injective draw)
    {earlier later : CodeTable V} (hfresh : earlier.Fresh draw)
    (hgrows : Grows draw earlier later) : later.Fresh draw := by
  intro code hnone code' value hcode'
  have hearlier : earlier.get? code = none := by
    cases hget : earlier.get? code with
    | none => rfl
    | some entry => simp [hgrows.kept code entry hget] at hnone
  rcases hgrows.drawn code' _ hcode' with hstored | ⟨-, hdrawn⟩
  · exact hfresh code hearlier code' value hstored
  · have hcode : code = code' := hdraw hdrawn
    rw [← hcode, hnone] at hcode'
    cases hcode'

section Futures

variable {draw : String → Nat} {codes left right : CodeTable V}

/-- Two futures identify a code alike. -/
theorem Grows.id_eq (hleft : Grows draw codes left) (hright : Grows draw codes right)
    {code : String} {id id' : Nat} {value value' : V} (hcode : left.get? code = some (id, value))
    (hcode' : right.get? code = some (id', value')) : id = id' := by
  rcases hleft.drawn code _ hcode with hstored | ⟨hnone, hdrawn⟩
  · have hkept := hright.kept code _ hstored
    rw [hkept] at hcode'
    cases hcode'
    rfl
  · rcases hright.drawn code _ hcode' with hstored | ⟨-, hdrawn'⟩
    · rw [hstored] at hnone
      cases hnone
    · exact hdrawn.trans hdrawn'.symm

/-- Two futures identify no two codes by one identifier. -/
theorem Grows.code_eq (hleft : Grows draw codes left) (hright : Grows draw codes right)
    (hdraw : Function.Injective draw) {code code' : String} {id : Nat} {value value' : V}
    (hcode : left.get? code = some (id, value)) (hcode' : right.get? code' = some (id, value')) :
    code = code' := by
  rcases hleft.drawn code _ hcode with hstored | ⟨-, hdrawn⟩
  · exact right.code_unique (hright.kept code _ hstored) hcode'
  · rcases hright.drawn code' _ hcode' with hstored | ⟨-, hdrawn'⟩
    · exact left.code_unique hcode (hleft.kept code' _ hstored)
    · exact hdraw (hdrawn.symm.trans hdrawn')

end Futures

end CodeTable

end Relational
