import Mathlib.Data.List.Basic

/-!
# Settings of a database session

A setting has a value for the session and may have one for the transaction, which goes before it.
A transaction that is begun in another one is a savepoint. Rolling back brings back what was in
force when the transaction was begun. Committing keeps the session's value, and drops the
transaction's when it was the outermost one.
-/

namespace Relational

structure Setting (α : Type) where
  session : α
  transaction : Option α
  /-- The values at the start of each open transaction, the innermost first. -/
  begun : List (α × Option α)

namespace Setting

variable {α : Type}

/-- The value that is in force. -/
def current (setting : Setting α) : α := setting.transaction.getD setting.session

def initial (value : α) : Setting α := ⟨value, none, []⟩

def start (setting : Setting α) : Setting α :=
  { setting with begun := (setting.session, setting.transaction) :: setting.begun }

/-- `SET LOCAL`, which does nothing outside of a transaction. -/
def setLocal (setting : Setting α) (value : α) : Setting α :=
  match setting.begun with
  | [] => setting
  | _ :: _ => { setting with transaction := some value }

/-- `SET SESSION`, and `RESET` to the session's default. -/
def setSession (setting : Setting α) (value : α) : Setting α :=
  { setting with session := value, transaction := none }

def commit (setting : Setting α) : Setting α :=
  match setting.begun with
  | [] => setting
  | [_] => { setting with transaction := none, begun := [] }
  | _ :: outer => { setting with begun := outer }

def rollback (setting : Setting α) : Setting α :=
  match setting.begun with
  | [] => setting
  | (session, transaction) :: outer => ⟨session, transaction, outer⟩

/-- Nothing else than the value is in force, now or after the end of any open transaction. -/
structure Holds (value : α) (setting : Setting α) : Prop where
  session : setting.session = value
  transaction : setting.transaction.getD value = value
  begun : ∀ outer ∈ setting.begun, outer.1 = value ∧ outer.2.getD value = value

section Holds

variable {value : α} {setting : Setting α}

theorem holds_initial (value : α) : Holds value (initial value) where
  session := rfl
  transaction := rfl
  begun := nofun

theorem Holds.current (hholds : Holds value setting) : setting.current = value := by
  rw [Setting.current, hholds.session]
  exact hholds.transaction

theorem Holds.start (hholds : Holds value setting) : Holds value setting.start where
  session := hholds.session
  transaction := hholds.transaction
  begun := List.forall_mem_cons.mpr ⟨⟨hholds.session, hholds.transaction⟩, hholds.begun⟩

theorem Holds.commit (hholds : Holds value setting) : Holds value setting.commit := by
  rw [Setting.commit]
  split
  · exact hholds
  · exact ⟨hholds.session, rfl, nofun⟩
  · next outer hbegun =>
    have houter := hholds.begun
    rw [hbegun] at houter
    exact ⟨hholds.session, hholds.transaction, (List.forall_mem_cons.mp houter).2⟩

theorem Holds.rollback (hholds : Holds value setting) : Holds value setting.rollback := by
  rw [Setting.rollback]
  split
  · exact hholds
  · next session transaction outer hbegun =>
    have houter := hholds.begun
    rw [hbegun] at houter
    obtain ⟨⟨hsession, htransaction⟩, hrest⟩ := List.forall_mem_cons.mp houter
    exact ⟨hsession, htransaction, hrest⟩

theorem Holds.setSession (hholds : Holds value setting) :
    Holds value (setting.setSession value) where
  session := rfl
  transaction := rfl
  begun := hholds.begun

/-- Resetting brings the value back, whatever was set for the session. -/
theorem Holds.reset (hholds : Holds value setting) (other : α) :
    Holds value ((setting.setSession other).setSession value) :=
  hholds.setSession

theorem Holds.setLocal (hholds : Holds value setting) : Holds value (setting.setLocal value) := by
  rw [Setting.setLocal]
  split
  · exact hholds
  · exact ⟨hholds.session, rfl, hholds.begun⟩

end Holds

/-! ## A value for the transaction -/

/-- Rolling back undoes what was set for the transaction. -/
@[simp] theorem rollback_setLocal (setting : Setting α) (value : α) :
    (setting.start.setLocal value).rollback = setting := rfl

@[simp] theorem current_setLocal (setting : Setting α) (value : α) :
    (setting.start.setLocal value).current = value := rfl

/-- Committing the outermost transaction drops what was set for it. -/
theorem commit_setLocal_of_outermost {setting : Setting α} (houter : setting.begun = [])
    (value : α) : (setting.start.setLocal value).commit = { setting with transaction := none } := by
  cases setting
  obtain rfl := houter
  rfl

theorem Holds.commit_setLocal {value : α} {setting : Setting α} (hholds : Holds value setting)
    (houter : setting.begun = []) (other : α) :
    Holds value (setting.start.setLocal other).commit := by
  rw [commit_setLocal_of_outermost houter]
  exact ⟨hholds.session, rfl, hholds.begun⟩

/-- Committing an inner one keeps it. -/
theorem commit_setLocal_of_inner {setting : Setting α} (hinner : setting.begun ≠ []) (value : α) :
    (setting.start.setLocal value).commit = { setting with transaction := some value } := by
  obtain ⟨session, transaction, begun⟩ := setting
  cases begun with
  | nil => exact absurd rfl hinner
  | cons outer rest => rfl

/-- A rollback after the commit ends the next outer transaction, if there is one. -/
theorem Holds.rollback_commit_setLocal {value : α} {setting : Setting α}
    (hholds : Holds value setting) (other : α) :
    Holds value (setting.start.setLocal other).commit.rollback := by
  obtain ⟨session, transaction, begun⟩ := setting
  cases begun with
  | nil => exact (hholds.commit_setLocal rfl other).rollback
  | cons outer rest => exact hholds.rollback

end Setting

end Relational
