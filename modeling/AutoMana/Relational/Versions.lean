import AutoMana.Relational.Dict
import AutoMana.Relational.Locking

/-!
# Versions of rows that are not committed

Under READ COMMITTED a transaction keeps the versions of rows that it writes to itself until it
commits, and with each the lock of the row. It reads through them: its own version of a row, or
the committed one. While it has the lock no other transaction commits a version of the row.
-/

namespace Relational

namespace Table

variable {K V : Type} [DecidableEq K]

/-- Stores a version of a row; that of a deleted row is `none`. -/
def put (table : Table K V) (key : K) : Option V → Table K V
  | some value => table.set key value
  | none => table.deleteWhere fun stored _ => stored = key

@[simp] theorem get?_put (table : Table K V) (key : K) (version : Option V) (other : K) :
    (table.put key version).get? other = if other = key then version else table.get? other := by
  cases version with
  | some value => rw [put, get?_set]
  | none =>
    rw [put, get?_deleteWhere]
    split_ifs with hsame
    · cases table.get? other <;> simp [hsame]
    · cases table.get? other <;> simp [hsame]

/-- The versions of a transaction, the newest first, over the committed rows. -/
def install (table : Table K V) (versions : List (K × Option V)) : Table K V :=
  versions.foldr (fun version installed => installed.put version.1 version.2) table

@[simp] theorem install_nil (table : Table K V) : table.install [] = table := rfl

theorem install_cons (table : Table K V) (key : K) (version : Option V)
    (versions : List (K × Option V)) :
    table.install ((key, version) :: versions) = (table.install versions).put key version := rfl

/-- The newest version of a row is read, or the committed one. -/
theorem get?_install (table : Table K V) (versions : List (K × Option V)) (key : K) :
    (table.install versions).get? key = (versions.lookup key).getD (table.get? key) := by
  induction versions with
  | nil => rfl
  | cons version rest ih =>
    rw [install_cons, get?_put, List.lookup_cons, ih, beq_eq_decide]
    by_cases hsame : key = version.1 <;> simp [hsame]

theorem get?_install_of_notMem {versions : List (K × Option V)} {key : K}
    (hkey : key ∉ versions.map Prod.fst) (table : Table K V) :
    (table.install versions).get? key = table.get? key := by
  rw [get?_install, lookup_eq_none_of_notMem hkey, Option.getD_none]

/-- A row that is missing though no version deletes it was never committed. -/
theorem get?_eq_none_of_install {table : Table K V} {versions : List (K × Option V)} {key : K}
    (hversions : ∀ version ∈ versions, version.2.isSome)
    (hnone : (table.install versions).get? key = none) : table.get? key = none := by
  by_cases hkey : key ∈ versions.map Prod.fst
  · rw [get?_install] at hnone
    cases hversion : versions.lookup key with
    | none => rwa [hversion] at hnone
    | some version =>
      rw [hversion, Option.getD_some] at hnone
      obtain ⟨before, after, hsplit, -⟩ := List.lookup_eq_some_iff.mp hversion
      have hsome := hversions (key, version) (by rw [hsplit]; simp)
      rw [hnone] at hsome
      cases hsome
  · rwa [get?_install_of_notMem hkey] at hnone

/-- Versions that change their committed rows in one way. -/
theorem get?_install_of_changes {table : Table K V} {versions : List (K × Option V)}
    {change : V → V} (hchanges : ∀ version ∈ versions,
      ∃ row, table.get? version.1 = some row ∧ version.2 = some (change row)) (key : K) :
    (table.install versions).get? key =
      if key ∈ versions.map Prod.fst then (table.get? key).map change else table.get? key := by
  split_ifs with hkey
  · rw [get?_install]
    cases hversion : versions.lookup key with
    | none =>
      obtain ⟨version, hmem, rfl⟩ := List.mem_map.mp hkey
      rw [List.lookup_eq_none_iff] at hversion
      simpa using hversion version hmem
    | some version =>
      obtain ⟨before, after, hsplit, -⟩ := List.lookup_eq_some_iff.mp hversion
      have hmem : (key, version) ∈ versions := by
        rw [hsplit]
        exact List.mem_append_right _ List.mem_cons_self
      obtain ⟨row, hrow, hchanged⟩ := hchanges _ hmem
      rw [Option.getD_some, hrow, Option.map_some]
      exact hchanged
  · exact get?_install_of_notMem hkey table

end Table

namespace Interleaving

variable {S T C A L : Type}

/-- What is locked is held by one thread. -/
def RowsLocked (locked : S → List L) (held : T → List L) (pool : Pool S T) : Prop :=
  ∀ key, Locked (key ∉ locked ·) (key ∈ held ·) pool

theorem rowsLocked_of_empty {locked : S → List L} {held : T → List L} {shared : S}
    (hlocked : locked shared = []) : RowsLocked locked held (⟨shared, []⟩ : Pool S T) := by
  intro key
  constructor
  · simp [hlocked]
  · intro position other thread next hthread
    simp at hthread

/-- What a thread holds no other holds. -/
theorem RowsLocked.notMem {locked : S → List L} {held : T → List L} {pool : Pool S T}
    (hrows : RowsLocked locked held pool) {position elsewhere : Nat} {thread other : T}
    (hthread : pool.threads[position]? = some thread)
    (hother : pool.threads[elsewhere]? = some other) (hne : elsewhere ≠ position) {key : L}
    (hkey : key ∈ held other) : key ∉ held thread :=
  fun hsame => (hrows key).exclusive.others hthread hsame hne hother hkey

variable [DecidableEq L]

/-- A thread takes locks that are free or its own, or it frees all that it holds. -/
structure RowLocks (system : System S T C A) (locked : S → List L) (held : T → List L) : Prop where
  start : ∀ shared command, held (system.start shared command) = []
  turn : ∀ shared thread answer,
    (∃ taken, (∀ key ∈ taken, key ∈ held thread ∨ key ∉ locked shared) ∧
        locked (system.turn shared thread answer).1 = taken ++ locked shared ∧
        ∀ key, key ∈ held (system.turn shared thread answer).2 ↔
          key ∈ taken ∨ key ∈ held thread) ∨
      locked (system.turn shared thread answer).1 =
          (locked shared).filter (· ∉ held thread) ∧
        held (system.turn shared thread answer).2 = []

section Rule

variable {system : System S T C A} {locked : S → List L} {held : T → List L}

/-- Every row has a lock of its own. -/
theorem RowLocks.locks (hlocks : RowLocks system locked held) (key : L) :
    Locks system (key ∉ locked ·) (key ∈ held ·) where
  start shared command := by
    rw [hlocks.start]
    exact List.not_mem_nil
  other shared thread answer hnot := by
    rcases hlocks.turn shared thread answer with ⟨taken, hfree, hlocked, hheld⟩ | ⟨hlocked, hheld⟩
    · simp only [hlocked, hheld, List.mem_append, not_or, hnot, or_false]
      refine ⟨and_comm, fun htaken => ?_⟩
      exact (hfree key htaken).resolve_left hnot
    · simp [hlocked, hheld, hnot]
  holder shared thread answer hholds hlockedKey := by
    rw [not_not] at hlockedKey
    rcases hlocks.turn shared thread answer with ⟨taken, -, hlocked, hheld⟩ | ⟨hlocked, hheld⟩
    · simp [hlocked, hheld, hholds, hlockedKey]
    · simp [hlocked, hheld, hholds]

theorem RowLocks.step (hlocks : RowLocks system locked held) {pool : Pool S T}
    (hrows : RowsLocked locked held pool) (move : Move C A) :
    RowsLocked locked held (system.step pool move) :=
  fun key => (hrows key).step (hlocks.locks key) move

end Rule

end Interleaving

end Relational
