import AutoMana.Relational.Interleaving

/-!
# A lock among threads

What one thread at a time may do stays so when a thread begins only while no other does it. A
lock of the shared state is a way to see to that: a thread takes it only when it is free, and
nobody but its holder frees it. So what the holder alone may change is safe from the turns of
the others.
-/

namespace Relational.Interleaving

variable {S T C A : Type}

/-! ## One thread at a time -/

/-- One thread holds at most. -/
def Exclusive (holds : T → Prop) (pool : Pool S T) : Prop :=
  ∀ (position other : Nat) (thread next : T), pool.threads[position]? = some thread →
    pool.threads[other]? = some next → holds thread → holds next → position = other

section Exclusion

variable {system : System S T C A} {holds : T → Prop} {pool : Pool S T}

/-- Beside the one that holds, no thread does. -/
theorem Exclusive.others (hexclusive : Exclusive holds pool) {position elsewhere : Nat}
    {thread other : T} (hthread : pool.threads[position]? = some thread) (hholds : holds thread)
    (helsewhere : elsewhere ≠ position) (hother : pool.threads[elsewhere]? = some other) :
    ¬ holds other :=
  fun hsame => helsewhere (hexclusive _ _ _ _ hother hthread hsame hholds)

theorem Exclusive.start (hexclusive : Exclusive holds pool) {command : C}
    (hstart : ¬ holds (system.start pool.shared command)) :
    Exclusive holds (system.step pool (.start command)) := by
  intro position other thread next hthread hnext hholds hnextHolds
  rcases getElem?_start hthread with hold | rfl
  · rcases getElem?_start hnext with hother | rfl
    · exact hexclusive _ _ _ _ hold hother hholds hnextHolds
    · exact absurd hnextHolds hstart
  · exact absurd hholds hstart

/-- A thread that begins to hold does so while no other holds. -/
theorem Exclusive.turn (hexclusive : Exclusive holds pool) {position : Nat} {thread : T}
    (hthread : pool.threads[position]? = some thread) {answer : A}
    (htakes : ¬ holds thread → holds (system.turn pool.shared thread answer).2 →
      ∀ (elsewhere : Nat) (other : T), pool.threads[elsewhere]? = some other → ¬ holds other) :
    Exclusive holds (system.step pool (.turn position answer)) := by
  -- what the others do while the thread holds
  have hothers : ∀ {elsewhere : Nat} {other : T},
      holds (system.turn pool.shared thread answer).2 → elsewhere ≠ position →
      pool.threads[elsewhere]? = some other → ¬ holds other := by
    intro elsewhere other hnext helsewhere hother
    by_cases hholds : holds thread
    · exact hexclusive.others hthread hholds helsewhere hother
    · exact htakes hholds hnext elsewhere other hother
  intro first second one two hone htwo honeHolds htwoHolds
  rcases getElem?_turn hthread hone with ⟨rfl, rfl⟩ | ⟨hne, hold⟩
  · rcases getElem?_turn hthread htwo with ⟨rfl, -⟩ | ⟨hne, hother⟩
    · rfl
    · exact absurd htwoHolds (hothers honeHolds hne hother)
  · rcases getElem?_turn hthread htwo with ⟨rfl, rfl⟩ | ⟨-, hother⟩
    · exact absurd honeHolds (hothers htwoHolds hne hold)
    · exact hexclusive _ _ _ _ hold hother honeHolds htwoHolds

end Exclusion

/-! ## A lock -/

/-- How the turns of a system take and free a lock. -/
structure Locks (system : System S T C A) (free : S → Prop) (holds : T → Prop) : Prop where
  start : ∀ shared command, ¬ holds (system.start shared command)
  /-- The turn of another thread leaves the lock, or takes it when it is free. -/
  other : ∀ shared thread answer, ¬ holds thread →
    (free (system.turn shared thread answer).1 ↔
        free shared ∧ ¬ holds (system.turn shared thread answer).2) ∧
      (holds (system.turn shared thread answer).2 → free shared)
  /-- The holder keeps the lock, or frees it. -/
  holder : ∀ shared thread answer, holds thread → ¬ free shared →
    (free (system.turn shared thread answer).1 ↔
      ¬ holds (system.turn shared thread answer).2)

/-- The lock is free when no thread holds it, and one thread holds it at most. -/
structure Locked (free : S → Prop) (holds : T → Prop) (pool : Pool S T) : Prop where
  free_iff : free pool.shared ↔
    ∀ (position : Nat) (thread : T), pool.threads[position]? = some thread → ¬ holds thread
  exclusive : Exclusive holds pool

section Rule

variable {system : System S T C A} {free : S → Prop} {holds : T → Prop} {pool : Pool S T}

/-- While a thread holds the lock, it is not free. -/
theorem Locked.not_free (hlocked : Locked free holds pool) {position : Nat} {thread : T}
    (hthread : pool.threads[position]? = some thread) (hholds : holds thread) :
    ¬ free pool.shared :=
  fun hfree => hlocked.free_iff.mp hfree position thread hthread hholds

theorem Locked.start (hlocks : Locks system free holds) (hlocked : Locked free holds pool)
    (command : C) : Locked free holds (system.step pool (.start command)) := by
  refine ⟨?_, hlocked.exclusive.start (hlocks.start _ _)⟩
  rw [show (system.step pool (.start command)).shared = pool.shared from rfl, hlocked.free_iff]
  constructor
  · intro hnone position thread hthread
    rcases getElem?_start hthread with hold | rfl
    · exact hnone position thread hold
    · exact hlocks.start _ _
  · intro hnone position thread hthread
    refine hnone position thread ?_
    have hposition := (List.getElem?_eq_some_iff.mp hthread).1
    exact (List.getElem?_append_left hposition).trans hthread

theorem Locked.turn (hlocks : Locks system free holds) (hlocked : Locked free holds pool)
    {position : Nat} {thread : T} (hthread : pool.threads[position]? = some thread) (answer : A) :
    Locked free holds (system.step pool (.turn position answer)) := by
  have hfree : (system.step pool (.turn position answer)).shared =
      (system.turn pool.shared thread answer).1 := by
    rw [System.step_turn hthread]
  have hown : (system.step pool (.turn position answer)).threads[position]? =
      some (system.turn pool.shared thread answer).2 := by
    rw [System.step_turn hthread]
    exact List.getElem?_set_self (List.getElem?_eq_some_iff.mp hthread).1
  by_cases hholds : holds thread
  · refine ⟨?_, hlocked.exclusive.turn hthread fun hnot => absurd hholds hnot⟩
    rw [hfree, hlocks.holder pool.shared thread answer hholds (hlocked.not_free hthread hholds)]
    constructor
    · intro hends elsewhere other hother
      rcases getElem?_turn hthread hother with ⟨-, rfl⟩ | ⟨hne, hold⟩
      · exact hends
      · exact hlocked.exclusive.others hthread hholds hne hold
    · intro hnone
      exact hnone position _ hown
  · obtain ⟨hkept, htakes⟩ := hlocks.other pool.shared thread answer hholds
    refine ⟨?_, hlocked.exclusive.turn hthread fun _ hnext =>
      hlocked.free_iff.mp (htakes hnext)⟩
    rw [hfree, hkept, hlocked.free_iff]
    constructor
    · intro ⟨hnone, hends⟩ elsewhere other hother
      rcases getElem?_turn hthread hother with ⟨-, rfl⟩ | ⟨-, hold⟩
      · exact hends
      · exact hnone elsewhere other hold
    · intro hnone
      refine ⟨fun elsewhere other hother => ?_, hnone position _ hown⟩
      by_cases hsame : elsewhere = position
      · subst hsame
        rwa [Option.some.inj (hother.symm.trans hthread)]
      · refine hnone elsewhere other ?_
        rw [System.step_turn hthread, List.getElem?_set_ne (Ne.symm hsame), hother]

theorem Locked.step (hlocks : Locks system free holds) (hlocked : Locked free holds pool)
    (move : Move C A) : Locked free holds (system.step pool move) := by
  cases move with
  | start command => exact hlocked.start hlocks command
  | turn position answer =>
    cases hthread : pool.threads[position]? with
    | none => rwa [System.step_turn_of_none hthread]
    | some thread => exact hlocked.turn hlocks hthread answer

/-- When no thread holds the lock it is free. -/
theorem Locked.free_of_forall (hlocked : Locked free holds pool)
    (hended : ∀ thread ∈ pool.threads, ¬ holds thread) : free pool.shared :=
  hlocked.free_iff.mpr fun _ thread hthread => hended thread (List.mem_of_getElem? hthread)

end Rule

end Relational.Interleaving
