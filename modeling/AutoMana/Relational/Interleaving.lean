import AutoMana.Relational.Runs

/-!
# Interleaved threads

Threads take turns on a shared state, one at a time and in any order. What they may rely on
is an invariant of the shared state and one of each thread beside it. Both hold throughout a
run when every turn keeps the first and its own thread's, and disturbs no other thread's.
-/

namespace Relational.Interleaving

variable {S T C A : Type}

/-- How the threads of commands start, and what a turn does with an answer from outside. -/
structure System (S T C A : Type) where
  start : S → C → T
  turn : S → T → A → S × T

structure Pool (S T : Type) where
  shared : S
  threads : List T

inductive Move (C A : Type) where
  | start (command : C)
  | turn (position : Nat) (answer : A)

namespace System

variable (system : System S T C A)

def step (pool : Pool S T) : Move C A → Pool S T
  | .start command => { pool with threads := pool.threads ++ [system.start pool.shared command] }
  | .turn position answer =>
    match pool.threads[position]? with
    | none => pool
    | some thread =>
      ⟨(system.turn pool.shared thread answer).1,
        pool.threads.set position (system.turn pool.shared thread answer).2⟩

variable {system} {pool : Pool S T} {position : Nat}

theorem step_turn {thread : T} (hthread : pool.threads[position]? = some thread) (answer : A) :
    system.step pool (.turn position answer) =
      ⟨(system.turn pool.shared thread answer).1,
        pool.threads.set position (system.turn pool.shared thread answer).2⟩ := by
  simp only [step, hthread]

theorem step_turn_of_none (hthread : pool.threads[position]? = none) (answer : A) :
    system.step pool (.turn position answer) = pool := by
  simp only [step, hthread]

end System

section Threads

variable {system : System S T C A} {pool : Pool S T}

/-- A thread after a start is one that was there, or the new one. -/
theorem getElem?_start {command : C} {position : Nat} {thread : T}
    (hthread : (system.step pool (.start command)).threads[position]? = some thread) :
    pool.threads[position]? = some thread ∨ thread = system.start pool.shared command := by
  rw [System.step, List.getElem?_append] at hthread
  split_ifs at hthread
  · exact Or.inl hthread
  · rw [List.getElem?_singleton] at hthread
    split_ifs at hthread
    exact Or.inr (Option.some.inj hthread).symm

/-- A thread after a turn is the one that took it, or one that was there. -/
theorem getElem?_turn {position elsewhere : Nat} {thread other : T}
    (hthread : pool.threads[position]? = some thread) {answer : A}
    (hother : (system.step pool (.turn position answer)).threads[elsewhere]? = some other) :
    elsewhere = position ∧ other = (system.turn pool.shared thread answer).2 ∨
      elsewhere ≠ position ∧ pool.threads[elsewhere]? = some other := by
  rw [System.step_turn hthread, List.getElem?_set] at hother
  split_ifs at hother with hsame
  · exact Or.inl ⟨hsame.symm, (Option.some.inj hother).symm⟩
  · exact Or.inr ⟨fun heq => hsame heq.symm, hother⟩

end Threads

/-- An invariant of the shared state, and one of every thread beside it. -/
structure Holds (Shared : S → Prop) (Local : S → T → Prop) (pool : Pool S T) : Prop where
  shared : Shared pool.shared
  threads : ∀ thread ∈ pool.threads, Local pool.shared thread

theorem Holds.thread {Shared : S → Prop} {Local : S → T → Prop} {pool : Pool S T}
    (hpool : Holds Shared Local pool) {position : Nat} {thread : T}
    (hthread : pool.threads[position]? = some thread) : Local pool.shared thread :=
  hpool.threads thread (List.mem_of_getElem? hthread)

/-- The moves of a condition keep the invariants. -/
structure Respects (system : System S T C A) (Shared : S → Prop) (Local : S → T → Prop)
    (condition : Pool S T → Move C A → Prop) : Prop where
  start : ∀ pool command, Holds Shared Local pool → condition pool (.start command) →
    Local pool.shared (system.start pool.shared command)
  turn : ∀ pool position answer thread, Holds Shared Local pool →
    condition pool (.turn position answer) → pool.threads[position]? = some thread →
    Shared (system.turn pool.shared thread answer).1 ∧
      Local (system.turn pool.shared thread answer).1 (system.turn pool.shared thread answer).2
  others : ∀ pool position answer thread, Holds Shared Local pool →
    condition pool (.turn position answer) → pool.threads[position]? = some thread →
    ∀ elsewhere other, elsewhere ≠ position → pool.threads[elsewhere]? = some other →
      Local (system.turn pool.shared thread answer).1 other

section Rule

variable {system : System S T C A} {Shared : S → Prop} {Local : S → T → Prop}
  {condition : Pool S T → Move C A → Prop}

theorem Respects.step (hrespects : Respects system Shared Local condition) {pool : Pool S T}
    (hpool : Holds Shared Local pool) {move : Move C A} (hmove : condition pool move) :
    Holds Shared Local (system.step pool move) := by
  cases move with
  | start command =>
    refine ⟨hpool.shared, fun thread hthread => ?_⟩
    rcases List.mem_append.mp hthread with hold | hnew
    · exact hpool.threads thread hold
    · rw [List.mem_singleton.mp hnew]
      exact hrespects.start pool command hpool hmove
  | turn position answer =>
    cases hthread : pool.threads[position]? with
    | none => rwa [System.step_turn_of_none hthread]
    | some thread =>
      rw [System.step_turn hthread]
      obtain ⟨hshared, hown⟩ := hrespects.turn pool position answer thread hpool hmove hthread
      refine ⟨hshared, fun other hother => ?_⟩
      rw [← System.step_turn hthread] at hother
      obtain ⟨elsewhere, helsewhere⟩ := List.mem_iff_getElem?.mp hother
      rcases getElem?_turn hthread helsewhere with ⟨-, rfl⟩ | ⟨hne, hold⟩
      · exact hown
      · exact hrespects.others pool position answer thread hpool hmove hthread elsewhere other hne
          hold

/-- The invariants hold in every state of a run whose moves meet the condition. -/
theorem Respects.visited (hrespects : Respects system Shared Local condition) {pool : Pool S T}
    (hpool : Holds Shared Local pool) {moves : List (Move C A)}
    (hmoves : Run.StepsMeet system.step condition pool moves) :
    ∀ next ∈ Run.visited system.step pool moves, Holds Shared Local next :=
  Run.forall_visited (fun _ _ hinv hmeet => hrespects.step hinv hmeet) hpool hmoves

end Rule

end Relational.Interleaving
