import AutoMana.Relational.Dict
import AutoMana.Relational.Runs

/-!
# Reading through a cache

A read looks for the value under its key, and else fetches it and stores it there. What is read
does not change, so the cache shows exactly when a value that a read finds was stored by one that
would have fetched another.
-/

namespace Relational.ReadThrough

variable {R K V : Type} [DecidableEq K]

structure Plan (R K V : Type) where
  key : R → K
  /-- Whether a read gets as far as the cache. -/
  begins : R → Bool
  /-- What a read fetches; `none` when it raises. -/
  fetch : R → Option V

/-- A read without a cache. -/
def Plan.plain (plan : Plan R K V) (read : R) : Option V :=
  if plan.begins read then plan.fetch read else none

structure State (R K V : Type) where
  /-- A value, and the read that stored it. -/
  cached : Table K (R × V)
  answers : List (R × Option V)

inductive Event (R K : Type) where
  /-- A read, whether it can look into the cache, and whether it can store. -/
  | read (read : R) (looks stores : Bool)
  /-- Entries expire or are deleted. -/
  | drop (doomed : K → Bool)

def start : State R K V := ⟨.empty, []⟩

/-- The entry that a read finds. -/
def State.found (state : State R K V) (plan : Plan R K V) (read : R) (looks : Bool) :
    Option (R × V) :=
  if looks then state.cached.get? (plan.key read) else none

def State.answer (state : State R K V) (read : R) (answer : Option V) : State R K V :=
  { state with answers := state.answers ++ [(read, answer)] }

def step (plan : Plan R K V) (reload : V → V) (state : State R K V) : Event R K → State R K V
  | .drop doomed => { state with cached := state.cached.deleteWhere fun key _ => doomed key }
  | .read read looks stores =>
    if plan.begins read then
      match state.found plan read looks with
      | some entry => state.answer read (some (reload entry.2))
      | none =>
        match plan.fetch read with
        | none => state.answer read none
        | some value =>
          { state with
            cached :=
              if stores then state.cached.set (plan.key read) (read, value)
              else state.cached }.answer read (some value)
    else state.answer read none

/-! ## When the cache does not show -/

/-- Every read was answered as it would be without a cache. -/
def PlainAnswers (plan : Plan R K V) (state : State R K V) : Prop :=
  ∀ answer ∈ state.answers, answer.2 = plan.plain answer.1

/-- A read finds only what it would have fetched. -/
def Agrees (plan : Plan R K V) (state : State R K V) : Event R K → Prop
  | .drop _ => True
  | .read read looks _ => plan.begins read = true → ∀ entry,
      state.found plan read looks = some entry → plan.fetch entry.1 = plan.fetch read

/-- An entry is what the read that stored it fetched, under its key. -/
def Recorded (plan : Plan R K V) (state : State R K V) : Prop :=
  ∀ key entry, state.cached.get? key = some entry →
    plan.key entry.1 = key ∧ plan.fetch entry.1 = some entry.2

/-! ## Steps -/

/-- What is cached was cached before, or is what the read fetched. -/
theorem cached_step {plan : Plan R K V} {reload : V → V} {state : State R K V}
    {event : Event R K} {key : K} {entry : R × V}
    (hentry : (step plan reload state event).cached.get? key = some entry) :
    state.cached.get? key = some entry ∨
      ∃ looks stores, event = .read entry.1 looks stores ∧ plan.key entry.1 = key ∧
        plan.fetch entry.1 = some entry.2 := by
  cases event with
  | drop doomed =>
    rw [step, Table.get?_deleteWhere, Option.filter_eq_some_iff] at hentry
    exact Or.inl hentry.1
  | read read looks stores =>
    rw [step] at hentry
    split at hentry
    · split at hentry
      · exact Or.inl hentry
      · cases hfetch : plan.fetch read with
        | none =>
          rw [hfetch] at hentry
          exact Or.inl hentry
        | some value =>
          rw [hfetch] at hentry
          cases stores with
          | false => exact Or.inl hentry
          | true =>
            have hentry : (state.cached.set (plan.key read) (read, value)).get? key = some entry :=
              hentry
            rw [Table.get?_set] at hentry
            split_ifs at hentry with hkey
            · obtain rfl := Option.some.inj hentry
              exact Or.inr ⟨looks, true, rfl, hkey.symm, hfetch⟩
            · exact Or.inl hentry
    · exact Or.inl hentry

/-- A read is answered by what it finds, or else by what it fetches. -/
theorem answers_step_read (plan : Plan R K V) (reload : V → V) (state : State R K V) (read : R)
    (looks stores : Bool) :
    (step plan reload state (.read read looks stores)).answers = state.answers ++ [(read,
      if plan.begins read then
        (state.found plan read looks).elim (plan.fetch read) fun entry => some (reload entry.2)
      else none)] := by
  rw [step]
  split
  · cases state.found plan read looks with
    | some entry => rfl
    | none => cases plan.fetch read <;> rfl
  · rfl

theorem recorded_start (plan : Plan R K V) : Recorded plan start := by
  intro key entry hentry
  cases hentry

theorem recorded_step {plan : Plan R K V} (reload : V → V) {state : State R K V}
    (hrecorded : Recorded plan state) (event : Event R K) :
    Recorded plan (step plan reload state event) := by
  intro key entry hentry
  rcases cached_step hentry with hold | ⟨-, -, -, hkey, hfetch⟩
  · exact hrecorded key entry hold
  · exact ⟨hkey, hfetch⟩

theorem Recorded.found {plan : Plan R K V} {state : State R K V} (hrecorded : Recorded plan state)
    {read : R} {looks : Bool} {entry : R × V} (hfound : state.found plan read looks = some entry) :
    plan.key entry.1 = plan.key read ∧ plan.fetch entry.1 = some entry.2 := by
  cases looks with
  | false => cases hfound
  | true => exact hrecorded _ _ hfound

/-- A step answers as without a cache exactly when its read finds what it would have fetched. -/
theorem plainAnswers_step_iff {plan : Plan R K V} {reload : V → V}
    (hreload : ∀ value, reload value = value) {state : State R K V}
    (hrecorded : Recorded plan state) (hplain : PlainAnswers plan state) (event : Event R K) :
    PlainAnswers plan (step plan reload state event) ↔ Agrees plan state event := by
  cases event with
  | drop doomed => exact iff_of_true hplain trivial
  | read read looks stores =>
    rw [PlainAnswers, answers_step_read, List.forall_mem_append, List.forall_mem_singleton,
      Agrees, Plan.plain]
    simp only [hreload]
    cases plan.begins read with
    | false => exact iff_of_true ⟨hplain, rfl⟩ (fun hbegins => by cases hbegins)
    | true =>
      cases hfound : state.found plan read looks with
      | none => exact iff_of_true ⟨hplain, rfl⟩ (fun _ _ hentry => by cases hentry)
      | some entry =>
        obtain ⟨-, hfetch⟩ := hrecorded.found hfound
        constructor
        · rintro ⟨-, hanswer⟩ - other hother
          obtain rfl := Option.some.inj hother
          exact hfetch.trans hanswer
        · intro hagrees
          exact ⟨hplain, hfetch.symm.trans (hagrees rfl entry rfl)⟩

/-- All reads of a run are answered as without a cache exactly when each finds only what it would
have fetched. -/
theorem plainAnswers_iff {plan : Plan R K V} {reload : V → V}
    (hreload : ∀ value, reload value = value) (events : List (Event R K)) :
    (∀ state ∈ Run.visited (step plan reload) start events, PlainAnswers plan state) ↔
      Run.StepsMeet (step plan reload) (Agrees plan) start events := by
  have hstart : PlainAnswers plan start := fun answer hanswer => by cases hanswer
  have hproperty : ∀ state, Recorded plan state ∧ PlainAnswers plan state →
      PlainAnswers plan state := fun _ => And.right
  refine Run.forall_visited_iff_of_inv hproperty ?_ ?_ ⟨recorded_start plan, hstart⟩
  · rintro state event ⟨hrecorded, hplain⟩ hagrees
    exact ⟨recorded_step reload hrecorded event,
      (plainAnswers_step_iff hreload hrecorded hplain event).mpr hagrees⟩
  · rintro state event ⟨hrecorded, hplain⟩ hnext
    exact (plainAnswers_step_iff hreload hrecorded hplain event).mp hnext

/-- The reads of a run agree when what is fetched depends on the key alone among them. -/
theorem agrees_of_keyed {plan : Plan R K V} (reload : V → V) {Keyed : R → Prop}
    (hkeyed : ∀ one two, Keyed one → Keyed two → plan.key one = plan.key two →
      plan.fetch one = plan.fetch two) {events : List (Event R K)}
    (hevents : ∀ read looks stores, .read read looks stores ∈ events → Keyed read)
    {state : State R K V} (hrecorded : Recorded plan state)
    (hcached : ∀ key entry, state.cached.get? key = some entry → Keyed entry.1) :
    Run.StepsMeet (step plan reload) (Agrees plan) state events := by
  induction events generalizing state with
  | nil => trivial
  | cons event rest ih =>
    refine ⟨?_, ih (fun read looks stores hread => hevents read looks stores
      (List.mem_cons_of_mem _ hread)) (recorded_step reload hrecorded event) ?_⟩
    · cases event with
      | drop doomed => trivial
      | read read looks stores =>
        intro _ entry hfound
        cases looks with
        | false => cases hfound
        | true =>
          exact hkeyed _ _ (hcached _ _ hfound) (hevents _ _ _ List.mem_cons_self)
            (hrecorded.found hfound).1
    · intro key entry hentry
      rcases cached_step hentry with hold | ⟨looks, stores, rfl, -, -⟩
      · exact hcached key entry hold
      · exact hevents _ _ _ List.mem_cons_self

end Relational.ReadThrough
