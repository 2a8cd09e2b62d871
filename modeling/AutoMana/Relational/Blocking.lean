import Mathlib.Data.Nat.Init
import Mathlib.Data.Option.Basic

/-!
# Threads that block

A turn of a blocked thread does not happen. A run is a list of turns that all happen, so what every
turn keeps holds wherever a run leads, and when every turn lowers a measure the run ends.
-/

namespace Relational.Blocking

variable {S T : Type} {step : S → T → Option S} {Inv : S → Prop} {measure : S → Nat}

/-- The state that a run leads to, when none of its turns is blocked. -/
def run (step : S → T → Option S) : S → List T → Option S
  | state, [] => some state
  | state, thread :: rest => (step state thread).bind fun next => run step next rest

/-- Every thread is blocked. -/
def Stuck (step : S → T → Option S) (state : S) : Prop := ∀ thread, step state thread = none

theorem run_cons {state final : S} {thread : T} {rest : List T}
    (hrun : run step state (thread :: rest) = some final) :
    ∃ next, step state thread = some next ∧ run step next rest = some final :=
  Option.bind_eq_some_iff.mp hrun

/-- What every turn keeps holds at the end of a run. -/
theorem run_inv (hstep : ∀ {state thread next}, Inv state → step state thread = some next →
    Inv next) {state final : S} {turns : List T} (hinit : Inv state)
    (hrun : run step state turns = some final) : Inv final := by
  induction turns generalizing state with
  | nil => exact Option.some.inj hrun ▸ hinit
  | cons thread rest ih =>
    obtain ⟨next, hnext, hrest⟩ := run_cons hrun
    exact ih (hstep hinit hnext) hrest

/-- A run has no more turns than the measure it starts with. -/
theorem run_length_le (hless : ∀ {state thread next}, step state thread = some next →
    measure next < measure state) {state final : S} {turns : List T}
    (hrun : run step state turns = some final) :
    turns.length + measure final ≤ measure state := by
  induction turns generalizing state with
  | nil => exact Option.some.inj hrun ▸ Nat.le_of_eq (Nat.zero_add _)
  | cons thread rest ih =>
    obtain ⟨next, hnext, hrest⟩ := run_cons hrun
    have hmore := ih hrest
    have hlower := hless hnext
    rw [List.length_cons]
    omega

end Relational.Blocking
