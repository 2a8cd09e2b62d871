import Mathlib.Data.List.Basic

/-!
# Runs of a step function

A run is a list of actions applied in order. Its safety statements are about
the states it visits, not only about the one it ends in. When a condition on an
action and the state before it decides whether the action keeps an invariant,
the runs that stay in the invariant are exactly those whose steps all meet the
condition.
-/

namespace Relational.Run

variable {S A C : Type}

/-- Every state of a run, the initial one first. -/
def visited (step : S → A → S) : S → List A → List S
  | state, [] => [state]
  | state, action :: rest => state :: visited step (step state action) rest

/-- Every step of a run meets a condition on the state before it. -/
def StepsMeet (step : S → A → S) (condition : S → A → Prop) : S → List A → Prop
  | _, [] => True
  | state, action :: rest =>
      condition state action ∧ StepsMeet step condition (step state action) rest

/-- Some step of a run meets a condition on the state before it. -/
def SomeStepMeets (step : S → A → S) (condition : S → A → Prop) : S → List A → Prop
  | _, [] => False
  | state, action :: rest =>
      condition state action ∨ SomeStepMeets step condition (step state action) rest

instance decidableStepsMeet (step : S → A → S) (condition : S → A → Prop)
    [∀ state action, Decidable (condition state action)] :
    ∀ state run, Decidable (StepsMeet step condition state run)
  | _, [] => isTrue trivial
  | state, action :: rest =>
    have := decidableStepsMeet step condition (step state action) rest
    inferInstanceAs (Decidable (_ ∧ _))

theorem StepsMeet.imp {step : S → A → S} {first second : S → A → Prop}
    (himp : ∀ state action, first state action → second state action) {state : S} {run : List A}
    (hfirst : StepsMeet step first state run) : StepsMeet step second state run := by
  induction run generalizing state with
  | nil => trivial
  | cons action rest ih => exact ⟨himp _ _ hfirst.1, ih hfirst.2⟩

theorem StepsMeet.and {step : S → A → S} {first second : S → A → Prop} {state : S} {run : List A}
    (hfirst : StepsMeet step first state run) (hsecond : StepsMeet step second state run) :
    StepsMeet step (fun state action => first state action ∧ second state action) state run := by
  induction run generalizing state with
  | nil => trivial
  | cons action rest ih => exact ⟨⟨hfirst.1, hsecond.1⟩, ih hfirst.2 hsecond.2⟩

theorem stepsMeet_append {step : S → A → S} {condition : S → A → Prop} {state : S}
    {first second : List A} :
    StepsMeet step condition state (first ++ second) ↔
      StepsMeet step condition state first ∧
        StepsMeet step condition (first.foldl step state) second := by
  induction first generalizing state with
  | nil => simp [StepsMeet]
  | cons action rest ih =>
      simp only [List.cons_append, StepsMeet, ih, List.foldl_cons, and_assoc]

/-- A condition on a view of the state that each step changes by itself. -/
theorem stepsMeet_view {T : Type} {step : S → A → S} {after : T → A → T} {view : S → T}
    {condition : T → A → Prop} (hview : ∀ state action, view (step state action) =
      after (view state) action) {state : S} {run : List A} :
    StepsMeet step (fun state action => condition (view state) action) state run ↔
      StepsMeet after condition (view state) run := by
  induction run generalizing state with
  | nil => exact Iff.rfl
  | cons action rest ih => rw [StepsMeet, StepsMeet, ih, hview]

/-- Conditions that agree wherever an invariant holds, which the second one keeps. -/
theorem stepsMeet_congr {step : S → A → S} {first second : S → A → Prop} {Inv : S → Prop}
    (hagree : ∀ state action, Inv state → (first state action ↔ second state action))
    (hkeep : ∀ state action, Inv state → second state action → Inv (step state action))
    {state : S} {run : List A} (hinit : Inv state) :
    StepsMeet step first state run ↔ StepsMeet step second state run := by
  induction run generalizing state with
  | nil => exact Iff.rfl
  | cons action rest ih =>
      rw [StepsMeet, StepsMeet, hagree state action hinit]
      exact and_congr_right fun hsecond => ih (hkeep state action hinit hsecond)

/-- The actions of a sequence of calls, each planned from the state it starts in. -/
def plan (step : S → A → S) (actions : S → C → List A) : S → List C → List A
  | _, [] => []
  | state, call :: rest =>
      actions state call ++ plan step actions ((actions state call).foldl step state) rest

theorem mem_visited_self (step : S → A → S) (state : S) (run : List A) :
    state ∈ visited step state run := by
  cases run <;> simp [visited]

theorem foldl_mem_visited (step : S → A → S) (state : S) (run : List A) :
    run.foldl step state ∈ visited step state run := by
  induction run generalizing state with
  | nil => exact List.mem_singleton.mpr rfl
  | cons action rest ih => exact List.mem_cons_of_mem state (ih _)

/-- A run visits the states of its first part and those of the rest from there. -/
theorem forall_visited_append {step : S → A → S} {Inv : S → Prop} (state : S)
    (first second : List A) :
    (∀ next ∈ visited step state (first ++ second), Inv next) ↔
      (∀ next ∈ visited step state first, Inv next) ∧
        ∀ next ∈ visited step (first.foldl step state) second, Inv next := by
  induction first generalizing state with
  | nil =>
      have hself := mem_visited_self step state second
      simp only [List.nil_append, visited, List.mem_singleton, forall_eq, List.foldl_nil]
      exact ⟨fun hall => ⟨hall state hself, hall⟩, And.right⟩
  | cons action rest ih =>
      simp only [List.cons_append, visited, List.mem_cons, forall_eq_or_imp, List.foldl_cons, ih,
        and_assoc]

/-- What no step can establish holds in every state of a run that ends with it. -/
theorem forall_visited_of_final {step : S → A → S} {Premise : S → Prop}
    (hback : ∀ state action, Premise (step state action) → Premise state)
    {state : S} {run : List A} (hfinal : Premise (run.foldl step state)) :
    ∀ next ∈ visited step state run, Premise next := by
  induction run generalizing state with
  | nil => simpa [visited] using hfinal
  | cons action rest ih =>
      have hrest := ih hfinal
      simp only [visited, List.mem_cons, forall_eq_or_imp]
      exact ⟨hback _ _ (hrest _ (mem_visited_self step _ rest)), hrest⟩

/-- When the condition is exact at every step into a state with the premise, a
run through such states stays in the invariant exactly when all its steps meet
the condition. -/
theorem forall_visited_iff_of_premise {step : S → A → S} {condition : S → A → Prop}
    {Inv Premise : S → Prop}
    (hexact : ∀ state action, Inv state → Premise (step state action) →
      (Inv (step state action) ↔ condition state action))
    {state : S} {run : List A} (hinit : Inv state)
    (hpremise : ∀ next ∈ visited step state run, Premise next) :
    (∀ next ∈ visited step state run, Inv next) ↔ StepsMeet step condition state run := by
  induction run generalizing state with
  | nil => simpa [visited, StepsMeet] using hinit
  | cons action rest ih =>
      simp only [visited, List.mem_cons, forall_eq_or_imp, StepsMeet] at hpremise ⊢
      have hself := mem_visited_self step (step state action) rest
      -- the step leads into a visited state, so the condition is exact there
      have hstep := hexact state action hinit (hpremise.2 _ hself)
      constructor
      · intro hall
        have hnext := hall.2 _ hself
        exact ⟨hstep.mp hnext, (ih hnext hpremise.2).mp hall.2⟩
      · intro hmeet
        have hnext := hstep.mpr hmeet.1
        exact ⟨hinit, (ih hnext hpremise.2).mpr hmeet.2⟩

theorem forall_visited_iff {step : S → A → S} {condition : S → A → Prop} {Inv : S → Prop}
    (hexact : ∀ state action, Inv state → (Inv (step state action) ↔ condition state action))
    {state : S} {run : List A} (hinit : Inv state) :
    (∀ next ∈ visited step state run, Inv next) ↔ StepsMeet step condition state run :=
  @forall_visited_iff_of_premise S A step condition Inv (fun _ => True)
    (fun state action hinv _ => hexact state action hinv) state run hinit fun _ _ => trivial

/-- What only the steps of a condition establish holds after a run that started with it or
has such a step. -/
theorem foldl_iff_someStepMeets {step : S → A → S} {condition : S → A → Prop} {P : S → Prop}
    (hstep : ∀ state action, P (step state action) ↔ P state ∨ condition state action)
    (state : S) (run : List A) :
    P (run.foldl step state) ↔ P state ∨ SomeStepMeets step condition state run := by
  induction run generalizing state with
  | nil => simp only [List.foldl_nil, SomeStepMeets, or_false]
  | cons action rest ih => rw [List.foldl_cons, ih, hstep, or_assoc, SomeStepMeets]

/-- What every step that meets the condition keeps holds in every state of a run whose
steps all meet it. -/
theorem forall_visited {step : S → A → S} {condition : S → A → Prop} {Inv : S → Prop}
    (hstep : ∀ state action, Inv state → condition state action → Inv (step state action))
    {state : S} {run : List A} (hinit : Inv state) (hmeet : StepsMeet step condition state run) :
    ∀ next ∈ visited step state run, Inv next := by
  induction run generalizing state with
  | nil => simpa [visited] using hinit
  | cons action rest ih =>
      simp only [visited, List.mem_cons, forall_eq_or_imp]
      exact ⟨hinit, ih (hstep state action hinit hmeet.1) hmeet.2⟩

/-- What every step keeps holds in every state of a run. -/
theorem forall_visited_of_step {step : S → A → S} {Inv : S → Prop}
    (hstep : ∀ state action, Inv state → Inv (step state action)) {state : S} (run : List A)
    (hinit : Inv state) : ∀ next ∈ visited step state run, Inv next := by
  induction run generalizing state with
  | nil => simpa [visited] using hinit
  | cons action rest ih =>
      simp only [visited, List.mem_cons, forall_eq_or_imp]
      exact ⟨hinit, ih (hstep state action hinit)⟩

/-- What every step that meets the condition keeps holds at the end of the run. -/
theorem foldl_of_stepsMeet {step : S → A → S} {condition : S → A → Prop} {Inv : S → Prop}
    (hstep : ∀ state action, Inv state → condition state action → Inv (step state action))
    {state : S} {run : List A} (hinit : Inv state) (hmeet : StepsMeet step condition state run) :
    Inv (run.foldl step state) :=
  forall_visited hstep hinit hmeet _ (foldl_mem_visited step state run)

/-- A run whose steps all meet the condition ends well, and any other ends in the states that
the first step to miss it leads to, which no step leaves. -/
theorem final_of_decided {step : S → A → S} {condition : S → A → Prop} {Good Lost : S → Prop}
    (hgood : ∀ state action, Good state → condition state action → Good (step state action))
    (hlose : ∀ state action, Good state → ¬ condition state action → Lost (step state action))
    (hlost : ∀ state action, Lost state → Lost (step state action))
    {state : S} (run : List A) (hinit : Good state) :
    StepsMeet step condition state run ∧ Good (run.foldl step state) ∨
      ¬ StepsMeet step condition state run ∧ Lost (run.foldl step state) := by
  induction run generalizing state with
  | nil => exact Or.inl ⟨trivial, hinit⟩
  | cons action rest ih =>
      by_cases hmeet : condition state action
      · rcases ih (hgood state action hinit hmeet) with ⟨hrest, hfinal⟩ | ⟨hrest, hfinal⟩
        · exact Or.inl ⟨⟨hmeet, hrest⟩, hfinal⟩
        · exact Or.inr ⟨fun hall => hrest hall.2, hfinal⟩
      · have hfinal : Lost (rest.foldl step (step state action)) :=
          List.foldlRecOn rest step (hlose state action hinit hmeet)
            fun next hnext other _ => hlost next other hnext
        exact Or.inr ⟨fun hall => hmeet hall.1, hfinal⟩

/-- A property that follows from an invariant holds throughout a run exactly when
the steps meet a condition that keeps the invariant and that every step into the
property meets. -/
theorem forall_visited_iff_of_inv {step : S → A → S} {condition : S → A → Prop}
    {Inv Property : S → Prop} (hproperty : ∀ state, Inv state → Property state)
    (hkeep : ∀ state action, Inv state → condition state action → Inv (step state action))
    (hexact : ∀ state action, Inv state → Property (step state action) → condition state action)
    {state : S} {run : List A} (hinit : Inv state) :
    (∀ next ∈ visited step state run, Property next) ↔ StepsMeet step condition state run := by
  induction run generalizing state with
  | nil => simpa [visited, StepsMeet] using hproperty state hinit
  | cons action rest ih =>
      simp only [visited, List.mem_cons, forall_eq_or_imp, StepsMeet]
      constructor
      · intro hall
        have hmeet := hexact state action hinit (hall.2 _ (mem_visited_self step _ rest))
        exact ⟨hmeet, (ih (hkeep state action hinit hmeet)).mp hall.2⟩
      · intro hmeet
        exact ⟨hproperty state hinit, (ih (hkeep state action hinit hmeet.1)).mpr hmeet.2⟩

/-- A run stays related to the same run without some of its actions, when each action that is
kept leaves the two related, and each that is dropped leaves the first related to what the
second already was. -/
theorem related_filter {step : S → A → S} {condition : S → A → Prop} {Related : S → S → Prop}
    {keep : A → Bool}
    (hkept : ∀ state other action, keep action = true → Related state other →
      condition state action → Related (step state action) (step other action))
    (hdropped : ∀ state other action, keep action = false → Related state other →
      condition state action → Related (step state action) other)
    {state other : S} {run : List A} (hinit : Related state other)
    (hmeet : StepsMeet step condition state run) :
    Related (run.foldl step state) ((run.filter keep).foldl step other) := by
  induction run generalizing state other with
  | nil => exact hinit
  | cons action rest ih =>
      cases hkeep : keep action with
      | true =>
          rw [List.filter_cons_of_pos hkeep]
          exact ih (hkept _ _ _ hkeep hinit hmeet.1) hmeet.2
      | false =>
          rw [List.filter_cons_of_neg (by simp [hkeep])]
          exact ih (hdropped _ _ _ hkeep hinit hmeet.1) hmeet.2

/-- Running the planned actions is running the calls one after the other. -/
theorem foldl_plan (step : S → A → S) (actions : S → C → List A) (state : S) (calls : List C) :
    (plan step actions state calls).foldl step state =
      calls.foldl (fun state call => (actions state call).foldl step state) state := by
  induction calls generalizing state with
  | nil => rfl
  | cons call rest ih => rw [plan, List.foldl_append, ih, List.foldl_cons]

/-- A view of the state that each call changes by itself follows the whole run. -/
theorem project_foldl_plan {T : Type} {step : S → A → S} {actions : S → C → List A}
    {project : S → T} {after : T → C → T}
    (hcall : ∀ state call,
      project ((actions state call).foldl step state) = after (project state) call)
    (state : S) (calls : List C) :
    project ((plan step actions state calls).foldl step state) =
      calls.foldl after (project state) := by
  rw [foldl_plan]
  exact (List.foldl_hom project fun state call => (hcall state call).symm).symm

end Relational.Run
