import AutoMana.Relational.Runs

/-!
# What a client is told

Every step answers the client that takes it. Two states that look the same to the client go on
answering alike while each step meets a condition under which it does not tell them apart. When
part of the state is hidden and no step changes it, the condition is exact if a step that misses
it can be answered in another way.
-/

namespace Relational.Views

variable {S A O D : Type}

/-- The answers of a run, the first one first. -/
def answers (step : S → A → S × O) : S → List A → List O
  | _, [] => []
  | state, action :: rest => (step state action).2 :: answers step (step state action).1 rest

/-- A step that meets the condition in two states that look the same is answered alike, and they
look the same after it. -/
structure Unwinds (step : S → A → S × O) (Same : S → S → Prop) (condition : S → A → Prop) :
    Prop where
  answer : ∀ state other action, Same state other → condition state action →
    condition other action → (step state action).2 = (step other action).2
  state : ∀ state other action, Same state other → condition state action →
    condition other action → Same (step state action).1 (step other action).1

variable {step : S → A → S × O} {Same : S → S → Prop} {condition : S → A → Prop}

theorem Unwinds.answers_eq (hunwinds : Unwinds step Same condition) {state other : S}
    (hsame : Same state other) {run : List A}
    (hmeet : Run.StepsMeet (fun state action => (step state action).1) condition state run)
    (hother : Run.StepsMeet (fun state action => (step state action).1) condition other run) :
    answers step state run = answers step other run := by
  induction run generalizing state other with
  | nil => rfl
  | cons action rest ih =>
    have hanswer := hunwinds.answer state other action hsame hmeet.1 hother.1
    have hnext := hunwinds.state state other action hsame hmeet.1 hother.1
    rw [answers, answers, hanswer, ih hnext hmeet.2 hother.2]

/-- A run of which a step misses the condition is answered in another way beside a hidden part
that looks the same. -/
theorem Unwinds.exists_hidden (hunwinds : Unwinds step Same condition) {hidden : S → D}
    {Agree : D → D → Prop}
    (hcongr : ∀ state other action, Same state other → condition state action →
      condition other action)
    (hkept : ∀ state action, hidden (step state action).1 = hidden state)
    (htells : ∀ state action, ¬ condition state action → ∃ other, Agree (hidden state) other ∧
      ∀ beside, Same state beside → hidden beside = other →
        (step beside action).2 ≠ (step state action).2)
    {state : S} {run : List A}
    (hmiss : ¬ Run.StepsMeet (fun state action => (step state action).1) condition state run) :
    ∃ other, Agree (hidden state) other ∧
      ∀ beside, Same state beside → hidden beside = other →
        answers step beside run ≠ answers step state run := by
  induction run generalizing state with
  | nil => exact absurd trivial hmiss
  | cons action rest ih =>
    by_cases hfirst : condition state action
    · have hrest := fun hmeet => hmiss ⟨hfirst, hmeet⟩
      obtain ⟨other, hagree, hanswers⟩ := ih hrest
      rw [hkept] at hagree
      refine ⟨other, hagree, fun beside hsame hother heq => ?_⟩
      have hother' := hcongr state beside action hsame hfirst
      refine hanswers _ (hunwinds.state state beside action hsame hfirst hother') ?_ ?_
      · rw [hkept, hother]
      · exact List.tail_eq_of_cons_eq heq
    · obtain ⟨other, hagree, hanswer⟩ := htells state action hfirst
      refine ⟨other, hagree, fun beside hsame hother heq => ?_⟩
      exact hanswer beside hsame hother (List.head_eq_of_cons_eq heq)

/-- All states that look the same answer a run alike exactly when it meets the condition from
every one of them. -/
theorem Unwinds.answers_eq_iff (hunwinds : Unwinds step Same condition) {hidden : S → D}
    {Agree : D → D → Prop}
    (hcongr : ∀ state other action, Same state other → condition state action →
      condition other action)
    (hkept : ∀ state action, hidden (step state action).1 = hidden state)
    (hvary : ∀ state other, Agree (hidden state) other →
      ∃ beside, Same state beside ∧ hidden beside = other)
    (htells : ∀ state action, ¬ condition state action → ∃ other, Agree (hidden state) other ∧
      ∀ beside, Same state beside → hidden beside = other →
        (step beside action).2 ≠ (step state action).2)
    (run : List A) :
    (∀ state other, Same state other → answers step state run = answers step other run) ↔
      ∀ state, Run.StepsMeet (fun state action => (step state action).1) condition state run := by
  constructor
  · intro hall state
    by_contra hmiss
    obtain ⟨other, hagree, hanswers⟩ := hunwinds.exists_hidden hcongr hkept htells hmiss
    obtain ⟨beside, hsame, hother⟩ := hvary state other hagree
    exact hanswers beside hsame hother (hall state beside hsame).symm
  · intro hmeet state other hsame
    exact hunwinds.answers_eq hsame (hmeet state) (hmeet other)

end Relational.Views
