import AutoMana.Relational.Runs

/-!
# Statements that raise

A procedure is statements one after the other, any of which may raise. It is described by when it
succeeds and by what it returns then, each statement by itself.
-/

namespace Relational.Statement

variable {E S A α β : Type}

/-- A statement that raises unless a condition holds. -/
def check (condition : Prop) [Decidable condition] (error : E) : Except E Unit :=
  if condition then .ok () else .error error

@[simp] theorem check_eq_ok_iff {condition : Prop} [Decidable condition] {error : E}
    {result : Unit} : check condition error = .ok result ↔ condition := by
  rw [check]
  split_ifs with hcondition
  · exact iff_of_true rfl hcondition
  · exact iff_of_false (fun hok => by cases hok) hcondition

@[simp] theorem bind_eq_ok_iff {first : Except E α} {rest : α → Except E β} {result : β} :
    (first >>= rest) = .ok result ↔ ∃ value, first = .ok value ∧ rest value = .ok result := by
  cases first with
  | error => exact iff_of_false (fun hok => by cases hok) (by rintro ⟨_, hok, -⟩; cases hok)
  | ok value =>
      constructor
      · exact fun hrest => ⟨value, rfl, hrest⟩
      · rintro ⟨_, hvalue, hrest⟩
        cases hvalue
        exact hrest

@[simp] theorem pure_eq_ok_iff {value result : α} :
    (pure value : Except E α) = .ok result ↔ result = value :=
  ⟨fun hok => (Except.ok.inj hok).symm, fun hsame => congrArg Except.ok hsame.symm⟩

/-- A loop of statements, each of which succeeds under a condition on a view of the state before
it, and changes the view in one way. -/
theorem exists_foldlM_iff {T : Type} {step : S → A → Except E S} (view : S → T)
    {condition : T → A → Prop} {after : T → A → T}
    (hstep : ∀ state item, (∃ next, step state item = .ok next) ↔ condition (view state) item)
    (hview : ∀ state item next, step state item = .ok next → view next = after (view state) item)
    {items : List A} {state : S} :
    (∃ last, items.foldlM step state = .ok last) ↔
      Run.StepsMeet after condition (view state) items := by
  induction items generalizing state with
  | nil => exact iff_of_true ⟨state, rfl⟩ trivial
  | cons item rest ih =>
      simp only [List.foldlM_cons, bind_eq_ok_iff, Run.StepsMeet]
      constructor
      · rintro ⟨last, next, hnext, hrest⟩
        rw [← hview _ _ _ hnext]
        exact ⟨(hstep _ _).mp ⟨next, hnext⟩, ih.mp ⟨last, hrest⟩⟩
      · rintro ⟨hcondition, hrest⟩
        obtain ⟨next, hnext⟩ := (hstep _ _).mpr hcondition
        rw [← hview _ _ _ hnext] at hrest
        obtain ⟨last, hlast⟩ := ih.mpr hrest
        exact ⟨last, next, hnext, hlast⟩

/-- What no statement of a loop changes. -/
theorem foldlM_kept {T : Type} {step : S → A → Except E S} (view : S → T)
    (hkept : ∀ state item next, step state item = .ok next → view next = view state)
    {items : List A} {state last : S} (hlast : items.foldlM step state = .ok last) :
    view last = view state := by
  induction items generalizing state with
  | nil => rw [pure_eq_ok_iff.mp hlast]
  | cons item rest ih =>
      obtain ⟨next, hnext, hrest⟩ := bind_eq_ok_iff.mp hlast
      exact (ih hrest).trans (hkept _ _ _ hnext)

/-- What every round of a loop keeps of the items so far and the state. -/
theorem foldlM_history {step : S → A → Except E S} {Inv : List A → S → Prop}
    (hstep : ∀ done state item next, Inv done state → step state item = .ok next →
      Inv (done ++ [item]) next)
    {done items : List A} {state last : S} (hinit : Inv done state)
    (hlast : items.foldlM step state = .ok last) : Inv (done ++ items) last := by
  induction items generalizing done state with
  | nil =>
    rw [List.append_nil, pure_eq_ok_iff.mp hlast]
    exact hinit
  | cons item rest ih =>
      obtain ⟨next, hnext, hrest⟩ := bind_eq_ok_iff.mp hlast
      rw [List.append_cons]
      exact ih (hstep done state item next hinit hnext) hrest

/-- Checks of all items. -/
theorem forM_eq_ok_iff {statement : A → Except E Unit} {items : List A} {result : Unit} :
    items.forM statement = .ok result ↔ ∀ item ∈ items, statement item = .ok () := by
  induction items with
  | nil => exact iff_of_true rfl fun _ hmem => by cases hmem
  | cons item rest ih =>
      change (statement item >>= fun _ => rest.forM statement) = .ok result ↔ _
      rw [bind_eq_ok_iff, List.forall_mem_cons]
      constructor
      · exact fun ⟨_, hitem, hrest⟩ => ⟨hitem, ih.mp hrest⟩
      · exact fun ⟨hitem, hrest⟩ => ⟨(), hitem, ih.mpr hrest⟩

/-- Items of which some are no action, each with a condition of its own besides. -/
theorem stepsMeet_filterMap {B : Type} {read : A → Option B} {own : A → Prop}
    {condition : S → B → Prop} {after : S → B → S} {items : List A} {state : S} :
    Run.StepsMeet (fun state item => (read item).elim state (after state))
        (fun state item => own item ∧ ∀ action, read item = some action → condition state action)
        state items ↔
      (∀ item ∈ items, own item) ∧
        Run.StepsMeet after condition state (items.filterMap read) := by
  induction items generalizing state with
  | nil => exact iff_of_true trivial ⟨fun _ hmem => (List.not_mem_nil hmem).elim, trivial⟩
  | cons item rest ih =>
      rw [Run.StepsMeet, ih, List.forall_mem_cons]
      cases hread : read item with
      | none =>
          rw [List.filterMap_cons_none hread]
          simp [and_assoc]
      | some action =>
          rw [List.filterMap_cons_some hread, Run.StepsMeet]
          simp only [Option.some.injEq, forall_eq', Option.elim_some]
          tauto

/-! ## Errors that are not raised -/

/-- A statement does not raise a certain error. -/
def Avoids (error : E) (result : Except E α) : Prop := result ≠ .error error

theorem avoids_ok {error : E} {value : α} : Avoids error (.ok value) := fun hok => by cases hok

theorem avoids_pure {error : E} {value : α} : Avoids error (pure value) := avoids_ok

theorem avoids_error {error other : E} (hne : other ≠ error) :
    Avoids error (.error other : Except E α) :=
  fun hsame => hne (Except.error.inj hsame)

theorem avoids_check {condition : Prop} [Decidable condition] {error other : E}
    (hne : other ≠ error) : Avoids error (check condition other) := by
  rw [check]
  split_ifs
  · exact avoids_ok
  · exact avoids_error hne

theorem Avoids.bind {error : E} {first : Except E α} {rest : α → Except E β}
    (hfirst : Avoids error first) (hrest : ∀ value, Avoids error (rest value)) :
    Avoids error (first >>= rest) := by
  cases first with
  | error other => exact avoids_error fun hsame => hfirst (congrArg Except.error hsame)
  | ok value => exact hrest value

theorem avoids_forM {error : E} {statement : A → Except E Unit} {items : List A}
    (hstatement : ∀ item, Avoids error (statement item)) : Avoids error (items.forM statement) := by
  induction items with
  | nil => exact avoids_pure
  | cons item rest ih => exact (hstatement item).bind fun _ => ih

theorem avoids_foldlM {error : E} {step : S → A → Except E S} {items : List A} {state : S}
    (hstep : ∀ state item, Avoids error (step state item)) :
    Avoids error (items.foldlM step state) := by
  induction items generalizing state with
  | nil => exact avoids_pure
  | cons item rest ih => exact (hstep state item).bind fun _ => ih

/-! ## Blocks -/

/-- A statement in a block of its own: when it raises, the block changes nothing. -/
def attempt (statement : S → Except E S) (state : S) : S := (statement state).toOption.getD state

theorem attempt_of_ok {statement : S → Except E S} {state next : S}
    (hok : statement state = .ok next) : attempt statement state = next := by
  rw [attempt, hok]
  rfl

theorem attempt_of_error {statement : S → Except E S} {state : S}
    (herror : ∀ next, statement state ≠ .ok next) : attempt statement state = state := by
  rw [attempt]
  cases hresult : statement state with
  | error => rfl
  | ok next => exact absurd hresult (herror next)

end Relational.Statement
