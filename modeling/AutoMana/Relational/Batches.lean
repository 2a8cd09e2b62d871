import Mathlib.Data.List.Forall2
import Mathlib.Data.List.ReduceOption

/-!
# Batches

A loop collects items and passes them on in batches: a batch goes out as soon as it has
so many items, and what still waits at the end goes out as a last one. Such a loop is a
fold over the batches, and the batches are the items in their order.
-/

namespace Relational

variable {α β S : Type}

/-- The batches of a loop that starts with waiting items. -/
def batches (size : ℕ) (waiting : List α) : List α → List (List α)
  | [] => if waiting.isEmpty then [] else [waiting]
  | item :: rest =>
    if size ≤ (waiting ++ [item]).length then (waiting ++ [item]) :: batches size [] rest
    else batches size (waiting ++ [item]) rest

/-- One round of the loop; `none` when passing on a batch raises. -/
def pushItem (size : ℕ) (emit : S → List α → Option S) (state : S × List α) (item : α) :
    Option (S × List α) :=
  let waiting := state.2 ++ [item]
  if size ≤ waiting.length then (emit state.1 waiting).map (·, []) else some (state.1, waiting)

/-- What follows the loop. -/
def emitRest (emit : S → List α → Option S) (state : S × List α) : Option S :=
  if state.2.isEmpty then some state.1 else emit state.1 state.2

/-- The loop folds over its batches. -/
theorem bind_emitRest_pushItem (size : ℕ) (emit : S → List α → Option S) (state : S)
    (waiting items : List α) :
    (items.foldlM (pushItem size emit) (state, waiting)).bind (emitRest emit) =
      (batches size waiting items).foldlM emit state := by
  induction items generalizing state waiting with
  | nil =>
    rw [List.foldlM_nil, Option.pure_def, Option.bind_some, batches, emitRest]
    split_ifs
    · rw [List.foldlM_nil, Option.pure_def]
    · rw [List.foldlM_cons, Option.bind_eq_bind]
      cases emit state waiting <;> rfl
  | cons item rest ih =>
    rw [List.foldlM_cons, batches, Option.bind_eq_bind, pushItem]
    split_ifs
    · rw [List.foldlM_cons, Option.bind_eq_bind]
      cases emit state (waiting ++ [item]) with
      | none => rfl
      | some next => exact ih next []
    · exact ih state (waiting ++ [item])

/-- The batches hold the items, in their order. -/
theorem flatten_batches (size : ℕ) (waiting items : List α) :
    (batches size waiting items).flatten = waiting ++ items := by
  induction items generalizing waiting with
  | nil =>
    rw [batches]
    cases waiting <;> simp
  | cons item rest ih =>
    rw [batches]
    split_ifs
    · rw [List.flatten_cons, ih, List.nil_append, List.append_assoc, List.singleton_append]
    · rw [ih, List.append_assoc, List.singleton_append]

/-- The batches of changed items are the batches, changed. -/
theorem batches_map (change : β → α) (size : ℕ) (waiting items : List β) :
    batches size (waiting.map change) (items.map change) =
      (batches size waiting items).map (List.map change) := by
  induction items generalizing waiting with
  | nil => cases waiting <;> rfl
  | cons item rest ih =>
    have hmap : waiting.map change ++ [change item] = (waiting ++ [item]).map change := by
      rw [List.map_append, List.map_singleton]
    rw [List.map_cons, batches, batches, hmap, List.length_map]
    split_ifs
    · rw [List.map_cons, ← ih [], List.map_nil]
    · exact ih (waiting ++ [item])

theorem mem_batches_iff {size : ℕ} {items : List α} {item : α} :
    item ∈ items ↔ ∃ batch ∈ batches size [] items, item ∈ batch := by
  have hflatten := flatten_batches size [] items
  rw [List.nil_append] at hflatten
  rw [← List.mem_flatten, hflatten]

/-- A round of a loop that reads its items first and skips some; `none` when reading one
raises. -/
def readItem (read : β → Option (Option α)) (step : S → α → Option S) (state : S) (item : β) :
    Option S :=
  (read item).bind fun found => found.elim (some state) (step state)

/-- Reading all items before the loop makes no difference. -/
theorem foldlM_readItem (read : β → Option (Option α)) (step : S → α → Option S) (state : S)
    (items : List β) :
    items.foldlM (readItem read step) state =
      (items.mapM read).bind fun found => found.reduceOption.foldlM step state := by
  induction items generalizing state with
  | nil => rfl
  | cons item rest ih =>
    rw [List.foldlM_cons, List.mapM_cons, Option.bind_eq_bind, readItem]
    cases read item with
    | none => rfl
    | some found =>
      cases found with
      | none =>
        rw [Option.bind_some, Option.elim_none, Option.bind_some, ih]
        cases rest.mapM read <;> rfl
      | some found =>
        rw [Option.bind_some, Option.elim_some]
        have hrest : (fun next => rest.foldlM (readItem read step) next) =
            fun next => (rest.mapM read).bind fun found => found.reduceOption.foldlM step next :=
          funext ih
        rw [hrest]
        cases hread : rest.mapM read with
        | none => cases step state found <;> rfl
        | some others =>
          simp [Option.bind_eq_bind]

/-- Reading items of which none raises. -/
theorem mapM_eq_filterMap {read : β → Option α} {items : List β}
    (hread : ∀ item ∈ items, (read item).isSome) :
    items.mapM read = some (items.filterMap read) := by
  induction items with
  | nil => rfl
  | cons item rest ih =>
    obtain ⟨value, hvalue⟩ := Option.isSome_iff_exists.mp (hread item List.mem_cons_self)
    rw [List.mapM_cons, ih fun other hother => hread other (List.mem_cons_of_mem _ hother),
      List.filterMap_cons_some hvalue, hvalue]
    rfl

/-- Reading items, each of which has its value or raises. -/
theorem mapM_eq_some_iff {read : β → Option α} {reads : β → Prop} {value : β → α}
    (hread : ∀ item found, read item = some found ↔ reads item ∧ value item = found)
    {items : List β} {values : List α} :
    items.mapM read = some values ↔ (∀ item ∈ items, reads item) ∧ items.map value = values := by
  induction items generalizing values with
  | nil => simp
  | cons item rest ih =>
    simp only [List.mapM_cons, Option.bind_eq_bind, Option.bind_eq_some_iff, hread, ih,
      Option.pure_def, Option.some.injEq, List.forall_mem_cons, List.map_cons]
    constructor
    · rintro ⟨_, ⟨hitem, rfl⟩, _, ⟨hrest, rfl⟩, rfl⟩
      exact ⟨⟨hitem, hrest⟩, rfl⟩
    · rintro ⟨⟨hitem, hrest⟩, rfl⟩
      exact ⟨_, ⟨hitem, rfl⟩, _, ⟨hrest, rfl⟩, rfl⟩

/-- What is made of the values that are read. -/
theorem map_mapM_eq_some_iff {γ : Type} {read : β → Option α} {reads : β → Prop} {value : β → α}
    (hread : ∀ item found, read item = some found ↔ reads item ∧ value item = found)
    {items : List β} {make : List α → γ} {result : γ} :
    (items.mapM read).map make = some result ↔
      (∀ item ∈ items, reads item) ∧ make (items.map value) = result := by
  simp only [Option.map_eq_some_iff, mapM_eq_some_iff hread]
  constructor
  · rintro ⟨_, ⟨hitems, rfl⟩, hmake⟩
    exact ⟨hitems, hmake⟩
  · rintro ⟨hitems, hmake⟩
    exact ⟨_, ⟨hitems, rfl⟩, hmake⟩

/-- When all items are read, none raises. -/
theorem isSome_of_mapM {read : β → Option α} {items : List β} {values : List α}
    (hvalues : items.mapM read = some values) : ∀ item ∈ items, (read item).isSome := by
  induction items generalizing values with
  | nil => exact List.forall_mem_nil _
  | cons item rest ih =>
    simp only [List.mapM_cons, Option.bind_eq_bind, Option.bind_eq_some_iff] at hvalues
    obtain ⟨value, hvalue, others, hothers, -⟩ := hvalues
    exact List.forall_mem_cons.mpr ⟨Option.isSome_of_eq_some hvalue, ih hothers⟩

/-- Each value read is that of an item. -/
theorem exists_of_mem_mapM {read : β → Option α} {items : List β} {values : List α}
    (hvalues : items.mapM read = some values) {value : α} (hvalue : value ∈ values) :
    ∃ item ∈ items, read item = some value := by
  induction items generalizing values with
  | nil =>
    rw [List.mapM_nil, Option.pure_def, Option.some.injEq] at hvalues
    rw [← hvalues] at hvalue
    cases hvalue
  | cons item rest ih =>
    simp only [List.mapM_cons, Option.bind_eq_bind, Option.bind_eq_some_iff, Option.pure_def,
      Option.some.injEq] at hvalues
    obtain ⟨first, hfirst, others, hothers, rfl⟩ := hvalues
    rcases List.mem_cons.mp hvalue with rfl | hother
    · exact ⟨item, List.mem_cons_self, hfirst⟩
    · obtain ⟨found, hfound, hsome⟩ := ih hothers hother
      exact ⟨found, List.mem_cons_of_mem _ hfound, hsome⟩

/-- A loop over the items that its items expand to. -/
theorem foldlM_flatMap {step : S → α → Option S} {expand : β → List α} (state : S)
    (items : List β) :
    (items.flatMap expand).foldlM step state =
      items.foldlM (fun state item => (expand item).foldlM step state) state := by
  induction items generalizing state with
  | nil => rfl
  | cons item rest ih =>
    rw [List.flatMap_cons, List.foldlM_append, List.foldlM_cons]
    exact congrArg _ (funext ih)

/-- A loop that collects what it is given. -/
theorem foldlM_concat (collected items : List α) :
    items.foldlM (fun collected item => some (collected ++ [item])) collected =
      some (collected ++ items) := by
  induction items generalizing collected with
  | nil => rw [List.foldlM_nil, List.append_nil, Option.pure_def]
  | cons item rest ih =>
    rw [List.foldlM_cons, Option.bind_eq_bind, Option.bind_some, ih, List.append_assoc,
      List.singleton_append]

/-- The values read are those of the items that hold one, one by one, if each item is read
well. -/
theorem exists_mapM_forall₂_iff {read : β → Option (Option α)} {holds : β → Bool}
    {related : β → α → Prop}
    (hholds : ∀ item found, read item = some found → holds item = found.isSome)
    (items : List β) :
    (∃ found, items.mapM read = some found ∧
      List.Forall₂ related (items.filter holds) found.reduceOption) ↔
    ∀ item ∈ items, ∃ found, read item = some found ∧ ∀ value ∈ found, related item value := by
  induction items with
  | nil => exact iff_of_true ⟨[], rfl, List.Forall₂.nil⟩ (List.forall_mem_nil _)
  | cons item rest ih =>
    rw [List.forall_mem_cons, ← ih]
    simp only [List.mapM_cons, Option.bind_eq_bind, Option.bind_eq_some_iff, Option.pure_def,
      Option.some.injEq]
    constructor
    · rintro ⟨_, ⟨found, hread, others, hothers, rfl⟩, hrelated⟩
      have hitem := hholds item found hread
      cases found with
      | none =>
        rw [List.filter_cons_of_neg (by simp [hitem]), List.reduceOption_cons_of_none] at hrelated
        exact ⟨⟨none, hread, fun _ hnone => nomatch hnone⟩, others, hothers, hrelated⟩
      | some value =>
        rw [List.filter_cons_of_pos (by simp [hitem]), List.reduceOption_cons_of_some,
          List.forall₂_cons] at hrelated
        refine ⟨⟨some value, hread, ?_⟩, others, hothers, hrelated.2⟩
        intro other hother
        exact Option.some.inj hother ▸ hrelated.1
    · rintro ⟨⟨found, hread, hvalue⟩, others, hothers, hrelated⟩
      refine ⟨_, ⟨found, hread, others, hothers, rfl⟩, ?_⟩
      have hitem := hholds item found hread
      cases found with
      | none =>
        rw [List.filter_cons_of_neg (by simp [hitem]), List.reduceOption_cons_of_none]
        exact hrelated
      | some value =>
        rw [List.filter_cons_of_pos (by simp [hitem]), List.reduceOption_cons_of_some]
        exact List.Forall₂.cons (hvalue value rfl) hrelated

end Relational
