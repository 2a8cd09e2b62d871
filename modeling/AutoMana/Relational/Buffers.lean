import AutoMana.Relational.Batches

/-!
# Buffers

A loop reads rows from each item of a stream and routes them to one of two buffers. A buffer
that is long enough is copied to its table and emptied, and what waits at the end is copied
last. A copy raises when a row does not fit its table. Whatever the sizes are, each table
gets the rows routed to it, in the order of the stream.
-/

namespace Relational

variable {α β γ δ : Type}

/-! ## A buffer -/

/-- A buffer, the batches of it that were copied, and how many rows their copies returned. -/
structure Buffer (α : Type) where
  copied : List (List α) := []
  waiting : List α := []
  count : ℕ := 0

namespace Buffer

variable (fits : α → Bool)

/-- Copies what waits, if anything does; `none` when a row does not fit. -/
def copy (buffer : Buffer α) : Option (Buffer α) :=
  if buffer.waiting.isEmpty then some buffer
  else if buffer.waiting.all fits then
    some ⟨buffer.copied ++ [buffer.waiting], [], buffer.count + buffer.waiting.length⟩
  else none

def extend (size : ℕ) (buffer : Buffer α) (rows : List α) : Option (Buffer α) :=
  let waiting := buffer.waiting ++ rows
  if size ≤ waiting.length then copy fits { buffer with waiting } else some { buffer with waiting }

/-- What a buffer has after it was given rows. -/
structure Holds (rows : List α) (buffer : Buffer α) : Prop where
  rows_eq : buffer.copied.flatten ++ buffer.waiting = rows
  count_eq : buffer.count = buffer.copied.flatten.length
  fits_of_copied : ∀ row ∈ buffer.copied.flatten, fits row

variable {fits} {size : ℕ} {buffer next : Buffer α} {rows new : List α}

theorem holds_empty : Holds fits [] (⟨[], [], 0⟩ : Buffer α) :=
  ⟨rfl, rfl, List.forall_mem_nil _⟩

theorem Holds.wait (hholds : Holds fits rows buffer) (new : List α) :
    Holds fits (rows ++ new) { buffer with waiting := buffer.waiting ++ new } :=
  ⟨by rw [← hholds.rows_eq, List.append_assoc], hholds.count_eq, hholds.fits_of_copied⟩

theorem Holds.copy (hholds : Holds fits rows buffer) (hcopy : buffer.copy fits = some next) :
    Holds fits rows next ∧ next.waiting = [] := by
  unfold Buffer.copy at hcopy
  split_ifs at hcopy with hempty hfits
  · obtain rfl := Option.some.inj hcopy
    exact ⟨hholds, List.isEmpty_iff.mp hempty⟩
  · obtain rfl := Option.some.inj hcopy
    rw [List.all_eq_true] at hfits
    refine ⟨⟨?_, ?_, ?_⟩, rfl⟩
    · rw [List.flatten_concat, List.append_nil, hholds.rows_eq]
    · rw [List.flatten_concat, List.length_append, hholds.count_eq]
    · rw [List.flatten_concat]
      exact List.forall_mem_append.mpr ⟨hholds.fits_of_copied, hfits⟩

theorem isSome_copy (hfits : ∀ row ∈ buffer.waiting, fits row) :
    ∃ next, buffer.copy fits = some next := by
  rw [Buffer.copy, List.all_eq_true.mpr hfits, if_pos rfl]
  split_ifs <;> exact ⟨_, rfl⟩

theorem Holds.extend (hholds : Holds fits rows buffer)
    (hextend : buffer.extend fits size new = some next) : Holds fits (rows ++ new) next := by
  unfold Buffer.extend at hextend
  simp only at hextend
  split_ifs at hextend
  · exact ((hholds.wait new).copy hextend).1
  · obtain rfl := Option.some.inj hextend
    exact hholds.wait new

theorem Holds.fits_of_waiting (hholds : Holds fits rows buffer) (hfits : ∀ row ∈ rows, fits row) :
    ∀ row ∈ buffer.waiting, fits row :=
  fun row hrow => hfits row (hholds.rows_eq ▸ List.mem_append_right _ hrow)

theorem Holds.isSome_extend (size : ℕ) (hholds : Holds fits rows buffer)
    (hfits : ∀ row ∈ rows ++ new, fits row) : ∃ next, buffer.extend fits size new = some next := by
  unfold Buffer.extend
  simp only
  split_ifs
  · exact isSome_copy ((hholds.wait new).fits_of_waiting hfits)
  · exact ⟨_, rfl⟩

/-- When nothing waits any more, all rows were copied. -/
theorem Holds.flush (hholds : Holds fits rows buffer) (hcopy : buffer.copy fits = some next) :
    next.copied.flatten = rows ∧ next.count = rows.length ∧ ∀ row ∈ rows, fits row := by
  obtain ⟨hnext, hempty⟩ := hholds.copy hcopy
  have hflatten := hnext.rows_eq
  rw [hempty, List.append_nil] at hflatten
  exact ⟨hflatten, hflatten ▸ hnext.count_eq, hflatten ▸ hnext.fits_of_copied⟩

end Buffer

/-! ## Two buffers -/

section Routing

/-- Where an item goes, and what is read from it; `none` when reading it raises. -/
structure Routes (β α δ : Type) where
  goesRight : β → Bool
  readLeft : β → Option (List α)
  readRight : β → Option (List δ)

variable (routes : Routes β α δ) (fitsLeft : α → Bool) (fitsRight : δ → Bool) (size : ℕ)

structure Buffers (α δ : Type) where
  left : Buffer α := {}
  right : Buffer δ := {}

/-- One round of the loop. -/
def routeItem (buffers : Buffers α δ) (item : β) : Option (Buffers α δ) :=
  if routes.goesRight item then do
    let right ← buffers.right.extend fitsRight size (← routes.readRight item)
    return { buffers with right }
  else do
    let left ← buffers.left.extend fitsLeft size (← routes.readLeft item)
    return { buffers with left }

def flushBuffers (buffers : Buffers α δ) : Option (Buffers α δ) := do
  let left ← buffers.left.copy fitsLeft
  let right ← buffers.right.copy fitsRight
  return { left, right }

/-- The rows of all items that go left, in order; `none` when reading one raises. -/
def Routes.leftRows (items : List β) : Option (List α) :=
  ((items.filter fun item => !routes.goesRight item).mapM routes.readLeft).map List.flatten

def Routes.rightRows (items : List β) : Option (List δ) :=
  ((items.filter routes.goesRight).mapM routes.readRight).map List.flatten

variable {routes fitsLeft fitsRight size} {buffers next : Buffers α δ} {leftRows leftNew : List α}
  {rightRows rightNew : List δ}

theorem Routes.leftRows_singleton (item : β) :
    routes.leftRows [item] = if routes.goesRight item then some [] else routes.readLeft item := by
  unfold Routes.leftRows
  cases hgoes : routes.goesRight item with
  | true => simp [hgoes]
  | false => cases hread : routes.readLeft item <;> simp [hgoes, hread]

theorem Routes.rightRows_singleton (item : β) :
    routes.rightRows [item] = if routes.goesRight item then routes.readRight item else some [] := by
  unfold Routes.rightRows
  cases hgoes : routes.goesRight item with
  | false => simp [hgoes]
  | true => cases hread : routes.readRight item <;> simp [hgoes, hread]

theorem map_flatten_mapM_append {read : β → Option (List γ)} (first second : List β) :
    ((first ++ second).mapM read).map List.flatten =
      ((first.mapM read).map List.flatten).bind fun rows =>
        ((second.mapM read).map List.flatten).map (rows ++ ·) := by
  rw [List.mapM_append]
  cases first.mapM read with
  | none => rfl
  | some rows => cases second.mapM read <;> simp

theorem Routes.leftRows_cons (item : β) (rest : List β) : routes.leftRows (item :: rest) =
    (routes.leftRows [item]).bind fun rows => (routes.leftRows rest).map (rows ++ ·) := by
  rw [← List.singleton_append, Routes.leftRows, List.filter_append, map_flatten_mapM_append]
  rfl

theorem Routes.rightRows_cons (item : β) (rest : List β) : routes.rightRows (item :: rest) =
    (routes.rightRows [item]).bind fun rows => (routes.rightRows rest).map (rows ++ ·) := by
  rw [← List.singleton_append, Routes.rightRows, List.filter_append, map_flatten_mapM_append]
  rfl

/-- A round gives the rows of its item to the buffer they are routed to. -/
theorem Routes.holds_item {item : β}
    (hitem : routeItem routes fitsLeft fitsRight size buffers item = some next)
    (hleft : buffers.left.Holds fitsLeft leftRows)
    (hright : buffers.right.Holds fitsRight rightRows) :
    ∃ leftNew rightNew, routes.leftRows [item] = some leftNew ∧
      routes.rightRows [item] = some rightNew ∧
      next.left.Holds fitsLeft (leftRows ++ leftNew) ∧
      next.right.Holds fitsRight (rightRows ++ rightNew) := by
  rw [Routes.leftRows_singleton, Routes.rightRows_singleton]
  simp only [routeItem, Option.bind_eq_bind, Option.pure_def] at hitem
  split_ifs at hitem ⊢ with hgoes
  · obtain ⟨rows, hrows, hextended⟩ := Option.bind_eq_some_iff.mp hitem
    obtain ⟨right, hextend, hnext⟩ := Option.bind_eq_some_iff.mp hextended
    obtain rfl := Option.some.inj hnext
    refine ⟨[], rows, rfl, hrows, ?_, hright.extend hextend⟩
    rw [List.append_nil]
    exact hleft
  · obtain ⟨rows, hrows, hextended⟩ := Option.bind_eq_some_iff.mp hitem
    obtain ⟨left, hextend, hnext⟩ := Option.bind_eq_some_iff.mp hextended
    obtain rfl := Option.some.inj hnext
    refine ⟨rows, [], hrows, rfl, hleft.extend hextend, ?_⟩
    rw [List.append_nil]
    exact hright

/-- A round in which the item is read and its rows fit does not raise. -/
theorem Routes.isSome_item (size : ℕ) {item : β} (hleft : buffers.left.Holds fitsLeft leftRows)
    (hright : buffers.right.Holds fitsRight rightRows)
    (hleftRows : routes.leftRows [item] = some leftNew)
    (hrightRows : routes.rightRows [item] = some rightNew)
    (hfitsLeft : ∀ row ∈ leftRows ++ leftNew, fitsLeft row)
    (hfitsRight : ∀ row ∈ rightRows ++ rightNew, fitsRight row) :
    ∃ next, routeItem routes fitsLeft fitsRight size buffers item = some next := by
  rw [Routes.leftRows_singleton] at hleftRows
  rw [Routes.rightRows_singleton] at hrightRows
  simp only [routeItem, Option.bind_eq_bind, Option.pure_def]
  split_ifs at hleftRows hrightRows ⊢
  · obtain ⟨right, hextend⟩ := hright.isSome_extend size hfitsRight
    exact ⟨{ buffers with right }, by rw [hrightRows, Option.bind_some, hextend, Option.bind_some]⟩
  · obtain ⟨left, hextend⟩ := hleft.isSome_extend size hfitsLeft
    exact ⟨{ buffers with left }, by rw [hleftRows, Option.bind_some, hextend, Option.bind_some]⟩

/-- After a run each buffer has the rows routed to it. -/
theorem Routes.holds_of_run {items : List β}
    (hrun : items.foldlM (routeItem routes fitsLeft fitsRight size) buffers = some next)
    (hleft : buffers.left.Holds fitsLeft leftRows)
    (hright : buffers.right.Holds fitsRight rightRows) :
    ∃ leftNew rightNew, routes.leftRows items = some leftNew ∧
      routes.rightRows items = some rightNew ∧
      next.left.Holds fitsLeft (leftRows ++ leftNew) ∧
      next.right.Holds fitsRight (rightRows ++ rightNew) := by
  induction items generalizing buffers leftRows rightRows with
  | nil =>
    obtain rfl := Option.some.inj hrun
    refine ⟨[], [], rfl, rfl, ?_, ?_⟩
    · rw [List.append_nil]
      exact hleft
    · rw [List.append_nil]
      exact hright
  | cons item rest ih =>
    rw [List.foldlM_cons, Option.bind_eq_bind, Option.bind_eq_some_iff] at hrun
    obtain ⟨middle, hitem, hrest⟩ := hrun
    obtain ⟨leftItem, rightItem, hleftItem, hrightItem, hmiddleLeft, hmiddleRight⟩ :=
      Routes.holds_item hitem hleft hright
    obtain ⟨leftRest, rightRest, hleftRest, hrightRest, hnextLeft, hnextRight⟩ :=
      ih hrest hmiddleLeft hmiddleRight
    rw [List.append_assoc] at hnextLeft hnextRight
    refine ⟨leftItem ++ leftRest, rightItem ++ rightRest, ?_, ?_, hnextLeft, hnextRight⟩
    · rw [Routes.leftRows_cons, hleftItem, hleftRest]
      rfl
    · rw [Routes.rightRows_cons, hrightItem, hrightRest]
      rfl

/-- A run in which every item is read and every row fits does not raise. -/
theorem Routes.isSome_run (size : ℕ) (buffers : Buffers α δ) {items : List β}
    (hleft : buffers.left.Holds fitsLeft leftRows)
    (hright : buffers.right.Holds fitsRight rightRows)
    (hleftRows : routes.leftRows items = some leftNew)
    (hrightRows : routes.rightRows items = some rightNew)
    (hfitsLeft : ∀ row ∈ leftRows ++ leftNew, fitsLeft row)
    (hfitsRight : ∀ row ∈ rightRows ++ rightNew, fitsRight row) :
    ∃ next, items.foldlM (routeItem routes fitsLeft fitsRight size) buffers = some next := by
  induction items generalizing buffers leftRows rightRows leftNew rightNew with
  | nil => exact ⟨buffers, rfl⟩
  | cons item rest ih =>
    rw [Routes.leftRows_cons] at hleftRows
    rw [Routes.rightRows_cons] at hrightRows
    obtain ⟨leftItem, hleftItem, hleftOthers⟩ := Option.bind_eq_some_iff.mp hleftRows
    obtain ⟨leftRest, hleftRest, rfl⟩ := Option.map_eq_some_iff.mp hleftOthers
    obtain ⟨rightItem, hrightItem, hrightOthers⟩ := Option.bind_eq_some_iff.mp hrightRows
    obtain ⟨rightRest, hrightRest, rfl⟩ := Option.map_eq_some_iff.mp hrightOthers
    rw [← List.append_assoc] at hfitsLeft hfitsRight
    obtain ⟨middle, hitem⟩ := Routes.isSome_item size hleft hright hleftItem hrightItem
      (List.forall_mem_append.mp hfitsLeft).1 (List.forall_mem_append.mp hfitsRight).1
    obtain ⟨leftRead, rightRead, hleftRead, hrightRead, hmiddleLeft, hmiddleRight⟩ :=
      Routes.holds_item hitem hleft hright
    obtain rfl := Option.some.inj (hleftItem.symm.trans hleftRead)
    obtain rfl := Option.some.inj (hrightItem.symm.trans hrightRead)
    rw [List.foldlM_cons, hitem]
    exact ih middle hmiddleLeft hmiddleRight hleftRest hrightRest hfitsLeft hfitsRight

/-- A run copies the rows wanted if and only if these are the rows read, and they fit. -/
theorem Routes.copied_iff {items : List β} {leftWanted : List α} {rightWanted : List δ} :
    (∃ next, (items.foldlM (routeItem routes fitsLeft fitsRight size) {}).bind
        (flushBuffers fitsLeft fitsRight) = some next ∧
      next.left.copied.flatten = leftWanted ∧ next.right.copied.flatten = rightWanted ∧
      next.left.count = leftWanted.length ∧ next.right.count = rightWanted.length) ↔
    (routes.leftRows items = some leftWanted ∧ ∀ row ∈ leftWanted, fitsLeft row) ∧
      routes.rightRows items = some rightWanted ∧ ∀ row ∈ rightWanted, fitsRight row := by
  constructor
  · rintro ⟨next, hrun, rfl, rfl, -, -⟩
    simp only [Option.bind_eq_some_iff, flushBuffers, Option.bind_eq_bind, Option.pure_def] at hrun
    obtain ⟨buffers, hitems, left, hleft, right, hright, hnext⟩ := hrun
    obtain rfl := Option.some.inj hnext
    obtain ⟨leftNew, rightNew, hleftRows, hrightRows, hholdsLeft, hholdsRight⟩ :=
      Routes.holds_of_run hitems Buffer.holds_empty Buffer.holds_empty
    obtain ⟨hleftFlat, -, hfitsLeft⟩ := hholdsLeft.flush hleft
    obtain ⟨hrightFlat, -, hfitsRight⟩ := hholdsRight.flush hright
    simp only [hleftFlat, hrightFlat]
    exact ⟨⟨hleftRows, hfitsLeft⟩, hrightRows, hfitsRight⟩
  · rintro ⟨⟨hleftRows, hfitsLeft⟩, hrightRows, hfitsRight⟩
    obtain ⟨buffers, hitems⟩ := Routes.isSome_run size {} Buffer.holds_empty
      Buffer.holds_empty hleftRows hrightRows hfitsLeft hfitsRight
    obtain ⟨leftNew, rightNew, hleftNew, hrightNew, hholdsLeft, hholdsRight⟩ :=
      Routes.holds_of_run hitems Buffer.holds_empty Buffer.holds_empty
    obtain rfl := Option.some.inj (hleftRows.symm.trans hleftNew)
    obtain rfl := Option.some.inj (hrightRows.symm.trans hrightNew)
    obtain ⟨left, hleft⟩ := Buffer.isSome_copy (hholdsLeft.fits_of_waiting hfitsLeft)
    obtain ⟨right, hright⟩ := Buffer.isSome_copy (hholdsRight.fits_of_waiting hfitsRight)
    obtain ⟨hleftFlat, hleftCount, -⟩ := hholdsLeft.flush hleft
    obtain ⟨hrightFlat, hrightCount, -⟩ := hholdsRight.flush hright
    refine ⟨⟨left, right⟩, ?_, hleftFlat, hrightFlat, hleftCount, hrightCount⟩
    rw [hitems, Option.bind_some, flushBuffers, hleft, hright]
    rfl

end Routing

end Relational
