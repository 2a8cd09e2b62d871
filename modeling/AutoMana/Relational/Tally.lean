import AutoMana.Relational.Dict

/-!
# Totals

A measure summed over a list, and over the values of a table. An assignment replaces the share of
its key, and a deletion takes it away.
-/

namespace Relational

variable {α β K V : Type}

/-- The sum of a measure over a list. -/
def tally (measure : α → Nat) : List α → Nat
  | [] => 0
  | item :: rest => measure item + tally measure rest

@[simp] theorem tally_nil (measure : α → Nat) : tally measure [] = 0 := rfl

@[simp] theorem tally_cons (measure : α → Nat) (item : α) (rest : List α) :
    tally measure (item :: rest) = measure item + tally measure rest := rfl

@[simp] theorem tally_append (measure : α → Nat) (first second : List α) :
    tally measure (first ++ second) = tally measure first + tally measure second := by
  induction first with
  | nil => exact (Nat.zero_add _).symm
  | cons item rest ih => rw [List.cons_append, tally_cons, tally_cons, ih, Nat.add_assoc]

theorem tally_map (measure : β → Nat) (change : α → β) (items : List α) :
    tally measure (items.map change) = tally (fun item => measure (change item)) items := by
  induction items with
  | nil => rfl
  | cons item rest ih => rw [List.map_cons, tally_cons, tally_cons, ih]

theorem tally_eq_zero {measure : α → Nat} {items : List α}
    (hzero : ∀ item ∈ items, measure item = 0) : tally measure items = 0 := by
  induction items with
  | nil => rfl
  | cons item rest ih =>
    rw [List.forall_mem_cons] at hzero
    rw [tally_cons, hzero.1, ih hzero.2]

namespace Table

variable [DecidableEq K]

/-- The sum of a measure over the values of a table. -/
def tally (measure : V → Nat) (table : Table K V) : Nat :=
  Relational.tally (fun row => measure row.2) table.rows

/-- The share of a key. -/
def share (measure : V → Nat) (table : Table K V) (key : K) : Nat :=
  ((table.get? key).map measure).getD 0

omit [DecidableEq K] in
@[simp] theorem tally_empty (measure : V → Nat) : (empty : Table K V).tally measure = 0 := rfl

/-- Replacing the value of a key in rows with distinct keys. -/
theorem tally_replace (measure : V → Nat) (key : K) (value : V) {rows : List (K × V)}
    (hnodup : (rows.map Prod.fst).Nodup) :
    Relational.tally (fun row => measure row.2)
        (rows.map fun row => (row.1, if row.1 = key then value else row.2)) +
        ((rows.lookup key).map measure).getD 0 =
      Relational.tally (fun row => measure row.2) rows +
        if (rows.lookup key).isSome then measure value else 0 := by
  induction rows with
  | nil => rfl
  | cons row rest ih =>
    obtain ⟨stored, old⟩ := row
    rw [List.map_cons, List.nodup_cons] at hnodup
    have hrest := ih hnodup.2
    rw [List.map_cons, tally_cons, tally_cons, List.lookup_cons]
    by_cases hsame : stored = key
    · -- the key is in no later row
      subst hsame
      have hnone : rest.lookup stored = none := lookup_eq_none_of_notMem hnodup.1
      rw [hnone] at hrest
      simp only [beq_self_eq_true, if_true, Option.map_some, Option.getD_some, Option.isSome_some]
      simp only [Option.map_none, Option.getD_none, Option.isSome_none, Bool.false_eq_true,
        if_false] at hrest
      omega
    · have hne : (key == stored) = false := beq_false_of_ne fun heq => hsame heq.symm
      simp only [hsame, if_false, hne]
      omega

/-- An assignment replaces the share of its key. -/
theorem tally_set (measure : V → Nat) (table : Table K V) (key : K) (value : V) :
    (table.set key value).tally measure + table.share measure key =
      table.tally measure + measure value := by
  have hset := tally_replace measure key value table.nodup_keys
  rw [tally, rows_set, tally_append, share, get?]
  cases hstored : table.rows.lookup key with
  | none =>
    rw [hstored] at hset
    simp only [Option.map_none, Option.getD_none, Option.isSome_none, Bool.false_eq_true,
      if_false, tally_cons, tally_nil] at hset ⊢
    rw [tally]
    omega
  | some old =>
    rw [hstored] at hset
    simp only [Option.map_some, Option.getD_some, Option.isSome_some, if_true, tally_nil] at hset ⊢
    rw [tally]
    omega

/-- Dropping a key from rows with distinct keys. -/
theorem tally_drop (measure : V → Nat) (key : K) {rows : List (K × V)}
    (hnodup : (rows.map Prod.fst).Nodup) :
    Relational.tally (fun row => measure row.2) (rows.filter fun row => !decide (row.1 = key)) +
        ((rows.lookup key).map measure).getD 0 =
      Relational.tally (fun row => measure row.2) rows := by
  induction rows with
  | nil => rfl
  | cons row rest ih =>
    obtain ⟨stored, old⟩ := row
    rw [List.map_cons, List.nodup_cons] at hnodup
    have hrest := ih hnodup.2
    rw [List.filter_cons, tally_cons, List.lookup_cons]
    by_cases hsame : stored = key
    · subst hsame
      have hnone : rest.lookup stored = none := lookup_eq_none_of_notMem hnodup.1
      rw [hnone] at hrest
      simp only [Option.map_none, Option.getD_none] at hrest
      simp
      omega
    · have hne : (key == stored) = false := beq_false_of_ne fun heq => hsame heq.symm
      simp [hsame, hne]
      omega

/-- A deletion takes the share of its key away. -/
theorem tally_deleteKey (measure : V → Nat) (table : Table K V) (key : K) :
    (table.deleteWhere fun stored _ => stored = key).tally measure + table.share measure key =
      table.tally measure :=
  tally_drop measure key table.nodup_keys

end Table

end Relational
