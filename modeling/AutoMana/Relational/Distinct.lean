import AutoMana.Relational.Dict
import AutoMana.Relational.Runs

/-!
# Tables with two unique columns

The values of a table are unique as its keys are. An insert that gives way to either conflict may
leave its key without a row: when the value is another key's. A sequence of entries finds every
key stored exactly when the keys that are new bring values that are new.
-/

namespace Relational.Table

variable {K V : Type} [DecidableEq K] [DecidableEq V]

/-- The key of the first row with the value. -/
def keyOf (table : Table K V) (value : V) : Option K :=
  (table.rows.find? fun row => decide (row.2 = value)).map Prod.fst

omit [DecidableEq K] in
theorem keyOf_eq_none_iff {table : Table K V} {value : V} :
    table.keyOf value = none ↔ value ∉ table.rows.map Prod.snd := by
  rw [keyOf, Option.map_eq_none_iff, List.find?_eq_none, List.mem_map]
  simp only [decide_eq_true_eq, not_exists, not_and]

theorem isSome_get?_of_keyOf {table : Table K V} {key : K} {value : V}
    (hkey : table.keyOf value = some key) : (table.get? key).isSome := by
  obtain ⟨row, hrow, rfl⟩ := Option.map_eq_some_iff.mp hkey
  exact (mem_keys_iff table row.1).mp (List.mem_map_of_mem (List.mem_of_find?_eq_some hrow))

/-- `INSERT ... ON CONFLICT DO NOTHING` under both constraints. -/
def insertDistinct (table : Table K V) (key : K) (value : V) : Table K V :=
  if (table.get? key).isSome ∨ (table.keyOf value).isSome then table else table.set key value

/-- The key of an entry is stored, or its value is new. -/
def Accepts (table : Table K V) (entry : K × V) : Prop :=
  (table.get? entry.1).isSome ∨ table.keyOf entry.2 = none

theorem isSome_get?_insertDistinct {table : Table K V} {key : K} {value : V} :
    ((table.insertDistinct key value).get? key).isSome ↔ table.Accepts (key, value) := by
  rw [insertDistinct, Accepts]
  split_ifs with hstored
  · cases hkey : table.get? key with
    | some old => exact iff_of_true rfl (Or.inl rfl)
    | none =>
      rw [hkey] at hstored
      obtain ⟨other, hother⟩ := Option.isSome_iff_exists.mp (hstored.resolve_left (by simp))
      simp [hother]
  · simp only [not_or, Option.not_isSome_iff_eq_none] at hstored
    simp [hstored.2]

/-- The entries whose keys are new, each key with the first value it comes with. -/
def newEntries : List K → List (K × V) → List (K × V)
  | _, [] => []
  | keys, (key, value) :: rest =>
    if key ∈ keys then newEntries keys rest else (key, value) :: newEntries (key :: keys) rest

omit [DecidableEq V] in
theorem newEntries_congr {keys others : List K} (hsame : ∀ key, key ∈ keys ↔ key ∈ others)
    (entries : List (K × V)) : newEntries keys entries = newEntries others entries := by
  induction entries generalizing keys others with
  | nil => rfl
  | cons entry rest ih =>
      obtain ⟨key, value⟩ := entry
      have hcons : ∀ other, other ∈ key :: keys ↔ other ∈ key :: others := by
        intro other
        rw [List.mem_cons, List.mem_cons, hsame]
      simp only [newEntries, hsame key, ih hsame, ih hcons]

/-- The keys that are new bring different values, none of which is stored. -/
structure AcceptsAll (table : Table K V) (entries : List (K × V)) : Prop where
  different : ((newEntries (table.rows.map Prod.fst) entries).map Prod.snd).Nodup
  unused : ∀ entry ∈ newEntries (table.rows.map Prod.fst) entries,
    entry.2 ∉ table.rows.map Prod.snd

section Cons

variable {table : Table K V} {key : K} {value : V} {rest : List (K × V)}
  (hkey : table.get? key = none)
  (hnew : newEntries (table.rows.map Prod.fst) ((key, value) :: rest) =
    (key, value) :: newEntries (key :: table.rows.map Prod.fst) rest)
  (hvalue : value ∉ table.rows.map Prod.snd)
include hkey hvalue

theorem rows_insertDistinct :
    (table.insertDistinct key value).rows = table.rows ++ [(key, value)] := by
  have hunused : ¬ ((table.get? key).isSome ∨ (table.keyOf value).isSome) := by
    rw [hkey, keyOf_eq_none_iff.mpr hvalue]
    simp
  rw [insertDistinct, if_neg hunused, rows_set_of_new hkey]

/-- After a new entry those that follow are new as they were. -/
theorem newEntries_insertDistinct :
    newEntries ((table.insertDistinct key value).rows.map Prod.fst) rest =
      newEntries (key :: table.rows.map Prod.fst) rest := by
  apply newEntries_congr
  intro other
  rw [rows_insertDistinct hkey hvalue, List.map_append, List.mem_append, List.mem_cons, or_comm]
  exact or_congr_left List.mem_singleton

include hnew

theorem acceptsAll_cons (hrest : (table.insertDistinct key value).AcceptsAll rest) :
    table.AcceptsAll ((key, value) :: rest) := by
  obtain ⟨hdifferent, hunused⟩ := hrest
  rw [newEntries_insertDistinct hkey hvalue] at hdifferent hunused
  rw [rows_insertDistinct hkey hvalue] at hunused
  have hother : ∀ entry ∈ newEntries (key :: table.rows.map Prod.fst) rest,
      entry.2 ∉ table.rows.map Prod.snd ∧ entry.2 ≠ value := by
    intro entry hentry
    have hmem := hunused entry hentry
    rw [List.map_append, List.mem_append, not_or] at hmem
    exact ⟨hmem.1, fun heq => hmem.2 (List.mem_singleton.mpr heq)⟩
  constructor
  · rw [hnew, List.map_cons, List.nodup_cons]
    refine ⟨fun hmem => ?_, hdifferent⟩
    obtain ⟨entry, hentry, heq⟩ := List.mem_map.mp hmem
    exact (hother entry hentry).2 heq
  · rw [hnew]
    intro entry hentry
    rcases List.mem_cons.mp hentry with rfl | hlater
    · exact hvalue
    · exact (hother entry hlater).1

theorem acceptsAll_of_cons (hall : table.AcceptsAll ((key, value) :: rest)) :
    (table.insertDistinct key value).AcceptsAll rest := by
  obtain ⟨hdifferent, hunused⟩ := hall
  rw [hnew] at hdifferent hunused
  rw [List.map_cons, List.nodup_cons] at hdifferent
  constructor
  · rw [newEntries_insertDistinct hkey hvalue]
    exact hdifferent.2
  · rw [newEntries_insertDistinct hkey hvalue, rows_insertDistinct hkey hvalue]
    intro entry hentry hmem
    rw [List.map_append, List.mem_append] at hmem
    rcases hmem with hstored | hsame
    · exact hunused entry (List.mem_cons_of_mem _ hentry) hstored
    · have heq : entry.2 = value := List.mem_singleton.mp hsame
      exact hdifferent.1 (List.mem_map.mpr ⟨entry, hentry, heq⟩)

end Cons

/-- Entry by entry. -/
theorem stepsMeet_accepts_iff {table : Table K V} {entries : List (K × V)} :
    Run.StepsMeet (fun table entry => table.insertDistinct entry.1 entry.2) Accepts table entries ↔
      table.AcceptsAll entries := by
  induction entries generalizing table with
  | nil => exact iff_of_true trivial ⟨List.nodup_nil, fun _ hmem => by cases hmem⟩
  | cons entry rest ih =>
      obtain ⟨key, value⟩ := entry
      rw [Run.StepsMeet, ih]
      by_cases hkey : (table.get? key).isSome
      · have hmem := (mem_keys_iff table key).mpr hkey
        have hnew : newEntries (table.rows.map Prod.fst) ((key, value) :: rest) =
            newEntries (table.rows.map Prod.fst) rest := by rw [newEntries, if_pos hmem]
        have hnext : table.insertDistinct key value = table := if_pos (Or.inl hkey)
        have haccepts : table.Accepts (key, value) := Or.inl hkey
        rw [hnext, and_iff_right haccepts]
        constructor
        · exact fun hall => ⟨hnew ▸ hall.different, hnew ▸ hall.unused⟩
        · exact fun hall => ⟨hnew ▸ hall.different, hnew ▸ hall.unused⟩
      · have hmem := mt (mem_keys_iff table key).mp hkey
        have hnew : newEntries (table.rows.map Prod.fst) ((key, value) :: rest) =
            (key, value) :: newEntries (key :: table.rows.map Prod.fst) rest := by
          rw [newEntries, if_neg hmem]
        have haccepts : table.Accepts (key, value) ↔ value ∉ table.rows.map Prod.snd := by
          rw [Accepts, or_iff_right hkey, keyOf_eq_none_iff]
        rw [haccepts]
        constructor
        · rintro ⟨hvalue, hrest⟩
          exact acceptsAll_cons (Option.not_isSome_iff_eq_none.mp hkey) hnew hvalue hrest
        · intro hall
          have hvalue := hall.unused (key, value) (hnew ▸ List.mem_cons_self)
          exact ⟨hvalue,
            acceptsAll_of_cons (Option.not_isSome_iff_eq_none.mp hkey) hnew hvalue hall⟩

end Relational.Table
