import Mathlib.Data.List.Nodup

/-!
# Values that are written as JSON and read again

A dictionary may have integer keys, but the keys of a JSON object are texts. So a value that is
written and read again keeps everything but these: an integer key comes back as its text, and
where two keys have one text, the value of the last stays. A value whose keys are distinct texts
comes back as it was, and no integer finds anything in a dictionary that came back.
-/

namespace Relational

/-- A key of a dictionary. -/
inductive Key where
  | int (value : Int)
  | str (value : String)
  deriving DecidableEq

/-- The name of a key in an object. -/
def Key.text : Key → String
  | .int value => toString value
  | .str value => value

inductive Value where
  | none
  | bool (value : Bool)
  /-- The number `units / 10 ^ scale`. -/
  | number (units : Int) (scale : Nat)
  | str (value : String)
  | list (items : List Value)
  | dict (fields : List (Key × Value))

namespace Value

/-- An integer. -/
def int (value : Int) : Value := .number value 0

/-- `fields[key] = value` -/
def assign (fields : List (Key × Value)) (key : Key) (value : Value) : List (Key × Value) :=
  match fields with
  | [] => [(key, value)]
  | (stored, old) :: rest =>
    if stored = key then (stored, value) :: rest else (stored, old) :: assign rest key value

/-- One assignment after another. -/
def assignAll (fields entries : List (Key × Value)) : List (Key × Value) :=
  entries.foldl (fun fields entry => assign fields entry.1 entry.2) fields

mutual

/-- `json.loads(json.dumps(value))` -/
def passed : Value → Value
  | .list items => .list (passedItems items)
  | .dict fields => .dict (assignAll [] (passedFields fields))
  | .none => .none
  | .bool value => .bool value
  | .number units scale => .number units scale
  | .str value => .str value

def passedItems : List Value → List Value
  | [] => []
  | item :: rest => item.passed :: passedItems rest

def passedFields : List (Key × Value) → List (Key × Value)
  | [] => []
  | (key, value) :: rest => (.str key.text, value.passed) :: passedFields rest

end

mutual

/-- The keys of every dictionary are distinct texts. -/
def Plain : Value → Prop
  | .list items => PlainItems items
  | .dict fields => (fields.map Prod.fst).Nodup ∧ PlainFields fields
  | .none => True
  | .bool _ => True
  | .number _ _ => True
  | .str _ => True

def PlainItems : List Value → Prop
  | [] => True
  | item :: rest => item.Plain ∧ PlainItems rest

def PlainFields : List (Key × Value) → Prop
  | [] => True
  | (key, value) :: rest => (∃ text, key = .str text) ∧ value.Plain ∧ PlainFields rest

end

/-! ## Assignments -/

theorem keys_assign {fields : List (Key × Value)} {key : Key} {value : Value} {other : Key} :
    other ∈ (assign fields key value).map Prod.fst ↔
      other = key ∨ other ∈ fields.map Prod.fst := by
  induction fields with
  | nil => simp [assign]
  | cons field rest ih =>
    obtain ⟨stored, old⟩ := field
    rw [assign]
    split_ifs with hsame
    · subst hsame
      simp
    · rw [List.map_cons, List.mem_cons, ih, List.map_cons, List.mem_cons]
      exact or_left_comm

theorem lookup_assign (fields : List (Key × Value)) (key : Key) (value : Value) (other : Key) :
    (assign fields key value).lookup other =
      if other = key then some value else fields.lookup other := by
  induction fields with
  | nil =>
    rw [assign, List.lookup_cons, List.lookup_nil, beq_eq_decide]
    by_cases hsame : other = key <;> simp [hsame]
  | cons field rest ih =>
    obtain ⟨stored, old⟩ := field
    rw [assign]
    split_ifs with hkey hsame hsame
    · subst hkey hsame
      simp
    · subst hkey
      simp [List.lookup_cons, beq_eq_decide, hsame]
    · subst hsame
      have hne : (other == stored) = false := by simpa using Ne.symm hkey
      simp [List.lookup_cons, hne, ih]
    · rw [List.lookup_cons, List.lookup_cons, ih, if_neg hsame]

/-- A new key is put behind the others. -/
theorem assign_of_notMem {fields : List (Key × Value)} {key : Key}
    (hnew : key ∉ fields.map Prod.fst) (value : Value) :
    assign fields key value = fields ++ [(key, value)] := by
  induction fields with
  | nil => rfl
  | cons field rest ih =>
    obtain ⟨stored, old⟩ := field
    rw [List.map_cons, List.mem_cons, not_or] at hnew
    rw [assign, if_neg (Ne.symm hnew.1), ih hnew.2, List.cons_append]

theorem assignAll_of_nodup {fields entries : List (Key × Value)}
    (hnodup : ((fields ++ entries).map Prod.fst).Nodup) :
    assignAll fields entries = fields ++ entries := by
  induction entries generalizing fields with
  | nil => exact (List.append_nil fields).symm
  | cons entry rest ih =>
    have hsplit : fields ++ entry :: rest = (fields ++ [entry]) ++ rest :=
      List.append_cons fields entry rest
    have hnew : entry.1 ∉ fields.map Prod.fst := by
      rw [List.map_append, List.map_cons, List.nodup_append] at hnodup
      exact fun hmem => hnodup.2.2 _ hmem _ List.mem_cons_self rfl
    rw [assignAll, List.foldl_cons, assign_of_notMem hnew, ← assignAll, hsplit]
    exact ih (hsplit ▸ hnodup)

theorem keys_assignAll {fields entries : List (Key × Value)} {key : Key} :
    key ∈ (assignAll fields entries).map Prod.fst ↔
      key ∈ fields.map Prod.fst ∨ key ∈ entries.map Prod.fst := by
  induction entries generalizing fields with
  | nil => exact (or_iff_left List.not_mem_nil).symm
  | cons entry rest ih =>
    rw [assignAll, List.foldl_cons, ← assignAll, ih, keys_assign, List.map_cons, List.mem_cons,
      or_assoc, or_left_comm]

/-- A value of the assigned dictionary was there or was assigned. -/
theorem lookup_assignAll {fields entries : List (Key × Value)} {key : Key} {value : Value}
    (hlookup : (assignAll fields entries).lookup key = some value) :
    fields.lookup key = some value ∨ (key, value) ∈ entries := by
  induction entries generalizing fields with
  | nil => exact Or.inl hlookup
  | cons entry rest ih =>
    rw [assignAll, List.foldl_cons, ← assignAll] at hlookup
    rcases ih hlookup with hfields | hrest
    · rw [lookup_assign] at hfields
      split_ifs at hfields with hkey
      · obtain rfl := Option.some.inj hfields
        exact Or.inr (by rw [hkey]; exact List.mem_cons_self)
      · exact Or.inl hfields
    · exact Or.inr (List.mem_cons_of_mem _ hrest)

/-! ## The passage -/

theorem keys_passedFields {fields : List (Key × Value)} {key : Key}
    (hkey : key ∈ (passedFields fields).map Prod.fst) : ∃ text, key = .str text := by
  induction fields with
  | nil => cases hkey
  | cons field rest ih =>
    obtain ⟨stored, value⟩ := field
    rw [passedFields, List.map_cons, List.mem_cons] at hkey
    rcases hkey with rfl | hrest
    · exact ⟨stored.text, rfl⟩
    · exact ih hrest

/-- No integer finds anything in a dictionary that was passed. -/
theorem lookup_int_passed (fields : List (Key × Value)) (value : Int) :
    (assignAll [] (passedFields fields)).lookup (.int value) = Option.none := by
  rw [List.lookup_eq_none_iff]
  intro field hfield
  rcases keys_assignAll.mp (List.mem_map_of_mem (f := Prod.fst) hfield) with hnil | hpassed
  · cases hnil
  · obtain ⟨text, htext⟩ := keys_passedFields hpassed
    rw [htext]
    rfl

mutual

theorem passed_of_plain : ∀ {value : Value}, value.Plain → value.passed = value
  | .none, _ => rfl
  | .bool _, _ => rfl
  | .number _ _, _ => rfl
  | .str _, _ => rfl
  | .list items, hplain => by
    rw [Plain] at hplain
    rw [passed, passedItems_of_plain hplain]
  | .dict fields, hplain => by
    rw [Plain] at hplain
    have hassign : assignAll [] fields = fields := @assignAll_of_nodup [] fields hplain.1
    rw [passed, passedFields_of_plain hplain.2, hassign]

theorem passedItems_of_plain : ∀ {items : List Value}, PlainItems items → passedItems items = items
  | [], _ => rfl
  | item :: rest, hplain => by
    rw [PlainItems] at hplain
    rw [passedItems, passed_of_plain hplain.1, passedItems_of_plain hplain.2]

theorem passedFields_of_plain :
    ∀ {fields : List (Key × Value)}, PlainFields fields → passedFields fields = fields
  | [], _ => rfl
  | (key, value) :: rest, hplain => by
    rw [PlainFields] at hplain
    obtain ⟨⟨text, rfl⟩, hvalue, hrest⟩ := hplain
    rw [passedFields, passed_of_plain hvalue, passedFields_of_plain hrest]
    rfl

end

theorem plainItems_map {α : Type} {read : α → Value} {rows : List α}
    (hplain : ∀ row ∈ rows, (read row).Plain) : PlainItems (rows.map read) := by
  induction rows with
  | nil => trivial
  | cons row rest ih =>
    exact ⟨hplain row List.mem_cons_self, ih fun other hother =>
      hplain other (List.mem_cons_of_mem _ hother)⟩

end Value

end Relational
