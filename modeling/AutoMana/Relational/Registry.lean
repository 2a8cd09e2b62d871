import AutoMana.Relational.Table

/-!
# Registering values under drawn keys

A table that registers each value once, under a key drawn for it: registering
the values of a list adds a row for those not registered yet, and fails when a
drawn key is already taken.
-/

namespace Relational.Table

variable {K V : Type}

def values (table : Table K V) : List V := table.rows.map Prod.snd

/-- The later table keeps every row, and draws the key of every new one. -/
structure Grows (draw : V → K) (earlier later : Table K V) : Prop where
  kept : ∀ row ∈ earlier.rows, row ∈ later.rows
  drawn : ∀ row ∈ later.rows, row ∈ earlier.rows ∨ row.1 = draw row.2

theorem Grows.refl (draw : V → K) (table : Table K V) : Grows draw table table :=
  ⟨fun _ hrow => hrow, fun _ hrow => Or.inl hrow⟩

theorem Grows.trans {draw : V → K} {first second third : Table K V}
    (hfirst : Grows draw first second) (hsecond : Grows draw second third) :
    Grows draw first third where
  kept := fun row hrow => hsecond.kept row (hfirst.kept row hrow)
  drawn := fun row hrow => (hsecond.drawn row hrow).elim (hfirst.drawn row) Or.inr

/-- A value is registered when some key looks it up. -/
theorem mem_values_iff [DecidableEq K] {table : Table K V} {value : V} :
    value ∈ table.values ↔ ∃ key, table.get? key = some value := by
  simp only [values, List.mem_map, Prod.exists, exists_eq_right, mem_rows_iff]

section Grows

variable [DecidableEq K] {draw : V → K} {table left right : Table K V}

/-- Two futures of a table do not register two values under one key. -/
theorem Grows.value_eq (hleft : Grows draw table left) (hright : Grows draw table right)
    (hdraw : Function.Injective draw) {key : K} {leftValue rightValue : V}
    (hleftRow : left.get? key = some leftValue) (hrightRow : right.get? key = some rightValue) :
    leftValue = rightValue := by
  have hleftMem := (left.mem_rows_iff _ _).mpr hleftRow
  have hrightMem := (right.mem_rows_iff _ _).mpr hrightRow
  rcases hleft.drawn _ hleftMem with hold | hnew
  · have hkept := (right.mem_rows_iff _ _).mp (hright.kept _ hold)
    exact Option.some.inj (hkept.symm.trans hrightRow)
  · rcases hright.drawn _ hrightMem with hold | hnew'
    · have hkept := (left.mem_rows_iff _ _).mp (hleft.kept _ hold)
      exact Option.some.inj (hleftRow.symm.trans hkept)
    · exact hdraw (hnew.symm.trans hnew')

/-- Two futures of a table do not register one value under two keys. -/
theorem Grows.key_eq (hleft : Grows draw table left) (hright : Grows draw table right)
    (hleftValues : left.values.Nodup) (hrightValues : right.values.Nodup) {value : V}
    {leftKey rightKey : K} (hleftRow : left.get? leftKey = some value)
    (hrightRow : right.get? rightKey = some value) : leftKey = rightKey := by
  have hleftMem := (left.mem_rows_iff _ _).mpr hleftRow
  have hrightMem := (right.mem_rows_iff _ _).mpr hrightRow
  rcases hleft.drawn _ hleftMem with hold | hnew
  · exact congrArg Prod.fst
      (List.inj_on_of_nodup_map hrightValues (hright.kept _ hold) hrightMem rfl)
  · rcases hright.drawn _ hrightMem with hold | hnew'
    · exact congrArg Prod.fst
        (List.inj_on_of_nodup_map hleftValues hleftMem (hleft.kept _ hold) rfl)
    · exact hnew.trans hnew'.symm

theorem Grows.get?_kept {earlier later : Table K V} (hgrows : Grows draw earlier later) {key : K}
    {value : V} (hget : earlier.get? key = some value) : later.get? key = some value :=
  (later.mem_rows_iff _ _).mp (hgrows.kept _ ((earlier.mem_rows_iff _ _).mpr hget))

/-- A key still to be drawn stays free until its value is registered. -/
theorem Grows.free {earlier later : Table K V} (hgrows : Grows draw earlier later)
    (hdraw : Function.Injective draw)
    (hfree : ∀ value, value ∉ earlier.values → earlier.get? (draw value) = none) (value : V)
    (hmissing : value ∉ later.values) : later.get? (draw value) = none := by
  have hearlier : value ∉ earlier.values := by
    intro hstored
    obtain ⟨key, hget⟩ := mem_values_iff.mp hstored
    exact hmissing (mem_values_iff.mpr ⟨key, hgrows.get?_kept hget⟩)
  rw [Option.eq_none_iff_forall_ne_some]
  intro taken htaken
  rcases hgrows.drawn _ ((later.mem_rows_iff _ _).mpr htaken) with hstored | hdrawn
  · rw [mem_rows_iff, hfree value hearlier] at hstored
    cases hstored
  · have hsame : value = taken := hdraw hdrawn
    subst hsame
    exact hmissing (mem_values_iff.mpr ⟨_, htaken⟩)

end Grows

/-! ## Registering -/

variable [DecidableEq V]

/-- The values of a list that have no row yet. -/
def missing (table : Table K V) (wanted : List V) : List V :=
  wanted.dedup.filter (· ∉ table.values)

/-- The keys under which a value is registered. -/
def keysOf (table : Table K V) (value : V) : List K :=
  (table.rows.filter (·.2 = value)).map Prod.fst

theorem length_keysOf (table : Table K V) (value : V) :
    (table.keysOf value).length = table.values.count value := by
  rw [keysOf, List.length_map, values, List.count, List.countP_map, List.countP_eq_length_filter]
  rfl

/-- A registered value has one key. -/
theorem keysOf_eq_singleton {table : Table K V} (hvalues : table.values.Nodup) {value : V}
    (hmem : value ∈ table.values) : ∃ key, table.keysOf value = [key] := by
  rw [← List.length_eq_one_iff, length_keysOf, List.count_eq_one_of_mem hvalues hmem]

variable [DecidableEq K]

/-- Adds a row for each missing value; `none` when a drawn key is taken. -/
def register? (table : Table K V) (draw : V → K) (wanted : List V) : Option (Table K V) :=
  let rows := table.rows ++ (table.missing wanted).map fun value => (draw value, value)
  if hkeys : (rows.map Prod.fst).Nodup then some ⟨rows, hkeys⟩ else none

theorem mem_keysOf {table : Table K V} {value : V} {key : K} :
    key ∈ table.keysOf value ↔ table.get? key = some value := by
  rw [← mem_rows_iff, keysOf]
  simp

/-- Registering succeeds when the keys it may draw are free. -/
theorem exists_register {table : Table K V} {draw : V → K} (hdraw : Function.Injective draw)
    (hfree : ∀ value, value ∉ table.values → table.get? (draw value) = none) (wanted : List V) :
    ∃ next, table.register? draw wanted = some next := by
  refine ⟨_, dif_pos ?_⟩
  rw [List.map_append, List.map_map]
  apply List.Nodup.append table.nodup_keys (((List.nodup_dedup wanted).filter _).map hdraw)
  intro key hstored hdrawn
  obtain ⟨value, hmissing, rfl⟩ := List.mem_map.mp hdrawn
  have hnew : value ∉ table.values := by simpa using (List.mem_filter.mp hmissing).2
  have htaken := (table.mem_keys_iff _).mp hstored
  simp [hfree value hnew] at htaken

/-- Registering what is registered changes nothing. -/
theorem register_of_registered {table : Table K V} {wanted : List V}
    (hregistered : ∀ value ∈ wanted, value ∈ table.values) (draw : V → K) :
    table.register? draw wanted = some table := by
  have hmissing : table.missing wanted = [] := by
    rw [missing, List.filter_eq_nil_iff]
    intro value hvalue
    simpa using hregistered value (List.mem_dedup.mp hvalue)
  have hrows : table.rows ++ (table.missing wanted).map (fun value => (draw value, value)) =
      table.rows := by
    rw [hmissing, List.map_nil, List.append_nil]
  rw [register?, dif_pos (by rw [hrows]; exact table.nodup_keys)]
  cases table
  simp only [Option.some.injEq, mk.injEq]
  exact hrows

section Register

variable {table next : Table K V} {draw : V → K} {wanted : List V}

theorem rows_of_register (hregister : table.register? draw wanted = some next) :
    next.rows = table.rows ++ (table.missing wanted).map fun value => (draw value, value) := by
  simp only [register?, Option.dite_none_right_eq_some, Option.some.injEq] at hregister
  obtain ⟨_, rfl⟩ := hregister
  rfl

theorem values_of_register (hregister : table.register? draw wanted = some next) :
    next.values = table.values ++ table.missing wanted := by
  rw [values, rows_of_register hregister, List.map_append, List.map_map, values]
  congr 1
  exact List.map_id _

theorem nodup_values_of_register (hvalues : table.values.Nodup)
    (hregister : table.register? draw wanted = some next) : next.values.Nodup := by
  rw [values_of_register hregister]
  apply List.Nodup.append hvalues ((List.nodup_dedup _).filter _)
  intro value hstored hmissing
  have hnew := (List.mem_filter.mp hmissing).2
  exact absurd hstored (by simpa using hnew)

theorem mem_values_of_register (hregister : table.register? draw wanted = some next) {value : V}
    (hwanted : value ∈ wanted) : value ∈ next.values := by
  rw [values_of_register hregister, List.mem_append]
  by_cases hstored : value ∈ table.values
  · exact Or.inl hstored
  · exact Or.inr (List.mem_filter.mpr ⟨List.mem_dedup.mpr hwanted, by simpa using hstored⟩)

theorem mem_values_of_register_iff (hregister : table.register? draw wanted = some next)
    (value : V) : value ∈ next.values ↔ value ∈ table.values ∨ value ∈ wanted := by
  rw [values_of_register hregister, List.mem_append, missing, List.mem_filter, List.mem_dedup]
  by_cases hstored : value ∈ table.values <;> simp [hstored]

theorem grows_of_register (hregister : table.register? draw wanted = some next) :
    Grows draw table next where
  kept := fun row hrow => by
    rw [rows_of_register hregister]
    exact List.mem_append_left _ hrow
  drawn := fun row hrow => by
    rw [rows_of_register hregister, List.mem_append, List.mem_map] at hrow
    rcases hrow with hrow | ⟨value, -, rfl⟩
    · exact Or.inl hrow
    · exact Or.inr rfl

end Register

end Relational.Table
