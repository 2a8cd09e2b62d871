import Mathlib.Data.List.Forall2
import Mathlib.Order.Lattice

/-!
# Queries with placeholders

The text of a query is built with numbered placeholders, and the values are collected beside it. A
query reads its values when each number is that of a value. A builder that counts its values reads
each of them where it was added, whatever is added behind it.
-/

namespace Relational

/-- A part of a query: text, or a placeholder and what stands in its place. -/
inductive Piece (α : Type) where
  | text (content : String)
  | slot (value : α)
  deriving DecidableEq

def Piece.map {α β : Type} (f : α → β) : Piece α → Piece β
  | .text content => .text content
  | .slot value => .slot (f value)

/-- A query with numbers in its placeholders, or with values. -/
abbrev Sql (α : Type) := List (Piece α)

namespace Sql

variable {α β V : Type}

def map (f : α → β) (sql : Sql α) : Sql β := List.map (Piece.map f) sql

/-- The value of a placeholder; the first one is `$1`. -/
def valueAt (values : List V) : Nat → Option V
  | 0 => none
  | number + 1 => values[number]?

/-- A query with the values of its placeholders, where there are any. -/
def resolve (values : List V) (sql : Sql Nat) : Sql (Option V) := sql.map (valueAt values)

/-- Each placeholder has the value that stands in its place. -/
def Reads (values : List V) (sql : Sql Nat) (bound : Sql V) : Prop :=
  sql.resolve values = bound.map some

/-- The highest placeholder. -/
def highest : Sql Nat → Nat
  | [] => 0
  | .text _ :: rest => highest rest
  | .slot number :: rest => max number (highest rest)

/-- `separator.join(parts)` -/
def joined (separator : String) : List (Sql α) → Sql α
  | [] => []
  | [part] => part
  | part :: rest => part ++ .text separator :: joined separator rest

/-- `"WHERE " + " AND ".join(conditions) if conditions else ""` -/
def whereClause : List (Sql α) → Sql α
  | [] => []
  | conditions => .text "WHERE " :: joined " AND " conditions

@[simp] theorem map_nil (f : α → β) : map f [] = [] := rfl

@[simp] theorem map_text (f : α → β) (text : String) (rest : Sql α) :
    map f (.text text :: rest) = .text text :: map f rest := rfl

@[simp] theorem map_slot (f : α → β) (value : α) (rest : Sql α) :
    map f (.slot value :: rest) = .slot (f value) :: map f rest := rfl

@[simp] theorem map_append (f : α → β) (first second : Sql α) :
    map f (first ++ second) = map f first ++ map f second := List.map_append

@[simp] theorem map_joined (f : α → β) (separator : String) (parts : List (Sql α)) :
    map f (joined separator parts) = joined separator (parts.map (map f)) := by
  induction parts with
  | nil => rfl
  | cons part rest ih =>
    cases rest with
    | nil => rfl
    | cons next rest =>
      rw [joined, map_append, map_text, ih]
      · rfl
      · exact fun hnil => by cases hnil

@[simp] theorem map_whereClause (f : α → β) (conditions : List (Sql α)) :
    map f (whereClause conditions) = whereClause (conditions.map (map f)) := by
  cases conditions with
  | nil => rfl
  | cons condition rest => exact congrArg (_ :: ·) (map_joined f " AND " (condition :: rest))

end Sql

/-- Text with one placeholder or more for the same value. -/
structure Template where
  before : String
  after : String
  again : List String

namespace Template

variable {α β : Type}

/-- A template with one placeholder. -/
def one (before after : String) : Template := ⟨before, after, []⟩

def fill (template : Template) (value : α) : Sql α :=
  .text template.before :: .slot value :: .text template.after ::
    template.again.flatMap fun text => [.slot value, .text text]

@[simp] theorem map_fill (f : α → β) (template : Template) (value : α) :
    (template.fill value).map f = template.fill (f value) := by
  have hagain : Sql.map f (template.again.flatMap fun text => [.slot value, .text text]) =
      template.again.flatMap fun text => [.slot (f value), .text text] :=
    List.map_flatMap
  rw [fill, Sql.map_text, Sql.map_slot, Sql.map_text, hagain]
  rfl

theorem slot_mem_fill (template : Template) (value : α) : .slot value ∈ template.fill value :=
  List.mem_cons_of_mem _ List.mem_cons_self

end Template

namespace Sql

/-! ## Values behind the others -/

section Values

variable {V : Type} {values : List V} {sql : Sql Nat} {bound : Sql V}

/-- The number of a value is one more than the values before it. -/
theorem valueAt_length (values : List V) (value : V) (more : List V) :
    valueAt (values ++ value :: more) (values.length + 1) = some value := by
  rw [valueAt, List.getElem?_append_right (Nat.le_refl _), Nat.sub_self]
  rfl

/-- A value keeps its number when others are added behind it. -/
theorem valueAt_append {number : Nat} {value : V} (hvalue : valueAt values number = some value)
    (more : List V) : valueAt (values ++ more) number = some value := by
  cases number with
  | zero => cases hvalue
  | succ number =>
    obtain ⟨hlt, -⟩ := List.getElem?_eq_some_iff.mp hvalue
    rw [valueAt, List.getElem?_append_left hlt]
    exact hvalue

/-- A placeholder of a query that reads its values has one of them. -/
theorem Reads.value (hreads : Reads values sql bound) {number : Nat}
    (hmem : .slot number ∈ sql) : ∃ value, valueAt values number = some value := by
  have hpiece : Piece.slot (valueAt values number) ∈ bound.map some :=
    hreads ▸ List.mem_map_of_mem (f := Piece.map (valueAt values)) hmem
  obtain ⟨piece, -, hsame⟩ := List.mem_map.mp hpiece
  cases piece with
  | text text => cases hsame
  | slot value => exact ⟨value, (Piece.slot.inj hsame).symm⟩

theorem Reads.append (hreads : Reads values sql bound) (more : List V) :
    Reads (values ++ more) sql bound := by
  rw [Reads, ← hreads]
  apply List.map_congr_left
  intro piece hpiece
  cases piece with
  | text text => rfl
  | slot number =>
    obtain ⟨value, hvalue⟩ := hreads.value hpiece
    exact congrArg Piece.slot ((valueAt_append hvalue more).trans hvalue.symm)

/-! ## The highest placeholder -/

theorem le_highest {number : Nat} (hmem : .slot number ∈ sql) : number ≤ highest sql := by
  induction sql with
  | nil => cases hmem
  | cons piece rest ih =>
    rcases List.mem_cons.mp hmem with rfl | hrest
    · exact le_sup_left
    · cases piece with
      | text text => exact ih hrest
      | slot other => exact (ih hrest).trans le_sup_right

theorem highest_le {bound : Nat} (hall : ∀ number, .slot number ∈ sql → number ≤ bound) :
    highest sql ≤ bound := by
  induction sql with
  | nil => exact Nat.zero_le _
  | cons piece rest ih =>
    have hrest := ih fun number hmem => hall number (List.mem_cons_of_mem _ hmem)
    cases piece with
    | text text => exact hrest
    | slot number => exact sup_le (hall number List.mem_cons_self) hrest

/-- The highest placeholder of a query that reads its values, the last of them too. -/
theorem Reads.highest_eq (hreads : Reads values sql bound)
    (hlast : values = [] ∨ .slot values.length ∈ sql) : highest sql = values.length := by
  apply le_antisymm
  · refine highest_le fun number hmem => ?_
    obtain ⟨value, hvalue⟩ := hreads.value hmem
    cases number with
    | zero => exact Nat.zero_le _
    | succ number => exact (List.getElem?_eq_some_iff.mp hvalue).1
  · rcases hlast with rfl | hmem
    · exact Nat.zero_le _
    · exact le_highest hmem

end Values

/-! ## Conditions -/

section Conditions

variable {α : Type} {parts : List (Sql α)} {part : Sql α} {piece : Piece α}

theorem mem_joined {separator : String} (hpart : part ∈ parts) (hpiece : piece ∈ part) :
    piece ∈ joined separator parts := by
  induction parts with
  | nil => cases hpart
  | cons first rest ih =>
    cases rest with
    | nil =>
      obtain rfl := List.mem_singleton.mp hpart
      exact hpiece
    | cons next rest =>
      rcases List.mem_cons.mp hpart with rfl | hrest
      · exact List.mem_append_left _ hpiece
      · exact List.mem_append_right _ (List.mem_cons_of_mem _ (ih hrest))

theorem mem_whereClause (hpart : part ∈ parts) (hpiece : piece ∈ part) :
    piece ∈ whereClause parts := by
  cases parts with
  | nil => cases hpart
  | cons first rest => exact List.mem_cons_of_mem _ (mem_joined hpart hpiece)

end Conditions

end Sql

/-! ## Queries -/

/-- A query and the values that are passed with it. -/
structure Query (V : Type) where
  sql : Sql Nat
  values : List V

/-- Each placeholder stands where its value belongs, and the highest is the number of values. -/
structure Query.Binds {V : Type} (query : Query V) (bound : Sql V) : Prop where
  reads : query.sql.Reads query.values bound
  highest : query.sql.highest = query.values.length

/-! ## Builders -/

/-- Conditions with the values that they read; the next value is `$counter`. -/
structure Builder (V : Type) where
  conditions : List (Sql Nat)
  values : List V
  counter : Nat

namespace Builder

variable {V : Type}

def start : Builder V := ⟨[], [], 1⟩

/-- `conditions.append(f"..."); values.append(value); counter += 1` -/
def add (builder : Builder V) (template : Template) (value : V) : Builder V :=
  ⟨builder.conditions ++ [template.fill builder.counter], builder.values ++ [value],
    builder.counter + 1⟩

/-- `conditions.append("...")` -/
def addText (builder : Builder V) (text : String) : Builder V :=
  { builder with conditions := builder.conditions ++ [[.text text]] }

/-- An argument that is not given adds nothing. -/
def addGiven (builder : Builder V) (template : Template) (value : Option V) : Builder V :=
  value.elim builder (builder.add template)

/-- The conditions read the values of the filters, and one of them the last value. -/
structure Builds (builder : Builder V) (filters : List (Sql V)) : Prop where
  counter : builder.counter = builder.values.length + 1
  reads : List.Forall₂ (Sql.Reads builder.values) builder.conditions filters
  last : builder.values = [] ∨
    ∃ condition ∈ builder.conditions, .slot builder.values.length ∈ condition

theorem builds_start : (start : Builder V).Builds [] := ⟨rfl, .nil, Or.inl rfl⟩

variable {builder : Builder V} {filters : List (Sql V)}

theorem Builds.add (hbuilds : builder.Builds filters) (template : Template) (value : V) :
    (builder.add template value).Builds (filters ++ [template.fill value]) := by
  have hnew : (template.fill builder.counter).Reads (builder.values ++ [value])
      (template.fill value) := by
    rw [Sql.Reads, Sql.resolve, Template.map_fill, Template.map_fill, hbuilds.counter,
      Sql.valueAt_length]
  refine ⟨?_, ?_, Or.inr ⟨template.fill builder.counter, ?_, ?_⟩⟩
  · rw [Builder.add, List.length_append, hbuilds.counter]
    rfl
  · exact List.rel_append (hbuilds.reads.imp fun _ _ hreads => hreads.append [value])
      (.cons hnew .nil)
  · exact List.mem_append_right _ (List.mem_singleton_self _)
  · rw [Builder.add, List.length_append, List.length_singleton, ← hbuilds.counter]
    exact template.slot_mem_fill _

theorem Builds.addText (hbuilds : builder.Builds filters) (text : String) :
    (builder.addText text).Builds (filters ++ [[.text text]]) := by
  refine ⟨hbuilds.counter, List.rel_append hbuilds.reads (.cons rfl .nil), ?_⟩
  refine hbuilds.last.imp_right fun hlast => ?_
  obtain ⟨condition, hcondition, hslot⟩ := hlast
  exact ⟨condition, List.mem_append_left _ hcondition, hslot⟩

theorem Builds.addGiven (hbuilds : builder.Builds filters) (template : Template)
    (value : Option V) :
    (builder.addGiven template value).Builds (filters ++ (value.map template.fill).toList) := by
  cases value with
  | none => rwa [Option.map_none, Option.toList_none, List.append_nil]
  | some value => exact hbuilds.add template value

/-- The conditions with their values are the filters, whatever is passed behind the values. -/
theorem Builds.map_conditions_append (hbuilds : builder.Builds filters) (more : List V) :
    builder.conditions.map (Sql.map (Sql.valueAt (builder.values ++ more))) =
      filters.map (Sql.map some) := by
  refine List.forall₂_eq_eq_eq ▸ List.forall₂_map_left_iff.mpr
    (List.forall₂_map_right_iff.mpr (hbuilds.reads.imp fun condition filter hreads => ?_))
  exact hreads.append more

theorem Builds.map_conditions (hbuilds : builder.Builds filters) :
    builder.conditions.map (Sql.map (Sql.valueAt builder.values)) =
      filters.map (Sql.map some) := by
  have happend := hbuilds.map_conditions_append []
  rwa [List.append_nil] at happend

/-- The two values behind those of the conditions, as of a limit and an offset. -/
theorem Builds.valueAt_pair (hbuilds : builder.Builds filters) (limit offset : V) :
    Sql.valueAt (builder.values ++ [limit, offset]) builder.counter = some limit ∧
      Sql.valueAt (builder.values ++ [limit, offset]) (builder.counter + 1) = some offset := by
  rw [hbuilds.counter]
  refine ⟨Sql.valueAt_length _ _ _, ?_⟩
  have hoffset := Sql.valueAt_length (builder.values ++ [limit]) offset []
  rwa [List.append_assoc, List.length_append] at hoffset

/-- The clause of the conditions reads the last value. -/
theorem Builds.last_whereClause (hbuilds : builder.Builds filters) :
    builder.values = [] ∨ .slot builder.values.length ∈ Sql.whereClause builder.conditions := by
  refine hbuilds.last.imp_right fun hlast => ?_
  obtain ⟨condition, hcondition, hslot⟩ := hlast
  exact Sql.mem_whereClause hcondition hslot

end Builder

end Relational
