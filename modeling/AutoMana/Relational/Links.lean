import AutoMana.Relational.Dict
import AutoMana.Relational.Registry
import Mathlib.Data.List.Nodup

/-!
# Linking new keys to values

Values get keys that are drawn for them, each value one key. The keys and the values are listed in
orders of their own and meet by their numbers. A value that is linked already keeps its key, and a
key that is taken is an error.
-/

namespace Relational

variable {K V : Type}

/-- The order in which the rows of a query are listed. -/
structure Listing (α : Type) where
  list : List α → List α
  perm : ∀ rows, (list rows).Perm rows

@[simp] theorem Listing.mem_list {α : Type} (listing : Listing α) {rows : List α} {row : α} :
    row ∈ listing.list rows ↔ row ∈ rows := (listing.perm rows).mem_iff

/-! ## Drawing keys -/

/-- Keys that are not taken, each other one. -/
structure Supply (K : Type) where
  draw : List K → ℕ → K
  injective : ∀ taken, Function.Injective (draw taken)
  new : ∀ taken number, draw taken number ∉ taken

namespace Supply

variable (supply : Supply K) (taken : List K)

/-- As many keys as are asked for. -/
def take (count : ℕ) : List K := (List.range count).map (supply.draw taken)

@[simp] theorem length_take (count : ℕ) : (supply.take taken count).length = count := by
  rw [take, List.length_map, List.length_range]

theorem nodup_take (count : ℕ) : (supply.take taken count).Nodup :=
  List.nodup_range.map (supply.injective taken)

theorem notMem_of_mem_take {count : ℕ} {key : K} (hkey : key ∈ supply.take taken count) :
    key ∉ taken := by
  obtain ⟨number, -, rfl⟩ := List.mem_map.mp hkey
  exact supply.new taken number

end Supply

/-! ## Meeting by number -/

/-- `JOIN ... USING (rn)` of two lists with numbers: both lists are used up. -/
theorem zip_of_length_eq {keys : List K} {values : List V} (hlength : keys.length = values.length) :
    (keys.zip values).map Prod.fst = keys ∧ (keys.zip values).map Prod.snd = values :=
  ⟨List.map_fst_zip hlength.le, List.map_snd_zip hlength.ge⟩

namespace Table

section Links

variable [DecidableEq K] {table next : Table K V} {pairs : List (K × V)}

/-- What is linked anew comes behind what is stored. -/
structure Links (table next : Table K V) (pairs : List (K × V)) : Prop where
  rows : ∃ added, next.rows = table.rows ++ added ∧ added.Sublist pairs
  linked : ∀ value ∈ pairs.map Prod.snd, value ∈ next.values
  unique : table.values.Nodup → next.values.Nodup

namespace Links

theorem kept (hlinks : Links table next pairs) {key : K} {value : V}
    (hget : table.get? key = some value) : next.get? key = some value := by
  obtain ⟨added, hrows, -⟩ := hlinks.rows
  rw [← mem_rows_iff, hrows]
  exact List.mem_append_left _ ((table.mem_rows_iff _ _).mpr hget)

/-- What is new was to be linked. -/
theorem stored_or_mem (hlinks : Links table next pairs) {key : K} {value : V}
    (hget : next.get? key = some value) : table.get? key = some value ∨ (key, value) ∈ pairs := by
  obtain ⟨added, hrows, hadded⟩ := hlinks.rows
  rw [← mem_rows_iff, hrows, List.mem_append, mem_rows_iff] at hget
  exact hget.imp_right fun hmem => hadded.subset hmem

/-- Values that are new and distinct are all linked, each to the key it comes with. -/
theorem get?_of_mem (hlinks : Links table next pairs) (hdistinct : (pairs.map Prod.snd).Nodup)
    (hnew : ∀ value ∈ pairs.map Prod.snd, value ∉ table.values) {key : K} {value : V}
    (hmem : (key, value) ∈ pairs) : next.get? key = some value := by
  have hvalue : value ∈ pairs.map Prod.snd := List.mem_map_of_mem (f := Prod.snd) hmem
  obtain ⟨other, hother⟩ := mem_values_iff.mp (hlinks.linked value hvalue)
  rcases hlinks.stored_or_mem hother with hstored | hpair
  · exact absurd (mem_values_iff.mpr ⟨other, hstored⟩) (hnew value hvalue)
  · have hsame := List.inj_on_of_nodup_map hdistinct hpair hmem rfl
    rw [Prod.mk.injEq] at hsame
    exact hsame.1 ▸ hother

end Links

end Links

section Link

variable [DecidableEq K] [DecidableEq V]

/-- `INSERT ... ON CONFLICT (value) DO NOTHING`; `none` when a key is taken. -/
def link? (table : Table K V) : List (K × V) → Option (Table K V)
  | [] => some table
  | (key, value) :: rest =>
    if value ∈ table.values then table.link? rest
    else if table.get? key = none then (table.set key value).link? rest
    else none

variable {table next : Table K V} {pairs : List (K × V)}

theorem links_of_link (hlink : table.link? pairs = some next) : Links table next pairs := by
  induction pairs generalizing table with
  | nil =>
    obtain rfl := Option.some.inj hlink
    exact ⟨⟨[], (List.append_nil _).symm, List.Sublist.refl _⟩,
      fun _ hmem => absurd hmem List.not_mem_nil, id⟩
  | cons pair rest ih =>
    obtain ⟨key, value⟩ := pair
    rw [link?] at hlink
    split_ifs at hlink with hstored hnew
    · have hlinks := ih hlink
      obtain ⟨added, hrows, hadded⟩ := hlinks.rows
      refine ⟨⟨added, hrows, hadded.cons _⟩, fun other hother => ?_, hlinks.unique⟩
      rcases List.mem_cons.mp hother with rfl | hmem
      · rw [values, hrows, List.map_append]
        exact List.mem_append_left _ hstored
      · exact hlinks.linked other hmem
    · have hlinks := ih hlink
      obtain ⟨added, hrows, hadded⟩ := hlinks.rows
      rw [rows_set_of_new hnew, List.append_assoc] at hrows
      refine ⟨⟨_, hrows, hadded.cons_cons _⟩, fun other hother => ?_, fun hunique => ?_⟩
      · rcases List.mem_cons.mp hother with rfl | hmem
        · rw [values, hrows]
          simp
        · exact hlinks.linked other hmem
      · apply hlinks.unique
        rw [values, rows_set_of_new hnew, List.map_append]
        refine List.Nodup.append hunique (List.nodup_singleton _) ?_
        intro other hother hsame
        obtain rfl : other = value := List.mem_singleton.mp hsame
        exact hstored hother

/-- Keys that are new and distinct can be linked. -/
theorem exists_link (hdistinct : (pairs.map Prod.fst).Nodup)
    (hnew : ∀ key ∈ pairs.map Prod.fst, table.get? key = none) :
    ∃ next, table.link? pairs = some next := by
  induction pairs generalizing table with
  | nil => exact ⟨table, rfl⟩
  | cons pair rest ih =>
    obtain ⟨key, value⟩ := pair
    obtain ⟨hkey, hrest⟩ := List.nodup_cons.mp hdistinct
    have hlater : ∀ other ∈ rest.map Prod.fst, table.get? other = none :=
      fun other hother => hnew other (List.mem_cons_of_mem _ hother)
    rw [link?]
    split_ifs with hstored hfree
    · exact ih hrest hlater
    · refine ih hrest fun other hother => ?_
      have hne : other ≠ key := fun hsame => hkey (hsame ▸ hother)
      rw [get?_set, if_neg hne]
      exact hlater other hother
    · exact absurd (hnew key List.mem_cons_self) hfree

end Link

end Table

end Relational
