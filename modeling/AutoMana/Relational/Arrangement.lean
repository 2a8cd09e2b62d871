import AutoMana.Relational.Dict
import Mathlib.Data.List.Dedup

/-!
# Arrangements

A set is listed in some order, and so are the rows of a query without `ORDER BY`. What is done
with the list in a row may depend on the order: which of several entries of a key a dictionary
keeps is decided by the one that comes last. An arrangement can put any item last.
-/

namespace Relational

/-- The order in which the items of a set are listed. -/
structure Arrangement (α : Type) [DecidableEq α] where
  list : List α → List α
  perm : ∀ items, (list items).Perm items.dedup

namespace Arrangement

variable {α : Type} [DecidableEq α] (arrangement : Arrangement α)

@[simp] theorem mem_list {items : List α} {item : α} :
    item ∈ arrangement.list items ↔ item ∈ items :=
  (arrangement.perm items).mem_iff.trans List.mem_dedup

theorem nodup_list (items : List α) : (arrangement.list items).Nodup :=
  (arrangement.perm items).nodup_iff.mpr (List.nodup_dedup items)

/-- The items in the order of their last occurrences. -/
def inOrder (α : Type) [DecidableEq α] : Arrangement α where
  list := List.dedup
  perm := fun _ => .refl _

/-- One item is listed behind all others. -/
def lastly (item : α) : Arrangement α where
  list items := (items.dedup.filter (· ≠ item)) ++ items.dedup.filter (· = item)
  perm items := by
    have hsplit := List.filter_append_perm (· ≠ item) items.dedup
    simpa only [ne_eq, decide_not, Bool.not_not] using hsplit

theorem list_lastly {item : α} {items : List α} (hmem : item ∈ items) :
    ∃ before, (lastly item).list items = before ++ [item] := by
  have hself : items.dedup.filter (· = item) = [item] := by
    rw [List.filter_eq, List.count_eq_one_of_mem (List.nodup_dedup items)
      (List.mem_dedup.mpr hmem)]
    rfl
  exact ⟨_, congrArg (_ ++ ·) hself⟩

end Arrangement

namespace Table

variable {K V : Type} [DecidableEq K]

/-- A dictionary of entries in any order has a value for each key, which is one of its values. -/
theorem mem_of_get?_ofPairs {entries : List (K × V)} {key : K} {value : V}
    (hget : (ofPairs entries).get? key = some value) : (key, value) ∈ entries := by
  rw [get?_ofPairs] at hget
  obtain ⟨before, after, hsplit, -⟩ := List.lookup_eq_some_iff.mp hget
  rw [← List.mem_reverse, hsplit]
  simp

/-- A dictionary of entries that have at most one value for the key. -/
theorem get?_ofPairs_iff {entries : List (K × V)} {key : K} {value : V} (IsValue : V → Prop)
    (hmem : ∀ found, (key, found) ∈ entries ↔ IsValue found)
    (hunique : ∀ found other, IsValue found → IsValue other → found = other) :
    (ofPairs entries).get? key = some value ↔ IsValue value := by
  rw [← hmem]
  constructor
  · exact mem_of_get?_ofPairs
  · intro hentry
    refine get?_ofPairs_of_unique hentry fun other hother hsame => ?_
    obtain ⟨_, found⟩ := other
    obtain rfl : _ = key := hsame
    exact hunique found value ((hmem found).mp hother) ((hmem value).mp hentry)

/-- The entry that is listed last is kept. -/
theorem get?_ofPairs_lastly [DecidableEq V] {entries : List (K × V)} {entry : K × V}
    (hmem : entry ∈ entries) :
    (ofPairs ((Arrangement.lastly entry).list entries)).get? entry.1 = some entry.2 := by
  obtain ⟨before, hlist⟩ := Arrangement.list_lastly hmem
  rw [hlist, ofPairs, setAll_concat, get?_set, if_pos rfl]

end Table

end Relational
