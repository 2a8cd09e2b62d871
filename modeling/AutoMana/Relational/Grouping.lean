import Mathlib.Data.List.Count
import Mathlib.Data.List.Perm.Basic

/-!
# Keeping the first item of each key

The items of a queue are grouped by a key that some of them have, in a dictionary of
lists, and all but the first of each group are then removed from the queue by value.
What is left are the items without a key and the first of each key, in the queue's own
order.
-/

namespace Relational

variable {α κ : Type} [DecidableEq κ]

/-- `groups.setdefault(key, []).append(item)`. -/
def appendTo : List (κ × List α) → κ → α → List (κ × List α)
  | [], key, item => [(key, [item])]
  | group :: rest, key, item =>
    if group.1 = key then (key, group.2 ++ [item]) :: rest else group :: appendTo rest key item

/-- `for item in items: if it has a key: groups.setdefault(key, []).append(item)`. -/
def groupBy (key : α → Option κ) (groups : List (κ × List α)) (items : List α) :
    List (κ × List α) :=
  items.foldl (fun groups item => (key item).elim groups fun k => appendTo groups k item) groups

/-- The items whose key an item before them has. -/
def repeats (key : α → Option κ) : List κ → List α → List α
  | _, [] => []
  | seen, item :: rest =>
    (key item).elim (repeats key seen rest) fun k =>
      if k ∈ seen then item :: repeats key seen rest else repeats key (seen ++ [k]) rest

/-- The items without a key and the first of each key. -/
def firsts (key : α → Option κ) : List κ → List α → List α
  | _, [] => []
  | seen, item :: rest =>
    (key item).elim (item :: firsts key seen rest) fun k =>
      if k ∈ seen then firsts key seen rest else item :: firsts key (seen ++ [k]) rest

theorem appendTo_of_notMem {groups : List (κ × List α)} {key : κ} (item : α)
    (hnew : key ∉ groups.map Prod.fst) : appendTo groups key item = groups ++ [(key, [item])] := by
  induction groups with
  | nil => rfl
  | cons group rest ih =>
    rw [List.map_cons, List.mem_cons, not_or] at hnew
    rw [appendTo, if_neg (Ne.symm hnew.1), ih hnew.2, List.cons_append]

/-- Appending to a group that is there keeps the keys and adds the item behind the first
of its group. -/
theorem appendTo_of_mem {groups : List (κ × List α)} {key : κ} (item : α)
    (hseen : key ∈ groups.map Prod.fst) (hfull : ∀ group ∈ groups, group.2 ≠ []) :
    (appendTo groups key item).map Prod.fst = groups.map Prod.fst ∧
    (∀ group ∈ appendTo groups key item, group.2 ≠ []) ∧
    ((appendTo groups key item).flatMap fun group => group.2.tail).Perm
      ((groups.flatMap fun group => group.2.tail) ++ [item]) := by
  induction groups with
  | nil => cases hseen
  | cons group rest ih =>
    have hgroup := hfull group List.mem_cons_self
    have hrest : ∀ other ∈ rest, other.2 ≠ [] :=
      fun other hmem => hfull other (List.mem_cons_of_mem _ hmem)
    by_cases hkey : group.1 = key
    · rw [appendTo, if_pos hkey]
      refine ⟨by rw [List.map_cons, List.map_cons, hkey], ?_, ?_⟩
      · rw [List.forall_mem_cons]
        exact ⟨List.append_ne_nil_of_right_ne_nil _ (List.cons_ne_nil _ _), hrest⟩
      · simp only [List.flatMap_cons, List.tail_append_of_ne_nil hgroup, List.append_assoc]
        exact List.perm_append_comm.append_left _
    · rw [List.map_cons, List.mem_cons] at hseen
      obtain ⟨hkeys, hfull', hperm⟩ := ih (hseen.resolve_left (Ne.symm hkey)) hrest
      rw [appendTo, if_neg hkey]
      refine ⟨by rw [List.map_cons, List.map_cons, hkeys], ?_, ?_⟩
      · rw [List.forall_mem_cons]
        exact ⟨hgroup, hfull'⟩
      · simp only [List.flatMap_cons, List.append_assoc]
        exact hperm.append_left _

/-- Behind the firsts of the groups are the items whose key came before. -/
theorem groupBy_tails_perm (key : α → Option κ) {groups : List (κ × List α)}
    (hfull : ∀ group ∈ groups, group.2 ≠ []) (items : List α) :
    ((groupBy key groups items).flatMap fun group => group.2.tail).Perm
      ((groups.flatMap fun group => group.2.tail) ++ repeats key (groups.map Prod.fst) items) := by
  induction items generalizing groups with
  | nil => simp [groupBy, repeats]
  | cons item rest ih =>
    rw [groupBy, List.foldl_cons, repeats]
    cases hitem : key item with
    | none => exact ih hfull
    | some k =>
      simp only [Option.elim_some]
      split
      · next hseen =>
        obtain ⟨hkeys, hfull', hperm⟩ := appendTo_of_mem item hseen hfull
        have hrest := ih hfull'
        rw [hkeys] at hrest
        apply hrest.trans
        simpa using hperm.append_right (repeats key (groups.map Prod.fst) rest)
      · next hnew =>
        rw [appendTo_of_notMem item hnew]
        have hfull' : ∀ group ∈ groups ++ [(k, [item])], group.2 ≠ [] := by
          rw [List.forall_mem_append]
          exact ⟨hfull, by simp⟩
        have hrest := ih hfull'
        rwa [List.flatMap_append, List.map_append, List.flatMap_singleton, List.tail_cons,
          List.append_nil] at hrest

theorem repeats_append_firsts_perm (key : α → Option κ) (seen : List κ) (items : List α) :
    (repeats key seen items ++ firsts key seen items).Perm items := by
  induction items generalizing seen with
  | nil => exact List.Perm.nil
  | cons item rest ih =>
    rw [repeats, firsts]
    cases key item with
    | none => exact List.perm_middle.trans ((ih seen).cons item)
    | some k =>
      simp only [Option.elim_some]
      split
      · exact (ih seen).cons item
      · exact List.perm_middle.trans ((ih _).cons item)

/-- An item is among the firsts when it has no key or none before it has its key. -/
theorem mem_firsts {key : α → Option κ} {seen : List κ} {items : List α} {item : α} :
    item ∈ firsts key seen items ↔
      item ∈ items ∧ ∀ k, key item = some k →
        k ∉ seen ∧ items.find? (fun other => key other = some k) = some item := by
  induction items generalizing seen with
  | nil => simp [firsts]
  | cons head rest ih =>
    rw [firsts]
    cases hhead : key head with
    | none =>
      rw [Option.elim_none, List.mem_cons, List.mem_cons, ih]
      grind
    | some headKey =>
      simp only [Option.elim_some]
      split
      · rw [ih]
        grind
      · rw [List.mem_cons, List.mem_cons, ih]
        grind

theorem count_firsts_of_keyless [DecidableEq α] {key : α → Option κ} {item : α}
    (hkey : key item = none) (seen : List κ) (items : List α) :
    (firsts key seen items).count item = items.count item := by
  induction items generalizing seen with
  | nil => rfl
  | cons head rest ih =>
    rw [firsts]
    cases hhead : key head with
    | none => rw [Option.elim_none, List.count_cons, List.count_cons, ih]
    | some headKey =>
      have hne : head ≠ item := by
        intro heq
        rw [heq, hkey] at hhead
        cases hhead
      simp only [Option.elim_some, List.count_cons_of_ne hne]
      split
      · exact ih _
      · rw [List.count_cons_of_ne hne, ih]

/-- Removing the tails of the groups from the queue leaves the firsts, in the queue's order. -/
theorem diff_tails_perm_firsts [DecidableEq α] (key : α → Option κ) (items : List α) :
    (items.diff ((groupBy key [] items).flatMap fun group => group.2.tail)).Perm
      (firsts key [] items) := by
  have htails := @groupBy_tails_perm _ _ _ key [] (by simp) items
  rw [List.flatMap_nil, List.nil_append, List.map_nil] at htails
  have hsplit := repeats_append_firsts_perm key [] items
  rw [List.perm_iff_count]
  intro item
  rw [htails.diff_left items, List.count_diff, ← hsplit.count_eq, List.count_append]
  omega

end Relational
