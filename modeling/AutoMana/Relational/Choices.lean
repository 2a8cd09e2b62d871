import Mathlib.Data.List.Basic
import Mathlib.Data.List.Sort

/-!
# Choices

A function chooses one item of a list, by some order of merit in which several items may be
on top. Which of these it chooses is up to the order of the list: each of them is chosen from
some permutation. So what is derived from the choice is free of the order if and only if it is
the same for all items on top.
-/

namespace Relational

variable {α β : Type}

/-- No permutation of the items changes the result. -/
def OrderFree (result : List α → β) (items : List α) : Prop :=
  ∀ other : List α, other.Perm items → result other = result items

theorem orderFree_congr {result other : List α → β} {items : List α}
    (hsame : ∀ permuted : List α, permuted.Perm items → result permuted = other permuted) :
    OrderFree result items ↔ OrderFree other items := by
  refine forall₂_congr fun permuted hperm => ?_
  rw [hsame permuted hperm, hsame items (List.Perm.refl items)]

/-- A result that is there for every permutation or for none decides whether a second one
counts. -/
theorem orderFree_or_iff {first second : List α → Option β} {items : List α}
    (hfirst : ∀ other : List α, other.Perm items →
      (first other).isSome = (first items).isSome) :
    OrderFree (fun items => (first items).or (second items)) items ↔
      if (first items).isSome then OrderFree first items else OrderFree second items := by
  split_ifs with hsome
  · refine orderFree_congr fun other hperm => ?_
    exact Option.or_of_isSome ((hfirst other hperm).trans hsome)
  · refine orderFree_congr fun other hperm => ?_
    have hnone : first other = none := by
      rw [← Option.not_isSome_iff_eq_none, hfirst other hperm]
      exact hsome
    rw [hnone, Option.none_or]

/-- The choice is an item on top, and every item on top is chosen from some permutation. -/
structure Chooses (choose : List α → Option α) (top : List α → α → Prop) : Prop where
  top_of_choose : ∀ {items item}, choose items = some item → top items item
  exists_choose : ∀ {items item}, top items item → ∃ chosen, choose items = some chosen
  top_perm : ∀ {items other item}, other.Perm items → (top other item ↔ top items item)
  exists_perm : ∀ {items item}, top items item →
    ∃ other : List α, other.Perm items ∧ choose other = some item

section Choose

variable {choose : List α → Option α} {top : List α → α → Prop} {items : List α}

/-- What is derived from the choice is free of the order if and only if it is the same for all
items on top. -/
theorem Chooses.orderFree_iff (hchooses : Chooses choose top) (derive : α → β) :
    OrderFree (fun items => (choose items).map derive) items ↔
      ∀ first second, top items first → top items second → derive first = derive second := by
  constructor
  · intro hfree first second hfirst hsecond
    obtain ⟨before, hbefore, hfirst⟩ := hchooses.exists_perm hfirst
    obtain ⟨after, hafter, hsecond⟩ := hchooses.exists_perm hsecond
    have hsame := (hfree before hbefore).trans (hfree after hafter).symm
    simp only [hfirst, hsecond, Option.map_some, Option.some.injEq] at hsame
    exact hsame
  · intro hsame other hperm
    cases hother : choose other with
    | none =>
      cases hitems : choose items with
      | none => simp only [hother, hitems]
      | some item =>
        obtain ⟨chosen, hchosen⟩ :=
          hchooses.exists_choose ((hchooses.top_perm hperm).mpr (hchooses.top_of_choose hitems))
        rw [hother] at hchosen
        cases hchosen
    | some item =>
      have htop := (hchooses.top_perm hperm).mp (hchooses.top_of_choose hother)
      obtain ⟨chosen, hchosen⟩ := hchooses.exists_choose htop
      simp only [hother, hchosen, Option.map_some]
      rw [hsame item chosen htop (hchooses.top_of_choose hchosen)]

theorem Chooses.isSome_perm (hchooses : Chooses choose top) {other : List α}
    (hperm : other.Perm items) : (choose other).isSome = (choose items).isSome := by
  rw [Bool.eq_iff_iff, Option.isSome_iff_exists, Option.isSome_iff_exists]
  constructor
  · rintro ⟨item, hitem⟩
    exact hchooses.exists_choose ((hchooses.top_perm hperm).mp (hchooses.top_of_choose hitem))
  · rintro ⟨item, hitem⟩
    exact hchooses.exists_choose ((hchooses.top_perm hperm).mpr (hchooses.top_of_choose hitem))

end Choose

/-! ## Selections -/

/-- A selection of items, which keeps the first item in front if it keeps it. -/
structure Selects (select : List α → List α) : Prop where
  subset : ∀ items, select items ⊆ items
  perm : ∀ {items other : List α}, other.Perm items → (select other).Perm (select items)
  front : ∀ {item rest}, item ∈ select (item :: rest) →
    ∃ others, select (item :: rest) = item :: others

theorem selects_filter {keep : List α → α → Bool}
    (hkeep : ∀ {items other : List α}, other.Perm items → keep other = keep items) :
    Selects fun items => items.filter (keep items) where
  subset items := List.filter_subset_self items
  perm hperm := by
    rw [hkeep hperm]
    exact hperm.filter _
  front {item rest} hkept := by
    refine ⟨rest.filter (keep (item :: rest)), ?_⟩
    exact List.filter_cons_of_pos (List.mem_filter.mp hkept).2

theorem Selects.comp {first second : List α → List α} (hfirst : Selects first)
    (hsecond : Selects second) : Selects fun items => second (first items) where
  subset items := List.Subset.trans (hsecond.subset _) (hfirst.subset items)
  perm hperm := hsecond.perm (hfirst.perm hperm)
  front {item rest} hkept := by
    obtain ⟨others, hothers⟩ := hfirst.front (hsecond.subset _ hkept)
    rw [hothers] at hkept ⊢
    exact hsecond.front hkept

/-! ## The best score -/

theorem eq_filter_of_forall {keep : α → Prop} [DecidablePred keep] {items : List α}
    (hkeep : ∀ item ∈ items, keep item) : items = items.filter (keep ·) :=
  (List.filter_eq_self.mpr fun item hitem => decide_eq_true (hkeep item hitem)).symm

/-- The items with the best score if it is positive, and else all, are those that no positive
score beats. -/
theorem filter_best_eq {score : α → ℤ} {items : List α} {best : ℤ}
    (hbest : (items.map score).max? = some best) :
    (if 0 < best then items.filter (score · = best) else items) =
      items.filter fun item => ∀ other ∈ items, 0 < score other → score other ≤ score item := by
  obtain ⟨hmem, hle⟩ := List.max?_eq_some_iff.mp hbest
  obtain ⟨top, htop, rfl⟩ := List.mem_map.mp hmem
  simp only [List.forall_mem_map] at hle
  split_ifs with hpositive
  · apply List.filter_congr
    intro item hitem
    apply decide_eq_decide.mpr
    constructor
    · intro hsame other hother _
      exact (hle other hother).trans hsame.ge
    · intro hbeaten
      exact le_antisymm (hle item hitem) (hbeaten top htop hpositive)
  · refine eq_filter_of_forall fun item _ other hother hscore => ?_
    exact absurd (hscore.trans_le (hle other hother)) hpositive

/-! ## The lowest item -/

section Lowest

variable (key : α → ℕ)

def sortByKey (items : List α) : List α := items.insertionSort (key · ≤ key ·)

def IsLowest (items : List α) (item : α) : Prop :=
  item ∈ items ∧ ∀ other ∈ items, key item ≤ key other

variable {key} {items : List α} {item : α}

theorem isLowest_of_head (hhead : (sortByKey key items).head? = some item) :
    IsLowest key items item := by
  obtain ⟨rest, hsorted⟩ := List.head?_eq_some_iff.mp hhead
  have hperm : (item :: rest).Perm items := hsorted ▸ List.perm_insertionSort _ items
  refine ⟨hperm.mem_iff.mp List.mem_cons_self, ?_⟩
  intro other hother
  have hpairwise : (sortByKey key items).Pairwise (key · ≤ key ·) :=
    List.pairwise_insertionSort _ items
  rw [hsorted, List.pairwise_cons] at hpairwise
  rcases List.mem_cons.mp (hperm.mem_iff.mpr hother) with rfl | hrest
  · exact le_rfl
  · exact hpairwise.1 other hrest

/-- Of the lowest items the sort leaves the first one first. -/
theorem head_sortByKey_cons (hlowest : ∀ other ∈ items, key item ≤ key other) :
    (sortByKey key (item :: items)).head? = some item := by
  rw [sortByKey, List.insertionSort_cons]
  cases hsorted : List.insertionSort (key · ≤ key ·) items with
  | nil => rfl
  | cons first rest =>
    have hmem : first ∈ items := by
      rw [← List.mem_insertionSort (key · ≤ key ·), hsorted]
      exact List.mem_cons_self
    rw [List.orderedInsert, if_pos (hlowest first hmem)]
    rfl

theorem Selects.chooses {select : List α → List α} (hselects : Selects select) (key : α → ℕ) :
    Chooses (fun items => (sortByKey key (select items)).head?)
      fun items => IsLowest key (select items) where
  top_of_choose := isLowest_of_head
  exists_choose {items item} htop := by
    have hmem : item ∈ sortByKey key (select items) :=
      (List.mem_insertionSort _).mpr htop.1
    exact Option.isSome_iff_exists.mp (List.isSome_head?.mpr (List.ne_nil_of_mem hmem))
  top_perm hperm := by
    simp only [IsLowest, (hselects.perm hperm).mem_iff]
  exists_perm {items item} htop := by
    obtain ⟨before, after, rfl⟩ := List.append_of_mem (hselects.subset _ htop.1)
    have hperm : (item :: (before ++ after)).Perm (before ++ item :: after) :=
      List.perm_middle.symm
    obtain ⟨others, hothers⟩ := hselects.front ((hselects.perm hperm).mem_iff.mpr htop.1)
    refine ⟨item :: (before ++ after), hperm, ?_⟩
    rw [hothers]
    refine head_sortByKey_cons fun other hother => ?_
    refine htop.2 other ((hselects.perm hperm).mem_iff.mp ?_)
    rw [hothers]
    exact List.mem_cons_of_mem _ hother

end Lowest

end Relational
