import Mathlib.Data.List.Basic
import Mathlib.Order.Lattice

/-!
# The order of a query

`ORDER BY` compares rows by columns, and rows that no column tells apart are tied: they may be
listed either way. An order is built from those of its columns.
-/

namespace Relational

variable {α β : Type}

/-- Which of two rows may be listed first; of tied rows either may. -/
structure OrderBy (α : Type) where
  le : α → α → Bool
  trans : ∀ {first second third}, le first second = true → le second third = true →
    le first third = true
  total : ∀ first second, le first second = true ∨ le second first = true

namespace OrderBy

def linear (α : Type) [LinearOrder α] : OrderBy α where
  le first second := decide (first ≤ second)
  trans hfirst hsecond :=
    decide_eq_true (le_trans (of_decide_eq_true hfirst) (of_decide_eq_true hsecond))
  total first second := (le_total first second).imp decide_eq_true decide_eq_true

/-- By a column. -/
def on (order : OrderBy β) (column : α → β) : OrderBy α where
  le row other := order.le (column row) (column other)
  trans := order.trans
  total _ _ := order.total _ _

def desc (order : OrderBy α) : OrderBy α where
  le first second := order.le second first
  trans hfirst hsecond := order.trans hsecond hfirst
  total first second := order.total second first

def directed (order : OrderBy α) (descending : Bool) : OrderBy α :=
  if descending then order.desc else order

/-- `NULLS LAST` -/
def nullsLast (order : OrderBy α) : OrderBy (Option α) where
  le
    | some first, some second => order.le first second
    | none, some _ => false
    | _, none => true
  trans {first second third} hfirst hsecond := by
    cases third with
    | none => cases first <;> rfl
    | some third =>
      cases second with
      | none => cases hsecond
      | some second =>
        cases first with
        | none => cases hfirst
        | some first => exact order.trans hfirst hsecond
  total
    | some first, some second => order.total first second
    | none, some _ => Or.inr rfl
    | some _, none => Or.inl rfl
    | none, none => Or.inl rfl

variable {order second : OrderBy α} {row other third : α}

@[simp] theorem le_refl (order : OrderBy α) (row : α) : order.le row row = true :=
  (order.total row row).elim id id

theorem le_of_not_le (hnot : order.le row other = false) : order.le other row = true :=
  (order.total other row).resolve_right (Bool.eq_false_iff.mp hnot)

/-- Tied rows are listed by another order. -/
def thenBy (order second : OrderBy α) : OrderBy α where
  le row other := order.le row other && (!order.le other row || second.le row other)
  trans {row other third} hfirst hsecond := by
    simp only [Bool.and_eq_true, Bool.or_eq_true, Bool.not_eq_true'] at hfirst hsecond ⊢
    refine ⟨order.trans hfirst.1 hsecond.1, ?_⟩
    cases hback : order.le third row with
    | false => exact Or.inl rfl
    | true =>
      -- all three are tied
      have hother := order.trans hsecond.1 hback
      have hthird := order.trans hback hfirst.1
      exact Or.inr (second.trans (hfirst.2.resolve_left (by simp [hother]))
        (hsecond.2.resolve_left (by simp [hthird])))
  total row other := by
    simp only [Bool.and_eq_true, Bool.or_eq_true, Bool.not_eq_true']
    cases hrow : order.le row other with
    | false => exact Or.inr ⟨le_of_not_le hrow, Or.inl rfl⟩
    | true =>
      cases hother : order.le other row with
      | false => exact Or.inl ⟨rfl, Or.inl rfl⟩
      | true =>
        exact (second.total row other).imp (fun hle => ⟨rfl, Or.inr hle⟩)
          fun hle => ⟨rfl, Or.inr hle⟩

/-- The rows with the flag come first. -/
def flagged (flag : α → Bool) : OrderBy α where
  le row other := flag row || !flag other
  trans {row other third} hfirst hsecond := by
    simp only [Bool.or_eq_true, Bool.not_eq_true'] at hfirst hsecond ⊢
    rcases hsecond with hother | hthird
    · exact Or.inl (hfirst.resolve_right (by simp [hother]))
    · exact Or.inr hthird
  total row other := by
    cases flag row <;> simp

theorem le_of_thenBy (hle : (order.thenBy second).le row other = true) :
    order.le row other = true := (Bool.and_eq_true_iff.mp hle).1

/-- A tie is broken by the second order. -/
theorem second_of_thenBy (hle : (order.thenBy second).le row other = true)
    (htied : order.le other row = true) : second.le row other = true := by
  have hboth := (Bool.and_eq_true_iff.mp hle).2
  rwa [htied, Bool.not_true, Bool.false_or] at hboth

/-! ## Answers in order -/

/-- The rows are listed in the order that is asked for. -/
def Ordered (order : OrderBy α) (rows : List α) : Prop :=
  rows.Pairwise fun row other => order.le row other = true

theorem Ordered.of_thenBy {rows : List α} (hordered : (order.thenBy second).Ordered rows) :
    order.Ordered rows := hordered.imp le_of_thenBy

/-- An answer to a query for the rows. -/
structure Sorts (order : OrderBy α) (rows answer : List α) : Prop where
  perm : answer.Perm rows
  ordered : order.Ordered answer

theorem exists_sorts (order : OrderBy α) (rows : List α) : ∃ answer, order.Sorts rows answer :=
  ⟨rows.mergeSort order.le, List.mergeSort_perm _ _,
    @List.pairwise_mergeSort _ order.le (fun _ _ _ => order.trans)
      (fun row other => (Bool.or_eq_true _ _).mpr (order.total row other)) rows⟩

/-- The first row of an answer comes before every other one. -/
theorem le_of_head? {rows : List α} {first : α} (hordered : order.Ordered rows)
    (hfirst : rows.head? = some first) (hrow : row ∈ rows) : order.le first row = true := by
  obtain ⟨rest, rfl⟩ := List.head?_eq_some_iff.mp hfirst
  rcases List.mem_cons.mp hrow with rfl | hrest
  · exact order.le_refl _
  · exact List.rel_of_pairwise_cons hordered hrest

end OrderBy

end Relational
