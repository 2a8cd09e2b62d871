import Mathlib.Algebra.Order.Ring.Defs
import Mathlib.Tactic.Linarith
import Mathlib.Tactic.Ring

/-!
# Budgets that refill

A budget grows with time up to a cap, and is spent from. What can still be spent and what has been
spent since a moment are together no more than the cap and what came in since then, so no window of
time sees more spent than the cap and what comes in within it.
-/

namespace Relational

/-- What can be spent, since when, and what was spent at which time, the last of it first. -/
structure Budget (K : Type) where
  level : K
  time : K
  spent : List (K × K)

namespace Budget

variable {K : Type} [CommRing K] [LinearOrder K]

/-- The budget grows until a time. -/
def refill (rate cap now : K) (budget : Budget K) : Budget K :=
  { budget with level := min cap (budget.level + (now - budget.time) * rate), time := now }

def spend (amount : K) (budget : Budget K) : Budget K :=
  { budget with level := budget.level - amount, spent := (budget.time, amount) :: budget.spent }

/-- What was spent in a window of time, its ends included. -/
def totalIn (first last : K) : List (K × K) → K
  | [] => 0
  | (time, amount) :: rest =>
    if first ≤ time ∧ time ≤ last then amount + totalIn first last rest else totalIn first last rest

section Windows

variable {first last other : K} {spent : List (K × K)}

/-- The end of a window behind the last time does not count. -/
theorem totalIn_last (hlast : ∀ entry ∈ spent, entry.1 ≤ last)
    (hother : ∀ entry ∈ spent, entry.1 ≤ other) :
    totalIn first last spent = totalIn first other spent := by
  induction spent with
  | nil => rfl
  | cons entry rest ih =>
    obtain ⟨hentry, hrest⟩ := List.forall_mem_cons.mp hlast
    obtain ⟨hentry', hrest'⟩ := List.forall_mem_cons.mp hother
    simp only [totalIn, hentry, hentry', and_true, ih hrest hrest']

theorem totalIn_eq_zero (hfirst : ∀ entry ∈ spent, entry.1 < first) :
    totalIn first last spent = 0 := by
  induction spent with
  | nil => rfl
  | cons entry rest ih =>
    obtain ⟨hentry, hrest⟩ := List.forall_mem_cons.mp hfirst
    rw [totalIn, if_neg fun hin => absurd hin.1 (not_le.mpr hentry), ih hrest]

end Windows

/-- A budget that was never above its cap and never below zero. -/
structure Within (rate cap : K) (budget : Budget K) : Prop where
  nonneg : 0 ≤ budget.level
  le_cap : budget.level ≤ cap
  times : ∀ entry ∈ budget.spent, entry.1 ≤ budget.time
  since : ∀ first ≤ budget.time, budget.level + totalIn first budget.time budget.spent ≤
    cap + (budget.time - first) * rate
  windows : ∀ first last, first ≤ last → totalIn first last budget.spent ≤
    cap + (last - first) * rate

variable [IsStrictOrderedRing K] {rate cap : K} {budget : Budget K}

theorem within_full (hcap : 0 ≤ cap) (hrate : 0 ≤ rate) (time : K) :
    Within rate cap ⟨cap, time, []⟩ := by
  have hroom : ∀ first last : K, first ≤ last → 0 ≤ (last - first) * rate :=
    fun first last hle => mul_nonneg (sub_nonneg.mpr hle) hrate
  refine ⟨hcap, le_refl cap, fun _ hmem => absurd hmem List.not_mem_nil, ?_, ?_⟩
  · intro first hfirst
    exact add_le_add (le_refl cap) (hroom first time hfirst)
  · intro first last hle
    exact add_nonneg hcap (hroom first last hle)

/-- What comes in raises both sides alike, and a moment behind the last spending sees none of it. -/
theorem Within.refill (hwithin : Within rate cap budget) (hcap : 0 ≤ cap) (hrate : 0 ≤ rate)
    {now : K} (hnow : budget.time ≤ now) : Within rate cap (budget.refill rate cap now) := by
  have hin : 0 ≤ (now - budget.time) * rate := mul_nonneg (sub_nonneg.mpr hnow) hrate
  have htimes : ∀ entry ∈ budget.spent, entry.1 ≤ now :=
    fun entry hmem => (hwithin.times entry hmem).trans hnow
  refine ⟨le_min hcap (add_nonneg hwithin.nonneg hin), min_le_left _ _, htimes, ?_,
    hwithin.windows⟩
  intro first hfirst
  rcases le_or_gt first budget.time with hbefore | hbehind
  · calc min cap (budget.level + (now - budget.time) * rate) + totalIn first now budget.spent
        ≤ budget.level + (now - budget.time) * rate + totalIn first budget.time budget.spent := by
          rw [totalIn_last htimes hwithin.times]
          exact add_le_add_left (min_le_right _ _) _
      _ ≤ cap + (budget.time - first) * rate + (now - budget.time) * rate := by
          linarith only [hwithin.since first hbefore]
      _ = cap + (now - first) * rate := by ring
  · have hnone : totalIn first now budget.spent = 0 :=
      totalIn_eq_zero fun entry hmem => (hwithin.times entry hmem).trans_lt hbehind
    calc min cap (budget.level + (now - budget.time) * rate) + totalIn first now budget.spent
        ≤ cap := by
          rw [hnone, add_zero]
          exact min_le_left _ _
      _ ≤ cap + (now - first) * rate :=
          le_add_of_nonneg_right (mul_nonneg (sub_nonneg.mpr hfirst) hrate)

/-- What is spent moves from the level to the windows that the moment is in. -/
theorem Within.spend (hwithin : Within rate cap budget) (hrate : 0 ≤ rate) {amount : K}
    (hamount : 0 ≤ amount) (hlevel : amount ≤ budget.level) :
    Within rate cap (budget.spend amount) := by
  refine ⟨sub_nonneg.mpr hlevel, (sub_le_self _ hamount).trans hwithin.le_cap, ?_, ?_, ?_⟩
  · exact List.forall_mem_cons.mpr ⟨le_refl _, hwithin.times⟩
  · intro first hfirst
    have hsince := hwithin.since first hfirst
    rw [Budget.spend, totalIn, if_pos ⟨hfirst, le_refl _⟩]
    linarith only [hsince]
  · intro first last hle
    rw [Budget.spend, totalIn]
    split_ifs with hin
    · obtain ⟨hfirst, hlast⟩ := hin
      have hend : totalIn first last budget.spent = totalIn first budget.time budget.spent :=
        totalIn_last (fun entry hmem => (hwithin.times entry hmem).trans hlast) hwithin.times
      calc amount + totalIn first last budget.spent
          ≤ budget.level + totalIn first budget.time budget.spent := by
            rw [hend]
            exact add_le_add_left hlevel _
        _ ≤ cap + (budget.time - first) * rate := hwithin.since first hfirst
        _ ≤ cap + (last - first) * rate := by
            have hmore := mul_le_mul_of_nonneg_right (sub_le_sub_right hlast first) hrate
            exact add_le_add (le_refl cap) hmore
    · exact hwithin.windows first last hle

end Budget

end Relational
