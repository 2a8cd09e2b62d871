import AutoMana.MtgStock.Discovery
import Mathlib.Data.Finset.Order
import Mathlib.Data.Int.ConditionallyCompleteOrder
import Mathlib.Data.Int.Interval
import Mathlib.Order.ConditionallyCompleteLattice.Basic

/-!
# get_last_print_id

The search walks down from the last known id to one that exists, doubles until an id is
missing, and halves what lies between. The loops keep an upper bound that is missing above a
lower bound that exists, unless the walk ended at 1 or below without finding any id. So the
search ends, and the id after the one it returns is missing; where the ids have gaps, it need
not be the greatest.
-/

namespace AutoMana.MtgStock

/-- The requests tell which ids exist. -/
def Probes (api : Api) (existing : Finset ℤ) : Prop :=
  ∀ cid, idExists api cid = some (decide (cid ∈ existing))

/-- The search ends with an id, however much more fuel it has. -/
def EndsWith (api : Api) (lastKnown lastId : ℤ) : Prop :=
  ∃ enough, ∀ fuel, enough < fuel → getLastPrintId api fuel lastKnown = some lastId

section Loops

variable {api : Api} {existing : Finset ℤ} {lo hi start : ℤ} {steps : ℕ}

theorem walkDown_succ (hprobes : Probes api existing) (fuel : ℕ) (lo : ℤ) :
    walkDown api (fuel + 1) lo =
      if lo ≤ 1 ∨ lo ∈ existing then some lo else walkDown api fuel (lo - 1) := by
  rw [walkDown, hprobes, Option.bind_some]
  by_cases hone : lo ≤ 1 <;> by_cases hexists : lo ∈ existing <;> simp [hone, hexists]

theorem stepOut_succ (hprobes : Probes api existing) (fuel : ℕ) (lo hi : ℤ) :
    stepOut api (fuel + 1) lo hi =
      if hi ∈ existing then stepOut api fuel hi (hi * 2) else some (lo, hi) := by
  rw [stepOut, hprobes, Option.bind_some]
  simp only [decide_eq_true_eq]

theorem narrow_succ (hprobes : Probes api existing) (fuel : ℕ) (lo hi : ℤ) :
    narrow api (fuel + 1) lo hi =
      if lo + 1 < hi then
        if (lo + hi) / 2 ∈ existing then narrow api fuel ((lo + hi) / 2) hi
        else narrow api fuel lo ((lo + hi) / 2)
      else some lo := by
  rw [narrow]
  simp only [hprobes ((lo + hi) / 2), Option.bind_some, decide_eq_true_eq]

/-! ## The walk down -/

/-- An id that exists, or the first one at 1 or below. -/
structure WalkedDown (existing : Finset ℤ) (start lo : ℤ) : Prop where
  le_start : lo ≤ start
  missing : ∀ id, lo < id → id ≤ start → id ∉ existing
  found : lo ≤ 1 ∨ lo ∈ existing
  stops : lo = start ∨ 1 ≤ lo

theorem walkDown_of_stop (hprobes : Probes api existing) (hstop : start ≤ 1 ∨ start ∈ existing) :
    WalkedDown existing start start ∧
      ∀ fuel, steps < fuel → walkDown api fuel start = some start := by
  refine ⟨⟨le_rfl, fun id hlow hhigh => by omega, hstop, Or.inl rfl⟩, ?_⟩
  intro fuel hfuel
  obtain ⟨fuel, rfl⟩ := Nat.exists_eq_succ_of_ne_zero (Nat.ne_zero_of_lt hfuel)
  rw [walkDown_succ hprobes, if_pos hstop]

theorem exists_walkDown (hprobes : Probes api existing) (hsteps : start.toNat ≤ steps) :
    ∃ lo, WalkedDown existing start lo ∧
      ∀ fuel, steps < fuel → walkDown api fuel start = some lo := by
  induction steps generalizing start with
  | zero => exact ⟨start, walkDown_of_stop hprobes (Or.inl (by omega))⟩
  | succ steps ih =>
    by_cases hstop : start ≤ 1 ∨ start ∈ existing
    · exact ⟨start, walkDown_of_stop hprobes hstop⟩
    · obtain ⟨hone, hgone⟩ := not_or.mp hstop
      obtain ⟨lo, hwalked, hwalk⟩ := @ih (start - 1) (by omega)
      have hle := hwalked.le_start
      have hstops := hwalked.stops
      refine ⟨lo, ⟨by omega, ?_, hwalked.found, by omega⟩, ?_⟩
      · intro id hlow hhigh
        rcases hhigh.eq_or_lt with rfl | hbelow
        · exact hgone
        · exact hwalked.missing id hlow (by omega)
      · intro fuel hfuel
        obtain ⟨fuel, rfl⟩ := Nat.exists_eq_succ_of_ne_zero (Nat.ne_zero_of_lt hfuel)
        rw [walkDown_succ hprobes, if_neg hstop]
        exact hwalk fuel (by omega)

/-! ## The doubling and the halving -/

/-- The upper bound is missing, and the lower one exists or is where the search began. -/
structure Bracket (existing : Finset ℤ) (start lo hi : ℤ) : Prop where
  lt : lo < hi
  missing : hi ∉ existing
  found : lo = start ∨ lo ∈ existing

theorem stepOut_of_missing_hi (hprobes : Probes api existing) (hlt : lo < hi)
    (hfound : lo = start ∨ lo ∈ existing) (hmissing : hi ∉ existing) :
    Bracket existing start lo hi ∧
      ∀ fuel, steps < fuel → stepOut api fuel lo hi = some (lo, hi) := by
  refine ⟨⟨hlt, hmissing, hfound⟩, ?_⟩
  intro fuel hfuel
  obtain ⟨fuel, rfl⟩ := Nat.exists_eq_succ_of_ne_zero (Nat.ne_zero_of_lt hfuel)
  rw [stepOut_succ hprobes, if_neg hmissing]

/-- The doubling passes the greatest id. -/
theorem exists_stepOut (hprobes : Probes api existing) {greatest : ℤ}
    (hgreatest : ∀ id ∈ existing, id ≤ greatest) (hpos : 0 < hi) (hlt : lo < hi)
    (hfound : lo = start ∨ lo ∈ existing) (hsteps : (greatest + 1 - hi).toNat ≤ steps) :
    ∃ bounds : ℤ × ℤ, Bracket existing start bounds.1 bounds.2 ∧
      ∀ fuel, steps < fuel → stepOut api fuel lo hi = some bounds := by
  induction steps generalizing lo hi with
  | zero =>
    have hmissing : hi ∉ existing := fun hmem => by have hle := hgreatest hi hmem; omega
    exact ⟨(lo, hi), stepOut_of_missing_hi hprobes hlt hfound hmissing⟩
  | succ steps ih =>
    by_cases hexists : hi ∈ existing
    · obtain ⟨bounds, hbracket, hstep⟩ :=
        @ih hi (hi * 2) (by omega) (by omega) (Or.inr hexists) (by omega)
      refine ⟨bounds, hbracket, ?_⟩
      intro fuel hfuel
      obtain ⟨fuel, rfl⟩ := Nat.exists_eq_succ_of_ne_zero (Nat.ne_zero_of_lt hfuel)
      rw [stepOut_succ hprobes, if_pos hexists]
      exact hstep fuel (by omega)
    · exact ⟨(lo, hi), stepOut_of_missing_hi hprobes hlt hfound hexists⟩

/-- The halving closes the bracket. -/
theorem exists_narrow (hprobes : Probes api existing) (hbracket : Bracket existing start lo hi)
    (hsteps : (hi - lo).toNat ≤ steps) :
    ∃ lastId, Bracket existing start lastId (lastId + 1) ∧
      ∀ fuel, steps < fuel → narrow api fuel lo hi = some lastId := by
  have hlt := hbracket.lt
  induction steps generalizing lo hi with
  | zero => omega
  | succ steps ih =>
    by_cases hopen : lo + 1 < hi
    · by_cases hexists : (lo + hi) / 2 ∈ existing
      · obtain ⟨lastId, hclosed, hnarrow⟩ := @ih ((lo + hi) / 2) hi
          ⟨by omega, hbracket.missing, Or.inr hexists⟩ (by omega) (by omega)
        refine ⟨lastId, hclosed, ?_⟩
        intro fuel hfuel
        obtain ⟨fuel, rfl⟩ := Nat.exists_eq_succ_of_ne_zero (Nat.ne_zero_of_lt hfuel)
        rw [narrow_succ hprobes, if_pos hopen, if_pos hexists]
        exact hnarrow fuel (by omega)
      · obtain ⟨lastId, hclosed, hnarrow⟩ := @ih lo ((lo + hi) / 2)
          ⟨by omega, hexists, hbracket.found⟩ (by omega) (by omega)
        refine ⟨lastId, hclosed, ?_⟩
        intro fuel hfuel
        obtain ⟨fuel, rfl⟩ := Nat.exists_eq_succ_of_ne_zero (Nat.ne_zero_of_lt hfuel)
        rw [narrow_succ hprobes, if_pos hopen, if_neg hexists]
        exact hnarrow fuel (by omega)
    · obtain rfl : hi = lo + 1 := by omega
      refine ⟨lo, hbracket, ?_⟩
      intro fuel hfuel
      obtain ⟨fuel, rfl⟩ := Nat.exists_eq_succ_of_ne_zero (Nat.ne_zero_of_lt hfuel)
      rw [narrow_succ hprobes, if_neg hopen]

end Loops

/-! ## What is returned -/

section Returned

variable {api : Api} {existing : Finset ℤ} {lastKnown start lastId : ℤ}

/-- The search ends right below a missing id, where the walk ended or at an id that exists. -/
theorem exists_endsWith (hprobes : Probes api existing) (hknown : 0 ≤ lastKnown) :
    ∃ start lastId, WalkedDown existing lastKnown start ∧
      Bracket existing start lastId (lastId + 1) ∧ EndsWith api lastKnown lastId := by
  obtain ⟨greatest, hgreatest⟩ : ∃ greatest, ∀ id ∈ existing, id ≤ greatest :=
    existing.exists_le
  obtain ⟨start, hwalked, hwalk⟩ := exists_walkDown hprobes (le_refl lastKnown.toNat)
  have hstart : 0 ≤ start := by have hstops := hwalked.stops; omega
  obtain ⟨bounds, hbracket, hstep⟩ := exists_stepOut hprobes hgreatest
    (by omega : 0 < start + 1) (by omega : start < start + 1) (Or.inl rfl) le_rfl
  obtain ⟨lastId, hclosed, hnarrow⟩ := exists_narrow hprobes hbracket le_rfl
  refine ⟨start, lastId, hwalked, hclosed, ?_⟩
  refine ⟨max lastKnown.toNat (max (greatest + 1 - (start + 1)).toNat
    (bounds.2 - bounds.1).toNat), ?_⟩
  intro fuel hfuel
  obtain ⟨hdown, hup⟩ := max_lt_iff.mp hfuel
  obtain ⟨hout, hin⟩ := max_lt_iff.mp hup
  rw [getLastPrintId, hwalk fuel hdown, Option.bind_some, hstep fuel hout, Option.bind_some,
    hnarrow fuel hin]

/-- When some known id, or 1, exists, the id that is returned exists. -/
theorem returned_exists (hwalked : WalkedDown existing lastKnown start)
    (hclosed : Bracket existing start lastId (lastId + 1)) (hknown : 0 ≤ lastKnown)
    (hsome : ∃ id ∈ existing, id = 1 ∨ 1 ≤ id ∧ id ≤ lastKnown) : lastId ∈ existing := by
  rcases hclosed.found with rfl | hfound
  · rcases hwalked.found with hlow | hfound
    · obtain ⟨id, hid, hrange⟩ := hsome
      have hstops := hwalked.stops
      -- the walk passed every known id but 1
      have hone : id = 1 := by
        by_contra hne
        exact hwalked.missing id (by omega) (by omega) hid
      subst hone
      rcases hlow.eq_or_lt with rfl | hzero
      · exact hid
      · obtain rfl : lastId = 0 := by omega
        exact absurd hid hclosed.missing
    · exact hfound
  · exact hfound

/-- Without gaps the last id is found. -/
theorem returned_of_contiguous {count : ℤ} (hids : existing = Finset.Icc 1 count)
    (hexists : lastId ∈ existing) (hnext : lastId + 1 ∉ existing) : lastId = count := by
  rw [hids, Finset.mem_Icc] at hexists hnext
  omega

/-- Where no id exists the search ends at 1, or at 0 where it began. -/
theorem returned_of_empty (hwalked : WalkedDown existing lastKnown start)
    (hclosed : Bracket existing start lastId (lastId + 1)) (hnone : existing = ∅) :
    lastId = min lastKnown 1 := by
  have hmissing : ∀ id, id ∉ existing := by
    rw [hnone]
    exact Finset.notMem_empty
  have hlow := hwalked.found.resolve_right (hmissing start)
  have hstops := hwalked.stops
  have hle := hwalked.le_start
  rw [hclosed.found.resolve_right (hmissing lastId)]
  omega

end Returned

/-- The search ends. The id after the one it returns is missing, and the one it returns exists
unless neither 1 nor any id up to the last known one does. The ids from 1 to a last one give the
last one; when no id exists, the search returns 1, or 0 when the last known one is 0. -/
theorem getLastPrintId_exact {api : Api} {existing : Finset ℤ} {lastKnown : ℤ}
    (hprobes : Probes api existing) (hknown : 0 ≤ lastKnown) :
    ∃ lastId, EndsWith api lastKnown lastId ∧
      lastId + 1 ∉ existing ∧
      ((∃ id ∈ existing, id = 1 ∨ 1 ≤ id ∧ id ≤ lastKnown) → lastId ∈ existing) ∧
      (∀ count, 1 ≤ count → existing = Finset.Icc 1 count → lastId = count) ∧
      (existing = ∅ → lastId = min lastKnown 1) := by
  obtain ⟨start, lastId, hwalked, hclosed, hends⟩ := exists_endsWith hprobes hknown
  refine ⟨lastId, hends, hclosed.missing, returned_exists hwalked hclosed hknown, ?_,
    returned_of_empty hwalked hclosed⟩
  intro count hpos hids
  have hone : (1 : ℤ) ∈ existing := by
    rw [hids, Finset.mem_Icc]
    exact ⟨le_rfl, hpos⟩
  have hexists := returned_exists hwalked hclosed hknown ⟨1, hone, Or.inl rfl⟩
  exact returned_of_contiguous hids hexists hclosed.missing

/-- Requests that are answered for the ids that exist. -/
def apiOf (existing : Finset ℤ) : Api where
  probed cid := if cid ∈ existing then .content [] else .notFound
  details _ := .notFound
  prices _ := .notFound

theorem probes_apiOf (existing : Finset ℤ) : Probes (apiOf existing) existing := by
  intro cid
  unfold idExists apiOf
  by_cases hexists : cid ∈ existing <;> simp [hexists]

/-- Between the ids 2 and 5 there is a gap. -/
theorem getLastPrintId_exact_of_gap :
    ∃ lastId, EndsWith (apiOf {1, 2, 5}) 4 lastId ∧ lastId + 1 ∉ ({1, 2, 5} : Finset ℤ) ∧
      lastId ∈ ({1, 2, 5} : Finset ℤ) := by
  obtain ⟨lastId, hends, hnext, hexists, -⟩ :=
    getLastPrintId_exact (probes_apiOf {1, 2, 5}) (by decide : (0 : ℤ) ≤ 4)
  exact ⟨lastId, hends, hnext, hexists ⟨1, by decide, Or.inl rfl⟩⟩

/-- When there are no prints, and the last known id is 1, that is returned. -/
theorem no_print_is_last : EndsWith (apiOf (Finset.Icc 1 0)) 1 1 ∧
    ¬ EndsWith (apiOf (Finset.Icc 1 0)) 1 0 := by
  have hone (fuel : ℕ) : getLastPrintId (apiOf (Finset.Icc 1 0)) (fuel + 1) 1 = some 1 := by
    have hprobes := probes_apiOf (Finset.Icc 1 0)
    rw [getLastPrintId, walkDown_succ hprobes, if_pos (Or.inl le_rfl), Option.bind_some,
      stepOut_succ hprobes, if_neg (by decide), Option.bind_some, narrow_succ hprobes,
      if_neg (by decide)]
  constructor
  · refine ⟨0, fun fuel hfuel => ?_⟩
    obtain ⟨fuel, rfl⟩ := Nat.exists_eq_succ_of_ne_zero (Nat.ne_zero_of_lt hfuel)
    exact hone fuel
  · rintro ⟨enough, hends⟩
    have hzero := hends (enough + 1) (Nat.lt_succ_self enough)
    rw [hone] at hzero
    cases hzero

end AutoMana.MtgStock
