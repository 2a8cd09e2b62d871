import Mathlib.Data.PNat.Basic

/-!
# Loops over date windows

A batched procedure walks a date range in windows of a fixed number of days,
the last one cut at the end of the range. The loop variables depend on the
range only, so the loop is a fold over a list of windows that is known before
it starts; the windows are in order, disjoint, and cover the range.

A date is the number of days since 1970-01-01, which was a Thursday.
-/

namespace Relational

/-- The Monday at or before a day: `DATE_TRUNC('week', day)::DATE`. -/
def truncWeek (day : Int) : Int := day - (day + 3) % 7

/-- A closed, nonempty range of days. -/
structure Window where
  start : Int
  stop : Int
  start_le_stop : start ≤ stop
deriving DecidableEq, Repr

def Window.Contains (window : Window) (day : Int) : Prop :=
  window.start ≤ day ∧ day ≤ window.stop

instance (window : Window) (day : Int) : Decidable (window.Contains day) :=
  inferInstanceAs (Decidable (_ ∧ _))

theorem le_batchEnd (days : ℕ+) {v_to v_start : Int} (hle : v_start ≤ v_to) :
    v_start ≤ min (v_start + (days - 1)) v_to := by
  have := days.pos
  omega

/-- `WHILE v_start <= v_to LOOP v_end := LEAST(v_start + (days - 1), v_to);
body; v_start := v_end + 1; END LOOP`. -/
def batchLoop {S : Type} (days : ℕ+) (body : Window → S → S) (v_to v_start : Int)
    (state : S) : S :=
  if hle : v_start ≤ v_to then
    let v_end := min (v_start + (days - 1)) v_to
    batchLoop days body v_to (v_end + 1) (body ⟨v_start, v_end, le_batchEnd days hle⟩ state)
  else state
termination_by (v_to + 1 - v_start).toNat
decreasing_by have := le_batchEnd days hle; omega

/-- The windows the loop visits. -/
def batchWindows (days : ℕ+) (v_to v_start : Int) : List Window :=
  if hle : v_start ≤ v_to then
    let v_end := min (v_start + (days - 1)) v_to
    ⟨v_start, v_end, le_batchEnd days hle⟩ :: batchWindows days v_to (v_end + 1)
  else []
termination_by (v_to + 1 - v_start).toNat
decreasing_by have := le_batchEnd days hle; omega

theorem batchWindows_of_lt (days : ℕ+) {v_to v_start : Int} (hlt : v_to < v_start) :
    batchWindows days v_to v_start = [] := by
  rw [batchWindows, dif_neg (not_le.mpr hlt)]

theorem batchLoop_eq_foldl {S : Type} (days : ℕ+) (body : Window → S → S)
    (v_to v_start : Int) (state : S) :
    batchLoop days body v_to v_start state =
      (batchWindows days v_to v_start).foldl (fun state window => body window state) state := by
  fun_induction batchWindows days v_to v_start generalizing state with
  | case1 v_start hle v_end ih =>
      rw [batchLoop, dif_pos hle, List.foldl_cons]
      exact ih _
  | case2 v_start hgt => rw [batchLoop, dif_neg hgt, List.foldl_nil]

theorem bounds_of_mem_batchWindows {days : ℕ+} {v_to v_start : Int} {window : Window}
    (hmem : window ∈ batchWindows days v_to v_start) :
    v_start ≤ window.start ∧ window.stop ≤ v_to := by
  have hdays := days.pos
  fun_induction batchWindows days v_to v_start with
  | case1 v_start hle v_end ih =>
      rcases List.mem_cons.mp hmem with rfl | hrest
      · dsimp only
        omega
      · have := ih hrest
        omega
  | case2 v_start hgt => simp at hmem

/-- Later windows start after earlier ones stop. -/
theorem batchWindows_pairwise (days : ℕ+) (v_to v_start : Int) :
    (batchWindows days v_to v_start).Pairwise
      (fun earlier later => earlier.stop < later.start) := by
  fun_induction batchWindows days v_to v_start with
  | case1 v_start hle v_end ih =>
      refine List.pairwise_cons.mpr ⟨?_, ih⟩
      intro window hmem
      have := bounds_of_mem_batchWindows hmem
      dsimp only
      omega
  | case2 v_start hgt => exact List.Pairwise.nil

theorem batchWindows_nodup (days : ℕ+) (v_to v_start : Int) :
    (batchWindows days v_to v_start).Nodup := by
  refine (batchWindows_pairwise days v_to v_start).imp ?_
  rintro earlier _ hlt rfl
  have := earlier.start_le_stop
  omega

/-- Every day of the range is in a window of the loop. -/
theorem exists_mem_batchWindows (days : ℕ+) {v_to v_start day : Int}
    (hfrom : v_start ≤ day) (hto : day ≤ v_to) :
    ∃ window ∈ batchWindows days v_to v_start, window.Contains day := by
  fun_induction batchWindows days v_to v_start with
  | case1 v_start hle v_end ih =>
      by_cases hfirst : day ≤ v_end
      · exact ⟨_, List.mem_cons_self, hfrom, hfirst⟩
      · obtain ⟨window, hmem, hcontains⟩ := ih (by omega)
        exact ⟨window, List.mem_cons_of_mem _ hmem, hcontains⟩
  | case2 v_start hgt => omega

/-- No day is in two windows of the loop. -/
theorem eq_of_contains {days : ℕ+} {v_to v_start day : Int} {left right : Window}
    (hleft : left ∈ batchWindows days v_to v_start)
    (hright : right ∈ batchWindows days v_to v_start)
    (hday : left.Contains day) (hday' : right.Contains day) : left = right := by
  obtain ⟨hlo, hhi⟩ := hday
  obtain ⟨hlo', hhi'⟩ := hday'
  fun_induction batchWindows days v_to v_start with
  | case1 v_start hle v_end ih =>
      rcases List.mem_cons.mp hleft with rfl | hleft <;>
        rcases List.mem_cons.mp hright with rfl | hright
      · rfl
      -- a later window starts after the first one ends
      · have := bounds_of_mem_batchWindows hright
        dsimp only at hhi
        omega
      · have := bounds_of_mem_batchWindows hleft
        dsimp only at hhi'
        omega
      · exact ih hleft hright
  | case2 v_start hgt => simp at hleft

/-! ## Whole windows -/

theorem le_wholeEnd (days : ℕ+) (v_start : Int) : v_start ≤ v_start + (days - 1) := by
  have := days.pos
  omega

/-- The windows of `WHILE v_start <= v_to LOOP v_end := v_start + (days - 1); body;
v_start := v_end + 1; END LOOP`, the last of which may reach past the range. -/
def wholeWindows (days : ℕ+) (v_to v_start : Int) : List Window :=
  if v_start ≤ v_to then
    let v_end := v_start + (days - 1)
    ⟨v_start, v_end, le_wholeEnd days v_start⟩ :: wholeWindows days v_to (v_end + 1)
  else []
termination_by (v_to + 1 - v_start).toNat
decreasing_by have := le_wholeEnd days v_start; omega

theorem start_le_of_mem_wholeWindows {days : ℕ+} {v_to v_start : Int} {window : Window}
    (hmem : window ∈ wholeWindows days v_to v_start) : v_start ≤ window.start := by
  have hdays := days.pos
  fun_induction wholeWindows days v_to v_start with
  | case1 v_start hle v_end ih =>
      rcases List.mem_cons.mp hmem with rfl | hrest
      · exact le_rfl
      · have := ih hrest
        omega
  | case2 v_start hgt => simp at hmem

/-- Later windows start after earlier ones stop. -/
theorem wholeWindows_pairwise (days : ℕ+) (v_to v_start : Int) :
    (wholeWindows days v_to v_start).Pairwise
      (fun earlier later => earlier.stop < later.start) := by
  fun_induction wholeWindows days v_to v_start with
  | case1 v_start hle v_end ih =>
      refine List.pairwise_cons.mpr ⟨?_, ih⟩
      intro window hmem
      have := start_le_of_mem_wholeWindows hmem
      dsimp only
      omega
  | case2 v_start hgt => exact List.Pairwise.nil

/-- Every day of the range is in a window of the loop. -/
theorem exists_mem_wholeWindows (days : ℕ+) {v_to v_start day : Int}
    (hfrom : v_start ≤ day) (hto : day ≤ v_to) :
    ∃ window ∈ wholeWindows days v_to v_start, window.Contains day := by
  fun_induction wholeWindows days v_to v_start with
  | case1 v_start hle v_end ih =>
      by_cases hfirst : day ≤ v_end
      · exact ⟨_, List.mem_cons_self, hfrom, hfirst⟩
      · obtain ⟨window, hmem, hcontains⟩ := ih (by omega)
        exact ⟨window, List.mem_cons_of_mem _ hmem, hcontains⟩
  | case2 v_start hgt => omega

/-! ## Weeks -/

theorem truncWeek_le (day : Int) : truncWeek day ≤ day := by
  unfold truncWeek
  omega

/-- A Monday truncates every day of its week. -/
theorem truncWeek_eq_iff {monday day : Int} (hmonday : truncWeek monday = monday) :
    truncWeek day = monday ↔ monday ≤ day ∧ day ≤ monday + 6 := by
  unfold truncWeek at *
  omega

theorem truncWeek_idem (day : Int) : truncWeek (truncWeek day) = truncWeek day := by
  unfold truncWeek
  omega

/-- Weekly batches between two Mondays are whole Monday-to-Sunday weeks. -/
theorem week_of_mem_batchWindows {v_cutoff v_start : Int} {window : Window}
    (hcutoff : truncWeek v_cutoff = v_cutoff) (hstart : truncWeek v_start = v_start)
    (hmem : window ∈ batchWindows 7 (v_cutoff - 1) v_start) :
    truncWeek window.start = window.start ∧ window.stop = window.start + 6 := by
  generalize hto : v_cutoff - 1 = v_to at hmem
  fun_induction batchWindows 7 v_to v_start with
  | case1 v_start hle v_end ih =>
      -- from a Monday to a Sunday the last window is not cut short
      have hend : v_end = v_start + 6 := by
        unfold truncWeek at hcutoff hstart
        change min (v_start + (7 - 1)) v_to = _
        omega
      rcases List.mem_cons.mp hmem with rfl | hrest
      · exact ⟨hstart, hend⟩
      · refine ih ?_ hrest
        unfold truncWeek at hstart ⊢
        omega
  | case2 v_start hgt => simp at hmem

/-- The number of whole weeks the loop visits. -/
theorem length_weekWindows {v_cutoff v_start : Int} (hcutoff : truncWeek v_cutoff = v_cutoff)
    (hstart : truncWeek v_start = v_start) (hle : v_start ≤ v_cutoff) :
    7 * ((batchWindows 7 (v_cutoff - 1) v_start).length : Int) = v_cutoff - v_start := by
  generalize hto : v_cutoff - 1 = v_to
  fun_induction batchWindows 7 v_to v_start with
  | case1 v_start hle' v_end ih =>
      have hend : v_end = v_start + 6 := by
        unfold truncWeek at hcutoff hstart
        change min (v_start + (7 - 1)) v_to = _
        omega
      have hrest := ih (by unfold truncWeek at hstart ⊢; omega) (by omega)
      rw [List.length_cons]
      omega
  | case2 v_start hgt =>
      rw [List.length_nil]
      omega

end Relational
