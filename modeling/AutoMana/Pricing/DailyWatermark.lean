import AutoMana.Pricing.DailyRollup

/-!
# The daily watermark

A call without a start date resumes on the day after the daily watermark, so
the watermark promises that every day up to it has been aggregated. Each
committing batch sets it to its own end, whatever lies between the old
watermark and the start of the batch: a batch that raised earlier in the call,
or days that no explicit window ever asked for.
-/

namespace AutoMana.Pricing

open Relational

/-- The tiers, with the windows whose batch has committed so far. -/
structure Progress where
  tiers : Tiers
  committed : List Window

def progressStep (progress : Progress) (batch : RefreshCall × Window) : Progress where
  tiers := refreshBatch batch.1 batch.2 progress.tiers
  committed := if batch.1.raises batch.2 then progress.committed
    else batch.2 :: progress.committed

/-- All batches of a sequence of calls, each call reading the watermark it finds. -/
def refreshPlan (progress : Progress) (calls : List RefreshCall) : List (RefreshCall × Window) :=
  Run.plan progressStep (fun progress call => refreshActions progress.tiers call) progress calls

theorem foldl_progressStep_tiers (progress : Progress) (call : RefreshCall)
    (windows : List Window) :
    ((windows.map (call, ·)).foldl progressStep progress).tiers =
      windows.foldl (fun tiers window => refreshBatch call window tiers) progress.tiers := by
  rw [List.foldl_map]
  exact (List.foldl_hom Progress.tiers fun _ _ => rfl).symm

/-- The bookkeeping follows the calls: the planned batches end in their state. -/
theorem refreshPlan_tiers (progress : Progress) (calls : List RefreshCall) :
    ((refreshPlan progress calls).foldl progressStep progress).tiers =
      runRefresh progress.tiers calls := by
  apply Run.project_foldl_plan
  intro progress call
  rw [refreshActions, foldl_progressStep_tiers, afterRefresh_eq_foldl]

/-- Every day after the initial watermark and up to the current one lies in a
batch that committed. -/
def NeverSkips (initial : Int) (progress : Progress) : Prop :=
  ∀ last, progress.tiers.tierWatermark.get? .daily = some last →
    ∀ date, initial < date → date ≤ last → ∃ window ∈ progress.committed, window.Contains date

/-- The batch raises, or every day between the watermark it finds and its start
already lies in a batch that committed. -/
def LeavesNoGap (initial : Int) (progress : Progress) (batch : RefreshCall × Window) : Prop :=
  batch.1.raises batch.2 = true ∨
    ∀ last, progress.tiers.tierWatermark.get? .daily = some last →
      ∀ date, initial < date → last < date → date < batch.2.start →
        ∃ window ∈ progress.committed, window.Contains date

theorem progressStep_of_raises {progress : Progress} {batch : RefreshCall × Window}
    (hraises : batch.1.raises batch.2 = true) : progressStep progress batch = progress := by
  simp [progressStep, refreshBatch, hraises]

theorem progressStep_watermark {batch : RefreshCall × Window}
    (hcommit : batch.1.raises batch.2 = false) (progress : Progress) :
    (progressStep progress batch).tiers.tierWatermark.get? .daily =
      (progress.tiers.tierWatermark.get? .daily).map fun _ => batch.2.stop :=
  refreshBatch_watermark hcommit progress.tiers

/-- One batch keeps the promise of the watermark exactly when it leaves no gap. -/
theorem neverSkips_step_iff (initial : Int) {progress : Progress}
    (hkept : NeverSkips initial progress) (batch : RefreshCall × Window) :
    NeverSkips initial (progressStep progress batch) ↔ LeavesNoGap initial progress batch := by
  cases hcommit : batch.1.raises batch.2 with
  | true =>
      rw [progressStep_of_raises hcommit]
      exact ⟨fun _ => Or.inl hcommit, fun _ => hkept⟩
  | false =>
      have hcommitted : (progressStep progress batch).committed =
          batch.2 :: progress.committed := by
        simp [progressStep, hcommit]
      unfold NeverSkips
      rw [progressStep_watermark hcommit, hcommitted]
      constructor
      · intro hnext
        refine Or.inr ?_
        intro last hlast date hinitial _ hbefore
        have hle := batch.2.start_le_stop
        obtain ⟨window, hmem, hcontains⟩ := hnext batch.2.stop (by simp [hlast]) date hinitial
          (by omega)
        -- the batch itself holds no day before its start
        rcases List.mem_cons.mp hmem with rfl | hmem
        · exact absurd hcontains.1 (by omega)
        · exact ⟨window, hmem, hcontains⟩
      · rintro (hraises | hgap) stop hstop date hinitial hle
        · simp [hcommit] at hraises
        · obtain ⟨last, hlast, rfl⟩ := Option.map_eq_some_iff.mp hstop
          -- a day is below the old watermark, in the gap, or in the batch itself
          by_cases hbelow : date ≤ last
          · obtain ⟨window, hmem, hcontains⟩ := hkept last hlast date hinitial hbelow
            exact ⟨window, List.mem_cons_of_mem _ hmem, hcontains⟩
          · by_cases hbefore : date < batch.2.start
            · obtain ⟨window, hmem, hcontains⟩ :=
                hgap last hlast date hinitial (by omega) hbefore
              exact ⟨window, List.mem_cons_of_mem _ hmem, hcontains⟩
            · exact ⟨batch.2, List.mem_cons_self, by omega, hle⟩

/-- A run of calls keeps the promise of the watermark in every state it visits
exactly when none of its batches leaves a gap. -/
theorem watermark_never_skips_iff (initial : Int) (tiers : Tiers) (calls : List RefreshCall)
    (hseed : tiers.tierWatermark.get? .daily = some initial) :
    (∀ progress ∈ Run.visited progressStep ⟨tiers, []⟩ (refreshPlan ⟨tiers, []⟩ calls),
        NeverSkips initial progress) ↔
      Run.StepsMeet progressStep (LeavesNoGap initial) ⟨tiers, []⟩
        (refreshPlan ⟨tiers, []⟩ calls) := by
  apply Run.forall_visited_iff fun progress batch hkept => neverSkips_step_iff initial hkept batch
  intro last hlast date hafter hupto
  have hlast' : some initial = some last := hseed.symm.trans hlast
  rw [Option.some.injEq] at hlast'
  omega

/-- Tiers with nothing rolled up and the daily watermark on a given day. -/
def seededOn (day : Int) : Tiers := .unrolled .empty ⟨[(.daily, day)], by simp⟩

/-- A resumed call that starts on the day after the watermark leaves no gap. -/
theorem resumed_call_never_skips :
    NeverSkips 6 ((refreshPlan ⟨seededOn 6, []⟩ [refreshDay 7 (observedOn 7)]).foldl
      progressStep ⟨seededOn 6, []⟩) := by
  have hwindows : refreshWindows (refreshDay 7 (observedOn 7)) (seededOn 6) =
      [⟨7, 7, le_refl 7⟩] := by
    decide +kernel
  have hgapless : Run.StepsMeet progressStep (LeavesNoGap 6) ⟨seededOn 6, []⟩
      (refreshPlan ⟨seededOn 6, []⟩ [refreshDay 7 (observedOn 7)]) := by
    simp only [refreshPlan, Run.plan, refreshActions, hwindows, List.map_cons, List.map_nil,
      List.append_nil]
    refine ⟨Or.inr ?_, trivial⟩
    intro last hlast date _ hgap hbefore
    obtain rfl : 6 = last := Option.some.inj hlast
    change date < 7 at hbefore
    omega
  exact (watermark_never_skips_iff 6 (seededOn 6) [refreshDay 7 (observedOn 7)] rfl).mpr hgapless
    _ (Run.foldl_mem_visited _ _ _)

/-- A resumed call over sixty days whose first batch raises. -/
def failingFirstBatch : RefreshCall where
  pFrom := none
  pTo := some 60
  currentDate := 61
  tier1 := observedOn 1
  raises := fun window => window.start = 1

/-- The second batch commits and moves the watermark over the days of the first. -/
theorem failed_batch_is_skipped :
    ¬ ∀ (initial : Int) (tiers : Tiers) (calls : List RefreshCall),
      tiers.tierWatermark.get? .daily = some initial →
        NeverSkips initial
          ((refreshPlan ⟨tiers, []⟩ calls).foldl progressStep ⟨tiers, []⟩) := by
  intro hkept
  have hday := hkept 0 (seededOn 0) [failingFirstBatch] rfl 60 (by decide +kernel) 1
    (by decide) (by decide)
  revert hday
  decide +kernel

end AutoMana.Pricing
