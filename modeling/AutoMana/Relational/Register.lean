import Mathlib.Data.Set.Finite.Lemmas
import Mathlib.Data.Set.Finite.List

/-!
# Stamped registers with nullable values

A register should hold the newest non-null value of the readings it has seen.
It sees them in batches and absorbs only the newest reading of each batch: the
value is replaced by a non-null one that is not older than the register's
stamp, and the stamp moves to the newest seen even when the value is null. The
stamp then shadows older values, both inside a batch and across batches. The
register stays right exactly as long as no newest value is shadowed.
-/

namespace Relational

variable {T V W : Type}

structure Reading (T V : Type) where
  stamp : T
  value : Option V
deriving DecidableEq

/-- No two readings carry the same stamp. -/
def DistinctStamps (seen : List (Reading T V)) : Prop :=
  ∀ left ∈ seen, ∀ right ∈ seen, left.stamp = right.stamp → left = right

theorem DistinctStamps.of_append_left {seen batch : List (Reading T V)}
    (hdistinct : DistinctStamps (seen ++ batch)) : DistinctStamps seen :=
  fun left hleft right hright =>
    hdistinct left (List.mem_append_left _ hleft) right (List.mem_append_left _ hright)

variable [LinearOrder T]

/-- The value part of absorbing a reading. -/
def absorbValue (storedAt readAt : T) (stored read : Option V) : Option V :=
  if storedAt ≤ readAt ∧ read.isSome then read else stored

theorem map_absorbValue (f : V → W) (storedAt readAt : T) (stored read : Option V) :
    (absorbValue storedAt readAt stored read).map f =
      absorbValue storedAt readAt (stored.map f) (read.map f) := by
  simp only [absorbValue, Option.isSome_map]
  split_ifs <;> rfl

/-- No reading with a value is newer. -/
def IsNewestValued (seen : List (Reading T V)) (newest : Reading T V) : Prop :=
  newest ∈ seen ∧ newest.value.isSome ∧
    ∀ reading ∈ seen, reading.value.isSome → reading.stamp ≤ newest.stamp

/-- The value is the newest non-null one among the readings seen, or null when
they are all null. -/
def IsNewestValue (seen : List (Reading T V)) (value : Option V) : Prop :=
  (value = none ∧ ∀ reading ∈ seen, reading.value = none) ∨
    ∃ newest, IsNewestValued seen newest ∧ newest.value = value

/-- The stamp of the newest reading seen. -/
def IsNewestStamp (seen : List (Reading T V)) (stamp : T) : Prop :=
  (∃ reading ∈ seen, reading.stamp = stamp) ∧ ∀ reading ∈ seen, reading.stamp ≤ stamp

/-- The newest value of all is not in the batch with a newer reading, null
itself, in the batch or before it; or the register already holds its value. -/
def Unshadowed (seen : List (Reading T V)) (stored : Option V) (batch : List (Reading T V)) :
    Prop :=
  ∀ valued ∈ batch, IsNewestValued (seen ++ batch) valued →
    (∃ newer ∈ seen ++ batch, valued.stamp < newer.stamp) → stored = valued.value

/-- Readings without a value do not matter. -/
theorem IsNewestValue.of_valued {seen more : List (Reading T V)} {value : Option V}
    (hvalue : IsNewestValue seen value) (hsubset : seen ⊆ more)
    (hmore : ∀ reading ∈ more, reading.value.isSome → reading ∈ seen) :
    IsNewestValue more value := by
  rcases hvalue with ⟨hnull, hnone⟩ | ⟨newest, ⟨hmem, hsome, hmax⟩, rfl⟩
  · refine Or.inl ⟨hnull, fun reading hreading => ?_⟩
    rw [← Option.not_isSome_iff_eq_none]
    intro hsome
    simp [hnone reading (hmore reading hreading hsome)] at hsome
  · exact Or.inr ⟨newest, ⟨hsubset hmem, hsome, fun reading hreading hvalued =>
      hmax reading (hmore reading hreading hvalued) hvalued⟩, rfl⟩

theorem isNewestStamp_max {seen batch : List (Reading T V)} {storedAt : T}
    {newest : Reading T V} (hstored : IsNewestStamp seen storedAt) (hmem : newest ∈ batch)
    (hnewest : ∀ reading ∈ batch, reading.stamp ≤ newest.stamp) :
    IsNewestStamp (seen ++ batch) (max storedAt newest.stamp) := by
  constructor
  · rcases le_total storedAt newest.stamp with hle | hle
    · exact ⟨newest, List.mem_append_right _ hmem, (max_eq_right hle).symm⟩
    · obtain ⟨reading, hreading, hstamp⟩ := hstored.1
      exact ⟨reading, List.mem_append_left _ hreading, hstamp.trans (max_eq_left hle).symm⟩
  · intro reading hreading
    rcases List.mem_append.mp hreading with hseen | hbatch
    · exact (hstored.2 reading hseen).trans (le_max_left _ _)
    · exact (hnewest reading hbatch).trans (le_max_right _ _)

theorem exists_isNewestValued {seen : List (Reading T V)}
    (hsome : ∃ reading ∈ seen, reading.value.isSome) : ∃ newest, IsNewestValued seen newest := by
  have hfinite : {reading | reading ∈ seen ∧ reading.value.isSome}.Finite :=
    (List.finite_toSet seen).subset fun _ hreading => hreading.1
  obtain ⟨newest, ⟨hmem, hvalue⟩, hmax⟩ := Set.exists_max_image _ Reading.stamp hfinite hsome
  exact ⟨newest, hmem, hvalue, fun reading hreading hvalued => hmax reading ⟨hreading, hvalued⟩⟩

theorem IsNewestValued.eq {seen : List (Reading T V)} (hdistinct : DistinctStamps seen)
    {left right : Reading T V} (hleft : IsNewestValued seen left)
    (hright : IsNewestValued seen right) : left = right :=
  hdistinct left hleft.1 right hright.1
    (le_antisymm (hright.2.2 left hleft.1 hleft.2.1) (hleft.2.2 right hright.1 hright.2.1))

/-- Among distinct stamps there is one newest value. -/
theorem isNewestValue_iff {seen : List (Reading T V)} (hdistinct : DistinctStamps seen)
    {newest : Reading T V} (hnewest : IsNewestValued seen newest) (value : Option V) :
    IsNewestValue seen value ↔ value = newest.value := by
  constructor
  · intro hvalue
    rcases hvalue with ⟨-, hnone⟩ | ⟨other, hother, rfl⟩
    · have hsome := hnewest.2.1
      simp [hnone newest hnewest.1] at hsome
    · rw [hother.eq hdistinct hnewest]
  · intro hvalue
    exact Or.inr ⟨newest, hnewest, hvalue.symm⟩

theorem isNewestValue_none_iff {seen : List (Reading T V)}
    (hnone : ∀ reading ∈ seen, reading.value = none) (value : Option V) :
    IsNewestValue seen value ↔ value = none := by
  constructor
  · intro hvalue
    rcases hvalue with ⟨hnull, -⟩ | ⟨newest, hnewest, -⟩
    · exact hnull
    · have hsome := hnewest.2.1
      simp [hnone newest hnewest.1] at hsome
  · intro hvalue
    exact Or.inl ⟨hvalue, hnone⟩

theorem IsNewestValued.of_append_left {seen batch : List (Reading T V)} {newest : Reading T V}
    (hnewest : IsNewestValued (seen ++ batch) newest) (hmem : newest ∈ seen) :
    IsNewestValued seen newest :=
  ⟨hmem, hnewest.2.1, fun reading hreading =>
    hnewest.2.2 reading (List.mem_append_left _ hreading)⟩

/-- What absorbing the newest reading of a batch leaves, by whether the newest
value of all is shadowed. The register may be empty before its first batch:
`hstored` asks for what it held only where something was seen. -/
theorem isNewestValue_iff_unshadowed {seen batch : List (Reading T V)} {stored next : Option V}
    (hdistinct : DistinctStamps (seen ++ batch)) (hstored : IsNewestValue seen stored)
    (hnull : (∀ reading ∈ seen ++ batch, reading.value = none) → next = stored)
    (hkept : ∀ valued, IsNewestValued (seen ++ batch) valued →
      (∃ newer ∈ seen ++ batch, valued.stamp < newer.stamp) → next = stored)
    (htaken : ∀ valued, IsNewestValued (seen ++ batch) valued →
      (∀ reading ∈ seen ++ batch, reading.stamp ≤ valued.stamp) →
      (valued ∈ seen → stored = valued.value) → next = valued.value) :
    IsNewestValue (seen ++ batch) next ↔ Unshadowed seen stored batch := by
  by_cases hsome : ∃ reading ∈ seen ++ batch, reading.value.isSome
  · obtain ⟨valued, hvalued⟩ := exists_isNewestValued hsome
    rw [isNewestValue_iff hdistinct hvalued]
    have hheld : valued ∈ seen → stored = valued.value := fun hseen =>
      (isNewestValue_iff hdistinct.of_append_left (hvalued.of_append_left hseen) _).mp hstored
    by_cases hshadow : ∃ newer ∈ seen ++ batch, valued.stamp < newer.stamp
    · rw [hkept valued hvalued hshadow]
      constructor
      · intro hnext other _ hother _
        rwa [hother.eq hdistinct hvalued]
      · intro hunshadowed
        rcases List.mem_append.mp hvalued.1 with hseen | hbatch
        · exact hheld hseen
        · exact hunshadowed valued hbatch hvalued hshadow
    · have hlast : ∀ reading ∈ seen ++ batch, reading.stamp ≤ valued.stamp :=
        fun reading hreading => not_lt.mp fun hlt => hshadow ⟨reading, hreading, hlt⟩
      refine iff_of_true (htaken valued hvalued hlast hheld) ?_
      intro other _ hother hnewer
      rw [hother.eq hdistinct hvalued] at hnewer
      exact absurd hnewer hshadow
  · have hnone : ∀ reading ∈ seen ++ batch, reading.value = none := by
      intro reading hreading
      rw [← Option.not_isSome_iff_eq_none]
      exact fun hvalued => hsome ⟨reading, hreading, hvalued⟩
    have hstoredNone : stored = none :=
      (isNewestValue_none_iff (fun reading hreading =>
        hnone reading (List.mem_append_left _ hreading)) _).mp hstored
    refine iff_of_true ?_ ?_
    · exact (isNewestValue_none_iff hnone _).mpr ((hnull hnone).trans hstoredNone)
    · intro valued _ hvalued _
      exact absurd ⟨valued, hvalued.1, hvalued.2.1⟩ hsome

/-- Absorbing the newest reading of a batch keeps the register right exactly
when the batch is unshadowed. -/
theorem isNewestValue_absorb_iff {seen batch : List (Reading T V)} {storedAt : T}
    {stored : Option V} {newest : Reading T V} (hdistinct : DistinctStamps (seen ++ batch))
    (hstamp : IsNewestStamp seen storedAt) (hstored : IsNewestValue seen stored)
    (hmem : newest ∈ batch) (hnewest : ∀ reading ∈ batch, reading.stamp ≤ newest.stamp) :
    IsNewestValue (seen ++ batch) (absorbValue storedAt newest.stamp stored newest.value) ↔
      Unshadowed seen stored batch := by
  have hnewestMem : newest ∈ seen ++ batch := List.mem_append_right _ hmem
  have hlast : storedAt ≤ newest.stamp → ∀ reading ∈ seen ++ batch,
      reading.stamp ≤ newest.stamp := by
    intro hle reading hreading
    rcases List.mem_append.mp hreading with hseen | hbatch
    · exact (hstamp.2 reading hseen).trans hle
    · exact hnewest reading hbatch
  apply isNewestValue_iff_unshadowed hdistinct hstored
  · intro hnone
    simp [absorbValue, hnone newest hnewestMem]
  · intro valued hvalued hshadow
    obtain ⟨newer, hnewer, hlt⟩ := hshadow
    -- absorbing would make the absorbed reading a newest value, newer than `valued`
    refine if_neg fun hreplace => ?_
    have hle := hvalued.2.2 newest hnewestMem hreplace.2
    exact absurd (hlast hreplace.1 newer hnewer) (not_le.mpr (hle.trans_lt hlt))
  · intro valued hvalued hmax hheld
    by_cases hreplace : storedAt ≤ newest.stamp ∧ newest.value.isSome
    · rw [absorbValue, if_pos hreplace, hdistinct newest hnewestMem valued hvalued.1
        (le_antisymm (hmax newest hnewestMem) (hlast hreplace.1 valued hvalued.1))]
    · rw [absorbValue, if_neg hreplace]
      rcases List.mem_append.mp hvalued.1 with hseen | hbatch
      · exact hheld hseen
      · -- the newest reading of all would have been absorbed
        have heq : newest = valued := hdistinct newest hnewestMem valued hvalued.1
          (le_antisymm (hmax newest hnewestMem) (hnewest valued hbatch))
        obtain ⟨reading, hreading, hreadingAt⟩ := hstamp.1
        rw [heq, ← hreadingAt] at hreplace
        exact absurd ⟨hmax reading (List.mem_append_left _ hreading), hvalued.2.1⟩ hreplace

/-- The first batch of a register that has seen nothing. -/
theorem isNewestValue_first_iff {batch : List (Reading T V)} {newest : Reading T V}
    (hdistinct : DistinctStamps batch) (hmem : newest ∈ batch)
    (hnewest : ∀ reading ∈ batch, reading.stamp ≤ newest.stamp) :
    IsNewestValue batch newest.value ↔ Unshadowed [] none batch := by
  have hnothing : IsNewestValue ([] : List (Reading T V)) none := Or.inl ⟨rfl, by simp⟩
  have happend : DistinctStamps ([] ++ batch) := hdistinct
  apply isNewestValue_iff_unshadowed happend hnothing
  · intro hnone
    exact hnone newest hmem
  · intro valued hvalued hshadow
    obtain ⟨newer, hnewer, hlt⟩ := hshadow
    rw [← Option.not_isSome_iff_eq_none]
    intro hsome
    exact absurd (hvalued.2.2 newest hmem hsome)
      (not_le.mpr (hlt.trans_le (hnewest newer hnewer)))
  · intro valued hvalued hmax _
    rw [hdistinct newest hmem valued hvalued.1
      (le_antisymm (hmax newest hmem) (hnewest valued hvalued.1))]

end Relational
