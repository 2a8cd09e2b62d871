import Mathlib.Data.Int.ModEq
import Mathlib.Data.List.Nodup

/-!
# Rotating slices of a work list

A work list is cut into a fixed number of slices of equal length, the last one
with the remainder. Each turn of a day takes one slice, and the turns go round
the slices, so that a window of days takes each slice once whatever day it
starts on.
-/

namespace Relational

variable {α : Type}

/-- The first position of a slice. -/
def sliceStart (length total index : ℕ) : ℕ := index * (length / total)

/-- The position after a slice. The last slice runs to the end of the list. -/
def sliceStop (length total index : ℕ) : ℕ :=
  if index < total - 1 then index * (length / total) + length / total else length

/-- `items[start:end]` of one of `total` slices. -/
def slice (items : List α) (total index : ℕ) : List α :=
  (items.take (sliceStop items.length total index)).drop (sliceStart items.length total index)

/-- The slice that a turn of a day takes. -/
def turn (window slots : ℕ) (day : ℤ) (slot : ℕ) : ℕ :=
  ((day * slots + slot) % (window * slots : ℕ)).toNat

theorem mem_slice {items : List α} {total index : ℕ} {item : α} :
    item ∈ slice items total index ↔
      ∃ position, items[position]? = some item ∧
        sliceStart items.length total index ≤ position ∧
        position < sliceStop items.length total index := by
  rw [slice, List.mem_iff_getElem?]
  constructor
  · intro hmem
    obtain ⟨offset, hoffset⟩ := hmem
    rw [List.getElem?_drop, List.getElem?_take] at hoffset
    split at hoffset
    · next hlt => exact ⟨_, hoffset, Nat.le_add_right _ _, hlt⟩
    · cases hoffset
  · intro hmem
    obtain ⟨position, hitem, hstart, hstop⟩ := hmem
    refine ⟨position - sliceStart items.length total index, ?_⟩
    rw [List.getElem?_drop, Nat.add_sub_cancel' hstart, List.getElem?_take, if_pos hstop, hitem]

theorem mem_of_mem_slice {items : List α} {total index : ℕ} {item : α}
    (hmem : item ∈ slice items total index) : item ∈ items := by
  obtain ⟨position, hitem, -⟩ := mem_slice.mp hmem
  exact List.mem_of_getElem? hitem

theorem slice_nodup {items : List α} (hnodup : items.Nodup) (total index : ℕ) :
    (slice items total index).Nodup :=
  (hnodup.sublist (List.take_sublist _ _)).sublist (List.drop_sublist _ _)

/-- A slice ends before a later one starts. -/
theorem sliceStop_le_sliceStart {length total first second : ℕ} (hlt : first < second)
    (hsecond : second < total) :
    sliceStop length total first ≤ sliceStart length total second := by
  have hnext : (first + 1) * (length / total) ≤ second * (length / total) :=
    Nat.mul_le_mul_right _ hlt
  rw [sliceStop, if_pos (by omega), sliceStart]
  calc first * (length / total) + length / total
      = (first + 1) * (length / total) := (Nat.succ_mul _ _).symm
    _ ≤ second * (length / total) := hnext

/-- Two slices of a list without duplicates that share an item are the same slice. -/
theorem slice_index_unique {items : List α} (hnodup : items.Nodup) {total first second : ℕ}
    (hfirst : first < total) (hsecond : second < total) {item : α}
    (hmem : item ∈ slice items total first) (hmem' : item ∈ slice items total second) :
    first = second := by
  obtain ⟨position, hitem, hstart, hstop⟩ := mem_slice.mp hmem
  obtain ⟨position', hitem', hstart', hstop'⟩ := mem_slice.mp hmem'
  have hlength : position < items.length := (List.getElem?_eq_some_iff.mp hitem).1
  have hsame : position = position' :=
    (List.getElem?_inj hlength hnodup).mp (hitem.trans hitem'.symm)
  rcases Nat.lt_trichotomy first second with hlt | heq | hgt
  · have := @sliceStop_le_sliceStart items.length total first second hlt hsecond
    omega
  · exact heq
  · have := @sliceStop_le_sliceStart items.length total second first hgt hfirst
    omega

/-- Every position is in a slice. With fewer items than slices it is the last one. -/
theorem exists_slice_of_mem {items : List α} {total : ℕ} (htotal : 0 < total) {item : α}
    (hmem : item ∈ items) : ∃ index < total, item ∈ slice items total index := by
  obtain ⟨position, hitem⟩ := List.mem_iff_getElem?.mp hmem
  have hlength : position < items.length := (List.getElem?_eq_some_iff.mp hitem).1
  by_cases hlast : (total - 1) * (items.length / total) ≤ position
  · refine ⟨total - 1, by omega, mem_slice.mpr ⟨position, hitem, hlast, ?_⟩⟩
    rwa [sliceStop, if_neg (Nat.lt_irrefl _)]
  · have hsize : 0 < items.length / total := by
      apply Nat.pos_of_ne_zero
      intro hzero
      simp [hzero] at hlast
    have hindex : position / (items.length / total) < total - 1 :=
      (Nat.div_lt_iff_lt_mul hsize).mpr (Nat.lt_of_not_le hlast)
    refine ⟨_, by omega, mem_slice.mpr ⟨position, hitem, Nat.div_mul_le_self _ _, ?_⟩⟩
    rw [sliceStop, if_pos hindex]
    exact Nat.lt_div_mul_add hsize

theorem turn_lt {window slots : ℕ} (hwindow : 0 < window) (hslots : 0 < slots) (day : ℤ)
    (slot : ℕ) : turn window slots day slot < window * slots := by
  have hpos : (0 : ℤ) < (window * slots : ℕ) := by exact_mod_cast Nat.mul_pos hwindow hslots
  have hlt := Int.emod_lt_of_pos (day * slots + slot) hpos
  have hnonneg := Int.emod_nonneg (day * slots + slot) hpos.ne'
  rw [turn]
  omega

/-- Two turns take one slice exactly when they are the same slot, whole windows apart. -/
theorem turn_eq_iff {window slots : ℕ} (hwindow : 0 < window) {day day' : ℤ} {slot slot' : ℕ}
    (hslot : slot < slots) (hslot' : slot' < slots) :
    turn window slots day slot = turn window slots day' slot' ↔
      slot = slot' ∧ (window : ℤ) ∣ day' - day := by
  have hslots : 0 < slots := Nat.zero_lt_of_lt hslot
  have hpos : (0 : ℤ) < (window * slots : ℕ) := by exact_mod_cast Nat.mul_pos hwindow hslots
  have hnonneg := Int.emod_nonneg (day * slots + slot) hpos.ne'
  have hnonneg' := Int.emod_nonneg (day' * slots + slot') hpos.ne'
  have hmod : turn window slots day slot = turn window slots day' slot' ↔
      day * slots + slot ≡ day' * slots + slot' [ZMOD (window * slots : ℕ)] := by
    rw [turn, turn, Int.ModEq]
    omega
  rw [hmod]
  constructor
  · intro heq
    -- modulo the slots of a day only the slot is left
    have hsame : (slot : ℤ) ≡ slot' [ZMOD slots] := by
      have hday := heq.of_dvd (show (slots : ℤ) ∣ (window * slots : ℕ) by simp)
      simpa [Int.ModEq] using hday
    have hslots_eq : slot = slot' := by
      have hcast : ((slot % slots : ℕ) : ℤ) = (slot' % slots : ℕ) := by exact_mod_cast hsame
      rw [Nat.mod_eq_of_lt hslot, Nat.mod_eq_of_lt hslot'] at hcast
      exact_mod_cast hcast
    subst hslots_eq
    refine ⟨rfl, ?_⟩
    have hdvd : ((window * slots : ℕ) : ℤ) ∣ (day' - day) * slots := by
      have := heq.dvd
      rwa [add_sub_add_right_eq_sub, ← sub_mul] at this
    rw [Nat.cast_mul] at hdvd
    exact Int.dvd_of_mul_dvd_mul_right (by exact_mod_cast hslots.ne') hdvd
  · intro hsame
    obtain ⟨rfl, hdvd⟩ := hsame
    apply Int.modEq_of_dvd
    rw [add_sub_add_right_eq_sub, ← sub_mul, Nat.cast_mul]
    exact mul_dvd_mul_right hdvd _

/-- From any first day on, a window of days has a turn for every slice. -/
theorem exists_turn_eq {window slots : ℕ} (first : ℤ) {index : ℕ}
    (hindex : index < window * slots) :
    ∃ day < window, ∃ slot < slots, turn window slots (first + day) slot = index := by
  have hslots : 0 < slots := Nat.pos_of_mul_pos_left (Nat.zero_lt_of_lt hindex)
  have hpos : (0 : ℤ) < (window * slots : ℕ) := by exact_mod_cast Nat.zero_lt_of_lt hindex
  -- the number of turns from the first one of the window to the one wanted
  let ahead : ℕ := ((index - first * slots) % (window * slots : ℕ)).toNat
  have hahead : (ahead : ℤ) = (index - first * slots) % (window * slots : ℕ) :=
    Int.toNat_of_nonneg (Int.emod_nonneg _ hpos.ne')
  have hlt : ahead < slots * window := by
    have := Int.emod_lt_of_pos (index - first * slots) hpos
    rw [Nat.mul_comm slots]
    omega
  refine ⟨ahead / slots, Nat.div_lt_of_lt_mul hlt, ahead % slots, Nat.mod_lt _ hslots, ?_⟩
  have hsum : (first + (ahead / slots : ℕ)) * slots + (ahead % slots : ℕ) =
      first * slots + ahead := by
    have hdivision : ((ahead / slots : ℕ) : ℤ) * slots + (ahead % slots : ℕ) = ahead := by
      exact_mod_cast Nat.div_add_mod' ahead slots
    rw [add_mul, add_assoc, hdivision]
  rw [turn, hsum, hahead, Int.add_emod_emod, add_sub_cancel,
    Int.emod_eq_of_lt (Int.natCast_nonneg _) (by exact_mod_cast hindex), Int.toNat_natCast]

theorem flatten_toChunks_go (size : ℕ) (items : List α) (chunk : Array α)
    (chunks : Array (List α)) :
    (List.toChunks.go size items chunk chunks).flatten =
      chunks.toList.flatten ++ chunk.toList ++ items := by
  induction items generalizing chunk chunks with
  | nil => simp [List.toChunks.go]
  | cons item rest ih =>
    rw [List.toChunks.go]
    split <;> rw [ih] <;> simp

/-- The chunks of a list are the list. -/
theorem flatten_toChunks (size : ℕ) (items : List α) : (items.toChunks size).flatten = items := by
  cases items with
  | nil => rfl
  | cons item rest =>
    cases size with
    | zero => simp [List.toChunks]
    | succ size => simpa [List.toChunks] using flatten_toChunks_go (size + 1) rest #[item] #[]

end Relational
