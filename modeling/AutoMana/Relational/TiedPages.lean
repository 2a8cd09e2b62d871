import AutoMana.Relational.OrderBy
import AutoMana.Relational.Pages
import AutoMana.Relational.Snapshot
import Mathlib.Data.List.Dedup
import Mathlib.Data.List.Perm.Basic

/-!
# Pages of a list with ties

Each page is cut from an answer of its own, and the answers may list tied rows differently, and of
a group of rows show one or another. The pages list every group once exactly when the rows before a
page's first one come strictly before the others, whatever is chosen.
-/

namespace Relational

variable {α G : Type} [DecidableEq G]

/-- The page with each index is cut from the answer with that index. -/
def pagesOf (answers : ℕ → List α) (limit count : ℕ) : List α :=
  (List.range count).flatMap fun index => page (answers index) limit (index * limit)

theorem pagesOf_succ (answers : ℕ → List α) (limit count : ℕ) :
    pagesOf answers limit (count + 1) =
      pagesOf answers limit count ++ page (answers count) limit (count * limit) := by
  rw [pagesOf, List.range_succ, List.flatMap_append, List.flatMap_singleton]
  rfl

theorem exists_of_mem_pagesOf {answers : ℕ → List α} {limit count : ℕ} {row : α}
    (hrow : row ∈ pagesOf answers limit count) : ∃ index, row ∈ answers index := by
  obtain ⟨index, -, hpage⟩ := List.mem_flatMap.mp hrow
  exact ⟨index, List.mem_of_mem_drop (List.mem_of_mem_take hpage)⟩

/-- The pages of one answer and then those of another. -/
theorem pagesOf_split (answer other : List α) {limit boundary count : ℕ}
    (hboundary : boundary ≤ count) (hcount : other.length ≤ count * limit) :
    pagesOf (fun index => if index < boundary then answer else other) limit count =
      answer.take (boundary * limit) ++ other.drop (boundary * limit) := by
  obtain ⟨more, rfl⟩ := Nat.exists_eq_add_of_le hboundary
  rw [pagesOf, List.range_add, List.flatMap_append, List.flatMap_map]
  congr 1
  · rw [← pages_eq_take]
    exact List.flatMap_congr fun index hindex => by rw [if_pos (List.mem_range.mp hindex)]
  · have hpages : (List.range more).flatMap (fun index =>
        page (if boundary + index < boundary then answer else other) limit
          ((boundary + index) * limit)) = pages (other.drop (boundary * limit)) limit more := by
      refine List.flatMap_congr fun index _ => ?_
      rw [if_neg (by omega), page, page, List.drop_drop, Nat.add_mul]
    refine hpages.trans (pages_eq_self ?_)
    rw [List.length_drop, Nat.sub_le_iff_le_add, ← Nat.add_mul, Nat.add_comm]
    exact hcount

variable (group : α → G) (order : OrderBy α) (candidates : List α)

/-- The groups to be listed. -/
def groupsOf : List G := (candidates.map group).dedup

variable {group candidates} in
@[simp] theorem mem_groupsOf {value : G} :
    value ∈ groupsOf group candidates ↔ value ∈ candidates.map group := List.mem_dedup

/-- An answer lists a candidate of each group. -/
structure Answers (answer : List α) : Prop where
  groups : (answer.map group).Perm (groupsOf group candidates)
  candidate : ∀ row ∈ answer, row ∈ candidates
  ordered : order.Ordered answer

/-- A number of groups come strictly before all others, whichever candidates are shown. -/
def Splits (number : ℕ) : Prop :=
  ∃ first : List G, first.Nodup ∧ first.length = number ∧
    (∀ value ∈ first, value ∈ candidates.map group) ∧
    ∀ row ∈ candidates, ∀ other ∈ candidates, group row ∈ first → group other ∉ first →
      order.le other row = false

/-- All answers list the same groups up to a number. -/
def Agree (number : ℕ) : Prop :=
  ∀ answer other, Answers group order candidates answer → Answers group order candidates other →
    ((answer.take number).map group).Perm ((other.take number).map group)

variable {group order candidates} {answer : List α} {limit number : ℕ}

namespace Answers

theorem nodup (hanswer : Answers group order candidates answer) : (answer.map group).Nodup :=
  hanswer.groups.nodup_iff.mpr (List.nodup_dedup _)

theorem length_eq (hanswer : Answers group order candidates answer) :
    answer.length = (groupsOf group candidates).length := by
  rw [← hanswer.groups.length_eq, List.length_map]

theorem mem_groups (hanswer : Answers group order candidates answer) {value : G} :
    value ∈ answer.map group ↔ value ∈ candidates.map group := by
  rw [hanswer.groups.mem_iff, mem_groupsOf]

/-- A candidate's group is shown by some row. -/
theorem exists_row (hanswer : Answers group order candidates answer) {row : α}
    (hrow : row ∈ candidates) : ∃ shown ∈ answer, group shown = group row :=
  List.mem_map.mp (hanswer.mem_groups.mpr (List.mem_map_of_mem hrow))

end Answers

theorem perm_groupsOf {values : List G} (hdistinct : values.Nodup)
    (hmem : ∀ value, value ∈ values ↔ value ∈ candidates.map group) :
    values.Perm (groupsOf group candidates) :=
  (List.perm_ext_iff_of_nodup hdistinct (List.nodup_dedup _)).mpr fun value => by
    rw [hmem, List.mem_dedup]

section Wrapped

variable {H : Type} [DecidableEq H] {wrap : G → H} (hwrap : Function.Injective wrap)
include hwrap

theorem groupsOf_comp (rows : List α) :
    groupsOf (wrap ∘ group) rows = (groupsOf group rows).map wrap := by
  rw [groupsOf, ← List.map_map, List.dedup_map_of_injective hwrap, groupsOf]

/-- Other names of the groups change nothing. -/
theorem answers_comp_iff :
    Answers (wrap ∘ group) order candidates answer ↔ Answers group order candidates answer := by
  have hgroups : (answer.map (wrap ∘ group)).Perm (groupsOf (wrap ∘ group) candidates) ↔
      (answer.map group).Perm (groupsOf group candidates) := by
    rw [groupsOf_comp hwrap, ← List.map_map, List.map_perm_map_iff hwrap]
  exact ⟨fun hanswer => ⟨hgroups.mp hanswer.groups, hanswer.candidate, hanswer.ordered⟩,
    fun hanswer => ⟨hgroups.mpr hanswer.groups, hanswer.candidate, hanswer.ordered⟩⟩

end Wrapped

/-- Rows of different groups are all listed. -/
theorem answers_iff_sorts (hdistinct : (candidates.map group).Nodup) :
    Answers group order candidates answer ↔ order.Sorts candidates answer := by
  constructor
  · intro hanswer
    refine ⟨(List.perm_ext_iff_of_nodup hanswer.nodup.of_map hdistinct.of_map).mpr fun row => ?_,
      hanswer.ordered⟩
    refine ⟨hanswer.candidate row, fun hrow => ?_⟩
    obtain ⟨shown, hshown, hgroup⟩ := hanswer.exists_row hrow
    exact List.inj_on_of_nodup_map hdistinct (hanswer.candidate shown hshown) hrow hgroup ▸ hshown
  · intro hsorts
    refine ⟨?_, fun row => hsorts.perm.mem_iff.mp, hsorts.ordered⟩
    rw [groupsOf, hdistinct.dedup]
    exact hsorts.perm.map group

/-! ## Of each group the first row -/

section First

variable {rows : List α}

/-- What `DISTINCT ON` keeps. -/
def distinctOn (group : α → G) (rows : List α) : List α :=
  (firstPerKey group rows).rows.map Prod.snd

theorem mem_distinctOn {row : α} : row ∈ distinctOn group rows ↔
    (rows.filter fun other => decide (group other = group row)).head? = some row := by
  have hget : (firstPerKey group rows).get? (group row) =
      (rows.filter fun other => decide (group other = group row)).head? :=
    Table.get?_groupBy _ _ rfl rows _
  rw [← hget, distinctOn, List.mem_map]
  constructor
  · rintro ⟨⟨key, stored⟩, hstored, rfl⟩
    rw [Table.mem_rows_iff] at hstored
    rwa [(mem_of_firstPerKey hstored).2]
  · exact fun hrow => ⟨(group row, row), (Table.mem_rows_iff _ _ _).mpr hrow, rfl⟩

theorem distinctOn_subset {row : α} (hrow : row ∈ distinctOn group rows) : row ∈ rows :=
  (List.mem_filter.mp (List.mem_of_mem_head? (mem_distinctOn.mp hrow))).1

theorem distinctOn_groups (group : α → G) (rows : List α) :
    ((distinctOn group rows).map group).Perm (groupsOf group rows) := by
  have hkeys : (distinctOn group rows).map group = (firstPerKey group rows).rows.map Prod.fst := by
    rw [distinctOn, List.map_map]
    exact List.map_congr_left fun entry hentry =>
      (mem_of_firstPerKey ((Table.mem_rows_iff _ _ _).mp hentry)).2
  rw [hkeys]
  refine perm_groupsOf (Table.nodup_keys _) fun key => ?_
  rw [Table.mem_keys_iff, List.mem_map, ← not_iff_not, Option.not_isSome_iff_eq_none,
    firstPerKey_eq_none_iff]
  simp only [not_exists, not_and, ne_eq]

theorem nodup_distinctOn (group : α → G) (rows : List α) :
    ((distinctOn group rows).map group).Nodup :=
  (distinctOn_groups group rows).nodup_iff.mpr (List.nodup_dedup _)

/-- The rows that some order lists first of their group. -/
def firstRows (group : α → G) (within : OrderBy α) (rows : List α) : List α :=
  rows.filter fun row => rows.all fun other =>
    decide (group other ≠ group row) || within.le row other

theorem mem_firstRows {within : OrderBy α} {row : α} : row ∈ firstRows group within rows ↔
    row ∈ rows ∧ ∀ other ∈ rows, group other = group row → within.le row other = true := by
  rw [firstRows, List.mem_filter, List.all_eq_true]
  simp only [Bool.or_eq_true, decide_eq_true_eq, ne_eq, ← imp_iff_not_or]

theorem mem_firstRows_of_distinctOn {within : OrderBy α} {versions : List α}
    (hsorts : within.Sorts rows versions) {row : α} (hrow : row ∈ distinctOn group versions) :
    row ∈ firstRows group within rows := by
  refine mem_firstRows.mpr ⟨hsorts.perm.mem_iff.mp (distinctOn_subset hrow), ?_⟩
  intro other hother hsame
  refine OrderBy.le_of_head? (hsorts.ordered.sublist List.filter_sublist)
    (mem_distinctOn.mp hrow) (List.mem_filter.mpr ⟨hsorts.perm.mem_iff.mpr hother, ?_⟩)
  exact decide_eq_true hsame

theorem mem_groups_firstRows {within : OrderBy α} {value : G} :
    value ∈ (firstRows group within rows).map group ↔ value ∈ rows.map group := by
  constructor
  · exact fun hvalue => (List.filter_sublist.map group).subset hvalue
  · intro hvalue
    obtain ⟨versions, hsorts⟩ := within.exists_sorts rows
    have hshown : value ∈ (distinctOn group versions).map group := by
      rw [(distinctOn_groups group versions).mem_iff, mem_groupsOf,
        (hsorts.perm.map group).mem_iff]
      exact hvalue
    obtain ⟨row, hrow, rfl⟩ := List.mem_map.mp hshown
    exact List.mem_map_of_mem (mem_firstRows_of_distinctOn hsorts hrow)

/-- The rows that `DISTINCT ON` keeps, each of those that are first of a group may be among them. -/
theorem answers_firstRows_iff {within : OrderBy α} :
    Answers group order (firstRows group within rows) answer ↔
      ∃ versions, within.Sorts rows versions ∧ order.Sorts (distinctOn group versions) answer := by
  constructor
  · intro hanswer
    classical
    -- of the rows that are tied those of the answer come first
    obtain ⟨versions, hsorts⟩ :=
      (within.thenBy (.flagged fun row => decide (row ∈ answer))).exists_sorts rows
    have hkept : ∀ {row}, row ∈ distinctOn group versions → row ∈ answer := by
      intro row hrow
      have hfirst := mem_firstRows_of_distinctOn ⟨hsorts.perm, hsorts.ordered.of_thenBy⟩ hrow
      obtain ⟨shown, hshown, hgroup⟩ := hanswer.exists_row hfirst
      obtain ⟨hmem, hbefore⟩ := mem_firstRows.mp (hanswer.candidate shown hshown)
      have hlisted := (mem_firstRows.mp (mem_firstRows_of_distinctOn hsorts hrow)).2 shown hmem
        hgroup
      have hflag := OrderBy.second_of_thenBy hlisted
        (hbefore row (mem_firstRows.mp hfirst).1 hgroup.symm)
      simpa [OrderBy.flagged, hshown] using hflag
    refine ⟨versions, ⟨hsorts.perm, hsorts.ordered.of_thenBy⟩, ?_, hanswer.ordered⟩
    refine (List.perm_ext_iff_of_nodup hanswer.nodup.of_map
      (nodup_distinctOn group versions).of_map).mpr fun row => ⟨fun hrow => ?_, hkept⟩
    have hshown : group row ∈ (distinctOn group versions).map group := by
      rw [(distinctOn_groups group versions).mem_iff, mem_groupsOf,
        (hsorts.perm.map group).mem_iff, ← mem_groups_firstRows]
      exact hanswer.mem_groups.mp (List.mem_map_of_mem hrow)
    obtain ⟨shown, hshown, hgroup⟩ := List.mem_map.mp hshown
    exact List.inj_on_of_nodup_map hanswer.nodup (hkept hshown) hrow hgroup ▸ hshown
  · rintro ⟨versions, hversions, hsorts⟩
    refine ⟨(hsorts.perm.map group).trans (perm_groupsOf (nodup_distinctOn group versions)
      fun value => ?_), fun row hrow => mem_firstRows_of_distinctOn hversions
        (hsorts.perm.mem_iff.mp hrow), hsorts.ordered⟩
    rw [(distinctOn_groups group versions).mem_iff, mem_groupsOf,
      (hversions.perm.map group).mem_iff, mem_groups_firstRows]

end First

/-! ## Answers that show a row -/

/-- Of each group an answer shows the candidate that is listed first, also where ties are broken. -/
theorem exists_answer_of_first (group : α → G) (order second : OrderBy α) {rows : List α}
    (hrows : ∀ row, row ∈ rows ↔ row ∈ candidates) :
    ∃ answer, Answers group order candidates answer ∧ (order.thenBy second).Ordered answer ∧
      ∀ row ∈ distinctOn group rows, row ∈ answer := by
  obtain ⟨answer, hsorts⟩ := (order.thenBy second).exists_sorts (distinctOn group rows)
  refine ⟨answer, ⟨?_, ?_, hsorts.ordered.of_thenBy⟩, hsorts.ordered,
    fun row => hsorts.perm.mem_iff.mpr⟩
  · refine (hsorts.perm.map group).trans
      (perm_groupsOf (nodup_distinctOn group rows) fun value => ?_)
    rw [(distinctOn_groups group rows).mem_iff, mem_groupsOf]
    simp only [List.mem_map, hrows]
  · exact fun row hrow => (hrows row).mp (distinctOn_subset (hsorts.perm.mem_iff.mp hrow))

theorem exists_answer (group : α → G) (order : OrderBy α) (candidates : List α) :
    ∃ answer, Answers group order candidates answer := by
  obtain ⟨answer, hanswer, -⟩ :=
    exists_answer_of_first group order order fun row => Iff.refl (row ∈ candidates)
  exact ⟨answer, hanswer⟩

/-- Any two candidates of different groups are shown by an answer. -/
theorem exists_answer_with (order second : OrderBy α) {row other : α} (hrow : row ∈ candidates)
    (hother : other ∈ candidates) (hne : group row ≠ group other) :
    ∃ answer, Answers group order candidates answer ∧ (order.thenBy second).Ordered answer ∧
      row ∈ answer ∧ other ∈ answer := by
  have hrows : ∀ shown, shown ∈ row :: other :: candidates ↔ shown ∈ candidates := by
    intro shown
    rw [List.mem_cons, List.mem_cons]
    exact ⟨by rintro (rfl | rfl | hmem) <;> assumption, fun hmem => Or.inr (Or.inr hmem)⟩
  obtain ⟨answer, hanswer, hordered, hfirst⟩ := exists_answer_of_first group order second hrows
  refine ⟨answer, hanswer, hordered, hfirst row (mem_distinctOn.mpr ?_),
    hfirst other (mem_distinctOn.mpr ?_)⟩
  · rw [List.filter_cons_of_pos (by simp), List.head?_cons]
  · rw [List.filter_cons_of_neg (by simpa using hne), List.filter_cons_of_pos (by simp),
      List.head?_cons]

/-! ## Where the answers agree -/

/-- A list starts with the rows that no other one precedes. -/
theorem take_filter_of_pairwise {keep : α → Bool} {rows : List α}
    (hrows : rows.Pairwise fun row other => keep other = true → keep row = true) :
    rows.take (rows.filter keep).length = rows.filter keep := by
  induction rows with
  | nil => rfl
  | cons row rest ih =>
    obtain ⟨hrow, hrest⟩ := List.pairwise_cons.mp hrows
    by_cases hkeep : keep row = true
    · rw [List.filter_cons_of_pos hkeep, List.length_cons, List.take_succ_cons, ih hrest]
    · have hnone : rest.filter keep = [] :=
        List.filter_eq_nil_iff.mpr fun other hother hkept => hkeep (hrow other hother hkept)
      rw [List.filter_cons_of_neg hkeep, hnone]
      rfl

/-- Every answer starts with the groups that come strictly before the others. -/
theorem Answers.take_perm (hanswer : Answers group order candidates answer) {first : List G}
    (hdistinct : first.Nodup) (hmem : ∀ value ∈ first, value ∈ candidates.map group)
    (hbefore : ∀ row ∈ candidates, ∀ other ∈ candidates, group row ∈ first → group other ∉ first →
      order.le other row = false) :
    ((answer.take first.length).map group).Perm first := by
  let keep : α → Bool := fun row => decide (group row ∈ first)
  have hfilter : ((answer.filter keep).map group).Perm first := by
    refine (List.perm_ext_iff_of_nodup
      (hanswer.nodup.sublist (List.filter_sublist.map group)) hdistinct).mpr fun value => ?_
    rw [List.mem_map]
    constructor
    · rintro ⟨row, hrow, rfl⟩
      exact of_decide_eq_true (List.mem_filter.mp hrow).2
    · intro hvalue
      obtain ⟨row, hrow, rfl⟩ := List.mem_map.mp (hanswer.mem_groups.mpr (hmem value hvalue))
      exact ⟨row, List.mem_filter.mpr ⟨hrow, decide_eq_true hvalue⟩, rfl⟩
  have hpairs : answer.Pairwise fun row other => keep other = true → keep row = true := by
    refine hanswer.ordered.imp_of_mem fun {row other} hrow hother hle hkeep => ?_
    by_contra hnot
    have hstrict := hbefore other (hanswer.candidate other hother) row
      (hanswer.candidate row hrow) (of_decide_eq_true hkeep)
      fun hmem => hnot (decide_eq_true hmem)
    rw [hle] at hstrict
    cases hstrict
  have hlength : first.length = (answer.filter keep).length := by
    rw [← hfilter.length_eq, List.length_map]
  rw [hlength, take_filter_of_pairwise hpairs]
  exact hfilter

theorem Splits.agree (hsplits : Splits group order candidates number) :
    Agree group order candidates number := by
  obtain ⟨first, hdistinct, rfl, hmem, hbefore⟩ := hsplits
  intro answer other hanswer hother
  exact (hanswer.take_perm hdistinct hmem hbefore).trans
    (hother.take_perm hdistinct hmem hbefore).symm

/-- Groups whose candidates are tied change places in some answer. -/
theorem Agree.splits (hagree : Agree group order candidates number)
    (hnumber : number ≤ (groupsOf group candidates).length) :
    Splits group order candidates number := by
  obtain ⟨answer, hanswer⟩ := exists_answer group order candidates
  have htaken : ((answer.take number).map group).Sublist (answer.map group) :=
    (List.take_sublist _ _).map group
  refine ⟨(answer.take number).map group, hanswer.nodup.sublist htaken, ?_,
    fun value hvalue => hanswer.mem_groups.mp (htaken.subset hvalue), ?_⟩
  · rw [List.length_map, List.length_take, hanswer.length_eq, Nat.min_eq_left hnumber]
  · intro row hrow other hother hfirst hlater
    by_contra hle
    rw [Bool.not_eq_false] at hle
    have hne : group row ≠ group other := fun hsame => hlater (hsame ▸ hfirst)
    -- an answer that lists the other row first, as far as it is tied
    obtain ⟨swapped, hswapped, hordered, hrowShown, hotherShown⟩ :=
      exists_answer_with order (.flagged fun shown => decide (group shown = group other)) hrow
        hother hne
    have hsame : ∀ value, value ∈ (swapped.take number).map group ↔
        value ∈ (answer.take number).map group :=
      fun value => (hagree swapped answer hswapped hanswer).mem_iff
    have hrowTaken : row ∈ swapped.take number := by
      obtain ⟨shown, hshown, hgroup⟩ := List.mem_map.mp ((hsame _).mpr hfirst)
      have hmem := (List.take_sublist _ _).subset hshown
      rwa [← List.inj_on_of_nodup_map hswapped.nodup hmem hrowShown hgroup]
    have hotherLeft : other ∈ swapped.drop number := by
      rw [← List.take_append_drop number swapped, List.mem_append] at hotherShown
      exact hotherShown.resolve_left fun hmem =>
        hlater ((hsame _).mp (List.mem_map_of_mem hmem))
    rw [← List.take_append_drop number swapped] at hordered
    have hbefore := (List.pairwise_append.mp hordered).2.2 row hrowTaken other hotherLeft
    have hflag := OrderBy.second_of_thenBy hbefore hle
    simp [OrderBy.flagged, hne] at hflag

/-! ## Pages -/

/-- The pages of any answers list each group once. -/
def PagesPartition (group : α → G) (order : OrderBy α) (candidates : List α) (limit : ℕ) : Prop :=
  ∀ answers : ℕ → List α, (∀ index, Answers group order candidates (answers index)) →
    ∀ count, (groupsOf group candidates).length ≤ count * limit →
      ((pagesOf answers limit count).map group).Perm (groupsOf group candidates)

theorem pagesOf_perm (hagree : ∀ index, Agree group order candidates (index * limit))
    {answers : ℕ → List α} (hanswers : ∀ index, Answers group order candidates (answers index))
    (count : ℕ) : ((pagesOf answers limit count).map group).Perm
      (((answers 0).take (count * limit)).map group) := by
  induction count with
  | zero => simp [pagesOf]
  | succ count ih =>
    rw [pagesOf_succ, List.map_append]
    refine ((ih.trans (hagree count _ _ (hanswers 0) (hanswers count))).append_right _).trans ?_
    rw [← List.map_append, page, ← List.take_add, ← Nat.succ_mul]
    exact hagree (count + 1) _ _ (hanswers count) (hanswers 0)

/-- The pages list each group once exactly when no tie crosses the start of a page. -/
theorem pagesPartition_iff : PagesPartition group order candidates limit ↔
    ∀ index, index * limit < (groupsOf group candidates).length →
      Splits group order candidates (index * limit) := by
  constructor
  · intro hpages index hindex
    refine Agree.splits (fun answer other hanswer hother => ?_) hindex.le
    rcases Nat.eq_zero_or_pos limit with rfl | hlimit
    · simp
    · have hcount : (groupsOf group candidates).length ≤
          (groupsOf group candidates).length * limit := Nat.le_mul_of_pos_right _ hlimit
      have hbound : index ≤ (groupsOf group candidates).length :=
        (Nat.le_mul_of_pos_right _ hlimit).trans hindex.le
      have hlisted := hpages (fun number => if number < index then answer else other)
        (fun number => by split_ifs; exacts [hanswer, hother]) _ hcount
      rw [pagesOf_split answer other hbound (by rwa [hother.length_eq]), List.map_append] at hlisted
      -- what follows the boundary is the same on both sides
      refine (List.perm_append_right_iff ((other.drop (index * limit)).map group)).mp ?_
      have hparts : (other.take (index * limit)).map group ++
          (other.drop (index * limit)).map group = other.map group := by
        rw [← List.map_append, List.take_append_drop]
      rw [hparts]
      exact hlisted.trans hother.groups.symm
  · intro hsplits answers hanswers count hcount
    have hagree : ∀ index, Agree group order candidates (index * limit) := by
      intro index
      rcases Nat.lt_or_ge (index * limit) (groupsOf group candidates).length with hless | hmore
      · exact (hsplits index hless).agree
      · intro answer other hanswer hother
        rw [List.take_of_length_le (hanswer.length_eq ▸ hmore),
          List.take_of_length_le (hother.length_eq ▸ hmore)]
        exact hanswer.groups.trans hother.groups.symm
    refine (pagesOf_perm hagree hanswers count).trans ?_
    rw [List.take_of_length_le ((hanswers 0).length_eq ▸ hcount)]
    exact (hanswers 0).groups

end Relational
