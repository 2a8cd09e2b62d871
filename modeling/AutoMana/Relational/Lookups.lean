import AutoMana.Relational.Choices
import AutoMana.Relational.Dict
import Mathlib.Data.List.MinMax

/-!
# Lookups

A dictionary is filled from rows, one of its keys is picked by some rule, and what the key has
is looked up. Of rows with one key the last one stays, and of several keys on top the rule picks
the first: so what is found is that of a row whose key is on top, and every such row is found
from some permutation.
-/

namespace Relational

variable {K V ρ γ : Type}

/-! ## Picking a key -/

/-- A key that is picked is on top of the keys there are, and a first key on top is picked. -/
structure Picks (pick : List K → Option K) (top : (K → Prop) → K → Prop) : Prop where
  stored_of_top : ∀ {stored key}, top stored key → stored key
  top_of_pick : ∀ {keys key}, pick keys = some key → top (· ∈ keys) key
  exists_pick : ∀ {keys key}, top (· ∈ keys) key → ∃ picked, pick keys = some picked
  front : ∀ {key rest}, top (· ∈ key :: rest) key → pick (key :: rest) = some key

def IsHit (hit : K → Bool) (stored : K → Prop) (key : K) : Prop := stored key ∧ hit key

theorem picks_find (hit : K → Bool) : Picks (List.find? hit) (IsHit hit) where
  stored_of_top htop := htop.1
  top_of_pick hpick := ⟨List.mem_of_find?_eq_some hpick, List.find?_some hpick⟩
  exists_pick htop := Option.isSome_iff_exists.mp (List.find?_isSome.mpr ⟨_, htop⟩)
  front htop := List.find?_cons_of_pos htop.2

/-- A hit that costs no more than the others. -/
def IsCheapest [LE γ] (hit : K → Bool) (cost : K → γ) (stored : K → Prop) (key : K) : Prop :=
  (stored key ∧ hit key) ∧ ∀ other, stored other → hit other → cost key ≤ cost other

theorem picks_argmin [LinearOrder γ] (hit : K → Bool) (cost : K → γ) :
    Picks (fun keys => (keys.filter hit).argmin cost) (IsCheapest hit cost) where
  stored_of_top htop := htop.1.1
  top_of_pick hpick :=
    ⟨List.mem_filter.mp (List.argmin_mem hpick), fun _ hother hhit =>
      List.le_of_mem_argmin (List.mem_filter.mpr ⟨hother, hhit⟩) hpick⟩
  exists_pick {keys key} htop := by
    refine Option.ne_none_iff_exists'.mp fun hnone => ?_
    have hmem : key ∈ keys.filter hit := List.mem_filter.mpr htop.1
    rw [List.argmin_eq_none.mp hnone] at hmem
    cases hmem
  front {key rest} htop := by
    simp only [List.filter_cons_of_pos htop.1.2, List.argmin_cons]
    cases hrest : (rest.filter hit).argmin cost with
    | none => rfl
    | some other =>
      obtain ⟨hother, hhit⟩ := List.mem_filter.mp (List.argmin_mem hrest)
      exact if_neg (not_lt.mpr (htop.2 other (List.mem_cons_of_mem _ hother) hhit))

/-! ## Looking it up -/

/-- A row whose key is on top of the keys of all rows. -/
def TopRow (keyOf : ρ → K) (top : (K → Prop) → K → Prop) (rows : List ρ) (row : ρ) : Prop :=
  row ∈ rows ∧ top (fun key => ∃ other ∈ rows, keyOf other = key) (keyOf row)

theorem topRow_perm {keyOf : ρ → K} {top : (K → Prop) → K → Prop} {rows other : List ρ} {row : ρ}
    (hperm : other.Perm rows) :
    TopRow keyOf top other row ↔ TopRow keyOf top rows row := by
  simp only [TopRow, hperm.mem_iff]

section Lookup

variable [DecidableEq K] (keyOf : ρ → K) (value : ρ → V)

def dictOf (rows : List ρ) : Table K V := .ofPairs (rows.map fun row => (keyOf row, value row))

/-- The row whose value is looked up. -/
def chooseRow (pick : List K → Option K) (rows : List ρ) : Option ρ :=
  (pick ((dictOf keyOf value rows).rows.map Prod.fst)).bind fun key =>
    rows.reverse.find? (keyOf · = key)

variable {keyOf value}

theorem get?_dictOf (rows : List ρ) (key : K) : (dictOf keyOf value rows).get? key =
    (rows.reverse.find? (keyOf · = key)).map value := by
  rw [dictOf, Table.get?_ofPairs, ← List.map_reverse]
  induction rows.reverse with
  | nil => rfl
  | cons row rest ih =>
    rw [List.map_cons, List.lookup_cons, List.find?_cons, ih, beq_eq_decide]
    by_cases hsame : keyOf row = key
    · simp [hsame]
    · simp [hsame, Ne.symm hsame]

theorem mem_keys_dictOf (rows : List ρ) (key : K) :
    key ∈ (dictOf keyOf value rows).rows.map Prod.fst ↔ ∃ row ∈ rows, keyOf row = key := by
  rw [dictOf, Table.mem_keys_ofPairs, List.map_map, List.mem_map]
  rfl

theorem bind_get?_dictOf (pick : List K → Option K) (rows : List ρ) :
    (pick ((dictOf keyOf value rows).rows.map Prod.fst)).bind (dictOf keyOf value rows).get? =
      (chooseRow keyOf value pick rows).map value := by
  rw [chooseRow, Option.map_bind]
  congr 1
  funext key
  exact get?_dictOf rows key

/-- A key that is wanted is found among the keys before it is looked up. -/
theorem bind_get?_eq_find (wanted : Option K) (rows : List ρ) :
    wanted.bind (dictOf keyOf value rows).get? =
      (((dictOf keyOf value rows).rows.map Prod.fst).find? (wanted = some ·)).bind
        (dictOf keyOf value rows).get? := by
  cases hfound : ((dictOf keyOf value rows).rows.map Prod.fst).find? (wanted = some ·) with
  | some key =>
    have hwanted : wanted = some key := by simpa using List.find?_some hfound
    rw [hwanted]
  | none =>
    cases wanted with
    | none => rfl
    | some key =>
      have hmissing : key ∉ (dictOf keyOf value rows).rows.map Prod.fst := by
        intro hmem
        simpa using List.find?_eq_none.mp hfound key hmem
      rw [Option.bind_some, Option.bind_none, ← Option.not_isSome_iff_eq_none,
        ← Table.mem_keys_iff]
      exact hmissing

/-- The key of a first row is the first one. -/
theorem keys_dictOf_cons (keyOf : ρ → K) (value : ρ → V) (row : ρ) (rest : List ρ) : ∃ others,
    (dictOf keyOf value (row :: rest)).rows.map Prod.fst = keyOf row :: others := by
  have hhead := Table.head?_filterMap_keys_ofPairs
    ((row :: rest).map fun row => (keyOf row, value row)) some
  simp only [List.filterMap_some, List.map_cons, List.head?_cons] at hhead
  exact List.head?_eq_some_iff.mp hhead

variable {pick : List K → Option K} {top : (K → Prop) → K → Prop} {rows : List ρ} {row : ρ}

theorem topRow_iff (value : ρ → V) : TopRow keyOf top rows row ↔
    row ∈ rows ∧ top (· ∈ (dictOf keyOf value rows).rows.map Prod.fst) (keyOf row) := by
  have hkeys : (· ∈ (dictOf keyOf value rows).rows.map Prod.fst) =
      fun key => ∃ other ∈ rows, keyOf other = key :=
    funext fun key => propext (mem_keys_dictOf rows key)
  rw [hkeys, TopRow]

/-- A row with the others of its key before it, and those of other keys behind it. -/
def inFront (keyOf : ρ → K) (row : ρ) (others : List ρ) : List ρ :=
  others.filter (keyOf · = keyOf row) ++
    row :: others.filter fun other => !(keyOf other = keyOf row)

theorem inFront_perm (keyOf : ρ → K) (row : ρ) (others : List ρ) :
    (inFront keyOf row others).Perm (row :: others) :=
  List.perm_middle.trans ((List.filter_append_perm _ others).cons row)

theorem chooseRow_inFront (hpicks : Picks pick top) {others : List ρ}
    (htop : TopRow keyOf top (row :: others) row) :
    chooseRow keyOf value pick (inFront keyOf row others) = some row := by
  obtain ⟨first, rest, hsplit, hfirst⟩ : ∃ first rest,
      inFront keyOf row others = first :: rest ∧ keyOf first = keyOf row := by
    unfold inFront
    cases hsame : others.filter (keyOf · = keyOf row) with
    | nil => exact ⟨row, _, rfl, rfl⟩
    | cons first rest =>
      have hmem : first ∈ others.filter (keyOf · = keyOf row) := hsame ▸ List.mem_cons_self
      exact ⟨first, _, rfl, of_decide_eq_true (List.mem_filter.mp hmem).2⟩
  -- the key of the row comes first, and its last row is this one
  have hkeys := (topRow_iff value).mp ((topRow_perm (inFront_perm keyOf row others)).mpr htop)
  obtain ⟨otherKeys, hotherKeys⟩ := keys_dictOf_cons keyOf value first rest
  rw [chooseRow]
  rw [hsplit, hotherKeys, hfirst] at hkeys ⊢
  rw [hpicks.front hkeys.2, Option.bind_some, ← hsplit, inFront, List.reverse_append,
    List.reverse_cons, List.append_assoc, List.find?_append]
  have hrest : (others.filter fun other => !(keyOf other = keyOf row)).reverse.find?
      (keyOf · = keyOf row) = none := by
    rw [List.find?_eq_none]
    intro other hother
    simpa using (List.mem_filter.mp (List.mem_reverse.mp hother)).2
  rw [hrest, Option.none_or]
  simp

/-- What is looked up is chosen among the rows whose key is on top. -/
theorem Picks.chooses (hpicks : Picks pick top) :
    Chooses (chooseRow keyOf value pick) (TopRow keyOf top) where
  top_of_choose {rows row} hchoose := by
    obtain ⟨key, hpick, hfind⟩ := Option.bind_eq_some_iff.mp hchoose
    have hkey : keyOf row = key := by simpa using List.find?_some hfind
    refine (topRow_iff value).mpr ⟨List.mem_reverse.mp (List.mem_of_find?_eq_some hfind), ?_⟩
    rw [hkey]
    exact hpicks.top_of_pick hpick
  exists_choose {rows row} htop := by
    obtain ⟨picked, hpick⟩ := hpicks.exists_pick ((topRow_iff value).mp htop).2
    obtain ⟨found, hfound, hkey⟩ := (mem_keys_dictOf rows picked).mp
      (hpicks.stored_of_top (hpicks.top_of_pick hpick))
    rw [chooseRow, hpick, Option.bind_some]
    refine Option.isSome_iff_exists.mp (List.find?_isSome.mpr ⟨found, ?_⟩)
    exact ⟨List.mem_reverse.mpr hfound, decide_eq_true hkey⟩
  top_perm := topRow_perm
  exists_perm {rows row} htop := by
    obtain ⟨before, after, rfl⟩ := List.append_of_mem htop.1
    have hmiddle : (before ++ row :: after).Perm (row :: (before ++ after)) := List.perm_middle
    refine ⟨inFront keyOf row (before ++ after), (inFront_perm keyOf row _).trans hmiddle.symm, ?_⟩
    exact chooseRow_inFront hpicks ((topRow_perm hmiddle).mp htop)

end Lookup

end Relational
