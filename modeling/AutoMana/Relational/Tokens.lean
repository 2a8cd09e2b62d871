import Mathlib.Data.List.Basic
import Mathlib.Data.List.DropRight
import Mathlib.Data.List.Infix

/-!
# Texts of tokens

A text may be tokens with a separator between them. It is split at spaces, and what stands for a
text in it is replaced by another one. A replacement of what has no separator works on each token.
-/

namespace Relational.Tokens

variable {α : Type}

/-! ## Splitting -/

/-- `split()`, with the word that was begun. -/
def splitFrom (isSpace : α → Bool) : List α → List α → List (List α)
  | [], [] => []
  | begun, [] => [begun]
  | [], c :: rest => if isSpace c then splitFrom isSpace [] rest else splitFrom isSpace [c] rest
  | begun, c :: rest =>
    if isSpace c then begun :: splitFrom isSpace [] rest
    else splitFrom isSpace (begun ++ [c]) rest

attribute [grind =] splitFrom

/-- The words between the spaces. -/
def split (isSpace : α → Bool) (text : List α) : List (List α) := splitFrom isSpace [] text

theorem infix_of_mem_splitFrom {isSpace : α → Bool} {begun text word : List α}
    (hword : word ∈ splitFrom isSpace begun text) : word <:+: begun ++ text := by
  induction text generalizing begun with
  | nil =>
    cases begun with
    | nil => cases hword
    | cons first begun =>
      rw [splitFrom, List.mem_singleton] at hword
      · exact ⟨[], [], by simp [hword]⟩
      · exact List.cons_ne_nil _ _
  | cons c rest ih =>
    have hlater : word ∈ splitFrom isSpace [] rest → word <:+: begun ++ c :: rest := by
      intro hmem
      obtain ⟨before, after, heq⟩ := ih hmem
      rw [List.nil_append] at heq
      exact ⟨begun ++ c :: before, after, by simp [← heq]⟩
    cases begun with
    | nil =>
      rw [splitFrom] at hword
      split_ifs at hword with hspace
      · exact hlater hword
      · exact ih hword
    | cons first begun =>
      rw [splitFrom] at hword
      · split_ifs at hword with hspace
        · rcases List.mem_cons.mp hword with rfl | hmem
          · exact ⟨[], c :: rest, by simp⟩
          · exact hlater hmem
        · simpa using ih hword
      · exact List.cons_ne_nil _ _

theorem infix_of_mem_split {isSpace : α → Bool} {text word : List α}
    (hword : word ∈ split isSpace text) : word <:+: text := infix_of_mem_splitFrom hword

theorem splitFrom_eq_nil_iff {isSpace : α → Bool} {begun text : List α} :
    splitFrom isSpace begun text = [] ↔ begun = [] ∧ ∀ c ∈ text, isSpace c = true := by
  induction text generalizing begun with
  | nil =>
    cases begun with
    | nil => simp [splitFrom]
    | cons first begun => simp [splitFrom]
  | cons c rest ih =>
    cases begun with
    | nil =>
      rw [splitFrom]
      split_ifs with hspace
      · simp [ih, hspace]
      · simp [ih, hspace]
    | cons first begun =>
      rw [splitFrom]
      · split_ifs with hspace
        · simp
        · simp [ih]
      · exact List.cons_ne_nil _ _

theorem splitFrom_ne_nil {isSpace : α → Bool} {begun : List α} (hbegun : begun ≠ [])
    (text : List α) : splitFrom isSpace begun text ≠ [] :=
  fun hnil => hbegun (splitFrom_eq_nil_iff.mp hnil).1

theorem splitFrom_nil_of_not {isSpace : α → Bool} {c : α} (hspace : ¬ isSpace c = true)
    (rest : List α) : splitFrom isSpace [] (c :: rest) = splitFrom isSpace [c] rest := by
  rw [splitFrom, if_neg hspace]

theorem splitFrom_nil_of_space {isSpace : α → Bool} {c : α} (hspace : isSpace c = true)
    (rest : List α) : splitFrom isSpace [] (c :: rest) = splitFrom isSpace [] rest := by
  rw [splitFrom, if_pos hspace]

theorem splitFrom_of_not {isSpace : α → Bool} {begun : List α} (hbegun : begun ≠ [])
    {c : α} (hspace : ¬ isSpace c = true) (rest : List α) :
    splitFrom isSpace begun (c :: rest) = splitFrom isSpace (begun ++ [c]) rest := by
  rw [splitFrom, if_neg hspace]
  exact hbegun

theorem splitFrom_of_space {isSpace : α → Bool} {begun : List α} (hbegun : begun ≠ [])
    {c : α} (hspace : isSpace c = true) (rest : List α) :
    splitFrom isSpace begun (c :: rest) = begun :: splitFrom isSpace [] rest := by
  rw [splitFrom, if_pos hspace]
  exact hbegun

/-- A word has no space, and has something. -/
theorem word_of_mem_splitFrom {isSpace : α → Bool} {begun text word : List α}
    (hbegun : ∀ c ∈ begun, isSpace c = false) (hword : word ∈ splitFrom isSpace begun text) :
    word ≠ [] ∧ ∀ c ∈ word, isSpace c = false := by
  induction text generalizing begun with
  | nil =>
    cases begun with
    | nil => cases hword
    | cons first begun =>
      rw [splitFrom, List.mem_singleton] at hword
      · rw [hword]
        exact ⟨List.cons_ne_nil _ _, hbegun⟩
      · exact List.cons_ne_nil _ _
  | cons c rest ih =>
    have hlater : word ∈ splitFrom isSpace [] rest → word ≠ [] ∧ ∀ c ∈ word, isSpace c = false :=
      ih fun _ hmem => by cases hmem
    by_cases hspace : isSpace c = true
    · cases begun with
      | nil =>
        rw [splitFrom_nil_of_space hspace] at hword
        exact hlater hword
      | cons first begun =>
        rw [splitFrom_of_space (List.cons_ne_nil _ _) hspace, List.mem_cons] at hword
        rcases hword with rfl | hmem
        · exact ⟨List.cons_ne_nil _ _, hbegun⟩
        · exact hlater hmem
    · have hgrown : ∀ d ∈ begun ++ [c], isSpace d = false := by
        intro d hd
        rcases List.mem_append.mp hd with hold | hnew
        · exact hbegun d hold
        · rw [List.mem_singleton.mp hnew]
          exact Bool.eq_false_iff.mpr hspace
      cases begun with
      | nil =>
        rw [splitFrom_nil_of_not hspace] at hword
        exact ih hgrown hword
      | cons first begun =>
        rw [splitFrom_of_not (List.cons_ne_nil _ _) hspace] at hword
        exact ih hgrown hword

theorem word_of_mem_split {isSpace : α → Bool} {text word : List α}
    (hword : word ∈ split isSpace text) : word ≠ [] ∧ ∀ c ∈ word, isSpace c = false :=
  word_of_mem_splitFrom (fun _ hmem => by cases hmem) hword

/-- A text has a word if it has anything but spaces. -/
theorem split_ne_nil_iff {isSpace : α → Bool} {text : List α} :
    split isSpace text ≠ [] ↔ ∃ c ∈ text, isSpace c = false := by
  rw [split, ne_eq, splitFrom_eq_nil_iff]
  simp

/-! ## Replacing -/

/-- A text without the separator starts a text when it starts the first token. -/
theorem prefix_append_cons_iff {separator : α} {old first second : List α}
    (hnone : separator ∉ old) :
    old <+: first ++ separator :: second ↔ old <+: first := by
  constructor
  · intro hprefix
    rcases Nat.lt_or_ge first.length old.length with hlonger | hshorter
    · -- a longer pattern would reach the separator
      have hfirst : first ++ [separator] <+: old := by
        have hstarts : first ++ [separator] <+: first ++ separator :: second :=
          ⟨second, by simp⟩
        refine List.prefix_of_prefix_length_le hstarts hprefix ?_
        rw [List.length_append]
        exact hlonger
      exact absurd (hfirst.subset (List.mem_append_right _ (List.mem_singleton_self _))) hnone
    · exact List.prefix_of_prefix_length_le hprefix (List.prefix_append _ _) hshorter
  · exact fun hprefix => hprefix.trans (List.prefix_append _ _)

section Replace

variable [DecidableEq α] (old new : List α)

/-- `replace(old, new)` from a place on, where some of what is replaced is still to be skipped. -/
def replaceFrom : Nat → List α → List α
  | _, [] => []
  | skipped + 1, _ :: rest => replaceFrom skipped rest
  | 0, c :: rest =>
    if old <+: c :: rest then new ++ replaceFrom (old.length - 1) rest
    else c :: replaceFrom 0 rest

/-- What stands for `old`, from the left, is replaced by `new`. -/
def replace (text : List α) : List α := replaceFrom old new 0 text

variable {old new}

theorem replace_of_not_infix {text : List α} (hnone : ¬ old <:+: text) :
    replace old new text = text := by
  rw [replace]
  induction text with
  | nil => rfl
  | cons c rest ih =>
    rw [replaceFrom, if_neg fun hprefix => hnone hprefix.isInfix,
      ih fun hinside => hnone (List.infix_cons hinside)]

theorem filter_replaceFrom {keep : α → Bool} (hkeep : new.filter keep = old.filter keep)
    (hold : old ≠ []) (skipped : Nat) (text : List α) :
    (replaceFrom old new skipped text).filter keep = (text.drop skipped).filter keep := by
  induction text generalizing skipped with
  | nil => simp [replaceFrom]
  | cons c rest ih =>
    cases skipped with
    | succ skipped => rw [replaceFrom, ih, List.drop_succ_cons]
    | zero =>
      rw [replaceFrom, List.drop_zero]
      split_ifs with hprefix
      · obtain ⟨after, heq⟩ := hprefix
        obtain ⟨first, others, rfl⟩ := List.exists_cons_of_ne_nil hold
        obtain ⟨rfl, rfl⟩ := List.cons_eq_cons.mp heq
        rw [List.filter_append, ih, hkeep, ← List.filter_append]
        simp
      · rw [List.filter_cons, List.filter_cons, ih, List.drop_zero]

/-- What is left of a text does not change when the same is left of both. -/
theorem filter_replace {keep : α → Bool} (hkeep : new.filter keep = old.filter keep)
    (hold : old ≠ []) (text : List α) :
    (replace old new text).filter keep = text.filter keep :=
  filter_replaceFrom hkeep hold 0 text

theorem replaceFrom_append_cons {separator : α} (hnone : separator ∉ old) (hold : old ≠ [])
    {skipped : Nat} {first : List α} (hskipped : skipped ≤ first.length) (second : List α) :
    replaceFrom old new skipped (first ++ separator :: second) =
      replaceFrom old new skipped first ++ separator :: replace old new second := by
  induction first generalizing skipped with
  | nil =>
    obtain rfl : skipped = 0 := Nat.le_zero.mp hskipped
    have hfirst : ¬ old <+: separator :: second := fun hprefix =>
      hold (List.prefix_nil.mp ((prefix_append_cons_iff hnone).mp hprefix))
    simp [replaceFrom, hfirst, replace]
  | cons c rest ih =>
    cases skipped with
    | succ skipped => exact ih (Nat.le_of_succ_le_succ hskipped)
    | zero =>
      rw [List.cons_append, replaceFrom, replaceFrom, ← List.cons_append]
      simp only [prefix_append_cons_iff hnone]
      split_ifs with hprefix
      · rw [ih, List.append_assoc]
        have hlength := hprefix.length_le
        rw [List.length_cons] at hlength
        omega
      · rw [ih (Nat.zero_le _), List.cons_append]

/-- Both tokens are replaced in. -/
theorem replace_append_cons {separator : α} (hnone : separator ∉ old) (hold : old ≠ [])
    (first second : List α) : replace old new (first ++ separator :: second) =
      replace old new first ++ separator :: replace old new second :=
  replaceFrom_append_cons hnone hold (Nat.zero_le _) second

end Replace

/-! ## Joining -/

/-- The separator between the tokens. -/
def join (separator : α) : List (List α) → List α
  | [] => []
  | [token] => token
  | token :: tokens => token ++ separator :: join separator tokens

theorem join_cons {separator : α} (token : List α) {tokens : List (List α)} (hne : tokens ≠ []) :
    join separator (token :: tokens) = token ++ separator :: join separator tokens := by
  obtain ⟨next, tokens, rfl⟩ := List.exists_cons_of_ne_nil hne
  rfl

theorem join_concat {separator : α} {tokens : List (List α)} (hne : tokens ≠ []) (last : List α) :
    join separator (tokens ++ [last]) = join separator tokens ++ separator :: last := by
  induction tokens with
  | nil => exact absurd rfl hne
  | cons token rest ih =>
    cases rest with
    | nil => rfl
    | cons next others =>
      rw [List.cons_append, join_cons _ (List.append_ne_nil_of_right_ne_nil _ (by simp)),
        join_cons _ (List.cons_ne_nil _ _), ih (List.cons_ne_nil _ _), List.append_assoc]
      rfl

/-! ## Squeezing -/

section Squeeze

variable (isSpace : α → Bool) (separator : α)

/-- Every run of spaces becomes a separator, but for what is left of a run that has begun. -/
def squeezeFrom : Bool → List α → List α
  | _, [] => []
  | begun, c :: rest =>
    if isSpace c then
      if begun then squeezeFrom true rest else separator :: squeezeFrom true rest
    else c :: squeezeFrom false rest

def squeeze (text : List α) : List α := squeezeFrom isSpace separator false text

theorem squeezeFrom_true (text : List α) : squeezeFrom isSpace separator true text =
    squeezeFrom isSpace separator false (text.dropWhile isSpace) := by
  induction text with
  | nil => rfl
  | cons c rest ih =>
    by_cases hspace : isSpace c = true
    · rw [squeezeFrom, if_pos hspace, if_pos rfl, ih, List.dropWhile_cons_of_pos hspace]
    · rw [List.dropWhile_cons_of_neg hspace, squeezeFrom, squeezeFrom, if_neg hspace,
        if_neg hspace]

variable [DecidableEq α]

/-- `rstrip(separator)` -/
def trimEnd (text : List α) : List α := text.rdropWhile (· = separator)

/-- `strip(separator)` -/
def trim (text : List α) : List α := trimEnd separator (text.dropWhile (· = separator))

variable {separator}

theorem trimEnd_append_separator (text : List α) :
    trimEnd separator (text ++ [separator]) = trimEnd separator text := by
  apply List.rdropWhile_concat_pos
  exact decide_eq_true rfl

/-- Behind what is no separator, only what follows is trimmed. -/
theorem trimEnd_append_cons {c : α} (hc : c ≠ separator) (before after : List α) :
    trimEnd separator (before ++ c :: after) = before ++ trimEnd separator (c :: after) := by
  induction after using List.reverseRecOn with
  | nil =>
    have hkept (text : List α) : trimEnd separator (text ++ [c]) = text ++ [c] := by
      apply List.rdropWhile_concat_neg
      simpa using hc
    exact (hkept before).trans (congrArg (before ++ ·) (hkept []).symm)
  | append_singleton after last ih =>
    rw [trimEnd, trimEnd, ← List.cons_append, ← List.append_assoc]
    by_cases hlast : last = separator
    · subst hlast
      exact (trimEnd_append_separator _).trans
        (ih.trans (congrArg (before ++ ·) (trimEnd_append_separator _).symm))
    · rw [List.rdropWhile_concat_neg _ _ _ (by simpa using hlast),
        List.rdropWhile_concat_neg _ _ _ (by simpa using hlast), List.append_assoc]

theorem trimEnd_of_notMem {text : List α} (hnone : separator ∉ text) :
    trimEnd separator text = text := by
  rw [trimEnd, List.rdropWhile_eq_self_iff]
  intro hne hlast
  have hmem := List.getLast_mem hne
  rw [of_decide_eq_true hlast] at hmem
  exact hnone hmem

variable {isSpace}

/-- The words of a text, of which one may have begun, with a separator between them. -/
theorem trimEnd_squeezeFrom (hseparator : isSpace separator = true) (text : List α) :
    (∀ begun, begun ≠ [] → (∀ c ∈ begun, isSpace c = false) →
      trimEnd separator (begun ++ squeezeFrom isSpace separator false text) =
        join separator (splitFrom isSpace begun text) ∧
      trimEnd separator (begun ++ separator :: squeezeFrom isSpace separator true text) =
        join separator (begun :: splitFrom isSpace [] text)) ∧
    ∀ begun, trim separator (squeezeFrom isSpace separator begun text) =
      join separator (splitFrom isSpace [] text) := by
  have hnone {begun : List α} (hbegun : ∀ c ∈ begun, isSpace c = false) : separator ∉ begun :=
    fun hmem => by rw [hbegun separator hmem] at hseparator; cases hseparator
  induction text with
  | nil =>
    refine ⟨fun begun hbegun hwords => ?_, fun begun => rfl⟩
    have hword : splitFrom isSpace begun [] = [begun] := by
      cases begun with
      | nil => exact absurd rfl hbegun
      | cons => rfl
    have htrimmed := trimEnd_of_notMem (hnone hwords)
    rw [hword, squeezeFrom, squeezeFrom, List.append_nil, trimEnd_append_separator, htrimmed]
    exact ⟨rfl, rfl⟩
  | cons c rest ih =>
    obtain ⟨ihBegun, ihNone⟩ := ih
    by_cases hspace : isSpace c = true
    · have hsqueezed : squeezeFrom isSpace separator true (c :: rest) =
          squeezeFrom isSpace separator true rest := by rw [squeezeFrom, if_pos hspace, if_pos rfl]
      have hfirst : squeezeFrom isSpace separator false (c :: rest) =
          separator :: squeezeFrom isSpace separator true rest := by
        rw [squeezeFrom, if_pos hspace, if_neg Bool.false_ne_true]
      rw [hsqueezed, hfirst]
      refine ⟨fun begun hbegun hwords => ?_, fun begun => ?_⟩
      · rw [splitFrom_of_space hbegun hspace, splitFrom_nil_of_space hspace]
        exact ⟨(ihBegun begun hbegun hwords).2, (ihBegun begun hbegun hwords).2⟩
      · rw [splitFrom_nil_of_space hspace]
        cases begun with
        | true => rw [hsqueezed, ihNone]
        | false =>
          have hdropped : (separator :: squeezeFrom isSpace separator true rest).dropWhile
              (· = separator) = (squeezeFrom isSpace separator true rest).dropWhile
                (· = separator) := by simp
          rw [hfirst, trim, hdropped]
          exact ihNone true
    · have hkept (begun : Bool) : squeezeFrom isSpace separator begun (c :: rest) =
          c :: squeezeFrom isSpace separator false rest := by rw [squeezeFrom, if_neg hspace]
      have hc : c ≠ separator := by
        rintro rfl
        exact hspace hseparator
      have hword : ∀ d ∈ [c], isSpace d = false := by simpa using hspace
      have hstarted := (ihBegun [c] (List.cons_ne_nil _ _) hword).1
      rw [List.singleton_append] at hstarted
      simp only [hkept]
      refine ⟨fun begun hbegun hwords => ⟨?_, ?_⟩, fun begun => ?_⟩
      · rw [splitFrom_of_not hbegun hspace, List.append_cons]
        refine (ihBegun (begun ++ [c]) (by simp) fun d hd => ?_).1
        rcases List.mem_append.mp hd with hold | hnew
        · exact hwords d hold
        · exact hword d hnew
      · rw [List.append_cons, trimEnd_append_cons hc, hstarted, splitFrom_nil_of_not hspace,
          join_cons _ (splitFrom_ne_nil (List.cons_ne_nil _ _) _), List.append_assoc,
          List.singleton_append]
      · rw [trim, List.dropWhile_cons_of_neg (by simpa using hc), hstarted,
          splitFrom_nil_of_not hspace]

/-- What squeezing and trimming leave of a text: its words, with a separator between them. -/
theorem trim_squeeze (hseparator : isSpace separator = true) (text : List α) :
    trim separator (squeeze isSpace separator text) = join separator (split isSpace text) :=
  (trimEnd_squeezeFrom hseparator text).2 false

end Squeeze

end Relational.Tokens
