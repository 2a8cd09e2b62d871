import AutoMana.Relational.Tokens
import Mathlib.Data.List.Basic

/-!
# Regular expressions

Regular expressions as a backtracking engine runs them: a pattern may match a text in several
ways, and the first one counts. An alternative that comes first is preferred, and a repetition
prefers to go on. Character classes depend on the engine, and are functions.
-/

namespace Relational

/-- What an engine decides of characters. -/
structure Alphabet where
  isWord : Char → Bool
  isSpace : Char → Bool
  isDigit : Char → Bool
  /-- Two characters are the same letter when case is ignored. -/
  sameLetter : Char → Char → Bool

inductive Regex where
  | empty
  | one (accepts : Char → Bool)
  /-- `\b`, between a character of the class and another -/
  | boundary (isWord : Char → Bool)
  | start
  | seq (first second : Regex)
  | either (first second : Regex)
  | many (body : Regex)

/-- A place in a text: the character before it, and what follows. -/
structure Cursor where
  before : Option Char
  rest : List Char

namespace Regex

/-! ## Patterns -/

/-- A text, character by character. -/
def text (accepts : Char → Char → Bool) (chars : String) : Regex :=
  chars.toList.foldr (fun c rest => seq (one (accepts c)) rest) empty

def literal (chars : String) : Regex := text (fun c d => c = d) chars

def some (body : Regex) : Regex := seq body (many body)

def optional (body : Regex) : Regex := either body empty

def anyChar : Regex := one (· ≠ '\n')

def choice (patterns : List Regex) : Regex := patterns.foldr either (one fun _ => false)

def all (patterns : List Regex) : Regex := patterns.foldr seq empty

/-! ## Matches -/

/-- Goes on while the body matches something, and prefers to. Every round takes a character,
so a round for each that is left is enough. -/
def repeatEnds (body : Cursor → List Cursor) : Nat → Cursor → List Cursor
  | 0, cursor => [cursor]
  | fuel + 1, cursor =>
    ((body cursor).filter fun stop => stop.rest.length < cursor.rest.length).flatMap
      (repeatEnds body fuel) ++ [cursor]

/-- Where a match that starts at a cursor may end, the preferred end first. -/
def ends : Regex → Cursor → List Cursor
  | .empty, cursor => [cursor]
  | .one accepts, ⟨_, c :: rest⟩ => if accepts c then [⟨Option.some c, rest⟩] else []
  | .one _, ⟨_, []⟩ => []
  | .boundary isWord, cursor =>
    if cursor.before.any isWord != cursor.rest.head?.any isWord then [cursor] else []
  | .start, cursor => if cursor.before.isNone then [cursor] else []
  | .seq first second, cursor => (ends first cursor).flatMap (ends second)
  | .either first second, cursor => ends first cursor ++ ends second cursor
  | .many body, cursor => repeatEnds (ends body) cursor.rest.length cursor

/-- The cursors of a text, from its start. -/
def cursorsFrom (before : Option Char) : List Char → List Cursor
  | [] => [⟨before, []⟩]
  | c :: rest => ⟨before, c :: rest⟩ :: cursorsFrom (Option.some c) rest

/-- What lies between two cursors. -/
def between (start stop : Cursor) : List Char :=
  start.rest.take (start.rest.length - stop.rest.length)

/-- `re.search(pattern, chars)` finds something. -/
def search (pattern : Regex) (chars : List Char) : Bool :=
  (cursorsFrom none chars).any fun cursor => !(ends pattern cursor).isEmpty

/-- `re.search(before(group)after, chars).group(1)` -/
def searchGroup (before group after : Regex) (chars : List Char) : Option (List Char) :=
  (cursorsFrom none chars).findSome? fun cursor =>
    ((ends before cursor).flatMap fun start =>
      (ends group start).flatMap fun stop =>
        (ends after stop).map fun _ => between start stop).head?

def subFrom (pattern : Regex) (replace : List Char → List Char) : Nat → Cursor → List Char
  | 0, cursor => cursor.rest
  | fuel + 1, cursor =>
    match (ends pattern cursor).find? fun stop => stop.rest.length < cursor.rest.length with
    | Option.some stop => replace (between cursor stop) ++ subFrom pattern replace fuel stop
    | none =>
      match cursor.rest with
      | [] => []
      | c :: rest => c :: subFrom pattern replace fuel ⟨Option.some c, rest⟩

/-- `re.sub(pattern, replace, chars)`, of a pattern that matches no empty text. -/
def sub (pattern : Regex) (replace : List Char → List Char) (chars : List Char) : List Char :=
  subFrom pattern replace chars.length ⟨none, chars⟩

/-- Of single characters, what is accepted goes. -/
theorem sub_one (accepts : Char → Bool) (chars : List Char) :
    sub (one accepts) (fun _ => []) chars = chars.filter fun c => !accepts c := by
  have hfrom : ∀ (before : Option Char) (chars : List Char),
      subFrom (one accepts) (fun _ => []) chars.length ⟨before, chars⟩ =
        chars.filter fun c => !accepts c := by
    intro before chars
    induction chars generalizing before with
    | nil => rfl
    | cons c rest ih =>
      rw [List.length_cons, subFrom, ends]
      by_cases haccepts : accepts c = true
      · simp [haccepts, ih]
      · simp [haccepts, ih]
  exact hfrom none chars

/-! ## Runs -/

/-- A repeated character is matched as long as it goes on. -/
theorem head?_repeatEnds_one (accepts : Char → Bool) {fuel : Nat} {chars : List Char}
    (hfuel : chars.length ≤ fuel) (before : Option Char) : ∃ last,
      (repeatEnds (ends (one accepts)) fuel ⟨before, chars⟩).head? =
        Option.some ⟨last, chars.dropWhile accepts⟩ := by
  induction chars generalizing fuel before with
  | nil =>
    refine ⟨before, ?_⟩
    cases fuel <;> rfl
  | cons c rest ih =>
    obtain ⟨fuel, rfl⟩ : ∃ less, fuel = less + 1 :=
      ⟨fuel - 1, by simp only [List.length_cons] at hfuel; omega⟩
    rw [List.length_cons, Nat.add_le_add_iff_right] at hfuel
    rw [repeatEnds, ends]
    by_cases haccepts : accepts c = true
    · obtain ⟨last, hhead⟩ := ih hfuel (Option.some c)
      refine ⟨last, ?_⟩
      rw [if_pos haccepts, List.dropWhile_cons_of_pos haccepts]
      simp [hhead]
    · refine ⟨before, ?_⟩
      rw [if_neg haccepts, List.dropWhile_cons_of_neg haccepts]
      rfl

/-- A run that is replaced is as long as it can be. -/
theorem find?_ends_some_one (accepts : Char → Bool) (before : Option Char) (c : Char)
    (rest : List Char) : ∃ last,
      ((ends (some (one accepts)) ⟨before, c :: rest⟩).find? fun stop =>
        stop.rest.length < (c :: rest).length) =
          if accepts c then Option.some ⟨last, rest.dropWhile accepts⟩ else none := by
  obtain ⟨last, hhead⟩ := head?_repeatEnds_one accepts (Nat.le_refl rest.length) (Option.some c)
  refine ⟨last, ?_⟩
  rw [some, ends, ends]
  split_ifs with haccepts
  · obtain ⟨others, hends⟩ := List.head?_eq_some_iff.mp hhead
    have hshorter : (rest.dropWhile accepts).length < (c :: rest).length :=
      Nat.lt_succ_of_le (List.dropWhile_suffix accepts).length_le
    rw [List.flatMap_singleton, ends, hends]
    exact List.find?_cons_of_pos (decide_eq_true hshorter)
  · rfl

/-- `re.sub(accepts+, separator, chars)` -/
theorem sub_some_one (accepts : Char → Bool) (separator : Char) (chars : List Char) :
    sub (some (one accepts)) (fun _ => [separator]) chars =
      Tokens.squeeze accepts separator chars := by
  have hfrom : ∀ (fuel : Nat) (before : Option Char) (chars : List Char), chars.length ≤ fuel →
      subFrom (some (one accepts)) (fun _ => [separator]) fuel ⟨before, chars⟩ =
        Tokens.squeeze accepts separator chars := by
    intro fuel
    induction fuel with
    | zero =>
      intro before chars hfuel
      rw [List.length_eq_zero_iff.mp (Nat.le_zero.mp hfuel)]
      rfl
    | succ fuel ih =>
      intro before chars hfuel
      cases chars with
      | nil => rfl
      | cons c rest =>
        rw [List.length_cons, Nat.add_le_add_iff_right] at hfuel
        obtain ⟨last, hfound⟩ := find?_ends_some_one accepts before c rest
        rw [subFrom, hfound]
        by_cases haccepts : accepts c = true
        · have hrest := (List.dropWhile_suffix (l := rest) accepts).length_le.trans hfuel
          rw [if_pos haccepts, Tokens.squeeze, Tokens.squeezeFrom, if_pos haccepts,
            if_neg Bool.false_ne_true, Tokens.squeezeFrom_true]
          exact congrArg (separator :: ·) (ih last _ hrest)
        · rw [if_neg haccepts, Tokens.squeeze, Tokens.squeezeFrom, if_neg haccepts]
          exact congrArg (c :: ·) (ih (Option.some c) rest hfuel)
  exact hfrom chars.length none chars (Nat.le_refl _)

/-- `re.sub(accepts+, separator, chars).strip(separator)`: what is not accepted, word by word. -/
theorem trim_sub_some_one {accepts : Char → Bool} {separator : Char}
    (hseparator : accepts separator = true) (chars : List Char) :
    Tokens.trim separator (sub (some (one accepts)) (fun _ => [separator]) chars) =
      Tokens.join separator (Tokens.split accepts chars) := by
  rw [sub_some_one, Tokens.trim_squeeze hseparator]

end Regex

end Relational
