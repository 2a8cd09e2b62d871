import Mathlib.Data.List.Basic

/-!
# Text functions of the database

Case mapping and character classes depend on the locale of the database, which
is a parameter. The functions on patterns and delimiters work on the characters
of a text.
-/

namespace Relational

/-- What the locale of the database decides. -/
structure TextLocale where
  lower : String → String
  upper : String → String
  isSpace : Char → Bool

/-- The C locale. -/
def TextLocale.posix : TextLocale where
  lower := String.toLower
  upper := String.toUpper
  isSpace := fun c => c = ' ' || (9 ≤ c.toNat && c.toNat ≤ 13)

theorem toUpper_toUpper (c : Char) : c.toUpper.toUpper = c.toUpper := by
  by_cases hlower : 'a'.val ≤ c.val ∧ c.val ≤ 'z'.val
  · -- the letter moves out of the range
    have hupper : c.toUpper.val = c.val + ('A'.val - 'a'.val) := by
      delta Char.toUpper
      rw [dif_pos hlower]
    apply dif_neg
    rw [hupper]
    intro hstill
    obtain ⟨hlow, hhigh⟩ := hlower
    have hle := hstill.1
    rw [UInt32.le_iff_toNat_le] at hlow hhigh hle
    rw [UInt32.toNat_add] at hle
    simp at hlow hhigh hle
    omega
  · have hsame : c.toUpper = c := dif_neg hlower
    rw [hsame, hsame]

/-- `UPPER` changes nothing in what it returned. -/
def TextLocale.UpperIdempotent (locale : TextLocale) : Prop :=
  ∀ text, locale.upper (locale.upper text) = locale.upper text

theorem TextLocale.posix_upperIdempotent : TextLocale.posix.UpperIdempotent := by
  intro text
  apply String.toList_inj.mp
  simp only [TextLocale.posix, String.toUpper, String.toList_map, List.map_map]
  apply List.map_congr_left
  intro c _
  exact toUpper_toUpper c

namespace Text

/-- `text LIKE pattern`: `%` is any run of characters, `_` any one character,
and a backslash escapes the next. -/
def like : List Char → List Char → Bool
  | [], text => text.isEmpty
  | '%' :: pattern, text => text.tails.any (like pattern)
  | '_' :: pattern, _ :: text => like pattern text
  | '\\' :: c :: pattern, d :: text => c = d && like pattern text
  | c :: pattern, d :: text => c = d && like pattern text
  | _ :: _, [] => false

/-- `text ILIKE pattern` in a multi-byte encoding. -/
def ilike (locale : TextLocale) (pattern text : String) : Bool :=
  like (locale.lower pattern).toList (locale.lower text).toList

/-- The text before the first delimiter, and the text after it. -/
def splitFirst (delimiter : List Char) : List Char → List Char × Option (List Char)
  | [] => ([], none)
  | c :: rest =>
    if delimiter.isPrefixOf (c :: rest) then ([], some ((c :: rest).drop delimiter.length))
    else ((c :: (splitFirst delimiter rest).1), (splitFirst delimiter rest).2)

/-- `split_part(text, delimiter, 1)` -/
def splitPart1 (delimiter text : List Char) : List Char := (splitFirst delimiter text).1

/-- `split_part(text, delimiter, 2)` -/
def splitPart2 (delimiter text : List Char) : List Char :=
  match (splitFirst delimiter text).2 with
  | none => []
  | some rest => (splitFirst delimiter rest).1

end Text

/-! ## UUIDs -/

/-- A UUID as its 32 hexadecimal digits. -/
structure Uuid where
  digits : List Nat
  length_eq : digits.length = 32
deriving DecidableEq

namespace Uuid

def hexDigit? (c : Char) : Option Nat :=
  if '0' ≤ c ∧ c ≤ '9' then some (c.toNat - '0'.toNat)
  else if 'a' ≤ c ∧ c ≤ 'f' then some (c.toNat - 'a'.toNat + 10)
  else if 'A' ≤ c ∧ c ≤ 'F' then some (c.toNat - 'A'.toNat + 10)
  else none

/-- The digits of `count` more bytes; a hyphen may follow every second byte but
the last. `odd` says whether the next byte is the second of its pair. -/
def parseBytes? (odd : Bool) : Nat → List Char → Option (List Nat × List Char)
  | 0, rest => some ([], rest)
  | count + 1, high :: low :: rest => do
    let high ← hexDigit? high
    let low ← hexDigit? low
    let rest := match rest with
      | '-' :: after => if odd && count ≠ 0 then after else rest
      | _ => rest
    let (digits, rest) ← parseBytes? (!odd) count rest
    return (high :: low :: digits, rest)
  | _ + 1, _ => none

/-- `text::uuid`; `none` when the cast raises. -/
def parse? (text : String) : Option Uuid := do
  let (digits, rest) ← match text.toList with
    | '\x7b' :: rest => parseBytes? false 16 rest
    | chars => parseBytes? false 16 chars
  let closing := if text.toList.head? = some '\x7b' then ['\x7d'] else []
  if hlength : rest = closing ∧ digits.length = 32 then
    return ⟨digits, hlength.2⟩
  else none

def hexChar (digit : Nat) : Char :=
  if digit < 10 then Char.ofNat ('0'.toNat + digit) else Char.ofNat ('a'.toNat + digit - 10)

/-- `uuid::text` -/
def text (uuid : Uuid) : String :=
  let chars := uuid.digits.map hexChar
  let group (start count : Nat) := (chars.drop start).take count
  String.ofList (group 0 8 ++ ['-'] ++ group 8 4 ++ ['-'] ++ group 12 4 ++ ['-'] ++ group 16 4 ++
    ['-'] ++ group 20 12)

end Uuid

end Relational
