import Mathlib.Data.List.Infix

/-!
# Names that begin with a number

A pattern of a number, a separator and a wildcard matches the names that begin with this number
and the separator. The separator is no digit, so no longer number matches.
-/

namespace Relational.Names

/-- What stands before the separator is decided by a prefix that ends with it. -/
theorem eq_of_separated {α : Type} {separator : α} {first second tail : List α}
    (hfirst : separator ∉ first) (hsecond : separator ∉ second)
    (hstarts : first ++ [separator] <+: second ++ separator :: tail) : first = second := by
  induction first generalizing second with
  | nil =>
    cases second with
    | nil => rfl
    | cons head rest =>
      rw [List.nil_append, List.cons_append, List.cons_prefix_cons] at hstarts
      exact absurd (hstarts.1 ▸ List.mem_cons_self) hsecond
  | cons head rest ih =>
    rw [List.mem_cons, not_or] at hfirst
    cases second with
    | nil =>
      rw [List.cons_append, List.nil_append, List.cons_prefix_cons] at hstarts
      exact absurd hstarts.1.symm hfirst.1
    | cons other others =>
      rw [List.mem_cons, not_or] at hsecond
      rw [List.cons_append, List.cons_append, List.cons_prefix_cons] at hstarts
      rw [hstarts.1, ih hfirst.2 hsecond.2 hstarts.2]

theorem toDigits_injective {m n : Nat} (hdigits : Nat.toDigits 10 m = Nat.toDigits 10 n) :
    m = n := by
  have hfirst := @Nat.ofDigitChars_toDigits 10 m (by decide) (by decide)
  rw [hdigits, Nat.ofDigitChars_toDigits (by decide) (by decide)] at hfirst
  exact hfirst.symm

/-- The characters of an integer. -/
def digits : Int → List Char
  | .ofNat n => Nat.toDigits 10 n
  | .negSucc n => '-' :: Nat.toDigits 10 (n + 1)

theorem toList_toString (n : Int) : (toString n).toList = digits n := by
  cases n with
  | ofNat n => exact Nat.toList_repr
  | negSucc n =>
    have htext : toString (Int.negSucc n) = "-" ++ Nat.repr (n + 1) := rfl
    rw [htext, String.toList_append, Nat.toList_repr]
    rfl

theorem underscore_notMem_digits (n : Int) : '_' ∉ digits n := by
  cases n with
  | ofNat n => exact Nat.underscore_not_in_toDigits
  | negSucc n =>
    rw [digits, List.mem_cons, not_or]
    exact ⟨by decide, Nat.underscore_not_in_toDigits⟩

theorem minus_notMem_toDigits (n : Nat) : '-' ∉ Nat.toDigits 10 n := by
  intro hmem
  have hdigit := Nat.isDigit_of_mem_toDigits (by decide) (by decide) hmem
  exact absurd hdigit (by decide)

theorem digits_injective {m n : Int} (hdigits : digits m = digits n) : m = n := by
  cases m with
  | ofNat m =>
    cases n with
    | ofNat n => exact congrArg Int.ofNat (toDigits_injective hdigits)
    | negSucc n =>
      have hminus : '-' ∈ Nat.toDigits 10 m := by
        have hsame : Nat.toDigits 10 m = '-' :: Nat.toDigits 10 (n + 1) := hdigits
        rw [hsame]
        exact List.mem_cons_self
      exact absurd hminus (minus_notMem_toDigits m)
  | negSucc m =>
    cases n with
    | ofNat n =>
      have hminus : '-' ∈ Nat.toDigits 10 n := by
        have hsame : '-' :: Nat.toDigits 10 (m + 1) = Nat.toDigits 10 n := hdigits
        rw [← hsame]
        exact List.mem_cons_self
      exact absurd hminus (minus_notMem_toDigits n)
    | negSucc n =>
      have hrest := toDigits_injective (List.cons.inj hdigits).2
      rw [Nat.succ_injective hrest]

/-- `fnmatch(name, f"{number}_*")` -/
def startsWith (number : Int) (name : String) : Bool :=
  (toString number ++ "_").toList.isPrefixOf name.toList

theorem startsWith_iff (number other : Int) (rest : String) :
    startsWith number (toString other ++ "_" ++ rest) ↔ other = number := by
  have hfirst : (toString number ++ "_").toList = digits number ++ ['_'] := by
    rw [String.toList_append, toList_toString]
    rfl
  have hsecond : (toString other ++ "_" ++ rest).toList = digits other ++ '_' :: rest.toList := by
    rw [String.toList_append, String.toList_append, toList_toString, List.append_assoc]
    rfl
  rw [startsWith, List.isPrefixOf_iff_prefix, hfirst, hsecond]
  constructor
  · intro hstarts
    exact (digits_injective (eq_of_separated (underscore_notMem_digits number)
      (underscore_notMem_digits other) hstarts)).symm
  · rintro rfl
    exact ⟨rest.toList, (List.append_cons _ _ _).symm⟩

end Relational.Names
