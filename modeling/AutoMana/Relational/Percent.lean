import Mathlib.Data.List.Basic

/-!
# Percent-encoded queries

A byte is written as itself where it is safe, and as `%` with two digits elsewhere. In the fields
of a query a space is a `+`. A query is read back as its fields, when no `&` and no `+` is written
as itself.
-/

namespace Relational.Percent

abbrev Bytes := List UInt8

/-! ## Digits -/

def digits : List Char :=
  ['0', '1', '2', '3', '4', '5', '6', '7', '8', '9', 'A', 'B', 'C', 'D', 'E', 'F']

def digit (value : Nat) : Char := digits.getD value '0'

def digit? (c : Char) : Option Nat := digits.idxOf? c.toUpper

theorem digit?_digit {value : Nat} (hvalue : value < 16) : digit? (digit value) = some value := by
  have hall : (List.range 16).all fun value => digit? (digit value) = some value := by decide
  exact of_decide_eq_true (List.all_eq_true.mp hall value (List.mem_range.mpr hvalue))

/-- No digit is an ampersand, an equals sign, a percent sign or a plus. -/
theorem digit_ne {value : Nat} (hvalue : value < 16) :
    digit value ≠ '&' ∧ digit value ≠ '=' ∧ digit value ≠ '+' := by
  have hall : (List.range 16).all fun value =>
      digit value ≠ '&' ∧ digit value ≠ '=' ∧ digit value ≠ '+' := by decide
  exact of_decide_eq_true (List.all_eq_true.mp hall value (List.mem_range.mpr hvalue))

/-! ## Quoting -/

/-- What can be decided for each byte. -/
theorem forall_of_range {holds : UInt8 → Bool}
    (hall : (List.range 256).all fun value => holds (UInt8.ofNat value)) (byte : UInt8) :
    holds byte = true := by
  have hbyte := List.all_eq_true.mp hall byte.toNat (List.mem_range.mpr byte.toNat_lt)
  rwa [UInt8.ofNat_toNat] at hbyte

/-- The byte of a character of a query. -/
def byteOf (c : Char) : UInt8 := UInt8.ofNat c.toNat

def charOf (byte : UInt8) : Char := Char.ofNat byte.toNat

/-- `urllib.parse.quote`, of a byte -/
def quoteByte (safe : UInt8 → Bool) (byte : UInt8) : List Char :=
  if safe byte then [charOf byte]
  else ['%', digit (byte.toNat / 16), digit (byte.toNat % 16)]

/-- `urllib.parse.quote` -/
def quote (safe : UInt8 → Bool) (bytes : Bytes) : List Char := bytes.flatMap (quoteByte safe)

/-- `_ALWAYS_SAFE` -/
def alwaysSafe (byte : UInt8) : Bool :=
  (charOf byte).isAlphanum || charOf byte ∈ ['_', '.', '-', '~']

/-- `urllib.parse.quote_plus`, of a byte -/
def quotePlusByte (byte : UInt8) : List Char :=
  if byte = 32 then ['+'] else quoteByte alwaysSafe byte

/-- `urllib.parse.quote_plus` -/
def quotePlus (bytes : Bytes) : List Char := bytes.flatMap quotePlusByte

/-! ## Reading -/

/-- The byte that a percent sign and two digits stand for. -/
def code? : List Char → Option UInt8
  | '%' :: high :: low :: _ =>
    (digit? high).bind fun high => (digit? low).map fun low => UInt8.ofNat (16 * high + low)
  | _ => none

/-- The digits of a byte that is read are skipped. -/
def unquoteFrom : Nat → List Char → Bytes
  | _, [] => []
  | skip + 1, _ :: rest => unquoteFrom skip rest
  | 0, c :: rest =>
    match code? (c :: rest) with
    | some byte => byte :: unquoteFrom 2 rest
    | none => byteOf c :: unquoteFrom 0 rest

/-- `urllib.parse.unquote_to_bytes` -/
def unquote (chars : List Char) : Bytes := unquoteFrom 0 chars

/-- A plus stands for a space. -/
def spaced (c : Char) : Char := if c = '+' then ' ' else c

def unquotePlus (chars : List Char) : Bytes := unquote (chars.map spaced)

theorem unquote_cons {c : Char} (hc : c ≠ '%') (rest : List Char) :
    unquote (c :: rest) = byteOf c :: unquote rest := by
  have hcode : code? (c :: rest) = none := by
    rw [code?]
    rintro high low rest heq
    exact absurd (List.cons.inj heq).1 hc
  rw [unquote, unquoteFrom, hcode]
  rfl

theorem unquote_percent {high low : Nat} (hhigh : high < 16) (hlow : low < 16) (rest : List Char) :
    unquote ('%' :: digit high :: digit low :: rest) =
      UInt8.ofNat (16 * high + low) :: unquote rest := by
  have hcode : code? ('%' :: digit high :: digit low :: rest) =
      some (UInt8.ofNat (16 * high + low)) := by
    rw [code?, digit?_digit hhigh, digit?_digit hlow]
    rfl
  rw [unquote, unquoteFrom, hcode]
  rfl

/-! ## What is read back -/

/-- A safe byte is written as a character that is read as the byte. -/
def Legible (safe : UInt8 → Bool) : Prop :=
  ∀ byte, safe byte = true → byte.toNat < 128 ∧ charOf byte ≠ '%'

theorem byteOf_charOf {byte : UInt8} (hbyte : byte.toNat < 128) : byteOf (charOf byte) = byte := by
  have hall := @forall_of_range
    (fun byte => byte.toNat < 128 → byteOf (charOf byte) = byte) (by decide +kernel) byte
  exact of_decide_eq_true hall hbyte

/-- What a byte is written as is read as the byte. -/
def Decodes (write : UInt8 → List Char) (byte : UInt8) : Prop :=
  ∀ rest, unquotePlus (write byte ++ rest) = byte :: unquotePlus rest

theorem decodes_quoteByte {safe : UInt8 → Bool} (hlegible : Legible safe) {byte : UInt8}
    (hplus : safe byte = true → charOf byte ≠ '+') : Decodes (quoteByte safe) byte := by
  intro rest
  rw [quoteByte]
  split_ifs with hsafe
  · have hspaced : spaced (charOf byte) = charOf byte := if_neg (hplus hsafe)
    rw [List.singleton_append, unquotePlus, List.map_cons, hspaced,
      unquote_cons (hlegible byte hsafe).2, byteOf_charOf (hlegible byte hsafe).1]
    rfl
  · have hhigh : byte.toNat / 16 < 16 := Nat.div_lt_of_lt_mul byte.toNat_lt
    have hlow : byte.toNat % 16 < 16 := Nat.mod_lt _ (by decide)
    have hdigits : ([digit (byte.toNat / 16), digit (byte.toNat % 16)] ++ rest).map spaced =
        digit (byte.toNat / 16) :: digit (byte.toNat % 16) :: rest.map spaced := by
      simp only [List.cons_append, List.nil_append, List.map_cons, spaced,
        if_neg (digit_ne hhigh).2.2, if_neg (digit_ne hlow).2.2]
    rw [List.cons_append, unquotePlus, List.map_cons, hdigits]
    have hpercent := unquote_percent hhigh hlow (rest.map spaced)
    rw [Nat.div_add_mod, UInt8.ofNat_toNat] at hpercent
    exact hpercent

theorem legible_alwaysSafe : Legible alwaysSafe := fun byte =>
  of_decide_eq_true (@forall_of_range (fun byte => alwaysSafe byte = true →
    byte.toNat < 128 ∧ charOf byte ≠ '%') (by decide +kernel) byte)

theorem decodes_quotePlusByte (byte : UInt8) : Decodes quotePlusByte byte := by
  intro rest
  rw [quotePlusByte]
  split_ifs with hspace
  · rw [List.singleton_append, unquotePlus, List.map_cons, hspace]
    exact unquote_cons (by decide) _
  · apply decodes_quoteByte legible_alwaysSafe
    intro hsafe hplus
    rw [alwaysSafe, hplus] at hsafe
    exact absurd hsafe (by decide)

theorem unquotePlus_nil : unquotePlus [] = [] := rfl

/-- Bytes of which each is read back. -/
theorem unquotePlus_flatMap {write : UInt8 → List Char} {bytes : Bytes}
    (hdecodes : ∀ byte ∈ bytes, Decodes write byte) (rest : List Char) :
    unquotePlus (bytes.flatMap write ++ rest) = bytes ++ unquotePlus rest := by
  induction bytes with
  | nil => rfl
  | cons byte bytes ih =>
    rw [List.flatMap_cons, List.append_assoc, hdecodes byte List.mem_cons_self,
      ih fun other hother => hdecodes other (List.mem_cons_of_mem _ hother), List.cons_append]

theorem unquotePlus_quotePlus (bytes : Bytes) : unquotePlus (quotePlus bytes) = bytes := by
  have hread := unquotePlus_flatMap (fun byte (_ : byte ∈ bytes) => decodes_quotePlusByte byte) []
  rwa [List.append_nil, unquotePlus_nil, List.append_nil] at hread

theorem unquotePlus_quote {safe : UInt8 → Bool} (hlegible : Legible safe) {bytes : Bytes}
    (hplus : ∀ byte ∈ bytes, charOf byte ≠ '+') : unquotePlus (quote safe bytes) = bytes := by
  have hread := unquotePlus_flatMap (fun byte hbyte =>
    decodes_quoteByte hlegible fun _ => hplus byte hbyte) []
  rwa [List.append_nil, unquotePlus_nil, List.append_nil] at hread

/-! ## Queries -/

def field (name value : List Char) : List Char := name ++ '=' :: value

/-- `urllib.parse.urlencode` -/
def urlencode (fields : List (Bytes × Bytes)) : List Char :=
  ['&'].intercalate (fields.map fun entry => field (quotePlus entry.1) (quotePlus entry.2))

/-- The name is what stands before the first equals sign. -/
def readField (part : List Char) : Bytes × Bytes :=
  (unquotePlus (part.takeWhile (· ≠ '=')), unquotePlus ((part.dropWhile (· ≠ '=')).drop 1))

def readQuery (query : List Char) : List (Bytes × Bytes) := (query.splitOn '&').map readField

/-- A byte that is quoted is written without what separates fields. -/
theorem notMem_quotePlus {c : Char} (hc : c = '&' ∨ c = '=') (bytes : Bytes) :
    c ∉ quotePlus bytes := by
  intro hmem
  obtain ⟨byte, -, hbyte⟩ := List.mem_flatMap.mp hmem
  have hplain : '&' ∉ quotePlusByte byte ∧ '=' ∉ quotePlusByte byte :=
    of_decide_eq_true (@forall_of_range (fun byte =>
      '&' ∉ quotePlusByte byte ∧ '=' ∉ quotePlusByte byte) (by decide +kernel) byte)
  cases hc with
  | inl hamp => exact hplain.1 (hamp ▸ hbyte)
  | inr hequals => exact hplain.2 (hequals ▸ hbyte)

/-- No byte is written as `c`, which does not belong to a code. -/
theorem notMem_quote {c : Char} (hcode : c ∉ '%' :: digits) {safe : UInt8 → Bool} {bytes : Bytes}
    (hbytes : ∀ byte ∈ bytes, charOf byte ≠ c) : c ∉ quote safe bytes := by
  intro hmem
  obtain ⟨byte, hbyte, hwritten⟩ := List.mem_flatMap.mp hmem
  have hdigit : ∀ value, value < 16 → digit value ∈ digits := by
    have hall : (List.range 16).all fun value => digit value ∈ digits := by decide
    exact fun value hvalue =>
      of_decide_eq_true (List.all_eq_true.mp hall value (List.mem_range.mpr hvalue))
  rw [quoteByte] at hwritten
  split_ifs at hwritten with hsafe
  · exact hbytes byte hbyte (List.mem_singleton.mp hwritten).symm
  · apply hcode
    rw [List.mem_cons, List.mem_cons, List.mem_singleton] at hwritten
    rcases hwritten with rfl | rfl | rfl
    · exact List.mem_cons_self
    · exact List.mem_cons_of_mem _ (hdigit _ (Nat.div_lt_of_lt_mul byte.toNat_lt))
    · exact List.mem_cons_of_mem _ (hdigit _ (Nat.mod_lt _ (by decide)))

theorem readField_field {name value : List Char} (hname : '=' ∉ name) :
    readField (field name value) = (unquotePlus name, unquotePlus value) := by
  have hall : ∀ c ∈ name, decide (c ≠ '=') = true := by
    intro c hc
    rw [decide_eq_true_eq]
    rintro rfl
    exact hname hc
  rw [readField, field, List.takeWhile_append_of_pos hall, List.dropWhile_append_of_pos hall]
  simp

theorem readQuery_urlencode {fields : List (Bytes × Bytes)} (hne : fields ≠ []) :
    readQuery (urlencode fields) = fields := by
  have hparts : ∀ part ∈ fields.map fun entry => field (quotePlus entry.1) (quotePlus entry.2),
      '&' ∉ part := by
    intro part hpart
    obtain ⟨entry, -, rfl⟩ := List.mem_map.mp hpart
    simp [field, notMem_quotePlus (Or.inl rfl)]
  rw [readQuery, urlencode, List.splitOn_intercalate _ hparts (by simpa using hne), List.map_map]
  have hself : ∀ entry ∈ fields, (readField ∘ fun entry : Bytes × Bytes =>
      field (quotePlus entry.1) (quotePlus entry.2)) entry = entry := by
    intro entry _
    rw [Function.comp_apply, readField_field (notMem_quotePlus (Or.inr rfl) _),
      unquotePlus_quotePlus, unquotePlus_quotePlus]
  rw [List.map_congr_left hself, List.map_id']

/-- A field that is written behind a query is read behind its fields. -/
theorem readQuery_append {fields : List (Bytes × Bytes)} (hne : fields ≠ []) {name : Bytes}
    {value : List Char} (hvalue : '&' ∉ value) :
    readQuery (urlencode fields ++ '&' :: field (quotePlus name) value) =
      fields ++ [(name, unquotePlus value)] := by
  have hlast : '&' ∉ field (quotePlus name) value := by
    simp [field, hvalue, notMem_quotePlus (Or.inl rfl)]
  rw [readQuery, List.splitOn_append_cons_self, List.splitOn_eq_singleton hlast, List.map_append,
    ← readQuery, readQuery_urlencode hne, List.map_singleton,
    readField_field (notMem_quotePlus (Or.inr rfl) _), unquotePlus_quotePlus]

end Relational.Percent
