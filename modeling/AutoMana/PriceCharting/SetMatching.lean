import AutoMana.PriceCharting.Matching
import AutoMana.Relational.Lookups
import Mathlib.Algebra.Order.Ring.Rat

/-!
# match_set_code

The name of a set on PriceCharting is looked up among the names of the sets in the database. Both
are normalised first; the names in the database are the keys of a dictionary, so of two sets with
one normalised name the second stays. The name is tried in several passes, and the first one
with a hit decides.
-/

namespace AutoMana.PriceCharting.SetMatching

open Relational
open Matching (TextRules strip wholeWords)

/-! ## Names -/

/-- `_ORDINAL_MAP` -/
def ordinalMap : List (String × String) := [
  ("first", "1st"), ("second", "2nd"), ("third", "3rd"), ("fourth", "4th"),
  ("fifth", "5th"), ("sixth", "6th"), ("seventh", "7th"), ("eighth", "8th"),
  ("ninth", "9th"), ("tenth", "10th")]

/-- `NAME_OVERRIDES` -/
def nameOverrides : List (String × String) := [
  ("ravnica", "rav"),
  ("commander", "cmd"),
  ("lord of the rings", "ltr"),
  ("lord of the rings commander", "ltc"),
  ("lord of the rings art series", "altr"),
  ("warhammer 40,000", "40k"),
  ("summer edition", "sum"),
  ("jurassic world", "rex"),
  ("beta", "leb"),
  ("the list reprints", "plst"),
  ("vintage masters", "vma"),
  ("the big score", "big"),
  ("masterpiece series amonkhet invocations", "mp2"),
  ("amonkhet invocations", "mp2"),
  ("guilds of ravnica guild kits", "gk1"),
  ("ravnica allegiance guild kits", "gk2")]

section Names

variable (text : TextRules)

def spaces : Regex := .some (.one text.alphabet.isSpace)

/-- `re.sub(r"^word\s+", "", chars)` -/
def dropLeading (word : String) (chars : List Char) : List Char :=
  (Regex.all [.start, .literal word, spaces text]).sub (fun _ => []) chars

/-- A colon or an apostrophe. -/
def isDropped (c : Char) : Bool := c = ':' || c.toNat = 39

def normalizeSetName (name : String) : List Char :=
  let n := strip text (text.lower name).toList
  let n := dropLeading text "the" n
  let n := (Regex.one isDropped).sub (fun _ => []) n
  let n := (Regex.all [.boundary text.alphabet.isWord, .literal "vs."]).sub
    (fun _ => "vs".toList) n
  let n := strip text ((spaces text).sub (fun _ => [' ']) n)
  let n := ordinalMap.foldl
    (fun n ordinal => (wholeWords text (.literal ordinal.1)).sub (fun _ => ordinal.2.toList) n) n
  let n := dropLeading text "limited edition" n
  let n := dropLeading text "classic" n
  -- the group is what follows the m
  (wholeWords text (.all [.literal "m1", .one fun c => '0' ≤ c && c ≤ '5'])).sub
    (fun found => "magic 20".toList ++ found.drop 1) n

/-- The name of a set on PriceCharting, without the leading `magic`. -/
def pcKey (pcName : String) : List Char := dropLeading text "magic" (normalizeSetName text pcName)

/-- `len(chars.split())` -/
def wordCount (chars : List Char) : Nat :=
  ((chars.splitOnP text.alphabet.isSpace).filter (· ≠ [])).length

end Names

/-! ## The passes -/

structure SetRow where
  setName : String
  setCode : String
deriving DecidableEq, Repr

inductive SetMethod where
  | overridden
  | exactName
  | duelDeck
  | suffixName
  | prefixName
  | fuzzy
deriving DecidableEq, Repr

structure SetRules where
  text : TextRules
  /-- `difflib.SequenceMatcher.ratio` of a name and another -/
  ratio : List Char → List Char → ℚ

section Passes

variable (rules : SetRules) (pc : List Char)

def nameOverride : Option String :=
  (nameOverrides.find? fun entry => entry.1.toList = pc).map Prod.snd

/-- The name of a duel deck, of which PriceCharting drops the first words. -/
def duelDeckName : Option (List Char) :=
  if pc.tails.any (" vs ".toList.isPrefixOf ·) then
    if "anthology ".toList.isPrefixOf pc then
      some ("duel decks anthology ".toList ++ pc.drop "anthology ".length)
    else some ("duel decks ".toList ++ pc)
  else none

def suffixHit (dn : List Char) : Bool :=
  3 ≤ wordCount rules.text dn && (' ' :: dn).isSuffixOf pc

def prefixHit (dn : List Char) : Bool := 6 ≤ pc.length && (pc ++ [' ']).isPrefixOf dn

/-- A match that is good enough for `difflib.get_close_matches`. -/
def closeHit (dn : List Char) : Bool := 82 / 100 ≤ rules.ratio pc dn

end Passes

def buildSetCodeIndex (rules : SetRules) (dbSets : List SetRow) : Table (List Char) String :=
  dictOf (fun row => normalizeSetName rules.text row.setName) SetRow.setCode dbSets

/-- `match_set_code`; of the closest names the first one counts. -/
def matchSetCode (rules : SetRules) (pcName : String) (dbIndex : Table (List Char) String) :
    Option (String × SetMethod) :=
  let dbNorms := dbIndex.rows.map Prod.fst
  let pc := pcKey rules.text pcName
  ((nameOverride pc).map (·, .overridden)).or <|
  ((dbIndex.get? pc).map (·, .exactName)).or <|
  (((duelDeckName pc).bind dbIndex.get?).map (·, .duelDeck)).or <|
  (((dbNorms.find? (suffixHit rules pc)).bind dbIndex.get?).map (·, .suffixName)).or <|
  ((((dbNorms.filter (prefixHit pc)).argmin List.length).bind dbIndex.get?).map
    (·, .prefixName)).or <|
  (((dbNorms.filter (closeHit rules pc)).argmax (rules.ratio pc)).bind dbIndex.get?).map
    (·, .fuzzy)

/-! ## The rows that may be found -/

section Best

variable (rules : SetRules) (pc : List Char)

/-- A name on top in the pass of the method. -/
def BestName : SetMethod → (List Char → Prop) → List Char → Prop
  | .overridden => fun _ _ => False
  | .exactName => IsHit (some pc = some ·)
  | .duelDeck => IsHit (duelDeckName pc = some ·)
  | .suffixName => IsHit (suffixHit rules pc)
  | .prefixName => IsCheapest (prefixHit pc) List.length
  | .fuzzy => IsCheapest (closeHit rules pc) (OrderDual.toDual ∘ rules.ratio pc)

/-- A row whose name is on top in the pass of the method. -/
def BestRow (method : SetMethod) : List SetRow → SetRow → Prop :=
  TopRow (fun row => normalizeSetName rules.text row.setName) (BestName rules pc method)

def OneBestRow (method : SetMethod) (rows : List SetRow) : Prop :=
  ∀ first second, BestRow rules pc method rows first → BestRow rules pc method rows second →
    first = second

end Best

/-! ## The passes in turn -/

section Turns

variable (rules : SetRules) (pc : List Char)

/-- The name that the pass of a method picks. -/
def pickName : SetMethod → List (List Char) → Option (List Char)
  | .overridden => fun _ => none
  | .exactName => List.find? (some pc = some ·)
  | .duelDeck => List.find? (duelDeckName pc = some ·)
  | .suffixName => List.find? (suffixHit rules pc)
  | .prefixName => fun dbNorms => (dbNorms.filter (prefixHit pc)).argmin List.length
  | .fuzzy => fun dbNorms => (dbNorms.filter (closeHit rules pc)).argmax (rules.ratio pc)

def passResult (method : SetMethod) (rows : List SetRow) : Option (String × SetMethod) :=
  (chooseRow (fun row => normalizeSetName rules.text row.setName) SetRow.setCode
    (pickName rules pc method) rows).map fun row => (row.setCode, method)

def tryPasses (rows : List SetRow) : List SetMethod → Option (String × SetMethod)
  | [] => none
  | method :: rest => (passResult rules pc method rows).or (tryPasses rows rest)

variable {rules pc} {rows : List SetRow}

theorem picks_pickName (method : SetMethod) :
    Picks (pickName rules pc method) (BestName rules pc method) := by
  cases method with
  | overridden =>
    refine ⟨False.elim, fun hnone => ?_, False.elim, False.elim⟩
    cases hnone
  | exactName => exact picks_find _
  | duelDeck => exact picks_find _
  | suffixName => exact picks_find _
  | prefixName => exact picks_argmin _ _
  | fuzzy => exact picks_argmin _ (OrderDual.toDual ∘ rules.ratio pc)

theorem passResult_eq (method : SetMethod) : passResult rules pc method rows =
    ((pickName rules pc method ((buildSetCodeIndex rules rows).rows.map Prod.fst)).bind
      (buildSetCodeIndex rules rows).get?).map (·, method) := by
  rw [buildSetCodeIndex, bind_get?_dictOf, Option.map_map]
  rfl

theorem matchSetCode_eq (pcName : String) :
    matchSetCode rules pcName (buildSetCodeIndex rules rows) =
      ((nameOverride (pcKey rules.text pcName)).map (·, SetMethod.overridden)).or
        (tryPasses rules (pcKey rules.text pcName) rows
          [.exactName, .duelDeck, .suffixName, .prefixName, .fuzzy]) := by
  have hwanted : ∀ wanted : Option (List Char), wanted.bind (buildSetCodeIndex rules rows).get? =
      (((buildSetCodeIndex rules rows).rows.map Prod.fst).find? (wanted = some ·)).bind
        (buildSetCodeIndex rules rows).get? := fun wanted => bind_get?_eq_find wanted rows
  have hexact := hwanted (some (pcKey rules.text pcName))
  rw [Option.bind_some] at hexact
  simp only [matchSetCode, tryPasses, passResult_eq, pickName, Option.or_none]
  rw [← hexact, ← hwanted]

/-- Whether a pass has a hit does not depend on the order of the rows. -/
theorem isSome_passResult_perm (method : SetMethod) {other : List SetRow}
    (hperm : other.Perm rows) : (passResult rules pc method other).isSome =
      (passResult rules pc method rows).isSome := by
  rw [passResult, passResult, Option.isSome_map, Option.isSome_map]
  exact (picks_pickName method).chooses.isSome_perm hperm

theorem map_snd_passResult (method : SetMethod) (rows : List SetRow) :
    (passResult rules pc method rows).map Prod.snd =
      if (passResult rules pc method rows).isSome then some method else none := by
  rw [passResult, Option.map_map, Option.isSome_map]
  cases chooseRow _ SetRow.setCode (pickName rules pc method) rows <;> rfl

/-- The method does not depend on the order of the rows. -/
theorem map_snd_tryPasses_perm (methods : List SetMethod) {other : List SetRow}
    (hperm : other.Perm rows) : (tryPasses rules pc other methods).map Prod.snd =
      (tryPasses rules pc rows methods).map Prod.snd := by
  induction methods with
  | nil => rfl
  | cons method rest ih =>
    simp only [tryPasses, Option.map_or, map_snd_passResult, isSome_passResult_perm method hperm,
      ih]

/-- A pass is free of the order if and only if one row is on top. -/
theorem orderFree_passResult_iff (hcodes : (rows.map SetRow.setCode).Nodup)
    (method : SetMethod) :
    OrderFree (fun rows => passResult rules pc method rows) rows ↔
      OneBestRow rules pc method rows := by
  have hinj := List.inj_on_of_nodup_map hcodes
  unfold passResult
  rw [(picks_pickName method).chooses.orderFree_iff]
  refine forall₂_congr fun first second => forall₂_congr fun hfirst hsecond => ?_
  constructor
  · intro hsame
    exact hinj hfirst.1 hsecond.1 (congrArg Prod.fst hsame)
  · rintro rfl
    rfl

theorem orderFree_tryPasses_iff (hcodes : (rows.map SetRow.setCode).Nodup)
    (methods : List SetMethod) :
    OrderFree (fun rows => tryPasses rules pc rows methods) rows ↔
      ∀ method, (tryPasses rules pc rows methods).map Prod.snd = some method →
        OneBestRow rules pc method rows := by
  induction methods with
  | nil => exact iff_of_true (fun _ _ => rfl) (fun _ hnone => nomatch hnone)
  | cons method rest ih =>
    have hsome : ∀ other : List SetRow, other.Perm rows →
        (passResult rules pc method other).isSome = (passResult rules pc method rows).isSome :=
      fun _ hperm => isSome_passResult_perm method hperm
    simp only [tryPasses, orderFree_or_iff hsome, Option.map_or, map_snd_passResult]
    split_ifs with hhit
    · rw [orderFree_passResult_iff hcodes, Option.some_or]
      constructor
      · rintro hone _ ⟨⟩
        exact hone
      · intro hone
        exact hone method rfl
    · rw [Option.none_or]
      exact ih

end Turns

/-- The method never depends on the order of the rows, and the code does not if and only if the
pass that decides has one row on top. -/
theorem matchSetCode_orderFree_iff (rules : SetRules) (pcName : String) {rows : List SetRow}
    (hcodes : (rows.map SetRow.setCode).Nodup) :
    OrderFree (fun rows =>
      (matchSetCode rules pcName (buildSetCodeIndex rules rows)).map Prod.snd) rows ∧
    (OrderFree (fun rows => matchSetCode rules pcName (buildSetCodeIndex rules rows)) rows ↔
      ∀ method,
        (matchSetCode rules pcName (buildSetCodeIndex rules rows)).map Prod.snd = some method →
        OneBestRow rules (pcKey rules.text pcName) method rows) := by
  simp only [matchSetCode_eq]
  cases nameOverride (pcKey rules.text pcName) with
  | some code =>
    refine ⟨fun _ _ => rfl, iff_of_true (fun _ _ => rfl) ?_⟩
    rintro _ ⟨⟩ first _ hfirst
    exact hfirst.2.elim
  | none =>
    simp only [Option.map_none, Option.none_or]
    exact ⟨fun _ hperm => map_snd_tryPasses_perm _ hperm, orderFree_tryPasses_iff hcodes _⟩

/-- Texts of lower case ASCII characters, none of which are close. -/
def lowerCaseRules : SetRules where
  text := {
    alphabet := Matching.asciiRules.alphabet
    lower := id }
  ratio _ _ := 0

/-- A set that no other is like is found from any order. -/
theorem single_alpha_orderFree :
    OrderFree (fun rows => matchSetCode lowerCaseRules "magic alpha"
      (buildSetCodeIndex lowerCaseRules rows)) [⟨"limited edition alpha", "lea"⟩] := by
  refine (matchSetCode_orderFree_iff lowerCaseRules "magic alpha" (by decide)).2.mpr ?_
  intro method _ first second hfirst hsecond
  exact (List.mem_singleton.mp hfirst.1).trans (List.mem_singleton.mp hsecond.1).symm

/-- Of two names that are normalised to one, the last row's code is found. -/
theorem last_sixth_edition_is_found :
    ¬ OrderFree (fun rows => matchSetCode lowerCaseRules "magic sixth edition"
      (buildSetCodeIndex lowerCaseRules rows))
      [⟨"sixth edition", "s6e"⟩, ⟨"classic sixth edition", "6ed"⟩] := by
  intro hfree
  have hother := hfree [⟨"classic sixth edition", "6ed"⟩, ⟨"sixth edition", "s6e"⟩]
    (List.Perm.swap _ _ [])
  exact absurd hother (by decide)

end AutoMana.PriceCharting.SetMatching
