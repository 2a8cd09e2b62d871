import AutoMana.Ebay.SalesSync
import AutoMana.Relational.Regex
import AutoMana.Relational.Tokens

/-!
# Titles of own listings

A listing is titled with the name of its card, the code of its set, and what the seller says of the
copy. When the listing is sold and was not tracked, its title is scored against the cards that are
suggested for it. A title with a word that speaks of something else than the card is rejected,
whatever else is in it, also when the word is from the name.
-/

namespace AutoMana.Ebay

open Relational Pricing

/-- What python decides of texts. -/
structure TitleRules where
  alphabet : Alphabet
  lower : List Char → List Char
  upper : List Char → List Char

/-! ## build_title -/

inductive Condition where
  | nm | lp | mp | hp | dmg
  deriving DecidableEq, Repr

def Condition.value : Condition → String
  | .nm => "NM"
  | .lp => "LP"
  | .mp => "MP"
  | .hp => "HP"
  | .dmg => "DMG"

/-- What a title takes of a `CardData`. -/
structure CardData where
  cardName : String
  setCode : String
  collectorNumber : String

/-- What a title takes of a `SellerInput`. -/
structure SellerInput where
  condition : Condition
  foil : Bool
  lang : String

section Rules

variable (rules : TitleRules)

/-- What the seller says of the copy. -/
def SellerInput.tokens (seller : SellerInput) : List (List Char) :=
  (if seller.foil then ["FOIL".toList] else []) ++
    (if seller.lang ≠ "en" then [rules.upper seller.lang.toList] else []) ++
    [seller.condition.value.toList, "MTG".toList]

/-- `build_title`: the collector number is dropped first, and then the title is cut. -/
def buildTitle (card : CardData) (seller : SellerInput) : List Char :=
  let setCode := rules.upper card.setCode.toList
  let title := Tokens.join ' '
    (card.cardName.toList :: setCode :: card.collectorNumber.toList :: seller.tokens rules)
  if title.length ≤ 80 then title
  else
    let title := Tokens.join ' ' (card.cardName.toList :: setCode :: seller.tokens rules)
    if title.length ≤ 80 then title else title.take 77 ++ "...".toList

/-! ## score_title -/

/-- `_SINGLE_WORD_REJECTS` -/
def singleWordRejects : List String :=
  ["proxy", "fake", "alter", "custom", "token", "lot", "playset", "bundle", "signed", "psa", "bgs",
    "cgc", "graded"]

/-- `_REJECT_PATTERNS` -/
def rejectPatterns : List Regex :=
  singleWordRejects.map fun word =>
    .all [.boundary rules.alphabet.isWord, Regex.literal word, .boundary rules.alphabet.isWord]

/-- `_PUNCTUATION_RE.sub("", text)` -/
def withoutPunctuation (text : List Char) : List Char :=
  (Regex.one fun c => !rules.alphabet.isWord c && !rules.alphabet.isSpace c).sub (fun _ => []) text

/-- The title in lower case, with one spelling for `non-foil`. -/
def normalizedTitle (title : List Char) : List Char :=
  Tokens.replace "nonfoil".toList "non-foil".toList (rules.lower title)

/-- A word of the title is a reject word. -/
def rejected (title : List Char) : Bool :=
  (rejectPatterns rules).any (·.search (normalizedTitle rules title))

def nameWords (cardName : String) : List (List Char) :=
  Tokens.split rules.alphabet.isSpace (rules.lower (withoutPunctuation rules cardName.toList))

/-- `score_title`, in hundredths. -/
def scoreTitle (title : List Char) (cardName : String) (setCode : Option String)
    (isFoil : Option Bool) (frame : Option String) : Int :=
  let normalized := normalizedTitle rules title
  if rejected rules title then -100
  else
    let cleanLower := withoutPunctuation rules normalized
    let words := nameWords rules cardName
    let score := if words ≠ [] ∧ ∀ word ∈ words, word <:+: cleanLower then 50 else 0
    let score := match setCode.filter (· ≠ "") with
      | some setCode =>
        if rules.lower setCode.toList <:+: normalized then score + 20 else score
      | none => score
    let score := match isFoil with
      | some true =>
        if "foil".toList <:+: normalized ∧ ¬ "non-foil".toList <:+: normalized then score + 15
        else score
      | some false => if "non-foil".toList <:+: normalized then score + 15 else score
      | none => score
    let score := match frame.filter (· ≠ "") with
      | some frame =>
        if Tokens.replace ['_'] [' '] (rules.lower frame.toList) <:+: normalized then score + 15
        else score
      | none => score
    min score 100

end Rules

/-- What is documented of the texts of python: what is split off by blanks is lowered by itself, and
a character becomes one of lower case, with a combining dot at most, and at most three of upper
case. -/
structure TitleRules.Documented (rules : TitleRules) : Prop where
  blank : rules.alphabet.isSpace ' ' = true
  hyphen : rules.alphabet.isWord '-' = false ∧ rules.alphabet.isSpace '-' = false
  wordSpace : ∀ c, rules.alphabet.isWord c = true → rules.alphabet.isSpace c = false
  lowerBlank : ∀ first second,
    rules.lower (first ++ ' ' :: second) = rules.lower first ++ ' ' :: rules.lower second
  lowerLength : ∀ text, ((rules.lower text).filter (· ≠ '\u0307')).length ≤ text.length
  upperLength : ∀ text, (rules.upper text).length ≤ 3 * text.length

/-! ## Titles -/

section Titles

variable {rules : TitleRules} {card : CardData} {seller : SellerInput}

theorem tokens_ne_nil : seller.tokens rules ≠ [] := by
  simp [SellerInput.tokens]

theorem length_buildTitle : (buildTitle rules card seller).length ≤ 80 := by
  rw [buildTitle]
  dsimp only
  split_ifs with hwhole hshort
  · exact hwhole
  · exact hshort
  · simp

/-- A title starts with the name and the code. -/
theorem start_buildTitle (hname : card.cardName.length ≤ 60)
    (hcode : (rules.upper card.setCode.toList).length ≤ 15) :
    card.cardName.toList ++ ' ' :: (rules.upper card.setCode.toList ++ [' ']) <+:
      buildTitle rules card seller := by
  have hjoined : ∀ {tokens : List (List Char)}, tokens ≠ [] →
      card.cardName.toList ++ ' ' :: (rules.upper card.setCode.toList ++ [' ']) <+: Tokens.join ' '
        (card.cardName.toList :: rules.upper card.setCode.toList :: tokens) := by
    intro tokens hne
    rw [Tokens.join_cons _ (List.cons_ne_nil _ _), Tokens.join_cons _ hne]
    exact ⟨Tokens.join ' ' tokens, by simp⟩
  rw [buildTitle]
  dsimp only
  split_ifs
  · exact hjoined (List.cons_ne_nil _ _)
  · exact hjoined tokens_ne_nil
  · -- the cut is behind the code
    refine List.IsPrefix.trans ?_ (List.prefix_append _ _)
    refine List.prefix_take_iff.mpr ⟨hjoined tokens_ne_nil, ?_⟩
    simp only [List.length_append, List.length_cons, List.length_nil, String.length_toList]
    omega

end Titles

/-! ## Scores -/

section Scores

variable {rules : TitleRules}

theorem withoutPunctuation_eq (text : List Char) : withoutPunctuation rules text =
    text.filter fun c => rules.alphabet.isWord c || rules.alphabet.isSpace c := by
  rw [withoutPunctuation, Regex.sub_one]
  exact List.filter_congr fun c _ => by simp

/-- Where nothing is asked of the foil and the frame, a title needs all words of the name and the
code, and no reject word. -/
theorem scoreThreshold_le_iff {title : List Char} {cardName setCode : String} :
    scoreThreshold ≤ scoreTitle rules title cardName (some setCode) none none ↔
      rejected rules title = false ∧
        (nameWords rules cardName ≠ [] ∧ ∀ word ∈ nameWords rules cardName,
          word <:+: withoutPunctuation rules (normalizedTitle rules title)) ∧
        setCode ≠ "" ∧ rules.lower setCode.toList <:+: normalizedTitle rules title := by
  rw [scoreTitle, scoreThreshold]
  dsimp only
  by_cases hrejected : rejected rules title = true
  · rw [if_pos hrejected, hrejected]
    exact iff_of_false (by decide) fun hall => absurd hall.1 (by decide)
  rw [if_neg hrejected]
  have hkept : rejected rules title = false := Bool.not_eq_true _ ▸ hrejected
  by_cases hempty : setCode = ""
  · have hnone : (some setCode).filter (· ≠ "") = none := by simp [hempty]
    rw [hnone]
    refine iff_of_false ?_ fun hall => hall.2.2.1 hempty
    dsimp only [Option.filter]
    split_ifs <;> decide
  · have hsome : (some setCode).filter (· ≠ "") = some setCode := by simp [hempty]
    rw [hsome]
    dsimp only [Option.filter]
    split_ifs with hcode hwords hwords
    · exact iff_of_true (by decide) ⟨hkept, hwords, hempty, hcode⟩
    · exact iff_of_false (by decide) fun hall => hwords hall.2.1
    · exact iff_of_false (by decide) fun hall => hcode hall.2.2.2
    · exact iff_of_false (by decide) fun hall => hcode hall.2.2.2

end Scores

/-! ## Own titles -/

section Own

variable {rules : TitleRules} {card : CardData} {seller : SellerInput}

/-- The tokens are lowered, and written without `nonfoil`, one by one. -/
theorem normalizedTitle_append (hrules : rules.Documented) (first second : List Char) :
    normalizedTitle rules (first ++ ' ' :: second) =
      normalizedTitle rules first ++ ' ' :: normalizedTitle rules second := by
  rw [normalizedTitle, hrules.lowerBlank]
  exact Tokens.replace_append_cons (by decide) (by decide) _ _

/-- `non-foil` is `nonfoil` without its hyphen. -/
theorem withoutPunctuation_normalizedTitle (hrules : rules.Documented) (title : List Char) :
    withoutPunctuation rules (normalizedTitle rules title) =
      withoutPunctuation rules (rules.lower title) := by
  rw [withoutPunctuation_eq, withoutPunctuation_eq, normalizedTitle]
  refine Tokens.filter_replace ?_ (by decide) _
  change List.filter _ ("non".toList ++ '-' :: "foil".toList) =
    List.filter _ ("non".toList ++ "foil".toList)
  rw [List.filter_append, List.filter_append,
    List.filter_cons_of_neg (by simp [hrules.hyphen.1, hrules.hyphen.2])]

/-- A code is too short for `nonfoil`. -/
theorem normalizedTitle_code (hrules : rules.Documented) {code : List Char}
    (hcode : code.length ≤ 5) : normalizedTitle rules code = rules.lower code := by
  refine Tokens.replace_of_not_infix fun hinside => ?_
  have hkept := (hinside.sublist.filter (· ≠ '\u0307')).length_le
  have hseven : ("nonfoil".toList.filter (· ≠ '\u0307')).length = 7 := by decide
  have hlower := hrules.lowerLength code
  omega

/-- The lower case of the name is the same with and without punctuation, and that of the code is the
same from upper case. -/
structure CaseKept (rules : TitleRules) (card : CardData) : Prop where
  name : withoutPunctuation rules (rules.lower card.cardName.toList) =
    rules.lower (withoutPunctuation rules card.cardName.toList)
  code : rules.lower (rules.upper card.setCode.toList) = rules.lower card.setCode.toList

theorem nameWords_ne_nil_iff (hrules : rules.Documented) (hkept : CaseKept rules card) :
    nameWords rules card.cardName ≠ [] ↔
      ∃ c ∈ rules.lower card.cardName.toList, rules.alphabet.isWord c = true := by
  rw [nameWords, Tokens.split_ne_nil_iff, ← hkept.name, withoutPunctuation_eq]
  constructor
  · rintro ⟨c, hc, hspace⟩
    obtain ⟨hmem, hleft⟩ := List.mem_filter.mp hc
    exact ⟨c, hmem, by simpa [hspace] using hleft⟩
  · rintro ⟨c, hc, hword⟩
    exact ⟨c, List.mem_filter.mpr ⟨hc, by simp [hword]⟩, hrules.wordSpace c hword⟩

/-- The title has the words of the name, and the code. -/
theorem words_mem_buildTitle (hrules : rules.Documented) (hkept : CaseKept rules card)
    (hname : card.cardName.length ≤ 60) (hcode : card.setCode.length ≤ 5) :
    (∀ word ∈ nameWords rules card.cardName, word <:+:
      withoutPunctuation rules (normalizedTitle rules (buildTitle rules card seller))) ∧
      rules.lower card.setCode.toList <:+:
        normalizedTitle rules (buildTitle rules card seller) := by
  have hupper := hrules.upperLength card.setCode.toList
  rw [String.length_toList] at hupper
  obtain ⟨rest, htitle⟩ := @start_buildTitle rules card seller hname (by omega)
  simp only [List.append_assoc, List.cons_append, List.nil_append] at htitle
  rw [← htitle]
  constructor
  · intro word hword
    have hinside := Tokens.infix_of_mem_split hword
    rw [← hkept.name] at hinside
    rw [withoutPunctuation_normalizedTitle hrules, hrules.lowerBlank, withoutPunctuation_eq,
      List.filter_append, ← withoutPunctuation_eq]
    exact hinside.trans (List.prefix_append _ _).isInfix
  · have hlower : normalizedTitle rules (rules.upper card.setCode.toList) =
        rules.lower card.setCode.toList := by
      rw [normalizedTitle, hkept.code]
      exact normalizedTitle_code hrules (String.length_toList ▸ hcode)
    rw [normalizedTitle_append hrules, normalizedTitle_append hrules, hlower]
    exact ⟨normalizedTitle rules card.cardName.toList ++ [' '], ' ' :: normalizedTitle rules rest,
      by simp⟩

/-- A title has at most eighty characters, and the whole name. It is recognised if the set has a
code, the name has a word, and no word of the title is rejected. -/
theorem ownTitle_recognised (hrules : rules.Documented) (hname : card.cardName.length ≤ 60)
    (hcode : card.setCode.length ≤ 5) :
    (buildTitle rules card seller).length ≤ 80 ∧
      card.cardName.toList <:+: buildTitle rules card seller ∧
      (CaseKept rules card →
        (scoreThreshold ≤ scoreTitle rules (buildTitle rules card seller) card.cardName
            (some card.setCode) none none ↔
          card.setCode ≠ "" ∧
            (∃ c ∈ rules.lower card.cardName.toList, rules.alphabet.isWord c = true) ∧
            rejected rules (buildTitle rules card seller) = false)) := by
  have hupper := hrules.upperLength card.setCode.toList
  rw [String.length_toList] at hupper
  refine ⟨length_buildTitle, ?_, fun hkept => ?_⟩
  · have hstart := @start_buildTitle rules card seller hname (by omega)
    exact (List.prefix_append _ _).isInfix.trans hstart.isInfix
  · obtain ⟨hwords, hin⟩ := @words_mem_buildTitle rules card seller hrules hkept hname hcode
    rw [scoreThreshold_le_iff, ← nameWords_ne_nil_iff hrules hkept]
    constructor
    · rintro ⟨hrejected, ⟨hne, -⟩, hcode, -⟩
      exact ⟨hcode, hne, hrejected⟩
    · rintro ⟨hcode, hne, hrejected⟩
      exact ⟨hrejected, ⟨hne, hwords⟩, hcode, hin⟩

/-- A turn of the loop in `_resolve_card_version` keeps a card that was found, and finds one that
scores enough. -/
theorem isSome_foldl_best (score : Candidate → Int) {candidates : List Candidate}
    {best : Option CardVersionId × Int} (hstart : best.1 = none → best.2 = scoreThreshold)
    (hfound : best.1.isSome ∨ ∃ candidate ∈ candidates, scoreThreshold ≤ score candidate) :
    ((candidates.foldl (fun best candidate =>
      if best.2 ≤ score candidate then (some candidate.cardVersionId, score candidate) else best)
        best).1).isSome := by
  induction candidates generalizing best with
  | nil => simpa using hfound
  | cons candidate rest ih =>
    rw [List.foldl_cons]
    split_ifs with hbetter
    · exact ih (fun hnone => absurd hnone (Option.some_ne_none _)) (Or.inl rfl)
    · refine ih hstart ?_
      cases hbest : best.1 with
      | some card => exact Or.inl rfl
      | none =>
        rw [hstart hbest] at hbetter
        obtain ⟨found, hmem, henough⟩ := hfound.resolve_left (by simp [hbest])
        rcases List.mem_cons.mp hmem with rfl | hrest
        · exact absurd henough hbetter
        · exact Or.inr ⟨found, hrest, henough⟩

/-- The sale of a listing that was not tracked gets a card, when the card is suggested for a title
that is recognised. -/
theorem ownSale_resolved {call : SyncCall} {line : LineItem} {candidate : Candidate}
    (hscore : ∀ title candidate, call.score title candidate =
      scoreTitle rules title.toList candidate.cardName candidate.setCode none none)
    (htitle : line.title = some (String.ofList (buildTitle rules card seller)))
    (hsuggested : candidate ∈ call.suggest (String.ofList (buildTitle rules card seller)))
    (hcard : candidate.cardName = card.cardName ∧ candidate.setCode = some card.setCode)
    (henough : scoreThreshold ≤ scoreTitle rules (buildTitle rules card seller) card.cardName
      (some card.setCode) none none) :
    (resolveCardVersion call line).isSome := by
  rw [resolveCardVersion]
  cases listing? call line with
  | some listing => rfl
  | none =>
    refine isSome_foldl_best _ (fun _ => rfl) (Or.inr ⟨candidate, ?_, ?_⟩)
    · rwa [htitle, Option.getD_some]
    · rwa [htitle, Option.getD_some, hscore, String.toList_ofList, hcard.1, hcard.2]

end Own

/-! ## Examples -/

def sampleLower (c : Char) : List Char := if c = 'İ' then ['i', '\u0307'] else [c.toLower]

def sampleUpper (c : Char) : List Char := if c = 'ß' then ['S', 'S'] else [c.toUpper]

/-- Texts of ASCII characters, of `İ`, which is lowered to `i` with a dot above, and of `ß`, which
has no upper case but `SS`. -/
def sampleRules : TitleRules where
  alphabet := {
    isWord := fun c => c.isAlphanum || c = '_' || c = 'İ' || c = 'ß'
    isSpace := Char.isWhitespace
    isDigit := Char.isDigit
    sameLetter := fun c d => c.toLower = d.toLower }
  lower := List.flatMap sampleLower
  upper := List.flatMap sampleUpper

theorem sampleRules_documented : sampleRules.Documented where
  blank := rfl
  hyphen := ⟨rfl, rfl⟩
  wordSpace := by
    intro c hword
    by_contra hspace
    have hblank : c = ' ' ∨ c = '\t' ∨ c = '\r' ∨ c = '\n' := by
      simpa only [sampleRules, Char.isWhitespace, Bool.not_eq_false, Bool.or_eq_true,
        decide_eq_true_eq, beq_iff_eq, or_assoc] using hspace
    rcases hblank with rfl | rfl | rfl | rfl <;> exact absurd hword (by decide)
  lowerBlank := fun first second => List.flatMap_append
  lowerLength := by
    intro text
    induction text with
    | nil => rfl
    | cons c rest ih =>
      have hone : ((sampleLower c).filter (· ≠ '\u0307')).length ≤ 1 := by
        rw [sampleLower]
        split_ifs
        · decide
        · exact List.length_filter_le _ _
      change (List.filter _ (sampleLower c ++ rest.flatMap sampleLower)).length ≤ _
      rw [List.filter_append, List.length_append, List.length_cons]
      exact (Nat.add_le_add hone ih).trans (Nat.add_comm _ _).le
  upperLength := by
    intro text
    induction text with
    | nil => rfl
    | cons c rest ih =>
      have hthree : (sampleUpper c).length ≤ 3 := by
        rw [sampleUpper]
        split_ifs <;> simp
      change (sampleUpper c ++ rest.flatMap sampleUpper).length ≤ _
      rw [List.length_append, List.length_cons]
      exact (Nat.add_le_add hthree ih).trans (by omega)

def nearMint : SellerInput := ⟨.nm, false, "en"⟩

/-- A card of this name and set. -/
def titled (cardName setCode : String) : CardData := ⟨cardName, setCode, "107"⟩

/-- The score of the title of a card for the card itself. -/
def ownScore (card : CardData) : Int :=
  scoreTitle sampleRules (buildTitle sampleRules card nearMint) card.cardName (some card.setCode)
    none none

theorem ownTitle_sheoldred :
    (buildTitle sampleRules (titled "Sheoldred, the Apocalypse" "dmu") nearMint).length ≤ 80 ∧
      scoreThreshold ≤ ownScore (titled "Sheoldred, the Apocalypse" "dmu") := by
  have hkept : CaseKept sampleRules (titled "Sheoldred, the Apocalypse" "dmu") :=
    ⟨by decide +kernel, by decide +kernel⟩
  obtain ⟨hlength, -, hscore⟩ := @ownTitle_recognised sampleRules
    (titled "Sheoldred, the Apocalypse" "dmu") nearMint sampleRules_documented (by decide)
    (by decide)
  exact ⟨hlength, (hscore hkept).mpr
    ⟨by decide, ⟨'s', by decide +kernel, by decide +kernel⟩, by decide +kernel⟩⟩

/-- A name may have a reject word, or no word; a set may have no code; and the lower case of a name
or a code may be another in the title. -/
theorem own_titles_not_recognised :
    ownScore (titled "Fake Your Own Death" "snc") = -100 ∧
      ownScore (titled "???" "unh") < scoreThreshold ∧
      ownScore (titled "Sheoldred" "") < scoreThreshold ∧
      ownScore (titled "İzmir" "dmu") < scoreThreshold ∧
      ownScore (titled "Sheoldred" "ß1") < scoreThreshold := by
  decide +kernel

end AutoMana.Ebay
