import AutoMana.Relational.Choices
import AutoMana.Relational.Regex

/-!
# resolve_card_match

A product of PriceCharting is matched to one of the printings that share its name. The collector
number in its title, the treatment in its bracket, and the TCGPlayer id narrow the candidates
down; of those left, the one with the lowest collector number is picked. The match has a
certainty, and only a confident one links the card to the product for good.
-/

namespace AutoMana.PriceCharting.Matching

open Relational

/-! ## Titles -/

/-- What python decides of texts. -/
structure TextRules where
  alphabet : Alphabet
  lower : String → String

section Titles

variable (text : TextRules)

/-- `\[([^\]]+)\]` -/
def extractBracketTag (title : String) : List Char :=
  (Regex.searchGroup (.literal "[") (.some (.one (· ≠ ']'))) (.literal "]") title.toList).getD []

/-- `#(\d+[a-zA-Z★]*)` -/
def extractCollectorNumber (title : String) : Option String :=
  (Regex.searchGroup (.literal "#")
    (.seq (.some (.one text.alphabet.isDigit)) (.many (.one fun c => c.isAlpha || c = '★')))
    .empty title.toList).map String.ofList

/-- The words, with any space between them, and case ignored. -/
def spacedWords (words : List String) : Regex :=
  .all ((words.map (Regex.text text.alphabet.sameLetter)).intersperse
    (.some (.one text.alphabet.isSpace)))

def wholeWords (pattern : Regex) : Regex :=
  .all [.boundary text.alphabet.isWord, pattern, .boundary text.alphabet.isWord]

/-- `_FINISH_WORDS_RE` -/
def finishWordsRe : Regex :=
  wholeWords text (.choice [
    spacedWords text ["compleat", "foil"],
    spacedWords text ["etched", "foil"],
    spacedWords text ["textured", "foil"],
    spacedWords text ["galaxy", "foil"],
    spacedWords text ["surge", "foil"],
    spacedWords text ["gilded", "foil"],
    spacedWords text ["oil", "slick", "foil"],
    spacedWords text ["rainbow", "foil"],
    spacedWords text ["halo", "foil"],
    spacedWords text ["neon", "ink", "foil"],
    spacedWords text ["dazzle", "foil"],
    .all [spacedWords text ["non"], .optional .anyChar, spacedWords text ["foil"]],
    spacedWords text ["foil"]])

def strip (chars : List Char) : List Char :=
  ((chars.dropWhile text.alphabet.isSpace).reverse.dropWhile text.alphabet.isSpace).reverse

/-- The bracket tag without the words for a finish. -/
def cleanTag (title : String) : List Char :=
  strip text ((finishWordsRe text).sub (fun _ => []) (extractBracketTag title))

def parseFinish (title : String) : Nat :=
  let tag := extractBracketTag title
  if (wholeWords text (spacedWords text ["etched"])).search tag then 3
  else if (wholeWords text (spacedWords text ["foil"])).search tag ||
      (wholeWords text (spacedWords text ["foil"])).search title.toList then 2
  else if (text.lower (String.ofList tag)).toList.tails.any ("prerelease".toList.isPrefixOf ·) then
    2
  else 1

end Titles

/-! ## Candidates -/

/-- A row of `get_all_card_versions_for_set`. -/
structure Candidate where
  /-- the text of its uuid -/
  cardVersionId : String
  cardName : String
  collectorNumber : Option String
  frameEffects : List String
  borderColorName : String
  fullArt : Bool
  tcgplayerId : Option String
deriving DecidableEq, Repr

section Candidates

variable (text : TextRules)

/-- A text with its words joined by at most one character between them. -/
def joinedWords (first second : String) : Regex :=
  .all [Regex.text text.alphabet.sameLetter first, .optional .anyChar,
    Regex.text text.alphabet.sameLetter second]

/-- `_TREATMENT_MAP` -/
def treatmentMap : List (Regex × String) := [
  (Regex.text text.alphabet.sameLetter "showcase", "showcase"),
  (joinedWords text "extended" "art", "extendedart"),
  (joinedWords text "full" "art", "fullart"),
  (Regex.text text.alphabet.sameLetter "borderless", "borderless"),
  (Regex.text text.alphabet.sameLetter "etched", "etched"),
  (.either (Regex.text text.alphabet.sameLetter "inverted")
    (Regex.text text.alphabet.sameLetter "phyrexian"), "inverted"),
  (Regex.text text.alphabet.sameLetter "dazzle", "dazzlefoil"),
  (joinedWords text "shattered" "glass", "shatteredglass"),
  (Regex.text text.alphabet.sameLetter "textless", "textless"),
  (Regex.text text.alphabet.sameLetter "colorshifted", "colorshifted")]

def hasSignal (row : Candidate) (signal : String) : Bool :=
  let frameEffects := row.frameEffects.map text.lower
  if signal = "borderless" then text.lower row.borderColorName = "borderless"
  else if signal = "fullart" then "fullart" ∈ frameEffects || row.fullArt
  else signal ∈ frameEffects

def scoreCandidate (row : Candidate) (bracketTag : List Char) : Int :=
  (treatmentMap text).foldl (fun score treatment =>
    if treatment.1.search bracketTag then
      if hasSignal text row treatment.2 then score + 3 else score - 2
    else score) 0

/-- `int(digits)` of ASCII digits, which raises on none and on more than 4300 of them. -/
def intOfDigits (digits : List Char) : Option Nat :=
  if digits.isEmpty || 4300 < digits.length then none
  else some (digits.foldl (fun value c => 10 * value + (c.toNat - '0'.toNat)) 0)

/-- `_collector_int` -/
def collectorInt (row : Candidate) : Nat :=
  let number := match row.collectorNumber with
    | some "" => "9999"
    | some number => number
    | none => "9999"
  (intOfDigits (number.toList.filter Char.isDigit)).getD 9999

end Candidates

/-! ## The match -/

inductive MatchMethod where
  | tcg
  | collector
  | name
  | treatment
  | ambiguous
deriving DecidableEq, Repr

/-- `_CERTAINTY` -/
def certaintyOf : MatchMethod → Int
  | .tcg => 95
  | .collector => 85
  | .name => 80
  | .treatment => 65
  | .ambiguous => 40

structure CardMatch where
  cardVersionId : String
  cardName : String
  collectorNumber : Option String
  finishId : Nat
  matchMethod : MatchMethod
  certainty : Int
deriving DecidableEq, Repr

/-- `_REGISTER_CERTAINTY_THRESHOLD` -/
def registerCertaintyThreshold : Int := 70

/-- The match is registered as an external identifier of the card. -/
def CardMatch.registers (cardMatch : CardMatch) : Bool :=
  registerCertaintyThreshold ≤ cardMatch.certainty

/-- The id of the product equals that of the candidate, where `str(None)` is a text too. -/
def hasTcgplayerId (pcTcgplayerId : Option String) (row : Candidate) : Bool :=
  match pcTcgplayerId with
  | none => false
  | some "" => false
  | some id => row.tcgplayerId.getD "None" = id

section Resolve

variable (text : TextRules) (title : String) (pcTcgplayerId : Option String)

/-- The filter by the collector number, and whether it leaves one candidate. -/
def byCollector (winners : List Candidate) : List Candidate × Bool :=
  match extractCollectorNumber text title with
  | none => (winners, false)
  | some "" => (winners, false)
  | some collector =>
    let found := winners.filter (·.collectorNumber = some collector)
    if found.isEmpty then (winners, false) else (found, found.length = 1)

/-- The filter by the treatment score, and whether it leaves one candidate. -/
def byTreatment (winners : List Candidate) : List Candidate × Bool :=
  if 1 < winners.length then
    let scored := winners.map fun row => (row, scoreCandidate text row (cleanTag text title))
    let top := ((scored.map Prod.snd).max?).getD 0
    let winners := if 0 < top then (scored.filter (·.2 = top)).map Prod.fst else winners
    (winners, winners.length = 1)
  else (winners, false)

/-- The filter by a unique TCGPlayer id, and whether there is one. -/
def byTcg (winners : List Candidate) : List Candidate × Bool :=
  let tcgHits := winners.filter (hasTcgplayerId pcTcgplayerId)
  if 1 < winners.length ∧ tcgHits.length = 1 then (tcgHits, true) else (winners, false)

/-- What is known of how the winner was found. -/
structure Signals where
  nCandidates : Nat
  collectorPinned : Bool
  treatmentUsed : Bool
  tcgUsed : Bool
  ambiguous : Bool
deriving DecidableEq

def matchMethod (signals : Signals) (tcgConfirmed : Bool) : MatchMethod :=
  if signals.tcgUsed || tcgConfirmed then .tcg
  else if signals.nCandidates = 1 then .name
  else if signals.collectorPinned then .collector
  else if signals.treatmentUsed then .treatment
  else if signals.ambiguous then .ambiguous
  else if (extractCollectorNumber text title).any (· ≠ "") then .collector
  else .name

def matchCertainty (setMethod : String) (tcgVotes : Int) (method : MatchMethod)
    (tcgConfirmed : Bool) : Int :=
  let certainty := certaintyOf method
  let certainty := if tcgConfirmed && 5 ≤ tcgVotes then min 99 (certainty + 3) else certainty
  if setMethod = "fuzzy" || setMethod = "prefix" then max 20 (certainty - 20) else certainty

/-- The candidates left by the filters, and how. -/
def finalists (candidates : List Candidate) : List Candidate × Signals :=
  let pinned := byCollector text title candidates
  let treated := byTreatment text title pinned.1
  let confirmed := byTcg pcTcgplayerId treated.1
  (confirmed.1, {
    nCandidates := candidates.length
    collectorPinned := pinned.2
    treatmentUsed := treated.2
    tcgUsed := confirmed.2
    ambiguous := 1 < confirmed.1.length })

def resolveCardMatch (setMethod : String) (tcgVotes : Int) (candidates : List Candidate) :
    Option CardMatch :=
  if candidates.isEmpty then none
  else
    let found := finalists text title pcTcgplayerId candidates
    let winners := if found.2.ambiguous then sortByKey collectorInt found.1 else found.1
    winners.head?.map fun w =>
      let tcgConfirmed := hasTcgplayerId pcTcgplayerId w
      let method := matchMethod text title found.2 tcgConfirmed
      { cardVersionId := w.cardVersionId
        cardName := w.cardName
        collectorNumber := w.collectorNumber
        finishId := parseFinish text title
        matchMethod := method
        certainty := matchCertainty setMethod tcgVotes method tcgConfirmed }

end Resolve

/-! ## The filters -/

section Filters

variable (text : TextRules) (title : String) (pcTcgplayerId : Option String)

/-- The candidate has the collector number in the title, if any candidate has it. -/
def Pinned (candidates : List Candidate) (row : Candidate) : Prop :=
  ∀ collector ∈ extractCollectorNumber text title, collector ≠ "" →
    (∃ other ∈ candidates, other.collectorNumber = some collector) →
    row.collectorNumber = some collector

/-- No candidate has a better treatment score that is positive. -/
def BestTreated (candidates : List Candidate) (row : Candidate) : Prop :=
  ∀ other ∈ candidates, 0 < scoreCandidate text other (cleanTag text title) →
    scoreCandidate text other (cleanTag text title) ≤
      scoreCandidate text row (cleanTag text title)

instance (candidates : List Candidate) (row : Candidate) :
    Decidable (Pinned text title candidates row) :=
  inferInstanceAs (Decidable (∀ collector ∈ extractCollectorNumber text title, collector ≠ "" →
    (∃ other ∈ candidates, other.collectorNumber = some collector) →
    row.collectorNumber = some collector))

instance (candidates : List Candidate) (row : Candidate) :
    Decidable (BestTreated text title candidates row) :=
  inferInstanceAs (Decidable (∀ other ∈ candidates, _ → _))

/-- The candidates that the collector number and the treatment leave. -/
def treated (candidates : List Candidate) : List Candidate :=
  let pinned := candidates.filter (Pinned text title candidates ·)
  pinned.filter (BestTreated text title pinned ·)

variable {text title pcTcgplayerId} {candidates other winners : List Candidate}

theorem byCollector_eq_filter : (byCollector text title candidates).1 =
    candidates.filter (Pinned text title candidates ·) := by
  unfold byCollector Pinned
  split
  · next hnone => exact eq_filter_of_forall (by simp [hnone])
  · next hblank => exact eq_filter_of_forall (by simp [hblank])
  · next collector hne hsome =>
    simp only [hsome, Option.mem_some_iff, forall_eq']
    split_ifs with hempty
    · refine eq_filter_of_forall fun row _ _ hfound => ?_
      obtain ⟨other, hother, hnumber⟩ := hfound
      have hnone := List.filter_eq_nil_iff.mp (List.isEmpty_iff.mp hempty) other hother
      exact absurd (decide_eq_true hnumber) hnone
    · have hfound : ∃ other ∈ candidates, other.collectorNumber = some collector := by
        simpa [List.isEmpty_iff, List.filter_eq_nil_iff] using hempty
      apply List.filter_congr
      intro row _
      apply decide_eq_decide.mpr
      exact ⟨fun hsame _ _ => hsame, fun hpinned => hpinned hne hfound⟩

theorem byScore_eq_filter (score : Candidate → Int) (winners : List Candidate) :
    (let scored := winners.map fun row => (row, score row)
      let top := ((scored.map Prod.snd).max?).getD 0
      if 0 < top then (scored.filter (·.2 = top)).map Prod.fst else winners) =
    winners.filter fun row =>
      decide (∀ other ∈ winners, 0 < score other → score other ≤ score row) := by
  have hscored : (winners.map fun row => (row, score row)).map Prod.snd = winners.map score := by
    rw [List.map_map]
    rfl
  simp only [hscored]
  cases hbest : (winners.map score).max? with
  | none =>
    rw [List.max?_eq_none_iff, List.map_eq_nil_iff] at hbest
    rw [hbest]
    rfl
  | some best =>
    rw [← filter_best_eq hbest, Option.getD_some, List.filter_map, List.map_map]
    congr 1
    exact List.map_id _

theorem byTreatment_eq_filter : (byTreatment text title winners).1 =
    winners.filter (BestTreated text title winners ·) := by
  unfold byTreatment BestTreated
  split_ifs with hmany
  · exact byScore_eq_filter (fun row => scoreCandidate text row (cleanTag text title)) winners
  · match winners, hmany with
    | [], _ => rfl
    | [row], _ => exact eq_filter_of_forall (by simp)
    | _ :: _ :: _, hmany => exact absurd (by simp) hmany

theorem byTcg_eq_filter : (byTcg pcTcgplayerId winners).1 = winners.filter fun row =>
    decide (1 < winners.length ∧ (winners.filter (hasTcgplayerId pcTcgplayerId)).length = 1 →
      hasTcgplayerId pcTcgplayerId row) := by
  unfold byTcg
  simp only
  split_ifs with hunique
  · simp only [hunique, and_self, true_implies, Bool.decide_eq_true]
  · simp only [hunique, false_implies, decide_true, List.filter_true]

theorem selects_byCollector : Selects fun candidates => (byCollector text title candidates).1 := by
  simp only [byCollector_eq_filter]
  refine selects_filter fun hperm => funext fun row => decide_eq_decide.mpr ?_
  simp only [Pinned, hperm.mem_iff]

theorem selects_byTreatment : Selects fun winners => (byTreatment text title winners).1 := by
  simp only [byTreatment_eq_filter]
  refine selects_filter fun hperm => funext fun row => decide_eq_decide.mpr ?_
  simp only [BestTreated, hperm.mem_iff]

theorem selects_byTcg : Selects fun winners => (byTcg pcTcgplayerId winners).1 := by
  simp only [byTcg_eq_filter]
  refine selects_filter fun hperm => ?_
  rw [hperm.length_eq, (hperm.filter _).length_eq]

theorem finalists_fst : (finalists text title pcTcgplayerId candidates).1 =
    (byTcg pcTcgplayerId
      (byTreatment text title (byCollector text title candidates).1).1).1 := by
  simp only [finalists]

/-- The filters keep the candidates of a permutation, and keep the first one in front. -/
theorem selects_finalists :
    Selects fun candidates => (finalists text title pcTcgplayerId candidates).1 := by
  simp only [finalists_fst]
  exact (selects_byCollector.comp selects_byTreatment).comp selects_byTcg

theorem byCollector_snd_perm (hperm : other.Perm candidates) :
    (byCollector text title other).2 = (byCollector text title candidates).2 := by
  unfold byCollector
  split
  · rfl
  · rfl
  · next collector _ _ =>
    have hfound := hperm.filter (·.collectorNumber = some collector)
    simp only [hfound.isEmpty_eq, hfound.length_eq]
    split_ifs <;> rfl

theorem byTreatment_snd : (byTreatment text title winners).2 =
    decide (1 < winners.length ∧ (byTreatment text title winners).1.length = 1) := by
  unfold byTreatment
  split_ifs with hmany <;> simp [hmany]

theorem byTcg_snd : (byTcg pcTcgplayerId winners).2 = decide
    (1 < winners.length ∧ (winners.filter (hasTcgplayerId pcTcgplayerId)).length = 1) := by
  unfold byTcg
  simp only
  split_ifs with hunique <;> simp [hunique]

/-- How the winner is found does not depend on the order of the candidates. -/
theorem signals_perm (hperm : other.Perm candidates) :
    (finalists text title pcTcgplayerId other).2 =
      (finalists text title pcTcgplayerId candidates).2 := by
  have hpinned : (byCollector text title other).1.Perm (byCollector text title candidates).1 :=
    selects_byCollector.perm hperm
  have htreated : (byTreatment text title (byCollector text title other).1).1.Perm
      (byTreatment text title (byCollector text title candidates).1).1 :=
    selects_byTreatment.perm hpinned
  have hconfirmed : (byTcg pcTcgplayerId
        (byTreatment text title (byCollector text title other).1).1).1.Perm
      (byTcg pcTcgplayerId
        (byTreatment text title (byCollector text title candidates).1).1).1 :=
    selects_byTcg.perm htreated
  simp only [finalists, Signals.mk.injEq]
  refine ⟨hperm.length_eq, byCollector_snd_perm hperm, ?_, ?_, ?_⟩
  · rw [byTreatment_snd, byTreatment_snd, hpinned.length_eq, htreated.length_eq]
  · rw [byTcg_snd, byTcg_snd, htreated.length_eq, (htreated.filter _).length_eq]
  · rw [hconfirmed.length_eq]

/-! ## The winner -/

def matchOf (text : TextRules) (title : String) (pcTcgplayerId : Option String)
    (setMethod : String) (tcgVotes : Int) (signals : Signals) (w : Candidate) : CardMatch :=
  let tcgConfirmed := hasTcgplayerId pcTcgplayerId w
  let method := matchMethod text title signals tcgConfirmed
  { cardVersionId := w.cardVersionId
    cardName := w.cardName
    collectorNumber := w.collectorNumber
    finishId := parseFinish text title
    matchMethod := method
    certainty := matchCertainty setMethod tcgVotes method tcgConfirmed }

theorem ambiguous_finalists : (finalists text title pcTcgplayerId candidates).2.ambiguous =
    decide (1 < (finalists text title pcTcgplayerId candidates).1.length) := by
  simp only [finalists]
  exact decide_eq_decide.mpr Iff.rfl

theorem resolveCardMatch_eq (setMethod : String) (tcgVotes : Int) :
    resolveCardMatch text title pcTcgplayerId setMethod tcgVotes candidates =
      (sortByKey collectorInt (finalists text title pcTcgplayerId candidates).1).head?.map
        (matchOf text title pcTcgplayerId setMethod tcgVotes
          (finalists text title pcTcgplayerId candidates).2) := by
  unfold resolveCardMatch
  split_ifs with hempty
  · rw [List.isEmpty_iff.mp hempty]
    have hnone : (finalists text title pcTcgplayerId []).1 ⊆ [] := selects_finalists.subset []
    rw [List.subset_nil.mp hnone]
    rfl
  · have hwinners : (if (finalists text title pcTcgplayerId candidates).2.ambiguous then
          sortByKey collectorInt (finalists text title pcTcgplayerId candidates).1
        else (finalists text title pcTcgplayerId candidates).1) =
        sortByKey collectorInt (finalists text title pcTcgplayerId candidates).1 := by
      rw [ambiguous_finalists]
      split_ifs with hmany
      · rfl
      · rw [decide_eq_true_eq] at hmany
        match (finalists text title pcTcgplayerId candidates).1, hmany with
        | [], _ => rfl
        | [_], _ => rfl
        | _ :: _ :: _, hmany => exact absurd (by simp) hmany
    simp only [hwinners]
    rfl

/-- What the choice is compared by. -/
def CardMatch.outcome (cardMatch : CardMatch) : String × MatchMethod × Int :=
  (cardMatch.cardVersionId, cardMatch.matchMethod, cardMatch.certainty)

theorem orderFree_resolveCardMatch_iff (setMethod : String) (tcgVotes : Int) :
    OrderFree (fun candidates =>
      (resolveCardMatch text title pcTcgplayerId setMethod tcgVotes candidates).map
        CardMatch.outcome) candidates ↔
    ∀ first second,
      IsLowest collectorInt (finalists text title pcTcgplayerId candidates).1 first →
      IsLowest collectorInt (finalists text title pcTcgplayerId candidates).1 second →
      (matchOf text title pcTcgplayerId setMethod tcgVotes
        (finalists text title pcTcgplayerId candidates).2 first).outcome =
      (matchOf text title pcTcgplayerId setMethod tcgVotes
        (finalists text title pcTcgplayerId candidates).2 second).outcome := by
  rw [← (selects_finalists.chooses collectorInt).orderFree_iff fun w =>
    (matchOf text title pcTcgplayerId setMethod tcgVotes
      (finalists text title pcTcgplayerId candidates).2 w).outcome]
  refine orderFree_congr fun other hperm => ?_
  rw [resolveCardMatch_eq, Option.map_map, signals_perm hperm]
  rfl

end Filters

/-! ## The fallback -/

section Fallback

variable (text : TextRules) (title : String) (pcTcgplayerId : Option String)

/-- The choice falls through to the lowest collector number: more than one candidate is left,
and not exactly one of them has the TCGPlayer id. -/
def FallsThrough (candidates : List Candidate) : Prop :=
  1 < (treated text title candidates).length ∧
    ((treated text title candidates).filter (hasTcgplayerId pcTcgplayerId)).length ≠ 1

/-- A choice that falls through is not certain, and does not link the card to the product. -/
def CapsCertainty (setMethod : String) (tcgVotes : Int) (candidates : List Candidate) : Prop :=
  FallsThrough text title pcTcgplayerId candidates →
    ∀ cardMatch,
      resolveCardMatch text title pcTcgplayerId setMethod tcgVotes candidates = some cardMatch →
      cardMatch.certainty ≤ certaintyOf .ambiguous ∧ cardMatch.registers = false

/-- Of a choice that falls through, the candidates with the lowest collector number are all one
card version, and none of them has the TCGPlayer id. -/
def LowestAgree (candidates : List Candidate) : Prop :=
  FallsThrough text title pcTcgplayerId candidates →
    (∀ first second, IsLowest collectorInt (treated text title candidates) first →
      IsLowest collectorInt (treated text title candidates) second →
      first.cardVersionId = second.cardVersionId) ∧
    ∀ row, IsLowest collectorInt (treated text title candidates) row →
      hasTcgplayerId pcTcgplayerId row = false

variable {text title pcTcgplayerId} {candidates : List Candidate}

theorem treated_eq :
    treated text title candidates =
      (byTreatment text title (byCollector text title candidates).1).1 := by
  rw [byTreatment_eq_filter, byCollector_eq_filter]
  rfl

/-- A choice that falls through is among the candidates left by the treatment. -/
theorem finalists_of_fallsThrough (hfalls : FallsThrough text title pcTcgplayerId candidates) :
    (finalists text title pcTcgplayerId candidates).1 = treated text title candidates := by
  have hunique : ¬ (1 < (treated text title candidates).length ∧
      ((treated text title candidates).filter (hasTcgplayerId pcTcgplayerId)).length = 1) :=
    fun hunique => hfalls.2 hunique.2
  simp only [finalists, ← treated_eq, byTcg, hunique, if_false]

/-- Any other choice is of one candidate. -/
theorem length_finalists_le (hnot : ¬ FallsThrough text title pcTcgplayerId candidates) :
    (finalists text title pcTcgplayerId candidates).1.length ≤ 1 := by
  simp only [finalists, ← treated_eq, byTcg]
  split_ifs with hunique
  · exact hunique.2.le
  · by_contra hmany
    exact hnot ⟨not_le.mp hmany, fun hone => hunique ⟨not_le.mp hmany, hone⟩⟩

theorem length_of_byCollector_snd (hpinned : (byCollector text title candidates).2) :
    (byCollector text title candidates).1.length = 1 := by
  unfold byCollector at hpinned ⊢
  split at hpinned
  · cases hpinned
  · cases hpinned
  · simp only at hpinned ⊢
    split_ifs at hpinned ⊢
    exact of_decide_eq_true hpinned

theorem length_treated_le :
    (treated text title candidates).length ≤ (byCollector text title candidates).1.length := by
  rw [byCollector_eq_filter]
  exact List.length_filter_le _ _

theorem signals_of_fallsThrough (hfalls : FallsThrough text title pcTcgplayerId candidates) :
    (finalists text title pcTcgplayerId candidates).2 = {
      nCandidates := candidates.length
      collectorPinned := false
      treatmentUsed := false
      tcgUsed := false
      ambiguous := true } := by
  have hmany := hfalls.1
  simp only [finalists, Signals.mk.injEq, true_and]
  refine ⟨?_, ?_, ?_, ?_⟩
  · rw [Bool.eq_false_iff]
    intro hpinned
    have hone := length_of_byCollector_snd hpinned
    have hle := @length_treated_le text title candidates
    omega
  · rw [byTreatment_snd, ← treated_eq, decide_eq_false_iff_not]
    omega
  · rw [byTcg_snd, ← treated_eq, decide_eq_false_iff_not]
    exact fun hunique => hfalls.2 hunique.2
  · have hsame := finalists_of_fallsThrough hfalls
    rw [finalists] at hsame
    rw [hsame]
    exact decide_eq_true hmany

theorem matchMethod_of_fallsThrough (hfalls : FallsThrough text title pcTcgplayerId candidates)
    (tcgConfirmed : Bool) :
    matchMethod text title (finalists text title pcTcgplayerId candidates).2 tcgConfirmed =
      if tcgConfirmed then .tcg else .ambiguous := by
  have hle : (treated text title candidates).length ≤ candidates.length :=
    length_treated_le.trans (byCollector_eq_filter ▸ List.length_filter_le _ _)
  have hmany : candidates.length ≠ 1 := by
    have hleft := hfalls.1
    omega
  rw [signals_of_fallsThrough hfalls]
  cases tcgConfirmed <;> simp [matchMethod, hmany]

/-- The certainty of a fallback is capped unless the id of the winner confirms it. -/
theorem matchCertainty_fallback (setMethod : String) (tcgVotes : Int) (tcgConfirmed : Bool) :
    matchCertainty setMethod tcgVotes (if tcgConfirmed then .tcg else .ambiguous) tcgConfirmed ≤
      certaintyOf .ambiguous ↔ tcgConfirmed = false := by
  cases tcgConfirmed with
  | false =>
    refine iff_of_true ?_ rfl
    simp only [matchCertainty, Bool.false_and, certaintyOf, Bool.false_eq_true, if_false]
    split_ifs <;> decide
  | true =>
    refine iff_of_false ?_ Bool.noConfusion
    simp only [matchCertainty, Bool.true_and, certaintyOf, if_true]
    split_ifs <;> decide

theorem outcome_of_fallsThrough (hfalls : FallsThrough text title pcTcgplayerId candidates)
    (setMethod : String) (tcgVotes : Int) (w : Candidate) :
    (matchOf text title pcTcgplayerId setMethod tcgVotes
      (finalists text title pcTcgplayerId candidates).2 w).outcome =
    (w.cardVersionId, if hasTcgplayerId pcTcgplayerId w then .tcg else .ambiguous,
      matchCertainty setMethod tcgVotes
        (if hasTcgplayerId pcTcgplayerId w then .tcg else .ambiguous)
        (hasTcgplayerId pcTcgplayerId w)) := by
  simp only [CardMatch.outcome, matchOf, matchMethod_of_fallsThrough hfalls]

theorem certainty_of_fallsThrough (hfalls : FallsThrough text title pcTcgplayerId candidates)
    (setMethod : String) (tcgVotes : Int) (w : Candidate) :
    (matchOf text title pcTcgplayerId setMethod tcgVotes
      (finalists text title pcTcgplayerId candidates).2 w).certainty ≤ certaintyOf .ambiguous ↔
    hasTcgplayerId pcTcgplayerId w = false := by
  simp only [matchOf, matchMethod_of_fallsThrough hfalls]
  exact matchCertainty_fallback setMethod tcgVotes _

theorem capsCertainty_of_none {setMethod : String} {tcgVotes : Int}
    (hnone : ∀ row, IsLowest collectorInt (treated text title candidates) row →
      hasTcgplayerId pcTcgplayerId row = false) :
    CapsCertainty text title pcTcgplayerId setMethod tcgVotes candidates := by
  intro hfalls cardMatch hmatch
  rw [resolveCardMatch_eq, finalists_of_fallsThrough hfalls] at hmatch
  obtain ⟨w, hhead, rfl⟩ := Option.map_eq_some_iff.mp hmatch
  have hcap := (certainty_of_fallsThrough hfalls setMethod tcgVotes w).mpr
    (hnone w (isLowest_of_head hhead))
  refine ⟨hcap, decide_eq_false ?_⟩
  exact not_le.mpr (lt_of_le_of_lt hcap (by decide))

theorem hasTcgplayerId_of_capsCertainty {setMethod : String} {tcgVotes : Int}
    (hfalls : FallsThrough text title pcTcgplayerId candidates)
    (hcaps : CapsCertainty text title pcTcgplayerId setMethod tcgVotes candidates) :
    ∃ w, IsLowest collectorInt (treated text title candidates) w ∧
      hasTcgplayerId pcTcgplayerId w = false := by
  have hne : treated text title candidates ≠ [] :=
    List.ne_nil_of_length_pos (Nat.zero_lt_of_lt hfalls.1)
  obtain ⟨w, hw⟩ : ∃ w,
      (sortByKey collectorInt (treated text title candidates)).head? = some w := by
    refine Option.isSome_iff_exists.mp (List.isSome_head?.mpr fun hnil => hne ?_)
    exact List.Perm.eq_nil (hnil ▸ (List.perm_insertionSort _ _).symm)
  refine ⟨w, isLowest_of_head hw, ?_⟩
  have hmatch := @resolveCardMatch_eq text title pcTcgplayerId candidates setMethod tcgVotes
  rw [finalists_of_fallsThrough hfalls, hw, Option.map_some] at hmatch
  exact (certainty_of_fallsThrough hfalls setMethod tcgVotes w).mp (hcaps hfalls _ hmatch).1

/-- The match does not depend on the order of the candidates, and a fallback is not certain, if
and only if the candidates with the lowest collector number among those left are one card
version, and none of them has the TCGPlayer id. -/
theorem lowestAgree_iff (text : TextRules) (title : String) (pcTcgplayerId : Option String)
    (setMethod : String) (tcgVotes : Int) (candidates : List Candidate) :
    (OrderFree (fun candidates =>
        (resolveCardMatch text title pcTcgplayerId setMethod tcgVotes candidates).map
          CardMatch.outcome) candidates ∧
      CapsCertainty text title pcTcgplayerId setMethod tcgVotes candidates) ↔
    LowestAgree text title pcTcgplayerId candidates := by
  rw [orderFree_resolveCardMatch_iff]
  by_cases hfalls : FallsThrough text title pcTcgplayerId candidates
  · simp only [finalists_of_fallsThrough hfalls, outcome_of_fallsThrough hfalls]
    constructor
    · rintro ⟨hsame, hcaps⟩ -
      obtain ⟨w, hw, hnone⟩ := hasTcgplayerId_of_capsCertainty hfalls hcaps
      refine ⟨fun first second hfirst hsecond => ?_, fun row hrow => ?_⟩
      · exact congrArg Prod.fst (hsame first second hfirst hsecond)
      · have hmethod := congrArg (fun outcome => outcome.2.1) (hsame row w hrow hw)
        simp only [hnone] at hmethod
        cases hhas : hasTcgplayerId pcTcgplayerId row with
        | false => rfl
        | true => simp [hhas] at hmethod
    · intro hagree
      obtain ⟨hids, hnone⟩ := hagree hfalls
      refine ⟨fun first second hfirst hsecond => ?_, capsCertainty_of_none hnone⟩
      rw [hids first second hfirst hsecond, hnone first hfirst, hnone second hsecond]
  · -- one candidate is left, or there was none
    refine iff_of_true ⟨fun first second hfirst hsecond => ?_, fun hfalse => absurd hfalse hfalls⟩
      fun hfalse => absurd hfalse hfalls
    have hsame : first = second := by
      obtain ⟨row, hrow⟩ := List.length_eq_one_iff.mp
        (le_antisymm (length_finalists_le hfalls) (List.length_pos_of_mem hfirst.1))
      rw [hrow] at hfirst hsecond
      exact (List.mem_singleton.mp hfirst.1).trans (List.mem_singleton.mp hsecond.1).symm
    rw [hsame]

/-- Texts of ASCII characters. -/
def asciiRules : TextRules where
  alphabet := {
    isWord := fun c => c.isAlphanum || c = '_'
    isSpace := Char.isWhitespace
    isDigit := Char.isDigit
    sameLetter := fun c d => c.toLower = d.toLower }
  lower := String.toLower

/-- A printing in two languages, which share their collector number and their TCGPlayer id. -/
def solRing (cardVersionId : String) : Candidate where
  cardVersionId
  cardName := "Sol Ring"
  collectorNumber := some "1"
  frameEffects := []
  borderColorName := "black"
  fullArt := false
  tcgplayerId := some "500"

/-- The printing that comes first is picked, and linked to the product. -/
theorem first_row_is_linked :
    (¬ OrderFree (fun candidates =>
        (resolveCardMatch asciiRules "Sol Ring #1" (some "500") "exact" 0 candidates).map
          CardMatch.outcome) [solRing "en", solRing "ja"]) ∧
    ¬ CapsCertainty asciiRules "Sol Ring #1" (some "500") "exact" 0
        [solRing "en", solRing "ja"] := by
  constructor
  · intro hfree
    exact absurd (hfree [solRing "ja", solRing "en"] (List.Perm.swap _ _ [])) (by decide)
  · intro hcaps
    have hcertain := (hcaps ⟨by decide, by decide⟩ _ rfl).1
    exact absurd hcertain (by decide)

end Fallback

end AutoMana.PriceCharting.Matching
