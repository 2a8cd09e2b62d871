import AutoMana.Relational.Text
import AutoMana.Relational.Waterfall
import AutoMana.Staging.Schema

/-!
# Resolving the card of a listing

Loading and retrying find the card version of a listing in the same way: five
mapping tables are built from the batch (print id, external identifiers, set and
collector number, art sets, token names), each is joined back on its own key, and
the first match in that order is taken.
-/

namespace AutoMana.Staging

open Relational Pricing

structure CardVersion where
  uniqueCardId : Nat
  setId : Nat
  collectorNumber : Option String
deriving DecidableEq, Repr

structure ScryfallMigration where
  migrationStrategy : String
  oldScryfallId : Uuid
  newScryfallId : Option Uuid
deriving DecidableEq

/-- The reference tables the resolution reads. -/
structure Catalogue where
  cardIdentifierRef : Table Nat String
  /-- `UNIQUE (identifier_name)` -/
  cardIdentifierRef_unique : (cardIdentifierRef.rows.map Prod.snd).Nodup
  /-- The value of each `(card_version_id, card_identifier_ref_id)`. -/
  cardExternalIdentifier : Table (CardVersionId × Nat) String
  scryfallMigration : List ScryfallMigration
  /-- The `set_code` of each set. -/
  sets : Table Nat String
  cardVersion : Table CardVersionId CardVersion
  /-- The `card_name` of each unique card. -/
  uniqueCardsRef : Table Nat String
  mtgstockArtSetMap : Table String String
  mtgstockTokenSetMap : Table String String

/-! ## The cards each method finds for one listing -/

/-- `card_identifier_ref JOIN card_external_identifier` on a name and a value. -/
def identified (catalogue : Catalogue) (name value : String) : List CardVersionId :=
  catalogue.cardIdentifierRef.rows.flatMap fun ref =>
    if ref.2 = name then
      (catalogue.cardExternalIdentifier.rows.filter fun row =>
        row.1.2 = ref.1 && row.2 = value).map (·.1.1)
    else []

def printCards (catalogue : Catalogue) (listing : Listing) : List CardVersionId :=
  identified catalogue "mtgstock_id" (toString listing.printId)

/-- The Scryfall ids a listing stands for: those its own was merged or moved
into, or its own. -/
def redirected (catalogue : Catalogue) (scryfallId : String) : List String :=
  (Waterfall.leftJoin (catalogue.scryfallMigration.filterMap fun migration =>
    if some migration.oldScryfallId = Uuid.parse? scryfallId ∧
        migration.migrationStrategy ∈ ["merge", "move"] then
      migration.newScryfallId
    else none)).map fun new => new.elim scryfallId Uuid.text

/-- The rows of `candidates`: priority, identifier name, and value. The retry
leaves out empty identifiers; the load leaves out only an empty `scryfall_id`. -/
def candidates (skipEmptyIds : Bool) (catalogue : Catalogue) (listing : Listing) :
    List (Nat × String × String) :=
  let given (id : Option String) (skipEmpty : Bool) :=
    id.toList.filter fun id => !(skipEmpty && id = "")
  (given listing.scryfallId true).flatMap
      (fun id => (redirected catalogue id).map (1, "scryfall_id", ·)) ++
    (given listing.tcgId skipEmptyIds).map (2, "tcgplayer_id", ·) ++
    (given listing.cardtraderId skipEmptyIds).map (3, "cardtrader_id", ·)

/-- The rows of `joined`, without the print id. -/
def externalCards (skipEmptyIds : Bool) (catalogue : Catalogue) (listing : Listing) :
    List (Nat × CardVersionId) :=
  (candidates skipEmptyIds catalogue listing).flatMap fun candidate =>
    (identified catalogue candidate.2.1 candidate.2.2).map (candidate.1, ·)

/-- `sets JOIN card_version`. -/
def cardsIn (catalogue : Catalogue) (inSet : String → Bool) (isCard : CardVersion → Bool) :
    List CardVersionId :=
  catalogue.sets.rows.flatMap fun set =>
    if inSet set.2 then
      (catalogue.cardVersion.rows.filter fun card => card.2.setId = set.1 && isCard card.2).map
        Prod.fst
    else []

/-- The name filter of the fallback. -/
def nameAgrees (locale : TextLocale) (cardName uniqueName : Option String) : Bool :=
  match cardName, uniqueName with
  | some cardName, some uniqueName =>
    locale.lower uniqueName = locale.lower cardName ||
      Text.like (locale.lower uniqueName ++ " (%").toList (locale.lower cardName).toList
  | _, _ => true

def fallbackCards (locale : TextLocale) (catalogue : Catalogue) (listing : Listing) :
    List CardVersionId :=
  match listing.setAbbr, listing.collectorNumber with
  | some setAbbr, some collectorNumber =>
    cardsIn catalogue (fun setCode => locale.lower setCode = locale.lower setAbbr) fun card =>
      card.collectorNumber = some collectorNumber &&
        nameAgrees locale listing.cardName (catalogue.uniqueCardsRef.get? card.uniqueCardId)
  | _, _ => []

def artCards (locale : TextLocale) (catalogue : Catalogue) (listing : Listing) :
    List CardVersionId :=
  match listing.setAbbr, listing.collectorNumber with
  | some setAbbr, some collectorNumber =>
    match catalogue.mtgstockArtSetMap.get? (locale.upper setAbbr) with
    | some scryfallSetCode =>
      cardsIn catalogue (· = scryfallSetCode) fun card =>
        card.collectorNumber = some collectorNumber
    | none => []
  | _, _ => []

/-- `regexp_replace(name, '\s*(Token|Double-Sided Token)$', '', 'i')` -/
def stripToken (locale : TextLocale) : List Char → List Char
  | [] => []
  | c :: rest =>
    let tail := ((c :: rest).dropWhile locale.isSpace).map Char.toLower
    if tail = "token".toList ∨ tail = "double-sided token".toList then []
    else c :: stripToken locale rest

/-- The name of a token is that of one of the two faces of the listing. -/
def tokenNameMatches (locale : TextLocale) (cardName uniqueName : String) : Bool :=
  let stripped := stripToken locale cardName.toList
  let front := Text.splitPart1 " // ".toList stripped
  let back := Text.splitPart2 " // ".toList stripped
  Text.ilike locale (String.ofList front) uniqueName ||
    (back ≠ [] && Text.ilike locale (String.ofList back) uniqueName)

def tokenCards (locale : TextLocale) (catalogue : Catalogue) (listing : Listing) :
    List CardVersionId :=
  match listing.setAbbr, listing.collectorNumber, listing.cardName with
  | some setAbbr, none, some cardName =>
    match catalogue.mtgstockTokenSetMap.get? (locale.upper setAbbr) with
    | some tokenSetCode =>
      cardsIn catalogue (· = tokenSetCode) fun card =>
        (catalogue.uniqueCardsRef.get? card.uniqueCardId).any (tokenNameMatches locale cardName)
    | none => []
  | _, _, _ => []

/-! ## The mapping tables of a batch -/

def printKey (listing : Listing) : Option Int := some listing.printId

/-- The join key of the fallback; a null part joins nothing. -/
def setCollectorKey (listing : Listing) : Option (String × String) := do
  return (← listing.setAbbr, ← listing.collectorNumber)

/-- Every listing has a print id. -/
theorem printCards_of_null (cardsOf : Listing → List CardVersionId) (row : Listing)
    (hnull : printKey row = none) : cardsOf row = [] := by
  cases hnull

theorem fallbackCards_of_null (locale : TextLocale) (catalogue : Catalogue) (row : Listing)
    (hnull : setCollectorKey row = none) : fallbackCards locale catalogue row = [] := by
  rcases hset : row.setAbbr with _ | setAbbr
  · simp [fallbackCards, hset]
  · rcases hnumber : row.collectorNumber with _ | collectorNumber
    · simp [fallbackCards, hset, hnumber]
    · simp [setCollectorKey, hset, hnumber] at hnull

def mapPrint (catalogue : Catalogue) (rows : List Listing) : List (Int × CardVersionId) :=
  mappingTable printKey (printCards catalogue) rows

def mapFallback (locale : TextLocale) (catalogue : Catalogue) (rows : List Listing) :
    List ((String × String) × CardVersionId) :=
  mappingTable setCollectorKey (fallbackCards locale catalogue) rows

def mapArt (locale : TextLocale) (catalogue : Catalogue) (rows : List Listing) :
    List (Int × CardVersionId) :=
  mappingTable printKey (artCards locale catalogue) rows

/-- `SELECT DISTINCT ON (print_id) ... ORDER BY print_id, card_version_id` -/
def mapToken (locale : TextLocale) (catalogue : Catalogue) (rows : List Listing) :
    Table Int CardVersionId :=
  Table.groupBy Prod.fst (fun group => (group.map Prod.snd).min?)
    (rows.flatMap fun listing =>
      (tokenCards locale catalogue listing).map (listing.printId, ·))

/-- The cards of the best priority that has any. -/
def tied (joined : List (Nat × CardVersionId)) : List CardVersionId :=
  match (joined.map Prod.fst).min? with
  | none => []
  | some best => (joined.filter (·.1 = best)).map Prod.snd

theorem tied_eq_nil_iff (joined : List (Nat × CardVersionId)) : tied joined = [] ↔ joined = [] := by
  unfold tied
  cases hbest : (joined.map Prod.fst).min? with
  | none => simpa using hbest
  | some best =>
      obtain ⟨candidate, hmem, hprio⟩ := List.mem_map.mp (List.min?_mem hbest)
      refine iff_of_false ?_ (List.ne_nil_of_mem hmem)
      exact List.ne_nil_of_mem (List.mem_map_of_mem
        (List.mem_filter.mpr ⟨hmem, decide_eq_true hprio⟩))

/-- The rows of `ranked` that may come first in the partition of a print id. -/
def bestExternal (skipEmptyIds : Bool) (catalogue : Catalogue) (rows : List Listing)
    (printId : Int) : List CardVersionId :=
  tied ((rows.filter (·.printId = printId)).flatMap (externalCards skipEmptyIds catalogue))

def IsOneOf {V : Type} (values : List V) : Option V → Prop
  | none => values = []
  | some value => value ∈ values

theorem IsOneOf.isSome_iff {V : Type} {values : List V} {value : Option V}
    (hone : IsOneOf values value) : value.isSome ↔ values ≠ [] := by
  cases value with
  | none => exact iff_of_false Bool.false_ne_true fun hne => hne hone
  | some value => exact iff_of_true rfl (List.ne_nil_of_mem hone)

/-- The mapping of external identifiers: `row_number() OVER (PARTITION BY
print_id ORDER BY prio) = 1`. Among tied rows the scan order decides. -/
structure ExternalMap (skipEmptyIds : Bool) (catalogue : Catalogue) (rows : List Listing) where
  chosen : Int → Option CardVersionId
  isOneOf : ∀ printId,
    IsOneOf (bestExternal skipEmptyIds catalogue rows printId) (chosen printId)

/-- The scan order that leaves the rows as they come. -/
def ExternalMap.inOrder (skipEmptyIds : Bool) (catalogue : Catalogue) (rows : List Listing) :
    ExternalMap skipEmptyIds catalogue rows where
  chosen := fun printId => (bestExternal skipEmptyIds catalogue rows printId).head?
  isOneOf := by
    intro printId
    cases hbest : bestExternal skipEmptyIds catalogue rows printId with
    | nil => rfl
    | cons first rest => exact List.mem_cons_self

/-! ## The waterfall -/

inductive Method where
  | printId
  | externalId
  | setCollector
  | artCard
  | tokenName
deriving DecidableEq, Repr

/-- `resolution_method` -/
def Method.text : Method → String
  | .printId => "PRINT_ID"
  | .externalId => "EXTERNAL_ID"
  | .setCollector => "SET_COLLECTOR"
  | .artCard => "ART_CARD"
  | .tokenName => "TOKEN_NAME"

/-- The resolved card and its method, or `UNRESOLVED`. -/
abbrev Resolution := Option (CardVersionId × Method)

variable (skipEmptyIds : Bool) (locale : TextLocale) (catalogue : Catalogue)

/-- What the five mapping tables give a listing. `printRows` are the rows the
print-id map is built from, `rows` those the other maps are built from. -/
def cardMatches (printRows rows : List Listing)
    (external : ExternalMap skipEmptyIds catalogue rows) (listing : Listing) :
    List (Method × List CardVersionId) :=
  [(.printId, mappedTo (mapPrint catalogue printRows) (printKey listing)),
    (.externalId, (external.chosen listing.printId).toList),
    (.setCollector, mappedTo (mapFallback locale catalogue rows) (setCollectorKey listing)),
    (.artCard, mappedTo (mapArt locale catalogue rows) (printKey listing)),
    (.tokenName, ((mapToken locale catalogue rows).get? listing.printId).toList)]

/-- The rows of `tmp_resolved` a listing becomes. -/
def resolve (printRows rows : List Listing)
    (external : ExternalMap skipEmptyIds catalogue rows) (listing : Listing) : List Resolution :=
  Waterfall.resolutions (cardMatches skipEmptyIds locale catalogue printRows rows external listing)

/-- A row that shares a key with the listing finds something. -/
def SharingFinds {K V : Type} (keyOf : Listing → Option K) (valuesOf : Listing → List V)
    (rows : List Listing) (listing : Listing) : Prop :=
  ∃ row ∈ rows, keyOf row = keyOf listing ∧ valuesOf row ≠ []

/-- Some method finds a card for a listing, by itself or by a row of the batch that
shares the key of the method. -/
def FindsCard (rows : List Listing) (listing : Listing) : Prop :=
  printCards catalogue listing ≠ [] ∨
    SharingFinds printKey (externalCards skipEmptyIds catalogue) rows listing ∨
    SharingFinds setCollectorKey (fallbackCards locale catalogue) rows listing ∨
    SharingFinds printKey (artCards locale catalogue) rows listing ∨
    SharingFinds printKey (tokenCards locale catalogue) rows listing

/-- A cast `NULLIF(scryfall_id,'')::uuid` of the batch raises. -/
def malformedScryfallId (rows : List Listing) : Bool :=
  rows.any fun listing =>
    listing.scryfallId.any fun id => id ≠ "" && (Uuid.parse? id).isNone

end AutoMana.Staging
