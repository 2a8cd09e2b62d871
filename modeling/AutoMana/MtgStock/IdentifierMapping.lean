import AutoMana.Json
import AutoMana.Pricing.Schema
import AutoMana.Relational.Batches
import AutoMana.Relational.Dict
import AutoMana.Relational.Slices
import AutoMana.Relational.Text

/-!
# build_mtgstock_id_mapping

The mapping reads the prints of `existing_ids.json` in batches and resolves each batch in
three steps: by Scryfall id, by TCGPlayer id, and by set and collector number. A step
inverts the identifiers of its batch into a dictionary, which keeps one print per
identifier, and a card keeps the first print that is inserted for it.
-/

namespace AutoMana.MtgStock

open Relational Pricing

/-! ## Reading info.json -/

/-- An entry of `id_data`. -/
structure IdData where
  printId : Int
  scryfallId : Option String
  tcgId : Option String
  setAbbr : Option String
  collectorNumber : String

/-- A text, or nothing; `none` for what raises when it is looked up. -/
def text? (value : Json) : Option (Option String) :=
  match value with
  | .str text => some (some text)
  | other => if other.truthy then none else some none

/-- `(card_set or {}).get("abbreviation")` -/
def abbreviation? (cardSet : Json) : Option Json :=
  if cardSet.truthy then cardSet.get? "abbreviation" .null else some .null

/-- The entry of a print; `none` when reading it raises. -/
def idData? (toStr : Json → String) (printId : Int) (info : Json) : Option IdData := do
  let scryfallId ← (info.get? "scryfallId" .null).bind text?
  let tcgId ← info.get? "tcg_id" .null
  let cardSet ← info.get? "card_set" .null
  let setAbbr ← (abbreviation? cardSet).bind text?
  let collectorNumber ← info.get? "collector_number" (.str "")
  return {
    printId
    scryfallId
    tcgId := if tcgId.truthy then some (toStr tcgId) else none
    setAbbr
    collectorNumber := toStr collectorNumber }

/-- A text that counts as true. -/
def nonempty (text : Option String) : Option String := text.filter (· ≠ "")

def IdData.pair? (data : IdData) : Option (String × String) := do
  let abbr ← nonempty data.setAbbr
  let number ← nonempty (some data.collectorNumber)
  return (abbr, number)

/-! ## The catalogue -/

/-- What the mapping reads and does not write. -/
structure Catalogue where
  cardIdentifierRef : Table Nat String
  /-- `UNIQUE (identifier_name)` -/
  identifierName_unique : (cardIdentifierRef.rows.map Prod.snd).Nodup
  mtgstockRefId : Nat
  mtgstock_seeded : cardIdentifierRef.get? mtgstockRefId = some "mtgstock_id"
  sets : Table Nat String
  /-- The `set_id` and the `collector_number` of each card version. -/
  cardVersion : Table CardVersionId (Nat × Option String)
  locale : TextLocale
  /-- `str.lower` -/
  lower : String → String
  /-- A value of an identifier as an integer; `none` when the cast raises. -/
  castInt : String → Option Int
  toStr : Json → String

/-- `card_external_identifier` -/
abbrev ExternalIdentifiers := Table (CardVersionId × Nat) String

section Fetch

variable (catalogue : Catalogue)

/-- The rows of an identifier that have one of the values. -/
def identifierRows (name : String) (external : ExternalIdentifiers) (values : List String) :
    List (String × CardVersionId) :=
  (external.rows.filter fun row =>
    catalogue.cardIdentifierRef.get? row.1.2 = some name ∧ row.2 ∈ values).map
      fun row => (row.2, row.1.1)

/-- `fetch_by_scryfall` and `fetch_by_tcgplayer` -/
def fetchByIdentifier (name : String) (external : ExternalIdentifiers) (values : List String) :
    Table String CardVersionId :=
  Table.ofPairs (identifierRows catalogue name external values)

/-- `card_version JOIN sets`, by the lower-case set code and the collector number. -/
def printings : List ((String × String) × CardVersionId) :=
  catalogue.cardVersion.rows.filterMap fun row => do
    let setCode ← catalogue.sets.get? row.2.1
    let number ← row.2.2
    return ((catalogue.locale.lower setCode, number), row.1)

def fetchBySetCollector (pairs : List (String × String)) : Table (String × String) CardVersionId :=
  let setAbbrs := pairs.map fun pair => catalogue.lower pair.1
  let lookup := Table.ofPairs ((printings catalogue).filter fun row => row.1.1 ∈ setAbbrs)
  Table.ofPairs (pairs.filterMap fun pair =>
    (lookup.get? (catalogue.lower pair.1, pair.2)).map (pair, ·))

end Fetch

/-! ## Resolving a batch -/

section Steps

variable {K : Type} [DecidableEq K]

/-- The entries a step looks at. -/
def remaining (data : List IdData) (resolved : Table Int CardVersionId) : List IdData :=
  data.filter fun d => (resolved.get? d.printId).isNone

/-- The identifiers of the entries, each with its print. -/
def printOf (keyOf : IdData → Option K) (data : List IdData) : Table K Int :=
  Table.ofPairs (data.filterMap fun d => (keyOf d).map (·, d.printId))

/-- The prints that a step finds, in the order of their matches. -/
def found (keyOf : IdData → Option K) (fetch : List K → Table K CardVersionId)
    (data : List IdData) : List (Int × CardVersionId) :=
  let lookup := printOf keyOf data
  (fetch (lookup.rows.map Prod.fst)).rows.filterMap fun row =>
    (lookup.get? row.1).map (·, row.2)

/-- One step, which assigns its matches to the prints it accepts. -/
def resolveStep (keyOf : IdData → Option K) (fetch : List K → Table K CardVersionId)
    (accepts : Table Int CardVersionId → Int → Bool) (data : List IdData)
    (resolved : Table Int CardVersionId) : Table Int CardVersionId :=
  (found keyOf fetch (remaining data resolved)).foldl
    (fun dict entry => if accepts dict entry.1 then dict.set entry.1 entry.2 else dict) resolved

end Steps

section Batch

variable (catalogue : Catalogue)

/-- Step 1: scryfall_id -/
def resolveScryfall (external : ExternalIdentifiers) :=
  resolveStep (fun d => nonempty d.scryfallId) (fetchByIdentifier catalogue "scryfall_id" external)
    fun _ _ => true

/-- Step 2: tcgplayer_id -/
def resolveTcgplayer (external : ExternalIdentifiers) :=
  resolveStep (fun d => nonempty d.tcgId) (fetchByIdentifier catalogue "tcgplayer_id" external)
    fun _ _ => true

/-- Step 3: set_abbr + collector_number -/
def resolveSetCollector :=
  resolveStep IdData.pair? (fetchBySetCollector catalogue)
    fun resolved printId => printId ≠ 0 && (resolved.get? printId).isNone

/-- The card of each print of a batch that is resolved. -/
def resolveBatch (external : ExternalIdentifiers) (data : List IdData) :
    Table Int CardVersionId :=
  resolveSetCollector catalogue data
    (resolveTcgplayer catalogue external data (resolveScryfall catalogue external data .empty))

/-! ## The run -/

/-- `ON CONFLICT DO NOTHING` -/
def upsertMtgstockIdMappings (resolved : Table Int CardVersionId)
    (external : ExternalIdentifiers) : ExternalIdentifiers :=
  external.insertMissing (resolved.rows.map fun row =>
    ((row.2, catalogue.mtgstockRefId), toString row.1))

def getExistingMappedPrintIds (external : ExternalIdentifiers) : Option (List Int) :=
  (external.rows.filter fun row => row.1.2 = catalogue.mtgstockRefId).mapM
    fun row => catalogue.castInt row.2

/-- The files of the destination folder. -/
structure Folder where
  /-- `existing_ids.json` -/
  allIds : List Int
  /-- `info.json` of a print, if there is one. -/
  info : Int → Option Json

/-- The entry of a print, if it has a file; `none` when reading it raises. -/
def readInfo (folder : Folder) (printId : Int) : Option (Option IdData) :=
  match folder.info printId with
  | none => some none
  | some .null => some none
  | some info => (idData? catalogue.toStr printId info).map some

structure MapState where
  external : ExternalIdentifiers
  mapped : Nat
  unresolved : Int

/-- One round of the loop over the batches; `none` when it raises. -/
def mapBatch (folder : Folder) (state : MapState) (batchIds : List Int) : Option MapState := do
  let infoResults ← batchIds.mapM (readInfo catalogue folder)
  let idData := infoResults.reduceOption
  let missingInfo := infoResults.countP Option.isNone
  let resolved := resolveBatch catalogue state.external idData
  return {
    external := upsertMtgstockIdMappings catalogue resolved state.external
    mapped := state.mapped + resolved.rows.length
    unresolved := state.unresolved + missingInfo + (idData.length - resolved.rows.length) }

/-- The prints that are not mapped before a run; `none` when reading those that are raises. -/
def unmappedIds (folder : Folder) (external : ExternalIdentifiers) : Option (List Int) :=
  (getExistingMappedPrintIds catalogue external).map fun existing =>
    folder.allIds.filter (· ∉ existing)

/-- A run; `none` when it raises. -/
def buildMtgstockIdMapping (folder : Folder) (batchSize : Nat) (external : ExternalIdentifiers) :
    Option MapState := do
  let unmapped ← unmappedIds catalogue folder external
  (unmapped.toChunks batchSize).foldlM (mapBatch catalogue folder) ⟨external, 0, 0⟩

end Batch

end AutoMana.MtgStock
