import AutoMana.CardCatalog.Schema
import AutoMana.Relational.Distinct
import AutoMana.Relational.Statements

/-!
# Imports of sets and cards

`insert_batch_sets` and `insert_batch_card_versions` take each record in a block of its own. What
`insert_full_card_version` does to the tables of a card, of its version and of its art is said
apart, in the order of its statements for each of them.
-/

namespace AutoMana.CardCatalog

open Relational Statement

/-- A text that is stored in a `VARCHAR` column. -/
def varchar (limit : Nat) (text : String) : Except Violation Unit :=
  check (text.length ≤ limit) .tooLong

/-- Every row of a link is inserted unless it is there. -/
def link {K : Type} [DecidableEq K] (table : Table K Unit) (rows : List K) : Table K Unit :=
  table.insertMissing (rows.map (·, ()))

/-! ## Sets -/

/-- `NULLIF(value, '')` -/
def nonEmpty (value : Option String) : Option String := value.filter (· ≠ "")

namespace Sets

def idOfCode (sets : Sets) (code : String) : Option String :=
  (sets.rows.rows.find? fun row => decide (row.2.setCode = code)).map Prod.fst

def idOfName (sets : Sets) (name : String) : Option String :=
  (sets.rows.rows.find? fun row => decide (row.2.setName = name)).map Prod.fst

/-- The name or the code is another set's. -/
def taken (sets : Sets) (record : NewSet) : Bool :=
  sets.rows.rows.any fun row => decide (row.1 ≠ record.setId) &&
    (decide (row.2.setName = record.setName) || decide (row.2.setCode = record.setCode))

/-- The upsert of `sets`. -/
def upsertSet (sets : Sets) (record : NewSet) : Except Violation Sets := do
  varchar 20 record.setType
  varchar 100 record.setName
  varchar 10 record.setCode
  check (sets.taken record = false) (.unique "sets")
  let row : SetRow := ⟨record.setName, record.setCode, record.setType, record.releasedAt,
    record.digital, record.nonfoilOnly, record.foilOnly,
    (nonEmpty record.parentSet).bind sets.idOfCode⟩
  pure { sets with rows := sets.rows.set record.setId row }

def linkIcon (sets : Sets) (record : NewSet) : Except Violation Sets :=
  match nonEmpty record.iconSvgUri with
  | none => pure sets
  | some uri => do
    varchar 500 uri
    pure { sets with icons := sets.icons.insertMissing [(record.setId, uri)] }

/-- What a record of `insert_batch_sets` does to the tables. -/
def insertSet (sets : Sets) (record : NewSet) : Except Violation Sets := do
  let sets ← sets.upsertSet record
  sets.linkIcon record

end Sets

/-! ## What is read of a card -/

namespace Card

variable (card : Card)

/-- The formats whose status is not `not_legal`; `NULL` is no such status. -/
def legalFormats : List (String × String) :=
  card.legalities.rows.filterMap fun row => (row.2.filter (· ≠ "not_legal")).map (row.1, ·)

/-- The identifiers of a card in the order of the `UNION ALL`. -/
def identifiers : List (Identifier × String) :=
  (card.scryfallId.map (Identifier.scryfallId, ·)).toList ++
    (card.oracleId.map (Identifier.oracleId, ·)).toList ++
    card.multiverseIds.map (fun id => (Identifier.multiverseId, toString id)) ++
    (card.tcgplayerId.map fun id => (Identifier.tcgplayerId, toString id)).toList ++
    (card.tcgplayerEtchedId.map fun id => (Identifier.tcgplayerEtchedId, toString id)).toList ++
    (card.cardmarketId.map fun id => (Identifier.cardmarketId, toString id)).toList

def stats : List (Stat × String) :=
  (card.power.map (Stat.power, ·)).toList ++ (card.toughness.map (Stat.toughness, ·)).toList ++
    (card.loyalty.map (Stat.loyalty, ·)).toList ++ (card.defense.map (Stat.defense, ·)).toList

/-- The codes of `card_finished` that match, whatever their case. -/
def finishIds : List String :=
  card.finishes.filterMap fun code => finishCodes.find? fun stored =>
    decide (stored.toUpper = code.toUpper)

end Card

/-! ## The card -/

section Procedure

variable (uuids : Uuids) (card : Card)

namespace Cards

/-- The id of the card with the name; a new one if there is none. -/
def idOf (cards : Cards) (name : String) : String :=
  match cards.refs.get? name with
  | some row => row.uniqueCardId
  | none => uuids.generate (cards.refs.rows.map fun row => row.2.uniqueCardId)

/-- `INSERT INTO unique_cards_ref` -/
def insertCard (cards : Cards) : Except Violation Cards := do
  card.manaCost.forM (varchar 50)
  let row : UniqueCard := ⟨cards.idOf uuids card.cardName, card.cmc, card.manaCost, card.reserved⟩
  pure { cards with refs := cards.refs.insertMissing [(card.cardName, row)] }

/-- The loop over the types of one category. -/
def insertTypes (cards : Cards) (cardId : String) (category : TypeCategory) (types : List String) :
    Except Violation Cards := do
  types.forM (varchar 20)
  pure { cards with
    types := cards.types.insertMissing (types.map fun type => ((cardId, type), category)) }

/-- The three loops over types, of a card without faces or of a face. -/
def insertTypeLine (cards : Cards) (cardId : String) (supertypes types subtypes : List String) :
    Except Violation Cards := do
  let cards ← cards.insertTypes cardId .supertype supertypes
  let cards ← cards.insertTypes cardId .type types
  cards.insertTypes cardId .subtype subtypes

/-- The loop over the colors. -/
def insertColors (cards : Cards) (cardId : String) : Except Violation Cards := do
  card.colors.forM (varchar 20)
  pure { cards with colorIdentity := link cards.colorIdentity (card.colors.map (cardId, ·)) }

/-- The loop over the keywords. -/
def insertKeywords (cards : Cards) (cardId : String) : Except Violation Cards :=
  match card.keywords with
  | none => .error .scalar
  | some keywords => do
    keywords.forM (varchar 50)
    pure { cards with keywords := link cards.keywords (keywords.map (cardId, ·)) }

end Cards

/-- The loop over the legalities. -/
def Cards.insertLegalities (cards : Cards) (cardId : String) : Except Violation Cards := do
  card.legalFormats.forM fun legal => do
    varchar 20 legal.2
    varchar 20 legal.1
  pure { cards with
    legalities := cards.legalities.insertMissing
      (card.legalFormats.map fun legal => ((cardId, legal.1), legal.2)) }

/-! ## The version -/

namespace Versions

/-- The version of a printing; a new id if there is none. -/
def idOf (versions : Versions) (printing : Printing) : String :=
  match versions.rows.rows.find? fun row => decide (row.2.printing = printing) with
  | some row => row.1
  | none => uuids.generate (versions.rows.rows.map Prod.fst)

/-- `INSERT INTO card_version`, with the texts that are numbered before it. The set of a version
that is there was stored when the version was. -/
def insertVersion (versions : Versions) (sets : Sets) (printing : Printing) :
    Except Violation Versions := do
  varchar 20 card.rarityName
  varchar 20 card.borderColor
  varchar 20 card.frameYear
  varchar 50 card.layoutName
  varchar 50 printing.collectorNumber
  varchar 5 printing.lang
  if (versions.rows.rows.find? fun row => decide (row.2.printing = printing)).isSome then
    pure versions
  else do
    check ((sets.rows.get? printing.setId).isSome) (.foreignKey "set_id")
    let row : CardVersion := ⟨printing, card.oracleText, card.rarityName, card.borderColor,
      card.frameYear, card.layoutName, card.isPromo, card.isDigital, card.oversized, card.fullArt,
      card.textless, card.booster, card.variation, false, card.frameEffects, card.cardBackId⟩
    pure { versions with rows := versions.rows.set (versions.idOf uuids printing) row }

/-- The external identifiers, the stats, the promo types and the finishes of a version. -/
def withAttributes (versions : Versions) (versionId : String) : Versions where
  rows := versions.rows
  externalIds := versions.externalIds.insertMissing
    (card.identifiers.map fun entry => ((versionId, entry.1), entry.2))
  stats := versions.stats.insertMissing
    (card.stats.map fun entry => ((versionId, entry.1), entry.2))
  promos := link versions.promos (card.promoTypes.map (versionId, ·))
  finishes := link versions.finishes (card.finishIds.map (versionId, ·))
  games := versions.games

/-- `UPDATE card_version SET is_multifaced = true` -/
def setMultifaced (versions : Versions) (versionId : String) : Versions where
  rows := versions.rows.mapValues fun id row =>
    if id = versionId then { row with isMultifaced := true } else row
  externalIds := versions.externalIds
  stats := versions.stats
  promos := versions.promos
  finishes := versions.finishes
  games := versions.games

/-- The loop over the games. -/
def insertGames (versions : Versions) (versionId : String) : Except Violation Versions := do
  card.games.forM (varchar 20)
  pure { versions with games := link versions.games (card.games.map (versionId, ·)) }

end Versions

/-! ## The art -/

namespace Art

variable (art : Art) (versionId : String)

/-- The artist of a card without faces: an id and a name are stored under the id, a name alone
under the name, and the artist that the schema stores stands for none. -/
def resolveArtist : Except Violation (String × Art) :=
  match card.artistIds.head?, card.artist.head? with
  | some artistId, some name => do
    varchar 255 name
    if (art.artists.get? artistId).isSome then pure (artistId, art)
    else do
      check (art.artists.keyOf name = none) (.unique "artists_ref_artist_name_key")
      pure (artistId, { art with artists := art.artists.set artistId name })
  | none, some name => do
    varchar 255 name
    match art.artists.keyOf name with
    | some artistId => pure (artistId, art)
    | none =>
      let artistId := uuids.generate (art.artists.rows.map Prod.fst)
      pure (artistId, { art with artists := art.artists.set artistId name })
  | some artistId, none => pure (artistId, art)
  | none, none => pure (unknownArtist, art)

/-- `INSERT INTO illustration_artist` -/
def insertIllustrationArtist (illustrationId artistId : String) : Except Violation Art := do
  check ((art.artists.get? artistId).isSome) (.foreignKey "artist_id")
  pure { art with
    illustrationArtists := link art.illustrationArtists [(illustrationId, artistId)] }

/-- `INSERT INTO card_version_illustration`, unless the version has this illustration. -/
def insertVersionIllustration (illustrationId : String) : Except Violation Art :=
  match art.versionIllustrations.get? versionId with
  | some row => do
    check (row.illustrationId = illustrationId) (.unique "card_version_illustration_pkey")
    pure art
  | none => pure { art with
      versionIllustrations :=
        art.versionIllustrations.set versionId ⟨illustrationId, card.imageUris⟩ }

/-- The art of a card without faces. -/
def insertSingleFaced : Except Violation Art := do
  let (artistId, art) ← art.resolveArtist uuids card
  match card.illustrationId with
  | none => .error (.notNull "illustration_id")
  | some illustrationId => do
    let art := { art with
      illustrations := art.illustrations.insertMissing [(illustrationId, none)] }
    let art ← art.insertIllustrationArtist illustrationId artistId
    art.insertVersionIllustration card versionId illustrationId

/-- The illustration of a card with faces, which is that of its front face if it has none. -/
def insertFrontIllustration : Art :=
  match card.illustrationId.or (card.cardFaces.head?.bind CardFace.illustrationId) with
  | none => art
  | some illustrationId =>
    let imageUris := match card.imageUris with
      | .dict (_ :: _) => card.imageUris
      | _ => (card.cardFaces.head?.map CardFace.imageUris).getD .null
    { art with
      illustrations := art.illustrations.insertMissing [(illustrationId, none)]
      versionIllustrations :=
        art.versionIllustrations.insertMissing [(versionId, ⟨illustrationId, imageUris⟩)] }

/-- A face that is there; `NULL` is the index of none. -/
def faceOf (faceIndex : Option Int) : Option String :=
  (art.faces.rows.find? fun row => decide (row.2.cardVersionId = versionId) &&
    faceIndex.isSome && decide (row.2.faceIndex = faceIndex)).map Prod.fst

/-- The illustration of a face. -/
def insertFaceIllustration (faceId : String) (face : CardFace) : Except Violation Art :=
  match face.illustrationId with
  | none => pure art
  | some illustrationId => do
    face.artist.forM (varchar 255)
    match face.artistId, face.artist with
    | none, _ => .error (.notNull "artist_id")
    | some _, none => .error (.notNull "artist_name")
    | some artistId, some name => do
      let art := { art with artists := art.artists.insertDistinct artistId name }
      let art := { art with
        illustrations := art.illustrations.set illustrationId (some face.imageUris) }
      let art ← art.insertIllustrationArtist illustrationId artistId
      pure { art with
        faceIllustrations := link art.faceIllustrations [(faceId, illustrationId)] }

/-- A face with its illustration. -/
def insertFace (face : CardFace) : Except Violation Art := do
  face.faceIndex.forM fun index =>
    check (-2147483648 ≤ index ∧ index < 2147483648) Violation.outOfRange
  match art.faceOf versionId face.faceIndex with
  | some faceId => art.insertFaceIllustration faceId face
  | none =>
    let faceId := uuids.generate (art.faces.rows.map Prod.fst)
    let row : FaceRow := ⟨versionId, face.faceIndex, face.name, face.manaCost, face.typeLine,
      face.oracleText, face.power, face.toughness, face.flavorText⟩
    { art with faces := art.faces.set faceId row }.insertFaceIllustration faceId face

end Art

/-! ## The procedure -/

/-- A round of the loop over the faces. -/
def insertFace (cardId versionId : String) (state : Cards × Art) (face : CardFace) :
    Except Violation (Cards × Art) := do
  let art ← state.2.insertFace uuids versionId face
  let cards ← state.1.insertTypeLine cardId face.supertypes face.types face.subtypes
  pure (cards, art)

/-- The types and the art of a card without faces, or the loop over the faces. -/
def insertTypesAndArt (cardId versionId : String) (cards : Cards) (versions : Versions)
    (art : Art) : Except Violation (Cards × Versions × Art) :=
  match card.cardFaces with
  | [] => do
    let cards ← cards.insertTypeLine cardId card.supertypes card.types card.subtypes
    let art ← art.insertSingleFaced uuids card versionId
    pure (cards, versions, art)
  | faces => do
    let (cards, art) ← faces.foldlM (insertFace uuids cardId versionId)
      (cards, art.insertFrontIllustration card versionId)
    pure (cards, versions.setMultifaced versionId, art)

/-- `insert_full_card_version` -/
def insertFullCardVersion (catalog : Catalog) : Except Violation (String × Catalog) := do
  let cardId := catalog.cards.idOf uuids card.cardName
  let cards ← catalog.cards.insertCard uuids card
  let setId := (catalog.sets.idOfName card.setName).getD missingSet
  let printing : Printing := ⟨cardId, setId, card.collectorNumber, card.lang.getD "en"⟩
  let versionId := catalog.versions.idOf uuids printing
  let versions ← catalog.versions.insertVersion uuids card catalog.sets printing
  let (cards, versions, art) ← insertTypesAndArt uuids card cardId versionId cards
    (versions.withAttributes card versionId) catalog.art
  let versions ← versions.insertGames card versionId
  let cards ← cards.insertColors card cardId
  let cards ← cards.insertKeywords card cardId
  let cards ← cards.insertLegalities card cardId
  pure (versionId, ⟨catalog.sets, cards, versions, art⟩)

end Procedure

/-! ## Batches -/

/-- `CreateCard.model_dump_for_sql`, as the batch casts it: a card without an illustration is
sent a list in its place, which is no UUID. -/
def CreateCard.modelDumpForSql (card : CreateCard) : Except Violation Card :=
  match card.illustrationId with
  | none => .error .invalidUuid
  | some _ => .ok { card.toCard with
      artistIds :=
        if card.artistIds = [] then ["00000000-0000-0000-0000-000000000000"] else card.artistIds
      finishes := if card.finishes = [] then ["nonfoil"] else card.finishes
      lang := some ((nonEmpty card.lang).getD "en") }

section Batches

variable (uuids : Uuids)

/-- A card of a batch. -/
def importCard (catalog : Catalog) (card : CreateCard) : Except Violation (String × Catalog) := do
  let card ← card.modelDumpForSql
  insertFullCardVersion uuids card catalog

structure CardsReply where
  totalProcessed : Nat
  successfulInserts : Nat
  failedInserts : Nat
  skippedInserts : Nat
  insertedCardIds : List String
  /-- The name, the error and the index of a card. -/
  errorDetails : List (String × Violation × Nat)

def CardsReply.processed (reply : CardsReply) : Except Violation (String × Catalog) → String →
    CardsReply
  | .ok (versionId, _), _ => { reply with
      totalProcessed := reply.totalProcessed + 1
      successfulInserts := reply.successfulInserts + 1
      insertedCardIds := reply.insertedCardIds ++ [versionId] }
  | .error error, cardName =>
    if error = .unique "card_version_unique_per_print" then { reply with
      totalProcessed := reply.totalProcessed + 1
      skippedInserts := reply.skippedInserts + 1 }
    else { reply with
      totalProcessed := reply.totalProcessed + 1
      failedInserts := reply.failedInserts + 1
      errorDetails := reply.errorDetails ++ [(cardName, error, reply.totalProcessed + 1)] }

/-- `insert_batch_card_versions` -/
def insertBatchCardVersions (catalog : Catalog) (cards : List CreateCard) : CardsReply × Catalog :=
  cards.foldl (fun state card =>
    let result := importCard uuids state.2 card
    (state.1.processed result card.cardName, (result.toOption.map Prod.snd).getD state.2))
    (⟨0, 0, 0, 0, [], []⟩, catalog)

structure SetsReply where
  totalSets : Nat
  successfulInserts : Nat
  failedInserts : Nat
  insertedSetIds : List String
  /-- The name and the error of a set. -/
  errors : List (String × Violation)

/-- The name of a set in its error. -/
def NewSet.label (record : NewSet) : String :=
  ((nonEmpty (some record.setName)).or (nonEmpty (some record.setCode))).getD "unknown"

def SetsReply.failed (reply : SetsReply) (record : NewSet) (error : Violation) : SetsReply :=
  { reply with
    failedInserts := reply.failedInserts + 1
    errors := reply.errors ++ [(record.label, error)] }

/-- A set that is new is counted when it is inserted, even if the link of its icon raises. -/
def SetsReply.processed (reply : SetsReply) (sets : Sets) (record : NewSet) : SetsReply × Sets :=
  match sets.upsertSet record with
  | .error error => (reply.failed record error, sets)
  | .ok upserted =>
    let counted := if (sets.rows.get? record.setId).isSome then reply else { reply with
      successfulInserts := reply.successfulInserts + 1
      insertedSetIds := reply.insertedSetIds ++ [record.setId] }
    match upserted.linkIcon record with
    | .error error => (counted.failed record error, sets)
    | .ok linked => (counted, linked)

/-- `insert_batch_sets` -/
def insertBatchSets (sets : Sets) (records : List NewSet) : SetsReply × Sets :=
  records.foldl (fun state record => state.1.processed state.2 record)
    (⟨records.length, 0, 0, [], []⟩, sets)

end Batches

end AutoMana.CardCatalog
