import AutoMana.Json
import AutoMana.Relational.Dict

/-!
# The card catalogue

The tables that `insert_batch_sets` and `insert_full_card_version` write. A text that a table of
references numbers (a rarity, a border color, a format and so on) stands for its number, and a
table of links is its pairs.
-/

namespace AutoMana.CardCatalog

open Relational

/-! ## Records -/

/-- A record of `insert_batch_sets`, as `NewSet.model_dump_for_sql` makes it. -/
structure NewSet where
  setId : String
  setName : String
  setCode : String
  setType : String
  releasedAt : String
  digital : Bool
  nonfoilOnly : Bool
  foilOnly : Bool
  parentSet : Option String
  iconSvgUri : Option String

/-- An element of `p_card_faces`. -/
structure CardFace where
  faceIndex : Option Int
  name : String
  manaCost : Option String
  typeLine : Option String
  oracleText : Option String
  power : Option String
  toughness : Option String
  flavorText : Option String
  artist : Option String
  artistId : Option String
  illustrationId : Option String
  imageUris : Json
  supertypes : List String
  types : List String
  subtypes : List String

/-- The parameters of `insert_full_card_version`. What `jsonb_array_elements_text` reads is the
list of its elements, and `none` is the JSON `null`, which it does not accept. -/
structure Card where
  cardName : String
  cmc : Int
  manaCost : Option String
  reserved : Bool
  oracleText : String
  setName : String
  collectorNumber : String
  rarityName : String
  borderColor : String
  frameYear : String
  layoutName : String
  isPromo : Bool
  isDigital : Bool
  keywords : Option (List String)
  colors : List String
  artist : List String
  artistIds : List String
  /-- The statuses as `jsonb_each_text` reads them. -/
  legalities : Table String (Option String)
  illustrationId : Option String
  types : List String
  supertypes : List String
  subtypes : List String
  games : List String
  oversized : Bool
  booster : Bool
  fullArt : Bool
  textless : Bool
  power : Option String
  toughness : Option String
  loyalty : Option String
  defense : Option String
  promoTypes : List String
  variation : Bool
  cardFaces : List CardFace
  imageUris : Json
  finishes : List String
  frameEffects : List String
  lang : Option String
  scryfallId : Option String
  oracleId : Option String
  multiverseIds : List Int
  tcgplayerId : Option Int
  tcgplayerEtchedId : Option Int
  cardmarketId : Option Int
  cardBackId : Option String

/-- A card as `CreateCard` validates it. Its set is known by an id too, which is not sent. -/
structure CreateCard extends Card where
  setId : String

/-! ## Rows -/

structure SetRow where
  setName : String
  setCode : String
  setType : String
  releasedAt : String
  digital : Bool
  nonfoilOnly : Bool
  foilOnly : Bool
  parentSet : Option String

/-- A row of `unique_cards_ref` but for its name. -/
structure UniqueCard where
  uniqueCardId : String
  cmc : Int
  manaCost : Option String
  reserved : Bool

inductive TypeCategory where
  | type
  | subtype
  | supertype

/-- The columns of `card_version_unique_per_print`. -/
structure Printing where
  uniqueCardId : String
  setId : String
  collectorNumber : String
  lang : String
  deriving DecidableEq

structure CardVersion where
  printing : Printing
  oracleText : String
  rarityName : String
  borderColor : String
  frameYear : String
  layoutName : String
  isPromo : Bool
  isDigital : Bool
  isOversized : Bool
  fullArt : Bool
  textless : Bool
  booster : Bool
  variation : Bool
  isMultifaced : Bool
  frameEffects : List String
  cardBackId : Option String

/-- The names of `card_identifier_ref` that the import writes. -/
inductive Identifier where
  | scryfallId
  | oracleId
  | multiverseId
  | tcgplayerId
  | tcgplayerEtchedId
  | cardmarketId
  deriving DecidableEq

inductive Stat where
  | power
  | toughness
  | loyalty
  | defense
  deriving DecidableEq

structure FaceRow where
  cardVersionId : String
  faceIndex : Option Int
  name : String
  manaCost : Option String
  typeLine : Option String
  oracleText : Option String
  power : Option String
  toughness : Option String
  flavorText : Option String

/-- A row of `card_version_illustration`. -/
structure VersionIllustration where
  illustrationId : String
  imageUris : Json

/-! ## Tables -/

structure Sets where
  rows : Table String SetRow
  /-- `icon_set`, where a set has one icon. -/
  icons : Table String String

/-- What belongs to a unique card. -/
structure Cards where
  /-- `unique_cards_ref` by its unique name. -/
  refs : Table String UniqueCard
  types : Table (String × String) TypeCategory
  colorIdentity : Table (String × String) Unit
  keywords : Table (String × String) Unit
  legalities : Table (String × String) String

/-- What belongs to a card version. -/
structure Versions where
  rows : Table String CardVersion
  externalIds : Table (String × Identifier) String
  stats : Table (String × Stat) String
  promos : Table (String × String) Unit
  finishes : Table (String × String) Unit
  games : Table (String × String) Unit

/-- Artists, illustrations and faces. -/
structure Art where
  /-- `artists_ref`: the names of the artists. -/
  artists : Table String String
  illustrations : Table String (Option Json)
  illustrationArtists : Table (String × String) Unit
  versionIllustrations : Table String VersionIllustration
  faces : Table String FaceRow
  faceIllustrations : Table (String × String) Unit

structure Catalog where
  sets : Sets
  cards : Cards
  versions : Versions
  art : Art

/-- The artist that the schema stores. -/
def unknownArtist : String := "00000000-0000-0000-0000-000000000001"

/-- The set of cards whose set is not found; the schema does not store it. -/
def missingSet : String := "00000000-0000-0000-0000-000000000002"

/-- The codes of `card_finished`. -/
def finishCodes : List String :=
  ["NONFOIL", "FOIL", "ETCHED", "SURGE_FOIL", "RIPPLE_FOIL", "RAINBOW_FOIL"]

/-- A catalogue without cards. -/
def Catalog.ofSets (sets : Sets) : Catalog where
  sets := sets
  cards := ⟨.empty, .empty, .empty, .empty, .empty⟩
  versions := ⟨.empty, .empty, .empty, .empty, .empty, .empty⟩
  art := ⟨.single unknownArtist "Unknown Artist", .empty, .empty, .empty, .empty, .empty⟩

/-- `uuid_generate_v4()`: an id that is not in use. -/
structure Uuids where
  generate : List String → String
  isNew : ∀ used, generate used ∉ used

def totalLength : List String → Nat
  | [] => 0
  | id :: rest => id.length + totalLength rest

theorem length_le_totalLength {id : String} {used : List String} (hid : id ∈ used) :
    id.length ≤ totalLength used := by
  induction used with
  | nil => cases hid
  | cons other rest ih =>
      rcases List.mem_cons.mp hid with rfl | hrest
      · exact Nat.le_add_right _ _
      · exact Nat.le_add_left_of_le (ih hrest)

/-- Ids that are longer than those in use. -/
def Uuids.longer : Uuids where
  generate used := String.ofList (List.replicate (totalLength used + 1) 'u')
  isNew used hmem := by
    have hle := length_le_totalLength hmem
    rw [String.length_ofList, List.length_replicate] at hle
    exact Nat.not_succ_le_self _ hle

/-- What the database raises. -/
inductive Violation where
  | tooLong
  | outOfRange
  | notNull (column : String)
  | foreignKey (column : String)
  | unique (constraint : String)
  /-- `jsonb_array_elements_text` of what is no array. -/
  | scalar
  /-- A text that is no UUID. -/
  | invalidUuid
  deriving DecidableEq

end AutoMana.CardCatalog
