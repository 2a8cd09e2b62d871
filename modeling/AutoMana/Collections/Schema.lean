import AutoMana.Relational.Dict

/-!
# Collections and their items

A collection is of one user, and a card that the user has or wants is an item of a collection.
What the entries show of a card is read from the catalogue.
-/

namespace AutoMana.Collections

open Relational

/-- A row of `collections`; an update may set `is_active` to `NULL`. -/
structure Collection where
  collectionName : String
  description : String
  userId : String
  createdAt : Nat
  isActive : Option Bool

inductive EntryStatus where
  | purchased
  | listed
  | stashed
  | sold
  deriving DecidableEq

inductive Conditions where
  | NM
  | LP
  | MP
  | HP
  | DMG
  | SP
  deriving DecidableEq

inductive Finish where
  | nonfoil
  | foil
  | etched
  deriving DecidableEq

/-- A row of `collection_items`. Its column `unique_card_id` refers to a card version, dates are
days, the price is in hundredths. -/
structure Item where
  collectionId : String
  cardVersionId : String
  finishId : Nat
  purchaseDate : Nat
  purchasePrice : Nat
  condition : Conditions
  currencyCode : String
  languageId : Option Nat
  status : EntryStatus
  ebayItemId : Option String
  isWishlist : Bool

/-- Both tables; the collection of an item is stored. -/
@[ext] structure Database where
  collections : Table String Collection
  items : Table String Item
  references : ∀ itemId item, items.get? itemId = some item →
    (collections.get? item.collectionId).isSome

/-! ## What the services read besides -/

/-- A card version with its name, its set and its illustration. -/
structure CardVersion where
  cardName : String
  setCode : String
  collectorNumber : Option String
  imageNormal : Option String

/-- A row of `mv_card_price_spark`. -/
structure Spark where
  price : Option Int
  priceChange1d : Option Int

structure Reference where
  /-- The usernames. -/
  users : Table String String
  versions : Table String CardVersion
  /-- The scryfall ids of versions. -/
  scryfallIds : List (String × String)
  finishes : Table Nat String
  languages : List Nat
  sparks : Table String Spark
  /-- The end of each listing on eBay, if it has ended. -/
  listings : Table String (Option Nat)

/-! ## Changes of rows -/

namespace Database

variable (database : Database)

def insertCollection (collectionId : String) (row : Collection) : Database where
  collections := database.collections.set collectionId row
  items := database.items
  references itemId item hitem := by
    rw [Table.get?_set]
    split_ifs
    · rfl
    · exact database.references itemId item hitem

/-- `UPDATE collections` -/
def updateCollections (change : String → Collection → Collection) : Database where
  collections := database.collections.mapValues change
  items := database.items
  references itemId item hitem := by
    rw [Table.get?_mapValues, Option.isSome_map]
    exact database.references itemId item hitem

/-- `INSERT INTO collection_items` -/
def insertItem (itemId : String) (row : Item)
    (hstored : (database.collections.get? row.collectionId).isSome) : Database where
  collections := database.collections
  items := database.items.set itemId row
  references otherId item hitem := by
    rw [Table.get?_set] at hitem
    split_ifs at hitem
    · rwa [← Option.some.inj hitem]
    · exact database.references otherId item hitem

/-- `UPDATE collection_items SET status` -/
def updateStatus (selected : String → Item → Bool) (status : EntryStatus) : Database where
  collections := database.collections
  items := database.items.mapValues fun itemId item =>
    if selected itemId item then { item with status } else item
  references itemId item hitem := by
    rw [Table.get?_mapValues] at hitem
    obtain ⟨stored, hstored, rfl⟩ := Option.map_eq_some_iff.mp hitem
    split_ifs <;> exact database.references itemId stored hstored

/-- `DELETE FROM collection_items` -/
def deleteItems (selected : String → Item → Bool) : Database where
  collections := database.collections
  items := database.items.deleteWhere selected
  references itemId item hitem := by
    rw [Table.get?_deleteWhere] at hitem
    exact database.references itemId item (Option.filter_eq_some_iff.mp hitem).1

/-- The collection is of the user. -/
def owns (userId collectionId : String) : Bool :=
  (database.collections.get? collectionId).any fun row => decide (row.userId = userId)

end Database

end AutoMana.Collections
