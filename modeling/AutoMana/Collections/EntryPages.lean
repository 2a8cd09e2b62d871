import AutoMana.Collections.Services
import AutoMana.Relational.Joins
import AutoMana.Relational.Pages

/-!
# The pages of a collection

`CollectionRepository.get_all_entries` joins an item with seven tables. Every row that it needs is
stored once by the keys of those tables, and every row that it may have is stored at most once, so
the joins neither drop nor multiply an entry. The order by the purchase date and the id leaves no
ties, so each query lists the entries alike and the pages are the list, cut.
-/

namespace AutoMana.Collections

open Relational

/-- A row of `card_version`. -/
structure VersionRow where
  uniqueCardId : String
  setId : String
  collectorNumber : Option String

/-- The tables that the query joins, with the references between them. `image_uris->>'normal'` of an
illustration may be missing. -/
structure Store where
  database : Database
  versions : Table String VersionRow
  cardNames : Table String String
  setCodes : Table String String
  finishes : Table Nat String
  illustrations : Table String (Option String)
  sparks : Table String Spark
  /-- The end of each active-listing row, if it has ended. -/
  listings : Table String (Option Nat)
  itemVersions : ∀ itemId item, database.items.get? itemId = some item →
    (versions.get? item.cardVersionId).isSome
  itemFinishes : ∀ itemId item, database.items.get? itemId = some item →
    (finishes.get? item.finishId).isSome
  versionCards : ∀ id version, versions.get? id = some version →
    (cardNames.get? version.uniqueCardId).isSome
  versionSets : ∀ id version, versions.get? id = some version →
    (setCodes.get? version.setId).isSome

namespace Store

variable (store : Store) (userId collectionId : String) (isWishlist : Option Bool)

/-- The wishlist clause. -/
def wished (item : Item) : Bool := isWishlist.all fun wished => decide (item.isWishlist = wished)

/-- The joined rows of `get_all_entries`, in no order of their own. -/
def joinedEntries : List EntryRow :=
  let owned := (innerJoin (fun row => some row.2.collectionId) Prod.mk store.database.items.rows
    store.database.collections.rows).filter fun row => decide (row.2.userId = userId)
  let versions := innerJoin (fun row => some row.1.2.cardVersionId)
    (fun row version => (row.1, version)) owned store.versions.rows
  let cards := innerJoin (fun row => some row.2.uniqueCardId)
    (fun (item, version) name => (item, version, name)) versions store.cardNames.rows
  let sets := innerJoin (fun row => some row.2.1.setId)
    (fun (item, version, name) code => (item, version, name, code)) cards store.setCodes.rows
  let finishes := innerJoin (fun row => some row.1.2.finishId)
    (fun (item, version, name, code) finish => (item, version, name, code, finish)) sets
    store.finishes.rows
  let illustrations := outerJoin (fun row => some row.1.2.cardVersionId)
    (fun (item, version, name, code, finish) image =>
      (item, CardVersion.mk name code version.collectorNumber image.join, finish))
    finishes store.illustrations.rows
  let sparks := outerJoin (fun row => some row.1.2.cardVersionId)
    (fun (item, version, finish) spark => (item, version, finish, spark)) illustrations
    store.sparks.rows
  let listings := outerJoin (fun row => row.1.2.ebayItemId)
    (fun (item, version, finish, spark) listing =>
      EntryRow.mk item.1 item.2 version finish spark
        (if listing = some none then .listed else item.2.status))
    sparks store.listings.rows
  listings.filter fun row => decide (row.item.collectionId = collectionId) &&
    wished isWishlist row.item

def noReference : Reference := ⟨.empty, .empty, [], .empty, [], .empty, .empty⟩

/-- What the services read of the catalogue, when these are its tables. -/
def reference (base : Reference) : Reference :=
  { base with
    versions := store.versions.filterMapValues fun id version => do
      let name ← store.cardNames.get? version.uniqueCardId
      let code ← store.setCodes.get? version.setId
      some ⟨name, code, version.collectorNumber, (store.illustrations.get? id).join⟩
    finishes := store.finishes
    sparks := store.sparks
    listings := store.listings }

/-- The items that the query is about. -/
def passes (row : String × Item) : Bool :=
  decide (row.2.collectionId = collectionId) && store.database.owns userId row.2.collectionId &&
    wished isWishlist row.2

/-- An item shows as listed exactly while it has a row of a listing that has not ended. -/
theorem shownStatus_reference (base : Reference) (item : Item) :
    shownStatus (store.reference base) item =
      if item.ebayItemId.bind store.listings.get? = some none then .listed else item.status := by
  have hlistings : (store.reference base).listings = store.listings := rfl
  rw [shownStatus, hlistings]
  cases item.ebayItemId.bind store.listings.get? with
  | none => rfl
  | some ended => cases ended <;> rfl

/-- Each row that an item needs is stored. -/
theorem exists_needed {itemId : String} {item : Item}
    (hitem : store.database.items.get? itemId = some item) :
    ∃ collection version finish name code,
      store.database.collections.get? item.collectionId = some collection ∧
      store.versions.get? item.cardVersionId = some version ∧
      store.finishes.get? item.finishId = some finish ∧
      store.cardNames.get? version.uniqueCardId = some name ∧
      store.setCodes.get? version.setId = some code := by
  obtain ⟨collection, hcollection⟩ :=
    Option.isSome_iff_exists.mp (store.database.references itemId item hitem)
  obtain ⟨version, hversion⟩ := Option.isSome_iff_exists.mp (store.itemVersions itemId item hitem)
  obtain ⟨finish, hfinish⟩ := Option.isSome_iff_exists.mp (store.itemFinishes itemId item hitem)
  obtain ⟨name, hname⟩ := Option.isSome_iff_exists.mp (store.versionCards _ version hversion)
  obtain ⟨code, hcode⟩ := Option.isSome_iff_exists.mp (store.versionSets _ version hversion)
  exact ⟨collection, version, finish, name, code, hcollection, hversion, hfinish, hname, hcode⟩

theorem exists_entryRow (base : Reference) {itemId : String} {item : Item}
    (hitem : store.database.items.get? itemId = some item) :
    ∃ row, entryRow (store.reference base) itemId item = some row := by
  obtain ⟨-, version, finish, name, code, -, hversion, hfinish, hname, hcode⟩ :=
    store.exists_needed hitem
  simp [entryRow, reference, hversion, hname, hcode, hfinish]

/-- The joins list an entry for each item that passes. -/
theorem joinedEntries_eq (base : Reference) :
    store.joinedEntries userId collectionId isWishlist =
      (store.database.items.rows.filter (store.passes userId collectionId isWishlist)).filterMap
        fun row => entryRow (store.reference base) row.1 row.2 := by
  simp only [joinedEntries, innerJoin_rows, outerJoin_rows, List.filterMap_filterMap,
    List.map_filterMap, List.filter_filterMap, List.filterMap_filter]
  refine List.filterMap_congr fun row hrow => ?_
  obtain ⟨itemId, item⟩ := row
  obtain ⟨collection, version, finish, name, code, hcollection, hversion, hfinish, hname, hcode⟩ :=
    store.exists_needed ((Table.mem_rows_iff _ _ _).mp hrow)
  have howns : store.database.owns userId item.collectionId =
      decide (collection.userId = userId) := by
    rw [Database.owns, hcollection]
    rfl
  have hentry : entryRow (store.reference base) itemId item = some (EntryRow.mk itemId item
      ⟨name, code, version.collectorNumber,
        (store.illustrations.get? item.cardVersionId).join⟩ finish
      (store.sparks.get? item.cardVersionId) (shownStatus (store.reference base) item)) := by
    simp [entryRow, reference, hversion, hname, hcode, hfinish]
  simp only [hentry, shownStatus_reference, passes, howns, hcollection, Option.bind_some,
    Option.map_some, Option.filter_some, decide_eq_true_eq]
  by_cases huser : collection.userId = userId
  · simp only [if_pos huser, Option.bind_some, hversion, hname, hcode, hfinish, Option.map_some,
      Option.filter_some]
    simp [huser]
  · simp [huser]

variable {store userId collectionId isWishlist}

theorem entryRow_eq_some {base : Reference} {itemId : String} {item : Item} {row : EntryRow}
    (hrow : entryRow (store.reference base) itemId item = some row) :
    row.itemId = itemId ∧ row.item = item ∧
      row.status = shownStatus (store.reference base) item := by
  simp only [entryRow, Option.bind_eq_bind, Option.bind_eq_some_iff, Option.some.injEq] at hrow
  obtain ⟨version, -, finish, -, rfl⟩ := hrow
  exact ⟨rfl, rfl, rfl⟩

/-- The entries, each of a stored item that passes. -/
theorem mem_joinedEntries (itemId : String) (item : Item) :
    (∃ row ∈ store.joinedEntries userId collectionId isWishlist,
        row.itemId = itemId ∧ row.item = item) ↔
      store.database.items.get? itemId = some item ∧
        store.passes userId collectionId isWishlist (itemId, item) = true := by
  rw [store.joinedEntries_eq userId collectionId isWishlist noReference, ← Table.mem_rows_iff,
    ← List.mem_filter]
  constructor
  · rintro ⟨row, hrow, rfl, rfl⟩
    obtain ⟨stored, hstored, hentry⟩ := List.mem_filterMap.mp hrow
    obtain ⟨hid, hitem, -⟩ := entryRow_eq_some hentry
    rwa [hid, hitem]
  · intro hstored
    obtain ⟨hrow, -⟩ := List.mem_filter.mp hstored
    obtain ⟨row, hentry⟩ := store.exists_entryRow noReference ((Table.mem_rows_iff _ _ _).mp hrow)
    obtain ⟨hid, hitem, -⟩ := entryRow_eq_some hentry
    exact ⟨row, List.mem_filterMap.mpr ⟨_, hstored, hentry⟩, hid, hitem⟩

theorem nodup_joinedEntries :
    ((store.joinedEntries userId collectionId isWishlist).map EntryRow.itemId).Nodup := by
  rw [store.joinedEntries_eq userId collectionId isWishlist noReference]
  have hids : ∀ row ∈ store.database.items.rows.filter
      (store.passes userId collectionId isWishlist),
      (entryRow (store.reference noReference) row.1 row.2).map EntryRow.itemId =
        (some ∘ Prod.fst) row := by
    intro row hrow
    obtain ⟨hstored, -⟩ := List.mem_filter.mp hrow
    obtain ⟨entry, hentry⟩ :=
      store.exists_entryRow noReference ((Table.mem_rows_iff _ _ _).mp hstored)
    rw [hentry, Option.map_some, (entryRow_eq_some hentry).1]
    rfl
  rw [List.map_filterMap, List.filterMap_congr hids, List.filterMap_eq_map]
  exact store.database.items.nodup_keys.sublist (List.filter_sublist.map Prod.fst)

theorem status_of_mem {row : EntryRow}
    (hrow : row ∈ store.joinedEntries userId collectionId isWishlist) :
    row.status = if row.item.ebayItemId.bind store.listings.get? = some none then .listed
      else row.item.status := by
  rw [store.joinedEntries_eq userId collectionId isWishlist noReference] at hrow
  obtain ⟨stored, -, hentry⟩ := List.mem_filterMap.mp hrow
  obtain ⟨-, hitem, hstatus⟩ := entryRow_eq_some hentry
  rw [hstatus, shownStatus_reference, hitem]

/-! ## The order of the entries -/

/-- The database answers the query with the joined rows in the order that it asks for. -/
structure Answers (store : Store) (userId collectionId : String) (isWishlist : Option Bool)
    (answer : List EntryRow) : Prop where
  perm : answer.Perm (store.joinedEntries userId collectionId isWishlist)
  ordered : answer.Pairwise fun row other => listedBefore row other = true

theorem listedBefore_iff {row other : EntryRow} : listedBefore row other = true ↔
    other.item.purchaseDate < row.item.purchaseDate ∨
      other.item.purchaseDate = row.item.purchaseDate ∧ row.itemId ≤ other.itemId := by
  simp only [listedBefore, Bool.or_eq_true, Bool.and_eq_true, decide_eq_true_eq]

theorem listedBefore_antisymm {row other : EntryRow} (hrow : listedBefore row other = true)
    (hother : listedBefore other row = true) : row.itemId = other.itemId := by
  rw [listedBefore_iff] at hrow hother
  rcases hrow with hlt | ⟨hdate, hle⟩
  · rcases hother with hgt | ⟨hdate, -⟩ <;> omega
  · rcases hother with hgt | ⟨-, hge⟩
    · omega
    · exact String.le_antisymm hle hge

theorem listedBefore_trans {first second third : EntryRow}
    (hfirst : listedBefore first second = true) (hsecond : listedBefore second third = true) :
    listedBefore first third = true := by
  rw [listedBefore_iff] at hfirst hsecond ⊢
  rcases hfirst with hlt | ⟨hdate, hle⟩
  · left
    omega
  · rcases hsecond with hlt | ⟨hdate', hle'⟩
    · left
      omega
    · exact Or.inr ⟨hdate'.trans hdate, String.le_trans hle hle'⟩

theorem listedBefore_total (first second : EntryRow) :
    (listedBefore first second || listedBefore second first) = true := by
  rw [Bool.or_eq_true, listedBefore_iff, listedBefore_iff]
  rcases Nat.lt_trichotomy first.item.purchaseDate second.item.purchaseDate with
    hlt | heq | hgt
  · exact Or.inr (Or.inl hlt)
  · exact (String.le_total first.itemId second.itemId).imp (fun hle => Or.inr ⟨heq.symm, hle⟩)
      fun hge => Or.inr ⟨heq, hge⟩
  · exact Or.inl (Or.inl hgt)

/-- Every answer is the same. -/
theorem Answers.unique {answer other : List EntryRow}
    (hanswer : store.Answers userId collectionId isWishlist answer)
    (hother : store.Answers userId collectionId isWishlist other) : answer = other := by
  refine List.Perm.eq_of_pairwise (fun row second hrow hsecond hle hge => ?_) hanswer.ordered
    hother.ordered (hanswer.perm.trans hother.perm.symm)
  exact List.inj_on_of_nodup_map nodup_joinedEntries (hanswer.perm.mem_iff.mp hrow)
    (hother.perm.mem_iff.mp hsecond) (listedBefore_antisymm hle hge)

/-- Sorting the joined rows is an answer. -/
theorem answers_mergeSort : store.Answers userId collectionId isWishlist
    ((store.joinedEntries userId collectionId isWishlist).mergeSort listedBefore) :=
  ⟨List.mergeSort_perm _ _, @List.pairwise_mergeSort _ listedBefore
    (fun _ _ _ => listedBefore_trans) listedBefore_total _⟩

/-- `get_all_entries` returns a page of an answer. -/
theorem getAllEntries_eq (base : Reference) (limit offset : Nat) {answer : List EntryRow}
    (hanswer : store.Answers userId collectionId isWishlist answer) :
    getAllEntries (store.reference base) store.database userId collectionId limit offset
      isWishlist = .ok (page answer limit offset) := by
  have hnonneg : ¬ ((limit : Int) < 0 ∨ (offset : Int) < 0) := by omega
  rw [getAllEntries, if_neg hnonneg, hanswer.unique answers_mergeSort,
    store.joinedEntries_eq userId collectionId isWishlist base]
  rfl

/-- The entries are those of the items that pass, each once, the newer purchase first and then by
the id, and show as listed while they have a listing that has not ended. -/
structure ListsEntries (store : Store) (userId collectionId : String) (isWishlist : Option Bool)
    (entries : List EntryRow) : Prop where
  once : (entries.map EntryRow.itemId).Nodup
  all : ∀ itemId item, (∃ row ∈ entries, row.itemId = itemId ∧ row.item = item) ↔
    store.database.items.get? itemId = some item ∧ item.collectionId = collectionId ∧
      store.database.owns userId collectionId = true ∧
      ∀ wished, isWishlist = some wished → item.isWishlist = wished
  ordered : entries.Pairwise fun row other =>
    other.item.purchaseDate < row.item.purchaseDate ∨
      other.item.purchaseDate = row.item.purchaseDate ∧ row.itemId < other.itemId
  listed : ∀ row ∈ entries, (∃ ebayItemId, row.item.ebayItemId = some ebayItemId ∧
    store.listings.get? ebayItemId = some none) → row.status = .listed
  stored : ∀ row ∈ entries, (¬ ∃ ebayItemId, row.item.ebayItemId = some ebayItemId ∧
    store.listings.get? ebayItemId = some none) → row.status = row.item.status

theorem Answers.listsEntries {answer : List EntryRow}
    (hanswer : store.Answers userId collectionId isWishlist answer) :
    store.ListsEntries userId collectionId isWishlist answer := by
  have hids : (answer.map EntryRow.itemId).Nodup :=
    ((hanswer.perm.map _).nodup_iff).mpr nodup_joinedEntries
  refine ⟨hids, fun itemId item => ?_, ?_, fun row hrow hlisted => ?_, fun row hrow hnone => ?_⟩
  · simp only [hanswer.perm.mem_iff, mem_joinedEntries, passes, wished, Bool.and_eq_true,
      decide_eq_true_eq, Option.all_eq_true, and_assoc]
    refine and_congr_right fun _ => and_congr_right fun hcollection => ?_
    rw [hcollection]
  · have hne : answer.Pairwise fun row other => row.itemId ≠ other.itemId :=
      List.pairwise_map.mp hids
    refine (hanswer.ordered.and hne).imp fun hboth => ?_
    obtain ⟨hbefore, hne⟩ := hboth
    refine (listedBefore_iff.mp hbefore).imp_right fun hsame => ?_
    exact ⟨hsame.1, String.not_le.mp fun hge => hne (String.le_antisymm hsame.2 hge)⟩
  · rw [status_of_mem (hanswer.perm.mem_iff.mp hrow),
      if_pos (Option.bind_eq_some_iff.mpr hlisted)]
  · rw [status_of_mem (hanswer.perm.mem_iff.mp hrow),
      if_neg fun hlisted => hnone (Option.bind_eq_some_iff.mp hlisted)]

end Store

/-- Whatever the database answers to each page's query, enough pages behind one another list the
entries of the collection that pass the filter. -/
theorem pages_list_entries (store : Store) (userId collectionId : String)
    (isWishlist : Option Bool) {limit count : Nat} {answers : Nat → List EntryRow}
    (hanswers : ∀ index, store.Answers userId collectionId isWishlist (answers index))
    (hcount : (store.joinedEntries userId collectionId isWishlist).length ≤ count * limit) :
    store.ListsEntries userId collectionId isWishlist
      ((List.range count).flatMap fun index => page (answers index) limit (index * limit)) := by
  have hpages : ((List.range count).flatMap fun index =>
      page (answers index) limit (index * limit)) = pages (answers 0) limit count :=
    List.flatMap_congr fun index _ => by rw [(hanswers index).unique (hanswers 0)]
  have hlength := (hanswers 0).perm.length_eq
  rw [hpages, pages_eq_self (Nat.le_trans (Nat.le_of_eq hlength) hcount)]
  exact (hanswers 0).listsEntries

/-! ## Two entries of one day -/

def bought : Item := ⟨"c", "v", 1, 5, 100, .NM, "USD", none, .purchased, none, false⟩

def boughtTwice : Table String Item := (Table.single "j" bought).set "i" bought

theorem eq_bought {itemId : String} {item : Item} (hitem : boughtTwice.get? itemId = some item) :
    item = bought := by
  rw [boughtTwice, Table.get?_set, Table.get?_single] at hitem
  split_ifs at hitem <;> exact (Option.some.inj hitem).symm

theorem eq_of_single {V : Type} {stored key : String} {value found : V}
    (hfound : (Table.single stored value).get? key = some found) : found = value := by
  rw [Table.get?_single] at hfound
  split_ifs at hfound
  exact (Option.some.inj hfound).symm

/-- A collection with two entries of one card. -/
def twice : Store where
  database :=
    { collections := .single "c" ⟨"Binder", "", "u", 0, some true⟩
      items := boughtTwice
      references := fun _ _ hitem => eq_bought hitem ▸ rfl }
  versions := .single "v" ⟨"u1", "s1", none⟩
  cardNames := .single "u1" "Bolt"
  setCodes := .single "s1" "lea"
  finishes := .single 1 "nonfoil"
  illustrations := .empty
  sparks := .empty
  listings := .empty
  itemVersions := fun _ _ hitem => eq_bought hitem ▸ rfl
  itemFinishes := fun _ _ hitem => eq_bought hitem ▸ rfl
  versionCards := fun _ _ hversion => eq_of_single hversion ▸ rfl
  versionSets := fun _ _ hversion => eq_of_single hversion ▸ rfl

/-- Two pages of one entry each. -/
theorem pages_list_entries_twice : twice.ListsEntries "u" "c" none
    ((List.range 2).flatMap fun index =>
      page ((twice.joinedEntries "u" "c" none).mergeSort listedBefore) 1 (index * 1)) :=
  pages_list_entries twice "u" "c" none (fun _ => Store.answers_mergeSort) (by decide)

end AutoMana.Collections
