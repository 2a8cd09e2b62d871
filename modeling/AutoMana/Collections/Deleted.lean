import AutoMana.Collections.Services
import AutoMana.Relational.Parts
import AutoMana.Relational.Runs

/-!
# Collections that are deleted

A deletion sets `is_active`. The collections that are listed, and those to which entries are
added, are active ones, but an entry is read, changed and removed by its id in any collection of
the user, an update may set `is_active` again, and the name of the collection stays taken.
-/

namespace AutoMana.Collections

open Relational

/-! ## What is claimed -/

/-- The entries that are shown. -/
def Reply.shown : Reply → List String
  | .created .. => []
  | .collection _ => []
  | .collections _ => []
  | .entry shown => [shown.itemId]
  | .entries page => page.map PublicCollectionEntry.itemId
  | .done => []

/-- An entry of the collection is shown. -/
def Shows (database : Database) (collectionId : String) (answer : Except Error Reply) : Prop :=
  ∃ reply, answer = .ok reply ∧ ∃ itemId ∈ reply.shown, ∃ item,
    database.items.get? itemId = some item ∧ item.collectionId = collectionId

def itemsOf (database : Database) (collectionId : String) : Table String Item :=
  database.items.part fun _ item => decide (item.collectionId = collectionId)

/-- The collection is in no listing of the user. -/
def Unlisted (reference : Reference) (userId : String) (database : Database)
    (collectionId : String) : Prop :=
  get reference database userId collectionId = none ∧
    collectionId ∉ (getAll reference database userId).map Prod.fst

/-- The user can create a collection with the name, under any id that is new. -/
def Creatable (reference : Reference) (userId : String) (database : Database)
    (collectionName : String) : Prop :=
  ∃ created : CreateCollection, created.collectionName = collectionName ∧
    ∀ newId now, database.collections.get? newId = none →
      ∃ reply, (step reference userId database ⟨.addCollection created, newId, now⟩).2 = .ok reply

/-- The database, and the collections that were deleted with the names they had. -/
structure Marked where
  database : Database
  deleted : List (String × String)

def mark (reference : Reference) (userId : String) (marked : Marked) (action : Action) :
    Marked where
  database := (step reference userId marked.database action).1
  deleted :=
    match action.request with
    | .deleteCollection collectionId =>
      match marked.database.collections.get? collectionId with
      | some row =>
        if row.userId = userId then (collectionId, row.collectionName) :: marked.deleted
        else marked.deleted
      | none => marked.deleted
    | _ => marked.deleted

section Claim

variable (reference : Reference) (userId : String) (marked : Marked) (action : Action)

/-- A call changes and shows no entry of a collection that was deleted, and no such collection is
listed after it. -/
structure StaysHidden : Prop where
  entries : ∀ collection ∈ marked.deleted,
    itemsOf (mark reference userId marked action).database collection.1 =
        itemsOf marked.database collection.1 ∧
      ¬ Shows (mark reference userId marked action).database collection.1
        (step reference userId marked.database action).2
  listings : ∀ collection ∈ (mark reference userId marked action).deleted,
    Unlisted reference userId (mark reference userId marked action).database collection.1

/-- And the name of every collection that was deleted is free. -/
structure StaysDeleted : Prop extends StaysHidden reference userId marked action where
  names : ∀ collection ∈ (mark reference userId marked action).deleted,
    Creatable reference userId (mark reference userId marked action).database collection.2

/-- An update that breaks no constraint. -/
def Allowed (database : Database) (collectionId : String) (updated : UpdateCollection) : Prop :=
  updated.collectionName ≠ some none ∧ updated.description ≠ some none ∧
    ¬ updated.collectionName.join.any (taken database userId collectionId) = true

/-- A request makes a collection of the user active, or reads or changes an entry of it whose row
can be shown, or removes one. -/
def Disturbs (database : Database) (collectionId : String) : Request → Prop
  | .updateCollection id updated => id = collectionId ∧ updated.isActive = some (some true) ∧
      Allowed userId database collectionId updated ∧ (reference.users.get? userId).isSome
  | .getEntry id entryId => id = collectionId ∧
      ((findEntry reference database userId entryId collectionId).bind modelValidate).isSome
  | .updateEntryStatus id entryId _ => id = collectionId ∧
      ((findEntry reference database userId entryId collectionId).bind modelValidate).isSome
  | .deleteEntry id entryId => id = collectionId ∧
      (database.items.get? entryId).any (isEntry database userId collectionId entryId entryId)
  | _ => False

def Undisturbed : Prop :=
  ∀ collection ∈ marked.deleted,
    ¬ Disturbs reference userId marked.database collection.1 action.request

/-- No collection of the user is deleted. -/
def NoDeletion : Prop :=
  ∀ collectionId, action.request = .deleteCollection collectionId →
    marked.database.owns userId collectionId = false

end Claim

/-! ## Collections that are hidden -/

section Hidden

variable {reference : Reference} {userId : String} {database : Database} {collectionId : String}

theorem get_isSome_iff : (get reference database userId collectionId).isSome = true ↔
    ∃ row, database.collections.get? collectionId = some row ∧ row.userId = userId ∧
      row.isActive = some true ∧ (reference.users.get? userId).isSome = true := by
  rw [get]
  cases hrow : database.collections.get? collectionId with
  | none => simp
  | some row =>
    by_cases howner : row.userId = userId
    · subst howner
      cases hname : reference.users.get? row.userId with
      | none => simp [hname]
      | some username => by_cases hactive : row.isActive = some true <;> simp [hname, hactive]
    · cases hname : reference.users.get? row.userId <;> simp [hname, howner]

theorem mem_getAll_iff : collectionId ∈ (getAll reference database userId).map Prod.fst ↔
    (get reference database userId collectionId).isSome = true := by
  rw [get_isSome_iff, List.mem_map]
  constructor
  · rintro ⟨row, hrow, rfl⟩
    obtain ⟨hmem, hselected⟩ := List.mem_filter.mp hrow
    simp only [Bool.and_eq_true, decide_eq_true_eq] at hselected
    obtain ⟨⟨howner, hactive⟩, hname⟩ := hselected
    exact ⟨row.2, (Table.mem_rows_iff _ _ _).mp hmem, howner, hactive, howner ▸ hname⟩
  · rintro ⟨row, hrow, rfl, hactive, hname⟩
    refine ⟨(collectionId, row), List.mem_filter.mpr ⟨(Table.mem_rows_iff _ _ _).mpr hrow, ?_⟩, rfl⟩
    simp [hactive, hname]

theorem unlisted_iff : Unlisted reference userId database collectionId ↔
    get reference database userId collectionId = none := by
  rw [Unlisted, mem_getAll_iff, Bool.not_eq_true, Option.isSome_eq_false_iff,
    Option.isNone_iff_eq_none, and_self]

/-- The collection is of the user, and not active (as far as the user is stored). -/
def Hidden (reference : Reference) (userId : String) (database : Database)
    (collectionId : String) : Prop :=
  ∃ row, database.collections.get? collectionId = some row ∧ row.userId = userId ∧
    (row.isActive = some true → (reference.users.get? userId).isSome = false)

theorem Hidden.get_eq_none (hhidden : Hidden reference userId database collectionId) :
    get reference database userId collectionId = none := by
  obtain ⟨row, hrow, -, hinactive⟩ := hhidden
  rw [← Option.not_isSome_iff_eq_none, get_isSome_iff]
  rintro ⟨other, hother, -, hactive, hname⟩
  obtain rfl := Option.some.inj (hrow.symm.trans hother)
  rw [hinactive hactive] at hname
  cases hname

theorem Hidden.unlisted (hhidden : Hidden reference userId database collectionId) :
    Unlisted reference userId database collectionId := unlisted_iff.mpr hhidden.get_eq_none

theorem Hidden.owns (hhidden : Hidden reference userId database collectionId) :
    database.owns userId collectionId = true := by
  obtain ⟨row, hrow, howner, -⟩ := hhidden
  rw [Database.owns, hrow, Option.any_some, howner, decide_eq_true rfl]

theorem Hidden.of_row {next : Database} (hhidden : Hidden reference userId database collectionId)
    (hsame : next.collections.get? collectionId = database.collections.get? collectionId) :
    Hidden reference userId next collectionId := by
  rw [Hidden, hsame]
  exact hhidden

end Hidden

/-! ## What a service shows -/

section Shown

variable {reference : Reference} {userId : String} {database : Database}
  {collectionId itemId : String}

theorem findEntry_eq_some {row : EntryRow}
    (hfind : findEntry reference database userId itemId collectionId = some row) :
    row.itemId = itemId ∧ database.items.get? itemId = some row.item ∧
      isEntry database userId collectionId itemId itemId row.item = true := by
  obtain ⟨item, hitem, hrow⟩ := Option.bind_eq_some_iff.mp hfind
  obtain ⟨hstored, hentry⟩ := Option.filter_eq_some_iff.mp hitem
  obtain ⟨version, -, hrow⟩ := Option.bind_eq_some_iff.mp hrow
  obtain ⟨finish, -, hrow⟩ := Option.bind_eq_some_iff.mp hrow
  obtain rfl := Option.some.inj hrow
  exact ⟨rfl, hstored, hentry⟩

theorem isEntry_iff {id : String} {item : Item} :
    isEntry database userId collectionId itemId id item = true ↔
      id = itemId ∧ item.collectionId = collectionId ∧
        database.owns userId item.collectionId = true := by
  simp only [isEntry, Bool.and_eq_true, decide_eq_true_eq, and_assoc]

theorem itemId_of_modelValidate {row : EntryRow} {entry : PublicCollectionEntry}
    (hentry : modelValidate row = some entry) : entry.itemId = row.itemId := by
  obtain ⟨_, -, hentry⟩ := Option.bind_eq_some_iff.mp hentry
  obtain ⟨_, -, hentry⟩ := Option.bind_eq_some_iff.mp hentry
  obtain ⟨_, -, hentry⟩ := Option.bind_eq_some_iff.mp hentry
  rw [← Option.some.inj hentry]

/-- What is shown of an entry is the entry. -/
theorem shown_of_validated {reply : Reply}
    (hreply : validated (findEntry reference database userId itemId collectionId) = .ok reply) :
    reply.shown = [itemId] ∧ ∃ item, database.items.get? itemId = some item ∧
      item.collectionId = collectionId := by
  rw [validated] at hreply
  cases hfind : findEntry reference database userId itemId collectionId with
  | none =>
    rw [hfind] at hreply
    cases hreply
  | some row =>
    obtain ⟨hid, hstored, hentry⟩ := findEntry_eq_some hfind
    rw [hfind, Option.bind_some] at hreply
    cases hvalid : modelValidate row with
    | none =>
      rw [hvalid] at hreply
      cases hreply
    | some entry =>
      rw [hvalid] at hreply
      cases hreply
      refine ⟨?_, row.item, hstored, (isEntry_iff.mp hentry).2.1⟩
      rw [Reply.shown, itemId_of_modelValidate hvalid, hid]

theorem isSome_of_validated {row : Option EntryRow} {reply : Reply}
    (hreply : validated row = .ok reply) : (row.bind modelValidate).isSome = true := by
  rw [validated] at hreply
  split at hreply
  next entry hentry => exact Option.isSome_of_eq_some hentry
  next => cases hreply

/-- The rows of a page are items of the collection. -/
theorem mem_getAllEntries {limit offset : Int} {isWishlist : Option Bool} {rows : List EntryRow}
    (hrows : getAllEntries reference database userId collectionId limit offset isWishlist =
      .ok rows) {row : EntryRow} (hrow : row ∈ rows) :
    ∃ item, database.items.get? row.itemId = some item ∧ item.collectionId = collectionId := by
  rw [getAllEntries] at hrows
  split_ifs at hrows
  cases hrows
  have hjoined := List.mem_mergeSort.mp (List.mem_of_mem_drop (List.mem_of_mem_take hrow))
  obtain ⟨item, hitem, hrow⟩ := List.mem_filterMap.mp hjoined
  obtain ⟨hstored, hselected⟩ := List.mem_filter.mp hitem
  simp only [Bool.and_eq_true, decide_eq_true_eq] at hselected
  obtain ⟨version, -, hrow⟩ := Option.bind_eq_some_iff.mp hrow
  obtain ⟨finish, -, hrow⟩ := Option.bind_eq_some_iff.mp hrow
  obtain rfl := Option.some.inj hrow
  exact ⟨item.2, (Table.mem_rows_iff _ _ _).mp hstored, hselected.1.1⟩

theorem shown_of_mapM {rows : List EntryRow} {page : List PublicCollectionEntry}
    (hpage : rows.mapM modelValidate = some page) {id : String}
    (hid : id ∈ (Reply.entries page).shown) : ∃ row ∈ rows, row.itemId = id := by
  induction rows generalizing page with
  | nil =>
    obtain rfl := Option.some.inj hpage
    cases hid
  | cons row rest ih =>
    rw [List.mapM_cons] at hpage
    obtain ⟨entry, hvalid, hpage⟩ := Option.bind_eq_some_iff.mp hpage
    obtain ⟨entries, hrest, hpage⟩ := Option.bind_eq_some_iff.mp hpage
    obtain rfl := Option.some.inj hpage
    rcases List.mem_cons.mp hid with rfl | hlater
    · exact ⟨row, List.mem_cons_self, (itemId_of_modelValidate hvalid).symm⟩
    · obtain ⟨other, hother, hsame⟩ := ih hrest hlater
      exact ⟨other, List.mem_cons_of_mem _ hother, hsame⟩

/-- Whether a row can be shown does not depend on the status of its item. -/
theorem isSome_entryRow_status (item : Item) (status : EntryStatus) :
    ((entryRow reference itemId { item with status }).bind modelValidate).isSome =
      ((entryRow reference itemId item).bind modelValidate).isSome := by
  simp only [entryRow]
  cases reference.versions.get? item.cardVersionId with
  | none => rfl
  | some version =>
    cases reference.finishes.get? item.finishId with
    | none => rfl
    | some finish =>
      obtain ⟨cardName, setCode, collectorNumber, imageNormal⟩ := version
      cases collectorNumber with
      | none => rfl
      | some number =>
        simp only [modelValidate, Option.bind_eq_bind, Option.bind_some]
        cases Finish.ofCode? finish with
        | none => rfl
        | some code =>
          cases (reference.sparks.get? item.cardVersionId).bind Spark.priceChange1d <;> rfl

theorem isSome_findEntry_updateStatus (status : EntryStatus) :
    ((findEntry reference (database.updateStatus (isEntry database userId collectionId itemId)
        status) userId itemId collectionId).bind modelValidate).isSome =
      ((findEntry reference database userId itemId collectionId).bind modelValidate).isSome := by
  rw [findEntry, findEntry, Database.updateStatus, Table.get?_mapValues]
  cases database.items.get? itemId with
  | none => rfl
  | some item =>
    simp only [Option.map_some, Option.filter_some]
    by_cases hentry : isEntry database userId collectionId itemId itemId item = true
    · rw [if_pos hentry, if_pos hentry]
      refine Eq.trans ?_ (isSome_entryRow_status item status)
      rw [if_pos (by exact hentry), Option.bind_some]
    · rw [if_neg hentry, if_neg hentry, if_neg (by exact hentry)]

end Shown

/-! ## What a call leaves of a hidden collection -/

section Rests

variable {reference : Reference} {userId : String} {database next : Database}
  {collectionId : String}

/-- The collection is hidden still, its items are the same and none of them is shown. -/
structure Rests (reference : Reference) (userId : String) (database next : Database)
    (collectionId : String) (reply : Reply) : Prop where
  hidden : Hidden reference userId next collectionId
  items : itemsOf next collectionId = itemsOf database collectionId
  unseen : ¬ Shows next collectionId (.ok reply)

theorem not_shows_of_nil {reply : Reply} (hnil : reply.shown = []) :
    ¬ Shows next collectionId (.ok reply) := by
  rintro ⟨given, hgiven, itemId, hshown, -⟩
  cases hgiven
  rw [hnil] at hshown
  cases hshown

/-- What is shown of another collection. -/
theorem not_shows_of_validated {other itemId : String} {reply : Reply} (hne : other ≠ collectionId)
    (hreply : validated (findEntry reference next userId itemId other) = .ok reply) :
    ¬ Shows next collectionId (.ok reply) := by
  rintro ⟨given, hgiven, shownId, hshown, item, hitem, hcollection⟩
  cases hgiven
  obtain ⟨hids, stored, hstored, hother⟩ := shown_of_validated hreply
  rw [hids, List.mem_singleton] at hshown
  subst hshown
  obtain rfl := Option.some.inj (hstored.symm.trans hitem)
  exact hne (hother.symm.trans hcollection)

theorem itemsOf_updateStatus {selected : String → Item → Bool} {status : EntryStatus}
    (hnone : ∀ id item, item.collectionId = collectionId → selected id item = false) :
    itemsOf (database.updateStatus selected status) collectionId =
      itemsOf database collectionId := by
  rw [itemsOf, Database.updateStatus, Table.part_mapValues]
  · refine Table.mapValues_of_same _ fun row hrow => ?_
    rw [Table.rows_part, List.mem_filter] at hrow
    rw [if_neg (by rw [hnone row.1 row.2 (of_decide_eq_true hrow.2)]; exact Bool.false_ne_true)]
  · intro id item
    split_ifs <;> rfl

theorem itemsOf_deleteItems {selected : String → Item → Bool}
    (hnone : ∀ id item, item.collectionId = collectionId → selected id item = false) :
    itemsOf (database.deleteItems selected) collectionId = itemsOf database collectionId := by
  rw [itemsOf, Database.deleteItems, Table.part_deleteWhere]
  refine Table.deleteWhere_of_none _ fun row hrow => ?_
  rw [Table.rows_part, List.mem_filter] at hrow
  exact hnone row.1 row.2 (of_decide_eq_true hrow.2)

/-- An item of the collection is no entry of another. -/
theorem isEntry_of_ne {other itemId : String} (hne : other ≠ collectionId) (id : String)
    (item : Item) (hitem : item.collectionId = collectionId) :
    isEntry database userId other itemId id item = false := by
  rw [Bool.eq_false_iff]
  intro hentry
  exact hne ((isEntry_iff.mp hentry).2.1.symm.trans hitem)

variable (hhidden : Hidden reference userId database collectionId)
include hhidden

/-- A service that changes nothing and shows nothing of the collection. -/
theorem rests_self {reply : Reply} (hunseen : ¬ Shows database collectionId (.ok reply)) :
    Rests reference userId database database collectionId reply := ⟨hhidden, rfl, hunseen⟩

theorem rests_add {newId : String} {now : Nat} {created : CreateCollection} {row : Collection}
    (hadd : add reference database userId newId now created = .ok (row, next)) :
    Rests reference userId database next collectionId (.created newId row) := by
  simp only [add] at hadd
  split_ifs at hadd with hnew
  cases hadd
  refine ⟨hhidden.of_row ?_, rfl, not_shows_of_nil rfl⟩
  have hne : collectionId ≠ newId := by
    rintro rfl
    obtain ⟨stored, hstored, -⟩ := hhidden
    exact hnew (Option.isSome_of_eq_some hstored)
  rw [Database.insertCollection, Table.get?_set, if_neg hne]

theorem rests_delete (other : String) :
    Rests reference userId database (delete database userId other) collectionId .done := by
  refine ⟨?_, rfl, not_shows_of_nil rfl⟩
  obtain ⟨row, hrow, howner, hinactive⟩ := hhidden
  rw [Hidden, delete, Database.updateCollections, Table.get?_mapValues, hrow]
  refine ⟨_, rfl, ?_⟩
  dsimp only
  split_ifs with hdeleted
  · exact ⟨howner, fun hactive => by cases hactive⟩
  · exact ⟨howner, hinactive⟩

theorem rests_insertEntry {newId other cardVersionId : String} {reply : Reply}
    {request : AddCollectionEntryRequest} {hstored : (database.collections.get? other).isSome}
    (hlisted : (get reference database userId other).isSome)
    (hinsert : insertEntry reference database userId newId other cardVersionId request hstored =
      .ok (reply, next)) :
    Rests reference userId database next collectionId reply := by
  have hne : other ≠ collectionId := by
    rintro rfl
    rw [hhidden.get_eq_none] at hlisted
    cases hlisted
  simp only [insertEntry] at hinsert
  split_ifs at hinsert with hprice hnew
  cases hvalid : validated (findEntry reference _ userId newId other) with
  | error => rw [hvalid] at hinsert; cases hinsert
  | ok given =>
    rw [hvalid] at hinsert
    cases hinsert
    refine ⟨hhidden.of_row rfl, ?_, not_shows_of_validated hne hvalid⟩
    exact Table.part_set_of_dropped (Option.not_isSome_iff_eq_none.mp hnew) (decide_eq_false hne)

theorem rests_update {other : String} {updated : UpdateCollection}
    (hcalm : ¬ Disturbs reference userId database collectionId (.updateCollection other updated))
    (hupdate : update database userId other updated = .ok next) :
    Rests reference userId database next collectionId .done := by
  simp only [update] at hupdate
  split_ifs at hupdate with howns hname htext htaken
  · cases hupdate
    refine ⟨?_, rfl, not_shows_of_nil rfl⟩
    obtain ⟨row, hrow, howner, hinactive⟩ := hhidden
    rw [Hidden, Database.updateCollections, Table.get?_mapValues, hrow]
    refine ⟨_, rfl, ?_⟩
    dsimp only
    split_ifs with hupdated
    · refine ⟨howner, fun hactive => ?_⟩
      cases hset : updated.isActive with
      | none =>
        rw [hset] at hactive
        exact hinactive hactive
      | some given =>
        rw [hset, Option.getD_some] at hactive
        rw [Bool.eq_false_iff]
        intro huser
        obtain ⟨rfl, -⟩ := hupdated
        exact hcalm ⟨rfl, hset.trans (congrArg some hactive), ⟨hname, htext, htaken⟩, huser⟩
    · exact ⟨howner, hinactive⟩
  · cases hupdate
    exact rests_self hhidden (not_shows_of_nil rfl)

theorem rests_getEntry {other itemId : String} {reply : Reply}
    (hcalm : ¬ Disturbs reference userId database collectionId (.getEntry other itemId))
    (hreply : validated (findEntry reference database userId itemId other) = .ok reply) :
    Rests reference userId database database collectionId reply := by
  refine rests_self hhidden (not_shows_of_validated ?_ hreply)
  rintro rfl
  exact hcalm ⟨rfl, isSome_of_validated hreply⟩

theorem rests_listEntries {other : String} {limit offset : Int} {isWishlist : Option Bool}
    {rows : List EntryRow} {page : List PublicCollectionEntry}
    (hlisted : (get reference database userId other).isSome)
    (hrows : getAllEntries reference database userId other limit offset isWishlist = .ok rows)
    (hpage : rows.mapM modelValidate = some page) :
    Rests reference userId database database collectionId (.entries page) := by
  refine rests_self hhidden ?_
  rintro ⟨given, hgiven, itemId, hshown, item, hitem, hcollection⟩
  cases hgiven
  obtain ⟨row, hrow, rfl⟩ := shown_of_mapM hpage hshown
  obtain ⟨stored, hstored, hother⟩ := mem_getAllEntries hrows hrow
  obtain rfl := Option.some.inj (hstored.symm.trans hitem)
  obtain rfl := hother.symm.trans hcollection
  rw [hhidden.get_eq_none] at hlisted
  cases hlisted

theorem rests_updateEntryStatus {other itemId : String} {status : EntryStatus} {reply : Reply}
    (hcalm : ¬ Disturbs reference userId database collectionId
      (.updateEntryStatus other itemId status))
    (hset : setEntryStatus database userId itemId other status = some next)
    (hreply : validated (findEntry reference next userId itemId other) = .ok reply) :
    Rests reference userId database next collectionId reply := by
  simp only [setEntryStatus] at hset
  split_ifs at hset
  cases hset
  have hne : other ≠ collectionId := by
    rintro rfl
    refine hcalm ⟨rfl, ?_⟩
    rw [← isSome_findEntry_updateStatus status]
    exact isSome_of_validated hreply
  exact ⟨hhidden.of_row rfl, itemsOf_updateStatus fun id item => isEntry_of_ne hne id item,
    not_shows_of_validated hne hreply⟩

theorem rests_deleteEntry {other itemId : String}
    (hcalm : ¬ Disturbs reference userId database collectionId (.deleteEntry other itemId))
    (hremove : removeEntry database userId itemId other = some next) :
    Rests reference userId database next collectionId .done := by
  simp only [removeEntry] at hremove
  split_ifs at hremove with hentry
  cases hremove
  have hne : other ≠ collectionId := by
    rintro rfl
    exact hcalm ⟨rfl, hentry⟩
  exact ⟨hhidden.of_row rfl, itemsOf_deleteItems fun id item => isEntry_of_ne hne id item,
    not_shows_of_nil rfl⟩

/-- A service that does not disturb the collection. -/
theorem rests_of_serve {action : Action} {reply : Reply}
    (hcalm : ¬ Disturbs reference userId database collectionId action.request)
    (hserve : serve reference database userId action.newId action.now action.request =
      .ok (reply, next)) :
    Rests reference userId database next collectionId reply := by
  obtain ⟨request, newId, now⟩ := action
  cases request with
  | addCollection created =>
    simp only [serve] at hserve
    split at hserve
    next row added hadd =>
      cases hserve
      exact rests_add hhidden hadd
    next => cases hserve
  | getCollection other =>
    simp only [serve] at hserve
    split at hserve <;> cases hserve
    exact rests_self hhidden (not_shows_of_nil rfl)
  | getAllCollections =>
    cases hserve
    exact rests_self hhidden (not_shows_of_nil rfl)
  | getMany others =>
    cases others with
    | nil => cases hserve
    | cons =>
      simp only [serve] at hserve
      split at hserve <;> cases hserve
      exact rests_self hhidden (not_shows_of_nil rfl)
  | updateCollection other updated =>
    simp only [serve] at hserve
    split_ifs at hserve
    split at hserve
    next changed hupdate =>
      cases hserve
      exact rests_update hhidden hcalm hupdate
    next => cases hserve
  | deleteCollection other =>
    cases hserve
    exact rests_delete hhidden other
  | addEntry other request =>
    simp only [serve, addEntry] at hserve
    cases hversion : resolveVersion reference request with
    | error =>
      rw [hversion] at hserve
      cases hserve
    | ok cardVersionId =>
      rw [hversion] at hserve
      simp only [bind, Except.bind] at hserve
      split_ifs at hserve with hget hstored
      exact rests_insertEntry hhidden
        (Option.ne_none_iff_isSome.mp (Option.isNone_iff_eq_none.not.mp hget)) hserve
  | getEntry other itemId =>
    simp only [serve] at hserve
    split at hserve
    next row hfind =>
      cases hvalid : validated (some row) with
      | error => rw [hvalid] at hserve; cases hserve
      | ok given =>
        rw [hvalid] at hserve
        cases hserve
        exact rests_getEntry hhidden hcalm (hfind ▸ hvalid)
    next => cases hserve
  | listEntries other limit offset isWishlist =>
    simp only [serve] at hserve
    split_ifs at hserve with hget
    split at hserve
    · cases hserve
    next rows hrows =>
      split at hserve
      next page hpage =>
        cases hserve
        exact rests_listEntries hhidden
          (Option.ne_none_iff_isSome.mp (Option.isNone_iff_eq_none.not.mp hget)) hrows hpage
      next => cases hserve
  | updateEntryStatus other itemId status =>
    simp only [serve] at hserve
    split at hserve
    next changed hset =>
      cases hvalid : validated (findEntry reference changed userId itemId other) with
      | error => rw [hvalid] at hserve; cases hserve
      | ok given =>
        rw [hvalid] at hserve
        cases hserve
        exact rests_updateEntryStatus hhidden hcalm hset hvalid
    next => cases hserve
  | deleteEntry other itemId =>
    simp only [serve] at hserve
    split at hserve
    next changed hremove =>
      cases hserve
      exact rests_deleteEntry hhidden hcalm hremove
    next => cases hserve

end Rests

/-! ## What disturbs a collection -/

section Disturbs

variable {reference : Reference} {userId : String} {database : Database} {collectionId : String}

theorem shows_of_validated {itemId : String}
    (hvalid : ((findEntry reference database userId itemId collectionId).bind
      modelValidate).isSome) :
    ∃ reply, validated (findEntry reference database userId itemId collectionId) = .ok reply ∧
      Shows database collectionId (.ok reply) := by
  obtain ⟨entry, hentry⟩ := Option.isSome_iff_exists.mp hvalid
  have hreply : validated (findEntry reference database userId itemId collectionId) =
      .ok (.entry entry) := by rw [validated, hentry]
  obtain ⟨hids, item, hitem, hcollection⟩ := shown_of_validated hreply
  exact ⟨_, hreply, _, rfl, itemId, hids ▸ List.mem_singleton_self itemId, item, hitem,
    hcollection⟩

theorem isEntry_of_validated {itemId : String}
    (hvalid : ((findEntry reference database userId itemId collectionId).bind
      modelValidate).isSome) :
    (database.items.get? itemId).any (isEntry database userId collectionId itemId itemId) =
      true := by
  obtain ⟨entry, hentry⟩ := Option.isSome_iff_exists.mp hvalid
  obtain ⟨row, hfind, -⟩ := Option.bind_eq_some_iff.mp hentry
  obtain ⟨-, hstored, hmine⟩ := findEntry_eq_some hfind
  rw [hstored, Option.any_some, hmine]

/-- An update that makes the collection active lists it. -/
theorem listed_of_update (hhidden : Hidden reference userId database collectionId)
    {updated : UpdateCollection}
    (hdisturbs : Disturbs reference userId database collectionId
      (.updateCollection collectionId updated)) (newId : String) (now : Nat) :
    ¬ Unlisted reference userId
      (step reference userId database ⟨.updateCollection collectionId updated, newId, now⟩).1
      collectionId := by
  obtain ⟨-, hactive, ⟨hname, htext, htaken⟩, huser⟩ := hdisturbs
  obtain ⟨row, hrow, rfl, -⟩ := id hhidden
  have hset : ¬ (updated.collectionName = none ∧ updated.description = none ∧
      updated.isActive = none) := by
    rintro ⟨-, -, hnone⟩
    rw [hnone] at hactive
    cases hactive
  rw [unlisted_iff, ← Option.not_isSome_iff_eq_none, not_not, get_isSome_iff]
  simp only [step, serve, update, if_neg hset, hhidden.owns, if_true, if_neg hname, if_neg htext,
    if_neg htaken]
  rw [Database.updateCollections, Table.get?_mapValues, hrow, Option.map_some, if_pos ⟨rfl, rfl⟩]
  exact ⟨_, rfl, rfl, by rw [hactive]; rfl, huser⟩

theorem shows_of_getEntry {entryId : String}
    (hdisturbs : Disturbs reference userId database collectionId (.getEntry collectionId entryId))
    (newId : String) (now : Nat) :
    Shows (step reference userId database ⟨.getEntry collectionId entryId, newId, now⟩).1
      collectionId
      (step reference userId database ⟨.getEntry collectionId entryId, newId, now⟩).2 := by
  obtain ⟨reply, hreply, hshows⟩ := shows_of_validated hdisturbs.2
  cases hfind : findEntry reference database userId entryId collectionId with
  | none =>
    rw [hfind] at hreply
    cases hreply
  | some row =>
    rw [hfind] at hreply
    simpa only [step, serve, hfind, hreply, Except.map] using hshows

theorem shows_of_updateEntryStatus {entryId : String} {status : EntryStatus}
    (hdisturbs : Disturbs reference userId database collectionId
      (.updateEntryStatus collectionId entryId status)) (newId : String) (now : Nat) :
    Shows (step reference userId database
        ⟨.updateEntryStatus collectionId entryId status, newId, now⟩).1 collectionId
      (step reference userId database
        ⟨.updateEntryStatus collectionId entryId status, newId, now⟩).2 := by
  have hentry := isEntry_of_validated hdisturbs.2
  have hvalid := hdisturbs.2
  rw [← isSome_findEntry_updateStatus status] at hvalid
  obtain ⟨reply, hreply, hshows⟩ := shows_of_validated hvalid
  simpa only [step, serve, setEntryStatus, if_pos hentry, hreply, Except.map] using hshows

/-- The entry that is deleted was an item of the collection. -/
theorem itemsOf_of_deleteEntry {entryId : String}
    (hdisturbs : Disturbs reference userId database collectionId
      (.deleteEntry collectionId entryId)) (newId : String) (now : Nat) :
    itemsOf (step reference userId database
        ⟨.deleteEntry collectionId entryId, newId, now⟩).1 collectionId ≠
      itemsOf database collectionId := by
  obtain ⟨item, hstored, hentry⟩ := (Option.any_eq_true _ _).mp hdisturbs.2
  obtain ⟨-, hcollection, -⟩ := isEntry_iff.mp hentry
  simp only [step, serve, removeEntry, if_pos hdisturbs.2]
  intro hsame
  have hget := congrArg (fun items => items.get? entryId) hsame
  simp only [itemsOf, Database.deleteItems, Table.get?_part, Table.get?_deleteWhere, hstored,
    Option.filter_some, hentry, hcollection, decide_true, if_true, Bool.not_true,
    Bool.false_eq_true, if_false, Option.filter_none] at hget
  cases hget

end Disturbs

/-! ## Steps and runs -/

section Steps

variable {reference : Reference} {userId : String} {marked : Marked} {action : Action}

/-- Every collection that was deleted is hidden. -/
def AllHidden (reference : Reference) (userId : String) (marked : Marked) : Prop :=
  ∀ collection ∈ marked.deleted, Hidden reference userId marked.database collection.1

theorem mem_mark_of_mem {collection : String × String} (hmem : collection ∈ marked.deleted) :
    collection ∈ (mark reference userId marked action).deleted := by
  simp only [mark]
  split
  · split
    · split_ifs
      · exact List.mem_cons_of_mem _ hmem
      · exact hmem
    · exact hmem
  · exact hmem

/-- A collection that counts as deleted did before, or is deleted now. -/
theorem mem_of_mem_mark {collection : String × String}
    (hmem : collection ∈ (mark reference userId marked action).deleted) :
    collection ∈ marked.deleted ∨ action.request = .deleteCollection collection.1 ∧
      ∃ row, marked.database.collections.get? collection.1 = some row ∧ row.userId = userId ∧
        row.collectionName = collection.2 := by
  simp only [mark] at hmem
  split at hmem
  next deletedId hrequest =>
    split at hmem
    next row hrow =>
      split_ifs at hmem with howner
      · rcases List.mem_cons.mp hmem with rfl | hbefore
        · exact Or.inr ⟨hrequest, row, hrow, howner, rfl⟩
        · exact Or.inl hbefore
      · exact Or.inl hmem
    next => exact Or.inl hmem
  next => exact Or.inl hmem

theorem hidden_of_delete {collectionId : String} {row : Collection}
    (hrow : marked.database.collections.get? collectionId = some row) (howner : row.userId = userId)
    (hrequest : action.request = .deleteCollection collectionId) :
    Hidden reference userId (mark reference userId marked action).database collectionId := by
  simp only [mark, step, hrequest, serve]
  rw [Hidden, delete, Database.updateCollections, Table.get?_mapValues, hrow, Option.map_some,
    if_pos ⟨rfl, howner⟩]
  exact ⟨_, rfl, howner, fun hactive => by cases hactive⟩

theorem allHidden_mark (hall : AllHidden reference userId marked)
    (hcalm : Undisturbed reference userId marked action) :
    AllHidden reference userId (mark reference userId marked action) := by
  intro collection hmem
  rcases mem_of_mem_mark hmem with hbefore | ⟨hrequest, row, hrow, howner, -⟩
  · have hhidden := hall collection hbefore
    simp only [mark, step]
    split
    next reply next hserve =>
      exact (rests_of_serve hhidden (hcalm collection hbefore) hserve).hidden
    next => exact hhidden
  · exact hidden_of_delete hrow howner hrequest

theorem staysHidden_of_undisturbed (hall : AllHidden reference userId marked)
    (hcalm : Undisturbed reference userId marked action) :
    StaysHidden reference userId marked action where
  entries := by
    intro collection hmem
    have hhidden := hall collection hmem
    simp only [mark, step]
    split
    next reply next hserve =>
      have hrests := rests_of_serve hhidden (hcalm collection hmem) hserve
      exact ⟨hrests.items, hrests.unseen⟩
    next =>
      refine ⟨rfl, ?_⟩
      rintro ⟨reply, hreply, -⟩
      cases hreply
  listings collection hmem := (allHidden_mark hall hcalm collection hmem).unlisted

/-- A request that disturbs a collection that was deleted makes it listed, or shows an entry of it
or removes one. -/
theorem undisturbed_of_staysHidden (hall : AllHidden reference userId marked)
    (hstays : StaysHidden reference userId marked action) :
    Undisturbed reference userId marked action := by
  intro collection hmem hdisturbs
  obtain ⟨request, newId, now⟩ := action
  obtain ⟨hsame, hunseen⟩ := hstays.entries collection hmem
  cases request with
  | updateCollection other updated =>
    obtain rfl : other = collection.1 := hdisturbs.1
    exact listed_of_update (hall collection hmem) hdisturbs newId now
      (hstays.listings collection (mem_mark_of_mem hmem))
  | getEntry other entryId =>
    obtain rfl : other = collection.1 := hdisturbs.1
    exact hunseen (shows_of_getEntry hdisturbs newId now)
  | updateEntryStatus other entryId status =>
    obtain rfl : other = collection.1 := hdisturbs.1
    exact hunseen (shows_of_updateEntryStatus hdisturbs newId now)
  | deleteEntry other entryId =>
    obtain rfl : other = collection.1 := hdisturbs.1
    exact itemsOf_of_deleteEntry hdisturbs newId now hsame
  | _ => exact hdisturbs

/-- The name of a collection of the user is taken, active or not. -/
theorem not_creatable {database : Database} {collectionId : String} {row : Collection}
    (hrow : database.collections.get? collectionId = some row) (howner : row.userId = userId) :
    ¬ Creatable reference userId database row.collectionName := by
  rintro ⟨created, hname, hcreated⟩
  obtain ⟨newId, hnew⟩ := database.collections.exists_new
  obtain ⟨reply, hreply⟩ := hcreated newId 0 hnew
  have hne := Table.ne_of_new hnew hrow
  have htaken : taken database userId newId created.collectionName = true := by
    refine List.any_eq_true.mpr ⟨(collectionId, row), (Table.mem_rows_iff _ _ _).mpr hrow, ?_⟩
    simp only [hname, howner, hne, ne_eq, not_false_eq_true, decide_true, Bool.and_self]
  simp only [step, serve, add, hnew, Option.isSome_none, Bool.false_eq_true, if_false, htaken,
    if_true, reduceCtorEq] at hreply

theorem noDeletion_of_staysDeleted (hstays : StaysDeleted reference userId marked action) :
    NoDeletion userId marked action := by
  intro collectionId hrequest
  rw [Bool.eq_false_iff]
  intro howns
  simp only [Database.owns, Option.any_eq_true, decide_eq_true_eq] at howns
  obtain ⟨row, hrow, howner⟩ := howns
  have hmem : (collectionId, row.collectionName) ∈
      (mark reference userId marked action).deleted := by
    simp only [mark, hrequest, hrow, if_pos howner]
    exact List.mem_cons_self
  have hnext : (mark reference userId marked action).database.collections.get? collectionId =
      some { row with isActive := some false } := by
    simp only [mark, step, hrequest, serve, delete, Database.updateCollections,
      Table.get?_mapValues, hrow, Option.map_some, howner, and_self, if_true]
  exact not_creatable hnext howner (hstays.names _ hmem)

theorem deleted_of_noDeletion (hnone : NoDeletion userId marked action) :
    (mark reference userId marked action).deleted = marked.deleted := by
  simp only [mark]
  split
  next collectionId hrequest =>
    have hforeign := hnone collectionId hrequest
    split
    next row hrow =>
      rw [if_neg fun howner => ?_]
      rw [Database.owns, hrow, Option.any_some, howner, decide_eq_true rfl] at hforeign
      cases hforeign
    next => rfl
  next => rfl

theorem staysDeleted_of_empty (hempty : (mark reference userId marked action).deleted = []) :
    StaysDeleted reference userId marked action where
  entries collection hmem := by
    have hafter : collection ∈ (mark reference userId marked action).deleted := mem_mark_of_mem hmem
    rw [hempty] at hafter
    cases hafter
  listings collection hmem := by
    rw [hempty] at hmem
    cases hmem
  names collection hmem := by
    rw [hempty] at hmem
    cases hmem

end Steps

/-- A run deletes collections for good when it deletes none: the name of a collection stays taken.
Entries of the collections that were deleted are not shown or changed, and the collections not
listed, exactly when no request disturbs one. -/
theorem deletes_for_good_iff (reference : Reference) (userId : String) (database : Database)
    (actions : List Action) :
    (Run.StepsMeet (mark reference userId) (StaysDeleted reference userId) ⟨database, []⟩ actions ↔
      Run.StepsMeet (mark reference userId) (NoDeletion userId) ⟨database, []⟩ actions) ∧
    (Run.StepsMeet (mark reference userId) (StaysHidden reference userId) ⟨database, []⟩ actions ↔
      Run.StepsMeet (mark reference userId) (Undisturbed reference userId) ⟨database, []⟩
        actions) := by
  constructor
  · have hagree : ∀ (marked : Marked) (action : Action), marked.deleted = [] →
        (StaysDeleted reference userId marked action ↔ NoDeletion userId marked action) := by
      intro marked action hempty
      refine ⟨noDeletion_of_staysDeleted, fun hnone => staysDeleted_of_empty ?_⟩
      rw [deleted_of_noDeletion hnone, hempty]
    refine Run.stepsMeet_congr hagree (fun marked action hempty hnone => ?_) rfl
    rw [deleted_of_noDeletion hnone, hempty]
  · have hagree : ∀ (marked : Marked) (action : Action), AllHidden reference userId marked →
        (StaysHidden reference userId marked action ↔
          Undisturbed reference userId marked action) := fun marked action hall =>
      ⟨undisturbed_of_staysHidden hall, staysHidden_of_undisturbed hall⟩
    refine Run.stepsMeet_congr hagree (fun marked action => allHidden_mark) ?_
    intro collection hmem
    cases hmem

/-! ## A collection that is deleted and still used -/

def oneUser : Reference where
  users := .single "1" "ada"
  versions := .single "v" ⟨"Forest", "lea", some "294", none⟩
  scryfallIds := []
  finishes := .single 1 "NONFOIL"
  languages := [1]
  sparks := .single "v" ⟨some 100, some 0⟩
  listings := .empty

/-- A collection of the user, with one item. -/
def oneCard : Database where
  collections := .single "c" ⟨"binder", "", "1", 0, some true⟩
  items := .single "i" ⟨"c", "v", 1, 0, 100, .NM, "USD", some 1, .purchased, none, false⟩
  references itemId item hitem := by
    rw [Table.get?_single] at hitem
    split_ifs at hitem
    rw [← Option.some.inj hitem]
    rfl

def deletion : Action := ⟨.deleteCollection "c", "", 1⟩

def afterDeletion : Marked := mark oneUser "1" ⟨oneCard, []⟩ deletion

theorem allHidden_afterDeletion : AllHidden oneUser "1" afterDeletion :=
  allHidden_mark (fun _ hmem => by cases hmem) fun _ hmem => by cases hmem

theorem mem_afterDeletion : ("c", "binder") ∈ afterDeletion.deleted := List.mem_cons_self

/-- The collection is deleted. Its entry is still read, its status set, and the entry deleted; and
the name of the collection is not free. -/
theorem entries_outlive_deletion :
    (∀ request ∈ [Request.getEntry "c" "i", .updateEntryStatus "c" "i" .sold, .deleteEntry "c" "i"],
      ¬ Run.StepsMeet (mark oneUser "1") (StaysHidden oneUser "1") ⟨oneCard, []⟩
        [deletion, ⟨request, "", 2⟩]) ∧
    ¬ Run.StepsMeet (mark oneUser "1") (StaysDeleted oneUser "1") ⟨oneCard, []⟩ [deletion] := by
  constructor
  · intro request hrequest hmeet
    have hcalm := undisturbed_of_staysHidden allHidden_afterDeletion hmeet.2.1 _ mem_afterDeletion
    simp only [List.mem_cons, List.not_mem_nil, or_false] at hrequest
    rcases hrequest with rfl | rfl | rfl
    · exact hcalm ⟨rfl, by decide⟩
    · exact hcalm ⟨rfl, by decide⟩
    · exact hcalm ⟨rfl, by decide⟩
  · intro hmeet
    exact Bool.false_ne_true (noDeletion_of_staysDeleted hmeet.1 "c" rfl).symm

end AutoMana.Collections
