import AutoMana.Collections.Services
import AutoMana.Relational.Parts
import AutoMana.Relational.Views

/-!
# Collections of other users

A service reads and writes nothing but the collections of its user and their items: over the
part of the database that is the user's it replies the same and writes the same.
-/

namespace AutoMana.Collections

open Relational

/-! ## The part of a user -/

namespace Database

theorem owns_iff {database : Database} {userId collectionId : String} :
    database.owns userId collectionId = true ↔
      ∃ row, database.collections.get? collectionId = some row ∧ row.userId = userId := by
  simp only [owns, Option.any_eq_true, decide_eq_true_eq]

def isOwn (userId : String) (_ : String) (row : Collection) : Bool := decide (row.userId = userId)

def holds (database : Database) (userId : String) (_ : String) (item : Item) : Bool :=
  database.owns userId item.collectionId

/-- The collections of a user and their items. -/
def restrict (userId : String) (database : Database) : Database where
  collections := database.collections.part (isOwn userId)
  items := database.items.part (database.holds userId)
  references itemId item hitem := by
    rw [Table.get?_part] at hitem
    obtain ⟨row, hrow, howner⟩ := owns_iff.mp (Option.filter_eq_some_iff.mp hitem).2
    rw [Table.get?_part, hrow, Option.filter_some, isOwn, if_pos (decide_eq_true howner)]
    rfl

variable (userId : String) (database : Database)

@[simp] theorem owns_restrict (collectionId : String) :
    (database.restrict userId).owns userId collectionId = database.owns userId collectionId := by
  simp only [owns, restrict, Table.get?_part]
  cases hrow : database.collections.get? collectionId with
  | none => rfl
  | some row => by_cases howner : row.userId = userId <;> simp [Option.filter_some, isOwn, howner]

/-- A collection has one owner. -/
theorem not_owns_of_ne {other collectionId : String} (hne : other ≠ userId)
    (howns : database.owns other collectionId = true) :
    database.owns userId collectionId = false := by
  obtain ⟨row, hrow, rfl⟩ := owns_iff.mp howns
  rw [owns, hrow, Option.any_some, decide_eq_false hne]

theorem restrict_updateCollections {change : String → Collection → Collection}
    (hkeep : ∀ id row, (change id row).userId = row.userId) :
    (database.updateCollections change).restrict userId =
      (database.restrict userId).updateCollections change := by
  have howns : ∀ collectionId, (database.updateCollections change).owns userId collectionId =
      database.owns userId collectionId := by
    intro collectionId
    simp only [owns, updateCollections, Table.get?_mapValues]
    cases database.collections.get? collectionId with
    | none => rfl
    | some row => simp only [Option.map_some, Option.any_some, hkeep]
  apply Database.ext
  · change (database.collections.mapValues change).part (isOwn userId) = _
    exact Table.part_mapValues _ fun id row => by rw [isOwn, isOwn, hkeep]
  · exact @Table.part_congr _ _ database.items ((database.updateCollections change).holds userId) _
      fun row _ => howns row.2.collectionId

/-- An item is not of a collection that is new. -/
theorem owns_insertCollection {newId : String} {row : Collection}
    (hnew : database.collections.get? newId = none) {itemId : String} {item : Item}
    (hitem : (itemId, item) ∈ database.items.rows) :
    (database.insertCollection newId row).owns userId item.collectionId =
      database.owns userId item.collectionId := by
  have hstored := database.references itemId item ((Table.mem_rows_iff _ _ _).mp hitem)
  have hne : item.collectionId ≠ newId := by
    rintro heq
    rw [heq, hnew] at hstored
    cases hstored
  rw [owns, insertCollection, Table.get?_set, if_neg hne, owns]

theorem restrict_insertCollection {newId : String} {row : Collection}
    (hnew : database.collections.get? newId = none) (howner : row.userId = userId) :
    (database.insertCollection newId row).restrict userId =
      (database.restrict userId).insertCollection newId row := by
  apply Database.ext
  · change (database.collections.set newId row).part (isOwn userId) = _
    exact Table.part_set_of_kept hnew (decide_eq_true howner)
  · exact @Table.part_congr _ _ database.items
      ((database.insertCollection newId row).holds userId) _
      fun item hitem => owns_insertCollection userId database hnew hitem

theorem restrict_insertCollection_of_ne {newId : String} {row : Collection}
    (hnew : database.collections.get? newId = none) (hne : row.userId ≠ userId) :
    (database.insertCollection newId row).restrict userId = database.restrict userId := by
  apply Database.ext
  · change (database.collections.set newId row).part (isOwn userId) = _
    exact Table.part_set_of_dropped hnew (decide_eq_false hne)
  · exact @Table.part_congr _ _ database.items
      ((database.insertCollection newId row).holds userId) _
      fun item hitem => owns_insertCollection userId database hnew hitem

theorem restrict_insertItem {newId : String} {item : Item}
    (hstored : (database.collections.get? item.collectionId).isSome)
    (hpart : ((database.restrict userId).collections.get? item.collectionId).isSome)
    (hnew : database.items.get? newId = none)
    (howns : database.owns userId item.collectionId = true) :
    (database.insertItem newId item hstored).restrict userId =
      (database.restrict userId).insertItem newId item hpart := by
  apply Database.ext
  · rfl
  · change (database.items.set newId item).part (database.holds userId) = _
    exact Table.part_set_of_kept hnew howns

theorem restrict_insertItem_of_ne {newId : String} {item : Item}
    (hstored : (database.collections.get? item.collectionId).isSome)
    (hnew : database.items.get? newId = none)
    (howns : database.owns userId item.collectionId = false) :
    (database.insertItem newId item hstored).restrict userId = database.restrict userId := by
  apply Database.ext
  · rfl
  · change (database.items.set newId item).part (database.holds userId) = _
    exact Table.part_set_of_dropped hnew howns

theorem restrict_updateStatus (selected : String → Item → Bool) (status : EntryStatus) :
    (database.updateStatus selected status).restrict userId =
      (database.restrict userId).updateStatus selected status := by
  apply Database.ext
  · rfl
  · change (database.items.mapValues _).part (database.holds userId) = _
    refine Table.part_mapValues _ fun id item => ?_
    split_ifs <;> rfl

theorem restrict_deleteItems (selected : String → Item → Bool) :
    (database.deleteItems selected).restrict userId =
      (database.restrict userId).deleteItems selected := by
  apply Database.ext
  · rfl
  · exact Table.part_deleteWhere database.items (database.holds userId) selected

end Database

open Database

/-! ## What is read -/

section Reads

variable (reference : Reference) (database : Database) (userId : String)

@[simp] theorem get_restrict (collectionId : String) :
    get reference (database.restrict userId) userId collectionId =
      get reference database userId collectionId := by
  simp only [get, restrict, Table.get?_part]
  cases database.collections.get? collectionId with
  | none => rfl
  | some row =>
    by_cases howner : row.userId = userId
    · simp [Option.filter_some, isOwn, howner]
    · simp [Option.filter_some, isOwn, howner]

@[simp] theorem getAll_restrict :
    getAll reference (database.restrict userId) userId = getAll reference database userId := by
  refine Table.filter_rows_part _ fun row hselected => ?_
  simp only [Bool.and_eq_true] at hselected
  exact hselected.1.1

@[simp] theorem taken_restrict (collectionId collectionName : String) :
    taken (database.restrict userId) userId collectionId collectionName =
      taken database userId collectionId collectionName := by
  refine Table.any_rows_part _ fun row hselected => ?_
  simp only [Bool.and_eq_true] at hselected
  exact hselected.1.2

@[simp] theorem isEntry_restrict :
    isEntry (database.restrict userId) userId = isEntry database userId := by
  funext collectionId itemId id item
  simp only [isEntry, owns_restrict]

/-- An item that is selected as an entry is in the part of its user. -/
theorem filter_items_restrict (collectionId itemId : String) :
    ((database.restrict userId).items.get? itemId).filter
        (isEntry database userId collectionId itemId itemId) =
      (database.items.get? itemId).filter (isEntry database userId collectionId itemId itemId) := by
  rw [restrict, Table.get?_part, Option.filter_filter]
  congr 1
  funext item
  simp only [isEntry, holds]
  cases database.owns userId item.collectionId <;> simp

@[simp] theorem findEntry_restrict (itemId collectionId : String) :
    findEntry reference (database.restrict userId) userId itemId collectionId =
      findEntry reference database userId itemId collectionId := by
  rw [findEntry, findEntry, isEntry_restrict, filter_items_restrict]

@[simp] theorem getAllEntries_restrict (collectionId : String) (limit offset : Int)
    (isWishlist : Option Bool) :
    getAllEntries reference (database.restrict userId) userId collectionId limit offset
        isWishlist =
      getAllEntries reference database userId collectionId limit offset isWishlist := by
  simp only [getAllEntries, owns_restrict]
  rw [restrict, Table.filter_rows_part]
  intro row hselected
  simp only [Bool.and_eq_true] at hselected
  exact hselected.1.2

end Reads

/-! ## What is written -/

section Writes

variable (reference : Reference) (database : Database) (userId : String)

/-- The id that is new in a call is not taken; `uuid_generate_v4()` sees to it. -/
def Fresh (database : Database) (action : Action) : Prop :=
  match action.request with
  | .addCollection _ => database.collections.get? action.newId = none
  | .addEntry .. => database.items.get? action.newId = none
  | _ => True

theorem update_restrict (collectionId : String) (updated : UpdateCollection) :
    update (database.restrict userId) userId collectionId updated =
      (update database userId collectionId updated).map (restrict userId) := by
  simp only [update, owns_restrict]
  rw [show taken (database.restrict userId) userId collectionId =
    taken database userId collectionId from funext fun name => taken_restrict _ _ _ _]
  split_ifs <;> simp only [Except.map]
  rw [restrict_updateCollections]
  intro id row
  split_ifs <;> rfl

theorem delete_restrict (collectionId : String) :
    delete (database.restrict userId) userId collectionId =
      (delete database userId collectionId).restrict userId := by
  rw [delete, delete, restrict_updateCollections]
  intro id row
  split_ifs <;> rfl

theorem any_items_restrict (collectionId itemId : String) :
    ((database.restrict userId).items.get? itemId).any
        (isEntry database userId collectionId itemId itemId) =
      (database.items.get? itemId).any (isEntry database userId collectionId itemId itemId) := by
  rw [← Option.isSome_filter, ← Option.isSome_filter, filter_items_restrict]

theorem setEntryStatus_restrict (itemId collectionId : String) (status : EntryStatus) :
    setEntryStatus (database.restrict userId) userId itemId collectionId status =
      (setEntryStatus database userId itemId collectionId status).map (restrict userId) := by
  simp only [setEntryStatus, isEntry_restrict, any_items_restrict, ← restrict_updateStatus]
  split_ifs <;> rfl

theorem removeEntry_restrict (itemId collectionId : String) :
    removeEntry (database.restrict userId) userId itemId collectionId =
      (removeEntry database userId itemId collectionId).map (restrict userId) := by
  simp only [removeEntry, isEntry_restrict, any_items_restrict, ← restrict_deleteItems]
  split_ifs <;> rfl

theorem add_restrict {newId : String} (hnew : database.collections.get? newId = none) (now : Nat)
    (created : CreateCollection) :
    add reference (database.restrict userId) userId newId now created =
      (add reference database userId newId now created).map
        fun result => (result.1, result.2.restrict userId) := by
  have hpart : (database.restrict userId).collections.get? newId = none := by
    rw [restrict, Table.get?_part, hnew, Option.filter_none]
  simp only [add, hnew, hpart, taken_restrict]
  split_ifs <;> simp only [Except.map]
  rw [restrict_insertCollection userId database hnew (by rfl)]

theorem of_map_ok {reply : Except Error Reply} {next : Database} {result : Reply × Database}
    (hmap : reply.map (·, next) = .ok result) : result.2 = next := by
  cases reply with
  | error => cases hmap
  | ok given => cases hmap; rfl

theorem map_restrict (reply : Except Error Reply) (next : Database) :
    reply.map (·, next.restrict userId) =
      (reply.map (·, next)).map fun result => (result.1, result.2.restrict userId) := by
  cases reply <;> rfl

theorem owns_of_get {collectionId : String}
    (hget : (get reference database userId collectionId).isSome) :
    database.owns userId collectionId = true := by
  obtain ⟨collection, hcollection⟩ := Option.isSome_iff_exists.mp hget
  obtain ⟨row, hrow, hcollection⟩ := Option.bind_eq_some_iff.mp hcollection
  obtain ⟨username, -, hcollection⟩ := Option.bind_eq_some_iff.mp hcollection
  split_ifs at hcollection with howner
  exact owns_iff.mpr ⟨row, hrow, howner.1⟩

theorem insertEntry_restrict {newId collectionId : String}
    (hnew : database.items.get? newId = none)
    (howns : database.owns userId collectionId = true) (cardVersionId : String)
    (request : AddCollectionEntryRequest)
    (hstored : (database.collections.get? collectionId).isSome)
    (hpart : ((database.restrict userId).collections.get? collectionId).isSome) :
    insertEntry reference (database.restrict userId) userId newId collectionId cardVersionId
        request hpart =
      (insertEntry reference database userId newId collectionId cardVersionId request hstored).map
        fun result => (result.1, result.2.restrict userId) := by
  have hnewPart : (database.restrict userId).items.get? newId = none := by
    rw [restrict, Table.get?_part, hnew, Option.filter_none]
  simp only [insertEntry, hnew, hnewPart]
  split_ifs <;> simp only [Except.map]
  rw [← restrict_insertItem userId database hstored hpart hnew howns, findEntry_restrict]
  exact map_restrict userId _ _

theorem addEntry_restrict {newId : String} (hnew : database.items.get? newId = none)
    (collectionId : String) (request : AddCollectionEntryRequest) :
    addEntry reference (database.restrict userId) userId newId collectionId request =
      (addEntry reference database userId newId collectionId request).map
        fun result => (result.1, result.2.restrict userId) := by
  simp only [addEntry, get_restrict]
  cases resolveVersion reference request with
  | error => rfl
  | ok cardVersionId =>
    cases hget : get reference database userId collectionId with
    | none => rfl
    | some collection =>
      have howns := owns_of_get reference database userId (Option.isSome_of_eq_some hget)
      obtain ⟨row, hrow, howner⟩ := owns_iff.mp howns
      have hstored := Option.isSome_of_eq_some hrow
      have hpart : ((database.restrict userId).collections.get? collectionId).isSome := by
        rw [restrict, Table.get?_part, hrow, Option.filter_some, isOwn,
          if_pos (decide_eq_true howner)]
        rfl
      simp only [bind, Except.bind, Option.isNone_some, Bool.false_eq_true, if_false,
        dif_pos hstored, dif_pos hpart]
      exact insertEntry_restrict reference database userId hnew howns cardVersionId request hstored
        hpart

/-- Over the part of its user a service replies and writes the same. -/
theorem serve_restrict {action : Action} (hfresh : Fresh database action) :
    serve reference (database.restrict userId) userId action.newId action.now action.request =
      (serve reference database userId action.newId action.now action.request).map
        fun result => (result.1, result.2.restrict userId) := by
  obtain ⟨request, newId, now⟩ := action
  cases request with
  | addCollection created =>
    simp only [serve, add_restrict reference database userId hfresh]
    cases add reference database userId newId now created <;> rfl
  | getCollection collectionId =>
    simp only [serve, get_restrict]
    cases get reference database userId collectionId <;> rfl
  | getAllCollections =>
    simp only [serve, getAll_restrict]
    rfl
  | getMany collectionIds =>
    cases collectionIds with
    | nil => rfl
    | cons =>
      simp only [serve, getAll_restrict]
      split <;> rfl
  | updateCollection collectionId updated =>
    simp only [serve, update_restrict]
    split_ifs
    · rfl
    · cases update database userId collectionId updated <;> rfl
  | deleteCollection collectionId =>
    simp only [serve, delete_restrict]
    rfl
  | addEntry collectionId request =>
    exact addEntry_restrict reference database userId hfresh collectionId request
  | getEntry collectionId entryId =>
    simp only [serve, findEntry_restrict]
    cases findEntry reference database userId entryId collectionId with
    | none => rfl
    | some row => exact map_restrict userId (validated (some row)) database
  | listEntries collectionId limit offset isWishlist =>
    simp only [serve, get_restrict, getAllEntries_restrict]
    split_ifs
    · rfl
    · cases getAllEntries reference database userId collectionId limit offset isWishlist with
      | error => rfl
      | ok rows =>
        dsimp only
        cases rows.mapM modelValidate <;> rfl
  | updateEntryStatus collectionId entryId status =>
    simp only [serve, setEntryStatus_restrict]
    cases setEntryStatus database userId entryId collectionId status with
    | none => rfl
    | some next =>
      simp only [Option.map_some, findEntry_restrict]
      exact map_restrict userId _ next
  | deleteEntry collectionId entryId =>
    simp only [serve, removeEntry_restrict]
    cases removeEntry database userId entryId collectionId <;> rfl

end Writes

/-! ## What is written of another user -/

section Others

variable {reference : Reference} {database next : Database} {userId other : String}
  (hne : other ≠ userId)
include hne

theorem updateCollections_of_ne {change : String → Collection → Collection}
    (hkeep : ∀ id row, (change id row).userId = row.userId)
    (hown : ∀ id row, row.userId ≠ userId → change id row = row) :
    (database.updateCollections change).restrict other = database.restrict other := by
  rw [restrict_updateCollections other database hkeep]
  apply Database.ext
  · refine Table.mapValues_of_same _ fun row hrow => hown _ _ ?_
    rw [restrict, Table.rows_part, List.mem_filter] at hrow
    rw [of_decide_eq_true hrow.2]
    exact hne
  · rfl

/-- An item that another user holds is no entry of the user. -/
theorem isEntry_eq_false {row : String × Item} (hrow : row ∈ (database.restrict other).items.rows)
    (collectionId itemId : String) :
    isEntry database userId collectionId itemId row.1 row.2 = false := by
  rw [restrict, Table.rows_part, List.mem_filter] at hrow
  rw [isEntry, not_owns_of_ne userId database hne hrow.2, Bool.and_false]

theorem add_of_ne {newId : String} {now : Nat} {created : CreateCollection} {row : Collection}
    (hadd : add reference database userId newId now created = .ok (row, next)) :
    next.restrict other = database.restrict other := by
  simp only [add] at hadd
  split_ifs at hadd with hnew
  cases hadd
  exact restrict_insertCollection_of_ne other database (Option.not_isSome_iff_eq_none.mp hnew)
    hne.symm

theorem update_of_ne {collectionId : String} {updated : UpdateCollection}
    (hupdate : update database userId collectionId updated = .ok next) :
    next.restrict other = database.restrict other := by
  simp only [update] at hupdate
  split_ifs at hupdate
  · cases hupdate
    refine updateCollections_of_ne hne (fun id row => ?_) fun id row howner => ?_
    · split_ifs <;> rfl
    · rw [if_neg fun hmine => howner hmine.2]
  · cases hupdate
    rfl

theorem delete_of_ne (collectionId : String) :
    (delete database userId collectionId).restrict other = database.restrict other := by
  refine updateCollections_of_ne hne (fun id row => ?_) fun id row howner => ?_
  · split_ifs <;> rfl
  · rw [if_neg fun hmine => howner hmine.2]

theorem setEntryStatus_of_ne {itemId collectionId : String} {status : EntryStatus}
    (hset : setEntryStatus database userId itemId collectionId status = some next) :
    next.restrict other = database.restrict other := by
  simp only [setEntryStatus] at hset
  split_ifs at hset
  cases hset
  rw [restrict_updateStatus]
  apply Database.ext
  · rfl
  · simp only [updateStatus]
    refine Table.mapValues_of_same _ fun row hrow => ?_
    rw [if_neg (by rw [isEntry_eq_false hne hrow]; exact Bool.false_ne_true)]

theorem removeEntry_of_ne {itemId collectionId : String}
    (hremove : removeEntry database userId itemId collectionId = some next) :
    next.restrict other = database.restrict other := by
  simp only [removeEntry] at hremove
  split_ifs at hremove
  cases hremove
  rw [restrict_deleteItems]
  apply Database.ext
  · rfl
  · exact Table.deleteWhere_of_none _ fun row hrow => isEntry_eq_false hne hrow _ _

theorem insertEntry_of_ne {newId collectionId cardVersionId : String}
    {request : AddCollectionEntryRequest}
    {hstored : (database.collections.get? collectionId).isSome}
    (howns : database.owns userId collectionId = true) {reply : Reply}
    (hinsert : insertEntry reference database userId newId collectionId cardVersionId request
      hstored = .ok (reply, next)) :
    next.restrict other = database.restrict other := by
  simp only [insertEntry] at hinsert
  split_ifs at hinsert with hprice hnew
  rw [show next = _ from of_map_ok hinsert]
  exact restrict_insertItem_of_ne other database hstored (Option.not_isSome_iff_eq_none.mp hnew)
    (not_owns_of_ne other database hne.symm howns)

/-- A service changes no row of another user. -/
theorem serve_of_ne {action : Action} {reply : Reply}
    (hserve : serve reference database userId action.newId action.now action.request =
      .ok (reply, next)) :
    next.restrict other = database.restrict other := by
  obtain ⟨request, newId, now⟩ := action
  cases request with
  | addCollection created =>
    simp only [serve] at hserve
    split at hserve
    next row added hadd =>
      cases hserve
      exact add_of_ne hne hadd
    next => cases hserve
  | getCollection collectionId =>
    simp only [serve] at hserve
    split at hserve <;> cases hserve
    rfl
  | getAllCollections =>
    cases hserve
    rfl
  | getMany collectionIds =>
    cases collectionIds with
    | nil => cases hserve
    | cons =>
      simp only [serve] at hserve
      split at hserve <;> cases hserve
      rfl
  | updateCollection collectionId updated =>
    simp only [serve] at hserve
    split_ifs at hserve
    split at hserve
    next changed hupdate =>
      cases hserve
      exact update_of_ne hne hupdate
    next => cases hserve
  | deleteCollection collectionId =>
    cases hserve
    exact delete_of_ne hne collectionId
  | addEntry collectionId request =>
    simp only [serve, addEntry] at hserve
    cases hversion : resolveVersion reference request with
    | error =>
      rw [hversion] at hserve
      cases hserve
    | ok cardVersionId =>
      rw [hversion] at hserve
      simp only [bind, Except.bind] at hserve
      split_ifs at hserve with hget hstored
      have howns := owns_of_get reference database userId
        (Option.ne_none_iff_isSome.mp (Option.isNone_iff_eq_none.not.mp hget))
      exact insertEntry_of_ne hne howns hserve
  | getEntry collectionId entryId =>
    simp only [serve] at hserve
    split at hserve
    · rw [show next = _ from of_map_ok hserve]
    · cases hserve
  | listEntries collectionId limit offset isWishlist =>
    simp only [serve] at hserve
    split_ifs at hserve
    split at hserve
    · cases hserve
    · split at hserve <;> cases hserve
      rfl
  | updateEntryStatus collectionId entryId status =>
    simp only [serve] at hserve
    split at hserve
    next changed hset =>
      rw [show next = _ from of_map_ok hserve]
      exact setEntryStatus_of_ne hne hset
    next => cases hserve
  | deleteEntry collectionId entryId =>
    simp only [serve] at hserve
    split at hserve
    next changed hremove =>
      cases hserve
      exact removeEntry_of_ne hne hremove
    next => cases hserve

theorem step_of_ne (reference : Reference) (database : Database) (action : Action) :
    (step reference userId database action).1.restrict other = database.restrict other := by
  rw [step]
  split
  next reply next hserve => exact serve_of_ne hne hserve
  next => rfl

end Others

/-! ## Every run -/

section Runs

variable (reference : Reference) (userId : String)

/-- A call over the part of its user. -/
theorem step_restrict {database : Database} {action : Action} (hfresh : Fresh database action) :
    step reference userId (database.restrict userId) action =
      ((step reference userId database action).1.restrict userId,
        (step reference userId database action).2) := by
  rw [step, step, serve_restrict reference database userId hfresh]
  cases serve reference database userId action.newId action.now action.request <;> rfl

/-- Two databases in which the user has the same collections and items look the same. -/
theorem unwinds : Views.Unwinds (step reference userId)
    (fun first second => first.restrict userId = second.restrict userId) Fresh where
  answer first second action hsame hfirst hsecond := by
    have hanswer := congrArg Prod.snd (step_restrict reference userId hfirst)
    rw [hsame, step_restrict reference userId hsecond] at hanswer
    exact hanswer.symm
  state first second action hsame hfirst hsecond := by
    have hstate := congrArg Prod.fst (step_restrict reference userId hfirst)
    rw [hsame, step_restrict reference userId hsecond] at hstate
    exact hstate.symm

end Runs

/-- Whatever a user calls, with any ids, the replies depend on nothing but the collections and
items of the user, and no collection or item of another user is inserted, changed or deleted. -/
theorem collections_isolated (reference : Reference) (userId : String) (first second : Database)
    (actions : List Action) (hsame : first.restrict userId = second.restrict userId)
    (hfirst : Run.StepsMeet (fun database action => (step reference userId database action).1)
      Fresh first actions)
    (hsecond : Run.StepsMeet (fun database action => (step reference userId database action).1)
      Fresh second actions) :
    Views.answers (step reference userId) first actions =
        Views.answers (step reference userId) second actions ∧
      ∀ other ≠ userId, ∀ next ∈ Run.visited
        (fun database action => (step reference userId database action).1) first actions,
        next.restrict other = first.restrict other := by
  refine ⟨(unwinds reference userId).answers_eq hsame hfirst hsecond, fun other hne => ?_⟩
  have hstep : ∀ (database : Database) (action : Action),
      database.restrict other = first.restrict other →
      (step reference userId database action).1.restrict other = first.restrict other :=
    fun database action hkept => (step_of_ne hne reference database action).trans hkept
  exact Run.forall_visited (fun database action hkept _ => hstep database action hkept) rfl hfirst

/-! ## A user who asks for the collection of another -/

def twoUsers : Reference :=
  ⟨⟨[("1", "ada"), ("2", "bob")], by decide⟩, .empty, [], .empty, [], .empty, .empty⟩

def bobsItem : Item := ⟨"b", "v", 1, 0, 100, .NM, "USD", none, .purchased, none, false⟩

/-- A collection of the second user, with one item. -/
def bobsCards : Database where
  collections := .single "b" ⟨"cards", "", "2", 0, some true⟩
  items := .single "i" bobsItem
  references itemId item hitem := by
    rw [Table.get?_single] at hitem
    split_ifs at hitem
    rw [← Option.some.inj hitem]
    rfl

def nothingStored : Database := ⟨.empty, .empty, fun _ _ hitem => by cases hitem⟩

def prying : List Action :=
  [⟨.addCollection ⟨"cards", "", by decide, by decide⟩, "a", 1⟩, ⟨.getAllCollections, "", 2⟩,
    ⟨.deleteEntry "b" "i", "", 3⟩, ⟨.deleteCollection "b", "", 4⟩]

theorem prying_isolated :
    Views.answers (step twoUsers "1") bobsCards prying =
        Views.answers (step twoUsers "1") nothingStored prying ∧
      ∀ other ≠ "1", ∀ next ∈ Run.visited
        (fun database action => (step twoUsers "1" database action).1) bobsCards prying,
        next.restrict other = bobsCards.restrict other :=
  collections_isolated twoUsers "1" bobsCards nothingStored prying (Database.ext rfl rfl)
    ⟨rfl, trivial, trivial, trivial, trivial⟩ ⟨rfl, trivial, trivial, trivial, trivial⟩

end AutoMana.Collections
