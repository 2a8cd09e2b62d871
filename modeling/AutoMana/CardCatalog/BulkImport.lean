import AutoMana.CardCatalog.Import

/-!
# Bulk imports of cards and sets

Both import services read a file record by record, collect the rows of the records that validate,
and insert a batch when it is full. They differ in the records that they read, in the rows of a
record, and in what they do with the errors.
-/

namespace AutoMana.CardCatalog

open Relational

inductive ImportError where
  /-- The record is no dictionary. -/
  | noAttribute
  | unhashable
  | invalid (message : String)
  | database (message : String)
  | batch (number retries : Nat) (error : ImportError)

structure ProcessingStats where
  total : Nat
  successfulInserts : Nat
  failedInserts : Nat
  batchesProcessed : Nat
  processingErrors : Nat
  skippedInserts : Nat

structure ProcessingConfig where
  batchSize : Nat
  maxRetries : Nat
  skipValidationErrors : Bool

/-- What `add_many` returns. -/
structure BatchInsertResponse where
  totalProcessed : Nat
  successfulInserts : Nat
  failedInserts : Nat
  insertedIds : List String
  /-- The name, the error and, for a card, the index of a record. -/
  errors : List (String × Violation × Option Nat)

/-- An entry of `failed_cards` or `failed_sets`. -/
inductive Failure where
  | record (position : Nat) (data : Json) (error : ImportError)
  | insert (batch : Nat) (error : String × Violation × Option Nat)

/-- What is particular to a service. -/
structure ImportService (R D : Type) where
  /-- The record is read at all. -/
  accepts : Json → Except ImportError Bool
  /-- The rows of a record. -/
  rows : Json → Except ImportError (List R)
  rows_ne_nil : ∀ item rows', rows item = .ok rows' → rows' ≠ []
  addMany : D → List R → BatchInsertResponse × D
  /-- The errors of a response are kept with the records that failed, and these are saved after
  every batch. -/
  savesFailures : Bool

/-- The variables of an import, its files and the database. -/
structure ImportState (R D : Type) where
  batch : List R
  batchCount : Nat
  stats : ProcessingStats
  failed : List Failure
  file : List Failure
  /-- The batches that were given up, each with its number and its error, as they are saved. -/
  givenUp : List (Nat × List R × ImportError)
  /-- So many batches were tried. -/
  calls : Nat
  database : D
  /-- The rows of every call of `add_many` that returned. -/
  passed : List (List R)

namespace ImportState

variable {R D : Type}

def start (database : D) : ImportState R D where
  batch := []
  batchCount := 0
  stats := ⟨0, 0, 0, 0, 0, 0⟩
  failed := []
  file := []
  givenUp := []
  calls := 0
  database := database
  passed := []

variable (service : ImportService R D) (state : ImportState R D)

/-- The rows of a record are added to the batch. -/
def collect (rows : List R) : ImportState R D := { state with
  batch := state.batch ++ rows
  stats := { state.stats with total := state.stats.total + 1 } }

/-- `add_many` returned. -/
def insertBatch : ImportState R D :=
  let response := (service.addMany state.database state.batch).1
  { state with
    stats := { state.stats with
      successfulInserts := state.stats.successfulInserts + response.successfulInserts
      failedInserts := state.stats.failedInserts + response.failedInserts
      batchesProcessed := state.stats.batchesProcessed + 1 }
    failed := if service.savesFailures then
        state.failed ++ response.errors.map (.insert (state.batchCount + 1))
      else state.failed
    calls := state.calls + 1
    database := (service.addMany state.database state.batch).2
    passed := state.passed ++ [state.batch] }

/-- Every attempt to insert the batch raised. -/
def giveUp (error : ImportError) : ImportState R D := { state with
  stats := { state.stats with
    failedInserts := state.stats.failedInserts + state.batch.length }
  givenUp := state.givenUp ++ [(state.batchCount + 1, state.batch, error)]
  calls := state.calls + 1 }

/-- `_save_failed_cards` -/
def saveFailed : ImportState R D :=
  if service.savesFailures then { state with file := state.file ++ state.failed, failed := [] }
  else state

/-- What follows an insert in the loop. -/
def nextBatch : ImportState R D :=
  saveFailed service { state with batch := [], batchCount := state.batchCount + 1 }

/-- The handler of the loop. -/
def fail (item : Json) (error : ImportError) : ImportState R D := { state with
  stats := { state.stats with processingErrors := state.stats.processingErrors + 1 }
  failed := state.failed ++ [.record state.stats.total item error] }

end ImportState

/-- The attempts at one batch, of which so many are left: the error of the last one, unless one
before it does not raise. -/
def retried (raises : Nat → Option ImportError) : Nat → Option ImportError
  | 0 => raises 0
  | retries + 1 =>
    match raises 0 with
    | none => none
    | some _ => retried (fun attempt => raises (attempt + 1)) retries

section Stream

variable {R D : Type} (service : ImportService R D) (config : ProcessingConfig)
  (raises : Nat → Nat → Option ImportError) (resumeFromBatch : Nat)

/-- `_process_batch`; the error that it raises, if it does. -/
def processBatch (state : ImportState R D) : ImportState R D × Option ImportError :=
  match retried (raises state.calls) config.maxRetries with
  | none => (state.insertBatch service, none)
  | some error =>
    (state.giveUp error, some (.batch (state.batchCount + 1) config.maxRetries error))

/-- The block of a record in the loop. -/
def readRecord (state : ImportState R D) (item : Json) : ImportState R D × Option ImportError :=
  match service.accepts item with
  | .error error => (state, some error)
  | .ok false => (state, none)
  | .ok true =>
    if state.batchCount < resumeFromBatch then
      if config.batchSize ≤ state.batch.length then
        ({ state with batch := [], batchCount := state.batchCount + 1 }, none)
      else (state, none)
    else
      match service.rows item with
      | .error error => (state, some error)
      | .ok rows =>
        if config.batchSize ≤ (state.collect rows).batch.length then
          match processBatch service config raises (state.collect rows) with
          | (state, none) => (state.nextBatch service, none)
          | (state, some error) => (state, some error)
        else (state.collect rows, none)

/-- A round of the loop. -/
def importRound (state : ImportState R D) (item : Json) :
    Except ImportError (ImportState R D) :=
  match readRecord service config raises resumeFromBatch state item with
  | (state, none) => .ok state
  | (state, some error) =>
    if config.skipValidationErrors then .ok (state.fail item error) else .error error

/-- What follows the loop. -/
def importRest (state : ImportState R D) : Except ImportError (ImportState R D) :=
  if state.batch.isEmpty then .ok (state.saveFailed service)
  else
    match processBatch service config raises state with
    | (state, none) => .ok (state.saveFailed service)
    | (_, some error) => .error error

/-- `_process_file_stream` -/
def processFileStream (database : D) (items : List Json) :
    Except ImportError (ImportState R D) := do
  let state ← items.foldlM (importRound service config raises resumeFromBatch) (.start database)
  importRest service config raises state

end Stream

/-! ## Cards -/

/-- The language of a card is one of those that are imported. -/
def acceptsLanguage (cardJson : Json) : Except ImportError Bool :=
  match cardJson.get? "lang" (.str "en") with
  | none => .error .noAttribute
  | some lang =>
    if lang.hashable then .ok (lang.isStr "en" || lang.isStr "ja") else .error .unhashable

/-- A card for each of its finishes. -/
def CreateCard.explode (card : CreateCard) : List CreateCard :=
  (if card.finishes = [] then ["nonfoil"] else card.finishes).map
    fun finish => { card with finishes := [finish] }

theorem CreateCard.explode_ne_nil (card : CreateCard) : card.explode ≠ [] := by
  rw [explode, Ne, List.map_eq_nil_iff]
  split_ifs with hfinishes
  · exact not_false
  · exact hfinishes

/-- The rows of a record, when the model validates it. -/
def validated {R M : Type} (validate : Json → Except String M) (rows : M → List R)
    (item : Json) : Except ImportError (List R) :=
  match validate item with
  | .error message => .error (.invalid message)
  | .ok model => .ok (rows model)

theorem ne_nil_of_validated {R M : Type} {validate : Json → Except String M} {rows : M → List R}
    (hrows : ∀ model, rows model ≠ []) {item : Json} {found : List R}
    (hfound : validated validate rows item = .ok found) : found ≠ [] := by
  rw [validated] at hfound
  split at hfound
  next => cases hfound
  next model _ =>
    cases hfound
    exact hrows model

/-- `CardReferenceRepository.add_many` -/
def addManyCards (uuids : Uuids) (catalog : Catalog) (cards : List CreateCard) :
    BatchInsertResponse × Catalog :=
  let (reply, next) := insertBatchCardVersions uuids catalog cards
  (⟨reply.totalProcessed, reply.successfulInserts, reply.failedInserts, reply.insertedCardIds,
    reply.errorDetails.map fun detail => (detail.1, detail.2.1, some detail.2.2)⟩, next)

/-- `EnhancedCardImportService`, for a validation of the model. -/
def cardImportService (uuids : Uuids) (validate : Json → Except String CreateCard) :
    ImportService CreateCard Catalog where
  accepts := acceptsLanguage
  rows := validated validate CreateCard.explode
  rows_ne_nil _ _ := ne_nil_of_validated CreateCard.explode_ne_nil
  addMany := addManyCards uuids
  savesFailures := true

/-! ## Sets -/

/-- A value of the row that `insert_batch_sets` returns. -/
inductive Column where
  | count (value : Nat)
  | ids (values : List String)
  | texts (values : List (String × Violation))

/-- The row with the names of its columns. -/
def SetsReply.columns (reply : SetsReply) : List (String × Column) :=
  [("total_sets", .count reply.totalSets), ("successful_inserts", .count reply.successfulInserts),
    ("failed_inserts", .count reply.failedInserts), ("inserted_set_ids", .ids reply.insertedSetIds),
    ("errors", .texts reply.errors)]

/-- `row.get(name, 0)` -/
def countOf (row : List (String × Column)) (name : String) : Nat :=
  match row.lookup name with
  | some (.count value) => value
  | _ => 0

/-- `row.get(name, [])` -/
def idsOf (row : List (String × Column)) (name : String) : List String :=
  match row.lookup name with
  | some (.ids values) => values
  | _ => []

/-- `row.get(name, [])` -/
def textsOf (row : List (String × Column)) (name : String) : List (String × Violation) :=
  match row.lookup name with
  | some (.texts values) => values
  | _ => []

/-- `SetReferenceRepository.add_many` -/
def addManySets (sets : Sets) (records : List NewSet) : BatchInsertResponse × Sets :=
  let (reply, next) := insertBatchSets sets records
  let row := reply.columns
  (⟨countOf row "total_processed", countOf row "successful_inserts", countOf row "failed_inserts",
    idsOf row "inserted_set_ids",
    (textsOf row "error_details").map fun error => (error.1, error.2, none)⟩, next)

/-- `EnhancedSetImportService` -/
def setImportService (validate : Json → Except String NewSet) : ImportService NewSet Sets where
  accepts _ := .ok true
  rows := validated validate fun record => [record]
  rows_ne_nil _ _ := ne_nil_of_validated fun record => List.cons_ne_nil record []
  addMany := addManySets
  savesFailures := false

end AutoMana.CardCatalog
