import AutoMana.Json
import AutoMana.Relational.Batches
import AutoMana.Sealed.LoadSealed

/-!
# stream_to_staging

A price payload is a dictionary of entries by uuid. The uuids of `pricing.sealed_products`
are read first; the entry of such a uuid goes to the sealed staging table, and every
other entry to that of the cards. Rows are copied in batches.
-/

namespace AutoMana.Sealed

open Relational Pricing
open Mtgjson (PriceValue StagedPrice)

/-- What python reads from a text or a value. -/
structure Parsers where
  /-- `date.fromisoformat`, as a day -/
  fromIsoformat : String → Option Int
  toFloat : Json → Option PriceValue
  toStr : Json → String

/-! ## The rows of an entry -/

/-- `value.items()` of a dictionary; anything else is skipped. -/
def itemsOf : Json → List (String × Json)
  | .dict fields => fields
  | _ => []

/-- The dates under `paper.<source>.<price_type>.<finish>`. -/
structure FinishDates where
  sourceName : String
  priceType : String
  finish : String
  currency : Json
  dates : List (String × Json)

/-- A row before it is copied. -/
structure PriceRow where
  uuid : String
  sourceName : String
  priceType : String
  finish : String
  currency : Json
  priceFloat : PriceValue
  priceDate : Int

/-- `source_val.get("currency") or "USD"`. -/
def currencyOf (sourceVal : Json) : Json :=
  let currency := ((itemsOf sourceVal).lookup "currency").getD .null
  if currency.truthy then currency else .str "USD"

/-- The loops over the sources, the price types, and the finishes of an entry. -/
def finishDates (entry : Json) : List FinishDates :=
  (itemsOf (((itemsOf entry).lookup "paper").getD .null)).flatMap fun source =>
    ((itemsOf source.2).filter (·.1 ≠ "currency")).flatMap fun priceType =>
      (itemsOf priceType.2).map fun finish => {
        sourceName := source.1
        priceType := priceType.1
        finish := finish.1
        currency := currencyOf source.2
        dates := itemsOf finish.2 }

/-- The row of a date; `none` for a cell that does not parse. -/
def priceRow? (parsers : Parsers) (uuid : String) (finish : FinishDates)
    (date : String × Json) : Option PriceRow := do
  let priceDate ← parsers.fromIsoformat date.1
  let priceFloat ← parsers.toFloat date.2
  return {
    uuid
    sourceName := finish.sourceName
    priceType := finish.priceType
    finish := finish.finish
    currency := finish.currency
    priceFloat
    priceDate }

/-- `_iter_card_rows` -/
def iterCardRows (parsers : Parsers) (cardUuid : String) (card : Json) : List PriceRow :=
  (finishDates card).flatMap fun finish =>
    finish.dates.filterMap (priceRow? parsers cardUuid finish)

/-- `_iter_sealed_rows`, which stops at the first date of a finish that parses. -/
def iterSealedRows (parsers : Parsers) (sealedUuid : String) (entry : Json) : List PriceRow :=
  (finishDates entry).filterMap fun finish =>
    finish.dates.findSome? (priceRow? parsers sealedUuid finish)

/-! ## Copying -/

/-- A value for a `TEXT` column; `none` when it is no string. -/
def textOf? : Json → Option String
  | .str text => some text
  | _ => none

def stagedPrice? (row : PriceRow) : Option StagedPrice := do
  let currency ← textOf? row.currency
  return {
    cardUuid := row.uuid
    priceSource := row.sourceName
    priceType := some row.priceType
    finishType := row.finish
    currency
    priceValue := row.priceFloat
    priceDate := row.priceDate }

def stagedSealed? (row : PriceRow) : Option StagedSealed := do
  let currency ← textOf? row.currency
  return {
    sealedUuid := row.uuid
    priceSource := row.sourceName
    priceType := some row.priceType
    currency
    priceValue := row.priceFloat
    priceDate := row.priceDate }

/-- `copy_staging_batch` and `copy_sealed_staging_batch`; `none` when a record does not fit
its columns. -/
def copyBatch {V : Type} (staged? : PriceRow → Option V) (records : List PriceRow)
    (staging : SerialTable V) : Option (SerialTable V) :=
  (records.mapM staged?).map staging.insert

/-! ## The stream -/

/-- The staging tables, and the rows not copied yet. -/
structure StreamState where
  cardStaging : SerialTable StagedPrice
  sealedStaging : SerialTable StagedSealed
  batch : List PriceRow
  sealedBatch : List PriceRow

/-- `_COPY_BATCH_SIZE` -/
def copyBatchSize : Nat := 10000

/-- One round of the loop. -/
def streamItem (parsers : Parsers) (sealedUuids : List String) (state : StreamState)
    (item : String × Json) : Option StreamState :=
  if item.1 ∈ sealedUuids then
    let sealedBatch := state.sealedBatch ++ iterSealedRows parsers item.1 item.2
    if copyBatchSize ≤ sealedBatch.length then do
      let sealedStaging ← copyBatch stagedSealed? sealedBatch state.sealedStaging
      return { state with sealedStaging, sealedBatch := [] }
    else some { state with sealedBatch }
  else
    let batch := state.batch ++ iterCardRows parsers item.1 item.2
    if copyBatchSize ≤ batch.length then do
      let cardStaging ← copyBatch stagedPrice? batch state.cardStaging
      return { state with cardStaging, batch := [] }
    else some { state with batch }

/-- `fetch_all_sealed_uuids` -/
def fetchAllSealedUuids (tables : SealedTables) : List String :=
  tables.sealedProducts.rows.map Prod.fst

/-- Both staging tables after the stream; `none` when it raises and is rolled back. -/
def streamToStaging (parsers : Parsers) (payload : List (String × Json))
    (cardStaging : SerialTable StagedPrice) (tables : SealedTables) :
    Option (SerialTable StagedPrice × SealedTables) := do
  let state ← payload.foldlM (streamItem parsers (fetchAllSealedUuids tables))
    ⟨cardStaging, tables.staging, [], []⟩
  let cardStaging ← copyBatch stagedPrice? state.batch state.cardStaging
  let staging ← copyBatch stagedSealed? state.sealedBatch state.sealedStaging
  return (cardStaging, { tables with staging })

/-! ## Where the rows go -/

section Routing

variable {parsers : Parsers} {sealedUuids : List String} {state next : StreamState}

theorem uuid_of_priceRow? {uuid : String} {finish : FinishDates} {date : String × Json}
    {row : PriceRow} (hrow : priceRow? parsers uuid finish date = some row) : row.uuid = uuid := by
  simp only [priceRow?, Option.bind_eq_bind, Option.bind_eq_some_iff, Option.pure_def,
    Option.some.injEq] at hrow
  obtain ⟨_, -, _, -, rfl⟩ := hrow
  rfl

theorem uuid_of_iterSealedRows {uuid : String} {entry : Json} {row : PriceRow}
    (hrow : row ∈ iterSealedRows parsers uuid entry) : row.uuid = uuid := by
  obtain ⟨finish, -, hfirst⟩ := List.mem_filterMap.mp hrow
  obtain ⟨date, -, hdate⟩ := List.exists_of_findSome?_eq_some hfirst
  exact uuid_of_priceRow? hdate

/-- A copied row was staged before, or is a record of the batch. -/
theorem values_of_copyBatch {V : Type} {staged? : PriceRow → Option V} {records : List PriceRow}
    {staging copied : SerialTable V} (hcopy : copyBatch staged? records staging = some copied)
    {value : V} (hvalue : value ∈ copied.values) :
    value ∈ staging.values ∨ ∃ record ∈ records, staged? record = some value := by
  obtain ⟨values, hvalues, rfl⟩ := Option.map_eq_some_iff.mp hcopy
  rw [SerialTable.values_insert, List.mem_append] at hvalue
  exact hvalue.imp_right (exists_of_mem_mapM hvalues)

/-- What is staged, and what waits to be copied, after part of a stream: the rows of sealed
uuids are on one side, and the others on the other. -/
structure Routed (sealedUuids : List String) (start : StreamState) (state : StreamState) :
    Prop where
  sealedStaging : ∀ row ∈ state.sealedStaging.values,
    row ∈ start.sealedStaging.values ∨ row.sealedUuid ∈ sealedUuids
  cardStaging : ∀ row ∈ state.cardStaging.values,
    row ∈ start.cardStaging.values ∨ row.cardUuid ∉ sealedUuids
  sealedBatch : ∀ row ∈ state.sealedBatch, row.uuid ∈ sealedUuids
  batch : ∀ row ∈ state.batch, row.uuid ∉ sealedUuids

theorem uuid_of_iterCardRows {uuid : String} {card : Json} {row : PriceRow}
    (hrow : row ∈ iterCardRows parsers uuid card) : row.uuid = uuid := by
  obtain ⟨finish, -, hdate⟩ := List.mem_flatMap.mp hrow
  obtain ⟨date, -, hsome⟩ := List.mem_filterMap.mp hdate
  exact uuid_of_priceRow? hsome

theorem uuid_of_stagedSealed? {record : PriceRow} {row : StagedSealed}
    (hstaged : stagedSealed? record = some row) : row.sealedUuid = record.uuid := by
  simp only [stagedSealed?, Option.bind_eq_bind, Option.bind_eq_some_iff, Option.pure_def,
    Option.some.injEq] at hstaged
  obtain ⟨_, -, rfl⟩ := hstaged
  rfl

theorem uuid_of_stagedPrice? {record : PriceRow} {row : StagedPrice}
    (hstaged : stagedPrice? record = some row) : row.cardUuid = record.uuid := by
  simp only [stagedPrice?, Option.bind_eq_bind, Option.bind_eq_some_iff, Option.pure_def,
    Option.some.injEq] at hstaged
  obtain ⟨_, -, rfl⟩ := hstaged
  rfl

section Batch

variable {V : Type} {staged? : PriceRow → Option V} {uuidOf : V → String}
  (goesHere : String → Prop) {batch : List PriceRow}

/-- The rows of an item that goes to a table join the batch of the table. -/
theorem goesHere_append {rows : List PriceRow} {uuid : String}
    (hbatch : ∀ row ∈ batch, goesHere row.uuid) (hrows : ∀ row ∈ rows, row.uuid = uuid)
    (huuid : goesHere uuid) : ∀ row ∈ batch ++ rows, goesHere row.uuid := by
  intro row hrow
  rcases List.mem_append.mp hrow with hwaiting | hnew
  · exact hbatch row hwaiting
  · rw [hrows row hnew]
    exact huuid

/-- Copying a batch stages rows that go to the table. -/
theorem goesHere_copyBatch {start staging copied : SerialTable V}
    (hstaged : ∀ record row, staged? record = some row → uuidOf row = record.uuid)
    (hstaging : ∀ row ∈ staging.values, row ∈ start.values ∨ goesHere (uuidOf row))
    (hbatch : ∀ record ∈ batch, goesHere record.uuid)
    (hcopy : copyBatch staged? batch staging = some copied) :
    ∀ row ∈ copied.values, row ∈ start.values ∨ goesHere (uuidOf row) := by
  intro row hrow
  rcases values_of_copyBatch hcopy hrow with hold | hnew
  · exact hstaging row hold
  · obtain ⟨record, hrecord, hsome⟩ := hnew
    rw [hstaged record row hsome]
    exact Or.inr (hbatch record hrecord)

end Batch

theorem Routed.item {start : StreamState} (hrouted : Routed sealedUuids start state)
    {item : String × Json} (hitem : streamItem parsers sealedUuids state item = some next) :
    Routed sealedUuids start next := by
  unfold streamItem at hitem
  by_cases hsealed : item.1 ∈ sealedUuids
  · rw [if_pos hsealed] at hitem
    have hbatch : ∀ row ∈ state.sealedBatch ++ iterSealedRows parsers item.1 item.2,
        row.uuid ∈ sealedUuids :=
      goesHere_append (· ∈ sealedUuids) hrouted.sealedBatch
        (fun _ hrow => uuid_of_iterSealedRows hrow) hsealed
    simp only [Option.bind_eq_bind, Option.pure_def] at hitem
    split_ifs at hitem
    · obtain ⟨sealedStaging, hcopy, hnext⟩ := Option.bind_eq_some_iff.mp hitem
      obtain rfl := Option.some.inj hnext
      refine ⟨?_, hrouted.cardStaging, fun _ hnone => (List.not_mem_nil hnone).elim, hrouted.batch⟩
      exact goesHere_copyBatch (· ∈ sealedUuids) (fun _ _ => uuid_of_stagedSealed?)
        hrouted.sealedStaging hbatch hcopy
    · obtain rfl := Option.some.inj hitem
      exact ⟨hrouted.sealedStaging, hrouted.cardStaging, hbatch, hrouted.batch⟩
  · rw [if_neg hsealed] at hitem
    have hbatch : ∀ row ∈ state.batch ++ iterCardRows parsers item.1 item.2,
        row.uuid ∉ sealedUuids :=
      goesHere_append (· ∉ sealedUuids) hrouted.batch
        (fun _ hrow => uuid_of_iterCardRows hrow) hsealed
    simp only [Option.bind_eq_bind, Option.pure_def] at hitem
    split_ifs at hitem
    · obtain ⟨cardStaging, hcopy, hnext⟩ := Option.bind_eq_some_iff.mp hitem
      obtain rfl := Option.some.inj hnext
      refine ⟨hrouted.sealedStaging, ?_, hrouted.sealedBatch,
        fun _ hnone => (List.not_mem_nil hnone).elim⟩
      exact goesHere_copyBatch (· ∉ sealedUuids) (fun _ _ => uuid_of_stagedPrice?)
        hrouted.cardStaging hbatch hcopy
    · obtain rfl := Option.some.inj hitem
      exact ⟨hrouted.sealedStaging, hrouted.cardStaging, hrouted.sealedBatch, hbatch⟩

theorem Routed.items {start : StreamState} {payload : List (String × Json)}
    (hrouted : Routed sealedUuids start state)
    (hpayload : payload.foldlM (streamItem parsers sealedUuids) state = some next) :
    Routed sealedUuids start next := by
  induction payload generalizing state with
  | nil =>
    rw [List.foldlM_nil, Option.pure_def, Option.some.injEq] at hpayload
    exact hpayload ▸ hrouted
  | cons item rest ih =>
    rw [List.foldlM_cons, Option.bind_eq_bind, Option.bind_eq_some_iff] at hpayload
    obtain ⟨middle, hitem, hrest⟩ := hpayload
    exact ih (hrouted.item hitem) hrest

end Routing

/-- The sealed staging table gets rows of sealed uuids only, and that of the cards gets none
of them. -/
theorem routed_of_streamToStaging {parsers : Parsers} {payload : List (String × Json)}
    {cardStaging streamed : SerialTable StagedPrice} {tables next : SealedTables}
    (hstream : streamToStaging parsers payload cardStaging tables = some (streamed, next)) :
    next = { tables with staging := next.staging } ∧
    (∀ row ∈ next.staging.values,
      row ∈ tables.staging.values ∨ row.sealedUuid ∈ fetchAllSealedUuids tables) ∧
    ∀ row ∈ streamed.values,
      row ∈ cardStaging.values ∨ row.cardUuid ∉ fetchAllSealedUuids tables := by
  simp only [streamToStaging, Option.bind_eq_bind, Option.bind_eq_some_iff, Option.pure_def,
    Option.some.injEq, Prod.mk.injEq] at hstream
  obtain ⟨state, hitems, cards, hcards, staging, hsealed, rfl, rfl⟩ := hstream
  have hnone : ∀ row : PriceRow, row ∉ ([] : List PriceRow) := fun _ => List.not_mem_nil
  have hrouted : Routed (fetchAllSealedUuids tables) ⟨cardStaging, tables.staging, [], []⟩ state :=
    Routed.items ⟨fun _ hrow => Or.inl hrow, fun _ hrow => Or.inl hrow,
      fun row hrow => absurd hrow (hnone row), fun row hrow => absurd hrow (hnone row)⟩ hitems
  refine ⟨rfl, ?_, ?_⟩
  · exact goesHere_copyBatch (· ∈ fetchAllSealedUuids tables) (fun _ _ => uuid_of_stagedSealed?)
      hrouted.sealedStaging hrouted.sealedBatch hsealed
  · exact goesHere_copyBatch (· ∉ fetchAllSealedUuids tables) (fun _ _ => uuid_of_stagedPrice?)
      hrouted.cardStaging hrouted.batch hcards

end AutoMana.Sealed
