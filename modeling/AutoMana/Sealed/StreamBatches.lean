import AutoMana.Relational.Buffers
import AutoMana.Sealed.Cells

/-!
# The batches of a stream

`stream_to_staging` fans every entry out into its cells and copies them in batches, the rows of
sealed uuids to one table and all others to another. Every cell that parses is copied once and
in order, unless one cell of the payload brings the whole stream down.
-/

namespace AutoMana.Sealed.Cells

open Relational
open Mtgjson (PriceValue)

/-! ## The stream -/

/-- What the stream returns, and the batches it copied. -/
structure StreamResult where
  rowsStaged : Nat
  cardsSeen : Nat
  sealedRowsStaged : Nat
  cardBatches : List (List PriceRow)
  sealedBatches : List (List SealedRow)

section Stream

variable (parsers : CellParsers) (sealedUuids : List String)

/-- The two branches of the loop. -/
def streamRoutes : Routes (String × Json) PriceRow SealedRow where
  goesRight item := item.1 ∈ sealedUuids
  readLeft item := iterCardRows parsers item.1 item.2
  readRight item := iterSealedRows parsers item.1 item.2

/-- `stream_to_staging`, given which rows fit the staging tables; `none` when it raises and is
rolled back. -/
def streamToStaging (fitsCard : PriceRow → Bool) (fitsSealed : SealedRow → Bool)
    (batchSize : Nat) (items : List (String × Json)) : Option StreamResult :=
  ((items.foldlM (routeItem (streamRoutes parsers sealedUuids) fitsCard fitsSealed batchSize)
      {}).bind (flushBuffers fitsCard fitsSealed)).map fun buffers => {
    rowsStaged := buffers.left.count
    cardsSeen := items.length
    sealedRowsStaged := buffers.right.count
    cardBatches := buffers.left.copied
    sealedBatches := buffers.right.copied }

/-! ## The cells of a payload -/

/-- A row for each well-formed cell of a card. -/
def cardCells (item : String × Json) : List PriceRow :=
  (finishDates item.2).flatMap fun finish =>
    finish.dates.filterMap fun cell => (readCell parsers cell).row?.map (cardRow item.1 finish)

/-- A row for the first well-formed cell of each finish of a sealed entry. -/
def sealedCells (item : String × Json) : List SealedRow :=
  (finishDates item.2).filterMap fun finish =>
    (finish.dates.findSome? fun cell => (readCell parsers cell).row?).map (sealedRow item.1 finish)

def payloadCardRows (items : List (String × Json)) : List PriceRow :=
  (items.filter (·.1 ∉ sealedUuids)).flatMap (cardCells parsers)

def payloadSealedRows (items : List (String × Json)) : List SealedRow :=
  (items.filter (·.1 ∈ sealedUuids)).flatMap (sealedCells parsers)

/-- The batches hold the rows of the payload, each once and in order, and are counted. -/
structure Conserves (items : List (String × Json)) (result : StreamResult) : Prop where
  cardBatches : result.cardBatches.flatten = payloadCardRows parsers sealedUuids items
  sealedBatches : result.sealedBatches.flatten = payloadSealedRows parsers sealedUuids items
  rowsStaged : result.rowsStaged = result.cardBatches.flatten.length
  sealedRowsStaged : result.sealedRowsStaged = result.sealedBatches.flatten.length

/-- No price of a card makes `float` raise. -/
def CardReads (item : String × Json) : Prop :=
  ∀ finish ∈ finishDates item.2, ∀ cell ∈ finish.dates, readCell parsers cell ≠ .raises

/-- No price that comes before the first well-formed cell of a finish makes `float` raise. -/
def SealedReads (item : String × Json) : Prop :=
  ∀ finish ∈ finishDates item.2,
    ∀ cell ∈ finish.dates.find? (readCell parsers · != .bad), readCell parsers cell ≠ .raises

/-- No cell that is read makes `float` raise, and each row fits its table. -/
structure NothingRaises (fitsCard : PriceRow → Bool) (fitsSealed : SealedRow → Bool)
    (items : List (String × Json)) : Prop where
  cards : ∀ item ∈ items, item.1 ∉ sealedUuids → CardReads parsers item
  sealedEntries : ∀ item ∈ items, item.1 ∈ sealedUuids → SealedReads parsers item
  cardsFit : ∀ row ∈ payloadCardRows parsers sealedUuids items, fitsCard row
  sealedFit : ∀ row ∈ payloadSealedRows parsers sealedUuids items, fitsSealed row

end Stream

/-! ## What an entry is read to -/

section Entries

variable {parsers : CellParsers}

/-- A round over the dates of a card, read first. -/
def readCardCell (parsers : CellParsers) (uuid : String)
    (cell : FinishDates × (String × Json)) : Option (Option PriceRow) :=
  match readCell parsers cell.2 with
  | .row value => some (some (cardRow uuid cell.1 value))
  | .bad => some none
  | .raises => none

theorem readCardCell_eq_some_iff (uuid : String) (cell : FinishDates × (String × Json))
    (found : Option PriceRow) :
    readCardCell parsers uuid cell = some found ↔ readCell parsers cell.2 ≠ .raises ∧
      (readCell parsers cell.2).row?.map (cardRow uuid cell.1) = found := by
  rw [readCardCell]
  cases readCell parsers cell.2 <;> simp [CellRead.row?]

theorem iterCardRows_eq (uuid : String) (card : Json) : iterCardRows parsers uuid card =
    (((finishDates card).flatMap fun finish => finish.dates.map (finish, ·)).mapM
      (readCardCell parsers uuid)).map List.reduceOption := by
  have hempty : ∀ (finish : FinishDates) (rows : List PriceRow), finish.dates = [] →
      finish.dates.foldlM (cardDate parsers uuid finish) rows = some rows := by
    intro finish rows hnil
    rw [hnil, List.foldlM_nil, Option.pure_def]
  have hround : (fun rows finish => finish.dates.foldlM (cardDate parsers uuid finish) rows) =
      fun (rows : List PriceRow) (finish : FinishDates) =>
        (finish.dates.map (finish, ·)).foldlM
          (readItem (readCardCell parsers uuid) fun rows row => some (rows ++ [row])) rows := by
    funext rows finish
    rw [List.foldlM_map]
    congr 1
    funext rows cell
    rw [cardDate, readItem, readCardCell]
    cases readCell parsers cell <;> rfl
  rw [iterCardRows, iterRows_eq hempty, hround, ← foldlM_flatMap, foldlM_readItem]
  simp only [foldlM_concat, List.nil_append]
  cases List.mapM (readCardCell parsers uuid) _ <;> rfl

theorem iterCardRows_eq_some_iff (item : String × Json) (rows : List PriceRow) :
    iterCardRows parsers item.1 item.2 = some rows ↔
      CardReads parsers item ∧ cardCells parsers item = rows := by
  have hreads : (∀ cell ∈ (finishDates item.2).flatMap fun finish => finish.dates.map (finish, ·),
      readCell parsers cell.2 ≠ .raises) ↔ CardReads parsers item := by
    simp only [List.mem_flatMap, List.mem_map, CardReads]
    constructor
    · intro hall finish hfinish cell hcell
      exact hall (finish, cell) ⟨finish, hfinish, cell, hcell, rfl⟩
    · rintro hreads _ ⟨finish, hfinish, cell, hcell, rfl⟩
      exact hreads finish hfinish cell hcell
  rw [iterCardRows_eq, map_mapM_eq_some_iff (readCardCell_eq_some_iff item.1), hreads]
  simp only [cardCells, List.reduceOption, List.filterMap_map, List.filterMap_flatMap]
  rfl

theorem iterSealedRows_eq_some_iff (item : String × Json) (rows : List SealedRow) :
    iterSealedRows parsers item.1 item.2 = some rows ↔
      SealedReads parsers item ∧ sealedCells parsers item = rows := by
  have hread : ∀ finish found, readFinish parsers item.1 finish = some found ↔
      (∀ cell ∈ finish.dates.find? (readCell parsers · != .bad),
        readCell parsers cell ≠ .raises) ∧
      (finish.dates.findSome? fun cell => (readCell parsers cell).row?).map
        (sealedRow item.1 finish) = found := by
    intro finish found
    simp only [readFinish, Option.map_eq_some_iff, firstCell_eq_some_iff, and_assoc,
      exists_and_left, exists_eq_left']
  rw [iterSealedRows_eq, map_mapM_eq_some_iff hread, List.reduceOption, List.filterMap_map]
  rfl

/-- Where `float` raises nothing but what is caught, a card is read to all its cells. -/
def CellParsers.ofParsers (parsers : Sealed.Parsers) : CellParsers where
  fromIsoformat := parsers.fromIsoformat
  toFloat value := (parsers.toFloat value).elim .bad .row

theorem row?_readCell_ofParsers (parsers : Sealed.Parsers) (uuid : String) (finish : FinishDates)
    (cell : String × Json) :
    (readCell (.ofParsers parsers) cell).row?.map (cardRow uuid finish) =
      priceRow? parsers uuid finish cell := by
  simp only [readCell, CellParsers.ofParsers, priceRow?]
  cases parsers.fromIsoformat cell.1 with
  | none => rfl
  | some date => cases parsers.toFloat cell.2 <;> rfl

theorem readCell_ofParsers_ne_raises (parsers : Sealed.Parsers) (cell : String × Json) :
    readCell (.ofParsers parsers) cell ≠ .raises := by
  simp only [readCell, CellParsers.ofParsers]
  cases parsers.fromIsoformat cell.1 with
  | none => simp
  | some date => cases parsers.toFloat cell.2 <;> simp

theorem iterCardRows_ofParsers (parsers : Sealed.Parsers) (uuid : String) (card : Json) :
    iterCardRows (.ofParsers parsers) uuid card =
      some (Sealed.iterCardRows parsers uuid card) := by
  refine (iterCardRows_eq_some_iff (uuid, card) _).mpr ⟨?_, ?_⟩
  · intro finish _ cell _
    exact readCell_ofParsers_ne_raises parsers cell
  · simp only [cardCells, row?_readCell_ofParsers]
    rfl

end Entries

/-! ## The batches -/

section Batches

variable {parsers : CellParsers} {sealedUuids : List String}

theorem leftRows_eq_some_iff (items : List (String × Json)) (rows : List PriceRow) :
    (streamRoutes parsers sealedUuids).leftRows items = some rows ↔
      (∀ item ∈ items, item.1 ∉ sealedUuids → CardReads parsers item) ∧
      payloadCardRows parsers sealedUuids items = rows := by
  simp only [Routes.leftRows, streamRoutes, map_mapM_eq_some_iff iterCardRows_eq_some_iff,
    payloadCardRows, List.flatMap_def, ← decide_not, List.mem_filter, decide_eq_true_eq, and_imp]

theorem rightRows_eq_some_iff (items : List (String × Json)) (rows : List SealedRow) :
    (streamRoutes parsers sealedUuids).rightRows items = some rows ↔
      (∀ item ∈ items, item.1 ∈ sealedUuids → SealedReads parsers item) ∧
      payloadSealedRows parsers sealedUuids items = rows := by
  simp only [Routes.rightRows, streamRoutes, map_mapM_eq_some_iff iterSealedRows_eq_some_iff,
    payloadSealedRows, List.flatMap_def, List.mem_filter, decide_eq_true_eq, and_imp]

/-- A stream copies each row of the payload once and in order, and counts it, if and only if no
cell that is read makes `float` raise and every row fits its table. -/
theorem conserves_iff (parsers : CellParsers) (sealedUuids : List String)
    (fitsCard : PriceRow → Bool) (fitsSealed : SealedRow → Bool) (batchSize : Nat)
    (items : List (String × Json)) :
    (∃ result, streamToStaging parsers sealedUuids fitsCard fitsSealed batchSize items =
        some result ∧ Conserves parsers sealedUuids items result) ↔
      NothingRaises parsers sealedUuids fitsCard fitsSealed items := by
  have hcopied := @Routes.copied_iff _ _ _ (streamRoutes parsers sealedUuids) fitsCard fitsSealed
    batchSize items (payloadCardRows parsers sealedUuids items)
    (payloadSealedRows parsers sealedUuids items)
  rw [leftRows_eq_some_iff, rightRows_eq_some_iff] at hcopied
  constructor
  · rintro ⟨_, hstream, hconserves⟩
    obtain ⟨buffers, hrun, rfl⟩ := Option.map_eq_some_iff.mp hstream
    obtain ⟨⟨⟨hcards, -⟩, hcardsFit⟩, ⟨hsealed, -⟩, hsealedFit⟩ :=
      hcopied.mp ⟨buffers, hrun, hconserves.cardBatches, hconserves.sealedBatches,
        hconserves.cardBatches ▸ hconserves.rowsStaged,
        hconserves.sealedBatches ▸ hconserves.sealedRowsStaged⟩
    exact ⟨hcards, hsealed, hcardsFit, hsealedFit⟩
  · intro hnothing
    obtain ⟨buffers, hrun, hcards, hsealed, hrows, hsealedRows⟩ :=
      hcopied.mpr ⟨⟨⟨hnothing.cards, rfl⟩, hnothing.cardsFit⟩,
        ⟨hnothing.sealedEntries, rfl⟩, hnothing.sealedFit⟩
    refine ⟨_, Option.map_eq_some_iff.mpr ⟨buffers, hrun, rfl⟩, hcards, hsealed, ?_, ?_⟩
    · exact hrows.trans (congrArg List.length hcards.symm)
    · exact hsealedRows.trans (congrArg List.length hsealed.symm)

/-- The days of the payload below; `float` of an integer that is too large raises. -/
def overflowParsers : CellParsers where
  fromIsoformat := januaryParsers.fromIsoformat
  toFloat
    | .number units 0 =>
      if units.natAbs < 2 ^ 1024 then .row (.decimal units 0) else .raises
    | .number units scale => .row (.decimal units scale)
    | _ => .bad

/-- Two cards, the second of which has one price of 401 digits. -/
def overflowPayload : List (String × Json) := [
  ("1a2b", .dict [("paper", .dict [("tcgplayer", .dict [("retail", .dict [("normal", .dict [
    ("2024-01-01", .number 100 0)])])])])]),
  ("3c4d", .dict [("paper", .dict [("tcgplayer", .dict [("retail", .dict [("normal", .dict [
    ("2024-01-01", .number (10 ^ 400) 0), ("2024-01-02", .number 120 0)])])])])])]

/-- A malformed cell takes the whole stream with it. -/
theorem overflow_stops_the_stream :
    ¬ ∃ result, streamToStaging overflowParsers [] (fun _ => true) (fun _ => true) copyBatchSize
        overflowPayload = some result ∧ Conserves overflowParsers [] overflowPayload result := by
  rintro ⟨result, hstream, -⟩
  have hraises : (streamToStaging overflowParsers [] (fun _ => true) (fun _ => true)
      copyBatchSize overflowPayload).isNone := by decide +kernel
  rw [hstream] at hraises
  cases hraises

end Batches

end AutoMana.Sealed.Cells
