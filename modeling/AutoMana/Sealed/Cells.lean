import AutoMana.Sealed.Stream

/-!
# The cells of an entry

The prices of an entry are the cells `paper.<source>.<price_type>.<finish>.<date>`. A cell whose
date or price does not parse is skipped; but `float` of a large integer raises an `OverflowError`,
which is not caught. Of a sealed entry the first cell of each finish that parses is taken, in the
order of the dictionary.
-/

namespace AutoMana.Sealed.Cells

open Relational
open Mtgjson (PriceValue)

/-! ## The loops -/

/-- What reading a cell comes to. -/
inductive CellRead (α : Type) where
  | row (value : α)
  /-- A `TypeError` or a `ValueError`. -/
  | bad
  /-- Any other exception. -/
  | raises
deriving DecidableEq, Repr

structure CellParsers where
  /-- `date.fromisoformat`, as a day -/
  fromIsoformat : String → Option Int
  toFloat : Json → CellRead PriceValue

/-- The body of the `try`. -/
def readCell (parsers : CellParsers) (cell : String × Json) : CellRead (Int × PriceValue) :=
  match parsers.fromIsoformat cell.1 with
  | none => .bad
  | some priceDate =>
    match parsers.toFloat cell.2 with
    | .row priceFloat => .row (priceDate, priceFloat)
    | .bad => .bad
    | .raises => .raises

section Loops

variable {α : Type} (body : FinishDates → List α → Option (List α))

/-- A round over the finishes of a price type. -/
def finishLoop (sourceName priceType : String) (currency : Json) (rows : List α)
    (finish : String × Json) : Option (List α) :=
  match finish.2 with
  | .dict dates => body ⟨sourceName, priceType, finish.1, currency, dates⟩ rows
  | _ => some rows

/-- A round over the price types of a source. -/
def priceTypeLoop (sourceName : String) (currency : Json) (rows : List α)
    (priceType : String × Json) : Option (List α) :=
  if priceType.1 = "currency" then some rows
  else match priceType.2 with
    | .dict finishes => finishes.foldlM (finishLoop body sourceName priceType.1 currency) rows
    | _ => some rows

/-- A round over the sources. -/
def sourceLoop (rows : List α) (source : String × Json) : Option (List α) :=
  match source.2 with
  | .dict sourceVal =>
    sourceVal.foldlM (priceTypeLoop body source.1 (currencyOf (.dict sourceVal))) rows
  | _ => some rows

/-- The loops of both readers, around their innermost one; `none` when it raises. -/
def iterRows (entry : Json) : Option (List α) :=
  match entry with
  | .dict fields =>
    match fields.lookup "paper" with
    | some (.dict paper) => paper.foldlM (sourceLoop body) []
    | _ => some []
  | _ => some []

end Loops

section Readers

variable (parsers : CellParsers) (uuid : String)

def cardRow (finish : FinishDates) (value : Int × PriceValue) : PriceRow where
  uuid
  sourceName := finish.sourceName
  priceType := finish.priceType
  finish := finish.finish
  currency := finish.currency
  priceFloat := value.2
  priceDate := value.1

/-- A row of `mtgjson_sealed_prices_staging`, which has no finish. -/
structure SealedRow where
  uuid : String
  sourceName : String
  priceType : String
  currency : Json
  priceFloat : PriceValue
  priceDate : Int

def sealedRow (finish : FinishDates) (value : Int × PriceValue) : SealedRow where
  uuid
  sourceName := finish.sourceName
  priceType := finish.priceType
  currency := finish.currency
  priceFloat := value.2
  priceDate := value.1

/-- A round over the dates of a card. -/
def cardDate (finish : FinishDates) (rows : List PriceRow) (cell : String × Json) :
    Option (List PriceRow) :=
  match readCell parsers cell with
  | .row value => some (rows ++ [cardRow uuid finish value])
  | .bad => some rows
  | .raises => none

/-- `_iter_card_rows` -/
def iterCardRows (card : Json) : Option (List PriceRow) :=
  iterRows (fun finish rows => finish.dates.foldlM (cardDate parsers uuid finish) rows) card

/-- The loop over the dates of a sealed entry, with its `break`. -/
def sealedDates (finish : FinishDates) (rows : List SealedRow) :
    List (String × Json) → Option (List SealedRow)
  | [] => some rows
  | cell :: rest =>
    match readCell parsers cell with
    | .row value => some (rows ++ [sealedRow uuid finish value])
    | .bad => sealedDates finish rows rest
    | .raises => none

/-- `_iter_sealed_rows` -/
def iterSealedRows (entry : Json) : Option (List SealedRow) :=
  iterRows (fun finish rows => sealedDates parsers uuid finish rows finish.dates) entry

end Readers

/-! ## The loops as one -/

section Flat

variable {α : Type} {body : FinishDates → List α → Option (List α)}

theorem finishLoop_eq (hempty : ∀ finish rows, finish.dates = [] → body finish rows = some rows)
    (sourceName priceType : String) (currency : Json) :
    finishLoop body sourceName priceType currency = fun rows finish =>
      body ⟨sourceName, priceType, finish.1, currency, itemsOf finish.2⟩ rows := by
  funext rows finish
  obtain ⟨name, value⟩ := finish
  cases value with
  | dict dates => rfl
  | null | bool | number | str | list => exact (hempty _ rows rfl).symm

theorem priceTypeLoop_eq (sourceName : String) (currency : Json) (rows : List α)
    (priceType : String × Json) : priceTypeLoop body sourceName currency rows priceType =
      if priceType.1 ≠ "currency" then
        (itemsOf priceType.2).foldlM (finishLoop body sourceName priceType.1 currency) rows
      else some rows := by
  obtain ⟨name, value⟩ := priceType
  rw [priceTypeLoop, ite_not]
  split_ifs
  · rfl
  · cases value <;> rfl

theorem sourceLoop_eq (rows : List α) (source : String × Json) : sourceLoop body rows source =
    (itemsOf source.2).foldlM (priceTypeLoop body source.1 (currencyOf source.2)) rows := by
  obtain ⟨name, value⟩ := source
  cases value <;> rfl

theorem iterRows_paper (entry : Json) : iterRows body entry =
    (itemsOf (((itemsOf entry).lookup "paper").getD .null)).foldlM (sourceLoop body) [] := by
  cases entry with
  | dict fields =>
    rw [iterRows, itemsOf]
    cases fields.lookup "paper" with
    | none => rfl
    | some paper => cases paper <;> rfl
  | null | bool | number | str | list => rfl

/-- The nested loops visit the dictionaries of the finishes one after another. -/
theorem iterRows_eq (hempty : ∀ finish rows, finish.dates = [] → body finish rows = some rows)
    (entry : Json) :
    iterRows body entry = (finishDates entry).foldlM (fun rows finish => body finish rows) [] := by
  rw [iterRows_paper, finishDates, foldlM_flatMap]
  congr 1
  funext rows source
  rw [sourceLoop_eq, foldlM_flatMap, List.foldlM_filter]
  congr 1
  funext rows priceType
  rw [priceTypeLoop_eq, finishLoop_eq hempty, List.foldlM_map]
  simp only [decide_eq_true_eq]
  rfl

end Flat

/-! ## The row of a finish -/

section Latest

variable {parsers : CellParsers} {uuid : String}

/-- What the loop over the dates stops at. -/
def firstCell (parsers : CellParsers) :
    List (String × Json) → Option (Option (Int × PriceValue))
  | [] => some none
  | cell :: rest =>
    match readCell parsers cell with
    | .row value => some (some value)
    | .bad => firstCell parsers rest
    | .raises => none

/-- A round of the loops over a sealed entry, read first. -/
def readFinish (parsers : CellParsers) (uuid : String) (finish : FinishDates) :
    Option (Option SealedRow) :=
  (firstCell parsers finish.dates).map (Option.map (sealedRow uuid finish))

theorem sealedDates_eq (finish : FinishDates) (rows : List SealedRow)
    (dates : List (String × Json)) :
    sealedDates parsers uuid finish rows dates = (firstCell parsers dates).map fun first =>
      (first.map (sealedRow uuid finish)).elim rows fun row => rows ++ [row] := by
  induction dates with
  | nil => rfl
  | cons cell rest ih =>
    rw [sealedDates, firstCell]
    cases readCell parsers cell with
    | row => rfl
    | bad => exact ih
    | raises => rfl

theorem iterSealedRows_eq (entry : Json) : iterSealedRows parsers uuid entry =
    ((finishDates entry).mapM (readFinish parsers uuid)).map List.reduceOption := by
  have hempty : ∀ (finish : FinishDates) (rows : List SealedRow), finish.dates = [] →
      sealedDates parsers uuid finish rows finish.dates = some rows := by
    intro finish rows hnil
    rw [hnil, sealedDates]
  have hround : (fun rows finish => sealedDates parsers uuid finish rows finish.dates) =
      readItem (readFinish parsers uuid) fun rows row => some (rows ++ [row]) := by
    funext rows finish
    rw [sealedDates_eq, readItem, readFinish]
    cases firstCell parsers finish.dates with
    | none => rfl
    | some first => cases first <;> rfl
  rw [iterSealedRows, iterRows_eq hempty, hround, foldlM_readItem]
  simp only [foldlM_concat, List.nil_append]
  cases (finishDates entry).mapM (readFinish parsers uuid) <;> rfl

/-! ## The most recent one -/

def CellRead.row? {α : Type} : CellRead α → Option α
  | .row value => some value
  | _ => none

def CellRead.isRow {α : Type} : CellRead α → Bool
  | .row _ => true
  | _ => false

def hasCell (parsers : CellParsers) (finish : FinishDates) : Bool :=
  finish.dates.any fun cell => (readCell parsers cell).isRow

/-- The row is that of a well-formed cell of the finish, and none has a later date. -/
def Latest (parsers : CellParsers) (uuid : String) (finish : FinishDates) (row : SealedRow) :
    Prop :=
  ∃ value, row = sealedRow uuid finish value ∧
    (∃ cell ∈ finish.dates, readCell parsers cell = .row value) ∧
    ∀ cell ∈ finish.dates, ∀ other, readCell parsers cell = .row other → other.1 ≤ value.1

/-- Every finish that has a well-formed cell gets one row, which is that of its latest. -/
def EmitsLatest (parsers : CellParsers) (uuid : String) (entry : Json) : Prop :=
  ∃ rows, iterSealedRows parsers uuid entry = some rows ∧
    List.Forall₂ (Latest parsers uuid) ((finishDates entry).filter (hasCell parsers)) rows

/-- No cell raises before the first well-formed one, and no later one has a later date. -/
def LatestFirst (parsers : CellParsers) : List (String × Json) → Prop
  | [] => True
  | cell :: rest =>
    match readCell parsers cell with
    | .row value =>
      ∀ later ∈ rest, ∀ other, readCell parsers later = .row other → other.1 ≤ value.1
    | .bad => LatestFirst parsers rest
    | .raises => False

theorem CellRead.row?_eq_some_iff {α : Type} {read : CellRead α} {value : α} :
    read.row? = some value ↔ read = .row value := by
  cases read <;> simp [CellRead.row?]

theorem CellRead.isSome_row? {α : Type} (read : CellRead α) : read.row?.isSome = read.isRow := by
  cases read <;> rfl

/-- The loop stops at the first well-formed cell, if none raises before it. -/
theorem firstCell_eq_some_iff (dates : List (String × Json))
    (first : Option (Int × PriceValue)) :
    firstCell parsers dates = some first ↔
      (∀ cell ∈ dates.find? (readCell parsers · != .bad), readCell parsers cell ≠ .raises) ∧
      (dates.findSome? fun cell => (readCell parsers cell).row?) = first := by
  induction dates with
  | nil => simp [firstCell]
  | cons cell rest ih =>
    rw [firstCell]
    cases hread : readCell parsers cell with
    | row value => simp [hread, CellRead.row?]
    | bad =>
      simp only [ih, List.find?_cons, List.findSome?_cons, hread, CellRead.row?, bne_self_eq_false]
    | raises => simp [hread]

theorem mem_of_firstCell {dates : List (String × Json)} {value : Int × PriceValue}
    (hfirst : firstCell parsers dates = some (some value)) :
    ∃ cell ∈ dates, readCell parsers cell = .row value := by
  obtain ⟨cell, hcell, hrow⟩ := List.exists_of_findSome?_eq_some
    ((firstCell_eq_some_iff dates (some value)).mp hfirst).2
  exact ⟨cell, hcell, CellRead.row?_eq_some_iff.mp hrow⟩

theorem hasCell_of_firstCell {dates : List (String × Json)} {first : Option (Int × PriceValue)}
    (hfirst : firstCell parsers dates = some first) :
    (dates.any fun cell => (readCell parsers cell).isRow) = first.isSome := by
  rw [← ((firstCell_eq_some_iff dates first).mp hfirst).2, List.isSome_findSome?]
  simp only [CellRead.isSome_row?]

/-- The condition is that the loop does not raise, and stops at a latest cell. -/
theorem latestFirst_iff {dates : List (String × Json)} :
    LatestFirst parsers dates ↔ ∃ first, firstCell parsers dates = some first ∧
      ∀ value ∈ first, ∀ cell ∈ dates, ∀ other,
        readCell parsers cell = .row other → other.1 ≤ value.1 := by
  induction dates with
  | nil => exact iff_of_true trivial ⟨none, rfl, fun _ hnone => nomatch hnone⟩
  | cons cell rest ih =>
    rw [LatestFirst, firstCell]
    cases hread : readCell parsers cell with
    | row found =>
      constructor
      · intro hlater
        refine ⟨some found, rfl, ?_⟩
        intro value hvalue
        obtain rfl := Option.some.inj hvalue
        refine List.forall_mem_cons.mpr ⟨?_, hlater⟩
        intro other hother
        rw [hread] at hother
        cases hother
        exact le_rfl
      · rintro ⟨first, hfirst, hlatest⟩
        exact (List.forall_mem_cons.mp (hlatest found (Option.some.inj hfirst).symm)).2
    | bad =>
      simp only [List.forall_mem_cons, hread, reduceCtorEq, false_implies, implies_true, true_and]
      exact ih
    | raises => exact iff_of_false not_false (fun hfirst => nomatch hfirst)

theorem latest_iff {finish : FinishDates} {value : Int × PriceValue}
    (hfirst : firstCell parsers finish.dates = some (some value)) :
    Latest parsers uuid finish (sealedRow uuid finish value) ↔
      ∀ cell ∈ finish.dates, ∀ other, readCell parsers cell = .row other →
        other.1 ≤ value.1 := by
  constructor
  · rintro ⟨found, hrow, -, hlatest⟩
    have hdate : value.1 = found.1 := congrArg SealedRow.priceDate hrow
    rw [hdate]
    exact hlatest
  · intro hlatest
    exact ⟨value, rfl, mem_of_firstCell hfirst, hlatest⟩

theorem readFinish_latest_iff (finish : FinishDates) :
    (∃ found, readFinish parsers uuid finish = some found ∧
      ∀ row ∈ found, Latest parsers uuid finish row) ↔ LatestFirst parsers finish.dates := by
  rw [latestFirst_iff]
  simp only [readFinish, Option.map_eq_some_iff]
  constructor
  · rintro ⟨_, ⟨first, hfirst, rfl⟩, hlatest⟩
    refine ⟨first, hfirst, ?_⟩
    rintro value rfl
    exact (latest_iff hfirst).mp (hlatest _ rfl)
  · rintro ⟨first, hfirst, hlatest⟩
    refine ⟨_, ⟨first, hfirst, rfl⟩, ?_⟩
    intro row hrow
    obtain ⟨value, rfl, rfl⟩ := Option.map_eq_some_iff.mp hrow
    exact (latest_iff hfirst).mpr (hlatest value rfl)

/-- The rows of a sealed entry are the most recent ones if and only if each finish lists a
latest well-formed cell before the others, and before any whose price makes `float` raise. -/
theorem emitsLatest_iff (parsers : CellParsers) (uuid : String) (entry : Json) :
    EmitsLatest parsers uuid entry ↔
      ∀ finish ∈ finishDates entry, LatestFirst parsers finish.dates := by
  have hhas : ∀ finish found, readFinish parsers uuid finish = some found →
      hasCell parsers finish = found.isSome := by
    intro finish found hread
    obtain ⟨first, hfirst, rfl⟩ := Option.map_eq_some_iff.mp hread
    rw [Option.isSome_map]
    exact hasCell_of_firstCell hfirst
  rw [EmitsLatest, iterSealedRows_eq]
  simp only [Option.map_eq_some_iff, exists_exists_and_eq_and,
    ← @readFinish_latest_iff parsers uuid]
  exact exists_mapM_forall₂_iff hhas (finishDates entry)

/-- The two days of January 2024 that the entry below has, and prices that are numbers. -/
def januaryParsers : CellParsers where
  fromIsoformat
    | "2024-01-01" => some 19723
    | "2024-01-02" => some 19724
    | _ => none
  toFloat
    | .number units scale => .row (.decimal units scale)
    | _ => .bad

/-- The entry of a sealed product, its dates ascending. -/
def ascendingEntry : Json :=
  .dict [("paper", .dict [("tcgplayer", .dict [("retail", .dict [("normal", .dict [
    ("2024-01-01", .number 100 0), ("2024-01-02", .number 120 0)])])])])]

/-- Of ascending dates the oldest is emitted. -/
theorem oldest_price_is_emitted :
    ¬ EmitsLatest januaryParsers "1a2b" ascendingEntry := by
  rintro ⟨rows, hrows, hlatest⟩
  obtain rfl : [⟨"1a2b", "tcgplayer", "retail", .str "USD", .decimal 100 0, 19723⟩] = rows :=
    Option.some.inj hrows
  cases hlatest with
  | cons hrow _ =>
    obtain ⟨value, hvalue, -, hothers⟩ := hrow
    have hdate : 19723 = value.1 := congrArg SealedRow.priceDate hvalue
    have hlater : (19724 : Int) ≤ value.1 :=
      hothers ("2024-01-02", .number 120 0) (List.mem_cons_of_mem _ List.mem_cons_self)
        (19724, .decimal 120 0) rfl
    omega

end Latest

end AutoMana.Sealed.Cells
