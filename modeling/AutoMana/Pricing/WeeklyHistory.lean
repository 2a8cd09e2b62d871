import AutoMana.Pricing.WeeklyArchive
import AutoMana.Relational.LeftJoin
import AutoMana.Relational.Means
import Mathlib.Algebra.Order.Field.Basic

/-!
# The weekly price history

A history has one point for each week of its range. A point is read from the daily rows of its
week within the range, and only when there is none from the weekly rows, of which those count
whose Monday is within the range. So an archived week is read as if it were not, unless the
range begins after its Monday, or some of its rows are still daily.
-/

namespace AutoMana.Pricing

open Relational

/-! ## get_price_history -/

/-- The tables that are joined with the prices. -/
structure HistoryReference where
  /-- The codes of `card_finished`. -/
  cardFinished : Table Nat String
  /-- The currencies of `price_source`. -/
  priceSource : Table SourceId String
  /-- `str.upper` -/
  upper : String → String

/-- The arguments of a call with `aggregation='weekly'`. -/
structure HistoryRequest where
  cardVersionId : CardVersionId
  startDate : Int
  endDate : Int
  finish : Option String
  currency : String

section Query

variable (reference : HistoryReference) (request : HistoryRequest)

/-- The joins and conditions on a price key. -/
def Matches (key : PriceKey) : Prop :=
  key.cardVersionId = request.cardVersionId ∧
    (∃ code ∈ reference.cardFinished.get? key.finishId, ∀ finish ∈ request.finish,
      finish ≠ "" → code = reference.upper finish) ∧
    reference.priceSource.get? key.sourceId = some (reference.upper request.currency)

instance (key : PriceKey) : Decidable (Matches reference request key) :=
  inferInstanceAs (Decidable (_ ∧ _ ∧ _))

/-- `generate_series(date_trunc('week', start), end, interval '1 week')` -/
def weeklyRange : List Int :=
  let first := truncWeek request.startDate
  (List.range ((request.endDate - first) / 7 + 1).toNat).map fun i : Nat => first + 7 * i

structure WeekPrice where
  listAvgPrice : Option ℚ
  soldAvgPrice : Option ℚ

/-- `COALESCE(AVG(list_avg_cents), AVG(sold_avg_cents))` -/
def coalescedMean (prices : List (Prices Nat)) : Option ℚ :=
  (Aggregate.mean (prices.map (·.listAvgCents))).or (Aggregate.mean (prices.map (·.soldAvgCents)))

/-- The averages of a group. -/
def weekPrice : List (Prices Nat) → Option WeekPrice
  | [] => none
  | group => some {
      listAvgPrice := (coalescedMean group).map (· / 100)
      soldAvgPrice := (Aggregate.mean (group.map (·.soldAvgCents))).map (· / 100) }

/-- The daily rows of the range. -/
def tier2Rows (daily : Table (Int × PriceKey) DailyPrice) : List DailyRow :=
  daily.rows.filter fun row => Matches reference request row.1.2 ∧
    request.startDate ≤ row.1.1 ∧ row.1.1 ≤ request.endDate

def tier2Prices (daily : Table (Int × PriceKey) DailyPrice) : Table Int WeekPrice :=
  Table.groupBy (fun row => truncWeek row.1.1) (fun group => weekPrice (group.map (·.2.prices)))
    (tier2Rows reference request daily)

/-- The weekly rows of the range. -/
def tier3Rows (weekly : Table (Int × PriceKey) WeeklyPrice) :
    List ((Int × PriceKey) × WeeklyPrice) :=
  weekly.rows.filter fun row => Matches reference request row.1.2 ∧
    request.startDate ≤ row.1.1 ∧ row.1.1 ≤ request.endDate

def tier3Prices (weekly : Table (Int × PriceKey) WeeklyPrice) : Table Int WeekPrice :=
  Table.groupBy (·.1.1) (fun group => weekPrice (group.map (·.2.prices)))
    (tier3Rows reference request weekly)

structure PricePoint where
  priceDate : Int
  listAvgPrice : Option ℚ
  soldAvgPrice : Option ℚ

/-- A week with what was joined to it. -/
def pricePoint (week : Int) (price : Option WeekPrice) : PricePoint where
  priceDate := week
  listAvgPrice := price.bind (·.listAvgPrice)
  soldAvgPrice := price.bind (·.soldAvgPrice)

/-- The weeks come in their order, each joined with its prices. -/
def getPriceHistory (daily : Table (Int × PriceKey) DailyPrice)
    (weekly : Table (Int × PriceKey) WeeklyPrice) : List PricePoint :=
  let combined := (tier2Prices reference request daily).unionMissing
    (tier3Prices reference request weekly)
  (leftJoin (weeklyRange request) combined.rows).map fun row => pricePoint row.1 row.2

end Query

/-! ## Archived rows -/

section Archived

variable (daily : Table (Int × PriceKey) DailyPrice) (moved : DailyRow → Bool)

/-- The daily rows without those that are moved. -/
def keptDaily : Table (Int × PriceKey) DailyPrice :=
  daily.deleteWhere fun key price => moved (key, price)

/-- The weekly rows of those that are moved. -/
def movedWeekly : Table (Int × PriceKey) WeeklyPrice :=
  Table.groupBy weekOf weeklyAggregate (daily.rows.filter moved)

end Archived

/-! ## What is claimed of a history -/

section Claim

variable (reference : HistoryReference) (request : HistoryRequest)
  (daily : Table (Int × PriceKey) DailyPrice) (moved : DailyRow → Bool)

/-- The matching rows of a week that are still daily and within the range. -/
def keptRows (week : Int) : List DailyRow :=
  daily.rows.filter fun row => Matches reference request row.1.2 ∧ truncWeek row.1.1 = week ∧
    ¬ moved row ∧ request.startDate ≤ row.1.1 ∧ row.1.1 ≤ request.endDate

/-- The matching rows of a week that are moved. -/
def movedRows (week : Int) : List DailyRow :=
  daily.rows.filter fun row => Matches reference request row.1.2 ∧ truncWeek row.1.1 = week ∧
    moved row

/-- The matching rows of a week that are within the range or moved. -/
def countedRows (week : Int) : List DailyRow :=
  daily.rows.filter fun row => Matches reference request row.1.2 ∧ truncWeek row.1.1 = week ∧
    (moved row ∨ request.startDate ≤ row.1.1 ∧ row.1.1 ≤ request.endDate)

/-- Some row has an average price. -/
def HasPrice (rows : List DailyRow) : Prop :=
  ∃ row ∈ rows, row.2.prices.listAvgCents.isSome ∨ row.2.prices.soldAvgCents.isSome

/-- The average of some rows. -/
def rowsMean (rows : List DailyRow) : Option ℚ := coalescedMean (rows.map (·.2.prices))

def OneKey (rows : List DailyRow) : Prop :=
  ∀ row ∈ rows, ∀ other ∈ rows, row.1.2 = other.1.2

/-- A week with a day in the range. -/
def Overlaps (week : Int) : Prop :=
  ∃ day, request.startDate ≤ day ∧ day ≤ request.endDate ∧ truncWeek day = week

/-- The history after some rows are moved. -/
def movedHistory : List PricePoint :=
  getPriceHistory reference request (keptDaily daily moved) (movedWeekly daily moved)

/-- The price of a week is there when a matching row of the week, within the range or moved, has
one; and when those rows are of one key, it is their average to half a cent. -/
structure PriceReads (week : Int) (price : Option ℚ) : Prop where
  nonnull : price.isSome ↔ HasPrice (countedRows reference request daily moved week)
  average : OneKey (countedRows reference request daily moved week) →
    ∀ average, rowsMean (countedRows reference request daily moved week) = some average →
    ∃ value, price = some value ∧ |value - average / 100| ≤ 1 / 200

/-- There is one point for each week that overlaps the range, in order, with the price of its
week. -/
structure ReadsBothTiers : Prop where
  ordered : ((movedHistory reference request daily moved).map (·.priceDate)).Pairwise (· < ·)
  weeks : ∀ week, week ∈ (movedHistory reference request daily moved).map (·.priceDate) ↔
    Overlaps request week
  reads : ∀ point ∈ movedHistory reference request daily moved,
    PriceReads reference request daily moved point.priceDate point.listAvgPrice

/-- No row of the week is left in the range, and its Monday is in the range; or a row with a
price is left in the range, and those left have the average of all to half a cent when all are
of one key. -/
def WeekAgrees (week : Int) : Prop :=
  (keptRows reference request daily moved week = [] ∧ request.startDate ≤ week) ∨
    (HasPrice (keptRows reference request daily moved week) ∧
      (OneKey (countedRows reference request daily moved week) → ∀ left average,
        rowsMean (keptRows reference request daily moved week) = some left →
        rowsMean (countedRows reference request daily moved week) = some average →
        |left - average| ≤ 1 / 2))

/-- The range has a day, or ends before the week that it begins in; and a week of the range of
which a row with a price is moved agrees. -/
structure TiersAgree : Prop where
  range : request.startDate ≤ request.endDate ∨ request.endDate < truncWeek request.startDate
  week : ∀ week, Overlaps request week → HasPrice (movedRows reference request daily moved week) →
    WeekAgrees reference request daily moved week

end Claim

/-! ## The weeks -/

section Weeks

variable {request : HistoryRequest} {week : Int}

theorem mem_weeklyRange : week ∈ weeklyRange request ↔
    truncWeek week = week ∧ truncWeek request.startDate ≤ week ∧ week ≤ request.endDate := by
  have hmonday := truncWeek_idem request.startDate
  simp only [weeklyRange, List.mem_map, List.mem_range]
  constructor
  · rintro ⟨i, hi, rfl⟩
    unfold truncWeek at *
    omega
  · rintro ⟨hweek, hfirst, hlast⟩
    refine ⟨((week - truncWeek request.startDate) / 7).toNat, ?_, ?_⟩
    · unfold truncWeek at *
      omega
    · unfold truncWeek at *
      omega

theorem weeklyRange_pairwise (request : HistoryRequest) :
    (weeklyRange request).Pairwise (· < ·) := by
  apply List.Pairwise.map
  rotate_left
  · exact List.pairwise_lt_range
  · intro first second hlt
    omega

/-- The weeks of a range with a day are those that overlap it. -/
theorem mem_weeklyRange_iff_overlaps (hrange : request.startDate ≤ request.endDate) :
    week ∈ weeklyRange request ↔ Overlaps request week := by
  rw [mem_weeklyRange]
  constructor
  · rintro ⟨hmonday, hfirst, hlast⟩
    refine ⟨max week request.startDate, by omega, by omega, ?_⟩
    rw [truncWeek_eq_iff hmonday]
    unfold truncWeek at *
    omega
  · rintro ⟨day, hstart, hend, rfl⟩
    refine ⟨truncWeek_idem day, ?_, (truncWeek_le day).trans hend⟩
    unfold truncWeek
    omega

theorem weeks_iff :
    (∀ week, week ∈ weeklyRange request ↔ Overlaps request week) ↔
      request.startDate ≤ request.endDate ∨ request.endDate < truncWeek request.startDate := by
  constructor
  · intro hweeks
    by_contra hrange
    have hfirst : truncWeek request.startDate ∈ weeklyRange request :=
      mem_weeklyRange.mpr ⟨truncWeek_idem _, le_rfl, by omega⟩
    obtain ⟨day, hstart, hend, -⟩ := (hweeks _).mp hfirst
    omega
  · rintro (hrange | hbefore) week
    · exact mem_weeklyRange_iff_overlaps hrange
    · have hlate := truncWeek_le request.startDate
      refine iff_of_false ?_ ?_
      · intro hmem
        have hbounds := mem_weeklyRange.mp hmem
        omega
      · rintro ⟨day, hstart, hend, -⟩
        omega

end Weeks

/-! ## The prices of a week -/

section Averages

variable {reference : HistoryReference} {request : HistoryRequest}
  {daily : Table (Int × PriceKey) DailyPrice} {moved : DailyRow → Bool} {week : Int}

/-- A group has an average when one of its prices is there. -/
theorem isSome_coalescedMean {prices : List (Prices Nat)} : (coalescedMean prices).isSome ↔
    ∃ price ∈ prices, price.listAvgCents.isSome ∨ price.soldAvgCents.isSome := by
  have hcolumn (column : Prices Nat → Option Nat) :
      (Aggregate.mean (prices.map column)).isSome ↔ ∃ price ∈ prices, (column price).isSome := by
    rw [Aggregate.isSome_mean]
    simp only [List.mem_map, Option.isSome_iff_exists]
    constructor
    · rintro ⟨value, price, hprice, hvalue⟩
      exact ⟨price, hprice, value, hvalue⟩
    · rintro ⟨price, hprice, value, hvalue⟩
      exact ⟨value, price, hprice, hvalue⟩
  rw [coalescedMean, Option.isSome_or, Bool.or_eq_true, hcolumn, hcolumn, ← exists_or]
  simp only [and_or_left]

theorem isSome_rowsMean {rows : List DailyRow} : (rowsMean rows).isSome ↔ HasPrice rows := by
  simp [rowsMean, isSome_coalescedMean, HasPrice]

theorem listAvgPrice_weekPrice (group : List (Prices Nat)) :
    (weekPrice group).bind (·.listAvgPrice) = (coalescedMean group).map (· / 100) := by
  cases group <;> rfl

/-- Rows without a price do not count in an average. -/
theorem rowsMean_filter_congr {rows : List DailyRow} {first second : DailyRow → Bool}
    (hdiffer : ∀ row ∈ rows, first row ≠ second row →
      row.2.prices.listAvgCents = none ∧ row.2.prices.soldAvgCents = none) :
    rowsMean (rows.filter first) = rowsMean (rows.filter second) := by
  unfold rowsMean coalescedMean
  simp only [List.map_map, Function.comp_def]
  rw [Aggregate.mean_map_filter_congr fun row hrow hne => (hdiffer row hrow hne).1,
    Aggregate.mean_map_filter_congr fun row hrow hne => (hdiffer row hrow hne).2]

end Averages

/-! ## What a week is read from -/

section Read

variable {reference : HistoryReference} {request : HistoryRequest}
  {daily : Table (Int × PriceKey) DailyPrice} {moved : DailyRow → Bool} {week : Int}

/-- The matching weekly rows of a week. -/
def rolledRows (reference : HistoryReference) (request : HistoryRequest)
    (daily : Table (Int × PriceKey) DailyPrice) (moved : DailyRow → Bool) (week : Int) :
    List ((Int × PriceKey) × WeeklyPrice) :=
  (movedWeekly daily moved).rows.filter fun row =>
    Matches reference request row.1.2 ∧ row.1.1 = week

theorem getPriceHistory_eq (weekly : Table (Int × PriceKey) WeeklyPrice) :
    getPriceHistory reference request daily weekly = (weeklyRange request).map fun week =>
      pricePoint week (((tier2Prices reference request daily).get? week).or
        ((tier3Prices reference request weekly).get? week)) := by
  simp only [getPriceHistory, Table.leftJoin_rows, Table.get?_unionMissing, List.map_map,
    Function.comp_def]

theorem tier2Prices_keptDaily (week : Int) :
    (tier2Prices reference request (keptDaily daily moved)).get? week =
      weekPrice ((keptRows reference request daily moved week).map (·.2.prices)) := by
  have hrows : (tier2Rows reference request (keptDaily daily moved)).filter
      (truncWeek ·.1.1 = week) = keptRows reference request daily moved week := by
    simp only [tier2Rows, keptDaily, Table.deleteWhere, keptRows, List.filter_filter]
    apply List.filter_congr
    intro row _
    rw [Bool.eq_iff_iff]
    simp only [Bool.and_eq_true, decide_eq_true_eq, Bool.not_eq_true', Prod.mk.eta,
      Bool.not_eq_true]
    tauto
  rw [tier2Prices, Table.get?_groupBy _ _ rfl, hrows]

/-- A week counts in the weekly rows when its Monday is in the range. -/
theorem tier3Prices_movedWeekly (hend : week ≤ request.endDate) :
    (tier3Prices reference request (movedWeekly daily moved)).get? week =
      if request.startDate ≤ week then
        weekPrice ((rolledRows reference request daily moved week).map (·.2.prices))
      else none := by
  have hrows : (tier3Rows reference request (movedWeekly daily moved)).filter (·.1.1 = week) =
      if request.startDate ≤ week then rolledRows reference request daily moved week else [] := by
    simp only [tier3Rows, rolledRows, List.filter_filter]
    split_ifs with hstart
    · apply List.filter_congr
      intro row _
      by_cases hweek : row.1.1 = week
      · simp [hweek, hstart, hend]
      · simp [hweek]
    · rw [List.filter_eq_nil_iff]
      rintro row - hselected
      simp only [Bool.and_eq_true, decide_eq_true_eq] at hselected
      omega
  rw [tier3Prices, Table.get?_groupBy _ _ rfl, hrows]
  split_ifs <;> rfl

/-- The daily rows of a week that are left come first. -/
theorem listAvgPrice_of_week (hend : week ≤ request.endDate) :
    (pricePoint week (((tier2Prices reference request (keptDaily daily moved)).get? week).or
      ((tier3Prices reference request (movedWeekly daily moved)).get? week))).listAvgPrice =
      if keptRows reference request daily moved week ≠ [] then
        (rowsMean (keptRows reference request daily moved week)).map (· / 100)
      else if request.startDate ≤ week then
        (coalescedMean ((rolledRows reference request daily moved week).map (·.2.prices))).map
          (· / 100)
      else none := by
  rw [tier2Prices_keptDaily, tier3Prices_movedWeekly hend, rowsMean, ← listAvgPrice_weekPrice,
    ← listAvgPrice_weekPrice]
  cases hkept : keptRows reference request daily moved week with
  | nil =>
    rw [if_neg (not_not_intro rfl)]
    split_ifs <;> rfl
  | cons first rest =>
    rw [if_pos (List.cons_ne_nil _ _)]
    rfl

theorem mem_keptRows {row : DailyRow} : row ∈ keptRows reference request daily moved week ↔
    row ∈ daily.rows ∧ Matches reference request row.1.2 ∧ truncWeek row.1.1 = week ∧
      ¬ moved row ∧ request.startDate ≤ row.1.1 ∧ row.1.1 ≤ request.endDate := by
  rw [keptRows, List.mem_filter, decide_eq_true_eq]

theorem mem_movedRows {row : DailyRow} : row ∈ movedRows reference request daily moved week ↔
    row ∈ daily.rows ∧ Matches reference request row.1.2 ∧ truncWeek row.1.1 = week ∧
      moved row := by
  rw [movedRows, List.mem_filter, decide_eq_true_eq]

/-- A row counts when it is left or moved. -/
theorem mem_countedRows {row : DailyRow} : row ∈ countedRows reference request daily moved week ↔
    row ∈ keptRows reference request daily moved week ∨
      row ∈ movedRows reference request daily moved week := by
  rw [mem_keptRows, mem_movedRows, countedRows, List.mem_filter, decide_eq_true_eq]
  tauto

theorem hasPrice_countedRows : HasPrice (countedRows reference request daily moved week) ↔
    HasPrice (keptRows reference request daily moved week) ∨
      HasPrice (movedRows reference request daily moved week) := by
  simp only [HasPrice, mem_countedRows, or_and_right, exists_or]

/-- When no row is left, all that count are moved. -/
theorem countedRows_of_kept_nil (hkept : keptRows reference request daily moved week = []) :
    countedRows reference request daily moved week =
      movedRows reference request daily moved week := by
  apply List.filter_congr
  intro row hrow
  rw [decide_eq_decide]
  refine and_congr_right fun hmatches => and_congr_right fun hweek => or_iff_left_of_imp ?_
  intro hrange
  by_contra hstays
  exact List.not_mem_nil (hkept ▸ mem_keptRows.mpr ⟨hrow, hmatches, hweek, hstays, hrange⟩)

/-- Moved rows without a price do not count in the average. -/
theorem rowsMean_countedRows
    (hpriceless : ¬ HasPrice (movedRows reference request daily moved week)) :
    rowsMean (countedRows reference request daily moved week) =
      rowsMean (keptRows reference request daily moved week) := by
  apply rowsMean_filter_congr
  intro row hrow hdiffer
  have hmoved : row ∈ movedRows reference request daily moved week := by
    rw [mem_movedRows]
    simp only [ne_eq, decide_eq_decide] at hdiffer
    tauto
  constructor
  · by_contra hprice
    exact hpriceless ⟨row, hmoved, Or.inl (Option.isSome_iff_ne_none.mpr hprice)⟩
  · by_contra hprice
    exact hpriceless ⟨row, hmoved, Or.inr (Option.isSome_iff_ne_none.mpr hprice)⟩

end Read

/-! ## Rolled rows -/

section Rolled

variable {reference : HistoryReference} {request : HistoryRequest}
  {daily : Table (Int × PriceKey) DailyPrice} {moved : DailyRow → Bool} {week : Int}

theorem get?_movedWeekly (key : Int × PriceKey) : (movedWeekly daily moved).get? key =
    weeklyAggregate ((daily.rows.filter moved).filter fun row => weekOf row = key) :=
  Table.get?_groupBy _ _ rfl _ _

/-- The prices of an aggregate are there when one row of its group has one. -/
theorem isSome_weeklyAggregate {group : List DailyRow} {price : WeeklyPrice}
    (hprice : weeklyAggregate group = some price) :
    price.prices.listAvgCents.isSome ∨ price.prices.soldAvgCents.isSome ↔ HasPrice group := by
  cases group with
  | nil => cases hprice
  | cons first rest =>
    obtain rfl := Option.some.inj hprice
    dsimp only
    rw [Aggregate.isSome_avg, Aggregate.isSome_avg, HasPrice, ← exists_or]
    simp only [List.mem_map, Option.isSome_iff_exists]
    grind

theorem mem_movedGroup {key : PriceKey} {row : DailyRow}
    (hmatches : Matches reference request key) :
    row ∈ (daily.rows.filter moved).filter (fun row => weekOf row = (week, key)) ↔
      row ∈ movedRows reference request daily moved week ∧ row.1.2 = key := by
  rw [List.mem_filter, List.mem_filter, decide_eq_true_eq, mem_movedRows, weekOf, Prod.mk.injEq]
  constructor
  · rintro ⟨⟨hrow, hmoved⟩, hweek, rfl⟩
    exact ⟨⟨hrow, hmatches, hweek, hmoved⟩, rfl⟩
  · rintro ⟨⟨hrow, -, hweek, hmoved⟩, hkey⟩
    exact ⟨⟨hrow, hmoved⟩, hweek, hkey⟩

/-- The rolled rows have a price when a moved one has. -/
theorem isSome_rolled : (coalescedMean
    ((rolledRows reference request daily moved week).map (·.2.prices))).isSome ↔
      HasPrice (movedRows reference request daily moved week) := by
  rw [isSome_coalescedMean]
  constructor
  · rintro ⟨prices, hprices, hsome⟩
    obtain ⟨⟨⟨stored, key⟩, price⟩, hrow, rfl⟩ := List.mem_map.mp hprices
    obtain ⟨hstored, hselected⟩ := List.mem_filter.mp hrow
    obtain ⟨hmatches, rfl⟩ := of_decide_eq_true hselected
    rw [Table.mem_rows_iff, get?_movedWeekly] at hstored
    obtain ⟨row, hgroup, hprice⟩ := (isSome_weeklyAggregate hstored).mp hsome
    exact ⟨row, ((mem_movedGroup hmatches).mp hgroup).1, hprice⟩
  · rintro ⟨row, hrow, hprice⟩
    obtain ⟨-, hmatches, -, -⟩ := mem_movedRows.mp hrow
    have hgroup := (mem_movedGroup hmatches).mpr ⟨hrow, rfl⟩
    obtain ⟨price, hstored⟩ : ∃ price,
        (movedWeekly daily moved).get? (week, row.1.2) = some price := by
      rw [get?_movedWeekly]
      cases hfilter : (daily.rows.filter moved).filter
          fun other => weekOf other = (week, row.1.2) with
      | nil => exact absurd hgroup (by simp [hfilter])
      | cons first rest => exact ⟨_, rfl⟩
    refine ⟨price.prices, List.mem_map.mpr ⟨((week, row.1.2), price), ?_, rfl⟩, ?_⟩
    · exact List.mem_filter.mpr
        ⟨(Table.mem_rows_iff _ _ _).mpr hstored, decide_eq_true ⟨hmatches, rfl⟩⟩
    · rw [get?_movedWeekly] at hstored
      exact (isSome_weeklyAggregate hstored).mpr ⟨row, hgroup, hprice⟩

/-- Rows of one key are one group. -/
theorem movedGroup_of_oneKey (hkey : OneKey (movedRows reference request daily moved week))
    {row : DailyRow} (hrow : row ∈ movedRows reference request daily moved week) :
    (daily.rows.filter moved).filter (fun other => weekOf other = (week, row.1.2)) =
      movedRows reference request daily moved week := by
  obtain ⟨-, hmatches, -, -⟩ := mem_movedRows.mp hrow
  rw [movedRows, List.filter_filter]
  apply List.filter_congr
  intro other hother
  rw [Bool.eq_iff_iff, Bool.and_eq_true, decide_eq_true_eq, decide_eq_true_eq, weekOf,
    Prod.mk.injEq]
  constructor
  · rintro ⟨⟨hweek, hsame⟩, hmoved⟩
    exact ⟨hsame ▸ hmatches, hweek, hmoved⟩
  · rintro ⟨hother', hweek, hmoved⟩
    have hmem := mem_movedRows.mpr ⟨hother, hother', hweek, hmoved⟩
    exact ⟨⟨hweek, hkey other hmem row hrow⟩, hmoved⟩

/-- Rows of one key are rolled into one. -/
theorem rolledRows_of_oneKey (hkey : OneKey (movedRows reference request daily moved week))
    {row : DailyRow} (hrow : row ∈ movedRows reference request daily moved week) :
    rolledRows reference request daily moved week =
      ((weeklyAggregate (movedRows reference request daily moved week)).map
        ((week, row.1.2), ·)).toList := by
  rw [← movedGroup_of_oneKey hkey hrow, ← get?_movedWeekly, ← Table.filter_key, rolledRows]
  obtain ⟨-, hmatches, -, -⟩ := mem_movedRows.mp hrow
  apply List.filter_congr
  rintro ⟨⟨stored, key⟩, price⟩ hstored
  rw [decide_eq_decide, Prod.mk.injEq]
  constructor
  · rintro ⟨hselected, rfl⟩
    have hgroup := get?_movedWeekly (stored, key) ▸ (Table.mem_rows_iff _ _ _).mp hstored
    obtain ⟨other, hother⟩ : ∃ other, other ∈ (daily.rows.filter moved).filter
        fun other => weekOf other = (stored, key) := by
      apply List.exists_mem_of_ne_nil
      intro hnil
      rw [hnil] at hgroup
      cases hgroup
    obtain ⟨hmem, rfl⟩ := (mem_movedGroup hselected).mp hother
    exact ⟨rfl, hkey other hmem row hrow⟩
  · rintro ⟨rfl, rfl⟩
    exact ⟨hmatches, rfl⟩

/-- The rolled price of one key is the average of its rows, rounded. -/
theorem rolled_close (hkey : OneKey (movedRows reference request daily moved week)) {average : ℚ}
    (haverage : rowsMean (movedRows reference request daily moved week) = some average) :
    ∃ price, coalescedMean ((rolledRows reference request daily moved week).map (·.2.prices)) =
      some price ∧ |price - average| ≤ 1 / 2 := by
  obtain ⟨row, hrow, -⟩ := isSome_rowsMean.mp (Option.isSome_of_eq_some haverage)
  rw [rolledRows_of_oneKey hkey hrow]
  cases hmoved : movedRows reference request daily moved week with
  | nil => exact absurd hrow (hmoved ▸ List.not_mem_nil)
  | cons first rest =>
    rw [hmoved, rowsMean, coalescedMean, List.map_map, List.map_map] at haverage
    obtain ⟨rounded, havg, hclose⟩ := Aggregate.exists_avg_or haverage
    refine ⟨rounded, ?_, hclose⟩
    change (Aggregate.mean [_]).or (Aggregate.mean [_]) = _
    rw [Aggregate.mean_singleton, Aggregate.mean_singleton, ← Option.map_or]
    exact congrArg (Option.map _) havg

end Rolled

/-! ## When archiving is not seen -/

section Exact

variable {reference : HistoryReference} {request : HistoryRequest}
  {daily : Table (Int × PriceKey) DailyPrice} {moved : DailyRow → Bool} {week : Int}

theorem abs_cents_le_iff (left average : ℚ) :
    |left / 100 - average / 100| ≤ 1 / 200 ↔ |left - average| ≤ 1 / 2 := by
  rw [← sub_div, abs_div, div_le_iff₀ (by norm_num), abs_of_pos (by norm_num : (0 : ℚ) < 100)]
  norm_num

/-- A week with rows left is read from them. -/
theorem priceReads_of_kept (hkept : keptRows reference request daily moved week ≠ []) :
    PriceReads reference request daily moved week
        ((rowsMean (keptRows reference request daily moved week)).map (· / 100)) ↔
      (HasPrice (movedRows reference request daily moved week) →
        WeekAgrees reference request daily moved week) := by
  constructor
  · rintro ⟨hnonnull, haverage⟩ hmoved
    have hleft : HasPrice (keptRows reference request daily moved week) := by
      rw [← isSome_rowsMean, ← Option.isSome_map, hnonnull]
      exact hasPrice_countedRows.mpr (Or.inr hmoved)
    refine Or.inr ⟨hleft, fun hkey left average hleft' haverage' => ?_⟩
    obtain ⟨value, hvalue, hclose⟩ := haverage hkey average haverage'
    rw [hleft'] at hvalue
    obtain rfl := Option.some.inj hvalue
    exact (abs_cents_le_iff left average).mp hclose
  · intro hagrees
    by_cases hmoved : HasPrice (movedRows reference request daily moved week)
    · rcases hagrees hmoved with ⟨hnil, -⟩ | ⟨hleft, hclose⟩
      · exact absurd hnil hkept
      · obtain ⟨left, hleft'⟩ := Option.isSome_iff_exists.mp (isSome_rowsMean.mpr hleft)
        refine ⟨?_, fun hkey average haverage => ⟨left / 100, by rw [hleft']; rfl, ?_⟩⟩
        · rw [hleft', hasPrice_countedRows]
          exact iff_of_true rfl (Or.inl hleft)
        · exact (abs_cents_le_iff left average).mpr (hclose hkey left average hleft' haverage)
    · have hsame := rowsMean_countedRows hmoved
      refine ⟨?_, fun _ average haverage => ⟨average / 100, ?_, ?_⟩⟩
      · rw [Option.isSome_map, ← hsame, isSome_rowsMean]
      · rw [← hsame, haverage]
        rfl
      · rw [sub_self, abs_zero]
        norm_num

/-- A week without rows that are left is read from the weekly rows, if its Monday is in the
range. -/
theorem priceReads_of_kept_nil (hkept : keptRows reference request daily moved week = []) :
    PriceReads reference request daily moved week
        (if request.startDate ≤ week then
          (coalescedMean ((rolledRows reference request daily moved week).map (·.2.prices))).map
            (· / 100)
        else none) ↔
      (HasPrice (movedRows reference request daily moved week) →
        WeekAgrees reference request daily moved week) := by
  have hcounted := countedRows_of_kept_nil hkept
  by_cases hstart : request.startDate ≤ week
  · rw [if_pos hstart]
    refine iff_of_true ⟨?_, ?_⟩ fun _ => Or.inl ⟨hkept, hstart⟩
    · rw [Option.isSome_map, isSome_rolled, hcounted]
    · rw [hcounted]
      intro hkey average haverage
      obtain ⟨price, hprice, hclose⟩ := rolled_close hkey haverage
      exact ⟨price / 100, by rw [hprice]; rfl, (abs_cents_le_iff price average).mpr hclose⟩
  · rw [if_neg hstart]
    constructor
    · rintro ⟨hnonnull, -⟩ hmoved
      exact absurd (hnonnull.mpr (hcounted ▸ hmoved)) Bool.false_ne_true
    · intro hagrees
      have hpriceless : ¬ HasPrice (movedRows reference request daily moved week) := by
        intro hmoved
        rcases hagrees hmoved with ⟨-, hstart'⟩ | ⟨⟨row, hrow, -⟩, -⟩
        · exact hstart hstart'
        · exact absurd hrow (hkept ▸ List.not_mem_nil)
      refine ⟨iff_of_false Bool.false_ne_true (hcounted ▸ hpriceless), ?_⟩
      intro _ average haverage
      rw [hcounted] at haverage
      exact absurd (isSome_rowsMean.mp (Option.isSome_of_eq_some haverage)) hpriceless

theorem movedHistory_eq : movedHistory reference request daily moved =
    (weeklyRange request).map fun week =>
      pricePoint week (((tier2Prices reference request (keptDaily daily moved)).get? week).or
        ((tier3Prices reference request (movedWeekly daily moved)).get? week)) :=
  getPriceHistory_eq _

theorem priceDate_movedHistory :
    (movedHistory reference request daily moved).map (·.priceDate) = weeklyRange request := by
  rw [movedHistory_eq, List.map_map]
  exact List.map_id _

/-- The points read their prices when every week does. -/
theorem reads_iff : (∀ point ∈ movedHistory reference request daily moved,
      PriceReads reference request daily moved point.priceDate point.listAvgPrice) ↔
    ∀ week ∈ weeklyRange request, HasPrice (movedRows reference request daily moved week) →
      WeekAgrees reference request daily moved week := by
  rw [movedHistory_eq, List.forall_mem_map]
  refine forall₂_congr fun week hweek => ?_
  obtain ⟨-, -, hend⟩ := mem_weeklyRange.mp hweek
  rw [listAvgPrice_of_week hend]
  by_cases hkept : keptRows reference request daily moved week = []
  · rw [if_neg (not_not_intro hkept)]
    exact priceReads_of_kept_nil hkept
  · rw [if_pos hkept]
    exact priceReads_of_kept hkept

end Exact

/-! ## The history after a call of archive_to_weekly -/

section Call

variable {reference : HistoryReference} {request : HistoryRequest}

theorem weekPrice_perm {first second : List (Prices Nat)} (hperm : first.Perm second) :
    weekPrice first = weekPrice second := by
  have hmean (column : Prices Nat → Option Nat) :
      Aggregate.mean (first.map column) = Aggregate.mean (second.map column) :=
    Aggregate.mean_perm (hperm.map column)
  cases first with
  | nil => rw [hperm.nil_eq]
  | cons price rest =>
    cases second with
    | nil => exact absurd hperm (by simp)
    | cons price' rest' => simp only [weekPrice, coalescedMean, hmean]

/-- A history does not depend on the order of the rows. -/
theorem getPriceHistory_congr {daily daily' : Table (Int × PriceKey) DailyPrice}
    {weekly weekly' : Table (Int × PriceKey) WeeklyPrice}
    (hdaily : ∀ key, daily.get? key = daily'.get? key)
    (hweekly : ∀ key, weekly.get? key = weekly'.get? key) :
    getPriceHistory reference request daily weekly =
      getPriceHistory reference request daily' weekly' := by
  have htier2 (week : Int) : (tier2Prices reference request daily).get? week =
      (tier2Prices reference request daily').get? week := by
    rw [tier2Prices, tier2Prices, Table.get?_groupBy _ _ rfl, Table.get?_groupBy _ _ rfl]
    exact weekPrice_perm ((((Table.rows_perm hdaily).filter _).filter _).map _)
  have htier3 (week : Int) : (tier3Prices reference request weekly).get? week =
      (tier3Prices reference request weekly').get? week := by
    rw [tier3Prices, tier3Prices, Table.get?_groupBy _ _ rfl, Table.get?_groupBy _ _ rfl]
    exact weekPrice_perm ((((Table.rows_perm hweekly).filter _).filter _).map _)
  simp only [getPriceHistory_eq, htier2, htier3]

/-- The rows of the windows that a call commits. -/
def archived (call : ArchiveCall) (tiers : Tiers) (row : DailyRow) : Bool :=
  ∃ window ∈ archiveWindows call tiers, call.raises window = false ∧ window.Contains row.1.1

/-- A call of `archive_to_weekly` over an empty weekly table moves the rows of the windows that it
commits. -/
theorem getPriceHistory_archiveToWeekly (call : ArchiveCall) {tiers : Tiers}
    (hfresh : ∀ key, tiers.printPriceWeekly.get? key = none) :
    getPriceHistory reference request (archiveToWeekly call tiers).printPriceDaily
        (archiveToWeekly call tiers).printPriceWeekly =
      movedHistory reference request tiers.printPriceDaily (archived call tiers) := by
  apply getPriceHistory_congr
  · rintro ⟨date, key⟩
    rw [archiveToWeekly_daily, keptDaily, Table.get?_deleteWhere]
    split_ifs with hmoved
    · cases tiers.printPriceDaily.get? (date, key) with
      | none => rfl
      | some price => simp [archived, hmoved]
    · cases tiers.printPriceDaily.get? (date, key) with
      | none => rfl
      | some price => simp [archived, hmoved, Option.filter]
  · intro week
    have hgroup : (movedWeekly tiers.printPriceDaily (archived call tiers)).get? week =
        if ∃ window ∈ archiveWindows call tiers, call.raises window = false ∧
          window.start = week.1 then weeklyReference tiers.printPriceDaily week else none := by
      apply Table.get?_groupBy_filter rfl
      rintro row rfl
      rw [archived, decide_eq_true_eq]
      refine exists_congr fun window => and_congr_right fun hwindow => and_congr_right fun _ => ?_
      rw [archiveWindows_contains_iff hwindow]
      exact eq_comm
    rw [archiveToWeekly_weekly, hfresh, hgroup, Option.or_none]

end Call

/-- The weekly history does not depend on which rows are moved exactly when the range has a day,
or ends before its first week, and in each week of it of which a row with a price is moved either
no row is left and the Monday is in the range, or the rows that are left have the average of
all. -/
theorem readsBothTiers_iff (reference : HistoryReference) (request : HistoryRequest)
    (daily : Table (Int × PriceKey) DailyPrice) (moved : DailyRow → Bool) :
    ReadsBothTiers reference request daily moved ↔ TiersAgree reference request daily moved := by
  constructor
  · rintro ⟨-, hweeks, hreads⟩
    rw [priceDate_movedHistory] at hweeks
    refine ⟨weeks_iff.mp hweeks, fun week hoverlaps => ?_⟩
    exact reads_iff.mp hreads week ((hweeks week).mpr hoverlaps)
  · rintro ⟨hrange, hagree⟩
    have hweeks := weeks_iff.mpr hrange
    refine ⟨?_, ?_, reads_iff.mpr fun week hweek => hagree week ((hweeks week).mp hweek)⟩
    · rw [priceDate_movedHistory]
      exact weeklyRange_pairwise request
    · rw [priceDate_movedHistory]
      exact hweeks

/-! ## A range that begins within a week -/

/-- One source and one finish. -/
def oneSource : HistoryReference where
  cardFinished := .single 1 "NONFOIL"
  priceSource := .single 1 "USD"
  upper := id

/-- The days from 1970-01-06, a Tuesday, to 1970-01-11. -/
def fromTuesday : HistoryRequest where
  cardVersionId := 1
  startDate := 5
  endDate := 10
  finish := none
  currency := "USD"

/-- A row of 1970-01-07 is read while it is daily, and not once it is moved. -/
theorem archived_week_is_null :
    ¬ ReadsBothTiers oneSource fromTuesday
      ⟨[((6, ⟨1, 1, 1, 1, 1, 1⟩), ⟨⟨none, some 250, none⟩, none⟩)], List.nodup_singleton _⟩
      fun _ => true := by
  rintro ⟨-, -, hreads⟩
  have hprice := (hreads ⟨4, none, none⟩ (List.mem_singleton_self _)).nonnull.mpr
  exact absurd (hprice ⟨_, List.mem_singleton_self _, Or.inl rfl⟩) Bool.false_ne_true

end AutoMana.Pricing
