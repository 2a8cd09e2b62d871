import AutoMana.Pricing.Schema
import Mathlib.Algebra.Order.Field.Rat
import Mathlib.Data.List.Pairwise
import Mathlib.Data.List.Sort

/-!
# The price trend of a listing

A recommendation reads the daily prices of a card in its finish and condition over the last
days, of the source it prefers, and compares the latest one with those some days before it. The
query counts its days from today, and the trend from the latest price. So the price from 90 days
before is in the series only when the latest one is of today, and what the series has of several
transaction types or languages stands side by side in it.
-/

namespace AutoMana.Ebay

open Relational Pricing

/-! ## get_price_history -/

/-- What the query reads. -/
structure TrendTables where
  printPriceDaily : Table (Int × PriceKey) DailyPrice
  /-- The codes of `price_source`. -/
  priceSource : Table SourceId String

structure HistoryQuery where
  cardVersionId : CardVersionId
  finishId : Nat
  conditionId : Nat
  days : Int

/-- A row of `print_price_daily` with a price. -/
structure PricedRow where
  priceDate : Int
  key : PriceKey
  listAvgCents : Nat
  listLowCents : Option Nat
  deriving DecidableEq

/-- `list_avg_cents IS NOT NULL` -/
def pricedRow? (row : (Int × PriceKey) × DailyPrice) : Option PricedRow :=
  row.2.prices.listAvgCents.map fun cents =>
    ⟨row.1.1, row.1.2, cents, row.2.prices.listLowCents⟩

def pricedRows (tables : TrendTables) : List PricedRow :=
  tables.printPriceDaily.rows.filterMap pricedRow?

/-- The other conditions of the query. -/
def HistoryQuery.Selects (query : HistoryQuery) (currentDate : Int) (row : PricedRow) : Prop :=
  row.key.cardVersionId = query.cardVersionId ∧ row.key.finishId = query.finishId ∧
    row.key.conditionId = query.conditionId ∧ currentDate - query.days ≤ row.priceDate

instance (query : HistoryQuery) (currentDate : Int) (row : PricedRow) :
    Decidable (query.Selects currentDate row) :=
  inferInstanceAs (Decidable (_ ∧ _))

def windowRows (tables : TrendTables) (query : HistoryQuery) (currentDate : Int) :
    List PricedRow :=
  (pricedRows tables).filter fun row => query.Selects currentDate row

/-- A row of `source_priority`. -/
structure SourceCount where
  sourceId : SourceId
  code : String
  nRows : Nat

def SourceCount.preferred (source : SourceCount) : Nat := if source.code = "tcg" then 0 else 1

/-- `ORDER BY preferred, n_rows DESC` -/
def SourceCount.NotAfter (source later : SourceCount) : Prop :=
  source.preferred < later.preferred ∨
    source.preferred = later.preferred ∧ later.nRows ≤ source.nRows

def sourceCounts (tables : TrendTables) (rows : List PricedRow) : List SourceCount :=
  (rows.map (·.key.sourceId)).dedup.filterMap fun sourceId =>
    (tables.priceSource.get? sourceId).map fun code =>
      ⟨sourceId, code, rows.countP (·.key.sourceId = sourceId)⟩

/-- The orders that the database may put the rows in, where some are tied. -/
structure HistoryPlan where
  sources : List SourceCount → List SourceCount
  sources_perm : ∀ counts, (sources counts).Perm counts
  sources_ordered : ∀ counts, (sources counts).Pairwise SourceCount.NotAfter
  rows : List PricedRow → List PricedRow
  rows_perm : ∀ selected, (rows selected).Perm selected
  rows_ordered : ∀ selected, (rows selected).Pairwise fun row later =>
    row.priceDate ≤ later.priceDate

/-- The source that the query prefers. -/
def bestSource (plan : HistoryPlan) (tables : TrendTables) (query : HistoryQuery)
    (currentDate : Int) : Option SourceCount :=
  (plan.sources (sourceCounts tables (windowRows tables query currentDate))).head?

/-- The rows of the preferred source. -/
def selectedRows (plan : HistoryPlan) (tables : TrendTables) (query : HistoryQuery)
    (currentDate : Int) : List PricedRow :=
  match bestSource plan tables query currentDate with
  | none => []
  | some best =>
    (windowRows tables query currentDate).filter (·.key.sourceId = best.sourceId)

structure PricePoint where
  priceDate : Int
  listAvgCents : Nat
  listLowCents : Option Nat
  sourceCode : String
  deriving DecidableEq

def pricePoint (sourceCode : String) (row : PricedRow) : PricePoint :=
  ⟨row.priceDate, row.listAvgCents, row.listLowCents, sourceCode⟩

/-- The rows behind the points of the series. -/
def historyRows (plan : HistoryPlan) (tables : TrendTables) (query : HistoryQuery)
    (currentDate : Int) : List PricedRow :=
  plan.rows (selectedRows plan tables query currentDate)

def getPriceHistory (plan : HistoryPlan) (tables : TrendTables) (query : HistoryQuery)
    (currentDate : Int) : List PricePoint :=
  match bestSource plan tables query currentDate with
  | none => []
  | some best => (historyRows plan tables query currentDate).map (pricePoint best.code)

/-! ## compute_price_trend -/

inductive TrendSignal where
  | up
  | down
  | sideways
  | insufficientData
  deriving DecidableEq

structure PriceTrend where
  signal : TrendSignal
  delta7dPct : Option ℚ
  delta30dPct : Option ℚ
  delta90dPct : Option ℚ
  latestAvgCents : Option Nat
  nObservations : Nat
  sourceUsed : Option String

section Trend

-- `round((latest - anchor) / anchor * 100, 2)` of the floats
variable (percent : Nat → Nat → ℚ)

/-- `_delta_pct` -/
def deltaPct (series : List PricePoint) (latest : PricePoint) (windowDays : Int) : Option ℚ :=
  match (series.filter (·.priceDate ≤ latest.priceDate - windowDays)).getLast? with
  | none => none
  | some anchor =>
    if anchor.listAvgCents = 0 then none
    else some (percent latest.listAvgCents anchor.listAvgCents)

def trendSignal (primary : Option ℚ) : TrendSignal :=
  match primary with
  | none => .insufficientData
  | some primary => if 10 ≤ primary then .up else if primary ≤ -10 then .down else .sideways

def computePriceTrend (series : List PricePoint) : PriceTrend :=
  match series.getLast? with
  | none => ⟨.insufficientData, none, none, none, none, 0, none⟩
  | some latest =>
    if series.length < 2 then
      ⟨.insufficientData, none, none, none, some latest.listAvgCents, series.length,
        some latest.sourceCode⟩
    else
      let delta7 := deltaPct percent series latest 7
      let delta30 := deltaPct percent series latest 30
      let delta90 := deltaPct percent series latest 90
      ⟨trendSignal (delta30.or delta7), delta7, delta30, delta90, some latest.listAvgCents,
        series.length, some latest.sourceCode⟩

/-- The trend in `get_listing_recommendation`. -/
def listingTrend (plan : HistoryPlan) (tables : TrendTables) (query : HistoryQuery)
    (currentDate : Int) : Option PriceTrend :=
  let history := getPriceHistory plan tables query currentDate
  if history = [] then none else some (computePriceTrend percent history)

end Trend

/-- The query of `get_listing_recommendation`. -/
def trendQuery (cardVersionId : CardVersionId) (finishId conditionId : Nat) : HistoryQuery :=
  ⟨cardVersionId, finishId, conditionId, 90⟩

/-! ## What is claimed of a trend -/

/-- A price of a series on a day or before. -/
def PriceBy (tables : TrendTables) (key : PriceKey) (day : Int) (row : PricedRow) : Prop :=
  row ∈ pricedRows tables ∧ row.key = key ∧ row.priceDate ≤ day

/-- The latest row that meets a condition. -/
def IsLatest (condition : PricedRow → Prop) (row : PricedRow) : Prop :=
  condition row ∧ ∀ other, condition other → other.priceDate ≤ row.priceDate

section Claim

variable (percent : Nat → Nat → ℚ) (plan : HistoryPlan) (tables : TrendTables)
  (query : HistoryQuery) (currentDate : Int)

/-- The series has one point a date, all of one source, transaction type and language; and when
there is a price of it, other than zero, from 90 days before its latest one or earlier, the
trend compares the last such price with the latest one. -/
structure ComparesOneSeries : Prop where
  onePerDate : ((getPriceHistory plan tables query currentDate).map (·.priceDate)).Nodup
  oneSeries : ∀ row ∈ historyRows plan tables query currentDate,
    ∀ other ∈ historyRows plan tables query currentDate, row.key = other.key
  compares : ∀ latest ∈ (historyRows plan tables query currentDate).getLast?,
    (∃ row, PriceBy tables latest.key (latest.priceDate - 90) row ∧ row.listAvgCents ≠ 0) →
    ∃ anchor, IsLatest (fun row => PriceBy tables latest.key (latest.priceDate - 90) row ∧
        row.listAvgCents ≠ 0) anchor ∧
      ∃ trend, listingTrend percent plan tables query currentDate = some trend ∧
        trend.delta90dPct = some (percent latest.listAvgCents anchor.listAvgCents)

/-- The rows of the preferred source are of one transaction type and language; and when the
series has such a price, its last price from 90 days before the latest one is not zero, and is
from no earlier than the first day of the query. -/
structure Comparable : Prop where
  uniform : ∀ row ∈ selectedRows plan tables query currentDate,
    ∀ other ∈ selectedRows plan tables query currentDate,
      row.key.transactionTypeId = other.key.transactionTypeId ∧
        row.key.languageId = other.key.languageId
  reaches : ∀ latest, IsLatest (· ∈ selectedRows plan tables query currentDate) latest →
    (∃ row, PriceBy tables latest.key (latest.priceDate - 90) row ∧ row.listAvgCents ≠ 0) →
    ∃ anchor, IsLatest (PriceBy tables latest.key (latest.priceDate - 90)) anchor ∧
      anchor.listAvgCents ≠ 0 ∧ currentDate - query.days ≤ anchor.priceDate

end Claim

/-! ## The rows of the query -/

section Rows

variable {percent : Nat → Nat → ℚ} {plan : HistoryPlan} {tables : TrendTables}
  {query : HistoryQuery} {currentDate : Int} {row other latest : PricedRow}

theorem date_le_getLast {rows : List PricedRow}
    (hordered : rows.Pairwise fun row later => row.priceDate ≤ later.priceDate)
    (hlast : rows.getLast? = some latest) (hrow : row ∈ rows) :
    row.priceDate ≤ latest.priceDate := by
  obtain ⟨before, rfl⟩ := List.getLast?_eq_some_iff.mp hlast
  rcases List.mem_append.mp hrow with hbefore | hself
  · exact (List.pairwise_append.mp hordered).2.2 row hbefore latest (List.mem_singleton_self _)
  · rw [List.mem_singleton.mp hself]

theorem keys_pricedRows_sublist (rows : List ((Int × PriceKey) × DailyPrice)) :
    ((rows.filterMap pricedRow?).map fun row => (row.priceDate, row.key)).Sublist
      (rows.map Prod.fst) := by
  induction rows with
  | nil => exact List.Sublist.refl _
  | cons row rest ih =>
    rw [List.filterMap_cons]
    cases hprice : row.2.prices.listAvgCents with
    | none =>
      rw [pricedRow?, hprice]
      exact ih.cons _
    | some cents =>
      rw [pricedRow?, hprice]
      exact ih.cons_cons _

/-- A series has one price a day. -/
theorem nodup_pricedRows (tables : TrendTables) :
    ((pricedRows tables).map fun row => (row.priceDate, row.key)).Nodup :=
  tables.printPriceDaily.nodup_keys.sublist (keys_pricedRows_sublist _)

theorem priced_unique (hrow : row ∈ pricedRows tables) (hother : other ∈ pricedRows tables)
    (hdate : row.priceDate = other.priceDate) (hkey : row.key = other.key) : row = other :=
  List.inj_on_of_nodup_map (nodup_pricedRows tables) hrow hother
    (Prod.ext_iff.mpr ⟨hdate, hkey⟩)

theorem mem_selectedRows : row ∈ selectedRows plan tables query currentDate ↔
    row ∈ pricedRows tables ∧ query.Selects currentDate row ∧
      ∃ best, bestSource plan tables query currentDate = some best ∧
        row.key.sourceId = best.sourceId := by
  unfold selectedRows
  cases bestSource plan tables query currentDate with
  | none => simp
  | some best =>
    simp only [windowRows, List.mem_filter, decide_eq_true_eq, Option.some.injEq, exists_eq_left',
      and_assoc]

theorem mem_historyRows : row ∈ historyRows plan tables query currentDate ↔
    row ∈ selectedRows plan tables query currentDate :=
  (plan.rows_perm _).mem_iff

/-- The other prices of the series of a row are selected with it, from the first day on. -/
theorem selected_of_key (hrow : row ∈ selectedRows plan tables query currentDate)
    (hother : other ∈ pricedRows tables) (hkey : other.key = row.key)
    (hdate : currentDate - query.days ≤ other.priceDate) :
    other ∈ selectedRows plan tables query currentDate := by
  obtain ⟨-, ⟨hcard, hfinish, hcondition, -⟩, hsource⟩ := mem_selectedRows.mp hrow
  rw [← hkey] at hcard hfinish hcondition hsource
  exact mem_selectedRows.mpr ⟨hother, ⟨hcard, hfinish, hcondition, hdate⟩, hsource⟩

/-- Selected rows differ in their transaction type and language only. -/
theorem key_eq_iff (hrow : row ∈ selectedRows plan tables query currentDate)
    (hother : other ∈ selectedRows plan tables query currentDate) :
    row.key = other.key ↔ row.key.transactionTypeId = other.key.transactionTypeId ∧
      row.key.languageId = other.key.languageId := by
  obtain ⟨-, ⟨hcard, hfinish, hcondition, -⟩, best, hbest, hsource⟩ := mem_selectedRows.mp hrow
  obtain ⟨-, ⟨hcard', hfinish', hcondition', -⟩, best', hbest', hsource'⟩ :=
    mem_selectedRows.mp hother
  obtain rfl := Option.some.inj (hbest.symm.trans hbest')
  constructor
  · intro hkey
    rw [hkey]
    exact ⟨rfl, rfl⟩
  · rintro ⟨htype, hlanguage⟩
    rw [PriceKey.mk.injEq]
    exact ⟨hcard.trans hcard'.symm, hsource.trans hsource'.symm, htype, hfinish.trans hfinish'.symm,
      hcondition.trans hcondition'.symm, hlanguage⟩

theorem nodup_historyRows : (historyRows plan tables query currentDate).Nodup := by
  rw [historyRows, (plan.rows_perm _).nodup_iff, selectedRows]
  cases bestSource plan tables query currentDate with
  | none => exact List.nodup_nil
  | some best => exact ((nodup_pricedRows tables).of_map.filter _).filter _

/-- The last row of a series is a latest one. -/
theorem latest_of_getLast
    (hlast : (historyRows plan tables query currentDate).getLast? = some latest) :
    IsLatest (· ∈ selectedRows plan tables query currentDate) latest := by
  refine ⟨mem_historyRows.mp (List.mem_of_getLast? hlast), ?_⟩
  intro other hother
  exact date_le_getLast (plan.rows_ordered _) hlast (mem_historyRows.mpr hother)

end Rows

/-! ## The trend of a series -/

section Series

variable {percent : Nat → Nat → ℚ} {plan : HistoryPlan} {tables : TrendTables}
  {query : HistoryQuery} {currentDate : Int} {row other latest anchor : PricedRow}

/-- The prices of a series that are old enough to be compared with. -/
def candidates (rows : List PricedRow) (latest : PricedRow) : List PricedRow :=
  rows.filter (·.priceDate ≤ latest.priceDate - 90)

/-- What the last of them gives. -/
def comparison (percent : Nat → Nat → ℚ) (latest : PricedRow) : Option PricedRow → Option ℚ
  | none => none
  | some anchor =>
    if anchor.listAvgCents = 0 then none
    else some (percent latest.listAvgCents anchor.listAvgCents)

theorem deltaPct_map (sourceCode : String) (rows : List PricedRow) (latest : PricedRow) :
    deltaPct percent (rows.map (pricePoint sourceCode)) (pricePoint sourceCode latest) 90 =
      comparison percent latest (candidates rows latest).getLast? := by
  have hcandidates : (rows.map (pricePoint sourceCode)).filter
      (·.priceDate ≤ (pricePoint sourceCode latest).priceDate - 90) =
        (candidates rows latest).map (pricePoint sourceCode) := List.filter_map
  rw [deltaPct, hcandidates, List.getLast?_map]
  cases (candidates rows latest).getLast? <;> rfl

variable (percent) in
theorem listingTrend_of_getLast
    (hlast : (historyRows plan tables query currentDate).getLast? = some latest) :
    ∃ trend, listingTrend percent plan tables query currentDate = some trend ∧
      trend.delta90dPct =
        if (historyRows plan tables query currentDate).length < 2 then none
        else comparison percent latest
          (candidates (historyRows plan tables query currentDate) latest).getLast? := by
  obtain ⟨-, -, best, hbest, -⟩ := mem_selectedRows.mp (latest_of_getLast hlast).1
  have hseries : getPriceHistory plan tables query currentDate =
      (historyRows plan tables query currentDate).map (pricePoint best.code) := by
    rw [getPriceHistory, hbest]
  have hsome : getPriceHistory plan tables query currentDate ≠ [] := by
    rw [hseries, Ne, List.map_eq_nil_iff]
    exact List.ne_nil_of_mem (List.mem_of_getLast? hlast)
  refine ⟨_, if_neg hsome, ?_⟩
  rw [hseries, computePriceTrend, List.getLast?_map, hlast]
  dsimp only [Option.map_some]
  rw [List.length_map]
  split_ifs
  · rfl
  · exact deltaPct_map best.code _ latest

theorem mem_candidates {rows : List PricedRow} :
    row ∈ candidates rows latest ↔ row ∈ rows ∧ row.priceDate ≤ latest.priceDate - 90 := by
  rw [candidates, List.mem_filter, decide_eq_true_eq]

theorem date_le_candidate
    (hlast : (candidates (historyRows plan tables query currentDate) latest).getLast? = some anchor)
    (hrow : row ∈ selectedRows plan tables query currentDate)
    (hdate : row.priceDate ≤ latest.priceDate - 90) : row.priceDate ≤ anchor.priceDate :=
  date_le_getLast ((plan.rows_ordered _).filter _) hlast
    (mem_candidates.mpr ⟨mem_historyRows.mpr hrow, hdate⟩)

variable (huniform : ∀ row ∈ historyRows plan tables query currentDate,
  ∀ other ∈ historyRows plan tables query currentDate, row.key = other.key)

include huniform

theorem nodup_dates :
    ((getPriceHistory plan tables query currentDate).map (·.priceDate)).Nodup := by
  unfold getPriceHistory
  cases hbest : bestSource plan tables query currentDate with
  | none => exact List.nodup_nil
  | some best =>
    dsimp only
    rw [List.map_map]
    apply nodup_historyRows.map_on
    intro row hrow other hother hdate
    exact priced_unique (mem_selectedRows.mp (mem_historyRows.mp hrow)).1
      (mem_selectedRows.mp (mem_historyRows.mp hother)).1 hdate (huniform row hrow other hother)

/-- A price within the days of the query that is the last one old enough is the one that the
trend compares with. -/
theorem delta_of_latest
    (hlast : (historyRows plan tables query currentDate).getLast? = some latest)
    (hanchor : IsLatest (PriceBy tables latest.key (latest.priceDate - 90)) anchor)
    (hnonzero : anchor.listAvgCents ≠ 0)
    (hwindow : currentDate - query.days ≤ anchor.priceDate) :
    ∃ trend, listingTrend percent plan tables query currentDate = some trend ∧
      trend.delta90dPct = some (percent latest.listAvgCents anchor.listAvgCents) := by
  obtain ⟨⟨hpriced, hkey, hold⟩, hlatest⟩ := hanchor
  have hselected := selected_of_key (latest_of_getLast hlast).1 hpriced hkey hwindow
  have hmem := mem_historyRows.mpr hselected
  obtain ⟨trend, htrend, hdelta⟩ := listingTrend_of_getLast percent hlast
  refine ⟨trend, htrend, hdelta.trans ?_⟩
  have hlength : ¬ (historyRows plan tables query currentDate).length < 2 := by
    obtain ⟨before, hrows⟩ := List.getLast?_eq_some_iff.mp hlast
    rw [hrows] at hmem ⊢
    rcases List.mem_append.mp hmem with hbefore | hself
    · have hpos := List.length_pos_of_mem hbefore
      rw [List.length_append, List.length_singleton]
      omega
    · rw [List.mem_singleton.mp hself] at hold
      omega
  have hcandidate := mem_candidates.mpr ⟨hmem, hold⟩
  obtain ⟨last, hlastCandidate⟩ := Option.isSome_iff_exists.mp
    (List.getLast?_isSome.mpr (List.ne_nil_of_mem hcandidate))
  obtain ⟨hlastMem, hlastOld⟩ := mem_candidates.mp (List.mem_of_getLast? hlastCandidate)
  have hlastKey : last.key = latest.key := huniform _ hlastMem _ (List.mem_of_getLast? hlast)
  have hlastPriced := (mem_selectedRows.mp (mem_historyRows.mp hlastMem)).1
  have hsame : last = anchor :=
    priced_unique hlastPriced hpriced
      (le_antisymm (hlatest last ⟨hlastPriced, hlastKey, hlastOld⟩)
        (date_le_candidate hlastCandidate hselected hold))
      (hlastKey.trans hkey.symm)
  rw [if_neg hlength, hlastCandidate, hsame]
  exact if_neg hnonzero

/-- What the trend compares with is the last price that is old enough, and within the days of the
query. -/
theorem latest_of_delta
    (hlast : (historyRows plan tables query currentDate).getLast? = some latest)
    {trend : PriceTrend} (htrend : listingTrend percent plan tables query currentDate = some trend)
    {value : ℚ} (hdelta : trend.delta90dPct = some value) :
    ∃ anchor, IsLatest (PriceBy tables latest.key (latest.priceDate - 90)) anchor ∧
      anchor.listAvgCents ≠ 0 ∧ currentDate - query.days ≤ anchor.priceDate := by
  obtain ⟨trend', htrend', hdelta'⟩ := listingTrend_of_getLast percent hlast
  obtain rfl := Option.some.inj (htrend.symm.trans htrend')
  rw [hdelta] at hdelta'
  split_ifs at hdelta' with hlength
  cases hcandidate : (candidates (historyRows plan tables query currentDate) latest).getLast? with
  | none =>
    rw [hcandidate] at hdelta'
    cases hdelta'
  | some anchor =>
    rw [hcandidate, comparison] at hdelta'
    split_ifs at hdelta' with hzero
    obtain ⟨hmem, hold⟩ := mem_candidates.mp (List.mem_of_getLast? hcandidate)
    have hselected := mem_historyRows.mp hmem
    obtain ⟨hpriced, hquery, -⟩ := mem_selectedRows.mp hselected
    have hkey : anchor.key = latest.key := huniform _ hmem _ (List.mem_of_getLast? hlast)
    refine ⟨anchor, ⟨⟨hpriced, hkey, hold⟩, ?_⟩, hzero, hquery.2.2.2⟩
    rintro other ⟨hother, hotherKey, hotherOld⟩
    rcases le_or_gt (currentDate - query.days) other.priceDate with hin | hout
    · have hotherSelected := selected_of_key hselected hother (hotherKey.trans hkey.symm) hin
      exact date_le_candidate hcandidate hotherSelected hotherOld
    · exact hout.le.trans hquery.2.2.2

end Series

/-- A trend compares the latest price of one series with the last one from 90 days before
exactly when the rows of the preferred source are of one series, and that price is not zero and
is within the days of the query. -/
theorem comparesOneSeries_iff (percent : Nat → Nat → ℚ) (plan : HistoryPlan)
    (tables : TrendTables) (query : HistoryQuery) (currentDate : Int) :
    ComparesOneSeries percent plan tables query currentDate ↔
      Comparable plan tables query currentDate := by
  constructor
  · intro hclaim
    constructor
    case uniform =>
      intro row hrow other hother
      exact (key_eq_iff hrow hother).mp
        (hclaim.oneSeries row (mem_historyRows.mpr hrow) other (mem_historyRows.mpr hother))
    case reaches =>
      intro latest hlatest hsome
      obtain ⟨last, hlast⟩ := Option.isSome_iff_exists.mp
        (List.getLast?_isSome.mpr (List.ne_nil_of_mem (mem_historyRows.mpr hlatest.1)))
      obtain ⟨hlastMem, hlastDate⟩ := latest_of_getLast hlast
      have hsame : last = latest :=
        priced_unique (mem_selectedRows.mp hlastMem).1 (mem_selectedRows.mp hlatest.1).1
          (le_antisymm (hlatest.2 last hlastMem) (hlastDate latest hlatest.1))
          (hclaim.oneSeries last (List.mem_of_getLast? hlast) latest
            (mem_historyRows.mpr hlatest.1))
      subst hsame
      obtain ⟨_, -, trend, htrend, hdelta⟩ := hclaim.compares last hlast hsome
      exact latest_of_delta hclaim.oneSeries hlast htrend hdelta
  · intro hcomparable
    have huniform : ∀ row ∈ historyRows plan tables query currentDate,
        ∀ other ∈ historyRows plan tables query currentDate, row.key = other.key := by
      intro row hrow other hother
      rw [mem_historyRows] at hrow hother
      exact (key_eq_iff hrow hother).mpr (hcomparable.uniform row hrow other hother)
    constructor
    case onePerDate => exact nodup_dates huniform
    case oneSeries => exact huniform
    case compares =>
      intro latest hlast hsome
      obtain ⟨anchor, hanchor, hnonzero, hwindow⟩ :=
        hcomparable.reaches latest (latest_of_getLast hlast) hsome
      have hlatestNonzero : IsLatest (fun row =>
          PriceBy tables latest.key (latest.priceDate - 90) row ∧ row.listAvgCents ≠ 0) anchor :=
        ⟨⟨hanchor.1, hnonzero⟩, fun other hother => hanchor.2 other hother.1⟩
      exact ⟨anchor, hlatestNonzero, delta_of_latest huniform hlast hanchor hnonzero hwindow⟩

/-! ## A latest price of yesterday -/

instance : DecidableRel SourceCount.NotAfter := fun _ _ => inferInstanceAs (Decidable (_ ∨ _))

instance : Std.Total SourceCount.NotAfter where
  total source later := by
    unfold SourceCount.NotAfter
    omega

instance : IsTrans SourceCount SourceCount.NotAfter where
  trans first second third hfirst hsecond := by
    unfold SourceCount.NotAfter at *
    omega

/-- Tied rows stay as they are stored. -/
def stablePlan : HistoryPlan where
  sources counts := counts.insertionSort SourceCount.NotAfter
  sources_perm := List.perm_insertionSort _
  sources_ordered := List.pairwise_insertionSort _
  rows selected := selected.insertionSort fun row later => row.priceDate ≤ later.priceDate
  rows_perm := List.perm_insertionSort _
  rows_ordered selected :=
    @List.pairwise_insertionSort _ (fun row later : PricedRow => row.priceDate ≤ later.priceDate) _
      ⟨fun row later => le_total row.priceDate later.priceDate⟩
      ⟨fun _ _ _ hfirst hsecond => hfirst.trans hsecond⟩ selected

/-- Prices of one series on the days 9 and 99. -/
def twoPrices : TrendTables where
  printPriceDaily := ⟨[
    ((9, ⟨1, 1, 1, 1, 1, 1⟩), ⟨⟨none, some 100, none⟩, none⟩),
    ((99, ⟨1, 1, 1, 1, 1, 1⟩), ⟨⟨none, some 200, none⟩, none⟩)], by decide⟩
  priceSource := .single 1 "tcg"

def exactPercent (latest anchor : Nat) : ℚ := ((latest : ℚ) - anchor) / anchor * 100

/-- On day 100 the query begins on day 10, so there is no trend over the 90 days. -/
theorem trend_of_yesterday :
    ¬ ComparesOneSeries exactPercent stablePlan twoPrices (trendQuery 1 1 1) 100 := by
  intro hclaim
  have hlast : (historyRows stablePlan twoPrices (trendQuery 1 1 1) 100).getLast? =
      some ⟨99, ⟨1, 1, 1, 1, 1, 1⟩, 200, none⟩ := by decide
  have hsome : PriceBy twoPrices ⟨1, 1, 1, 1, 1, 1⟩ 9 ⟨9, ⟨1, 1, 1, 1, 1, 1⟩, 100, none⟩ :=
    ⟨by decide, rfl, le_rfl⟩
  obtain ⟨_, -, trend, htrend, hdelta⟩ :=
    hclaim.compares _ hlast ⟨⟨9, ⟨1, 1, 1, 1, 1, 1⟩, 100, none⟩, hsome, by decide⟩
  have hnone : listingTrend exactPercent stablePlan twoPrices (trendQuery 1 1 1) 100 =
      some ⟨.insufficientData, none, none, none, some 200, 1, some "tcg"⟩ := rfl
  obtain rfl := Option.some.inj (hnone.symm.trans htrend)
  cases hdelta

end AutoMana.Ebay
