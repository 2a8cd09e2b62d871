import AutoMana.Relational.Collector
import AutoMana.Relational.Joins
import AutoMana.Relational.Slices
import AutoMana.Staging.MarketCycles

/-!
# Price files

The prices of a print come as series of points in time. They are merged by date into a file of one
row a day, which lies beside the info of the print, and `bulk_load` reads the files of its folders
into the raw table. Of several points of a series on a day, any may be kept.
-/

namespace AutoMana.MtgStock.PriceFiles

open Relational Staging Pricing

/-! ## prices_to_parquet -/

/-- Points of milliseconds since the epoch and a price. -/
structure PriceSeries where
  low : List (Int × Option Int)
  avg : List (Int × Option Int)
  foil : List (Int × Option Int)
  market : List (Int × Option Int)
  marketFoil : List (Int × Option Int)
deriving DecidableEq, Repr

/-- The day of a time, which is one of UTC. -/
def date (tsMs : Int) : Int := tsMs / 86400000

def series (points : List (Int × Option Int)) : List (Int × Option Int) :=
  points.map fun point => (date point.1, point.2)

def PriceSeries.columns (prices : PriceSeries) : List (List (Int × Option Int)) :=
  [series prices.low, series prices.avg, series prices.foil, series prices.market,
    series prices.marketFoil]

/-- `sort_values("date")`, which puts the rows of a date in any order. -/
structure DateSort where
  list : List (Int × List (Option Int)) → List (Int × List (Option Int))
  perm : ∀ rows, (list rows).Perm rows
  sorted : ∀ rows, (list rows).Pairwise (·.1 ≤ ·.1)

def DateSort.stable : DateSort where
  list rows := rows.mergeSort fun first second => decide (first.1 ≤ second.1)
  perm rows := List.mergeSort_perm rows _
  sorted rows := by
    have hsorted := @List.pairwise_mergeSort _ (fun first second : Int × List (Option Int) =>
      decide (first.1 ≤ second.1)) (fun _ _ _ hfirst hsecond => decide_eq_true
        ((of_decide_eq_true hfirst).trans (of_decide_eq_true hsecond)))
      (fun first second => by simpa using le_total first.1 second.1) rows
    exact hsorted.imp of_decide_eq_true

/-- A row of a file. -/
structure PriceRow where
  printId : Int
  date : Int
  priceLow : Option Int
  priceAvg : Option Int
  priceFoil : Option Int
  priceMarket : Option Int
  priceMarketFoil : Option Int
deriving DecidableEq, Repr

/-- The columns of a merged row are renamed. -/
def PriceRow.ofMerged (printId : Int) (row : Int × List (Option Int)) : PriceRow where
  printId
  date := row.1
  priceLow := row.2.getD 0 none
  priceAvg := row.2.getD 1 none
  priceFoil := row.2.getD 2 none
  priceMarket := row.2.getD 3 none
  priceMarketFoil := row.2.getD 4 none

def pricesToParquet (sort : DateSort) (printId : Int) (prices : PriceSeries) : List PriceRow :=
  (keepLast Prod.fst (sort.list (mergeAll prices.columns))).map (PriceRow.ofMerged printId)

/-! ## bulk_load -/

structure Info where
  /-- The file has an id. -/
  id : Option Int
  name : Option String
  /-- `card_set.abbreviation` -/
  setAbbr : Option String
  collectorNumber : Option String
  scryfallId : Option String
  tcgId : Option String
  cardtraderId : Option String
deriving DecidableEq, Repr

/-- What was downloaded for a print, as far as there was something. -/
structure Download where
  cardId : Int
  details : Option Info
  prices : Option PriceSeries
deriving DecidableEq, Repr

/-- The folder of a print, with the price file of one market. -/
structure PrintFolder where
  info : Option Info
  prices : Option (List PriceRow)
deriving DecidableEq, Repr

def writeFolder (sort : DateSort) (download : Download) : PrintFolder where
  info := download.details
  prices := download.prices.map (pricesToParquet sort download.cardId)

/-- What `process_info_file` hands on to the prices. -/
structure IdDict where
  mtgstock : Int
  info : Info

/-- `obj["id"]` raises when there is none. -/
def processInfoFile (info : Info) : Option IdDict := info.id.map fun id => ⟨id, info⟩

/-- `_MARKET_SOURCE`, or else the market itself. -/
def marketSource (market : String) : String :=
  if market = "starcity" then "starcitygames" else market

/-- The print of the file gives way to the one of the info. -/
def processPricesFile (rows : List PriceRow) (idDict : IdDict) (market : String)
    (now : Timestamp) : List RawPrice :=
  rows.map fun row => {
    tsDate := row.date
    gameCode := "mtg"
    printId := idDict.mtgstock
    sourceCode := marketSource market
    scrapedAt := now
    cardName := idDict.info.name
    setAbbr := idDict.info.setAbbr
    collectorNumber := idDict.info.collectorNumber
    scryfallId := idDict.info.scryfallId
    tcgId := idDict.info.tcgId
    cardtraderId := idDict.info.cardtraderId
    priceLow := row.priceLow
    priceAvg := row.priceAvg
    priceFoil := row.priceFoil
    priceMarket := row.priceMarket
    priceMarketFoil := row.priceMarketFoil }

/-- A folder without one of the files is an error. -/
def processFolder (market : String) (now : Timestamp) (folder : PrintFolder) :
    Option (List RawPrice) :=
  match folder.info.bind processInfoFile, folder.prices with
  | some idDict, some rows => some (processPricesFile rows idDict market now)
  | _, _ => none

/-- A bulk load of the folders that were written from downloads. -/
def loadOf (sort : DateSort) (market : String) (now : String → Timestamp)
    (downloads : String → Download) (job : BulkLoad) : BulkLoad :=
  { job with
    processFolder := fun folder =>
      processFolder market (now folder) (writeFolder sort (downloads folder)) }

/-! ## What is expected of the rows -/

def PriceSeries.HasDay (prices : PriceSeries) (day : Int) : Prop :=
  ∃ column ∈ prices.columns, day ∈ column.map Prod.fst

/-- Each price of a day is one of the points of its series on that day, or null when the series
has none. -/
structure IsDay (prices : PriceSeries) (day : Int)
    (low avg foil market marketFoil : Option Int) : Prop where
  low : Takes day (series prices.low) low
  avg : Takes day (series prices.avg) avg
  foil : Takes day (series prices.foil) foil
  market : Takes day (series prices.market) market
  marketFoil : Takes day (series prices.marketFoil) marketFoil

/-- A print of a folder that can be loaded, with its prices. -/
def Loads (downloads : String → Download) (folder : String) (printId : Int)
    (prices : PriceSeries) : Prop :=
  ((downloads folder).details.bind (·.id)) = some printId ∧ (downloads folder).prices = some prices

/-! ## One row a day -/

section Files

variable (sort : DateSort) (printId : Int) (prices : PriceSeries)

/-- The dates of a file ascend. -/
theorem pairwise_pricesToParquet :
    (pricesToParquet sort printId prices).Pairwise (·.date < ·.date) := by
  rw [pricesToParquet, List.pairwise_map]
  have hsorted := (sort.sorted (mergeAll prices.columns)).sublist
    (keepLast_sublist Prod.fst (sort.list (mergeAll prices.columns)))
  have hdistinct := List.pairwise_map.mp
    (nodup_keepLast Prod.fst (sort.list (mergeAll prices.columns)))
  exact (hsorted.and hdistinct).imp fun h => lt_of_le_of_ne h.1 h.2

theorem date_mem_pricesToParquet (day : Int) :
    day ∈ (pricesToParquet sort printId prices).map (·.date) ↔ prices.HasDay day := by
  rw [pricesToParquet, List.map_map]
  change day ∈ (keepLast Prod.fst _).map Prod.fst ↔ _
  rw [mem_keys_keepLast, ((sort.perm _).map Prod.fst).mem_iff, mem_keys_mergeAll]
  rfl

theorem isDay_pricesToParquet {row : PriceRow} (hrow : row ∈ pricesToParquet sort printId prices) :
    IsDay prices row.date row.priceLow row.priceAvg row.priceFoil row.priceMarket
      row.priceMarketFoil := by
  obtain ⟨⟨day, values⟩, hkept, rfl⟩ := List.mem_map.mp hrow
  have hmerged := (sort.perm _).mem_iff.mp ((keepLast_sublist Prod.fst _).subset hkept)
  have htakes := (mem_mergeAll.mp hmerged).2
  rw [PriceSeries.columns] at htakes
  simp only [List.forall₂_cons_left_iff, List.forall₂_nil_left_iff] at htakes
  obtain ⟨low, _, hlow, ⟨avg, _, havg, ⟨foil, _, hfoil, ⟨market, _, hmarket, ⟨marketFoil, _,
    hmarketFoil, rfl, rfl⟩, rfl⟩, rfl⟩, rfl⟩, rfl⟩ := htakes
  exact ⟨hlow, havg, hfoil, hmarket, hmarketFoil⟩

end Files

/-! ## The raw table after a bulk load -/

theorem folders_sublist (job : BulkLoad) : job.folders.Sublist job.listdir := by
  have hrange : ∀ keep : String → Bool,
      (if job.startId.isSome || job.endId.isSome then job.listdir.filter keep
        else job.listdir).Sublist job.listdir := by
    intro keep
    split_ifs
    · exact List.filter_sublist
    · exact List.Sublist.refl _
  rw [BulkLoad.folders]
  split
  · exact hrange _
  · exact List.filter_sublist.trans (hrange _)

theorem rawMtgStockPrice_bulkLoad (job : BulkLoad) (tables : MarketTables) :
    (bulkLoad job tables).rawMtgStockPrice = (job.folders.filterMap job.processFolder).flatten := by
  have hcopied : ∀ (chunks : List (List RawPrice)) (tables : MarketTables),
      (chunks.foldl copyPrices tables).rawMtgStockPrice =
        tables.rawMtgStockPrice ++ chunks.flatten := by
    intro chunks
    induction chunks with
    | nil => exact fun tables => (List.append_nil _).symm
    | cons chunk rest ih =>
      intro tables
      rw [List.foldl_cons, ih, List.flatten_cons, ← List.append_assoc]
      rfl
  rw [bulkLoad, hcopied, BulkLoad.chunks]
  have hrows : ∀ chunks : List (List String),
      (chunks.map fun chunk => (chunk.filterMap job.processFolder).flatten).flatten =
        (chunks.flatten.filterMap job.processFolder).flatten := by
    intro chunks
    induction chunks with
    | nil => rfl
    | cons chunk rest ih =>
      rw [List.map_cons, List.flatten_cons, ih, List.flatten_cons, List.filterMap_append,
        List.flatten_append]
  rw [hrows, flatten_toChunks]
  rfl

section Load

variable {sort : DateSort} {market : String} {now : String → Timestamp}
  {downloads : String → Download}

/-- The rows of a folder that can be loaded are those of its file. -/
theorem processFolder_eq_some_iff {folder : String} {rows : List RawPrice} :
    processFolder market (now folder) (writeFolder sort (downloads folder)) = some rows ↔
      ∃ info printId prices, (downloads folder).details = some info ∧ info.id = some printId ∧
        (downloads folder).prices = some prices ∧
        processPricesFile (pricesToParquet sort (downloads folder).cardId prices)
          ⟨printId, info⟩ market (now folder) = rows := by
  rw [processFolder, writeFolder]
  cases hdetails : (downloads folder).details with
  | none => simp
  | some info =>
    cases hid : info.id with
    | none => simp [processInfoFile, hid]
    | some printId =>
      cases hprices : (downloads folder).prices with
      | none => simp [processInfoFile, hid]
      | some prices => simp [processInfoFile, hid]

theorem loads_of_processFolder {folder : String} {rows : List RawPrice}
    (hrows : processFolder market (now folder) (writeFolder sort (downloads folder)) =
      some rows) :
    ∃ printId prices, Loads downloads folder printId prices ∧
      (rows.map fun row => (row.printId, row.tsDate)) =
        (pricesToParquet sort (downloads folder).cardId prices).map fun row =>
          (printId, row.date) := by
  obtain ⟨info, printId, prices, hdetails, hid, hprices, rfl⟩ := processFolder_eq_some_iff.mp hrows
  refine ⟨printId, prices, ⟨by rw [hdetails, Option.bind_some, hid], hprices⟩, ?_⟩
  rw [processPricesFile, List.map_map]
  rfl

theorem exists_processFolder {folder : String} {printId : Int} {prices : PriceSeries}
    (hloads : Loads downloads folder printId prices) :
    ∃ rows, processFolder market (now folder) (writeFolder sort (downloads folder)) = some rows ∧
      (rows.map fun row => (row.printId, row.tsDate)) =
        (pricesToParquet sort (downloads folder).cardId prices).map fun row =>
          (printId, row.date) := by
  obtain ⟨hid, hprices⟩ := hloads
  obtain ⟨info, hdetails, hid⟩ := Option.bind_eq_some_iff.mp hid
  refine ⟨_, processFolder_eq_some_iff.mpr ⟨info, printId, prices, hdetails, hid, hprices, rfl⟩, ?_⟩
  rw [processPricesFile, List.map_map]
  rfl

theorem Loads.unique {folder : String} {printId other : Int} {prices others : PriceSeries}
    (hloads : Loads downloads folder printId prices)
    (hother : Loads downloads folder other others) : printId = other ∧ prices = others :=
  ⟨Option.some.inj (hloads.1.symm.trans hother.1), Option.some.inj (hloads.2.symm.trans hother.2)⟩

/-- After a bulk load the raw table has one row for each print and each day on which one of its
series has a point, and every price of the row is one of that day. -/
theorem daily_prices (sort : DateSort) (market : String) (now : String → Timestamp)
    (downloads : String → Download) (job : BulkLoad) (tables : MarketTables)
    (hlistdir : job.listdir.Nodup)
    (hprints : ∀ folder ∈ job.listdir, ∀ other ∈ job.listdir, ∀ printId prices others,
      Loads downloads folder printId prices → Loads downloads other printId others →
        folder = other) :
    let raw := (bulkLoad (loadOf sort market now downloads job) tables).rawMtgStockPrice
    (raw.map fun row => (row.printId, row.tsDate)).Nodup ∧
      (∀ printId day, (printId, day) ∈ raw.map (fun row => (row.printId, row.tsDate)) ↔
        ∃ folder ∈ job.folders, ∃ prices, Loads downloads folder printId prices ∧
          prices.HasDay day) ∧
      ∀ row ∈ raw, ∃ folder ∈ job.folders, ∃ prices,
        Loads downloads folder row.printId prices ∧
          IsDay prices row.tsDate row.priceLow row.priceAvg row.priceFoil row.priceMarket
            row.priceMarketFoil := by
  intro raw
  have hraw : raw = (job.folders.filterMap fun folder =>
      processFolder market (now folder) (writeFolder sort (downloads folder))).flatten :=
    rawMtgStockPrice_bulkLoad (loadOf sort market now downloads job) tables
  have hsublist := folders_sublist job
  refine ⟨?_, fun printId day => ?_, fun row hrow => ?_⟩
  · rw [hraw, List.map_flatten, List.nodup_flatten]
    constructor
    · intro keys hkeys
      obtain ⟨rows, hrows, rfl⟩ := List.mem_map.mp hkeys
      obtain ⟨folder, -, hprocessed⟩ := List.mem_filterMap.mp hrows
      obtain ⟨printId, prices, -, hkeys⟩ := loads_of_processFolder hprocessed
      rw [hkeys]
      -- within a file the dates tell the rows apart
      exact List.pairwise_map.mpr ((pairwise_pricesToParquet sort _ prices).imp
        fun hlt hsame => hlt.ne (Prod.mk.inj hsame).2)
    · rw [List.pairwise_map, List.pairwise_filterMap]
      refine (hlistdir.sublist hsublist).imp_of_mem fun hfolder hother hne rows hrows others
        hothers => ?_
      obtain ⟨printId, prices, hloads, hkeys⟩ := loads_of_processFolder hrows
      obtain ⟨other, others, hloadsOther, hkeysOther⟩ := loads_of_processFolder hothers
      rw [hkeys, hkeysOther]
      -- and the folders are of different prints
      intro key hkey hkeyOther
      obtain ⟨_, -, rfl⟩ := List.mem_map.mp hkey
      obtain ⟨_, -, hsame⟩ := List.mem_map.mp hkeyOther
      rw [(Prod.mk.inj hsame).1] at hloadsOther
      exact hne (hprints _ (hsublist.subset hfolder) _ (hsublist.subset hother) _ _ _ hloads
        hloadsOther)
  · rw [hraw, List.map_flatten, List.mem_flatten]
    constructor
    · rintro ⟨keys, hkeys, hmem⟩
      obtain ⟨rows, hrows, rfl⟩ := List.mem_map.mp hkeys
      obtain ⟨folder, hfolder, hprocessed⟩ := List.mem_filterMap.mp hrows
      obtain ⟨loaded, prices, hloads, hkeys⟩ := loads_of_processFolder hprocessed
      rw [hkeys] at hmem
      obtain ⟨row, hrow, hsame⟩ := List.mem_map.mp hmem
      obtain ⟨rfl, rfl⟩ := Prod.mk.inj hsame
      exact ⟨folder, hfolder, prices, hloads,
        (date_mem_pricesToParquet sort _ prices row.date).mp (List.mem_map_of_mem hrow)⟩
    · rintro ⟨folder, hfolder, prices, hloads, hday⟩
      obtain ⟨rows, hprocessed, hkeys⟩ := exists_processFolder hloads
      refine ⟨_, List.mem_map_of_mem (List.mem_filterMap.mpr ⟨folder, hfolder, hprocessed⟩), ?_⟩
      have hdate := (date_mem_pricesToParquet sort (downloads folder).cardId prices day).mpr hday
      obtain ⟨row, hrow, rfl⟩ := List.mem_map.mp hdate
      rw [hkeys]
      exact List.mem_map.mpr ⟨row, hrow, rfl⟩
  · rw [hraw, List.mem_flatten] at hrow
    obtain ⟨rows, hrows, hrow⟩ := hrow
    obtain ⟨folder, hfolder, hprocessed⟩ := List.mem_filterMap.mp hrows
    obtain ⟨info, printId, prices, hdetails, hid, hprices, rfl⟩ :=
      processFolder_eq_some_iff.mp hprocessed
    obtain ⟨saved, hsaved, rfl⟩ := List.mem_map.mp hrow
    exact ⟨folder, hfolder, prices, ⟨by rw [hdetails, Option.bind_some, hid], hprices⟩,
      isDay_pricesToParquet sort _ prices hsaved⟩

/-- Two prints, of which the second has two low prices and no average on its day. -/
def sampleDownloads (folder : String) : Download :=
  if folder = "7" then
    ⟨7, some ⟨some 7, none, none, none, none, none, none⟩,
      some ⟨[(0, some 125)], [(1, some 130)], [], [], []⟩⟩
  else
    ⟨8, some ⟨some 8, none, none, none, none, none, none⟩,
      some ⟨[(86400000, some 3), (86400005, some 4)], [], [(0, none)], [], []⟩⟩

def sampleLoad : BulkLoad := ⟨["7", "8"], fun _ => none, 2, none, none, none⟩

theorem daily_prices_sample :
    let raw := (bulkLoad (loadOf .stable "starcity" (fun _ => 0) sampleDownloads sampleLoad)
      noMarket).rawMtgStockPrice
    (raw.map fun row => (row.printId, row.tsDate)).Nodup :=
  (daily_prices .stable "starcity" (fun _ => 0) sampleDownloads sampleLoad noMarket (by decide)
    (by
      intro folder hfolder other hother printId prices others hloads hloadsOther
      have hid := hloads.1.trans hloadsOther.1.symm
      simp only [sampleLoad, List.mem_cons, List.not_mem_nil, or_false] at hfolder hother
      rcases hfolder with rfl | rfl <;> rcases hother with rfl | rfl
      · rfl
      · simp [sampleDownloads] at hid
      · simp [sampleDownloads] at hid
      · rfl)).1

end Load

end AutoMana.MtgStock.PriceFiles
