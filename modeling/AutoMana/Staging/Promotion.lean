import AutoMana.Relational.Register
import AutoMana.Relational.Runs
import AutoMana.Relational.Text
import AutoMana.Staging.Schema

/-!
# load_prices_from_staged_batched

Staged prices are promoted in date windows. A batch takes the staged rows of its
window that carry a price, keeps the freshest row of each fact-table key, upserts
those, and drains all of the batch. `load_staging_prices_batched` runs the same
promotion at the end of each of its own batches.
-/

namespace AutoMana.Staging

open Relational Pricing

/-- The reference tables read before the loop. -/
structure DimensionTables where
  cardFinished : Table Nat String
  transactionType : Table Nat String
  cardCondition : Table Nat (Option String)
  languageRef : Table Nat String
  /-- `mtgstock_name_finish_suffix` -/
  nameFinishSuffix : Table String Nat

/-- The dimension ids of a call. -/
structure PromotionDims where
  priceTypeId : Nat
  finishFoilId : Option Nat
  finishDefaultId : Option Nat
  conditionId : Option Nat
  languageId : Option Nat
  nameFinishSuffix : Table String Nat

/-- `SELECT id FROM table WHERE code matches LIMIT 1`. -/
def anyIdWhere {V : Type} (table : Table Nat V) (accept : V → Bool) : Option Nat :=
  (table.rows.find? fun row => accept row.2).map Prod.fst

theorem get?_of_anyIdWhere {V : Type} {table : Table Nat V} {accept : V → Bool} {id : Nat}
    (hid : anyIdWhere table accept = some id) :
    ∃ value, table.get? id = some value ∧ accept value := by
  obtain ⟨row, hfind, rfl⟩ := Option.map_eq_some_iff.mp hid
  have haccept := List.find?_some hfind
  exact ⟨row.2, (table.mem_rows_iff _ _).mp (List.mem_of_find?_eq_some hfind), haccept⟩

/-- `SELECT id FROM table WHERE code matches ORDER BY id LIMIT 1`. -/
def firstIdWhere {V : Type} (table : Table Nat V) (accept : V → Bool) : Option Nat :=
  ((table.rows.filter fun row => accept row.2).map Prod.fst).min?

/-- The dimension ids, resolved once before the loop. -/
def promotionDims (locale : TextLocale) (missingSell : String) (tables : DimensionTables) :
    Except String PromotionDims :=
  let v_finish_default_id := anyIdWhere tables.cardFinished (· = "NONFOIL")
  let v_finish_foil_id := firstIdWhere tables.cardFinished fun code =>
    locale.lower code ∈ ["foil", "foiled", "premium"]
  match firstIdWhere tables.transactionType fun code => locale.lower code = "sell" with
  | none => throw missingSell
  | some v_price_type_id => return {
      priceTypeId := v_price_type_id
      finishFoilId := v_finish_foil_id.or v_finish_default_id
      finishDefaultId := v_finish_default_id
      conditionId := anyIdWhere tables.cardCondition (· = some "NM")
      languageId := anyIdWhere tables.languageRef (· = "en")
      nameFinishSuffix := tables.nameFinishSuffix }

theorem anyIdWhere_eq_none_iff {V : Type} {table : Table Nat V} {accept : V → Bool} :
    anyIdWhere table accept = none ↔
      ∀ id value, table.get? id = some value → accept value = false := by
  rw [anyIdWhere, Option.map_eq_none_iff, List.find?_eq_none]
  constructor
  · intro hnone id value hget
    exact Bool.eq_false_iff.mpr (hnone _ ((table.mem_rows_iff _ _).mpr hget))
  · intro hnone row hrow
    exact Bool.eq_false_iff.mp (hnone row.1 row.2 ((table.mem_rows_iff _ _).mp hrow))

theorem firstIdWhere_eq_none_iff {V : Type} {table : Table Nat V} {accept : V → Bool} :
    firstIdWhere table accept = none ↔ anyIdWhere table accept = none := by
  rw [firstIdWhere, List.min?_eq_none_iff, List.map_eq_nil_iff, List.filter_eq_nil_iff, anyIdWhere,
    Option.map_eq_none_iff, List.find?_eq_none]

/-- The pre-flight raises for a missing transaction type and for nothing else. -/
theorem promotionDims_eq_error_iff {locale : TextLocale} {missingSell message : String}
    {tables : DimensionTables} :
    promotionDims locale missingSell tables = .error message ↔
      message = missingSell ∧ ∀ id code, tables.transactionType.get? id = some code →
        locale.lower code ≠ "sell" := by
  have hnone : (firstIdWhere tables.transactionType fun code => locale.lower code = "sell") = none ↔
      ∀ id code, tables.transactionType.get? id = some code → locale.lower code ≠ "sell" := by
    simp only [firstIdWhere_eq_none_iff, anyIdWhere_eq_none_iff, decide_eq_false_iff_not, ne_eq]
  rw [← hnone, promotionDims]
  cases firstIdWhere tables.transactionType fun code => locale.lower code = "sell" with
  | none => simp [throw, throwThe, MonadExceptOf.throw, eq_comm]
  | some id => simp [pure, Except.pure]

/-! ## The finish named by a card name -/

/-- The text between the parentheses, when `text` is `([^)]+)` to its end. -/
def parenthesized? (text : List Char) : Option (List Char) :=
  match text with
  | '(' :: rest =>
    if rest.getLast? = some ')' ∧ rest.dropLast ≠ [] ∧ ')' ∉ rest.dropLast then
      some rest.dropLast
    else none
  | _ => none

/-- `name ~ '\([^)]+\)$'` -/
def endsParenthesized (name : List Char) : Bool :=
  name.tails.any fun text => (parenthesized? text).isSome

/-- `regexp_replace(name, '^.+\s+\(([^)]+)\)$', '\1')`. The greedy `.+` picks the
last parenthesis that opens after a space and at least one more character. -/
def nameSuffix (locale : TextLocale) (name : List Char) : List Char :=
  let opening := (List.range name.length).reverse.find? fun i =>
    2 ≤ i && (name[i - 1]?.any locale.isSpace) && (parenthesized? (name.drop i)).isSome
  match opening.bind fun i => parenthesized? (name.drop i) with
  | some suffix => suffix
  | none => name

/-- The `finish_id` of the joined `mtgstock_name_finish_suffix` row. -/
def nameFinishId (locale : TextLocale) (dims : PromotionDims) (cardName : Option String) :
    Option Nat := do
  let name ← cardName
  if endsParenthesized name.toList then
    dims.nameFinishSuffix.get? (String.ofList (nameSuffix locale name.toList))
  else none

/-! ## One batch -/

variable (locale : TextLocale) (dims : PromotionDims)

/-- The fact-table key of a staged row; `none` when a part of it is null, which
the primary key of `price_observation` does not admit. -/
def observationKey? (row : StagedPrice) :
    Option ObservationKey := do
  let finishId ← (nameFinishId locale dims row.cardName).or
    (if row.isFoil then dims.finishFoilId else dims.finishDefaultId)
  let conditionId ← dims.conditionId
  let languageId ← dims.languageId
  return {
    tsDate := row.tsDate
    sourceProductId := row.sourceProductId
    priceTypeId := dims.priceTypeId
    finishId
    conditionId
    languageId
    dataProviderId := row.dataProviderId }

/-- A staged row is in the batch of a window. -/
def inBatch (window : Window) (row : StagedPrice) : Bool :=
  window.Contains row.tsDate && !row.prices.allNull

/-- A row of the temporary table `_batch`. -/
structure PromotionRow where
  stgId : Nat
  key : ObservationKey
  prices : Prices Int
  scrapedAt : Timestamp

def promotionRow? (row : Nat × StagedPrice) : Option PromotionRow :=
  (observationKey? locale dims row.2).map fun key =>
    { stgId := row.1, key, prices := row.2.prices, scrapedAt := row.2.scrapedAt }

/-- The staged rows a batch takes. -/
def stagedIn (window : Window) (stg : SerialTable StagedPrice) : List (Nat × StagedPrice) :=
  stg.table.rows.filter fun row => inBatch window row.2

def promotionBatch (window : Window) (stg : SerialTable StagedPrice) : List PromotionRow :=
  (stagedIn window stg).filterMap (promotionRow? locale dims)

/-- The first of two rows comes before the second: `ORDER BY scraped_at DESC,
stg_id DESC`. -/
def isFresher (row other : PromotionRow) : Bool :=
  other.scrapedAt < row.scrapedAt ||
    (other.scrapedAt = row.scrapedAt && other.stgId < row.stgId)

/-- `row_number() OVER (... ORDER BY scraped_at DESC, stg_id DESC) = 1` -/
def freshest : List PromotionRow → Option PromotionRow
  | [] => none
  | row :: rest =>
    match freshest rest with
    | none => some row
    | some other => if isFresher row other then some row else some other

/-- The temporary table `_dedup`. -/
def dedup (window : Window) (stg : SerialTable StagedPrice) : Table ObservationKey PromotionRow :=
  Table.groupBy (·.key) freshest (promotionBatch locale dims window stg)

/-- The rows proposed for insertion; the counts are not populated by staging. -/
def excluded (window : Window) (stg : SerialTable StagedPrice) :
    Table ObservationKey Observation :=
  (dedup locale dims window stg).filterMapValues fun _ row =>
    row.prices.checked?.map fun prices =>
      { prices, listCount := none, soldCount := none, scrapedAt := row.scrapedAt }

/-- `DO UPDATE SET ...`: per-column newest non-null wins. -/
def mergeObservation (stored new : Observation) : Observation where
  prices := stored.prices.combine (absorbValue stored.scrapedAt new.scrapedAt) new.prices
  listCount := stored.listCount
  soldCount := stored.soldCount
  scrapedAt := max stored.scrapedAt new.scrapedAt

/-- A row of the batch has a null in its key, or a proposed row fails the check
on the price columns. -/
def promotionRaises (window : Window) (stg : SerialTable StagedPrice) : Bool :=
  (stagedIn window stg).any (fun row => (observationKey? locale dims row.2).isNone) ||
    (dedup locale dims window stg).rows.any fun row => row.2.prices.checked?.isNone

/-- The upsert and the drain of a batch. -/
def promote (window : Window) (tables : StagingTables) : StagingTables where
  priceObservation := tables.priceObservation.upsert
    (excluded locale dims window tables.stgPriceObservation) mergeObservation
  stgPriceObservation :=
    let batch := (stagedIn window tables.stgPriceObservation).map Prod.fst
    tables.stgPriceObservation.deleteWhere fun stgId _ => stgId ∈ batch

/-- One iteration of the batch loop, with its commit or rollback; `failed` says
whether something else raises in it. -/
def promoteBatch (failed : Window → Bool) (window : Window) (tables : StagingTables) :
    StagingTables :=
  if failed window || promotionRaises locale dims window tables.stgPriceObservation then tables
  else promote locale dims window tables

/-- `SELECT min(ts_date), max(ts_date) FROM pricing.stg_price_observation` -/
def stagedRange (stg : SerialTable StagedPrice) : Option (Int × Int) := do
  let v_min ← (stg.values.map (·.tsDate)).min?
  let v_max ← (stg.values.map (·.tsDate)).max?
  return (v_min, v_max)

/-- The pre-flight of the procedure. -/
def promotionPreflight (tables : DimensionTables) : Except String PromotionDims :=
  promotionDims locale
    "No 'sell' row in pricing.transaction_type; cannot load price_observation" tables

/-- The procedure after its pre-flight. -/
def loadPricesFromStagedBatched (batchDays : ℕ+) (failed : Window → Bool)
    (tables : StagingTables) : StagingTables :=
  match stagedRange tables.stgPriceObservation with
  | none => tables
  | some (v_min, v_max) => batchLoop batchDays (promoteBatch locale dims failed) v_max v_min tables

/-- The windows a call visits, in order. -/
def promotionWindows (batchDays : ℕ+) (tables : StagingTables) : List Window :=
  match stagedRange tables.stgPriceObservation with
  | none => []
  | some (v_min, v_max) => batchWindows batchDays v_max v_min

theorem loadPricesFromStagedBatched_eq_foldl (batchDays : ℕ+) (failed : Window → Bool)
    (tables : StagingTables) :
    loadPricesFromStagedBatched locale dims batchDays failed tables =
      (promotionWindows batchDays tables).foldl
        (fun tables window => promoteBatch locale dims failed window tables) tables := by
  unfold loadPricesFromStagedBatched promotionWindows
  cases stagedRange tables.stgPriceObservation with
  | none => rfl
  | some range => exact batchLoop_eq_foldl _ _ _ _ _

/-! ## What a batch proposes for one key -/

/-- The rows that are promoted under a key. -/
def rowsOf (key : ObservationKey) (rows : List StagedPrice) : List StagedPrice :=
  rows.filter fun row => observationKey? locale dims row = some key

/-- What the rows of a key say about one column. -/
def readings (key : ObservationKey) (column : PriceColumn) (rows : List StagedPrice) :
    List (Reading Timestamp Int) :=
  (rowsOf locale dims key rows).map fun row => ⟨row.scrapedAt, row.prices.get column⟩

theorem readings_append (key : ObservationKey) (column : PriceColumn)
    (left right : List StagedPrice) :
    readings locale dims key column (left ++ right) =
      readings locale dims key column left ++ readings locale dims key column right := by
  simp [readings, rowsOf]

/-- The rows a batch promotes. -/
def promotedBy (window : Window) (stg : SerialTable StagedPrice) : List StagedPrice :=
  (stagedIn window stg).map Prod.snd

/-- Promotion splits the staged rows into those it leaves and those it promotes. -/
theorem values_perm_promote (window : Window) (tables : StagingTables) :
    tables.stgPriceObservation.values.Perm
      ((promote locale dims window tables).stgPriceObservation.values ++
        promotedBy window tables.stgPriceObservation) := by
  have hpending : (promote locale dims window tables).stgPriceObservation.values =
      (tables.stgPriceObservation.table.rows.filter fun row => !inBatch window row.2).map
        Prod.snd :=
    congrArg (List.map Prod.snd) (Table.rows_deleteWhere_keys _ _)
  rw [hpending, promotedBy, ← List.map_append]
  exact ((List.perm_append_comm.trans (List.filter_append_perm _ _)).symm).map _

theorem readings_eq_map_batch (key : ObservationKey) (column : PriceColumn)
    (rows : List (Nat × StagedPrice)) :
    readings locale dims key column (rows.map Prod.snd) =
      ((rows.filterMap (promotionRow? locale dims)).filter (·.key = key)).map
        fun row => ⟨row.scrapedAt, row.prices.get column⟩ := by
  induction rows with
  | nil => rfl
  | cons row rest ih =>
      simp only [readings, rowsOf] at ih ⊢
      cases hkey : observationKey? locale dims row.2 with
      | none => simpa [promotionRow?, List.filterMap_cons, hkey] using ih
      | some rowKey =>
          by_cases heq : rowKey = key
          · simpa [promotionRow?, List.filterMap_cons, hkey, heq] using ih
          · simpa [promotionRow?, List.filterMap_cons, hkey, heq] using ih

theorem freshest_eq_none_iff {rows : List PromotionRow} : freshest rows = none ↔ rows = [] := by
  cases rows with
  | nil => simp [freshest]
  | cons row rest =>
      simp only [freshest, reduceCtorEq, iff_false]
      split
      · simp
      · split_ifs <;> simp

theorem freshest_spec {rows : List PromotionRow} {row : PromotionRow}
    (hfreshest : freshest rows = some row) :
    row ∈ rows ∧ ∀ other ∈ rows, other.scrapedAt ≤ row.scrapedAt := by
  induction rows generalizing row with
  | nil => cases hfreshest
  | cons first rest ih =>
      simp only [freshest] at hfreshest
      cases hrest : freshest rest with
      | none =>
          rw [freshest_eq_none_iff] at hrest
          subst hrest
          cases hfreshest
          simp
      | some best =>
          obtain ⟨hbest, hmax⟩ := ih hrest
          rw [hrest] at hfreshest
          simp only [isFresher, Bool.or_eq_true, Bool.and_eq_true, decide_eq_true_eq] at hfreshest
          rw [List.forall_mem_cons]
          split_ifs at hfreshest with hfresher
          · cases hfreshest
            have hle : best.scrapedAt ≤ first.scrapedAt := by
              rcases hfresher with hlt | ⟨heq, -⟩
              · exact hlt.le
              · exact heq.le
            exact ⟨List.mem_cons_self, le_rfl, fun other hother => (hmax other hother).trans hle⟩
          · cases hfreshest
            have hle : first.scrapedAt ≤ row.scrapedAt :=
              not_lt.mp fun hlt => hfresher (Or.inl hlt)
            exact ⟨List.mem_cons_of_mem _ hbest, hle, hmax⟩

/-- A batch that does not raise proposes the newest reading of each key it has
rows for. -/
theorem excluded_cases {window : Window} {stg : SerialTable StagedPrice}
    (hok : promotionRaises locale dims window stg = false) (key : ObservationKey) :
    ((excluded locale dims window stg).get? key = none ∧
      ∀ column, readings locale dims key column (promotedBy window stg) = []) ∨
    ∃ new, (excluded locale dims window stg).get? key = some new ∧ ∀ column,
      ⟨new.scrapedAt, (new.prices.get column).map Int.ofNat⟩ ∈
        readings locale dims key column (promotedBy window stg) ∧
      ∀ reading ∈ readings locale dims key column (promotedBy window stg),
        reading.stamp ≤ new.scrapedAt := by
  have hgroup : (dedup locale dims window stg).get? key =
      freshest ((promotionBatch locale dims window stg).filter (·.key = key)) :=
    Table.get?_groupBy _ _ rfl _ _
  have hreadings (column : PriceColumn) := readings_eq_map_batch locale dims key column
    (stagedIn window stg)
  cases hfreshest : freshest ((promotionBatch locale dims window stg).filter (·.key = key)) with
  | none =>
      refine Or.inl ⟨by simp [excluded, hgroup, hfreshest], fun column => ?_⟩
      rw [freshest_eq_none_iff, promotionBatch] at hfreshest
      rw [promotedBy, hreadings, hfreshest, List.map_nil]
  | some row =>
      have hrow := hgroup.trans hfreshest
      obtain ⟨hmem, hnewest⟩ := freshest_spec hfreshest
      have hchecked : row.prices.checked?.isSome := by
        simp only [promotionRaises, Bool.or_eq_false_iff, List.any_eq_false] at hok
        have hprice := hok.2 (key, row) ((Table.mem_rows_iff _ _ _).mpr hrow)
        rwa [Option.isNone_iff_eq_none, ← ne_eq, Option.ne_none_iff_isSome] at hprice
      obtain ⟨cents, hcents⟩ := Option.isSome_iff_exists.mp hchecked
      refine Or.inr ⟨⟨cents, none, none, row.scrapedAt⟩, ?_, fun column => ⟨?_, ?_⟩⟩
      · simp [excluded, hrow, hcents]
      · rw [promotedBy, hreadings, Prices.get_of_checked hcents]
        exact List.mem_map_of_mem hmem
      · intro reading hreading
        rw [promotedBy, hreadings] at hreading
        obtain ⟨other, hother, rfl⟩ := List.mem_map.mp hreading
        exact hnewest other hother

end AutoMana.Staging
