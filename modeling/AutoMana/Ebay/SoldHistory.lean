import AutoMana.Ebay.SoldGroups
import AutoMana.Relational.Runs

/-!
# Sold prices over a history

Sales arrive one by one, are synchronized again, and are promoted now and then. A promotion
replaces the sold price of a key by that of the sales it promotes, so the price is that of
all sales of the key when these are all of them. This is so in a history whose promotions
find the sales of a key all pending, and in one channel, or none of them pending, and whose
re-syncs leave promoted sales as they are.
-/

namespace AutoMana.Ebay.SoldHistory

open Relational Pricing

/-- The tables, and what each scraped sale came to in USD when it was last aggregated. -/
structure Ledger extends SoldTables where
  usdCents : String → Int

inductive Event where
  | promote (call : PromoteCall)
  | sync (key : OrderItemKey) (row : OrderSourceProduct)
  | scrape (itemId : String) (row : ScrapedSold)

/-- What a scraped sale came to after a promotion. -/
def valued (call : PromoteCall) (ledger : Ledger) (id : String) : Int :=
  match (ledger.staging.scrapedSold.get? id).bind (scrapedSale? id) with
  | some sale =>
    if sale.promotedToObs then ledger.usdCents id else priceCents call.upper call.fxMap sale
  | none => ledger.usdCents id

def step (ledger : Ledger) : Event → Ledger
  | .promote call =>
    { toSoldTables := (promoteSoldObs call ledger.toSoldTables).1
      usdCents := valued call ledger }
  | .sync key row =>
    { ledger with
      staging.orderSourceProduct :=
        upsertOrderSourceProduct ledger.staging.orderSourceProduct key row }
  | .scrape itemId row =>
    { ledger with
      staging.scrapedSold := insertScrapedSold ledger.staging.scrapedSold itemId row }

/-- Nothing is staged yet. -/
def start (priceObservation : Table ObservationKey Observation) : Ledger where
  staging := ⟨.empty, .empty⟩
  priceObservation := priceObservation
  usdCents := fun _ => 0

/-! ## What is claimed -/

/-- The keys of sold prices. -/
def IsSoldKey (key : ObservationKey) : Prop :=
  key.dataProviderId = ebayDataProviderId ∧ key.priceTypeId = sellPriceTypeId

/-- What the resolved sales of a key come to, in both channels. -/
def soldCents (ledger : Ledger) (key : ObservationKey) : List Int :=
  (salesAt (ownSales ledger.staging) key).map (fun sale => (sale.cents : Int)) ++
    (salesAt (scrapedSales ledger.staging) key).map fun sale => ledger.usdCents sale.id

/-- Each sold price is that of all sales of its key. -/
def Aggregated (ledger : Ledger) : Prop :=
  ∀ key, IsSoldKey key →
    soldOf ledger.priceObservation key = soldPrice? (soldCents ledger key)

/-! ## The condition -/

/-- No upsert raises. -/
def UpsertsReturn (ledger : Ledger) : Event → Prop
  | .promote call =>
    UpsertsSucceed call call.own none (ownSales ledger.staging) ∧
      UpsertsSucceed call call.scraped call.fxMap (scrapedSales ledger.staging)
  | _ => True

/-- The sales of a key are all promoted, or all pending and in one channel. -/
def InOneBatch (staging : Staging) (key : ObservationKey) : Prop :=
  let own := salesAt (ownSales staging) key
  let scraped := salesAt (scrapedSales staging) key
  ((∀ sale ∈ own, sale.promotedToObs) ∧ ∀ sale ∈ scraped, sale.promotedToObs) ∨
    (scraped = [] ∧ ∀ sale ∈ own, sale.promotedToObs = false) ∨
    (own = [] ∧ ∀ sale ∈ scraped, sale.promotedToObs = false)

/-- A key has a sale besides an own one. -/
def HasOther (staging : Staging) (id : OrderItemKey) (key : ObservationKey) : Prop :=
  (∃ sale ∈ ownSales staging, sale.id ≠ id ∧ sale.observationKey = key) ∨
    ∃ sale ∈ scrapedSales staging, sale.observationKey = key

/-- A re-sync keeps the source product, and the price of a promoted sale, or it moves a
pending sale away from a key that has no sold price or keeps another sale. -/
def LeavesPromoted (ledger : Ledger) (id : OrderItemKey) (stored row : OrderSourceProduct) :
    Prop :=
  stored.sourceProductId = row.sourceProductId ∧
      (stored.promotedToObs = true → stored.soldPriceCents = row.soldPriceCents) ∨
    stored.promotedToObs = false ∧ ∀ sale, ownSale? id stored = some sale →
      soldOf ledger.priceObservation sale.observationKey = none ∨
        HasOther ledger.staging id sale.observationKey

def Undisturbed (ledger : Ledger) : Event → Prop
  | .promote _ => ∀ key, InOneBatch ledger.staging key
  | .sync id row => ∀ stored, ledger.staging.orderSourceProduct.get? id = some stored →
      LeavesPromoted ledger id stored row
  | .scrape _ _ => True

/-! ## The invariant -/

/-- What the promoted sales of a key come to. -/
def promotedCents (ledger : Ledger) (key : ObservationKey) : List Int :=
  ((salesAt (ownSales ledger.staging) key).filter (·.promotedToObs)).map
      (fun sale => (sale.cents : Int)) ++
    ((salesAt (scrapedSales ledger.staging) key).filter (·.promotedToObs)).map
      fun sale => ledger.usdCents sale.id

/-- A key with promoted sales has their price, and a key without sales has none. -/
structure SoldInv (ledger : Ledger) (key : ObservationKey) : Prop where
  promoted : promotedCents ledger key ≠ [] →
    soldOf ledger.priceObservation key = soldPrice? (promotedCents ledger key)
  unsold : soldCents ledger key = [] → soldOf ledger.priceObservation key = none

/-! ## Sales of a table -/

theorem mem_ownSales {staging : Staging} {sale : StagedSale OrderItemKey} :
    sale ∈ ownSales staging ↔
      ∃ row, staging.orderSourceProduct.get? sale.id = some row ∧
        ownSale? sale.id row = some sale := by
  have hid {id : OrderItemKey} {row : OrderSourceProduct} (hsale : ownSale? id row = some sale) :
      id = sale.id := by
    obtain ⟨sourceProductId, -, rfl⟩ := Option.map_eq_some_iff.mp hsale
    rfl
  simp only [ownSales, List.mem_filterMap, Prod.exists, Table.mem_rows_iff]
  constructor
  · rintro ⟨id, row, hget, hsale⟩
    obtain rfl := hid hsale
    exact ⟨row, hget, hsale⟩
  · rintro ⟨row, hget, hsale⟩
    exact ⟨sale.id, row, hget, hsale⟩

theorem mem_scrapedSales {staging : Staging} {sale : StagedSale String} :
    sale ∈ scrapedSales staging ↔
      ∃ row, staging.scrapedSold.get? sale.id = some row ∧
        scrapedSale? sale.id row = some sale := by
  have hid {id : String} {row : ScrapedSold} (hsale : scrapedSale? id row = some sale) :
      id = sale.id := by
    obtain ⟨sourceProductId, -, rfl⟩ := Option.map_eq_some_iff.mp hsale
    rfl
  simp only [scrapedSales, List.mem_filterMap, Prod.exists, Table.mem_rows_iff]
  constructor
  · rintro ⟨id, row, hget, hsale⟩
    obtain rfl := hid hsale
    exact ⟨row, hget, hsale⟩
  · rintro ⟨row, hget, hsale⟩
    exact ⟨sale.id, row, hget, hsale⟩

/-- A key has nothing to aggregate exactly when no sale has it. -/
theorem soldCents_eq_nil_iff {ledger : Ledger} {key : ObservationKey} :
    soldCents ledger key = [] ↔
      (∀ sale ∈ ownSales ledger.staging, sale.observationKey ≠ key) ∧
        ∀ sale ∈ scrapedSales ledger.staging, sale.observationKey ≠ key := by
  simp only [soldCents, List.append_eq_nil_iff, List.map_eq_nil_iff, salesAt,
    List.filter_eq_nil_iff, decide_eq_true_eq]

/-! ## A promotion -/

section Channel

variable {ι : Type}

/-- A sale after its channel is promoted. -/
def afterMark (markRaises : Bool) (sale : StagedSale ι) : StagedSale ι :=
  { sale with promotedToObs := sale.promotedToObs || !markRaises }

theorem afterMark_of_promoted (markRaises : Bool) {sale : StagedSale ι}
    (hpromoted : sale.promotedToObs = true) : afterMark markRaises sale = sale := by
  obtain ⟨⟩ := sale
  obtain rfl : _ = true := hpromoted
  rfl

theorem salesAt_map_afterMark (markRaises : Bool) (sales : List (StagedSale ι))
    (key : ObservationKey) :
    salesAt (sales.map (afterMark markRaises)) key =
      (salesAt sales key).map (afterMark markRaises) := by
  rw [salesAt, List.filter_map]
  rfl

theorem salesAt_unpromoted (sales : List (StagedSale ι)) (key : ObservationKey) :
    salesAt (unpromoted sales) key = unpromoted (salesAt sales key) := by
  rw [salesAt, unpromoted, unpromoted, salesAt, List.filter_filter, List.filter_filter]
  simp only [Bool.and_comm]

theorem unpromoted_of_promoted {sales : List (StagedSale ι)}
    (hpromoted : ∀ sale ∈ sales, sale.promotedToObs) : unpromoted sales = [] := by
  rw [unpromoted, List.filter_eq_nil_iff]
  intro sale hsale
  simp [hpromoted sale hsale]

theorem unpromoted_of_pending {sales : List (StagedSale ι)}
    (hpending : ∀ sale ∈ sales, sale.promotedToObs = false) : unpromoted sales = sales := by
  rw [unpromoted, List.filter_eq_self]
  intro sale hsale
  simp [hpending sale hsale]

/-- Promoted sales stay promoted. -/
theorem filter_afterMark_of_promoted (markRaises : Bool) {sales : List (StagedSale ι)}
    (hpromoted : ∀ sale ∈ sales, sale.promotedToObs) :
    (sales.map (afterMark markRaises)).filter (·.promotedToObs) =
      sales.map (afterMark markRaises) := by
  rw [List.filter_eq_self]
  intro sale hsale
  obtain ⟨before, hbefore, rfl⟩ := List.mem_map.mp hsale
  simp [afterMark, hpromoted before hbefore]

/-- Pending sales are all marked, or none of them is. -/
theorem filter_afterMark_of_pending (markRaises : Bool) {sales : List (StagedSale ι)}
    (hpending : ∀ sale ∈ sales, sale.promotedToObs = false) :
    (sales.map (afterMark markRaises)).filter (·.promotedToObs) =
      if markRaises then [] else sales.map (afterMark markRaises) := by
  cases markRaises with
  | true =>
    rw [if_pos rfl, List.filter_eq_nil_iff]
    intro sale hsale
    obtain ⟨before, hbefore, rfl⟩ := List.mem_map.mp hsale
    simp [afterMark, hpending before hbefore]
  | false =>
    rw [if_neg Bool.false_ne_true, List.filter_eq_self]
    intro sale hsale
    obtain ⟨before, -, rfl⟩ := List.mem_map.mp hsale
    simp [afterMark]

/-- Marking the pending sales of a table, and perhaps others, marks all of them. -/
theorem filterMap_mark [DecidableEq ι] {Row : Type} {sale? : ι → Row → Option (StagedSale ι)}
    (mark : Row → Row) (hid : ∀ id row sale, sale? id row = some sale → sale.id = id)
    (hmark : ∀ id row, sale? id (mark row) = (sale? id row).map (afterMark false))
    {rows : List (ι × Row)} {ids : List ι}
    (hids : ∀ sale ∈ unpromoted (rows.filterMap fun row => sale? row.1 row.2), sale.id ∈ ids) :
    (rows.map fun row => (row.1, if row.1 ∈ ids then mark row.2 else row.2)).filterMap
        (fun row => sale? row.1 row.2) =
      (rows.filterMap fun row => sale? row.1 row.2).map (afterMark false) := by
  rw [List.filterMap_map, List.map_filterMap]
  apply List.filterMap_congr
  intro row hrow
  simp only [Function.comp_apply]
  split_ifs with hmem
  · exact hmark row.1 row.2
  · cases hsale : sale? row.1 row.2 with
    | none => rfl
    | some sale =>
      -- a sale that is left out has been promoted before
      have hpromoted : sale.promotedToObs = true := by
        by_contra hpending
        have hsales : sale ∈ rows.filterMap fun row => sale? row.1 row.2 :=
          List.mem_filterMap.mpr ⟨row, hrow, hsale⟩
        apply hmem
        rw [← hid _ _ _ hsale]
        exact hids sale (List.mem_filter.mpr ⟨hsales, by simpa using hpending⟩)
      rw [Option.map_some, afterMark_of_promoted false hpromoted]

theorem map_afterMark_true (sales : List (StagedSale ι)) : sales.map (afterMark true) = sales := by
  conv_rhs => rw [← List.map_id sales]
  apply List.map_congr_left
  intro sale _
  simp [afterMark]

end Channel

theorem ownSales_markOwnPromoted (faults : Faults) {ids : List OrderItemKey} {staging : Staging}
    (hids : ∀ sale ∈ unpromoted (ownSales staging), sale.id ∈ ids) :
    ownSales (markOwnPromoted faults ids staging) =
      (ownSales staging).map (afterMark faults.markRaises) := by
  unfold markOwnPromoted
  split_ifs with hraises
  · rw [hraises, map_afterMark_true]
  · rw [Bool.not_eq_true] at hraises
    rw [hraises]
    refine filterMap_mark (fun row => { row with promotedToObs := true }) ?_ ?_ hids
    · intro id row sale hsale
      obtain ⟨_, -, rfl⟩ := Option.map_eq_some_iff.mp hsale
      rfl
    · intro id row
      cases hsource : row.sourceProductId <;> simp [ownSale?, hsource, afterMark]

theorem scrapedSales_markScrapedPromoted (faults : Faults) {ids : List String} {staging : Staging}
    (hids : ∀ sale ∈ unpromoted (scrapedSales staging), sale.id ∈ ids) :
    scrapedSales (markScrapedPromoted faults ids staging) =
      (scrapedSales staging).map (afterMark faults.markRaises) := by
  unfold markScrapedPromoted
  split_ifs with hraises
  · rw [hraises, map_afterMark_true]
  · rw [Bool.not_eq_true] at hraises
    rw [hraises]
    refine filterMap_mark (fun row => { row with promotedToObs := true }) ?_ ?_ hids
    · intro id row sale hsale
      obtain ⟨_, -, rfl⟩ := Option.map_eq_some_iff.mp hsale
      rfl
    · intro id row
      cases hsource : row.sourceProductId <;> simp [scrapedSale?, hsource, afterMark]

/-- What a promotion without a failing upsert leaves under a key. -/
structure PromotedTo (call : PromoteCall) (ledger next : Ledger) (key : ObservationKey) :
    Prop where
  sold : soldOf next.priceObservation key =
    (soldPrice? ((unpromoted (salesAt (scrapedSales ledger.staging) key)).map
      (priceCents call.upper call.fxMap))).or
      ((soldPrice? ((unpromoted (salesAt (ownSales ledger.staging) key)).map
        fun sale => (sale.cents : Int))).or (soldOf ledger.priceObservation key))
  own : salesAt (ownSales next.staging) key =
    (salesAt (ownSales ledger.staging) key).map (afterMark call.own.markRaises)
  scraped : salesAt (scrapedSales next.staging) key =
    (salesAt (scrapedSales ledger.staging) key).map (afterMark call.scraped.markRaises)
  pending : ∀ sale ∈ scrapedSales ledger.staging, sale.promotedToObs = false →
    next.usdCents sale.id = priceCents call.upper call.fxMap sale
  promoted : ∀ sale ∈ scrapedSales ledger.staging, sale.promotedToObs = true →
    next.usdCents sale.id = ledger.usdCents sale.id

theorem scrapedSales_markOwnPromoted (faults : Faults) (ids : List OrderItemKey)
    (staging : Staging) :
    scrapedSales (markOwnPromoted faults ids staging) = scrapedSales staging := by
  unfold markOwnPromoted
  split_ifs <;> rfl

theorem ownSales_markScrapedPromoted (faults : Faults) (ids : List String) (staging : Staging) :
    ownSales (markScrapedPromoted faults ids staging) = ownSales staging := by
  unfold markScrapedPromoted
  split_ifs <;> rfl

theorem promotedTo_step {call : PromoteCall} {ledger : Ledger}
    (hupserts : UpsertsReturn ledger (.promote call)) (key : ObservationKey) :
    PromotedTo call ledger (step ledger (.promote call)) key := by
  obtain ⟨hown, hscraped⟩ := hupserts
  have hvalued : ∀ sale ∈ scrapedSales ledger.staging, valued call ledger sale.id =
      if sale.promotedToObs then ledger.usdCents sale.id
      else priceCents call.upper call.fxMap sale := by
    intro sale hsale
    obtain ⟨row, hget, hrow⟩ := mem_scrapedSales.mp hsale
    rw [valued, hget, Option.bind_some, hrow]
  constructor
  · simp only [step, promoteSoldObs, scrapedSales_markOwnPromoted]
    rw [soldOf_promoteChannel_of_succeed hscraped, soldOf_promoteChannel_of_succeed hown,
      salesAt_unpromoted, salesAt_unpromoted, priceCents_of_noRates]
  · simp only [step, promoteSoldObs, ownSales_markScrapedPromoted]
    rw [ownSales_markOwnPromoted call.own fun sale hsale => mem_ids_promoteChannel hown _ hsale,
      salesAt_map_afterMark]
  · simp only [step, promoteSoldObs]
    rw [scrapedSales_markScrapedPromoted call.scraped, scrapedSales_markOwnPromoted,
      salesAt_map_afterMark]
    rw [scrapedSales_markOwnPromoted]
    exact fun sale hsale => mem_ids_promoteChannel hscraped _ hsale
  · intro sale hsale hpending
    exact (hvalued sale hsale).trans (if_neg (by simp [hpending]))
  · intro sale hsale hpromoted
    exact (hvalued sale hsale).trans (if_pos hpromoted)

theorem soldPrice_or {cents : List Int} {stored : Option (Int × Nat)}
    (hstored : cents = [] → stored = none) : (soldPrice? cents).or stored = soldPrice? cents := by
  cases cents with
  | nil => rw [hstored rfl, Option.or_none]
  | cons first rest => rfl

/-- A promotion that finds the sales of a key in one batch gives it the price of all its
sales, of which either all or none are marked. -/
theorem promote_of_inOneBatch {call : PromoteCall} {ledger next : Ledger} {key : ObservationKey}
    (hnext : PromotedTo call ledger next key) (hinv : SoldInv ledger key)
    (hbatch : InOneBatch ledger.staging key) :
    soldOf next.priceObservation key = soldPrice? (soldCents next key) ∧
      (promotedCents next key = soldCents next key ∨ promotedCents next key = []) := by
  have hcents : soldCents next key =
      (salesAt (ownSales ledger.staging) key).map (fun sale => (sale.cents : Int)) ++
        (salesAt (scrapedSales ledger.staging) key).map fun sale => next.usdCents sale.id := by
    rw [soldCents, hnext.own, hnext.scraped, List.map_map, List.map_map]
    rfl
  rw [promotedCents, hnext.own, hnext.scraped, hnext.sold]
  have hsales : salesAt (scrapedSales ledger.staging) key ⊆ scrapedSales ledger.staging :=
    List.filter_subset_self _
  rcases hbatch with ⟨hown, hscraped⟩ | ⟨hscraped, hown⟩ | ⟨hown, hscraped⟩
  · -- nothing is pending
    have husd : (salesAt (scrapedSales ledger.staging) key).map
        (fun sale => next.usdCents sale.id) =
        (salesAt (scrapedSales ledger.staging) key).map fun sale => ledger.usdCents sale.id :=
      List.map_congr_left fun sale hsale =>
        hnext.promoted sale (hsales hsale) (hscraped sale hsale)
    have hsame : soldCents next key = soldCents ledger key := by rw [hcents, husd, soldCents]
    have hbefore : promotedCents ledger key = soldCents ledger key := by
      rw [promotedCents, List.filter_eq_self.mpr hown, List.filter_eq_self.mpr hscraped, soldCents]
    rw [unpromoted_of_promoted hown, unpromoted_of_promoted hscraped,
      filter_afterMark_of_promoted _ hown, filter_afterMark_of_promoted _ hscraped, hsame]
    constructor
    · cases hnone : soldCents ledger key with
      | nil => exact hinv.unsold hnone
      | cons first rest =>
        rw [← hnone, ← hbefore]
        exact hinv.promoted (by rw [hbefore, hnone]; exact List.cons_ne_nil _ _)
    · left
      rw [← hsame, soldCents, hnext.own, hnext.scraped]
  · have hunsold : (salesAt (ownSales ledger.staging) key).map
        (fun sale => (sale.cents : Int)) = [] → soldOf ledger.priceObservation key = none := by
      intro hnone
      exact hinv.unsold (by rw [soldCents, hnone, hscraped]; rfl)
    rw [hscraped, List.map_nil, List.append_nil] at hcents
    rw [hscraped, unpromoted_of_pending hown, hcents, filter_afterMark_of_pending _ hown]
    refine ⟨soldPrice_or hunsold, ?_⟩
    cases call.own.markRaises with
    | true => exact Or.inr rfl
    | false =>
      left
      rw [if_neg Bool.false_ne_true, List.map_map]
      exact List.append_nil _
  · have husd : (salesAt (scrapedSales ledger.staging) key).map
        (fun sale => next.usdCents sale.id) =
        (salesAt (scrapedSales ledger.staging) key).map (priceCents call.upper call.fxMap) :=
      List.map_congr_left fun sale hsale =>
        hnext.pending sale (hsales hsale) (hscraped sale hsale)
    have hunsold : (salesAt (scrapedSales ledger.staging) key).map
        (priceCents call.upper call.fxMap) = [] → soldOf ledger.priceObservation key = none := by
      intro hnone
      exact hinv.unsold (by rw [soldCents, hown, List.map_eq_nil_iff.mp hnone]; rfl)
    rw [hown, List.map_nil, List.nil_append] at hcents
    rw [hown, unpromoted_of_pending hscraped, hcents, filter_afterMark_of_pending _ hscraped, husd]
    refine ⟨soldPrice_or hunsold, ?_⟩
    cases call.scraped.markRaises with
    | true => exact Or.inr rfl
    | false =>
      left
      rw [if_neg Bool.false_ne_true, List.map_map, ← husd]
      rfl

/-! ## Arrivals -/

/-- What a row adds to the promoted own sales of a key. -/
def promotedOwn? (key : ObservationKey) (row : OrderItemKey × OrderSourceProduct) : Option Int :=
  ((ownSale? row.1 row.2).filter fun sale =>
    sale.promotedToObs && decide (sale.observationKey = key)).map fun sale => (sale.cents : Int)

/-- What a row adds to the promoted scraped sales of a key. -/
def promotedScraped? (usdCents : String → Int) (key : ObservationKey) (row : String × ScrapedSold) :
    Option Int :=
  ((scrapedSale? row.1 row.2).filter fun sale =>
    sale.promotedToObs && decide (sale.observationKey = key)).map fun sale => usdCents sale.id

theorem promotedCents_eq (ledger : Ledger) (key : ObservationKey) :
    promotedCents ledger key =
      ledger.staging.orderSourceProduct.rows.filterMap (promotedOwn? key) ++
        ledger.staging.scrapedSold.rows.filterMap (promotedScraped? ledger.usdCents key) := by
  rw [promotedCents, salesAt, salesAt, List.filter_filter, List.filter_filter, ownSales,
    scrapedSales, List.filter_filterMap, List.filter_filterMap, List.map_filterMap,
    List.map_filterMap]
  rfl

theorem promotedOwn_of_pending {row : OrderSourceProduct} (hpending : row.promotedToObs = false)
    (id : OrderItemKey) (key : ObservationKey) : promotedOwn? key (id, row) = none := by
  cases hsource : row.sourceProductId <;> simp [promotedOwn?, ownSale?, hsource, hpending]

theorem promotedScraped_of_pending {row : ScrapedSold} (hpending : row.promotedToObs = false)
    (usdCents : String → Int) (id : String) (key : ObservationKey) :
    promotedScraped? usdCents key (id, row) = none := by
  cases hsource : row.sourceProductId <;> simp [promotedScraped?, scrapedSale?, hsource, hpending]

theorem soldInv_scrape {ledger : Ledger} {key : ObservationKey} (hinv : SoldInv ledger key)
    (itemId : String) (row : ScrapedSold) : SoldInv (step ledger (.scrape itemId row)) key := by
  have hrows := Table.rows_insertMissing_single ledger.staging.scrapedSold itemId
    { row with promotedToObs := false }
  have hpromoted : promotedCents (step ledger (.scrape itemId row)) key =
      promotedCents ledger key := by
    rw [promotedCents_eq, promotedCents_eq]
    simp only [step, insertScrapedSold, hrows, List.filterMap_append]
    congr 1
    split_ifs
    · rw [List.filterMap_nil, List.append_nil]
    · rw [List.filterMap_cons_none (promotedScraped_of_pending rfl _ itemId key),
        List.filterMap_nil, List.append_nil]
  constructor
  · rw [hpromoted]
    exact hinv.promoted
  · intro hnone
    apply hinv.unsold
    rw [soldCents_eq_nil_iff] at hnone ⊢
    refine ⟨hnone.1, fun sale hsale => hnone.2 sale ?_⟩
    obtain ⟨stored, hget, hstored⟩ := mem_scrapedSales.mp hsale
    exact mem_scrapedSales.mpr ⟨stored, Table.get?_insertMissing_of_stored hget _, hstored⟩

/-- A re-sync that leaves promoted sales as they are keeps what they come to. -/
theorem promotedCents_sync {ledger : Ledger} {id : OrderItemKey} {row : OrderSourceProduct}
    (hleaves : ∀ stored, ledger.staging.orderSourceProduct.get? id = some stored →
      LeavesPromoted ledger id stored row) (key : ObservationKey) :
    promotedCents (step ledger (.sync id row)) key = promotedCents ledger key := by
  have hrows := rows_upsertOrderSourceProduct ledger.staging.orderSourceProduct id row
  have hnew : (if (ledger.staging.orderSourceProduct.get? id).isSome then []
      else [(id, { row with promotedToObs := false })]).filterMap (promotedOwn? key) = [] := by
    split_ifs
    · rfl
    · exact List.filterMap_cons_none (promotedOwn_of_pending rfl id key)
  rw [promotedCents_eq, promotedCents_eq]
  simp only [step, hrows, List.filterMap_append, hnew, List.append_nil, List.filterMap_map]
  congr 1
  apply List.filterMap_congr
  intro entry hentry
  obtain ⟨other, stored⟩ := entry
  simp only [Function.comp_apply]
  split_ifs with hid
  · subst hid
    cases hpromoted : stored.promotedToObs with
    | false =>
      have hresync : (stored.resync row).promotedToObs = false := hpromoted
      rw [promotedOwn_of_pending hpromoted, promotedOwn_of_pending hresync]
    | true =>
      rcases hleaves stored ((Table.mem_rows_iff _ _ _).mp hentry) with
        ⟨hsource, hprice⟩ | ⟨hpending, -⟩
      · rw [OrderSourceProduct.resync, ← hsource, ← hprice hpromoted]
      · rw [hpromoted] at hpending
        cases hpending
  · rfl

theorem ownSale_resync {id : OrderItemKey} {stored row : OrderSourceProduct}
    {sale : StagedSale OrderItemKey} (hsource : stored.sourceProductId = row.sourceProductId)
    (hstored : ownSale? id stored = some sale) :
    ownSale? id (stored.resync row) = some { sale with cents := row.soldPriceCents } := by
  obtain ⟨sourceProductId, hsome, rfl⟩ := Option.map_eq_some_iff.mp hstored
  rw [ownSale?, OrderSourceProduct.resync, ← hsource, hsome]
  rfl

/-- A key with a sold price keeps a sale. -/
theorem soldInv_sync {ledger : Ledger} {key : ObservationKey} (hinv : SoldInv ledger key)
    {id : OrderItemKey} {row : OrderSourceProduct}
    (hleaves : ∀ stored, ledger.staging.orderSourceProduct.get? id = some stored →
      LeavesPromoted ledger id stored row) :
    SoldInv (step ledger (.sync id row)) key := by
  constructor
  · rw [promotedCents_sync hleaves key]
    exact hinv.promoted
  · intro hnone
    by_contra hsold
    rw [soldCents_eq_nil_iff] at hnone
    obtain ⟨hown, hscraped⟩ := hnone
    have hothers : ∀ sale ∈ ownSales ledger.staging, sale.id ≠ id → sale.observationKey ≠ key := by
      intro sale hsale hid
      obtain ⟨stored, hget, hstored⟩ := mem_ownSales.mp hsale
      refine hown sale (mem_ownSales.mpr ⟨stored, ?_, hstored⟩)
      rw [step, get?_upsertOrderSourceProduct, if_neg hid, hget]
    apply hsold
    apply hinv.unsold
    rw [soldCents_eq_nil_iff]
    refine ⟨fun sale hsale hkey => ?_, hscraped⟩
    by_cases hid : sale.id = id
    · obtain ⟨stored, hget, hstored⟩ := mem_ownSales.mp hsale
      rw [hid] at hget hstored
      rcases hleaves stored hget with ⟨hsource, -⟩ | ⟨-, hmoves⟩
      · -- the sale is still there
        have hget' : (step ledger (.sync id row)).staging.orderSourceProduct.get? sale.id =
            some (stored.resync row) := by
          rw [step, get?_upsertOrderSourceProduct, if_pos hid, hget]
          rfl
        have hsale' : ownSale? sale.id (stored.resync row) =
            some { sale with cents := row.soldPriceCents } :=
          ownSale_resync hsource (hid ▸ hstored)
        exact hown { sale with cents := row.soldPriceCents }
          (mem_ownSales.mpr ⟨_, hget', hsale'⟩) hkey
      · rcases hmoves sale hstored with
          hunsold | ⟨other, hother, hne, hsame⟩ | ⟨other, hother, hsame⟩
        · exact hsold (hkey ▸ hunsold)
        · exact hothers other hother hne (hsame.trans hkey)
        · exact hscraped other hother (hsame.trans hkey)
    · exact hothers sale hsale hid hkey

/-! ## Histories -/

theorem soldInv_step {ledger : Ledger} {key : ObservationKey} (hinv : SoldInv ledger key)
    {event : Event} (hupserts : UpsertsReturn ledger event) (hmeet : Undisturbed ledger event) :
    SoldInv (step ledger event) key := by
  cases event with
  | promote call =>
    obtain ⟨hsold, hmarked⟩ := promote_of_inOneBatch (promotedTo_step hupserts key) hinv (hmeet key)
    constructor
    · intro hsome
      rw [hsold, hmarked.resolve_right hsome]
    · intro hnone
      rw [hsold, hnone]
      rfl
  | sync id row => exact soldInv_sync hinv hmeet
  | scrape itemId row => exact soldInv_scrape hinv itemId row

theorem soldInv_start {priceObservation : Table ObservationKey Observation} {key : ObservationKey}
    (hunsold : soldOf priceObservation key = none) : SoldInv (start priceObservation) key where
  promoted := fun hsome => absurd rfl hsome
  unsold := fun _ => hunsold

/-- `integrations.ebay.promote_sold_obs`: in a history that meets the condition, each run
leaves every sold price to be that of all resolved sales of its key. -/
theorem aggregated_of_undisturbed {priceObservation : Table ObservationKey Observation}
    (hunsold : ∀ key, IsSoldKey key → soldOf priceObservation key = none) {history : List Event}
    (hupserts : Run.StepsMeet step UpsertsReturn (start priceObservation) history)
    (hmeet : Run.StepsMeet step Undisturbed (start priceObservation) history) :
    ∀ before call rest, history = before ++ .promote call :: rest →
      Aggregated ((before ++ [.promote call]).foldl step (start priceObservation)) := by
  rintro before call rest rfl key hkey
  obtain ⟨hbefore, hcall, -⟩ := Run.stepsMeet_append.mp (hupserts.and hmeet)
  have hstep : ∀ ledger event, SoldInv ledger key →
      UpsertsReturn ledger event ∧ Undisturbed ledger event → SoldInv (step ledger event) key :=
    fun ledger event hledger hevent => soldInv_step hledger hevent.1 hevent.2
  have hinv := Run.foldl_of_stepsMeet hstep (soldInv_start (hunsold key hkey)) hbefore
  rw [List.foldl_concat]
  exact (promote_of_inOneBatch (promotedTo_step hcall.1 key) hinv (hcall.2 key)).1

/-! ## Two sales of a day -/

def sampleSale (cents : Nat) : OrderSourceProduct where
  title := some "Sol Ring"
  sourceProductId := some 7
  quantity := 1
  soldPriceCents := cents
  currency := "USD"
  finishId := 1
  conditionId := some 1
  languageId := 1
  soldAt := 0
  buyerUsername := none
  promotedToObs := false
  marketplaceId := none

def sampleScraped : ScrapedSold where
  title := "Sol Ring"
  sourceProductId := some 8
  priceCents := 300
  currency := "USD"
  marketplaceId := "EBAY-US"
  conditionId := some 1
  finishId := 1
  languageId := 1
  soldAt := 0
  promotedToObs := false

def sampleCall : PromoteCall where
  upper := id
  fxRates := .empty
  now := 0
  own := ⟨fun _ => false, false⟩
  scraped := ⟨fun _ => false, false⟩

def sampleKey (sourceProductId : SourceProductId) : ObservationKey :=
  ⟨0, sourceProductId, sellPriceTypeId, 1, 1, 1, ebayDataProviderId⟩

/-- The second sale of the day arrives after the first was promoted. -/
def lateSale : List Event :=
  [.sync ⟨"1", "app", "a"⟩ (sampleSale 100), .promote sampleCall,
    .sync ⟨"2", "app", "b"⟩ (sampleSale 200), .promote sampleCall]

theorem upsertsReturn_lateSale : Run.StepsMeet step UpsertsReturn (start .empty) lateSale := by
  refine ⟨trivial, ⟨?_, ?_⟩, trivial, ⟨?_, ?_⟩, trivial⟩ <;> unfold UpsertsSucceed <;> decide

theorem late_sale_replaces_the_price :
    ¬ ∀ (priceObservation : Table ObservationKey Observation) (history : List Event),
      (∀ key, IsSoldKey key → soldOf priceObservation key = none) →
      Run.StepsMeet step UpsertsReturn (start priceObservation) history →
      ∀ before call rest, history = before ++ .promote call :: rest →
        Aggregated ((before ++ [.promote call]).foldl step (start priceObservation)) := by
  intro hclaim
  have hprice := hclaim .empty lateSale (fun _ _ => rfl) upsertsReturn_lateSale
    (lateSale.take 3) sampleCall [] rfl (sampleKey 7) ⟨rfl, rfl⟩
  revert hprice
  decide

/-- An own sale, and a scraped one of another product after it was promoted. -/
def apartSales : List Event :=
  [.sync ⟨"1", "app", "a"⟩ (sampleSale 100), .promote sampleCall,
    .sync ⟨"1", "app", "a"⟩ (sampleSale 100), .scrape "s" sampleScraped, .promote sampleCall]

theorem undisturbed_apartSales : Run.StepsMeet step Undisturbed (start .empty) apartSales := by
  refine ⟨?_, fun key => ?_, ?_, trivial, fun key => ?_, trivial⟩
  · intro stored hnone
    cases hnone
  · have hpending : ∀ sale ∈ ownSales ((apartSales.take 1).foldl step (start .empty)).staging,
        sale.promotedToObs = false := by decide
    exact Or.inr (Or.inl ⟨rfl, fun sale hsale => hpending sale (List.mem_of_mem_filter hsale)⟩)
  · intro stored hstored
    cases hstored
    exact Or.inl ⟨rfl, fun _ => rfl⟩
  · have hown : ∀ sale ∈ ownSales ((apartSales.take 4).foldl step (start .empty)).staging,
        sale.promotedToObs = true ∧ sale.observationKey = sampleKey 7 := by decide
    have hscraped : ∀ sale ∈ scrapedSales ((apartSales.take 4).foldl step (start .empty)).staging,
        sale.promotedToObs = false ∧ sale.observationKey = sampleKey 8 := by decide
    by_cases hkey : key = sampleKey 7
    · refine Or.inl ⟨fun sale hsale => (hown sale (List.mem_of_mem_filter hsale)).1, ?_⟩
      intro sale hsale
      obtain ⟨hmem, hsame⟩ := List.mem_filter.mp hsale
      have hother := (hscraped sale hmem).2.symm.trans ((of_decide_eq_true hsame).trans hkey)
      exact absurd hother (by decide)
    · refine Or.inr (Or.inr ⟨?_, ?_⟩)
      · refine List.filter_eq_nil_iff.mpr fun sale hsale hsame => hkey ?_
        rw [← of_decide_eq_true hsame]
        exact (hown sale hsale).2
      · exact fun sale hsale => (hscraped sale (List.mem_of_mem_filter hsale)).1

theorem aggregated_apartSales :
    Aggregated ((apartSales.take 2).foldl step (start .empty)) ∧
      Aggregated (apartSales.foldl step (start .empty)) := by
  have hupserts : Run.StepsMeet step UpsertsReturn (start .empty) apartSales := by
    refine ⟨trivial, ⟨?_, ?_⟩, trivial, trivial, ⟨?_, ?_⟩, trivial⟩ <;>
      unfold UpsertsSucceed <;> decide
  have hall := aggregated_of_undisturbed (fun _ _ => rfl) hupserts undisturbed_apartSales
  exact ⟨hall (apartSales.take 1) sampleCall (apartSales.drop 2) rfl,
    hall (apartSales.take 4) sampleCall [] rfl⟩

end AutoMana.Ebay.SoldHistory
