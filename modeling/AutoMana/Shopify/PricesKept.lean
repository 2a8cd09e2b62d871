import AutoMana.Relational.Batches
import AutoMana.Shopify.OwnShop
import Mathlib.Data.List.Find

/-!
# Which prices are kept

The staging table is truncated when the insert did not raise, also of rows that were not selected,
that have no record, or whose record met a stored observation. So a price is kept when it was
stored before, or when nothing stands between its row and the insert.
-/

namespace AutoMana.Shopify

open Relational Pricing Staging

/-- The key of the observation of a row. -/
def PromoteCall.keyOf (call : PromoteCall) (tsDate : Int) (grade : Nat × Nat)
    (sourceProductId : SourceProductId) : ObservationKey where
  tsDate := tsDate
  sourceProductId := sourceProductId
  priceTypeId := call.reference.sellTypeId
  finishId := grade.2
  conditionId := grade.1
  languageId := call.reference.languageId
  dataProviderId := call.reference.dataProviderId

/-- A price at least as new as the row's is held for the card, under the row's date, source,
condition and finish. -/
def Held (call : PromoteCall) (tables : ShopifyTables) (row : StagingRow) (card : CardVersionId) :
    Prop :=
  ∃ tsDate sourceId grade sourceProductId observation, row.date = some tsDate ∧
    row.sourceId = some sourceId ∧ call.grade? row = some grade ∧
    IsProductOf tables.products sourceProductId card sourceId ∧
    tables.priceObservation.get? (call.keyOf tsDate grade sourceProductId) = some observation ∧
    ∀ scrapedAt ∈ row.scrapedAt, scrapedAt ≤ observation.scrapedAt

/-- The row's price is held for every card with its `tcg_id`, and there is one. -/
def Promoted (call : PromoteCall) (tables : ShopifyTables) (row : StagingRow) : Prop :=
  ∃ tcgId, row.tcgId = some tcgId ∧
    (∃ card, call.reference.tcgplayerId.get? card = some tcgId) ∧
    ∀ card, call.reference.tcgplayerId.get? card = some tcgId → Held call tables row card

/-- When the call returns, every row is still staged or promoted. -/
def KeepsPrices (call : PromoteCall) (tables : ShopifyTables) : Prop :=
  ∀ orders next, promoteObservations call orders tables = some next →
    ∀ row ∈ tables.staging, row ∈ next.staging ∨ Promoted call next row

/-! ## When it raises -/

/-- The table takes no record of the row. -/
def Rejected (row : StagingRow) : Prop :=
  row.date = none ∨ row.scrapedAt = none ∨ centsColumn? (row.price.map priceToCents) = none

/-- The row gives a record. -/
def Sends (call : PromoteCall) (tables : ShopifyTables) (row : StagingRow) : Prop :=
  row ∈ selected tables.staging ∧ ∃ tcgId card sourceId, row.tcgId = some tcgId ∧
    call.reference.tcgplayerId.get? card = some tcgId ∧ (call.grade? row).isSome ∧
    StagedUnder (selected tables.staging) tcgId sourceId

/-- The insert raises. -/
def Raises (call : PromoteCall) (tables : ShopifyTables) : Prop :=
  ∃ row, Sends call tables row ∧ (call.insertRaises = true ∨ Rejected row)

/-! ## What is inserted -/

/-- The two rows have the same key in the same source. -/
def PromoteCall.sameSlot (call : PromoteCall) (row other : StagingRow) : Bool :=
  other.tcgId = row.tcgId && other.date = row.date && call.grade? other = call.grade? row

/-- Nothing stands between the row and the insert: the card is the only one with the `tcg_id`, the
source is the only one under which it is staged, its key is not stored, and the first row with the
key is at least as new. -/
structure Inserts (call : PromoteCall) (tables : ShopifyTables) (row : StagingRow) (tcgId : Int)
    (card : CardVersionId) (sourceId : SourceId) (tsDate : Int) (grade : Nat × Nat) : Prop where
  source : row.sourceId = some sourceId
  date : row.date = some tsDate
  graded : call.grade? row = some grade
  staged : StagedUnder (selected tables.staging) tcgId sourceId
  onlyCard : ∀ other, call.reference.tcgplayerId.get? other = some tcgId → other = card
  onlySource : ∀ other, StagedUnder (selected tables.staging) tcgId other → other = sourceId
  unstored : ∀ sourceProductId, IsProductOf tables.products sourceProductId card sourceId →
    tables.priceObservation.get? (call.keyOf tsDate grade sourceProductId) = none
  first : ∀ first, (selected tables.staging).find? (call.sameSlot row) = some first →
    ∀ scrapedAt ∈ row.scrapedAt, ∀ later ∈ first.scrapedAt, scrapedAt ≤ later

/-- Every staged row has a card, and for each of its cards the price is held already or will be
inserted. -/
def AllBooked (call : PromoteCall) (tables : ShopifyTables) : Prop :=
  ∀ row ∈ tables.staging, ∃ tcgId, row.tcgId = some tcgId ∧
    (∃ card, call.reference.tcgplayerId.get? card = some tcgId) ∧
    ∀ card, call.reference.tcgplayerId.get? card = some tcgId → Held call tables row card ∨
      ∃ sourceId tsDate grade, Inserts call tables row tcgId card sourceId tsDate grade

/-- The ids still to be drawn are new: none is taken, and none has a source product. -/
structure FreshProducts (supply : IdSupply) (products : Products) : Prop
    extends IdSupply.Fresh supply products where
  unsold : ∀ card, card ∉ products.mtgCardProducts.values →
    ∀ sourceProductId product, products.sourceProduct.get? sourceProductId = some product →
      product.productId ≠ supply.productId card

/-- What a row's record is inserted as. -/
def PromoteCall.entry? (call : PromoteCall) (bookings : Bookings) (row : StagingRow) :
    Option (ObservationKey × Observation) :=
  (call.record? bookings row).bind ObsRecord.observation?

section Records

variable {call : PromoteCall} {tables : ShopifyTables} {orders : Orders} {bookings : Bookings}
  {row : StagingRow}

theorem sends_of_record {record : ObsRecord} (hbooked : Booked call orders tables bookings)
    (hrow : row ∈ selected tables.staging) (hrecord : call.record? bookings row = some record) :
    Sends call tables row := by
  obtain ⟨tcgId, card, sourceProductId, grade, hid, hfound, hget, hgrade, -⟩ :=
    record?_eq_some_iff.mp hrecord
  obtain ⟨sourceId, hstaged, -⟩ := hbooked.staged hfound hget
  rw [hbooked.tcgToCv] at hfound
  exact ⟨hrow, tcgId, card, sourceId, hid, (carries_of_findCardVersions hfound).1,
    Option.isSome_of_eq_some hgrade, hstaged⟩

theorem record_of_sends (hbooked : Booked call orders tables bookings)
    (hsends : Sends call tables row) : ∃ record, call.record? bookings row = some record := by
  obtain ⟨hrow, tcgId, card, sourceId, hid, hcarries, hgrade, hstaged⟩ := hsends
  have hwanted : tcgId ∈ tcgIds (selected tables.staging) :=
    mem_tcgIds.mpr ⟨hstaged.1, row, hrow, hid⟩
  obtain ⟨found, hfound⟩ := exists_findCardVersions orders hcarries hwanted
  rw [← hbooked.tcgToCv] at hfound
  obtain ⟨sourceProductId, hget⟩ := hbooked.booked hfound hstaged
  obtain ⟨grade, hgrade⟩ := Option.isSome_iff_exists.mp hgrade
  exact ⟨_, record?_eq_some_iff.mpr
    ⟨tcgId, found, sourceProductId, grade, hid, hfound, hget, hgrade, rfl⟩⟩

/-- A record is inserted under the key of its row, with the time of its row. -/
theorem observation?_recordOf {sourceProductId : SourceProductId} {grade : Nat × Nat}
    {entry : ObservationKey × Observation} :
    (call.recordOf row sourceProductId grade).observation? = some entry →
      ∃ tsDate, row.date = some tsDate ∧ row.scrapedAt = some entry.2.scrapedAt ∧
        entry.1 = call.keyOf tsDate grade sourceProductId := by
  simp only [ObsRecord.observation?, PromoteCall.recordOf, Option.bind_eq_bind,
    Option.bind_eq_some_iff, Option.pure_def, Option.some.injEq]
  rintro ⟨tsDate, hdate, cents, -, scrapedAt, hscraped, rfl⟩
  exact ⟨tsDate, hdate, hscraped, rfl⟩

theorem observation?_eq_none_iff {sourceProductId : SourceProductId} {grade : Nat × Nat} :
    (call.recordOf row sourceProductId grade).observation? = none ↔ Rejected row := by
  rw [ObsRecord.observation?, Rejected]
  dsimp only [PromoteCall.recordOf]
  cases row.date with
  | none => exact iff_of_true rfl (Or.inl rfl)
  | some tsDate =>
    cases centsColumn? (row.price.map priceToCents) with
    | none => exact iff_of_true rfl (Or.inr (Or.inr rfl))
    | some cents =>
      cases row.scrapedAt with
      | none => exact iff_of_true rfl (Or.inr (Or.inl rfl))
      | some scrapedAt => exact iff_of_false nofun (by simp)

end Records

/-! ## The call -/

section Calls

variable {call : PromoteCall} {tables : ShopifyTables}

theorem bulkCopyObservations_spec {records : List ObsRecord}
    (table : Table ObservationKey Observation)
    (hinsert : records ≠ [] → call.insertRaises = false)
    (haccepted : ∀ record ∈ records, record.observation?.isSome) :
    ∃ inserted, call.bulkCopyObservations records table = some inserted ∧
      ∀ key, inserted.get? key =
        (table.insertMissing (records.filterMap ObsRecord.observation?)).get? key := by
  rw [PromoteCall.bulkCopyObservations]
  split_ifs with hempty hraises
  · subst hempty
    exact ⟨table, rfl, fun key => (Table.get?_insertMissing_of_notMem (by simp) table).symm⟩
  · rw [hinsert hempty] at hraises
    cases hraises
  · rw [mapM_eq_filterMap haccepted]
    exact ⟨_, rfl, fun _ => rfl⟩

theorem bulkCopyObservations_eq_none {records : List ObsRecord} {record : ObsRecord}
    (table : Table ObservationKey Observation) (hmem : record ∈ records)
    (hraises : call.insertRaises = true ∨ record.observation? = none) :
    call.bulkCopyObservations records table = none := by
  rw [PromoteCall.bulkCopyObservations, if_neg (List.ne_nil_of_mem hmem)]
  split_ifs with hinsert
  · rfl
  · rw [Option.map_eq_none_iff, Option.eq_none_iff_forall_ne_some]
    intro entries hentries
    have haccepted := isSome_of_mapM hentries record hmem
    rw [hraises.resolve_left hinsert] at haccepted
    cases haccepted

theorem promoteObservations_of_raises (hfresh : call.supply.Fresh tables.products)
    (hraises : Raises call tables) (orders : Orders) :
    promoteObservations call orders tables = none := by
  obtain ⟨row, hsends, hreason⟩ := hraises
  obtain ⟨bookings, hbookings, hbooked⟩ := exists_bookings hfresh orders
  obtain ⟨record, hrecord⟩ := record_of_sends hbooked hsends
  obtain ⟨_, _, _, _, -, -, -, -, rfl⟩ := record?_eq_some_iff.mp hrecord
  have hnone := bulkCopyObservations_eq_none tables.priceObservation
    (List.mem_filterMap.mpr ⟨row, hsends.1, hrecord⟩)
    (hreason.imp_right observation?_eq_none_iff.mpr)
  rw [promoteObservations, if_neg (List.ne_nil_of_mem hsends.1), hbookings]
  simp only [Option.bind_eq_bind, Option.bind_some, hnone, Option.bind_none]

/-- A call that has rows and does not raise truncates the staging table, and each key that was not
stored gets the first entry. -/
theorem promoteObservations_spec (hfresh : call.supply.Fresh tables.products)
    (hrows : selected tables.staging ≠ []) (hraises : ¬ Raises call tables) (orders : Orders) :
    ∃ bookings next, Booked call orders tables bookings ∧
      promoteObservations call orders tables = some next ∧ next.staging = [] ∧
      next.products = bookings.products ∧
      ∀ key, next.priceObservation.get? key = (tables.priceObservation.get? key).or
        ((((selected tables.staging).find? fun row =>
          (call.entry? bookings row).any (·.1 = key)).bind (call.entry? bookings)).map
            Prod.snd) := by
  obtain ⟨bookings, hbookings, hbooked⟩ := exists_bookings hfresh orders
  have hinsert : (selected tables.staging).filterMap (call.record? bookings) ≠ [] →
      call.insertRaises = false := by
    intro hrecords
    obtain ⟨record, hmem⟩ := List.exists_mem_of_ne_nil _ hrecords
    obtain ⟨row, hrow, hrecord⟩ := List.mem_filterMap.mp hmem
    rw [Bool.eq_false_iff]
    intro hinsert
    exact hraises ⟨row, sends_of_record hbooked hrow hrecord, Or.inl hinsert⟩
  have haccepted : ∀ record ∈ (selected tables.staging).filterMap (call.record? bookings),
      record.observation?.isSome := by
    intro record hmem
    obtain ⟨row, hrow, hrecord⟩ := List.mem_filterMap.mp hmem
    have hsends := sends_of_record hbooked hrow hrecord
    obtain ⟨_, _, _, _, -, -, -, -, rfl⟩ := record?_eq_some_iff.mp hrecord
    rw [Option.isSome_iff_ne_none, ne_eq, observation?_eq_none_iff]
    exact fun hrejected => hraises ⟨row, hsends, Or.inr hrejected⟩
  obtain ⟨inserted, hcopied, hget⟩ :=
    bulkCopyObservations_spec tables.priceObservation hinsert haccepted
  -- every observation belongs to a source product
  have hreferenced : ∀ row ∈ inserted.rows,
      (bookings.products.sourceProduct.get? row.1.sourceProductId).isSome := by
    intro row hrow
    rw [Table.mem_rows_iff, hget] at hrow
    rcases Table.stored_or_mem_of_insertMissing hrow with hstored | hnew
    · obtain ⟨product, hproduct⟩ := Option.isSome_iff_exists.mp
        (tables.referenced row ((Table.mem_rows_iff _ _ _).mpr hstored))
      exact Option.isSome_of_eq_some (hbooked.grows.sourceProduct.get?_kept hproduct)
    · obtain ⟨record, hmem, hentry⟩ := List.mem_filterMap.mp hnew
      obtain ⟨sent, -, hrecord⟩ := List.mem_filterMap.mp hmem
      obtain ⟨tcgId, card, sourceProductId, grade, -, hfound, hbook, -, rfl⟩ :=
        record?_eq_some_iff.mp hrecord
      obtain ⟨_, -, -, hkey⟩ := observation?_recordOf hentry
      obtain ⟨sourceId, -, productId, hlookup⟩ := hbooked.staged hfound hbook
      rw [hkey]
      exact Option.isSome_of_eq_some (mem_productLookup.mp hlookup).2
  refine ⟨bookings, ⟨[], bookings.products, inserted, hreferenced⟩, hbooked, ?_, rfl, rfl, ?_⟩
  · rw [promoteObservations, if_neg hrows, hbookings]
    simp only [Option.bind_eq_bind, Option.bind_some, hcopied]
    rw [dif_pos hreferenced]
  · intro key
    have hentries : ((selected tables.staging).filterMap (call.record? bookings)).filterMap
        ObsRecord.observation? = (selected tables.staging).filterMap (call.entry? bookings) :=
      List.filterMap_filterMap
    rw [hget, Table.get?_insertMissing, hentries, List.head?_filter, List.find?_filterMap]

end Calls

/-! ## What is held -/

/-- A stored source product is not that of a card that got its product only later. -/
theorem isProductOf_of_stored {supply : IdSupply} {products next : Products}
    {sourceProductId : SourceProductId} {card : CardVersionId} {sourceId : SourceId}
    (hfresh : FreshProducts supply products) (hgrows : ProductsGrow supply products next)
    (hproduct : IsProductOf next sourceProductId card sourceId)
    (hstored : (products.sourceProduct.get? sourceProductId).isSome) :
    IsProductOf products sourceProductId card sourceId := by
  obtain ⟨productId, hlookup⟩ := hproduct
  obtain ⟨hcard, hsource⟩ := mem_productLookup.mp hlookup
  obtain ⟨product, hproduct⟩ := Option.isSome_iff_exists.mp hstored
  obtain rfl := Option.some.inj
    ((hgrows.sourceProduct.get?_kept hproduct).symm.trans hsource)
  refine ⟨productId, mem_productLookup.mpr ⟨?_, hproduct⟩⟩
  by_cases hregistered : card ∈ products.mtgCardProducts.values
  · obtain ⟨stored, hget⟩ := Table.mem_values_iff.mp hregistered
    have hkept := hgrows.mtgCardProducts.get?_kept hget
    obtain rfl := Table.key_unique next.mtgCardProducts_unique hcard hkept
    exact hget
  · rcases hgrows.mtgCardProducts.drawn _ ((Table.mem_rows_iff _ _ _).mpr hcard) with hold | hdrawn
    · exact (Table.mem_rows_iff _ _ _).mp hold
    · exact absurd hdrawn (hfresh.unsold card hregistered sourceProductId _ hproduct)

section Slots

variable {call : PromoteCall} {tables : ShopifyTables} {orders : Orders} {bookings : Bookings}
  {row : StagingRow} {tcgId tsDate : Int} {card : CardVersionId} {grade : Nat × Nat}
  {sourceProductId : SourceProductId}

/-- The rows whose entries have the key of a row are those with the same slot. -/
theorem entry_key_eq_sameSlot (hbooked : Booked call orders tables bookings)
    (hraises : ¬ Raises call tables) (hid : row.tcgId = some tcgId)
    (hdate : row.date = some tsDate) (hgrade : call.grade? row = some grade)
    (hfound : bookings.tcgToCv.get? tcgId = some card)
    (hbook : bookings.cvToSp.get? card = some sourceProductId) {other : StagingRow}
    (hother : other ∈ selected tables.staging) :
    (call.entry? bookings other).any (·.1 = call.keyOf tsDate grade sourceProductId) =
      call.sameSlot row other := by
  rw [Bool.eq_iff_iff, Option.any_eq_true]
  simp only [PromoteCall.sameSlot, Bool.and_eq_true, decide_eq_true_eq, hid, hdate, hgrade,
    PromoteCall.entry?, Option.bind_eq_some_iff]
  constructor
  · rintro ⟨entry, ⟨record, hrecord, hentry⟩, hkey⟩
    obtain ⟨otherId, otherCard, otherProduct, otherGrade, hid', hfound', hbook', hgrade', rfl⟩ :=
      record?_eq_some_iff.mp hrecord
    obtain ⟨otherDate, hdate', -, hkey'⟩ := observation?_recordOf hentry
    rw [hkey', ObservationKey.mk.injEq] at hkey
    obtain ⟨rfl, rfl, -, hfinish, hcondition, -, -⟩ := hkey
    obtain ⟨_, -, hproduct⟩ := hbooked.staged hfound hbook
    obtain ⟨_, -, hproduct'⟩ := hbooked.staged hfound' hbook'
    obtain rfl := (hproduct.eq hproduct').1
    -- the cards are the same, and so are their `tcg_id`s
    rw [hbooked.tcgToCv] at hfound hfound'
    have hcarries := (carries_of_findCardVersions hfound).1
    have hcarries' := (carries_of_findCardVersions hfound').1
    rw [hid', ← hcarries', hcarries]
    exact ⟨⟨rfl, hdate'⟩, hgrade'.trans (congrArg some (Prod.ext hcondition hfinish))⟩
  · rintro ⟨⟨hid', hdate'⟩, hgrade'⟩
    have hrecord : call.record? bookings other =
        some (call.recordOf other sourceProductId grade) :=
      record?_eq_some_iff.mpr
        ⟨tcgId, card, sourceProductId, grade, hid', hfound, hbook, hgrade', rfl⟩
    cases hentry : (call.recordOf other sourceProductId grade).observation? with
    | none =>
      have hsends := sends_of_record hbooked hother hrecord
      exact absurd ⟨other, hsends, Or.inr (observation?_eq_none_iff.mp hentry)⟩ hraises
    | some entry =>
      obtain ⟨otherDate, hdate'', -, hkey⟩ := observation?_recordOf hentry
      obtain rfl := Option.some.inj (hdate'.symm.trans hdate'')
      exact ⟨entry, ⟨_, hrecord, hentry⟩, hkey⟩

/-- An entry has the time of its row. -/
theorem scrapedAt_of_entry {entry : ObservationKey × Observation}
    (hentry : call.entry? bookings row = some entry) :
    row.scrapedAt = some entry.2.scrapedAt := by
  obtain ⟨record, hrecord, hobservation⟩ := Option.bind_eq_some_iff.mp hentry
  obtain ⟨_, _, _, _, -, -, -, -, rfl⟩ := record?_eq_some_iff.mp hrecord
  obtain ⟨_, -, hscraped, -⟩ := observation?_recordOf hobservation
  exact hscraped

end Slots

section Kept

variable {call : PromoteCall} {tables next : ShopifyTables} {orders : Orders}
  {bookings : Bookings} {row : StagingRow} {tcgId : Int} {card : CardVersionId}

/-- What a call that returned has booked and stored. -/
structure Returned (call : PromoteCall) (orders : Orders) (tables : ShopifyTables)
    (bookings : Bookings) (next : ShopifyTables) : Prop where
  booked : Booked call orders tables bookings
  products : next.products = bookings.products
  stored : ∀ key, next.priceObservation.get? key = (tables.priceObservation.get? key).or
    ((((selected tables.staging).find? fun row =>
      (call.entry? bookings row).any (·.1 = key)).bind (call.entry? bookings)).map Prod.snd)

theorem Held.of_returned (hreturned : Returned call orders tables bookings next)
    (hheld : Held call tables row card) : Held call next row card := by
  obtain ⟨tsDate, sourceId, grade, sourceProductId, observation, hdate, hsource, hgrade, hproduct,
    hstored, hnew⟩ := hheld
  refine ⟨tsDate, sourceId, grade, sourceProductId, observation, hdate, hsource, hgrade, ?_, ?_,
    hnew⟩
  · rw [hreturned.products]
    exact hproduct.of_grows hreturned.booked.grows
  · rw [hreturned.stored, hstored, Option.some_or]

/-- The key of a product that is new or has no observation is not stored. -/
theorem unstored_key (hfresh : FreshProducts call.supply tables.products)
    (hbooked : Booked call orders tables bookings) {sourceProductId : SourceProductId}
    {sourceId : SourceId} {tsDate : Int} {grade : Nat × Nat}
    (hproduct : IsProductOf bookings.products sourceProductId card sourceId)
    (hunstored : ∀ sourceProductId, IsProductOf tables.products sourceProductId card sourceId →
      tables.priceObservation.get? (call.keyOf tsDate grade sourceProductId) = none) :
    tables.priceObservation.get? (call.keyOf tsDate grade sourceProductId) = none := by
  cases hstored : tables.priceObservation.get? (call.keyOf tsDate grade sourceProductId) with
  | none => rfl
  | some observation =>
    have hsold := tables.referenced _ ((Table.mem_rows_iff _ _ _).mpr hstored)
    have hold := isProductOf_of_stored hfresh hbooked.grows hproduct hsold
    exact hstored.symm.trans (hunstored sourceProductId hold)

/-- When nothing stands between the row and the insert, its price is held. -/
theorem held_of_inserts (hfresh : FreshProducts call.supply tables.products)
    (hraises : ¬ Raises call tables) (hreturned : Returned call orders tables bookings next)
    (hrow : row ∈ selected tables.staging) (hid : row.tcgId = some tcgId)
    (hcarries : call.reference.tcgplayerId.get? card = some tcgId) {sourceId : SourceId}
    {tsDate : Int} {grade : Nat × Nat}
    (hinserts : Inserts call tables row tcgId card sourceId tsDate grade) :
    Held call next row card := by
  have hbooked := hreturned.booked
  -- the card is the one that is found, and it is booked under the row's source
  obtain ⟨found, hfound⟩ := exists_findCardVersions orders hcarries
    (mem_tcgIds.mpr ⟨hinserts.staged.1, row, hrow, hid⟩)
  obtain rfl := hinserts.onlyCard found (carries_of_findCardVersions hfound).1
  rw [← hbooked.tcgToCv] at hfound
  obtain ⟨sourceProductId, hbook⟩ := hbooked.booked hfound hinserts.staged
  obtain ⟨booked, hstaged, hproduct⟩ := hbooked.staged hfound hbook
  obtain rfl := hinserts.onlySource booked hstaged
  -- the row itself has the slot
  have hself : call.sameSlot row row := by simp [PromoteCall.sameSlot]
  obtain ⟨first, hfirst⟩ := Option.isSome_iff_exists.mp
    (List.find?_isSome.mpr ⟨row, hrow, hself⟩)
  have hentries := fun other hother => entry_key_eq_sameSlot hbooked hraises hid hinserts.date
    hinserts.graded hfound hbook (@id (other ∈ selected tables.staging) hother)
  have hslot := hentries first (List.mem_of_find?_eq_some hfirst)
  rw [List.find?_some hfirst, Option.any_eq_true] at hslot
  obtain ⟨entry, hentry, -⟩ := hslot
  refine ⟨tsDate, booked, grade, sourceProductId, entry.2, hinserts.date, hinserts.source,
    hinserts.graded, hreturned.products ▸ hproduct, ?_, ?_⟩
  · rw [hreturned.stored, unstored_key hfresh hbooked hproduct hinserts.unstored, Option.none_or,
      List.find?_congr hentries, hfirst, Option.bind_some, hentry, Option.map_some]
  · intro scrapedAt hscraped
    exact hinserts.first first hfirst scrapedAt hscraped _ (scrapedAt_of_entry hentry)

/-- The row's price is inserted for the card: the card is the one that is found, it is booked
under the row's source, and the first row with its slot is at least as new. -/
structure Inserted (call : PromoteCall) (tables : ShopifyTables) (bookings : Bookings)
    (row : StagingRow) (tcgId : Int) (card : CardVersionId) (sourceId : SourceId) (tsDate : Int)
    (grade : Nat × Nat) (sourceProductId : SourceProductId) : Prop where
  source : row.sourceId = some sourceId
  date : row.date = some tsDate
  graded : call.grade? row = some grade
  found : bookings.tcgToCv.get? tcgId = some card
  book : bookings.cvToSp.get? card = some sourceProductId
  staged : StagedUnder (selected tables.staging) tcgId sourceId
  product : IsProductOf bookings.products sourceProductId card sourceId
  unstored : tables.priceObservation.get? (call.keyOf tsDate grade sourceProductId) = none
  first : ∀ first, (selected tables.staging).find? (call.sameSlot row) = some first →
    ∀ scrapedAt ∈ row.scrapedAt, ∀ later ∈ first.scrapedAt, scrapedAt ≤ later

/-- A price that was not held before is inserted by the call. -/
theorem inserted_of_held (hfresh : FreshProducts call.supply tables.products)
    (hraises : ¬ Raises call tables) (hreturned : Returned call orders tables bookings next)
    (hid : row.tcgId = some tcgId) (hcarries : call.reference.tcgplayerId.get? card = some tcgId)
    (hheld : Held call next row card) (hunheld : ¬ Held call tables row card) :
    ∃ sourceId tsDate grade sourceProductId,
      Inserted call tables bookings row tcgId card sourceId tsDate grade sourceProductId := by
  obtain ⟨tsDate, sourceId, grade, sourceProductId, observation, hdate, hsource, hgrade, hproduct,
    hstored, hnew⟩ := hheld
  have hbooked := hreturned.booked
  rw [hreturned.products] at hproduct
  rw [hreturned.stored, Option.or_eq_some_iff] at hstored
  rcases hstored with hold | ⟨hunstored, hinserted⟩
  · -- what was stored was held
    have hsold := tables.referenced _ ((Table.mem_rows_iff _ _ _).mpr hold)
    have hproduct' := isProductOf_of_stored hfresh hbooked.grows hproduct hsold
    exact absurd ⟨tsDate, sourceId, grade, sourceProductId, observation, hdate, hsource, hgrade,
      hproduct', hold, hnew⟩ hunheld
  · obtain ⟨entry, hwritten, rfl⟩ := Option.map_eq_some_iff.mp hinserted
    obtain ⟨writer, hwriter, hentry⟩ := Option.bind_eq_some_iff.mp hwritten
    have hkey := List.find?_some hwriter
    rw [hentry, Option.any_some, decide_eq_true_eq] at hkey
    obtain ⟨record, hrecord, hobservation⟩ := Option.bind_eq_some_iff.mp hentry
    obtain ⟨otherId, otherCard, otherProduct, otherGrade, -, hfound, hbook, -, rfl⟩ :=
      record?_eq_some_iff.mp hrecord
    obtain ⟨_, -, -, hkey'⟩ := observation?_recordOf hobservation
    obtain rfl : otherProduct = sourceProductId :=
      congrArg ObservationKey.sourceProductId (hkey'.symm.trans hkey)
    obtain ⟨booked, hstaged, hbookedProduct⟩ := hbooked.staged hfound hbook
    obtain ⟨rfl, rfl⟩ := hbookedProduct.eq hproduct
    have hcarries' := hfound
    rw [hbooked.tcgToCv] at hcarries'
    obtain rfl := Option.some.inj
      ((carries_of_findCardVersions hcarries').1.symm.trans hcarries)
    refine ⟨booked, tsDate, grade, otherProduct, hsource, hdate, hgrade, hfound, hbook, hstaged,
      hproduct, hunstored, ?_⟩
    intro first hfirst scrapedAt hscraped later hlater
    rw [← List.find?_congr fun other hother => entry_key_eq_sameSlot hbooked hraises hid hdate
      hgrade hfound hbook hother, hwriter] at hfirst
    obtain rfl := Option.some.inj hfirst
    rw [scrapedAt_of_entry hentry] at hlater
    obtain rfl := Option.some.inj hlater
    exact hnew scrapedAt hscraped

end Kept

/-! ## Every price -/

section Prices

variable {call : PromoteCall} {tables : ShopifyTables}

/-- A call that does not raise has booked and stored, and truncates the staging table. -/
theorem exists_returned (hfresh : call.supply.Fresh tables.products)
    (hrows : selected tables.staging ≠ []) (hraises : ¬ Raises call tables) (orders : Orders) :
    ∃ bookings next, Returned call orders tables bookings next ∧
      promoteObservations call orders tables = some next ∧ next.staging = [] := by
  obtain ⟨bookings, next, hbooked, hcall, hstaging, hproducts, hstored⟩ :=
    promoteObservations_spec hfresh hrows hraises orders
  exact ⟨bookings, next, ⟨hbooked, hproducts, hstored⟩, hcall, hstaging⟩

theorem promoted_of_keepsPrices (hfresh : call.supply.Fresh tables.products)
    (hrows : selected tables.staging ≠ []) (hraises : ¬ Raises call tables)
    (hkeeps : KeepsPrices call tables) (orders : Orders) :
    ∃ bookings next, Returned call orders tables bookings next ∧
      ∀ row ∈ tables.staging, Promoted call next row := by
  obtain ⟨bookings, next, hreturned, hcall, hstaging⟩ :=
    exists_returned hfresh hrows hraises orders
  refine ⟨bookings, next, hreturned, fun row hrow => ?_⟩
  have hkept := hkeeps orders next hcall row hrow
  rw [hstaging] at hkept
  exact hkept.resolve_left List.not_mem_nil

/-- No price is dropped exactly when the call raises, selects no row, or every staged row has a
card and its price is held already or inserted for each of its cards. -/
theorem keepsPrices_iff (hfresh : FreshProducts call.supply tables.products) :
    KeepsPrices call tables ↔
      Raises call tables ∨ selected tables.staging = [] ∨ AllBooked call tables := by
  constructor
  · intro hkeeps
    by_cases hraises : Raises call tables
    · exact Or.inl hraises
    by_cases hrows : selected tables.staging = []
    · exact Or.inr (Or.inl hrows)
    have hpromoted := promoted_of_keepsPrices hfresh.toFresh hrows hraises hkeeps
    refine Or.inr (Or.inr fun row hrow => ?_)
    obtain ⟨_, _, -, hall⟩ := hpromoted ⟨.inOrder _, .inOrder _, .inOrder _⟩
    obtain ⟨tcgId, hid, hcarrier, -⟩ := hall row hrow
    refine ⟨tcgId, hid, hcarrier, fun card hcarries => ?_⟩
    by_cases hheld : Held call tables row card
    · exact Or.inl hheld
    -- whatever the orders are, the price is inserted
    have hinserted : ∀ orders, ∃ bookings, Booked call orders tables bookings ∧
        ∃ sourceId tsDate grade sourceProductId,
          Inserted call tables bookings row tcgId card sourceId tsDate grade sourceProductId := by
      intro orders
      obtain ⟨bookings, next, hreturned, hall⟩ := hpromoted orders
      obtain ⟨_, hid', -, hcards⟩ := hall row hrow
      obtain rfl := Option.some.inj (hid.symm.trans hid')
      exact ⟨bookings, hreturned.booked,
        inserted_of_held hfresh hraises hreturned hid hcarries (hcards card hcarries) hheld⟩
    obtain ⟨bookings, hbooked, sourceId, tsDate, grade, _, hrowInserted⟩ :=
      hinserted ⟨.inOrder _, .inOrder _, .inOrder _⟩
    have hwanted := (carries_of_findCardVersions (hbooked.tcgToCv ▸ hrowInserted.found)).2
    refine Or.inr ⟨sourceId, tsDate, grade, hrowInserted.source, hrowInserted.date,
      hrowInserted.graded, hrowInserted.staged, ?_, ?_, ?_, hrowInserted.first⟩
    · intro other hother
      -- another card with the `tcg_id` could be the one that is found
      obtain ⟨_, hbooked', _, _, _, _, hinserted'⟩ :=
        hinserted ⟨.lastly (tcgId, other), .inOrder _, .inOrder _⟩
      have hfound := hinserted'.found
      rw [hbooked'.tcgToCv, findCardVersions_lastly rfl hother hwanted] at hfound
      exact Option.some.inj hfound
    · intro other hother
      -- another source could be the one that is listed last
      obtain ⟨_, hbooked', _, _, _, _, hinserted'⟩ :=
        hinserted ⟨.inOrder _, .lastly other, .inOrder _⟩
      obtain ⟨_, hbook, hproduct⟩ := hbooked'.last hinserted'.found hother rfl
      obtain rfl := Option.some.inj (hinserted'.book.symm.trans hbook)
      obtain rfl := Option.some.inj (hrowInserted.source.symm.trans hinserted'.source)
      exact (hproduct.eq hinserted'.product).2
    · intro stored hstored
      rw [(hstored.of_grows hbooked.grows).unique hrowInserted.product]
      exact hrowInserted.unstored
  · rintro hcases orders next hcall row hrow
    by_cases hraises : Raises call tables
    · rw [promoteObservations_of_raises hfresh.toFresh hraises] at hcall
      cases hcall
    by_cases hrows : selected tables.staging = []
    · rw [promoteObservations, if_pos hrows] at hcall
      obtain rfl := Option.some.inj hcall
      exact Or.inl hrow
    obtain ⟨bookings, _, hreturned, hcall', -⟩ :=
      exists_returned hfresh.toFresh hrows hraises orders
    obtain rfl := Option.some.inj (hcall'.symm.trans hcall)
    obtain ⟨tcgId, hid, hcarrier, hcards⟩ :=
      (hcases.resolve_left hraises).resolve_left hrows row hrow
    refine Or.inr ⟨tcgId, hid, hcarrier, fun card hcarries => ?_⟩
    rcases hcards card hcarries with hheld | ⟨sourceId, tsDate, grade, hinserts⟩
    · exact hheld.of_returned hreturned
    · have hselected : row ∈ selected tables.staging :=
        List.mem_filter.mpr ⟨hrow, by rw [hid, hinserts.source]; rfl⟩
      exact held_of_inserts hfresh hraises hreturned hselected hid hcarries hinserts

end Prices

/-! ## Dropped prices -/

instance : DecidablePred Rejected := fun _ => inferInstanceAs (Decidable (_ ∨ _ ∨ _))

theorem not_raises {call : PromoteCall} {tables : ShopifyTables}
    (hinsert : call.insertRaises = false)
    (haccepted : ∀ row ∈ selected tables.staging, ¬ Rejected row) : ¬ Raises call tables := by
  rintro ⟨row, hsends, hraises | hrejected⟩
  · rw [hinsert] at hraises
    cases hraises
  · exact haccepted row hsends.1 hrejected

theorem freshProducts_noProducts : FreshProducts sampleSupply noProducts where
  toFresh := fresh_noProducts
  unsold := nofun

/-- The card of one price. -/
theorem keepsPrices_sample :
    KeepsPrices sampleCall (stagedTables [sampleRow (some 55) (some 1) 500 0]) ↔
      Raises sampleCall (stagedTables [sampleRow (some 55) (some 1) 500 0]) ∨
      selected (stagedTables [sampleRow (some 55) (some 1) 500 0]).staging = [] ∨
      AllBooked sampleCall (stagedTables [sampleRow (some 55) (some 1) 500 0]) :=
  keepsPrices_iff freshProducts_noProducts

/-- Nothing is held before the first call. -/
theorem not_held_stagedTables (call : PromoteCall) (staging : List StagingRow) (row : StagingRow)
    (card : CardVersionId) : ¬ Held call (stagedTables staging) row card := by
  rintro ⟨_, _, _, _, _, -, -, -, -, hstored, -⟩
  cases hstored

/-- When the first call keeps all prices, each is inserted for each of its cards. -/
theorem inserted_of_keepsPrices {call : PromoteCall} {staging : List StagingRow}
    (hsupply : call.supply = sampleSupply) (hinsert : call.insertRaises = false)
    (hrows : selected staging ≠ []) (haccepted : ∀ row ∈ selected staging, ¬ Rejected row)
    (hkeeps : KeepsPrices call (stagedTables staging)) :
    ∃ bookings, ∀ row ∈ staging, ∀ tcgId, row.tcgId = some tcgId →
      ∀ card, call.reference.tcgplayerId.get? card = some tcgId →
        ∃ sourceId tsDate grade sourceProductId, Inserted call (stagedTables staging) bookings
          row tcgId card sourceId tsDate grade sourceProductId := by
  have hraises := @not_raises call (stagedTables staging) hinsert haccepted
  have hfresh : FreshProducts call.supply (stagedTables staging).products :=
    hsupply ▸ freshProducts_noProducts
  obtain ⟨bookings, next, hreturned, hall⟩ := promoted_of_keepsPrices hfresh.toFresh hrows
    hraises hkeeps ⟨.inOrder _, .inOrder _, .inOrder _⟩
  refine ⟨bookings, fun row hrow tcgId hid card hcarries => ?_⟩
  obtain ⟨_, hid', -, hcards⟩ := hall row hrow
  obtain rfl := Option.some.inj (hid.symm.trans hid')
  exact inserted_of_held hfresh hraises hreturned hid hcarries (hcards card hcarries)
    (not_held_stagedTables call staging row card)

/-- The cards 7 and 8 have the `tcg_id` 55. -/
def twinCall : PromoteCall :=
  { sampleCall with
    reference := { sampleReference with tcgplayerId := ⟨[(7, 55), (8, 55)], by decide⟩ } }

/-- A row without a source is truncated with the others; only one of two cards gets the price; the
newer of two prices of one condition and finish is ignored. -/
theorem prices_are_dropped :
    ¬ KeepsPrices sampleCall
        (stagedTables [sampleRow (some 55) none 500 0, sampleRow (some 7) (some 1) 300 0]) ∧
      ¬ KeepsPrices twinCall (stagedTables [sampleRow (some 55) (some 1) 500 0]) ∧
      ¬ KeepsPrices sampleCall (stagedTables
        [sampleRow (some 55) (some 1) 500 0, sampleRow (some 55) (some 1) 600 9]) := by
  refine ⟨fun hkeeps => ?_, fun hkeeps => ?_, fun hkeeps => ?_⟩
  · obtain ⟨_, hall⟩ := inserted_of_keepsPrices rfl rfl (by decide) (by decide +kernel) hkeeps
    obtain ⟨_, _, _, _, hinserted⟩ := hall _ List.mem_cons_self 55 rfl 7 rfl
    cases hinserted.source
  · obtain ⟨_, hall⟩ := inserted_of_keepsPrices rfl rfl (by decide) (by decide +kernel) hkeeps
    obtain ⟨_, _, _, _, hfirst⟩ := hall _ List.mem_cons_self 55 rfl 7 rfl
    obtain ⟨_, _, _, _, hsecond⟩ := hall _ List.mem_cons_self 55 rfl 8 rfl
    cases hfirst.found.symm.trans hsecond.found
  · obtain ⟨_, hall⟩ := inserted_of_keepsPrices rfl rfl (by decide) (by decide +kernel) hkeeps
    obtain ⟨_, _, _, _, hinserted⟩ :=
      hall _ (List.mem_cons_of_mem _ List.mem_cons_self) 55 rfl 7 rfl
    have hle := hinserted.first (sampleRow (some 55) (some 1) 500 0) (by decide +kernel) 9 rfl 0 rfl
    exact absurd hle (by decide)

end AutoMana.Shopify
