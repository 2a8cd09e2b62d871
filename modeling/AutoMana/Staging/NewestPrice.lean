import AutoMana.Staging.Promotion

/-!
# Newest non-null wins

A price observation should carry, per column, the newest non-null value of all
rows promoted under its key. A batch keeps one whole row of each key, and the
stored `scraped_at` moves with it even where its column is null; so a value is
lost when a newer row with a null in its column comes with it or came before it.
-/

namespace AutoMana.Staging

open Relational Pricing

/-- The tables, with every row staged so far and every row promoted so far. -/
structure PromotionHistory where
  tables : StagingTables
  staged : List StagedPrice
  promoted : List StagedPrice

/-- `loadBatch` is a batch of `load_staging_prices_batched`: what it stages and
promotes commits or rolls back together. -/
inductive PromotionAction where
  | stage (rows : List StagedPrice)
  | promote (window : Window) (failed : Bool)
  | loadBatch (rows : List StagedPrice) (window : Window) (failed : Bool)

/-- One thing that happens to the staging table: rows arrive from elsewhere, the
procedure is called, or a loader batch runs. -/
inductive PromotionEvent where
  | stage (rows : List StagedPrice)
  | loadPrices (batchDays : ℕ+) (failed : Window → Bool)
  | loadBatch (rows : List StagedPrice) (window : Window) (failed : Bool)

namespace PromotionHistory

def stage (rows : List StagedPrice) (history : PromotionHistory) : PromotionHistory where
  tables := { history.tables with
    stgPriceObservation := history.tables.stgPriceObservation.insert rows }
  staged := history.staged ++ rows
  promoted := history.promoted

variable (locale : TextLocale) (dims : PromotionDims)

/-- The promotion of a window does not commit. -/
def rollsBack (history : PromotionHistory) (window : Window) (failed : Bool) : Bool :=
  failed || promotionRaises locale dims window history.tables.stgPriceObservation

/-- The promotion of a window commits. -/
def drain (window : Window) (history : PromotionHistory) : PromotionHistory where
  tables := promote locale dims window history.tables
  staged := history.staged
  promoted := history.promoted ++ promotedBy window history.tables.stgPriceObservation

def step (history : PromotionHistory) : PromotionAction → PromotionHistory
  | .stage rows => history.stage rows
  | .promote window failed =>
    if history.rollsBack locale dims window failed then history
    else history.drain locale dims window
  | .loadBatch rows window failed =>
    if (history.stage rows).rollsBack locale dims window failed then history
    else (history.stage rows).drain locale dims window

/-- The actions an event performs. -/
def actions (history : PromotionHistory) : PromotionEvent → List PromotionAction
  | .stage rows => [.stage rows]
  | .loadPrices batchDays failed =>
    (promotionWindows batchDays history.tables).map fun window => .promote window (failed window)
  | .loadBatch rows window failed => [.loadBatch rows window failed]

/-- The stored value of one column. -/
def storedCents (history : PromotionHistory) (key : ObservationKey) (column : PriceColumn) :
    Option Int :=
  (history.tables.priceObservation.get? key).bind fun stored =>
    (stored.prices.get column).map Int.ofNat

/-- Every staged row is still pending or was promoted. Per key and column, the
stored value is the newest non-null one among the rows promoted, and the stored
`scraped_at` is the newest of them. -/
structure NewestNonNullWins (history : PromotionHistory) : Prop where
  conserved :
    history.staged.Perm (history.tables.stgPriceObservation.values ++ history.promoted)
  absent : ∀ key, history.tables.priceObservation.get? key = none →
    ∀ column, readings locale dims key column history.promoted = []
  stamped : ∀ key stored, history.tables.priceObservation.get? key = some stored →
    ∀ column, IsNewestStamp (readings locale dims key column history.promoted) stored.scrapedAt
  newest : ∀ key column, IsNewestValue (readings locale dims key column history.promoted)
    (history.storedCents key column)

/-- No two rows of a key were scraped at the same time. -/
def DistinctScrapes (rows : List StagedPrice) : Prop :=
  ∀ key, ∀ left ∈ rowsOf locale dims key rows, ∀ right ∈ rowsOf locale dims key rows,
    left.scrapedAt = right.scrapedAt → left = right

/-- No value of a batch is the newest of its key and column while a newer row of
the key, null in that column, is promoted with it or was promoted before. -/
def NoValueShadowed (window : Window) (history : PromotionHistory) : Prop :=
  ∀ key column, Unshadowed (readings locale dims key column history.promoted)
    (history.storedCents key column)
    (readings locale dims key column (promotedBy window history.tables.stgPriceObservation))

/-- The promotion of the action rolls back, or it shadows no value. -/
def ShadowsNothing (history : PromotionHistory) : PromotionAction → Prop
  | .stage _ => True
  | .promote window failed =>
    history.rollsBack locale dims window failed = true ∨
      NoValueShadowed locale dims window history
  | .loadBatch rows window failed =>
    (history.stage rows).rollsBack locale dims window failed = true ∨
      NoValueShadowed locale dims window (history.stage rows)

variable {locale dims}

theorem DistinctScrapes.of_subset {rows larger : List StagedPrice}
    (hdistinct : DistinctScrapes locale dims larger) (hsubset : rows ⊆ larger) :
    DistinctScrapes locale dims rows := by
  intro key left hleft right hright
  rw [rowsOf, List.mem_filter] at hleft hright
  exact hdistinct key left (List.mem_filter.mpr ⟨hsubset hleft.1, hleft.2⟩)
    right (List.mem_filter.mpr ⟨hsubset hright.1, hright.2⟩)

theorem DistinctScrapes.readings {rows : List StagedPrice}
    (hdistinct : DistinctScrapes locale dims rows) (key : ObservationKey)
    (column : PriceColumn) : DistinctStamps (readings locale dims key column rows) := by
  intro left hleft right hright hstamp
  obtain ⟨leftRow, hleftRow, rfl⟩ := List.mem_map.mp hleft
  obtain ⟨rightRow, hrightRow, rfl⟩ := List.mem_map.mp hright
  rw [hdistinct key leftRow hleftRow rightRow hrightRow hstamp]

theorem NewestNonNullWins.stage {history : PromotionHistory}
    (hwins : NewestNonNullWins locale dims history) (rows : List StagedPrice) :
    NewestNonNullWins locale dims (history.stage rows) where
  conserved := by
    simp only [PromotionHistory.stage, SerialTable.values_insert]
    refine (hwins.conserved.append_right rows).trans ?_
    simp only [List.append_assoc]
    exact List.perm_append_comm.append_left _
  absent := hwins.absent
  stamped := hwins.stamped
  newest := hwins.newest

section Drain

variable {history : PromotionHistory} {window : Window}

theorem drain_get? (key : ObservationKey) :
    (history.drain locale dims window).tables.priceObservation.get? key =
      Table.reconcile mergeObservation (history.tables.priceObservation.get? key)
        ((excluded locale dims window history.tables.stgPriceObservation).get? key) :=
  Table.get?_upsert _ _ _ _

theorem drain_readings (key : ObservationKey) (column : PriceColumn) :
    readings locale dims key column (history.drain locale dims window).promoted =
      readings locale dims key column history.promoted ++
        readings locale dims key column
          (promotedBy window history.tables.stgPriceObservation) :=
  readings_append _ _ _ _ _ _

/-- Draining moves rows from pending to promoted. -/
theorem drain_conserved (window : Window) (hwins : NewestNonNullWins locale dims history) :
    (history.drain locale dims window).staged.Perm
      ((history.drain locale dims window).tables.stgPriceObservation.values ++
        (history.drain locale dims window).promoted) := by
  have hsplit := values_perm_promote locale dims window history.tables
  refine hwins.conserved.trans ((hsplit.append_right _).trans ?_)
  simp only [List.append_assoc, drain]
  exact List.perm_append_comm.append_left _

theorem drain_absent (hwins : NewestNonNullWins locale dims history)
    (hok : promotionRaises locale dims window history.tables.stgPriceObservation = false)
    {key : ObservationKey}
    (hnone : (history.drain locale dims window).tables.priceObservation.get? key = none)
    (column : PriceColumn) :
    readings locale dims key column (history.drain locale dims window).promoted = [] := by
  rw [drain_get?] at hnone
  rw [drain_readings]
  cases hstored : history.tables.priceObservation.get? key with
  | some stored =>
      rw [hstored] at hnone
      cases hnew : (excluded locale dims window history.tables.stgPriceObservation).get? key <;>
        simp [hnew, Table.reconcile] at hnone
  | none =>
      rcases excluded_cases locale dims hok key with ⟨-, hempty⟩ | ⟨new, hnew, -⟩
      · rw [hwins.absent key hstored, hempty, List.append_nil]
      · simp [hstored, hnew, Table.reconcile] at hnone

theorem drain_stamped (hwins : NewestNonNullWins locale dims history)
    (hok : promotionRaises locale dims window history.tables.stgPriceObservation = false)
    {key : ObservationKey} {next : Observation}
    (hnext : (history.drain locale dims window).tables.priceObservation.get? key = some next)
    (column : PriceColumn) :
    IsNewestStamp (readings locale dims key column (history.drain locale dims window).promoted)
      next.scrapedAt := by
  rw [drain_get?] at hnext
  rw [drain_readings]
  rcases excluded_cases locale dims hok key with ⟨hnone, hempty⟩ | ⟨new, hnew, hnewest⟩
  · rw [hnone] at hnext
    rw [hempty, List.append_nil]
    exact hwins.stamped key next (by simpa [Table.reconcile] using hnext) column
  · obtain ⟨hmem, hmax⟩ := hnewest column
    cases hstored : history.tables.priceObservation.get? key with
    | none =>
        rw [hstored, hnew] at hnext
        obtain rfl : new = next := by simpa [Table.reconcile] using hnext
        rw [hwins.absent key hstored, List.nil_append]
        exact ⟨⟨_, hmem, rfl⟩, hmax⟩
    | some stored =>
        rw [hstored, hnew] at hnext
        obtain rfl : mergeObservation stored new = next := by
          simpa [Table.reconcile] using hnext
        exact isNewestStamp_max (hwins.stamped key stored hstored column) hmem hmax

/-- Draining keeps one column of one key right exactly when it shadows no value
there. -/
theorem drain_newest_iff (hwins : NewestNonNullWins locale dims history)
    (hok : promotionRaises locale dims window history.tables.stgPriceObservation = false)
    (hdistinct : DistinctScrapes locale dims (history.drain locale dims window).promoted)
    (key : ObservationKey) (column : PriceColumn) :
    IsNewestValue (readings locale dims key column (history.drain locale dims window).promoted)
        ((history.drain locale dims window).storedCents key column) ↔
      Unshadowed (readings locale dims key column history.promoted)
        (history.storedCents key column)
        (readings locale dims key column
          (promotedBy window history.tables.stgPriceObservation)) := by
  have hstamps := hdistinct.readings key column
  rw [drain_readings] at hstamps ⊢
  simp only [storedCents, drain_get?]
  rcases excluded_cases locale dims hok key with ⟨hnone, hempty⟩ | ⟨new, hnew, hnewest⟩
  · -- the batch has no row of the key
    rw [hnone, hempty, List.append_nil]
    exact iff_of_true (hwins.newest key column) (by simp [Unshadowed])
  · obtain ⟨hmem, hmax⟩ := hnewest column
    cases hstored : history.tables.priceObservation.get? key with
    | none =>
        -- no stored row means that nothing was promoted yet
        rw [hwins.absent key hstored] at hstamps ⊢
        rw [hnew]
        exact isNewestValue_first_iff hstamps hmem hmax
    | some stored =>
        have hvalue := hwins.newest key column
        simp only [storedCents, hstored] at hvalue
        simp only [hnew, Table.reconcile, Option.bind_some, mergeObservation,
          Prices.get_combine, map_absorbValue]
        exact isNewestValue_absorb_iff hstamps (hwins.stamped key stored hstored column) hvalue
          hmem hmax

theorem newestNonNullWins_drain_iff (hwins : NewestNonNullWins locale dims history)
    (hok : promotionRaises locale dims window history.tables.stgPriceObservation = false)
    (hdistinct : DistinctScrapes locale dims (history.drain locale dims window).staged) :
    NewestNonNullWins locale dims (history.drain locale dims window) ↔
      NoValueShadowed locale dims window history := by
  have hconserved := drain_conserved window hwins
  have hpromoted := hdistinct.of_subset fun row hrow =>
    hconserved.mem_iff.mpr (List.mem_append_right _ hrow)
  constructor
  · intro hnext key column
    exact (drain_newest_iff hwins hok hpromoted key column).mp (hnext.newest key column)
  · intro hunshadowed
    exact {
      conserved := hconserved
      absent := fun key hnone column => drain_absent hwins hok hnone column
      stamped := fun key next hnext column => drain_stamped hwins hok hnext column
      newest := fun key column =>
        (drain_newest_iff hwins hok hpromoted key column).mpr (hunshadowed key column) }

end Drain

theorem promotionRaises_of_not_rollsBack {history : PromotionHistory} {window : Window}
    {failed : Bool} (hcommit : ¬ history.rollsBack locale dims window failed = true) :
    promotionRaises locale dims window history.tables.stgPriceObservation = false := by
  simp only [rollsBack, Bool.or_eq_true, not_or, Bool.not_eq_true] at hcommit
  exact hcommit.2

/-- One action keeps every price right exactly when it shadows no value. -/
theorem newestNonNullWins_step_iff (history : PromotionHistory) (action : PromotionAction)
    (hwins : NewestNonNullWins locale dims history)
    (hdistinct : DistinctScrapes locale dims (history.step locale dims action).staged) :
    NewestNonNullWins locale dims (history.step locale dims action) ↔
      ShadowsNothing locale dims history action := by
  cases action with
  | stage rows => exact iff_of_true (hwins.stage rows) trivial
  | promote window failed =>
      by_cases hback : history.rollsBack locale dims window failed = true
      · simp only [step, hback, if_true, ShadowsNothing, true_or]
        exact iff_of_true hwins trivial
      · simp only [step, hback, Bool.false_eq_true, if_false, ShadowsNothing, false_or]
          at hdistinct ⊢
        exact newestNonNullWins_drain_iff hwins (promotionRaises_of_not_rollsBack hback)
          hdistinct
  | loadBatch rows window failed =>
      by_cases hback : (history.stage rows).rollsBack locale dims window failed = true
      · simp only [step, hback, if_true, ShadowsNothing, true_or]
        exact iff_of_true hwins trivial
      · simp only [step, hback, Bool.false_eq_true, if_false, ShadowsNothing, false_or]
          at hdistinct ⊢
        exact newestNonNullWins_drain_iff (hwins.stage rows)
          (promotionRaises_of_not_rollsBack hback) hdistinct

theorem staged_subset_step (history : PromotionHistory) (action : PromotionAction) :
    history.staged ⊆ (history.step locale dims action).staged := by
  cases action with
  | stage rows => exact List.subset_append_left _ _
  | promote window failed =>
      simp only [step]
      split_ifs
      · exact List.Subset.refl _
      · exact List.Subset.refl _
  | loadBatch rows window failed =>
      simp only [step]
      split_ifs
      · exact List.Subset.refl _
      · exact List.subset_append_left _ _

/-- Nothing staged, nothing promoted. -/
def empty : PromotionHistory where
  tables := ⟨.empty, .empty⟩
  staged := []
  promoted := []

theorem newestNonNullWins_empty : NewestNonNullWins locale dims empty where
  conserved := .refl _
  absent := fun _ _ _ => rfl
  stamped := fun key stored hstored => by simp [empty] at hstored
  newest := fun _ _ => Or.inl ⟨rfl, by simp [empty, readings, rowsOf]⟩

/-- When no price is left pending, the newest non-null value of all staged rows
has won. -/
theorem NewestNonNullWins.of_drained {history : PromotionHistory}
    (hwins : NewestNonNullWins locale dims history)
    (hdrained : ∀ row ∈ history.tables.stgPriceObservation.values, row.prices.allNull)
    (key : ObservationKey) (column : PriceColumn) :
    IsNewestValue (readings locale dims key column history.staged)
      (history.storedCents key column) := by
  have hmem (row : StagedPrice) := hwins.conserved.mem_iff (a := row)
  apply (hwins.newest key column).of_valued
  · intro reading hreading
    simp only [readings, rowsOf, List.mem_map, List.mem_filter] at hreading ⊢
    obtain ⟨row, ⟨hrow, hkey⟩, rfl⟩ := hreading
    exact ⟨row, ⟨(hmem row).mpr (List.mem_append_right _ hrow), hkey⟩, rfl⟩
  · intro reading hreading hsome
    simp only [readings, rowsOf, List.mem_map, List.mem_filter] at hreading ⊢
    obtain ⟨row, ⟨hrow, hkey⟩, rfl⟩ := hreading
    refine ⟨row, ⟨?_, hkey⟩, rfl⟩
    -- a pending row has no price in any column
    rcases List.mem_append.mp ((hmem row).mp hrow) with hpending | hpromoted
    · have hnull := hdrained row hpending
      cases column <;>
        simp_all [Prices.allNull, Prices.get, Option.isNone_iff_eq_none]
    · exact hpromoted

variable (locale dims)

/-- The actions of a sequence of events, each call reading the staging table it
finds. -/
def run (events : List PromotionEvent) : List PromotionAction :=
  Run.plan (step locale dims) (fun history event => history.actions event) empty events

/-- The state after a sequence of events. -/
def final (events : List PromotionEvent) : PromotionHistory :=
  (run locale dims events).foldl (step locale dims) empty

/-- The committed tables after an event. -/
def afterEvent (tables : StagingTables) : PromotionEvent → StagingTables
  | .stage rows => { tables with stgPriceObservation := tables.stgPriceObservation.insert rows }
  | .loadPrices batchDays failed =>
    loadPricesFromStagedBatched locale dims batchDays failed tables
  | .loadBatch rows window failed =>
    let staged := { tables with stgPriceObservation := tables.stgPriceObservation.insert rows }
    if failed || promotionRaises locale dims window staged.stgPriceObservation then tables
    else promote locale dims window staged

theorem step_promote_tables (history : PromotionHistory) (failed : Window → Bool)
    (window : Window) :
    (history.step locale dims (.promote window (failed window))).tables =
      promoteBatch locale dims failed window history.tables :=
  apply_ite PromotionHistory.tables _ _ _

theorem foldl_promote_tables (failed : Window → Bool) (windows : List Window)
    (history : PromotionHistory) :
    ((windows.map fun window => PromotionAction.promote window (failed window)).foldl
        (step locale dims) history).tables =
      windows.foldl (fun tables window => promoteBatch locale dims failed window tables)
        history.tables := by
  rw [List.foldl_map]
  exact (List.foldl_hom PromotionHistory.tables fun history window =>
    (step_promote_tables locale dims history failed window).symm).symm

/-- The bookkeeping follows the events: the run ends in the tables they leave. -/
theorem final_tables (events : List PromotionEvent) :
    (final locale dims events).tables =
      events.foldl (afterEvent locale dims) ⟨.empty, .empty⟩ := by
  apply Run.project_foldl_plan
  intro history event
  cases event with
  | stage rows => rfl
  | loadPrices batchDays failed =>
      exact (foldl_promote_tables _ _ _ _ _).trans
        (loadPricesFromStagedBatched_eq_foldl _ _ _ _ _).symm
  | loadBatch rows window failed => exact apply_ite PromotionHistory.tables _ _ _

end PromotionHistory

open PromotionHistory

/-- Whatever arrives in whatever order and is promoted in whatever batches, with
distinct scrapes per key: the newest non-null value wins in every state of the
run exactly when no promotion of the run shadows a value; and once no price is
left pending, it is the newest non-null value of all rows ever staged. -/
theorem newest_non_null_wins_iff (locale : TextLocale) (dims : PromotionDims)
    (events : List PromotionEvent)
    (hdistinct : DistinctScrapes locale dims (final locale dims events).staged) :
    ((∀ history ∈ Run.visited (step locale dims) empty (run locale dims events),
        NewestNonNullWins locale dims history) ↔
      Run.StepsMeet (step locale dims) (ShadowsNothing locale dims) empty
        (run locale dims events)) ∧
    (Run.StepsMeet (step locale dims) (ShadowsNothing locale dims) empty
        (run locale dims events) →
      (∀ row ∈ (final locale dims events).tables.stgPriceObservation.values,
        row.prices.allNull) →
      ∀ key column, IsNewestValue
        (readings locale dims key column (final locale dims events).staged)
        ((final locale dims events).storedCents key column)) := by
  have hvisited : ∀ history ∈ Run.visited (step locale dims) empty (run locale dims events),
      DistinctScrapes locale dims history.staged :=
    Run.forall_visited_of_final
      (fun history action hlater => hlater.of_subset (staged_subset_step history action)) hdistinct
  have hiff := Run.forall_visited_iff_of_premise newestNonNullWins_step_iff
    newestNonNullWins_empty hvisited
  refine ⟨hiff, ?_⟩
  intro hmeet hdrained key column
  have hfinal := hiff.mpr hmeet _ (Run.foldl_mem_visited _ _ _)
  exact hfinal.of_drained hdrained key column

/-- Dimensions in which every row has a key. -/
def sampleDims : PromotionDims where
  priceTypeId := 1
  finishFoilId := some 2
  finishDefaultId := some 1
  conditionId := some 1
  languageId := some 1
  nameFinishSuffix := .empty

/-- A non-foil price of one product, staged with its scrape time. -/
def stagedAt (scrapedAt : Timestamp) (low average : Option Int) : StagedPrice where
  tsDate := 0
  gameCode := "mtg"
  printId := 1
  prices := ⟨low, average, none⟩
  isFoil := false
  sourceCode := "mtgstocks"
  dataProviderId := 1
  value := none
  productId := 1
  cardVersionId := some 1
  sourceProductId := 1
  setAbbr := none
  collectorNumber := none
  cardName := none
  scryfallId := none
  tcgId := none
  scrapedAt := scrapedAt

/-- One scrape, promoted. -/
def oneScrape : List PromotionEvent :=
  [.stage [stagedAt 1 (some 1000) none], .loadPrices 10 fun _ => false]

theorem readings_oneScrape {key : ObservationKey} {column : PriceColumn}
    {reading : Reading Timestamp Int}
    (hreading : reading ∈ readings .posix sampleDims key column [stagedAt 1 (some 1000) none]) :
    reading.stamp = 1 := by
  obtain ⟨row, hrow, rfl⟩ := List.mem_map.mp hreading
  rw [List.mem_singleton.mp (List.mem_of_mem_filter hrow)]
  rfl

theorem oneScrape_shadowsNothing :
    Run.StepsMeet (step .posix sampleDims) (ShadowsNothing .posix sampleDims) empty
      (run .posix sampleDims oneScrape) := by
  have hwindows : promotionWindows 10 (empty.stage [stagedAt 1 (some 1000) none]).tables =
      [⟨0, 0, le_refl 0⟩] := by decide +kernel
  have hrun : run .posix sampleDims oneScrape =
      [.stage [stagedAt 1 (some 1000) none], .promote ⟨0, 0, le_refl 0⟩ false] :=
    congrArg (fun windows => PromotionAction.stage _ :: (windows.map fun window =>
      PromotionAction.promote window false) ++ []) hwindows
  rw [hrun]
  refine ⟨trivial, Or.inr ?_, trivial⟩
  intro key column valued hvalued _ hshadow
  obtain ⟨newer, hnewer, hlt⟩ := hshadow
  -- every reading is of the one scrape
  rw [readings_oneScrape hvalued, readings_oneScrape hnewer] at hlt
  exact absurd hlt (lt_irrefl 1)

theorem newest_non_null_wins_one_scrape :
    IsNewestValue
      (readings .posix sampleDims ⟨0, 1, 1, 1, 1, 1, 1⟩ .listLowCents
        (final .posix sampleDims oneScrape).staged)
      ((final .posix sampleDims oneScrape).storedCents ⟨0, 1, 1, 1, 1, 1, 1⟩ .listLowCents) := by
  have hstaged : (final .posix sampleDims oneScrape).staged = [stagedAt 1 (some 1000) none] := by
    decide +kernel
  have hdistinct :
      DistinctScrapes .posix sampleDims (final .posix sampleDims oneScrape).staged := by
    intro key left hleft right hright _
    rw [hstaged] at hleft hright
    rw [List.mem_singleton.mp (List.mem_of_mem_filter hleft),
      List.mem_singleton.mp (List.mem_of_mem_filter hright)]
  exact (newest_non_null_wins_iff .posix sampleDims oneScrape hdistinct).2
    oneScrape_shadowsNothing (by decide +kernel) _ _

/-- Two scrapes of one day, the second without a low price, promoted together. -/
def twoScrapes : List PromotionEvent :=
  [.stage [stagedAt 1 (some 1000) (some 2000), stagedAt 2 none (some 3000)],
    .loadPrices 10 fun _ => false]

theorem twoScrapes_distinct :
    DistinctScrapes .posix sampleDims (final .posix sampleDims twoScrapes).staged := by
  have hstaged : (final .posix sampleDims twoScrapes).staged =
      [stagedAt 1 (some 1000) (some 2000), stagedAt 2 none (some 3000)] := by decide +kernel
  intro key left hleft right hright hscraped
  rw [hstaged] at hleft hright
  have hleftMem := List.mem_of_mem_filter hleft
  have hrightMem := List.mem_of_mem_filter hright
  revert hscraped
  simp only [List.mem_cons, List.not_mem_nil, or_false] at hleftMem hrightMem
  rcases hleftMem with rfl | rfl <;> rcases hrightMem with rfl | rfl <;> simp [stagedAt]

/-- The low price of the first scrape is the newest non-null one, and is lost. -/
theorem shadowed_low_price_is_lost :
    ¬ ∀ (locale : TextLocale) (dims : PromotionDims) (events : List PromotionEvent),
      DistinctScrapes locale dims (final locale dims events).staged →
      (final locale dims events).tables.stgPriceObservation.values = [] →
      ∀ key column, IsNewestValue
        (readings locale dims key column (final locale dims events).staged)
        ((final locale dims events).storedCents key column) := by
  intro hwins
  have hlow := hwins .posix sampleDims twoScrapes twoScrapes_distinct (by decide +kernel)
    ⟨0, 1, 1, 1, 1, 1, 1⟩ .listLowCents
  have hstored : (final .posix sampleDims twoScrapes).storedCents ⟨0, 1, 1, 1, 1, 1, 1⟩
      .listLowCents = none := by decide +kernel
  have hscraped : ⟨1, some 1000⟩ ∈ readings .posix sampleDims ⟨0, 1, 1, 1, 1, 1, 1⟩
      .listLowCents (final .posix sampleDims twoScrapes).staged := by decide +kernel
  rw [hstored] at hlow
  rcases hlow with ⟨-, hnone⟩ | ⟨newest, ⟨-, hsome, -⟩, hnull⟩
  · exact absurd (hnone _ hscraped) (by simp)
  · simp [hnull] at hsome

end AutoMana.Staging
