import AutoMana.OpenTcg.Upsert
import AutoMana.Staging.Locality

/-!
# What a load books

A load upserts the batches of its feed one after the other. It commits when every batch
does, and what it books is what it found booked and what one of its batches has chosen.
Two Chinese codes are one language, and a feed may list a SKU twice, so two rows of a
batch may clash; and of the cards that share an id each batch chooses one.
-/

namespace AutoMana.OpenTcg

open Relational Pricing
open Staging (productLookup)

/-! ## A run over batches -/

section Run

variable {load : Load} {batches : List (List PriceRow)} {row : PriceRow} {card : CardVersionId}
  {state next : LoadState}

/-- The batches commit when each of them fits and has no clash. -/
theorem exists_run_iff (hready : Ready load state.tables)
    (hcoded : ∀ batch ∈ batches, ∀ row ∈ batch, Coded row) :
    (∃ next, batches.foldlM (upsertOpentcgPriceBatch load) state = some next) ↔
      ∀ batch ∈ batches, Fits load batch ∧ NoClash load batch := by
  induction batches generalizing state with
  | nil =>
    refine iff_of_true ⟨state, rfl⟩ fun _ hnone => ?_
    exact (List.not_mem_nil hnone).elim
  | cons batch rest ih =>
    have hbatch := hcoded batch List.mem_cons_self
    have hrest : ∀ other ∈ rest, ∀ row ∈ other, Coded row :=
      fun other hother => hcoded other (List.mem_cons_of_mem _ hother)
    simp only [List.foldlM_cons, Option.bind_eq_bind, Option.bind_eq_some_iff]
    rw [List.forall_mem_cons, ← exists_upsert_iff hready hbatch]
    constructor
    · intro hrun
      obtain ⟨next, middle, hmiddle, hnext⟩ := hrun
      exact ⟨⟨middle, hmiddle⟩,
        (ih (ready_of_upsert hready hbatch hmiddle) hrest).mp ⟨next, hnext⟩⟩
    · intro hcommits
      obtain ⟨⟨middle, hmiddle⟩, hothers⟩ := hcommits
      obtain ⟨next, hnext⟩ := (ih (ready_of_upsert hready hbatch hmiddle) hrest).mpr hothers
      exact ⟨next, middle, hmiddle, hnext⟩

/-- A card is booked after the batches if it was before, or one of them has chosen it. -/
theorem booked_iff_of_run (hready : Ready load state.tables)
    (hcoded : ∀ batch ∈ batches, ∀ row ∈ batch, Coded row)
    (hrun : batches.foldlM (upsertOpentcgPriceBatch load) state = some next)
    (hcarries : Carries load.reference card row.tcgplayerId) :
    Booked load next.tables row card ↔ Booked load state.tables row card ∨
      ∃ numbered ∈ batches.zipIdx state.batches, Chooses load numbered.2 numbered.1 row card := by
  induction batches generalizing state with
  | nil =>
    rw [List.foldlM_nil, Option.pure_def, Option.some.injEq] at hrun
    simp only [hrun, List.zipIdx_nil, List.not_mem_nil, false_and, exists_false, or_false]
  | cons batch rest ih =>
    have hbatch := hcoded batch List.mem_cons_self
    have hrest : ∀ other ∈ rest, ∀ row ∈ other, Coded row :=
      fun other hother => hcoded other (List.mem_cons_of_mem _ hother)
    rw [List.foldlM_cons, Option.bind_eq_bind, Option.bind_eq_some_iff] at hrun
    obtain ⟨middle, hmiddle, hnext⟩ := hrun
    obtain ⟨-, hbatches, -⟩ := upsert_cases hmiddle
    rw [ih (ready_of_upsert hready hbatch hmiddle) hrest hnext, hbatches,
      booked_iff_of_upsert hready hbatch hmiddle hcarries, List.zipIdx_cons, or_assoc]
    simp only [List.mem_cons, exists_eq_or_imp]

end Run

/-! ## The batches of a feed -/

variable {load : Load} {allSkus : List (Nat × List Json)} {tables : Tables}

/-- The items of a feed. -/
def rowsOf (load : Load) (allSkus : List (Nat × List Json)) : List PriceRow :=
  ((allSkus.flatMap Prod.snd).filterMap (priceRow? load.parsers)).reduceOption

/-- The batches of a feed. -/
def batchesOf (load : Load) (allSkus : List (Nat × List Json)) : List (List PriceRow) :=
  batches load.batchSize [] (rowsOf load allSkus)

/-- Every SKU has known codes and a price. -/
def WellFormed (load : Load) (allSkus : List (Nat × List Json)) : Prop :=
  ∀ sku ∈ allSkus.flatMap Prod.snd, ∃ row, priceRow? load.parsers sku = some (some row)

theorem mem_rowsOf {row : PriceRow} : row ∈ rowsOf load allSkus ↔
    ∃ sku ∈ allSkus.flatMap Prod.snd, priceRow? load.parsers sku = some (some row) := by
  rw [rowsOf, List.reduceOption_mem_iff, List.mem_filterMap]

theorem coded_of_mem_rowsOf {row : PriceRow} (hrow : row ∈ rowsOf load allSkus) : Coded row := by
  obtain ⟨sku, -, hsku⟩ := mem_rowsOf.mp hrow
  exact coded_of_priceRow? hsku

/-- A load that reads every SKU is a run over the batches of its feed. -/
theorem loadOpentcgPrices_eq_of_read
    (hread : ∀ sku ∈ allSkus.flatMap Prod.snd, (priceRow? load.parsers sku).isSome)
    (tables : Tables) :
    loadOpentcgPrices load allSkus tables =
      ((batchesOf load allSkus).foldlM (upsertOpentcgPriceBatch load) ⟨tables, 0, 0⟩).map
        fun state => (state.tables, state.totalCount) := by
  have hloop : (allSkus.flatMap Prod.snd).foldlM (loadSku load) (⟨tables, 0, 0⟩, []) =
      (rowsOf load allSkus).foldlM (pushItem load.batchSize (upsertOpentcgPriceBatch load))
        (⟨tables, 0, 0⟩, []) := by
    rw [loadSku, foldlM_readItem, mapM_eq_filterMap hread, Option.bind_some, rowsOf]
  simp only [loadOpentcgPrices, hloop, Option.bind_eq_bind, Option.pure_def]
  rw [batchesOf, ← bind_emitRest_pushItem, Option.map_eq_bind, Option.bind_assoc]
  rfl

theorem loadOpentcgPrices_eq (hfeed : WellFormed load allSkus) (tables : Tables) :
    loadOpentcgPrices load allSkus tables =
      ((batchesOf load allSkus).foldlM (upsertOpentcgPriceBatch load) ⟨tables, 0, 0⟩).map
        fun state => (state.tables, state.totalCount) := by
  refine loadOpentcgPrices_eq_of_read ?_ tables
  intro sku hsku
  obtain ⟨row, hrow⟩ := hfeed sku hsku
  exact Option.isSome_of_eq_some hrow

/-- A load that commits has read every SKU and has committed its batches. -/
theorem run_of_load {next : Tables} {loaded : Nat}
    (hload : loadOpentcgPrices load allSkus tables = some (next, loaded)) :
    ∃ state, (batchesOf load allSkus).foldlM (upsertOpentcgPriceBatch load) ⟨tables, 0, 0⟩ =
      some state ∧ state.tables = next := by
  have hread : ∀ sku ∈ allSkus.flatMap Prod.snd, (priceRow? load.parsers sku).isSome := by
    simp only [loadOpentcgPrices, Option.bind_eq_bind, Option.bind_eq_some_iff] at hload
    obtain ⟨looped, hlooped, -⟩ := hload
    rw [loadSku, foldlM_readItem, Option.bind_eq_some_iff] at hlooped
    obtain ⟨found, hfound, -⟩ := hlooped
    exact isSome_of_mapM hfound
  rw [loadOpentcgPrices_eq_of_read hread, Option.map_eq_some_iff] at hload
  obtain ⟨state, hstate, hsame⟩ := hload
  exact ⟨state, hstate, congrArg Prod.fst hsame⟩

/-! ## The load -/

/-- The load succeeds, and books every card that has the id of a SKU. -/
def LoadsAndBooks (load : Load) (allSkus : List (Nat × List Json)) (tables : Tables) : Prop :=
  ∃ next loaded, loadOpentcgPrices load allSkus tables = some (next, loaded) ∧
    ∀ row ∈ rowsOf load allSkus, ∀ card, Carries load.reference card row.tcgplayerId →
      Booked load next row card

/-- The SKUs fit their columns, do not clash in a batch, and reach each of their cards. -/
structure Bookable (load : Load) (allSkus : List (Nat × List Json)) (tables : Tables) : Prop where
  fits : Fits load (rowsOf load allSkus)
  noClash : ∀ batch ∈ batchesOf load allSkus, NoClash load batch
  reached : ∀ row ∈ rowsOf load allSkus, ∀ card, Carries load.reference card row.tcgplayerId →
    Booked load tables row card ∨
      ∃ numbered ∈ (batchesOf load allSkus).zipIdx, Chooses load numbered.2 numbered.1 row card

/-- A load of known codes and prices succeeds and books its SKUs exactly when they are
bookable. -/
theorem loadsAndBooks_iff (hready : Ready load tables) (hfeed : WellFormed load allSkus) :
    LoadsAndBooks load allSkus tables ↔ Bookable load allSkus tables := by
  have hrows : ∀ row, row ∈ rowsOf load allSkus ↔
      ∃ batch ∈ batchesOf load allSkus, row ∈ batch := fun _ => mem_batches_iff
  have hcoded : ∀ batch ∈ batchesOf load allSkus, ∀ row ∈ batch, Coded row :=
    fun batch hbatch row hrow => coded_of_mem_rowsOf ((hrows row).mpr ⟨batch, hbatch, hrow⟩)
  have hstart : Ready load (LoadState.mk tables 0 0).tables := hready
  rw [LoadsAndBooks, loadOpentcgPrices_eq hfeed]
  simp only [Option.map_eq_some_iff, Prod.mk.injEq]
  constructor
  · intro hloads
    obtain ⟨next, loaded, ⟨state, hrun, rfl, rfl⟩, hbooks⟩ := hloads
    have hcommits := (exists_run_iff hstart hcoded).mp ⟨state, hrun⟩
    refine ⟨?_, fun batch hbatch => (hcommits batch hbatch).2, ?_⟩
    · intro row hrow
      obtain ⟨batch, hbatch, hmem⟩ := (hrows row).mp hrow
      exact (hcommits batch hbatch).1 row hmem
    · intro row hrow card hcarries
      exact (booked_iff_of_run hstart hcoded hrun hcarries).mp (hbooks row hrow card hcarries)
  · intro hbookable
    have hcommits : ∀ batch ∈ batchesOf load allSkus, Fits load batch ∧ NoClash load batch := by
      intro batch hbatch
      refine ⟨?_, hbookable.noClash batch hbatch⟩
      exact fun row hrow => hbookable.fits row ((hrows row).mpr ⟨batch, hbatch, hrow⟩)
    obtain ⟨state, hrun⟩ := (exists_run_iff hstart hcoded).mpr hcommits
    refine ⟨state.tables, state.totalCount, ⟨state, hrun, rfl, rfl⟩, ?_⟩
    intro row hrow card hcarries
    exact (booked_iff_of_run hstart hcoded hrun hcarries).mpr
      (hbookable.reached row hrow card hcarries)

/-! ## Chinese SKUs -/

/-- One card with an id, and nothing else. -/
def sampleReference (cards : List CardVersionId) (hcards : cards.Nodup) : Reference where
  cardIdentifierRef := ⟨[(1, "scryfall_id"), (4, "tcgplayer_id")], by decide⟩
  identifierName_unique := by decide
  cardExternalIdentifier := ⟨cards.map fun card => ((card, 4), "8001"), by
    rw [List.map_map]
    exact hcards.map fun _ _ hsame => congrArg Prod.fst hsame⟩
  cardFinished := ⟨[(1, "NONFOIL"), (2, "FOIL"), (3, "ETCHED")], by decide⟩
  finish_seeded := by decide
  cardCondition := ⟨[(1, "NM"), (2, "LP"), (3, "MP"), (4, "HP"), (5, "DMG")], by decide⟩
  condition_seeded := by decide
  languageRef := ⟨[(1, "en"), (2, "fr"), (3, "de"), (4, "es"), (5, "it"), (6, "pt"), (7, "jp"),
    (8, "ko"), (9, "ru"), (10, "zh")], by decide⟩
  language_seeded := by decide
  sourceId := 1
  priceTypeId := 1
  dataProviderId := 5

def sampleLoad (cards : List CardVersionId) (hcards : cards.Nodup) : Load where
  parsers := {
    toStr
      | .str text => text
      | _ => "None"
    roundCents
      | .number units 2 => .cents units
      | _ => .invalid }
  supply := Staging.sampleSupply
  reference := sampleReference cards hcards
  batchSize := 2000
  tsDate := 20000
  now := 0
  resolved := fun _ records => records
  resolved_perm := fun _ records => List.Perm.refl records

def sampleTables : Tables := ⟨⟨.empty, List.nodup_nil, .empty, List.nodup_nil⟩, .empty⟩

/-- A priced SKU of the id. -/
def sampleSku (lng : String) : Json := .dict [
  ("product_id", .str "8001"),
  ("var", .str "N"),
  ("cnd", .str "NM"),
  ("lng", .str lng),
  ("mkt", .number 125 2)]

theorem ready_sampleTables (cards : List CardVersionId) (hcards : cards.Nodup) :
    Ready (sampleLoad cards hcards) sampleTables where
  fresh := ⟨fun _ _ => rfl, fun _ _ => rfl⟩
  productId_new := by
    intro card _ id sourceProduct hget
    cases hget
  observed := by
    intro key hkey
    cases hkey

theorem loadsAndBooks_one_sku :
    Ready (sampleLoad [7] (List.nodup_singleton 7)) sampleTables ∧
    WellFormed (sampleLoad [7] (List.nodup_singleton 7)) [(1, [sampleSku "ZHS"])] ∧
    LoadsAndBooks (sampleLoad [7] (List.nodup_singleton 7)) [(1, [sampleSku "ZHS"])]
      sampleTables := by
  have hready := ready_sampleTables [7] (List.nodup_singleton 7)
  have hfeed : WellFormed (sampleLoad [7] (List.nodup_singleton 7)) [(1, [sampleSku "ZHS"])] := by
    intro sku hsku
    obtain rfl := List.mem_singleton.mp hsku
    exact ⟨_, rfl⟩
  refine ⟨hready, hfeed, (loadsAndBooks_iff hready hfeed).mpr ⟨?_, ?_, ?_⟩⟩
  · intro row hrow _
    obtain rfl := List.mem_singleton.mp hrow
    rfl
  · intro batch hbatch
    obtain rfl := List.mem_singleton.mp hbatch
    exact List.pairwise_singleton _ _
  · intro row hrow card hcarries
    refine Or.inr ⟨_, List.mem_singleton_self _, row, hrow, ⟨rfl, rfl⟩, ?_⟩
    obtain rfl := List.mem_singleton.mp hrow
    obtain ⟨refId, -, hvalue⟩ := hcarries
    have hstored := List.mem_singleton.mp ((Table.mem_rows_iff _ _ _).mpr hvalue)
    obtain ⟨rfl, -⟩ := Prod.mk.inj (Prod.mk.inj hstored).1
    rfl

/-- The two Chinese SKUs of one printing fail the load. -/
theorem chinese_skus_fail_the_load :
    ¬ LoadsAndBooks (sampleLoad [7] (List.nodup_singleton 7))
      [(1, [sampleSku "ZHS", sampleSku "ZHT"])] sampleTables := by
  intro hloads
  obtain ⟨next, loaded, hload, -⟩ := hloads
  have hnone : (loadOpentcgPrices (sampleLoad [7] (List.nodup_singleton 7))
      [(1, [sampleSku "ZHS", sampleSku "ZHT"])] sampleTables).isNone := by
    decide +kernel
  rw [hload] at hnone
  cases hnone

/-- Of two cards that share the id, the first gets no product. -/
example : (loadOpentcgPrices (sampleLoad [7, 8] (by decide)) [(1, [sampleSku "EN"])]
    sampleTables).map (fun next => (productLookup next.1.products 1 7,
      productLookup next.1.products 1 8)) = some ([], [(8, 73)]) := by
  decide +kernel

end AutoMana.OpenTcg
