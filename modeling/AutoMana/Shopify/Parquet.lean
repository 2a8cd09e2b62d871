import AutoMana.Relational.Collector
import AutoMana.Relational.Names
import AutoMana.Relational.Runs
import AutoMana.Shopify.ChainContext
import Mathlib.Data.List.Pairwise
import Mathlib.Data.List.Sort

/-!
# From the fetched pages to the parquet files

A fetch saves the pages of each collection of a market in the directory of the market's source.
Processing a market reads all pages of the directory, and appends their variants to the parquet
files of the market, one file for each product.
-/

namespace AutoMana.Shopify

open Relational

/-- A variant of a product. `updated_at` is in seconds. -/
structure Variant where
  title : Option String
  price : Option Rat
  updatedAt : Option Int
  deriving DecidableEq

/-- A product of a page, with what its description says about the card. -/
structure Product where
  id : Int
  variants : List Variant
  cardId : Option String
  tcgId : Option String
  deriving DecidableEq

/-- A row of a parquet file. `date` and `scraped_at` are days. -/
structure Row where
  productId : Int
  date : Option Int
  variation : Option String
  price : Option Rat
  scrapedAt : Int
  cardId : Option String
  tcgId : Option String
  deriving DecidableEq

/-- `["product_id", "date", "variation"]` -/
structure RowKey where
  productId : Int
  date : Option Int
  variation : Option String
  deriving DecidableEq

def Row.key (row : Row) : RowKey := ⟨row.productId, row.date, row.variation⟩

/-- `_df_from_item`, with the ids of the card. -/
def Product.rows (today : Int) (product : Product) : List Row :=
  product.variants.map fun variant =>
    ⟨product.id, variant.updatedAt.map (· / 86400), variant.title, variant.price, today,
      product.cardId, product.tcgId⟩

/-! ## Pages -/

/-- The path of a page. -/
structure PageKey where
  sourceId : Int
  handle : String
  page : Nat
  deriving DecidableEq

/-- `f"{source_id}_fetch"` -/
def PageKey.directory (key : PageKey) : String := toString key.sourceId ++ "_" ++ "fetch"

def PageKey.fileName (key : PageKey) : String :=
  key.handle ++ "_page_" ++ toString key.page ++ "_products.json"

/-- The collections of a market with their pages. -/
abbrev Collections := Table String (List (List Product))

def Collections.page? (collections : Collections) (handle : String) (page : Nat) :
    Option (List Product) := (collections.get? handle).bind (·[page]?)

/-- The pages as `fetch_one` saves them. -/
def Collections.saved (collections : Collections) (sourceId : Int) :
    List (PageKey × List Product) :=
  collections.rows.flatMap fun (handle, pages) =>
    pages.mapIdx fun page items => (⟨sourceId, handle, page⟩, items)

/-- The storage, and what was last fetched for each market. -/
structure Storage where
  pages : Table PageKey (List Product)
  /-- The rows of `data.parquet`, by the market and the product. -/
  parquet : Table (Int × Int) (List Row)
  latest : Table Int Collections

def Storage.empty : Storage := ⟨.empty, .empty, .empty⟩

/-- The market's part of `fetch_all_markets`; a market without collections is skipped. -/
def Storage.fetch (storage : Storage) (market : Market) (collections : Collections) : Storage :=
  match collections.rows with
  | [] => storage
  | _ => ⟨storage.pages.setAll (collections.saved market.sourceId), storage.parquet,
      storage.latest.set market.marketId collections⟩

/-! ## Processing -/

/-- `glob(f"{source_id}_*/**/*products.json")`, sorted. -/
def Storage.jsonFiles (storage : Storage) (sourceId : Int) : List (PageKey × List Product) :=
  (storage.pages.rows.filter fun file => Names.startsWith sourceId file.1.directory).insertionSort
    fun file other => file.1.fileName ≤ other.1.fileName

/-- Collections of what is in stock win over the others. -/
def collectionTier (handle : String) : Nat :=
  if "in-stock".toList <:+: handle.toList ∨ "instock".toList <:+: handle.toList then 1 else 0

/-- Values in order, and none behind all. -/
def noneLast {α : Type} [LE α] [DecidableLE α] : Option α → Option α → Bool
  | _, none => true
  | none, some _ => false
  | some first, some second => decide (first ≤ second)

/-- The order of `sort_values` for the rows of one product. -/
def sortsBefore (first second : Nat × Row) : Bool :=
  if first.2.date ≠ second.2.date then noneLast first.2.date second.2.date
  else if first.2.variation ≠ second.2.variation then
    noneLast first.2.variation second.2.variation
  else decide (first.1 ≤ second.1)

/-- `_dedupe_batch` -/
def dedupeBatch (batch : List (Nat × Row)) : List Row :=
  (keepLast (Row.key ∘ Prod.snd)
    (batch.insertionSort fun first second => sortsBefore first second)).map Prod.snd

/-- The frames of the pages, with their market and product. -/
def Storage.frames (storage : Storage) (market : Market) (today : Int) :
    List ((Int × Int) × List (Nat × Row)) :=
  (storage.jsonFiles market.sourceId).flatMap fun file => file.2.map fun product =>
    ((market.marketId, product.id),
      (product.rows today).map fun row => (collectionTier file.1.handle, row))

/-- `MAX_ROWS_PER_PRODUCT_BEFORE_FLUSH` -/
def maxRowsPerProductBeforeFlush : Nat := 100000

/-- `process_to_parquet` for one market. -/
def Storage.process (storage : Storage) (market : Market) (today : Int) : Storage :=
  ⟨storage.pages,
    (Collector.collect dedupeBatch maxRowsPerProductBeforeFlush ⟨.empty, storage.parquet⟩
      (storage.frames market today)).files,
    storage.latest⟩

/-- The rows that `stage_data_from_parquet` reads. -/
def Storage.stagedRows (storage : Storage) (marketId : Int) : List Row :=
  (storage.parquet.rows.filter fun file => file.1.1 = marketId).flatMap Prod.snd

/-! ## What is claimed -/

inductive ShopifyRun where
  | fetch (market : Market) (collections : Collections)
  | process (market : Market) (today : Int)

def Storage.step (storage : Storage) : ShopifyRun → Storage
  | .fetch market collections => storage.fetch market collections
  | .process market today => storage.process market today

/-- The variants of what was last fetched for a market. -/
def Storage.fetchedRows (storage : Storage) (marketId today : Int) : List Row :=
  ((storage.latest.get? marketId).getD .empty).rows.flatMap fun collection =>
    collection.2.flatten.flatMap (Product.rows today)

/-- The rows are the fetched ones, one for each key. -/
structure HoldsFetch (rows fetched : List Row) : Prop where
  distinct : (rows.map Row.key).Nodup
  sound : ∀ row ∈ rows, row ∈ fetched
  complete : ∀ row ∈ fetched, row.key ∈ rows.map Row.key

/-- After a market is processed, its parquet files hold what was last fetched for it. -/
def HoldsLatest (storage : Storage) : ShopifyRun → Prop
  | .fetch _ _ => True
  | .process market today =>
    HoldsFetch ((storage.process market today).stagedRows market.marketId)
      (storage.fetchedRows market.marketId today)

/-- The directory of a market that is processed has the pages of its last fetch, and no others. -/
def Intact (storage : Storage) : ShopifyRun → Prop
  | .fetch _ _ => True
  | .process market _ => ∀ handle page,
      storage.pages.get? ⟨market.sourceId, handle, page⟩ =
        ((storage.latest.get? market.marketId).getD .empty).page? handle page

/-- A market that is processed has no rows yet, and no row of it lies in two of the batches that are
written. -/
def WrittenOnce (storage : Storage) : ShopifyRun → Prop
  | .fetch _ _ => True
  | .process market today =>
    storage.stagedRows market.marketId = [] ∧
      ∀ productId, (flushes maxRowsPerProductBeforeFlush [] (((storage.frames market today).filter
        (·.1 = (market.marketId, productId))).map Prod.snd)).Pairwise
          fun batch other => ∀ first ∈ batch, ∀ second ∈ other, first.2.key ≠ second.2.key

/-! ## Batches -/

section Batches

variable {batch : List (Nat × Row)}

theorem mem_dedupeBatch {row : Row} (hrow : row ∈ dedupeBatch batch) :
    ∃ tier, (tier, row) ∈ batch := by
  obtain ⟨⟨tier, row⟩, hmem, rfl⟩ := List.mem_map.mp hrow
  exact ⟨tier, (List.mem_insertionSort _).mp ((keepLast_sublist _ _).subset hmem)⟩

theorem keys_dedupeBatch {key : RowKey} :
    key ∈ (dedupeBatch batch).map Row.key ↔ ∃ entry ∈ batch, entry.2.key = key := by
  rw [dedupeBatch, List.map_map, mem_keys_keepLast, List.mem_map]
  simp only [List.mem_insertionSort, Function.comp_apply]

theorem nodup_dedupeBatch (batch : List (Nat × Row)) :
    ((dedupeBatch batch).map Row.key).Nodup := by
  rw [dedupeBatch, List.map_map]
  exact nodup_keepLast _ _

/-- What the batches of a product are written as. -/
def writtenRows (frames : List (List (Nat × Row))) : List Row :=
  (flushes maxRowsPerProductBeforeFlush [] frames).flatMap dedupeBatch

variable {frames : List (List (Nat × Row))}

theorem mem_flushes_iff {entry : Nat × Row} :
    (∃ batch ∈ flushes maxRowsPerProductBeforeFlush [] frames, entry ∈ batch) ↔
      entry ∈ frames.flatten := by
  rw [← List.mem_flatten, flatten_flushes, List.nil_append]

theorem mem_writtenRows {row : Row} (hrow : row ∈ writtenRows frames) :
    ∃ tier, (tier, row) ∈ frames.flatten := by
  obtain ⟨batch, hbatch, hmem⟩ := List.mem_flatMap.mp hrow
  obtain ⟨tier, hentry⟩ := mem_dedupeBatch hmem
  exact ⟨tier, mem_flushes_iff.mp ⟨batch, hbatch, hentry⟩⟩

theorem key_mem_writtenRows {entry : Nat × Row} (hentry : entry ∈ frames.flatten) :
    ∃ row ∈ writtenRows frames, row.key = entry.2.key := by
  obtain ⟨batch, hbatch, hmem⟩ := mem_flushes_iff.mpr hentry
  have hkey : entry.2.key ∈ (dedupeBatch batch).map Row.key :=
    keys_dedupeBatch.mpr ⟨entry, hmem, rfl⟩
  obtain ⟨row, hrow, hsame⟩ := List.mem_map.mp hkey
  exact ⟨row, List.mem_flatMap.mpr ⟨batch, hbatch, hrow⟩, hsame⟩

/-- The keys of what is written are distinct when no key lies in two batches. -/
theorem nodup_flatMap_dedupeBatch_iff {batches : List (List (Nat × Row))} :
    ((batches.flatMap dedupeBatch).map Row.key).Nodup ↔ batches.Pairwise
      fun batch other => ∀ first ∈ batch, ∀ second ∈ other, first.2.key ≠ second.2.key := by
  rw [List.map_flatMap, List.nodup_flatMap,
    and_iff_right fun batch _ => nodup_dedupeBatch batch]
  refine List.Pairwise.iff fun batch other => ?_
  change List.Disjoint _ _ ↔ _
  rw [List.disjoint_left]
  constructor
  · intro hdisjoint first hfirst second hsecond hsame
    exact hdisjoint (keys_dedupeBatch.mpr ⟨first, hfirst, rfl⟩)
      (keys_dedupeBatch.mpr ⟨second, hsecond, hsame.symm⟩)
  · intro hdistinct key hkey hother
    obtain ⟨first, hfirst, rfl⟩ := keys_dedupeBatch.mp hkey
    obtain ⟨second, hsecond, hsame⟩ := keys_dedupeBatch.mp hother
    exact hdistinct first hfirst second hsecond hsame.symm

theorem nodup_writtenRows_iff : ((writtenRows frames).map Row.key).Nodup ↔
    (flushes maxRowsPerProductBeforeFlush [] frames).Pairwise
      fun batch other => ∀ first ∈ batch, ∀ second ∈ other, first.2.key ≠ second.2.key :=
  nodup_flatMap_dedupeBatch_iff

end Batches

/-! ## What a market has stored -/

section Stored

variable {storage : Storage} {market : Market} {today : Int}

/-- The rows of a product. -/
def Storage.file (storage : Storage) (marketId productId : Int) : List Row :=
  (storage.parquet.get? (marketId, productId)).getD []

theorem mem_stagedRows_iff {marketId : Int} {row : Row} :
    row ∈ storage.stagedRows marketId ↔ ∃ productId, row ∈ storage.file marketId productId := by
  rw [Storage.stagedRows, List.mem_flatMap]
  simp only [List.mem_filter, decide_eq_true_eq]
  constructor
  · rintro ⟨⟨⟨marketId, productId⟩, rows⟩, ⟨hfile, rfl⟩, hrow⟩
    exact ⟨productId, by rwa [Storage.file, (Table.mem_rows_iff _ _ _).mp hfile]⟩
  · rintro ⟨productId, hrow⟩
    rw [Storage.file] at hrow
    cases hfile : storage.parquet.get? (marketId, productId) with
    | none =>
      rw [hfile] at hrow
      cases hrow
    | some rows =>
      rw [hfile] at hrow
      exact ⟨((marketId, productId), rows), ⟨(Table.mem_rows_iff _ _ _).mpr hfile, rfl⟩, hrow⟩

theorem stagedRows_eq_nil_iff {marketId : Int} : storage.stagedRows marketId = [] ↔
    ∀ productId, storage.file marketId productId = [] := by
  simp only [List.eq_nil_iff_forall_not_mem, mem_stagedRows_iff, not_exists]
  exact forall_comm

/-- The rows of a market have distinct keys when those of each product have, and no two products
share one. -/
theorem nodup_stagedRows_iff {marketId : Int} :
    ((storage.stagedRows marketId).map Row.key).Nodup ↔
      (∀ productId, ((storage.file marketId productId).map Row.key).Nodup) ∧
        ∀ productId other, productId ≠ other → ∀ first ∈ storage.file marketId productId,
          ∀ second ∈ storage.file marketId other, first.key ≠ second.key := by
  have hstored : ∀ {productId : Int} {row : Row}, row ∈ storage.file marketId productId →
      ((marketId, productId), storage.file marketId productId) ∈
        storage.parquet.rows.filter fun file => file.1.1 = marketId := by
    intro productId row hrow
    rw [Storage.file] at hrow ⊢
    cases hfile : storage.parquet.get? (marketId, productId) with
    | none =>
      rw [hfile] at hrow
      cases hrow
    | some rows =>
      exact List.mem_filter.mpr ⟨(Table.mem_rows_iff _ _ _).mpr hfile, decide_eq_true rfl⟩
  have hfile : ∀ file ∈ storage.parquet.rows.filter fun file => file.1.1 = marketId,
      file.2 = storage.file marketId file.1.2 := by
    rintro ⟨⟨stored, productId⟩, rows⟩ hmem
    obtain ⟨hrow, hmarket⟩ := List.mem_filter.mp hmem
    obtain rfl := of_decide_eq_true hmarket
    rw [Storage.file, (Table.mem_rows_iff _ _ _).mp hrow]
    rfl
  rw [Storage.stagedRows, List.map_flatMap, List.nodup_flatMap]
  constructor
  · rintro ⟨hnodup, hpairwise⟩
    constructor
    · intro productId
      cases hrows : storage.file marketId productId with
      | nil => exact List.nodup_nil
      | cons row rest =>
        have hmem := @hstored productId row (hrows ▸ List.mem_cons_self)
        rw [hrows] at hmem
        exact hnodup _ hmem
    · intro productId other hne first hfirst second hsecond hsame
      have hsymm : Std.Symm (Function.onFun List.Disjoint
          fun file : (Int × Int) × List Row => file.2.map Row.key) := ⟨fun _ _ h => h.symm⟩
      have hdisjoint := hpairwise.forall (hstored hfirst) (hstored hsecond)
        fun heq => hne (congrArg (·.1.2) heq)
      exact hdisjoint (List.mem_map_of_mem hfirst) (hsame ▸ List.mem_map_of_mem hsecond)
  · rintro ⟨hnodup, hdistinct⟩
    constructor
    · intro file hmem
      rw [hfile file hmem]
      exact hnodup file.1.2
    · refine ((List.Nodup.of_map _ storage.parquet.nodup_keys).filter _).pairwise_of_forall_ne ?_
      intro file hmem other hother hne
      have hproducts : file.1.2 ≠ other.1.2 := by
        intro hsame
        apply hne
        have hmarkets : file.1.1 = other.1.1 :=
          (of_decide_eq_true (List.mem_filter.mp hmem).2).trans
            (of_decide_eq_true (List.mem_filter.mp hother).2).symm
        refine Prod.ext (Prod.ext hmarkets hsame) ?_
        rw [hfile file hmem, hfile other hother, hsame]
      change List.Disjoint (file.2.map Row.key) (other.2.map Row.key)
      rw [hfile file hmem, hfile other hother, List.disjoint_left]
      intro key hkey hsecond
      obtain ⟨first, hfirst, rfl⟩ := List.mem_map.mp hkey
      obtain ⟨second, hsecond, hsame⟩ := List.mem_map.mp hsecond
      exact hdistinct _ _ hproducts first hfirst second hsecond hsame.symm

/-- A row of the files in the directory of a source. -/
def Storage.InDirectory (storage : Storage) (sourceId today : Int) (row : Row) : Prop :=
  ∃ handle page items, storage.pages.get? ⟨sourceId, handle, page⟩ = some items ∧
    ∃ product ∈ items, row ∈ product.rows today

theorem mem_jsonFiles_iff {sourceId : Int} {key : PageKey} {items : List Product} :
    (key, items) ∈ storage.jsonFiles sourceId ↔
      storage.pages.get? key = some items ∧ key.sourceId = sourceId := by
  rw [Storage.jsonFiles, List.mem_insertionSort, List.mem_filter, Table.mem_rows_iff,
    PageKey.directory, Names.startsWith_iff]

theorem productId_of_mem_rows {product : Product} {row : Row} (hrow : row ∈ product.rows today) :
    row.productId = product.id := by
  obtain ⟨variant, -, rfl⟩ := List.mem_map.mp hrow
  rfl

/-- The frames of a product have the rows of the directory that are its own. -/
theorem mem_frames_iff {productId : Int} {row : Row} :
    (∃ tier, (tier, row) ∈ (((storage.frames market today).filter
        (·.1 = (market.marketId, productId))).map Prod.snd).flatten) ↔
      row.productId = productId ∧ storage.InDirectory market.sourceId today row := by
  simp only [List.mem_flatten, List.mem_map, List.mem_filter, decide_eq_true_eq, Storage.frames,
    List.mem_flatMap]
  constructor
  · rintro ⟨tier, _, ⟨_, ⟨⟨⟨⟨sourceId, handle, page⟩, items⟩, hfile, product, hproduct, rfl⟩,
      hkey⟩, rfl⟩, hentry⟩
    obtain ⟨row, hrow, hpair⟩ := List.mem_map.mp hentry
    obtain ⟨hpage, rfl⟩ := mem_jsonFiles_iff.mp hfile
    obtain rfl : row = _ := congrArg Prod.snd hpair
    refine ⟨(productId_of_mem_rows hrow).trans (congrArg Prod.snd hkey), ?_⟩
    exact ⟨handle, page, items, hpage, product, hproduct, hrow⟩
  · rintro ⟨rfl, handle, page, items, hpage, product, hproduct, hrow⟩
    refine ⟨collectionTier handle, _, ⟨_, ⟨⟨(⟨market.sourceId, handle, page⟩, items),
      mem_jsonFiles_iff.mpr ⟨hpage, rfl⟩, product, hproduct, rfl⟩, ?_⟩, rfl⟩,
      List.mem_map_of_mem hrow⟩
    rw [productId_of_mem_rows hrow]

/-- The frames of a product of the market. -/
def Storage.productFrames (storage : Storage) (market : Market) (today productId : Int) :
    List (List (Nat × Row)) :=
  ((storage.frames market today).filter (·.1 = (market.marketId, productId))).map Prod.snd

/-- A product's file grows by what its frames are written as. -/
theorem file_process (productId : Int) :
    (storage.process market today).file market.marketId productId =
      storage.file market.marketId productId ++
        writtenRows (storage.productFrames market today productId) :=
  Collector.file_collect (storage.frames market today) (market.marketId, productId)

/-- The rows of an intact directory are those that were fetched last. -/
theorem inDirectory_iff (hintact : Intact storage (.process market today)) {row : Row} :
    storage.InDirectory market.sourceId today row ↔
      row ∈ storage.fetchedRows market.marketId today := by
  simp only [Storage.InDirectory, Storage.fetchedRows, List.mem_flatMap, List.mem_flatten]
  constructor
  · rintro ⟨handle, page, items, hpage, product, hproduct, hrow⟩
    rw [hintact handle page, Collections.page?] at hpage
    obtain ⟨pages, hpages, hitems⟩ := Option.bind_eq_some_iff.mp hpage
    exact ⟨(handle, pages), (Table.mem_rows_iff _ _ _).mpr hpages, product,
      ⟨items, List.mem_of_getElem? hitems, hproduct⟩, hrow⟩
  · rintro ⟨⟨handle, pages⟩, hcollection, product, ⟨items, hitems, hproduct⟩, hrow⟩
    obtain ⟨page, hpage⟩ := List.mem_iff_getElem?.mp hitems
    refine ⟨handle, page, items, ?_, product, hproduct, hrow⟩
    rw [hintact handle page, Collections.page?, (Table.mem_rows_iff _ _ _).mp hcollection]
    exact hpage

/-- A row that a process run wrote for a product is one of the directory. -/
theorem of_mem_written {productId : Int} {row : Row}
    (hrow : row ∈ writtenRows (storage.productFrames market today productId)) :
    row.productId = productId ∧ storage.InDirectory market.sourceId today row :=
  mem_frames_iff.mp (mem_writtenRows hrow)

/-- Each row of the directory has its key written. -/
theorem key_mem_written {row : Row} (hrow : storage.InDirectory market.sourceId today row) :
    ∃ written ∈ writtenRows (storage.productFrames market today row.productId),
      written.key = row.key := by
  obtain ⟨tier, hentry⟩ := (@mem_frames_iff storage market today row.productId row).mpr ⟨rfl, hrow⟩
  exact key_mem_writtenRows hentry

end Stored

/-! ## One process run -/

section Process

variable {storage : Storage} {market : Market} {today : Int}

/-- A market without rows gets those of its last fetch. -/
theorem holdsLatest_of_writtenOnce (hintact : Intact storage (.process market today))
    (honce : WrittenOnce storage (.process market today)) :
    HoldsLatest storage (.process market today) := by
  have hfile : ∀ productId, (storage.process market today).file market.marketId productId =
      writtenRows (storage.productFrames market today productId) := by
    intro productId
    rw [file_process, stagedRows_eq_nil_iff.mp honce.1, List.nil_append]
  constructor
  · rw [nodup_stagedRows_iff]
    simp only [hfile]
    refine ⟨fun productId => nodup_writtenRows_iff.mpr (honce.2 productId), ?_⟩
    intro productId other hne first hfirst second hsecond hsame
    apply hne
    rw [← (of_mem_written hfirst).1, ← (of_mem_written hsecond).1]
    exact congrArg RowKey.productId hsame
  · intro row hrow
    obtain ⟨productId, hrow⟩ := mem_stagedRows_iff.mp hrow
    rw [hfile] at hrow
    exact (inDirectory_iff hintact).mp (of_mem_written hrow).2
  · intro row hrow
    obtain ⟨written, hwritten, hsame⟩ := key_mem_written ((inDirectory_iff hintact).mpr hrow)
    rw [← hsame]
    rw [← hfile] at hwritten
    exact List.mem_map_of_mem (mem_stagedRows_iff.mpr ⟨_, hwritten⟩)

/-- A row that was there before would come twice. -/
theorem writtenOnce_of_holdsLatest (hintact : Intact storage (.process market today))
    (hholds : HoldsLatest storage (.process market today)) :
    WrittenOnce storage (.process market today) := by
  obtain ⟨hnodup, hdistinct⟩ := nodup_stagedRows_iff.mp hholds.distinct
  simp only [file_process, List.map_append] at hnodup hdistinct
  constructor
  · refine List.eq_nil_iff_forall_not_mem.mpr fun row hrow => ?_
    obtain ⟨productId, hold⟩ := mem_stagedRows_iff.mp hrow
    have hstaged : row ∈ (storage.process market today).stagedRows market.marketId := by
      refine mem_stagedRows_iff.mpr ⟨productId, ?_⟩
      rw [file_process]
      exact List.mem_append_left _ hold
    -- it is fetched again, so its key is written again
    obtain ⟨written, hwritten, hsame⟩ :=
      key_mem_written ((inDirectory_iff hintact).mpr (hholds.sound row hstaged))
    by_cases hproduct : productId = row.productId
    · subst hproduct
      have hdisjoint := (List.nodup_append.mp (hnodup row.productId)).2.2
      exact hdisjoint _ (List.mem_map_of_mem hold) _ (List.mem_map_of_mem hwritten) hsame.symm
    · exact hdistinct _ _ hproduct row (List.mem_append_left _ hold) written
        (List.mem_append_right _ hwritten) hsame.symm
  · intro productId
    exact nodup_writtenRows_iff.mp (List.nodup_append.mp (hnodup productId)).2.1

end Process

/-- When the directories are intact, every process run leaves what was fetched last exactly when
each writes to a market without rows, and no row in two batches. -/
theorem holdsLatest_iff {runs : List ShopifyRun}
    (hintact : Run.StepsMeet Storage.step Intact .empty runs) :
    Run.StepsMeet Storage.step HoldsLatest .empty runs ↔
      Run.StepsMeet Storage.step WrittenOnce .empty runs := by
  constructor
  · intro hholds
    refine (hintact.and hholds).imp fun storage run hboth => ?_
    cases run with
    | fetch market collections => trivial
    | process market today => exact writtenOnce_of_holdsLatest hboth.1 hboth.2
  · intro honce
    refine (hintact.and honce).imp fun storage run hboth => ?_
    cases run with
    | fetch market collections => trivial
    | process market today => exact holdsLatest_of_writtenOnce hboth.1 hboth.2

/-! ## Two weeks of a shop -/

def brisbane : Market :=
  ⟨1, "Good Games Brisbane", "https://tcg.goodgames.com.au", "AUD", 3, "gg_brisbane"⟩

/-- A product with one variant of the first day. -/
def Product.single (id : Int) : Product := ⟨id, [⟨some "Near Mint", some 5, some 0⟩], none, none⟩

/-- A collection with a page for each product. -/
def Collections.single (products : List Product) : Collections :=
  Table.single "magic-singles" (products.map fun product => [product])

theorem intact_single : Intact
    (Storage.empty.fetch brisbane (.single [.single 1])) (.process brisbane 7) := by
  intro handle page
  have hpages : ∀ key, (Storage.empty.fetch brisbane (.single [.single 1])).pages.get? key =
      if key = ⟨3, "magic-singles", 0⟩ then some [.single 1] else none := fun key =>
    Table.get?_set _ _ _ _
  have hlatest : (((Storage.empty.fetch brisbane (.single [.single 1])).latest.get?
      brisbane.marketId).getD .empty).page? handle page =
        (if handle = "magic-singles" then some [[Product.single 1]] else none).bind (·[page]?) := by
    rw [← Table.get?_single]
    rfl
  rw [hpages, hlatest]
  by_cases hhandle : handle = "magic-singles"
  · cases page <;> simp [hhandle, brisbane]
  · simp [hhandle]

theorem writtenOnce_single : WrittenOnce
    (Storage.empty.fetch brisbane (.single [.single 1])) (.process brisbane 7) := by
  refine ⟨by decide, fun productId => ?_⟩
  have hframes : (Storage.empty.fetch brisbane (.single [.single 1])).frames brisbane 7 =
      [((1, 1), [(0, ⟨1, some 0, some "Near Mint", some 5, 7, none, none⟩)])] := by decide
  have hfew : ((((Storage.empty.fetch brisbane (.single [.single 1])).frames brisbane 7).filter
      (·.1 = (brisbane.marketId, productId))).map Prod.snd).flatten.length <
        maxRowsPerProductBeforeFlush := by
    rw [hframes, List.filter_cons]
    split_ifs <;> simp [maxRowsPerProductBeforeFlush]
  have hone := @length_flushes_of_lt _ _ [] _ hfew
  cases hbatches : flushes maxRowsPerProductBeforeFlush []
      ((((Storage.empty.fetch brisbane (.single [.single 1])).frames brisbane 7).filter
        (·.1 = (brisbane.marketId, productId))).map Prod.snd) with
  | nil => exact List.Pairwise.nil
  | cons batch rest =>
    rw [hbatches, List.length_cons] at hone
    obtain rfl : rest = [] := List.length_eq_zero_iff.mp (by omega)
    exact List.pairwise_singleton _ _

theorem holdsLatest_single :
    Run.StepsMeet Storage.step HoldsLatest .empty
      [.fetch brisbane (.single [.single 1]), .process brisbane 7] := by
  have hintact : Run.StepsMeet Storage.step Intact .empty
      [.fetch brisbane (.single [.single 1]), .process brisbane 7] :=
    ⟨trivial, intact_single, trivial⟩
  exact (holdsLatest_iff hintact).mpr ⟨trivial, writtenOnce_single, trivial⟩

/-- A market that is processed in two weeks keeps the rows of the first; a collection that shrinks
keeps its last page; and a market gets the pages of another one of its source. -/
theorem parquet_keeps_old_rows :
    ¬ Run.StepsMeet Storage.step HoldsLatest .empty
        [.fetch brisbane (.single [.single 1]), .process brisbane 7,
          .fetch brisbane (.single [.single 1]), .process brisbane 14] ∧
      ¬ Run.StepsMeet Storage.step HoldsLatest .empty
        [.fetch brisbane (.single [.single 1, .single 2]),
          .fetch brisbane (.single [.single 1]), .process brisbane 14] ∧
      ¬ Run.StepsMeet Storage.step HoldsLatest .empty
        [.fetch { brisbane with marketId := 2 } (.single [.single 1, .single 2]),
          .fetch brisbane (.single [.single 1]), .process brisbane 14] := by
  refine ⟨?_, ?_, ?_⟩
  · rintro ⟨-, -, -, hholds, -⟩
    exact absurd hholds.distinct (by decide)
  · rintro ⟨-, -, hholds, -⟩
    exact absurd (hholds.sound ⟨2, some 0, some "Near Mint", some 5, 14, none, none⟩ (by decide))
      (by decide)
  · rintro ⟨-, -, hholds, -⟩
    exact absurd (hholds.sound ⟨2, some 0, some "Near Mint", some 5, 14, none, none⟩ (by decide))
      (by decide)

end AutoMana.Shopify
