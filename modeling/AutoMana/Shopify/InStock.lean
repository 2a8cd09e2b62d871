import AutoMana.Shopify.Parquet
import Mathlib

/-!
# In-stock prices win

Each batch of a product is sorted by the tier of the collections before only the last row of a key
is kept, so what is written of a batch has the highest tier of the batch. The file is only appended
to: the rows of a key that lies in two batches are written twice, whatever their tiers.
-/

namespace AutoMana.Shopify

open Relational

/-! ## The files -/

/-- An element of the `items` of a file. What is malformed raises, and nothing behind it is read. -/
inductive FileItem where
  | product (product : Product)
  | notDict
  | malformed
  deriving DecidableEq

/-- A file of a collection. Files without `_collection_handle` have the empty one. -/
structure CollectionFile where
  handle : String
  items : List FileItem

def readItem : FileItem → Option Product
  | .product product => some product
  | _ => none

/-- The products that are read of a file. -/
def CollectionFile.products (file : CollectionFile) : List Product :=
  (file.items.takeWhile (· ≠ .malformed)).filterMap readItem

/-- The frames of the files, by the product, with the tiers of their collections. -/
def framesOf (today : Int) (files : List CollectionFile) : List (Int × List (Nat × Row)) :=
  files.flatMap fun file => file.products.map fun product =>
    (product.id, (product.rows today).map fun row => (collectionTier file.handle, row))

/-- `process_json_dir_to_parquet`: what is written, by the product. -/
def processJsonDir (flushThreshold : Nat) (today : Int) (files : List CollectionFile) :
    Collector Int (Nat × Row) Row :=
  Collector.collect dedupeBatch flushThreshold ⟨.empty, .empty⟩ (framesOf today files)

/-- The frames of one product. -/
def productFrames (today : Int) (files : List CollectionFile) (productId : Int) :
    List (List (Nat × Row)) :=
  ((framesOf today files).filter (·.1 = productId)).map Prod.snd

/-- One row for each key that was read, from a collection of the highest tier of the key. -/
structure InStockWins (rows : List Row) (read : List (Nat × Row)) : Prop where
  distinct : (rows.map Row.key).Nodup
  complete : ∀ entry ∈ read, entry.2.key ∈ rows.map Row.key
  highest : ∀ row ∈ rows, ∃ tier, (tier, row) ∈ read ∧
    ∀ other ∈ read, other.2.key = row.key → other.1 ≤ tier

/-- No two batches of the product have a key in common. -/
def KeysTogether (flushThreshold : Nat) (frames : List (List (Nat × Row))) : Prop :=
  (flushes flushThreshold [] frames).Pairwise
    fun batch other => ∀ first ∈ batch, ∀ second ∈ other, first.2.key ≠ second.2.key

/-! ## One batch -/

/-- A value that may be missing; none is behind all. -/
def orTop {α : Type} (value : Option α) : WithTop α := value.elim ⊤ WithTop.some

theorem orTop_injective {α : Type} : Function.Injective (orTop : Option α → WithTop α) := by
  intro first second hsame
  cases first with
  | none =>
    cases second with
    | none => rfl
    | some second => exact absurd hsame.symm (WithTop.coe_ne_top)
  | some first =>
    cases second with
    | none => exact absurd hsame (WithTop.coe_ne_top)
    | some second => exact congrArg some (WithTop.coe_injective hsame)

theorem noneLast_iff {α : Type} [LinearOrder α] (first second : Option α) :
    noneLast first second = true ↔ orTop first ≤ orTop second := by
  cases first with
  | none =>
    cases second with
    | none => exact iff_of_true rfl le_rfl
    | some second => exact iff_of_false Bool.false_ne_true (not_le.mpr (WithTop.coe_lt_top second))
  | some first =>
    cases second with
    | none => exact iff_of_true rfl le_top
    | some second => exact decide_eq_true_iff.trans WithTop.coe_le_coe.symm

/-- The columns that `sort_values` goes by. -/
def sortColumns (entry : Nat × Row) : WithTop Int ×ₗ WithTop String ×ₗ Nat :=
  toLex (orTop entry.2.date, toLex (orTop entry.2.variation, entry.1))

theorem sortsBefore_iff (first second : Nat × Row) :
    sortsBefore first second = true ↔ sortColumns first ≤ sortColumns second := by
  rw [sortsBefore, sortColumns, sortColumns, Prod.Lex.toLex_le_toLex, Prod.Lex.toLex_le_toLex]
  split_ifs with hdate hvariation
  · have hne : orTop first.2.date ≠ orTop second.2.date := fun hsame =>
      hdate (orTop_injective hsame)
    rw [noneLast_iff, or_iff_left fun hsame => hne hsame.1]
    exact ⟨fun hle => lt_of_le_of_ne hle hne, le_of_lt⟩
  · have hne : orTop first.2.variation ≠ orTop second.2.variation := fun hsame =>
      hvariation (orTop_injective hsame)
    have hsame : orTop first.2.date = orTop second.2.date := congrArg orTop (not_not.mp hdate)
    rw [noneLast_iff, or_iff_right (lt_irrefl _ <| hsame ▸ ·), or_iff_left fun heq => hne heq.1]
    exact ⟨fun hle => ⟨hsame, lt_of_le_of_ne hle hne⟩, fun hlt => le_of_lt hlt.2⟩
  · have hdate : orTop first.2.date = orTop second.2.date := congrArg orTop (not_not.mp hdate)
    have hvariation : orTop first.2.variation = orTop second.2.variation :=
      congrArg orTop (not_not.mp hvariation)
    rw [decide_eq_true_iff, hdate, hvariation]
    simp

/-- A sorted batch has the tiers of a key in order. -/
theorem pairwise_sorted (batch : List (Nat × Row)) :
    (batch.insertionSort fun first second => sortsBefore first second = true).Pairwise
      fun first second => sortColumns first ≤ sortColumns second := by
  simp only [sortsBefore_iff]
  have : Std.Total fun first second : Nat × Row => sortColumns first ≤ sortColumns second :=
    ⟨fun _ _ => le_total _ _⟩
  have : IsTrans (Nat × Row) fun first second => sortColumns first ≤ sortColumns second :=
    ⟨fun _ _ _ => le_trans⟩
  exact List.pairwise_insertionSort _ batch

theorem tier_le_of_sortColumns {first second : Nat × Row}
    (hle : sortColumns first ≤ sortColumns second) (hkey : first.2.key = second.2.key) :
    first.1 ≤ second.1 := by
  have hdate : first.2.date = second.2.date := congrArg RowKey.date hkey
  have hvariation : first.2.variation = second.2.variation := congrArg RowKey.variation hkey
  rw [sortColumns, sortColumns, hdate, hvariation] at hle
  simpa [Prod.Lex.toLex_le_toLex] using hle

/-- What a batch is written as has the highest tier of its key in the batch. -/
theorem highest_of_mem_dedupeBatch {batch : List (Nat × Row)} {row : Row}
    (hrow : row ∈ dedupeBatch batch) :
    ∃ tier, (tier, row) ∈ batch ∧ ∀ other ∈ batch, other.2.key = row.key → other.1 ≤ tier := by
  obtain ⟨⟨tier, row⟩, hkept, rfl⟩ := List.mem_map.mp hrow
  refine ⟨tier, (List.mem_insertionSort _).mp ((keepLast_sublist _ _).subset hkept), ?_⟩
  intro other hother hsame
  have hlast := keepLast_last (Row.key ∘ Prod.snd) (pairwise_sorted batch) hkept
    ((List.mem_insertionSort _).mpr hother) hsame
  rcases hlast with rfl | hle
  · exact le_rfl
  · exact tier_le_of_sortColumns hle hsame

/-! ## All batches of a product -/

section Product

variable (flushThreshold : Nat) (today : Int) (files : List CollectionFile) (productId : Int)

/-- What is written of a product are its batches, each as it is written. -/
theorem file_processJsonDir :
    (processJsonDir flushThreshold today files).file productId =
      (flushes flushThreshold [] (productFrames today files productId)).flatMap dedupeBatch :=
  Collector.file_collect (framesOf today files) productId

variable {flushThreshold}

theorem inStockWins_of_keysTogether
    (htogether : KeysTogether flushThreshold (productFrames today files productId)) :
    InStockWins ((processJsonDir flushThreshold today files).file productId)
      (productFrames today files productId).flatten := by
  have hread : ∀ entry, entry ∈ (productFrames today files productId).flatten ↔
      ∃ batch ∈ flushes flushThreshold [] (productFrames today files productId),
        entry ∈ batch := by
    intro entry
    rw [← List.mem_flatten, flatten_flushes, List.nil_append]
  rw [file_processJsonDir]
  refine ⟨nodup_flatMap_dedupeBatch_iff.mpr htogether, fun entry hentry => ?_, fun row hrow => ?_⟩
  · obtain ⟨batch, hbatch, hmem⟩ := (hread entry).mp hentry
    obtain ⟨row, hrow, hsame⟩ := List.mem_map.mp (keys_dedupeBatch.mpr ⟨entry, hmem, rfl⟩)
    exact List.mem_map.mpr ⟨row, List.mem_flatMap.mpr ⟨batch, hbatch, hrow⟩, hsame⟩
  · obtain ⟨batch, hbatch, hmem⟩ := List.mem_flatMap.mp hrow
    obtain ⟨tier, hentry, hhighest⟩ := highest_of_mem_dedupeBatch hmem
    refine ⟨tier, (hread _).mpr ⟨batch, hbatch, hentry⟩, fun other hother hsame => ?_⟩
    obtain ⟨second, hsecond, hin⟩ := (hread other).mp hother
    -- the key is in no other batch
    by_cases hbatches : second = batch
    · exact hhighest other (hbatches ▸ hin) hsame
    · have hsymm : Std.Symm fun batch other : List (Nat × Row) =>
          ∀ first ∈ batch, ∀ second ∈ other, first.2.key ≠ second.2.key :=
        ⟨fun _ _ hdistinct first hfirst second hsecond =>
          (hdistinct second hsecond first hfirst).symm⟩
      exact absurd hsame (htogether.forall hsecond hbatch hbatches other hin (tier, row) hentry)

/-- The keys that are written are those that were read. -/
theorem InStockWins.mem_keys_iff {rows : List Row} {read : List (Nat × Row)}
    (hwins : InStockWins rows read) (key : RowKey) :
    key ∈ rows.map Row.key ↔ ∃ entry ∈ read, entry.2.key = key := by
  constructor
  · intro hkey
    obtain ⟨row, hrow, rfl⟩ := List.mem_map.mp hkey
    obtain ⟨tier, hentry, -⟩ := hwins.highest row hrow
    exact ⟨(tier, row), hentry, rfl⟩
  · rintro ⟨entry, hentry, rfl⟩
    exact hwins.complete entry hentry

/-- In-stock prices win exactly when no two batches of the product have a key in common, and then
the keys are the same for every threshold. -/
theorem inStockWins_iff :
    (InStockWins ((processJsonDir flushThreshold today files).file productId)
        (productFrames today files productId).flatten ↔
      KeysTogether flushThreshold (productFrames today files productId)) ∧
    ∀ other, KeysTogether flushThreshold (productFrames today files productId) →
      KeysTogether other (productFrames today files productId) →
        (((processJsonDir other today files).file productId).map Row.key).Perm
          (((processJsonDir flushThreshold today files).file productId).map Row.key) := by
  refine ⟨⟨fun hwins => ?_, inStockWins_of_keysTogether today files productId⟩, ?_⟩
  · have hdistinct := hwins.distinct
    rw [file_processJsonDir] at hdistinct
    exact nodup_flatMap_dedupeBatch_iff.mp hdistinct
  · intro other htogether hother
    have hwins := inStockWins_of_keysTogether today files productId htogether
    have hwinsOther := inStockWins_of_keysTogether today files productId hother
    refine (List.perm_ext_iff_of_nodup hwinsOther.distinct hwins.distinct).mpr fun key => ?_
    rw [hwinsOther.mem_keys_iff, hwins.mem_keys_iff]

/-- Fewer rows than the threshold are written in one batch. -/
theorem keysTogether_of_lt {frames : List (List (Nat × Row))}
    (hfew : frames.flatten.length < flushThreshold) : KeysTogether flushThreshold frames := by
  have hone := @length_flushes_of_lt _ _ [] _ hfew
  rw [KeysTogether]
  cases hbatches : flushes flushThreshold [] frames with
  | nil => exact List.Pairwise.nil
  | cons batch rest =>
    rw [hbatches, List.length_cons] at hone
    obtain rfl : rest = [] := List.length_eq_zero_iff.mp (by omega)
    exact List.pairwise_singleton _ _

end Product

/-! ## Examples -/

/-- A product of an in-stock collection, and again in another one. -/
def inStockThenAll (variants : Nat) : List CollectionFile :=
  [⟨"in-stock-singles",
      [.product ⟨1, List.replicate variants ⟨some "Near Mint", some 5, some 0⟩, none, none⟩]⟩,
    ⟨"all-singles", [.product ⟨1, [⟨some "Near Mint", some 2, some 0⟩], none, none⟩]⟩]

/-- `_df_from_item` for both: the row of Near Mint at this price. -/
def nearMintAt (price : Rat) : Row := ⟨1, some 0, some "Near Mint", some price, 7, none, none⟩

theorem productFrames_inStockThenAll (variants : Nat) :
    productFrames 7 (inStockThenAll variants) 1 =
      [List.replicate variants (1, nearMintAt 5), [(0, nearMintAt 2)]] := by
  have hinStock : collectionTier "in-stock-singles" = 1 := by decide
  have hall : collectionTier "all-singles" = 0 := by decide
  simp [productFrames, framesOf, inStockThenAll, CollectionFile.products, readItem, Product.rows,
    List.takeWhile, hinStock, hall, nearMintAt]

theorem keysTogether_inStockThenAll {flushThreshold : Nat} (hmany : 2 < flushThreshold) :
    KeysTogether flushThreshold (productFrames 7 (inStockThenAll 1) 1) := by
  apply keysTogether_of_lt
  rw [productFrames_inStockThenAll]
  exact hmany

theorem inStockWins_two :
    InStockWins ((processJsonDir 100000 7 (inStockThenAll 1)).file 1)
        (productFrames 7 (inStockThenAll 1) 1).flatten ∧
      (((processJsonDir 3 7 (inStockThenAll 1)).file 1).map Row.key).Perm
        (((processJsonDir 100000 7 (inStockThenAll 1)).file 1).map Row.key) := by
  have hwins := @inStockWins_iff 100000 7 (inStockThenAll 1) 1
  have htogether : KeysTogether 100000 (productFrames 7 (inStockThenAll 1) 1) :=
    keysTogether_inStockThenAll (by decide)
  exact ⟨hwins.1.mpr htogether, hwins.2 3 htogether (keysTogether_inStockThenAll (by decide))⟩

theorem flushes_inStockThenAll {flushThreshold : Nat} (hmany : 1 < flushThreshold) :
    flushes flushThreshold [] (productFrames 7 (inStockThenAll flushThreshold) 1) =
      [List.replicate flushThreshold (1, nearMintAt 5), [(0, nearMintAt 2)]] := by
  have hnonempty : flushThreshold ≠ 0 := by omega
  have hfew : ¬ flushThreshold ≤ 1 := by omega
  rw [productFrames_inStockThenAll]
  simp [flushes, hnonempty, hfew]

/-- A product that fills the buffer in stock is written once more for the other collection. -/
theorem inStock_written_twice :
    ¬ InStockWins ((processJsonDir maxRowsPerProductBeforeFlush 7
        (inStockThenAll maxRowsPerProductBeforeFlush)).file 1)
      (productFrames 7 (inStockThenAll maxRowsPerProductBeforeFlush) 1).flatten := by
  intro hwins
  have hdistinct := hwins.distinct
  rw [file_processJsonDir, nodup_flatMap_dedupeBatch_iff,
    flushes_inStockThenAll (by decide : 1 < maxRowsPerProductBeforeFlush),
    List.pairwise_cons] at hdistinct
  have hfirst : ((1, nearMintAt 5) : Nat × Row) ∈
      List.replicate maxRowsPerProductBeforeFlush (1, nearMintAt 5) :=
    List.mem_replicate.mpr ⟨Nat.succ_ne_zero _, rfl⟩
  exact hdistinct.1 _ (List.mem_singleton_self _) _ hfirst _ (List.mem_singleton_self _) rfl

end AutoMana.Shopify
