import AutoMana.Staging.ExactlyOnce
import AutoMana.Staging.Rejects

/-!
# Deferred and immediate resolution

A price rejected by a load is retried once the catalogue knows its card. The
retry books every row under the source 'mtgstocks', whatever source the load was
called with, so it repeats what the load would have staged only for that source.
-/

namespace AutoMana.Staging

open Relational Pricing

/-- A foil-split row that a load rejected and a later call feeds back. Between
the two the catalogue was completed and products may have been added. -/
structure Deferral where
  priceSource : Table SourceId String
  cardGamesRef : Table Nat String
  source_name : String
  /-- The load, under the source code `source_name`. -/
  load : LoadContext
  source_of_load : anyIdWhere priceSource (· = source_name) = some load.sourceId
  raws : List RawPrice
  catalogueAtLoad : Catalogue
  productsAtLoad : Products
  fresh : load.supply.Fresh productsAtLoad
  scanAtLoad : ScanOrder catalogueAtLoad raws
  loaded : LoadedBatch
  stageBatch_eq :
    stageBatch load catalogueAtLoad productsAtLoad raws scanAtLoad = some loaded
  split : SplitPrice
  mem_splitBatch : split ∈ splitBatch load raws
  mem_rejected : rejectOf load.now split ∈ loaded.rejected
  /-- The retry, with the completed catalogue. -/
  retry : RetryContext
  supply_eq : retry.supply = load.supply
  source_of_retry : retryPreflight retry.locale priceSource cardGamesRef = .ok retry.sourceId
  catalogue : Catalogue
  products : Products
  products_grow : ProductsGrow load.supply productsAtLoad products
  rejects : SerialTable RejectPrice
  pLimit : Option Nat
  pOnlyUnresolved : Bool
  working : WorkingSet pLimit pOnlyUnresolved rejects
  scan : RetryScan catalogue working.rows
  choice : UpdateChoice
  result : RetryResult × Nat
  resolvePriceRejects_eq :
    resolvePriceRejects retry catalogue products rejects working scan choice = some result
  /-- The rejected row, where it is stored, and what it is fed back as. -/
  stored : Nat
  reject : RejectPrice
  get?_stored : rejects.table.get? stored = some reject
  toSplitPrice_reject : reject.toSplitPrice = split
  refed : StagedPrice
  mem_refed : (stored, refed) ∈ result.1.refed
  card : CardVersionId
  card_of_refed : refed.cardVersionId = some card

/-- The load with the completed catalogue stages a row for the foil-split row
that agrees with the one fed back. -/
def Deferral.Agrees (deferral : Deferral) (scan : ScanOrder deferral.catalogue deferral.raws) :
    Prop :=
  ∃ immediate, stageBatch deferral.load deferral.catalogue deferral.productsAtLoad deferral.raws
      scan = some immediate ∧
    ∃ resolution ∈ resolvePrice deferral.load deferral.catalogue deferral.raws scan deferral.split,
      ∃ staged ∈ stagedRows immediate.products deferral.load.sourceId
          (deferral.split, resolution),
        deferral.refed.sourceProductId = staged.sourceProductId ∧
        deferral.refed.productId = staged.productId ∧
        deferral.refed.prices = staged.prices ∧
        deferral.refed.isFoil = staged.isFoil ∧
        deferral.refed.scrapedAt = staged.scrapedAt

namespace Deferral

variable (deferral : Deferral)

end Deferral

/-- The catalogue once the print id 1 is known to be card 7. -/
def completedCatalogue : Catalogue := catalogueOf ⟨[((7, 1), "1")], by decide⟩

/-- The rejected price of print 1. -/
def sampleReject : RejectPrice := rejectOf 2 unidentified

def sampleRejects : SerialTable RejectPrice := SerialTable.empty.insert [sampleReject]

def sampleWorking : WorkingSet (some 50000) true sampleRejects where
  ordered := [(1, sampleReject)]
  perm := by decide +kernel
  sorted := List.pairwise_singleton _ _

def sampleRetry : RetryContext where
  locale := .posix
  supply := sampleSupply
  sourceId := 1
  now := 3

theorem sampleRetry_isSome : (resolvePriceRejects sampleRetry completedCatalogue noProducts
    sampleRejects sampleWorking (.inOrder true _ _) .inOrder).isSome := by
  decide +kernel

/-- What the retry of the sample reject writes. -/
def sampleResult : RetryResult × Nat :=
  (resolvePriceRejects sampleRetry completedCatalogue noProducts sampleRejects sampleWorking
    (.inOrder true _ _) .inOrder).get sampleRetry_isSome

theorem sampleResult_eq : resolvePriceRejects sampleRetry completedCatalogue noProducts
    sampleRejects sampleWorking (.inOrder true _ _) .inOrder = some sampleResult :=
  (Option.some_get _).symm

end AutoMana.Staging
