import AutoMana.Staging.Load

/-!
# resolve_price_rejects

The function resolves a limited working set of rejected prices again, feeds the
resolved ones back into staging, and marks rejects terminal: those that share the
scrape of a resolved row, and those whose Scryfall id was deleted upstream.
-/

namespace AutoMana.Staging

open Relational Pricing

/-- A rejected row with the place it is stored at, which the working set drops
and only the bookkeeping follows. -/
abbrev StoredReject := Nat × RejectPrice

/-- `(NOT p_only_unresolved) OR (resolved_at IS NULL AND is_terminal IS FALSE)` -/
def isCandidate (pOnlyUnresolved : Bool) (reject : RejectPrice) : Bool :=
  !pOnlyUnresolved || (reject.resolvedAt.isNone && !reject.isTerminal)

/-- The working set: candidates in order of `resolution_attempted_at`, up to the
limit if there is one. Rows attempted at the same time come in any order. -/
structure WorkingSet (pLimit : Option Nat) (pOnlyUnresolved : Bool)
    (rejects : SerialTable RejectPrice) where
  ordered : List StoredReject
  perm : ordered.Perm (rejects.table.rows.filter fun row => isCandidate pOnlyUnresolved row.2)
  sorted : ordered.Pairwise fun earlier later =>
    earlier.2.resolutionAttemptedAt ≤ later.2.resolutionAttemptedAt

/-- `tmp_rejects` -/
def WorkingSet.rows {pLimit : Option Nat} {pOnlyUnresolved : Bool}
    {rejects : SerialTable RejectPrice} (working : WorkingSet pLimit pOnlyUnresolved rejects) :
    List StoredReject :=
  working.ordered.take (pLimit.getD working.ordered.length)

theorem WorkingSet.mem_table {pLimit : Option Nat} {pOnlyUnresolved : Bool}
    {rejects : SerialTable RejectPrice} (working : WorkingSet pLimit pOnlyUnresolved rejects)
    {row : StoredReject} (hrow : row ∈ working.rows) : row ∈ rejects.table.rows :=
  (List.mem_filter.mp (working.perm.mem_iff.mp (List.mem_of_mem_take hrow))).1

/-- What a call is run with; `sourceId` is the id of the source 'mtgstocks'. -/
structure RetryContext where
  locale : TextLocale
  supply : IdSupply
  sourceId : SourceId
  now : Timestamp

/-- A row of `tmp_resolved`. -/
abbrev ResolvedReject := StoredReject × Resolution

def listingsOf (rows : List StoredReject) : List Listing :=
  rows.map fun row => row.2.toListing

/-- Which of several tied external matches comes first. -/
abbrev RetryScan (catalogue : Catalogue) (rows : List StoredReject) :=
  ExternalMap true catalogue (listingsOf rows)

def resolveReject (context : RetryContext) (catalogue : Catalogue) (rows : List StoredReject)
    (scan : RetryScan catalogue rows) (reject : RejectPrice) : List Resolution :=
  resolve true context.locale catalogue (listingsOf rows) (listingsOf rows) scan reject.toListing

/-- The temporary table `tmp_resolved`. -/
def retryResolved (context : RetryContext) (catalogue : Catalogue) (rows : List StoredReject)
    (scan : RetryScan catalogue rows) : List ResolvedReject :=
  rows.flatMap fun row =>
    (resolveReject context catalogue rows scan row.2).map (row, ·)

def retryCards (resolved : List ResolvedReject) : List CardVersionId :=
  resolved.filterMap fun row => row.2.map Prod.fst

/-- The pairs the back-fill learns from: rows resolved otherwise than by print id. -/
def learntPrints (resolved : List ResolvedReject) : List (Int × CardVersionId) :=
  resolved.filterMap fun row =>
    (row.2.filter (·.2 ≠ .printId)).map fun card => (row.1.2.printId, card.1)

/-- The rows fed back into staging for one resolved row: none when it has no price. -/
def refedRows (products : Products) (sourceId : SourceId) (row : ResolvedReject) :
    List (Nat × StagedPrice) :=
  if row.1.2.prices.allNull then []
  else (stagedRows products sourceId (row.1.2.toSplitPrice, row.2)).map (row.1.1, ·)

/-! ## Marking rejects terminal -/

/-- The match key of the update: one scrape of a day, print, foil flag, source,
and provider. It is not a key of the table. -/
def sameScrape (reject resolved : RejectPrice) : Bool :=
  reject.tsDate = resolved.tsDate && reject.printId = resolved.printId &&
    reject.isFoil = resolved.isFoil && reject.sourceCode = resolved.sourceCode &&
    reject.dataProviderId = resolved.dataProviderId && reject.scrapedAt = resolved.scrapedAt

/-- A row of `tmp_resolved JOIN mtg_card_products JOIN source_product`. -/
structure RejectMatch where
  card : CardVersionId
  method : Method
  product : ProductId × SourceProductId

/-- The joined rows that share the scrape of a reject. -/
def matchesOf (products : Products) (sourceId : SourceId) (resolved : List ResolvedReject)
    (reject : RejectPrice) : List RejectMatch :=
  (resolved.filter fun row => sameScrape reject row.1.2).flatMap fun row =>
    row.2.toList.flatMap fun card =>
      (productLookup products sourceId card.1).map fun product => ⟨card.1, card.2, product⟩

/-- Which of several joined rows the update of a stored reject takes. -/
structure UpdateChoice where
  pick : Nat → List RejectMatch → Option RejectMatch
  isOneOf : ∀ stored found, IsOneOf found (pick stored found)

/-- The choice that takes the joined rows as they come. -/
def UpdateChoice.inOrder : UpdateChoice where
  pick := fun _ => List.head?
  isOneOf := fun _ found => by cases found <;> simp [IsOneOf]

def markResolved (now : Timestamp) (found : RejectMatch) (reject : RejectPrice) : RejectPrice :=
  { reject with
    resolvedAt := some now
    resolvedCardVersionId := some found.card
    resolvedMethod := some found.method.text
    resolvedProductId := some found.product.1
    resolvedSourceProductId := some found.product.2
    isTerminal := true
    terminalReason := some ("Resolved via " ++ found.method.text ++ " mapping") }

/-- `m.migration_strategy = 'delete' AND m.old_scryfall_id::text = r.scryfall_id` -/
def deletedUpstream (catalogue : Catalogue) (reject : RejectPrice) : Bool :=
  catalogue.scryfallMigration.any fun migration =>
    migration.migrationStrategy = "delete" &&
      reject.scryfallId = some migration.oldScryfallId.text

def markDeleted (now : Timestamp) (reject : RejectPrice) : RejectPrice :=
  { reject with
    resolvedAt := some now
    isTerminal := true
    terminalReason := some "Scryfall migration delete and no alternative identifiers" }

/-- Both updates, over the whole reject table. -/
def markReject (context : RetryContext) (catalogue : Catalogue) (products : Products)
    (resolved : List ResolvedReject) (choice : UpdateChoice) (stored : Nat) (reject : RejectPrice) :
    RejectPrice :=
  let marked := match choice.pick stored (matchesOf products context.sourceId resolved reject) with
    | none => reject
    | some found => markResolved context.now found reject
  -- the second update reads `scryfall_id`, which the first leaves alone
  if deletedUpstream catalogue marked then markDeleted context.now marked else marked

/-! ## One call -/

/-- What a call writes; the rows fed back carry the place of their reject. -/
structure RetryResult where
  refed : List (Nat × StagedPrice)
  rejects : SerialTable RejectPrice
  products : Products
  catalogue : Catalogue

/-- The function after its pre-flight; `none` when a statement of it raises. It
returns the number of rows fed back. -/
def resolvePriceRejects (context : RetryContext) (catalogue : Catalogue) (products : Products)
    (rejects : SerialTable RejectPrice) {pLimit : Option Nat} {pOnlyUnresolved : Bool}
    (working : WorkingSet pLimit pOnlyUnresolved rejects) (scan : RetryScan catalogue working.rows)
    (choice : UpdateChoice) : Option (RetryResult × Nat) :=
  if malformedScryfallId (listingsOf working.rows) then none
  else
    let resolved := retryResolved context catalogue working.rows scan
    (ensureProducts context.supply context.sourceId (retryCards resolved) products).map
      fun products =>
        let refed := resolved.flatMap (refedRows products context.sourceId)
        ({ refed
           rejects := rejects.mapValues (markReject context catalogue products resolved choice)
           products
           catalogue := backfill catalogue (learntPrints resolved) }, refed.length)

/-- The pre-flight: `v_source_id` of the source 'mtgstocks', and the check that the
game is known. -/
def retryPreflight (locale : TextLocale) (priceSource : Table SourceId String)
    (cardGamesRef : Table Nat String) : Except String SourceId :=
  match anyIdWhere priceSource (· = "mtgstocks") with
  | none => throw "Missing source_code=mtgstocks in pricing.price_source"
  | some v_source_id =>
    match anyIdWhere cardGamesRef fun code =>
      locale.lower code ∈ ["mtg", "magic", "magic_the_gathering"] with
    | none => throw "Could not resolve MTG game_id"
    | some _ => pure v_source_id

end AutoMana.Staging
