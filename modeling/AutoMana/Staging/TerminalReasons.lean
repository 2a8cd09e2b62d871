import AutoMana.Staging.DeferredResolution

/-!
# Why a reject is terminal

A call marks a reject terminal in two updates over the whole table: where it
shares the scrape of a row resolved in this call, and where its Scryfall id was
deleted upstream. Neither asks whether the reject was itself fed back, whether
another of its identifiers resolves, or whether an earlier call already resolved
it.
-/

namespace AutoMana.Staging

open Relational Pricing

/-- Not resolved and not terminal. -/
def isUnresolved (reject : RejectPrice) : Bool := reject.resolvedAt.isNone && !reject.isTerminal

/-- Some identifier other than the Scryfall id finds a card. -/
def otherIdentifierResolves (locale : TextLocale) (catalogue : Catalogue) (listing : Listing) :
    Bool :=
  !(printCards catalogue listing).isEmpty ||
    (externalCards true catalogue listing).any (·.1 ≠ 1) ||
    !(fallbackCards locale catalogue listing).isEmpty ||
    !(artCards locale catalogue listing).isEmpty ||
    !(tokenCards locale catalogue listing).isEmpty

/-- After the call, a row that was unresolved is terminal only if its own prices
were fed back, or its Scryfall id was deleted upstream and none of its other
identifiers resolves; and a row resolved before is unchanged. -/
structure TerminalForTrueReason (locale : TextLocale) (catalogue : Catalogue)
    (rejects : SerialTable RejectPrice) (result : RetryResult) : Prop where
  unresolved : ∀ stored before after, rejects.table.get? stored = some before →
    result.rejects.table.get? stored = some after → isUnresolved before → after.isTerminal →
    (∃ staged, (stored, staged) ∈ result.refed ∧ staged.prices = before.prices) ∨
      (deletedUpstream catalogue before ∧
        ¬ otherIdentifierResolves locale catalogue before.toListing)
  resolved : ∀ stored before after, rejects.table.get? stored = some before →
    result.rejects.table.get? stored = some after → before.resolvedAt.isSome → after = before

variable (context : RetryContext) (catalogue : Catalogue) (rows : List StoredReject)

/-- Some method finds a card for a row of the working set. -/
def GetsCard (row : StoredReject) : Prop :=
  FindsCard true context.locale catalogue (listingsOf rows) row.2.toListing

/-- The reject shares the scrape of a row of the working set that gets a card. -/
def SharesResolvedScrape (reject : RejectPrice) : Prop :=
  ∃ row ∈ rows, GetsCard context catalogue rows row ∧ sameScrape reject row.2

/-- The stored reject is in the working set, gets a card, and has a price. -/
def IsRefed (stored : Nat) : Prop :=
  ∃ row ∈ rows, GetsCard context catalogue rows row ∧ row.1 = stored ∧ ¬ row.2.prices.allNull

/-- Each unresolved reject that shares the scrape of a row that gets a card, or was
deleted upstream, itself gets a card and has a price, or was deleted upstream
with none of its other identifiers resolving; and no reject resolved before
shares such a scrape or was deleted upstream. -/
def MarksForTrueReason (rejects : SerialTable RejectPrice) : Prop :=
  ∀ row ∈ rejects.table.rows,
    (isUnresolved row.2 →
      SharesResolvedScrape context catalogue rows row.2 ∨ deletedUpstream catalogue row.2 →
      IsRefed context catalogue rows row.1 ∨
        (deletedUpstream catalogue row.2 ∧
          ¬ otherIdentifierResolves context.locale catalogue row.2.toListing)) ∧
    (row.2.resolvedAt.isSome →
      ¬ SharesResolvedScrape context catalogue rows row.2 ∧ ¬ deletedUpstream catalogue row.2)

variable {context catalogue rows}

/-- The rows of `tmp_resolved` with a card are those of the working set that get one. -/
theorem exists_retryResolved_iff (scan : RetryScan catalogue rows) (P : StoredReject → Prop) :
    (∃ row ∈ retryResolved context catalogue rows scan, row.2.isSome ∧ P row.1) ↔
      ∃ row ∈ rows, GetsCard context catalogue rows row ∧ P row := by
  have hgets {row : StoredReject} (hrow : row ∈ rows) :
      (∃ resolution ∈ resolveReject context catalogue rows scan row.2, resolution.isSome) ↔
        GetsCard context catalogue rows row :=
    exists_isSome_resolve_iff scan (List.mem_map_of_mem (f := fun row => row.2.toListing) hrow)
  constructor
  · intro hresolved
    obtain ⟨_, hmem, hcard, hrow⟩ := hresolved
    simp only [retryResolved, List.mem_flatMap, List.mem_map] at hmem
    obtain ⟨row, hworking, resolution, hresolution, rfl⟩ := hmem
    exact ⟨row, hworking, (hgets hworking).mp ⟨resolution, hresolution, hcard⟩, hrow⟩
  · intro hworking
    obtain ⟨row, hmem, hcard, hrow⟩ := hworking
    obtain ⟨resolution, hresolution, hsome⟩ := (hgets hmem).mpr hcard
    refine ⟨(row, resolution), ?_, hsome, hrow⟩
    exact List.mem_flatMap.mpr ⟨row, hmem, List.mem_map_of_mem hresolution⟩

section

variable {products next : Products} {scan : RetryScan catalogue rows}

/-- Every row with a card joins to a product, so the match key decides the update. -/
theorem matchesOf_ne_nil_iff
    (hensure : ensureProducts context.supply context.sourceId
      (retryCards (retryResolved context catalogue rows scan)) products = some next)
    (reject : RejectPrice) :
    matchesOf next context.sourceId (retryResolved context catalogue rows scan) reject ≠ [] ↔
      SharesResolvedScrape context catalogue rows reject := by
  rw [SharesResolvedScrape, ← exists_retryResolved_iff scan]
  simp only [matchesOf, ne_eq, List.flatMap_eq_nil_iff, List.mem_filter, List.map_eq_nil_iff,
    not_forall]
  constructor
  · intro hmatch
    obtain ⟨row, ⟨hrow, hscrape⟩, card, hcard, -⟩ := hmatch
    exact ⟨row, hrow, by simp [Option.mem_toList.mp hcard], hscrape⟩
  · intro hmatch
    obtain ⟨row, hrow, hcard, hscrape⟩ := hmatch
    obtain ⟨card, hcard⟩ := Option.isSome_iff_exists.mp hcard
    -- the products of every card found were ensured before the update
    have hmem : card.1 ∈ retryCards (retryResolved context catalogue rows scan) :=
      List.mem_filterMap.mpr ⟨row, hrow, by simp [hcard]⟩
    obtain ⟨product, hproduct⟩ := productLookup_of_ensure hensure hmem
    exact ⟨row, ⟨hrow, hscrape⟩, card, Option.mem_toList.mpr hcard, by simp [hproduct]⟩

/-- What the two updates do to one reject. -/
theorem markReject_cases (choice : UpdateChoice)
    (hensure : ensureProducts context.supply context.sourceId
      (retryCards (retryResolved context catalogue rows scan)) products = some next)
    (stored : Nat) (reject : RejectPrice) {after : RejectPrice}
    (hafter : markReject context catalogue next (retryResolved context catalogue rows scan) choice
      stored reject = after) :
    (¬ (SharesResolvedScrape context catalogue rows reject ∨ deletedUpstream catalogue reject) ∧
        after = reject) ∨
      ((SharesResolvedScrape context catalogue rows reject ∨ deletedUpstream catalogue reject) ∧
        after.isTerminal = true ∧ after.resolvedAt = some context.now) := by
  have hshares := (choice.isOneOf stored _).isSome_iff.trans (matchesOf_ne_nil_iff hensure reject)
  rw [← hshares]
  subst hafter
  cases hpick : choice.pick stored
      (matchesOf next context.sourceId (retryResolved context catalogue rows scan) reject) with
  | none =>
      cases hdeleted : deletedUpstream catalogue reject with
      | false => exact Or.inl ⟨by simp, by simp [markReject, hpick, hdeleted]⟩
      | true =>
          refine Or.inr ⟨Or.inr rfl, ?_, ?_⟩
          · simp [markReject, hpick, hdeleted, markDeleted]
          · simp [markReject, hpick, hdeleted, markDeleted]
  | some found =>
      refine Or.inr ⟨Or.inl rfl, ?_, ?_⟩
      · simp only [markReject, hpick]
        split_ifs <;> rfl
      · simp only [markReject, hpick]
        split_ifs <;> rfl

/-- What is fed back for a stored reject: its own prices, when it gets a card and
has a price. -/
theorem exists_refed_iff
    (hensure : ensureProducts context.supply context.sourceId
      (retryCards (retryResolved context catalogue rows scan)) products = some next)
    {rejects : SerialTable RejectPrice} (hrows : ∀ row ∈ rows, row ∈ rejects.table.rows)
    {stored : Nat} {before : RejectPrice} (hbefore : rejects.table.get? stored = some before) :
    (∃ staged, (stored, staged) ∈ (retryResolved context catalogue rows scan).flatMap
        (refedRows next context.sourceId) ∧ staged.prices = before.prices) ↔
      IsRefed context catalogue rows stored := by
  rw [IsRefed, ← exists_retryResolved_iff scan]
  simp only [List.mem_flatMap]
  constructor
  · intro hrefed
    obtain ⟨staged, ⟨row, hrow, hmem⟩, -⟩ := hrefed
    simp only [refedRows] at hmem
    split_ifs at hmem with hnull
    · simp at hmem
    · obtain ⟨other, hother, hsame⟩ := List.mem_map.mp hmem
      obtain ⟨card, method, product, hcard, -⟩ := mem_stagedRows.mp hother
      exact ⟨row, hrow, by simp [hcard], congrArg Prod.fst hsame, hnull⟩
  · intro hrefed
    obtain ⟨row, hrow, hcard, hid, hnull⟩ := hrefed
    obtain ⟨card, hcard⟩ := Option.isSome_iff_exists.mp hcard
    have hmem : card.1 ∈ retryCards (retryResolved context catalogue rows scan) :=
      List.mem_filterMap.mpr ⟨row, hrow, by simp [hcard]⟩
    obtain ⟨product, hproduct⟩ := productLookup_of_ensure hensure hmem
    have hworking : row.1 ∈ rows := by
      simp only [retryResolved, List.mem_flatMap, List.mem_map] at hrow
      obtain ⟨working, hworking, resolution, -, rfl⟩ := hrow
      exact hworking
    have hrowBefore : row.1.2 = before := by
      have hget := (Table.mem_rows_iff _ _ _).mp (hrows row.1 hworking)
      rw [hid, hbefore, Option.some.injEq] at hget
      exact hget.symm
    refine ⟨stagedOf row.1.2.toSplitPrice card.1 product, ⟨row, hrow, ?_⟩, ?_⟩
    · simp [refedRows, hnull, stagedRows, hcard, hproduct, hid]
    · rw [← hrowBefore]
      rfl

end

/-- A call marks rejects terminal for true reasons only exactly when the rejects
its two updates hit have such a reason. -/
theorem terminal_for_true_reason_iff {context : RetryContext} {catalogue : Catalogue}
    {products : Products} {rejects : SerialTable RejectPrice} {pLimit : Option Nat}
    {pOnlyUnresolved : Bool} {working : WorkingSet pLimit pOnlyUnresolved rejects}
    {scan : RetryScan catalogue working.rows} {choice : UpdateChoice}
    {result : RetryResult × Nat}
    (hresult : resolvePriceRejects context catalogue products rejects working scan choice =
      some result)
    (hearlier : ∀ row ∈ rejects.table.rows, ∀ resolvedAt ∈ row.2.resolvedAt,
      resolvedAt < context.now) :
    TerminalForTrueReason context.locale catalogue rejects result.1 ↔
      MarksForTrueReason context catalogue working.rows rejects := by
  simp only [resolvePriceRejects, Option.ite_none_left_eq_some, Option.map_eq_some_iff] at hresult
  obtain ⟨-, next, hensure, rfl⟩ := hresult
  have hrows : ∀ row ∈ working.rows, row ∈ rejects.table.rows := fun _ => working.mem_table
  have hget (stored : Nat) := Table.get?_mapValues rejects.table
    (markReject context catalogue next (retryResolved context catalogue working.rows scan) choice)
    stored
  constructor
  · intro htrue row hrow
    have hbefore := (Table.mem_rows_iff _ _ _).mp hrow
    have hafter := (hget row.1).trans (congrArg _ hbefore)
    have hcases := markReject_cases choice hensure row.1 row.2 rfl
    constructor
    · intro hunresolved hhit
      rcases hcases with ⟨hnot, -⟩ | ⟨-, hterminal, -⟩
      · exact absurd hhit hnot
      · have hreason := htrue.unresolved _ _ _ hbefore hafter hunresolved hterminal
        exact hreason.imp_left (exists_refed_iff hensure hrows hbefore).mp
    · intro hresolvedBefore
      rw [← not_or]
      intro hhit
      rcases hcases with ⟨hnot, -⟩ | ⟨-, -, hnow⟩
      · exact hnot hhit
      · -- the update would move `resolved_at` to the time of this call
        rw [htrue.resolved _ _ _ hbefore hafter hresolvedBefore] at hnow
        exact lt_irrefl _ (hearlier row hrow context.now hnow)
  · intro hmarks
    refine ⟨?_, ?_⟩
    · intro stored before after hbefore hafter hunresolved hterminal
      have hrow := hmarks (stored, before) ((Table.mem_rows_iff _ _ _).mpr hbefore)
      have hmarked := (hget stored).symm.trans hafter
      rw [hbefore, Option.map_some, Option.some.injEq] at hmarked
      rcases markReject_cases choice hensure stored before hmarked with ⟨-, hsame⟩ | ⟨hhit, -, -⟩
      · simp [isUnresolved, ← hsame, hterminal] at hunresolved
      · exact (hrow.1 hunresolved hhit).imp_left (exists_refed_iff hensure hrows hbefore).mpr
    · intro stored before after hbefore hafter hresolvedBefore
      have hrow := hmarks (stored, before) ((Table.mem_rows_iff _ _ _).mpr hbefore)
      have hmarked := (hget stored).symm.trans hafter
      rw [hbefore, Option.map_some, Option.some.injEq] at hmarked
      rcases markReject_cases choice hensure stored before hmarked with ⟨-, hsame⟩ | ⟨hhit, -, -⟩
      · exact hsame
      · exact absurd hhit (not_or.mpr (hrow.2 hresolvedBefore))

/-! ## A reject that is fed back -/

/-- The reject is terminal because its price was fed back. -/
theorem terminal_for_true_reason_refed :
    TerminalForTrueReason sampleRetry.locale completedCatalogue sampleRejects sampleResult.1 := by
  apply (terminal_for_true_reason_iff sampleResult_eq (by decide +kernel)).mpr
  intro row hrow
  obtain rfl : row = (1, sampleReject) := List.mem_singleton.mp hrow
  constructor
  · intro _ _
    exact Or.inl ⟨(1, sampleReject), by decide +kernel, Or.inl (by decide +kernel), rfl,
      by decide +kernel⟩
  · intro hresolved
    exact absurd hresolved (by decide +kernel)

/-! ## A resolved row whose Scryfall id is deleted later -/

def deletedUuid : Uuid := ⟨List.replicate 32 0, by decide⟩

def deletedCatalogue : Catalogue :=
  { catalogueOf .empty with
    scryfallMigration := [⟨"delete", deletedUuid, none⟩] }

/-- A reject that an earlier call resolved by its print id. -/
def resolvedEarlier : RejectPrice :=
  { sampleReject with
    scryfallId := some deletedUuid.text
    isTerminal := true
    terminalReason := some "Resolved via PRINT_ID mapping"
    resolvedAt := some 1
    resolvedCardVersionId := some 7
    resolvedMethod := some "PRINT_ID" }

def earlierRejects : SerialTable RejectPrice := SerialTable.empty.insert [resolvedEarlier]

def noCandidates : WorkingSet (some 50000) true earlierRejects where
  ordered := []
  perm := by decide +kernel
  sorted := .nil

theorem earlierRejects_resolved :
    ∀ row ∈ earlierRejects.table.rows, ∀ resolvedAt ∈ row.2.resolvedAt,
      resolvedAt < sampleRetry.now := by
  decide +kernel

/-- The next call overwrites the reason of a reject resolved before. -/
theorem resolved_row_is_overwritten :
    ¬ ∀ (context : RetryContext) (catalogue : Catalogue) (products : Products)
      (rejects : SerialTable RejectPrice) (pLimit : Option Nat) (pOnlyUnresolved : Bool)
      (working : WorkingSet pLimit pOnlyUnresolved rejects)
      (scan : RetryScan catalogue working.rows) (choice : UpdateChoice)
      (result : RetryResult × Nat),
      resolvePriceRejects context catalogue products rejects working scan choice = some result →
      (∀ row ∈ rejects.table.rows, ∀ resolvedAt ∈ row.2.resolvedAt, resolvedAt < context.now) →
      TerminalForTrueReason context.locale catalogue rejects result.1 := by
  intro htrue
  have hkept := (htrue sampleRetry deletedCatalogue noProducts earlierRejects (some 50000) true
    noCandidates (.inOrder true _ _) .inOrder
    ((resolvePriceRejects sampleRetry deletedCatalogue noProducts earlierRejects noCandidates
      (.inOrder true _ _) .inOrder).get (by decide +kernel))
    (Option.some_get _).symm earlierRejects_resolved).resolved 1 resolvedEarlier
      (markDeleted 3 resolvedEarlier) (by decide +kernel) (by decide +kernel) rfl
  revert hkept
  decide +kernel

end AutoMana.Staging
