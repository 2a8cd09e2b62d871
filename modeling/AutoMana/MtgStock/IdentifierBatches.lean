import AutoMana.MtgStock.IdentifierResolution

/-!
# Batches of any size

A run over batches gives each card without a print the first of its prints, however the
prints are cut into batches, unless two prints share an identifier or go back to an earlier
step.
-/

namespace AutoMana.MtgStock

open Relational Pricing

section Run

variable {catalogue : Catalogue} {folder : Folder} {external : ExternalIdentifiers}
  {card : CardVersionId}

/-- The entries of prints. -/
def dataOf (catalogue : Catalogue) (folder : Folder) (printIds : List Int) : List IdData :=
  printIds.filterMap fun printId => (readInfo catalogue folder printId).join

theorem printId_of_readInfo {printId : Int} {d : IdData}
    (hread : readInfo catalogue folder printId = some (some d)) : d.printId = printId := by
  unfold readInfo at hread
  split at hread
  · cases hread
  · cases hread
  · obtain ⟨d', hd', hsame⟩ := Option.map_eq_some_iff.mp hread
    obtain rfl := Option.some.inj hsame
    simp only [idData?, Option.bind_eq_bind, Option.bind_eq_some_iff, Option.pure_def,
      Option.some.injEq] at hd'
    obtain ⟨_, -, _, -, _, -, _, -, _, -, rfl⟩ := hd'
    rfl

theorem oneEntry_dataOf (printIds : List Int) : OneEntry (dataOf catalogue folder printIds) := by
  intro d hd d' hd' hsame
  obtain ⟨printId, -, hread⟩ := List.mem_filterMap.mp hd
  obtain ⟨printId', -, hread'⟩ := List.mem_filterMap.mp hd'
  rw [Option.join_eq_some_iff] at hread hread'
  rw [printId_of_readInfo hread, printId_of_readInfo hread'] at hsame
  rw [hsame, hread'] at hread
  exact (Option.some.inj (Option.some.inj hread)).symm

theorem mapBatch_cases {state next : MapState} {batchIds : List Int}
    (hbatch : mapBatch catalogue folder state batchIds = some next) :
    next.external = upsertMtgstockIdMappings catalogue
      (resolveBatch catalogue state.external (dataOf catalogue folder batchIds))
      state.external := by
  simp only [mapBatch, Option.bind_eq_bind, Option.bind_eq_some_iff, Option.pure_def,
    Option.some.injEq] at hbatch
  obtain ⟨infoResults, hread, rfl⟩ := hbatch
  have hdata : infoResults.reduceOption = dataOf catalogue folder batchIds := by
    rw [mapM_eq_filterMap (isSome_of_mapM hread), Option.some.injEq] at hread
    rw [← hread, List.reduceOption, List.filterMap_filterMap, dataOf]
    rfl
  rw [hdata]

/-- A batch changes none of the identifiers that are asked for. -/
theorem identifiedBy_mapBatch {state next : MapState} {batchIds : List Int}
    (hbatch : mapBatch catalogue folder state batchIds = some next) :
    identifiedBy catalogue next.external = identifiedBy catalogue state.external := by
  funext d
  have hscryfall : ("scryfall_id" : String) ≠ "mtgstock_id" := by decide
  have htcgplayer : ("tcgplayer_id" : String) ≠ "mtgstock_id" := by decide
  rw [identifiedBy, identifiedBy, mapBatch_cases hbatch, identifiers_upsert hscryfall,
    identifiers_upsert htcgplayer]

theorem stepOf_congr {external' : ExternalIdentifiers}
    (hsame : identifiedBy catalogue external' = identifiedBy catalogue external) :
    stepOf catalogue external' = stepOf catalogue external := by
  funext d
  rw [stepOf, stepOf, resolution, resolution, hsame]

/-- The print id that the entries give a card. -/
def firstPrint (catalogue : Catalogue) (external : ExternalIdentifiers) (card : CardVersionId)
    (data : List IdData) : Option String :=
  (data.filter fun d =>
    (stepOf catalogue external d).map Prod.snd = some card).head?.map fun d => toString d.printId

/-- A batch gives a card its first print, when the card has none. -/
theorem get?_mapBatch {state next : MapState} {batchIds : List Int}
    (hbatch : mapBatch catalogue folder state batchIds = some next)
    (hdistinct : Distinct catalogue state.external (dataOf catalogue folder batchIds))
    (hordered : state.external.get? (card, catalogue.mtgstockRefId) = none →
      Ordered catalogue state.external card (dataOf catalogue folder batchIds)) :
    next.external.get? (card, catalogue.mtgstockRefId) =
      (state.external.get? (card, catalogue.mtgstockRefId)).or
        (firstPrint catalogue state.external card (dataOf catalogue folder batchIds)) := by
  rw [mapBatch_cases hbatch, upsertMtgstockIdMappings, Table.get?_insertMissing]
  cases hstored : state.external.get? (card, catalogue.mtgstockRefId) with
  | some value => rfl
  | none =>
    have hfirst := head?_resolveBatch (oneEntry_dataOf batchIds) hdistinct (hordered hstored)
    have hrows :
        ((resolveBatch catalogue state.external (dataOf catalogue folder batchIds)).rows.map
          fun row => ((row.2, catalogue.mtgstockRefId), toString row.1)).filter
          (fun row => decide (row.1 = (card, catalogue.mtgstockRefId))) =
        ((resolveBatch catalogue state.external (dataOf catalogue folder batchIds)).rows.filter
          fun entry => entry.2 = card).map
            fun row => ((row.2, catalogue.mtgstockRefId), toString row.1) := by
      rw [List.filter_map]
      congr 1
      apply List.filter_congr
      intro entry _
      simp
    rw [Option.none_or, Option.none_or, hrows, List.head?_map, Option.map_map]
    have hprints := congrArg (Option.map toString) hfirst
    rw [Option.map_map, Option.map_map] at hprints
    exact hprints

/-- What a card has after a run over batches does not depend on how they are cut. -/
theorem get?_of_run {state next : MapState} {batches : List (List Int)}
    (hrun : batches.foldlM (mapBatch catalogue folder) state = some next)
    (hdistinct : Distinct catalogue state.external (dataOf catalogue folder batches.flatten))
    (hordered : state.external.get? (card, catalogue.mtgstockRefId) = none →
      Ordered catalogue state.external card (dataOf catalogue folder batches.flatten)) :
    next.external.get? (card, catalogue.mtgstockRefId) =
      (state.external.get? (card, catalogue.mtgstockRefId)).or
        (firstPrint catalogue state.external card
          (dataOf catalogue folder batches.flatten)) := by
  induction batches generalizing state with
  | nil =>
    obtain rfl := Option.some.inj hrun
    exact (Option.or_none).symm
  | cons batchIds rest ih =>
    rw [List.foldlM_cons, Option.bind_eq_bind, Option.bind_eq_some_iff] at hrun
    obtain ⟨middle, hmiddle, hnext⟩ := hrun
    have hsplit : dataOf catalogue folder (batchIds :: rest).flatten =
        dataOf catalogue folder batchIds ++ dataOf catalogue folder rest.flatten := by
      rw [List.flatten_cons, dataOf, List.filterMap_append]
      rfl
    rw [hsplit] at hdistinct hordered ⊢
    have hsame := identifiedBy_mapBatch hmiddle
    have hhead : middle.external.get? (card, catalogue.mtgstockRefId) =
        (state.external.get? (card, catalogue.mtgstockRefId)).or
          (firstPrint catalogue state.external card (dataOf catalogue folder batchIds)) := by
      apply get?_mapBatch hmiddle
      · exact fun d hd d' hd' =>
          hdistinct d (List.mem_append_left _ hd) d' (List.mem_append_left _ hd')
      · exact fun hfree => (List.pairwise_append.mp (hordered hfree)).1
    have hrest : Distinct catalogue middle.external (dataOf catalogue folder rest.flatten) := by
      intro d hd d' hd'
      rw [hsame]
      exact hdistinct d (List.mem_append_right _ hd) d' (List.mem_append_right _ hd')
    have hrest' : middle.external.get? (card, catalogue.mtgstockRefId) = none →
        Ordered catalogue middle.external card (dataOf catalogue folder rest.flatten) := by
      intro hfree
      rw [hhead, Option.or_eq_none_iff] at hfree
      rw [Ordered, stepOf_congr hsame]
      exact (List.pairwise_append.mp (hordered hfree.1)).2.1
    rw [ih hnext hrest hrest', hhead, Option.or_assoc]
    congr 1
    rw [firstPrint, firstPrint, firstPrint, stepOf_congr hsame, List.filter_append,
      List.head?_append, Option.map_or]

/-- A run raises on the files it reads, however they are cut into batches. -/
theorem isSome_run_iff {state : MapState} {batches : List (List Int)} :
    (batches.foldlM (mapBatch catalogue folder) state).isSome ↔
      ∀ printId ∈ batches.flatten, (readInfo catalogue folder printId).isSome := by
  induction batches generalizing state with
  | nil => simp
  | cons batchIds rest ih =>
    rw [List.foldlM_cons, Option.bind_eq_bind, List.flatten_cons, List.forall_mem_append]
    cases hbatch : mapBatch catalogue folder state batchIds with
    | none =>
      refine iff_of_false Bool.false_ne_true ?_
      intro hread
      rw [mapBatch, mapM_eq_filterMap hread.1] at hbatch
      cases hbatch
    | some middle =>
      rw [Option.bind_some, ih]
      refine ⟨fun hrest => ⟨?_, hrest⟩, fun hread => hread.2⟩
      simp only [mapBatch, Option.bind_eq_bind, Option.bind_eq_some_iff] at hbatch
      obtain ⟨infoResults, hread, -⟩ := hbatch
      exact isSome_of_mapM hread

/-- The print ids of the cards. -/
def mappings (catalogue : Catalogue) (state : MapState) (card : CardVersionId) : Option String :=
  state.external.get? (card, catalogue.mtgstockRefId)

/-- The mapping is that of any other batch size, and a print that a batch of its own resolves
is resolved. -/
structure BatchingDoesNotMatter (catalogue : Catalogue) (folder : Folder)
    (external : ExternalIdentifiers) : Prop where
  mappings : ∀ batchSize batchSize', 0 < batchSize → 0 < batchSize' →
    (buildMtgstockIdMapping catalogue folder batchSize external).map (mappings catalogue) =
      (buildMtgstockIdMapping catalogue folder batchSize' external).map (mappings catalogue)
  resolves : ∀ batchSize, 0 < batchSize →
    ∀ unmapped, unmappedIds catalogue folder external = some unmapped →
    ∀ before batchIds after, unmapped.toChunks batchSize = before ++ batchIds :: after →
    ∀ middle, before.foldlM (mapBatch catalogue folder) ⟨external, 0, 0⟩ = some middle →
    ∀ d ∈ dataOf catalogue folder batchIds,
      ((resolveBatch catalogue middle.external [d]).get? d.printId).isSome →
      ((resolveBatch catalogue middle.external
        (dataOf catalogue folder batchIds)).get? d.printId).isSome

/-- No two prints to map are found by one identifier, and the prints of a card without one do
not go back to an earlier step. -/
structure Undisturbed (catalogue : Catalogue) (folder : Folder)
    (external : ExternalIdentifiers) : Prop where
  distinct : ∀ unmapped, unmappedIds catalogue folder external = some unmapped →
    Distinct catalogue external (dataOf catalogue folder unmapped)
  ordered : ∀ unmapped, unmappedIds catalogue folder external = some unmapped →
    ∀ card, external.get? (card, catalogue.mtgstockRefId) = none →
      Ordered catalogue external card (dataOf catalogue folder unmapped)

theorem identifiedBy_of_run {state next : MapState} {batches : List (List Int)}
    (hrun : batches.foldlM (mapBatch catalogue folder) state = some next) :
    identifiedBy catalogue next.external = identifiedBy catalogue state.external := by
  induction batches generalizing state with
  | nil =>
    obtain rfl := Option.some.inj hrun
    rfl
  | cons batchIds rest ih =>
    rw [List.foldlM_cons, Option.bind_eq_bind, Option.bind_eq_some_iff] at hrun
    obtain ⟨middle, hmiddle, hnext⟩ := hrun
    rw [ih hnext, identifiedBy_mapBatch hmiddle]

/-- What a run leaves, in terms of no batch size. -/
theorem build_eq (hundisturbed : Undisturbed catalogue folder external) (batchSize : Nat) :
    (buildMtgstockIdMapping catalogue folder batchSize external).map (mappings catalogue) =
      (unmappedIds catalogue folder external).bind fun unmapped =>
        if ∀ printId ∈ unmapped, (readInfo catalogue folder printId).isSome then
          some fun card => (external.get? (card, catalogue.mtgstockRefId)).or
            (firstPrint catalogue external card (dataOf catalogue folder unmapped))
        else none := by
  rw [buildMtgstockIdMapping]
  cases hunmapped : unmappedIds catalogue folder external with
  | none => rfl
  | some unmapped =>
    rw [Option.bind_eq_bind, Option.bind_some, Option.bind_some]
    have hflatten := flatten_toChunks batchSize unmapped
    have hsome : ((unmapped.toChunks batchSize).foldlM (mapBatch catalogue folder)
        ⟨external, 0, 0⟩).isSome ↔ _ := isSome_run_iff
    cases hrun : (unmapped.toChunks batchSize).foldlM (mapBatch catalogue folder)
        ⟨external, 0, 0⟩ with
    | none =>
      rw [hrun, hflatten] at hsome
      rw [if_neg fun hread => Bool.false_ne_true (hsome.mpr hread)]
      rfl
    | some next =>
      rw [hrun, hflatten] at hsome
      rw [if_pos (hsome.mp rfl), Option.map_some]
      congr 1
      funext card
      have hdistinct := hundisturbed.distinct unmapped hunmapped
      have hordered := hundisturbed.ordered unmapped hunmapped card
      rw [← hflatten] at hdistinct hordered
      have hget := get?_of_run hrun hdistinct hordered
      rw [hflatten] at hget
      exact hget

/-- Prints that share no identifier and go back to no earlier step are mapped as on their own,
in batches of any size. -/
theorem batchingDoesNotMatter_of_undisturbed
    (hundisturbed : Undisturbed catalogue folder external) :
    BatchingDoesNotMatter catalogue folder external := by
  refine ⟨?_, ?_⟩
  · intro batchSize batchSize' _ _
    rw [build_eq hundisturbed, build_eq hundisturbed]
  · intro batchSize _ unmapped hunmapped before batchIds after hchunks middle hmiddle d hd halone
    have hsame := identifiedBy_of_run hmiddle
    have hmem : ∀ e ∈ dataOf catalogue folder batchIds, e ∈ dataOf catalogue folder unmapped := by
      intro e he
      obtain ⟨printId, hprintId, hread⟩ := List.mem_filterMap.mp he
      refine List.mem_filterMap.mpr ⟨printId, ?_, hread⟩
      rw [← flatten_toChunks batchSize unmapped, hchunks]
      simp [hprintId]
    have hdistinct : Distinct catalogue middle.external (dataOf catalogue folder batchIds) := by
      intro e he e' he'
      rw [hsame]
      exact hundisturbed.distinct unmapped hunmapped e (hmem e he) e' (hmem e' he')
    have hone : OneEntry [d] := by
      intro e he e' he' _
      rw [List.mem_singleton.mp he, List.mem_singleton.mp he']
    have hdistinct' : Distinct catalogue middle.external [d] := by
      intro e he e' he'
      rw [List.mem_singleton.mp he, List.mem_singleton.mp he']
      exact fun _ _ _ _ _ => rfl
    rw [get?_resolveBatch hone hdistinct' (List.mem_singleton_self d)] at halone
    rw [get?_resolveBatch (oneEntry_dataOf batchIds) hdistinct hd]
    exact halone

end Run

/-! ### Two prints of one Scryfall id -/

/-- Two cards with a Scryfall id each. -/
def sampleCatalogue : Catalogue where
  cardIdentifierRef := ⟨[(1, "scryfall_id"), (2, "mtgstock_id")], by decide⟩
  identifierName_unique := by decide
  mtgstockRefId := 2
  mtgstock_seeded := rfl
  sets := .empty
  cardVersion := .empty
  locale := .posix
  lower := String.toLower
  castInt := String.toInt?
  toStr := fun _ => ""

def sampleIdentifiers : ExternalIdentifiers := ⟨[((7, 1), "s-7"), ((8, 1), "s-8")], by decide⟩

/-- Prints 1 and 2 with a Scryfall id each. -/
def scryfallFolder (first second : String) : Folder where
  allIds := [1, 2]
  info printId := some (.dict [("scryfallId", .str (if printId = 1 then first else second))])

theorem batchingDoesNotMatter_two_cards :
    BatchingDoesNotMatter sampleCatalogue (scryfallFolder "s-7" "s-8") sampleIdentifiers := by
  have hdata : dataOf sampleCatalogue (scryfallFolder "s-7" "s-8") [1, 2] =
      [⟨1, some "s-7", none, none, ""⟩, ⟨2, some "s-8", none, none, ""⟩] := rfl
  have hfirst : identifiedBy sampleCatalogue sampleIdentifiers ⟨1, some "s-7", none, none, ""⟩ =
      some (.scryfall "s-7", 7) := rfl
  have hsecond : identifiedBy sampleCatalogue sampleIdentifiers ⟨2, some "s-8", none, none, ""⟩ =
      some (.scryfall "s-8", 8) := rfl
  refine batchingDoesNotMatter_of_undisturbed ⟨?_, ?_⟩
  · intro unmapped hunmapped
    obtain rfl : [1, 2] = unmapped := Option.some.inj hunmapped
    rw [hdata]
    intro d hd d' hd' identifier card card' hidentified hidentified'
    simp only [List.mem_cons, List.not_mem_nil, or_false] at hd hd'
    rcases hd with rfl | rfl <;> rcases hd' with rfl | rfl
    · rfl
    · rw [hfirst, Option.some.injEq, Prod.mk.injEq] at hidentified
      obtain ⟨rfl, -⟩ := hidentified
      simp [hsecond] at hidentified'
    · rw [hsecond, Option.some.injEq, Prod.mk.injEq] at hidentified
      obtain ⟨rfl, -⟩ := hidentified
      simp [hfirst] at hidentified'
    · rfl
  · intro unmapped hunmapped card _
    obtain rfl : [1, 2] = unmapped := Option.some.inj hunmapped
    rw [hdata]
    refine List.pairwise_pair.mpr ?_
    intro step step' hstep hstep'
    rw [stepOf, resolution, hfirst] at hstep
    rw [stepOf, resolution, hsecond] at hstep'
    cases hstep
    cases hstep'

/-- Apart, print 1 gets the card; in one batch, print 2 does. -/
theorem batching_matters_for_a_shared_id :
    ¬ BatchingDoesNotMatter sampleCatalogue (scryfallFolder "s-7" "s-7") sampleIdentifiers := by
  intro hindependent
  have hsame := congrArg (Option.map fun found : CardVersionId → Option String => found 7)
    (hindependent.mappings 1 2 (by decide) (by decide))
  revert hsame
  decide +kernel

end AutoMana.MtgStock
