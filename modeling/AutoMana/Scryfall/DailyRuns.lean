import AutoMana.Scryfall.BulkManifest

/-!
# The daily run

The chain of a day reads the manifest, imports the sets, downloads the card file if the manifest
names a new one, and imports it. The manifest is committed by its own step. A step that raises
ends the chain.
-/

namespace AutoMana.Scryfall

open Relational

/-- The steps of `daily_scryfall_data_pipeline` from the manifest to the card import. -/
inductive ChainStep where
  | updateDataUriInOpsRepository
  | downloadSets
  | processLargeSetsJson
  | downloadCardsBulk
  | processLargeCardsJson
  deriving DecidableEq

def dailyChain : List ChainStep :=
  [.updateDataUriInOpsRepository, .downloadSets, .processLargeSetsJson, .downloadCardsBulk,
    .processLargeCardsJson]

/-- The tables, and the versions whose card file was imported. -/
structure Warehouse where
  tables : BulkTables
  loaded : List VersionKey

def Warehouse.empty : Warehouse := ⟨.empty, []⟩

/-- What the steps hand on. A file is known by the version that it was downloaded for. -/
structure ChainContext where
  urisToDownload : List ChangedUri
  fileName : Option VersionKey

structure DailyRun where
  manifest : Manifest
  raises : ChainStep → Bool

def ChangedUri.version (uri : ChangedUri) : VersionKey :=
  ⟨uri.resource, uri.downloadUri, uri.lastModified⟩

/-- `resource_type` -/
def allCards : String := "all_cards"

/-- `download_cards_bulk` -/
def downloadCardsBulk (urisToDownload : List ChangedUri) (resourceType : String) :
    Option VersionKey :=
  ((urisToDownload.filter (·.externalType = resourceType)).map ChangedUri.version).head?

/-- A step of the chain; `none` when it raises. -/
def DailyRun.execute (run : DailyRun) (step : ChainStep) (warehouse : Warehouse)
    (context : ChainContext) : Option (Warehouse × ChainContext) :=
  if run.raises step then none
  else match step with
    | .updateDataUriInOpsRepository =>
      (warehouse.tables.updateBulkData run.manifest.sourceId run.manifest.items).map
        fun (reply, tables) =>
          (⟨tables, warehouse.loaded⟩, ⟨reply.changed, context.fileName⟩)
    | .downloadSets => some (warehouse, context)
    | .processLargeSetsJson => some (warehouse, context)
    | .downloadCardsBulk =>
      some (warehouse, ⟨context.urisToDownload, downloadCardsBulk context.urisToDownload allCards⟩)
    | .processLargeCardsJson =>
      -- without a file there is nothing to process
      some (⟨warehouse.tables, warehouse.loaded ++ context.fileName.toList⟩, context)

def DailyRun.follow (run : DailyRun) : List ChainStep → Warehouse → ChainContext → Warehouse
  | [], warehouse, _ => warehouse
  | step :: rest, warehouse, context =>
    match run.execute step warehouse context with
    | none => warehouse
    | some (next, context) => run.follow rest next context

/-- The chain of a day. -/
def Warehouse.runDay (warehouse : Warehouse) (run : DailyRun) : Warehouse :=
  run.follow dailyChain warehouse ⟨[], none⟩

/-! ## What is claimed -/

def DailyRun.succeeds (run : DailyRun) : Prop := ∀ step, run.raises step = false

/-- No resource comes twice in the manifest, and one of them is the card file. -/
structure Manifest.NamesCards (manifest : Manifest) (item : BulkItem) : Prop where
  distinct : (manifest.items.map (BulkItem.resourceKey manifest.sourceId)).Nodup
  cards : manifest.items.filter (·.externalType = allCards) = [item]

/-- The next run loads the card file that its manifest names, unless it fails. -/
def LoadsNext (warehouse : Warehouse) : Prop :=
  ∀ run : DailyRun, run.succeeds → ∀ item, run.manifest.NamesCards item →
    item.versionKey run.manifest.sourceId ∈ (warehouse.runDay run).loaded

/-- The card files of a manifest whose version is not stored. -/
def Warehouse.newCards (warehouse : Warehouse) (manifest : Manifest) : List BulkItem :=
  (warehouse.tables.changed manifest.sourceId manifest.items).filter (·.externalType = allCards)

/-- A run that stores the manifest names no new card file, or one, and does not fail later. -/
def LoadsItsCards (warehouse : Warehouse) (run : DailyRun) : Prop :=
  run.raises .updateDataUriInOpsRepository = false →
    (run.manifest.items.map (BulkItem.resourceKey run.manifest.sourceId)).Nodup →
      warehouse.newCards run.manifest = [] ∨
        (warehouse.newCards run.manifest).length = 1 ∧ run.succeeds

/-! ## A run -/

section Run

variable {warehouse : Warehouse} {run : DailyRun}

/-- A manifest that is not stored leaves everything. -/
theorem runDay_of_unread (hunread : run.raises .updateDataUriInOpsRepository = true ∨
    ¬ (run.manifest.items.map (BulkItem.resourceKey run.manifest.sourceId)).Nodup) :
    warehouse.runDay run = warehouse := by
  have hnone : ∀ context,
      run.execute .updateDataUriInOpsRepository warehouse context = none := by
    intro context
    rw [DailyRun.execute]
    rcases hunread with hraises | hrepeated
    · rw [if_pos hraises]
    · split_ifs
      · rfl
      · simp only [BulkTables.updateBulkData, if_neg hrepeated, Option.map_none]
  rw [Warehouse.runDay, dailyChain, DailyRun.follow, hnone]

variable {reply : BulkReply} {next : BulkTables}

/-- A run that succeeds imports the card file that it downloads. -/
theorem runDay_of_succeeds (hsucceeds : run.succeeds)
    (hupdate : warehouse.tables.updateBulkData run.manifest.sourceId run.manifest.items =
      some (reply, next)) :
    warehouse.runDay run =
      ⟨next, warehouse.loaded ++ (downloadCardsBulk reply.changed allCards).toList⟩ := by
  have hraises : ∀ step, run.raises step = false := hsucceeds
  simp [Warehouse.runDay, dailyChain, DailyRun.follow, DailyRun.execute, hraises, hupdate]

/-- A run that fails after the manifest is stored imports nothing. -/
theorem runDay_of_fails (hfails : ¬ run.succeeds)
    (hread : run.raises .updateDataUriInOpsRepository = false)
    (hupdate : warehouse.tables.updateBulkData run.manifest.sourceId run.manifest.items =
      some (reply, next)) :
    warehouse.runDay run = ⟨next, warehouse.loaded⟩ := by
  obtain ⟨failing, hfailing⟩ : ∃ step, run.raises step = true := by
    simpa [DailyRun.succeeds] using hfails
  cases hsets : run.raises .downloadSets <;> cases himport : run.raises .processLargeSetsJson <;>
    cases hdownload : run.raises .downloadCardsBulk <;>
    cases hcards : run.raises .processLargeCardsJson <;>
    simp [Warehouse.runDay, dailyChain, DailyRun.follow, DailyRun.execute, hread, hupdate,
      hsets, himport, hdownload, hcards]
  -- some step raises
  cases failing <;> simp_all

end Run

/-! ## New card files -/

section NewCards

variable {warehouse : Warehouse} {manifest : Manifest}

theorem mem_newCards_iff {item : BulkItem} : item ∈ warehouse.newCards manifest ↔
    item ∈ manifest.items ∧ item.externalType = allCards ∧
      warehouse.tables.versions.get? (item.versionKey manifest.sourceId) = none := by
  rw [Warehouse.newCards, List.mem_filter, mem_changed_iff, decide_eq_true_eq, and_assoc]
  exact and_congr_right fun _ => and_comm

/-- What is downloaded is a new card file, if there is one. -/
theorem downloadCardsBulk_spec {reply : BulkReply} {next : BulkTables}
    (hdistinct : (manifest.items.map (BulkItem.resourceKey manifest.sourceId)).Nodup)
    (hupdate : warehouse.tables.updateBulkData manifest.sourceId manifest.items =
      some (reply, next)) :
    (∀ version, downloadCardsBulk reply.changed allCards = some version →
      ∃ item ∈ warehouse.newCards manifest, item.versionKey manifest.sourceId = version) ∧
    (downloadCardsBulk reply.changed allCards = none → warehouse.newCards manifest = []) := by
  have hchanged := (changed_spec hdistinct hupdate).2
  constructor
  · intro version hversion
    obtain ⟨uri, huri, rfl⟩ := List.mem_map.mp (List.mem_of_mem_head? hversion)
    obtain ⟨hmem, htype⟩ := List.mem_filter.mp huri
    obtain ⟨item, hitem, hnew, rfl⟩ := (hchanged uri).mp hmem
    exact ⟨item, mem_newCards_iff.mpr ⟨hitem, of_decide_eq_true htype, hnew⟩, rfl⟩
  · intro hnone
    rw [downloadCardsBulk, List.head?_eq_none_iff, List.map_eq_nil_iff,
      List.filter_eq_nil_iff] at hnone
    refine List.eq_nil_iff_forall_not_mem.mpr fun item hitem => ?_
    obtain ⟨hmem, htype, hnew⟩ := mem_newCards_iff.mp hitem
    exact hnone _ ((hchanged _).mpr ⟨item, hmem, hnew, rfl⟩) (decide_eq_true htype)

/-- The only new card file is downloaded. -/
theorem downloadCardsBulk_of_newCards {reply : BulkReply} {next : BulkTables} {item : BulkItem}
    (hdistinct : (manifest.items.map (BulkItem.resourceKey manifest.sourceId)).Nodup)
    (hupdate : warehouse.tables.updateBulkData manifest.sourceId manifest.items =
      some (reply, next))
    (hnew : warehouse.newCards manifest = [item]) :
    downloadCardsBulk reply.changed allCards = some (item.versionKey manifest.sourceId) := by
  obtain ⟨hsome, hnone⟩ := downloadCardsBulk_spec hdistinct hupdate
  cases hdownload : downloadCardsBulk reply.changed allCards with
  | none =>
    rw [hnone hdownload] at hnew
    cases hnew
  | some version =>
    obtain ⟨other, hother, hversion⟩ := hsome version hdownload
    rw [hnew, List.mem_singleton] at hother
    rw [← hversion, hother]

end NewCards

/-! ## Runs of days -/

/-- Every card version that is stored was loaded, and only stored versions were. -/
structure AllLoaded (warehouse : Warehouse) : Prop where
  loads : ∀ version, (warehouse.tables.versions.get? version).isSome →
    version.resource.externalType = allCards → version ∈ warehouse.loaded
  stored : ∀ version ∈ warehouse.loaded, (warehouse.tables.versions.get? version).isSome

theorem allLoaded_empty : AllLoaded .empty where
  loads _ hstored := by cases hstored
  stored _ hloaded := by cases hloaded

section Days

variable {warehouse : Warehouse} {run : DailyRun}

theorem exists_update {sourceId : Nat} {items : List BulkItem}
    (hdistinct : (items.map (BulkItem.resourceKey sourceId)).Nodup) (tables : BulkTables) :
    ∃ reply next, tables.updateBulkData sourceId items = some (reply, next) :=
  ⟨_, _, if_pos hdistinct⟩

/-- Where all versions are loaded, the next run loads the one that its manifest names. -/
theorem AllLoaded.loadsNext (hloaded : AllLoaded warehouse) : LoadsNext warehouse := by
  intro run hsucceeds item hnames
  obtain ⟨reply, next, hupdate⟩ := exists_update hnames.distinct warehouse.tables
  have hitem : item ∈ run.manifest.items ∧ item.externalType = allCards := by
    have hmem : item ∈ run.manifest.items.filter (·.externalType = allCards) :=
      hnames.cards ▸ List.mem_singleton_self item
    exact ⟨(List.mem_filter.mp hmem).1, of_decide_eq_true (List.mem_filter.mp hmem).2⟩
  rw [runDay_of_succeeds hsucceeds hupdate, List.mem_append]
  cases hstored : warehouse.tables.versions.get? (item.versionKey run.manifest.sourceId) with
  | some version =>
    exact Or.inl (hloaded.loads _ (Option.isSome_of_eq_some hstored) hitem.2)
  | none =>
    have hnew : warehouse.newCards run.manifest = [item] := by
      rw [Warehouse.newCards, BulkTables.changed, List.filter_comm, hnames.cards,
        List.filter_singleton, hstored]
      rfl
    rw [downloadCardsBulk_of_newCards hnames.distinct hupdate hnew]
    exact Or.inr (List.mem_singleton_self _)

/-- The item of a version. -/
def VersionKey.item (version : VersionKey) : BulkItem where
  externalId := version.resource.externalId
  externalType := version.resource.externalType
  apiUri := none
  name := none
  description := none
  downloadUri := version.downloadUri
  contentType := none
  contentEncoding := none
  updatedAt := version.lastModified
  size := none

/-- A run that names the version, and does not fail. -/
def VersionKey.day (version : VersionKey) : DailyRun :=
  ⟨⟨version.resource.sourceId, [version.item]⟩, fun _ => false⟩

theorem VersionKey.day_namesCards {version : VersionKey}
    (htype : version.resource.externalType = allCards) :
    version.day.manifest.NamesCards version.item where
  distinct := List.nodup_singleton _
  cards := by
    have hcards : decide (version.item.externalType = allCards) = true := decide_eq_true htype
    rw [VersionKey.day, List.filter_singleton, hcards]
    rfl

/-- A card version that is stored and not loaded is never loaded by the manifest that names it. -/
theorem LoadsNext.loads (hnext : LoadsNext warehouse) {version : VersionKey}
    (hstored : (warehouse.tables.versions.get? version).isSome)
    (htype : version.resource.externalType = allCards) : version ∈ warehouse.loaded := by
  have hnames := VersionKey.day_namesCards htype
  have hsucceeds : version.day.succeeds := fun _ => rfl
  obtain ⟨reply, next, hupdate⟩ := exists_update hnames.distinct warehouse.tables
  have hloaded := hnext version.day hsucceeds version.item hnames
  rw [runDay_of_succeeds hsucceeds hupdate, List.mem_append] at hloaded
  rcases hloaded with hloaded | hdownload
  · exact hloaded
  · -- a version that is stored is not downloaded
    obtain ⟨item, hitem, -⟩ := (downloadCardsBulk_spec hnames.distinct hupdate).1 _
      (Option.mem_toList.mp hdownload)
    obtain ⟨hmem, -, hnew⟩ := mem_newCards_iff.mp hitem
    obtain rfl := List.mem_singleton.mp hmem
    have hkey : version.item.versionKey version.day.manifest.sourceId = version := rfl
    rw [hkey] at hnew
    rw [hnew] at hstored
    cases hstored

/-- A version that is new was not loaded. -/
theorem AllLoaded.notMem_loaded (hloaded : AllLoaded warehouse) {manifest : Manifest}
    {item : BulkItem} (hitem : item ∈ warehouse.newCards manifest) :
    item.versionKey manifest.sourceId ∉ warehouse.loaded := by
  intro hmem
  have hstored := hloaded.stored _ hmem
  rw [(mem_newCards_iff.mp hitem).2.2] at hstored
  cases hstored

/-- A card version that a manifest stores was stored before, or is new. -/
theorem stored_or_new {manifest : Manifest} {reply : BulkReply} {next : BulkTables}
    (hupdate : warehouse.tables.updateBulkData manifest.sourceId manifest.items =
      some (reply, next)) {version : VersionKey} (hstored : (next.versions.get? version).isSome)
    (htype : version.resource.externalType = allCards) :
    (warehouse.tables.versions.get? version).isSome ∨
      ∃ item ∈ warehouse.newCards manifest, item.versionKey manifest.sourceId = version := by
  rcases (isSome_version_iff hupdate version).mp hstored with hold | ⟨item, hitem, rfl⟩
  · exact Or.inl hold
  · cases hold : warehouse.tables.versions.get? (item.versionKey manifest.sourceId) with
    | some version => exact Or.inl rfl
    | none => exact Or.inr ⟨item, mem_newCards_iff.mpr ⟨hitem, htype, hold⟩, rfl⟩

theorem AllLoaded.runDay (hloaded : AllLoaded warehouse) (hcards : LoadsItsCards warehouse run) :
    AllLoaded (warehouse.runDay run) := by
  by_cases hread : run.raises .updateDataUriInOpsRepository = false ∧
      (run.manifest.items.map (BulkItem.resourceKey run.manifest.sourceId)).Nodup
  · obtain ⟨hraises, hdistinct⟩ := hread
    obtain ⟨reply, next, hupdate⟩ := exists_update hdistinct warehouse.tables
    have hkept : ∀ version ∈ warehouse.loaded, (next.versions.get? version).isSome :=
      fun version hmem =>
        (isSome_version_iff hupdate version).mpr (Or.inl (hloaded.stored version hmem))
    by_cases hsucceeds : run.succeeds
    · rw [runDay_of_succeeds hsucceeds hupdate]
      constructor
      · intro version hstored htype
        rcases stored_or_new hupdate hstored htype with hold | ⟨item, hitem, rfl⟩
        · exact List.mem_append_left _ (hloaded.loads version hold htype)
        · rcases hcards hraises hdistinct with hnone | ⟨hone, -⟩
          · rw [hnone] at hitem
            cases hitem
          · obtain ⟨only, honly⟩ := List.length_eq_one_iff.mp hone
            have hdownload := downloadCardsBulk_of_newCards hdistinct hupdate honly
            rw [honly, List.mem_singleton] at hitem
            rw [hdownload, hitem]
            exact List.mem_append_right _ (List.mem_singleton_self _)
      · intro version hmem
        rcases List.mem_append.mp hmem with hold | hdownload
        · exact hkept version hold
        · obtain ⟨item, hitem, rfl⟩ := (downloadCardsBulk_spec hdistinct hupdate).1 _
            (Option.mem_toList.mp hdownload)
          exact (isSome_version_iff hupdate _).mpr
            (Or.inr ⟨item, (mem_newCards_iff.mp hitem).1, rfl⟩)
    · rw [runDay_of_fails hsucceeds hraises hupdate]
      refine ⟨fun version hstored htype => ?_, hkept⟩
      rcases stored_or_new hupdate hstored htype with hold | ⟨item, hitem, -⟩
      · exact hloaded.loads version hold htype
      · rcases hcards hraises hdistinct with hnone | ⟨-, hall⟩
        · rw [hnone] at hitem
          cases hitem
        · exact absurd hall hsucceeds
  · rw [runDay_of_unread]
    · exact hloaded
    · cases hraises : run.raises .updateDataUriInOpsRepository with
      | true => exact Or.inl rfl
      | false => exact Or.inr fun hdistinct => hread ⟨hraises, hdistinct⟩

/-- New card files that have one version are one. -/
theorem length_newCards {manifest : Manifest} {version : VersionKey}
    (hdistinct : (manifest.items.map (BulkItem.resourceKey manifest.sourceId)).Nodup)
    (hsame : ∀ item ∈ warehouse.newCards manifest, item.versionKey manifest.sourceId = version) :
    warehouse.newCards manifest = [] ∨ (warehouse.newCards manifest).length = 1 := by
  have hnodup : ((warehouse.newCards manifest).map
      (BulkItem.resourceKey manifest.sourceId)).Nodup :=
    hdistinct.sublist ((List.filter_sublist.trans List.filter_sublist).map _)
  have hreplicate : (warehouse.newCards manifest).map (BulkItem.resourceKey manifest.sourceId) =
      List.replicate (warehouse.newCards manifest).length version.resource := by
    refine List.eq_replicate_iff.mpr ⟨List.length_map _, fun key hkey => ?_⟩
    obtain ⟨item, hitem, rfl⟩ := List.mem_map.mp hkey
    exact congrArg VersionKey.resource (hsame item hitem)
  rw [hreplicate, List.nodup_replicate] at hnodup
  rcases Nat.le_one_iff_eq_zero_or_eq_one.mp hnodup with hzero | hone
  · exact Or.inl (List.length_eq_zero_iff.mp hzero)
  · exact Or.inr hone

theorem AllLoaded.loadsItsCards (hloaded : AllLoaded warehouse)
    (hnext : LoadsNext (warehouse.runDay run)) : LoadsItsCards warehouse run := by
  intro hraises hdistinct
  obtain ⟨reply, next, hupdate⟩ := exists_update hdistinct warehouse.tables
  have hstored : ∀ item ∈ warehouse.newCards run.manifest,
      (next.versions.get? (item.versionKey run.manifest.sourceId)).isSome := fun item hitem =>
    (isSome_version_iff hupdate _).mpr (Or.inr ⟨item, (mem_newCards_iff.mp hitem).1, rfl⟩)
  by_cases hsucceeds : run.succeeds
  · rw [runDay_of_succeeds hsucceeds hupdate] at hnext
    -- each new version was not loaded before, so it is the one that was downloaded
    have hdownload : ∀ item ∈ warehouse.newCards run.manifest,
        downloadCardsBulk reply.changed allCards =
          some (item.versionKey run.manifest.sourceId) := by
      intro item hitem
      have hmem := hnext.loads (hstored item hitem) (mem_newCards_iff.mp hitem).2.1
      rcases List.mem_append.mp hmem with hold | hdownload
      · exact absurd hold (hloaded.notMem_loaded hitem)
      · exact Option.mem_toList.mp hdownload
    cases hversion : downloadCardsBulk reply.changed allCards with
    | none => exact Or.inl ((downloadCardsBulk_spec hdistinct hupdate).2 hversion)
    | some version =>
      have hsame : ∀ item ∈ warehouse.newCards run.manifest,
          item.versionKey run.manifest.sourceId = version := by
        intro item hitem
        rw [hversion] at hdownload
        exact (Option.some.inj (hdownload item hitem)).symm
      exact (length_newCards hdistinct hsame).imp id fun hone => ⟨hone, hsucceeds⟩
  · rw [runDay_of_fails hsucceeds hraises hupdate] at hnext
    refine Or.inl (List.eq_nil_iff_forall_not_mem.mpr fun item hitem => ?_)
    exact hloaded.notMem_loaded hitem
      (hnext.loads (hstored item hitem) (mem_newCards_iff.mp hitem).2.1)

end Days

/-- The next run loads the latest card file after every run exactly when no run stored the version
of a card file and did not import it. -/
theorem loadsNext_iff (runs : List DailyRun) :
    (∀ warehouse ∈ Run.visited Warehouse.runDay .empty runs, LoadsNext warehouse) ↔
      Run.StepsMeet Warehouse.runDay LoadsItsCards .empty runs :=
  @Run.forall_visited_iff_of_inv Warehouse DailyRun Warehouse.runDay LoadsItsCards AllLoaded
    LoadsNext (fun _ hloaded => hloaded.loadsNext)
    (fun _ _ hloaded hcards => hloaded.runDay hcards)
    (fun _ _ hloaded hnext => hloaded.loadsItsCards hnext) .empty runs allLoaded_empty

/-- A run whose download failed. -/
def failedDownload : DailyRun where
  manifest := ⟨2, [.cardsOf (some 1) "a" "x"]⟩
  raises step := decide (step = .downloadCardsBulk)

/-- After it the same manifest names no change, and its card file is not loaded. -/
theorem failed_download_is_skipped :
    ¬ ∀ warehouse ∈ Run.visited Warehouse.runDay .empty [failedDownload],
      LoadsNext warehouse := by
  intro hall
  have hnext := hall _ (Run.foldl_mem_visited _ _ _)
    ⟨failedDownload.manifest, fun _ => false⟩ (fun _ => rfl) (.cardsOf (some 1) "a" "x")
    ⟨by decide, by decide⟩
  have hnone : ((([failedDownload].foldl Warehouse.runDay .empty)).runDay
      ⟨failedDownload.manifest, fun _ => false⟩).loaded = [] := by decide
  rw [hnone] at hnext
  cases hnext

end AutoMana.Scryfall
