import AutoMana.Relational.Dict
import AutoMana.Relational.Runs

/-!
# The diff of the bulk manifest

One statement upserts the resources of a manifest, stores the versions of them that are new, and
returns these. Every part of it reads the tables as they were before. A resource is known by its
source, its type and its id at the source; the number that stands for it is left out.
-/

namespace AutoMana.Scryfall

open Relational

/-! ## The tables -/

/-- An item of a manifest. `updated_at` is a time in microseconds. -/
structure BulkItem where
  externalId : String
  externalType : String
  apiUri : Option String
  name : Option String
  description : Option String
  downloadUri : String
  contentType : Option String
  contentEncoding : Option String
  updatedAt : Option Int
  size : Option Int
  deriving DecidableEq

/-- The columns of `ux_resources_no_canonical_key`. -/
structure ResourceKey where
  sourceId : Nat
  externalType : String
  externalId : String
  deriving DecidableEq

structure Resource where
  name : Option String
  description : Option String
  apiUri : Option String
  /-- The item that the resource was read from. -/
  metadata : BulkItem
  updatedAtSource : Option Int
  deriving DecidableEq

/-- The columns of `ux_resource_versions_natkey`. -/
structure VersionKey where
  resource : ResourceKey
  downloadUri : String
  lastModified : Option Int
  deriving DecidableEq

structure ResourceVersion where
  contentType : Option String
  contentEncoding : Option String
  bytes : Option Int
  status : String
  deriving DecidableEq

structure BulkTables where
  resources : Table ResourceKey Resource
  versions : Table VersionKey ResourceVersion

def BulkTables.empty : BulkTables := ⟨.empty, .empty⟩

/-! ## The statement -/

section Statement

variable (sourceId : Nat)

def BulkItem.resourceKey (item : BulkItem) : ResourceKey :=
  ⟨sourceId, item.externalType, item.externalId⟩

def BulkItem.versionKey (item : BulkItem) : VersionKey :=
  ⟨item.resourceKey sourceId, item.downloadUri, item.updatedAt⟩

def BulkItem.resource (item : BulkItem) : Resource :=
  ⟨item.name, item.description, item.apiUri, item, item.updatedAt⟩

def BulkItem.version (item : BulkItem) : ResourceVersion :=
  ⟨item.contentType, item.contentEncoding, item.size, "downloaded"⟩

/-- `excluded > stored`, which holds of no `NULL`. -/
def newer : Option Int → Option Int → Bool
  | some excluded, some stored => stored < excluded
  | _, _ => false

/-- `GREATEST`, which ignores a `NULL`. -/
def greatest : Option Int → Option Int → Option Int
  | some first, some second => some (max first second)
  | some first, none => some first
  | none, second => second

/-- `DO UPDATE SET` -/
def Resource.update (stored excluded : Resource) : Resource where
  name := stored.name
  description := stored.description
  apiUri :=
    if newer excluded.updatedAtSource stored.updatedAtSource then excluded.apiUri
    else stored.apiUri
  metadata :=
    if newer excluded.updatedAtSource stored.updatedAtSource then excluded.metadata
    else stored.metadata
  updatedAtSource := greatest excluded.updatedAtSource stored.updatedAtSource

/-- An element of `changed`. -/
structure ChangedUri where
  resource : ResourceKey
  downloadUri : String
  lastModified : Option Int
  externalType : String
  deriving DecidableEq

def BulkItem.changedUri (item : BulkItem) : ChangedUri :=
  ⟨item.resourceKey sourceId, item.downloadUri, item.updatedAt, item.externalType⟩

structure BulkReply where
  resourcesUpserted : Nat
  versionsInserted : Nat
  changed : List ChangedUri

/-- The items whose version is not stored. -/
def BulkTables.changed (tables : BulkTables) (items : List BulkItem) : List BulkItem :=
  items.filter fun item => (tables.versions.get? (item.versionKey sourceId)).isNone

/-- The upsert of the resources, whose keys are distinct. -/
def BulkTables.upsertResources (tables : BulkTables) (items : List BulkItem) :
    Table ResourceKey Resource :=
  tables.resources.upsert
    (.ofPairs (items.map fun item => (item.resourceKey sourceId, item.resource))) Resource.update

/-- `update_bulk_data_uri_return_new`; `none` when the upsert raises because it would update a row
twice. The changes stand in the order of the resources. -/
def BulkTables.updateBulkData (tables : BulkTables) (items : List BulkItem) :
    Option (BulkReply × BulkTables) :=
  if (items.map (BulkItem.resourceKey sourceId)).Nodup then
    let changed := tables.changed sourceId items
    let resources := tables.upsertResources sourceId items
    some (⟨items.length, changed.length,
        (resources.rows.map Prod.fst).flatMap fun key =>
          (changed.map (BulkItem.changedUri sourceId)).filter (·.resource = key)⟩,
      ⟨resources, tables.versions.insertMissing
        (changed.map fun item => (item.versionKey sourceId, item.version))⟩)
  else none

end Statement

/-! ## What is claimed -/

/-- A time is not after another; `none` is no time, and before all. -/
def NotAfter (first second : Option Int) : Prop :=
  ∀ time, first = some time → ∃ other, second = some other ∧ time ≤ other

/-- The tables and the items that were read into them, each with its resource. -/
structure Manifests where
  tables : BulkTables
  seen : List (ResourceKey × BulkItem)

def Manifests.empty : Manifests := ⟨.empty, []⟩

/-- A manifest of a run, with the source of the run. -/
structure Manifest where
  sourceId : Nat
  items : List BulkItem

/-- A statement that raises changes nothing. -/
def Manifests.read (manifests : Manifests) (manifest : Manifest) : Manifests :=
  match manifests.tables.updateBulkData manifest.sourceId manifest.items with
  | none => manifests
  | some (_, tables) =>
    ⟨tables, manifests.seen ++
      manifest.items.map fun item => (item.resourceKey manifest.sourceId, item)⟩

/-- The manifest raises nothing, and lists the items whose version was not stored, each once; again
it lists nothing; no resource is older than before; and each is that of an item that no item of
the resource is newer than. -/
structure Diffed (manifests : Manifests) (manifest : Manifest) : Prop where
  returns : ∃ reply tables,
    manifests.tables.updateBulkData manifest.sourceId manifest.items = some (reply, tables) ∧
      reply.changed.Nodup ∧
      ∀ change, change ∈ reply.changed ↔ ∃ item ∈ manifest.items,
        manifests.tables.versions.get? (item.versionKey manifest.sourceId) = none ∧
          item.changedUri manifest.sourceId = change
  again : ∃ reply tables,
    (manifests.read manifest).tables.updateBulkData manifest.sourceId manifest.items =
      some (reply, tables) ∧ reply.changed = []
  monotone : ∀ key row, manifests.tables.resources.get? key = some row →
    ∃ next, (manifests.read manifest).tables.resources.get? key = some next ∧
      NotAfter row.updatedAtSource next.updatedAtSource
  newest : ∀ key row, (manifests.read manifest).tables.resources.get? key = some row →
    ∃ item, (key, item) ∈ (manifests.read manifest).seen ∧ row.apiUri = item.apiUri ∧
      row.metadata = item ∧
      ∀ other, (key, other) ∈ (manifests.read manifest).seen →
        NotAfter other.updatedAt item.updatedAt

/-- No resource comes twice, and none gets its first time after it was stored. -/
structure Readable (manifests : Manifests) (manifest : Manifest) : Prop where
  distinct : (manifest.items.map (BulkItem.resourceKey manifest.sourceId)).Nodup
  timed : ∀ item ∈ manifest.items, ∀ row,
    manifests.tables.resources.get? (item.resourceKey manifest.sourceId) = some row →
      row.updatedAtSource = none → item.updatedAt = none

/-! ## Times -/

theorem NotAfter.refl (time : Option Int) : NotAfter time time :=
  fun value hvalue => ⟨value, hvalue, le_refl value⟩

theorem NotAfter.trans {first second third : Option Int} (hfirst : NotAfter first second)
    (hsecond : NotAfter second third) : NotAfter first third := by
  intro time htime
  obtain ⟨middle, hmiddle, hle⟩ := hfirst time htime
  obtain ⟨last, hlast, hle'⟩ := hsecond middle hmiddle
  exact ⟨last, hlast, hle.trans hle'⟩

theorem notAfter_of_newer {excluded stored : Option Int} (hnewer : newer excluded stored = true) :
    NotAfter stored excluded := by
  cases excluded with
  | none => cases hnewer
  | some excluded =>
    cases stored with
    | none => cases hnewer
    | some stored =>
      rintro time ⟨⟩
      exact ⟨excluded, rfl, (of_decide_eq_true hnewer).le⟩

theorem greatest_of_newer {excluded stored : Option Int} (hnewer : newer excluded stored = true) :
    greatest excluded stored = excluded := by
  cases excluded with
  | none => cases hnewer
  | some excluded =>
    cases stored with
    | none => cases hnewer
    | some stored =>
      exact congrArg some (max_eq_left (of_decide_eq_true hnewer).le)

/-- What is no newer leaves the time, unless there was none. -/
theorem greatest_of_not_newer {excluded stored : Option Int}
    (hnewer : ¬ newer excluded stored = true)
    (htimed : stored = none → excluded = none) :
    greatest excluded stored = stored ∧ NotAfter excluded stored := by
  cases excluded with
  | none => exact ⟨rfl, fun _ htime => by cases htime⟩
  | some excluded =>
    cases stored with
    | none => cases htimed rfl
    | some stored =>
      have hle : excluded ≤ stored := not_lt.mp fun hlt => hnewer (decide_eq_true hlt)
      refine ⟨congrArg some (max_eq_right hle), ?_⟩
      rintro time ⟨⟩
      exact ⟨stored, rfl, hle⟩

theorem notAfter_greatest (excluded stored : Option Int) :
    NotAfter stored (greatest excluded stored) := by
  intro time htime
  subst htime
  cases excluded with
  | none => exact ⟨time, rfl, le_refl time⟩
  | some excluded => exact ⟨max excluded time, rfl, le_max_right excluded time⟩

/-! ## One manifest -/

section Update

variable {sourceId : Nat} {tables : BulkTables} {items : List BulkItem}

theorem excluded_iff (hdistinct : (items.map (BulkItem.resourceKey sourceId)).Nodup)
    (key : ResourceKey) (row : Resource) :
    (Table.ofPairs (items.map fun item => (item.resourceKey sourceId, item.resource))).get? key =
        some row ↔
      ∃ item ∈ items, item.resourceKey sourceId = key ∧ item.resource = row := by
  have hnodup : ((items.map fun item => (item.resourceKey sourceId, item.resource)).map
      Prod.fst).Nodup := by
    rw [List.map_map]
    exact hdistinct
  rw [← Table.mem_rows_iff, Table.rows_ofPairs hnodup, List.mem_map]
  simp only [Prod.mk.injEq]

/-- A resource after the upsert. -/
theorem get?_upsertResources (key : ResourceKey) :
    (tables.upsertResources sourceId items).get? key =
      Table.reconcile Resource.update (tables.resources.get? key)
        ((Table.ofPairs (items.map fun item =>
          (item.resourceKey sourceId, item.resource))).get? key) :=
  Table.get?_upsert _ _ _ _

/-- Every resource of the manifest is stored. -/
theorem isSome_upsertResources (hdistinct : (items.map (BulkItem.resourceKey sourceId)).Nodup)
    {item : BulkItem} (hitem : item ∈ items) :
    ((tables.upsertResources sourceId items).get? (item.resourceKey sourceId)).isSome := by
  rw [get?_upsertResources, Table.isSome_reconcile,
    (excluded_iff hdistinct _ _).mpr ⟨item, hitem, rfl, rfl⟩, Option.isSome_some, Bool.or_true]

theorem mem_changed_iff {item : BulkItem} : item ∈ tables.changed sourceId items ↔
    item ∈ items ∧ tables.versions.get? (item.versionKey sourceId) = none := by
  rw [BulkTables.changed, List.mem_filter, Option.isNone_iff_eq_none]

/-- The changes are those of the items whose version is new, each once. -/
theorem changed_spec (hdistinct : (items.map (BulkItem.resourceKey sourceId)).Nodup)
    {reply : BulkReply} {next : BulkTables}
    (hupdate : tables.updateBulkData sourceId items = some (reply, next)) :
    reply.changed.Nodup ∧ ∀ change, change ∈ reply.changed ↔
      ∃ item ∈ items, tables.versions.get? (item.versionKey sourceId) = none ∧
        item.changedUri sourceId = change := by
  rw [BulkTables.updateBulkData, if_pos hdistinct, Option.some.injEq, Prod.mk.injEq] at hupdate
  obtain ⟨rfl, -⟩ := hupdate
  have hchanges : ((tables.changed sourceId items).map (BulkItem.changedUri sourceId)).Nodup := by
    refine List.Nodup.of_map ChangedUri.resource ?_
    rw [List.map_map]
    exact hdistinct.sublist (List.filter_sublist.map _)
  constructor
  · refine List.nodup_flatMap.mpr ⟨fun key _ => hchanges.filter _, ?_⟩
    refine (tables.upsertResources sourceId items).nodup_keys.imp fun {first second} hne => ?_
    intro change hfirst hsecond
    have hkey := of_decide_eq_true (List.mem_filter.mp hfirst).2
    have hother := of_decide_eq_true (List.mem_filter.mp hsecond).2
    exact hne (hkey.symm.trans hother)
  · intro change
    simp only [List.mem_flatMap, List.mem_filter, List.mem_map, decide_eq_true_eq]
    constructor
    · rintro ⟨key, -, ⟨item, hitem, rfl⟩, -⟩
      exact ⟨item, (mem_changed_iff.mp hitem).1, (mem_changed_iff.mp hitem).2, rfl⟩
    · rintro ⟨item, hitem, hnew, rfl⟩
      refine ⟨item.resourceKey sourceId, ?_, ⟨item, mem_changed_iff.mpr ⟨hitem, hnew⟩, rfl⟩, rfl⟩
      obtain ⟨row, hrow⟩ := Option.isSome_iff_exists.mp
        (@isSome_upsertResources sourceId tables items hdistinct item hitem)
      exact ⟨(_, row), (Table.mem_rows_iff _ _ _).mpr hrow, rfl⟩

/-- The versions of the manifest are stored beside those of before. -/
theorem isSome_version_iff {reply : BulkReply} {next : BulkTables}
    (hupdate : tables.updateBulkData sourceId items = some (reply, next)) (key : VersionKey) :
    (next.versions.get? key).isSome ↔
      (tables.versions.get? key).isSome ∨ ∃ item ∈ items, item.versionKey sourceId = key := by
  rw [BulkTables.updateBulkData] at hupdate
  split_ifs at hupdate
  rw [Option.some.injEq, Prod.mk.injEq] at hupdate
  obtain ⟨-, rfl⟩ := hupdate
  cases hstored : tables.versions.get? key with
  | some version =>
    have hnext := Table.get?_insertMissing_of_stored hstored ((tables.changed sourceId items).map
      fun item => (item.versionKey sourceId, item.version))
    simp only [hnext, Option.isSome_some, true_or]
  | none =>
    simp only [Option.isSome_none, Bool.false_eq_true, false_or]
    constructor
    · intro hnext
      by_contra hunnamed
      have hnotMem : ∀ version, (key, version) ∉ (tables.changed sourceId items).map
          fun item => (item.versionKey sourceId, item.version) := by
        intro version hrow
        obtain ⟨item, hitem, hkey⟩ := List.mem_map.mp hrow
        exact hunnamed ⟨item, (mem_changed_iff.mp hitem).1, congrArg Prod.fst hkey⟩
      rw [Table.get?_insertMissing_of_notMem hnotMem, hstored] at hnext
      cases hnext
    · rintro ⟨item, hitem, rfl⟩
      have hrow := List.mem_map_of_mem (f := fun item : BulkItem =>
        (item.versionKey sourceId, item.version)) (mem_changed_iff.mpr ⟨hitem, hstored⟩)
      obtain ⟨version, hversion⟩ := Table.exists_get?_insertMissing tables.versions hrow
      exact Option.isSome_of_eq_some hversion

/-- A manifest that was read before lists nothing. -/
theorem changed_of_stored (hdistinct : (items.map (BulkItem.resourceKey sourceId)).Nodup)
    (hstored : ∀ item ∈ items, (tables.versions.get? (item.versionKey sourceId)).isSome) :
    ∃ reply next, tables.updateBulkData sourceId items = some (reply, next) ∧
      reply.changed = [] := by
  refine ⟨_, _, if_pos hdistinct, ?_⟩
  have hnone : tables.changed sourceId items = [] := by
    refine List.filter_eq_nil_iff.mpr fun item hitem hnew => ?_
    have hsome := hstored item hitem
    rw [Option.isNone_iff_eq_none.mp hnew] at hsome
    cases hsome
  rw [hnone]
  exact List.flatMap_eq_nil_iff.mpr fun _ _ => rfl

end Update

/-! ## Runs of manifests -/

/-- A row is read from an item of its resource that no other is newer than. -/
structure NewestOf (seen : List (ResourceKey × BulkItem)) (key : ResourceKey) (row : Resource) :
    Prop where
  metadata : (key, row.metadata) ∈ seen
  apiUri : row.apiUri = row.metadata.apiUri
  updatedAtSource : row.updatedAtSource = row.metadata.updatedAt
  newest : ∀ item, (key, item) ∈ seen → NotAfter item.updatedAt row.updatedAtSource

/-- Each resource is that of its newest item, and every item has its resource. -/
structure Kept (manifests : Manifests) : Prop where
  rows : ∀ key row, manifests.tables.resources.get? key = some row →
    NewestOf manifests.seen key row
  seen : ∀ key item, (key, item) ∈ manifests.seen →
    (manifests.tables.resources.get? key).isSome

theorem kept_empty : Kept .empty where
  rows _ _ hrow := by cases hrow
  seen _ _ hitem := by cases hitem

section Read

variable {manifests : Manifests} {manifest : Manifest}

/-- What a manifest without repeated resources leaves. -/
theorem read_of_distinct
    (hdistinct : (manifest.items.map (BulkItem.resourceKey manifest.sourceId)).Nodup) :
    (manifests.read manifest).tables.resources =
        manifests.tables.upsertResources manifest.sourceId manifest.items ∧
      (manifests.read manifest).seen = manifests.seen ++
        manifest.items.map fun item => (item.resourceKey manifest.sourceId, item) := by
  rw [Manifests.read, BulkTables.updateBulkData, if_pos hdistinct]
  exact ⟨rfl, rfl⟩

/-- A resource after a manifest is the one before, the item's, or the one before updated by it. -/
theorem get?_read
    (hdistinct : (manifest.items.map (BulkItem.resourceKey manifest.sourceId)).Nodup)
    (key : ResourceKey) :
    (manifests.read manifest).tables.resources.get? key =
      Table.reconcile Resource.update (manifests.tables.resources.get? key)
        ((Table.ofPairs (manifest.items.map fun item =>
          (item.resourceKey manifest.sourceId, item.resource))).get? key) := by
  rw [(read_of_distinct hdistinct).1, get?_upsertResources]

theorem mem_seen_read
    (hdistinct : (manifest.items.map (BulkItem.resourceKey manifest.sourceId)).Nodup)
    {key : ResourceKey} {item : BulkItem} :
    (key, item) ∈ (manifests.read manifest).seen ↔ (key, item) ∈ manifests.seen ∨
      item ∈ manifest.items ∧ item.resourceKey manifest.sourceId = key := by
  rw [(read_of_distinct hdistinct).2, List.mem_append, List.mem_map]
  simp only [Prod.mk.injEq, exists_eq_right_right]

/-- No other item of the manifest has the resource. -/
theorem item_unique
    (hdistinct : (manifest.items.map (BulkItem.resourceKey manifest.sourceId)).Nodup)
    {item other : BulkItem} (hitem : item ∈ manifest.items) (hother : other ∈ manifest.items)
    (hsame : other.resourceKey manifest.sourceId = item.resourceKey manifest.sourceId) :
    other = item :=
  List.inj_on_of_nodup_map hdistinct hother hitem hsame

/-- The resource of no item of the manifest is as it was. -/
theorem NewestOf.read_of_unnamed {key : ResourceKey} {row : Resource}
    (hnewest : NewestOf manifests.seen key row)
    (hdistinct : (manifest.items.map (BulkItem.resourceKey manifest.sourceId)).Nodup)
    (hunnamed : ∀ item ∈ manifest.items, item.resourceKey manifest.sourceId ≠ key) :
    NewestOf (manifests.read manifest).seen key row where
  metadata := (mem_seen_read hdistinct).mpr (Or.inl hnewest.metadata)
  apiUri := hnewest.apiUri
  updatedAtSource := hnewest.updatedAtSource
  newest item hitem := by
    rcases (mem_seen_read hdistinct).mp hitem with hseen | ⟨hitem, hkey⟩
    · exact hnewest.newest item hseen
    · exact absurd hkey (hunnamed item hitem)

/-- A resource that is new is that of the item. -/
theorem newestOf_read_of_new {item : BulkItem} (hkept : Kept manifests)
    (hdistinct : (manifest.items.map (BulkItem.resourceKey manifest.sourceId)).Nodup)
    (hitem : item ∈ manifest.items)
    (hnew : manifests.tables.resources.get? (item.resourceKey manifest.sourceId) = none) :
    NewestOf (manifests.read manifest).seen (item.resourceKey manifest.sourceId)
      item.resource where
  metadata := (mem_seen_read hdistinct).mpr (Or.inr ⟨hitem, rfl⟩)
  apiUri := rfl
  updatedAtSource := rfl
  newest other hother := by
    rcases (mem_seen_read hdistinct).mp hother with hseen | ⟨hother, hsame⟩
    · have hsome := hkept.seen _ other hseen
      rw [hnew] at hsome
      cases hsome
    · rw [item_unique hdistinct hitem hother hsame]
      exact NotAfter.refl _

/-- An item replaces the one that was read before when it is newer, and only then. -/
theorem NewestOf.read_of_updated {item : BulkItem} {row : Resource}
    (hnewest : NewestOf manifests.seen (item.resourceKey manifest.sourceId) row)
    (hdistinct : (manifest.items.map (BulkItem.resourceKey manifest.sourceId)).Nodup)
    (hitem : item ∈ manifest.items)
    (htimed : row.updatedAtSource = none → item.updatedAt = none) :
    NewestOf (manifests.read manifest).seen (item.resourceKey manifest.sourceId)
      (row.update item.resource) := by
  have hseen : ∀ other,
      (item.resourceKey manifest.sourceId, other) ∈ (manifests.read manifest).seen →
        (item.resourceKey manifest.sourceId, other) ∈ manifests.seen ∨ other = item := by
    intro other hother
    exact ((mem_seen_read hdistinct).mp hother).imp id fun hnamed =>
      item_unique hdistinct hitem hnamed.1 hnamed.2
  by_cases hnewer : newer item.updatedAt row.updatedAtSource = true
  · have hupdate : row.update item.resource =
        ⟨row.name, row.description, item.apiUri, item, item.updatedAt⟩ := by
      simp only [Resource.update, BulkItem.resource, hnewer, if_true, greatest_of_newer hnewer]
    rw [hupdate]
    refine ⟨(mem_seen_read hdistinct).mpr (Or.inr ⟨hitem, rfl⟩), rfl, rfl, ?_⟩
    intro other hother
    rcases hseen other hother with hold | rfl
    · exact (hnewest.newest other hold).trans (notAfter_of_newer hnewer)
    · exact NotAfter.refl _
  · obtain ⟨hgreatest, hbefore⟩ := greatest_of_not_newer hnewer htimed
    have hupdate : row.update item.resource = row := by
      simp only [Resource.update, BulkItem.resource, hnewer, hgreatest]
      rfl
    rw [hupdate]
    refine ⟨(mem_seen_read hdistinct).mpr (Or.inl hnewest.metadata), hnewest.apiUri,
      hnewest.updatedAtSource, ?_⟩
    intro other hother
    rcases hseen other hother with hold | rfl
    · exact hnewest.newest other hold
    · exact hbefore

theorem Kept.read (hkept : Kept manifests) (hreadable : Readable manifests manifest) :
    Kept (manifests.read manifest) := by
  have hdistinct := hreadable.distinct
  constructor
  · intro key row hrow
    rw [get?_read hdistinct] at hrow
    cases hexcluded : (Table.ofPairs (manifest.items.map fun item =>
        (item.resourceKey manifest.sourceId, item.resource))).get? key with
    | none =>
      have hstored : manifests.tables.resources.get? key = some row := by
        rw [hexcluded] at hrow
        cases hold : manifests.tables.resources.get? key with
        | none =>
          rw [hold] at hrow
          cases hrow
        | some stored =>
          rw [hold] at hrow
          exact hrow
      refine (hkept.rows key row hstored).read_of_unnamed hdistinct fun item hitem hkey => ?_
      rw [(excluded_iff hdistinct key item.resource).mpr ⟨item, hitem, hkey, rfl⟩] at hexcluded
      cases hexcluded
    | some excluded =>
      obtain ⟨item, hitem, rfl, rfl⟩ := (excluded_iff hdistinct _ _).mp hexcluded
      rw [hexcluded] at hrow
      cases hold : manifests.tables.resources.get? (item.resourceKey manifest.sourceId) with
      | none =>
        rw [hold] at hrow
        obtain rfl : item.resource = row := Option.some.inj hrow
        exact newestOf_read_of_new hkept hdistinct hitem hold
      | some stored =>
        rw [hold] at hrow
        obtain rfl : stored.update item.resource = row := Option.some.inj hrow
        exact (hkept.rows _ stored hold).read_of_updated hdistinct hitem
          (hreadable.timed item hitem stored hold)
  · intro key item hitem
    rw [get?_read hdistinct, Table.isSome_reconcile, Bool.or_eq_true]
    rcases (mem_seen_read hdistinct).mp hitem with hseen | ⟨hitem, hkey⟩
    · exact Or.inl (hkept.seen key item hseen)
    · rw [(excluded_iff hdistinct key item.resource).mpr ⟨item, hitem, hkey, rfl⟩]
      exact Or.inr rfl

/-- A manifest that can be read meets the claim. -/
theorem Kept.diffed (hkept : Kept manifests) (hreadable : Readable manifests manifest) :
    Diffed manifests manifest := by
  have hdistinct := hreadable.distinct
  obtain ⟨⟨reply, next⟩, hupdate⟩ : ∃ result,
      manifests.tables.updateBulkData manifest.sourceId manifest.items = some result :=
    ⟨_, if_pos hdistinct⟩
  have hread : (manifests.read manifest).tables = next := by
    rw [Manifests.read, hupdate]
  refine ⟨⟨reply, next, hupdate, changed_spec hdistinct hupdate⟩, ?_, ?_, ?_⟩
  · rw [hread]
    exact changed_of_stored hdistinct fun item hitem =>
      (isSome_version_iff hupdate _).mpr (Or.inr ⟨item, hitem, rfl⟩)
  · intro key row hrow
    rw [get?_read hdistinct, hrow]
    cases (Table.ofPairs (manifest.items.map fun item =>
        (item.resourceKey manifest.sourceId, item.resource))).get? key with
    | none => exact ⟨row, rfl, NotAfter.refl _⟩
    | some excluded => exact ⟨row.update excluded, rfl, notAfter_greatest _ _⟩
  · intro key row hrow
    have hrows := (hkept.read hreadable).rows key row hrow
    have hnewest := hrows.newest
    rw [hrows.updatedAtSource] at hnewest
    exact ⟨row.metadata, hrows.metadata, hrows.apiUri, rfl, hnewest⟩

/-- A resource that was stored without a time keeps its item when it gets one. -/
theorem Kept.readable (hkept : Kept manifests) (hdiffed : Diffed manifests manifest) :
    Readable manifests manifest := by
  have hdistinct : (manifest.items.map (BulkItem.resourceKey manifest.sourceId)).Nodup := by
    obtain ⟨reply, tables, hupdate, -⟩ := hdiffed.returns
    rw [BulkTables.updateBulkData] at hupdate
    split_ifs at hupdate with hdistinct
    exact hdistinct
  refine ⟨hdistinct, ?_⟩
  intro item hitem row hrow htimeless
  have hnext : (manifests.read manifest).tables.resources.get?
      (item.resourceKey manifest.sourceId) = some (row.update item.resource) := by
    rw [get?_read hdistinct, hrow, (excluded_iff hdistinct _ _).mpr ⟨item, hitem, rfl, rfl⟩]
    rfl
  have hmetadata : (row.update item.resource).metadata = row.metadata := by
    have hnewer : newer item.updatedAt row.updatedAtSource = false := by
      rw [htimeless]
      cases item.updatedAt <;> rfl
    simp only [Resource.update, BulkItem.resource, hnewer]
    rfl
  obtain ⟨newest, -, -, hown, hbefore⟩ := hdiffed.newest _ _ hnext
  obtain rfl : row.metadata = newest := hmetadata.symm.trans hown
  have hlast := hbefore item ((mem_seen_read hdistinct).mpr (Or.inr ⟨hitem, rfl⟩))
  rw [← (hkept.rows _ row hrow).updatedAtSource, htimeless] at hlast
  cases htime : item.updatedAt with
  | none => rfl
  | some time =>
    obtain ⟨other, hother, -⟩ := hlast time htime
    cases hother

end Read

/-- The manifests of a run are all diffed as claimed exactly when no manifest repeats a resource or
gives one its first time after it was stored. -/
theorem diffed_iff (manifests : List Manifest) :
    Run.StepsMeet Manifests.read Diffed .empty manifests ↔
      Run.StepsMeet Manifests.read Readable .empty manifests :=
  Run.stepsMeet_congr
    (fun _ _ (hkept : Kept _) => ⟨hkept.readable, hkept.diffed⟩)
    (fun _ _ hkept hreadable => hkept.read hreadable) kept_empty

/-- The card file of a day. -/
def BulkItem.cardsOf (updatedAt : Option Int) (apiUri downloadUri : String) : BulkItem where
  externalId := "922288cb-4bef-45e1-bb30-0c2bd3d3534f"
  externalType := "all_cards"
  apiUri := some apiUri
  name := some "All Cards"
  description := none
  downloadUri := downloadUri
  contentType := some "application/json"
  contentEncoding := some "gzip"
  updatedAt := updatedAt
  size := none

/-- A manifest that lists the card file twice raises. A card file that gets its first time keeps the
old address. -/
theorem repeated_resource_raises :
    ¬ Run.StepsMeet Manifests.read Diffed .empty
        [⟨2, [.cardsOf (some 1) "a" "x", .cardsOf (some 2) "b" "y"]⟩] ∧
      ¬ Run.StepsMeet Manifests.read Diffed .empty
        [⟨2, [.cardsOf none "a" "x"]⟩, ⟨2, [.cardsOf (some 2) "b" "y"]⟩] := by
  constructor
  · rintro ⟨hdiffed, -⟩
    obtain ⟨reply, tables, hupdate, -⟩ := hdiffed.returns
    have hraises : BulkTables.updateBulkData 2 BulkTables.empty
        [.cardsOf (some 1) "a" "x", .cardsOf (some 2) "b" "y"] = none := by decide
    rw [show Manifests.empty.tables = BulkTables.empty from rfl, hraises] at hupdate
    cases hupdate
  · rintro ⟨-, hdiffed, -⟩
    let key : ResourceKey := ⟨2, "all_cards", "922288cb-4bef-45e1-bb30-0c2bd3d3534f"⟩
    have hrow : (Manifests.read (Manifests.read .empty ⟨2, [.cardsOf none "a" "x"]⟩)
        ⟨2, [.cardsOf (some 2) "b" "y"]⟩).tables.resources.get? key =
          some ⟨some "All Cards", none, some "a", .cardsOf none "a" "x", some 2⟩ := by decide
    obtain ⟨item, -, -, rfl, hbefore⟩ := hdiffed.newest _ _ hrow
    have hseen : (key, BulkItem.cardsOf (some 2) "b" "y") ∈
        (Manifests.read (Manifests.read .empty ⟨2, [.cardsOf none "a" "x"]⟩)
          ⟨2, [.cardsOf (some 2) "b" "y"]⟩).seen := by decide
    obtain ⟨other, hother, -⟩ := hbefore _ hseen 2 rfl
    cases hother

end AutoMana.Scryfall
