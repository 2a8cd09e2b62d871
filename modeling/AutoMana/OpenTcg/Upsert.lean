import AutoMana.OpenTcg.LoadPrices

/-!
# One batch of SKUs

The rows of a batch are sent for the one card that the dictionary keeps for their id. The
insert fails when two of them meet in one key: two rows of one SKU, after normalization,
whose id is known. A batch that commits books exactly the cards it has chosen.
-/

namespace AutoMana.OpenTcg

open Relational Pricing
open Staging (IdSupply ProductsGrow anyIdWhere ensureProducts productLookup)

/-! ## The cards of an id -/

section Cards

variable {load : Load} {reference : Reference} {batch : Nat} {rows : List PriceRow}
  {row : PriceRow} {card : CardVersionId} {tcgplayerId : String}

/-- The card has the id in the catalogue. -/
def Carries (reference : Reference) (card : CardVersionId) (tcgplayerId : String) : Prop :=
  ∃ refId, reference.cardIdentifierRef.get? refId = some "tcgplayer_id" ∧
    reference.cardExternalIdentifier.get? (card, refId) = some tcgplayerId

/-- Some card has the id. -/
def Known (reference : Reference) (tcgplayerId : String) : Prop :=
  ∃ card, Carries reference card tcgplayerId

/-- A card has one id. -/
theorem Carries.id_unique {other : String} (hcarries : Carries reference card tcgplayerId)
    (hother : Carries reference card other) : tcgplayerId = other := by
  obtain ⟨refId, hname, hvalue⟩ := hcarries
  obtain ⟨refId', hname', hvalue'⟩ := hother
  rw [Table.key_unique reference.identifierName_unique hname hname', hvalue'] at hvalue
  exact (Option.some.inj hvalue).symm

theorem mem_resolveTcgplayerIds {tcgplayerIds : List String} :
    (tcgplayerId, card) ∈ resolveTcgplayerIds reference tcgplayerIds ↔
      Carries reference card tcgplayerId ∧ tcgplayerId ∈ tcgplayerIds := by
  simp only [resolveTcgplayerIds, List.mem_map, List.mem_filter, Prod.exists, Prod.mk.injEq,
    Table.mem_rows_iff, decide_eq_true_eq]
  constructor
  · intro hmem
    obtain ⟨_, refId, _, ⟨hvalue, hname, hids⟩, rfl, rfl⟩ := hmem
    exact ⟨⟨refId, hname, hvalue⟩, hids⟩
  · intro hmem
    obtain ⟨⟨refId, hname, hvalue⟩, hids⟩ := hmem
    exact ⟨card, refId, tcgplayerId, ⟨hvalue, hname, hids⟩, rfl, rfl⟩

/-- The dictionary keeps a card that has the id. -/
theorem carries_of_tidToMeta (hcard : tidToMeta load batch rows tcgplayerId = some card) :
    Carries load.reference card tcgplayerId := by
  obtain ⟨first, rest, hrecords, -⟩ := List.lookup_eq_some_iff.mp hcard
  have hmem : (tcgplayerId, card) ∈ (load.resolved batch (resolveTcgplayerIds load.reference
      (rows.map PriceRow.tcgplayerId))).reverse := by
    rw [hrecords]
    exact List.mem_append_right _ List.mem_cons_self
  rw [List.mem_reverse, (load.resolved_perm _ _).mem_iff] at hmem
  exact (mem_resolveTcgplayerIds.mp hmem).1

/-- It keeps a card for every id of the batch that is known. -/
theorem isSome_tidToMeta_iff (hrow : row ∈ rows) :
    (tidToMeta load batch rows row.tcgplayerId).isSome ↔
      Known load.reference row.tcgplayerId := by
  constructor
  · intro hsome
    obtain ⟨card, hcard⟩ := Option.isSome_iff_exists.mp hsome
    exact ⟨card, carries_of_tidToMeta hcard⟩
  · intro hknown
    obtain ⟨card, hcarries⟩ := hknown
    refine List.lookup_isSome_iff.mpr ⟨(row.tcgplayerId, card), ?_, beq_self_eq_true _⟩
    rw [List.mem_reverse, (load.resolved_perm _ _).mem_iff]
    exact mem_resolveTcgplayerIds.mpr ⟨hcarries, List.mem_map_of_mem hrow⟩

end Cards

/-! ## The key of a row -/

section Keys

variable {load : Load} {row other : PriceRow} {id id' : SourceProductId} {key : ObservationKey}

/-- The normalized codes of a row. -/
def PriceRow.codes (row : PriceRow) : String × String × String :=
  (row.finishCode, row.conditionCode, row.languageCode)

def SameSku (left right : PriceRow) : Prop :=
  left.tcgplayerId = right.tcgplayerId ∧ left.codes = right.codes

/-- The codes are those a SKU is normalized to. -/
structure Coded (row : PriceRow) : Prop where
  finish : row.finishCode ∈ finishMap.map Prod.snd
  condition : row.conditionCode ∈ conditionMap.map Prod.snd
  language : row.languageCode ∈ languageMap.map Prod.snd

theorem mem_of_code? {codes : List (String × String)} {value : Json} {code : String}
    (hcode : code? codes value = some (some code)) : code ∈ codes.map Prod.snd := by
  unfold code? at hcode
  split at hcode
  · obtain ⟨first, rest, hcodes, -⟩ := List.lookup_eq_some_iff.mp (Option.some.inj hcode)
    rw [hcodes, List.map_append, List.map_cons]
    exact List.mem_append_right _ List.mem_cons_self
  · split at hcode <;> cases hcode

theorem coded_of_priceRow? {parsers : Parsers} {sku : Json}
    (hrow : priceRow? parsers sku = some (some row)) : Coded row := by
  simp only [priceRow?, Option.bind_eq_bind, Option.bind_eq_some_iff] at hrow
  obtain ⟨productId, -, finish, ⟨_, -, hfinish⟩, condition, ⟨_, -, hcondition⟩, language,
    ⟨_, -, hlanguage⟩, hrow⟩ := hrow
  split at hrow
  · simp only [Option.bind_eq_some_iff] at hrow
    obtain ⟨_, -, _, -, _, -, hrow⟩ := hrow
    split at hrow
    · cases hrow
    · cases hrow
      exact ⟨mem_of_code? hfinish, mem_of_code? hcondition, mem_of_code? hlanguage⟩
  · cases hrow

/-- Seeded codes join. -/
theorem exists_observationKey (hcoded : Coded row) (load : Load) (id : SourceProductId) :
    ∃ key, observationKey? load id row = some key := by
  obtain ⟨finishId, hfinish⟩ :=
    Option.isSome_iff_exists.mp (load.reference.finish_seeded _ hcoded.finish)
  obtain ⟨conditionId, hcondition⟩ :=
    Option.isSome_iff_exists.mp (load.reference.condition_seeded _ hcoded.condition)
  obtain ⟨languageId, hlanguage⟩ :=
    Option.isSome_iff_exists.mp (load.reference.language_seeded _ hcoded.language)
  rw [observationKey?, hfinish, hcondition, hlanguage]
  exact ⟨_, rfl⟩

theorem code_eq_of_id {table : Table Nat String} {code code' : String} {found : Nat}
    (hcode : anyIdWhere table (· = code) = some found)
    (hcode' : anyIdWhere table (· = code') = some found) : code = code' := by
  obtain ⟨stored, hstored, hsame⟩ := Staging.get?_of_anyIdWhere hcode
  obtain ⟨stored', hstored', hsame'⟩ := Staging.get?_of_anyIdWhere hcode'
  rw [hstored, Option.some.injEq] at hstored'
  rw [← of_decide_eq_true hsame, ← of_decide_eq_true hsame', hstored']

/-- Rows under one key have one source product and one set of codes. -/
theorem codes_eq_of_key (hkey : observationKey? load id row = some key)
    (hkey' : observationKey? load id' other = some key) : id = id' ∧ row.codes = other.codes := by
  simp only [observationKey?, Option.bind_eq_bind, Option.bind_eq_some_iff, Option.pure_def,
    Option.some.injEq] at hkey hkey'
  obtain ⟨finishId, hfinish, conditionId, hcondition, languageId, hlanguage, rfl⟩ := hkey
  obtain ⟨finishId', hfinish', conditionId', hcondition', languageId', hlanguage', hsame⟩ := hkey'
  rw [ObservationKey.mk.injEq] at hsame
  obtain ⟨-, rfl, -, rfl, rfl, rfl, -⟩ := hsame
  refine ⟨rfl, ?_⟩
  rw [PriceRow.codes, PriceRow.codes, code_eq_of_id hfinish hfinish',
    code_eq_of_id hcondition hcondition', code_eq_of_id hlanguage hlanguage']

theorem observationKey?_congr (hcodes : row.codes = other.codes) (load : Load)
    (id : SourceProductId) : observationKey? load id row = observationKey? load id other := by
  simp only [PriceRow.codes, Prod.mk.injEq] at hcodes
  obtain ⟨hfinish, hcondition, hlanguage⟩ := hcodes
  rw [observationKey?, observationKey?, hfinish, hcondition, hlanguage]

theorem sourceProductId_of_key (hkey : observationKey? load id row = some key) :
    key.sourceProductId = id := by
  simp only [observationKey?, Option.bind_eq_bind, Option.bind_eq_some_iff, Option.pure_def,
    Option.some.injEq] at hkey
  obtain ⟨_, -, _, -, _, -, rfl⟩ := hkey
  rfl

end Keys

/-! ## What a batch finds and leaves -/

/-- The card has a row of the day for the finish, the condition, and the language. -/
def Booked (load : Load) (tables : Tables) (row : PriceRow) (card : CardVersionId) : Prop :=
  ∃ product ∈ productLookup tables.products load.reference.sourceId card,
    ∃ key, observationKey? load product.2 row = some key ∧
      (tables.priceObservation.get? key).isSome

/-- Ids to be drawn are new, and every observation is one of a source product. -/
structure Ready (load : Load) (tables : Tables) : Prop where
  fresh : load.supply.Fresh tables.products
  productId_new : ∀ card, card ∉ tables.products.mtgCardProducts.values →
    ∀ id sourceProduct, tables.products.sourceProduct.get? id = some sourceProduct →
      sourceProduct.productId ≠ load.supply.productId card
  observed : ∀ key, (tables.priceObservation.get? key).isSome →
    (tables.products.sourceProduct.get? key.sourceProductId).isSome

/-- The batch keeps the card for a row of the SKU. -/
def Chooses (load : Load) (batch : Nat) (rows : List PriceRow) (row : PriceRow)
    (card : CardVersionId) : Prop :=
  ∃ other ∈ rows, SameSku other row ∧ tidToMeta load batch rows other.tcgplayerId = some card

/-- No two rows of the batch are one SKU whose id is known. -/
def NoClash (load : Load) (rows : List PriceRow) : Prop :=
  rows.Pairwise fun left right =>
    SameSku left right → ¬ Known load.reference left.tcgplayerId

/-- The rows whose id is known fit their columns. -/
def Fits (load : Load) (rows : List PriceRow) : Prop :=
  ∀ row ∈ rows, Known load.reference row.tcgplayerId → (storedPrice? load row).isSome

section Products

variable {load : Load} {batch : Nat} {rows : List PriceRow} {row other : PriceRow}
  {card : CardVersionId} {products next : Products}

/-- The source products of a batch are those of its cards. -/
def EnsuredFor (load : Load) (batch : Nat) (rows : List PriceRow) (products next : Products) :
    Prop :=
  ensureProducts load.supply load.reference.sourceId
    (rows.filterMap fun row => tidToMeta load batch rows row.tcgplayerId) products = some next

theorem sent?_eq_some_iff {sent : SourceProductId × PriceRow}
    (hensured : EnsuredFor load batch rows products next) (hrow : row ∈ rows) :
    sent? load batch rows next row = some sent ↔
      sent.2 = row ∧ ∃ card, tidToMeta load batch rows row.tcgplayerId = some card ∧
        ∃ productId, (productId, sent.1) ∈ productLookup next load.reference.sourceId card := by
  simp only [sent?, Option.bind_eq_bind, Option.bind_eq_some_iff, Option.pure_def,
    Option.some.injEq]
  constructor
  · intro hsent
    obtain ⟨card, hcard, product, hproduct, rfl⟩ := hsent
    exact ⟨rfl, card, hcard, product.1, List.mem_of_mem_head? hproduct⟩
  · intro hsent
    obtain ⟨hsame, card, hcard, productId, hproduct⟩ := hsent
    obtain ⟨found, hfound⟩ := Staging.productLookup_of_ensure hensured
      (List.mem_filterMap.mpr ⟨row, hrow, hcard⟩)
    rw [hfound, List.mem_singleton] at hproduct
    refine ⟨card, hcard, found, ?_, ?_⟩
    · rw [hfound, List.head?_cons]
    · rw [← hproduct, ← hsame]

/-- The rows whose id is known are sent. -/
theorem isSome_sent?_iff (hensured : EnsuredFor load batch rows products next)
    (hrow : row ∈ rows) :
    (sent? load batch rows next row).isSome ↔ Known load.reference row.tcgplayerId := by
  rw [← @isSome_tidToMeta_iff load batch _ _ hrow]
  constructor
  · intro hsome
    obtain ⟨sent, hsent⟩ := Option.isSome_iff_exists.mp hsome
    obtain ⟨-, card, hcard, -⟩ := (sent?_eq_some_iff hensured hrow).mp hsent
    exact Option.isSome_of_eq_some hcard
  · intro hsome
    obtain ⟨card, hcard⟩ := Option.isSome_iff_exists.mp hsome
    obtain ⟨product, hproduct⟩ := Staging.productLookup_of_ensure hensured
      (List.mem_filterMap.mpr ⟨row, hrow, hcard⟩)
    have hsent : sent? load batch rows next row = some (product.2, row) := by
      refine (sent?_eq_some_iff hensured hrow).mpr ⟨rfl, card, hcard, product.1, ?_⟩
      rw [hproduct]
      exact List.mem_singleton_self _
    exact Option.isSome_of_eq_some hsent

/-- Rows sent under one source product have one id. -/
theorem tcgplayerId_eq_of_sent? {id : SourceProductId}
    (hensured : EnsuredFor load batch rows products next) (hrow : row ∈ rows)
    (hother : other ∈ rows) (hsent : sent? load batch rows next row = some (id, row))
    (hsent' : sent? load batch rows next other = some (id, other)) :
    row.tcgplayerId = other.tcgplayerId := by
  obtain ⟨-, card, hcard, productId, hproduct⟩ := (sent?_eq_some_iff hensured hrow).mp hsent
  obtain ⟨-, card', hcard', productId', hproduct'⟩ :=
    (sent?_eq_some_iff hensured hother).mp hsent'
  obtain ⟨hlinked, hsource⟩ := Staging.mem_productLookup.mp hproduct
  obtain ⟨hlinked', hsource'⟩ := Staging.mem_productLookup.mp hproduct'
  rw [hsource, Option.some.injEq, SourceProduct.mk.injEq] at hsource'
  rw [hsource'.1, hlinked', Option.some.injEq] at hlinked
  rw [hlinked] at hcard'
  exact (carries_of_tidToMeta hcard).id_unique (carries_of_tidToMeta hcard')

/-- One id is sent under one source product. -/
theorem sent?_eq_of_tcgplayerId {id id' : SourceProductId}
    (hsame : row.tcgplayerId = other.tcgplayerId)
    (hsent : sent? load batch rows next row = some (id, row))
    (hsent' : sent? load batch rows next other = some (id', other)) : id = id' := by
  simp only [sent?, Option.bind_eq_bind, Option.bind_eq_some_iff, Option.pure_def,
    Option.some.injEq, Prod.mk.injEq] at hsent hsent'
  obtain ⟨card, hcard, product, hproduct, rfl, -⟩ := hsent
  obtain ⟨card', hcard', product', hproduct', rfl, -⟩ := hsent'
  rw [hsame, hcard', Option.some.injEq] at hcard
  rw [hcard, hproduct, Option.some.injEq] at hproduct'
  rw [hproduct']

end Products

/-! ## When a batch commits -/

section Commits

variable {load : Load} {rows : List PriceRow} {row : PriceRow} {state next : LoadState}
  {products : Products}

theorem excluded?_eq_some_iff {sent : SourceProductId × PriceRow}
    {inserted : ObservationKey × StoredPrice} :
    excluded? load sent = some inserted ↔
      observationKey? load sent.1 sent.2 = some inserted.1 ∧
        storedPrice? load sent.2 = some inserted.2 := by
  simp only [excluded?, Option.bind_eq_bind, Option.bind_eq_some_iff, Option.pure_def,
    Option.some.injEq]
  constructor
  · intro hinserted
    obtain ⟨key, hkey, price, hprice, rfl⟩ := hinserted
    exact ⟨hkey, hprice⟩
  · intro hinserted
    exact ⟨_, hinserted.1, _, hinserted.2, rfl⟩

theorem rejected_eq_isNone {sent : SourceProductId × PriceRow} (hcoded : Coded sent.2) :
    rejected load sent = (storedPrice? load sent.2).isNone := by
  obtain ⟨key, hkey⟩ := exists_observationKey hcoded load sent.1
  rw [rejected, hkey, Option.isSome_some, Bool.true_and]
  cases hcolumns : columns? sent.2 with
  | none =>
    rw [storedPrice?, hcolumns]
    rfl
  | some columns => rw [Option.isNone_some, Bool.false_or]

/-- The rows sent pass exactly when those whose id is known fit. -/
theorem any_rejected_iff (hcoded : ∀ row ∈ rows, Coded row)
    (hensured : EnsuredFor load state.batches rows state.tables.products products) :
    (rows.filterMap (sent? load state.batches rows products)).any (rejected load) = false ↔
      Fits load rows := by
  rw [List.any_eq_false]
  constructor
  · intro hpass row hrow hknown
    obtain ⟨sent, hsent⟩ :=
      Option.isSome_iff_exists.mp ((isSome_sent?_iff hensured hrow).mpr hknown)
    have hpassed := hpass sent (List.mem_filterMap.mpr ⟨row, hrow, hsent⟩)
    obtain ⟨rfl, -⟩ := (sent?_eq_some_iff hensured hrow).mp hsent
    rw [rejected_eq_isNone (hcoded _ hrow), Bool.not_eq_true] at hpassed
    exact Option.isNone_eq_false_iff.mp hpassed
  · intro hfits sent hmem
    obtain ⟨row, hrow, hsent⟩ := List.mem_filterMap.mp hmem
    have hknown := (isSome_sent?_iff hensured hrow).mp (Option.isSome_of_eq_some hsent)
    obtain ⟨rfl, -⟩ := (sent?_eq_some_iff hensured hrow).mp hsent
    rw [rejected_eq_isNone (hcoded _ hrow), Bool.not_eq_true]
    exact Option.isNone_eq_false_iff.mpr (hfits _ hrow hknown)

/-- Two rows meet in one key exactly when they are one SKU whose id is known. -/
theorem nodup_keys_iff (hcoded : ∀ row ∈ rows, Coded row)
    (hensured : EnsuredFor load state.batches rows state.tables.products products)
    (hfits : Fits load rows) :
    (((rows.filterMap (sent? load state.batches rows products)).filterMap
      (excluded? load)).map Prod.fst).Nodup ↔ NoClash load rows := by
  rw [List.Nodup, List.pairwise_map, List.pairwise_filterMap, List.pairwise_filterMap, NoClash]
  apply List.Pairwise.iff_of_mem
  intro left right hleft hright
  constructor
  · intro hdistinct hsame hknown
    have hknown' : Known load.reference right.tcgplayerId := hsame.1 ▸ hknown
    obtain ⟨⟨id, row⟩, hsent⟩ :=
      Option.isSome_iff_exists.mp ((isSome_sent?_iff hensured hleft).mpr hknown)
    obtain ⟨⟨id', row'⟩, hsent'⟩ :=
      Option.isSome_iff_exists.mp ((isSome_sent?_iff hensured hright).mpr hknown')
    obtain ⟨rfl, -⟩ := (sent?_eq_some_iff hensured hleft).mp hsent
    obtain ⟨rfl, -⟩ := (sent?_eq_some_iff hensured hright).mp hsent'
    obtain ⟨key, hkey⟩ := exists_observationKey (hcoded _ hleft) load id
    obtain ⟨price, hprice⟩ := Option.isSome_iff_exists.mp (hfits _ hleft hknown)
    obtain ⟨price', hprice'⟩ := Option.isSome_iff_exists.mp (hfits _ hright hknown')
    have hkey' : observationKey? load id' row' = some key := by
      rw [← sent?_eq_of_tcgplayerId hsame.1 hsent hsent', ← observationKey?_congr hsame.2]
      exact hkey
    exact hdistinct _ hsent _ hsent' (key, price) (excluded?_eq_some_iff.mpr ⟨hkey, hprice⟩)
      (key, price') (excluded?_eq_some_iff.mpr ⟨hkey', hprice'⟩) rfl
  · intro hclash sent hsent sent' hsent' inserted hinserted inserted' hinserted' hmeet
    obtain ⟨id, row⟩ := sent
    obtain ⟨id', row'⟩ := sent'
    have hknown := (isSome_sent?_iff hensured hleft).mp (Option.isSome_of_eq_some hsent)
    obtain ⟨rfl, -⟩ := (sent?_eq_some_iff hensured hleft).mp hsent
    obtain ⟨rfl, -⟩ := (sent?_eq_some_iff hensured hright).mp hsent'
    have hkey := (excluded?_eq_some_iff.mp hinserted).1
    have hkey' := (excluded?_eq_some_iff.mp hinserted').1
    rw [← hmeet] at hkey'
    obtain ⟨rfl, hcodes⟩ := codes_eq_of_key hkey hkey'
    exact hclash ⟨tcgplayerId_eq_of_sent? hensured hleft hright hsent hsent', hcodes⟩ hknown

/-- A batch commits exactly when its rows fit and do not clash. -/
theorem exists_upsert_iff (hready : Ready load state.tables)
    (hcoded : ∀ row ∈ rows, Coded row) :
    (∃ next, upsertOpentcgPriceBatch load state rows = some next) ↔
      Fits load rows ∧ NoClash load rows := by
  obtain ⟨products, hensured⟩ := Staging.exists_ensureProducts hready.fresh
    load.reference.sourceId
    (rows.filterMap fun row => tidToMeta load state.batches rows row.tcgplayerId)
  rw [upsertOpentcgPriceBatch, hensured, Option.bind_eq_bind, Option.bind_some]
  dsimp only
  constructor
  · intro hcommits
    obtain ⟨next, hnext⟩ := hcommits
    split_ifs at hnext with hrejected hkeys
    have hfits := (any_rejected_iff hcoded hensured).mp (Bool.eq_false_iff.mpr hrejected)
    exact ⟨hfits, (nodup_keys_iff hcoded hensured hfits).mp hkeys⟩
  · intro hcondition
    obtain ⟨hfits, hclash⟩ := hcondition
    rw [(any_rejected_iff hcoded hensured).mpr hfits, if_neg Bool.false_ne_true,
      dif_pos ((nodup_keys_iff hcoded hensured hfits).mpr hclash)]
    exact ⟨_, rfl⟩

end Commits

/-! ## What a batch books -/

section Books

variable {load : Load} {rows : List PriceRow} {row : PriceRow} {card : CardVersionId}
  {state next : LoadState} {products grown : Products}

theorem upsert_cases (hupsert : upsertOpentcgPriceBatch load state rows = some next) :
    EnsuredFor load state.batches rows state.tables.products next.tables.products ∧
    next.batches = state.batches + 1 ∧
    (rows.filterMap (sent? load state.batches rows next.tables.products)).any
      (rejected load) = false ∧
    ∃ excluded : Table ObservationKey StoredPrice,
      excluded.rows = (rows.filterMap (sent? load state.batches rows
        next.tables.products)).filterMap (excluded? load) ∧
      next.tables.priceObservation =
        state.tables.priceObservation.upsert excluded updatePrice := by
  simp only [upsertOpentcgPriceBatch, Option.bind_eq_bind, Option.bind_eq_some_iff] at hupsert
  obtain ⟨products, hensured, hupsert⟩ := hupsert
  split_ifs at hupsert with hrejected hkeys
  obtain rfl := Option.some.inj hupsert
  exact ⟨hensured, rfl, Bool.eq_false_iff.mpr hrejected, ⟨_, hkeys⟩, rfl, rfl⟩

/-- The keys after a batch are those stored and those of its rows. -/
theorem isSome_observation_iff (hcoded : ∀ row ∈ rows, Coded row)
    (hupsert : upsertOpentcgPriceBatch load state rows = some next) (key : ObservationKey) :
    (next.tables.priceObservation.get? key).isSome ↔
      (state.tables.priceObservation.get? key).isSome ∨
        ∃ row ∈ rows, ∃ id, observationKey? load id row = some key ∧
          sent? load state.batches rows next.tables.products row = some (id, row) := by
  obtain ⟨hensured, -, hpass, excluded, hrows, hobservation⟩ := upsert_cases hupsert
  have hfits := (any_rejected_iff hcoded hensured).mp hpass
  have hexcluded : (excluded.get? key).isSome ↔ ∃ row ∈ rows, ∃ id,
      observationKey? load id row = some key ∧
        sent? load state.batches rows next.tables.products row = some (id, row) := by
    rw [Option.isSome_iff_exists]
    constructor
    · intro hget
      obtain ⟨price, hprice⟩ := hget
      have hmem := (Table.mem_rows_iff _ _ _).mpr hprice
      rw [hrows] at hmem
      obtain ⟨⟨id, row⟩, hsent, hinserted⟩ := List.mem_filterMap.mp hmem
      obtain ⟨row', hrow, hsent⟩ := List.mem_filterMap.mp hsent
      obtain ⟨rfl, -⟩ := (sent?_eq_some_iff hensured hrow).mp hsent
      exact ⟨row, hrow, id, (excluded?_eq_some_iff.mp hinserted).1, hsent⟩
    · intro hsent
      obtain ⟨row, hrow, id, hkey, hsent⟩ := hsent
      have hknown := (isSome_sent?_iff hensured hrow).mp (Option.isSome_of_eq_some hsent)
      obtain ⟨price, hprice⟩ := Option.isSome_iff_exists.mp (hfits row hrow hknown)
      refine ⟨price, (Table.mem_rows_iff _ _ _).mp ?_⟩
      rw [hrows]
      exact List.mem_filterMap.mpr ⟨(id, row), List.mem_filterMap.mpr ⟨row, hrow, hsent⟩,
        excluded?_eq_some_iff.mpr ⟨hkey, hprice⟩⟩
  rw [hobservation, Table.get?_upsert, Table.isSome_reconcile, Bool.or_eq_true, hexcluded]

/-- A source product a batch adds is one of a linked product. -/
theorem linked_of_ensured (hensured : EnsuredFor load state.batches rows products grown)
    {id : SourceProductId} {sourceProduct : SourceProduct}
    (hget : grown.sourceProduct.get? id = some sourceProduct) :
    products.sourceProduct.get? id = some sourceProduct ∨
      (grown.mtgCardProducts.get? sourceProduct.productId).isSome := by
  simp only [EnsuredFor, ensureProducts] at hensured
  split at hensured
  · cases hensured
  · next mtgCardProducts _ =>
      split at hensured
      · cases hensured
      · next sourceProducts hwanted =>
          cases hensured
          have hmem := (Table.mem_rows_iff _ _ _).mpr hget
          rw [Table.rows_of_register hwanted, List.mem_append, Table.mem_rows_iff] at hmem
          refine hmem.imp_right fun hnew => ?_
          obtain ⟨_, hmissing, hdrawn⟩ := List.mem_map.mp hnew
          obtain ⟨-, rfl⟩ := Prod.mk.inj hdrawn
          have hwants := List.mem_dedup.mp (List.mem_filter.mp hmissing).1
          obtain ⟨card, -, hpair⟩ := List.mem_flatMap.mp hwants
          obtain ⟨productId, hproduct, rfl⟩ := List.mem_map.mp hpair
          exact Option.isSome_of_eq_some (Table.mem_keysOf.mp hproduct)

/-- A product linked to the card of a stored source product was linked before. -/
theorem linked_before (hready : Ready load state.tables)
    (hgrow : ProductsGrow load.supply state.tables.products grown)
    {id : SourceProductId} {sourceProduct : SourceProduct}
    (hstored : state.tables.products.sourceProduct.get? id = some sourceProduct)
    (hlinked : grown.mtgCardProducts.get? sourceProduct.productId = some card) :
    state.tables.products.mtgCardProducts.get? sourceProduct.productId = some card := by
  rcases hgrow.mtgCardProducts.drawn _ ((Table.mem_rows_iff _ _ _).mpr hlinked) with hold | hdrawn
  · exact (Table.mem_rows_iff _ _ _).mp hold
  · by_cases hvalue : card ∈ state.tables.products.mtgCardProducts.values
    · -- the card keeps the product it had
      obtain ⟨productId, hproduct⟩ := Table.mem_values_iff.mp hvalue
      have hsame := Table.Grows.key_eq (Table.Grows.refl load.supply.productId
          state.tables.products.mtgCardProducts) hgrow.mtgCardProducts
        state.tables.products.mtgCardProducts_unique grown.mtgCardProducts_unique hproduct hlinked
      rwa [hsame] at hproduct
    · exact absurd hdrawn (hready.productId_new card hvalue id sourceProduct hstored)

theorem ready_of_upsert (hready : Ready load state.tables) (hcoded : ∀ row ∈ rows, Coded row)
    (hupsert : upsertOpentcgPriceBatch load state rows = some next) :
    Ready load next.tables := by
  obtain ⟨hensured, -⟩ := upsert_cases hupsert
  have hgrow := Staging.productsGrow_of_ensure hensured
  have hfresh : load.supply.Fresh next.tables.products := {
    productId := hgrow.mtgCardProducts.free load.supply.productId_injective hready.fresh.productId
    sourceProductId := hgrow.sourceProduct.free load.supply.sourceProductId_injective
      hready.fresh.sourceProductId }
  refine ⟨hfresh, ?_, ?_⟩
  · intro card hcard id sourceProduct hget hdrawn
    rcases linked_of_ensured hensured hget with hstored | hlinked
    · refine hready.productId_new card ?_ id sourceProduct hstored hdrawn
      intro hold
      obtain ⟨productId, hproduct⟩ := Table.mem_values_iff.mp hold
      exact hcard (Table.mem_values_iff.mpr ⟨_, hgrow.mtgCardProducts.get?_kept hproduct⟩)
    · rw [hdrawn, hfresh.productId card hcard] at hlinked
      cases hlinked
  · intro key hkey
    rcases (isSome_observation_iff hcoded hupsert key).mp hkey with hstored | hsent
    · obtain ⟨sourceProduct, hget⟩ := Option.isSome_iff_exists.mp (hready.observed key hstored)
      exact Option.isSome_of_eq_some (hgrow.sourceProduct.get?_kept hget)
    · obtain ⟨row, hrow, id, hkey, hsent⟩ := hsent
      obtain ⟨-, card, -, productId, hproduct⟩ := (sent?_eq_some_iff hensured hrow).mp hsent
      rw [sourceProductId_of_key hkey]
      exact Option.isSome_of_eq_some (Staging.mem_productLookup.mp hproduct).2

/-- A card of the id is booked after a batch if it was before, or the batch has chosen it. -/
theorem booked_iff_of_upsert (hready : Ready load state.tables)
    (hcoded : ∀ row ∈ rows, Coded row)
    (hupsert : upsertOpentcgPriceBatch load state rows = some next)
    (hcarries : Carries load.reference card row.tcgplayerId) :
    Booked load next.tables row card ↔
      Booked load state.tables row card ∨ Chooses load state.batches rows row card := by
  obtain ⟨hensured, -⟩ := upsert_cases hupsert
  have hgrow := Staging.productsGrow_of_ensure hensured
  constructor
  · intro hbooked
    obtain ⟨product, hproduct, key, hkey, hobserved⟩ := hbooked
    obtain ⟨hlinked, hsource⟩ := Staging.mem_productLookup.mp hproduct
    rcases (isSome_observation_iff hcoded hupsert key).mp hobserved with hstored | hsent
    · -- a stored row is one of a stored source product
      have hfound := hready.observed key hstored
      rw [sourceProductId_of_key hkey] at hfound
      obtain ⟨sourceProduct, hget⟩ := Option.isSome_iff_exists.mp hfound
      have hsame := hgrow.sourceProduct.get?_kept hget
      rw [hsource, Option.some.injEq] at hsame
      subst hsame
      exact Or.inl ⟨product, Staging.mem_productLookup.mpr
        ⟨linked_before hready hgrow hget hlinked, hget⟩, key, hkey, hstored⟩
    · obtain ⟨other, hother, id, hkey', hsent⟩ := hsent
      obtain ⟨rfl, hcodes⟩ := codes_eq_of_key hkey hkey'
      obtain ⟨-, card', hcard', productId, hproduct'⟩ :=
        (sent?_eq_some_iff hensured hother).mp hsent
      obtain ⟨hlinked', hsource'⟩ := Staging.mem_productLookup.mp hproduct'
      rw [hsource, Option.some.injEq, SourceProduct.mk.injEq] at hsource'
      rw [hsource'.1, hlinked', Option.some.injEq] at hlinked
      rw [hlinked] at hcard'
      refine Or.inr ⟨other, hother, ⟨?_, hcodes.symm⟩, hcard'⟩
      exact (carries_of_tidToMeta hcard').id_unique hcarries
  · intro hbooked
    rcases hbooked with hbefore | hchosen
    · obtain ⟨product, hproduct, key, hkey, hobserved⟩ := hbefore
      obtain ⟨hlinked, hsource⟩ := Staging.mem_productLookup.mp hproduct
      exact ⟨product, Staging.mem_productLookup.mpr
        ⟨hgrow.mtgCardProducts.get?_kept hlinked, hgrow.sourceProduct.get?_kept hsource⟩,
        key, hkey, (isSome_observation_iff hcoded hupsert key).mpr (Or.inl hobserved)⟩
    · obtain ⟨other, hother, hsame, hcard⟩ := hchosen
      obtain ⟨product, hproduct⟩ := Staging.productLookup_of_ensure hensured
        (List.mem_filterMap.mpr ⟨other, hother, hcard⟩)
      have hmem : product ∈ productLookup next.tables.products load.reference.sourceId card := by
        rw [hproduct]
        exact List.mem_singleton_self _
      have hsent : sent? load state.batches rows next.tables.products other =
          some (product.2, other) :=
        (sent?_eq_some_iff hensured hother).mpr ⟨rfl, card, hcard, product.1, hmem⟩
      obtain ⟨key, hkey⟩ := exists_observationKey (hcoded other hother) load product.2
      refine ⟨product, hmem, key, ?_, ?_⟩
      · rw [← observationKey?_congr hsame.2]
        exact hkey
      · exact (isSome_observation_iff hcoded hupsert key).mpr
          (Or.inr ⟨other, hother, product.2, hkey, hsent⟩)

end Books

end AutoMana.OpenTcg
