import AutoMana.Pricing.CardPrices
import AutoMana.Relational.Arrangement

/-!
# Every card has its own product

A card keeps the one product that it is linked to. The new products and the cards without one are as
many, so that every new product is linked, whatever the order in which they are numbered.
-/

namespace AutoMana.Pricing.CardPrices

open Relational

/-! ## Cards and products -/

/-- The card has the Scryfall id. -/
def Carries (catalogue : Catalogue) (card : CardVersionId) (scryfallId : String) : Prop :=
  ∃ refId, catalogue.cardIdentifierRef.get? refId = some "scryfall_id" ∧
    catalogue.cardExternalIdentifier.get? (card, refId) = some scryfallId

/-- Each Scryfall id is on at most one card. -/
def IdsUnique (catalogue : Catalogue) : Prop :=
  ∀ card other scryfallId, Carries catalogue card scryfallId →
    Carries catalogue other scryfallId → card = other

/-- The product is the card's one. -/
def Linked (tables : Tables) (product : ProductId) (card : CardVersionId) : Prop :=
  tables.products.mtgCardProducts.get? product = some card

/-- `mtg_card_products.product_id REFERENCES product_ref` -/
def Referenced (tables : Tables) : Prop :=
  ∀ product card, Linked tables product card → (tables.productRef.get? product).isSome

/-- Nothing goes from the tables of products, and each product that is created is linked. -/
structure Grown (catalogue : Catalogue) (tables next : Tables) : Prop where
  productRef : ∀ product game, tables.productRef.get? product = some game →
    next.productRef.get? product = some game
  created : ∀ product game, next.productRef.get? product = some game →
    tables.productRef.get? product = some game ∨
      game = catalogue.mtgGameId ∧ ∃ card, Linked next product card
  linked : ∀ product card, Linked tables product card → Linked next product card
  sourceProduct : ∀ id product, tables.products.sourceProduct.get? id = some product →
    next.products.sourceProduct.get? id = some product
  referenced : Referenced tables → Referenced next

/-! ## The products of the cards -/

section Products

variable {catalogue : Catalogue} {engine : Engine} {tables next : Tables}
  {cards : List CardVersionId} {card : CardVersionId} {product : ProductId}

theorem Grown.refl (catalogue : Catalogue) (tables : Tables) : Grown catalogue tables tables where
  productRef := fun _ _ => id
  created := fun _ _ => Or.inl
  linked := fun _ _ => id
  sourceProduct := fun _ _ => id
  referenced := id

theorem Grown.trans {last : Tables} (hfirst : Grown catalogue tables next)
    (hsecond : Grown catalogue next last) : Grown catalogue tables last where
  productRef := fun product game hget => hsecond.productRef _ _ (hfirst.productRef _ _ hget)
  created := fun product game hget => by
    rcases hsecond.created product game hget with hstored | hnew
    · refine (hfirst.created product game hstored).imp_right fun ⟨hgame, card, hcard⟩ => ?_
      exact ⟨hgame, card, hsecond.linked _ _ hcard⟩
    · exact Or.inr hnew
  linked := fun product card hlinked => hsecond.linked _ _ (hfirst.linked _ _ hlinked)
  sourceProduct := fun id product hget => hsecond.sourceProduct _ _ (hfirst.sourceProduct _ _ hget)
  referenced := hsecond.referenced ∘ hfirst.referenced

/-- A card has one product. -/
theorem Linked.product_unique {other : ProductId} (hlinked : Linked tables product card)
    (hother : Linked tables other card) : product = other :=
  Table.key_unique tables.products.mtgCardProducts_unique hlinked hother

theorem productOf?_eq_some_iff :
    productOf? tables.products card = some product ↔ Linked tables product card := by
  rw [productOf?, Linked, ← Table.mem_keysOf]
  constructor
  · exact List.mem_of_mem_head?
  · intro hmem
    obtain ⟨key, hkey⟩ := Table.keysOf_eq_singleton tables.products.mtgCardProducts_unique
      (Table.mem_values_iff.mpr ⟨product, Table.mem_keysOf.mp hmem⟩)
    rw [hkey] at hmem ⊢
    rw [List.mem_singleton.mp hmem, List.head?_cons]

theorem exists_linkCards {products : Products} {pairs : List (ProductId × CardVersionId)}
    (hdistinct : (pairs.map Prod.fst).Nodup)
    (hnew : ∀ product ∈ pairs.map Prod.fst, products.mtgCardProducts.get? product = none) :
    ∃ next, linkCards? pairs products = some next ∧
      Table.Links products.mtgCardProducts next.mtgCardProducts pairs ∧
      next.sourceProduct = products.sourceProduct := by
  obtain ⟨linked, hlinked⟩ := Table.exists_link hdistinct hnew
  rw [linkCards?]
  split
  · next hnone => rw [hnone] at hlinked; cases hlinked
  · next stored hstored => exact ⟨_, rfl, Table.links_of_link hstored, rfl⟩

theorem exists_linkSources {products : Products}
    {pairs : List (SourceProductId × SourceProduct)} (hdistinct : (pairs.map Prod.fst).Nodup)
    (hnew : ∀ id ∈ pairs.map Prod.fst, products.sourceProduct.get? id = none) :
    ∃ next, linkSources? pairs products = some next ∧
      Table.Links products.sourceProduct next.sourceProduct pairs ∧
      next.mtgCardProducts = products.mtgCardProducts := by
  obtain ⟨linked, hlinked⟩ := Table.exists_link hdistinct hnew
  rw [linkSources?]
  split
  · next hnone => rw [hnone] at hlinked; cases hlinked
  · next stored hstored => exact ⟨_, rfl, Table.links_of_link hstored, rfl⟩

section Created

variable {created : List ProductId} {game : Nat}

/-- The new rows of `product_ref`, as they are looked up. -/
theorem lookup_created_eq_none (hnew : product ∉ created) :
    (created.map (·, game)).reverse.lookup product = none := by
  rw [List.lookup_eq_none_iff]
  intro row hrow
  obtain ⟨other, hother, rfl⟩ := List.mem_map.mp (List.mem_reverse.mp hrow)
  have hne : product ≠ other := fun hsame => hnew (hsame ▸ hother)
  simpa using hne

theorem lookup_created_isSome (hmem : product ∈ created) :
    ((created.map (·, game)).reverse.lookup product).isSome := by
  rw [List.lookup_isSome_iff]
  exact ⟨(product, game), by simpa using hmem, by simp⟩

theorem mem_created_of_lookup {found : Nat}
    (hfound : (created.map (·, game)).reverse.lookup product = some found) :
    product ∈ created ∧ found = game := by
  obtain ⟨before, after, hsplit, -⟩ := List.lookup_eq_some_iff.mp hfound
  have hmem : (product, found) ∈ created.map (·, game) := by
    rw [← List.mem_reverse, hsplit]
    simp
  obtain ⟨other, hother, hsame⟩ := List.mem_map.mp hmem
  obtain ⟨rfl, rfl⟩ := Prod.mk.inj hsame
  exact ⟨hother, rfl⟩

end Created

/-- What `_INSERT_PRODUCTS_BATCH_SQL` leaves: each of the cards is linked, and so is each product
that was created. -/
structure CardsInserted (catalogue : Catalogue) (cards : List CardVersionId) (tables : Tables)
    (inserted : Tables × List (ProductId × CardVersionId)) : Prop where
  grown : Grown catalogue tables inserted.1
  linked : ∀ card ∈ cards, ∃ product, Linked inserted.1 product card
  returned : ∀ product card, (product, card) ∈ inserted.2 ↔
    Linked inserted.1 product card ∧ tables.products.mtgCardProducts.get? product = none
  priceObservation : inserted.1.priceObservation = tables.priceObservation

variable (engine) in
theorem exists_insertProductsBatch (hreferenced : Referenced tables) (hdistinct : cards.Nodup)
    (hcards : ∀ card ∈ cards, card ∉ tables.products.mtgCardProducts.values →
      card ∈ catalogue.cardVersion) :
    ∃ inserted, insertProductsBatch? catalogue engine cards tables = some inserted ∧
      CardsInserted catalogue cards tables inserted := by
  let unlinked := cards.filter (· ∉ tables.products.mtgCardProducts.values)
  let created := engine.productIds.take (tables.productRef.rows.map Prod.fst) unlinked.length
  let zipped := (engine.numberedProducts.list created).zip (engine.numberedCards.list unlinked)
  have hlength : (engine.numberedProducts.list created).length =
      (engine.numberedCards.list unlinked).length := by
    rw [(engine.numberedProducts.perm _).length_eq, (engine.numberedCards.perm _).length_eq,
      Supply.length_take]
  obtain ⟨hproducts, hunlinked⟩ := zip_of_length_eq hlength
  have hfree : ∀ product ∈ created, tables.productRef.get? product = none := by
    intro product hproduct
    rw [← Option.not_isSome_iff_eq_none, ← Table.mem_keys_iff]
    exact engine.productIds.notMem_of_mem_take _ hproduct
  have hcreated : ∀ {pair : ProductId × CardVersionId}, pair ∈ zipped → pair.1 ∈ created := by
    intro pair hpair
    have hmem : pair.1 ∈ zipped.map Prod.fst := List.mem_map_of_mem hpair
    rwa [hproducts, Listing.mem_list] at hmem
  have hnew : ∀ product ∈ zipped.map Prod.fst,
      tables.products.mtgCardProducts.get? product = none := by
    intro product hproduct
    rw [hproducts, Listing.mem_list] at hproduct
    rw [← Option.not_isSome_iff_eq_none]
    intro hstored
    obtain ⟨card, hcard⟩ := Option.isSome_iff_exists.mp hstored
    have hsome := hreferenced product card hcard
    rw [hfree product hproduct] at hsome
    cases hsome
  have hdrawn : (zipped.map Prod.fst).Nodup := by
    rw [hproducts, (engine.numberedProducts.perm _).nodup_iff]
    exact engine.productIds.nodup_take _ _
  obtain ⟨products, hlink, hlinks, hsource⟩ := exists_linkCards hdrawn hnew
  -- every card without a product is in the zip, and so is every new product
  have hlinked : ∀ pair ∈ zipped, products.mtgCardProducts.get? pair.1 = some pair.2 := by
    intro pair hpair
    apply hlinks.get?_of_mem _ _ hpair
    · rw [hunlinked, (engine.numberedCards.perm _).nodup_iff]
      exact hdistinct.filter _
    · intro card hcard
      rw [hunlinked, Listing.mem_list] at hcard
      exact of_decide_eq_true (List.mem_filter.mp hcard).2
  have hall : unlinked.all (· ∈ catalogue.cardVersion) = true := by
    rw [List.all_eq_true]
    intro card hcard
    obtain ⟨hmem, hunlinked⟩ := List.mem_filter.mp hcard
    exact decide_eq_true (hcards card hmem (of_decide_eq_true hunlinked))
  refine ⟨({ tables with
      productRef := tables.productRef.setAll (created.map (·, catalogue.mtgGameId))
      products },
    engine.returned.list (products.mtgCardProducts.rows.filter fun row =>
      (tables.products.mtgCardProducts.get? row.1).isNone)), ?_, ?_⟩
  · rw [insertProductsBatch?, if_pos hall, hlink, Option.map_some]
  · exact {
      grown := {
        productRef := fun product game hget => by
          have hold : product ∉ created := fun hmem => by
            rw [hfree product hmem] at hget
            cases hget
          rw [Table.get?_setAll, lookup_created_eq_none hold, Option.none_or, hget]
        created := fun product game hget => by
          rw [Table.get?_setAll, Option.or_eq_some_iff] at hget
          rcases hget with hnew | ⟨-, hstored⟩
          · obtain ⟨hmem, hgame⟩ := mem_created_of_lookup hnew
            have hpair : product ∈ zipped.map Prod.fst := by rwa [hproducts, Listing.mem_list]
            obtain ⟨pair, hzipped, rfl⟩ := List.mem_map.mp hpair
            exact Or.inr ⟨hgame, pair.2, hlinked pair hzipped⟩
          · exact Or.inl hstored
        linked := fun _ _ hstored => hlinks.kept hstored
        sourceProduct := fun id product hget => by rwa [hsource]
        referenced := fun _ product card hcard => by
          rw [Table.get?_setAll, Option.isSome_or, Bool.or_eq_true]
          rcases hlinks.stored_or_mem hcard with hstored | hpair
          · exact Or.inr (hreferenced product card hstored)
          · exact Or.inl (lookup_created_isSome (hcreated hpair)) }
      linked := fun card hcard => by
        by_cases hstored : card ∈ tables.products.mtgCardProducts.values
        · obtain ⟨product, hproduct⟩ := Table.mem_values_iff.mp hstored
          exact ⟨product, hlinks.kept hproduct⟩
        · have hmem : card ∈ zipped.map Prod.snd := by
            rw [hunlinked, Listing.mem_list]
            exact List.mem_filter.mpr ⟨hcard, decide_eq_true hstored⟩
          obtain ⟨pair, hpair, rfl⟩ := List.mem_map.mp hmem
          exact ⟨pair.1, hlinked pair hpair⟩
      returned := fun product card => by
        rw [Listing.mem_list, List.mem_filter, Table.mem_rows_iff, Option.isNone_iff_eq_none]
        rfl
      priceObservation := rfl }

/-- The cards without a product exist, when the foreign key lets them pass. -/
theorem mem_cardVersion_of_insert {inserted : Tables × List (ProductId × CardVersionId)}
    (hinsert : insertProductsBatch? catalogue engine cards tables = some inserted) :
    ∀ card ∈ cards, card ∉ tables.products.mtgCardProducts.values →
      card ∈ catalogue.cardVersion := by
  intro card hcard hunlinked
  rw [insertProductsBatch?, Option.ite_none_right_eq_some] at hinsert
  exact of_decide_eq_true (List.all_eq_true.mp hinsert.1 card
    (List.mem_filter.mpr ⟨hcard, decide_eq_true hunlinked⟩))

end Products

/-! ## The cards of a batch -/

section Cards

variable {catalogue : Catalogue} {engine : Engine} {tables : Tables} {rows : List PriceRow}
  {card : CardVersionId} {scryfallId : String}

/-- A card has one Scryfall id. -/
theorem Carries.id_unique {other : String} (hcarries : Carries catalogue card scryfallId)
    (hother : Carries catalogue card other) : scryfallId = other := by
  obtain ⟨refId, hname, hvalue⟩ := hcarries
  obtain ⟨refId', hname', hvalue'⟩ := hother
  rw [Table.key_unique catalogue.identifierName_unique hname hname', hvalue'] at hvalue
  exact (Option.some.inj hvalue).symm

theorem Carries.mem_cardVersion (hcarries : Carries catalogue card scryfallId) :
    card ∈ catalogue.cardVersion := by
  obtain ⟨refId, -, hvalue⟩ := hcarries
  exact catalogue.external_card _ ((Table.mem_rows_iff _ _ _).mpr hvalue)

variable (engine) in
theorem mem_resolveScryfallIds {scryfallIds : List String} {products : Products}
    {productId : Option ProductId} : (scryfallId, card, productId) ∈
      resolveScryfallIds catalogue engine scryfallIds products ↔
        Carries catalogue card scryfallId ∧ scryfallId ∈ scryfallIds ∧
          productId = productOf? products card := by
  rw [resolveScryfallIds, Listing.mem_list]
  simp only [List.mem_map, List.mem_filter, Prod.exists, Prod.mk.injEq, Table.mem_rows_iff,
    decide_eq_true_eq]
  constructor
  · rintro ⟨_, refId, _, ⟨hvalue, hname, hids⟩, rfl, rfl, rfl⟩
    exact ⟨⟨refId, hname, hvalue⟩, hids, rfl⟩
  · rintro ⟨⟨refId, hname, hvalue⟩, hids, rfl⟩
    exact ⟨card, refId, scryfallId, ⟨hvalue, hname, hids⟩, rfl, rfl, rfl⟩

/-- The dictionary has the card of each id of the batch, with the product of the card. -/
def IsMeta (catalogue : Catalogue) (tables : Tables) (rows : List PriceRow)
    (scryfallToMeta : ScryfallToMeta) : Prop :=
  ∀ scryfallId entry, scryfallToMeta.get? scryfallId = some entry ↔
    Carries catalogue entry.cardVersionId scryfallId ∧ scryfallId ∈ rows.map (·.scryfallId) ∧
      entry.productId = productOf? tables.products entry.cardVersionId

variable (engine rows) in
theorem isMeta_resolvedMeta (hunique : IdsUnique catalogue) :
    IsMeta catalogue tables rows (resolvedMeta catalogue engine rows tables) := by
  intro scryfallId entry
  rw [resolvedMeta]
  refine Table.get?_ofPairs_iff (K := String) (fun found : CardMeta =>
    Carries catalogue found.cardVersionId scryfallId ∧ scryfallId ∈ rows.map (·.scryfallId) ∧
      found.productId = productOf? tables.products found.cardVersionId) (fun found => ?_)
    fun found other hfound hother => ?_
  · rw [← mem_resolveScryfallIds engine, List.mem_map]
    constructor
    · rintro ⟨⟨_, _, _⟩, hrecord, hsame⟩
      obtain ⟨rfl, rfl⟩ := Prod.mk.inj hsame
      exact hrecord
    · exact fun hrecord => ⟨_, hrecord, rfl⟩
  · obtain ⟨card, productId⟩ := found
    obtain ⟨card', productId'⟩ := other
    obtain rfl : card = card' := hunique _ _ _ hfound.1 hother.1
    exact congrArg _ (hfound.2.2.trans hother.2.2.symm)

/-- What one row changes in the entry of an id. -/
def takeProduct (cvIdToSid : Table CardVersionId String) (scryfallId : String) (entry : CardMeta)
    (row : ProductId × CardVersionId) : CardMeta :=
  if cvIdToSid.get? row.2 = some scryfallId then { entry with productId := some row.1 } else entry

theorem get?_foldl_takeNewRow (cvIdToSid : Table CardVersionId String)
    (newRows : List (ProductId × CardVersionId)) (scryfallToMeta : ScryfallToMeta)
    (scryfallId : String) :
    (newRows.foldl (takeNewRow cvIdToSid) scryfallToMeta).get? scryfallId =
      (scryfallToMeta.get? scryfallId).map fun entry =>
        newRows.foldl (takeProduct cvIdToSid scryfallId) entry := by
  induction newRows generalizing scryfallToMeta with
  | nil => exact Option.map_id'.symm
  | cons row rest ih =>
    have hrow : (takeNewRow cvIdToSid scryfallToMeta row).get? scryfallId =
        (scryfallToMeta.get? scryfallId).map fun entry =>
          takeProduct cvIdToSid scryfallId entry row := by
      simp only [takeNewRow, takeProduct]
      cases cvIdToSid.get? row.2 with
      | none => simp
      | some found =>
        dsimp only
        rw [ScryfallToMeta.setProduct, Table.get?_mapValues]
        simp only [Option.some.injEq, eq_comm]
    rw [List.foldl_cons, ih, hrow, Option.map_map]
    rfl

/-- Rows for one card leave its entry with the product that they have for it. -/
theorem foldl_takeProduct {cvIdToSid : Table CardVersionId String}
    {newRows : List (ProductId × CardVersionId)} {entry : CardMeta} {target : Option ProductId}
    (hrows : ∀ row ∈ newRows, cvIdToSid.get? row.2 = some scryfallId → some row.1 = target)
    (hfound : entry.productId = target ∨
      ∃ row ∈ newRows, cvIdToSid.get? row.2 = some scryfallId) :
    newRows.foldl (takeProduct cvIdToSid scryfallId) entry = ⟨entry.cardVersionId, target⟩ := by
  induction newRows generalizing entry with
  | nil =>
    obtain rfl := hfound.resolve_right fun ⟨_, hmem, _⟩ => List.not_mem_nil hmem
    rfl
  | cons row rest ih =>
    have hrest : ∀ row ∈ rest, cvIdToSid.get? row.2 = some scryfallId → some row.1 = target :=
      fun row hrow => hrows row (List.mem_cons_of_mem _ hrow)
    rw [List.foldl_cons, takeProduct]
    split_ifs with hrow
    · exact ih hrest (Or.inl (hrows row List.mem_cons_self hrow))
    · refine ih hrest (hfound.imp_right fun ⟨other, hmem, hother⟩ => ?_)
      rcases List.mem_cons.mp hmem with rfl | hlater
      · exact absurd hother hrow
      · exact ⟨other, hlater, hother⟩

theorem mem_missing_iff {scryfallToMeta : ScryfallToMeta}
    (hmeta : IsMeta catalogue tables rows scryfallToMeta) : card ∈ scryfallToMeta.missing ↔
      (∃ scryfallId ∈ rows.map (·.scryfallId), Carries catalogue card scryfallId) ∧
        productOf? tables.products card = none := by
  rw [ScryfallToMeta.missing, List.mem_map]
  simp only [List.mem_filter, Option.isNone_iff_eq_none, Prod.exists, Table.mem_rows_iff]
  constructor
  · rintro ⟨scryfallId, entry, ⟨hentry, hnone⟩, rfl⟩
    obtain ⟨hcarries, hmem, hproduct⟩ := (hmeta scryfallId entry).mp hentry
    exact ⟨⟨scryfallId, hmem, hcarries⟩, hproduct ▸ hnone⟩
  · rintro ⟨⟨scryfallId, hmem, hcarries⟩, hnone⟩
    exact ⟨scryfallId, ⟨card, none⟩,
      ⟨(hmeta scryfallId ⟨card, none⟩).mpr ⟨hcarries, hmem, hnone.symm⟩, rfl⟩, rfl⟩

theorem nodup_missing {scryfallToMeta : ScryfallToMeta}
    (hmeta : IsMeta catalogue tables rows scryfallToMeta) : scryfallToMeta.missing.Nodup := by
  rw [ScryfallToMeta.missing]
  refine List.Nodup.map_on ?_ ((List.Nodup.of_map _ scryfallToMeta.nodup_keys).filter _)
  intro first hfirst second hsecond hsame
  have hstored : ∀ entry ∈ scryfallToMeta.rows.filter fun entry => entry.2.productId.isNone,
      scryfallToMeta.get? entry.1 = some entry.2 :=
    fun entry hentry => (Table.mem_rows_iff _ _ _).mp (List.mem_filter.mp hentry).1
  have hfirst := hstored first hfirst
  have hsecond := hstored second hsecond
  have hids : first.1 = second.1 :=
    ((hmeta _ _).mp hfirst).1.id_unique (hsame ▸ ((hmeta _ _).mp hsecond).1)
  rw [hids, hsecond, Option.some.injEq] at hfirst
  exact Prod.ext hids hfirst.symm

/-- The dictionary that is turned around has the id of each card. -/
theorem get?_cvIdToSid_iff {scryfallToMeta : ScryfallToMeta}
    (hmeta : IsMeta catalogue tables rows scryfallToMeta) :
    (Table.ofPairs (scryfallToMeta.rows.map fun entry =>
      (entry.2.cardVersionId, entry.1))).get? card = some scryfallId ↔
      Carries catalogue card scryfallId ∧ scryfallId ∈ rows.map (·.scryfallId) := by
  refine Table.get?_ofPairs_iff (K := CardVersionId)
    (fun found : String => Carries catalogue card found ∧ found ∈ rows.map (·.scryfallId))
    (fun found => ?_) fun _ _ hfound hother => hfound.1.id_unique hother.1
  rw [List.mem_map]
  simp only [Prod.exists, Prod.mk.injEq, Table.mem_rows_iff]
  constructor
  · rintro ⟨_, entry, hentry, rfl, rfl⟩
    obtain ⟨hcarries, hrow, -⟩ := (hmeta _ entry).mp hentry
    exact ⟨hcarries, hrow⟩
  · rintro ⟨hcarries, hrow⟩
    exact ⟨found, ⟨card, productOf? tables.products card⟩,
      (hmeta _ _).mpr ⟨hcarries, hrow, rfl⟩, rfl, rfl⟩

/-- What step 2 does to the entry of an id. -/
theorem foldl_takeProduct_inserted {scryfallToMeta : ScryfallToMeta}
    {inserted : Tables × List (ProductId × CardVersionId)} {entry : CardMeta}
    (hunique : IdsUnique catalogue) (hmeta : IsMeta catalogue tables rows scryfallToMeta)
    (hinserted : CardsInserted catalogue scryfallToMeta.missing tables inserted)
    (hentry : scryfallToMeta.get? scryfallId = some entry) :
    ∃ product, Linked inserted.1 product entry.cardVersionId ∧
      inserted.2.foldl (takeProduct (Table.ofPairs (scryfallToMeta.rows.map fun entry =>
        (entry.2.cardVersionId, entry.1))) scryfallId) entry =
          ⟨entry.cardVersionId, some product⟩ := by
  obtain ⟨hcarries, hrow, hproduct⟩ := (hmeta _ _).mp hentry
  have hrows : ∀ {product}, Linked inserted.1 product entry.cardVersionId →
      ∀ row ∈ inserted.2, (Table.ofPairs (scryfallToMeta.rows.map fun entry =>
        (entry.2.cardVersionId, entry.1))).get? row.2 = some scryfallId →
          some row.1 = some product := by
    intro product hlinked row hnew hsid
    have hcard : row.2 = entry.cardVersionId :=
      hunique _ _ _ ((get?_cvIdToSid_iff hmeta).mp hsid).1 hcarries
    have hreturned := ((hinserted.returned row.1 row.2).mp hnew).1
    rw [hcard] at hreturned
    exact congrArg some (hreturned.product_unique hlinked)
  cases hstored : productOf? tables.products entry.cardVersionId with
  | some product =>
    have hlinked := hinserted.grown.linked _ _ (productOf?_eq_some_iff.mp hstored)
    exact ⟨product, hlinked,
      foldl_takeProduct (hrows hlinked) (Or.inl (hproduct.trans hstored))⟩
  | none =>
    obtain ⟨product, hlinked⟩ := hinserted.linked _
      ((mem_missing_iff hmeta).mpr ⟨⟨scryfallId, hrow, hcarries⟩, hstored⟩)
    refine ⟨product, hlinked, foldl_takeProduct (hrows hlinked) (Or.inr ?_)⟩
    refine ⟨(product, entry.cardVersionId), (hinserted.returned _ _).mpr ⟨hlinked, ?_⟩,
      (get?_cvIdToSid_iff hmeta).mpr ⟨hcarries, hrow⟩⟩
    -- a product of before would have been another card's
    rw [Option.eq_none_iff_forall_ne_some]
    intro card hcard
    have hsame := hinserted.grown.linked _ _ hcard
    rw [Linked, hlinked, Option.some.injEq] at hsame
    rw [← hsame] at hcard
    rw [productOf?_eq_some_iff.mpr hcard] at hstored
    cases hstored

variable (engine) in
/-- After step 2 the dictionary has a product of each card, as it is linked now. -/
theorem exists_createProducts {scryfallToMeta : ScryfallToMeta} (hunique : IdsUnique catalogue)
    (hreferenced : Referenced tables) (hmeta : IsMeta catalogue tables rows scryfallToMeta) :
    ∃ created, createProducts? catalogue engine scryfallToMeta tables = some created ∧
      Grown catalogue tables created.1 ∧
      created.1.priceObservation = tables.priceObservation ∧
      IsMeta catalogue created.1 rows created.2 ∧
      ∀ scryfallId entry, created.2.get? scryfallId = some entry → entry.productId.isSome := by
  rw [createProducts?]
  dsimp only
  split_ifs with hmissing
  · refine ⟨_, rfl, Grown.refl _ _, rfl, hmeta, fun scryfallId entry hentry => ?_⟩
    obtain ⟨hcarries, hrow, hproduct⟩ := (hmeta _ _).mp hentry
    rw [Option.isSome_iff_ne_none]
    intro hnone
    have hmem : entry.cardVersionId ∈ scryfallToMeta.missing :=
      (mem_missing_iff hmeta).mpr ⟨⟨scryfallId, hrow, hcarries⟩, hproduct ▸ hnone⟩
    rw [hmissing] at hmem
    cases hmem
  · have hcards : ∀ card ∈ scryfallToMeta.missing,
        card ∉ tables.products.mtgCardProducts.values → card ∈ catalogue.cardVersion := by
      intro card hcard _
      obtain ⟨⟨scryfallId, -, hcarries⟩, -⟩ := (mem_missing_iff hmeta).mp hcard
      exact hcarries.mem_cardVersion
    obtain ⟨inserted, hinsert, hinserted⟩ := exists_insertProductsBatch engine
      hreferenced (nodup_missing hmeta) hcards
    rw [hinsert, Option.map_some]
    have hfinal : ∀ (cvToProduct : Table CardVersionId ProductId) scryfallId,
        ((inserted.2.foldl (takeNewRow (Table.ofPairs (scryfallToMeta.rows.map fun entry =>
          (entry.2.cardVersionId, entry.1)))) scryfallToMeta).mapValues fun _ entry =>
            { entry with
              productId := entry.productId.or (cvToProduct.get? entry.cardVersionId) }).get?
                scryfallId =
          (scryfallToMeta.get? scryfallId).map fun entry => ⟨entry.cardVersionId,
            productOf? inserted.1.products entry.cardVersionId⟩ := by
      intro cvToProduct scryfallId
      rw [Table.get?_mapValues, get?_foldl_takeNewRow, Option.map_map]
      cases hentry : scryfallToMeta.get? scryfallId with
      | none => rfl
      | some entry =>
        obtain ⟨product, hlinked, htaken⟩ :=
          foldl_takeProduct_inserted hunique hmeta hinserted hentry
        simp only [Option.map_some, Function.comp_apply, htaken, Option.some_or,
          productOf?_eq_some_iff.mpr hlinked]
    refine ⟨_, rfl, hinserted.grown, hinserted.priceObservation, fun scryfallId entry => ?_,
      fun scryfallId entry hentry => ?_⟩
    · rw [hfinal, Option.map_eq_some_iff]
      constructor
      · rintro ⟨entry, hentry, rfl⟩
        obtain ⟨hcarries, hrow, -⟩ := (hmeta _ _).mp hentry
        exact ⟨hcarries, hrow, rfl⟩
      · rintro ⟨hcarries, hrow, hproduct⟩
        refine ⟨⟨entry.cardVersionId, productOf? tables.products entry.cardVersionId⟩,
          (hmeta _ _).mpr ⟨hcarries, hrow, rfl⟩, ?_⟩
        rw [← hproduct]
    · rw [hfinal, Option.map_eq_some_iff] at hentry
      obtain ⟨entry, hentry, rfl⟩ := hentry
      obtain ⟨product, hlinked, -⟩ := foldl_takeProduct_inserted hunique hmeta hinserted hentry
      rw [productOf?_eq_some_iff.mpr hlinked]
      rfl

end Cards

end AutoMana.Pricing.CardPrices
