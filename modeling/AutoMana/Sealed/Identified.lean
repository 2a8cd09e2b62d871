import AutoMana.Sealed.Catalogue

/-!
# What a bootstrap identifies

A product is identified when the catalogue has its uuid for a sealed product, and a row
of `mtg_sealed_products` belongs to that product. A bootstrap identifies each of its
products, and no product loses its identification.
-/

namespace AutoMana.Sealed

open Relational Pricing
open Staging (anyIdWhere)

variable {locale : TextLocale} {draws : BootstrapDraws} {product : CatalogProduct}
  {id : SealedProductId} {catalogue next : Catalogue}

/-- What the keys of the schema keep. -/
structure Catalogue.Consistent (catalogue : Catalogue) : Prop where
  /-- `UNIQUE (identifier_name)` -/
  names : (catalogue.sealedIdentifierRef.rows.map Prod.snd).Nodup
  /-- `UNIQUE (sealed_identifier_ref_id, value)` -/
  values : ∀ id other refId value,
    catalogue.sealedExternalIdentifier.get? (id, refId) = some value →
    catalogue.sealedExternalIdentifier.get? (other, refId) = some value → id = other
  stored : ∀ id refId, (catalogue.sealedExternalIdentifier.get? (id, refId)).isSome →
    (catalogue.sealedProduct.get? id).isSome
  linked : ∀ productId, (catalogue.mtgSealedProducts.get? productId).isSome →
    (catalogue.productRef.get? productId).isSome

/-- A sealed product has the uuid. -/
def Catalogue.HasUuid (catalogue : Catalogue) (id : SealedProductId) (mtgjsonUuid : String) :
    Prop :=
  ∃ refId, catalogue.sealedIdentifierRef.get? refId = some "mtgjson_uuid" ∧
    catalogue.sealedExternalIdentifier.get? (id, refId) = some mtgjsonUuid

/-- A sealed product with a row of `mtg_sealed_products` has the uuid. -/
def Catalogue.Identified (catalogue : Catalogue) (mtgjsonUuid : String) : Prop :=
  ∃ id, catalogue.HasUuid id mtgjsonUuid ∧
    ∃ productId, catalogue.mtgSealedProducts.get? productId = some id

/-! ## Finding a product -/

theorem hasUuid_of_find {mtgjsonUuid : String}
    (hfind : findSealedProductByUuid mtgjsonUuid catalogue = some id) :
    catalogue.HasUuid id mtgjsonUuid := by
  obtain ⟨⟨⟨found, refId⟩, value⟩, hrow, rfl⟩ := Option.map_eq_some_iff.mp hfind
  have hfound := List.find?_some hrow
  obtain ⟨hvalue, hname⟩ := of_decide_eq_true hfound
  exact ⟨refId, hname,
    hvalue ▸ (Table.mem_rows_iff _ _ _).mp (List.mem_of_find?_eq_some hrow)⟩

/-! ## Writing the product -/

/-- Only `sealed_product` has changed. The row is found under the uuid, or is new. -/
structure WritesProduct (id : SealedProductId) (mtgjsonUuid : String)
    (catalogue next : Catalogue) : Prop where
  sealedIdentifierRef : next.sealedIdentifierRef = catalogue.sealedIdentifierRef
  identifiers : next.sealedExternalIdentifier = catalogue.sealedExternalIdentifier
  mtgSealedProducts : next.mtgSealedProducts = catalogue.mtgSealedProducts
  stored : (next.sealedProduct.get? id).isSome
  found : catalogue.HasUuid id mtgjsonUuid ∨
    ∀ refId, catalogue.sealedExternalIdentifier.get? (id, refId) = none
  consistent : next.Consistent

theorem writesProduct_of_upsert {typeId : Nat} {subtypeId : Option Nat}
    (hconsistent : catalogue.Consistent)
    (hupsert : upsertSealedProduct locale draws product typeId subtypeId catalogue =
      some (id, next)) :
    WritesProduct id product.mtgjsonUuid catalogue next := by
  simp only [upsertSealedProduct, Option.bind_eq_bind, Option.bind_eq_some_iff] at hupsert
  obtain ⟨setId, -, hupsert⟩ := hupsert
  cases hfind : findSealedProductByUuid product.mtgjsonUuid catalogue with
  | some found =>
    rw [hfind] at hupsert
    obtain ⟨rfl, rfl⟩ := Prod.mk.inj (Option.some.inj hupsert)
    have hkept : ∀ other, (catalogue.sealedProduct.get? other).isSome →
        ((updateSealedProduct found product setId typeId subtypeId
          catalogue).sealedProduct.get? other).isSome := by
      intro other hother
      rw [updateSealedProduct, Table.get?_mapValues, Option.isSome_map]
      exact hother
    have huuid := hasUuid_of_find hfind
    obtain ⟨refId, -, hvalue⟩ := huuid
    exact ⟨rfl, rfl, rfl,
      hkept found (hconsistent.stored found refId (Option.isSome_of_eq_some hvalue)),
      Or.inl (hasUuid_of_find hfind), hconsistent.names, hconsistent.values,
      fun other refId hsome => hkept other (hconsistent.stored other refId hsome),
      hconsistent.linked⟩
  | none =>
    rw [hfind] at hupsert
    simp only [insertSealedProduct, Option.bind_eq_bind, Option.bind_eq_some_iff,
      Option.pure_def, Option.ite_none_left_eq_some, Option.some.injEq,
      Prod.mk.injEq] at hupsert
    obtain ⟨gameId, -, languageId, -, htaken, rfl, rfl⟩ := hupsert
    refine ⟨rfl, rfl, rfl, ?_, Or.inr ?_, hconsistent.names, hconsistent.values, ?_,
      hconsistent.linked⟩
    · obtain ⟨kept, hkept⟩ := Table.exists_get?_insertMissing catalogue.sealedProduct
        (List.mem_singleton_self (draws.sealedProductId catalogue.sealedProduct, {
          setId
          gameId
          sealedTypeId := typeId
          sealedSubtypeId := subtypeId
          languageId
          name := product.name
          releaseDate := product.releaseDate }))
      exact Option.isSome_of_eq_some hkept
    · intro refId
      by_contra hsome
      exact htaken (hconsistent.stored _ refId (Option.isSome_iff_ne_none.mpr hsome))
    · intro other refId hsome
      obtain ⟨stored, hstored⟩ :=
        Option.isSome_iff_exists.mp (hconsistent.stored other refId hsome)
      exact Option.isSome_of_eq_some (Table.get?_insertMissing_of_stored hstored _)

/-! ## Writing the identifiers -/

/-- Only identifiers of the product have changed. -/
structure WritesIdentifiers (id : SealedProductId) (catalogue next : Catalogue) : Prop where
  sealedIdentifierRef : next.sealedIdentifierRef = catalogue.sealedIdentifierRef
  sealedProduct : next.sealedProduct = catalogue.sealedProduct
  mtgSealedProducts : next.mtgSealedProducts = catalogue.mtgSealedProducts
  others : ∀ other refId, other ≠ id → next.sealedExternalIdentifier.get? (other, refId) =
    catalogue.sealedExternalIdentifier.get? (other, refId)
  consistent : next.Consistent

theorem WritesIdentifiers.refl (hconsistent : catalogue.Consistent) :
    WritesIdentifiers id catalogue catalogue :=
  ⟨rfl, rfl, rfl, fun _ _ _ => rfl, hconsistent⟩

theorem WritesIdentifiers.trans {middle : Catalogue}
    (hfirst : WritesIdentifiers id catalogue middle)
    (hsecond : WritesIdentifiers id middle next) : WritesIdentifiers id catalogue next where
  sealedIdentifierRef := hsecond.sealedIdentifierRef.trans hfirst.sealedIdentifierRef
  sealedProduct := hsecond.sealedProduct.trans hfirst.sealedProduct
  mtgSealedProducts := hsecond.mtgSealedProducts.trans hfirst.mtgSealedProducts
  others := fun other refId hother =>
    (hsecond.others other refId hother).trans (hfirst.others other refId hother)
  consistent := hsecond.consistent

theorem writesIdentifiers_of_upsert {refId : Nat} {value : String}
    (hconsistent : catalogue.Consistent) (hstored : (catalogue.sealedProduct.get? id).isSome)
    (hfree : ∀ other, other ≠ id →
      catalogue.sealedExternalIdentifier.get? (other, refId) ≠ some value) :
    WritesIdentifiers id catalogue { catalogue with
      sealedExternalIdentifier := catalogue.sealedExternalIdentifier.upsert
        (.single (id, refId) value) fun _ excluded => excluded } where
  sealedIdentifierRef := rfl
  sealedProduct := rfl
  mtgSealedProducts := rfl
  others := by
    intro other otherRef hother
    have hkey : (other, otherRef) ≠ (id, refId) := fun hsame => hother (Prod.mk.inj hsame).1
    dsimp only
    rw [Table.get?_upsert, Table.reconcile_excluded, Table.get?_single, if_neg hkey,
      Option.none_or]
  consistent := by
    have hget (other : SealedProductId) (otherRef : Nat) :
        (catalogue.sealedExternalIdentifier.upsert (.single (id, refId) value)
          fun _ excluded => excluded).get? (other, otherRef) =
            if (other, otherRef) = (id, refId) then some value
            else catalogue.sealedExternalIdentifier.get? (other, otherRef) := by
      rw [Table.get?_upsert, Table.reconcile_excluded, Table.get?_single]
      split_ifs
      · rw [Option.some_or]
      · rw [Option.none_or]
    refine ⟨hconsistent.names, ?_, ?_, hconsistent.linked⟩
    · intro left right otherRef held hleft hright
      dsimp only at hleft hright
      rw [hget] at hleft hright
      split_ifs at hleft hright with hl hr hr
      · exact (Prod.mk.inj hl).1.trans (Prod.mk.inj hr).1.symm
      · obtain ⟨rfl, rfl⟩ := Prod.mk.inj hl
        obtain rfl := Option.some.inj hleft
        exact absurd hright (hfree right fun hsame => hr (hsame ▸ rfl))
      · obtain ⟨rfl, rfl⟩ := Prod.mk.inj hr
        obtain rfl := Option.some.inj hright
        exact absurd hleft (hfree left fun hsame => hl (hsame ▸ rfl))
      · exact hconsistent.values left right otherRef held hleft hright
    · intro other otherRef hsome
      dsimp only at hsome ⊢
      rw [hget] at hsome
      split_ifs at hsome with hkey
      · exact (Prod.mk.inj hkey).1 ▸ hstored
      · exact hconsistent.stored other otherRef hsome

/-- An identifier is written under its name, and leaves those of other names. -/
theorem upsertExternalId_spec {idName : String} (hconsistent : catalogue.Consistent)
    (hstored : (catalogue.sealedProduct.get? id).isSome)
    (hupsert : upsertExternalId product id catalogue idName = some next) :
    WritesIdentifiers id catalogue next ∧
    ∀ refId name, catalogue.sealedIdentifierRef.get? refId = some name →
      (name ≠ idName → next.sealedExternalIdentifier.get? (id, refId) =
        catalogue.sealedExternalIdentifier.get? (id, refId)) ∧
      ∀ value, name = idName → product.identifier? idName = some value →
        next.sealedExternalIdentifier.get? (id, refId) = some value := by
  unfold upsertExternalId at hupsert
  cases hvalue : product.identifier? idName with
  | none =>
    rw [hvalue] at hupsert
    obtain rfl := Option.some.inj hupsert
    refine ⟨.refl hconsistent, fun _ _ _ => ⟨fun _ => rfl, ?_⟩⟩
    intro value _ hsome
    cases hsome
  | some value =>
    cases href : anyIdWhere catalogue.sealedIdentifierRef (· = idName) with
    | none =>
      rw [hvalue, href] at hupsert
      obtain rfl := Option.some.inj hupsert
      refine ⟨.refl hconsistent, fun refId name hname => ⟨fun _ => rfl, ?_⟩⟩
      intro _ hsame _
      have hother := Staging.anyIdWhere_eq_none_iff.mp href refId name hname
      exact absurd hsame (of_decide_eq_false hother)
    | some foundRef =>
      rw [hvalue, href] at hupsert
      obtain ⟨stored, hfound, hsame⟩ := Staging.get?_of_anyIdWhere href
      obtain rfl := of_decide_eq_true hsame
      dsimp only at hupsert
      rw [Option.ite_none_left_eq_some, List.any_eq_true] at hupsert
      obtain ⟨hfree, hnext⟩ := hupsert
      obtain rfl := Option.some.inj hnext
      refine ⟨writesIdentifiers_of_upsert hconsistent hstored ?_, ?_⟩
      · intro other hother hheld
        exact hfree ⟨((other, foundRef), value), (Table.mem_rows_iff _ _ _).mpr hheld,
          decide_eq_true ⟨hother, rfl, rfl⟩⟩
      · intro refId name hname
        dsimp only
        rw [Table.get?_upsert, Table.reconcile_excluded, Table.get?_single]
        constructor
        · intro hother
          have hkey : (id, refId) ≠ (id, foundRef) := by
            intro hsame
            rw [(Prod.mk.inj hsame).2, hfound] at hname
            exact hother (Option.some.inj hname).symm
          rw [if_neg hkey, Option.none_or]
        · intro held hsame hheld
          subst hsame
          obtain rfl := Table.key_unique hconsistent.names hname hfound
          rw [if_pos rfl, Option.some_or]
          exact hheld

/-- The names of a product that contain the uuid's leave it under the product. -/
theorem upsertExternalIds_spec {idNames : List String} (hconsistent : catalogue.Consistent)
    (hstored : (catalogue.sealedProduct.get? id).isSome)
    (hupsert : idNames.foldlM (upsertExternalId product id) catalogue = some next) :
    WritesIdentifiers id catalogue next ∧
    ∀ refId, catalogue.sealedIdentifierRef.get? refId = some "mtgjson_uuid" →
      "mtgjson_uuid" ∈ idNames ∨
        catalogue.sealedExternalIdentifier.get? (id, refId) = some product.mtgjsonUuid →
      next.sealedExternalIdentifier.get? (id, refId) = some product.mtgjsonUuid := by
  induction idNames generalizing catalogue with
  | nil =>
    rw [List.foldlM_nil, Option.pure_def, Option.some.injEq] at hupsert
    subst hupsert
    refine ⟨.refl hconsistent, fun refId _ huuid => ?_⟩
    exact huuid.resolve_left List.not_mem_nil
  | cons idName rest ih =>
    rw [List.foldlM_cons, Option.bind_eq_bind, Option.bind_eq_some_iff] at hupsert
    obtain ⟨middle, hmiddle, hnext⟩ := hupsert
    obtain ⟨hwrites, hnamed⟩ := upsertExternalId_spec hconsistent hstored hmiddle
    obtain ⟨hrest, huuids⟩ := ih hwrites.consistent (hwrites.sealedProduct ▸ hstored) hnext
    refine ⟨hwrites.trans hrest, fun refId hname huuid => ?_⟩
    apply huuids refId (hwrites.sealedIdentifierRef ▸ hname)
    by_cases hsame : "mtgjson_uuid" = idName
    · exact Or.inr ((hnamed refId _ hname).2 product.mtgjsonUuid hsame
        (if_pos hsame.symm))
    · rcases huuid with hmem | hheld
      · exact Or.inl ((List.mem_cons.mp hmem).resolve_left hsame)
      · exact Or.inr (((hnamed refId _ hname).1 hsame).trans hheld)

/-! ## Linking the product -/

/-- The sealed product has a row of `mtg_sealed_products`, and no row is lost. -/
structure LinksProduct (id : SealedProductId) (catalogue next : Catalogue) : Prop where
  sealedIdentifierRef : next.sealedIdentifierRef = catalogue.sealedIdentifierRef
  identifiers : next.sealedExternalIdentifier = catalogue.sealedExternalIdentifier
  kept : ∀ productId other, catalogue.mtgSealedProducts.get? productId = some other →
    next.mtgSealedProducts.get? productId = some other
  linked : ∃ productId, next.mtgSealedProducts.get? productId = some id
  consistent : next.Consistent

theorem linksProduct_of_ensure (hconsistent : catalogue.Consistent)
    (hensure : ensureProduct draws id catalogue = some next) : LinksProduct id catalogue next := by
  unfold ensureProduct at hensure
  split_ifs at hensure with hlinked
  · obtain rfl := Option.some.inj hensure
    obtain ⟨row, hrow, hid⟩ := List.any_eq_true.mp hlinked
    obtain rfl := of_decide_eq_true hid
    exact ⟨rfl, rfl, fun _ _ hget => hget, ⟨row.1, (Table.mem_rows_iff _ _ _).mp hrow⟩,
      hconsistent⟩
  · simp only [Option.bind_eq_bind, Option.bind_eq_some_iff, Option.pure_def,
      Option.ite_none_left_eq_some, Option.some.injEq] at hensure
    obtain ⟨gameId, -, htaken, rfl⟩ := hensure
    have hnew : catalogue.mtgSealedProducts.get? (draws.productId catalogue.productRef) = none := by
      by_contra hsome
      exact htaken (hconsistent.linked _ (Option.isSome_iff_ne_none.mpr hsome))
    refine ⟨rfl, rfl, ?_, ⟨draws.productId catalogue.productRef, ?_⟩,
      hconsistent.names, hconsistent.values, hconsistent.stored, ?_⟩
    · exact fun productId other hget => Table.get?_insertMissing_of_stored hget _
    · dsimp only
      rw [Table.get?_insertMissing, hnew, Option.none_or]
      simp
    · intro productId hsome
      obtain ⟨linked, hget⟩ := Option.isSome_iff_exists.mp hsome
      rcases Table.stored_or_mem_of_insertMissing hget with hstored | hdrawn
      · obtain ⟨game, hgame⟩ :=
          Option.isSome_iff_exists.mp
            (hconsistent.linked productId (Option.isSome_of_eq_some hstored))
        exact Option.isSome_of_eq_some (Table.get?_insertMissing_of_stored hgame _)
      · obtain ⟨rfl, -⟩ := Prod.mk.inj (List.mem_singleton.mp hdrawn)
        obtain ⟨game, hgame⟩ := Table.exists_get?_insertMissing catalogue.productRef
          (List.mem_singleton_self (draws.productId catalogue.productRef, gameId))
        exact Option.isSome_of_eq_some hgame

/-! ## A bootstrap -/

/-- What the upsert of a product keeps, and that it identifies the product. -/
structure Identifies (mtgjsonUuid : String) (catalogue next : Catalogue) : Prop where
  sealedIdentifierRef : next.sealedIdentifierRef = catalogue.sealedIdentifierRef
  consistent : next.Consistent
  identified : next.Identified mtgjsonUuid
  kept : ∀ other, catalogue.Identified other → next.Identified other

theorem identifies_of_upsert (hconsistent : catalogue.Consistent)
    (hseeded : ∃ refId, catalogue.sealedIdentifierRef.get? refId = some "mtgjson_uuid")
    (hupsert : upsertProduct locale draws catalogue product = some next) :
    Identifies product.mtgjsonUuid catalogue next := by
  simp only [upsertProduct, Option.bind_eq_bind, Option.bind_eq_some_iff] at hupsert
  obtain ⟨⟨typeId, types⟩, -, ⟨subtypeId, subtypes⟩, -, ⟨id, written⟩, hwritten, named, hnamed,
    hlinked⟩ := hupsert
  have htyped : ({ catalogue with
      sealedTypeRef := types
      sealedSubtypeRef := subtypes } : Catalogue).Consistent :=
    ⟨hconsistent.names, hconsistent.values, hconsistent.stored, hconsistent.linked⟩
  have hwrote := writesProduct_of_upsert htyped hwritten
  obtain ⟨hwrites, huuids⟩ := upsertExternalIds_spec hwrote.consistent hwrote.stored hnamed
  have hlinks := linksProduct_of_ensure hwrites.consistent hlinked
  have hnextRefs : next.sealedIdentifierRef = catalogue.sealedIdentifierRef :=
    hlinks.sealedIdentifierRef.trans
      (hwrites.sealedIdentifierRef.trans hwrote.sealedIdentifierRef)
  -- the uuid of the product is written last or left
  have huuid : ∀ refId, catalogue.sealedIdentifierRef.get? refId = some "mtgjson_uuid" →
      next.sealedExternalIdentifier.get? (id, refId) = some product.mtgjsonUuid := by
    intro refId hname
    rw [hlinks.identifiers]
    refine huuids refId (hwrote.sealedIdentifierRef ▸ hname) (Or.inl ?_)
    exact draws.identifierKeys_perm.mem_iff.mpr List.mem_cons_self
  refine ⟨hnextRefs, hlinks.consistent, ?_, ?_⟩
  · obtain ⟨refId, hname⟩ := hseeded
    exact ⟨id, ⟨refId, hnextRefs ▸ hname, huuid refId hname⟩, hlinks.linked⟩
  · intro other hother
    obtain ⟨held, ⟨refId, hname, hvalue⟩, productId, hproduct⟩ := hother
    refine ⟨held, ⟨refId, hnextRefs ▸ hname, ?_⟩, productId, ?_⟩
    · by_cases hsame : held = id
      · subst hsame
        rcases hwrote.found with ⟨foundRef, hfoundName, hfoundValue⟩ | hnone
        · obtain rfl := Table.key_unique hconsistent.names hname hfoundName
          obtain rfl := Option.some.inj (hvalue.symm.trans hfoundValue)
          exact huuid refId hname
        · cases hvalue.symm.trans (hnone refId)
      · rw [hlinks.identifiers, hwrites.others held refId hsame, hwrote.identifiers]
        exact hvalue
    · apply hlinks.kept
      rw [hwrites.mtgSealedProducts, hwrote.mtgSealedProducts]
      exact hproduct

/-- A catalogue with the name of the uuids identifies every product it upserts. -/
theorem identified_of_upsertSealedCatalog {products : List CatalogProduct}
    (hconsistent : catalogue.Consistent)
    (hseeded : ∃ refId, catalogue.sealedIdentifierRef.get? refId = some "mtgjson_uuid")
    (hupsert : upsertSealedCatalog locale draws products catalogue = some next) :
    next.Consistent ∧ (∀ other, catalogue.Identified other → next.Identified other) ∧
      ∀ product ∈ products, next.Identified product.mtgjsonUuid := by
  unfold upsertSealedCatalog at hupsert
  induction products generalizing catalogue with
  | nil =>
    obtain rfl := Option.some.inj hupsert
    refine ⟨hconsistent, fun _ hother => hother, fun _ hnone => ?_⟩
    exact (List.not_mem_nil hnone).elim
  | cons product rest ih =>
    rw [List.foldlM_cons, Option.bind_eq_bind, Option.bind_eq_some_iff] at hupsert
    obtain ⟨middle, hmiddle, hnext⟩ := hupsert
    have hidentifies := identifies_of_upsert hconsistent hseeded hmiddle
    obtain ⟨hfinal, hkept, hrest⟩ := ih hidentifies.consistent
      (hidentifies.sealedIdentifierRef ▸ hseeded) hnext
    refine ⟨hfinal, fun other hother => hkept other (hidentifies.kept other hother), ?_⟩
    intro listed hlisted
    rcases List.mem_cons.mp hlisted with rfl | hmem
    · exact hkept _ hidentifies.identified
    · exact hrest listed hmem

/-- A bootstrap identifies every product it reads in the set JSON. -/
theorem identified_of_bootstrap {parsers : Parsers} {setCode : String} {raw : Json}
    (hconsistent : catalogue.Consistent)
    (hseeded : ∃ refId, catalogue.sealedIdentifierRef.get? refId = some "mtgjson_uuid")
    (hbootstrap : bootstrapSealedCatalogFromSet locale parsers draws setCode raw catalogue =
      some next) :
    next.Consistent ∧ (∀ other, catalogue.Identified other → next.Identified other) ∧
      ∀ product ∈ (productsOf? parsers setCode raw).getD [],
        next.Identified product.mtgjsonUuid := by
  rw [bootstrapSealedCatalogFromSet, Option.bind_eq_bind, Option.bind_eq_some_iff] at hbootstrap
  obtain ⟨products, hproducts, hupsert⟩ := hbootstrap
  rw [hproducts, Option.getD_some]
  exact identified_of_upsertSealedCatalog hconsistent hseeded hupsert

end AutoMana.Sealed
