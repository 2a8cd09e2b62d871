import AutoMana.Mtgjson.Joins

/-!
# What a call promotes

Promoting the rows of some days deletes those that resolve to a key, and leaves under
each key they resolve to the price of one of them. A window does this for its days, and
two promotions of different days make one of the days of both, because what a
registered row resolves to does not change any more.
-/

namespace AutoMana.Mtgjson

open Relational Pricing

variable {call : LoadCall} {plan : Plan} {v_data_provider_id : Nat}

/-! ## The step -/

/-- The tables the joins read only gain rows, and the cards keep their products. -/
structure TablesGrow (supply : IdSupply) (earlier later : MtgjsonTables) : Prop where
  priceSource : CodeTable.Grows supply.sourceId earlier.priceSource later.priceSource
  cardFinished : CodeTable.Grows supply.finishId earlier.cardFinished later.cardFinished
  mtgCardProducts : later.products.mtgCardProducts = earlier.products.mtgCardProducts
  sourceProduct : Table.Grows supply.sourceProductId earlier.products.sourceProduct
    later.products.sourceProduct

theorem TablesGrow.refl (supply : IdSupply) (tables : MtgjsonTables) :
    TablesGrow supply tables tables :=
  ⟨.refl _ _, .refl _ _, rfl, .refl _ _⟩

theorem TablesGrow.trans {supply : IdSupply} {first second third : MtgjsonTables}
    (hfirst : TablesGrow supply first second) (hsecond : TablesGrow supply second third) :
    TablesGrow supply first third where
  priceSource := hfirst.priceSource.trans hsecond.priceSource
  cardFinished := hfirst.cardFinished.trans hsecond.cardFinished
  mtgCardProducts := hsecond.mtgCardProducts.trans hfirst.mtgCardProducts
  sourceProduct := hfirst.sourceProduct.trans hsecond.sourceProduct

theorem TablesGrow.productsOf_eq {supply : IdSupply} {earlier later : MtgjsonTables}
    (hgrow : TablesGrow supply earlier later) (reference : Reference) (cardUuid : String) :
    productsOf reference later.products cardUuid =
      productsOf reference earlier.products cardUuid := by
  rw [productsOf, hgrow.mtgCardProducts, productsOf]

/-- The source, the finish, and the source products of a row are in the tables. -/
structure Registered (call : LoadCall) (tables : MtgjsonTables) (row : StagedPrice) : Prop where
  source : (tables.priceSource.get? row.priceSource).isSome
  finish : (tables.cardFinished.get? (call.locale.upper row.finishType)).isSome
  sourceProduct : ∀ sourceId productId, sourceId? tables.priceSource row = some sourceId →
    productId ∈ productsOf call.reference tables.products row.cardUuid →
    ∃ id, tables.products.sourceProduct.get? id = some ⟨productId, sourceId⟩

section Later

variable {earlier later : MtgjsonTables} {row : StagedPrice}

theorem TablesGrow.sourceId?_eq (hgrow : TablesGrow call.supply earlier later)
    (hregistered : Registered call earlier row) :
    sourceId? later.priceSource row = sourceId? earlier.priceSource row := by
  obtain ⟨source, hsource⟩ := Option.isSome_iff_exists.mp hregistered.source
  rw [sourceId?, hgrow.priceSource.kept _ _ hsource, sourceId?, hsource]

theorem Registered.mono (hregistered : Registered call earlier row)
    (hgrow : TablesGrow call.supply earlier later) : Registered call later row where
  source := by
    obtain ⟨source, hsource⟩ := Option.isSome_iff_exists.mp hregistered.source
    exact Option.isSome_iff_exists.mpr ⟨source, hgrow.priceSource.kept _ _ hsource⟩
  finish := by
    obtain ⟨finish, hfinish⟩ := Option.isSome_iff_exists.mp hregistered.finish
    exact Option.isSome_iff_exists.mpr ⟨finish, hgrow.cardFinished.kept _ _ hfinish⟩
  sourceProduct := by
    intro sourceId productId hsource hproduct
    rw [hgrow.sourceId?_eq hregistered] at hsource
    rw [hgrow.productsOf_eq] at hproduct
    obtain ⟨id, hget⟩ := hregistered.sourceProduct sourceId productId hsource hproduct
    exact ⟨id, hgrow.sourceProduct.get?_kept hget⟩

/-- What a registered row resolves to does not change any more. -/
theorem resolvesTo_later_iff {key : ObservationKey} (hgrow : TablesGrow call.supply earlier later)
    (hregistered : Registered call earlier row)
    (hupper : call.locale.upper row.finishType = row.finishType) :
    ResolvesTo call v_data_provider_id later row key ↔
      ResolvesTo call v_data_provider_id earlier row key := by
  obtain ⟨finish, hfinish⟩ := Option.isSome_iff_exists.mp hregistered.finish
  rw [hupper] at hfinish
  have hsameSource := hgrow.sourceId?_eq hregistered
  have hsameFinish : finishId? later.cardFinished row = finishId? earlier.cardFinished row := by
    rw [finishId?, hgrow.cardFinished.kept _ _ hfinish, finishId?, hfinish]
  constructor
  · intro hresolves
    obtain ⟨sourceProduct, hstored, hsourceId, hproduct⟩ := hresolves.sourceProduct
    rw [hsameSource] at hsourceId
    rw [hgrow.productsOf_eq] at hproduct
    obtain ⟨id, hget⟩ := hregistered.sourceProduct _ _ hsourceId hproduct
    -- a product of a source has one id
    have hid : id = key.sourceProductId := Table.key_unique
      later.products.sourceProduct_unique (hgrow.sourceProduct.get?_kept hget) hstored
    rw [hid] at hget
    exact ⟨hresolves.tsDate, hresolves.priceType, hsameFinish ▸ hresolves.finish,
      hresolves.defaults, sourceProduct, hget, hsourceId, hproduct⟩
  · intro hresolves
    obtain ⟨sourceProduct, hstored, hsourceId, hproduct⟩ := hresolves.sourceProduct
    rw [← hsameSource] at hsourceId
    rw [← hgrow.productsOf_eq] at hproduct
    exact ⟨hresolves.tsDate, hresolves.priceType, hsameFinish.symm ▸ hresolves.finish,
      hresolves.defaults, sourceProduct, hgrow.sourceProduct.get?_kept hstored, hsourceId, hproduct⟩

end Later

/-- A staged row of these days that resolves to the key in the tables. -/
structure ResolvedOn (call : LoadCall) (v_data_provider_id : Nat) (days : Set Int)
    (staging : Table Nat StagedPrice) (tables : MtgjsonTables) (key : ObservationKey) (id : Nat)
    (row : StagedPrice) : Prop where
  staged : staging.get? id = some row
  day : row.priceDate ∈ days
  resolves : ResolvesTo call v_data_provider_id tables row key

/-- A price the column check accepts. -/
def Acceptable (priceCents : Option Int) : Prop := ∃ cents : Nat, priceCents = some (cents : Int)

/-- Of the rows of a key, the plan keeps the one with this id if its price is acceptable. -/
def Plan.PutsFirst (plan : Plan) (id : Nat) : Prop :=
  ∀ rows price first, price ∈ rows → price.id = id → Acceptable price.priceCents →
    (distinctOnKey (plan.resolved rows)).get? price.key = some first → first.id = id

/-- What promoting the staged rows of some days does, read off the tables it leaves. -/
structure Promotion (call : LoadCall) (plan : Plan) (v_data_provider_id : Nat) (days : Set Int)
    (tables next : MtgjsonTables) : Prop where
  grow : TablesGrow call.supply tables next
  registered : ∀ id row, tables.staging.get? id = some row → row.priceDate ∈ days →
    Registered call next row
  fits : ∀ id row, tables.staging.get? id = some row → row.priceDate ∈ days →
    (varchar3? row.currency).isSome
  known : ∀ code source, next.priceSource.get? code = some source →
    (tables.priceSource.get? code).isSome ∨ source.2 ∈ call.reference.currencyRef
  casts : ∀ key id row,
    ResolvedOn call v_data_provider_id days tables.staging next key id row →
    row.priceValue.cents?.isSome
  staging : ∀ id row, next.staging.get? id = some row ↔ tables.staging.get? id = some row ∧
    ¬ (row.priceDate ∈ days ∧ ∃ key, ResolvesTo call v_data_provider_id next row key)
  kept : ∀ key,
    (∀ id row, ¬ ResolvedOn call v_data_provider_id days tables.staging next key id row) →
    next.priceObservation.get? key = tables.priceObservation.get? key
  promoted : ∀ key id row,
    ResolvedOn call v_data_provider_id days tables.staging next key id row →
    ∃ survivorId survivor,
      ResolvedOn call v_data_provider_id days tables.staging next key survivorId survivor ∧
      (plan.PutsFirst id → Acceptable row.priceValue.cents? → survivorId = id) ∧
      ∃ cents : Nat, survivor.priceValue.cents? = some (cents : Int) ∧
        (next.priceObservation.get? key).map (·.prices) = some (promotedPrices key.priceTypeId
          ((tables.priceObservation.get? key).bind (·.prices.listLowCents)) cents)

theorem insertProductSource_spec {supply : IdSupply} {pairs : List SourceProduct}
    {products next : Products} (hinsert : insertProductSource supply pairs products = some next) :
    next.mtgCardProducts = products.mtgCardProducts ∧
      Table.Grows supply.sourceProductId products.sourceProduct next.sourceProduct ∧
      ∀ pair ∈ pairs, ∃ id, next.sourceProduct.get? id = some pair := by
  simp only [insertProductSource] at hinsert
  split at hinsert
  · cases hinsert
  · next sourceProduct hpairs =>
      cases hinsert
      refine ⟨rfl, Table.grows_of_register hpairs, ?_⟩
      intro pair hpair
      exact Table.mem_values_iff.mp (Table.mem_values_of_register hpairs hpair)

theorem mem_stagedIn {window : Window} {staging : Table Nat StagedPrice} {id : Nat}
    {row : StagedPrice} : (id, row) ∈ stagedIn window staging ↔
      staging.get? id = some row ∧ window.Contains row.priceDate := by
  rw [stagedIn, List.mem_filter, Table.mem_rows_iff, decide_eq_true_eq]

theorem mem_stagedRows {window : Window} {staging : Table Nat StagedPrice} {id : Nat}
    {row : StagedPrice} (hget : staging.get? id = some row)
    (hwindow : window.Contains row.priceDate) : row ∈ (stagedIn window staging).map Prod.snd :=
  List.mem_map_of_mem (f := Prod.snd) (mem_stagedIn.mpr ⟨hget, hwindow⟩)

/-- The rows of `resolved`, in the order they reach the `DISTINCT ON`. -/
def resolvedOf (call : LoadCall) (plan : Plan) (v_data_provider_id : Nat) (window : Window)
    (joined : MtgjsonTables) (products : Products) : List ResolvedPrice :=
  plan.resolved ((stagedIn window joined.staging).flatMap
    (resolvedPrices call v_data_provider_id joined
      (returning (pairs call joined ((stagedIn window joined.staging).map Prod.snd)) products)))

theorem mem_resolvedOf {window : Window} {joined : MtgjsonTables} {products : Products}
    (hproducts : products.mtgCardProducts = joined.products.mtgCardProducts)
    {price : ResolvedPrice} :
    price ∈ resolvedOf call plan v_data_provider_id window joined products ↔
      ∃ row, joined.staging.get? price.id = some row ∧ window.Contains row.priceDate ∧
        price.priceCents = row.priceValue.cents? ∧
        ResolvesTo call v_data_provider_id { joined with products } row price.key := by
  rw [resolvedOf, (plan.resolved_perm _).mem_iff, List.mem_flatMap]
  constructor
  · rintro ⟨⟨id, row⟩, hstaged, hprice⟩
    obtain ⟨hid, hcents, hresolves⟩ := (mem_resolvedPrices hproducts
      (List.mem_map_of_mem (f := Prod.snd) hstaged)).mp hprice
    obtain ⟨hget, hwindow⟩ := mem_stagedIn.mp hstaged
    exact ⟨row, hid ▸ hget, hwindow, hcents, hresolves⟩
  · rintro ⟨row, hget, hwindow, hcents, hresolves⟩
    have hstaged : (price.id, row) ∈ stagedIn window joined.staging :=
      mem_stagedIn.mpr ⟨hget, hwindow⟩
    exact ⟨_, hstaged, (mem_resolvedPrices hproducts
      (List.mem_map_of_mem (f := Prod.snd) hstaged)).mpr ⟨rfl, hcents, hresolves⟩⟩

/-- The statements of a window that does not raise. -/
theorem promoteWindow_cases {window : Window} {tables next : MtgjsonTables}
    (hpromote : promoteWindow call plan v_data_provider_id window tables = some next) :
    ∃ priceSource cardFinished products priceObservation joined,
      joined = { tables with priceSource, cardFinished } ∧
      registerSources call plan ((stagedIn window tables.staging).map Prod.snd) tables.priceSource =
        some priceSource ∧
      registerFinishes call ((stagedIn window tables.staging).map Prod.snd) tables.cardFinished =
        some cardFinished ∧
      insertProductSource call.supply
        (pairs call joined ((stagedIn window tables.staging).map Prod.snd)) tables.products =
          some products ∧
      upsertObservations call (resolvedOf call plan v_data_provider_id window joined products)
        tables.priceObservation = some priceObservation ∧
      next = { joined with
        products, priceObservation
        staging := tables.staging.deleteWhere fun id _ =>
          id ∈ ((stagedIn window tables.staging).filter fun staged =>
            deletes call { joined with products } staged.2).map Prod.fst } := by
  simp only [promoteWindow, Option.bind_eq_bind, Option.bind_eq_some_iff, Option.pure_def,
    Option.some.injEq, Option.ite_none_left_eq_some] at hpromote
  obtain ⟨-, priceSource, hsources, cardFinished, hfinishes, products, hproducts,
    priceObservation, hupsert, rfl⟩ := hpromote
  exact ⟨priceSource, cardFinished, products, priceObservation, _, rfl, hsources, hfinishes,
    hproducts, hupsert, rfl⟩

/-- A window promotes the rows of its days. -/
theorem promotion_of_window {window : Window} {tables next : MtgjsonTables}
    (hpromote : promoteWindow call plan v_data_provider_id window tables = some next) :
    Promotion call plan v_data_provider_id {day | window.Contains day} tables next := by
  obtain ⟨priceSource, cardFinished, products, priceObservation, joined, hjoined, hsources,
    hfinishes, hproducts, hupsert, hnext⟩ := promoteWindow_cases hpromote
  obtain ⟨hcards, hgrow, hpairs⟩ := insertProductSource_spec hproducts
  have hsame : products.mtgCardProducts = joined.products.mtgCardProducts := by
    rw [hjoined]
    exact hcards
  -- the joins of the upsert see what the delete sees
  have hresolves (row : StagedPrice) (key : ObservationKey) :
      ResolvesTo call v_data_provider_id { joined with products } row key ↔
        ResolvesTo call v_data_provider_id next row key := by
    rw [hnext]
    exact ⟨fun h => ⟨h.tsDate, h.priceType, h.finish, h.defaults, h.sourceProduct⟩,
      fun h => ⟨h.tsDate, h.priceType, h.finish, h.defaults, h.sourceProduct⟩⟩
  subst hjoined
  have hreaches (key : ObservationKey) (id : Nat) (row : StagedPrice)
      (hrow : ResolvedOn call v_data_provider_id {day | window.Contains day} tables.staging next
        key id row) :
      ResolvedPrice.mk id key row.priceValue.cents? ∈ resolvedOf call plan v_data_provider_id
        window { tables with priceSource, cardFinished } products :=
    (mem_resolvedOf hsame).mpr
      ⟨row, hrow.staged, hrow.day, rfl, (hresolves row key).mpr hrow.resolves⟩
  constructor
  case grow =>
    rw [hnext]
    exact ⟨CodeTable.grows_of_insertMissing (insert_of_registerSources hsources),
      CodeTable.grows_of_insertMissing hfinishes, hcards, hgrow⟩
  case registered =>
    intro id row hget hwindow
    have hrow := mem_stagedRows hget hwindow
    rw [hnext]
    refine ⟨isSome_source_of_register hsources hrow, isSome_finish_of_register hfinishes hrow, ?_⟩
    intro sourceId productId hsource hproduct
    apply hpairs
    rw [mem_productsOf, hcards, ← mem_productsOf] at hproduct
    refine List.mem_flatMap.mpr ⟨row, hrow, List.mem_flatMap.mpr ⟨sourceId, ?_, ?_⟩⟩
    · exact Option.mem_toList.mpr hsource
    · exact List.mem_map_of_mem hproduct
  case staging =>
    intro id row
    have hdeletes : deletes call
        { tables with priceSource, cardFinished, products } = deletes call next := by
      rw [hnext]
      rfl
    have hstaging := congrArg MtgjsonTables.staging hnext
    dsimp only at hstaging
    rw [hdeletes] at hstaging
    rw [hstaging, Table.get?_deleteWhere_keys, ← deletes_iff]
    · apply and_congr_right
      intro hget
      rw [List.mem_filter, mem_stagedIn]
      exact not_congr (and_congr_left fun _ => and_iff_right hget)
    · exact fun _ hrow => List.mem_of_mem_filter (List.mem_of_mem_filter hrow)
  case fits =>
    intro id row hget hwindow
    exact varchar3_of_registerSources hsources (mem_stagedRows hget hwindow)
  case known =>
    intro code source hget
    rw [hnext] at hget
    exact known_of_registerSources hsources hget
  case casts =>
    intro key id row hrow
    exact isSome_priceCents_of_upsert hupsert (hreaches key id row hrow)
  case kept =>
    intro key hnone
    have hfirst : (distinctOnKey (resolvedOf call plan v_data_provider_id window
        { tables with priceSource, cardFinished } products)).get? key = none := by
      rw [distinctOnKey_eq_none_iff]
      intro price hprice hkey
      obtain ⟨row, hget, hwindow, -, hrow⟩ := (mem_resolvedOf hsame).mp hprice
      exact hnone price.id row ⟨hget, hwindow, hkey ▸ (hresolves row price.key).mp hrow⟩
    rw [hnext]
    exact upsert_keeps hupsert hfirst
  case promoted =>
    intro key id row hrow
    have htype := priceTypeId?_cases hrow.resolves.priceType
    have hprice := hreaches key id row hrow
    cases hfirst : (distinctOnKey (resolvedOf call plan v_data_provider_id window
        { tables with priceSource, cardFinished } products)).get? key with
    | none => exact absurd rfl ((distinctOnKey_eq_none_iff _ _).mp hfirst _ hprice)
    | some first =>
        have hputs (hid : plan.PutsFirst id) (hacceptable : Acceptable row.priceValue.cents?) :
            first.id = id :=
          hid _ _ first ((plan.resolved_perm _).mem_iff.mp hprice) rfl hacceptable hfirst
        obtain ⟨hmem, rfl⟩ := mem_of_distinctOnKey hfirst
        obtain ⟨survivor, hsurvivor, hin, hcents, hto⟩ := (mem_resolvedOf hsame).mp hmem
        obtain ⟨cents, hprice, hstored⟩ := upsert_promotes hupsert hfirst htype
        refine ⟨first.id, survivor, ⟨hsurvivor, hin, (hresolves survivor _).mp hto⟩, hputs,
          cents, hcents.symm.trans hprice, ?_⟩
        rw [hnext]
        exact hstored

/-! ## The loop -/

theorem Promotion.refl (tables : MtgjsonTables) :
    Promotion call plan v_data_provider_id ∅ tables tables where
  grow := .refl _ _
  registered := fun _ _ _ hday => hday.elim
  fits := fun _ _ _ hday => hday.elim
  known := fun _ _ hget => Or.inl (Option.isSome_of_mem hget)
  casts := fun _ _ _ hrow => hrow.day.elim
  staging := fun _ _ => ⟨fun hget => ⟨hget, fun hday => hday.1.elim⟩, And.left⟩
  kept := fun _ _ => rfl
  promoted := fun _ _ _ hrow => hrow.day.elim

section Later

variable {days days' : Set Int} {first second third : MtgjsonTables}

/-- A promotion leaves the staged rows of other days alone. -/
theorem Promotion.staging_of_apart (hapart : ∀ day ∈ days, day ∉ days')
    (hfirst : Promotion call plan v_data_provider_id days first second) {id : Nat}
    {row : StagedPrice} (hday : row.priceDate ∈ days') :
    second.staging.get? id = some row ↔ first.staging.get? id = some row := by
  rw [hfirst.staging]
  exact and_iff_left fun hdays => hapart _ hdays.1 hday

/-- A row resolves to keys of its own day only. -/
theorem ResolvedOn.not_of_apart (hapart : ∀ day ∈ days, day ∉ days') {key : ObservationKey}
    {id id' : Nat} {row row' : StagedPrice}
    (hrow : ResolvedOn call v_data_provider_id days first.staging second key id row) :
    ¬ ResolvedOn call v_data_provider_id days' second.staging third key id' row' := by
  intro hrow'
  have hday := hrow.day
  have hday' := hrow'.day
  rw [← hrow.resolves.tsDate] at hday
  rw [← hrow'.resolves.tsDate] at hday'
  exact hapart _ hday hday'

/-- A later promotion does not change what a promoted row resolves to. -/
theorem Promotion.resolvesTo_later
    (hfirst : Promotion call plan v_data_provider_id days first second)
    (hsecond : Promotion call plan v_data_provider_id days' second third) {id : Nat}
    {row : StagedPrice} (hupper : call.locale.upper row.finishType = row.finishType)
    (hget : first.staging.get? id = some row) (hday : row.priceDate ∈ days)
    (key : ObservationKey) :
    ResolvesTo call v_data_provider_id third row key ↔
      ResolvesTo call v_data_provider_id second row key :=
  resolvesTo_later_iff hsecond.grow (hfirst.registered id row hget hday) hupper

/-- What two promotions resolve, one of them resolves. -/
theorem Promotion.resolvedOn_union_iff
    (hupper : ∀ id row, first.staging.get? id = some row →
      call.locale.upper row.finishType = row.finishType)
    (hapart : ∀ day ∈ days, day ∉ days')
    (hfirst : Promotion call plan v_data_provider_id days first second)
    (hsecond : Promotion call plan v_data_provider_id days' second third)
    {key : ObservationKey} {id : Nat} {row : StagedPrice} :
    ResolvedOn call v_data_provider_id (days ∪ days') first.staging third key id row ↔
      ResolvedOn call v_data_provider_id days first.staging second key id row ∨
        ResolvedOn call v_data_provider_id days' second.staging third key id row := by
  constructor
  · rintro ⟨hget, hday | hday, hresolves⟩
    · exact Or.inl ⟨hget, hday,
        (hfirst.resolvesTo_later hsecond (hupper id row hget) hget hday key).mp hresolves⟩
    · exact Or.inr ⟨(hfirst.staging_of_apart hapart hday).mpr hget, hday, hresolves⟩
  · rintro (⟨hget, hday, hresolves⟩ | ⟨hget, hday, hresolves⟩)
    · exact ⟨hget, Or.inl hday,
        (hfirst.resolvesTo_later hsecond (hupper id row hget) hget hday key).mpr hresolves⟩
    · exact ⟨(hfirst.staging_of_apart hapart hday).mp hget, Or.inr hday, hresolves⟩

end Later

/-- Two promotions of different days, one after the other. The second leaves the rows
and the keys of the first alone. -/
theorem Promotion.trans {days days' : Set Int} {first second third : MtgjsonTables}
    (hupper : ∀ id row, first.staging.get? id = some row →
      call.locale.upper row.finishType = row.finishType)
    (hapart : ∀ day ∈ days, day ∉ days')
    (hfirst : Promotion call plan v_data_provider_id days first second)
    (hsecond : Promotion call plan v_data_provider_id days' second third) :
    Promotion call plan v_data_provider_id (days ∪ days') first third := by
  have hparts (key : ObservationKey) (id : Nat) (row : StagedPrice) :=
    @Promotion.resolvedOn_union_iff call plan v_data_provider_id days days' first second third
      hupper hapart hfirst hsecond key id row
  constructor
  case grow => exact hfirst.grow.trans hsecond.grow
  case registered =>
    intro id row hget hday
    rcases hday with hday | hday
    · exact (hfirst.registered id row hget hday).mono hsecond.grow
    · exact hsecond.registered id row ((hfirst.staging_of_apart hapart hday).mpr hget) hday
  case fits =>
    intro id row hget hday
    rcases hday with hday | hday
    · exact hfirst.fits id row hget hday
    · exact hsecond.fits id row ((hfirst.staging_of_apart hapart hday).mpr hget) hday
  case known =>
    intro code source hget
    rcases hsecond.known code source hget with hstored | hknown
    · obtain ⟨earlier, hearlierSource⟩ := Option.isSome_iff_exists.mp hstored
      have hsame := hsecond.grow.priceSource.kept code earlier hearlierSource
      rw [hget, Option.some.injEq] at hsame
      exact hsame ▸ hfirst.known code earlier hearlierSource
    · exact Or.inr hknown
  case casts =>
    intro key id row hrow
    rcases (hparts key id row).mp hrow with hrow | hrow
    · exact hfirst.casts key id row hrow
    · exact hsecond.casts key id row hrow
  case staging =>
    intro id row
    rw [hsecond.staging, hfirst.staging, and_assoc]
    apply and_congr_right
    intro hget
    by_cases hday : row.priceDate ∈ days
    · have hday' := hapart _ hday
      have hsame := hfirst.resolvesTo_later hsecond (hupper id row hget) hget hday
      simp only [hsame, hday, hday', Set.mem_union, true_and, false_and, or_false,
        not_false_eq_true, and_true]
    · simp only [hday, Set.mem_union, false_and, false_or, not_false_eq_true, true_and]
  case kept =>
    intro key hnone
    simp only [hparts, not_or] at hnone
    rw [hsecond.kept key fun id row => (hnone id row).2, hfirst.kept key fun id row =>
      (hnone id row).1]
  case promoted =>
    intro key id row hrow
    rcases (hparts key id row).mp hrow with hrow | hrow
    · obtain ⟨survivorId, survivor, hsurvivor, hputs, cents, hcents, hstored⟩ :=
        hfirst.promoted key id row hrow
      refine ⟨survivorId, survivor, (hparts key _ _).mpr (Or.inl hsurvivor), hputs, cents,
        hcents, ?_⟩
      rw [hsecond.kept key fun _ _ => hrow.not_of_apart hapart, hstored]
    · obtain ⟨survivorId, survivor, hsurvivor, hputs, cents, hcents, hstored⟩ :=
        hsecond.promoted key id row hrow
      refine ⟨survivorId, survivor, (hparts key _ _).mpr (Or.inr hsurvivor), hputs, cents,
        hcents, ?_⟩
      have hbefore := hfirst.kept key fun _ _ hrow' => hrow'.not_of_apart hapart hrow
      rw [hstored, hbefore]

/-- A loop over windows that does not raise promotes the rows of their days. -/
theorem promotion_of_windows {windows : List Window}
    (hpairwise : windows.Pairwise fun earlier later => earlier.stop < later.start)
    {committed tables after : MtgjsonTables}
    (hupper : ∀ id row, tables.staging.get? id = some row →
      call.locale.upper row.finishType = row.finishType)
    (hrun : promoteWindows call plan v_data_provider_id windows committed tables = (after, none)) :
    Promotion call plan v_data_provider_id {day | ∃ window ∈ windows, window.Contains day}
      tables after := by
  induction windows generalizing committed tables with
  | nil =>
      cases hrun
      simpa using Promotion.refl _
  | cons window rest ih =>
      rw [promoteWindows] at hrun
      split at hrun
      · cases hrun
      · next next hpromote =>
          obtain ⟨hbefore, hrest⟩ := List.pairwise_cons.mp hpairwise
          have hfirst := promotion_of_window hpromote
          have hafter := ih hrest
            (fun id row hget => hupper id row ((hfirst.staging id row).mp hget).1) hrun
          have hapart : ∀ day ∈ {day | window.Contains day},
              day ∉ {day | ∃ later ∈ rest, later.Contains day} := by
            rintro day ⟨-, hstop⟩ ⟨later, hlater, hstart, -⟩
            have := hbefore later hlater
            omega
          convert hfirst.trans hupper hapart hafter using 1
          ext day
          simp

/-- A window leaves the staged rows of other windows alone. -/
theorem stagedIn_of_promoteWindow {window other : Window} {tables next : MtgjsonTables}
    (hother : ∀ day, other.Contains day → ¬ window.Contains day)
    (hpromote : promoteWindow call plan v_data_provider_id window tables = some next) :
    stagedIn other next.staging = stagedIn other tables.staging := by
  obtain ⟨_, _, _, _, _, -, -, -, -, -, rfl⟩ := promoteWindow_cases hpromote
  simp only [stagedIn, Table.deleteWhere, List.filter_filter]
  apply List.filter_congr
  intro row hrow
  by_cases hday : other.Contains row.2.priceDate
  · simp only [hday, decide_true, Bool.true_and, Bool.not_eq_true', decide_eq_false_iff_not]
    intro hdoomed
    rw [Table.key_mem_selected_iff _ (List.filter_subset_self _) hrow] at hdoomed
    obtain ⟨-, hselected⟩ := List.mem_filter.mp hdoomed
    have hwindow := (Bool.and_eq_true_iff.mp hselected).2
    exact hother _ hday (of_decide_eq_true hwindow)
  · simp only [hday, decide_false, Bool.false_and]

/-- The currency a code has, or is registered with in the first window that stages it. -/
def registeredCurrency (plan : Plan) (windows : List Window) (staging : Table Nat StagedPrice)
    (priceSource : CodeTable String) (code : String) : Option String :=
  match priceSource.get? code with
  | some source => some source.2
  | none => windows.findSome? fun window =>
    selectedCurrency plan ((stagedIn window staging).map Prod.snd) code

/-- A window stores the currency of a code that it is the first to stage. -/
theorem currency_of_promoteWindow {window : Window} {tables next : MtgjsonTables}
    (hpromote : promoteWindow call plan v_data_provider_id window tables = some next)
    (code : String) :
    (next.priceSource.get? code).map Prod.snd =
      ((tables.priceSource.get? code).map Prod.snd).or (selectedCurrency plan
        ((stagedIn window tables.staging).map Prod.snd) code) := by
  obtain ⟨priceSource, _, _, _, _, rfl, hsources, -, -, -, hnext⟩ := promoteWindow_cases hpromote
  have hsource : next.priceSource.get? code = priceSource.get? code := by
    rw [hnext]
  rw [hsource, get?_of_registerSources hsources]
  cases tables.priceSource.get? code with
  | some source => rfl
  | none =>
      rw [Option.none_or, Option.map_none, Option.none_or, Option.map_map]
      exact congrFun Option.map_id _

/-- The currency a code ends with is settled by the tables and the rows a loop starts with. -/
theorem registeredCurrency_of_promoteWindow {window : Window} {rest : List Window}
    (hbefore : ∀ later ∈ rest, window.stop < later.start) {tables next : MtgjsonTables}
    (hpromote : promoteWindow call plan v_data_provider_id window tables = some next)
    (code : String) :
    registeredCurrency plan rest next.staging next.priceSource code =
      registeredCurrency plan (window :: rest) tables.staging tables.priceSource code := by
  have hstaged : ∀ later ∈ rest,
      stagedIn later next.staging = stagedIn later tables.staging := by
    intro later hlater
    apply stagedIn_of_promoteWindow _ hpromote
    intro day hday hday'
    have := hbefore later hlater
    have := hday.1
    have := hday'.2
    omega
  have hcurrency := currency_of_promoteWindow hpromote code
  rw [registeredCurrency, registeredCurrency]
  cases hstored : tables.priceSource.get? code with
  | some source =>
      rw [hstored, Option.map_some, Option.some_or, Option.map_eq_some_iff] at hcurrency
      obtain ⟨later, hlater, hsame⟩ := hcurrency
      simp only [hlater, hsame]
  | none =>
      rw [hstored, Option.map_none, Option.none_or] at hcurrency
      rw [List.findSome?_cons]
      cases hselected : selectedCurrency plan
          ((stagedIn window tables.staging).map Prod.snd) code with
      | some currency =>
          rw [hselected, Option.map_eq_some_iff] at hcurrency
          obtain ⟨later, hlater, hsame⟩ := hcurrency
          simp only [hlater, hsame]
      | none =>
          rw [hselected, Option.map_eq_none_iff] at hcurrency
          simp only [hcurrency, ← List.head?_filterMap]
          congr 1
          apply List.filterMap_congr
          intro later hlater
          rw [hstaged later hlater]

theorem currency_of_windows {windows : List Window}
    (hpairwise : windows.Pairwise fun earlier later => earlier.stop < later.start)
    {committed tables after : MtgjsonTables}
    (hrun : promoteWindows call plan v_data_provider_id windows committed tables = (after, none))
    (code : String) :
    (after.priceSource.get? code).map Prod.snd =
      registeredCurrency plan windows tables.staging tables.priceSource code := by
  induction windows generalizing committed tables with
  | nil =>
      cases hrun
      rw [registeredCurrency]
      cases after.priceSource.get? code <;> rfl
  | cons window rest ih =>
      rw [promoteWindows] at hrun
      split at hrun
      · cases hrun
      · next next hpromote =>
          obtain ⟨hbefore, hrest⟩ := List.pairwise_cons.mp hpairwise
          rw [ih hrest hrun, registeredCurrency_of_promoteWindow hbefore hpromote]

/-- Every staged row is in a window. -/
theorem exists_mem_stagingWindows (batchDays : ℕ+) {staging : Table Nat StagedPrice} {id : Nat}
    {row : StagedPrice} (hget : staging.get? id = some row) :
    ∃ window ∈ stagingWindows batchDays staging, window.Contains row.priceDate := by
  have hdate : row.priceDate ∈ staging.rows.map (·.2.priceDate) :=
    List.mem_map.mpr ⟨_, (Table.mem_rows_iff _ _ _).mpr hget, rfl⟩
  obtain ⟨v_min, hmin⟩ := Option.isSome_iff_exists.mp (List.isSome_min?_of_mem hdate)
  obtain ⟨v_max, hmax⟩ := Option.isSome_iff_exists.mp (List.isSome_max?_of_mem hdate)
  rw [stagingWindows, hmin, hmax]
  exact exists_mem_wholeWindows batchDays ((List.min?_eq_some_iff.mp hmin).2 _ hdate)
    ((List.max?_eq_some_iff.mp hmax).2 _ hdate)

theorem stagingWindows_pairwise (batchDays : ℕ+) (staging : Table Nat StagedPrice) :
    (stagingWindows batchDays staging).Pairwise
      fun earlier later => earlier.stop < later.start := by
  unfold stagingWindows
  dsimp only
  split
  · exact wholeWindows_pairwise _ _ _
  · exact List.Pairwise.nil

/-- A promotion of the days of all staged rows promotes all days. -/
theorem Promotion.univ {days : Set Int} {tables next : MtgjsonTables}
    (hdays : ∀ id row, tables.staging.get? id = some row → row.priceDate ∈ days)
    (hpromotion : Promotion call plan v_data_provider_id days tables next) :
    Promotion call plan v_data_provider_id Set.univ tables next := by
  have hresolved (key : ObservationKey) (id : Nat) (row : StagedPrice) :
      ResolvedOn call v_data_provider_id Set.univ tables.staging next key id row ↔
        ResolvedOn call v_data_provider_id days tables.staging next key id row := by
    constructor
    · intro hrow
      exact ⟨hrow.staged, hdays id row hrow.staged, hrow.resolves⟩
    · intro hrow
      exact ⟨hrow.staged, Set.mem_univ _, hrow.resolves⟩
  constructor
  case grow => exact hpromotion.grow
  case registered =>
    exact fun id row hget _ => hpromotion.registered id row hget (hdays id row hget)
  case fits => exact fun id row hget _ => hpromotion.fits id row hget (hdays id row hget)
  case known => exact hpromotion.known
  case casts =>
    exact fun key id row hrow => hpromotion.casts key id row ((hresolved key id row).mp hrow)
  case staging =>
    intro id row
    rw [hpromotion.staging]
    apply and_congr_right
    intro hget
    simp only [hdays id row hget, Set.mem_univ]
  case kept =>
    intro key hnone
    simp only [hresolved] at hnone
    exact hpromotion.kept key hnone
  case promoted =>
    intro key id row hrow
    simp only [hresolved] at hrow ⊢
    exact hpromotion.promoted key id row hrow

/-! ## The call -/

/-- The parts of a call that returns without an error. -/
structure Returns (call : LoadCall) (plan : Plan) (v_data_provider_id : Nat) (batchDays : ℕ+)
    (tables bootstrapped after : MtgjsonTables) : Prop where
  bootstrap : bootstrap call tables = some bootstrapped
  provider : Staging.anyIdWhere call.reference.dataProvider (· = "mtgjson") =
    some v_data_provider_id
  windows : promoteWindows call plan v_data_provider_id
    (stagingWindows batchDays (normalizeStaging call.locale bootstrapped).staging) bootstrapped
    (normalizeStaging call.locale bootstrapped) = (after, none)

theorem load_returns_iff {tables after : MtgjsonTables} :
    loadPriceObservationFromMtgjsonStagingBatched call plan tables = (after, none) ↔
      ∃ (v_data_provider_id : Nat) (batchDays : ℕ+) (bootstrapped : MtgjsonTables),
        call.batchDays = some (batchDays : Int) ∧
          Returns call plan v_data_provider_id batchDays tables bootstrapped after := by
  constructor
  · intro hload
    unfold loadPriceObservationFromMtgjsonStagingBatched at hload
    split at hload
    · cases hload
    · next batchDays hbatchDays =>
        split at hload
        · next hdays =>
            split at hload
            · cases hload
            · next bootstrapped hbootstrap =>
                dsimp only at hload
                split at hload
                · cases hload
                · next v_data_provider_id hprovider =>
                    refine ⟨v_data_provider_id, ⟨batchDays.toNat, by omega⟩, bootstrapped, ?_,
                      hbootstrap, hprovider, hload⟩
                    rw [hbatchDays]
                    simp [Int.toNat_of_nonneg hdays.le]
        · cases hload
  · rintro ⟨v_data_provider_id, batchDays, bootstrapped, hbatchDays, hreturns⟩
    have hdays : (0 : Int) < batchDays := by exact_mod_cast batchDays.pos
    simp only [loadPriceObservationFromMtgjsonStagingBatched, hbatchDays, hdays,
      hreturns.bootstrap, hreturns.provider, dif_pos]
    exact hreturns.windows

theorem upper_finishType_normalize {locale : TextLocale} (hupper : locale.UpperIdempotent)
    (row : StagedPrice) :
    locale.upper (normalize locale row).finishType = (normalize locale row).finishType := by
  have hfinish : (normalize locale row).finishType =
      locale.upper (normalizeFinish locale row).finishType := by
    unfold normalize normalizeType normalizeSource upperFinish
    split_ifs <;> rfl
  rw [hfinish, hupper]

theorem upper_of_normalizeStaging (hupper : call.locale.UpperIdempotent) {tables : MtgjsonTables}
    {id : Nat} {row : StagedPrice}
    (hget : (normalizeStaging call.locale tables).staging.get? id = some row) :
    call.locale.upper row.finishType = row.finishType := by
  rw [normalizeStaging, Table.get?_mapValues, Option.map_eq_some_iff] at hget
  obtain ⟨staged, -, rfl⟩ := hget
  exact upper_finishType_normalize hupper staged

/-- A call that returns without an error promotes the normalized rows of all days. -/
theorem promotion_of_returns (hupper : call.locale.UpperIdempotent) {batchDays : ℕ+}
    {tables bootstrapped after : MtgjsonTables}
    (hreturns : Returns call plan v_data_provider_id batchDays tables bootstrapped after) :
    Promotion call plan v_data_provider_id Set.univ (normalizeStaging call.locale bootstrapped)
      after := by
  refine Promotion.univ ?_
    (promotion_of_windows (stagingWindows_pairwise _ _) ?_ hreturns.windows)
  · intro id row hget
    exact exists_mem_stagingWindows batchDays hget
  · intro id row hget
    exact upper_of_normalizeStaging hupper hget

end AutoMana.Mtgjson
