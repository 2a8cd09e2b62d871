import AutoMana.Staging.ExactlyOnce
import AutoMana.Staging.Rejects
import Mathlib

/-!
# The learnt print ids

Loading and retrying record the print id of a card they resolved as its
`mtgstock_id`, so that the next batch finds it at once. What was learnt is asked
first, so a known print id never resolves to another card; and a batch learns a
print id only when it is unambiguous, for a card that has none.
-/

namespace AutoMana.Staging

open Relational Pricing

/-- An entry of `card_external_identifier` named 'mtgstock_id'. -/
def HasMtgstockId (catalogue : Catalogue) (card : CardVersionId) (value : String) : Prop :=
  ∃ refId, catalogue.cardIdentifierRef.get? refId = some "mtgstock_id" ∧
    catalogue.cardExternalIdentifier.get? (card, refId) = some value

/-- Every `mtgstock_id` belongs to at most one card version. -/
def OneCardPerPrint (catalogue : Catalogue) : Prop :=
  ∀ value card other, HasMtgstockId catalogue card value → HasMtgstockId catalogue other value →
    card = other

/-- Every card version has at most one `mtgstock_id`. -/
def OnePrintPerCard (catalogue : Catalogue) : Prop :=
  ∀ card value other, HasMtgstockId catalogue card value → HasMtgstockId catalogue card other →
    value = other

/-! ## Reading the map -/

/-- The reference table names each identifier once. -/
theorem refId_unique (catalogue : Catalogue) {left right : Nat} {name : String}
    (hleft : catalogue.cardIdentifierRef.get? left = some name)
    (hright : catalogue.cardIdentifierRef.get? right = some name) : left = right :=
  Table.key_unique catalogue.cardIdentifierRef_unique hleft hright

/-- The names are a key, so a card has one identifier of each. -/
theorem onePrintPerCard (catalogue : Catalogue) : OnePrintPerCard catalogue := by
  intro card value other hvalue hother
  obtain ⟨refId, href, hget⟩ := hvalue
  obtain ⟨refId', href', hget'⟩ := hother
  obtain rfl := refId_unique catalogue href href'
  exact Option.some.inj (hget.symm.trans hget')

theorem hasMtgstockId_iff {catalogue : Catalogue} {refId : Nat}
    (href : catalogue.cardIdentifierRef.get? refId = some "mtgstock_id") (card : CardVersionId)
    (value : String) :
    HasMtgstockId catalogue card value ↔
      catalogue.cardExternalIdentifier.get? (card, refId) = some value := by
  constructor
  · intro hid
    obtain ⟨other, hother, hget⟩ := hid
    obtain rfl := refId_unique catalogue href hother
    exact hget
  · exact fun hget => ⟨refId, href, hget⟩

/-- The print-id map looks up what was learnt. -/
theorem mem_printCards_iff {catalogue : Catalogue} {listing : Listing} {card : CardVersionId} :
    card ∈ printCards catalogue listing ↔
      HasMtgstockId catalogue card (toString listing.printId) := by
  simp only [printCards, identified, HasMtgstockId, List.mem_flatMap]
  constructor
  · intro hmem
    obtain ⟨⟨refId, name⟩, href, hcards⟩ := hmem
    split_ifs at hcards with hname
    · obtain ⟨⟨⟨found, foundRef⟩, value⟩, hrow, rfl⟩ := List.mem_map.mp hcards
      simp only [List.mem_filter, Bool.and_eq_true, decide_eq_true_eq] at hrow
      obtain ⟨hrow, rfl, rfl⟩ := hrow
      obtain rfl : name = "mtgstock_id" := hname
      exact ⟨foundRef, (Table.mem_rows_iff _ _ _).mp href, (Table.mem_rows_iff _ _ _).mp hrow⟩
    · cases hcards
  · intro hid
    obtain ⟨refId, href, hget⟩ := hid
    refine ⟨(refId, "mtgstock_id"), (Table.mem_rows_iff _ _ _).mpr href, ?_⟩
    rw [if_pos rfl, List.mem_map]
    refine ⟨((card, refId), toString listing.printId), ?_, rfl⟩
    simpa using (Table.mem_rows_iff _ _ _).mpr hget

/-! ## What the back-fill writes -/

/-- A print id resolved to this card and to no other, for a card that had none. -/
structure Learns (catalogue : Catalogue) (resolvedPrints : List (Int × CardVersionId))
    (card : CardVersionId) (value : String) : Prop where
  fromPrint : ∃ printId, value = toString printId ∧ (printId, card) ∈ resolvedPrints ∧
    ∀ other, (printId, other) ∈ resolvedPrints → other = card
  isFirst : ∀ old, ¬ HasMtgstockId catalogue card old

/-- A print id with one resolved row has one resolved card. -/
theorem card_eq_of_unambiguous {resolvedPrints : List (Int × CardVersionId)}
    {row other : Int × CardVersionId} (hrow : row ∈ resolvedPrints)
    (hone : (resolvedPrints.dedup.filter (·.1 = row.1)).length = 1)
    (hother : other ∈ resolvedPrints) (hprint : other.1 = row.1) : other = row := by
  obtain ⟨only, honly⟩ := List.length_eq_one_iff.mp hone
  have hmem {found : Int × CardVersionId} (hfound : found ∈ resolvedPrints)
      (hsame : found.1 = row.1) : found = only := by
    rw [← List.mem_singleton, ← honly]
    simp [hfound, hsame]
  rw [hmem hother hprint, hmem hrow rfl]

theorem backfill_cardIdentifierRef (catalogue : Catalogue)
    (resolvedPrints : List (Int × CardVersionId)) :
    (backfill catalogue resolvedPrints).cardIdentifierRef = catalogue.cardIdentifierRef := by
  unfold backfill
  split <;> rfl

/-- A stored entry stays; a card without one gets an unambiguous print of its own. -/
theorem backfill_get?_cases {catalogue : Catalogue} {refId : Nat}
    (hrefId : anyIdWhere catalogue.cardIdentifierRef (· = "mtgstock_id") = some refId)
    (resolvedPrints : List (Int × CardVersionId)) (card : CardVersionId) :
    (backfill catalogue resolvedPrints).cardExternalIdentifier.get? (card, refId) =
        catalogue.cardExternalIdentifier.get? (card, refId) ∨
      catalogue.cardExternalIdentifier.get? (card, refId) = none ∧
        ∃ printId, (printId, card) ∈ resolvedPrints ∧
          (∀ other, (printId, other) ∈ resolvedPrints → other = card) ∧
          (backfill catalogue resolvedPrints).cardExternalIdentifier.get? (card, refId) =
            some (toString printId) := by
  simp only [backfill, hrefId, Table.get?_upsert, Table.reconcile_stored]
  rw [Table.get?_groupBy _ _ rfl]
  cases hstored : catalogue.cardExternalIdentifier.get? (card, refId) with
  | some old => exact Or.inl rfl
  | none =>
      rw [Option.none_or]
      cases hpicked : (((resolvedPrints.dedup.filter fun row =>
          (resolvedPrints.dedup.filter (·.1 = row.1)).length = 1).filter fun row =>
            (row.2, refId) = (card, refId)).map Prod.fst).min? with
      | none => exact Or.inl rfl
      | some printId =>
          -- the picked print is of an unambiguous row of this card
          obtain ⟨row, hrow, rfl⟩ := List.mem_map.mp (List.min?_mem hpicked)
          simp only [List.mem_filter, List.mem_dedup, decide_eq_true_eq, Prod.mk.injEq,
            and_true] at hrow
          obtain ⟨⟨hmem, hone⟩, rfl⟩ := hrow
          refine Or.inr ⟨rfl, row.1, hmem, ?_, rfl⟩
          intro other hother
          exact congrArg Prod.snd (card_eq_of_unambiguous hmem hone hother rfl)

/-- The back-fill keeps every entry. -/
theorem HasMtgstockId.backfill {catalogue : Catalogue} {card : CardVersionId} {value : String}
    (hid : HasMtgstockId catalogue card value) (resolvedPrints : List (Int × CardVersionId)) :
    HasMtgstockId (backfill catalogue resolvedPrints) card value := by
  obtain ⟨refId, href, hget⟩ := hid
  refine ⟨refId, (backfill_cardIdentifierRef catalogue resolvedPrints).symm ▸ href, ?_⟩
  cases hany : anyIdWhere catalogue.cardIdentifierRef (· = "mtgstock_id") with
  | none => simpa [AutoMana.Staging.backfill, hany] using hget
  | some anyId =>
      obtain ⟨name, hanyGet, hname⟩ := get?_of_anyIdWhere hany
      obtain rfl : name = "mtgstock_id" := of_decide_eq_true hname
      obtain rfl := refId_unique catalogue href hanyGet
      rcases backfill_get?_cases hany resolvedPrints card with hsame | ⟨hnone, -⟩
      · exact hsame.trans hget
      · rw [hnone] at hget
        cases hget

/-- The back-fill adds only what it learns. -/
theorem hasMtgstockId_of_backfill {catalogue : Catalogue}
    {resolvedPrints : List (Int × CardVersionId)} {card : CardVersionId} {value : String}
    (hid : HasMtgstockId (backfill catalogue resolvedPrints) card value) :
    HasMtgstockId catalogue card value ∨ Learns catalogue resolvedPrints card value := by
  cases hany : anyIdWhere catalogue.cardIdentifierRef (· = "mtgstock_id") with
  | none => exact Or.inl (by simpa only [backfill, hany] using hid)
  | some refId =>
      obtain ⟨name, href, hname⟩ := get?_of_anyIdWhere hany
      obtain rfl : name = "mtgstock_id" := of_decide_eq_true hname
      have href' := (backfill_cardIdentifierRef catalogue resolvedPrints).symm ▸ href
      have hget := (hasMtgstockId_iff href' card value).mp hid
      rcases backfill_get?_cases hany resolvedPrints card with hsame | ⟨hnone, hpicked⟩
      · exact Or.inl ⟨refId, href, hsame.symm.trans hget⟩
      · obtain ⟨printId, hmem, hone, hlearnt⟩ := hpicked
        refine Or.inr ⟨⟨printId, Option.some.inj (hget.symm.trans hlearnt), hmem, hone⟩, ?_⟩
        intro old hold
        rw [hasMtgstockId_iff href, hnone] at hold
        cases hold

/-- What is learnt is not known of another card, when the known prints resolved to
the cards they are known of. -/
theorem OneCardPerPrint.backfill {catalogue : Catalogue}
    (hfunctional : OneCardPerPrint catalogue) {resolvedPrints : List (Int × CardVersionId)}
    (hknown : ∀ printId card other, (printId, card) ∈ resolvedPrints →
      HasMtgstockId catalogue other (toString printId) →
      HasMtgstockId catalogue card (toString printId)) :
    OneCardPerPrint (backfill catalogue resolvedPrints) := by
  intro value card other hcard hother
  rcases hasMtgstockId_of_backfill hcard with hcard | hcard <;>
    rcases hasMtgstockId_of_backfill hother with hother | hother
  · exact hfunctional value card other hcard hother
  · obtain ⟨printId, rfl, hmem, -⟩ := hother.fromPrint
    exact absurd (hknown printId other card hmem hcard) (hother.isFirst _)
  · obtain ⟨printId, rfl, hmem, -⟩ := hcard.fromPrint
    exact absurd (hknown printId card other hmem hother) (hcard.isFirst _)
  · obtain ⟨printId, rfl, hmem, -⟩ := hcard.fromPrint
    obtain ⟨printId', hsame, -, hone⟩ := hother.fromPrint
    obtain rfl : printId = printId' := Int.repr_injective hsame
    exact hone card hmem

/-- A known print id resolves by the print-id map, to a card it is known of. -/
theorem resolve_of_known {skipEmptyIds : Bool} {locale : TextLocale} {catalogue : Catalogue}
    {printRows rows : List Listing} {external : ExternalMap skipEmptyIds catalogue rows}
    {listing : Listing} {card other : CardVersionId} {method : Method}
    (hmem : listing ∈ printRows)
    (hknown : HasMtgstockId catalogue other (toString listing.printId))
    (hresolved : some (card, method) ∈
      resolve skipEmptyIds locale catalogue printRows rows external listing) :
    method = .printId ∧ HasMtgstockId catalogue card (toString listing.printId) := by
  have hmapped (found : CardVersionId) := mem_mappedTo_iff
    (printCards_of_null (printCards catalogue)) printRows (printKey listing) found
  rw [resolve, Waterfall.mem_resolutions_iff] at hresolved
  rcases hresolved with ⟨hnil, -⟩ | ⟨found, hfound, heq⟩
  · have hother := (hmapped other).mpr ⟨listing, hmem, rfl, mem_printCards_iff.mpr hknown⟩
    rw [← mapPrint, hnil] at hother
    cases hother
  · cases heq
    obtain ⟨row, -, hkey, hcard⟩ := (hmapped card).mp hfound
    have hprint : row.printId = listing.printId := Option.some.inj hkey
    rw [mem_printCards_iff, hprint] at hcard
    exact ⟨rfl, hcard⟩

/-! ## Batches and retries, one after the other -/

/-- What loading and retrying learn, and the products they create. -/
structure Learnt where
  catalogue : Catalogue
  products : Products

/-- A batch of the loader over any raw rows, or a retry over any rejects. -/
inductive LearningCall where
  | loadBatch (context : LoadContext) (raws : List RawPrice)
      (scan : ∀ catalogue, ScanOrder catalogue raws)
  | retry (context : RetryContext) (rejects : SerialTable RejectPrice) (pLimit : Option Nat)
      (pOnlyUnresolved : Bool) (working : WorkingSet pLimit pOnlyUnresolved rejects)
      (scan : ∀ catalogue, RetryScan catalogue working.rows) (choice : UpdateChoice)

/-- The state after a call; one that raises changes nothing. -/
def learn (learnt : Learnt) : LearningCall → Learnt
  | .loadBatch context raws scan =>
    match stageBatch context learnt.catalogue learnt.products raws (scan _) with
    | none => learnt
    | some loaded => ⟨loaded.catalogue, loaded.products⟩
  | .retry context rejects _ _ working scan choice =>
    match resolvePriceRejects context learnt.catalogue learnt.products rejects working (scan _)
      choice with
    | none => learnt
    | some result => ⟨result.1.catalogue, result.1.products⟩

/-- A call learns from prints that, where known, resolved to a card they are known
of. -/
theorem learn_catalogue (learnt : Learnt) (call : LearningCall) :
    (learn learnt call).catalogue = learnt.catalogue ∨
      ∃ resolvedPrints, (learn learnt call).catalogue = backfill learnt.catalogue resolvedPrints ∧
        ∀ printId card other, (printId, card) ∈ resolvedPrints →
          HasMtgstockId learnt.catalogue other (toString printId) →
          HasMtgstockId learnt.catalogue card (toString printId) := by
  cases call with
  | loadBatch context raws scan =>
      simp only [learn]
      cases hloaded : stageBatch context learnt.catalogue learnt.products raws (scan _) with
      | none => exact Or.inl rfl
      | some loaded =>
          simp only [stageBatch, Option.ite_none_left_eq_some, Option.map_eq_some_iff] at hloaded
          obtain ⟨-, next, -, rfl⟩ := hloaded
          refine Or.inr ⟨_, rfl, ?_⟩
          intro printId card other hmem hknown
          obtain ⟨⟨split, resolution⟩, hrow, hprint⟩ := List.mem_filterMap.mp hmem
          obtain ⟨⟨found, method⟩, rfl, heq⟩ := Option.map_eq_some_iff.mp hprint
          cases heq
          simp only [tmpResolved, List.mem_flatMap, List.mem_map, Prod.mk.injEq] at hrow
          obtain ⟨_, hsplit, _, hresolution, rfl, rfl⟩ := hrow
          exact (resolve_of_known (List.mem_map_of_mem hsplit) hknown hresolution).2
  | retry context rejects pLimit pOnlyUnresolved working scan choice =>
      simp only [learn]
      cases hresult : resolvePriceRejects context learnt.catalogue learnt.products rejects working
        (scan _) choice with
      | none => exact Or.inl rfl
      | some result =>
          simp only [resolvePriceRejects, Option.ite_none_left_eq_some,
            Option.map_eq_some_iff] at hresult
          obtain ⟨-, next, -, rfl⟩ := hresult
          refine Or.inr ⟨_, rfl, ?_⟩
          intro printId card other hmem hknown
          obtain ⟨⟨row, resolution⟩, hrow, hprint⟩ := List.mem_filterMap.mp hmem
          simp only [Option.map_eq_some_iff, Option.filter_eq_some_iff, Prod.mk.injEq] at hprint
          obtain ⟨⟨found, method⟩, ⟨rfl, hmethod⟩, rfl, rfl⟩ := hprint
          simp only [retryResolved, List.mem_flatMap, List.mem_map, Prod.mk.injEq] at hrow
          obtain ⟨_, hworking, _, hresolution, rfl, rfl⟩ := hrow
          exact (resolve_of_known (List.mem_map_of_mem hworking) hknown hresolution).2

/-- To the catalogue and the products, a window of the loader is a batch, or
nothing when it rolls back. -/
theorem loadWindow_learns (call : LoadCall) (raw : List RawPrice) (window : Window)
    (tables : LoadTables) :
    let next := loadWindow call raw window tables
    let raws := raw.filter fun row => window.Contains row.tsDate
    (next.catalogue = tables.catalogue ∧ next.products = tables.products) ∨
      ⟨next.catalogue, next.products⟩ = learn ⟨tables.catalogue, tables.products⟩
        (.loadBatch call.toLoadContext raws fun catalogue => call.scan catalogue raws) := by
  simp only [loadWindow, learn]
  cases stageBatch call.toLoadContext tables.catalogue tables.products
      (raw.filter fun row => window.Contains row.tsDate)
      (call.scan tables.catalogue (raw.filter fun row => window.Contains row.tsDate)) with
  | none => exact Or.inl ⟨rfl, rfl⟩
  | some loaded =>
      dsimp only
      split_ifs
      · exact Or.inl ⟨rfl, rfl⟩
      · exact Or.inr rfl

/-- After any sequence of batches and retries over any rows, a functional map of
print ids is still functional, and it has kept every entry. -/
theorem learnt_prints_stay_functional (learnt : Learnt) (calls : List LearningCall)
    (hfunctional : OneCardPerPrint learnt.catalogue) :
    let final := calls.foldl learn learnt
    OneCardPerPrint final.catalogue ∧ OnePrintPerCard final.catalogue ∧
      ∀ card value, HasMtgstockId learnt.catalogue card value →
        HasMtgstockId final.catalogue card value := by
  induction calls generalizing learnt with
  | nil => exact ⟨hfunctional, onePrintPerCard _, fun _ _ => id⟩
  | cons call rest ih =>
      rcases learn_catalogue learnt call with hsame | ⟨resolvedPrints, hlearnt, hknown⟩
      · have hrest := ih (learn learnt call) (hsame.symm ▸ hfunctional)
        rw [hsame] at hrest
        exact hrest
      · have hnext : OneCardPerPrint (learn learnt call).catalogue :=
          hlearnt ▸ hfunctional.backfill hknown
        have hrest := ih (learn learnt call) hnext
        refine ⟨hrest.1, hrest.2.1, ?_⟩
        intro card value hid
        exact hrest.2.2 card value (hlearnt ▸ hid.backfill resolvedPrints)

/-- The price of print 1 resolves by its `tcg_id`, and teaches card 7 its print. -/
theorem learnt_prints_stay_functional_tcg :
    OneCardPerPrint (learn ⟨tcgCatalogue, noProducts⟩
      (.loadBatch sampleContext [rawOfPrint (some "55")]
        fun catalogue => .inOrder false catalogue _)).catalogue := by
  have hnone : OneCardPerPrint tcgCatalogue := by
    intro value card other hcard _
    obtain ⟨refId, href, hget⟩ := hcard
    have hrow := (Table.mem_rows_iff _ _ _).mpr hget
    obtain ⟨⟨rfl, rfl⟩, rfl⟩ : (card = 7 ∧ refId = 3) ∧ value = "55" := by
      simpa [tcgCatalogue, catalogueOf] using hrow
    exact absurd href (by decide +kernel)
  exact (learnt_prints_stay_functional ⟨tcgCatalogue, noProducts⟩
    [.loadBatch sampleContext [rawOfPrint (some "55")]
      fun catalogue => .inOrder false catalogue _] hnone).1

end AutoMana.Staging
