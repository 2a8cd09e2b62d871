import AutoMana.Mtgjson.LoadPrices
import AutoMana.Relational.Runs

/-!
# The MTGJson uuid map

`sync_uuid_mappings` maps the uuids of the MTGJson feed to cards by their Scryfall ids.
A card's first uuid becomes its `mtgjson_id`, and a uuid that found the place taken
becomes an alias. Neither statement replaces a mapping that is there, so a uuid may
keep the card of an earlier list next to the card of the latest one.
-/

namespace AutoMana.Mtgjson

open Relational Relational.Run Pricing

/-- The pairs of uuid and Scryfall id of a list. Each uuid, however it is spelled, has one
Scryfall id. -/
structure UuidList where
  pairs : List (String × String)
  isUuid : ∀ pair ∈ pairs, (Uuid.parse? pair.1).isSome
  oneScryfallId : ∀ left ∈ pairs, ∀ right ∈ pairs,
    Uuid.parse? left.1 = Uuid.parse? right.1 → left.2 = right.2

/-- A run of `sync_uuid_mappings`, with the orders in which the rows of its two joins reach
their tables. -/
structure UuidSync extends UuidList where
  primaryOrder : List ((CardVersionId × Nat) × String) → List ((CardVersionId × Nat) × String)
  primaryOrder_perm : ∀ rows, (primaryOrder rows).Perm rows
  aliasOrder : List (String × CardVersionId) → List (String × CardVersionId)
  aliasOrder_perm : ∀ rows, (aliasOrder rows).Perm rows

def identifierRefs (reference : Reference) (identifier_name : String) : List Nat :=
  reference.cardIdentifierRef.rows.filterMap fun ref =>
    if ref.2 = identifier_name then some ref.1 else none

/-- The cards with an identifier of a name and a value. -/
def identifiedCards (reference : Reference) (identifier_name value : String) :
    List CardVersionId :=
  (identifierRefs reference identifier_name).flatMap fun ref =>
    reference.cardExternalIdentifier.rows.filterMap fun row =>
      if row.1.2 = ref ∧ row.2 = value then some row.1.1 else none

abbrev scryfallCards (reference : Reference) (scryfall_uuid : String) : List CardVersionId :=
  identifiedCards reference "scryfall_id" scryfall_uuid

/-- The rows of the first `INSERT`. -/
def primaryRows (reference : Reference) (pairs : List (String × String)) :
    List ((CardVersionId × Nat) × String) :=
  pairs.flatMap fun p =>
    (scryfallCards reference p.2).flatMap fun card =>
      (identifierRefs reference "mtgjson_id").map fun mtgjson_ref => ((card, mtgjson_ref), p.1)

/-- The rows of the second `INSERT`: the pairs whose uuid is no card's `mtgjson_id`. -/
def aliasRows (reference : Reference) (pairs : List (String × String)) :
    List (String × CardVersionId) :=
  pairs.flatMap fun p =>
    if identifiedCards reference "mtgjson_id" p.1 = [] then
      (scryfallCards reference p.2).map fun card => (p.1, card)
    else []

/-- The first `INSERT`, `ON CONFLICT (card_version_id, card_identifier_ref_id) DO NOTHING`. -/
def insertPrimary (sync : UuidSync) (reference : Reference) : Reference :=
  { reference with
    cardExternalIdentifier := reference.cardExternalIdentifier.insertMissing
      (sync.primaryOrder (primaryRows reference sync.pairs)) }

/-- The second `INSERT`, `ON CONFLICT (uuid) DO NOTHING`. -/
def insertAliases (sync : UuidSync) (reference : Reference) : Reference :=
  { reference with
    mtgjsonUuidAlias := reference.mtgjsonUuidAlias.insertMissing
      (sync.aliasOrder (aliasRows reference sync.pairs)) }

/-- `upsert_mtgjson_id_mappings`. -/
def upsertMtgjsonIdMappings (sync : UuidSync) (reference : Reference) : Reference :=
  if sync.pairs = [] then reference else insertAliases sync (insertPrimary sync reference)

/-- At most one card has a Scryfall id. -/
def OneCardPerScryfallId (reference : Reference) : Prop :=
  ∀ scryfall_uuid, ∀ left ∈ scryfallCards reference scryfall_uuid,
    ∀ right ∈ scryfallCards reference scryfall_uuid, left = right

/-- Every listed uuid whose Scryfall id is catalogued resolves to the card of that id, and
to no other. -/
def ResolvesListed (reference : Reference) (pairs : List (String × String)) : Prop :=
  ∀ pair ∈ pairs, ∀ card ∈ scryfallCards reference pair.2,
    ∀ resolved, resolved ∈ cardsOf reference pair.1 ↔ resolved = card

/-- No listed uuid is mapped to another card than the one of its Scryfall id. -/
def MappedToNoOther (reference : Reference) (pairs : List (String × String)) : Prop :=
  ∀ pair ∈ pairs, ∀ card ∈ scryfallCards reference pair.2,
    ∀ mapped ∈ cardsOf reference pair.1, mapped = card

instance (reference : Reference) (pairs : List (String × String)) :
    Decidable (MappedToNoOther reference pairs) :=
  inferInstanceAs (Decidable (∀ pair ∈ pairs, ∀ card ∈ scryfallCards reference pair.2,
    ∀ mapped ∈ cardsOf reference pair.1, mapped = card))

theorem mem_identifierRefs {reference : Reference} {identifier_name : String} {ref : Nat} :
    ref ∈ identifierRefs reference identifier_name ↔
      reference.cardIdentifierRef.get? ref = some identifier_name := by
  rw [← Table.mem_rows_iff]
  simp only [identifierRefs, List.mem_filterMap]
  constructor
  · intro hmem
    obtain ⟨row, hrow, hname⟩ := hmem
    split at hname
    · next heq =>
      cases hname
      rwa [← heq]
    · cases hname
  · intro hrow
    exact ⟨_, hrow, if_pos rfl⟩

theorem mem_identifiedCards {reference : Reference} {identifier_name value : String}
    {card : CardVersionId} :
    card ∈ identifiedCards reference identifier_name value ↔
      ∃ ref, reference.cardIdentifierRef.get? ref = some identifier_name ∧
        reference.cardExternalIdentifier.get? (card, ref) = some value := by
  simp only [identifiedCards, List.mem_flatMap, mem_identifierRefs, List.mem_filterMap,
    ← Table.mem_rows_iff]
  constructor
  · intro hmem
    obtain ⟨ref, href, row, hrow, hsome⟩ := hmem
    split at hsome
    · next heq =>
      cases hsome
      exact ⟨ref, href, by rwa [← heq.1, ← heq.2]⟩
    · cases hsome
  · intro hmem
    obtain ⟨ref, href, hrow⟩ := hmem
    exact ⟨ref, href, _, hrow, if_pos ⟨rfl, rfl⟩⟩

theorem mem_identifiers {reference : Reference} {uuid : String} {card : CardVersionId} :
    (uuid, card) ∈ identifiers reference ↔
      card ∈ identifiedCards reference "mtgjson_id" uuid ∨
        reference.mtgjsonUuidAlias.get? uuid = some card := by
  rw [identifiers, List.mem_append, Table.mem_rows_iff, mem_identifiedCards]
  apply or_congr_left
  rw [List.mem_flatMap]
  constructor
  · intro hmem
    obtain ⟨ref, href, hrow⟩ := hmem
    split at hrow
    · next hname =>
      obtain ⟨row, hfiltered, heq⟩ := List.mem_map.mp hrow
      obtain ⟨hstored, hkey⟩ := List.mem_filter.mp hfiltered
      cases heq
      refine ⟨ref.1, ?_, ?_⟩
      · rw [← Table.mem_rows_iff, ← hname]
        exact href
      · rw [← Table.mem_rows_iff, ← of_decide_eq_true hkey]
        exact hstored
    · cases hrow
  · intro hmem
    obtain ⟨ref, href, hrow⟩ := hmem
    rw [← Table.mem_rows_iff] at href hrow
    refine ⟨_, href, ?_⟩
    rw [if_pos rfl]
    exact List.mem_map.mpr ⟨_, List.mem_filter.mpr ⟨hrow, decide_eq_true rfl⟩, rfl⟩

/-- A uuid resolves to the cards of its spellings. -/
theorem mem_cardsOf {reference : Reference} {text : String} {uuid : Uuid}
    (huuid : Uuid.parse? text = some uuid) {card : CardVersionId} :
    card ∈ cardsOf reference text ↔
      ∃ spelled, Uuid.parse? spelled = some uuid ∧ (spelled, card) ∈ identifiers reference := by
  simp only [cardsOf, huuid, List.mem_filterMap]
  constructor
  · intro hmem
    obtain ⟨id, hid, hsome⟩ := hmem
    split at hsome
    · next hparse =>
      cases hsome
      exact ⟨id.1, hparse, hid⟩
    · cases hsome
  · intro hmem
    obtain ⟨spelled, hparse, hid⟩ := hmem
    exact ⟨_, hid, if_pos hparse⟩

theorem mem_primaryRows {reference : Reference} {pairs : List (String × String)}
    {card : CardVersionId} {ref : Nat} {uuid : String} :
    ((card, ref), uuid) ∈ primaryRows reference pairs ↔
      (∃ scryfall_uuid, (uuid, scryfall_uuid) ∈ pairs ∧
        card ∈ scryfallCards reference scryfall_uuid) ∧
      reference.cardIdentifierRef.get? ref = some "mtgjson_id" := by
  simp only [primaryRows, List.mem_flatMap, List.mem_map, mem_identifierRefs]
  constructor
  · intro hmem
    obtain ⟨pair, hpair, card, hcard, ref, href, heq⟩ := hmem
    cases heq
    exact ⟨⟨pair.2, hpair, hcard⟩, href⟩
  · intro hmem
    obtain ⟨⟨scryfall_uuid, hpair, hcard⟩, href⟩ := hmem
    exact ⟨_, hpair, _, hcard, _, href, rfl⟩

theorem mem_aliasRows {reference : Reference} {pairs : List (String × String)}
    {uuid : String} {card : CardVersionId} :
    (uuid, card) ∈ aliasRows reference pairs ↔
      (∃ scryfall_uuid, (uuid, scryfall_uuid) ∈ pairs ∧
        card ∈ scryfallCards reference scryfall_uuid) ∧
      identifiedCards reference "mtgjson_id" uuid = [] := by
  simp only [aliasRows, List.mem_flatMap]
  constructor
  · intro hmem
    obtain ⟨pair, hpair, hrow⟩ := hmem
    split at hrow
    · next hnone =>
      obtain ⟨card, hcard, heq⟩ := List.mem_map.mp hrow
      cases heq
      exact ⟨⟨pair.2, hpair, hcard⟩, hnone⟩
    · cases hrow
  · intro hmem
    obtain ⟨⟨scryfall_uuid, hpair, hcard⟩, hnone⟩ := hmem
    refine ⟨_, hpair, ?_⟩
    rw [if_pos hnone]
    exact List.mem_map_of_mem hcard

section

variable {reference : Reference} {sync : UuidSync}

/-- Only `mtgjson_id` identifiers are inserted. -/
theorem identifiedCards_insertPrimary {identifier_name value : String}
    (hname : identifier_name ≠ "mtgjson_id") :
    ∀ card, card ∈ identifiedCards (insertPrimary sync reference) identifier_name value ↔
      card ∈ identifiedCards reference identifier_name value := by
  intro card
  rw [mem_identifiedCards, mem_identifiedCards]
  apply exists_congr
  intro ref
  apply and_congr_right
  intro href
  rw [insertPrimary, Table.get?_insertMissing_of_notMem]
  intro uuid hrow
  have hmem := mem_primaryRows.mp ((sync.primaryOrder_perm _).mem_iff.mp hrow)
  exact hname (Option.some.inj (href.symm.trans hmem.2))

theorem scryfallCards_upsert (scryfall_uuid : String) (card : CardVersionId) :
    card ∈ scryfallCards (upsertMtgjsonIdMappings sync reference) scryfall_uuid ↔
      card ∈ scryfallCards reference scryfall_uuid := by
  rw [upsertMtgjsonIdMappings]
  split
  · exact Iff.rfl
  · -- the second statement leaves the identifiers alone
    change card ∈ identifiedCards (insertPrimary sync reference) "scryfall_id" scryfall_uuid ↔
      card ∈ identifiedCards reference "scryfall_id" scryfall_uuid
    exact identifiedCards_insertPrimary (by decide) card

/-- No mapping is lost. -/
theorem identifiers_kept {uuid : String} {card : CardVersionId}
    (hmapped : (uuid, card) ∈ identifiers reference) :
    (uuid, card) ∈ identifiers (upsertMtgjsonIdMappings sync reference) := by
  rw [upsertMtgjsonIdMappings]
  split
  · exact hmapped
  · rw [mem_identifiers, mem_identifiedCards] at hmapped ⊢
    rcases hmapped with ⟨ref, href, hrow⟩ | halias
    · exact Or.inl ⟨ref, href, Table.get?_insertMissing_of_stored hrow _⟩
    · exact Or.inr (Table.get?_insertMissing_of_stored halias _)

/-- A mapping after a run was there before it or maps a listed uuid to a card of its
Scryfall id. -/
theorem identifiers_of_upsert {uuid : String} {card : CardVersionId}
    (hmapped : (uuid, card) ∈ identifiers (upsertMtgjsonIdMappings sync reference)) :
    (uuid, card) ∈ identifiers reference ∨
      ∃ scryfall_uuid, (uuid, scryfall_uuid) ∈ sync.pairs ∧
        card ∈ scryfallCards reference scryfall_uuid := by
  rw [upsertMtgjsonIdMappings] at hmapped
  split at hmapped
  · exact Or.inl hmapped
  · rw [mem_identifiers, mem_identifiedCards] at hmapped
    rw [mem_identifiers, mem_identifiedCards]
    rcases hmapped with ⟨ref, href, hrow⟩ | halias
    · rcases Table.stored_or_mem_of_insertMissing hrow with hstored | hnew
      · exact Or.inl (Or.inl ⟨ref, href, hstored⟩)
      · exact Or.inr (mem_primaryRows.mp ((sync.primaryOrder_perm _).mem_iff.mp hnew)).1
    · rcases Table.stored_or_mem_of_insertMissing halias with hstored | hnew
      · exact Or.inl (Or.inr hstored)
      · obtain ⟨scryfall_uuid, hpair, hcard⟩ :=
          (mem_aliasRows.mp ((sync.aliasOrder_perm _).mem_iff.mp hnew)).1
        exact Or.inr ⟨scryfall_uuid, hpair,
          (identifiedCards_insertPrimary (by decide) card).mp hcard⟩

/-- Every listed uuid whose Scryfall id is catalogued is mapped after the run. -/
theorem exists_identifiers_upsert {pair : String × String} (hpair : pair ∈ sync.pairs)
    {card : CardVersionId} (hcard : card ∈ scryfallCards reference pair.2) :
    ∃ mapped, (pair.1, mapped) ∈ identifiers (upsertMtgjsonIdMappings sync reference) := by
  rw [upsertMtgjsonIdMappings, if_neg (List.ne_nil_of_mem hpair)]
  simp only [mem_identifiers]
  -- a uuid that is no `mtgjson_id` after the first statement goes to the aliases
  cases hprimary : identifiedCards (insertPrimary sync reference) "mtgjson_id" pair.1 with
  | cons mapped rest => exact ⟨mapped, Or.inl (hprimary ▸ List.mem_cons_self)⟩
  | nil =>
    have hrow : (pair.1, card) ∈ aliasRows (insertPrimary sync reference) sync.pairs :=
      mem_aliasRows.mpr
        ⟨⟨pair.2, hpair, (identifiedCards_insertPrimary (by decide) card).mpr hcard⟩, hprimary⟩
    obtain ⟨kept, hkept⟩ := Table.exists_get?_insertMissing
      (insertPrimary sync reference).mtgjsonUuidAlias
      ((sync.aliasOrder_perm _).mem_iff.mpr hrow)
    exact ⟨kept, Or.inr hkept⟩

/-- A run resolves the uuids of its list exactly when none is mapped to another card. -/
theorem resolvesListed_upsert_iff (hcatalog : OneCardPerScryfallId reference) :
    ResolvesListed (upsertMtgjsonIdMappings sync reference) sync.pairs ↔
      MappedToNoOther reference sync.pairs := by
  constructor
  · intro hresolves pair hpair card hcard mapped hmapped
    obtain ⟨uuid, huuid⟩ := Option.isSome_iff_exists.mp (sync.isUuid pair hpair)
    apply (hresolves pair hpair card ((scryfallCards_upsert _ _).mpr hcard) mapped).mp
    obtain ⟨spelled, hspelled, hid⟩ := (mem_cardsOf huuid).mp hmapped
    exact (mem_cardsOf huuid).mpr ⟨spelled, hspelled, identifiers_kept hid⟩
  · intro hmapped pair hpair card hcard resolved
    obtain ⟨uuid, huuid⟩ := Option.isSome_iff_exists.mp (sync.isUuid pair hpair)
    rw [scryfallCards_upsert] at hcard
    have honly : ∀ spelled resolved, Uuid.parse? spelled = some uuid →
        (spelled, resolved) ∈ identifiers (upsertMtgjsonIdMappings sync reference) →
        resolved = card := by
      intro spelled resolved hspelled hid
      rcases identifiers_of_upsert hid with hold | ⟨scryfall_uuid, hlisted, hnew⟩
      · exact hmapped pair hpair card hcard resolved
          ((mem_cardsOf huuid).mpr ⟨spelled, hspelled, hold⟩)
      · have hsame : scryfall_uuid = pair.2 :=
          sync.oneScryfallId _ hlisted _ hpair (hspelled.trans huuid.symm)
        exact hcatalog pair.2 resolved (hsame ▸ hnew) card hcard
    rw [mem_cardsOf huuid]
    constructor
    · intro hresolved
      obtain ⟨spelled, hspelled, hid⟩ := hresolved
      exact honly spelled resolved hspelled hid
    · intro heq
      subst heq
      obtain ⟨mapped, hid⟩ := exists_identifiers_upsert hpair hcard
      exact ⟨pair.1, huuid, (honly pair.1 mapped huuid hid) ▸ hid⟩

end

/-- The map, and the pairs of the latest list. -/
structure UuidMapState where
  reference : Reference
  latest : List (String × String)

def uuidMapStep (state : UuidMapState) (sync : UuidSync) : UuidMapState :=
  ⟨upsertMtgjsonIdMappings sync state.reference, sync.pairs⟩

/-- In every run from a catalogue, the uuids of the latest list resolve to their cards
throughout exactly when no list finds one of its uuids mapped to another card. -/
theorem resolvesListed_visited_iff (reference : Reference)
    (hcatalog : OneCardPerScryfallId reference) (syncs : List UuidSync) :
    (∀ state ∈ visited uuidMapStep ⟨reference, []⟩ syncs,
      ResolvesListed state.reference state.latest) ↔
    StepsMeet uuidMapStep (fun state sync => MappedToNoOther state.reference sync.pairs)
      ⟨reference, []⟩ syncs := by
  let Inv : UuidMapState → Prop := fun state =>
    OneCardPerScryfallId state.reference ∧ ResolvesListed state.reference state.latest
  have hkeep : ∀ state sync, Inv state → MappedToNoOther state.reference sync.pairs →
      Inv (uuidMapStep state sync) := by
    intro state sync hinv hmapped
    refine ⟨?_, (resolvesListed_upsert_iff hinv.1).mpr hmapped⟩
    intro scryfall_uuid left hleft right hright
    rw [uuidMapStep, scryfallCards_upsert] at hleft hright
    exact hinv.1 scryfall_uuid left hleft right hright
  apply @forall_visited_iff_of_inv _ _ _ _ Inv
  · exact fun state hinv => hinv.2
  · exact hkeep
  · exact fun state sync hinv hresolves => (resolvesListed_upsert_iff hinv.1).mp hresolves
  · exact ⟨hcatalog, fun pair hpair => absurd hpair List.not_mem_nil⟩

/-- A catalogue of two cards, 1 and 2. -/
def twoCardCatalogue : Reference where
  cardIdentifierRef := ⟨[(1, "scryfall_id"), (7, "mtgjson_id")], by decide⟩
  cardExternalIdentifier := ⟨[((1, 1), "0a-one"), ((2, 1), "0b-two")], by decide⟩
  mtgjsonUuidAlias := Table.empty
  dataProvider := Table.empty
  currencyRef := []

/-- A list that gives one uuid a Scryfall id. -/
def singleSync (scryfall_uuid : String) : UuidSync where
  pairs := [("5f8287b1-5bb6-5f4c-ad17-316a40d5bb0c", scryfall_uuid)]
  isUuid := List.forall_mem_singleton.mpr
    (show (Uuid.parse? "5f8287b1-5bb6-5f4c-ad17-316a40d5bb0c").isSome by decide)
  oneScryfallId := fun left hleft right hright _ => by
    rw [List.mem_singleton.mp hleft, List.mem_singleton.mp hright]
  primaryOrder := id
  primaryOrder_perm := fun _ => .refl _
  aliasOrder := id
  aliasOrder_perm := fun _ => .refl _

theorem twoCardCatalogue_oneCard : OneCardPerScryfallId twoCardCatalogue := by
  intro scryfall_uuid left hleft right hright
  simp [identifiedCards, identifierRefs, twoCardCatalogue] at hleft hright
  grind

theorem resolvesListed_visited_iff_twoCards :
    OneCardPerScryfallId twoCardCatalogue ∧
      ∀ state ∈ visited uuidMapStep ⟨twoCardCatalogue, []⟩
          [singleSync "0b-two", singleSync "0b-two"],
        ResolvesListed state.reference state.latest :=
  ⟨twoCardCatalogue_oneCard,
    (resolvesListed_visited_iff twoCardCatalogue twoCardCatalogue_oneCard _).mpr (by decide)⟩

/-- A uuid that moves to another Scryfall id resolves to both cards. -/
theorem resolvesListed_moved :
    ¬ ∀ state ∈ visited uuidMapStep ⟨twoCardCatalogue, []⟩
        [singleSync "0a-one", singleSync "0b-two"],
      ResolvesListed state.reference state.latest := by
  intro hresolves
  have hlast := hresolves _ (foldl_mem_visited uuidMapStep _ _)
  have hstale := (hlast _ List.mem_cons_self 2 (by decide) 1).mp (by decide)
  cases hstale

end AutoMana.Mtgjson
