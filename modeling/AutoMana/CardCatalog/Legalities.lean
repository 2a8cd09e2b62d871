import AutoMana.CardCatalog.Reimport

/-!
# Legalities over imports

The legalities of a card are inserted and never changed or deleted. As long as every import lists
what the imports before it listed, they are those of the newest one.
-/

namespace AutoMana.CardCatalog

open Relational Statement

/-! ## The legal formats of a card -/

/-- The status of a format in the map of a card. -/
def Card.legalStatus (card : Card) (format : String) : Option String :=
  (card.legalities.get? format).join.filter (· ≠ "not_legal")

theorem mem_legalFormats_iff {card : Card} {format status : String} :
    (format, status) ∈ card.legalFormats ↔ card.legalStatus format = some status := by
  rw [Card.legalFormats, Card.legalStatus, List.mem_filterMap]
  constructor
  · rintro ⟨row, hrow, hlegal⟩
    obtain ⟨given, hgiven, heq⟩ := Option.map_eq_some_iff.mp hlegal
    cases heq
    rw [(Table.mem_rows_iff _ _ _).mp hrow, Option.join_some, hgiven]
  · intro hstatus
    cases hrow : card.legalities.get? format with
    | none =>
      rw [hrow] at hstatus
      cases hstatus
    | some given =>
      rw [hrow, Option.join_some] at hstatus
      exact ⟨(format, given), (Table.mem_rows_iff _ _ _).mpr hrow, by rw [hstatus]; rfl⟩

/-- A lookup after the loop over the legalities. -/
theorem get?_insertLegal (legalities : Table (String × String) String) (card : Card)
    (cardId id format : String) :
    (legalities.insertMissing
        (card.legalFormats.map fun legal => ((cardId, legal.1), legal.2))).get? (id, format) =
      (legalities.get? (id, format)).or
        (if id = cardId then card.legalStatus format else none) := by
  refine Table.get?_insertMissing_of_mem_iff (fun status => ?_) legalities
  rw [List.mem_map]
  constructor
  · rintro ⟨legal, hlegal, heq⟩
    cases heq
    rw [if_pos rfl]
    exact mem_legalFormats_iff.mp hlegal
  · intro hstatus
    split_ifs at hstatus with hid
    exact ⟨_, mem_legalFormats_iff.mpr hstatus, by rw [hid]⟩

/-! ## What is claimed -/

/-- An import that raises changes nothing. -/
def importStep (uuids : Uuids) (catalog : Catalog) (card : Card) : Catalog :=
  attempt (fun catalog => (insertFullCardVersion uuids card catalog).map Prod.snd) catalog

/-- After its import the legalities of a card are those of its map. -/
def Reflects (uuids : Uuids) (catalog : Catalog) (card : Card) : Prop :=
  ∀ format, (importStep uuids catalog card).cards.legalities.get?
      ((importStep uuids catalog card).cards.idOf uuids card.cardName, format) =
    card.legalStatus format

/-- Every format that the one card lists with a status is listed with it by the other. -/
def ListedBy (earlier later : Card) : Prop :=
  earlier.cardName = later.cardName → earlier.legalFormats ⊆ later.legalFormats

/-! ## One import -/

section Step

variable {uuids : Uuids} {catalog next : Catalog} {card : Card}

theorem importStep_of_importable (himportable : Importable uuids catalog card) :
    ∃ versionId, Outcome uuids catalog card versionId (importStep uuids catalog card) := by
  obtain ⟨⟨versionId, next⟩, himport⟩ := exists_import_iff.mpr himportable
  have hnext : importStep uuids catalog card = next :=
    attempt_of_ok (congrArg (Except.map Prod.snd) himport)
  exact ⟨versionId, hnext ▸ outcome_of_import himport⟩

/-- The id of the card with a name, if it is stored. -/
def Catalog.cardId? (catalog : Catalog) (name : String) : Option String :=
  (catalog.cards.refs.get? name).map UniqueCard.uniqueCardId

theorem cardIdOf_of_stored {id : String} (hid : catalog.cardId? card.cardName = some id) :
    cardIdOf uuids catalog card = id := by
  obtain ⟨row, hrow, rfl⟩ := Option.map_eq_some_iff.mp hid
  rw [cardIdOf, Cards.idOf, hrow]

/-- The cards after an import: the name of the card has its id, the others have theirs. -/
theorem cardId?_of_outcome {versionId : String}
    (houtcome : Outcome uuids catalog card versionId next) (name : String) :
    next.cardId? name =
      if name = card.cardName then some (cardIdOf uuids catalog card)
      else catalog.cardId? name := by
  rw [Catalog.cardId?, houtcome.refs]
  by_cases hname : name = card.cardName
  · subst hname
    rw [if_pos rfl, cardIdOf, Cards.idOf]
    cases hrow : catalog.cards.refs.get? card.cardName with
    | some row => rw [Table.get?_insertMissing_of_stored hrow, Option.map_some]
    | none => simp [Table.get?_insertMissing, hrow]
  · rw [if_neg hname, Table.get?_insertMissing_of_notMem, Catalog.cardId?]
    rintro row hrow
    cases List.mem_singleton.mp hrow
    exact hname rfl

/-- The card of an import is stored, or its id is no card's. -/
theorem cardIdOf_stored_or_new (uuids : Uuids) (catalog : Catalog) (card : Card) :
    catalog.cardId? card.cardName = some (cardIdOf uuids catalog card) ∨
      ∀ name, catalog.cardId? name ≠ some (cardIdOf uuids catalog card) := by
  cases hstored : catalog.cardId? card.cardName with
  | some id => exact Or.inl (congrArg some (cardIdOf_of_stored hstored).symm)
  | none =>
    refine Or.inr fun name hname => ?_
    obtain ⟨row, hrow, hid⟩ := Option.map_eq_some_iff.mp hname
    refine uuids.isNew (catalog.cards.refs.rows.map fun row => row.2.uniqueCardId) ?_
    rw [cardIdOf, Cards.idOf, Option.map_eq_none_iff.mp hstored] at hid
    change row.uniqueCardId = uuids.generate _ at hid
    rw [← hid]
    exact List.mem_map.mpr ⟨(name, row), (Table.mem_rows_iff _ _ _).mpr hrow, rfl⟩

end Step

/-! ## All imports -/

/-- What is stored after imports: two cards have two ids, each legality was listed by an import of
its card, and what the imports listed is stored. -/
structure Recorded (catalog : Catalog) (history : List Card) : Prop where
  ids : ∀ name other id, catalog.cardId? name = some id → catalog.cardId? other = some id →
    name = other
  stored : ∀ id format status, catalog.cards.legalities.get? (id, format) = some status →
    ∃ card ∈ history, catalog.cardId? card.cardName = some id ∧
      card.legalStatus format = some status
  listed : ∀ card ∈ history, ∃ id, catalog.cardId? card.cardName = some id ∧
    ∀ format status, card.legalStatus format = some status →
      catalog.cards.legalities.get? (id, format) = some status

theorem listedBy_iff {earlier later : Card} : ListedBy earlier later ↔
    (earlier.cardName = later.cardName → ∀ format status,
      earlier.legalStatus format = some status → later.legalStatus format = some status) := by
  refine forall_congr' fun _ => ?_
  constructor
  · exact fun hsubset format status hstatus =>
      mem_legalFormats_iff.mp (hsubset (mem_legalFormats_iff.mpr hstatus))
  · exact fun hlisted legal hlegal =>
      mem_legalFormats_iff.mpr (hlisted _ _ (mem_legalFormats_iff.mp hlegal))

section Runs

variable {uuids : Uuids} {catalog next : Catalog} {card : Card} {history : List Card}
  {versionId : String}

theorem reflects_iff (hrecorded : Recorded catalog history)
    (himportable : Importable uuids catalog card) :
    Reflects uuids catalog card ↔ ∀ earlier ∈ history, ListedBy earlier card := by
  obtain ⟨versionId, houtcome⟩ := importStep_of_importable himportable
  have hid : (importStep uuids catalog card).cards.idOf uuids card.cardName =
      cardIdOf uuids catalog card :=
    cardIdOf_of_stored ((cardId?_of_outcome houtcome card.cardName).trans (if_pos rfl))
  simp only [Reflects, hid, houtcome.legalities, get?_insertLegal, if_true, listedBy_iff]
  constructor
  · intro hreflects earlier hearlier hname format status hstatus
    obtain ⟨id, hstored, hlisted⟩ := hrecorded.listed earlier hearlier
    obtain rfl := @cardIdOf_of_stored uuids catalog card id (hname ▸ hstored)
    rw [← hreflects format, hlisted format status hstatus, Option.some_or]
  · intro hlisted format
    cases hstored : catalog.cards.legalities.get? (cardIdOf uuids catalog card, format) with
    | none => rw [Option.none_or]
    | some status =>
      obtain ⟨earlier, hearlier, hcard, hstatus⟩ := hrecorded.stored _ _ _ hstored
      have hname : earlier.cardName = card.cardName := by
        rcases cardIdOf_stored_or_new uuids catalog card with hsame | hnew
        · exact hrecorded.ids _ _ _ hcard hsame
        · exact absurd hcard (hnew _)
      rw [Option.some_or, hlisted earlier hearlier hname format status hstatus]

/-- An import that reflects the map of its card is recorded. -/
theorem Recorded.imported (hrecorded : Recorded catalog history)
    (himportable : Importable uuids catalog card) (hreflects : Reflects uuids catalog card) :
    Recorded (importStep uuids catalog card) (card :: history) := by
  obtain ⟨versionId, houtcome⟩ := importStep_of_importable himportable
  have hown := (cardId?_of_outcome houtcome card.cardName).trans (if_pos rfl)
  -- a card that was stored keeps its id
  have hkept : ∀ name id, catalog.cardId? name = some id →
      (importStep uuids catalog card).cardId? name = some id := by
    intro name id hname
    rw [cardId?_of_outcome houtcome]
    split_ifs with hsame
    · rw [cardIdOf_of_stored (hsame ▸ hname)]
    · exact hname
  constructor
  · intro name other id hname hother
    rw [cardId?_of_outcome houtcome] at hname hother
    split_ifs at hname hother with hsame hsame' hsame'
    · exact hsame.trans hsame'.symm
    · cases hname
      rcases cardIdOf_stored_or_new uuids catalog card with hstored | hnew
      · exact hsame.trans (hrecorded.ids _ _ _ hstored hother)
      · exact absurd hother (hnew _)
    · cases hother
      rcases cardIdOf_stored_or_new uuids catalog card with hstored | hnew
      · exact (hrecorded.ids _ _ _ hname hstored).trans hsame'.symm
      · exact absurd hname (hnew _)
    · exact hrecorded.ids _ _ _ hname hother
  · intro id format status hstatus
    rw [houtcome.legalities, get?_insertLegal, Option.or_eq_some_iff] at hstatus
    rcases hstatus with hstored | ⟨-, hlisted⟩
    · obtain ⟨earlier, hearlier, hid, hlegal⟩ := hrecorded.stored _ _ _ hstored
      exact ⟨earlier, List.mem_cons_of_mem _ hearlier, hkept _ _ hid, hlegal⟩
    · split_ifs at hlisted with hid
      exact ⟨card, List.mem_cons_self, hid ▸ hown, hlisted⟩
  · intro earlier hearlier
    rcases List.mem_cons.mp hearlier with rfl | hbefore
    · refine ⟨_, hown, fun format status hstatus => ?_⟩
      rw [← hstatus, ← hreflects format]
      exact congrArg (fun id => (importStep uuids catalog earlier).cards.legalities.get?
        (id, format)) (cardIdOf_of_stored hown).symm
    · obtain ⟨id, hid, hlisted⟩ := hrecorded.listed earlier hbefore
      refine ⟨id, hkept _ _ hid, fun format status hstatus => ?_⟩
      rw [houtcome.legalities, get?_insertLegal, hlisted format status hstatus, Option.some_or]

theorem recorded_ofSets (sets : Sets) : Recorded (.ofSets sets) [] where
  ids _ _ _ hname := by cases hname
  stored _ _ _ hstatus := by cases hstatus
  listed _ hmem := by cases hmem

/-- The run lemma, from what is recorded of the imports before. -/
theorem stepsMeet_reflects_iff {cards : List Card} (hrecorded : Recorded catalog history)
    (hsuccess : Run.StepsMeet (importStep uuids) (Importable uuids) catalog cards) :
    Run.StepsMeet (importStep uuids) (Reflects uuids) catalog cards ↔
      (∀ later ∈ cards, ∀ earlier ∈ history, ListedBy earlier later) ∧
        cards.Pairwise ListedBy := by
  induction cards generalizing catalog history with
  | nil => exact iff_of_true trivial ⟨fun _ hmem => (List.not_mem_nil hmem).elim, .nil⟩
  | cons card rest ih =>
      obtain ⟨himportable, hrest⟩ := hsuccess
      rw [Run.StepsMeet, List.forall_mem_cons, List.pairwise_cons]
      have hone := reflects_iff hrecorded himportable
      constructor
      · rintro ⟨hreflects, hlater⟩
        obtain ⟨hhistory, hpairwise⟩ :=
          (ih (hrecorded.imported himportable hreflects) hrest).mp hlater
        refine ⟨⟨hone.mp hreflects, fun later hmem earlier hearlier => ?_⟩, fun later hmem => ?_,
          hpairwise⟩
        · exact hhistory later hmem earlier (List.mem_cons_of_mem _ hearlier)
        · exact hhistory later hmem card List.mem_cons_self
      · rintro ⟨⟨hcard, hhistory⟩, hlater, hpairwise⟩
        have hreflects := hone.mpr hcard
        refine ⟨hreflects, (ih (hrecorded.imported himportable hreflects) hrest).mpr
          ⟨fun later hmem earlier hearlier => ?_, hpairwise⟩⟩
        rcases List.mem_cons.mp hearlier with rfl | hbefore
        · exact hlater later hmem
        · exact hhistory later hmem earlier hbefore

end Runs

/-- After each of a sequence of successful imports the legalities of its card are those of its
map exactly when no import leaves out or changes what an earlier one of the card listed. -/
theorem legalities_follow_iff (uuids : Uuids) (sets : Sets) (cards : List Card)
    (hsuccess : Run.StepsMeet (importStep uuids) (Importable uuids) (.ofSets sets) cards) :
    Run.StepsMeet (importStep uuids) (Reflects uuids) (.ofSets sets) cards ↔
      cards.Pairwise ListedBy := by
  rw [stepsMeet_reflects_iff (recorded_ofSets sets) hsuccess]
  exact and_iff_right fun _ _ _ hmem => (List.not_mem_nil hmem).elim

/-! ## A card that is banned -/

theorem importable_of_isSome {uuids : Uuids} {catalog : Catalog} {card : Card}
    (hsome : (insertFullCardVersion uuids card catalog).toOption.isSome = true) :
    Importable uuids catalog card := by
  cases himport : insertFullCardVersion uuids card catalog with
  | error =>
    rw [himport] at hsome
    cases hsome
  | ok result => exact exists_import_iff.mp ⟨result, himport⟩

/-- The card with one format. -/
def forestIn (format status : String) : Card :=
  { forest.toCard with legalities := .single format (some status) }

theorem legalities_follow_forest :
    Run.StepsMeet (importStep .longer) (Reflects .longer) (.ofSets alpha)
        [forest.toCard, forestIn "vintage" "legal"] ↔
      [forest.toCard, forestIn "vintage" "legal"].Pairwise ListedBy :=
  legalities_follow_iff .longer alpha [forest.toCard, forestIn "vintage" "legal"]
    ⟨importable_of_isSome (by decide), importable_of_isSome (by decide), trivial⟩

/-- A ban, an unban and the exit from a format are imported, and the first status stays. -/
theorem first_status_stays :
    (∀ statuses ∈ [("legal", "banned"), ("banned", "legal"), ("legal", "not_legal")],
      ((importStep .longer (importStep .longer (.ofSets alpha) (forestIn "vintage" statuses.1))
        (forestIn "vintage" statuses.2)).cards.legalities.rows.map Prod.snd) = [statuses.1]) ∧
    ¬ Run.StepsMeet (importStep .longer) (Reflects .longer) (.ofSets alpha)
      [forestIn "vintage" "legal", forestIn "vintage" "banned"] := by
  refine ⟨by decide, fun hreflects => ?_⟩
  exact absurd (hreflects.2.1 "vintage") (by decide)

end AutoMana.CardCatalog
