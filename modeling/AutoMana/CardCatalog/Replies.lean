import AutoMana.CardCatalog.Import

/-!
# What the batch procedures reply

A card is never skipped: the insert of its version gives way to the constraint whose violation
would be counted so. The counts of a reply are those of the cards.
-/

namespace AutoMana.CardCatalog

open Relational Statement

/-- What the handler of the batch counts as a card that is there. -/
def versionTaken : Violation := .unique "card_version_unique_per_print"

section Statements

variable {uuids : Uuids} {card : Card} {cards : Cards} {versions : Versions} {art : Art}

theorem avoids_varchar (limit : Nat) (text : String) :
    Avoids versionTaken (varchar limit text) :=
  avoids_check (by decide)

theorem avoids_forM_varchar (limit : Nat) (texts : List String) :
    Avoids versionTaken (texts.forM (varchar limit)) :=
  avoids_forM (avoids_varchar limit)

theorem avoids_option_forM {α : Type} {statement : α → Except Violation Unit}
    (hstatement : ∀ value, Avoids versionTaken (statement value)) (value : Option α) :
    Avoids versionTaken (value.forM statement) := by
  cases value with
  | none => exact avoids_pure
  | some given => exact hstatement given

theorem avoids_insertTypes (cardId : String) (category : TypeCategory) (types : List String) :
    Avoids versionTaken (cards.insertTypes cardId category types) :=
  (avoids_forM_varchar 20 types).bind fun _ => avoids_pure

theorem avoids_insertTypeLine (cardId : String) (supertypes types subtypes : List String) :
    Avoids versionTaken (cards.insertTypeLine cardId supertypes types subtypes) :=
  (avoids_insertTypes cardId .supertype supertypes).bind fun _ =>
    (avoids_insertTypes cardId .type types).bind fun _ =>
      avoids_insertTypes cardId .subtype subtypes

theorem avoids_insertKeywords (cardId : String) :
    Avoids versionTaken (cards.insertKeywords card cardId) := by
  rw [Cards.insertKeywords]
  cases card.keywords with
  | none => exact avoids_error (by decide)
  | some keywords => exact (avoids_forM_varchar 50 keywords).bind fun _ => avoids_pure

theorem avoids_insertVersion (sets : Sets) (printing : Printing) :
    Avoids versionTaken (versions.insertVersion uuids card sets printing) := by
  refine (avoids_varchar _ _).bind fun _ => (avoids_varchar _ _).bind fun _ =>
    (avoids_varchar _ _).bind fun _ => (avoids_varchar _ _).bind fun _ =>
    (avoids_varchar _ _).bind fun _ => (avoids_varchar _ _).bind fun _ => ?_
  split_ifs
  · exact avoids_pure
  · exact (avoids_check (by decide)).bind fun _ => avoids_pure

theorem avoids_resolveArtist : Avoids versionTaken (art.resolveArtist uuids card) := by
  rw [Art.resolveArtist]
  split
  next artistId name _ _ =>
    refine (avoids_varchar _ _).bind fun _ => ?_
    split_ifs
    · exact avoids_pure
    · exact (avoids_check (by decide)).bind fun _ => avoids_pure
  next name _ _ =>
    refine (avoids_varchar _ _).bind fun _ => ?_
    split <;> exact avoids_pure
  next => exact avoids_pure
  next => exact avoids_pure

theorem avoids_insertIllustrationArtist (illustrationId artistId : String) :
    Avoids versionTaken (art.insertIllustrationArtist illustrationId artistId) :=
  (avoids_check (by decide)).bind fun _ => avoids_pure

theorem avoids_insertVersionIllustration (versionId illustrationId : String) :
    Avoids versionTaken (art.insertVersionIllustration card versionId illustrationId) := by
  rw [Art.insertVersionIllustration]
  split
  next => exact (avoids_check (by decide)).bind fun _ => avoids_pure
  next => exact avoids_pure

theorem avoids_insertSingleFaced (versionId : String) :
    Avoids versionTaken (art.insertSingleFaced uuids card versionId) := by
  refine avoids_resolveArtist.bind fun resolved => ?_
  dsimp only
  split
  next => exact avoids_error (by decide)
  next => exact (avoids_insertIllustrationArtist _ _).bind fun _ =>
      avoids_insertVersionIllustration _ _

theorem avoids_insertFaceIllustration (faceId : String) (face : CardFace) :
    Avoids versionTaken (art.insertFaceIllustration faceId face) := by
  rw [Art.insertFaceIllustration]
  split
  next => exact avoids_pure
  next =>
    refine (avoids_option_forM (avoids_varchar 255) face.artist).bind fun _ => ?_
    split
    next => exact avoids_error (by decide)
    next => exact avoids_error (by decide)
    next => exact (avoids_insertIllustrationArtist _ _).bind fun _ => avoids_pure

theorem avoids_insertFace (cardId versionId : String) (state : Cards × Art) (face : CardFace) :
    Avoids versionTaken (insertFace uuids cardId versionId state face) := by
  have hface : Avoids versionTaken (state.2.insertFace uuids versionId face) := by
    refine (avoids_option_forM (fun index => avoids_check (by decide)) face.faceIndex).bind
      fun _ => ?_
    split <;> exact avoids_insertFaceIllustration _ _
  exact hface.bind fun _ => (avoids_insertTypeLine _ _ _ _).bind fun _ => avoids_pure

theorem avoids_insertTypesAndArt (cardId versionId : String) :
    Avoids versionTaken
      (insertTypesAndArt uuids card cardId versionId cards versions art) := by
  rw [insertTypesAndArt]
  split
  next => exact (avoids_insertTypeLine _ _ _ _).bind fun _ =>
      (avoids_insertSingleFaced versionId).bind fun _ => avoids_pure
  next => exact (avoids_foldlM (avoids_insertFace cardId versionId)).bind fun _ => avoids_pure

theorem avoids_insertCard : Avoids versionTaken (cards.insertCard uuids card) :=
  (avoids_option_forM (avoids_varchar 50) card.manaCost).bind fun _ => avoids_pure

theorem avoids_insertGames (versionId : String) :
    Avoids versionTaken (versions.insertGames card versionId) :=
  (avoids_forM_varchar 20 card.games).bind fun _ => avoids_pure

theorem avoids_insertColors (cardId : String) :
    Avoids versionTaken (cards.insertColors card cardId) :=
  (avoids_forM_varchar 20 card.colors).bind fun _ => avoids_pure

theorem avoids_insertLegalities (cardId : String) :
    Avoids versionTaken (cards.insertLegalities card cardId) := by
  refine Avoids.bind (avoids_forM fun legal => ?_) fun _ => avoids_pure
  exact (avoids_varchar 20 legal.2).bind fun _ => avoids_varchar 20 legal.1

theorem avoids_insertFullCardVersion (catalog : Catalog) :
    Avoids versionTaken (insertFullCardVersion uuids card catalog) := by
  rw [insertFullCardVersion]
  refine avoids_insertCard.bind fun cards => ?_
  refine (avoids_insertVersion catalog.sets _).bind fun versions => ?_
  refine (avoids_insertTypesAndArt _ _).bind fun typed => ?_
  refine (avoids_insertGames _).bind fun gamed => ?_
  refine (avoids_insertColors _).bind fun colored => ?_
  refine (avoids_insertKeywords _).bind fun keyed => ?_
  exact (avoids_insertLegalities _).bind fun _ => avoids_pure

end Statements

theorem avoids_importCard (uuids : Uuids) (catalog : Catalog) (card : CreateCard) :
    Avoids versionTaken (importCard uuids catalog card) := by
  refine Avoids.bind ?_ fun sent => avoids_insertFullCardVersion catalog
  rw [CreateCard.modelDumpForSql]
  split
  next => exact avoids_error (by decide)
  next => exact avoids_ok

/-! ## The counts of cards -/

/-- A card counts once, as inserted or as failed. -/
theorem counted_processed (uuids : Uuids) (catalog : Catalog) (card : CreateCard)
    (reply : CardsReply) :
    (reply.processed (importCard uuids catalog card) card.cardName).successfulInserts +
      (reply.processed (importCard uuids catalog card) card.cardName).failedInserts =
        reply.successfulInserts + reply.failedInserts + 1 := by
  cases hresult : importCard uuids catalog card with
  | ok result => exact Nat.add_right_comm _ _ _
  | error error =>
    have hne : error ≠ .unique "card_version_unique_per_print" := by
      rintro rfl
      exact avoids_importCard uuids catalog card hresult
    rw [CardsReply.processed, if_neg hne]
    exact (Nat.add_assoc _ _ _).symm

theorem counted_insertBatchCardVersions (uuids : Uuids) (catalog : Catalog)
    (cards : List CreateCard) :
    (insertBatchCardVersions uuids catalog cards).1.successfulInserts +
      (insertBatchCardVersions uuids catalog cards).1.failedInserts = cards.length := by
  have hfold : ∀ (reply : CardsReply) (catalog : Catalog),
      let after := (cards.foldl (fun state card =>
        let result := importCard uuids state.2 card
        (state.1.processed result card.cardName, (result.toOption.map Prod.snd).getD state.2))
        (reply, catalog)).1
      after.successfulInserts + after.failedInserts =
        reply.successfulInserts + reply.failedInserts + cards.length := by
    induction cards with
    | nil => exact fun reply catalog => rfl
    | cons card rest ih =>
        intro reply catalog
        refine (ih _ _).trans ?_
        rw [counted_processed, List.length_cons, Nat.add_assoc _ 1, Nat.add_comm 1]
  exact (hfold _ _).trans (Nat.zero_add _)

end AutoMana.CardCatalog
