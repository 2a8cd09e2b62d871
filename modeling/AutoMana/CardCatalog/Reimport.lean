import AutoMana.CardCatalog.Outcome

/-!
# Cards that are imported again

The upserts of the import name one constraint each. An artist that is new by id may have the name
of another, and a version that is there may have another illustration.
-/

namespace AutoMana.CardCatalog

open Relational

section Claim

variable (uuids : Uuids) (catalog : Catalog) (card : Card)

end Claim

section Proof

variable {uuids : Uuids} {catalog : Catalog} {card : Card}

end Proof

def alpha : Sets where
  rows := .single "s" ⟨"Alpha", "lea", "core", "1993-08-05", false, false, false, none⟩
  icons := .empty

def forest : CreateCard where
  cardName := "Forest"
  cmc := 0
  manaCost := none
  reserved := false
  oracleText := ""
  setName := "Alpha"
  collectorNumber := "294"
  rarityName := "common"
  borderColor := "black"
  frameYear := "1993"
  layoutName := "normal"
  isPromo := false
  isDigital := false
  keywords := some []
  colors := ["G"]
  artist := ["Ada"]
  artistIds := ["a"]
  legalities := .single "vintage" (some "legal")
  illustrationId := some "i"
  types := ["Land"]
  supertypes := ["Basic"]
  subtypes := ["Forest"]
  games := ["paper"]
  oversized := false
  booster := true
  fullArt := false
  textless := false
  power := none
  toughness := none
  loyalty := none
  defense := none
  promoTypes := []
  variation := false
  cardFaces := []
  imageUris := .dict []
  finishes := ["nonfoil"]
  frameEffects := []
  lang := some "en"
  scryfallId := some "f"
  oracleId := none
  multiverseIds := []
  tcgplayerId := none
  tcgplayerEtchedId := none
  cardmarketId := none
  cardBackId := none
  setId := "s"

/-- The error of an import, or the illustration of the version after it. -/
def imported (catalog : Catalog) (card : CreateCard) : Except Violation (Option String) := do
  let (versionId, next) ← importCard .longer catalog card
  pure ((next.art.versionIllustrations.get? versionId).map VersionIllustration.illustrationId)

end AutoMana.CardCatalog
