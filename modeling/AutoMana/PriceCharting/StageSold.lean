import AutoMana.Ebay.Schema
import AutoMana.Json
import AutoMana.Staging.Load

/-!
# stage_sold

PriceCharting's scraped sales are staged for promotion. A sale with a date and a price, of
a product that is matched to a card, is accepted; its item id is a digest of the product,
the date, the price, and the title, and a sale whose id is there already is not inserted.
-/

namespace AutoMana.PriceCharting

open Relational Pricing Ebay
open Staging (IdSupply ensureProducts productLookup)

/-! ## Conditions -/

/-- What the engine of the regular expressions decides of characters, ignoring case. -/
structure Re where
  isWord : Char → Bool
  isSpace : Char → Bool
  sameLetter : Char → Char → Bool

namespace Re

/-- What follows a word. -/
def afterWord (re : Re) : List Char → List Char → Option (List Char)
  | [], text => some text
  | c :: word, d :: text => if re.sameLetter c d then re.afterWord word text else none
  | _ :: _, [] => none

/-- What follows words with any space between them. -/
def afterWords (re : Re) : List String → List Char → Option (List Char)
  | [], text => some text
  | word :: words, text =>
    (re.afterWord word.toList (text.dropWhile re.isSpace)).bind (re.afterWords words)

/-- What follows a phrase. -/
def afterPhrase (re : Re) : List String → List Char → Option (List Char)
  | [], text => some text
  | word :: words, text => (re.afterWord word.toList text).bind (re.afterWords words)

/-- `\b(phrase|phrase)\b` is found, where the text so far ends inside a word or not. -/
def search (re : Re) (phrases : List (List String)) : Bool → List Char → Bool
  | _, [] => false
  | inWord, c :: text =>
    (!inWord && phrases.any fun phrase =>
      (re.afterPhrase phrase (c :: text)).any fun rest => !rest.head?.any re.isWord) ||
    re.search phrases (re.isWord c) text

end Re

/-- `_COND_PATTERNS` -/
def condPatterns : List (List (List String) × Nat) := [
  ([["near", "mint"], ["nm"]], 1),
  ([["lightly", "played"], ["lp"]], 2),
  ([["moderately", "played"], ["mp"]], 3),
  ([["heavily", "played"], ["hp"]], 4),
  ([["damaged"], ["dmg"], ["poor"]], 5)]

/-- `_GRADE_CONDITION` -/
def gradeCondition : List (String × Nat) :=
  [("grade7", 7), ("grade8", 8), ("grade9", 9), ("psa10", 10)]

/-- `SOURCE_TO_MARKETPLACE` -/
def sourceToMarketplace : List (String × String) :=
  [("ebay", "EBAY-US"), ("tcgplayer", "TCGPLAYER")]

def parseCondition (re : Re) (listingTitle : String) (grade : Json) : Option Nat :=
  if grade.isStr "ungraded" then
    some (((condPatterns.find? fun pattern =>
      re.search pattern.1 false listingTitle.toList).map Prod.snd).getD 1)
  else
    match grade with
    | .str grade => some ((gradeCondition.lookup grade).getD 1)
    | other => if other.hashable then some 1 else none

def marketplaceForSource (source : Json) : Option String :=
  match source with
  | .str source => some ((sourceToMarketplace.lookup source).getD "PRICECHARTING")
  | other => if other.hashable then some "PRICECHARTING" else none

/-! ## Accepted sales -/

/-- A date of a sale, and its `isoformat()`. -/
structure SoldAt where
  timestamp : Timestamp
  isoformat : String
deriving DecidableEq, Repr

structure Parsers where
  toStr : Json → String
  re : Re
  /-- A date in UTC; `none` when parsing raises. -/
  parseSoldAt : Json → Option SoldAt
  /-- `hashlib.sha1(raw.encode()).hexdigest()[:12]` -/
  digest : String → String

/-- A matched row of `pricecharting_card_map`. -/
structure CardMatch where
  cardVersionId : CardVersionId
  finishId : Option Nat

structure AcceptedSale where
  itemId : String
  productId : String
  cardVersionId : CardVersionId
  title : String
  priceCents : Int
  currency : String
  conditionId : Nat
  finishId : Option Nat
  languageId : Nat
  soldAt : SoldAt
  marketplaceId : String

def buildItemId (parsers : Parsers) (productId : String) (soldAt : SoldAt) (priceCents : Int)
    (title : String) : String :=
  "pc-" ++ parsers.digest
    (productId ++ "-" ++ soldAt.isoformat ++ "-" ++ toString priceCents ++ "-" ++ title)

def str? : Json → Option String
  | .str text => some text
  | _ => none

def int? : Json → Option Int
  | .number units 0 => some units
  | _ => none

/-- The row of a sale, which may be dropped; `none` when the sale cannot be staged. -/
def acceptedSale? (parsers : Parsers) (productId : String) (cardMatch : CardMatch) (sale : Json) :
    Option (Option AcceptedSale) := do
  let date ← sale.get? "sold_at" .null
  let title ← sale.get? "title" (.str "")
  let grade ← sale.get? "grade" (.str "ungraded")
  let source ← sale.get? "source" (.str "unknown")
  let price ← sale.get? "price_cents" .null
  match parsers.parseSoldAt date, price with
  | none, _ => return none
  | _, .null => return none
  | some soldAt, price => do
    let title ← str? title
    let priceCents ← int? price
    let conditionId ← parseCondition parsers.re title grade
    let marketplaceId ← marketplaceForSource source
    return some {
      itemId := buildItemId parsers productId soldAt priceCents title
      productId
      cardVersionId := cardMatch.cardVersionId
      title
      priceCents
      currency := "USD"
      conditionId
      finishId := cardMatch.finishId
      languageId := 1
      soldAt
      marketplaceId }

/-- What a `for` goes through; `none` when the value is not iterable, or its items are no
dictionaries. -/
def items? : Json → Option (List Json)
  | .list items => some items
  | .str "" => some []
  | .dict [] => some []
  | _ => none

/-- The accepted sales of a product; `none` when reading one raises. -/
def productSales? (parsers : Parsers) (catalog : Table String CardMatch)
    (product : String × Json) : Option (List AcceptedSale) :=
  match catalog.get? product.1 with
  | none => some []
  | some cardMatch => do
    let sales ← (product.2.get? "sales" (.list [])).bind items?
    (sales.mapM (acceptedSale? parsers product.1 cardMatch)).map List.reduceOption

/-- `build_accepted_sales`; `none` when it raises. -/
def buildAcceptedSales (parsers : Parsers) (salesProducts : Json)
    (catalog : Table String CardMatch) : Option (List AcceptedSale) :=
  match salesProducts with
  | .dict products => (products.mapM (productSales? parsers catalog)).map List.flatten
  | other => if other.truthy then none else some []

/-! ## Staging -/

/-- A row of `pricecharting_card_map`. -/
structure CardMapRow where
  cardVersionId : Option CardVersionId
  finishId : Option Nat

/-- `fetch_matched_map` -/
def fetchMatchedMap (cardMap : Table String CardMapRow) : Table String CardMatch :=
  cardMap.filterMapValues fun _ row => row.cardVersionId.map (⟨·, row.finishId⟩)

structure StageTables where
  cardMap : Table String CardMapRow
  products : Products
  scrapedSold : Table String ScrapedSold

/-- The files that exist, and the document of each, if it is one. -/
abbrev Storage := String → Option (Option Json)

structure StageCall where
  parsers : Parsers
  supply : IdSupply
  /-- The id of the price source `pricecharting`. -/
  sourceId : SourceId
  storage : Storage

/-- The accepted sales of a set, if it has a sales file; `none` when reading it raises. -/
def setSales? (call : StageCall) (catalog : Table String CardMatch) (setInfo : Json) :
    Option (Option (List AcceptedSale)) := do
  let uid ← setInfo.item? "uid"
  match call.storage ("sales/" ++ call.parsers.toStr uid ++ ".json") with
  | none => return none
  | some document => do
    let salesProducts ← (← document).get? "products" (.dict [])
    (buildAcceptedSales call.parsers salesProducts catalog).map some

/-- The accepted sales of each set with a sales file. -/
def collectSales (call : StageCall) (catalog : Table String CardMatch) (sets : Option Json) :
    Option (List (List AcceptedSale)) := do
  let pcSets ← ((← sets).get? "sets" (.list [])).bind items?
  (pcSets.mapM (setSales? call catalog)).map List.reduceOption

/-- The row of a sale; `none` when a check of the table refuses it. -/
def scrapedRow? (sale : AcceptedSale) (spid : SourceProductId) : Option ScrapedSold := do
  let priceCents ← cents? sale.priceCents
  let finishId ← sale.finishId
  return {
    title := sale.title
    sourceProductId := some spid
    priceCents
    currency := sale.currency
    marketplaceId := sale.marketplaceId
    conditionId := some sale.conditionId
    finishId
    languageId := sale.languageId
    soldAt := sale.soldAt.timestamp
    promotedToObs := false }

/-- `cv_to_spid.get(card)` -/
def cvToSpid (call : StageCall) (products : Products) (card : CardVersionId) :
    Option SourceProductId :=
  (productLookup products call.sourceId card).head?.map Prod.snd

/-- A turn of the insert loop. -/
def insertSale (call : StageCall) (products : Products) (scrapedSold : Table String ScrapedSold)
    (sale : AcceptedSale) : Option (Table String ScrapedSold) :=
  match cvToSpid call products sale.cardVersionId with
  | none => some scrapedSold
  | some spid => (scrapedRow? sale spid).map (insertScrapedSold scrapedSold sale.itemId)

structure StageReport where
  accepted : Nat
  inserted : Nat
  sets : Nat
  sourceProducts : Nat
  skippedNoSourceProduct : Option Nat

/-- The source products and the rows of the accepted sales. -/
def stageAccepted (call : StageCall) (tables : StageTables) (sets : Nat)
    (accepted : List AcceptedSale) : Option (StageTables × StageReport) :=
  if accepted.isEmpty then some (tables, ⟨0, 0, sets, 0, none⟩)
  else do
    let cvIds := accepted.map (·.cardVersionId)
    let products ← ensureProducts call.supply call.sourceId cvIds tables.products
    let scrapedSold ← accepted.foldlM (insertSale call products) tables.scrapedSold
    let isKnown := fun card => (cvToSpid call products card).isSome
    return ({ tables with products, scrapedSold }, {
      accepted := accepted.length
      inserted := cvIds.countP isKnown
      sets
      sourceProducts := cvIds.dedup.countP isKnown
      skippedNoSourceProduct := some (cvIds.countP (!isKnown ·)) })

/-- `stage_sold`; `none` when it raises, and nothing is committed. -/
def stageSold (call : StageCall) (tables : StageTables) : Option (StageTables × StageReport) :=
  match call.storage "sets.json" with
  | none => some (tables, ⟨0, 0, 0, 0, none⟩)
  | some sets =>
    if (fetchMatchedMap tables.cardMap).rows.isEmpty then some (tables, ⟨0, 0, 0, 0, none⟩)
    else
      (collectSales call (fetchMatchedMap tables.cardMap) sets).bind fun salesBySet =>
        stageAccepted call tables salesBySet.length salesBySet.flatten

end AutoMana.PriceCharting
