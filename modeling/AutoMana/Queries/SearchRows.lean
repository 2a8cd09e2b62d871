import AutoMana.Queries.CardSearch
import AutoMana.Relational.Joins
import AutoMana.Relational.TiedPages
import Mathlib.Algebra.Order.Ring.Rat

/-!
# The answers of a card search

The rows of a search are those of the card view that pass its filters, with what is joined to them.
Collapsed, each card shows one version for each set. Then the rows are listed in their order and a
page is cut; another query counts them.
-/

namespace AutoMana.Queries

open Relational

/-- A row of `v_card_versions_complete`. The artist of an illustration may be missing. -/
structure CardView where
  uniqueCardId : String
  cardName : String
  rarityName : String
  setId : String
  setName : String
  setCode : String
  cmc : Option ℤ
  oracleText : Option String
  promoTypes : List String
  collectorNumber : Option String
  isDigital : Option Bool
  colorIdentity : List String
  types : List String
  frameEffects : List String
  layoutName : String
  illustrationArtists : List (Option String)
  legalities : Table String String
  searchVector : String

/-- The tables that a search reads. -/
structure SearchTables where
  /-- The view has a unique index on `card_version_id`. -/
  cards : Table String CardView
  /-- `released_at` of each set, as a day. -/
  sets : Table String ℤ
  /-- `image_uris->>'normal'` of each version that has an illustration. -/
  illustrations : Table String (Option String)
  /-- `price` of each version. -/
  sparks : Table String ℚ
  /-- `card_version_id` and `finish_id` -/
  versionFinishes : List (String × ℕ)
  finishes : Table ℕ String

/-- What the database and Python do with texts. A `real` is given as the number that it is. -/
structure SearchRules where
  collation : OrderBy String
  ids : OrderBy String
  /-- `str.upper` -/
  upper : String → String
  /-- `UPPER` -/
  sqlUpper : String → String
  /-- `LOWER` -/
  lower : String → String
  /-- `text ILIKE pattern` -/
  ilike : String → String → Bool
  /-- `word_similarity` -/
  wordSimilarity : String → String → ℚ
  /-- `vector @@ websearch_to_tsquery('english', text)` -/
  matchesText : String → String → Bool
  /-- `ts_rank_cd(vector, websearch_to_tsquery('english', text))` -/
  tsRankCd : String → String → ℚ
  /-- The sum of two `real` numbers. -/
  addReal : ℚ → ℚ → ℚ
  /-- The day of a date. -/
  day : String → ℤ

/-- A row of a search, before the prices are added to it. -/
structure SearchRow where
  cardVersionId : String
  card : CardView
  releasedAt : ℤ
  imageNormal : Option String
  sortPrice : Option ℚ

/-- `(unique_card_id, set_code)` -/
def SearchRow.pair (row : SearchRow) : String × String := (row.card.uniqueCardId, row.card.setCode)

/-! ## Filters -/

/-- The value that a filter is given. -/
def filterValue : Sql Value → Option Value
  | [] => none
  | .slot value :: _ => some value
  | .text _ :: rest => filterValue rest

section Filters

variable (tables : SearchTables) (rules : SearchRules)

/-- What the filter of an argument asks of a row. -/
def SearchRow.meets (row : SearchRow) : Field → Option Value → Bool
  | .name, some (.text name) => decide
    (3 / 5 < rules.wordSimilarity (rules.lower name) (rules.lower row.card.cardName))
  | .color, some (.text color) => decide (color ∈ row.card.colorIdentity)
  | .color, none => decide (1 < row.card.colorIdentity.length)
  | .rarity, some (.text pattern) => rules.ilike row.card.rarityName pattern
  | .setName, some (.text pattern) => rules.ilike row.card.setName pattern
  | .setCode, some (.text setCode) => decide (row.card.setCode = setCode)
  | .uniqueCardId, some (.text id) => decide (row.card.uniqueCardId = id)
  | .manaCost, some (.int cmc) => decide (row.card.cmc = some cmc)
  | .digital, some (.bool digital) => decide (row.card.isDigital = some digital)
  | .releasedAfter, some (.text date) => decide (rules.day date < row.releasedAt)
  | .releasedBefore, some (.text date) => decide (row.releasedAt < rules.day date)
  | .cardType, some (.text cardType) => decide (cardType ∈ row.card.types)
  | .finish, some (.text code) => tables.versionFinishes.any fun stored =>
    decide (stored.1 = row.cardVersionId ∧
      (tables.finishes.get? stored.2).map rules.sqlUpper = some code)
  | .frameEffect, some (.text effect) => decide (effect ∈ row.card.frameEffects)
  | .oracleText, some (.text text) => rules.matchesText row.card.searchVector text
  | .artist, some (.text artist) => decide (some artist ∈ row.card.illustrationArtists)
  | .format, some (.text format) => decide (row.card.legalities.get? format = some "legal")
  | .layout, some (.text layout) => decide (row.card.layoutName = layout)
  | .layout, none => decide (row.card.layoutName ∉ ["token", "double_faced_token"])
  | .promoType, some (.texts promoTypes) => row.card.promoTypes.any fun promoType =>
    decide (promoType ∈ promoTypes)
  | _, _ => false

/-- The `WHERE` clause. -/
def SearchRow.passes (args : SearchArgs) (row : SearchRow) : Bool :=
  (args.filters rules.upper).all fun filter =>
    row.meets tables rules filter.1 (filterValue filter.2)

/-- The rows of `from_clause` under `where_clause`, in no order of their own. -/
def matchingRows (args : SearchArgs) : List SearchRow :=
  let inSets := innerJoin (fun row => some row.2.setId)
    (fun (id, card) releasedAt => (id, card, releasedAt)) tables.cards.rows tables.sets.rows
  let illustrated := outerJoin (fun row => some row.1)
    (fun (id, card, releasedAt) image => (id, card, releasedAt, image.join)) inSets
    tables.illustrations.rows
  let priced := outerJoin (fun row => some row.1)
    (fun (id, card, releasedAt, image) price => SearchRow.mk id card releasedAt image price)
    illustrated tables.sparks.rows
  priced.filter (SearchRow.passes tables rules args)

end Filters

/-! ## Orders -/

section Orders

variable (rules : SearchRules) (args : SearchArgs)

/-- A column in ascending order. -/
def columnOrder : SortKey → OrderBy SearchRow
  | .releasedAt => (OrderBy.linear ℤ).on (·.releasedAt)
  | .price => (OrderBy.linear ℚ).nullsLast.on (·.sortPrice)
  | .cardName => rules.collation.on (·.card.cardName)
  | .cmc => (OrderBy.linear ℤ).nullsLast.on (·.card.cmc)
  | .rarityName => rules.collation.on (·.card.rarityName)
  | .setName => rules.collation.on (·.card.setName)
  | .setCode => rules.collation.on (·.card.setCode)

/-- `order_clause` and `outer_order`: by relevance when something is searched for. Prices have
`NULLS LAST` in both directions. -/
def pageOrder : OrderBy SearchRow :=
  let similarity := fun name (row : SearchRow) =>
    rules.wordSimilarity (rules.lower name) (rules.lower row.card.cardName)
  let rank := fun text (row : SearchRow) => rules.tsRankCd row.card.searchVector text
  match given args.name, given args.oracleText with
  | some name, some text =>
    (OrderBy.linear ℚ).desc.on fun row => rules.addReal (similarity name row) (rank text row)
  | some name, none => (OrderBy.linear ℚ).desc.on (similarity name)
  | none, some text => (OrderBy.linear ℚ).desc.on (rank text)
  | none, none =>
    match args.sortKey with
    | .price =>
      ((OrderBy.linear ℚ).directed (args.descending rules.upper)).nullsLast.on (·.sortPrice)
    | column => (columnOrder rules column).directed (args.descending rules.upper)

/-- `ORDER BY v.unique_card_id, v.set_code, cardinality(v.promo_types), v.collector_number` -/
def versionOrder : OrderBy SearchRow :=
  (((rules.ids.on fun row : SearchRow => row.card.uniqueCardId).thenBy
    (rules.collation.on (·.card.setCode))).thenBy
    ((OrderBy.linear ℕ).on (·.card.promoTypes.length))).thenBy
    (rules.collation.nullsLast.on (·.card.collectorNumber))

end Orders

/-! ## The search -/

section Search

variable (tables : SearchTables) (rules : SearchRules) (args : SearchArgs)

/-- What the database may answer to the page's query without its limit. -/
def Answer (answer : List SearchRow) : Prop :=
  if args.collapse then
    ∃ versions, (versionOrder rules).Sorts (matchingRows tables rules args) versions ∧
      (pageOrder rules args).Sorts (distinctOn SearchRow.pair versions) answer
  else (pageOrder rules args).Sorts (matchingRows tables rules args) answer

/-- The count query. -/
def totalCount : ℕ :=
  if args.collapse then ((matchingRows tables rules args).map SearchRow.pair).dedup.length
  else (matchingRows tables rules args).length

structure SearchResult where
  cards : List SearchRow
  totalCount : ℕ

/-- What `search` may return; a negative limit or offset raises. -/
def Returns (result : SearchResult) : Prop :=
  0 ≤ args.limit ∧ 0 ≤ args.offset ∧ ∃ answer, Answer tables rules args answer ∧
    result = ⟨page answer args.limit.toNat args.offset.toNat, totalCount tables rules args⟩

end Search

end AutoMana.Queries
