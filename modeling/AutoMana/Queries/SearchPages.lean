import AutoMana.Queries.SearchRows
import AutoMana.Relational.TiedPages

/-!
# The pages of a card search

No sort key of a search is unique, so every page may be cut from a list of its own. The pages are a
partition of what matches exactly when no tie crosses the start of a page.
-/

namespace AutoMana.Queries

open Relational

/-- What a row of the result stands for. -/
inductive Shown where
  | version (cardVersionId : String)
  | versions (pair : String × String)
  deriving DecidableEq

def SearchRow.shown (collapse : Bool) (row : SearchRow) : Shown :=
  if collapse then .versions row.pair else .version row.cardVersionId

/-- The search of a page. -/
def SearchArgs.atPage (args : SearchArgs) (limit index : ℕ) : SearchArgs :=
  { args with limit := limit, offset := (index * limit : ℕ) }

section Claimed

variable (tables : SearchTables) (rules : SearchRules) (args : SearchArgs)

/-- The version is in the view and in a set, and passes the filters. -/
structure Matches (row : SearchRow) : Prop where
  card : tables.cards.get? row.cardVersionId = some row.card
  releasedAt : tables.sets.get? row.card.setId = some row.releasedAt
  imageNormal : row.imageNormal = (tables.illustrations.get? row.cardVersionId).join
  sortPrice : row.sortPrice = tables.sparks.get? row.cardVersionId
  passes : row.passes tables rules args = true

/-- Every matching version, or one version of every matching pair, is listed exactly once. -/
structure ListsOnce (cards : List SearchRow) : Prop where
  once : (cards.map (SearchRow.shown args.collapse)).Nodup
  all : ∀ row, Matches tables rules args row →
    row.shown args.collapse ∈ cards.map (SearchRow.shown args.collapse)
  only : ∀ row ∈ cards, Matches tables rules args row

/-- How many versions match, or how many pairs. -/
def matchingCount : ℕ :=
  (groupsOf (SearchRow.shown args.collapse) (matchingRows tables rules args)).length

/-- The pages that follow each other list what matches exactly once, and each of them has its
number, whatever the database answers to the queries. -/
def PagesRight (limit : ℕ) : Prop :=
  ∀ results : ℕ → SearchResult,
    (∀ index, Returns tables rules (args.atPage limit index) (results index)) →
      ∀ count, matchingCount tables rules args ≤ count * limit →
        let cards := (List.range count).flatMap fun index => (results index).cards
        ListsOnce tables rules args cards ∧ ∀ index, (results index).totalCount = cards.length

/-- The rows that a result may show: of the versions of a pair those that are listed first. -/
def shownRows : List SearchRow :=
  if args.collapse then
    firstRows SearchRow.pair (versionOrder rules) (matchingRows tables rules args)
  else matchingRows tables rules args

/-- No tie crosses the start of a page: what is listed before it comes strictly before the rest. -/
def NoTieCrosses (limit : ℕ) : Prop :=
  ∀ index, index * limit < matchingCount tables rules args →
    Splits (SearchRow.shown args.collapse) (pageOrder rules args) (shownRows tables rules args)
      (index * limit)

end Claimed

variable {tables : SearchTables} {rules : SearchRules} {args : SearchArgs}

/-! ## The rows that match -/

variable (tables rules args) in
theorem matchingRows_eq : matchingRows tables rules args =
    (tables.cards.rows.filterMap fun entry => (tables.sets.get? entry.2.setId).map fun releasedAt =>
      SearchRow.mk entry.1 entry.2 releasedAt (tables.illustrations.get? entry.1).join
        (tables.sparks.get? entry.1)).filter (SearchRow.passes tables rules args) := by
  simp only [matchingRows, innerJoin_rows, outerJoin_rows, List.map_filterMap, Option.map_map,
    Option.bind_some]
  rfl

theorem mem_matchingRows {row : SearchRow} :
    row ∈ matchingRows tables rules args ↔ Matches tables rules args row := by
  rw [matchingRows_eq, List.mem_filter, List.mem_filterMap]
  constructor
  · rintro ⟨⟨⟨id, card⟩, hcard, hrow⟩, hpasses⟩
    obtain ⟨releasedAt, hreleased, rfl⟩ := Option.map_eq_some_iff.mp hrow
    exact ⟨(Table.mem_rows_iff _ _ _).mp hcard, hreleased, rfl, rfl, hpasses⟩
  · rintro ⟨hcard, hreleased, himage, hprice, hpasses⟩
    refine ⟨⟨(row.cardVersionId, row.card), (Table.mem_rows_iff _ _ _).mpr hcard, ?_⟩, hpasses⟩
    rw [hreleased, ← himage, ← hprice]
    rfl

/-- Neither join multiplies a version. -/
theorem nodup_matchingRows :
    ((matchingRows tables rules args).map SearchRow.cardVersionId).Nodup := by
  rw [matchingRows_eq]
  refine List.Nodup.sublist (List.filter_sublist.map _) ?_
  rw [List.map_filterMap]
  simp only [Option.map_map, Function.comp_def]
  rw [List.Nodup, List.pairwise_filterMap]
  refine (List.pairwise_map.mp tables.cards.nodup_keys).imp ?_
  intro entry other hne id hid otherId hother hsame
  obtain ⟨_, -, rfl⟩ := Option.map_eq_some_iff.mp hid
  obtain ⟨_, -, rfl⟩ := Option.map_eq_some_iff.mp hother
  exact hne hsame

theorem shownRows_subset {row : SearchRow} (hrow : row ∈ shownRows tables rules args) :
    row ∈ matchingRows tables rules args := by
  rw [shownRows] at hrow
  split_ifs at hrow
  · exact (mem_firstRows.mp hrow).1
  · exact hrow

/-! ## Collapsed or not -/

theorem shown_true : SearchRow.shown true = Shown.versions ∘ SearchRow.pair := rfl

theorem shown_false : SearchRow.shown false = Shown.version ∘ SearchRow.cardVersionId := rfl

theorem versions_injective : Function.Injective Shown.versions := fun _ _ => Shown.versions.inj

theorem version_injective : Function.Injective Shown.version := fun _ _ => Shown.version.inj

/-- The database answers with one of the rows for each thing that is shown, in order. -/
theorem answer_iff {answer : List SearchRow} : Answer tables rules args answer ↔
    Answers (SearchRow.shown args.collapse) (pageOrder rules args) (shownRows tables rules args)
      answer := by
  rw [Answer, shownRows]
  cases args.collapse with
  | true =>
    rw [shown_true, answers_comp_iff versions_injective, if_pos rfl, if_pos rfl,
      answers_firstRows_iff]
  | false =>
    rw [shown_false, answers_comp_iff version_injective, if_neg (by decide), if_neg (by decide),
      answers_iff_sorts nodup_matchingRows]

theorem groupsOf_shownRows :
    (groupsOf (SearchRow.shown args.collapse) (shownRows tables rules args)).Perm
      (groupsOf (SearchRow.shown args.collapse) (matchingRows tables rules args)) := by
  rw [shownRows]
  cases args.collapse with
  | true =>
    rw [if_pos rfl, shown_true, groupsOf_comp versions_injective,
      groupsOf_comp versions_injective]
    refine (perm_groupsOf (List.nodup_dedup _) fun value => ?_).map _
    rw [← groupsOf, mem_groupsOf, mem_groups_firstRows]
  | false =>
    rw [if_neg (by decide)]

/-- The count query counts what matches. -/
theorem totalCount_eq : totalCount tables rules args = matchingCount tables rules args := by
  rw [totalCount, matchingCount]
  cases args.collapse with
  | true =>
    rw [if_pos rfl, shown_true, groupsOf_comp versions_injective, List.length_map, groupsOf]
  | false =>
    rw [if_neg (by decide), shown_false, groupsOf_comp version_injective, List.length_map,
      groupsOf, nodup_matchingRows.dedup, List.length_map]

/-! ## The pages -/

/-- The pages of the answers are a partition exactly when they list what matches once. -/
theorem listsOnce_iff {cards : List SearchRow}
    (hcards : ∀ row ∈ cards, row ∈ shownRows tables rules args) :
    ListsOnce tables rules args cards ↔ (cards.map (SearchRow.shown args.collapse)).Perm
      (groupsOf (SearchRow.shown args.collapse) (shownRows tables rules args)) := by
  have hmem : ∀ value, value ∈ groupsOf (SearchRow.shown args.collapse)
      (shownRows tables rules args) ↔ ∃ row, Matches tables rules args row ∧
        row.shown args.collapse = value := by
    intro value
    rw [groupsOf_shownRows.mem_iff, mem_groupsOf, List.mem_map]
    simp only [mem_matchingRows]
  constructor
  · intro hlists
    refine perm_groupsOf hlists.once fun value => Iff.trans ?_ mem_groupsOf
    rw [hmem]
    constructor
    · intro hvalue
      obtain ⟨row, hrow, rfl⟩ := List.mem_map.mp hvalue
      exact ⟨row, hlists.only row hrow, rfl⟩
    · rintro ⟨row, hmatches, rfl⟩
      exact hlists.all row hmatches
  · intro hperm
    exact {
      once := hperm.nodup_iff.mpr (List.nodup_dedup _)
      all := fun row hmatches => hperm.mem_iff.mpr ((hmem _).mpr ⟨row, hmatches, rfl⟩)
      only := fun row hrow => mem_matchingRows.mp (shownRows_subset (hcards row hrow)) }

/-- The pages are right exactly when no tie crosses the start of one. -/
theorem pages_right_iff (tables : SearchTables) (rules : SearchRules) (args : SearchArgs)
    (limit : ℕ) : PagesRight tables rules args limit ↔ NoTieCrosses tables rules args limit := by
  have hlength : (groupsOf (SearchRow.shown args.collapse) (shownRows tables rules args)).length =
      matchingCount tables rules args := groupsOf_shownRows.length_eq
  have hpartition := @pagesPartition_iff _ _ _ (SearchRow.shown args.collapse)
    (pageOrder rules args) (shownRows tables rules args) limit
  rw [PagesPartition, hlength] at hpartition
  rw [NoTieCrosses, ← hpartition]
  have hlists : ∀ {answers : ℕ → List SearchRow}, (∀ index, Answers
      (SearchRow.shown args.collapse) (pageOrder rules args) (shownRows tables rules args)
        (answers index)) → ∀ count, ListsOnce tables rules args (pagesOf answers limit count) ↔
      ((pagesOf answers limit count).map (SearchRow.shown args.collapse)).Perm
        (groupsOf (SearchRow.shown args.collapse) (shownRows tables rules args)) := by
    intro answers hanswers count
    refine listsOnce_iff fun row hrow => ?_
    obtain ⟨index, hmem⟩ := exists_of_mem_pagesOf hrow
    exact (hanswers index).candidate row hmem
  constructor
  · intro hright answers hanswers count hcount
    have hpages := hright (fun index => ⟨page (answers index) limit (index * limit),
      totalCount tables rules args⟩) (fun index => ⟨Int.natCast_nonneg _, Int.natCast_nonneg _,
        answers index, answer_iff.mpr (hanswers index), rfl⟩) count hcount
    exact (hlists hanswers count).mp hpages.1
  · intro hpartition results hreturns count hcount
    choose _ _ answers hanswers hresults using hreturns
    have hanswers := fun index => answer_iff.mp (hanswers index)
    have hcards : ((List.range count).flatMap fun index => (results index).cards) =
        pagesOf answers limit count :=
      List.flatMap_congr fun index _ => by rw [hresults]; rfl
    have hperm := hpartition answers hanswers count hcount
    dsimp only
    rw [hcards]
    refine ⟨(hlists hanswers count).mpr hperm, fun index => ?_⟩
    rw [hresults]
    change totalCount tables rules args = _
    rw [totalCount_eq, ← hlength, ← hperm.length_eq, List.length_map]

/-! ## One card in two sets -/

def boltIn (setId setName setCode : String) : CardView where
  uniqueCardId := "bolt"
  cardName := "Lightning Bolt"
  rarityName := "common"
  setId := setId
  setName := setName
  setCode := setCode
  cmc := some 1
  oracleText := none
  promoTypes := []
  collectorNumber := none
  isDigital := some false
  colorIdentity := ["Red"]
  types := ["Instant"]
  frameEffects := []
  layoutName := "normal"
  illustrationArtists := []
  legalities := .empty
  searchVector := ""

def boltTwice : SearchTables where
  cards := ⟨[("a", boltIn "s1" "Limited Edition Alpha" "lea"),
    ("b", boltIn "s2" "Limited Edition Beta" "leb")], by decide⟩
  sets := ⟨[("s1", 8617), ("s2", 8677)], by decide⟩
  illustrations := .empty
  sparks := .empty
  versionFinishes := []
  finishes := .empty

def inAlpha : SearchRow :=
  ⟨"a", boltIn "s1" "Limited Edition Alpha" "lea", 8617, none, none⟩

def inBeta : SearchRow := ⟨"b", boltIn "s2" "Limited Edition Beta" "leb", 8677, none, none⟩

/-- For a search for nothing, without a direction: of the texts only names of one length are
compared. -/
def plainRules : SearchRules where
  collation := (OrderBy.linear ℕ).on String.length
  ids := (OrderBy.linear ℕ).on String.length
  upper := id
  sqlUpper := id
  lower := id
  ilike := fun _ _ => false
  wordSimilarity := fun _ _ => 0
  matchesText := fun _ _ => false
  tsRankCd := fun _ _ => 0
  addReal := fun first second => first + second
  day := fun _ => 0

theorem matchingRows_boltTwice :
    matchingRows boltTwice plainRules default = [inAlpha, inBeta] := rfl

/-- Two pages of one row: the first query lists one version first, the second query the other. -/
theorem bolt_listed_twice : ¬ PagesRight boltTwice plainRules default 1 := by
  intro hright
  have htied : (pageOrder plainRules default).le inAlpha inBeta = true ∧
      (pageOrder plainRules default).le inBeta inAlpha = true := by decide
  let answers : ℕ → List SearchRow := fun index =>
    if index = 0 then [inAlpha, inBeta] else [inBeta, inAlpha]
  have hanswers : ∀ index, Answer boltTwice plainRules default (answers index) := by
    intro index
    dsimp only [answers]
    split_ifs
    · exact ⟨matchingRows_boltTwice ▸ .refl _, List.pairwise_pair.mpr htied.1⟩
    · exact ⟨matchingRows_boltTwice ▸ .swap _ _ _, List.pairwise_pair.mpr htied.2⟩
  let results : ℕ → SearchResult := fun index =>
    ⟨page (answers index) 1 (index * 1), totalCount boltTwice plainRules default⟩
  have hreturns : ∀ index,
      Returns boltTwice plainRules (SearchArgs.atPage default 1 index) (results index) :=
    fun index => ⟨Int.natCast_nonneg _, Int.natCast_nonneg _, answers index, hanswers index, rfl⟩
  have hcount : matchingCount boltTwice plainRules default ≤ 2 * 1 := by
    rw [matchingCount, matchingRows_boltTwice]
    decide
  have honce := (hright results hreturns 2 hcount).1.once
  have htwice : ((List.range 2).flatMap fun index => (results index).cards) =
      [inAlpha, inAlpha] := rfl
  rw [htwice] at honce
  exact absurd honce (by decide)

end AutoMana.Queries
