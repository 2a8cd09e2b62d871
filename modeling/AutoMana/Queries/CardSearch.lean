import AutoMana.Relational.Placeholders

/-!
# The queries of a card search

`CardReferenceRepository.search` collects its conditions twice: once for the page, the count and
the promo types, and once without the rarity for the rarities. The page orders by relevance with the
placeholders of the name and of the oracle text. The texts are without their line breaks.
-/

namespace AutoMana.Queries

open Relational

/-- A value that is passed with a query. -/
inductive Value where
  | text (content : String)
  | int (number : Int)
  | bool (flag : Bool)
  | texts (contents : List String)
  deriving DecidableEq

/-- A text that is given and not empty. -/
def given (text : Option String) : Option String := text.filter (· ≠ "")

/-- `f"%\x7bvalue\x7d%"` -/
def likeValue (text : String) : Value := .text ("%" ++ text ++ "%")

/-! ## Arguments -/

structure SearchArgs where
  name : Option String
  colors : Option (List String)
  rarity : Option String
  setName : Option String
  setCode : Option String
  manaCost : Option Int
  digital : Option Bool
  cardType : Option String
  finish : Option String
  frameEffects : Option (List String)
  releasedAfter : Option String
  releasedBefore : Option String
  oracleText : Option String
  artist : Option String
  uniqueCardId : Option String
  format : Option String
  layout : Option String
  promoType : Option (List String)
  collapse : Bool
  limit : Int
  offset : Int
  sortBy : Option String
  sortOrder : Option String
  deriving Inhabited

/-- The arguments that filter. -/
inductive Field where
  | name
  | color
  | rarity
  | setName
  | setCode
  | uniqueCardId
  | manaCost
  | digital
  | releasedAfter
  | releasedBefore
  | cardType
  | finish
  | frameEffect
  | oracleText
  | artist
  | format
  | layout
  | promoType
  deriving DecidableEq

/-! ## Conditions -/

def nameSimilar : Template :=
  .one "word_similarity(LOWER(" "), LOWER(v.card_name)) > 0.6"

def hasColor : Template := .one "" " = ANY(v.color_identity)"

def rarityLike : Template := .one "v.rarity_name ILIKE " ""

def setNameLike : Template := .one "v.set_name ILIKE " ""

def setCodeIs : Template := .one "v.set_code = " ""

def uniqueCardIs : Template := .one "v.unique_card_id = " ""

def cmcIs : Template := .one "v.cmc = " ""

def digitalIs : Template := .one "v.is_digital = " ""

def afterDate : Template := .one "s.released_at > " ""

def beforeDate : Template := .one "s.released_at < " ""

def hasType : Template := .one "" " = ANY(v.types)"

def hasFinish : Template :=
  .one ("EXISTS (SELECT 1 FROM card_catalog.card_version_finish cvf " ++
    "JOIN card_catalog.card_finished cf ON cvf.finish_id = cf.finish_id " ++
    "WHERE cvf.card_version_id = v.card_version_id AND UPPER(cf.code) = ") ")"

def hasFrameEffect : Template := .one "" " = ANY(v.frame_effects)"

def oracleMatches : Template :=
  .one "v.search_vector @@ websearch_to_tsquery('english', " ")"

def hasArtist : Template :=
  .one ("EXISTS (SELECT 1 FROM jsonb_array_elements(v.illustrations) elem " ++
    "WHERE elem->>'artist_name' = ") ")"

def formatLegal : Template := .one "v.legalities->>" " = 'legal'"

def layoutIs : Template := .one "v.layout_name = " ""

def promoOverlaps : Template := .one "v.promo_types && " ""

def multiColor : String := "array_length(v.color_identity, 1) > 1"

def noToken : String := "v.layout_name NOT IN ('token', 'double_faced_token')"

/-! ## Filters -/

/-- The filter of an argument that is given. -/
def filterOf (field : Field) (template : Template) (value : Option Value) :
    List (Field × Sql Value) := (value.map fun value => (field, template.fill value)).toList

def colorFilter (color : String) : Sql Value :=
  if color = "Multi" then [.text multiColor] else hasColor.fill (.text color)

/-- The filters before that of the promo types. -/
def SearchArgs.baseFilters (upper : String → String) (args : SearchArgs) :
    List (Field × Sql Value) :=
  filterOf .name nameSimilar ((given args.name).map .text) ++
  (args.colors.getD []).map (fun color => (.color, colorFilter color)) ++
  filterOf .rarity rarityLike ((given args.rarity).map likeValue) ++
  filterOf .setName setNameLike ((given args.setName).map likeValue) ++
  filterOf .setCode setCodeIs ((given args.setCode).map .text) ++
  filterOf .uniqueCardId uniqueCardIs (args.uniqueCardId.map .text) ++
  filterOf .manaCost cmcIs (args.manaCost.map .int) ++
  filterOf .digital digitalIs (args.digital.map .bool) ++
  filterOf .releasedAfter afterDate ((given args.releasedAfter).map .text) ++
  filterOf .releasedBefore beforeDate ((given args.releasedBefore).map .text) ++
  filterOf .cardType hasType ((given args.cardType).map .text) ++
  filterOf .finish hasFinish ((given args.finish).map fun finish => .text (upper finish)) ++
  (args.frameEffects.getD []).map (fun effect =>
    (.frameEffect, hasFrameEffect.fill (.text effect))) ++
  filterOf .oracleText oracleMatches ((given args.oracleText).map .text) ++
  filterOf .artist hasArtist ((given args.artist).map .text) ++
  filterOf .format formatLegal ((given args.format).map .text) ++
  [(.layout, ((given args.layout).map fun layout =>
    layoutIs.fill (Value.text layout)).getD [.text noToken])]

/-- Each argument's own filter, with its value. -/
def SearchArgs.filters (upper : String → String) (args : SearchArgs) : List (Field × Sql Value) :=
  args.baseFilters upper ++
  filterOf .promoType promoOverlaps ((args.promoType.filter (· ≠ [])).map .texts)

/-! ## The texts of the queries -/

/-- The column of `ORDER BY` when nothing is searched for. -/
inductive SortKey where
  | releasedAt
  | price
  | cardName
  | cmc
  | rarityName
  | setName
  | setCode
  deriving DecidableEq

def SearchArgs.sortKey (args : SearchArgs) : SortKey :=
  match args.sortBy with
  | some "released_at" => .releasedAt
  | some "price" => .price
  | some "cmc" => .cmc
  | some "rarity_name" => .rarityName
  | some "set_name" => .setName
  | some "set_code" => .setCode
  | _ => .cardName

/-- `safe_sort_order` is `DESC`. -/
def SearchArgs.descending (upper : String → String) (args : SearchArgs) : Bool :=
  decide (upper (args.sortOrder.getD "") = "DESC")

/-- The column in the query, or in the query around it when the versions are collapsed. -/
def SortKey.column (collapse : Bool) : SortKey → String
  | .releasedAt => if collapse then "released_at" else "s.released_at"
  | .price => if collapse then "sort_price" else "psp.price"
  | .cardName => if collapse then "card_name" else "v.card_name"
  | .cmc => if collapse then "cmc" else "v.cmc"
  | .rarityName => if collapse then "rarity_name" else "v.rarity_name"
  | .setName => if collapse then "set_name" else "v.set_name"
  | .setCode => if collapse then "set_code" else "v.set_code"

section Texts

variable {α : Type} (upper : String → String) (args : SearchArgs)

/-- `order_clause` and `outer_order` -/
def orderClause (name oracle : Option α) : Sql α :=
  let table := if args.collapse then "" else "v."
  match name, oracle with
  | some name, some oracle =>
    [.text "ORDER BY (word_similarity(LOWER(", .slot name,
      .text ("), LOWER(" ++ table ++ "card_name)) + ts_rank_cd(" ++ table ++
        "search_vector, websearch_to_tsquery('english', "), .slot oracle, .text "))) DESC"]
  | some name, none =>
    [.text "ORDER BY word_similarity(LOWER(", .slot name,
      .text ("), LOWER(" ++ table ++ "card_name)) DESC")]
  | none, some oracle =>
    [.text ("ORDER BY ts_rank_cd(" ++ table ++ "search_vector, websearch_to_tsquery('english', "),
      .slot oracle, .text ")) DESC"]
  | none, none =>
    [.text ("ORDER BY " ++ args.sortKey.column args.collapse ++
      (if args.descending upper then " DESC" else " ASC") ++
      if args.sortKey = .price then " NULLS LAST" else "")]

def fromClause : String :=
  "FROM card_catalog.v_card_versions_complete v" ++
  " JOIN card_catalog.sets s ON s.set_id = v.set_id" ++
  " LEFT JOIN card_catalog.card_version_illustration cvi" ++
  " ON cvi.card_version_id = v.card_version_id" ++
  " LEFT JOIN pricing.mv_card_price_spark psp ON psp.card_version_id = v.card_version_id "

/-- `base_select` -/
def baseSelect (oracle : Option α) : String :=
  "v.card_version_id, v.unique_card_id, v.card_name, v.rarity_name, v.set_name, v.set_code, " ++
  "v.cmc, v.oracle_text, v.promo_types, v.collector_number, v.is_digital AS digital, " ++
  "v.collector_number, v.promo_types, s.released_at, " ++
  "cvi.image_uris->>'normal' AS image_normal, psp.price AS sort_price" ++
  if args.collapse && oracle.isSome then ", v.search_vector" else ""

def pageText (conditions : List (Sql α)) (name oracle : Option α) (limit offset : α) : Sql α :=
  let rest := orderClause upper args name oracle ++
    [.text " LIMIT ", .slot limit, .text " OFFSET ", .slot offset]
  if args.collapse then
    .text ("SELECT * FROM (SELECT DISTINCT ON (v.unique_card_id, v.set_code) " ++
      baseSelect args oracle ++
      ", COUNT(*) OVER (PARTITION BY v.unique_card_id, v.set_code) AS version_count " ++
      fromClause) ::
    Sql.whereClause conditions ++
    .text (" ORDER BY v.unique_card_id, v.set_code, cardinality(v.promo_types) ASC NULLS LAST, " ++
      "v.collector_number ASC NULLS LAST) _collapsed ") :: rest
  else
    .text ("SELECT " ++ baseSelect args oracle ++ " " ++ fromClause) ::
    Sql.whereClause conditions ++ .text " " :: rest

def countText (conditions : List (Sql α)) : Sql α :=
  if args.collapse then
    .text ("SELECT COUNT(*) AS total_count FROM (SELECT DISTINCT v.unique_card_id, v.set_code " ++
      fromClause) :: Sql.whereClause conditions ++ [.text ") _c"]
  else .text ("SELECT COUNT(*) AS total_count " ++ fromClause) :: Sql.whereClause conditions

def promoFacetText (conditions : List (Sql α)) : Sql α :=
  .text ("SELECT array_agg(DISTINCT pt ORDER BY pt) AS promo_type_facets " ++
    "FROM card_catalog.v_card_versions_complete v " ++
    "JOIN card_catalog.sets s ON s.set_id = v.set_id " ++
    "CROSS JOIN LATERAL unnest(v.promo_types) AS t(pt) ") :: Sql.whereClause conditions

def rarityFacetText (conditions : List (Sql α)) : Sql α :=
  .text ("SELECT array_agg(DISTINCT v.rarity_name ORDER BY v.rarity_name) AS rarity_facets " ++
    "FROM card_catalog.v_card_versions_complete v " ++
    "JOIN card_catalog.sets s ON s.set_id = v.set_id ") :: Sql.whereClause conditions

end Texts

/-! ## What the search builds -/

/-- The two lists of conditions, and the placeholders of the name and of the oracle text. -/
structure SearchBuilder where
  all : Builder Value
  rarityFacet : Builder Value
  nameParamIdx : Option Nat
  oracleParamIdx : Option Nat

namespace SearchBuilder

def start : SearchBuilder := ⟨.start, .start, none, none⟩

variable (builder : SearchBuilder)

def both (template : Template) (value : Value) : SearchBuilder :=
  { builder with
    all := builder.all.add template value
    rarityFacet := builder.rarityFacet.add template value }

def bothText (text : String) : SearchBuilder :=
  { builder with
    all := builder.all.addText text
    rarityFacet := builder.rarityFacet.addText text }

def bothGiven (template : Template) (value : Option Value) : SearchBuilder :=
  value.elim builder (builder.both template)

def byName (name : Option String) : SearchBuilder :=
  match given name with
  | none => builder
  | some name =>
    { builder.both nameSimilar (.text name) with nameParamIdx := some builder.all.counter }

/-- `Multi` stands for cards of two colors or more. -/
def byColor (color : String) : SearchBuilder :=
  if color = "Multi" then builder.bothText multiColor else builder.both hasColor (.text color)

/-- The rarity is no condition of its own facet. -/
def byRarity (rarity : Option String) : SearchBuilder :=
  { builder with all := builder.all.addGiven rarityLike ((given rarity).map likeValue) }

def byOracleText (oracleText : Option String) : SearchBuilder :=
  match given oracleText with
  | none => builder
  | some text =>
    { builder.both oracleMatches (.text text) with oracleParamIdx := some builder.all.counter }

/-- Tokens are left out when no layout is asked for. -/
def byLayout (layout : Option String) : SearchBuilder :=
  match given layout with
  | some layout => builder.both layoutIs (.text layout)
  | none => builder.bothText noToken

end SearchBuilder

/-- The conditions before that of the promo types. -/
def SearchArgs.base (upper : String → String) (args : SearchArgs) : SearchBuilder :=
  let builder := SearchBuilder.start.byName args.name
  let builder := (args.colors.getD []).foldl SearchBuilder.byColor builder
  let builder := builder.byRarity args.rarity
  let builder := builder.bothGiven setNameLike ((given args.setName).map likeValue)
  let builder := builder.bothGiven setCodeIs ((given args.setCode).map .text)
  let builder := builder.bothGiven uniqueCardIs (args.uniqueCardId.map .text)
  let builder := builder.bothGiven cmcIs (args.manaCost.map .int)
  let builder := builder.bothGiven digitalIs (args.digital.map .bool)
  let builder := builder.bothGiven afterDate ((given args.releasedAfter).map .text)
  let builder := builder.bothGiven beforeDate ((given args.releasedBefore).map .text)
  let builder := builder.bothGiven hasType ((given args.cardType).map .text)
  let builder := builder.bothGiven hasFinish
    ((given args.finish).map fun finish => .text (upper finish))
  let builder := (args.frameEffects.getD []).foldl
    (fun builder effect => builder.both hasFrameEffect (.text effect)) builder
  let builder := builder.byOracleText args.oracleText
  let builder := builder.bothGiven hasArtist ((given args.artist).map .text)
  let builder := builder.bothGiven formatLegal ((given args.format).map .text)
  builder.byLayout args.layout

def SearchArgs.built (upper : String → String) (args : SearchArgs) : SearchBuilder :=
  (args.base upper).bothGiven promoOverlaps ((args.promoType.filter (· ≠ [])).map .texts)

section Queries

variable (upper : String → String) (args : SearchArgs)

def pageQuery : Query Value :=
  let builder := args.built upper
  ⟨pageText upper args builder.all.conditions builder.nameParamIdx builder.oracleParamIdx
      builder.all.counter (builder.all.counter + 1),
    builder.all.values ++ [Value.int args.limit, Value.int args.offset]⟩

/-- `count_values = values[:-2]` -/
def countQuery : Query Value :=
  ⟨countText args (args.built upper).all.conditions,
    (pageQuery upper args).values.dropLast.dropLast⟩

/-- The first conditions and values, as far as those before the promo types go. -/
def promoFacetQuery : Query Value :=
  let builder := args.built upper
  ⟨promoFacetText (builder.all.conditions.take (args.base upper).all.conditions.length),
    (builder.all.values ++ [Value.int args.limit, Value.int args.offset]).take
      (args.base upper).all.values.length⟩

def rarityFacetQuery : Query Value :=
  ⟨rarityFacetText (args.built upper).rarityFacet.conditions,
    (args.built upper).rarityFacet.values⟩

end Queries

/-! ## The builder's steps -/

/-- Both lists build their filters, and the two placeholders are those of the name and of the
oracle text. -/
structure SearchBuilder.Builds (builder : SearchBuilder) (filters : List (Field × Sql Value))
    (name oracle : Option Value) : Prop where
  all : builder.all.Builds (filters.map Prod.snd)
  rarityFacet : builder.rarityFacet.Builds ((filters.filter (·.1 ≠ .rarity)).map Prod.snd)
  name : builder.nameParamIdx.map (Sql.valueAt builder.all.values) = name.map some
  oracle : builder.oracleParamIdx.map (Sql.valueAt builder.all.values) = oracle.map some

namespace SearchBuilder

variable {builder : SearchBuilder} {filters : List (Field × Sql Value)} {name oracle : Option Value}

theorem builds_start : SearchBuilder.start.Builds [] none none :=
  ⟨Builder.builds_start, Builder.builds_start, rfl, rfl⟩

/-- A placeholder keeps its value when others are added behind it. -/
theorem paramIdx_append {index : Option Nat} {values : List Value} {value : Option Value}
    (hvalue : index.map (Sql.valueAt values) = value.map some) (more : List Value) :
    index.map (Sql.valueAt (values ++ more)) = value.map some := by
  cases index with
  | none => exact hvalue
  | some index =>
    cases value with
    | none => cases hvalue
    | some value => exact congrArg some (Sql.valueAt_append (Option.some.inj hvalue) more)

theorem snd_other {field : Field} (hfield : field ≠ .rarity) (filter : Sql Value) :
    ((filters ++ [(field, filter)]).filter (·.1 ≠ .rarity)).map Prod.snd =
      (filters.filter (·.1 ≠ .rarity)).map Prod.snd ++ [filter] := by
  rw [List.filter_append, List.map_append, List.filter_cons_of_pos (by simpa using hfield)]
  rfl

theorem snd_rarity (filters : List (Field × Sql Value)) (filter : Sql Value) :
    ((filters ++ [(Field.rarity, filter)]).filter (·.1 ≠ .rarity)).map Prod.snd =
      (filters.filter (·.1 ≠ .rarity)).map Prod.snd := by
  rw [List.filter_append, List.map_append, List.filter_cons_of_neg (by simp)]
  exact List.append_nil _

theorem Builds.both (hbuilds : builder.Builds filters name oracle) (field : Field)
    (hfield : field ≠ .rarity) (template : Template) (value : Value) :
    (builder.both template value).Builds (filters ++ [(field, template.fill value)]) name
      oracle := by
  refine ⟨?_, ?_, paramIdx_append hbuilds.name _, paramIdx_append hbuilds.oracle _⟩
  · rw [List.map_append]
    exact hbuilds.all.add template value
  · rw [snd_other hfield]
    exact hbuilds.rarityFacet.add template value

theorem Builds.bothText (hbuilds : builder.Builds filters name oracle) (field : Field)
    (hfield : field ≠ .rarity) (text : String) :
    (builder.bothText text).Builds (filters ++ [(field, [.text text])]) name oracle := by
  refine ⟨?_, ?_, hbuilds.name, hbuilds.oracle⟩
  · rw [List.map_append]
    exact hbuilds.all.addText text
  · rw [snd_other hfield]
    exact hbuilds.rarityFacet.addText text

theorem Builds.bothGiven (hbuilds : builder.Builds filters name oracle) (field : Field)
    (hfield : field ≠ .rarity) (template : Template) (value : Option Value) :
    (builder.bothGiven template value).Builds (filters ++ filterOf field template value) name
      oracle := by
  cases value with
  | none =>
    rw [filterOf, Option.map_none, Option.toList_none, List.append_nil]
    exact hbuilds
  | some value => exact hbuilds.both field hfield template value

/-- The value that a step adds stands at the counter. -/
theorem Builds.valueAt_counter (hbuilds : builder.Builds filters name oracle) (value : Value) :
    Sql.valueAt (builder.all.values ++ [value]) builder.all.counter = some value := by
  rw [hbuilds.all.counter]
  exact Sql.valueAt_length _ _ _

theorem Builds.byName (hbuilds : builder.Builds filters none oracle) (name : Option String) :
    (builder.byName name).Builds
      (filters ++ filterOf .name nameSimilar ((given name).map .text))
      ((given name).map .text) oracle := by
  rw [SearchBuilder.byName]
  cases given name with
  | none => exact hbuilds.bothGiven .name (by decide) nameSimilar none
  | some text =>
    have hboth := hbuilds.both .name (by decide) nameSimilar (.text text)
    exact ⟨hboth.all, hboth.rarityFacet, congrArg some (hbuilds.valueAt_counter _), hboth.oracle⟩

theorem Builds.byOracleText (hbuilds : builder.Builds filters name none)
    (oracleText : Option String) :
    (builder.byOracleText oracleText).Builds
      (filters ++ filterOf .oracleText oracleMatches ((given oracleText).map .text))
      name ((given oracleText).map .text) := by
  rw [SearchBuilder.byOracleText]
  cases given oracleText with
  | none => exact hbuilds.bothGiven .oracleText (by decide) oracleMatches none
  | some text =>
    have hboth := hbuilds.both .oracleText (by decide) oracleMatches (.text text)
    exact ⟨hboth.all, hboth.rarityFacet, hboth.name, congrArg some (hbuilds.valueAt_counter _)⟩

theorem Builds.byColor (hbuilds : builder.Builds filters name oracle) (color : String) :
    (builder.byColor color).Builds (filters ++ [(.color, colorFilter color)]) name oracle := by
  rw [SearchBuilder.byColor, colorFilter]
  by_cases hmulti : color = "Multi"
  · rw [if_pos hmulti, if_pos hmulti]
    exact hbuilds.bothText .color (by decide) multiColor
  · rw [if_neg hmulti, if_neg hmulti]
    exact hbuilds.both .color (by decide) hasColor (.text color)

/-- A list of arguments, each with its own filter. -/
theorem Builds.foldl {α : Type} {step : SearchBuilder → α → SearchBuilder}
    {filter : α → Field × Sql Value}
    (hstep : ∀ {builder filters}, builder.Builds filters name oracle → ∀ arg,
      (step builder arg).Builds (filters ++ [filter arg]) name oracle)
    (hbuilds : builder.Builds filters name oracle) (args : List α) :
    (args.foldl step builder).Builds (filters ++ args.map filter) name oracle := by
  induction args generalizing builder filters with
  | nil =>
    rw [List.map_nil, List.append_nil]
    exact hbuilds
  | cons arg rest ih =>
    have hrest := ih (hstep hbuilds arg)
    rwa [List.append_assoc] at hrest

theorem Builds.byRarity (hbuilds : builder.Builds filters name oracle) (rarity : Option String) :
    (builder.byRarity rarity).Builds
      (filters ++ filterOf .rarity rarityLike ((given rarity).map likeValue)) name oracle := by
  rw [SearchBuilder.byRarity]
  cases (given rarity).map likeValue with
  | none =>
    rw [filterOf, Option.map_none, Option.toList_none, List.append_nil]
    exact hbuilds
  | some value =>
    refine ⟨?_, ?_, paramIdx_append hbuilds.name _, paramIdx_append hbuilds.oracle _⟩
    · rw [List.map_append]
      exact hbuilds.all.add rarityLike value
    · exact (snd_rarity filters (rarityLike.fill value)) ▸ hbuilds.rarityFacet

theorem Builds.byLayout (hbuilds : builder.Builds filters name oracle) (layout : Option String) :
    (builder.byLayout layout).Builds
      (filters ++ [(.layout, ((given layout).map fun layout =>
        layoutIs.fill (Value.text layout)).getD [.text noToken])]) name oracle := by
  rw [SearchBuilder.byLayout]
  cases given layout with
  | none => exact hbuilds.bothText .layout (by decide) noToken
  | some layout => exact hbuilds.both .layout (by decide) layoutIs (.text layout)

/-- What a builder has is the first part of what it has with another condition. -/
theorem take_bothGiven (builder : SearchBuilder) (template : Template) (value : Option Value) :
    (builder.bothGiven template value).all.conditions.take builder.all.conditions.length =
      builder.all.conditions ∧
    ∀ more, ((builder.bothGiven template value).all.values ++ more).take
      builder.all.values.length = builder.all.values := by
  cases value with
  | none => exact ⟨List.take_length, fun more => List.take_left⟩
  | some value =>
    refine ⟨List.take_left, fun more => ?_⟩
    exact (congrArg (List.take _) (List.append_assoc _ _ _)).trans List.take_left

end SearchBuilder

section Built

variable (upper : String → String) (args : SearchArgs)

/-- The values that the order of the page reads. -/
def SearchArgs.nameValue : Option Value := (given args.name).map .text

def SearchArgs.oracleValue : Option Value := (given args.oracleText).map .text

theorem base_builds : (args.base upper).Builds (args.baseFilters upper) args.nameValue
    args.oracleValue := by
  have hname := SearchBuilder.builds_start.byName args.name
  have hcolors := hname.foldl (fun hbuilds => hbuilds.byColor) (args.colors.getD [])
  have hrarity := hcolors.byRarity args.rarity
  have hsetName := hrarity.bothGiven .setName (by decide) setNameLike
    ((given args.setName).map likeValue)
  have hsetCode := hsetName.bothGiven .setCode (by decide) setCodeIs
    ((given args.setCode).map .text)
  have hcard := hsetCode.bothGiven .uniqueCardId (by decide) uniqueCardIs
    (args.uniqueCardId.map .text)
  have hcost := hcard.bothGiven .manaCost (by decide) cmcIs (args.manaCost.map .int)
  have hdigital := hcost.bothGiven .digital (by decide) digitalIs (args.digital.map .bool)
  have hafter := hdigital.bothGiven .releasedAfter (by decide) afterDate
    ((given args.releasedAfter).map .text)
  have hbefore := hafter.bothGiven .releasedBefore (by decide) beforeDate
    ((given args.releasedBefore).map .text)
  have htype := hbefore.bothGiven .cardType (by decide) hasType ((given args.cardType).map .text)
  have hfinish := htype.bothGiven .finish (by decide) hasFinish
    ((given args.finish).map fun finish => .text (upper finish))
  have heffects := hfinish.foldl
    (fun hbuilds effect => hbuilds.both .frameEffect (by decide) hasFrameEffect (.text effect))
    (args.frameEffects.getD [])
  have horacle := heffects.byOracleText args.oracleText
  have hartist := horacle.bothGiven .artist (by decide) hasArtist ((given args.artist).map .text)
  have hformat := hartist.bothGiven .format (by decide) formatLegal
    ((given args.format).map .text)
  exact hformat.byLayout args.layout

theorem built_builds : (args.built upper).Builds (args.filters upper) args.nameValue
    args.oracleValue :=
  (base_builds upper args).bothGiven .promoType (by decide) promoOverlaps _

end Built

/-! ## Binding -/

section Texts

variable {α β : Type} (f : α → β) (upper : String → String) (args : SearchArgs)

theorem map_orderClause (name oracle : Option α) :
    (orderClause upper args name oracle).map f =
      orderClause upper args (name.map f) (oracle.map f) := by
  cases name <;> cases oracle <;> rfl

theorem map_baseSelect (oracle : Option α) :
    baseSelect args (oracle.map f) = baseSelect args oracle := by
  cases oracle with
  | none => rfl
  | some oracle => rfl

theorem map_pageText (conditions : List (Sql α)) (name oracle : Option α) (limit offset : α) :
    (pageText upper args conditions name oracle limit offset).map f =
      pageText upper args (conditions.map (Sql.map f)) (name.map f) (oracle.map f) (f limit)
        (f offset) := by
  simp only [pageText, map_baseSelect f]
  cases args.collapse <;> simp [map_orderClause]

theorem map_countText (conditions : List (Sql α)) :
    (countText args conditions).map f = countText args (conditions.map (Sql.map f)) := by
  simp only [countText]
  cases args.collapse <;> simp

theorem map_promoFacetText (conditions : List (Sql α)) :
    (promoFacetText conditions).map f = promoFacetText (conditions.map (Sql.map f)) := by
  simp [promoFacetText]

theorem map_rarityFacetText (conditions : List (Sql α)) :
    (rarityFacetText conditions).map f = rarityFacetText (conditions.map (Sql.map f)) := by
  simp [rarityFacetText]

end Texts

section Bound

variable (upper : String → String) (args : SearchArgs)

/-- The filters of the other arguments. -/
def SearchArgs.filtersBut (field : Field) : List (Sql Value) :=
  ((args.filters upper).filter (·.1 ≠ field)).map Prod.snd

def SearchArgs.allFilters : List (Sql Value) := (args.filters upper).map Prod.snd

theorem filter_filterOf {field other : Field} (hfield : field ≠ other) (template : Template)
    (value : Option Value) : (filterOf field template value).filter (·.1 ≠ other) =
      filterOf field template value := by
  cases value with
  | none => rfl
  | some value => exact List.filter_cons_of_pos (decide_eq_true hfield)

theorem filter_map_field {α : Type} {field other : Field} (hfield : field ≠ other)
    (filter : α → Sql Value) (args : List α) :
    (args.map fun arg => (field, filter arg)).filter (·.1 ≠ other) =
      args.map fun arg => (field, filter arg) := by
  refine List.filter_eq_self.mpr fun pair hpair => ?_
  obtain ⟨arg, -, rfl⟩ := List.mem_map.mp hpair
  exact decide_eq_true hfield

theorem filter_baseFilters : (args.baseFilters upper).filter (·.1 ≠ .promoType) =
    args.baseFilters upper := by
  have hlayout := fun filter : Sql Value =>
    filter_map_field (show Field.layout ≠ .promoType by decide) id [filter]
  simp (disch := decide) only [SearchArgs.baseFilters, List.filter_append, filter_filterOf,
    filter_map_field]
  exact congrArg _ (hlayout _)

/-- The filters before the promo types are those of the other arguments. -/
theorem baseFilters_eq : (args.baseFilters upper).map Prod.snd =
    args.filtersBut upper .promoType := by
  have hlast : (filterOf .promoType promoOverlaps
      ((args.promoType.filter (· ≠ [])).map .texts)).filter (·.1 ≠ .promoType) = [] := by
    cases args.promoType.filter (· ≠ []) <;> rfl
  rw [SearchArgs.filtersBut, SearchArgs.filters, List.filter_append, hlast, List.append_nil,
    filter_baseFilters]

theorem pageQuery_binds : (pageQuery upper args).Binds
    (pageText upper args (args.allFilters upper) args.nameValue args.oracleValue
      (Value.int args.limit) (Value.int args.offset)) := by
  have hbuilds := built_builds upper args
  have hreads : (pageQuery upper args).sql.Reads (pageQuery upper args).values
      (pageText upper args (args.allFilters upper) args.nameValue args.oracleValue
        (Value.int args.limit) (Value.int args.offset)) := by
    obtain ⟨hlimit, hoffset⟩ :=
      hbuilds.all.valueAt_pair (Value.int args.limit) (Value.int args.offset)
    rw [Sql.Reads, Sql.resolve, pageQuery, map_pageText, map_pageText,
      hbuilds.all.map_conditions_append, SearchBuilder.paramIdx_append hbuilds.name,
      SearchBuilder.paramIdx_append hbuilds.oracle, hlimit, hoffset]
    rfl
  refine ⟨hreads, hreads.highest_eq (Or.inr ?_)⟩
  have hlength : (pageQuery upper args).values.length = (args.built upper).all.counter + 1 := by
    rw [hbuilds.all.counter]
    exact List.length_append
  rw [hlength, pageQuery, pageText]
  cases args.collapse <;> simp

/-- The clause of all conditions, and the last value. -/
theorem countQuery_binds : (countQuery upper args).Binds
    (countText args (args.allFilters upper)) := by
  have hbuilds := built_builds upper args
  have hvalues : (countQuery upper args).values = (args.built upper).all.values := by
    simp [countQuery, pageQuery]
  have hreads : (countQuery upper args).sql.Reads (countQuery upper args).values
      (countText args (args.allFilters upper)) := by
    rw [hvalues, Sql.Reads, Sql.resolve, countQuery, map_countText, map_countText,
      hbuilds.all.map_conditions]
    rfl
  refine ⟨hreads, hreads.highest_eq ?_⟩
  rw [hvalues]
  refine hbuilds.all.last_whereClause.imp_right fun hlast => ?_
  rw [countQuery, countText]
  cases args.collapse <;> simp [hlast]

theorem promoFacetQuery_binds : (promoFacetQuery upper args).Binds
    (promoFacetText (args.filtersBut upper .promoType)) := by
  have hbuilds := base_builds upper args
  obtain ⟨hconditions, hvalues⟩ := (args.base upper).take_bothGiven promoOverlaps
    ((args.promoType.filter (· ≠ [])).map .texts)
  have hquery : promoFacetQuery upper args =
      ⟨promoFacetText (args.base upper).all.conditions, (args.base upper).all.values⟩ :=
    congrArg₂ Query.mk (congrArg promoFacetText hconditions) (hvalues _)
  have hreads : (promoFacetText (args.base upper).all.conditions).Reads
      (args.base upper).all.values (promoFacetText (args.filtersBut upper .promoType)) := by
    rw [Sql.Reads, Sql.resolve, map_promoFacetText, map_promoFacetText,
      hbuilds.all.map_conditions, baseFilters_eq]
  rw [hquery]
  refine ⟨hreads, hreads.highest_eq (hbuilds.all.last_whereClause.imp_right fun hlast => ?_)⟩
  exact List.mem_cons_of_mem _ hlast

theorem rarityFacetQuery_binds : (rarityFacetQuery upper args).Binds
    (rarityFacetText (args.filtersBut upper .rarity)) := by
  have hbuilds := (built_builds upper args).rarityFacet
  have hreads : (rarityFacetQuery upper args).sql.Reads (rarityFacetQuery upper args).values
      (rarityFacetText (args.filtersBut upper .rarity)) := by
    rw [Sql.Reads, Sql.resolve, rarityFacetQuery, map_rarityFacetText, map_rarityFacetText,
      hbuilds.map_conditions]
    rfl
  refine ⟨hreads, hreads.highest_eq (hbuilds.last_whereClause.imp_right fun hlast => ?_)⟩
  exact List.mem_cons_of_mem _ hlast

end Bound

end AutoMana.Queries
