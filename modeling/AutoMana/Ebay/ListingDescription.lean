import AutoMana.Ebay.ListingTitles
import AutoMana.Relational.Markup

/-!
# Descriptions of listings

The description of a listing is a document of markup, into which the texts of the card and of the
seller are put. They are escaped, and the header and the footer of the brand are not.
-/

namespace AutoMana.Ebay.ListingDescription

open Relational Markup

/-! ## The inputs -/

/-- What a description takes of a `CardData`. -/
structure Card extends CardData where
  setName : String
  oracleText : Option String
  typeLine : Option String
  rarityName : String
  power : Option String
  toughness : Option String
  loyalty : Option String
  imageUrl : Option String
  flavorText : Option String

inductive DescriptionMode where
  | minimal
  | full
deriving DecidableEq, Repr

/-- What a description takes of a `SellerInput`. -/
structure Seller extends SellerInput where
  conditionNote : Option String

/-- What a description takes of a `BrandConfig`. -/
structure BrandConfig where
  accentColor : String := "#1a73e8"
  headerHtml : String := ""
  footerHtml : String :=
    "<p>✅ Fast dispatch from Australia · Tracked postage available · " ++
    "Combined shipping on multiple orders</p>" ++
    "<p>Cards are shipped in a sleeve inside a rigid toploader, then " ++
    "bubble-wrapped for protection.</p>" ++
    "<p>Returns accepted within 30 days if item not as described. " ++
    "Please message before opening a case.</p>"

/-- An optional text that is there and not empty. -/
def given (text : Option String) : Option String := text.filter (· ≠ "")

/-! ## The labels -/

/-- `_CONDITION_DESCRIPTION_MAP` -/
def conditionDescription : Condition → String
  | .nm => "Card is Near Mint. No visible play wear. Stored in sleeve from opening."
  | .lp =>
    "Card is Lightly Played. Minimal edge wear or light surface scratches. " ++
      "Does not affect gameplay."
  | .mp => "Card is Moderately Played. Noticeable wear on edges or surface. Fully playable."
  | .hp => "Card is Heavily Played. Significant wear. Suitable for casual play or proxy use."
  | .dmg => "Card is Damaged. Creases, tears, or markings present. Sold as-is."

/-- `_CONDITION_LABEL_MAP` -/
def conditionLabel : Condition → String
  | .nm => "Near Mint (NM)"
  | .lp => "Lightly Played (LP)"
  | .mp => "Moderately Played (MP)"
  | .hp => "Heavily Played (HP)"
  | .dmg => "Damaged (DMG)"

/-- `_RARITY_MAP` -/
def rarityMap : List (String × String) :=
  [("common", "Common"), ("uncommon", "Uncommon"), ("rare", "Rare"), ("mythic", "Mythic Rare"),
    ("special", "Special"), ("bonus", "Special")]

/-- `_LANG_MAP` -/
def langMap : List (String × String) :=
  [("en", "English"), ("ja", "Japanese"), ("de", "German"), ("fr", "French"), ("it", "Italian"),
    ("es", "Spanish"), ("pt", "Portuguese"), ("ru", "Russian"), ("ko", "Korean"),
    ("zhs", "Chinese Simplified"), ("zht", "Chinese Traditional"), ("he", "Hebrew"),
    ("ar", "Arabic"), ("grc", "Ancient Greek"), ("la", "Latin")]

def mapRarityToEbay (rarityName : String) : String := (rarityMap.lookup rarityName).getD "Special"

def mapLangToEbay (lang : String) : String := (langMap.lookup lang).getD "Other"

def buildConditionDescription (condition : Condition) (note : Option String) : List Char :=
  match given note with
  | some note =>
    (conditionDescription condition).toList ++ " Seller note: ".toList ++ escape note.toList
  | none => (conditionDescription condition).toList

/-! ## build_description_html -/

def oracleToHtml (oracleText : Option String) : List Char :=
  match given oracleText with
  | none => []
  | some oracleText =>
    (escape oracleText.toList).flatMap fun c => if c = '\n' then "<br/>".toList else [c]

section Rules

variable (rules : TitleRules)

/-- The first cell of a row. -/
def rowHead (shaded : Bool) (label : String) : String :=
  (if shaded then "<tr style=\"background:#f9f9f9;\">" else "<tr>") ++
    "<td style=\"padding:4px 8px;font-weight:bold;\">" ++ label ++ "</td>"

def minimalHtml (card : Card) (seller : Seller) : List Char :=
  "<div style=\"font-family:Arial,sans-serif;font-size:14px;color:#333;\">".toList ++
  "<h2>".toList ++ escape card.cardName.toList ++ "</h2>".toList ++
  "<p><strong>Set:</strong> ".toList ++ escape card.setName.toList ++ " (".toList ++
    escape (rules.upper card.setCode.toList) ++ ")</p>".toList ++
  "<p><strong>Condition:</strong> ".toList ++ (conditionLabel seller.condition).toList ++
    " — ".toList ++ buildConditionDescription seller.condition seller.conditionNote ++
    "</p>".toList ++
  "<p><strong>Language:</strong> ".toList ++ (mapLangToEbay seller.lang).toList ++
    "</p>".toList ++
  (if seller.foil then "<p><strong>Finish:</strong> Foil</p>".toList else []) ++
  "<hr/>".toList ++
  "<p><em>".toList ++ oracleToHtml card.oracleText ++ "</em></p>".toList ++
  "</div>".toList

def imageHtml (card : Card) : List Char :=
  match given card.imageUrl with
  | some imageUrl =>
    "<div style=\"text-align:center;margin-bottom:16px;\">".toList ++
    "<img src=\"".toList ++ escape imageUrl.toList ++ "\" alt=\"".toList ++
      escape card.cardName.toList ++ "\" ".toList ++
    "style=\"max-width:260px;border-radius:8px;\"/>".toList ++
    "</div>".toList
  | none => []

def flavorBlock (card : Card) : List Char :=
  match given card.flavorText with
  | some flavorText =>
    "<p style=\"font-style:italic;color:#777;\">".toList ++ escape flavorText.toList ++
      "</p>".toList
  | none => []

def statsBlock (card : Card) : List Char :=
  match given card.power, given card.toughness, given card.loyalty with
  | some power, some toughness, _ =>
    "<p><strong>P/T:</strong> ".toList ++ escape power.toList ++ "/".toList ++
      escape toughness.toList ++ "</p>".toList
  | _, _, some loyalty =>
    "<p><strong>Loyalty:</strong> ".toList ++ escape loyalty.toList ++ "</p>".toList
  | _, _, none => []

def sellerNoteBlock (seller : Seller) : List Char :=
  match given seller.conditionNote with
  | some note => "<br/><em>Seller note: ".toList ++ escape note.toList ++ "</em>".toList
  | none => []

def fullHtml (card : Card) (seller : Seller) (brand : BrandConfig) : List Char :=
  brand.headerHtml.toList ++
  "<div style=\"font-family:Arial,sans-serif;font-size:14px;color:#333;".toList ++
  "max-width:640px;margin:0 auto;\">".toList ++
  imageHtml card ++
  "<h2 style=\"color:".toList ++ escape brand.accentColor.toList ++ ";\">".toList ++
    escape card.cardName.toList ++ "</h2>".toList ++
  "<table style=\"width:100%;border-collapse:collapse;margin-bottom:12px;\">".toList ++
  (rowHead false "Set").toList ++
  "<td style=\"padding:4px 8px;\">".toList ++ escape card.setName.toList ++ " (".toList ++
    escape (rules.upper card.setCode.toList) ++ ") #".toList ++
    escape card.collectorNumber.toList ++ "</td></tr>".toList ++
  (rowHead true "Type").toList ++
  "<td style=\"padding:4px 8px;\">".toList ++ escape (card.typeLine.getD "").toList ++
    "</td></tr>".toList ++
  (rowHead false "Rarity").toList ++
  "<td style=\"padding:4px 8px;\">".toList ++ (mapRarityToEbay card.rarityName).toList ++
    "</td></tr>".toList ++
  (rowHead true "Language").toList ++
  "<td style=\"padding:4px 8px;\">".toList ++ (mapLangToEbay seller.lang).toList ++
    "</td></tr>".toList ++
  (rowHead false "Finish").toList ++
  "<td style=\"padding:4px 8px;\">".toList ++
    (if seller.foil then "Foil" else "Non-Foil").toList ++ "</td></tr>".toList ++
  (rowHead true "Condition").toList ++
  "<td style=\"padding:4px 8px;\">".toList ++ (conditionLabel seller.condition).toList ++
    "</td></tr>".toList ++
  "</table>".toList ++
  "<div style=\"border-left:3px solid ".toList ++ escape brand.accentColor.toList ++
    ";padding-left:12px;margin-bottom:12px;\">".toList ++
  "<p style=\"margin:0;\"><em>".toList ++ oracleToHtml card.oracleText ++ "</em></p>".toList ++
  "</div>".toList ++
  flavorBlock card ++
  statsBlock card ++
  "<div style=\"background:#fff8e1;border:1px solid #ffe082;border-radius:4px;".toList ++
  "padding:10px;margin-bottom:12px;\">".toList ++
  "<strong>Condition:</strong> ".toList ++ (conditionLabel seller.condition).toList ++
    "<br/>".toList ++
  buildConditionDescription seller.condition none ++
  sellerNoteBlock seller ++
  "</div>".toList ++
  "<div style=\"font-size:12px;color:#666;border-top:1px solid #eee;padding-top:10px;\">".toList ++
  brand.footerHtml.toList ++
  "</div>".toList ++
  "</div>".toList

def buildDescriptionHtml (card : Card) (seller : Seller) (brand : BrandConfig) :
    DescriptionMode → List Char
  | .minimal => minimalHtml rules card seller
  | .full => fullHtml rules card seller brand

/-! ## The pieces of a description -/

def mark (markup : String) : Piece := .markup markup.toList

def put (text : String) : Piece := .input text.toList

def oraclePieces (oracleText : Option String) : List Piece :=
  (oracleText.getD "").toList.map fun c => if c = '\n' then mark "<br/>" else .input [c]

def notePieces (condition : Condition) (note : Option String) : List Piece :=
  match given note with
  | some note => [mark (conditionDescription condition), mark " Seller note: ", put note]
  | none => [mark (conditionDescription condition)]

def imagePieces (card : Card) : List Piece :=
  match given card.imageUrl with
  | some imageUrl =>
    [mark "<div style=\"text-align:center;margin-bottom:16px;\">", mark "<img src=\"",
      put imageUrl, mark "\" alt=\"", put card.cardName, mark "\" ",
      mark "style=\"max-width:260px;border-radius:8px;\"/>", mark "</div>"]
  | none => []

def flavorPieces (card : Card) : List Piece :=
  match given card.flavorText with
  | some flavorText =>
    [mark "<p style=\"font-style:italic;color:#777;\">", put flavorText, mark "</p>"]
  | none => []

def statsPieces (card : Card) : List Piece :=
  match given card.power, given card.toughness, given card.loyalty with
  | some power, some toughness, _ =>
    [mark "<p><strong>P/T:</strong> ", put power, mark "/", put toughness, mark "</p>"]
  | _, _, some loyalty => [mark "<p><strong>Loyalty:</strong> ", put loyalty, mark "</p>"]
  | _, _, none => []

def sellerNotePieces (seller : Seller) : List Piece :=
  match given seller.conditionNote with
  | some note => [mark "<br/><em>Seller note: ", put note, mark "</em>"]
  | none => []

def minimalPieces (card : Card) (seller : Seller) : List Piece :=
  [mark "<div style=\"font-family:Arial,sans-serif;font-size:14px;color:#333;\">", mark "<h2>",
    put card.cardName, mark "</h2>", mark "<p><strong>Set:</strong> ", put card.setName,
    mark " (", .input (rules.upper card.setCode.toList), mark ")</p>",
    mark "<p><strong>Condition:</strong> ", mark (conditionLabel seller.condition), mark " — "] ++
  notePieces seller.condition seller.conditionNote ++
  [mark "</p>", mark "<p><strong>Language:</strong> ", mark (mapLangToEbay seller.lang),
    mark "</p>", mark (if seller.foil then "<p><strong>Finish:</strong> Foil</p>" else ""),
    mark "<hr/>", mark "<p><em>"] ++
  oraclePieces card.oracleText ++ [mark "</em></p>", mark "</div>"]

/-- What is between the header and the footer, which are trusted. -/
def bodyPieces (card : Card) (seller : Seller) (brand : BrandConfig) : List Piece :=
  [mark "<div style=\"font-family:Arial,sans-serif;font-size:14px;color:#333;",
    mark "max-width:640px;margin:0 auto;\">"] ++
  imagePieces card ++
  [mark "<h2 style=\"color:", put brand.accentColor, mark ";\">", put card.cardName,
    mark "</h2>", mark "<table style=\"width:100%;border-collapse:collapse;margin-bottom:12px;\">",
    mark (rowHead false "Set"),
    mark "<td style=\"padding:4px 8px;\">", put card.setName, mark " (",
    .input (rules.upper card.setCode.toList), mark ") #", put card.collectorNumber,
    mark "</td></tr>",
    mark (rowHead true "Type"),
    mark "<td style=\"padding:4px 8px;\">", put (card.typeLine.getD ""), mark "</td></tr>",
    mark (rowHead false "Rarity"),
    mark "<td style=\"padding:4px 8px;\">", mark (mapRarityToEbay card.rarityName),
    mark "</td></tr>",
    mark (rowHead true "Language"),
    mark "<td style=\"padding:4px 8px;\">", mark (mapLangToEbay seller.lang), mark "</td></tr>",
    mark (rowHead false "Finish"),
    mark "<td style=\"padding:4px 8px;\">", mark (if seller.foil then "Foil" else "Non-Foil"),
    mark "</td></tr>",
    mark (rowHead true "Condition"),
    mark "<td style=\"padding:4px 8px;\">", mark (conditionLabel seller.condition),
    mark "</td></tr>", mark "</table>", mark "<div style=\"border-left:3px solid ",
    put brand.accentColor, mark ";padding-left:12px;margin-bottom:12px;\">",
    mark "<p style=\"margin:0;\"><em>"] ++
  oraclePieces card.oracleText ++
  [mark "</em></p>", mark "</div>"] ++
  flavorPieces card ++ statsPieces card ++
  [mark "<div style=\"background:#fff8e1;border:1px solid #ffe082;border-radius:4px;",
    mark "padding:10px;margin-bottom:12px;\">", mark "<strong>Condition:</strong> ",
    mark (conditionLabel seller.condition), mark "<br/>"] ++
  notePieces seller.condition none ++ sellerNotePieces seller ++ [mark "</div>"]

def descriptionPieces (card : Card) (seller : Seller) (brand : BrandConfig) :
    DescriptionMode → List Piece
  | .minimal => minimalPieces rules card seller
  | .full =>
    .trusted brand.headerHtml.toList :: bodyPieces rules card seller brand ++ [
      mark "<div style=\"font-size:12px;color:#666;border-top:1px solid #eee;padding-top:10px;\">",
      .trusted brand.footerHtml.toList, mark "</div>", mark "</div>"]

theorem render_oraclePieces (oracleText : Option String) :
    render (oraclePieces oracleText) = oracleToHtml oracleText := by
  have hline : ∀ text : List Char,
      render (text.map fun c => if c = '\n' then mark "<br/>" else .input [c]) =
        (escape text).flatMap fun c => if c = '\n' then "<br/>".toList else [c] := by
    intro text
    induction text with
    | nil => rfl
    | cons c rest ih =>
      have hchar : Piece.render (if c = '\n' then mark "<br/>" else .input [c]) =
          (escapeChar c).flatMap fun c => if c = '\n' then "<br/>".toList else [c] := by
        by_cases hnewline : c = '\n'
        · subst hnewline
          rfl
        · rw [if_neg hnewline]
          rcases escapeChar_cases c with ⟨entry, hentry, -, hescaped⟩ | ⟨-, -, -, hescaped⟩
          · have hlines : ∀ entry ∈ references, '\n' ∉ entry.2 := by decide
            have hsame : ((escapeChar c).flatMap fun c =>
                if c = '\n' then "<br/>".toList else [c]) =
                  (escapeChar c).flatMap fun c => [c] := by
              refine List.flatMap_congr fun other hother => if_neg ?_
              rintro rfl
              exact hlines entry hentry (hescaped ▸ hother)
            rw [hsame, List.flatMap_singleton']
            exact List.append_nil _
          · rw [Piece.render, escape, List.flatMap_singleton, hescaped, List.flatMap_singleton,
              if_neg hnewline]
      rw [List.map_cons, render, List.flatMap_cons, ← render, ih, hchar, escape, escape,
        List.flatMap_cons, List.flatMap_append]
  rw [oraclePieces, hline, oracleToHtml]
  cases oracleText with
  | none => rfl
  | some text =>
    by_cases hempty : text = ""
    · subst hempty
      rfl
    · have hgiven : given (some text) = some text := by simp [given, hempty]
      rw [hgiven, Option.getD_some]

theorem render_notePieces (condition : Condition) (note : Option String) :
    render (notePieces condition note) = buildConditionDescription condition note := by
  rw [notePieces, buildConditionDescription]
  cases given note <;> simp [render, Piece.render, mark, put]

theorem render_imagePieces (card : Card) : render (imagePieces card) = imageHtml card := by
  rw [imagePieces, imageHtml]
  cases given card.imageUrl <;> simp [render, Piece.render, mark, put]

theorem render_flavorPieces (card : Card) : render (flavorPieces card) = flavorBlock card := by
  rw [flavorPieces, flavorBlock]
  cases given card.flavorText <;> simp [render, Piece.render, mark, put]

theorem render_statsPieces (card : Card) : render (statsPieces card) = statsBlock card := by
  rw [statsPieces, statsBlock]
  cases given card.power <;> cases given card.toughness <;> cases given card.loyalty <;>
    simp [render, Piece.render, mark, put]

theorem render_sellerNotePieces (seller : Seller) :
    render (sellerNotePieces seller) = sellerNoteBlock seller := by
  rw [sellerNotePieces, sellerNoteBlock]
  cases given seller.conditionNote <;> simp [render, Piece.render, mark, put]

theorem render_append (first second : List Piece) :
    render (first ++ second) = render first ++ render second :=
  List.flatMap_append

theorem render_nil : render [] = [] := rfl

theorem render_mark (markup : String) (rest : List Piece) :
    render (mark markup :: rest) = markup.toList ++ render rest := rfl

theorem render_put (text : String) (rest : List Piece) :
    render (put text :: rest) = escape text.toList ++ render rest := rfl

theorem render_input (text : List Char) (rest : List Piece) :
    render (.input text :: rest) = escape text ++ render rest := rfl

theorem render_trusted (chars : List Char) (rest : List Piece) :
    render (.trusted chars :: rest) = chars ++ render rest := rfl

theorem render_minimalPieces (rules : TitleRules) (card : Card) (seller : Seller) :
    render (minimalPieces rules card seller) = minimalHtml rules card seller := by
  have hfinish : (if seller.foil then "<p><strong>Finish:</strong> Foil</p>" else "").toList =
      if seller.foil then "<p><strong>Finish:</strong> Foil</p>".toList else [] := by
    split_ifs
    · rfl
    · rfl
  unfold minimalPieces minimalHtml
  simp only [-String.reduceToList, render_append, render_mark, render_put, render_input, render_nil,
    render_notePieces, render_oraclePieces, hfinish, List.append_assoc, List.append_nil]

theorem render_fullPieces (rules : TitleRules) (card : Card) (seller : Seller)
    (brand : BrandConfig) :
    render (descriptionPieces rules card seller brand .full) =
      fullHtml rules card seller brand := by
  unfold descriptionPieces bodyPieces fullHtml
  simp only [-String.reduceToList, render_append, List.cons_append, render_trusted, render_mark,
    render_put, render_input, render_nil, render_notePieces, render_oraclePieces,
    render_imagePieces, render_flavorPieces, render_statsPieces, render_sellerNotePieces,
    List.append_assoc, List.append_nil, List.nil_append]

/-- The pieces are those of the description. -/
theorem render_descriptionPieces (rules : TitleRules) (card : Card) (seller : Seller)
    (brand : BrandConfig) (mode : DescriptionMode) :
    render (descriptionPieces rules card seller brand mode) =
      buildDescriptionHtml rules card seller brand mode := by
  cases mode with
  | minimal => exact render_minimalPieces rules card seller
  | full => exact render_fullPieces rules card seller brand

/-! ## Where the pieces stand -/

/-- The labels of a table mean nothing in a text. -/
def IsPlain (text : String) : Prop := '&' ∉ text.toList ∧ '<' ∉ text.toList

theorem flows_label {text : String} (hplain : IsPlain text) : Flows [mark text] :=
  flows_plain hplain.1 hplain.2

theorem isPlain_lookup {entries : List (String × String)} {other : String}
    (hentries : ∀ entry ∈ entries, IsPlain entry.2) (hother : IsPlain other) (name : String) :
    IsPlain ((entries.lookup name).getD other) := by
  cases hfound : entries.lookup name with
  | none => exact hother
  | some text =>
    obtain ⟨before, after, hsplit, -⟩ := List.lookup_eq_some_iff.mp hfound
    exact hentries (name, text) (hsplit ▸ List.mem_append_right _ List.mem_cons_self)

instance (text : String) : Decidable (IsPlain text) := inferInstanceAs (Decidable (_ ∧ _))

def labels : List String :=
  ["Special", "Other"] ++ rarityMap.map Prod.snd ++ langMap.map Prod.snd ++
    [Condition.nm, .lp, .mp, .hp, .dmg].flatMap fun condition =>
      [conditionLabel condition, conditionDescription condition]

theorem isPlain_labels : ∀ text ∈ labels, IsPlain text := by decide +kernel

theorem isPlain_mapRarityToEbay (rarityName : String) : IsPlain (mapRarityToEbay rarityName) := by
  refine isPlain_lookup (fun entry hentry => isPlain_labels _ ?_) (isPlain_labels _ ?_) rarityName
  · exact List.mem_append_left _ (List.mem_append_left _
      (List.mem_append_right _ (List.mem_map_of_mem hentry)))
  · exact List.mem_append_left _ (by simp)

theorem isPlain_mapLangToEbay (lang : String) : IsPlain (mapLangToEbay lang) := by
  refine isPlain_lookup (fun entry hentry => isPlain_labels _ ?_) (isPlain_labels _ ?_) lang
  · exact List.mem_append_left _ (List.mem_append_right _ (List.mem_map_of_mem hentry))
  · exact List.mem_append_left _ (by simp)

theorem isPlain_condition (condition : Condition) :
    IsPlain (conditionLabel condition) ∧ IsPlain (conditionDescription condition) := by
  have hlabels : ∀ text ∈ [conditionLabel condition, conditionDescription condition],
      IsPlain text := by
    intro text htext
    refine isPlain_labels _ (List.mem_append_right _ (List.mem_flatMap.mpr ⟨condition, ?_, htext⟩))
    cases condition <;> simp
  exact ⟨hlabels _ (by simp), hlabels _ (by simp)⟩

/-- Markup that leads from text to text. -/
def IsMark (markup : String) : Prop :=
  '&' ∉ markup.toList ∧ (after .text true markup.toList).1 = .text

instance (markup : String) : Decidable (IsMark markup) := inferInstanceAs (Decidable (_ ∧ _))

/-- What a description has of it, but for the tags that the values are in. -/
def marks : List String :=
  ["<br/>", " Seller note: ", "<div style=\"text-align:center;margin-bottom:16px;\">",
    "</div>", "<p style=\"font-style:italic;color:#777;\">", "</p>",
    "<p><strong>P/T:</strong> ", "/", "<p><strong>Loyalty:</strong> ", "<br/><em>Seller note: ",
    "</em>", "<div style=\"font-family:Arial,sans-serif;font-size:14px;color:#333;\">", "<h2>",
    "</h2>", "<p><strong>Set:</strong> ", " (", ")</p>", "<p><strong>Condition:</strong> ", " — ",
    "<p><strong>Language:</strong> ", "<hr/>", "<p><em>", "</em></p>",
    "<table style=\"width:100%;border-collapse:collapse;margin-bottom:12px;\">",
    rowHead false "Set", "<td style=\"padding:4px 8px;\">", ") #", "</td></tr>",
    rowHead true "Type", rowHead false "Rarity", rowHead true "Language", rowHead false "Finish",
    rowHead true "Condition", "</table>", "<p style=\"margin:0;\"><em>",
    "<strong>Condition:</strong> ",
    "<div style=\"font-size:12px;color:#666;border-top:1px solid #eee;padding-top:10px;\">",
    "<p><strong>Finish:</strong> Foil</p>", "", "Foil", "Non-Foil"]

theorem isMark_marks : ∀ markup ∈ marks, IsMark markup := by decide +kernel

theorem flows_mark {markup : String} (hmark : markup ∈ marks) : Flows [mark markup] :=
  flows_markup (isMark_marks markup hmark).1 (isMark_marks markup hmark).2

/-- An input between two marks. -/
theorem flows_between {before behind : String} (hbefore : before ∈ marks) (hbehind : behind ∈ marks)
    (text : String) : Flows [mark before, put text, mark behind] :=
  (flows_mark hbefore).cons ((flows_input _).cons (flows_mark hbehind))

theorem flows_oraclePieces (oracleText : Option String) : Flows (oraclePieces oracleText) := by
  rw [oraclePieces]
  induction (oracleText.getD "").toList with
  | nil => exact flows_nil
  | cons c rest ih =>
    rw [List.map_cons]
    refine Flows.cons ?_ ih
    split_ifs
    · exact flows_mark (by simp [marks])
    · exact flows_input _

theorem flows_notePieces (condition : Condition) (note : Option String) :
    Flows (notePieces condition note) := by
  have hdescription := flows_label (isPlain_condition condition).2
  rw [notePieces]
  cases given note with
  | none => exact hdescription
  | some note => exact hdescription.cons ((flows_mark (by simp [marks])).cons (flows_input _))

theorem flows_imagePieces (card : Card) : Flows (imagePieces card) := by
  rw [imagePieces]
  cases given card.imageUrl with
  | none => exact flows_nil
  | some imageUrl =>
    refine (flows_mark (by simp [marks])).cons ?_
    -- the tag of the image has two values
    intro rest hrest fresh
    refine .markup (.value, true) (by decide +kernel)
      (by cases fresh <;> decide +kernel) ?_
    refine .input (by decide) (.markup (.value, true) (by decide +kernel)
      (by decide +kernel) ?_)
    refine .input (by decide) (.markup (.tag, false) (by decide +kernel)
      (by decide +kernel) ?_)
    refine .markup (.text, true) (by decide +kernel) (by decide +kernel) ?_
    exact flows_mark (by simp [marks]) rest hrest true

theorem flows_flavorPieces (card : Card) : Flows (flavorPieces card) := by
  rw [flavorPieces]
  cases given card.flavorText with
  | none => exact flows_nil
  | some flavorText => exact flows_between (by simp [marks]) (by simp [marks]) flavorText

theorem flows_statsPieces (card : Card) : Flows (statsPieces card) := by
  have hloyalty : ∀ loyalty : String,
      Flows [mark "<p><strong>Loyalty:</strong> ", put loyalty, mark "</p>"] :=
    flows_between (by simp [marks]) (by simp [marks])
  rw [statsPieces]
  cases given card.power with
  | none =>
    cases given card.loyalty with
    | none => exact flows_nil
    | some loyalty => exact hloyalty loyalty
  | some power =>
    cases given card.toughness with
    | none =>
      cases given card.loyalty with
      | none => exact flows_nil
      | some loyalty => exact hloyalty loyalty
    | some toughness =>
      exact (flows_between (by simp [marks]) (by simp [marks]) power).append
        ((flows_input _).cons (flows_mark (by simp [marks])))

theorem flows_sellerNotePieces (seller : Seller) : Flows (sellerNotePieces seller) := by
  rw [sellerNotePieces]
  cases given seller.conditionNote with
  | none => exact flows_nil
  | some note => exact flows_between (by simp [marks]) (by simp [marks]) note

theorem flows_minimalPieces (card : Card) (seller : Seller) :
    Flows (minimalPieces rules card seller) := by
  have hcondition := isPlain_condition seller.condition
  have hfinish :
      (if seller.foil then "<p><strong>Finish:</strong> Foil</p>" else "") ∈ marks := by
    split_ifs <;> simp [marks]
  have hbegin : Flows [
      mark "<div style=\"font-family:Arial,sans-serif;font-size:14px;color:#333;\">", mark "<h2>",
      put card.cardName, mark "</h2>"] :=
    (flows_mark (by simp [marks])).cons
      (flows_between (by simp [marks]) (by simp [marks]) card.cardName)
  have hset : Flows [mark "<p><strong>Set:</strong> ", put card.setName, mark " (",
      .input (rules.upper card.setCode.toList), mark ")</p>"] :=
    (flows_between (by simp [marks]) (by simp [marks]) card.setName).append
      ((flows_input _).cons (flows_mark (by simp [marks])))
  have hlabel : Flows [mark "<p><strong>Condition:</strong> ",
      mark (conditionLabel seller.condition), mark " — "] :=
    (flows_mark (by simp [marks])).cons
      ((flows_label hcondition.1).cons (flows_mark (by simp [marks])))
  have hlanguage : Flows [mark "</p>", mark "<p><strong>Language:</strong> ",
      mark (mapLangToEbay seller.lang), mark "</p>"] :=
    (flows_mark (by simp [marks])).cons ((flows_mark (by simp [marks])).cons
      ((flows_label (isPlain_mapLangToEbay seller.lang)).cons (flows_mark (by simp [marks]))))
  have hrest : Flows [mark (if seller.foil then "<p><strong>Finish:</strong> Foil</p>" else ""),
      mark "<hr/>", mark "<p><em>"] :=
    (flows_mark hfinish).cons
      ((flows_mark (by simp [marks])).cons (flows_mark (by simp [marks])))
  have hend : Flows [mark "</em></p>", mark "</div>"] :=
    (flows_mark (by simp [marks])).cons (flows_mark (by simp [marks]))
  exact (((((hbegin.append (hset.append hlabel)).append (flows_notePieces _ _)).append
    (hlanguage.append hrest)).append (flows_oraclePieces _)).append hend)

/-- A row of the table. -/
theorem flows_row {heading : String} {content : List Piece} (hheading : heading ∈ marks)
    (hcontent : Flows content) :
    Flows (mark heading :: mark "<td style=\"padding:4px 8px;\">" ::
      (content ++ [mark "</td></tr>"])) :=
  (flows_mark hheading).cons ((flows_mark (by simp [marks])).cons
    (hcontent.append (flows_mark (by simp [marks]))))

theorem flows_table (card : Card) (seller : Seller) :
    Flows [mark "<table style=\"width:100%;border-collapse:collapse;margin-bottom:12px;\">",
      mark (rowHead false "Set"),
      mark "<td style=\"padding:4px 8px;\">", put card.setName, mark " (",
      .input (rules.upper card.setCode.toList), mark ") #", put card.collectorNumber,
      mark "</td></tr>",
      mark (rowHead true "Type"),
      mark "<td style=\"padding:4px 8px;\">", put (card.typeLine.getD ""), mark "</td></tr>",
      mark (rowHead false "Rarity"),
      mark "<td style=\"padding:4px 8px;\">", mark (mapRarityToEbay card.rarityName),
      mark "</td></tr>",
      mark (rowHead true "Language"),
      mark "<td style=\"padding:4px 8px;\">", mark (mapLangToEbay seller.lang),
      mark "</td></tr>", mark (rowHead false "Finish"),
      mark "<td style=\"padding:4px 8px;\">", mark (if seller.foil then "Foil" else "Non-Foil"),
      mark "</td></tr>",
      mark (rowHead true "Condition"),
      mark "<td style=\"padding:4px 8px;\">", mark (conditionLabel seller.condition),
      mark "</td></tr>", mark "</table>"] := by
  have hset : Flows [put card.setName, mark " (", .input (rules.upper card.setCode.toList),
      mark ") #", put card.collectorNumber] :=
    (flows_input _).cons ((flows_mark (by simp [marks])).cons
      ((flows_input _).cons ((flows_mark (by simp [marks])).cons (flows_input _))))
  have hfinish : Flows [mark (if seller.foil then "Foil" else "Non-Foil")] :=
    flows_mark (by split_ifs <;> simp [marks])
  exact (flows_mark (by simp [marks])).cons <|
    (flows_row (by simp [marks]) hset).append <|
    (flows_row (by simp [marks]) (flows_input _)).append <|
    (flows_row (by simp [marks]) (flows_label (isPlain_mapRarityToEbay _))).append <|
    (flows_row (by simp [marks]) (flows_label (isPlain_mapLangToEbay _))).append <|
    (flows_row (by simp [marks]) hfinish).append <|
    (flows_row (by simp [marks]) (flows_label (isPlain_condition _).1)).append <|
    flows_mark (by simp [marks])

/-- The color of the brand stands in values of tags. -/
theorem flows_colored {before behind : String} (text : String)
    (hbefore : '&' ∉ before.toList ∧ (after .text true before.toList).1 = .value)
    (hbehind : '&' ∉ behind.toList ∧ (after .value false behind.toList).1 = .text) :
    Flows [mark before, put text, mark behind] :=
  flows_value text.toList hbefore.1 hbefore.2 hbehind.1 hbehind.2

theorem flows_halves {first second : String}
    (hmark : IsMark (first ++ second)) : Flows [mark first, mark second] := by
  have hamp := hmark.1
  rw [String.toList_append, List.mem_append, not_or] at hamp
  have hafter := hmark.2
  rw [String.toList_append] at hafter
  exact flows_joined hamp.1 hamp.2 hafter

theorem flows_bodyPieces (card : Card) (seller : Seller) (brand : BrandConfig) :
    Flows (bodyPieces rules card seller brand) := by
  have hbegin : Flows [mark "<div style=\"font-family:Arial,sans-serif;font-size:14px;color:#333;",
      mark "max-width:640px;margin:0 auto;\">"] := flows_halves (by decide +kernel)
  have hname : Flows [mark "<h2 style=\"color:", put brand.accentColor, mark ";\">",
      put card.cardName, mark "</h2>"] :=
    (flows_colored brand.accentColor (by decide +kernel) (by decide +kernel)).append
      ((flows_input _).cons (flows_mark (by simp [marks])))
  have hborder : Flows [mark "<div style=\"border-left:3px solid ", put brand.accentColor,
      mark ";padding-left:12px;margin-bottom:12px;\">", mark "<p style=\"margin:0;\"><em>"] :=
    (flows_colored brand.accentColor (by decide +kernel) (by decide +kernel)).append
      (flows_mark (by simp [marks]))
  have hend : Flows [mark "</em></p>", mark "</div>"] :=
    (flows_mark (by simp [marks])).cons (flows_mark (by simp [marks]))
  have hcondition : Flows [
      mark "<div style=\"background:#fff8e1;border:1px solid #ffe082;border-radius:4px;",
      mark "padding:10px;margin-bottom:12px;\">", mark "<strong>Condition:</strong> ",
      mark (conditionLabel seller.condition), mark "<br/>"] :=
    (flows_halves (by decide +kernel)).append ((flows_mark (by simp [marks])).cons
      ((flows_label (isPlain_condition seller.condition).1).cons (flows_mark (by simp [marks]))))
  have hlast : Flows [mark "</div>"] := flows_mark (by simp [marks])
  have hmiddle := hname.append ((flows_table rules card seller).append hborder)
  exact (((((((((hbegin.append (flows_imagePieces card)).append hmiddle).append
    (flows_oraclePieces card.oracleText)).append hend).append (flows_flavorPieces card)).append
    (flows_statsPieces card)).append hcondition).append (flows_notePieces _ none)).append
    (flows_sellerNotePieces seller)).append hlast

/-- No input of a description is in a tag. -/
theorem placed_descriptionPieces (card : Card) (seller : Seller) (brand : BrandConfig)
    (mode : DescriptionMode)
    (hbrand : mode = .full →
      Closed brand.headerHtml.toList ∧ Closed brand.footerHtml.toList) :
    Placed .text true (descriptionPieces rules card seller brand mode) := by
  cases mode with
  | minimal =>
    have hpieces := flows_minimalPieces rules card seller [] (fun _ => .nil) true
    rwa [List.append_nil] at hpieces
  | full =>
    have hclosed := hbrand rfl
    have hfooter : ∀ fresh, Placed .text fresh [
        mark
          "<div style=\"font-size:12px;color:#666;border-top:1px solid #eee;padding-top:10px;\">",
        .trusted brand.footerHtml.toList, mark "</div>", mark "</div>"] := by
      intro fresh
      refine .markup (.text, true) (by decide +kernel)
        (by cases fresh <;> decide +kernel) (.trusted hclosed.2 ?_)
      exact (flows_mark (by simp [marks])).cons (flows_mark (by simp [marks])) []
        (fun _ => .nil) false
    exact .trusted hclosed.1 (flows_bodyPieces rules card seller brand _ hfooter false)

end Rules

/-! ## What a description says -/

/-- The header and the footer of a brand, where they are shown. -/
def BrandConfig.Trusted (brand : BrandConfig) (mode : DescriptionMode) : Prop :=
  mode = .full → Closed brand.headerHtml.toList ∧ Closed brand.footerHtml.toList

theorem closed_of_run {chars : List Char}
    (hread : (Scan.start.read chars).place = .text ∧ (Scan.start.read chars).run = []) :
    Closed chars where
  place := hread.1
  run rest := by
    rw [hread.2]
    rfl

/-- The texts of a brand that is not told are closed. -/
theorem trusted_default (mode : DescriptionMode) : BrandConfig.Trusted {} mode :=
  fun _ => ⟨closed_of_run ⟨rfl, rfl⟩, closed_of_run (by decide +kernel)⟩

/-- A description reads as its markup, with the texts of the card, of the seller and of the brand
put in as they are: none of them opens or ends a tag or a value. -/
theorem description_reads_back (rules : TitleRules) (card : Card) (seller : Seller)
    (brand : BrandConfig) (mode : DescriptionMode) (hbrand : brand.Trusted mode) :
    (tokens (buildDescriptionHtml rules card seller brand mode)).map Token.unescaped =
      ((descriptionPieces rules card seller brand mode).foldl Scan.fill .start).close := by
  have hplaced := placed_descriptionPieces rules card seller brand mode hbrand
  rw [← render_descriptionPieces]
  exact tokens_render hplaced

def sampleCard : Card where
  cardName := "Fire // Ice"
  setCode := "apc"
  collectorNumber := "128"
  setName := "Apocalypse"
  oracleText := some "Fire deals 2 damage.\nDraw a card."
  typeLine := some "Instant"
  rarityName := "uncommon"
  power := none
  toughness := none
  loyalty := none
  imageUrl := some "https://cards/128.jpg"
  flavorText := none

def sampleSeller : Seller where
  condition := .lp
  foil := true
  lang := "en"
  conditionNote := some "One <b>corner</b> \"bent\""

/-- A note that looks like markup is read as it was written. -/
theorem description_reads_back_note :
    (tokens (buildDescriptionHtml sampleRules sampleCard sampleSeller {} .full)).map
        Token.unescaped =
      ((descriptionPieces sampleRules sampleCard sampleSeller {} .full).foldl Scan.fill
        .start).close :=
  description_reads_back sampleRules sampleCard sampleSeller {} .full (trusted_default .full)

/-- The pieces that are no inputs. -/
def frame (pieces : List Piece) : List Piece := pieces.filter (!·.isInput)

section Shapes

variable {card other : Card} {seller otherSeller : Seller} {brand otherBrand : BrandConfig}

end Shapes

end AutoMana.Ebay.ListingDescription
