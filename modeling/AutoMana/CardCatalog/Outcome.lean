import AutoMana.CardCatalog.Import

/-!
# When the import of a card succeeds

Each statement of `insert_full_card_version` is described by the condition under which it raises
nothing and by what it leaves. A card is imported exactly when its texts fit the columns, its set
or its version is stored, its artists are new under both of their constraints or stored, and its
version has no other illustration.
-/

namespace AutoMana.CardCatalog

open Relational Statement

/-! ## Conditions on a card -/

namespace Card

variable (card : Card)

/-- The types that are stored. -/
def allTypes : List String :=
  match card.cardFaces with
  | [] => card.supertypes ++ card.types ++ card.subtypes
  | faces => faces.flatMap fun face => face.supertypes ++ face.types ++ face.subtypes

/-- The texts fit the columns that they are stored in. -/
structure Fits : Prop where
  manaCost : ∀ text, card.manaCost = some text → text.length ≤ 50
  rarityName : card.rarityName.length ≤ 20
  borderColor : card.borderColor.length ≤ 20
  frameYear : card.frameYear.length ≤ 20
  layoutName : card.layoutName.length ≤ 50
  collectorNumber : card.collectorNumber.length ≤ 50
  lang : (card.lang.getD "en").length ≤ 5
  types : ∀ text ∈ card.allTypes, text.length ≤ 20
  games : ∀ text ∈ card.games, text.length ≤ 20
  colors : ∀ text ∈ card.colors, text.length ≤ 20
  keywords : ∃ keywords, card.keywords = some keywords ∧ ∀ text ∈ keywords, text.length ≤ 50
  legalities : ∀ legal ∈ card.legalFormats, legal.2.length ≤ 20 ∧ legal.1.length ≤ 20

/-- The illustration of the record. -/
def illustration : Option String :=
  match card.cardFaces with
  | [] => card.illustrationId
  | faces => card.illustrationId.or (faces.head?.bind CardFace.illustrationId)

end Card

/-- The artist whom a face with an illustration names. -/
def CardFace.credit (face : CardFace) : Option (String × String) := do
  let _ ← face.illustrationId
  let artistId ← face.artistId
  let name ← face.artist
  some (artistId, name)

/-- A face with an illustration names an artist, and its index is an `INT`. -/
structure CardFace.Fits (face : CardFace) : Prop where
  faceIndex : ∀ index, face.faceIndex = some index → -2147483648 ≤ index ∧ index < 2147483648
  artist : face.illustrationId.isSome → ∃ artistId name, face.artistId = some artistId ∧
    face.artist = some name ∧ name.length ≤ 255

namespace Card

variable (card : Card)

/-- The artists that are stored under the ids that the card names. -/
def credits : List (String × String) :=
  match card.cardFaces with
  | [] =>
    match card.artistIds.head?, card.artist.head? with
    | some artistId, some name => [(artistId, name)]
    | _, _ => []
  | faces => faces.filterMap CardFace.credit

/-- The artist of a card without faces fits and is named or stored; the faces of a card fit. -/
def CreditsFit (artists : Table String String) : Prop :=
  match card.cardFaces with
  | [] => card.illustrationId.isSome ∧
      (∀ name, card.artist.head? = some name → name.length ≤ 255) ∧
      (card.artist.head? = none →
        (artists.get? (card.artistIds.head?.getD unknownArtist)).isSome)
  | faces => ∀ face ∈ faces, face.Fits

end Card

/-! ## Statements on texts -/

section Texts

variable {limit : Nat}

@[simp] theorem varchar_eq_ok_iff {text : String} {result : Unit} :
    varchar limit text = .ok result ↔ text.length ≤ limit := check_eq_ok_iff

@[simp] theorem forM_varchar_eq_ok_iff {texts : List String} {result : Unit} :
    texts.forM (varchar limit) = .ok result ↔ ∀ text ∈ texts, text.length ≤ limit := by
  simp only [forM_eq_ok_iff, varchar_eq_ok_iff]

theorem option_forM_eq_ok_iff {α : Type} {statement : α → Except Violation Unit}
    {value : Option α} {result : Unit} :
    value.forM statement = .ok result ↔ ∀ given, value = some given →
      statement given = .ok () := by
  cases value with
  | none => exact iff_of_true rfl fun _ hgiven => by cases hgiven
  | some stored => simp [Option.forM]

end Texts

/-! ## The tables of the card -/

section Cards

variable {uuids : Uuids} {card : Card} {cards next : Cards} {cardId : String}

theorem insertCard_eq_ok_iff : cards.insertCard uuids card = .ok next ↔
    (∀ text, card.manaCost = some text → text.length ≤ 50) ∧
      next = { cards with refs := cards.refs.insertMissing [(card.cardName,
        ⟨cards.idOf uuids card.cardName, card.cmc, card.manaCost, card.reserved⟩)] } := by
  simp only [Cards.insertCard, bind_eq_ok_iff, option_forM_eq_ok_iff, varchar_eq_ok_iff,
    pure_eq_ok_iff, exists_const]

theorem insertTypes_eq_ok_iff {category : TypeCategory} {types : List String} :
    cards.insertTypes cardId category types = .ok next ↔
      (∀ text ∈ types, text.length ≤ 20) ∧ next = { cards with
        types := cards.types.insertMissing
          (types.map fun type => ((cardId, type), category)) } := by
  simp only [Cards.insertTypes, bind_eq_ok_iff, forM_varchar_eq_ok_iff, pure_eq_ok_iff,
    exists_const]

/-- What the statements on the tables of a card but for the first and the last one keep. -/
structure Cards.Kept (cards next : Cards) : Prop where
  refs : next.refs = cards.refs
  legalities : next.legalities = cards.legalities

theorem exists_insertTypeLine_iff {supertypes types subtypes : List String} :
    (∃ next, cards.insertTypeLine cardId supertypes types subtypes = .ok next) ↔
      ∀ text ∈ supertypes ++ types ++ subtypes, text.length ≤ 20 := by
  simp only [Cards.insertTypeLine, bind_eq_ok_iff, insertTypes_eq_ok_iff, List.forall_mem_append]
  constructor
  · rintro ⟨next, supertyped, ⟨hsupertypes, -⟩, typed, ⟨htypes, -⟩, hsubtypes, -⟩
    exact ⟨⟨hsupertypes, htypes⟩, hsubtypes⟩
  · rintro ⟨⟨hsupertypes, htypes⟩, hsubtypes⟩
    exact ⟨_, _, ⟨hsupertypes, rfl⟩, _, ⟨htypes, rfl⟩, hsubtypes, rfl⟩

theorem insertTypeLine_kept {supertypes types subtypes : List String}
    (hnext : cards.insertTypeLine cardId supertypes types subtypes = .ok next) :
    cards.Kept next := by
  simp only [Cards.insertTypeLine, bind_eq_ok_iff, insertTypes_eq_ok_iff] at hnext
  obtain ⟨_, ⟨-, rfl⟩, _, ⟨-, rfl⟩, -, rfl⟩ := hnext
  exact ⟨rfl, rfl⟩

theorem exists_insertColors_iff : (∃ next, cards.insertColors card cardId = .ok next) ↔
    ∀ text ∈ card.colors, text.length ≤ 20 := by
  simp only [Cards.insertColors, bind_eq_ok_iff, forM_varchar_eq_ok_iff, pure_eq_ok_iff,
    exists_const, exists_and_left, exists_eq, and_true]

theorem insertColors_kept (hnext : cards.insertColors card cardId = .ok next) :
    cards.Kept next := by
  simp only [Cards.insertColors, bind_eq_ok_iff, pure_eq_ok_iff] at hnext
  obtain ⟨_, -, rfl⟩ := hnext
  exact ⟨rfl, rfl⟩

theorem exists_insertKeywords_iff : (∃ next, cards.insertKeywords card cardId = .ok next) ↔
    ∃ keywords, card.keywords = some keywords ∧ ∀ text ∈ keywords, text.length ≤ 50 := by
  rw [Cards.insertKeywords]
  cases card.keywords with
  | none => simp
  | some keywords =>
    simp only [bind_eq_ok_iff, forM_varchar_eq_ok_iff, pure_eq_ok_iff, exists_const,
      exists_and_left, exists_eq, and_true, Option.some.injEq, exists_eq_left']

theorem insertKeywords_kept (hnext : cards.insertKeywords card cardId = .ok next) :
    cards.Kept next := by
  rw [Cards.insertKeywords] at hnext
  cases hkeywords : card.keywords with
  | none =>
    rw [hkeywords] at hnext
    cases hnext
  | some keywords =>
    simp only [hkeywords, bind_eq_ok_iff, pure_eq_ok_iff] at hnext
    obtain ⟨_, -, rfl⟩ := hnext
    exact ⟨rfl, rfl⟩

theorem insertLegalities_eq_ok_iff : cards.insertLegalities card cardId = .ok next ↔
    (∀ legal ∈ card.legalFormats, legal.2.length ≤ 20 ∧ legal.1.length ≤ 20) ∧
      next = { cards with
        legalities := cards.legalities.insertMissing
          (card.legalFormats.map fun legal => ((cardId, legal.1), legal.2)) } := by
  simp only [Cards.insertLegalities, bind_eq_ok_iff, forM_eq_ok_iff, varchar_eq_ok_iff,
    pure_eq_ok_iff, exists_const]

end Cards

/-! ## The tables of the version -/

section Versions

variable {uuids : Uuids} {card : Card} {versions next : Versions} {sets : Sets}
  {printing : Printing} {versionId : String}

/-- A version of the printing is stored. -/
def Versions.Stored (versions : Versions) (printing : Printing) : Prop :=
  (versions.rows.rows.find? fun row => decide (row.2.printing = printing)).isSome

structure Card.VersionFits (card : Card) (printing : Printing) : Prop where
  rarityName : card.rarityName.length ≤ 20
  borderColor : card.borderColor.length ≤ 20
  frameYear : card.frameYear.length ≤ 20
  layoutName : card.layoutName.length ≤ 50
  collectorNumber : printing.collectorNumber.length ≤ 50
  lang : printing.lang.length ≤ 5

theorem exists_insertVersion_iff :
    (∃ next, versions.insertVersion uuids card sets printing = .ok next) ↔
      card.VersionFits printing ∧
        (versions.Stored printing ∨ (sets.rows.get? printing.setId).isSome) := by
  simp only [Versions.insertVersion, bind_eq_ok_iff, varchar_eq_ok_iff, exists_const,
    exists_and_left]
  constructor
  · rintro ⟨hrarity, hborder, hframe, hlayout, hnumber, hlang, next, hnext⟩
    refine ⟨⟨hrarity, hborder, hframe, hlayout, hnumber, hlang⟩, ?_⟩
    split_ifs at hnext with hstored
    · exact Or.inl hstored
    · obtain ⟨_, hset, -⟩ := bind_eq_ok_iff.mp hnext
      exact Or.inr (check_eq_ok_iff.mp hset)
  · rintro ⟨⟨hrarity, hborder, hframe, hlayout, hnumber, hlang⟩, hset⟩
    refine ⟨hrarity, hborder, hframe, hlayout, hnumber, hlang, ?_⟩
    split_ifs with hstored
    · exact ⟨versions, rfl⟩
    · exact ⟨_, bind_eq_ok_iff.mpr ⟨(), check_eq_ok_iff.mpr (hset.resolve_left hstored), rfl⟩⟩

/-- The printings of the versions after the statement, and what it keeps. -/
structure Versions.Gains (versions next : Versions) (versionId : String) (printing : Printing) :
    Prop where
  printings : ∀ id, (next.rows.get? id).map CardVersion.printing =
    if id = versionId then some printing else (versions.rows.get? id).map CardVersion.printing
  externalIds : next.externalIds = versions.externalIds

theorem insertVersion_gains
    (hnext : versions.insertVersion uuids card sets printing = .ok next) :
    versions.Gains next (versions.idOf uuids printing) printing := by
  simp only [Versions.insertVersion, bind_eq_ok_iff, varchar_eq_ok_iff, exists_const] at hnext
  obtain ⟨-, -, -, -, -, -, hnext⟩ := hnext
  split_ifs at hnext with hstored
  · obtain rfl := pure_eq_ok_iff.mp hnext
    refine ⟨fun id => ?_, rfl⟩
    obtain ⟨row, hrow⟩ := Option.isSome_iff_exists.mp hstored
    have hprinting : row.2.printing = printing := by simpa using List.find?_some hrow
    have hget := (Table.mem_rows_iff _ _ _).mp (List.mem_of_find?_eq_some hrow)
    rw [Versions.idOf, hrow]
    split_ifs with hid
    · rw [hid, hget, Option.map_some, hprinting]
    · rfl
  · obtain ⟨_, -, hnext⟩ := bind_eq_ok_iff.mp hnext
    obtain rfl := pure_eq_ok_iff.mp hnext
    refine ⟨fun id => ?_, rfl⟩
    rw [Table.get?_set]
    split_ifs <;> rfl

theorem setMultifaced_printings (id : String) :
    ((versions.setMultifaced versionId).rows.get? id).map CardVersion.printing =
      (versions.rows.get? id).map CardVersion.printing := by
  rw [Versions.setMultifaced, Table.get?_mapValues, Option.map_map]
  congr 1
  funext row
  rw [Function.comp_apply]
  split_ifs <;> rfl

theorem exists_insertGames_iff : (∃ next, versions.insertGames card versionId = .ok next) ↔
    ∀ text ∈ card.games, text.length ≤ 20 := by
  simp only [Versions.insertGames, bind_eq_ok_iff, forM_varchar_eq_ok_iff, pure_eq_ok_iff,
    exists_const, exists_and_left, exists_eq, and_true]

theorem insertGames_kept (hnext : versions.insertGames card versionId = .ok next) :
    next.rows = versions.rows ∧ next.externalIds = versions.externalIds := by
  simp only [Versions.insertGames, bind_eq_ok_iff, pure_eq_ok_iff] at hnext
  obtain ⟨_, -, rfl⟩ := hnext
  exact ⟨rfl, rfl⟩

end Versions

/-! ## The art -/

section Art

variable {uuids : Uuids} {card : Card} {art next : Art} {versionId : String}

theorem acceptsAll_nil (artists : Table String String) : artists.AcceptsAll [] :=
  Table.stepsMeet_accepts_iff.mp trivial

theorem acceptsAll_single {artists : Table String String} {credit : String × String} :
    artists.AcceptsAll [credit] ↔ artists.Accepts credit :=
  Table.stepsMeet_accepts_iff.symm.trans (and_iff_left trivial)

theorem exists_insertIllustrationArtist_iff {illustrationId artistId : String} :
    (∃ next, art.insertIllustrationArtist illustrationId artistId = .ok next) ↔
      (art.artists.get? artistId).isSome := by
  simp only [Art.insertIllustrationArtist, bind_eq_ok_iff, check_eq_ok_iff, pure_eq_ok_iff,
    exists_const, exists_and_left, exists_eq, and_true]

theorem insertIllustrationArtist_kept {illustrationId artistId : String}
    (hnext : art.insertIllustrationArtist illustrationId artistId = .ok next) :
    next.artists = art.artists ∧ next.versionIllustrations = art.versionIllustrations := by
  simp only [Art.insertIllustrationArtist, bind_eq_ok_iff, pure_eq_ok_iff] at hnext
  obtain ⟨_, -, rfl⟩ := hnext
  exact ⟨rfl, rfl⟩

theorem exists_insertVersionIllustration_iff {illustrationId : String} :
    (∃ next, art.insertVersionIllustration card versionId illustrationId = .ok next) ↔
      ∀ row, art.versionIllustrations.get? versionId = some row →
        row.illustrationId = illustrationId := by
  rw [Art.insertVersionIllustration]
  cases art.versionIllustrations.get? versionId with
  | none => exact iff_of_true ⟨_, rfl⟩ fun _ hrow => by cases hrow
  | some row =>
    simp only [bind_eq_ok_iff, check_eq_ok_iff, pure_eq_ok_iff, exists_const, exists_and_left,
      exists_eq, and_true, Option.some.injEq, forall_eq']

theorem illustration_of_insertVersionIllustration {illustrationId : String}
    (hnext : art.insertVersionIllustration card versionId illustrationId = .ok next) :
    (next.versionIllustrations.get? versionId).map VersionIllustration.illustrationId =
      some illustrationId := by
  rw [Art.insertVersionIllustration] at hnext
  cases hrow : art.versionIllustrations.get? versionId with
  | none =>
    rw [hrow] at hnext
    obtain rfl := pure_eq_ok_iff.mp hnext
    rw [Table.get?_set, if_pos rfl]
    rfl
  | some row =>
    simp only [hrow, bind_eq_ok_iff, check_eq_ok_iff, pure_eq_ok_iff, exists_const] at hnext
    obtain ⟨rfl, rfl⟩ := hnext
    rw [hrow, Option.map_some]

/-- The artist of a card without faces is found, and stored. -/
theorem exists_resolveArtist_iff (hfaces : card.cardFaces = []) :
    (∃ result, art.resolveArtist uuids card = .ok result ∧
        (result.2.artists.get? result.1).isSome) ↔
      (∀ name, card.artist.head? = some name → name.length ≤ 255) ∧
        (card.artist.head? = none →
          (art.artists.get? (card.artistIds.head?.getD unknownArtist)).isSome) ∧
        art.artists.AcceptsAll card.credits := by
  simp only [Art.resolveArtist, Card.credits, hfaces]
  cases card.artistIds.head? with
  | none =>
    cases card.artist.head? with
    | none => simp [acceptsAll_nil]
    | some name =>
      simp only [bind_eq_ok_iff, varchar_eq_ok_iff, exists_const, Option.some.injEq, forall_eq',
        reduceCtorEq, IsEmpty.forall_iff, acceptsAll_nil, and_true]
      constructor
      · rintro ⟨_, hresult, -⟩
        exact hresult.1
      · intro hname
        cases hkey : art.artists.keyOf name with
        | some artistId => exact ⟨_, ⟨hname, rfl⟩, Table.isSome_get?_of_keyOf hkey⟩
        | none =>
          refine ⟨_, ⟨hname, rfl⟩, ?_⟩
          rw [Table.get?_set, if_pos rfl]
          rfl
  | some artistId =>
    cases card.artist.head? with
    | none => simp [acceptsAll_nil]
    | some name =>
      simp only [bind_eq_ok_iff, varchar_eq_ok_iff, exists_const, Option.some.injEq, forall_eq',
        reduceCtorEq, IsEmpty.forall_iff, acceptsAll_single, true_and]
      by_cases hstored : (art.artists.get? artistId).isSome
      · simp only [if_pos hstored, pure_eq_ok_iff]
        constructor
        · rintro ⟨_, hresult, -⟩
          exact ⟨hresult.1, Or.inl hstored⟩
        · exact fun hname => ⟨_, ⟨hname.1, rfl⟩, hstored⟩
      · simp only [if_neg hstored, bind_eq_ok_iff, check_eq_ok_iff, pure_eq_ok_iff, exists_const]
        constructor
        · rintro ⟨_, hresult, -⟩
          exact ⟨hresult.1, Or.inr hresult.2.1⟩
        · rintro ⟨hname, haccepts⟩
          refine ⟨_, ⟨hname, haccepts.resolve_left hstored, rfl⟩, ?_⟩
          rw [Table.get?_set, if_pos rfl]
          rfl

theorem resolveArtist_kept {result : String × Art}
    (hresult : art.resolveArtist uuids card = .ok result) :
    result.2.versionIllustrations = art.versionIllustrations := by
  rw [Art.resolveArtist] at hresult
  cases hid : card.artistIds.head? <;> cases hname : card.artist.head? <;>
    simp only [hid, hname, bind_eq_ok_iff] at hresult
  · rw [pure_eq_ok_iff.mp hresult]
  · obtain ⟨_, -, hresult⟩ := hresult
    split at hresult <;> rw [pure_eq_ok_iff.mp hresult]
  · rw [pure_eq_ok_iff.mp hresult]
  · obtain ⟨_, -, hresult⟩ := hresult
    split_ifs at hresult
    · rw [pure_eq_ok_iff.mp hresult]
    · obtain ⟨_, -, hresult⟩ := bind_eq_ok_iff.mp hresult
      rw [pure_eq_ok_iff.mp hresult]

theorem exists_insertSingleFaced_iff (hfaces : card.cardFaces = []) :
    (∃ next, art.insertSingleFaced uuids card versionId = .ok next) ↔
      card.CreditsFit art.artists ∧ art.artists.AcceptsAll card.credits ∧
        ∀ row, art.versionIllustrations.get? versionId = some row →
          card.illustrationId = some row.illustrationId := by
  have hresolve := @exists_resolveArtist_iff uuids card art hfaces
  simp only [Art.insertSingleFaced, Card.CreditsFit, hfaces]
  cases hillustration : card.illustrationId with
  | none => simp
  | some illustrationId =>
    simp only [bind_eq_ok_iff, Option.isSome_some, true_and, Option.some.injEq]
    constructor
    · rintro ⟨next, ⟨artistId, resolved⟩, hresult, linked, hlinked, hnext⟩
      have hstored := exists_insertIllustrationArtist_iff.mp ⟨_, hlinked⟩
      obtain ⟨hfits, hnamed, haccepts⟩ := hresolve.mp ⟨_, hresult, hstored⟩
      refine ⟨⟨hfits, hnamed⟩, haccepts, fun row hrow => ?_⟩
      refine (exists_insertVersionIllustration_iff.mp ⟨_, hnext⟩ row ?_).symm
      rw [(insertIllustrationArtist_kept hlinked).2]
      exact (congrArg (Table.get? · versionId) (resolveArtist_kept hresult)).trans hrow
    · rintro ⟨⟨hfits, hnamed⟩, haccepts, hrows⟩
      obtain ⟨⟨artistId, resolved⟩, hresult, hstored⟩ := hresolve.mpr ⟨hfits, hnamed, haccepts⟩
      obtain ⟨linked, hlinked⟩ := (@exists_insertIllustrationArtist_iff { resolved with
        illustrations := resolved.illustrations.insertMissing [(illustrationId, none)] }
        illustrationId artistId).mpr hstored
      obtain ⟨next, hnext⟩ := (@exists_insertVersionIllustration_iff card linked versionId
        illustrationId).mpr fun row hrow => by
          rw [(insertIllustrationArtist_kept hlinked).2] at hrow
          rw [hrows row ((congrArg (Table.get? · versionId)
            (resolveArtist_kept hresult)).symm.trans hrow)]
      exact ⟨next, _, hresult, linked, hlinked, hnext⟩

theorem illustration_of_insertSingleFaced
    (hnext : art.insertSingleFaced uuids card versionId = .ok next) :
    (next.versionIllustrations.get? versionId).map VersionIllustration.illustrationId =
      card.illustrationId := by
  rw [Art.insertSingleFaced] at hnext
  obtain ⟨_, -, hnext⟩ := bind_eq_ok_iff.mp hnext
  cases hillustration : card.illustrationId with
  | none =>
    rw [hillustration] at hnext
    cases hnext
  | some illustrationId =>
    rw [hillustration] at hnext
    obtain ⟨_, -, hnext⟩ := bind_eq_ok_iff.mp hnext
    exact illustration_of_insertVersionIllustration hnext

/-! ### Faces -/

variable {face : CardFace} {faceId : String}

theorem exists_insertFaceIllustration_iff :
    (∃ next, art.insertFaceIllustration faceId face = .ok next) ↔
      (face.illustrationId.isSome → ∃ artistId name, face.artistId = some artistId ∧
        face.artist = some name ∧ name.length ≤ 255) ∧
      ∀ credit, face.credit = some credit → art.artists.Accepts credit := by
  rw [Art.insertFaceIllustration, CardFace.credit]
  cases face.illustrationId with
  | none => simp
  | some illustrationId =>
    cases hartistId : face.artistId with
    | none => simp [bind_eq_ok_iff]
    | some artistId =>
      cases hname : face.artist with
      | none => simp
      | some name =>
        have hbind : (do
            let _ ← some illustrationId
            let artistId ← some artistId
            let name ← some name
            some (artistId, name)) = some (artistId, name) := rfl
        simp only [hbind, Option.some.injEq, forall_eq', Option.isSome_some, forall_const,
          bind_eq_ok_iff, option_forM_eq_ok_iff, varchar_eq_ok_iff, pure_eq_ok_iff, exists_const,
          exists_and_left]
        have hstored : (∃ linked, Art.insertIllustrationArtist { art with
              artists := art.artists.insertDistinct artistId name
              illustrations := art.illustrations.set illustrationId (some face.imageUris) }
              illustrationId artistId = .ok linked) ↔ art.artists.Accepts (artistId, name) :=
          exists_insertIllustrationArtist_iff.trans Table.isSome_get?_insertDistinct
        constructor
        · rintro ⟨hfits, _, linked, hlinked, -⟩
          exact ⟨⟨artistId, rfl, name, rfl, hfits⟩, hstored.mp ⟨linked, hlinked⟩⟩
        · rintro ⟨⟨_, -, _, rfl, hfits⟩, haccepts⟩
          obtain ⟨linked, hlinked⟩ := hstored.mpr haccepts
          exact ⟨hfits, _, linked, hlinked, rfl⟩

theorem insertFaceIllustration_artists
    (hnext : art.insertFaceIllustration faceId face = .ok next) :
    next.artists = face.credit.elim art.artists
        (fun credit => art.artists.insertDistinct credit.1 credit.2) ∧
      next.versionIllustrations = art.versionIllustrations := by
  rw [Art.insertFaceIllustration] at hnext
  rw [CardFace.credit]
  cases hillustration : face.illustrationId with
  | none =>
    rw [hillustration] at hnext
    obtain rfl := pure_eq_ok_iff.mp hnext
    exact ⟨rfl, rfl⟩
  | some illustrationId =>
    simp only [hillustration] at hnext
    obtain ⟨_, -, hnext⟩ := bind_eq_ok_iff.mp hnext
    cases hartistId : face.artistId with
    | none =>
      rw [hartistId] at hnext
      cases hnext
    | some artistId =>
      cases hname : face.artist with
      | none =>
        rw [hartistId, hname] at hnext
        cases hnext
      | some name =>
        rw [hartistId, hname] at hnext
        obtain ⟨linked, hlinked, hnext⟩ := bind_eq_ok_iff.mp hnext
        obtain rfl := pure_eq_ok_iff.mp hnext
        exact insertIllustrationArtist_kept hlinked

theorem exists_insertFace_iff : (∃ next, art.insertFace uuids versionId face = .ok next) ↔
    face.Fits ∧ ∀ credit, face.credit = some credit → art.artists.Accepts credit := by
  simp only [Art.insertFace, bind_eq_ok_iff, option_forM_eq_ok_iff, check_eq_ok_iff,
    exists_const, exists_and_left]
  have hface : face.Fits ↔ (∀ index, face.faceIndex = some index →
      -2147483648 ≤ index ∧ index < 2147483648) ∧
      (face.illustrationId.isSome → ∃ artistId name, face.artistId = some artistId ∧
        face.artist = some name ∧ name.length ≤ 255) :=
    ⟨fun hfits => ⟨hfits.faceIndex, hfits.artist⟩, fun hfits => ⟨hfits.1, hfits.2⟩⟩
  rw [hface, and_assoc]
  refine and_congr_right fun _ => ?_
  cases art.faceOf versionId face.faceIndex with
  | some faceId => exact exists_insertFaceIllustration_iff
  | none => exact exists_insertFaceIllustration_iff

theorem insertFace_artists (hnext : art.insertFace uuids versionId face = .ok next) :
    next.artists = face.credit.elim art.artists
        (fun credit => art.artists.insertDistinct credit.1 credit.2) ∧
      next.versionIllustrations = art.versionIllustrations := by
  obtain ⟨_, -, hnext⟩ := bind_eq_ok_iff.mp hnext
  split at hnext
  · exact insertFaceIllustration_artists hnext
  · have hkept := insertFaceIllustration_artists hnext
    exact hkept

theorem insertFrontIllustration_artists :
    (art.insertFrontIllustration card versionId).artists = art.artists := by
  rw [Art.insertFrontIllustration]
  split <;> rfl

/-- The front illustration stands unless the version has one. -/
theorem illustration_of_insertFrontIllustration (hfaces : card.cardFaces ≠ []) :
    ((art.insertFrontIllustration card versionId).versionIllustrations.get? versionId).map
        VersionIllustration.illustrationId =
      ((art.versionIllustrations.get? versionId).map VersionIllustration.illustrationId).or
        card.illustration := by
  have hillustration : card.illustration =
      card.illustrationId.or (card.cardFaces.head?.bind CardFace.illustrationId) := by
    rw [Card.illustration]
    cases hcase : card.cardFaces with
    | nil => exact absurd hcase hfaces
    | cons => rfl
  rw [Art.insertFrontIllustration, ← hillustration]
  cases card.illustration with
  | none => rw [Option.or_none]
  | some illustrationId =>
    dsimp only
    rw [Table.get?_insertMissing]
    cases art.versionIllustrations.get? versionId with
    | some row => rfl
    | none => simp

end Art

/-! ## The loop over the faces -/

section Faces

variable {uuids : Uuids} {cardId versionId : String} {state next : Cards × Art} {face : CardFace}
  {faces : List CardFace}

/-- The types of a face fit, and the face does. -/
def CardFace.RoundFits (face : CardFace) : Prop :=
  face.Fits ∧ ∀ text ∈ face.supertypes ++ face.types ++ face.subtypes, text.length ≤ 20

theorem exists_round_iff : (∃ next, insertFace uuids cardId versionId state face = .ok next) ↔
    face.RoundFits ∧ ∀ credit, face.credit = some credit →
      state.2.artists.Accepts credit := by
  simp only [insertFace, bind_eq_ok_iff, pure_eq_ok_iff]
  rw [CardFace.RoundFits, and_right_comm, ← @exists_insertFace_iff uuids state.2 versionId,
    ← @exists_insertTypeLine_iff state.1 cardId]
  constructor
  · rintro ⟨next, art, hart, cards, hcards, -⟩
    exact ⟨⟨art, hart⟩, cards, hcards⟩
  · rintro ⟨⟨art, hart⟩, cards, hcards⟩
    exact ⟨_, art, hart, cards, hcards, rfl⟩

theorem round_artists (hnext : insertFace uuids cardId versionId state face = .ok next) :
    next.2.artists = face.credit.elim state.2.artists
      fun credit => state.2.artists.insertDistinct credit.1 credit.2 := by
  obtain ⟨art, hart, hnext⟩ := bind_eq_ok_iff.mp hnext
  obtain ⟨cards, -, hnext⟩ := bind_eq_ok_iff.mp hnext
  rw [pure_eq_ok_iff.mp hnext]
  exact (insertFace_artists hart).1

theorem round_kept (hnext : insertFace uuids cardId versionId state face = .ok next) :
    (next.1.refs, next.1.legalities, next.2.versionIllustrations) =
      (state.1.refs, state.1.legalities, state.2.versionIllustrations) := by
  obtain ⟨art, hart, hnext⟩ := bind_eq_ok_iff.mp hnext
  obtain ⟨cards, hcards, hnext⟩ := bind_eq_ok_iff.mp hnext
  rw [pure_eq_ok_iff.mp hnext]
  have hkept := insertTypeLine_kept hcards
  rw [hkept.refs, hkept.legalities, (insertFace_artists hart).2]

theorem exists_rounds_iff :
    (∃ last, faces.foldlM (insertFace uuids cardId versionId) state = .ok last) ↔
      (∀ face ∈ faces, face.RoundFits) ∧
        state.2.artists.AcceptsAll (faces.filterMap CardFace.credit) := by
  rw [← Table.stepsMeet_accepts_iff, ← stepsMeet_filterMap]
  exact exists_foldlM_iff (fun state : Cards × Art => state.2.artists)
    (fun _ _ => exists_round_iff) fun _ _ _ => round_artists

theorem rounds_kept {last : Cards × Art}
    (hlast : faces.foldlM (insertFace uuids cardId versionId) state = .ok last) :
    (last.1.refs, last.1.legalities, last.2.versionIllustrations) =
      (state.1.refs, state.1.legalities, state.2.versionIllustrations) :=
  foldlM_kept (fun state : Cards × Art =>
    (state.1.refs, state.1.legalities, state.2.versionIllustrations))
    (fun _ _ _ => round_kept) hlast

end Faces

section TypesAndArt

variable {uuids : Uuids} {card : Card} {cardId versionId : String} {cards : Cards}
  {versions : Versions} {art : Art} {result : Cards × Versions × Art}

theorem exists_insertTypesAndArt_iff :
    (∃ result, insertTypesAndArt uuids card cardId versionId cards versions art = .ok result) ↔
      (∀ text ∈ card.allTypes, text.length ≤ 20) ∧ card.CreditsFit art.artists ∧
        art.artists.AcceptsAll card.credits ∧
        (card.cardFaces = [] → ∀ row, art.versionIllustrations.get? versionId = some row →
          card.illustrationId = some row.illustrationId) := by
  cases hfaces : card.cardFaces with
  | nil =>
    simp only [insertTypesAndArt, Card.allTypes, hfaces, bind_eq_ok_iff, pure_eq_ok_iff,
      forall_const]
    rw [← @exists_insertTypeLine_iff cards cardId, ← exists_insertSingleFaced_iff hfaces]
    constructor
    · rintro ⟨_, cards, hcards, art, hart, -⟩
      exact ⟨⟨cards, hcards⟩, art, hart⟩
    · rintro ⟨⟨cards, hcards⟩, art, hart⟩
      exact ⟨_, cards, hcards, art, hart, rfl⟩
  | cons face faces =>
    have hrounds := @exists_rounds_iff uuids cardId versionId
      (cards, art.insertFrontIllustration card versionId) (face :: faces)
    rw [insertFrontIllustration_artists] at hrounds
    simp only [insertTypesAndArt, Card.allTypes, Card.CreditsFit, Card.credits, hfaces,
      bind_eq_ok_iff, pure_eq_ok_iff, reduceCtorEq, IsEmpty.forall_iff, and_true]
    constructor
    · rintro ⟨_, last, hlast, -⟩
      obtain ⟨hfits, haccepts⟩ := hrounds.mp ⟨last, hlast⟩
      refine ⟨fun text htext => ?_, fun face hface => (hfits face hface).1, haccepts⟩
      obtain ⟨face, hface, htext⟩ := List.mem_flatMap.mp htext
      exact (hfits face hface).2 text htext
    · rintro ⟨htypes, hfits, haccepts⟩
      obtain ⟨last, hlast⟩ := hrounds.mpr ⟨fun face hface => ⟨hfits face hface, fun text htext =>
        htypes text (List.mem_flatMap.mpr ⟨face, hface, htext⟩)⟩, haccepts⟩
      exact ⟨_, last, hlast, rfl⟩

/-- What the statements on types and art leave. -/
structure Leaves (card : Card) (versionId : String) (cards : Cards) (versions : Versions)
    (art : Art) (result : Cards × Versions × Art) : Prop where
  cards : cards.Kept result.1
  printings : ∀ id, (result.2.1.rows.get? id).map CardVersion.printing =
    (versions.rows.get? id).map CardVersion.printing
  externalIds : result.2.1.externalIds = versions.externalIds
  illustration : (result.2.2.versionIllustrations.get? versionId).map
      VersionIllustration.illustrationId =
    if card.cardFaces = [] then card.illustrationId
    else ((art.versionIllustrations.get? versionId).map VersionIllustration.illustrationId).or
      card.illustration

theorem insertTypesAndArt_leaves
    (hresult : insertTypesAndArt uuids card cardId versionId cards versions art = .ok result) :
    Leaves card versionId cards versions art result := by
  cases hfaces : card.cardFaces with
  | nil =>
    simp only [insertTypesAndArt, hfaces, bind_eq_ok_iff, pure_eq_ok_iff] at hresult
    obtain ⟨typed, hcards, next, hart, rfl⟩ := hresult
    refine ⟨insertTypeLine_kept hcards, fun _ => rfl, rfl, ?_⟩
    rw [if_pos hfaces]
    exact illustration_of_insertSingleFaced hart
  | cons face faces =>
    simp only [insertTypesAndArt, hfaces, bind_eq_ok_iff, pure_eq_ok_iff] at hresult
    obtain ⟨last, hlast, rfl⟩ := hresult
    have hne : card.cardFaces ≠ [] := by simp [hfaces]
    have hkept := rounds_kept hlast
    simp only [Prod.mk.injEq] at hkept
    refine ⟨⟨hkept.1, hkept.2.1⟩, setMultifaced_printings, rfl, ?_⟩
    rw [if_neg hne, ← illustration_of_insertFrontIllustration hne, ← hkept.2.2]

end TypesAndArt

/-! ## The procedure -/

section Procedure

variable (uuids : Uuids) (catalog : Catalog) (card : Card)

def cardIdOf : String := catalog.cards.idOf uuids card.cardName

/-- The printing under which a card is stored. -/
def printingOf : Printing :=
  ⟨cardIdOf uuids catalog card, (catalog.sets.idOfName card.setName).getD missingSet,
    card.collectorNumber, card.lang.getD "en"⟩

/-- The version of a card, which is new if none has its printing. -/
def versionIdOf : String := catalog.versions.idOf uuids (printingOf uuids catalog card)

/-- What the import of a card asks of the card and the catalogue. -/
structure Importable : Prop where
  fits : card.Fits
  credits : card.CreditsFit catalog.art.artists
  set : catalog.versions.Stored (printingOf uuids catalog card) ∨
    (catalog.sets.rows.get? (printingOf uuids catalog card).setId).isSome
  artists : catalog.art.artists.AcceptsAll card.credits
  illustration : card.cardFaces = [] → ∀ row,
    catalog.art.versionIllustrations.get? (versionIdOf uuids catalog card) = some row →
      card.illustrationId = some row.illustrationId

/-- What the import of a card leaves. -/
structure Outcome (versionId : String) (next : Catalog) : Prop where
  version : versionId = versionIdOf uuids catalog card
  sets : next.sets = catalog.sets
  refs : next.cards.refs = catalog.cards.refs.insertMissing [(card.cardName,
    ⟨cardIdOf uuids catalog card, card.cmc, card.manaCost, card.reserved⟩)]
  legalities : next.cards.legalities = catalog.cards.legalities.insertMissing
    (card.legalFormats.map fun legal => ((cardIdOf uuids catalog card, legal.1), legal.2))
  printings : ∀ id, (next.versions.rows.get? id).map CardVersion.printing =
    if id = versionId then some (printingOf uuids catalog card)
    else (catalog.versions.rows.get? id).map CardVersion.printing
  externalIds : next.versions.externalIds = catalog.versions.externalIds.insertMissing
    (card.identifiers.map fun entry => ((versionId, entry.1), entry.2))
  illustration : (next.art.versionIllustrations.get? versionId).map
      VersionIllustration.illustrationId =
    if card.cardFaces = [] then card.illustrationId
    else ((catalog.art.versionIllustrations.get? versionId).map
      VersionIllustration.illustrationId).or card.illustration

variable {uuids catalog card}

theorem exists_import_iff :
    (∃ result, insertFullCardVersion uuids card catalog = .ok result) ↔
      Importable uuids catalog card := by
  simp only [insertFullCardVersion, bind_eq_ok_iff, pure_eq_ok_iff, insertCard_eq_ok_iff,
    insertLegalities_eq_ok_iff]
  constructor
  · rintro ⟨_, cards, ⟨hmana, rfl⟩, versions, hversions, ⟨typed, attributed, art⟩, hmiddle,
      gamed, hgames, colored, hcolors, keyed, hkeywords, _, ⟨hlegal, -⟩, -⟩
    obtain ⟨hversionFits, hset⟩ := exists_insertVersion_iff.mp ⟨_, hversions⟩
    obtain ⟨htypes, hcredits, hartists, hillustration⟩ :=
      exists_insertTypesAndArt_iff.mp ⟨_, hmiddle⟩
    exact ⟨⟨hmana, hversionFits.rarityName, hversionFits.borderColor, hversionFits.frameYear,
      hversionFits.layoutName, hversionFits.collectorNumber, hversionFits.lang, htypes,
      exists_insertGames_iff.mp ⟨_, hgames⟩, exists_insertColors_iff.mp ⟨_, hcolors⟩,
      exists_insertKeywords_iff.mp ⟨_, hkeywords⟩, hlegal⟩, hcredits, hset, hartists,
      hillustration⟩
  · rintro ⟨hfits, hcredits, hset, hartists, hillustration⟩
    obtain ⟨versions, hversions⟩ := exists_insertVersion_iff.mpr
      ⟨⟨hfits.rarityName, hfits.borderColor, hfits.frameYear, hfits.layoutName,
        hfits.collectorNumber, hfits.lang⟩, hset⟩
    obtain ⟨⟨typed, attributed, art⟩, hmiddle⟩ := exists_insertTypesAndArt_iff.mpr
      ⟨hfits.types, hcredits, hartists, hillustration⟩
    obtain ⟨gamed, hgames⟩ := exists_insertGames_iff.mpr hfits.games
    obtain ⟨colored, hcolors⟩ := exists_insertColors_iff.mpr hfits.colors
    obtain ⟨keyed, hkeywords⟩ := exists_insertKeywords_iff.mpr hfits.keywords
    exact ⟨_, _, ⟨hfits.manaCost, rfl⟩, versions, hversions, _, hmiddle, gamed, hgames, colored,
      hcolors, keyed, hkeywords, _, ⟨hfits.legalities, rfl⟩, rfl⟩

theorem outcome_of_import {versionId : String} {next : Catalog}
    (himport : insertFullCardVersion uuids card catalog = .ok (versionId, next)) :
    Outcome uuids catalog card versionId next := by
  simp only [insertFullCardVersion, bind_eq_ok_iff, pure_eq_ok_iff, insertCard_eq_ok_iff,
    insertLegalities_eq_ok_iff, Prod.mk.injEq] at himport
  obtain ⟨cards, ⟨-, rfl⟩, versions, hversions, ⟨typed, attributed, art⟩, hmiddle, gamed, hgames,
    colored, hcolors, keyed, hkeywords, _, ⟨-, rfl⟩, rfl, rfl⟩ := himport
  have hgains := insertVersion_gains hversions
  have hleaves := insertTypesAndArt_leaves hmiddle
  have hgamed := insertGames_kept hgames
  have hcolored := insertColors_kept hcolors
  have hkeyed := insertKeywords_kept hkeywords
  exact {
    version := rfl
    sets := rfl
    refs := hkeyed.refs.trans (hcolored.refs.trans hleaves.cards.refs)
    legalities := by
      rw [hkeyed.legalities, hcolored.legalities, hleaves.cards.legalities]
      rfl
    printings := fun id => by
      rw [hgamed.1]
      exact (hleaves.printings id).trans (hgains.printings id)
    externalIds := by
      rw [hgamed.2, hleaves.externalIds, Versions.withAttributes, hgains.externalIds]
    illustration := hleaves.illustration }

end Procedure

end AutoMana.CardCatalog
