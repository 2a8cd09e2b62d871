import AutoMana.CardCatalog.Legalities
import AutoMana.CardCatalog.SetOutcome

/-!
# The version of a scryfall card

A version is found by name, set, collector number and language, and is known by a scryfall id
that no constraint makes unique. The two agree as long as every import finds the version that
has the id of its card.
-/

namespace AutoMana.CardCatalog

open Relational Statement

/-! ## Imports of records -/

/-- The catalogue, the record that each scryfall card was last imported from, and the versions
that the imports of scryfall ids returned. -/
structure Imports where
  catalog : Catalog
  latest : Table String CreateCard
  resolved : List (String × String)

def Imports.ofSets (sets : Sets) : Imports := ⟨.ofSets sets, .empty, []⟩

inductive Record where
  | set (record : NewSet)
  | card (card : CreateCard)

/-- What is known of an import that succeeded. -/
def Imports.cardImported (imports : Imports) (card : CreateCard) (versionId : String)
    (next : Catalog) : Imports where
  catalog := next
  latest := card.scryfallId.elim imports.latest (imports.latest.set · card)
  resolved := (card.scryfallId.map (·, versionId)).toList ++ imports.resolved

/-- A record in its block. -/
def importRecord (uuids : Uuids) (imports : Imports) : Record → Imports
  | .set record => { imports with catalog :=
      { imports.catalog with sets := attempt (·.insertSet record) imports.catalog.sets } }
  | .card card =>
    match importCard uuids imports.catalog card with
    | .error _ => imports
    | .ok (versionId, next) => imports.cardImported card versionId next

/-- A call of one of the two procedures. -/
inductive Batch where
  | sets (records : List NewSet)
  | cards (records : List CreateCard)

def Batch.records : Batch → List Record
  | .sets records => records.map .set
  | .cards records => records.map .card

def importBatch (uuids : Uuids) (catalog : Catalog) : Batch → Catalog
  | .sets records => { catalog with sets := (insertBatchSets catalog.sets records).2 }
  | .cards records => (insertBatchCardVersions uuids catalog records).2

/-! ## What is claimed -/

namespace Catalog

variable (catalog : Catalog)

/-- A version has a scryfall id. -/
def Holds (versionId scryfallId : String) : Prop :=
  catalog.versions.externalIds.get? (versionId, .scryfallId) = some scryfallId

def printing? (versionId : String) : Option Printing :=
  (catalog.versions.rows.get? versionId).map CardVersion.printing

def knowsSet (setId : String) : Prop := (catalog.sets.rows.get? setId).isSome

instance (versionId scryfallId : String) : Decidable (catalog.Holds versionId scryfallId) :=
  inferInstanceAs (Decidable (_ = _))

instance (setId : String) : Decidable (catalog.knowsSet setId) :=
  inferInstanceAs (Decidable (_ = true))

end Catalog

/-- Every scryfall id is held by one version at most, and that of an imported card by one that is
of the set of the card, once the set is known. Two scryfall cards have two versions. -/
structure OneVersionEach (imports : Imports) : Prop where
  unique : ∀ scryfallId versionId other, imports.catalog.Holds versionId scryfallId →
    imports.catalog.Holds other scryfallId → versionId = other
  held : ∀ scryfallId card, imports.latest.get? scryfallId = some card →
    ∃ versionId, imports.catalog.Holds versionId scryfallId ∧
      (imports.catalog.knowsSet card.setId →
        (imports.catalog.printing? versionId).map Printing.setId = some card.setId)
  distinct : ∀ first ∈ imports.resolved, ∀ second ∈ imports.resolved,
    first.2 = second.2 → first.1 = second.1

/-! ## What is asked of a record -/

/-- A card is stored under the printing of the version that has its scryfall id, no version of
this printing has another one, and the printing is of the set of the card, if this is known. -/
structure Identified (catalog : Catalog) (printing : Printing) (scryfallId setId : String) :
    Prop where
  same : ∀ versionId, catalog.Holds versionId scryfallId →
    catalog.printing? versionId = some printing
  own : ∀ versionId other, catalog.printing? versionId = some printing →
    catalog.Holds versionId other → other = scryfallId
  set : catalog.knowsSet setId → printing.setId = setId

/-- A set that is new comes before its cards, and a card is identified, whenever the record does
not raise. -/
def KeepsIdentity (uuids : Uuids) (imports : Imports) : Record → Prop
  | .set record =>
    (record.RowFits ∧ imports.catalog.sets.taken record = false) ∧ record.IconFits →
      imports.catalog.knowsSet record.setId ∨
        ∀ scryfallId card, imports.latest.get? scryfallId = some card →
          card.setId ≠ record.setId
  | .card card => ∀ sent scryfallId, card.modelDumpForSql = .ok sent →
      Importable uuids imports.catalog sent → card.scryfallId = some scryfallId →
        Identified imports.catalog (printingOf uuids imports.catalog sent) scryfallId card.setId

/-! ## One card -/

section Card

variable {uuids : Uuids} {catalog next : Catalog} {sent : Card} {versionId : String}

/-- The only scryfall id of a record is its own. -/
theorem mem_identifiers_scryfallId_iff {card : Card} {scryfallId : String} :
    (Identifier.scryfallId, scryfallId) ∈ card.identifiers ↔
      card.scryfallId = some scryfallId := by
  simp [Card.identifiers]

theorem holds_of_outcome (houtcome : Outcome uuids catalog sent versionId next)
    (other scryfallId : String) : next.Holds other scryfallId ↔
      catalog.Holds other scryfallId ∨ other = versionId ∧
        sent.scryfallId = some scryfallId ∧ ∀ held, ¬ catalog.Holds versionId held := by
  have hbrought : ∀ value, ((other, Identifier.scryfallId), value) ∈
      sent.identifiers.map (fun entry => ((versionId, entry.1), entry.2)) ↔
        (if other = versionId then sent.scryfallId else none) = some value := by
    intro value
    rw [List.mem_map]
    constructor
    · rintro ⟨⟨identifier, held⟩, hentry, heq⟩
      obtain ⟨⟨rfl, rfl⟩, rfl⟩ := by simpa only [Prod.mk.injEq] using heq
      rw [if_pos rfl]
      exact mem_identifiers_scryfallId_iff.mp hentry
    · intro hvalue
      split_ifs at hvalue with hother
      exact ⟨_, mem_identifiers_scryfallId_iff.mpr hvalue, by rw [hother]⟩
  simp only [Catalog.Holds, houtcome.externalIds, Table.get?_insertMissing_of_mem_iff hbrought]
  rw [Option.or_eq_some_iff]
  refine or_congr_right ?_
  constructor
  · rintro ⟨hnone, hvalue⟩
    split_ifs at hvalue with hother
    subst hother
    exact ⟨rfl, hvalue, fun held hheld => by rw [hnone] at hheld; cases hheld⟩
  · rintro ⟨rfl, hvalue, hnone⟩
    exact ⟨Option.eq_none_iff_forall_ne_some.mpr hnone, by rw [if_pos rfl, hvalue]⟩

/-- Where a version is stored under the id that an import returns, it is of the printing. -/
theorem printing?_versionIdOf {printing : Printing}
    (hprinting : catalog.printing? (versionIdOf uuids catalog sent) = some printing) :
    printing = printingOf uuids catalog sent := by
  obtain ⟨row, hrow, rfl⟩ := Option.map_eq_some_iff.mp hprinting
  rw [versionIdOf, Versions.idOf] at hrow
  split at hrow
  next found hfound =>
    have hget := (Table.mem_rows_iff _ _ _).mp (List.mem_of_find?_eq_some hfound)
    rw [hget] at hrow
    cases hrow
    simpa using List.find?_some hfound
  next hnone =>
    -- a new id is no version's
    refine absurd ?_ (uuids.isNew (catalog.versions.rows.rows.map Prod.fst))
    exact (Table.mem_keys_iff _ _).mpr (Option.isSome_of_eq_some hrow)

/-- A version that is stored under the printing is found. -/
theorem versionIdOf_of_printing {other : String}
    (hunique : ∀ versionId other printing, catalog.printing? versionId = some printing →
      catalog.printing? other = some printing → versionId = other)
    (hother : catalog.printing? other = some (printingOf uuids catalog sent)) :
    other = versionIdOf uuids catalog sent := by
  obtain ⟨row, hrow, hprinting⟩ := Option.map_eq_some_iff.mp hother
  refine hunique _ _ _ hother ?_
  rw [versionIdOf, Versions.idOf]
  split
  next found hfound =>
    have hget := (Table.mem_rows_iff _ _ _).mp (List.mem_of_find?_eq_some hfound)
    rw [Catalog.printing?, hget, Option.map_some]
    exact congrArg some (by simpa using List.find?_some hfound)
  next hnone =>
    rw [List.find?_eq_none] at hnone
    exact absurd (decide_eq_true hprinting) (hnone _ ((Table.mem_rows_iff _ _ _).mpr hrow))

end Card

/-! ## All imports -/

/-- What holds of the imports so far. -/
structure Consistent (imports : Imports) : Prop where
  unique : ∀ scryfallId versionId other, imports.catalog.Holds versionId scryfallId →
    imports.catalog.Holds other scryfallId → versionId = other
  held : ∀ scryfallId card, imports.latest.get? scryfallId = some card →
    ∃ versionId, imports.catalog.Holds versionId scryfallId ∧
      (imports.catalog.knowsSet card.setId →
        (imports.catalog.printing? versionId).map Printing.setId = some card.setId)
  resolved : ∀ scryfallId versionId, (scryfallId, versionId) ∈ imports.resolved ↔
    imports.catalog.Holds versionId scryfallId
  stored : ∀ versionId scryfallId, imports.catalog.Holds versionId scryfallId →
    ∃ printing, imports.catalog.printing? versionId = some printing
  printings : ∀ versionId other printing, imports.catalog.printing? versionId = some printing →
    imports.catalog.printing? other = some printing → versionId = other
  sets : ∀ versionId printing, imports.catalog.printing? versionId = some printing →
    imports.catalog.knowsSet printing.setId

theorem Catalog.Holds.functional {catalog : Catalog} {versionId scryfallId other : String}
    (hholds : catalog.Holds versionId scryfallId) (hother : catalog.Holds versionId other) :
    scryfallId = other :=
  Option.some.inj (hholds.symm.trans hother)

theorem Consistent.oneVersionEach {imports : Imports} (hconsistent : Consistent imports) :
    OneVersionEach imports where
  unique := hconsistent.unique
  held := hconsistent.held
  distinct first hfirst second hsecond hsame := by
    have hheld := (hconsistent.resolved second.1 second.2).mp hsecond
    rw [← hsame] at hheld
    exact ((hconsistent.resolved first.1 first.2).mp hfirst).functional hheld

theorem consistent_ofSets (sets : Sets) : Consistent (.ofSets sets) where
  unique _ _ _ hholds := by cases hholds
  held _ _ hlatest := by cases hlatest
  resolved _ _ := iff_of_false (fun hmem => by cases hmem) fun hholds => by cases hholds
  stored _ _ hholds := by cases hholds
  printings _ _ _ hprinting := by cases hprinting
  sets _ _ hprinting := by cases hprinting

/-! ## A step of the imports -/

section Step

variable {uuids : Uuids} {imports : Imports} {record : NewSet} {card : CreateCard} {sent : Card}
  {versionId : String} {next : Catalog}

theorem importRecord_set_of_ok {sets : Sets}
    (hinsert : imports.catalog.sets.insertSet record = .ok sets) :
    importRecord uuids imports (.set record) =
      { imports with catalog := { imports.catalog with sets := sets } } := by
  have hsets : attempt (·.insertSet record) imports.catalog.sets = sets := attempt_of_ok hinsert
  rw [importRecord, hsets]

theorem Consistent.importSet (hconsistent : Consistent imports)
    (hkeeps : KeepsIdentity uuids imports (.set record)) :
    Consistent (importRecord uuids imports (.set record)) := by
  by_cases hfits : (record.RowFits ∧ imports.catalog.sets.taken record = false) ∧ record.IconFits
  · obtain ⟨sets, hinsert⟩ := exists_insertSet_iff.mpr hfits
    rw [importRecord_set_of_ok hinsert]
    refine { hconsistent with held := ?_, sets := ?_ }
    · intro scryfallId latest hlatest
      obtain ⟨versionId, hholds, hset⟩ := hconsistent.held scryfallId latest hlatest
      refine ⟨versionId, hholds, fun hknown => hset ?_⟩
      rcases (isSome_get?_insertSet hinsert latest.setId).mp hknown with hnew | hknown
      · rcases hkeeps hfits with hstored | hbefore
        · exact hnew ▸ hstored
        · exact absurd hnew (hbefore scryfallId latest hlatest)
      · exact hknown
    · intro versionId printing hprinting
      exact (isSome_get?_insertSet hinsert printing.setId).mpr
        (Or.inr (hconsistent.sets versionId printing hprinting))
  · have hraises : ∀ sets, imports.catalog.sets.insertSet record ≠ .ok sets :=
      fun sets hinsert => hfits (exists_insertSet_iff.mp ⟨sets, hinsert⟩)
    have hsets : attempt (·.insertSet record) imports.catalog.sets = imports.catalog.sets :=
      attempt_of_error hraises
    rw [importRecord, hsets]
    exact hconsistent

theorem KeepsIdentity.of_oneVersionEach_set (hconsistent : Consistent imports)
    (hone : OneVersionEach (importRecord uuids imports (.set record))) :
    KeepsIdentity uuids imports (.set record) := by
  intro hfits
  obtain ⟨sets, hinsert⟩ := exists_insertSet_iff.mpr hfits
  rw [importRecord_set_of_ok hinsert] at hone
  refine or_iff_not_imp_left.mpr fun hnew scryfallId latest hlatest hsame => hnew ?_
  -- the version of a card of the set would be of a set that is not stored
  obtain ⟨versionId, -, hset⟩ := hone.held scryfallId latest hlatest
  have hprinting := hset ((isSome_get?_insertSet hinsert latest.setId).mpr (Or.inl hsame))
  obtain ⟨printing, hprinting, hsetId⟩ := Option.map_eq_some_iff.mp hprinting
  rw [← hsame, ← hsetId]
  exact hconsistent.sets versionId printing hprinting

theorem importCard_eq_ok_iff {result : String × Catalog} {catalog : Catalog} :
    importCard uuids catalog card = .ok result ↔ ∃ sent, card.modelDumpForSql = .ok sent ∧
      insertFullCardVersion uuids sent catalog = .ok result :=
  bind_eq_ok_iff

theorem modelDumpForSql_scryfallId (hsent : card.modelDumpForSql = .ok sent) :
    sent.scryfallId = card.scryfallId := by
  rw [CreateCard.modelDumpForSql] at hsent
  split at hsent
  next => cases hsent
  next => cases hsent; rfl

/-- A version that is stored under the id of a card is of its printing. -/
theorem Consistent.printing_of_holds (hconsistent : Consistent imports) {scryfallId : String}
    (hholds : imports.catalog.Holds (versionIdOf uuids imports.catalog sent) scryfallId) :
    imports.catalog.printing? (versionIdOf uuids imports.catalog sent) =
      some (printingOf uuids imports.catalog sent) := by
  obtain ⟨printing, hprinting⟩ := hconsistent.stored _ _ hholds
  rw [hprinting, printing?_versionIdOf hprinting]

theorem mem_resolved_iff {scryfallId other : String} :
    (scryfallId, other) ∈ (imports.cardImported card versionId next).resolved ↔
      card.scryfallId = some scryfallId ∧ other = versionId ∨
        (scryfallId, other) ∈ imports.resolved := by
  simp [Imports.cardImported, eq_comm]

theorem latest_cardImported (scryfallId : String) :
    (imports.cardImported card versionId next).latest.get? scryfallId =
      if card.scryfallId = some scryfallId then some card
      else imports.latest.get? scryfallId := by
  rw [Imports.cardImported]
  cases card.scryfallId with
  | none => simp
  | some own => simp [eq_comm]

theorem knowsSet_of_outcome (houtcome : Outcome uuids imports.catalog sent versionId next)
    (setId : String) : next.knowsSet setId ↔ imports.catalog.knowsSet setId := by
  rw [Catalog.knowsSet, houtcome.sets, Catalog.knowsSet]

/-- The set of a printing under which a card is imported is stored. -/
theorem Consistent.knowsSet_printingOf (hconsistent : Consistent imports)
    (himportable : Importable uuids imports.catalog sent) :
    imports.catalog.knowsSet (printingOf uuids imports.catalog sent).setId := by
  rcases himportable.set with hstored | hknown
  · obtain ⟨row, hrow⟩ := Option.isSome_iff_exists.mp hstored
    have hget := (Table.mem_rows_iff _ _ _).mp (List.mem_of_find?_eq_some hrow)
    have hprinting : row.2.printing = printingOf uuids imports.catalog sent := by
      simpa using List.find?_some hrow
    exact hconsistent.sets row.1 _ (Option.map_eq_some_iff.mpr ⟨row.2, hget, hprinting⟩)
  · exact hknown

/-- The version of an identified card has its scryfall id. -/
theorem holds_own (hconsistent : Consistent imports)
    (houtcome : Outcome uuids imports.catalog sent versionId next)
    (hsent : sent.scryfallId = card.scryfallId) {scryfallId : String}
    (hown : card.scryfallId = some scryfallId)
    (hidentified : Identified imports.catalog (printingOf uuids imports.catalog sent) scryfallId
      card.setId) : next.Holds versionId scryfallId := by
  obtain rfl := houtcome.version
  rw [holds_of_outcome houtcome]
  by_cases hheld : ∃ held, imports.catalog.Holds (versionIdOf uuids imports.catalog sent) held
  · obtain ⟨held, hholds⟩ := hheld
    obtain rfl := hidentified.own _ held (hconsistent.printing_of_holds hholds) hholds
    exact Or.inl hholds
  · exact Or.inr ⟨rfl, hsent.trans hown, not_exists.mp hheld⟩

/-- A version of the scryfall id of an identified card is the one that is found. -/
theorem versionIdOf_of_holds (hconsistent : Consistent imports) {scryfallId other : String}
    (hidentified : Identified imports.catalog (printingOf uuids imports.catalog sent) scryfallId
      card.setId) (hholds : imports.catalog.Holds other scryfallId) :
    other = versionIdOf uuids imports.catalog sent :=
  versionIdOf_of_printing hconsistent.printings (hidentified.same other hholds)

theorem printing?_of_outcome (houtcome : Outcome uuids imports.catalog sent versionId next)
    (id : String) : next.printing? id =
      if id = versionIdOf uuids imports.catalog sent then
        some (printingOf uuids imports.catalog sent) else imports.catalog.printing? id := by
  obtain rfl := houtcome.version
  exact houtcome.printings id

/-- An import does not change the printing of a version. -/
theorem printing?_kept_of_outcome (houtcome : Outcome uuids imports.catalog sent versionId next)
    {id : String} {printing : Printing} (hprinting : imports.catalog.printing? id = some printing) :
    next.printing? id = some printing := by
  rw [printing?_of_outcome houtcome]
  split_ifs with hid
  · subst hid
    rw [printing?_versionIdOf hprinting]
  · exact hprinting

/-- The version that is imported is the only one of its printing, and the others had theirs. -/
theorem printing?_cases_of_outcome (hconsistent : Consistent imports)
    (houtcome : Outcome uuids imports.catalog sent versionId next) {id : String}
    {printing : Printing} (hprinting : next.printing? id = some printing) :
    (printing = printingOf uuids imports.catalog sent ∧
        id = versionIdOf uuids imports.catalog sent) ∨
      (printing ≠ printingOf uuids imports.catalog sent ∧
        imports.catalog.printing? id = some printing) := by
  rw [printing?_of_outcome houtcome] at hprinting
  split_ifs at hprinting with hversion
  · exact Or.inl ⟨(Option.some.inj hprinting).symm, hversion⟩
  · by_cases hsame : printing = printingOf uuids imports.catalog sent
    · exact Or.inl ⟨hsame, versionIdOf_of_printing hconsistent.printings (hsame ▸ hprinting)⟩
    · exact Or.inr ⟨hsame, hprinting⟩

theorem Consistent.cardImported (hconsistent : Consistent imports)
    (himportable : Importable uuids imports.catalog sent)
    (houtcome : Outcome uuids imports.catalog sent versionId next)
    (hsent : sent.scryfallId = card.scryfallId)
    (hidentified : ∀ scryfallId, card.scryfallId = some scryfallId →
      Identified imports.catalog (printingOf uuids imports.catalog sent) scryfallId card.setId) :
    Consistent (imports.cardImported card versionId next) := by
  obtain rfl := houtcome.version
  have hprintings := printing?_of_outcome houtcome
  have hfound : ∀ scryfallId other, card.scryfallId = some scryfallId →
      imports.catalog.Holds other scryfallId → other = versionIdOf uuids imports.catalog sent :=
    fun scryfallId _ hown => versionIdOf_of_holds hconsistent (hidentified scryfallId hown)
  refine ⟨?unique, ?held, ?resolved, ?stored, ?printings, ?sets⟩
  case unique =>
    intro scryfallId first second hfirst hsecond
    rcases (holds_of_outcome houtcome _ _).mp hfirst with hfirst | ⟨hfirst, hown, -⟩
    · rcases (holds_of_outcome houtcome _ _).mp hsecond with hsecond | ⟨hsecond, hown, -⟩
      · exact hconsistent.unique scryfallId first second hfirst hsecond
      · exact (hfound scryfallId first (hsent.symm.trans hown) hfirst).trans hsecond.symm
    · rcases (holds_of_outcome houtcome _ _).mp hsecond with hsecond | ⟨hsecond, -, -⟩
      · exact hfirst.trans (hfound scryfallId second (hsent.symm.trans hown) hsecond).symm
      · exact hfirst.trans hsecond.symm
  case held =>
    intro scryfallId latest hlatest
    rw [latest_cardImported] at hlatest
    split_ifs at hlatest with hown
    · cases hlatest
      have hknown := (hidentified scryfallId hown).set
      refine ⟨_, holds_own hconsistent houtcome hsent hown (hidentified scryfallId hown),
        fun hset => ?_⟩
      change (next.printing? _).map Printing.setId = _
      rw [hprintings, if_pos rfl, Option.map_some,
        hknown ((knowsSet_of_outcome houtcome card.setId).mp hset)]
    · obtain ⟨other, hholds, hset⟩ := hconsistent.held scryfallId latest hlatest
      refine ⟨other, (holds_of_outcome houtcome _ _).mpr (Or.inl hholds), fun hknown => ?_⟩
      obtain ⟨printing, hprinting⟩ := hconsistent.stored other scryfallId hholds
      change (next.printing? other).map Printing.setId = _
      rw [printing?_kept_of_outcome houtcome hprinting, ← hprinting,
        hset ((knowsSet_of_outcome houtcome latest.setId).mp hknown)]
  case resolved =>
    intro scryfallId other
    rw [mem_resolved_iff, hconsistent.resolved]
    constructor
    · rintro (⟨hown, rfl⟩ | hholds)
      · exact holds_own hconsistent houtcome hsent hown (hidentified scryfallId hown)
      · exact (holds_of_outcome houtcome _ _).mpr (Or.inl hholds)
    · intro hholds
      rcases (holds_of_outcome houtcome _ _).mp hholds with hholds | ⟨hother, hown, -⟩
      · exact Or.inr hholds
      · exact Or.inl ⟨hsent.symm.trans hown, hother⟩
  case stored =>
    intro other scryfallId hholds
    rcases (holds_of_outcome houtcome _ _).mp hholds with hholds | ⟨hother, -, -⟩
    · obtain ⟨printing, hprinting⟩ := hconsistent.stored other scryfallId hholds
      exact ⟨printing, printing?_kept_of_outcome houtcome hprinting⟩
    · exact ⟨_, (hprintings other).trans (if_pos hother)⟩
  case printings =>
    intro first second printing hfirst hsecond
    rcases printing?_cases_of_outcome hconsistent houtcome hfirst with
      ⟨hnew, hversion⟩ | ⟨hold, hstored⟩
    · rcases printing?_cases_of_outcome hconsistent houtcome hsecond with
        ⟨-, hother⟩ | ⟨hold, -⟩
      · exact hversion.trans hother.symm
      · exact absurd hnew hold
    · rcases printing?_cases_of_outcome hconsistent houtcome hsecond with
        ⟨hnew, -⟩ | ⟨-, hother⟩
      · exact absurd hnew hold
      · exact hconsistent.printings first second printing hstored hother
  case sets =>
    intro other printing hprinting
    change next.printing? other = some printing at hprinting
    refine (knowsSet_of_outcome houtcome printing.setId).mpr ?_
    rw [hprintings] at hprinting
    split_ifs at hprinting with hother
    · cases hprinting
      exact hconsistent.knowsSet_printingOf himportable
    · exact hconsistent.sets other printing hprinting

theorem identified_of_oneVersionEach (hconsistent : Consistent imports)
    (houtcome : Outcome uuids imports.catalog sent versionId next)
    (hsent : sent.scryfallId = card.scryfallId) {scryfallId : String}
    (hown : card.scryfallId = some scryfallId)
    (hone : OneVersionEach (imports.cardImported card versionId next)) :
    Identified imports.catalog (printingOf uuids imports.catalog sent) scryfallId card.setId := by
  obtain rfl := houtcome.version
  have hresolved : (scryfallId, versionIdOf uuids imports.catalog sent) ∈
      (imports.cardImported card (versionIdOf uuids imports.catalog sent) next).resolved :=
    mem_resolved_iff.mpr (Or.inl ⟨hown, rfl⟩)
  -- what the version held before is the scryfall id of the card
  have hheld : ∀ held,
      imports.catalog.Holds (versionIdOf uuids imports.catalog sent) held → held = scryfallId := by
    intro held hholds
    have hbefore := (hconsistent.resolved held _).mpr hholds
    exact hone.distinct _ (mem_resolved_iff.mpr (Or.inr hbefore)) _ hresolved rfl
  have hversion : next.Holds (versionIdOf uuids imports.catalog sent) scryfallId := by
    rw [holds_of_outcome houtcome]
    by_cases hany : ∃ held, imports.catalog.Holds (versionIdOf uuids imports.catalog sent) held
    · obtain ⟨held, hholds⟩ := hany
      exact Or.inl (hheld held hholds ▸ hholds)
    · exact Or.inr ⟨rfl, hsent.trans hown, not_exists.mp hany⟩
  refine ⟨fun other hholds => ?_, fun other held hprinting hholds => ?_, fun hknown => ?_⟩
  · have hother : next.Holds other scryfallId :=
      (holds_of_outcome houtcome _ _).mpr (Or.inl hholds)
    obtain rfl := hone.unique scryfallId other _ hother hversion
    exact hconsistent.printing_of_holds hholds
  · obtain rfl := versionIdOf_of_printing hconsistent.printings hprinting
    exact hheld held hholds
  · obtain ⟨other, hholds, hset⟩ := hone.held scryfallId card
      ((latest_cardImported scryfallId).trans (if_pos hown))
    obtain rfl := hone.unique scryfallId other _ hholds hversion
    have hprinting : next.printing? (versionIdOf uuids imports.catalog sent) =
        some (printingOf uuids imports.catalog sent) :=
      (houtcome.printings _).trans (if_pos rfl)
    have hcard := hset ((knowsSet_of_outcome houtcome card.setId).mpr hknown)
    change (next.printing? _).map Printing.setId = _ at hcard
    rw [hprinting, Option.map_some] at hcard
    exact Option.some.inj hcard

/-- An import of a card does nothing, or it is that of a record that is sent and importable. -/
theorem importRecord_card_cases :
    importRecord uuids imports (.card card) = imports ∧
        (∀ sent, card.modelDumpForSql = .ok sent → ¬ Importable uuids imports.catalog sent) ∨
      ∃ sent versionId next, card.modelDumpForSql = .ok sent ∧
        Importable uuids imports.catalog sent ∧
        Outcome uuids imports.catalog sent versionId next ∧
        importRecord uuids imports (.card card) = imports.cardImported card versionId next := by
  cases himport : importCard uuids imports.catalog card with
  | error error =>
    refine Or.inl ⟨by rw [importRecord, himport], fun sent hsent himportable => ?_⟩
    obtain ⟨result, hresult⟩ := exists_import_iff.mpr himportable
    rw [importCard_eq_ok_iff.mpr ⟨sent, hsent, hresult⟩] at himport
    cases himport
  | ok result =>
    obtain ⟨versionId, next⟩ := result
    obtain ⟨sent, hsent, hinsert⟩ := importCard_eq_ok_iff.mp himport
    exact Or.inr ⟨sent, versionId, next, hsent, exists_import_iff.mp ⟨_, hinsert⟩,
      outcome_of_import hinsert, by rw [importRecord, himport]⟩

theorem Consistent.importRecord (hconsistent : Consistent imports) {record : Record}
    (hkeeps : KeepsIdentity uuids imports record) :
    Consistent (importRecord uuids imports record) := by
  cases record with
  | set record => exact hconsistent.importSet hkeeps
  | card card =>
    rcases @importRecord_card_cases uuids imports card with
      ⟨hsame, -⟩ | ⟨sent, versionId, next, hsent, himportable, houtcome, hnext⟩
    · rw [hsame]
      exact hconsistent
    · rw [hnext]
      exact hconsistent.cardImported himportable houtcome (modelDumpForSql_scryfallId hsent)
        fun scryfallId hown => hkeeps sent scryfallId hsent himportable hown

theorem KeepsIdentity.of_oneVersionEach (hconsistent : Consistent imports) {record : Record}
    (hone : OneVersionEach (importRecord uuids imports record)) :
    KeepsIdentity uuids imports record := by
  cases record with
  | set record => exact .of_oneVersionEach_set hconsistent hone
  | card card =>
    intro sent scryfallId hsent himportable hown
    rcases @importRecord_card_cases uuids imports card with
      ⟨-, hraises⟩ | ⟨other, versionId, next, hother, -, houtcome, hnext⟩
    · exact absurd himportable (hraises sent hsent)
    · cases hsent.symm.trans hother
      rw [hnext] at hone
      exact identified_of_oneVersionEach hconsistent houtcome (modelDumpForSql_scryfallId hsent)
        hown hone

end Step

/-! ## Batches -/

section Batches

variable {uuids : Uuids}

theorem catalog_importRecord_card (imports : Imports) (card : CreateCard) :
    (importRecord uuids imports (.card card)).catalog =
      ((importCard uuids imports.catalog card).toOption.map Prod.snd).getD imports.catalog := by
  rw [importRecord]
  cases importCard uuids imports.catalog card <;> rfl

theorem catalog_foldl_records (batch : Batch) (imports : Imports) :
    (batch.records.foldl (importRecord uuids) imports).catalog =
      importBatch uuids imports.catalog batch := by
  cases batch with
  | sets records =>
    rw [Batch.records, importBatch, insertBatchSets]
    generalize (⟨records.length, 0, 0, [], []⟩ : SetsReply) = reply
    induction records generalizing imports reply with
    | nil => rfl
    | cons record rest ih =>
        rw [List.map_cons, List.foldl_cons, ih _ (reply.processed imports.catalog.sets record).1,
          List.foldl_cons, importRecord, ← processed_sets reply]
  | cards records =>
    rw [Batch.records, importBatch, insertBatchCardVersions]
    generalize (⟨0, 0, 0, 0, [], []⟩ : CardsReply) = reply
    induction records generalizing imports reply with
    | nil => rfl
    | cons card rest ih =>
        rw [List.map_cons, List.foldl_cons,
          ih _ (reply.processed (importCard uuids imports.catalog card) card.cardName),
          List.foldl_cons, catalog_importRecord_card]

/-- The records one after the other leave what the batches leave. -/
theorem catalog_foldl_batches (batches : List Batch) (imports : Imports) :
    ((batches.flatMap Batch.records).foldl (importRecord uuids) imports).catalog =
      batches.foldl (importBatch uuids) imports.catalog := by
  induction batches generalizing imports with
  | nil => rfl
  | cons batch rest ih =>
      rw [List.flatMap_cons, List.foldl_append, ih, catalog_foldl_records, List.foldl_cons]

end Batches

/-- After every record of every sequence of batches the scryfall cards have one version each
exactly when every set comes before its cards and every card is identified by its printing. The
records leave what the batches do. -/
theorem oneVersionEach_iff (uuids : Uuids) (sets : Sets) (batches : List Batch) :
    (batches.foldl (importBatch uuids) (.ofSets sets) =
        ((batches.flatMap Batch.records).foldl (importRecord uuids) (.ofSets sets)).catalog) ∧
      ((∀ imports ∈ Run.visited (importRecord uuids) (.ofSets sets)
          (batches.flatMap Batch.records), OneVersionEach imports) ↔
        Run.StepsMeet (importRecord uuids) (KeepsIdentity uuids) (.ofSets sets)
          (batches.flatMap Batch.records)) :=
  ⟨(catalog_foldl_batches batches (.ofSets sets)).symm,
    Run.forall_visited_iff_of_inv (fun _ => Consistent.oneVersionEach)
      (fun _ _ hconsistent => hconsistent.importRecord)
      (fun _ _ hconsistent => KeepsIdentity.of_oneVersionEach hconsistent)
      (consistent_ofSets sets)⟩

/-! ## Cards that have two versions or share one -/

/-- The sets when the set of cards without a set is stored too. -/
def missing : Sets where
  rows := .single missingSet ⟨"Missing Set", "miss", "", "1970-01-01", false, false, false, none⟩
  icons := .empty

def alphaRecord : NewSet :=
  ⟨"s", "Alpha", "lea", "core", "1993-08-05", false, false, false, none, none⟩

/-- The imports after some batches. -/
def importsOf (sets : Sets) (batches : List Batch) : Imports :=
  (batches.flatMap Batch.records).foldl (importRecord .longer) (.ofSets sets)

/-- A corrected collector number or name gives a scryfall id a second version. A card that is
imported before its set stays in the set of cards without one, has a second version when it is
imported again, and shares the first with a card of its name and number in another set. -/
theorem versions_differ :
    (∀ corrected ∈ [{ forest with collectorNumber := "295" }, { forest with cardName := "Wood" }],
      ¬ OneVersionEach (importsOf alpha [.cards [forest], .cards [corrected]])) ∧
    ¬ OneVersionEach (importsOf missing [.cards [forest], .sets [alphaRecord]]) ∧
    ¬ OneVersionEach (importsOf missing [.cards [forest], .sets [alphaRecord], .cards [forest]]) ∧
    ¬ OneVersionEach (importsOf missing
      [.cards [forest,
        { forest with setName := "Beta", setId := "b", scryfallId := some "g" }]]) := by
  have htwo : ∀ imports : Imports, imports.catalog.Holds "u" "f" → imports.catalog.Holds "uu" "f" →
      ¬ OneVersionEach imports :=
    fun imports hfirst hsecond hone => absurd (hone.unique "f" "u" "uu" hfirst hsecond) (by decide)
  refine ⟨List.forall_mem_cons.mpr ⟨?_, List.forall_mem_singleton.mpr ?_⟩, ?_, ?_, ?_⟩
  · exact htwo _ (by decide) (by decide)
  · exact htwo _ (by decide) (by decide)
  · intro hone
    obtain ⟨versionId, hholds, hset⟩ := hone.held "f" forest rfl
    obtain rfl := hone.unique "f" versionId "u" hholds (by decide)
    exact absurd (hset (by decide)) (by decide)
  · exact htwo _ (by decide) (by decide)
  · intro hone
    exact absurd (hone.distinct ("f", "u") (by decide) ("g", "u") (by decide) rfl) (by decide)

end AutoMana.CardCatalog
