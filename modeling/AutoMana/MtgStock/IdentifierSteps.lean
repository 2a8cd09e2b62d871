import AutoMana.MtgStock.IdentifierMapping

/-!
# One step of the mapping

A step finds for each entry the card of its identifier, as long as no two prints share an
identifier that a card has. It puts what it finds behind what is resolved, in the order of
the entries of each card.
-/

namespace AutoMana.MtgStock

open Relational Pricing

/-! ## What a step finds -/

/-- A query that looks its keys up independently of each other. For each card it answers the
keys of the card, in the order in which they are asked. -/
def Answers {K : Type} [DecidableEq K] (fetch : List K → Table K CardVersionId)
    (cardOf : K → Option CardVersionId) : Prop :=
  ∀ keys : List K, keys.Nodup → ∀ card,
    ((fetch keys).rows.filter fun row => row.2 = card).map Prod.fst =
      keys.filter fun key => cardOf key = some card

section Found

variable {K : Type} [DecidableEq K] {keyOf : IdData → Option K}
  {fetch : List K → Table K CardVersionId} {cardOf : K → Option CardVersionId}
  {data : List IdData} {card : CardVersionId}

/-- A print has one entry. -/
def OneEntry (data : List IdData) : Prop :=
  ∀ d ∈ data, ∀ d' ∈ data, d.printId = d'.printId → d = d'

/-- No two prints have one identifier that a card has. -/
def Unshared (keyOf : IdData → Option K) (cardOf : K → Option CardVersionId)
    (data : List IdData) : Prop :=
  ∀ d ∈ data, ∀ d' ∈ data, ∀ key, keyOf d = some key → keyOf d' = some key →
    (cardOf key).isSome → d.printId = d'.printId

theorem mem_answered_iff (hanswers : Answers fetch cardOf) {keys : List K} (hnodup : keys.Nodup)
    {key : K} : (key, card) ∈ (fetch keys).rows ↔ key ∈ keys ∧ cardOf key = some card := by
  have hkeys := hanswers keys hnodup card
  have hmem : key ∈ ((fetch keys).rows.filter fun row => row.2 = card).map Prod.fst ↔
      (key, card) ∈ (fetch keys).rows := by
    simp only [List.mem_map, List.mem_filter, decide_eq_true_eq, Prod.exists, exists_and_right,
      exists_eq_right]
  rw [← hmem, hkeys, List.mem_filter, decide_eq_true_eq]

theorem exists_of_printOf {key : K} {printId : Int}
    (hprint : (printOf keyOf data).get? key = some printId) :
    ∃ d ∈ data, keyOf d = some key ∧ d.printId = printId := by
  rw [printOf, Table.get?_ofPairs] at hprint
  obtain ⟨first, rest, hrows, -⟩ := List.lookup_eq_some_iff.mp hprint
  have hmem : (key, printId) ∈ data.filterMap fun d => (keyOf d).map (·, d.printId) := by
    rw [← List.mem_reverse, hrows]
    exact List.mem_append_right _ List.mem_cons_self
  obtain ⟨d, hd, hpair⟩ := List.mem_filterMap.mp hmem
  obtain ⟨key', hkey, hsame⟩ := Option.map_eq_some_iff.mp hpair
  obtain ⟨rfl, rfl⟩ := Prod.mk.inj hsame
  exact ⟨d, hd, hkey, rfl⟩

theorem mem_keys_printOf {key : K} :
    key ∈ (printOf keyOf data).rows.map Prod.fst ↔ ∃ d ∈ data, keyOf d = some key := by
  rw [printOf, Table.mem_keys_ofPairs, List.map_filterMap, List.mem_filterMap]
  refine exists_congr fun d => and_congr_right fun _ => ?_
  cases keyOf d <;> simp

/-- An identifier that is not shared leads back to its print. -/
theorem printOf_eq (hunshared : Unshared keyOf cardOf data) {d : IdData} (hd : d ∈ data) {key : K}
    (hkey : keyOf d = some key) (hcard : (cardOf key).isSome) :
    (printOf keyOf data).get? key = some d.printId := by
  have hmem := (Table.mem_keys_iff _ _).mp (mem_keys_printOf.mpr ⟨d, hd, hkey⟩)
  obtain ⟨printId, hprint⟩ := Option.isSome_iff_exists.mp hmem
  obtain ⟨d', hd', hkey', rfl⟩ := exists_of_printOf hprint
  rw [hprint, hunshared d hd d' hd' key hkey hkey' hcard]

theorem mem_found_iff (hanswers : Answers fetch cardOf) (hunshared : Unshared keyOf cardOf data)
    {printId : Int} : (printId, card) ∈ found keyOf fetch data ↔
      ∃ d ∈ data, d.printId = printId ∧ (keyOf d).bind cardOf = some card := by
  simp only [found, List.mem_filterMap, Option.map_eq_some_iff, Prod.mk.injEq, Prod.exists]
  constructor
  · intro hfound
    obtain ⟨key, card', hrow, _, hprint, rfl, rfl⟩ := hfound
    obtain ⟨d, hd, hkey, rfl⟩ := exists_of_printOf hprint
    have hcard := ((mem_answered_iff hanswers (Table.nodup_keys _)).mp hrow).2
    exact ⟨d, hd, rfl, by rw [hkey, Option.bind_some, hcard]⟩
  · intro hentry
    obtain ⟨d, hd, rfl, hbind⟩ := hentry
    obtain ⟨key, hkey, hcard⟩ := Option.bind_eq_some_iff.mp hbind
    refine ⟨key, card, ?_, d.printId, ?_, rfl, rfl⟩
    · exact (mem_answered_iff hanswers (Table.nodup_keys _)).mpr
        ⟨mem_keys_printOf.mpr ⟨d, hd, hkey⟩, hcard⟩
    · exact printOf_eq hunshared hd hkey (Option.isSome_of_eq_some hcard)

/-- Each print is found once. -/
theorem nodup_found (honce : OneEntry data) :
    ((found keyOf fetch data).map Prod.fst).Nodup := by
  rw [List.Nodup, List.pairwise_map, found, List.pairwise_filterMap]
  have hrows := (fetch ((printOf keyOf data).rows.map Prod.fst)).nodup_keys
  rw [List.Nodup, List.pairwise_map] at hrows
  refine hrows.imp ?_
  intro row row' hne entry hentry entry' hentry' hsame
  obtain ⟨printId, hprint, rfl⟩ := Option.map_eq_some_iff.mp hentry
  obtain ⟨printId', hprint', rfl⟩ := Option.map_eq_some_iff.mp hentry'
  obtain ⟨d, hd, hkey, rfl⟩ := exists_of_printOf hprint
  obtain ⟨d', hd', hkey', rfl⟩ := exists_of_printOf hprint'
  obtain rfl := honce d hd d' hd' hsame
  rw [hkey] at hkey'
  exact hne (Option.some.inj hkey')

/-- The print of an identifier that a card has, when it is eligible. -/
def readPrint (keyOf : IdData → Option K) (cardOf : K → Option CardVersionId) (data : List IdData)
    (card : CardVersionId) (eligible : Int → Bool) (key : K) : Option Int :=
  if cardOf key = some card then ((printOf keyOf data).get? key).filter eligible else none

theorem prints_found (hanswers : Answers fetch cardOf) (eligible : Int → Bool) :
    (((found keyOf fetch data).filter fun entry => eligible entry.1).filter
        fun entry => entry.2 = card).map Prod.fst =
      ((printOf keyOf data).rows.map Prod.fst).filterMap
        (readPrint keyOf cardOf data card eligible) := by
  have hread : ((printOf keyOf data).rows.map Prod.fst).filterMap
      (readPrint keyOf cardOf data card eligible) =
      (((printOf keyOf data).rows.map Prod.fst).filter fun key => cardOf key = some card).filterMap
        fun key => ((printOf keyOf data).get? key).filter eligible := by
    rw [List.filterMap_filter]
    simp only [decide_eq_true_eq]
    rfl
  rw [hread, ← hanswers _ (Table.nodup_keys _) card, List.filterMap_map, List.filterMap_filter,
    found, List.filter_filterMap, List.filter_filterMap, List.map_filterMap]
  congr 1
  funext row
  rw [Function.comp_apply]
  cases (printOf keyOf data).get? row.1 with
  | none => simp
  | some printId =>
    by_cases hcard : row.2 = card <;> cases heligible : eligible printId <;>
      simp [hcard, heligible, Option.filter]

theorem prints_entries (hunshared : Unshared keyOf cardOf data) (eligible : Int → Bool) :
    (data.filter fun d => eligible d.printId ∧ (keyOf d).bind cardOf = some card).map
        IdData.printId =
      (data.filterMap keyOf).filterMap (readPrint keyOf cardOf data card eligible) := by
  rw [List.filterMap_filterMap, ← List.filterMap_eq_map, List.filterMap_filter]
  apply List.filterMap_congr
  intro d hd
  cases hkey : keyOf d with
  | none => simp
  | some key =>
    by_cases hcard : cardOf key = some card
    · have hprint := printOf_eq hunshared hd hkey (Option.isSome_of_eq_some hcard)
      cases heligible : eligible d.printId <;>
        simp [readPrint, hcard, hprint, heligible, Option.filter]
    · simp [readPrint, hcard]

/-- The first print that is found for a card is the first entry with the card. -/
theorem head?_found (hanswers : Answers fetch cardOf) (hunshared : Unshared keyOf cardOf data)
    (eligible : Int → Bool) :
    (((found keyOf fetch data).filter fun entry => eligible entry.1).filter
        fun entry => entry.2 = card).head?.map Prod.fst =
      (data.filter fun d => eligible d.printId ∧ (keyOf d).bind cardOf = some card).head?.map
        IdData.printId := by
  have hpairs : (data.filterMap fun d => (keyOf d).map (·, d.printId)).map Prod.fst =
      data.filterMap keyOf := by
    rw [List.map_filterMap]
    congr 1
    funext d
    cases keyOf d <;> rfl
  rw [← List.head?_map, ← List.head?_map, prints_found hanswers, prints_entries hunshared,
    ← hpairs]
  exact Table.head?_filterMap_keys_ofPairs _ _

theorem get?_of_mem_found {resolved : Table Int CardVersionId}
    {entry : Int × CardVersionId} (hentry : entry ∈ found keyOf fetch (remaining data resolved)) :
    resolved.get? entry.1 = none := by
  obtain ⟨row, -, hrow⟩ := List.mem_filterMap.mp hentry
  obtain ⟨printId, hprint, rfl⟩ := Option.map_eq_some_iff.mp hrow
  obtain ⟨d, hd, -, rfl⟩ := exists_of_printOf hprint
  exact Option.isNone_iff_eq_none.mp (List.mem_filter.mp hd).2

/-- A step puts what it finds behind what is resolved. -/
theorem rows_resolveStep {resolved : Table Int CardVersionId}
    {accepts : Table Int CardVersionId → Int → Bool} (eligible : Int → Bool)
    (haccepts : ∀ dict printId, dict.get? printId = none →
      accepts dict printId = eligible printId)
    (honce : OneEntry (remaining data resolved)) :
    (resolveStep keyOf fetch accepts data resolved).rows = resolved.rows ++
      (found keyOf fetch (remaining data resolved)).filter fun entry => eligible entry.1 := by
  have hnodup : ((found keyOf fetch (remaining data resolved)).map Prod.fst).Nodup :=
    nodup_found honce
  have hnew : ∀ entry ∈ found keyOf fetch (remaining data resolved),
      resolved.get? entry.1 = none := fun _ => get?_of_mem_found
  rw [resolveStep, Table.foldl_set_if haccepts hnodup hnew]
  apply Table.rows_setAll
  · exact hnodup.sublist (List.filter_sublist.map Prod.fst)
  · exact fun entry hentry => hnew entry (List.mem_filter.mp hentry).1

/-- A step resolves the entries that are eligible and not resolved. -/
theorem get?_resolveStep (hanswers : Answers fetch cardOf) {resolved : Table Int CardVersionId}
    {accepts : Table Int CardVersionId → Int → Bool} (eligible : Int → Bool)
    (haccepts : ∀ dict printId, dict.get? printId = none →
      accepts dict printId = eligible printId)
    (honce : OneEntry data) (hunshared : Unshared keyOf cardOf (remaining data resolved))
    {d : IdData} (hd : d ∈ data) :
    (resolveStep keyOf fetch accepts data resolved).get? d.printId =
      (resolved.get? d.printId).or
        (if eligible d.printId then (keyOf d).bind cardOf else none) := by
  have honce' : OneEntry (remaining data resolved) := fun e he e' he' =>
    honce e (List.mem_filter.mp he).1 e' (List.mem_filter.mp he').1
  rw [Table.get?, rows_resolveStep eligible haccepts honce', List.lookup_append, ← Table.get?]
  cases hresolved : resolved.get? d.printId with
  | some card => rfl
  | none =>
    have hremains : d ∈ remaining data resolved :=
      List.mem_filter.mpr ⟨hd, by rw [hresolved]; rfl⟩
    rw [Option.none_or, Option.none_or]
    apply Option.ext
    intro card
    rw [Table.lookup_eq_some_iff_mem, List.mem_filter, mem_found_iff hanswers hunshared]
    · split_ifs with heligible
      · constructor
        · rintro ⟨⟨d', hd', hsame, hcard⟩, -⟩
          rw [honce' d hremains d' hd' hsame.symm]
          exact hcard
        · exact fun hcard => ⟨⟨d, hremains, rfl, hcard⟩, heligible⟩
      · exact iff_of_false (fun hfound => heligible hfound.2) (by simp)
    · exact (nodup_found honce').sublist (List.filter_sublist.map Prod.fst)

/-- Queries that answer at most one key for each card. -/
theorem answers_of_injective
    (hget : ∀ keys key, (fetch keys).get? key = if key ∈ keys then cardOf key else none)
    (hinjective : ∀ key key' card, cardOf key = some card → cardOf key' = some card →
      key = key') : Answers fetch cardOf := by
  intro keys hnodup card
  have hperm : (((fetch keys).rows.filter fun row => row.2 = card).map Prod.fst).Perm
      (keys.filter fun key => cardOf key = some card) := by
    refine (List.perm_ext_iff_of_nodup ?_ (hnodup.filter _)).mpr ?_
    · exact (fetch keys).nodup_keys.sublist (List.filter_sublist.map Prod.fst)
    · intro key
      simp only [List.mem_map, List.mem_filter, decide_eq_true_eq, Prod.exists, exists_and_right,
        exists_eq_right, Table.mem_rows_iff, hget]
      split_ifs with hmem <;> simp [hmem]
  cases hkeys : keys.filter fun key => cardOf key = some card with
  | nil => exact List.perm_nil.mp (hkeys ▸ hperm)
  | cons key rest =>
    have hall : ∀ other ∈ key :: rest, cardOf other = some card := by
      intro other hother
      rw [← hkeys] at hother
      exact of_decide_eq_true (List.mem_filter.mp hother).2
    have hrest : rest = [] := by
      by_contra hne
      obtain ⟨other, hother⟩ := List.exists_mem_of_ne_nil rest hne
      have hsame := hinjective key other card (hall key List.mem_cons_self)
        (hall other (List.mem_cons_of_mem _ hother))
      have hnodup' := hnodup.filter fun key => cardOf key = some card
      rw [hkeys, List.nodup_cons] at hnodup'
      exact hnodup'.1 (hsame ▸ hother)
    rw [hkeys, hrest] at hperm
    rw [hrest]
    exact List.perm_singleton.mp hperm

end Found

/-! ## The queries -/

section Queries

variable {catalogue : Catalogue} {external : ExternalIdentifiers} {name : String}

/-- The cards by the values of an identifier. -/
def identifiers (catalogue : Catalogue) (name : String) (external : ExternalIdentifiers) :
    Table String CardVersionId :=
  Table.ofPairs ((external.rows.filter fun row =>
    catalogue.cardIdentifierRef.get? row.1.2 = some name).map fun row => (row.2, row.1.1))

theorem get?_fetchByIdentifier (values : List String) (value : String) :
    (fetchByIdentifier catalogue name external values).get? value =
      if value ∈ values then (identifiers catalogue name external).get? value else none := by
  have hrows : identifierRows catalogue name external values =
      ((external.rows.filter fun row => catalogue.cardIdentifierRef.get? row.1.2 = some name).map
        fun row => (row.2, row.1.1)).filter fun row => decide (row.1 ∈ values) := by
    rw [identifierRows, List.filter_map, List.filter_filter]
    congr 1
    apply List.filter_congr
    intro row _
    simp [and_comm]
  rw [fetchByIdentifier, hrows, Table.get?_ofPairs_filter _ fun value => decide (value ∈ values)]
  simp only [decide_eq_true_eq]
  rfl

/-- A card has one value of an identifier. -/
theorem identifiers_injective {value value' : String} {card : CardVersionId}
    (hvalue : (identifiers catalogue name external).get? value = some card)
    (hvalue' : (identifiers catalogue name external).get? value' = some card) :
    value = value' := by
  have hstored : ∀ {value}, (identifiers catalogue name external).get? value = some card →
      ∃ ref, catalogue.cardIdentifierRef.get? ref = some name ∧
        external.get? (card, ref) = some value := by
    intro value hvalue
    rw [identifiers, Table.get?_ofPairs] at hvalue
    obtain ⟨first, rest, hrows, -⟩ := List.lookup_eq_some_iff.mp hvalue
    have hmem : (value, card) ∈ (external.rows.filter fun row =>
        catalogue.cardIdentifierRef.get? row.1.2 = some name).map fun row => (row.2, row.1.1) := by
      rw [← List.mem_reverse, hrows]
      exact List.mem_append_right _ List.mem_cons_self
    obtain ⟨⟨⟨_, ref⟩, _⟩, hrow, hsame⟩ := List.mem_map.mp hmem
    obtain ⟨rfl, rfl⟩ := Prod.mk.inj hsame
    obtain ⟨hrow, hname⟩ := List.mem_filter.mp hrow
    exact ⟨ref, of_decide_eq_true hname, (Table.mem_rows_iff _ _ _).mp hrow⟩
  obtain ⟨ref, hname, hget⟩ := hstored hvalue
  obtain ⟨ref', hname', hget'⟩ := hstored hvalue'
  rw [Table.key_unique catalogue.identifierName_unique hname hname', hget'] at hget
  exact (Option.some.inj hget).symm

theorem answers_identifier : Answers (fetchByIdentifier catalogue name external)
    (identifiers catalogue name external).get? :=
  answers_of_injective get?_fetchByIdentifier fun _ _ _ => identifiers_injective

/-- The card of a set code and a collector number. -/
def setCollectorCard (catalogue : Catalogue) (pair : String × String) : Option CardVersionId :=
  (Table.ofPairs (printings catalogue)).get? (catalogue.lower pair.1, pair.2)

theorem fetchBySetCollector_eq (catalogue : Catalogue) (pairs : List (String × String)) :
    fetchBySetCollector catalogue pairs = Table.ofPairs (pairs.filterMap fun pair =>
      (setCollectorCard catalogue pair).map (pair, ·)) := by
  rw [fetchBySetCollector]
  congr 1
  apply List.filterMap_congr
  intro pair hpair
  rw [Table.get?_ofPairs_filter (printings catalogue) fun key =>
      decide (key.1 ∈ pairs.map fun pair => catalogue.lower pair.1),
    if_pos (decide_eq_true (List.mem_map_of_mem hpair)), setCollectorCard]

theorem answers_setCollector : Answers (fetchBySetCollector catalogue)
    (setCollectorCard catalogue) := by
  intro pairs hnodup card
  have hkeys : ((pairs.filterMap fun pair => (setCollectorCard catalogue pair).map (pair, ·)).map
      Prod.fst).Nodup := by
    refine hnodup.sublist ?_
    have hsome : (fun pair => ((setCollectorCard catalogue pair).map (pair, ·)).map Prod.fst) =
        Option.guard fun pair => (setCollectorCard catalogue pair).isSome := by
      funext pair
      cases hcard : setCollectorCard catalogue pair <;> simp [Option.guard, hcard]
    rw [List.map_filterMap, hsome, List.filterMap_eq_filter]
    exact List.filter_sublist
  rw [fetchBySetCollector_eq, Table.rows_ofPairs hkeys, List.filter_filterMap, List.map_filterMap,
    ← List.filterMap_eq_filter]
  congr 1
  funext pair
  cases hcard : setCollectorCard catalogue pair with
  | none => simp [Option.guard, hcard]
  | some other => by_cases hsame : other = card <;> simp [hcard, hsame, Option.filter, Option.guard]

/-- The prints that are inserted are no values of another identifier. -/
theorem identifiers_upsert (hname : name ≠ "mtgstock_id") (resolved : Table Int CardVersionId) :
    identifiers catalogue name (upsertMtgstockIdMappings catalogue resolved external) =
      identifiers catalogue name external := by
  obtain ⟨added, hrows, hadded⟩ := Table.exists_rows_insertMissing external
    (resolved.rows.map fun row => ((row.2, catalogue.mtgstockRefId), toString row.1))
  have hnone : (added.filter fun row =>
      catalogue.cardIdentifierRef.get? row.1.2 = some name) = [] := by
    rw [List.filter_eq_nil_iff]
    intro row hrow hsame
    obtain ⟨entry, -, rfl⟩ := List.mem_map.mp (hadded hrow)
    have hseeded := catalogue.mtgstock_seeded
    rw [of_decide_eq_true hsame] at hseeded
    exact hname (Option.some.inj hseeded)
  rw [identifiers, upsertMtgstockIdMappings, hrows, List.filter_append, hnone, List.append_nil]
  rfl

end Queries

end AutoMana.MtgStock
