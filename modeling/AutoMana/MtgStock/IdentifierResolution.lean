import AutoMana.MtgStock.IdentifierSteps

/-!
# A batch of the mapping

A print on its own is resolved by the first of its identifiers that a card has. A batch
without shared identifiers resolves each of its prints like that, and inserts for a card the
first of its prints, when the prints of the card do not go back to an earlier step.
-/

namespace AutoMana.MtgStock

open Relational Pricing

/-! ## A print on its own -/

/-- What a print is found by. -/
inductive Identifier where
  | scryfall (id : String)
  | tcgplayer (id : String)
  | setCollector (pair : String × String)

/-- The step that asks for an identifier. -/
def Identifier.step : Identifier → Nat
  | .scryfall _ => 1
  | .tcgplayer _ => 2
  | .setCollector _ => 3

section Alone

variable (catalogue : Catalogue) (external : ExternalIdentifiers) (d : IdData)

def byScryfall : Option CardVersionId :=
  (nonempty d.scryfallId).bind (identifiers catalogue "scryfall_id" external).get?

def byTcgplayer : Option CardVersionId :=
  (nonempty d.tcgId).bind (identifiers catalogue "tcgplayer_id" external).get?

def bySetCollector : Option CardVersionId := d.pair?.bind (setCollectorCard catalogue)

/-- The first identifier of a print that a card has, with the card. -/
def identifiedBy : Option (Identifier × CardVersionId) :=
  ((nonempty d.scryfallId).bind fun id =>
    ((identifiers catalogue "scryfall_id" external).get? id).map (Identifier.scryfall id, ·)).or
  (((nonempty d.tcgId).bind fun id =>
    ((identifiers catalogue "tcgplayer_id" external).get? id).map (Identifier.tcgplayer id, ·)).or
  (d.pair?.bind fun pair =>
    (setCollectorCard catalogue pair).map (Identifier.setCollector pair, ·)))

/-- How a print is resolved on its own. The last step passes over a print 0. -/
def resolution : Option (Identifier × CardVersionId) :=
  (identifiedBy catalogue external d).filter fun found => found.1.step ≠ 3 || d.printId ≠ 0

/-- The step that resolves a print on its own, and the card. -/
def stepOf : Option (Nat × CardVersionId) :=
  (resolution catalogue external d).map fun found => (found.1.step, found.2)

end Alone

section Batch

variable {catalogue : Catalogue} {external : ExternalIdentifiers} {data : List IdData}
  {d : IdData} {card : CardVersionId}

theorem bind_map_eq_none {α β γ : Type} {value : Option α} {read : α → Option β}
    (hnone : value.bind read = none) (pair : α → β → γ) :
    (value.bind fun key => (read key).map (pair key)) = none := by
  rw [Option.bind_eq_none_iff] at hnone ⊢
  intro key hkey
  rw [hnone key hkey, Option.map_none]

theorem stepOf_eq : stepOf catalogue external d =
    ((byScryfall catalogue external d).map (1, ·)).or
      (((byTcgplayer catalogue external d).map (2, ·)).or
        (if d.printId ≠ 0 then (bySetCollector catalogue d).map (3, ·) else none)) := by
  unfold stepOf resolution identifiedBy byScryfall byTcgplayer bySetCollector
  generalize nonempty d.scryfallId = scryfallId
  generalize nonempty d.tcgId = tcgId
  cases hscryfall : scryfallId.bind (identifiers catalogue "scryfall_id" external).get? with
  | some found =>
    obtain ⟨id, rfl, hfound⟩ := Option.bind_eq_some_iff.mp hscryfall
    simp [hfound, Identifier.step, Option.filter]
  | none =>
    rw [bind_map_eq_none hscryfall, Option.none_or, Option.map_none, Option.none_or]
    cases htcgplayer : tcgId.bind (identifiers catalogue "tcgplayer_id" external).get? with
    | some found =>
      obtain ⟨id, rfl, hfound⟩ := Option.bind_eq_some_iff.mp htcgplayer
      simp [hfound, Identifier.step, Option.filter]
    | none =>
      rw [bind_map_eq_none htcgplayer, Option.none_or, Option.map_none, Option.none_or]
      cases d.pair? with
      | none => simp
      | some pair =>
        cases hfound : setCollectorCard catalogue pair <;>
          by_cases hzero : d.printId = 0 <;> simp [hfound, hzero, Identifier.step, Option.filter]

/-- No two prints are found by one identifier. -/
def Distinct (catalogue : Catalogue) (external : ExternalIdentifiers) (data : List IdData) : Prop :=
  ∀ d ∈ data, ∀ d' ∈ data, ∀ identifier card card',
    identifiedBy catalogue external d = some (identifier, card) →
    identifiedBy catalogue external d' = some (identifier, card') → d.printId = d'.printId

theorem unshared_scryfall (hdistinct : Distinct catalogue external data) :
    Unshared (fun d => nonempty d.scryfallId) (identifiers catalogue "scryfall_id" external).get?
      data := by
  intro d hd d' hd' id hid hid' hcard
  obtain ⟨card, hcard⟩ := Option.isSome_iff_exists.mp hcard
  have hidentified : ∀ {d : IdData}, nonempty d.scryfallId = some id →
      identifiedBy catalogue external d = some (.scryfall id, card) := by
    intro d hid
    simp [identifiedBy, hid, hcard]
  exact hdistinct d hd d' hd' _ card card (hidentified hid) (hidentified hid')

theorem unshared_tcgplayer (hdistinct : Distinct catalogue external data) :
    Unshared (fun d => nonempty d.tcgId) (identifiers catalogue "tcgplayer_id" external).get?
      (data.filter fun d => (byScryfall catalogue external d).isNone) := by
  intro d hd d' hd' id hid hid' hcard
  obtain ⟨card, hcard⟩ := Option.isSome_iff_exists.mp hcard
  obtain ⟨hd, hnone⟩ := List.mem_filter.mp hd
  obtain ⟨hd', hnone'⟩ := List.mem_filter.mp hd'
  have hidentified : ∀ {d : IdData}, (byScryfall catalogue external d).isNone →
      nonempty d.tcgId = some id →
      identifiedBy catalogue external d = some (.tcgplayer id, card) := by
    intro d hnone hid
    rw [identifiedBy, bind_map_eq_none (Option.isNone_iff_eq_none.mp hnone)]
    simp [hid, hcard]
  exact hdistinct d hd d' hd' _ card card (hidentified hnone hid) (hidentified hnone' hid')

theorem unshared_setCollector (hdistinct : Distinct catalogue external data) :
    Unshared IdData.pair? (setCollectorCard catalogue)
      (data.filter fun d =>
        (byTcgplayer catalogue external d).isNone && (byScryfall catalogue external d).isNone) := by
  intro d hd d' hd' pair hpair hpair' hcard
  obtain ⟨card, hcard⟩ := Option.isSome_iff_exists.mp hcard
  obtain ⟨hd, hnone⟩ := List.mem_filter.mp hd
  obtain ⟨hd', hnone'⟩ := List.mem_filter.mp hd'
  rw [Bool.and_eq_true, Option.isNone_iff_eq_none, Option.isNone_iff_eq_none] at hnone hnone'
  have hidentified : ∀ {d : IdData}, byTcgplayer catalogue external d = none ∧
      byScryfall catalogue external d = none → d.pair? = some pair →
      identifiedBy catalogue external d = some (.setCollector pair, card) := by
    intro d hnone hpair
    rw [identifiedBy, bind_map_eq_none hnone.2, bind_map_eq_none hnone.1]
    simp [hpair, hcard]
  exact hdistinct d hd d' hd' _ card card (hidentified hnone hpair) (hidentified hnone' hpair')

/-! ## A batch -/

theorem remaining_empty (data : List IdData) : remaining data .empty = data :=
  List.filter_eq_self.mpr fun _ _ => rfl

theorem get?_resolveScryfall (honce : OneEntry data)
    (hdistinct : Distinct catalogue external data) (hd : d ∈ data) :
    (resolveScryfall catalogue external data .empty).get? d.printId =
      byScryfall catalogue external d := by
  have hunshared := unshared_scryfall hdistinct
  rw [← remaining_empty data] at hunshared
  exact get?_resolveStep answers_identifier (fun _ => true) (fun _ _ _ => rfl) honce hunshared hd

theorem remaining_resolveScryfall (honce : OneEntry data)
    (hdistinct : Distinct catalogue external data) :
    remaining data (resolveScryfall catalogue external data .empty) =
      data.filter fun d => (byScryfall catalogue external d).isNone := by
  apply List.filter_congr
  intro d hd
  rw [get?_resolveScryfall honce hdistinct hd]

theorem get?_resolveTcgplayer (honce : OneEntry data)
    (hdistinct : Distinct catalogue external data) (hd : d ∈ data) :
    (resolveTcgplayer catalogue external data
        (resolveScryfall catalogue external data .empty)).get? d.printId =
      (byScryfall catalogue external d).or (byTcgplayer catalogue external d) := by
  have hunshared := unshared_tcgplayer hdistinct
  rw [← remaining_resolveScryfall honce hdistinct] at hunshared
  rw [← get?_resolveScryfall honce hdistinct hd]
  exact get?_resolveStep answers_identifier (fun _ => true) (fun _ _ _ => rfl) honce hunshared hd

theorem remaining_resolveTcgplayer (honce : OneEntry data)
    (hdistinct : Distinct catalogue external data) :
    remaining data (resolveTcgplayer catalogue external data
        (resolveScryfall catalogue external data .empty)) =
      data.filter fun d =>
        (byTcgplayer catalogue external d).isNone && (byScryfall catalogue external d).isNone := by
  apply List.filter_congr
  intro d hd
  rw [get?_resolveTcgplayer honce hdistinct hd]
  cases byScryfall catalogue external d <;> cases byTcgplayer catalogue external d <;> rfl

theorem accepts_setCollector (dict : Table Int CardVersionId) (printId : Int)
    (hnew : dict.get? printId = none) :
    (printId ≠ 0 && (dict.get? printId).isNone) = decide (printId ≠ 0) := by
  rw [hnew, Option.isNone_none, Bool.and_true]

/-- A batch without shared identifiers resolves each of its prints as on its own. -/
theorem get?_resolveBatch (honce : OneEntry data) (hdistinct : Distinct catalogue external data)
    (hd : d ∈ data) : (resolveBatch catalogue external data).get? d.printId =
      (stepOf catalogue external d).map Prod.snd := by
  have hunshared := unshared_setCollector hdistinct
  rw [← remaining_resolveTcgplayer honce hdistinct] at hunshared
  have hstep := get?_resolveStep answers_setCollector (fun printId => decide (printId ≠ 0))
    accepts_setCollector honce hunshared hd
  rw [resolveBatch, resolveSetCollector, hstep, get?_resolveTcgplayer honce hdistinct hd, stepOf_eq]
  cases byScryfall catalogue external d with
  | some found => rfl
  | none =>
    cases byTcgplayer catalogue external d with
    | some found => rfl
    | none =>
      rw [bySetCollector]
      by_cases hzero : d.printId = 0 <;>
        cases d.pair?.bind (setCollectorCard catalogue) <;> simp [hzero]

/-- The first of three ranks in a list whose ranks do not go down. -/
theorem head?_filter_rank {α : Type} {items : List α} {rank : α → Option Nat}
    (hranks : ∀ item ∈ items, ∀ found, rank item = some found → found = 1 ∨ found = 2 ∨ found = 3)
    (hordered : items.Pairwise fun left right =>
      ∀ first second, rank left = some first → rank right = some second → first ≤ second) :
    (items.filter fun item => (rank item).isSome).head? =
      (items.filter fun item => rank item = some 1).head?.or
        ((items.filter fun item => rank item = some 2).head?.or
          (items.filter fun item => rank item = some 3).head?) := by
  induction items with
  | nil => rfl
  | cons item rest ih =>
    rw [List.pairwise_cons] at hordered
    obtain ⟨hfirst, hrest⟩ := hordered
    have hbelow : ∀ found lower, rank item = some found → lower < found →
        rest.filter (fun other => rank other = some lower) = [] := by
      intro found lower hfound hlt
      rw [List.filter_eq_nil_iff]
      intro other hother hlower
      have hle := hfirst other hother found lower hfound (of_decide_eq_true hlower)
      omega
    cases hrank : rank item with
    | none =>
      have hrest := ih (fun other hother => hranks other (List.mem_cons_of_mem _ hother)) hrest
      simpa [List.filter_cons, hrank] using hrest
    | some found =>
      rcases hranks item List.mem_cons_self found hrank with rfl | rfl | rfl
      · simp [hrank]
      · simp [hrank, hbelow 2 1 hrank]
      · simp [hrank, hbelow 3 1 hrank, hbelow 3 2 hrank]

/-- The prints of a card do not go back to an earlier step. -/
def Ordered (catalogue : Catalogue) (external : ExternalIdentifiers) (card : CardVersionId)
    (data : List IdData) : Prop :=
  data.Pairwise fun d d' => ∀ step step', stepOf catalogue external d = some (step, card) →
    stepOf catalogue external d' = some (step', card) → step ≤ step'

/-- The step that resolves a print to the card. -/
def rankOf (catalogue : Catalogue) (external : ExternalIdentifiers) (card : CardVersionId)
    (d : IdData) : Option Nat :=
  (stepOf catalogue external d).bind fun found => if found.2 = card then some found.1 else none

theorem rankOf_eq_some_iff {step : Nat} :
    rankOf catalogue external card d = some step ↔
      stepOf catalogue external d = some (step, card) := by
  rw [rankOf, Option.bind_eq_some_iff]
  constructor
  · intro hrank
    obtain ⟨⟨step', card'⟩, hstep, hsome⟩ := hrank
    obtain ⟨rfl, hsame⟩ := Option.ite_none_right_eq_some.mp hsome
    rw [hstep, ← Option.some.inj hsame]
  · intro hstep
    exact ⟨_, hstep, if_pos rfl⟩

theorem isSome_rankOf_iff :
    (rankOf catalogue external card d).isSome ↔
      (stepOf catalogue external d).map Prod.snd = some card := by
  rw [Option.isSome_iff_exists, Option.map_eq_some_iff]
  constructor
  · intro hrank
    obtain ⟨step, hrank⟩ := hrank
    exact ⟨_, rankOf_eq_some_iff.mp hrank, rfl⟩
  · intro hstep
    obtain ⟨⟨step, _⟩, hstep, rfl⟩ := hstep
    exact ⟨step, rankOf_eq_some_iff.mpr hstep⟩

theorem stepOf_eq_one_iff : stepOf catalogue external d = some (1, card) ↔
    byScryfall catalogue external d = some card := by
  rw [stepOf_eq]
  cases byScryfall catalogue external d <;> cases byTcgplayer catalogue external d <;> simp

theorem stepOf_eq_two_iff : stepOf catalogue external d = some (2, card) ↔
    byScryfall catalogue external d = none ∧ byTcgplayer catalogue external d = some card := by
  rw [stepOf_eq]
  cases byScryfall catalogue external d <;> cases byTcgplayer catalogue external d <;> simp

theorem stepOf_eq_three_iff : stepOf catalogue external d = some (3, card) ↔
    (byScryfall catalogue external d).or (byTcgplayer catalogue external d) = none ∧
      d.printId ≠ 0 ∧ bySetCollector catalogue d = some card := by
  rw [stepOf_eq]
  cases byScryfall catalogue external d <;> cases byTcgplayer catalogue external d <;> simp

/-- What a step inserts first for a card. -/
theorem head?_step {K : Type} [DecidableEq K] {keyOf : IdData → Option K}
    {fetch : List K → Table K CardVersionId} {cardOf : K → Option CardVersionId}
    (hanswers : Answers fetch cardOf) {resolved : Table Int CardVersionId}
    (hunshared : Unshared keyOf cardOf (remaining data resolved)) (eligible : Int → Bool)
    (step : Nat) (hstep : ∀ d ∈ data, stepOf catalogue external d = some (step, card) ↔
      resolved.get? d.printId = none ∧ eligible d.printId ∧ (keyOf d).bind cardOf = some card) :
    (((found keyOf fetch (remaining data resolved)).filter fun entry => eligible entry.1).filter
        fun entry => entry.2 = card).head?.map Prod.fst =
      (data.filter fun d => rankOf catalogue external card d = some step).head?.map
        IdData.printId := by
  rw [head?_found hanswers hunshared, remaining, List.filter_filter]
  congr 2
  apply List.filter_congr
  intro d hd
  rw [Bool.eq_iff_iff, Bool.and_eq_true, decide_eq_true_eq, decide_eq_true_eq,
    Option.isNone_iff_eq_none, rankOf_eq_some_iff, hstep d hd]
  exact and_comm

/-- The prints of a batch in the order in which they are resolved. -/
theorem rows_resolveBatch (honce : OneEntry data) :
    (resolveBatch catalogue external data).rows =
      ((found (fun d => nonempty d.scryfallId) (fetchByIdentifier catalogue "scryfall_id" external)
          (remaining data .empty)).filter fun _ => true) ++
      ((found (fun d => nonempty d.tcgId) (fetchByIdentifier catalogue "tcgplayer_id" external)
          (remaining data (resolveScryfall catalogue external data .empty))).filter
            fun _ => true) ++
      ((found IdData.pair? (fetchBySetCollector catalogue)
          (remaining data (resolveTcgplayer catalogue external data
            (resolveScryfall catalogue external data .empty)))).filter
              fun entry => decide (entry.1 ≠ 0)) := by
  have honce' : ∀ resolved, OneEntry (remaining data resolved) := fun resolved e he e' he' =>
    honce e (List.mem_filter.mp he).1 e' (List.mem_filter.mp he').1
  rw [resolveBatch, resolveSetCollector, rows_resolveStep _ accepts_setCollector (honce' _),
    resolveTcgplayer, rows_resolveStep (fun _ => true) (fun _ _ _ => rfl) (honce' _),
    resolveScryfall, rows_resolveStep (fun _ => true) (fun _ _ _ => rfl) (honce' _)]
  rfl

/-- A batch inserts for a card its first print that is resolved to it on its own. -/
theorem head?_resolveBatch (honce : OneEntry data) (hdistinct : Distinct catalogue external data)
    (hordered : Ordered catalogue external card data) :
    ((resolveBatch catalogue external data).rows.filter
        fun entry => entry.2 = card).head?.map Prod.fst =
      (data.filter fun d =>
        (stepOf catalogue external d).map Prod.snd = some card).head?.map IdData.printId := by
  have hfirst := unshared_scryfall hdistinct
  rw [← remaining_empty data] at hfirst
  have hsecond := unshared_tcgplayer hdistinct
  rw [← remaining_resolveScryfall honce hdistinct] at hsecond
  have hthird := unshared_setCollector hdistinct
  rw [← remaining_resolveTcgplayer honce hdistinct] at hthird
  rw [rows_resolveBatch honce, List.filter_append, List.filter_append, List.head?_append,
    List.head?_append, Option.map_or, Option.map_or,
    head?_step answers_identifier hfirst (fun _ => true) 1,
    head?_step answers_identifier hsecond (fun _ => true) 2,
    head?_step answers_setCollector hthird (fun printId => decide (printId ≠ 0)) 3,
    Option.or_assoc, ← Option.map_or, ← Option.map_or, ← head?_filter_rank]
  · congr 2
    apply List.filter_congr
    intro d _
    rw [Bool.eq_iff_iff, isSome_rankOf_iff, decide_eq_true_eq]
  · -- the steps are three
    intro d _ step hrank
    rw [rankOf_eq_some_iff, stepOf_eq] at hrank
    simp only [Option.or_eq_some_iff, Option.map_eq_some_iff, Prod.mk.injEq,
      Option.ite_none_right_eq_some] at hrank
    obtain ⟨_, -, rfl, -⟩ | ⟨-, ⟨_, -, rfl, -⟩ | ⟨-, -, _, -, rfl, -⟩⟩ := hrank
    · exact Or.inl rfl
    · exact Or.inr (Or.inl rfl)
    · exact Or.inr (Or.inr rfl)
  · refine hordered.imp ?_
    intro d d' hle step step' hrank hrank'
    exact hle step step' (rankOf_eq_some_iff.mp hrank) (rankOf_eq_some_iff.mp hrank')
  · intro d hd
    rw [stepOf_eq_three_iff, get?_resolveTcgplayer honce hdistinct hd, decide_eq_true_eq]
    rfl
  · intro d hd
    rw [stepOf_eq_two_iff, get?_resolveScryfall honce hdistinct hd]
    exact and_congr_right fun _ => ⟨fun hcard => ⟨rfl, hcard⟩, fun hcard => hcard.2⟩
  · intro d _
    rw [stepOf_eq_one_iff]
    exact ⟨fun hcard => ⟨rfl, rfl, hcard⟩, fun hcard => hcard.2.2⟩

end Batch

end AutoMana.MtgStock
