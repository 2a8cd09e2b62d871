import AutoMana.Relational.Batches
import Mathlib.Algebra.GroupWithZero.Nat
import Mathlib.Data.List.Dedup
import Mathlib.Data.List.Sort
import Mathlib.Tactic.SplitIfs

/-!
# discover_and_fetch_new_ids

The discovery probes the API for the last print id, fetches the ids beyond the greatest one
it knows in batches, writes what it has fetched, and lists all of them in
`existing_ids.json`. A fetch that has prices fails on them, and a fetch that has none fails
the batch that counts its bytes. So a run that returns has written nothing, and it forgets
no print exactly when it finds no new one.
-/

namespace AutoMana.MtgStock

abbrev Bytes := List UInt8

/-- What a request for a print ends with. -/
inductive Reply where
  | raised (message : String)
  /-- 404 -/
  | notFound
  | content (bytes : Bytes)

/-- What the requests of a run end with. -/
structure Api where
  /-- `fetch_card_details`, when it probes for an id. -/
  probed : Int → Reply
  /-- `fetch_card_details` -/
  details : Int → Reply
  /-- `fetch_card_prices` -/
  prices : Int → Reply

/-! ## The last print id

A search is `none` when a request raises, and when the fuel ends before the search does.
-/

def idExists (api : Api) (cid : Int) : Option Bool :=
  match api.probed cid with
  | .raised _ => none
  | .notFound => some false
  | .content _ => some true

/-- Down to an id that exists, or to 1. -/
def walkDown (api : Api) : Nat → Int → Option Int
  | 0, _ => none
  | fuel + 1, lo =>
    if lo ≤ 1 then some lo
    else
      (idExists api lo).bind fun found => if found then some lo else walkDown api fuel (lo - 1)

/-- Doubling until an id is missing. -/
def stepOut (api : Api) : Nat → Int → Int → Option (Int × Int)
  | 0, _, _ => none
  | fuel + 1, lo, hi =>
    (idExists api hi).bind fun found =>
      if found then stepOut api fuel hi (hi * 2) else some (lo, hi)

/-- The binary search. -/
def narrow (api : Api) : Nat → Int → Int → Option Int
  | 0, _, _ => none
  | fuel + 1, lo, hi =>
    if lo + 1 < hi then
      let mid := (lo + hi) / 2
      (idExists api mid).bind fun found =>
        if found then narrow api fuel mid hi else narrow api fuel lo mid
    else some lo

def getLastPrintId (api : Api) (fuel : Nat) (lastKnown : Int) : Option Int :=
  (walkDown api fuel lastKnown).bind fun lo =>
    (stepOut api fuel lo (lo + 1)).bind fun bounds => narrow api fuel bounds.1 bounds.2

/-! ## A batch -/

/-- An entry of the `data` of a batch. -/
inductive Record where
  | error (cardId : Int) (message : String)
  | data (cardId : Int) (details prices : Option Bytes)

def Record.isError : Record → Bool
  | .error .. => true
  | .data .. => false

/-- `fetch_data` -/
def fetchData (api : Api) (cardId : Int) : Record :=
  match api.details cardId, api.prices cardId with
  | .raised message, _ => .error cardId message
  | _, .raised message => .error cardId message
  | .notFound, .notFound => .error cardId "Data not found"
  | .content details, .notFound => .data cardId (some details) none
  | .notFound, .content prices =>
    if prices.isEmpty then .data cardId none none
    else .error cardId "'bytes' object has no attribute 'get'"
  | .content details, .content prices =>
    if prices.isEmpty then .data cardId (some details) none
    else .error cardId "'bytes' object has no attribute 'get'"

/-- The bytes a record counts for; `none` when counting them raises, as the length of `None`
does. -/
def Record.bytes? : Record → Option Nat
  | .error .. => some 0
  | .data _ details prices => do
    let details ← details
    let prices ← prices
    return details.length + prices.length

/-- `r.get("error")` is true. -/
def Record.failed : Record → Bool
  | .error _ message => message ≠ ""
  | .data .. => false

structure BatchResult where
  data : List Record
  itemsOk : Nat
  itemsFailed : Nat
  bytesProcessed : Nat

/-- A batch of requests; `none` when counting its bytes raises. -/
def fetchCardDataBatches (api : Api) (cardIds : List Int) : Option BatchResult :=
  let results := cardIds.map (fetchData api)
  (results.mapM Record.bytes?).map fun bytes => {
    data := results
    itemsOk := results.countP fun record => !record.failed
    itemsFailed := results.countP Record.failed
    bytesProcessed := bytes.sum }

/-- A file of a print that is written. -/
inductive FileWrite where
  | info (cardId : Int) (details : Bytes)
  | prices (cardId : Int) (parquet : Bytes)

def FileWrite.cardId : FileWrite → Int
  | .info cardId _ => cardId
  | .prices cardId _ => cardId

/-- The files that `write_batch` writes. An exception, which only the conversion of prices
raises here, ends it silently. -/
def writeBatch (pricesToParquet : Int → Bytes → Option Bytes) : List Record → List FileWrite
  | [] => []
  | .error .. :: rest => writeBatch pricesToParquet rest
  | .data cardId details prices :: rest =>
    let info := ((details.filter (!·.isEmpty)).map (FileWrite.info cardId)).toList
    match prices.filter (!·.isEmpty) with
    | none => info ++ writeBatch pricesToParquet rest
    | some prices =>
      match pricesToParquet cardId prices with
      | none => info
      | some parquet => info ++ .prices cardId parquet :: writeBatch pricesToParquet rest

/-! ## The run -/

/-- `existing_ids.json` -/
inductive IdsFile where
  | missing
  /-- What is no list of integers, on which the run raises. -/
  | unreadable
  | ids (existing : List Int)

def IdsFile.existing : IdsFile → Option (List Int)
  | .missing => some []
  | .unreadable => none
  | .ids existing => some (existing.insertionSort (· ≤ ·))

/-- `range(first, first + count)` -/
def idsFrom (first : Int) (count : Nat) : List Int :=
  (List.range count).map fun i : Nat => first + i

/-- The batches of `range(0, len(ids), batch_size)`. -/
def idBatches (ids : List Int) (batchSize : Int) : Option (List (List Int)) :=
  if batchSize = 0 then none
  else some (if batchSize < 0 then [] else ids.toChunks batchSize.toNat)

/-- What a run that returns leaves. -/
structure Discovery where
  newIds : List Int
  processed : Nat
  /-- The files it has written, in order. -/
  writes : List FileWrite
  idsFile : IdsFile

/-- One round of the loop over the batches. -/
def discoverBatch (api : Api) (pricesToParquet : Int → Bytes → Option Bytes)
    (state : Nat × List FileWrite) (batchIds : List Int) :
    Option (Nat × List FileWrite) :=
  (fetchCardDataBatches api batchIds).map fun result =>
    let cleaned := result.data.filter fun record => !record.isError
    (state.1 + cleaned.length, state.2 ++ writeBatch pricesToParquet cleaned)

/-- A run; `none` when it raises or the fuel does not last. -/
def discoverAndFetchNewIds (api : Api) (pricesToParquet : Int → Bytes → Option Bytes)
    (fuel : Nat) (batchSize : Int) (file : IdsFile) : Option Discovery := do
  let existingIds ← file.existing
  let maxKnown := existingIds.max?.getD 0
  let lastId ← getLastPrintId api fuel maxKnown
  if lastId ≤ maxKnown then return { newIds := [], processed := 0, writes := [], idsFile := file }
  let newIds := idsFrom (maxKnown + 1) (lastId - maxKnown).toNat
  let batches ← idBatches newIds batchSize
  let (processed, writes) ← batches.foldlM (discoverBatch api pricesToParquet) (0, [])
  return {
    newIds
    processed
    writes
    idsFile := .ids ((existingIds ++ newIds).dedup.insertionSort (· ≤ ·)) }

/-! ## What the search finds -/

section Search

variable {api : Api} {fuel : Nat} {lo hi : Int}

theorem walkDown_cases {start : Int} (hwalk : walkDown api fuel start = some lo) :
    (lo = start ∧ (start ≤ 1 ∨ idExists api start = some true)) ∨
    (lo < start ∧ 1 < start ∧ idExists api start = some false ∧
      idExists api (lo + 1) = some false) := by
  induction fuel generalizing start with
  | zero => cases hwalk
  | succ fuel ih =>
    rw [walkDown] at hwalk
    split_ifs at hwalk with hstart
    · obtain rfl := Option.some.inj hwalk
      exact Or.inl ⟨rfl, Or.inl hstart⟩
    · obtain ⟨found, hfound, hwalk⟩ := Option.bind_eq_some_iff.mp hwalk
      cases found with
      | true =>
        obtain rfl := Option.some.inj hwalk
        exact Or.inl ⟨rfl, Or.inr hfound⟩
      | false =>
        refine Or.inr ?_
        rcases ih hwalk with ⟨rfl, -⟩ | ⟨hlt, -, -, hmissing⟩
        · refine ⟨by omega, by omega, hfound, ?_⟩
          rw [Int.sub_add_cancel]
          exact hfound
        · exact ⟨by omega, by omega, hfound, hmissing⟩

theorem stepOut_of_missing {bounds : Int × Int} (hmissing : idExists api hi = some false)
    (hstep : stepOut api fuel lo hi = some bounds) : bounds = (lo, hi) := by
  cases fuel with
  | zero => cases hstep
  | succ fuel =>
    rw [stepOut, hmissing] at hstep
    exact (Option.some.inj hstep).symm

/-- Above zero the bounds go up. -/
theorem le_of_stepOut {first : Int} {bounds : Int × Int} (hpos : 0 < hi) (hlo : first ≤ lo)
    (hhi : first ≤ hi) (hstep : stepOut api fuel lo hi = some bounds) : first ≤ bounds.1 := by
  induction fuel generalizing lo hi with
  | zero => cases hstep
  | succ fuel ih =>
    rw [stepOut] at hstep
    obtain ⟨found, -, hstep⟩ := Option.bind_eq_some_iff.mp hstep
    cases found with
    | true => exact ih (by omega) hhi (by omega) hstep
    | false =>
      obtain rfl := Option.some.inj hstep
      exact hlo

/-- Below zero they go down. -/
theorem stepOut_le {last : Int} {bounds : Int × Int} (hneg : hi < 0) (hlo : lo ≤ last)
    (hhi : hi ≤ lo) (hstep : stepOut api fuel lo hi = some bounds) :
    bounds.1 ≤ last ∧ bounds.2 ≤ bounds.1 := by
  induction fuel generalizing lo hi with
  | zero => cases hstep
  | succ fuel ih =>
    rw [stepOut] at hstep
    obtain ⟨found, -, hstep⟩ := Option.bind_eq_some_iff.mp hstep
    cases found with
    | true => exact ih (by omega) (by omega) (by omega) hstep
    | false =>
      obtain rfl := Option.some.inj hstep
      exact ⟨hlo, hhi⟩

theorem le_of_narrow {found : Int} (hnarrow : narrow api fuel lo hi = some found) :
    lo ≤ found := by
  induction fuel generalizing lo hi with
  | zero => cases hnarrow
  | succ fuel ih =>
    rw [narrow] at hnarrow
    split_ifs at hnarrow with hopen
    · obtain ⟨present, -, hnarrow⟩ := Option.bind_eq_some_iff.mp hnarrow
      cases present with
      | true =>
        have hmid := ih hnarrow
        omega
      | false => exact ih hnarrow
    · exact (Option.some.inj hnarrow).le

theorem narrow_of_closed {found : Int} (hclosed : hi ≤ lo + 1)
    (hnarrow : narrow api fuel lo hi = some found) : found = lo := by
  cases fuel with
  | zero => cases hnarrow
  | succ fuel =>
    rw [narrow, if_neg (by omega)] at hnarrow
    exact (Option.some.inj hnarrow).symm

/-- Zero doubled is zero. -/
theorem stepOut_zero (hfound : idExists api 0 = some true) (lo : Int) :
    stepOut api fuel lo 0 = none := by
  induction fuel generalizing lo with
  | zero => rfl
  | succ fuel ih =>
    rw [stepOut, hfound]
    exact ih 0

/-- Below zero the search stops after one step or ends below its start. -/
theorem lt_iff_of_below_zero {steps : Nat} {last found : Int} {bounds : Int × Int}
    (hneg : last < -1)
    (hstep : stepOut api steps (last + 1) ((last + 1) * 2) = some bounds)
    (hnarrow : narrow api fuel bounds.1 bounds.2 = some found) :
    last < found ↔ idExists api (2 * (last + 1)) ≠ some true := by
  rw [Int.mul_comm 2]
  cases steps with
  | zero => cases hstep
  | succ steps =>
    rw [stepOut] at hstep
    obtain ⟨present, hpresent, hstep⟩ := Option.bind_eq_some_iff.mp hstep
    rw [hpresent]
    cases present with
    | true =>
      obtain ⟨hlow, hclosed⟩ : bounds.1 ≤ last ∧ bounds.2 ≤ bounds.1 :=
        stepOut_le (by omega) (by omega) (by omega) hstep
      obtain rfl := narrow_of_closed (by omega) hnarrow
      exact iff_of_false (by omega) (fun hne => hne rfl)
    | false =>
      obtain rfl := Option.some.inj hstep
      obtain rfl := narrow_of_closed (by omega) hnarrow
      exact iff_of_true (by omega) (by decide)

/-- There is an id right after the greatest known one, which still exists or is at most 1.
Below zero, where doubling goes down, the search comes back to it only when it stops there. -/
def FindsNew (api : Api) (maxKnown : Int) : Prop :=
  (maxKnown ≤ 1 ∨ idExists api maxKnown = some true) ∧
  idExists api (maxKnown + 1) = some true ∧
  (maxKnown < -1 → idExists api (2 * (maxKnown + 1)) ≠ some true)

/-- A search that ends finds an id beyond the known ones exactly when there is one right
after them. -/
theorem lt_getLastPrintId_iff {maxKnown lastId : Int}
    (hsearch : getLastPrintId api fuel maxKnown = some lastId) :
    maxKnown < lastId ↔ FindsNew api maxKnown := by
  simp only [getLastPrintId, Option.bind_eq_some_iff] at hsearch
  obtain ⟨lo, hwalk, bounds, hstep, hnarrow⟩ := hsearch
  rcases walkDown_cases hwalk with ⟨rfl, hknown⟩ | ⟨hlt, hone, hgone, hmissing⟩
  · cases fuel with
    | zero => cases hstep
    | succ fuel =>
      rw [stepOut] at hstep
      obtain ⟨found, hfound, hstep⟩ := Option.bind_eq_some_iff.mp hstep
      cases found with
      | false =>
        -- nothing right after the known ids
        obtain rfl := Option.some.inj hstep
        obtain rfl := narrow_of_closed le_rfl hnarrow
        refine iff_of_false (lt_irrefl _) ?_
        intro hfinds
        exact Bool.false_ne_true (Option.some.inj (hfound.symm.trans hfinds.2.1))
      | true =>
        rcases lt_trichotomy (lo + 1) 0 with hneg | hzero | hpos
        · rw [lt_iff_of_below_zero (by omega) hstep hnarrow]
          exact ⟨fun hgone => ⟨hknown, hfound, fun _ => hgone⟩,
            fun hfinds => hfinds.2.2 (by omega)⟩
        · rw [hzero] at hfound
          rw [hzero, Int.zero_mul, if_pos rfl, stepOut_zero hfound] at hstep
          cases hstep
        · refine iff_of_true ?_ ⟨hknown, hfound, fun hbelow => absurd hbelow (by omega)⟩
          have hbound : lo + 1 ≤ bounds.1 :=
            le_of_stepOut (by omega) le_rfl (by omega) hstep
          have hfinal := le_of_narrow hnarrow
          omega
  · obtain rfl := stepOut_of_missing hmissing hstep
    obtain rfl := narrow_of_closed le_rfl hnarrow
    refine iff_of_false (by omega) ?_
    intro hfinds
    rcases hfinds.1 with hle | hexists
    · omega
    · exact Bool.false_ne_true (Option.some.inj (hgone.symm.trans hexists))

end Search

/-! ## What a run writes -/

section Writes

variable {api : Api} {pricesToParquet : Int → Bytes → Option Bytes} {fuel : Nat} {batchSize : Int}
  {file : IdsFile} {run : Discovery}

/-- A fetch is an error or has no prices. -/
theorem fetchData_cases (api : Api) (cardId : Int) :
    (∃ message, fetchData api cardId = .error cardId message) ∨
      ∃ details, fetchData api cardId = .data cardId details none := by
  unfold fetchData
  cases api.details cardId with
  | raised message => exact Or.inl ⟨message, rfl⟩
  | notFound =>
    cases api.prices cardId with
    | raised message => exact Or.inl ⟨message, rfl⟩
    | notFound => exact Or.inl ⟨_, rfl⟩
    | content prices =>
      dsimp only
      split_ifs
      · exact Or.inr ⟨none, rfl⟩
      · exact Or.inl ⟨_, rfl⟩
  | content details =>
    cases api.prices cardId with
    | raised message => exact Or.inl ⟨message, rfl⟩
    | notFound => exact Or.inr ⟨some details, rfl⟩
    | content prices =>
      dsimp only
      split_ifs
      · exact Or.inr ⟨some details, rfl⟩
      · exact Or.inl ⟨_, rfl⟩

/-- A fetch that is counted is an error. -/
theorem isError_of_bytes? {cardId : Int}
    (hcounted : (fetchData api cardId).bytes?.isSome) : (fetchData api cardId).isError := by
  rcases fetchData_cases api cardId with ⟨message, hfetch⟩ | ⟨details, hfetch⟩
  · rw [hfetch]
    rfl
  · rw [hfetch] at hcounted
    cases details <;> cases hcounted

/-- A batch that returns has fetched nothing. -/
theorem discoverBatch_writes {state next : Nat × List FileWrite} {batchIds : List Int}
    (hbatch : discoverBatch api pricesToParquet state batchIds = some next) :
    next.2 = state.2 := by
  obtain ⟨result, hresult, rfl⟩ := Option.map_eq_some_iff.mp hbatch
  obtain ⟨bytes, hbytes, rfl⟩ := Option.map_eq_some_iff.mp hresult
  have hcleaned : ((batchIds.map (fetchData api)).filter fun record => !record.isError) = [] := by
    rw [List.filter_eq_nil_iff]
    intro record hrecord
    have hcounted := Relational.isSome_of_mapM hbytes record hrecord
    obtain ⟨cardId, -, rfl⟩ := List.mem_map.mp hrecord
    rw [isError_of_bytes? hcounted, Bool.not_true]
    exact Bool.false_ne_true
  simp only [hcleaned, writeBatch, List.append_nil]

theorem discoverBatches_writes {state next : Nat × List FileWrite} {batches : List (List Int)}
    (hbatches : batches.foldlM (discoverBatch api pricesToParquet) state = some next) :
    next.2 = state.2 := by
  induction batches generalizing state with
  | nil => rw [Option.some.inj hbatches]
  | cons batch rest ih =>
    rw [List.foldlM_cons, Option.bind_eq_bind, Option.bind_eq_some_iff] at hbatches
    obtain ⟨middle, hmiddle, hrest⟩ := hbatches
    rw [ih hrest, discoverBatch_writes hmiddle]

end Writes

/-! ## Forgotten prints -/

/-- The file lists an id. -/
def IdsFile.Lists (file : IdsFile) (id : Int) : Prop :=
  ∃ existing, file = .ids existing ∧ id ∈ existing

/-- The greatest id of the file, or 0. -/
def IdsFile.maxKnown : IdsFile → Int
  | .ids existing => existing.max?.getD 0
  | _ => 0

/-- The new prints of a run are written, and listed only when they are. -/
structure ForgetsNoPrint (api : Api) (file : IdsFile) (run : Discovery) : Prop where
  written : ∀ id ∈ run.newIds, ∀ details, api.details id = .content details →
    .info id details ∈ run.writes
  listed : ∀ id, run.idsFile.Lists id → ¬ file.Lists id → ∃ write ∈ run.writes, write.cardId = id

/-- Sorting keeps the ids and so the greatest. -/
theorem existing_spec {file : IdsFile} {existingIds : List Int}
    (hexisting : file.existing = some existingIds) :
    existingIds.max?.getD 0 = file.maxKnown ∧ ∀ id, id ∈ existingIds ↔ file.Lists id := by
  cases file with
  | missing =>
    obtain rfl := Option.some.inj hexisting
    refine ⟨rfl, fun id => iff_of_false List.not_mem_nil ?_⟩
    intro hlists
    obtain ⟨_, hfile, -⟩ := hlists
    cases hfile
  | unreadable => cases hexisting
  | ids existing =>
    obtain rfl := Option.some.inj hexisting
    have hmax : (existing.insertionSort (· ≤ ·)).max? = existing.max? := by
      apply Option.ext
      intro id
      simp only [List.max?_eq_some_iff, List.mem_insertionSort]
    refine ⟨congrArg (Option.getD · 0) hmax, ?_⟩
    intro id
    rw [List.mem_insertionSort]
    constructor
    · exact fun hmem => ⟨existing, rfl, hmem⟩
    · intro hlists
      obtain ⟨_, hfile, hmem⟩ := hlists
      cases hfile
      exact hmem

/-- No known id is beyond the greatest. -/
theorem not_lists_maxKnown_succ (file : IdsFile) : ¬ file.Lists (file.maxKnown + 1) := by
  intro hlists
  obtain ⟨existing, rfl, hmem⟩ := hlists
  rw [IdsFile.maxKnown] at hmem
  cases hmax : existing.max? with
  | none =>
    rw [List.max?_eq_none_iff.mp hmax] at hmem
    cases hmem
  | some greatest =>
    have hle := (List.max?_eq_some_iff.mp hmax).2 _ hmem
    rw [hmax, Option.getD_some] at hle
    omega

section Run

variable {api : Api} {pricesToParquet : Int → Bytes → Option Bytes} {fuel : Nat} {batchSize : Int}
  {file : IdsFile} {run : Discovery}

/-- A run that returns has found the ids after the known ones, if any, and written nothing. -/
theorem discover_cases
    (hrun : discoverAndFetchNewIds api pricesToParquet fuel batchSize file = some run) :
    (¬ FindsNew api file.maxKnown ∧ run = ⟨[], 0, [], file⟩) ∨
    (FindsNew api file.maxKnown ∧ run.writes = [] ∧ run.idsFile.Lists (file.maxKnown + 1) ∧
      ¬ file.Lists (file.maxKnown + 1)) := by
  simp only [discoverAndFetchNewIds, Option.bind_eq_bind, Option.bind_eq_some_iff] at hrun
  obtain ⟨existingIds, hexisting, lastId, hsearch, hrun⟩ := hrun
  obtain ⟨hmax, hlists⟩ := existing_spec hexisting
  rw [hmax] at hsearch hrun
  have hfound := lt_getLastPrintId_iff hsearch
  split_ifs at hrun with hlast
  · exact Or.inl ⟨fun hfinds => absurd (hfound.mpr hfinds) (by omega), (Option.some.inj hrun).symm⟩
  · simp only [Option.bind_eq_some_iff] at hrun
    obtain ⟨batches, -, ⟨processed, writes⟩, hbatches, hrun⟩ := hrun
    obtain rfl := Option.some.inj hrun
    refine Or.inr ⟨hfound.mp (by omega), discoverBatches_writes hbatches, ⟨_, rfl, ?_⟩,
      not_lists_maxKnown_succ file⟩
    rw [List.mem_insertionSort, List.mem_dedup]
    refine List.mem_append_right _ (List.mem_map.mpr ⟨0, ?_, by simp⟩)
    rw [List.mem_range]
    omega

/-- A run that returns forgets no print exactly when it finds no new one. -/
theorem forgetsNoPrint_iff
    (hrun : discoverAndFetchNewIds api pricesToParquet fuel batchSize file = some run) :
    ForgetsNoPrint api file run ↔ ¬ FindsNew api file.maxKnown := by
  rcases discover_cases hrun with ⟨hnone, rfl⟩ | ⟨hfinds, hwrites, hlisted, hnew⟩
  · refine iff_of_true ⟨?_, ?_⟩ hnone
    · intro id hid
      cases hid
    · intro id hid hfree
      exact absurd hid hfree
  · refine iff_of_false ?_ (not_not_intro hfinds)
    intro hforgets
    obtain ⟨write, hwrite, -⟩ := hforgets.listed _ hlisted hnew
    rw [hwrites] at hwrite
    cases hwrite

end Run

/-! ### A failed fetch -/

/-- Prints 1 to `last`, whose details are no longer answered when they are fetched. -/
def timingOut (last : Int) : Api where
  probed cid := if 1 ≤ cid ∧ cid ≤ last then .content [123, 125] else .notFound
  details _ := .raised "timed out"
  prices _ := .raised "timed out"

/-- Nothing is new, and the file stays as it was. -/
theorem forgetsNoPrint_nothing_new :
    ForgetsNoPrint (timingOut 1) (.ids [1]) ⟨[], 0, [], .ids [1]⟩ := by
  have hrun : discoverAndFetchNewIds (timingOut 1) (fun _ _ => none) 5 500 (.ids [1]) =
      some ⟨[], 0, [], .ids [1]⟩ := rfl
  refine (forgetsNoPrint_iff hrun).mpr ?_
  intro hfinds
  cases hfinds.2.1

/-- Print 2 is listed although its fetch has failed. -/
theorem failed_fetch_is_listed : ∃ run,
    discoverAndFetchNewIds (timingOut 2) (fun _ _ => none) 5 500 (.ids [1]) = some run ∧
    ¬ ForgetsNoPrint (timingOut 2) (.ids [1]) run := by
  refine ⟨⟨[2], 0, [], .ids [1, 2]⟩, rfl, ?_⟩
  intro hforgets
  have hnew : ¬ IdsFile.Lists (.ids [1]) 2 := not_lists_maxKnown_succ (.ids [1])
  obtain ⟨write, hwrite, -⟩ := hforgets.listed 2 ⟨[1, 2], rfl, by decide⟩ hnew
  cases hwrite

/-- A batch with a fetch that succeeds raises. -/
example : discoverAndFetchNewIds
    ⟨fun cid => if 1 ≤ cid ∧ cid ≤ 2 then .content [123, 125] else .notFound,
      fun _ => .content [123, 125], fun _ => .notFound⟩ (fun _ _ => none) 5 500 (.ids [1]) = none :=
  rfl

end AutoMana.MtgStock
