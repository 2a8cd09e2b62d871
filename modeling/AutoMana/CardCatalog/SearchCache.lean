import AutoMana.Relational.Dict
import AutoMana.Relational.Interleaving
import Mathlib.Order.Lattice
import Mathlib.Logic.Function.Basic

/-!
# The caches of the card search

Searches and suggestions are cached under `card_search:`, and the price of a card, which a search
embeds, under `card_price_spark:`. A refresh of the views is followed by an invalidation that
names the first family only. Data is known by the versions of the views it was computed from.
-/

namespace AutoMana.CardCatalog.SearchCache

open Relational Relational.Interleaving

/-! ## Views and keys -/

/-- The views of `refresh_card_search_views`, which are refreshed together, and
`mv_card_price_spark`. -/
inductive View where
  | search
  | prices
deriving DecidableEq, Repr

abbrev Version := View → Nat

/-- What an answer is made of: cards, counts, facets, suggestions and prices, each known by the
version of the view it was computed from. -/
abbrev Result := List (View × Nat)

/-- No part is from before a version. -/
def NotOlder (due : Version) (result : Result) : Prop := ∀ part ∈ result, due part.1 ≤ part.2

instance (due : Version) (result : Result) : Decidable (NotOlder due result) :=
  inferInstanceAs (Decidable (∀ part ∈ result, _))

abbrev CardId := Nat

inductive CacheKey where
  /-- The digest of the parameters of a search. -/
  | full (paramsHash : String)
  | suggest (query : String) (limit : Int)
  | priceSpark (cardId : CardId)
deriving DecidableEq, Repr

/-- The part of a key before its first colon. -/
def CacheKey.family : CacheKey → String
  | .full _ => "card_search"
  | .suggest _ _ => "card_search"
  | .priceSpark _ => "card_price_spark"

/-- The key matches `card_search:*`. -/
def CacheKey.invalidated (key : CacheKey) : Prop := key.family = "card_search"

instance (key : CacheKey) : Decidable key.invalidated := inferInstanceAs (Decidable (_ = _))

/-- A value, and when its key was last added. -/
structure Entry where
  result : Result
  since : Nat

structure Store where
  version : Version
  cached : Table CacheKey Entry
  /-- How many values have been stored. -/
  clock : Nat
  /-- What the runs whose invalidation has completed had refreshed. -/
  completed : Version

namespace Store

variable (store : Store)

/-- When a key that is stored now was added. -/
def addedAt (key : CacheKey) : Nat :=
  ((store.cached.get? key).map (·.since)).getD (store.clock + 1)

/-- `setex`: a key that is there stays there. -/
def set (key : CacheKey) (result : Result) : Store :=
  { store with
    cached := store.cached.set key ⟨result, store.addedAt key⟩
    clock := store.clock + 1 }

/-- The pipeline of `setex` commands that stores fresh prices. -/
def setPrices (ids : List CardId) (version : Nat) : Store :=
  ids.foldl (fun store id => store.set (.priceSpark id) [(.prices, version)]) store

def delete (key : CacheKey) : Store :=
  { store with cached := store.cached.deleteWhere fun other _ => other = key }

/-- A view is refreshed. -/
def refresh (view : View) : Store :=
  { store with version := Function.update store.version view (store.version view + 1) }

def complete (made : Version) : Store := { store with completed := store.completed ⊔ made }

end Store

/-! ## Calls and runs -/

/-- What the queries find in the views at a version. -/
structure Catalogue (P : Type) where
  cardId : P → Option CardId
  paramsHash : P → String
  lower : String → String
  found : P → Nat → List CardId
  /-- The card has a row in `mv_card_price_spark`. -/
  priced : Nat → CardId → Bool

/-- What a call has left to do. -/
inductive Task (P : Type) where
  /-- `get_from_cache` -/
  | get
  | queryCards (params : P)
  /-- `_fetch_prices_for_cards`: the `mget`, the query for the ids that it misses, and the
  write-back of those that it finds. -/
  | getPrices (ids : List CardId)
  | queryPrices (ids : List CardId)
  | setPrices (ids : List CardId) (version : Nat)
  /-- A count, facets, or suggestions. -/
  | queryView
  /-- `set_to_cache` -/
  | set

inductive Command (P : Type) where
  | search (params : P)
  | suggest (query : String) (limit : Int)
  /-- The price view, `refresh_card_search_views`, and `invalidate_search_cache`. -/
  | refresh
  /-- The cache drops keys at any time. -/
  | expiry

/-- `due` is what the runs whose invalidation had completed when a call started had refreshed. -/
inductive Thread (P : Type) where
  | call (key : CacheKey) (due : Version) (result : Result) (todo : List (Task P))
  | returned (due : Version) (result : Result)
  | refresh (made : Version) (todo : List View)
  /-- The `SCAN` that deletes the keys it comes across. -/
  | scan (made : Version) (started : Nat)
  | completed
  | expiry
  | raised

/-- Whether the database or Redis raises, and the key that is come across. -/
structure Outcome where
  fails : Bool
  key : Option CacheKey

namespace Catalogue

variable {P : Type} (catalogue : Catalogue P)

/-- What follows the query of the cards. A card that is not found is not cached. -/
def afterCards (params : P) (ids : List CardId) : List (Task P) :=
  match catalogue.cardId params with
  | some _ => if ids = [] then [] else [.getPrices ids, .set]
  | none => [.getPrices ids, .queryView, .queryView, .queryView, .set]

def callTurn (store : Store) (key : CacheKey) (due : Version) (result : Result)
    (outcome : Outcome) : List (Task P) → Store × Thread P
  | [] => (store, .returned due result)
  -- an error of the cache counts as a miss
  | .get :: todo =>
    if outcome.fails then (store, .call key due result todo)
    else match store.cached.get? key with
      | some entry => (store, .call key due entry.result [])
      | none => (store, .call key due result todo)
  | .queryCards params :: _ =>
    if outcome.fails then (store, .raised)
    else
      let version := store.version .search
      (store, .call key due (result ++ [(.search, version)])
        (catalogue.afterCards params (catalogue.found params version)))
  | .getPrices ids :: todo =>
    let cached := if outcome.fails then [] else
      ids.filter fun id => (store.cached.get? (.priceSpark id)).isSome
    let missing := ids.filter (· ∉ cached)
    let hits := cached.flatMap fun id =>
      ((store.cached.get? (.priceSpark id)).map (·.result)).getD []
    (store, .call key due (result ++ hits)
      (if missing = [] then todo else .queryPrices missing :: todo))
  | .queryPrices ids :: todo =>
    if outcome.fails then (store, .raised)
    else
      let version := store.version .prices
      (store, .call key due (result ++ ids.map fun _ => (.prices, version))
        (.setPrices (ids.filter (catalogue.priced version)) version :: todo))
  | .setPrices ids version :: todo =>
    (if outcome.fails then store else store.setPrices ids version, .call key due result todo)
  | .queryView :: todo =>
    if outcome.fails then (store, .raised)
    else (store, .call key due (result ++ [(.search, store.version .search)]) todo)
  | .set :: todo =>
    (if outcome.fails then store else store.set key result, .call key due result todo)

/-- A scan ends when it has come across every key that is there since it began, or with an error,
which is logged and counts as no keys deleted. -/
def ScanEnds (store : Store) (started : Nat) (outcome : Outcome) : Prop :=
  outcome.fails ∨ outcome.key = none ∧
    ∀ row ∈ store.cached.rows, row.1.invalidated → started < row.2.since

instance (store : Store) (started : Nat) (outcome : Outcome) :
    Decidable (ScanEnds store started outcome) :=
  inferInstanceAs (Decidable (_ ∨ _ ∧ _))

def turn (store : Store) (thread : Thread P) (outcome : Outcome) : Store × Thread P :=
  match thread with
  | .call key due result todo => catalogue.callTurn store key due result outcome todo
  | .refresh made (view :: todo) =>
    if outcome.fails then (store, .raised)
    else
      let version := store.version view + 1
      (store.refresh view, .refresh (Function.update made view version) todo)
  | .refresh made [] => (store, .scan made store.clock)
  | .scan made started =>
    if ScanEnds store started outcome then (store.complete made, .completed)
    else match outcome.key with
      | some key =>
        if key.invalidated then (store.delete key, .scan made started)
        else (store, .scan made started)
      | none => (store, .scan made started)
  | .expiry =>
    match outcome.key with
    | some key => (store.delete key, .expiry)
    | none => (store, .expiry)
  | .returned due result => (store, .returned due result)
  | .completed => (store, .completed)
  | .raised => (store, .raised)

def start (store : Store) : Command P → Thread P
  | .search params =>
    .call (.full (catalogue.paramsHash params)) store.completed [] [.get, .queryCards params]
  | .suggest query limit =>
    .call (.suggest (catalogue.lower query) limit) store.completed [] [.get, .queryView, .set]
  | .refresh => .refresh (fun _ => 0) [.prices, .search]
  | .expiry => .expiry

def system : System Store (Thread P) (Command P) Outcome where
  start := catalogue.start
  turn := catalogue.turn

end Catalogue

/-! ## When nothing older is served -/

variable {P : Type}

abbrev State (P : Type) := Pool Store (Thread P)

/-- Anything is cached, and nothing has started. -/
def opened (version : Version) (cached : Table CacheKey Result) : State P :=
  ⟨⟨version, cached.mapValues fun _ result => ⟨result, 0⟩, 0, fun _ => 0⟩, []⟩

/-- A call returns nothing from before a refresh whose invalidation had completed when the call
started. -/
def ServesNothingOlder (state : State P) : Prop :=
  ∀ due result, .returned due result ∈ state.threads → NotOlder due result

/-- What a call stores is from no time before a refresh whose invalidation has completed; and if
it is from before the refresh of an invalidation that scans, its key is there since the scan
began. Prices are written back from no time before the refresh of a completed run. When an
invalidation ends, no price is cached from before its refresh; nor is anything else, if it ends
with an error. -/
structure Orderly (state : State P) (move : Move (Command P) Outcome) : Prop where
  fill : ∀ position outcome key due result todo, move = .turn position outcome →
    outcome.fails = false →
    state.threads[position]? = some (.call key due result (.set :: todo)) →
    NotOlder state.shared.completed result ∧
      ∀ made started, .scan made started ∈ state.threads → NotOlder made result ∨
        ∃ entry, state.shared.cached.get? key = some entry ∧ entry.since ≤ started
  prices : ∀ position outcome key due result ids version todo, move = .turn position outcome →
    outcome.fails = false →
    state.threads[position]? = some (.call key due result (.setPrices ids version :: todo)) →
    ids ≠ [] → state.shared.completed .prices ≤ version
  ends : ∀ position outcome made started, move = .turn position outcome →
    state.threads[position]? = some (.scan made started) →
    Catalogue.ScanEnds state.shared started outcome →
    ∀ key entry, state.shared.cached.get? key = some entry →
      outcome.fails ∨ ¬ key.invalidated → NotOlder made entry.result

/-! ## What threads rely on -/

/-- Nothing cached is from before a refresh whose invalidation has completed. -/
structure Fresh (store : Store) : Prop where
  cached : ∀ key entry, store.cached.get? key = some entry →
    NotOlder store.completed entry.result
  stamped : ∀ key entry, store.cached.get? key = some entry → entry.since ≤ store.clock
  completed : store.completed ≤ store.version

/-- What a thread relies on. -/
def Sound (store : Store) : Thread P → Prop
  | .call _ due result _ => due ≤ store.completed ∧ NotOlder due result
  | .returned due result => NotOlder due result
  | .refresh made _ => made ≤ store.version
  | .scan made started => made ≤ store.version ∧
      ∀ key entry, store.cached.get? key = some entry → key.invalidated →
        NotOlder made entry.result ∨ entry.since ≤ started
  | .completed => True
  | .expiry => True
  | .raised => True

section Parts

variable {due made : Version} {result other : Result}

theorem NotOlder.mono (hnot : NotOlder due result) (hle : made ≤ due) : NotOlder made result :=
  fun part hpart => (hle part.1).trans (hnot part hpart)

theorem NotOlder.append (hnot : NotOlder due result) (hother : NotOlder due other) :
    NotOlder due (result ++ other) := by
  intro part hpart
  rcases List.mem_append.mp hpart with hfirst | hsecond
  · exact hnot part hfirst
  · exact hother part hsecond

theorem notOlder_nil : NotOlder due [] := fun part hpart => by cases hpart

theorem NotOlder.sup (hdue : NotOlder due result) (hmade : NotOlder made result) :
    NotOlder (due ⊔ made) result :=
  fun part hpart => sup_le (hdue part hpart) (hmade part hpart)

end Parts

/-! ## Changes of the store -/

section Changes

variable {store next : Store} {thread : Thread P}

/-- The versions grow, and nothing new is cached. -/
structure Grows (store next : Store) : Prop where
  version : store.version ≤ next.version
  completed : store.completed ≤ next.completed
  cached : ∀ key entry, next.cached.get? key = some entry → store.cached.get? key = some entry
  clock : store.clock = next.clock

theorem Grows.refl (store : Store) : Grows store store := ⟨le_rfl, le_rfl, fun _ _ => id, rfl⟩

theorem get?_of_delete {key other : CacheKey} {entry : Entry}
    (hget : (store.delete key).cached.get? other = some entry) :
    store.cached.get? other = some entry := by
  rw [Store.delete, Table.get?_deleteWhere, Option.filter_eq_some_iff] at hget
  exact hget.1

theorem grows_delete (store : Store) (key : CacheKey) : Grows store (store.delete key) :=
  ⟨le_rfl, le_rfl, fun _ _ => get?_of_delete, rfl⟩

theorem grows_refresh (store : Store) (view : View) : Grows store (store.refresh view) :=
  ⟨le_update_self_iff.mpr (Nat.le_succ _), le_rfl, fun _ _ => id, rfl⟩

theorem grows_complete (store : Store) (made : Version) : Grows store (store.complete made) :=
  ⟨le_rfl, le_sup_left, fun _ _ => id, rfl⟩

theorem Sound.of_grows (hsound : Sound store thread) (hgrows : Grows store next) :
    Sound next thread := by
  cases thread with
  | call key due result todo => exact ⟨hsound.1.trans hgrows.completed, hsound.2⟩
  | refresh made todo => exact hsound.trans hgrows.version
  | scan made started =>
    refine ⟨hsound.1.trans hgrows.version, fun key entry hget => ?_⟩
    exact hsound.2 key entry (hgrows.cached key entry hget)
  | returned | completed | expiry | raised => exact hsound

/-- What is found after a value is stored. -/
theorem get?_of_set {key other : CacheKey} {result : Result} {entry : Entry}
    (hget : (store.set key result).cached.get? other = some entry) :
    store.cached.get? other = some entry ∨ other = key ∧ entry = ⟨result, store.addedAt key⟩ := by
  rw [Store.set, Table.get?_set] at hget
  split_ifs at hget with hsame
  · exact Or.inr ⟨hsame, (Option.some.inj hget).symm⟩
  · exact Or.inl hget

/-- A value that is not from before a completed refresh is stored. -/
theorem Fresh.set (hfresh : Fresh store) {key : CacheKey} {result : Result}
    (hresult : NotOlder store.completed result) : Fresh (store.set key result) := by
  refine ⟨fun other entry hget => ?_, fun other entry hget => ?_, hfresh.completed⟩
  · rcases get?_of_set hget with hold | ⟨-, rfl⟩
    · exact hfresh.cached other entry hold
    · exact hresult
  · rcases get?_of_set hget with hold | ⟨-, rfl⟩
    · exact (hfresh.stamped other entry hold).trans (Nat.le_succ _)
    · dsimp only [Store.addedAt]
      cases hkey : store.cached.get? key with
      | none => exact le_rfl
      | some old => exact (hfresh.stamped key old hkey).trans (Nat.le_succ _)

/-- Storing a value disturbs a scan only if it is too old, and under a new key. -/
theorem Sound.set (hsound : Sound store thread) {key : CacheKey} {result : Result}
    (hscan : ∀ made started, thread = .scan made started → key.invalidated →
      NotOlder made result ∨
        ∃ entry, store.cached.get? key = some entry ∧ entry.since ≤ started) :
    Sound (store.set key result) thread := by
  cases thread with
  | scan made started =>
    refine ⟨hsound.1, fun other entry hget hfamily => ?_⟩
    rcases get?_of_set hget with hold | ⟨rfl, rfl⟩
    · exact hsound.2 other entry hold hfamily
    · refine (hscan made started rfl hfamily).imp_right fun hentry => ?_
      obtain ⟨old, hstored, hsince⟩ := hentry
      rwa [Store.addedAt, hstored]
  | call | refresh | returned | completed | expiry | raised => exact hsound

/-- Prices are written back. -/
theorem Fresh.setPrices (hfresh : Fresh store) {ids : List CardId} {version : Nat}
    (hprices : ids ≠ [] → store.completed .prices ≤ version) :
    Fresh (store.setPrices ids version) := by
  induction ids generalizing store with
  | nil => exact hfresh
  | cons id rest ih =>
    have hversion := hprices (List.cons_ne_nil _ _)
    refine ih (hfresh.set fun part hpart => ?_) fun _ => hversion
    rw [List.mem_singleton.mp hpart]
    exact hversion

/-- A scan does not come across prices. -/
theorem Sound.setPrices (hsound : Sound store thread) (ids : List CardId) (version : Nat) :
    Sound (store.setPrices ids version) thread := by
  induction ids generalizing store with
  | nil => exact hsound
  | cons id rest ih =>
    refine ih (hsound.set fun _ _ _ hfamily => ?_)
    exact absurd hfamily (by decide : ¬ "card_price_spark" = "card_search")

end Changes

/-! ## Turns -/

section Turns

variable {catalogue : Catalogue P} {store : Store} {key : CacheKey} {due made : Version}
  {result : Result} {todo : List (Task P)} {outcome : Outcome} {started : Nat}

theorem Fresh.delete (hfresh : Fresh store) (key : CacheKey) : Fresh (store.delete key) :=
  ⟨fun other entry hget => hfresh.cached other entry (get?_of_delete hget),
    fun other entry hget => hfresh.stamped other entry (get?_of_delete hget), hfresh.completed⟩

theorem Fresh.refresh (hfresh : Fresh store) (view : View) : Fresh (store.refresh view) :=
  ⟨hfresh.cached, hfresh.stamped, hfresh.completed.trans (grows_refresh store view).version⟩

theorem Fresh.complete (hfresh : Fresh store) (hmade : made ≤ store.version)
    (hcached : ∀ key entry, store.cached.get? key = some entry → NotOlder made entry.result) :
    Fresh (store.complete made) :=
  ⟨fun key entry hget => (hfresh.cached key entry hget).sup (hcached key entry hget),
    hfresh.stamped, sup_le hfresh.completed hmade⟩

/-- What a query of a view returns is as new as the view. -/
theorem notOlder_version (hfresh : Fresh store) (hdue : due ≤ store.completed) (view : View) :
    NotOlder due [(view, store.version view)] := by
  intro part hpart
  rw [List.mem_singleton.mp hpart]
  exact (hdue.trans hfresh.completed) view

/-- The cached prices are as new as the completed refreshes. -/
theorem notOlder_hits (hfresh : Fresh store) (hdue : due ≤ store.completed) (ids : List CardId) :
    NotOlder due (ids.flatMap fun id =>
      ((store.cached.get? (.priceSpark id)).map (·.result)).getD []) := by
  intro part hpart
  obtain ⟨id, -, hid⟩ := List.mem_flatMap.mp hpart
  cases hget : store.cached.get? (.priceSpark id) with
  | none => simp [hget] at hid
  | some entry =>
    rw [hget] at hid
    exact ((hfresh.cached _ entry hget).mono hdue) part hid

/-- A turn of a call. -/
theorem callTurn_keeps (hfresh : Fresh store) (hsound : Sound store (.call key due result todo))
    (hfill : ∀ rest, todo = .set :: rest → outcome.fails = false →
      NotOlder store.completed result)
    (hprices : ∀ ids version rest, todo = .setPrices ids version :: rest →
      outcome.fails = false → ids ≠ [] → store.completed .prices ≤ version) :
    Fresh (catalogue.callTurn store key due result outcome todo).1 ∧
      Sound (catalogue.callTurn store key due result outcome todo).1
        (catalogue.callTurn store key due result outcome todo).2 := by
  obtain ⟨hdue, hresult⟩ := hsound
  cases todo with
  | nil => exact ⟨hfresh, hresult⟩
  | cons task rest =>
    cases task with
    | get =>
      rw [Catalogue.callTurn]
      split_ifs
      · exact ⟨hfresh, hdue, hresult⟩
      · cases hget : store.cached.get? key with
        | none => exact ⟨hfresh, hdue, hresult⟩
        | some entry => exact ⟨hfresh, hdue, (hfresh.cached key entry hget).mono hdue⟩
    | queryCards params =>
      rw [Catalogue.callTurn]
      split_ifs
      · exact ⟨hfresh, trivial⟩
      · exact ⟨hfresh, hdue, hresult.append (notOlder_version hfresh hdue .search)⟩
    | getPrices ids => exact ⟨hfresh, hdue, hresult.append (notOlder_hits hfresh hdue _)⟩
    | queryPrices ids =>
      rw [Catalogue.callTurn]
      split_ifs
      · exact ⟨hfresh, trivial⟩
      · refine ⟨hfresh, hdue, hresult.append fun part hpart => ?_⟩
        obtain ⟨-, -, rfl⟩ := List.mem_map.mp hpart
        exact (hdue.trans hfresh.completed) .prices
    | setPrices ids version =>
      rw [Catalogue.callTurn]
      have hcall : Sound store (.call key due result rest) := ⟨hdue, hresult⟩
      split_ifs with hfails
      · exact ⟨hfresh, hcall⟩
      · refine ⟨hfresh.setPrices ?_, hcall.setPrices ids version⟩
        exact hprices ids version rest rfl (Bool.eq_false_of_not_eq_true hfails)
    | queryView =>
      rw [Catalogue.callTurn]
      split_ifs
      · exact ⟨hfresh, trivial⟩
      · exact ⟨hfresh, hdue, hresult.append (notOlder_version hfresh hdue .search)⟩
    | set =>
      rw [Catalogue.callTurn]
      split_ifs with hfails
      · exact ⟨hfresh, hdue, hresult⟩
      · exact ⟨hfresh.set (hfill rest rfl (Bool.eq_false_of_not_eq_true hfails)), hdue, hresult⟩

/-- A scan that ends has come across every key of the search from before its refresh. -/
theorem notOlder_of_scanEnds (hsound : Sound (P := P) store (.scan made started))
    (hends : Catalogue.ScanEnds store started outcome)
    (hrest : ∀ key entry, store.cached.get? key = some entry →
      outcome.fails ∨ ¬ key.invalidated → NotOlder made entry.result)
    {entry : Entry} (hget : store.cached.get? key = some entry) : NotOlder made entry.result := by
  rcases hends with hfails | ⟨-, hscanned⟩
  · exact hrest key entry hget (Or.inl hfails)
  · by_cases hfamily : key.invalidated
    · have hsince := hscanned _ ((Table.mem_rows_iff _ _ _).mpr hget) hfamily
      exact (hsound.2 key entry hget hfamily).resolve_right (Nat.not_le_of_lt hsince)
    · exact hrest key entry hget (Or.inr hfamily)

/-- A turn of a scan. -/
theorem scanTurn_keeps (catalogue : Catalogue P) (hfresh : Fresh store)
    (hsound : Sound (P := P) store (.scan made started))
    (hrest : Catalogue.ScanEnds store started outcome →
      ∀ key entry, store.cached.get? key = some entry →
        outcome.fails ∨ ¬ key.invalidated → NotOlder made entry.result) :
    Fresh (catalogue.turn store (.scan made started) outcome).1 ∧
      Sound (catalogue.turn store (.scan made started) outcome).1
        (catalogue.turn store (.scan made started) outcome).2 := by
  rw [Catalogue.turn]
  split_ifs with hends
  · refine ⟨hfresh.complete hsound.1 fun key entry hget => ?_, trivial⟩
    exact notOlder_of_scanEnds hsound hends (hrest hends) hget
  · cases outcome.key with
    | none => exact ⟨hfresh, hsound⟩
    | some found =>
      dsimp only
      split_ifs
      · exact ⟨hfresh.delete found, hsound.of_grows (grows_delete store found)⟩
      · exact ⟨hfresh, hsound⟩

/-- A turn of a refresh, which is followed by a scan. -/
theorem refreshTurn_keeps (catalogue : Catalogue P) (hfresh : Fresh store) {views : List View}
    (hsound : Sound (P := P) store (.refresh made views)) (outcome : Outcome) :
    Fresh (catalogue.turn store (.refresh made views) outcome).1 ∧
      Sound (catalogue.turn store (.refresh made views) outcome).1
        (catalogue.turn store (.refresh made views) outcome).2 := by
  cases views with
  | nil =>
    -- everything that is there was added before the scan
    exact ⟨hfresh, hsound, fun key entry hget _ => Or.inr (hfresh.stamped key entry hget)⟩
  | cons view rest =>
    rw [Catalogue.turn]
    split_ifs
    · exact ⟨hfresh, trivial⟩
    · refine ⟨hfresh.refresh view, ?_⟩
      exact update_le_update_iff.mpr ⟨le_rfl, fun other _ => hsound other⟩

/-- A turn of a call caches nothing, or it stores the result, or prices. -/
theorem callTurn_cases (catalogue : Catalogue P) (store : Store) (key : CacheKey) (due : Version)
    (result : Result) (outcome : Outcome) (todo : List (Task P)) :
    Grows store (catalogue.callTurn store key due result outcome todo).1 ∨
      (∃ rest, todo = .set :: rest ∧ outcome.fails = false ∧
        (catalogue.callTurn store key due result outcome todo).1 = store.set key result) ∨
      ∃ ids version, (catalogue.callTurn store key due result outcome todo).1 =
        store.setPrices ids version := by
  cases todo with
  | nil => exact Or.inl (Grows.refl store)
  | cons task rest =>
    cases task with
    | get =>
      left
      rw [Catalogue.callTurn]
      split_ifs
      · exact Grows.refl store
      · split <;> exact Grows.refl store
    | queryCards | queryPrices | queryView =>
      left
      rw [Catalogue.callTurn]
      split_ifs <;> exact Grows.refl store
    | getPrices => exact Or.inl (Grows.refl store)
    | setPrices ids version =>
      rw [Catalogue.callTurn]
      split_ifs
      · exact Or.inl (Grows.refl store)
      · exact Or.inr (Or.inr ⟨ids, version, rfl⟩)
    | set =>
      rw [Catalogue.callTurn]
      split_ifs with hfails
      · exact Or.inl (Grows.refl store)
      · exact Or.inr (Or.inl ⟨rest, rfl, Bool.eq_false_of_not_eq_true hfails, rfl⟩)

/-- Only a call stores something. -/
theorem turn_grows (catalogue : Catalogue P) (store : Store) {thread : Thread P}
    (hthread : ∀ key due result todo, thread ≠ .call key due result todo) (outcome : Outcome) :
    Grows store (catalogue.turn store thread outcome).1 := by
  cases thread with
  | call key due result todo => exact absurd rfl (hthread key due result todo)
  | refresh made todo =>
    cases todo with
    | nil => exact Grows.refl store
    | cons view rest =>
      rw [Catalogue.turn]
      split_ifs
      · exact Grows.refl store
      · exact grows_refresh store view
  | scan made started =>
    rw [Catalogue.turn]
    split_ifs
    · exact grows_complete store made
    · cases outcome.key with
      | none => exact Grows.refl store
      | some found =>
        dsimp only
        split_ifs
        · exact grows_delete store found
        · exact Grows.refl store
  | expiry =>
    rw [Catalogue.turn]
    cases outcome.key with
    | none => exact Grows.refl store
    | some found => exact grows_delete store found
  | returned | completed | raised => exact Grows.refl store

/-- A turn caches nothing, or a call stores its result, or it stores prices. -/
theorem turn_cases (catalogue : Catalogue P) (store : Store) (thread : Thread P)
    (outcome : Outcome) :
    Grows store (catalogue.turn store thread outcome).1 ∨
      (∃ key due result todo, thread = .call key due result (.set :: todo) ∧
        outcome.fails = false ∧
        (catalogue.turn store thread outcome).1 = store.set key result) ∨
      ∃ ids version, (catalogue.turn store thread outcome).1 = store.setPrices ids version := by
  cases thread with
  | call key due result todo =>
    rcases callTurn_cases catalogue store key due result outcome todo with
      hgrows | ⟨rest, rfl, hfails, hset⟩ | hset
    · exact Or.inl hgrows
    · exact Or.inr (Or.inl ⟨key, due, result, rest, rfl, hfails, hset⟩)
    · exact Or.inr (Or.inr hset)
  | refresh | scan | expiry | returned | completed | raised =>
    exact Or.inl (turn_grows catalogue store (by simp) outcome)

end Turns

/-! ## The rule -/

section Rule

variable {catalogue : Catalogue P}

theorem respects (catalogue : Catalogue P) :
    Respects catalogue.system Fresh Sound (Orderly (P := P)) where
  start pool command _ _ := by
    cases command with
    | search | suggest => exact ⟨le_rfl, notOlder_nil⟩
    | refresh => exact fun view => Nat.zero_le _
    | expiry => trivial
  turn pool position outcome thread hpool horderly hthread := by
    have hfresh := hpool.shared
    have hsound := hpool.thread hthread
    cases thread with
    | call key due result todo =>
      refine callTurn_keeps hfresh hsound (fun rest hrest hfails => ?_)
        (fun ids version rest hrest hfails => ?_)
      · subst hrest
        exact (horderly.fill position outcome key due result rest rfl hfails hthread).1
      · subst hrest
        exact horderly.prices position outcome key due result ids version rest rfl hfails hthread
    | refresh made views => exact refreshTurn_keeps catalogue hfresh hsound outcome
    | scan made started =>
      exact scanTurn_keeps catalogue hfresh hsound
        (horderly.ends position outcome made started rfl hthread)
    | expiry =>
      change Fresh (catalogue.turn _ _ _).1 ∧
        Sound (catalogue.turn _ _ _).1 (catalogue.turn _ _ _).2
      rw [Catalogue.turn]
      cases outcome.key with
      | none => exact ⟨hfresh, trivial⟩
      | some found => exact ⟨hfresh.delete found, trivial⟩
    | returned | completed | raised => exact ⟨hfresh, hsound⟩
  others pool position outcome thread hpool horderly hthread elsewhere other _ helsewhere := by
    have hother := hpool.thread helsewhere
    change Sound (catalogue.turn _ _ _).1 other
    rcases turn_cases catalogue pool.shared thread outcome with
      hgrows | ⟨key, due, result, todo, rfl, hfails, hset⟩ | ⟨ids, version, hset⟩
    · exact hother.of_grows hgrows
    · rw [hset]
      refine hother.set fun made started hscan _ => ?_
      obtain ⟨-, hscans⟩ :=
        horderly.fill position outcome key due result todo rfl hfails hthread
      exact hscans made started (hscan ▸ List.mem_of_getElem? helsewhere)
    · rw [hset]
      exact hother.setPrices ids version

end Rule

/-- In every interleaving of orderly moves, a call returns no cards, counts, facets, suggestions or
prices from before a refresh whose invalidation had completed when the call started. -/
theorem nothing_older_is_served (catalogue : Catalogue P) (version : Version)
    (cached : Table CacheKey Result) {moves : List (Move (Command P) Outcome)}
    (hmoves : Run.StepsMeet catalogue.system.step Orderly (opened version cached) moves) :
    ∀ state ∈ Run.visited catalogue.system.step (opened version cached) moves,
      ServesNothingOlder state := by
  have hopened : Holds Fresh Sound (opened (P := P) version cached) := by
    refine ⟨⟨fun key entry _ part _ => Nat.zero_le _, fun key entry hget => ?_,
      fun view => Nat.zero_le _⟩, fun thread hthread => by cases hthread⟩
    rw [opened, Table.get?_mapValues, Option.map_eq_some_iff] at hget
    obtain ⟨result, -, rfl⟩ := hget
    exact le_rfl
  intro state hstate due result hmem
  exact ((respects catalogue).visited hopened hmoves state hstate).threads _ hmem

/-! ## Samples -/

/-- One card, which has a price. -/
def oneCard : Catalogue Unit where
  cardId _ := some 7
  paramsHash _ := "e3b0c442"
  lower := id
  found _ _ := [7]
  priced _ _ := true

def turnOf (position : Nat) : Move (Command Unit) Outcome := .turn position ⟨false, none⟩

/-- The card is read; then the views are refreshed, and the scan comes across the search; then the
card is read again. -/
def refreshBetweenReads : List (Move (Command Unit) Outcome) :=
  .start (.search ()) :: List.replicate 7 (turnOf 0) ++
    .start .refresh :: List.replicate 3 (turnOf 1) ++
      [.turn 1 ⟨false, some (.full "e3b0c442")⟩, turnOf 1] ++
        .start (.search ()) :: List.replicate 5 (turnOf 2)

/-- The second read returns the price from before the refresh. -/
theorem older_price_is_served :
    ¬ ∀ (version : Version) (cached : Table CacheKey Result)
      (moves : List (Move (Command Unit) Outcome)),
      ∀ state ∈ Run.visited oneCard.system.step (opened version cached) moves,
        ServesNothingOlder state := by
  intro hclaim
  have hfinal := hclaim (fun _ => 0) .empty refreshBetweenReads _ (Run.foldl_mem_visited _ _ _)
  have hprice := hfinal _ _ (List.mem_of_getElem? (i := 2) rfl) (.prices, 0) (by decide)
  revert hprice
  decide

theorem orderly_start (state : State P) (command : Command P) :
    Orderly state (.start command) :=
  ⟨fun _ _ _ _ _ _ hmove => (by cases hmove), fun _ _ _ _ _ _ _ _ hmove => (by cases hmove),
    fun _ _ _ _ hmove => (by cases hmove)⟩

/-- A turn that stores nothing and ends no scan. -/
theorem orderly_turnOf {state : State Unit} {position : Nat} {thread : Thread Unit}
    (hthread : state.threads[position]? = some thread)
    (hset : ∀ key due result todo, thread ≠ .call key due result (.set :: todo))
    (hprices : ∀ key due result ids version todo,
      thread ≠ .call key due result (.setPrices ids version :: todo))
    (hscan : ∀ made started, thread ≠ .scan made started) : Orderly state (turnOf position) := by
  refine ⟨fun other outcome key due result todo hmove _ hcall => ?_,
    fun other outcome key due result ids version todo hmove _ hcall => ?_,
    fun other outcome made started hmove hrun => ?_⟩
  · cases hmove
    exact absurd (Option.some.inj (hthread.symm.trans hcall)) (hset key due result todo)
  · cases hmove
    exact absurd (Option.some.inj (hthread.symm.trans hcall))
      (hprices key due result ids version todo)
  · cases hmove
    exact absurd (Option.some.inj (hthread.symm.trans hrun)) (hscan made started)

/-- A scan ends while nothing is cached. -/
theorem orderly_scan {state : State Unit} {position : Nat} {made : Version} {started : Nat}
    (hthread : state.threads[position]? = some (.scan made started))
    (hempty : state.shared.cached.rows = []) : Orderly state (turnOf position) := by
  refine ⟨fun other outcome key due result todo hmove _ hcall => ?_,
    fun other outcome key due result ids version todo hmove _ hcall => ?_,
    fun other outcome made started hmove hrun _ key entry hget => ?_⟩
  · cases hmove
    cases hthread.symm.trans hcall
  · cases hmove
    cases hthread.symm.trans hcall
  · have hrow := (Table.mem_rows_iff _ _ _).mpr hget
    rw [hempty] at hrow
    cases hrow

/-- A call stores its result while no invalidation scans. -/
theorem orderly_set {state : State Unit} {position : Nat} {key : CacheKey} {due : Version}
    {result : Result} {todo : List (Task Unit)}
    (hthread : state.threads[position]? = some (.call key due result (.set :: todo)))
    (hresult : NotOlder state.shared.completed result)
    (hscans : ∀ made started, .scan made started ∉ state.threads) :
    Orderly state (turnOf position) := by
  refine ⟨fun other outcome key due result todo hmove _ hcall => ?_,
    fun other outcome key due result ids version todo hmove _ hcall => ?_,
    fun other outcome made started hmove hrun => ?_⟩
  · cases hmove
    cases hthread.symm.trans hcall
    exact ⟨hresult, fun made started hscan => absurd hscan (hscans made started)⟩
  · cases hmove
    cases hthread.symm.trans hcall
  · cases hmove
    cases hthread.symm.trans hrun

/-- The views are refreshed, and then names are suggested. -/
def refreshThenSuggest : List (Move (Command Unit) Outcome) :=
  .start .refresh :: List.replicate 4 (turnOf 0) ++
    .start (.suggest "bolt" 10) :: List.replicate 4 (turnOf 1)

theorem refreshed_names_are_suggested :
    ServesNothingOlder
      (refreshThenSuggest.foldl oneCard.system.step (opened (fun _ => 0) .empty)) := by
  have horderly : Run.StepsMeet oneCard.system.step Orderly (opened (fun _ => 0) .empty)
      refreshThenSuggest := by
    refine ⟨orderly_start _ _, ?_, ?_, ?_, ?scan, orderly_start _ _, ?_, ?_, ?set, ?_, trivial⟩
    case scan => exact orderly_scan rfl rfl
    case set =>
      refine orderly_set rfl (by decide) fun made started hmem => ?_
      rcases hmem with _ | ⟨_, _ | ⟨_, hmem⟩⟩
      cases hmem
    all_goals
      exact orderly_turnOf rfl (fun _ _ _ _ h => by cases h) (fun _ _ _ _ _ _ h => by cases h)
        (fun _ _ h => by cases h)
  exact nothing_older_is_served _ _ _ horderly _ (Run.foldl_mem_visited _ _ _)

end AutoMana.CardCatalog.SearchCache
