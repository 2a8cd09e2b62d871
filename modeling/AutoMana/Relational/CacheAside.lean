import AutoMana.Relational.Dict
import AutoMana.Relational.Interleaving
import Mathlib.Order.Lattice
import Mathlib.Logic.Function.Basic

/-!
# A cache beside its sources

A read returns what is cached under its key, or else fetches from every source and fills the
cache. A write takes effect at sources, and it may invalidate the keys of its family. Data is
known by the versions of the sources it was fetched at, and a write by the versions it made.
-/

namespace Relational.CacheAside

open Interleaving

/-- How many effects the sources of a family have seen. -/
abbrev Version (Source : Type) := Source → Nat

/-- What a write has left to do. -/
inductive Turn (Key Source : Type) where
  | effect (source : Source)
  /-- What no read sees. -/
  | work
  /-- The scan for the keys of the family, which are then deleted one by one. -/
  | invalidate
  | delete (keys : List Key)
  | reply

structure Plan (Key Family Source C : Type) where
  familyOf : Key → Family
  /-- In the order in which a read fetches from them. -/
  sources : List Source
  complete : ∀ source, source ∈ sources
  family : C → Family
  turns : C → List (Turn Key Source)

inductive Command (Key C : Type) where
  | read (key : Key)
  | write (command : C)
  /-- The cache drops keys at any time. -/
  | expiry

/-- `due` is what the writes that had returned when a read started had made. -/
inductive Thread (Key Source C : Type) where
  | get (key : Key) (due : Version Source)
  | fetch (key : Key) (due data : Version Source) (todo : List Source)
  | returned (key : Key) (due data : Version Source)
  | write (command : C) (made : Version Source) (todo : List (Turn Key Source))
  | expiry
  | raised

/-- Whether a turn raises, and which keys it is about. -/
structure Outcome (Key : Type) where
  raises : Bool
  keys : List Key

structure Store (Key Family Source : Type) where
  version : Family → Version Source
  /-- The versions that cached data was fetched at. -/
  cached : Table Key (Version Source)
  /-- What the writes that have returned have made. -/
  returned : Family → Version Source

variable {Key Family Source C : Type} [DecidableEq Key]

def del (cached : Table Key (Version Source)) (keys : List Key) : Table Key (Version Source) :=
  cached.deleteWhere fun key _ => key ∈ keys

/-- What is cached after a deletion was cached before. -/
theorem get?_of_del {cached : Table Key (Version Source)} {keys : List Key} {key : Key}
    {data : Version Source} (hget : (del cached keys).get? key = some data) :
    cached.get? key = some data ∧ key ∉ keys := by
  rw [del, Table.get?_deleteWhere, Option.filter_eq_some_iff] at hget
  exact ⟨hget.1, by simpa using hget.2⟩

/-! ## What threads rely on -/

/-- A key is among those that a write has yet to delete. -/
def WillDelete (todo : List (Turn Key Source)) (key : Key) : Prop :=
  .invalidate ∈ todo ∨ ∃ keys, .delete keys ∈ todo ∧ key ∈ keys

/-- Every effect is followed by an invalidation, and the reply comes last. -/
def Covered : List (Turn Key Source) → Prop
  | [] => True
  | .effect _ :: todo => .invalidate ∈ todo ∧ Covered todo
  | .reply :: todo => todo = []
  | _ :: todo => Covered todo

/-- Nothing cached is from before a write that has returned. -/
structure Fresh (plan : Plan Key Family Source C) (store : Store Key Family Source) : Prop where
  cached : ∀ key data, store.cached.get? key = some data →
    store.returned (plan.familyOf key) ≤ data
  returned : store.returned ≤ store.version

/-- What a thread relies on. -/
def Sound (plan : Plan Key Family Source C) (store : Store Key Family Source) :
    Thread Key Source C → Prop
  | .get key due => due ≤ store.returned (plan.familyOf key)
  | .fetch key due data todo =>
    due ≤ store.returned (plan.familyOf key) ∧ ∀ source ∉ todo, due source ≤ data source
  | .returned _ due data => due ≤ data
  | .write command made todo =>
    made ≤ store.version (plan.family command) ∧
      (Covered (plan.turns command) → Covered todo ∧
        (todo ≠ [] → ∀ key data, store.cached.get? key = some data →
          plan.familyOf key = plan.family command → made ≤ data ∨ WillDelete todo key))
  | .expiry => True
  | .raised => True

section Caching

variable {plan : Plan Key Family Source C} {store next : Store Key Family Source}

/-- The versions grow, and nothing new is cached. -/
structure Grows (store next : Store Key Family Source) : Prop where
  version : store.version ≤ next.version
  returned : store.returned ≤ next.returned
  cached : ∀ key data, next.cached.get? key = some data → store.cached.get? key = some data

theorem Grows.refl (store : Store Key Family Source) : Grows store store :=
  ⟨le_rfl, le_rfl, fun _ _ => id⟩

theorem grows_del (store : Store Key Family Source) (keys : List Key) :
    Grows store { store with cached := del store.cached keys } :=
  ⟨le_rfl, le_rfl, fun _ _ hget => (get?_of_del hget).1⟩

theorem Sound.of_grows (hgrows : Grows store next) {thread : Thread Key Source C}
    (hsound : Sound plan store thread) : Sound plan next thread := by
  cases thread with
  | get key due => exact hsound.trans (hgrows.returned _)
  | fetch key due data todo => exact ⟨hsound.1.trans (hgrows.returned _), hsound.2⟩
  | write command made todo =>
    refine ⟨hsound.1.trans (hgrows.version _), fun hcovered => ⟨(hsound.2 hcovered).1, ?_⟩⟩
    intro htodo key data hget
    exact (hsound.2 hcovered).2 htodo key data (hgrows.cached key data hget)
  | returned | expiry | raised => exact hsound

/-- A fill that is allowed leaves nothing cached that is too old. -/
theorem fresh_fill {store : Store Key Family Source} (hfresh : Fresh plan store) {key : Key}
    {data : Version Source} (hdata : store.returned (plan.familyOf key) ≤ data) :
    Fresh plan { store with cached := store.cached.set key data } := by
  refine ⟨fun other cached hget => ?_, hfresh.returned⟩
  rw [Table.get?_set] at hget
  split_ifs at hget with hsame
  · obtain rfl := Option.some.inj hget
    rwa [hsame]
  · exact hfresh.cached other cached hget

/-- It disturbs no thread. -/
theorem sound_fill {store : Store Key Family Source} {thread : Thread Key Source C}
    (hsound : Sound plan store thread) {key : Key} {data : Version Source}
    (hwrite : ∀ command made todo, thread = .write command made todo → todo ≠ [] →
      plan.familyOf key = plan.family command → Covered (plan.turns command) →
      made ≤ data ∨ WillDelete todo key) :
    Sound plan { store with cached := store.cached.set key data } thread := by
  cases thread with
  | write command made todo =>
    refine ⟨hsound.1, fun hcovered => ⟨(hsound.2 hcovered).1, ?_⟩⟩
    intro htodo other cached hget hfamily
    rw [Table.get?_set] at hget
    split_ifs at hget with hsame
    · obtain rfl := Option.some.inj hget
      subst hsame
      exact hwrite command made todo rfl htodo hfamily hcovered
    · exact (hsound.2 hcovered).2 htodo other cached hget hfamily
  | get | fetch | returned | expiry | raised => exact hsound

end Caching

/-! ## Turns -/

variable [DecidableEq Family] [DecidableEq Source]

/-- An effect of a write of a family at a source. -/
def Store.takeEffect (store : Store Key Family Source) (family : Family) (source : Source) :
    Store Key Family Source :=
  { store with
    version := Function.update store.version family
      (Function.update (store.version family) source (store.version family source + 1)) }

/-- A write of a family returns. -/
def Store.reply (store : Store Key Family Source) (family : Family) (made : Version Source) :
    Store Key Family Source :=
  { store with
    returned := Function.update store.returned family (store.returned family ⊔ made) }

namespace Plan

variable (plan : Plan Key Family Source C)

def writeTurn (store : Store Key Family Source) (command : C) (made : Version Source)
    (outcome : Outcome Key) :
    List (Turn Key Source) → Store Key Family Source × Thread Key Source C
  | [] => (store, .write command made [])
  | .effect source :: todo =>
    if outcome.raises then (store, .raised)
    else
      (store.takeEffect (plan.family command) source,
        .write command
          (Function.update made source (store.version (plan.family command) source + 1)) todo)
  | .work :: todo =>
    if outcome.raises then (store, .raised) else (store, .write command made todo)
  | .invalidate :: todo =>
    let present := (store.cached.rows.map Prod.fst).filter
      fun key => plan.familyOf key = plan.family command
    (store, .write command made (.delete (outcome.keys ++ present) :: todo))
  | .delete [] :: todo => (store, .write command made todo)
  | .delete (key :: keys) :: todo =>
    ({ store with cached := del store.cached [key] },
      .write command made (.delete keys :: todo))
  | .reply :: todo =>
    (store.reply (plan.family command) made, .write command made todo)

def turn (store : Store Key Family Source) (thread : Thread Key Source C)
    (outcome : Outcome Key) : Store Key Family Source × Thread Key Source C :=
  match thread with
  | .get key due =>
    match store.cached.get? key with
    | some data => (store, .returned key due data)
    | none => (store, .fetch key due (fun _ => 0) plan.sources)
  | .fetch key due data (source :: todo) =>
    if outcome.raises then (store, .raised)
    else
      let version := store.version (plan.familyOf key) source
      (store, .fetch key due (Function.update data source version) todo)
  | .fetch key due data [] =>
    ({ store with cached := store.cached.set key data }, .returned key due data)
  | .write command made todo => plan.writeTurn store command made outcome todo
  | .expiry => ({ store with cached := del store.cached outcome.keys }, .expiry)
  | .returned key due data => (store, .returned key due data)
  | .raised => (store, .raised)

def start (store : Store Key Family Source) : Command Key C → Thread Key Source C
  | .read key => .get key (store.returned (plan.familyOf key))
  | .write command => .write command (fun _ => 0) (plan.turns command)
  | .expiry => .expiry

def system : System (Store Key Family Source) (Thread Key Source C) (Command Key C)
    (Outcome Key) where
  start := plan.start
  turn := plan.turn

end Plan

/-! ## When a read sees the writes before it -/

/-- A read returns no data from before a write that had returned when it started. -/
def SeesReturned (pool : Pool (Store Key Family Source) (Thread Key Source C)) : Prop :=
  ∀ key due data, .returned key due data ∈ pool.threads → due ≤ data

/-- A fill stores nothing from before a write that has returned, and what it stores from
before the effect of another is deleted by it. A write whose effects are not covered returns
when nothing older is cached. -/
structure Allowed (plan : Plan Key Family Source C)
    (pool : Pool (Store Key Family Source) (Thread Key Source C))
    (move : Move (Command Key C) (Outcome Key)) : Prop where
  fill : ∀ position outcome key due data, move = .turn position outcome →
    pool.threads[position]? = some (.fetch key due data []) →
    pool.shared.returned (plan.familyOf key) ≤ data ∧
      ∀ command made todo, .write command made todo ∈ pool.threads → todo ≠ [] →
        plan.familyOf key = plan.family command → Covered (plan.turns command) →
        made ≤ data ∨ WillDelete todo key
  reply : ∀ position outcome command made todo, move = .turn position outcome →
    pool.threads[position]? = some (.write command made (.reply :: todo)) →
    Covered (plan.turns command) ∨
      ∀ key data, pool.shared.cached.get? key = some data →
        plan.familyOf key = plan.family command → made ≤ data

/-! ## Steps -/

section Steps

variable {plan : Plan Key Family Source C} {store next : Store Key Family Source}

theorem grows_takeEffect (store : Store Key Family Source) (family : Family) (source : Source) :
    Grows store (store.takeEffect family source) :=
  ⟨le_update_self_iff.mpr (le_update_self_iff.mpr (Nat.le_succ _)), le_rfl, fun _ _ => id⟩

omit [DecidableEq Key] in
/-- What a write has made is there after another effect of it. -/
theorem le_takeEffect {family : Family} {made : Version Source}
    (hmade : made ≤ store.version family) (source : Source) :
    Function.update made source (store.version family source + 1) ≤
      (store.takeEffect family source).version family := by
  simp only [Store.takeEffect, Function.update_self]
  exact update_le_update_iff.mpr ⟨le_rfl, fun other _ => hmade other⟩

theorem grows_writeTurn (store : Store Key Family Source) (command : C) (made : Version Source)
    (outcome : Outcome Key) (todo : List (Turn Key Source)) :
    Grows store (plan.writeTurn store command made outcome todo).1 := by
  cases todo with
  | nil => exact Grows.refl store
  | cons first todo =>
    cases first with
    | effect source =>
      rw [Plan.writeTurn]
      split_ifs
      · exact Grows.refl store
      · exact grows_takeEffect store _ source
    | work =>
      rw [Plan.writeTurn]
      split_ifs <;> exact Grows.refl store
    | invalidate => exact Grows.refl store
    | delete keys =>
      cases keys with
      | nil => exact Grows.refl store
      | cons key keys => exact grows_del store [key]
    | reply => exact ⟨le_rfl, le_update_self_iff.mpr le_sup_left, fun _ _ => id⟩

/-- A turn of a write keeps what the write relies on. -/
theorem sound_writeTurn {command : C} {made : Version Source} {todo : List (Turn Key Source)}
    (hsound : Sound plan store (.write command made todo)) (outcome : Outcome Key) :
    Sound plan (plan.writeTurn store command made outcome todo).1
      (plan.writeTurn store command made outcome todo).2 := by
  obtain ⟨hmade, htodo⟩ := hsound
  cases todo with
  | nil => exact ⟨hmade, htodo⟩
  | cons first todo =>
    cases first with
    | effect source =>
      rw [Plan.writeTurn]
      split_ifs
      · trivial
      · refine ⟨le_takeEffect hmade source, fun hcovered => ?_⟩
        obtain ⟨hinvalidate, hrest⟩ := (htodo hcovered).1
        exact ⟨hrest, fun _ _ _ _ _ => Or.inr (Or.inl hinvalidate)⟩
    | work =>
      rw [Plan.writeTurn]
      split_ifs
      · trivial
      · refine ⟨hmade, fun hcovered => ⟨(htodo hcovered).1, fun _ key data hget hfamily => ?_⟩⟩
        have hwork := (htodo hcovered).2 (List.cons_ne_nil _ _) key data hget hfamily
        simpa [WillDelete] using hwork
    | invalidate =>
      refine ⟨hmade, fun hcovered => ⟨(htodo hcovered).1, fun _ key data hget hfamily => ?_⟩⟩
      -- every key of the family that is cached has been found
      have hpresent : key ∈ (store.cached.rows.map Prod.fst).filter
          fun key => plan.familyOf key = plan.family command := by
        refine List.mem_filter.mpr ⟨?_, decide_eq_true hfamily⟩
        exact (Table.mem_keys_iff _ _).mpr (Option.isSome_of_eq_some hget)
      exact Or.inr (Or.inr ⟨_, List.mem_cons_self, List.mem_append_right _ hpresent⟩)
    | delete keys =>
      cases keys with
      | nil =>
        refine ⟨hmade, fun hcovered => ⟨(htodo hcovered).1, fun _ key data hget hfamily => ?_⟩⟩
        have hdelete := (htodo hcovered).2 (List.cons_ne_nil _ _) key data hget hfamily
        simpa [WillDelete] using hdelete
      | cons first keys =>
        refine ⟨hmade, fun hcovered => ⟨(htodo hcovered).1, fun _ key data hget hfamily => ?_⟩⟩
        obtain ⟨hcached, hne⟩ := get?_of_del hget
        have hdelete := (htodo hcovered).2 (List.cons_ne_nil _ _) key data hcached hfamily
        rw [List.mem_singleton] at hne
        simpa [WillDelete, hne] using hdelete
    | reply =>
      refine ⟨hmade, fun hcovered => ?_⟩
      obtain rfl := (htodo hcovered).1
      exact ⟨trivial, fun hne => absurd rfl hne⟩

/-- A turn of a write caches nothing, and what it returns with is older than nothing cached. -/
theorem fresh_writeTurn (hfresh : Fresh plan store) {command : C} {made : Version Source}
    {todo : List (Turn Key Source)} (hsound : Sound plan store (.write command made todo))
    (outcome : Outcome Key)
    (hreply : ∀ rest, todo = .reply :: rest → Covered (plan.turns command) ∨
      ∀ key data, store.cached.get? key = some data →
        plan.familyOf key = plan.family command → made ≤ data) :
    Fresh plan (plan.writeTurn store command made outcome todo).1 := by
  have hgrows : Grows store (plan.writeTurn store command made outcome todo).1 :=
    grows_writeTurn store command made outcome todo
  by_cases hlast : ∃ rest, todo = .reply :: rest
  · obtain ⟨rest, rfl⟩ := hlast
    have hold : ∀ key data, store.cached.get? key = some data →
        plan.familyOf key = plan.family command → made ≤ data := by
      rcases hreply rest rfl with hcovered | hold
      · intro key data hget hfamily
        obtain ⟨hrest, hdelete⟩ := hsound.2 hcovered
        obtain rfl : rest = [] := hrest
        -- nothing is left to be deleted
        refine (hdelete (List.cons_ne_nil _ _) key data hget hfamily).resolve_right fun hwill => ?_
        simp [WillDelete] at hwill
      · exact hold
    refine ⟨fun key data hget => ?_, ?_⟩
    · have hcached : store.cached.get? key = some data := hget
      simp only [Plan.writeTurn, Store.reply, Function.update_apply]
      split_ifs with hfamily
      · rw [← hfamily]
        exact sup_le (hfresh.cached key data hcached) (hold key data hcached hfamily)
      · exact hfresh.cached key data hcached
    · exact update_le_iff.mpr ⟨sup_le (hfresh.returned _) hsound.1, fun other _ =>
        hfresh.returned other⟩
  · have hreturned : (plan.writeTurn store command made outcome todo).1.returned =
        store.returned := by
      unfold Plan.writeTurn
      split
      · rfl
      · split_ifs <;> rfl
      · split_ifs <;> rfl
      · rfl
      · rfl
      · rfl
      · rename_i rest
        exact absurd ⟨rest, rfl⟩ hlast
    refine ⟨fun key data hget => ?_, ?_⟩
    · rw [hreturned]
      exact hfresh.cached key data (hgrows.cached key data hget)
    · rw [hreturned]
      exact hfresh.returned.trans hgrows.version

end Steps

/-! ## The rule -/

section Rule

variable {plan : Plan Key Family Source C}

/-- A turn caches nothing, or it fills the cache with what a read has fetched. -/
theorem turn_cases (plan : Plan Key Family Source C) (store : Store Key Family Source)
    (thread : Thread Key Source C) (outcome : Outcome Key) :
    Grows store (plan.turn store thread outcome).1 ∨
      ∃ key due data, thread = .fetch key due data [] ∧
        (plan.turn store thread outcome).1 =
          { store with cached := store.cached.set key data } := by
  cases thread with
  | get key due =>
    left
    rw [Plan.turn]
    split <;> exact Grows.refl store
  | fetch key due data todo =>
    cases todo with
    | nil => exact Or.inr ⟨key, due, data, rfl, rfl⟩
    | cons source todo =>
      left
      rw [Plan.turn]
      split_ifs <;> exact Grows.refl store
  | write command made todo => exact Or.inl (grows_writeTurn store command made outcome todo)
  | expiry => exact Or.inl (grows_del store outcome.keys)
  | returned | raised => exact Or.inl (Grows.refl store)

omit [DecidableEq Family] in
/-- A fetch from the sources that are left to a read. -/
theorem sound_fetch {store : Store Key Family Source} (hfresh : Fresh plan store) {key : Key}
    {due data : Version Source} {source : Source} {todo : List Source}
    (hsound : Sound (C := C) plan store (.fetch key due data (source :: todo))) :
    Sound (C := C) plan store (.fetch key due
      (Function.update data source (store.version (plan.familyOf key) source)) todo) := by
  refine ⟨hsound.1, fun other hother => ?_⟩
  rw [Function.update_apply]
  split_ifs with hsame
  · subst hsame
    exact (hsound.1 other).trans (hfresh.returned _ other)
  · exact hsound.2 other (by simp [hsame, hother])

theorem respects (plan : Plan Key Family Source C) :
    Respects plan.system (Fresh plan) (Sound plan) (Allowed plan) where
  start pool command _ _ := by
    cases command with
    | read key => exact le_rfl
    | write command =>
      have hzero : ∀ data : Version Source, (fun _ => 0) ≤ data := fun data source =>
        Nat.zero_le (data source)
      exact ⟨hzero _, fun hcovered => ⟨hcovered, fun _ _ data _ _ => Or.inl (hzero data)⟩⟩
    | expiry => trivial
  turn pool position outcome thread hpool hallowed hthread := by
    have hsound := hpool.thread hthread
    have hfresh := hpool.shared
    cases thread with
    | get key due =>
      change Fresh plan (plan.turn _ _ _).1 ∧ Sound plan (plan.turn _ _ _).1 (plan.turn _ _ _).2
      rw [Plan.turn]
      split
      next data hget => exact ⟨hfresh, hsound.trans (hfresh.cached key data hget)⟩
      next => exact ⟨hfresh, hsound, fun source hsource => absurd (plan.complete source) hsource⟩
    | fetch key due data todo =>
      cases todo with
      | nil =>
        obtain ⟨hdata, -⟩ := hallowed.fill position outcome key due data rfl hthread
        exact ⟨fresh_fill hfresh hdata, hsound.1.trans hdata⟩
      | cons source todo =>
        change Fresh plan (plan.turn _ _ _).1 ∧
          Sound plan (plan.turn _ _ _).1 (plan.turn _ _ _).2
        rw [Plan.turn]
        split_ifs
        · exact ⟨hfresh, trivial⟩
        · exact ⟨hfresh, sound_fetch hfresh hsound⟩
    | returned key due data => exact ⟨hfresh, hsound⟩
    | write command made todo =>
      refine ⟨fresh_writeTurn hfresh hsound outcome fun rest hrest => ?_,
        sound_writeTurn hsound outcome⟩
      subst hrest
      exact hallowed.reply position outcome command made rest rfl hthread
    | expiry =>
      exact ⟨⟨fun key data hget => hfresh.cached key data (get?_of_del hget).1,
        hfresh.returned⟩, trivial⟩
    | raised => exact ⟨hfresh, trivial⟩
  others pool position outcome thread hpool hallowed hthread elsewhere other _ helsewhere := by
    have hother := hpool.thread helsewhere
    rcases turn_cases plan pool.shared thread outcome with hgrows | ⟨key, due, data, rfl, hfill⟩
    · exact hother.of_grows hgrows
    · change Sound plan (plan.turn _ _ _).1 other
      rw [hfill]
      obtain ⟨-, hwrites⟩ := hallowed.fill position outcome key due data rfl hthread
      refine sound_fill hother fun command made todo hwrite => ?_
      exact hwrites command made todo (hwrite ▸ List.mem_of_getElem? helsewhere)

/-- In a run whose moves are allowed, reads see the writes that had returned before them. -/
theorem seesReturned_of_allowed {pool : Pool (Store Key Family Source) (Thread Key Source C)}
    (hpool : Holds (Fresh plan) (Sound plan) pool)
    {moves : List (Move (Command Key C) (Outcome Key))}
    (hmoves : Run.StepsMeet plan.system.step (Allowed plan) pool moves) :
    ∀ next ∈ Run.visited plan.system.step pool moves, SeesReturned next := by
  intro next hnext key due data hmem
  exact ((respects plan).visited hpool hmoves next hnext).threads _ hmem

end Rule

end Relational.CacheAside
