import AutoMana.Relational.CacheAside

/-!
# Cached reads of a user and an app

The active listings and the order history are read through the cache. The commands on
listings invalidate their family after their effect; `update_order_local_status` does so
before its transaction commits, and `mark_order_shipped` not at all.
-/

namespace AutoMana.Ebay.CachedReads

open Relational Relational.Interleaving Relational.CacheAside

/-! ## The commands -/

/-- `ebay:active_listings:…` and `ebay:sold_orders:…` -/
inductive Family where
  | activeListings
  | soldOrders
deriving DecidableEq, Repr

inductive Source where
  | ebay
  | database
deriving DecidableEq, Repr

/-- The rest of a key, which follows the user and the app. -/
structure CacheKey where
  family : Family
  limit : Int
  /-- The page number, or the offset. -/
  position : Int
deriving DecidableEq, Repr

/-- The key of `get_active_listings`. -/
def activeListingsKey (limit offset : Int) : CacheKey :=
  ⟨.activeListings, limit, if limit ≠ 0 then offset.fdiv limit + 1 else 1⟩

/-- The key of `get_order_history`. -/
def soldOrdersKey (limit offset : Int) : CacheKey := ⟨.soldOrders, limit, offset⟩

inductive EbayWrite where
  /-- A hit of the idempotency key returns what is stored. -/
  | createListing (hit : Bool)
  | updateListing
  | endListing
  | markOrderShipped
  | updateOrderLocalStatus
deriving DecidableEq, Repr

def EbayWrite.family : EbayWrite → Family
  | .createListing _ => .activeListings
  | .updateListing => .activeListings
  | .endListing => .activeListings
  | .markOrderShipped => .soldOrders
  | .updateOrderLocalStatus => .soldOrders

/-- The token, the call, the invalidation, and the commit of a transaction without writes. -/
def listingTurns : List (Turn CacheKey Source) :=
  [.work, .effect .ebay, .invalidate, .work, .reply]

def EbayWrite.turns : EbayWrite → List (Turn CacheKey Source)
  | .createListing hit => if hit then [.work, .reply] else listingTurns
  | .updateListing => listingTurns
  | .endListing => listingTurns
  -- the token, the call, the upsert, and its commit
  | .markOrderShipped => [.work, .effect .ebay, .work, .effect .database, .reply]
  -- the token, the upsert, the invalidation, and the commit
  | .updateOrderLocalStatus => [.work, .work, .invalidate, .effect .database, .reply]

def plan : Plan CacheKey Family Source EbayWrite where
  familyOf := CacheKey.family
  sources := [.ebay, .database]
  complete source := by cases source <;> simp
  family := EbayWrite.family
  turns := EbayWrite.turns

abbrev State := Pool (Store CacheKey Family Source) (Thread CacheKey Source EbayWrite)

/-- Anything is cached, and no command has started. -/
def opened (version : Family → Version Source) (cached : Table CacheKey (Version Source)) : State :=
  ⟨⟨version, cached, fun _ _ => 0⟩, []⟩

/-! ## When reads see the writes -/

/-- The commands whose effects the invalidation follows. -/
def EbayWrite.invalidatesLast : EbayWrite → Bool
  | .createListing _ => true
  | .updateListing => true
  | .endListing => true
  | .markOrderShipped => false
  | .updateOrderLocalStatus => false

/-- A fill stores nothing from before a command of its family that has returned; and what it
stores from before the effect of a listing command under way is yet to be deleted by it.
`mark_order_shipped` and `update_order_local_status` return while no older order page is cached. -/
structure Orderly (state : State) (move : Move (Command CacheKey EbayWrite) (Outcome CacheKey)) :
    Prop where
  fill : ∀ position outcome key due data, move = .turn position outcome →
    state.threads[position]? = some (.fetch key due data []) →
    state.shared.returned key.family ≤ data ∧
      ∀ write made todo, .write write made todo ∈ state.threads → todo ≠ [] →
        key.family = write.family → write.invalidatesLast = true →
        made ≤ data ∨ WillDelete todo key
  reply : ∀ position outcome write made todo, move = .turn position outcome →
    state.threads[position]? = some (.write write made (.reply :: todo)) →
    write.invalidatesLast = false →
    ∀ key data, state.shared.cached.get? key = some data → key.family = write.family →
      made ≤ data

theorem covered_turns_iff (write : EbayWrite) :
    Covered write.turns ↔ write.invalidatesLast = true := by
  cases write with
  | createListing hit =>
    cases hit <;> simp [EbayWrite.turns, listingTurns, Covered, EbayWrite.invalidatesLast]
  | updateListing | endListing | markOrderShipped | updateOrderLocalStatus =>
    simp [EbayWrite.turns, listingTurns, Covered, EbayWrite.invalidatesLast]

theorem allowed_of_orderly {state : State}
    {move : Move (Command CacheKey EbayWrite) (Outcome CacheKey)} (horderly : Orderly state move) :
    Allowed plan state move := by
  refine ⟨fun position outcome key due data hmove hthread => ?_,
    fun position outcome write made todo hmove hthread => ?_⟩
  · obtain ⟨hreturned, hwrites⟩ := horderly.fill position outcome key due data hmove hthread
    refine ⟨hreturned, fun write made todo hwrite htodo hfamily hcovered => ?_⟩
    exact hwrites write made todo hwrite htodo hfamily ((covered_turns_iff write).mp hcovered)
  · cases hlast : write.invalidatesLast with
    | true => exact Or.inl ((covered_turns_iff write).mpr hlast)
    | false => exact Or.inr (horderly.reply position outcome write made todo hmove hthread hlast)

/-- In every interleaving of orderly moves, a read that starts after a command has returned
returns no data from before its effects. -/
theorem reads_see_own_writes (version : Family → Version Source)
    (cached : Table CacheKey (Version Source))
    {moves : List (Move (Command CacheKey EbayWrite) (Outcome CacheKey))}
    (hmoves : Run.StepsMeet plan.system.step Orderly (opened version cached) moves) :
    ∀ state ∈ Run.visited plan.system.step (opened version cached) moves, SeesReturned state := by
  have hopened : Holds (Fresh plan) (Sound plan) (opened version cached) := by
    have hzero : ∀ data : Version Source, (fun _ => 0) ≤ data := fun data source =>
      Nat.zero_le (data source)
    exact ⟨⟨fun _ data _ => hzero data, fun _ => hzero _⟩, fun thread hthread => by cases hthread⟩
  refine seesReturned_of_allowed hopened ?_
  exact hmoves.imp fun _ _ => allowed_of_orderly

/-! ## Samples -/

/-- A turn of the command at a position that does not raise. -/
def turnOf (position : Nat) : Move (Command CacheKey EbayWrite) (Outcome CacheKey) :=
  .turn position ⟨false, []⟩

/-- A read that fetches, and fills the cache. -/
def readAt (position : Nat) (key : CacheKey) :
    List (Move (Command CacheKey EbayWrite) (Outcome CacheKey)) :=
  .start (.read key) :: List.replicate 4 (turnOf position)

def writeAt (position : Nat) (write : EbayWrite) :
    List (Move (Command CacheKey EbayWrite) (Outcome CacheKey)) :=
  .start (.write write) :: List.replicate 7 (turnOf position)

/-- An order is marked as shipped between two reads of its page. -/
def shippedBetweenReads : List (Move (Command CacheKey EbayWrite) (Outcome CacheKey)) :=
  readAt 0 (soldOrdersKey 10 0) ++ writeAt 1 .markOrderShipped ++ readAt 2 (soldOrdersKey 10 0)

theorem shipped_order_is_read_unshipped :
    ¬ ∀ (version : Family → Version Source) (cached : Table CacheKey (Version Source))
      (moves : List (Move (Command CacheKey EbayWrite) (Outcome CacheKey))),
      ∀ state ∈ Run.visited plan.system.step (opened version cached) moves,
        SeesReturned state := by
  intro hclaim
  have hfinal := hclaim (fun _ _ => 0) .empty shippedBetweenReads _ (Run.foldl_mem_visited _ _ _)
  have hdata := hfinal _ _ _ (List.mem_of_getElem? (i := 2) rfl) .ebay
  revert hdata
  decide

theorem orderly_start (state : State) (command : Command CacheKey EbayWrite) :
    Orderly state (.start command) :=
  ⟨fun _ _ _ _ _ hmove => (by cases hmove), fun _ _ _ _ _ hmove => (by cases hmove)⟩

/-- A turn that neither fills the cache nor lets an order command return. -/
theorem orderly_turnOf {state : State} {position : Nat}
    {thread : Thread CacheKey Source EbayWrite}
    (hthread : state.threads[position]? = some thread)
    (hfill : ∀ key due data, thread ≠ .fetch key due data [])
    (hreply : ∀ write made todo, thread = .write write made (.reply :: todo) →
      write.invalidatesLast = true) : Orderly state (turnOf position) := by
  refine ⟨fun other outcome key due data hmove hfetch => ?_,
    fun other outcome write made todo hmove hwrite hlast => ?_⟩
  · cases hmove
    rw [hthread] at hfetch
    exact absurd (Option.some.inj hfetch) (hfill key due data)
  · cases hmove
    rw [hthread] at hwrite
    rw [hreply write made todo (Option.some.inj hwrite)] at hlast
    cases hlast

/-- A fill while no write is under way. -/
theorem orderly_fill {state : State} {position : Nat} {key : CacheKey}
    {due data : Version Source}
    (hthread : state.threads[position]? = some (.fetch key due data []))
    (hreturned : state.shared.returned key.family ≤ data)
    (hwrites : ∀ write made todo, .write write made todo ∈ state.threads → todo = []) :
    Orderly state (turnOf position) := by
  refine ⟨fun other outcome filled _ fetched hmove hfetch => ?_,
    fun other outcome write made todo hmove hwrite => ?_⟩
  · cases hmove
    rw [hthread] at hfetch
    cases hfetch
    refine ⟨hreturned, fun write made todo hmem htodo => ?_⟩
    exact absurd (hwrites write made todo hmem) htodo
  · cases hmove
    rw [hthread] at hwrite
    cases hwrite

/-- A listing is updated between two reads of its page. -/
def updatedBetweenReads : List (Move (Command CacheKey EbayWrite) (Outcome CacheKey)) :=
  readAt 0 (activeListingsKey 10 0) ++ writeAt 1 .updateListing ++
    readAt 2 (activeListingsKey 10 0)

theorem updated_listing_is_read :
    SeesReturned (updatedBetweenReads.foldl plan.system.step (opened (fun _ _ => 0) .empty)) := by
  have horderly : Run.StepsMeet plan.system.step Orderly (opened (fun _ _ => 0) .empty)
      updatedBetweenReads := by
    refine ⟨orderly_start _ _, ?_, ?_, ?_, ?fill, orderly_start _ _, ?_, ?_, ?_, ?_, ?_, ?_, ?_,
      orderly_start _ _, ?_, ?_, ?_, ?refill, trivial⟩
    case fill =>
      refine orderly_fill rfl (fun source => Nat.zero_le _) fun write made todo hmem => ?_
      rcases hmem with _ | ⟨_, hmem⟩
      cases hmem
    case refill =>
      refine orderly_fill rfl (fun source => ?_) fun write made todo hmem => ?_
      · cases source <;> decide
      · rcases hmem with _ | ⟨_, _ | ⟨_, _ | ⟨_, hmem⟩⟩⟩
        · rfl
        · cases hmem
    all_goals
      exact orderly_turnOf rfl (fun _ _ _ h => by cases h)
        (fun _ _ _ h => by cases h <;> rfl)
  exact reads_see_own_writes _ _ horderly _ (Run.foldl_mem_visited _ _ _)

end AutoMana.Ebay.CachedReads
