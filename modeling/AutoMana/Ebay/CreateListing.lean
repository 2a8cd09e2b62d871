import AutoMana.Json
import AutoMana.Relational.Interleaving

/-!
# create_listing and its idempotency key

A call looks up the key, creates the listing at eBay if it finds no result, and stores the
answer unless an entry is there. Calls with one key create one listing when each look sees the
creations before it, every answer carries a created item, and the entry is no malformed one.
-/

namespace AutoMana.Ebay.CreateListing

open Relational Relational.Interleaving

/-! ## The store -/

/-- What is stored under the key, by what `json.loads` makes of it. -/
inductive Entry where
  | result (value : Json)
  /-- `json.loads` raises. -/
  | malformed
  /-- The bytes are not UTF-8, and `get` raises. -/
  | undecodable

/-- `set_if_absent` -/
def setIfAbsent (entry : Option Entry) (value : Json) : Option Entry :=
  entry.or (some (.result value))

/-- The cached result of the key, if it can be read. -/
def cached? : Option Entry → Option Json
  | some (.result value) => some value
  | _ => none

/-! ## A call -/

/-- A parsed answer of eBay. -/
inductive Reply where
  | created (result : Json)
  | failed (body : Json)

def Reply.body : Reply → Json
  | .created result => result
  | .failed body => body

/-- Whether an await raises, and what eBay answers. -/
structure Outcome where
  raises : Bool
  reply : Reply

/-- A call at its await points. `seen` is how many creations were stored when it looked. -/
inductive Call where
  | get
  | token (seen : Nat)
  | create (seen : Nat)
  | store (reply : Reply)
  | invalidate (reply : Reply)
  | returned (value : Json)
  | raised

structure Listings where
  entry : Option Entry
  /-- The results of the creations at eBay. -/
  created : List Json
  /-- How many of them were stored. -/
  stored : Nat

/-- `create_listing` up to its next await. -/
def turn (idempotencyKey : String) (listings : Listings) (call : Call) (outcome : Outcome) :
    Listings × Call :=
  match call with
  | .get =>
    if idempotencyKey = "" then (listings, .raised)
    else
      match listings.entry with
      | some (.result value) => (listings, .returned value)
      | some .undecodable => (listings, .raised)
      | some .malformed | none => (listings, .token listings.stored)
  | .token seen => if outcome.raises then (listings, .raised) else (listings, .create seen)
  | .create _ =>
    if outcome.raises then (listings, .raised)
    else
      match outcome.reply with
      | .created result =>
        ({ listings with created := listings.created ++ [result] }, .store (.created result))
      | .failed body => (listings, .store (.failed body))
  | .store reply =>
    ({ listings with
        entry := setIfAbsent listings.entry reply.body
        stored :=
          match reply with
          | .created _ => listings.stored + 1
          | .failed _ => listings.stored },
      .invalidate reply)
  | .invalidate reply =>
    if outcome.raises then (listings, .raised) else (listings, .returned reply.body)
  | .returned value => (listings, .returned value)
  | .raised => (listings, .raised)

/-- Calls of one user and app that carry the key. -/
def system (idempotencyKey : String) : System Listings Call Unit Outcome where
  start _ _ := .get
  turn := turn idempotencyKey

/-- Any entry is stored, and no call has started. -/
def opened (entry : Option Entry) : Pool Listings Call := ⟨⟨entry, [], 0⟩, []⟩

/-! ## What is claimed, and the condition -/

/-- The creations: the one that is stored at the start, and those at eBay. -/
def creations (initial : Option Entry) (listings : Listings) : List Json :=
  (cached? initial).toList ++ listings.created

structure OncePerKey (initial : Option Entry) (pool : Pool Listings Call) : Prop where
  once : (creations initial pool.shared).length ≤ 1
  /-- A call that returns has the result of that creation. -/
  same : ∀ value, .returned value ∈ pool.threads → creations initial pool.shared = [value]
  /-- A call that looks after a creation was stored hits. -/
  stored : 0 < pool.shared.stored → (cached? pool.shared.entry).isSome
  /-- Nothing but that creation consumes the key. -/
  unconsumed : ∀ value, cached? pool.shared.entry = some value →
    creations initial pool.shared = [value]

/-- The creations of the key were stored when a call looked for which eBay creates another;
an answer carries a created item; and no malformed entry is there when it is stored. -/
structure Exclusive (pool : Pool Listings Call) (move : Move Unit Outcome) : Prop where
  create : ∀ position outcome seen result, move = .turn position outcome →
    pool.threads[position]? = some (.create seen) → outcome.raises = false →
    outcome.reply = .created result → pool.shared.created.length = seen
  reply : ∀ position outcome seen body, move = .turn position outcome →
    pool.threads[position]? = some (.create seen) → outcome.raises = false →
    outcome.reply ≠ .failed body
  store : ∀ position outcome reply, move = .turn position outcome →
    pool.threads[position]? = some (.store reply) → pool.shared.entry = none ∨
      (cached? pool.shared.entry).isSome

/-! ## Steps -/

section Steps

variable {initial : Option Entry} {listings : Listings}

/-- What the calls keep of the store and the listings. -/
structure Recorded (initial : Option Entry) (listings : Listings) : Prop where
  once : (creations initial listings).length ≤ 1
  stored : 0 < listings.stored → (cached? listings.entry).isSome
  unconsumed : ∀ value, cached? listings.entry = some value →
    creations initial listings = [value]
  /-- A result that was there at the start stays. -/
  initial : (cached? initial).isSome → (cached? listings.entry).isSome

/-- What a call relies on. -/
def Sound (initial : Option Entry) (listings : Listings) : Call → Prop
  | .get => True
  | .token seen => seen = 0 ∧ cached? initial = none
  | .create seen => seen = 0 ∧ cached? initial = none
  | .store reply => ∃ result, reply = .created result ∧ creations initial listings = [result]
  | .invalidate reply => creations initial listings = [reply.body]
  | .returned value => creations initial listings = [value]
  | .raised => True

/-- A turn creates nothing, or eBay creates a listing for a call. -/
theorem created_turn (idempotencyKey : String) (listings : Listings) (call : Call)
    (outcome : Outcome) :
    (turn idempotencyKey listings call outcome).1.created = listings.created ∨
      ∃ seen result, call = .create seen ∧ outcome.raises = false ∧
        outcome.reply = .created result := by
  cases call with
  | get =>
    left
    rw [turn]
    split_ifs
    · rfl
    · split <;> rfl
  | create seen =>
    cases hraises : outcome.raises with
    | true => exact Or.inl (by simp [turn, hraises])
    | false =>
      cases hreply : outcome.reply with
      | created result => exact Or.inr ⟨seen, result, rfl, rfl, rfl⟩
      | failed body => exact Or.inl (by simp [turn, hraises, hreply])
  | token | invalidate =>
    left
    rw [turn]
    split_ifs <;> rfl
  | store | returned | raised => exact Or.inl rfl

/-- Nothing was created before a creation that is exclusive. -/
theorem creations_eq_nil {seen : Nat} (hsound : Sound initial listings (.create seen))
    (hlength : listings.created.length = seen) : creations initial listings = [] := by
  obtain ⟨rfl, hinitial⟩ := hsound
  rw [creations, hinitial, List.length_eq_zero_iff.mp hlength]
  rfl

theorem turn_get (idempotencyKey : String) (hrecorded : Recorded initial listings)
    (outcome : Outcome) :
    (turn idempotencyKey listings .get outcome).1 = listings ∧
      Sound initial listings (turn idempotencyKey listings .get outcome).2 := by
  rw [turn]
  split_ifs
  · exact ⟨rfl, trivial⟩
  · -- a call that finds no result is the first
    have hmiss : cached? listings.entry = none →
        Sound initial listings (.token listings.stored) := by
      intro hcached
      have hstored : ¬ 0 < listings.stored := fun hpos => by
        simpa [hcached] using hrecorded.stored hpos
      have hinitial : ¬ (cached? initial).isSome := fun hsome => by
        simpa [hcached] using hrecorded.initial hsome
      exact ⟨Nat.eq_zero_of_not_pos hstored, by simpa using hinitial⟩
    cases hentry : listings.entry with
    | none => exact ⟨rfl, hmiss (by rw [hentry]; rfl)⟩
    | some entry =>
      cases entry with
      | result value => exact ⟨rfl, hrecorded.unconsumed value (by rw [hentry]; rfl)⟩
      | malformed => exact ⟨rfl, hmiss (by rw [hentry]; rfl)⟩
      | undecodable => exact ⟨rfl, trivial⟩

/-- eBay creates the first listing of the key. -/
theorem recorded_create (hrecorded : Recorded initial listings)
    (hnone : creations initial listings = []) (result : Json) :
    Recorded initial { listings with created := listings.created ++ [result] } ∧
      creations initial { listings with created := listings.created ++ [result] } = [result] := by
  have hnext : creations initial { listings with created := listings.created ++ [result] } =
      [result] := by
    rw [creations, ← List.append_assoc]
    change creations initial listings ++ [result] = [result]
    rw [hnone, List.nil_append]
  refine ⟨⟨by simp [hnext], hrecorded.stored, fun value hvalue => ?_, hrecorded.initial⟩, hnext⟩
  have hold := hrecorded.unconsumed value hvalue
  rw [hnone] at hold
  cases hold

/-- A call stores the creation, or finds it stored. -/
theorem recorded_store (hrecorded : Recorded initial listings) {result : Json}
    (hcreated : creations initial listings = [result])
    (hentry : listings.entry = none ∨ (cached? listings.entry).isSome) (stored : Nat) :
    Recorded initial
      { listings with entry := setIfAbsent listings.entry result, stored := stored } := by
  rcases hentry with hnone | hsome
  · have hcached : cached? (setIfAbsent listings.entry result) = some result := by
      rw [hnone]
      rfl
    refine ⟨hrecorded.once, fun _ => ?_, fun value hvalue => ?_, fun _ => ?_⟩
    · exact Option.isSome_of_eq_some hcached
    · rw [hcached] at hvalue
      cases hvalue
      exact hcreated
    · exact Option.isSome_of_eq_some hcached
  · have hsame : setIfAbsent listings.entry result = listings.entry := by
      cases hentry : listings.entry with
      | none => simp [hentry, cached?] at hsome
      | some entry => rfl
    rw [hsame]
    exact ⟨hrecorded.once, fun _ => hsome, hrecorded.unconsumed, fun _ => hsome⟩

theorem respects (initial : Option Entry) (idempotencyKey : String) :
    Respects (system idempotencyKey) (Recorded initial) (Sound initial) Exclusive where
  start _ _ _ _ := trivial
  turn pool position outcome call hpool hexclusive hcall := by
    have hsound := hpool.thread hcall
    have hrecorded := hpool.shared
    change Recorded initial (turn _ _ _ _).1 ∧ Sound initial (turn _ _ _ _).1 (turn _ _ _ _).2
    cases call with
    | get =>
      obtain ⟨hsame, hnext⟩ := turn_get idempotencyKey hrecorded outcome
      rw [hsame]
      exact ⟨hrecorded, hnext⟩
    | token seen =>
      rw [turn]
      split_ifs
      · exact ⟨hrecorded, trivial⟩
      · exact ⟨hrecorded, hsound⟩
    | create seen =>
      cases hraises : outcome.raises with
      | true => simpa [turn, hraises, Sound] using hrecorded
      | false =>
        cases hreply : outcome.reply with
        | failed body =>
          exact absurd hreply (hexclusive.reply position outcome seen body rfl hcall hraises)
        | created result =>
          have hlength := hexclusive.create position outcome seen result rfl hcall hraises hreply
          obtain ⟨hnext, hcreated⟩ :=
            recorded_create hrecorded (creations_eq_nil hsound hlength) result
          simp only [turn, hraises, hreply, Bool.false_eq_true, if_false]
          exact ⟨hnext, result, rfl, hcreated⟩
    | store reply =>
      obtain ⟨result, rfl, hcreated⟩ := hsound
      exact ⟨recorded_store hrecorded hcreated (hexclusive.store position outcome _ rfl hcall) _,
        hcreated⟩
    | invalidate reply =>
      rw [turn]
      split_ifs
      · exact ⟨hrecorded, trivial⟩
      · exact ⟨hrecorded, hsound⟩
    | returned value => exact ⟨hrecorded, hsound⟩
    | raised => exact ⟨hrecorded, trivial⟩
  others pool position outcome call hpool hexclusive hcall elsewhere other _ helsewhere := by
    have hother := hpool.thread helsewhere
    change Sound initial (turn _ _ _ _).1 other
    rcases created_turn idempotencyKey pool.shared call outcome with
      hsame | ⟨seen, result, rfl, hraises, hreply⟩
    · have hcreations : creations initial (turn idempotencyKey pool.shared call outcome).1 =
          creations initial pool.shared := by
        rw [creations, hsame, creations]
      cases other with
      | get | token | create | raised => exact hother
      | store | invalidate | returned => simpa only [Sound, hcreations] using hother
    · have hlength := hexclusive.create position outcome seen result rfl hcall hraises hreply
      -- no other call has created, stored, or returned anything
      have hnone := creations_eq_nil (hpool.thread hcall) hlength
      cases other with
      | get | token | create | raised => exact hother
      | store reply =>
        obtain ⟨_, -, hcreated⟩ := hother
        rw [hnone] at hcreated
        cases hcreated
      | invalidate | returned =>
        have hcreated := hnone.symm.trans hother
        cases hcreated

end Steps

/-- In every interleaving of exclusive moves, calls with one key create at most one listing and
return its result. -/
theorem oncePerKey_of_exclusive (idempotencyKey : String) (initial : Option Entry)
    {moves : List (Move Unit Outcome)}
    (hmoves : Run.StepsMeet (system idempotencyKey).step Exclusive (opened initial) moves) :
    ∀ pool ∈ Run.visited (system idempotencyKey).step (opened initial) moves,
      OncePerKey initial pool := by
  have hopened : Holds (Recorded initial) (Sound initial) (opened initial) := by
    refine ⟨⟨?_, fun hpos => absurd hpos (Nat.lt_irrefl 0), fun value hvalue => ?_, id⟩, ?_⟩
    · cases hinitial : cached? initial <;> simp [opened, creations, hinitial]
    · rw [creations, show cached? initial = some value from hvalue]
      rfl
    · intro call hcall
      cases hcall
  intro pool hpool
  obtain ⟨hrecorded, hcalls⟩ := (respects initial idempotencyKey).visited hopened hmoves pool hpool
  exact ⟨hrecorded.once, fun value hvalue => hcalls _ hvalue, hrecorded.stored,
    hrecorded.unconsumed⟩

/-! ## Samples -/

/-- A turn at which nothing raises, and eBay would create an item. -/
def turnOf (position : Nat) (itemId : String) : Move Unit Outcome :=
  .turn position ⟨false, .created (.str itemId)⟩

/-- A call with all the turns it may take. -/
def callAt (position : Nat) (itemId : String) : List (Move Unit Outcome) :=
  .start () :: List.replicate 5 (turnOf position itemId)

/-- `set_if_absent` does not overwrite a malformed entry, so the retry creates again. -/
theorem malformed_entry_creates_twice :
    ¬ ∀ (idempotencyKey : String) (initial : Option Entry) (moves : List (Move Unit Outcome)),
      ∀ pool ∈ Run.visited (system idempotencyKey).step (opened initial) moves,
        OncePerKey initial pool := by
  intro hclaim
  have honce := (hclaim "key" (some .malformed) (callAt 0 "1" ++ callAt 1 "2") _
    (Run.foldl_mem_visited _ _ _)).once
  revert honce
  decide

theorem exclusive_start (pool : Pool Listings Call) : Exclusive pool (.start ()) :=
  ⟨fun _ _ _ _ hmove => (by cases hmove), fun _ _ _ _ hmove => (by cases hmove),
    fun _ _ _ hmove => (by cases hmove)⟩

/-- A turn of a call that neither creates nor stores. -/
theorem exclusive_turnOf {pool : Pool Listings Call} {position : Nat} {call : Call}
    (hcall : pool.threads[position]? = some call) (hcreate : ∀ seen, call ≠ .create seen)
    (hstore : ∀ reply, call ≠ .store reply) (itemId : String) :
    Exclusive pool (turnOf position itemId) := by
  refine ⟨fun _ _ seen _ hmove hother => ?_, fun _ _ seen _ hmove hother => ?_,
    fun _ _ reply hmove hother => ?_⟩
  · cases hmove
    exact absurd (Option.some.inj (hcall.symm.trans hother)) (hcreate seen)
  · cases hmove
    exact absurd (Option.some.inj (hcall.symm.trans hother)) (hcreate seen)
  · cases hmove
    exact absurd (Option.some.inj (hcall.symm.trans hother)) (hstore reply)

/-- A call creates and stores, and a retry hits. -/
theorem retry_hits :
    OncePerKey none ((callAt 0 "1" ++ callAt 1 "2").foldl (system "key").step (opened none)) := by
  have hexclusive : Run.StepsMeet (system "key").step Exclusive (opened none)
      (callAt 0 "1" ++ callAt 1 "2") := by
    refine ⟨exclusive_start _, ?_, ?_, ?create, ?store, ?_, exclusive_start _, ?_, ?_, ?_, ?_, ?_,
      trivial⟩
    case create =>
      refine ⟨fun _ _ _ _ hmove hother _ _ => ?_, fun _ _ _ _ hmove _ _ hreply => ?_,
        fun _ _ _ hmove hother => ?_⟩
      · cases hmove
        cases hother
        rfl
      · cases hmove
        cases hreply
      · cases hmove
        cases hother
    case store =>
      refine ⟨fun _ _ _ _ hmove hother => ?_, fun _ _ _ _ hmove hother => ?_,
        fun _ _ _ hmove _ => Or.inl ?_⟩
      · cases hmove
        cases hother
      · cases hmove
        cases hother
      · rfl
    all_goals
      exact exclusive_turnOf rfl (fun _ h => by cases h) (fun _ h => by cases h) _
  exact oncePerKey_of_exclusive "key" none hexclusive _ (Run.foldl_mem_visited _ _ _)

end AutoMana.Ebay.CreateListing
