import AutoMana.Ebay.CreateListing
import AutoMana.Relational.Runs
import AutoMana.Relational.Table

/-!
# The idempotent replies of several accounts

The accounts share one store, whose keys are what the clients send, or what
`build_and_create_listing` derives from some of its arguments. A reply stays with the call it
was made for when the entry that a call finds is that of a call it repeats.
-/

namespace AutoMana.Ebay.IdempotentReplies

open Relational
open CreateListing (Reply)

/-! ## Calls -/

/-- The arguments of `build_and_create_listing` that say which variant is listed, and where. -/
structure Variant where
  cardVersionId : String
  condition : String
  foil : Bool
  lang : String
  marketplaceId : String
  deriving DecidableEq

inductive Endpoint where
  | create
  /-- `build_and_create_listing`, which may raise before it has a key. -/
  | build (variant : Variant) (raises : Bool)

/-- A call with what it meets outside: an operation of the store that fails (which the store
swallows), an await that raises, the answer of eBay. -/
structure Call where
  userId : String
  appCode : String
  endpoint : Endpoint
  idempotencyKey : Option String
  getFails : Bool
  setFails : Bool
  /-- `resolve_token` or the request to eBay raises. -/
  createRaises : Bool
  invalidateRaises : Bool
  reply : Reply

/-- The key that the client sends, `""` being none. -/
def givenKey? (call : Call) : Option String := call.idempotencyKey.filter (· ≠ "")

def variant? (call : Call) : Option Variant :=
  match call.endpoint with
  | .create => none
  | .build variant _ => some variant

/-- `f"{user_id}:{card_version_id}:{condition}:{foil}"` -/
def fallbackName (userId : String) (variant : Variant) : String :=
  userId ++ ":" ++ variant.cardVersionId ++ ":" ++ variant.condition ++ ":" ++
    if variant.foil then "True" else "False"

/-- The key under which the store is asked, unless the call raises before. -/
def storeKey? (uuid5 : String → String) (call : Call) : Option String :=
  match call.endpoint with
  | .create => givenKey? call
  | .build variant raises =>
    if raises then none
    else some ((givenKey? call).getD (uuid5 (fallbackName call.userId variant)))

/-! ## The store and the calls on it -/

/-- A stored result, with the call that stored it. -/
structure Stored where
  call : Call
  value : Json

/-- A call that was made: what eBay created for it, and what it returned unless it raised. -/
structure Answered where
  call : Call
  key? : Option String
  created? : Option Json
  returned? : Option Json

structure Server where
  store : Table String Stored
  /-- The calls so far, the latest first. -/
  log : List Answered

inductive Event where
  | call (call : Call)
  /-- The lifetime of an entry ends. -/
  | expire (key : String)

def opened : Server := ⟨.empty, []⟩

def created? : Reply → Option Json
  | .created result => some result
  | .failed _ => none

/-- `RedisIdempotencyStore.get` -/
def lookup? (store : Table String Stored) (key : String) (call : Call) : Option Stored :=
  if call.getFails then none else store.get? key

/-- `RedisIdempotencyStore.set_if_absent` -/
def setIfAbsent (store : Table String Stored) (key : String) (call : Call) :
    Table String Stored :=
  if call.setFails then store
  else store.upsert (.single key ⟨call, call.reply.body⟩) fun old _ => old

/-- `create_listing` under a key that is not empty. -/
def createListing (store : Table String Stored) (key : String) (call : Call) :
    Table String Stored × Answered :=
  match lookup? store key call with
  | some stored => (store, ⟨call, some key, none, some stored.value⟩)
  | none =>
    if call.createRaises then (store, ⟨call, some key, none, none⟩)
    else
      (setIfAbsent store key call,
        ⟨call, some key, created? call.reply,
          if call.invalidateRaises then none else some call.reply.body⟩)

def step (uuid5 : String → String) (server : Server) : Event → Server
  | .call call =>
    match storeKey? uuid5 call with
    | none => { server with log := ⟨call, none, none, none⟩ :: server.log }
    | some key =>
      let (store, answered) := createListing server.store key call
      ⟨store, answered :: server.log⟩
  | .expire key => { server with store := server.store.deleteWhere fun stored _ => stored = key }

def run (uuid5 : String → String) (events : List Event) : Server :=
  events.foldl (step uuid5) opened

/-! ## What is claimed, and the condition -/

/-- The later call is one that the earlier one may answer. -/
def Repeats (earlier later : Call) : Prop :=
  earlier.userId = later.userId ∧ earlier.appCode = later.appCode ∧
    (givenKey? later = none → variant? earlier = variant? later)

/-- Each call that returned and created nothing returned what an earlier call that it repeats
created under its key. -/
def Explained : List Answered → Prop
  | [] => True
  | answered :: earlier =>
    (∀ value, answered.returned? = some value → answered.created? = none →
      ∃ first ∈ earlier, first.created? = some value ∧ first.key? = answered.key? ∧
        Repeats first.call answered.call) ∧
      Explained earlier

/-- What a user receives, and what is created for the user. -/
def answersOf (userId : String) (server : Server) : List Answered :=
  server.log.filter (·.call.userId = userId)

/-- A call of the user, or the end of an entry. -/
def concerns (userId : String) : Event → Bool
  | .call call => call.userId = userId
  | .expire _ => true

structure Isolated (uuid5 : String → String) (events : List Event) : Prop where
  explained : Explained (run uuid5 events).log
  /-- The calls of the other users make no difference. -/
  independent : ∀ userId, answersOf userId (run uuid5 events) =
    answersOf userId (run uuid5 (events.filter (concerns userId)))

/-- An entry that the call finds under its key was stored by a call it repeats, and if it finds
none, eBay creates the item. -/
def KeyIsOwn (uuid5 : String → String) (server : Server) : Event → Prop
  | .call call => ∀ key, storeKey? uuid5 call = some key →
    (∀ stored, lookup? server.store key call = some stored → Repeats stored.call call) ∧
      (lookup? server.store key call = none → call.createRaises = false →
        ∃ result, call.reply = .created result)
  | .expire _ => True

/-! ## One call -/

section Steps

variable {store other : Table String Stored} {key : String} {call : Call}

theorem lookup?_eq_some {stored : Stored} (hfound : lookup? store key call = some stored) :
    store.get? key = some stored := by
  rw [lookup?] at hfound
  split at hfound
  · cases hfound
  · exact hfound

/-- An entry is one that was there, or the one of the call. -/
theorem get?_setIfAbsent {name : String} {stored : Stored}
    (hget : (setIfAbsent store key call).get? name = some stored) :
    store.get? name = some stored ∨ name = key ∧ stored = ⟨call, call.reply.body⟩ := by
  rw [setIfAbsent] at hget
  split at hget
  · exact Or.inl hget
  · rw [Table.get?_upsert, Table.reconcile_stored, Option.or_eq_some_iff] at hget
    rcases hget with hold | ⟨-, hnew⟩
    · exact Or.inl hold
    · rw [Table.get?_single] at hnew
      split_ifs at hnew with hname
      exact Or.inr ⟨hname, (Option.some.inj hnew).symm⟩

/-- No entry is removed. -/
theorem get?_setIfAbsent_of_some {name : String} {stored : Stored}
    (hget : store.get? name = some stored) :
    (setIfAbsent store key call).get? name = some stored := by
  rw [setIfAbsent]
  split
  · exact hget
  · rw [Table.get?_upsert, Table.reconcile_stored, hget, Option.some_or]

theorem setIfAbsent_congr {name : String} (hsame : store.get? name = other.get? name) :
    (setIfAbsent store key call).get? name = (setIfAbsent other key call).get? name := by
  rw [setIfAbsent, setIfAbsent]
  split
  · exact hsame
  · rw [Table.get?_upsert, Table.get?_upsert, hsame]

/-- Two stores in which a call finds the same answer it alike. -/
theorem createListing_congr (hsame : lookup? store key call = lookup? other key call) :
    (createListing store key call).2 = (createListing other key call).2 := by
  rw [createListing, createListing, hsame]
  cases lookup? other key call with
  | some stored => rfl
  | none => cases call.createRaises <;> rfl

/-- A call leaves the store, or tries to store its own answer. -/
theorem createListing_store (store : Table String Stored) (key : String) (call : Call) :
    (createListing store key call).1 = store ∨
      lookup? store key call = none ∧ call.createRaises = false ∧
        createListing store key call = (setIfAbsent store key call,
          ⟨call, some key, created? call.reply,
            if call.invalidateRaises then none else some call.reply.body⟩) := by
  rw [createListing]
  cases hlookup : lookup? store key call with
  | some stored => exact Or.inl rfl
  | none =>
    cases hraises : call.createRaises with
    | true => exact Or.inl rfl
    | false => exact Or.inr ⟨rfl, rfl, rfl⟩

theorem createListing_call (store : Table String Stored) (key : String) (call : Call) :
    (createListing store key call).2.call = call ∧
      (createListing store key call).2.key? = some key := by
  rw [createListing]
  split
  · exact ⟨rfl, rfl⟩
  · split_ifs <;> exact ⟨rfl, rfl⟩

theorem step_of_none {uuid5 : String → String} {server : Server}
    (hkey : storeKey? uuid5 call = none) :
    step uuid5 server (.call call) =
      ⟨server.store, ⟨call, none, none, none⟩ :: server.log⟩ := by
  simp only [step, hkey]

theorem step_of_some {uuid5 : String → String} {server : Server}
    (hkey : storeKey? uuid5 call = some key) :
    step uuid5 server (.call call) = ⟨(createListing server.store key call).1,
      (createListing server.store key call).2 :: server.log⟩ := by
  simp only [step, hkey]

end Steps

/-! ## Every answer is explained -/

/-- Each entry is what an earlier call created under its key. -/
structure Recorded (server : Server) : Prop where
  explained : Explained server.log
  stored : ∀ key stored, server.store.get? key = some stored →
    ∃ first ∈ server.log, first.created? = some stored.value ∧ first.key? = some key ∧
      first.call = stored.call

theorem Recorded.opened : Recorded opened := by
  refine ⟨trivial, fun key stored hget => ?_⟩
  rw [IdempotentReplies.opened, Table.get?_empty] at hget
  cases hget

/-- A call whose key is its own is explained by the log before it. -/
theorem explained_createListing {server : Server} (hrecorded : Recorded server) {key : String}
    {call : Call}
    (hfound : ∀ stored, lookup? server.store key call = some stored → Repeats stored.call call)
    (hcreated : lookup? server.store key call = none → call.createRaises = false →
      ∃ result, call.reply = .created result) :
    Explained ((createListing server.store key call).2 :: server.log) := by
  refine ⟨fun value hreturned hnone => ?_, hrecorded.explained⟩
  rw [createListing] at hreturned hnone ⊢
  cases hlookup : lookup? server.store key call with
  | some stored =>
    rw [hlookup] at hreturned
    obtain ⟨first, hfirst, hvalue, hkey, hcall⟩ :=
      hrecorded.stored key stored (lookup?_eq_some hlookup)
    cases hreturned
    exact ⟨first, hfirst, hvalue, hkey, by rw [hcall]; exact hfound stored hlookup⟩
  | none =>
    simp only [hlookup] at hreturned hnone
    cases hraises : call.createRaises with
    | true => simp [hraises] at hreturned
    | false =>
      -- eBay created the item, so the call is none of those to explain
      obtain ⟨result, hreply⟩ := hcreated hlookup hraises
      simp [hraises, hreply, created?] at hnone

theorem Recorded.step {uuid5 : String → String} {server : Server} {event : Event}
    (hrecorded : Recorded server) (hown : KeyIsOwn uuid5 server event) :
    Recorded (step uuid5 server event) := by
  cases event with
  | expire key =>
    refine ⟨hrecorded.explained, fun name stored hget => ?_⟩
    rw [IdempotentReplies.step, Table.get?_deleteWhere, Option.filter_eq_some_iff] at hget
    exact hrecorded.stored name stored hget.1
  | call call =>
    cases hkey : storeKey? uuid5 call with
    | none =>
      rw [step_of_none hkey]
      refine ⟨⟨?_, hrecorded.explained⟩, ?_⟩
      · intro value hreturned
        cases hreturned
      · intro name stored hget
        obtain ⟨first, hfirst, hrest⟩ := hrecorded.stored name stored hget
        exact ⟨first, List.mem_cons_of_mem _ hfirst, hrest⟩
    | some key =>
      obtain ⟨hfound, hcreated⟩ := hown key hkey
      rw [step_of_some hkey]
      refine ⟨explained_createListing hrecorded hfound hcreated, fun name stored hget => ?_⟩
      have hkept : server.store.get? name = some stored → ∃ first ∈
          (createListing server.store key call).2 :: server.log,
          first.created? = some stored.value ∧ first.key? = some name ∧
            first.call = stored.call := by
        intro hold
        obtain ⟨first, hfirst, hrest⟩ := hrecorded.stored name stored hold
        exact ⟨first, List.mem_cons_of_mem _ hfirst, hrest⟩
      rcases createListing_store server.store key call with hsame | ⟨hmiss, hraises, hnew⟩
      · exact hkept (hsame ▸ hget)
      · rw [hnew] at hget ⊢
        rcases get?_setIfAbsent hget with hold | ⟨rfl, rfl⟩
        · exact hnew ▸ hkept hold
        · obtain ⟨result, hreply⟩ := hcreated hmiss hraises
          refine ⟨_, List.mem_cons_self, ?_⟩
          rw [hreply]
          exact ⟨rfl, rfl, rfl⟩

/-! ## The other users make no difference -/

/-- The two stores have the same entries of the user, and what the first lacks the second
lacks. -/
structure SameFor (userId : String) (store other : Table String Stored) : Prop where
  own : ∀ key stored, store.get? key = some stored → stored.call.userId = userId →
    other.get? key = some stored
  absent : ∀ key, store.get? key = none → other.get? key = none

structure Alike (userId : String) (server other : Server) : Prop where
  store : SameFor userId server.store other.store
  answers : answersOf userId server = answersOf userId other

theorem Alike.rfl {userId : String} {server : Server} : Alike userId server server :=
  ⟨⟨fun _ _ hget _ => hget, fun _ hget => hget⟩, Eq.refl _⟩

section Alike

variable {userId key : String} {call : Call} {store other : Table String Stored}

theorem SameFor.expire (hsame : SameFor userId store other) (key : String) :
    SameFor userId (store.deleteWhere fun stored _ => stored = key)
      (other.deleteWhere fun stored _ => stored = key) := by
  refine ⟨fun name stored hget huser => ?_, fun name hget => ?_⟩
  · rw [Table.get?_deleteWhere, Option.filter_eq_some_iff] at hget ⊢
    exact ⟨hsame.own name stored hget.1 huser, hget.2⟩
  · rw [Table.get?_deleteWhere] at hget ⊢
    rw [Option.filter_eq_none_iff] at hget ⊢
    intro stored hstored
    cases hold : store.get? name with
    | none => rw [hsame.absent name hold] at hstored; cases hstored
    | some entry => exact hget entry hold

/-- A call of the user finds the same in both stores. -/
theorem SameFor.lookup? (hsame : SameFor userId store other) (huser : call.userId = userId)
    (hfound : ∀ stored, lookup? store key call = some stored → Repeats stored.call call) :
    lookup? store key call = lookup? other key call := by
  cases hfails : call.getFails with
  | true => simp [IdempotentReplies.lookup?, hfails]
  | false =>
    simp only [IdempotentReplies.lookup?, hfails, Bool.false_eq_true, if_false] at hfound ⊢
    cases hget : store.get? key with
    | none => exact (hsame.absent key hget).symm
    | some stored =>
      exact (hsame.own key stored hget ((hfound stored hget).1.trans huser)).symm

theorem SameFor.setIfAbsent (hsame : SameFor userId store other) :
    SameFor userId (setIfAbsent store key call) (setIfAbsent other key call) := by
  have hfrom : ∀ name, store.get? name = none →
      (IdempotentReplies.setIfAbsent store key call).get? name =
        (IdempotentReplies.setIfAbsent other key call).get? name := by
    intro name hget
    exact setIfAbsent_congr (hget.trans (hsame.absent name hget).symm)
  refine ⟨fun name stored hget huser => ?_, fun name hget => ?_⟩
  · cases hold : store.get? name with
    | none => rw [← hfrom name hold, hget]
    | some entry =>
      obtain rfl : entry = stored :=
        Option.some.inj ((get?_setIfAbsent_of_some hold).symm.trans hget)
      exact get?_setIfAbsent_of_some (hsame.own name entry hold huser)
  · cases hold : store.get? name with
    | none => rw [← hfrom name hold, hget]
    | some entry => rw [get?_setIfAbsent_of_some hold] at hget; cases hget

/-- What a call of another user stores is no entry of the user. -/
theorem SameFor.elsewhere (hsame : SameFor userId store other) (huser : call.userId ≠ userId) :
    SameFor userId (IdempotentReplies.setIfAbsent store key call) other := by
  refine ⟨fun name stored hget hstored => ?_, fun name hget => ?_⟩
  · rcases get?_setIfAbsent hget with hold | ⟨-, rfl⟩
    · exact hsame.own name stored hold hstored
    · exact absurd hstored huser
  · cases hold : store.get? name with
    | none => exact hsame.absent name hold
    | some entry => rw [get?_setIfAbsent_of_some hold] at hget; cases hget

end Alike

theorem answersOf_cons (userId : String) (store : Table String Stored) (answered : Answered)
    (log : List Answered) :
    answersOf userId ⟨store, answered :: log⟩ =
      if answered.call.userId = userId then answered :: answersOf userId ⟨store, log⟩
      else answersOf userId ⟨store, log⟩ := by
  simp only [answersOf, List.filter_cons, decide_eq_true_eq]

/-- A call of the user leaves the two servers alike. -/
theorem Alike.own {uuid5 : String → String} {userId : String} {server other : Server}
    (halike : Alike userId server other) {call : Call} (huser : call.userId = userId)
    (hown : KeyIsOwn uuid5 server (.call call)) :
    Alike userId (step uuid5 server (.call call)) (step uuid5 other (.call call)) := by
  cases hkey : storeKey? uuid5 call with
  | none =>
    rw [step_of_none hkey, step_of_none hkey]
    refine ⟨halike.store, ?_⟩
    rw [answersOf_cons, answersOf_cons, if_pos huser, if_pos huser]
    exact congrArg _ halike.answers
  | some key =>
    have hlookup := halike.store.lookup? huser (hown key hkey).1
    have hcall := (createListing_call other.store key call).1
    rw [step_of_some hkey, step_of_some hkey]
    refine ⟨?_, ?_⟩
    · simp only [createListing, hlookup]
      cases IdempotentReplies.lookup? other.store key call with
      | some stored => exact halike.store
      | none =>
        cases call.createRaises with
        | true => exact halike.store
        | false => exact halike.store.setIfAbsent
    · rw [answersOf_cons, answersOf_cons, createListing_congr hlookup, hcall, if_pos huser,
        if_pos huser]
      exact congrArg _ halike.answers

/-- A call of another user leaves the first server like what the second was. -/
theorem Alike.elsewhere {uuid5 : String → String} {userId : String} {server other : Server}
    (halike : Alike userId server other) {call : Call} (huser : call.userId ≠ userId) :
    Alike userId (step uuid5 server (.call call)) other := by
  cases hkey : storeKey? uuid5 call with
  | none =>
    rw [step_of_none hkey]
    refine ⟨halike.store, ?_⟩
    rw [answersOf_cons, if_neg huser]
    exact halike.answers
  | some key =>
    rw [step_of_some hkey]
    refine ⟨?_, ?_⟩
    · rcases createListing_store server.store key call with hsame | ⟨-, -, hnew⟩
      · rw [hsame]
        exact halike.store
      · rw [hnew]
        exact halike.store.elsewhere huser
    · rw [answersOf_cons, (createListing_call server.store key call).1, if_neg huser]
      exact halike.answers

/-- In every run in which the key of each call is its own, the replies stay with the account
they were made for. -/
theorem isolated_of_keyIsOwn (uuid5 : String → String) {events : List Event}
    (hown : Run.StepsMeet (step uuid5) (KeyIsOwn uuid5) opened events) :
    Isolated uuid5 events := by
  constructor
  · exact (Run.foldl_of_stepsMeet (fun _ _ => Recorded.step) Recorded.opened hown).explained
  · intro userId
    have halike : Alike userId (run uuid5 events)
        (run uuid5 (events.filter (concerns userId))) := by
      refine Run.related_filter ?_ ?_ Alike.rfl hown
      · intro server other event hconcerns halike hkey
        cases event with
        | expire key => exact ⟨halike.store.expire key, halike.answers⟩
        | call call => exact halike.own (of_decide_eq_true hconcerns) hkey
      · intro server other event hdropped halike _
        cases event with
        | expire key => cases hdropped
        | call call => exact halike.elsewhere (of_decide_eq_false hdropped)
    exact halike.answers

/-! ## Samples -/

/-- A call at which nothing fails. -/
def callOf (userId idempotencyKey itemId : String) : Call :=
  ⟨userId, "app", .create, some idempotencyKey, false, false, false, false,
    .created (.str itemId)⟩

/-- The second user's call hits the entry of the first, and nothing is created for it. -/
theorem shared_key_crosses_accounts :
    ¬ ∀ (uuid5 : String → String) (events : List Event), Isolated uuid5 events := by
  intro hclaim
  have hsame := (hclaim id [.call (callOf "1" "key" "item 1"), .call (callOf "2" "key" "item 2")]
    ).independent "2"
  have hcreated := congrArg (List.map fun answered => answered.created?.isSome) hsame
  revert hcreated
  decide

/-- Each user has a key, and the first user retries. -/
theorem own_keys_isolate : Isolated id [.call (callOf "1" "a" "item 1"),
    .call (callOf "2" "b" "item 2"), .call (callOf "1" "a" "item 3")] := by
  apply isolated_of_keyIsOwn
  refine ⟨fun key hkey => ?_, fun key hkey => ?_, fun key hkey => ?_, trivial⟩
  · obtain rfl : "a" = key := Option.some.inj hkey
    exact ⟨fun stored hfound => (by cases hfound), fun _ _ => ⟨_, rfl⟩⟩
  · obtain rfl : "b" = key := Option.some.inj hkey
    exact ⟨fun stored hfound => (by cases hfound), fun _ _ => ⟨_, rfl⟩⟩
  · obtain rfl : "a" = key := Option.some.inj hkey
    refine ⟨fun stored hfound => ?_, fun hmiss => by cases hmiss⟩
    obtain rfl := Option.some.inj hfound
    exact ⟨rfl, rfl, fun hkeyless => by cases hkeyless⟩

end AutoMana.Ebay.IdempotentReplies
