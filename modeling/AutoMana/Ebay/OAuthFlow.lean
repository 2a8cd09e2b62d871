import AutoMana.Relational.Dict
import AutoMana.Relational.Interleaving

/-!
# The OAuth flows of several users

`start_oauth_flow` logs a pending request, whose id is the state that eBay should send back
with the code. `handle_callback` looks the state up, and takes the latest pending request of
any user when that fails. The rows stay pending for ever.
-/

namespace AutoMana.Ebay.OAuthFlow

open Relational Relational.Interleaving

/-! ## The tables -/

/-- A row of `app_info`. Both columns are unique. -/
structure App where
  appId : String
  appCode : String
  deriving DecidableEq

/-- A row of `log_oauth_request`, joined with `app_info`. -/
structure Request where
  userId : String
  app : App
  timestamp : Nat
  expiresOn : Nat
  status : String

/-- The flow in which eBay issued a code: the state and the client of its authorization URL. -/
structure Grant where
  uniqueId : String
  appId : String

/-- The token of a code, with the start of the transaction that stored it. -/
structure Stored where
  grant : Grant
  now : Nat

structure Server where
  now : Nat
  requests : Table String Request
  /-- `ebay_refresh_tokens`, by user and `app_id`. -/
  refreshTokens : Table (String × String) Stored
  /-- `ebay:access_token:…`, by user and `app_code`. -/
  accessTokens : Table (String × String) Stored

/-- `get_valid_oauth_request`, an empty `app_code` counting as none. A state from which no UUID
can be read finds nothing. -/
def checkAuthRequest (requests : Table String Request) (now : Nat) (state : Option String) :
    Option Request :=
  (state.bind requests.get?).filter fun request =>
    decide (now < request.expiresOn) && decide (request.app.appCode ≠ "")

/-- The order of rows with one timestamp is not specified, so `tie` picks among them. -/
def getLatestPendingRequest (requests : Table String Request) (tie : Nat) : Option Request :=
  let pending := (requests.rows.map Prod.snd).filter (·.status = "pending")
  let latest := pending.filter fun request => pending.all (·.timestamp ≤ request.timestamp)
  latest[tie % latest.length]?.filter (·.app.appCode ≠ "")

/-! ## The services -/

/-- What a turn meets outside: whether it raises, a new UUID, an order of rows. -/
structure Outcome where
  raises : Bool
  uniqueId : String
  tie : Nat

inductive Command where
  /-- Time passes. -/
  | pass (seconds : Nat)
  | startOAuthFlow (userId : String) (app : App)
  /-- A callback with a code that eBay issued in a flow, or with another text. -/
  | handleCallback (grant? : Option Grant) (state : Option String)

/-- A call at its await points. `now` is the time of its transaction. -/
inductive Call where
  | received (command : Command)
  | logAuthRequest (userId : String) (app : App) (now : Nat)
  | check (grant? : Option Grant) (state : Option String) (now : Nat)
  | latest (grant? : Option Grant) (now : Nat)
  | exchange (grant? : Option Grant) (request : Request) (now : Nat)
  | cache (grant : Grant) (request : Request) (now : Nat)
  | commit (grant : Grant) (request : Request) (now : Nat)
  | returned
  | raised

/-- `exchange_code_token`: eBay redeems a code for the client it was issued to. -/
def redeemed? (grant? : Option Grant) (request : Request) (outcome : Outcome) : Option Grant :=
  if outcome.raises then none else grant?.filter (·.appId = request.app.appId)

/-- A service up to its next await. -/
def turn (server : Server) (call : Call) (outcome : Outcome) : Server × Call :=
  match call with
  | .received (.pass seconds) => ({ server with now := server.now + seconds }, .returned)
  | .received (.startOAuthFlow userId app) => (server, .logAuthRequest userId app server.now)
  | .logAuthRequest userId app now =>
    if outcome.raises || (server.requests.get? outcome.uniqueId).isSome then (server, .raised)
    else
      ({ server with
          requests := server.requests.upsert
            (.single outcome.uniqueId ⟨userId, app, now, now + 600, "pending"⟩)
            fun old _ => old },
        .returned)
  | .received (.handleCallback grant? state) => (server, .check grant? state server.now)
  | .check grant? state now =>
    match checkAuthRequest server.requests now state with
    | some request => (server, .exchange grant? request now)
    | none => (server, .latest grant? now)
  | .latest grant? now =>
    match getLatestPendingRequest server.requests outcome.tie with
    | some request => (server, .exchange grant? request now)
    | none => (server, .raised)
  | .exchange grant? request now =>
    match redeemed? grant? request outcome with
    | some grant => (server, .cache grant request now)
    | none => (server, .raised)
  -- the upsert of the refresh token is seen from the commit on
  | .cache grant request now =>
    if outcome.raises then (server, .raised)
    else
      ({ server with
          accessTokens :=
            server.accessTokens.set (request.userId, request.app.appCode) ⟨grant, now⟩ },
        .commit grant request now)
  | .commit grant request now =>
    if outcome.raises then (server, .raised)
    else
      ({ server with
          refreshTokens :=
            server.refreshTokens.set (request.userId, request.app.appId) ⟨grant, now⟩ },
        .returned)
  | .returned => (server, .returned)
  | .raised => (server, .raised)

def system : System Server Call Command Outcome where
  start _ command := .received command
  turn := turn

/-- Nothing is stored, and no call has started. -/
def opened : Pool Server Call := ⟨⟨0, .empty, .empty, .empty⟩, []⟩

/-! ## What is claimed, and the condition -/

/-- The code was issued in the flow of a request of this user and app that is pending and
unexpired. -/
def FlowOf (requests : Table String Request) (grant : Grant) (now : Nat) (userId : String)
    (app : App) : Prop :=
  ∃ flow, requests.get? grant.uniqueId = some flow ∧ flow.userId = userId ∧ flow.app = app ∧
    flow.status = "pending" ∧ now < flow.expiresOn

/-- Every token is stored under the user and app of the flow its code was issued in. -/
structure Bound (server : Server) : Prop where
  refresh : ∀ userId appId stored, server.refreshTokens.get? (userId, appId) = some stored →
    ∃ app, app.appId = appId ∧ FlowOf server.requests stored.grant stored.now userId app
  access : ∀ userId appCode stored, server.accessTokens.get? (userId, appCode) = some stored →
    ∃ app, app.appCode = appCode ∧ FlowOf server.requests stored.grant stored.now userId app

/-- A callback whose state is not that of its code's flow finds a request of the user and app of
that flow, which is unexpired, or it finds one of another app, for which eBay does not redeem
the code. -/
structure OwnFlow (pool : Pool Server Call) (move : Move Command Outcome) : Prop where
  check : ∀ position outcome grant uniqueId now request, move = .turn position outcome →
    pool.threads[position]? = some (.check (some grant) (some uniqueId) now) →
    uniqueId ≠ grant.uniqueId →
    checkAuthRequest pool.shared.requests now (some uniqueId) = some request →
    grant.appId = request.app.appId →
    FlowOf pool.shared.requests grant now request.userId request.app
  latest : ∀ position outcome grant now request, move = .turn position outcome →
    pool.threads[position]? = some (.latest (some grant) now) →
    getLatestPendingRequest pool.shared.requests outcome.tie = some request →
    grant.appId = request.app.appId →
    FlowOf pool.shared.requests grant now request.userId request.app

/-! ## Requests stay -/

section Steps

variable {server next : Server} {call : Call}

/-- Requests are added, and none is changed. -/
def Grows (before after : Table String Request) : Prop :=
  ∀ uniqueId request, before.get? uniqueId = some request → after.get? uniqueId = some request

theorem FlowOf.mono {before after : Table String Request} {grant : Grant} {now : Nat}
    {userId : String} {app : App} (hflow : FlowOf before grant now userId app)
    (hgrows : Grows before after) : FlowOf after grant now userId app := by
  obtain ⟨flow, hget, hrest⟩ := hflow
  exact ⟨flow, hgrows _ _ hget, hrest⟩

/-- A turn leaves the requests, or logs a new one. -/
theorem requests_turn (server : Server) (call : Call) (outcome : Outcome) :
    (turn server call outcome).1.requests = server.requests ∨
      ∃ userId app now, server.requests.get? outcome.uniqueId = none ∧
        (turn server call outcome).1.requests = server.requests.upsert
          (.single outcome.uniqueId ⟨userId, app, now, now + 600, "pending"⟩)
          fun old _ => old := by
  cases call with
  | logAuthRequest userId app now =>
    rw [turn]
    split_ifs with hraises
    · exact Or.inl rfl
    · rw [Bool.or_eq_true, not_or, Option.not_isSome_iff_eq_none] at hraises
      exact Or.inr ⟨userId, app, now, hraises.2, rfl⟩
  | check | latest | exchange =>
    left
    rw [turn]
    split <;> rfl
  | cache | commit =>
    left
    rw [turn]
    split_ifs <;> rfl
  | received command => cases command <;> exact Or.inl rfl
  | returned | raised => exact Or.inl rfl

theorem grows_turn (server : Server) (call : Call) (outcome : Outcome) :
    Grows server.requests (turn server call outcome).1.requests := by
  intro uniqueId request hget
  rcases requests_turn server call outcome with hsame | ⟨userId, app, now, -, hnew⟩
  · rwa [hsame]
  · rw [hnew, Table.get?_upsert, Table.reconcile_stored, hget, Option.some_or]

/-- Nothing completes a request. -/
theorem pending_turn (hpending : ∀ uniqueId request, server.requests.get? uniqueId = some request →
      request.status = "pending") (call : Call) (outcome : Outcome) (uniqueId : String)
    (request : Request)
    (hget : (turn server call outcome).1.requests.get? uniqueId = some request) :
    request.status = "pending" := by
  rcases requests_turn server call outcome with hsame | ⟨userId, app, now, -, hnew⟩
  · exact hpending uniqueId request (hsame ▸ hget)
  · rw [hnew, Table.get?_upsert, Table.reconcile_stored, Option.or_eq_some_iff,
      Table.get?_single] at hget
    rcases hget with hold | ⟨-, hadded⟩
    · exact hpending uniqueId request hold
    · split_ifs at hadded
      rw [← Option.some.inj hadded]

end Steps

/-! ## Invariants -/

/-- What a call relies on. -/
def Sound (server : Server) : Call → Prop
  | .exchange grant? request now => ∀ grant, grant? = some grant →
      grant.appId = request.app.appId →
      FlowOf server.requests grant now request.userId request.app
  | .cache grant request now => FlowOf server.requests grant now request.userId request.app
  | .commit grant request now => FlowOf server.requests grant now request.userId request.app
  | _ => True

structure Kept (server : Server) : Prop where
  bound : Bound server
  pending : ∀ uniqueId request, server.requests.get? uniqueId = some request →
    request.status = "pending"

theorem Sound.mono {server next : Server} (hgrows : Grows server.requests next.requests)
    {call : Call} (hsound : Sound server call) : Sound next call := by
  cases call with
  | exchange grant? request now =>
    intro grant hgrant happ
    exact (hsound grant hgrant happ).mono hgrows
  | cache | commit => exact FlowOf.mono hsound hgrows
  | received | logAuthRequest | check | latest | returned | raised => trivial

theorem Bound.mono {server next : Server} (hbound : Bound server)
    (hgrows : Grows server.requests next.requests)
    (hrefresh : next.refreshTokens = server.refreshTokens)
    (haccess : next.accessTokens = server.accessTokens) : Bound next := by
  refine ⟨fun userId appId stored hget => ?_, fun userId appCode stored hget => ?_⟩
  · obtain ⟨app, happ, hflow⟩ := hbound.refresh userId appId stored (hrefresh ▸ hget)
    exact ⟨app, happ, hflow.mono hgrows⟩
  · obtain ⟨app, happ, hflow⟩ := hbound.access userId appCode stored (haccess ▸ hget)
    exact ⟨app, happ, hflow.mono hgrows⟩

/-- The state of a code's own flow finds that flow. -/
theorem flowOf_of_checkAuthRequest {requests : Table String Request}
    (hpending : ∀ uniqueId request, requests.get? uniqueId = some request →
      request.status = "pending") {grant : Grant} {now : Nat} {request : Request}
    (hfound : checkAuthRequest requests now (some grant.uniqueId) = some request) :
    FlowOf requests grant now request.userId request.app := by
  rw [checkAuthRequest, Option.filter_eq_some_iff, Bool.and_eq_true, decide_eq_true_eq] at hfound
  obtain ⟨hget, hunexpired, -⟩ := hfound
  exact ⟨request, hget, rfl, rfl, hpending _ _ hget, hunexpired⟩

/-- What is found for the code of a callback that keeps to its own flow. -/
theorem sound_check {pool : Pool Server Call} {position : Nat} {outcome : Outcome}
    (hown : OwnFlow pool (.turn position outcome)) (hkept : Kept pool.shared)
    {grant? : Option Grant} {state : Option String} {now : Nat} {request : Request}
    (hcall : pool.threads[position]? = some (.check grant? state now))
    (hfound : checkAuthRequest pool.shared.requests now state = some request) :
    Sound pool.shared (.exchange grant? request now) := by
  intro grant hgrant happ
  subst hgrant
  cases state with
  | none => simp [checkAuthRequest] at hfound
  | some uniqueId =>
    by_cases hintact : uniqueId = grant.uniqueId
    · rw [hintact] at hfound
      exact flowOf_of_checkAuthRequest hkept.pending hfound
    · exact hown.check position outcome grant uniqueId now request rfl hcall hintact hfound happ

theorem sound_turn {pool : Pool Server Call} {position : Nat} {outcome : Outcome} {call : Call}
    (hown : OwnFlow pool (.turn position outcome))
    (hpool : Holds Kept Sound pool) (hcall : pool.threads[position]? = some call) :
    Sound (turn pool.shared call outcome).1 (turn pool.shared call outcome).2 := by
  have hsound := hpool.thread hcall
  cases call with
  | received command => cases command <;> trivial
  | logAuthRequest =>
    rw [turn]
    split_ifs <;> trivial
  | check grant? state now =>
    rw [turn]
    cases hfound : checkAuthRequest pool.shared.requests now state with
    | none => trivial
    | some request => exact sound_check hown hpool.shared hcall hfound
  | latest grant? now =>
    rw [turn]
    cases hfound : getLatestPendingRequest pool.shared.requests outcome.tie with
    | none => trivial
    | some request =>
      intro grant hgrant happ
      subst hgrant
      exact hown.latest position outcome grant now request rfl hcall hfound happ
  | exchange grant? request now =>
    rw [turn]
    cases hredeemed : redeemed? grant? request outcome with
    | none => trivial
    | some grant =>
      rw [redeemed?] at hredeemed
      split_ifs at hredeemed
      rw [Option.filter_eq_some_iff, decide_eq_true_eq] at hredeemed
      exact hsound grant hredeemed.1 hredeemed.2
  | cache grant request now =>
    rw [turn]
    split_ifs
    · trivial
    · exact hsound
  | commit =>
    rw [turn]
    split_ifs <;> trivial
  | returned | raised => trivial

theorem bound_turn {server : Server} {call : Call} (hbound : Bound server)
    (hsound : Sound server call) (outcome : Outcome) :
    Bound (turn server call outcome).1 := by
  have hgrows := grows_turn server call outcome
  cases call with
  | received command => cases command <;> exact hbound.mono hgrows rfl rfl
  | logAuthRequest =>
    refine hbound.mono hgrows ?_ ?_ <;> rw [turn] <;> split_ifs <;> rfl
  | check | latest | exchange =>
    refine hbound.mono hgrows ?_ ?_ <;> rw [turn] <;> split <;> rfl
  | cache grant request now =>
    rw [turn]
    split_ifs
    · exact hbound
    · refine ⟨hbound.refresh, fun userId appCode stored hget => ?_⟩
      rw [Table.get?_set] at hget
      split_ifs at hget with haccount
      · cases hget
        cases haccount
        exact ⟨request.app, rfl, hsound⟩
      · exact hbound.access userId appCode stored hget
  | commit grant request now =>
    rw [turn]
    split_ifs
    · exact hbound
    · refine ⟨fun userId appId stored hget => ?_, hbound.access⟩
      rw [Table.get?_set] at hget
      split_ifs at hget with haccount
      · cases hget
        cases haccount
        exact ⟨request.app, rfl, hsound⟩
      · exact hbound.refresh userId appId stored hget
  | returned | raised => exact hbound

theorem respects : Respects system Kept Sound OwnFlow where
  start _ _ _ _ := trivial
  turn _ _ outcome call hpool hown hcall :=
    ⟨⟨bound_turn hpool.shared.bound (hpool.thread hcall) outcome,
      pending_turn hpool.shared.pending call outcome⟩, sound_turn hown hpool hcall⟩
  others pool _ outcome call hpool _ _ _ _ _ helsewhere :=
    (hpool.thread helsewhere).mono (grows_turn pool.shared call outcome)

/-- In every interleaving in which the callbacks find requests of their codes' flows, each token
is stored under the user and app of the flow of its code. -/
theorem bound_of_ownFlow {moves : List (Move Command Outcome)}
    (hmoves : Run.StepsMeet system.step OwnFlow opened moves) :
    ∀ pool ∈ Run.visited system.step opened moves, Bound pool.shared := by
  have hopened : Holds Kept Sound opened := by
    refine ⟨⟨⟨?_, ?_⟩, ?_⟩, fun call hcall => by cases hcall⟩
    · intro userId appId stored hget
      cases hget
    · intro userId appCode stored hget
      cases hget
    · intro uniqueId request hget
      cases hget
  intro pool hpool
  exact (respects.visited hopened hmoves pool hpool).shared.bound

/-! ## Samples -/

def app : App := ⟨"app id", "app"⟩

/-- A turn at which nothing raises. -/
def turnOf (position : Nat) (uniqueId : String) : Move Command Outcome :=
  .turn position ⟨false, uniqueId, 0⟩

/-- The second user starts a flow, the first user starts and completes another, and then the
second user's code comes back without its state. -/
def droppedState : List (Move Command Outcome) :=
  [.start (.startOAuthFlow "2" app), turnOf 0 "b", turnOf 0 "b", .start (.pass 5), turnOf 1 "",
    .start (.startOAuthFlow "1" app), turnOf 2 "a", turnOf 2 "a",
    .start (.handleCallback (some ⟨"a", "app id"⟩) (some "a"))] ++ List.replicate 5 (turnOf 3 "") ++
      .start (.handleCallback (some ⟨"b", "app id"⟩) none) :: List.replicate 6 (turnOf 4 "")

/-- The completed request is still pending, and the tokens of the second user are stored as
those of the first. -/
theorem dropped_state_stores_for_another :
    ¬ ∀ moves : List (Move Command Outcome),
      ∀ pool ∈ Run.visited system.step opened moves, Bound pool.shared := by
  intro hclaim
  obtain ⟨_, -, flow, hget, huser, -⟩ :=
    (hclaim droppedState _ (Run.foldl_mem_visited _ _ _)).refresh "1" "app id"
      ⟨⟨"b", "app id"⟩, 5⟩ rfl
  cases hget
  revert huser
  decide

/-- A turn that looks up no state but that of the code's flow. -/
theorem ownFlow_of_intact {pool : Pool Server Call} {position : Nat} {uniqueId : String}
    {call : Call} (hcall : pool.threads[position]? = some call)
    (hcheck : ∀ grant state now, call = .check (some grant) (some state) now →
      state = grant.uniqueId)
    (hlatest : ∀ grant? now, call ≠ .latest grant? now) :
    OwnFlow pool (turnOf position uniqueId) := by
  refine ⟨fun _ _ grant state now _ hmove hother hstate => ?_,
    fun _ _ grant now _ hmove hother => ?_⟩
  · cases hmove
    exact absurd (hcheck grant state now (Option.some.inj (hcall.symm.trans hother))) hstate
  · cases hmove
    exact absurd (Option.some.inj (hcall.symm.trans hother)) (hlatest _ now)

theorem ownFlow_start (pool : Pool Server Call) (command : Command) :
    OwnFlow pool (.start command) :=
  ⟨fun _ _ _ _ _ _ hmove => (by cases hmove), fun _ _ _ _ _ hmove => (by cases hmove)⟩

/-- Two users start flows, and the first user's code comes back with its state. -/
def intactState : List (Move Command Outcome) :=
  [.start (.startOAuthFlow "1" app), turnOf 0 "a", turnOf 0 "a",
    .start (.startOAuthFlow "2" app), turnOf 1 "b", turnOf 1 "b",
    .start (.handleCallback (some ⟨"a", "app id"⟩) (some "a"))] ++
      List.replicate 5 (turnOf 2 "")

/-- The code is stored, and under its own user. -/
theorem intact_state_is_bound :
    Bound (intactState.foldl system.step opened).shared ∧
      ((intactState.foldl system.step opened).shared.refreshTokens.get? ("1", "app id")).isSome :=
    by
  have hown : Run.StepsMeet system.step OwnFlow opened intactState := by
    refine ⟨ownFlow_start _ _, ?_, ?_, ownFlow_start _ _, ?_, ?_, ownFlow_start _ _, ?_, ?_, ?_,
      ?_, ?_, trivial⟩
    all_goals
      refine ownFlow_of_intact rfl (fun grant state now hcheck => ?_) (fun _ _ h => by cases h)
      cases hcheck <;> rfl
  exact ⟨bound_of_ownFlow hown _ (Run.foldl_mem_visited _ _ _), rfl⟩

end AutoMana.Ebay.OAuthFlow
