import AutoMana.Relational.Dict
import AutoMana.Relational.Runs

/-!
# The environments of the apps

Each call of a service gets a repository for the sandbox, unless its caller names an environment.
The services that read correct it by the environment of the app; those that create, change, end
or illustrate a listing do not.
-/

namespace AutoMana.Ebay.Environments

open Relational

/-! ## The repository -/

/-- `app_info.environment` -/
inductive Environment where
  | sandbox
  | production
deriving DecidableEq, Repr

/-- `api.sandbox.ebay.com` and `api.ebay.com` -/
inductive Host where
  | sandbox
  | production
deriving DecidableEq, Repr

/-- Where an environment's own calls and tokens are. -/
def Environment.host : Environment → Host
  | .sandbox => .sandbox
  | .production => .production

/-- `EbaySellingRepository`. The base URL is that of the environment it was built for. -/
structure Repository where
  environment : Environment
  baseUrl : Host

/-- `_get_base_url` -/
def getBaseUrl (environment : Environment) : Host :=
  match environment with
  | .sandbox => .sandbox
  | .production => .production

def Repository.build (environment : Environment) : Repository :=
  ⟨environment, getBaseUrl environment⟩

/-- The URL that `send` makes of an empty endpoint. -/
def Repository.trading (repository : Repository) : Host := repository.baseUrl

/-- The URL of `upload_picture`. -/
def Repository.picture (repository : Repository) : Host := getBaseUrl repository.environment

/-- The URL of `get_history` and `create_shipping_fulfillment`. -/
def Repository.fulfillment (repository : Repository) : Host :=
  if repository.environment = .sandbox then .sandbox else .production

/-! ## The services -/

/-- What a service does with the environment of the app before its request. -/
abbrev Correction := Repository → Option Environment → Repository

/-- The services on listings leave the repository as it is. -/
def keepRepository : Correction := fun repository _ => repository

/-- `get_listing` and `get_active_listings` -/
def correctBoth : Correction := fun repository found =>
  match found with
  | some environment =>
    if environment ≠ repository.environment then ⟨environment, getBaseUrl environment⟩
    else repository
  | none => repository

/-- `get_order_history`, `mark_order_shipped` and `_sync_for_user` -/
def correctEnvironment : Correction := fun repository found =>
  match found with
  | some environment => { repository with environment := environment }
  | none => repository

inductive Service where
  | createListing
  | buildAndCreateListing
  | updateListing
  | endListing
  | uploadListingPicture
  | getListing
  | getActiveListings
  | getOrderHistory
  | markOrderShipped
deriving DecidableEq, Repr

def Service.correct : Service → Correction
  | .createListing | .buildAndCreateListing | .updateListing | .endListing => keepRepository
  | .uploadListingPicture => keepRepository
  | .getListing | .getActiveListings => correctBoth
  | .getOrderHistory | .markOrderShipped => correctEnvironment

def Service.url : Service → Repository → Host
  | .createListing | .buildAndCreateListing | .updateListing | .endListing => Repository.trading
  | .uploadListingPicture => Repository.picture
  | .getListing | .getActiveListings => Repository.trading
  | .getOrderHistory | .markOrderShipped => Repository.fulfillment

/-! ## Calls -/

/-- An exchange of the refresh token. -/
inductive Exchange where
  /-- There is no refresh token, or no settings. -/
  | unsent
  | refused
  | granted
deriving DecidableEq, Repr

/-- A user and app with what their token's exchange would bring. -/
structure Account where
  userId : String
  appCode : String
  exchange : Exchange

structure Call where
  service : Service
  account : Account
  /-- It ends before it needs a token: it raises, or its idempotency key hits. -/
  endsEarly : Bool
  /-- It ends before its request: its read hits the cache, or it raises. -/
  endsWithToken : Bool

inductive Event where
  | call (call : Call)
  /-- `sync_own_sales`, with the active users. -/
  | sync (accounts : List Account)
  /-- An access token in the cache expires. -/
  | expire (userId appCode : String)

/-- A request to eBay, with the host that issued its access token if it carries one. -/
structure Request where
  userId : String
  appCode : String
  host : Host
  issuer : Option Host
deriving DecidableEq

structure Server where
  /-- `ebay:access_token:{user_id}:{app_code}`, known by who issued the token. -/
  accessTokens : Table (String × String) Host
  /-- The requests so far. -/
  sent : List Request

def opened : Server := ⟨.empty, []⟩

/-- A request that carries an access token. -/
def send (server : Server) (account : Account) (host issuer : Host) : Server :=
  { server with sent := server.sent ++ [⟨account.userId, account.appCode, host, some issuer⟩] }

section Calls

-- the environments of `app_info`, by `app_code`
variable (appInfo : String → Option Environment)

/-- `resolve_token` -/
def resolveToken (server : Server) (account : Account) : Server × Option Host :=
  match server.accessTokens.get? (account.userId, account.appCode) with
  | some issuer => (server, some issuer)
  | none =>
    match appInfo account.appCode with
    | none => (server, none)
    | some environment =>
      let request : Request := ⟨account.userId, account.appCode, environment.host, none⟩
      match account.exchange with
      | .unsent => (server, none)
      | .refused => ({ server with sent := server.sent ++ [request] }, none)
      | .granted =>
        (⟨server.accessTokens.set (account.userId, account.appCode) environment.host,
          server.sent ++ [request]⟩, some environment.host)

/-- A service of the manager, for which the caller may name an environment. -/
def executeService (environment : Option Environment) (server : Server) (call : Call) : Server :=
  if call.endsEarly then server
  else
    let (next, token) := resolveToken appInfo server call.account
    match token with
    | none => next
    | some issuer =>
      if call.endsWithToken then next
      else
        let repository := call.service.correct
          (.build (environment.getD .sandbox)) (appInfo call.account.appCode)
        send next call.account (call.service.url repository) issuer

/-- `_sync_for_user` -/
def syncForUser (state : Server × Repository) (account : Account) : Server × Repository :=
  let (next, token) := resolveToken appInfo state.1 account
  match token with
  | none => (next, state.2)
  | some issuer =>
    let repository := correctEnvironment state.2 (appInfo account.appCode)
    (send next account repository.fulfillment issuer, repository)

/-- The routers and the task name no environment. -/
def step (server : Server) : Event → Server
  | .call call => executeService appInfo none server call
  | .sync accounts => (accounts.foldl (syncForUser appInfo) (server, .build .sandbox)).1
  | .expire userId appCode =>
    { server with
      accessTokens := server.accessTokens.deleteWhere fun key _ => key = (userId, appCode) }

/-! ## What is claimed, and the condition -/

/-- The request goes to the host of its app's environment, which issued its token. -/
def Own (request : Request) : Prop :=
  ∀ environment, appInfo request.appCode = some environment →
    request.host = environment.host ∧ ∀ issuer, request.issuer = some issuer →
      issuer = environment.host

def EveryRequestOwn (server : Server) : Prop := ∀ request ∈ server.sent, Own appInfo request

/-- The service looks the app's environment up. -/
def Service.looksUp : Service → Bool
  | .createListing | .buildAndCreateListing | .updateListing | .endListing
  | .uploadListingPicture => false
  | .getListing | .getActiveListings | .getOrderHistory | .markOrderShipped => true

/-- The call gets a token and sends a request with it. -/
def sends (server : Server) (call : Call) : Bool :=
  !call.endsEarly && !call.endsWithToken &&
    ((server.accessTokens.get? (call.account.userId, call.account.appCode)).isSome ||
      call.account.exchange = .granted)

/-- A service that does not look the environment up is called for apps of the sandbox, or it
sends no request. -/
def SandboxUnlessLookedUp (server : Server) : Event → Prop
  | .call call => call.service.looksUp = true ∨ sends server call = false ∨
      appInfo call.account.appCode ≠ some .production
  | .sync _ => True
  | .expire _ _ => True

end Calls

/-! ## Where a service sends its request -/

theorem url_of_looksUp {service : Service} (hlooksUp : service.looksUp = true)
    (first environment : Environment) :
    service.url (service.correct (.build first) (some environment)) = environment.host := by
  cases service with
  | createListing | buildAndCreateListing | updateListing | endListing | uploadListingPicture =>
    cases hlooksUp
  | getListing | getActiveListings => cases first <;> cases environment <;> rfl
  | getOrderHistory | markOrderShipped => cases environment <;> rfl

theorem url_of_not_looksUp {service : Service} (hlooksUp : service.looksUp = false)
    (found : Option Environment) :
    service.url (service.correct (.build .sandbox) found) = .sandbox := by
  cases service with
  | createListing | buildAndCreateListing | updateListing | endListing | uploadListingPicture => rfl
  | getListing | getActiveListings | getOrderHistory | markOrderShipped => cases hlooksUp

theorem fulfillment_of_correctEnvironment (repository : Repository) (environment : Environment) :
    (correctEnvironment repository (some environment)).fulfillment = environment.host := by
  cases environment <;> rfl

/-! ## A call -/

section Steps

variable {appInfo : String → Option Environment} {server : Server} {account : Account}

/-- Every cached token was issued by the environment of its app, and every request was own. -/
structure Kept (appInfo : String → Option Environment) (server : Server) : Prop where
  issuer : ∀ userId appCode issuer, server.accessTokens.get? (userId, appCode) = some issuer →
    ∃ environment, appInfo appCode = some environment ∧ issuer = environment.host
  own : EveryRequestOwn appInfo server

theorem everyRequestOwn_append {sent : List Request} {table : Table (String × String) Host}
    {request : Request} (hown : ∀ request ∈ sent, Own appInfo request) :
    EveryRequestOwn appInfo ⟨table, sent ++ [request]⟩ ↔ Own appInfo request := by
  constructor
  · intro hall
    exact hall request (List.mem_append_right _ (List.mem_singleton.mpr rfl))
  · intro hrequest other hother
    rcases List.mem_append.mp hother with hold | hnew
    · exact hown other hold
    · rwa [List.mem_singleton.mp hnew]

/-- The exchange goes to the environment of the app, which issues the token. -/
theorem kept_resolveToken (hkept : Kept appInfo server) (account : Account) :
    Kept appInfo (resolveToken appInfo server account).1 ∧
      ∀ issuer, (resolveToken appInfo server account).2 = some issuer →
        ∃ environment, appInfo account.appCode = some environment ∧ issuer = environment.host := by
  rw [resolveToken]
  cases hcached : server.accessTokens.get? (account.userId, account.appCode) with
  | some cached =>
    refine ⟨hkept, fun issuer hissuer => ?_⟩
    rw [← Option.some.inj hissuer]
    exact hkept.issuer _ _ _ hcached
  | none =>
    cases hfound : appInfo account.appCode with
    | none => exact ⟨hkept, fun issuer hissuer => by cases hissuer⟩
    | some environment =>
      have hrequest : Own appInfo ⟨account.userId, account.appCode, environment.host, none⟩ := by
        intro other hother
        obtain rfl := Option.some.inj (hfound.symm.trans hother)
        exact ⟨rfl, fun issuer hissuer => by cases hissuer⟩
      cases account.exchange with
      | unsent => exact ⟨hkept, fun issuer hissuer => by cases hissuer⟩
      | refused =>
        exact ⟨⟨hkept.issuer, (everyRequestOwn_append hkept.own).mpr hrequest⟩,
          fun issuer hissuer => by cases hissuer⟩
      | granted =>
        refine ⟨⟨fun userId appCode issuer hget => ?_,
          (everyRequestOwn_append hkept.own).mpr hrequest⟩, fun issuer hissuer => ?_⟩
        · rw [Table.get?_set] at hget
          split_ifs at hget with hkey
          · cases hkey
            cases hget
            exact ⟨environment, hfound, rfl⟩
          · exact hkept.issuer userId appCode issuer hget
        · cases hissuer
          exact ⟨environment, rfl, rfl⟩

/-- A call has a token when it is in the cache or eBay grants it. -/
theorem isSome_resolveToken (server : Server) {environment : Environment}
    (hfound : appInfo account.appCode = some environment) :
    (resolveToken appInfo server account).2.isSome =
      ((server.accessTokens.get? (account.userId, account.appCode)).isSome ||
        decide (account.exchange = .granted)) := by
  rw [resolveToken]
  cases server.accessTokens.get? (account.userId, account.appCode) with
  | some cached => rfl
  | none =>
    rw [hfound]
    cases account.exchange <;> rfl

/-- A request with a token of the app's environment is own when that is where it goes. -/
theorem kept_send (hkept : Kept appInfo server) {environment : Environment}
    (hfound : appInfo account.appCode = some environment) (host : Host) :
    EveryRequestOwn appInfo (send server account host environment.host) ↔
      host = environment.host := by
  rw [send, everyRequestOwn_append hkept.own]
  constructor
  · intro hown
    exact (hown environment hfound).1
  · rintro rfl other hother
    obtain rfl := Option.some.inj (hfound.symm.trans hother)
    exact ⟨rfl, fun issuer hissuer => (Option.some.inj hissuer).symm⟩

/-- What a call with a token leaves. -/
theorem executeService_of_token {call : Call} (hearly : call.endsEarly = false) {issuer : Host}
    (hresolved : (resolveToken appInfo server call.account).2 = some issuer) :
    executeService appInfo none server call =
      if call.endsWithToken then (resolveToken appInfo server call.account).1
      else send (resolveToken appInfo server call.account).1 call.account
        (call.service.url (call.service.correct (.build .sandbox) (appInfo call.account.appCode)))
        issuer := by
  simp only [executeService, hearly, hresolved, Bool.false_eq_true, if_false, Option.getD_none]

/-- A call sends a request of its own when the condition holds of it, and only then. -/
theorem everyRequestOwn_executeService_iff (hkept : Kept appInfo server) (call : Call) :
    EveryRequestOwn appInfo (executeService appInfo none server call) ↔
      SandboxUnlessLookedUp appInfo server (.call call) := by
  obtain ⟨hnext, htoken⟩ := kept_resolveToken hkept call.account
  cases hearly : call.endsEarly with
  | true =>
    refine iff_of_true ?_ (Or.inr (Or.inl (by simp [sends, hearly])))
    simpa only [executeService, hearly, if_true] using hkept.own
  | false =>
    cases hresolved : (resolveToken appInfo server call.account).2 with
    | none =>
      refine iff_of_true ?_ ?_
      · simpa only [executeService, hearly, hresolved, Bool.false_eq_true, if_false]
          using hnext.own
      · cases hfound : appInfo call.account.appCode with
        | none => exact Or.inr (Or.inr (by rw [hfound]; decide))
        | some environment =>
          have hsome := isSome_resolveToken server hfound
          rw [hresolved] at hsome
          exact Or.inr (Or.inl (by rw [sends, ← hsome]; simp))
    | some issuer =>
      obtain ⟨environment, hfound, rfl⟩ := htoken issuer hresolved
      have hsome := isSome_resolveToken server hfound
      rw [hresolved] at hsome
      rw [executeService_of_token hearly hresolved, SandboxUnlessLookedUp, sends, hearly, ← hsome,
        hfound]
      cases call.endsWithToken with
      | true => exact iff_of_true hnext.own (Or.inr (Or.inl rfl))
      | false =>
        rw [if_neg Bool.false_ne_true, kept_send hnext hfound]
        cases hlooksUp : call.service.looksUp with
        | true => exact iff_of_true (url_of_looksUp hlooksUp _ _) (Or.inl rfl)
        | false =>
          rw [url_of_not_looksUp hlooksUp]
          cases environment <;> simp [Environment.host]

theorem kept_executeService (hkept : Kept appInfo server) (call : Call)
    (hcondition : SandboxUnlessLookedUp appInfo server (.call call)) :
    Kept appInfo (executeService appInfo none server call) := by
  refine ⟨?_, (everyRequestOwn_executeService_iff hkept call).mpr hcondition⟩
  -- only the exchange stores a token
  obtain ⟨hnext, -⟩ := kept_resolveToken hkept call.account
  have htokens : (executeService appInfo none server call).accessTokens = server.accessTokens ∨
      (executeService appInfo none server call).accessTokens =
        (resolveToken appInfo server call.account).1.accessTokens := by
    simp only [executeService]
    split
    · exact Or.inl rfl
    · split
      · exact Or.inr rfl
      · split_ifs <;> exact Or.inr rfl
  rcases htokens with hsame | hsame
  · rw [hsame]
    exact hkept.issuer
  · rw [hsame]
    exact hnext.issuer

/-! ## The synchronisation -/

theorem kept_syncForUser {state : Server × Repository} (hkept : Kept appInfo state.1)
    (account : Account) : Kept appInfo (syncForUser appInfo state account).1 := by
  obtain ⟨hnext, htoken⟩ := kept_resolveToken hkept account
  simp only [syncForUser]
  split
  next => exact hnext
  next issuer hresolved =>
    obtain ⟨environment, hfound, rfl⟩ := htoken issuer hresolved
    refine ⟨hnext.issuer, (kept_send hnext hfound _).mpr ?_⟩
    rw [hfound]
    exact fulfillment_of_correctEnvironment _ _

/-- Every user's request follows the environment of the user's app, whatever the one before. -/
theorem kept_sync (accounts : List Account) {state : Server × Repository}
    (hkept : Kept appInfo state.1) :
    Kept appInfo (accounts.foldl (syncForUser appInfo) state).1 := by
  induction accounts generalizing state with
  | nil => exact hkept
  | cons account rest ih => exact ih (kept_syncForUser hkept account)

/-! ## Runs -/

theorem kept_step (hkept : Kept appInfo server) (event : Event)
    (hcondition : SandboxUnlessLookedUp appInfo server event) :
    Kept appInfo (step appInfo server event) := by
  cases event with
  | call call => exact kept_executeService hkept call hcondition
  | sync accounts => exact kept_sync accounts hkept
  | expire userId appCode =>
    refine ⟨fun other app issuer hget => ?_, hkept.own⟩
    rw [step, Table.get?_deleteWhere, Option.filter_eq_some_iff] at hget
    exact hkept.issuer other app issuer hget.1

end Steps

/-- In every run, each request goes to the environment of its app exactly when the services that
do not look the environment up send no request for a production app. -/
theorem everyRequestOwn_iff (appInfo : String → Option Environment) (events : List Event) :
    (∀ server ∈ Run.visited (step appInfo) opened events, EveryRequestOwn appInfo server) ↔
      Run.StepsMeet (step appInfo) (SandboxUnlessLookedUp appInfo) opened events := by
  have hopened : Kept appInfo opened := by
    refine ⟨fun userId appCode issuer hget => ?_, fun request hrequest => ?_⟩
    · cases hget
    · cases hrequest
  refine Run.forall_visited_iff_of_inv (fun server hkept => Kept.own hkept)
    (fun server event hkept hcondition => kept_step hkept event hcondition)
    (fun server event hkept hown => ?_) hopened
  cases event with
  | call call => exact (everyRequestOwn_executeService_iff hkept call).mp hown
  | sync | expire => trivial

/-! ## Samples -/

/-- One app of each environment. -/
def sampleInfo : String → Option Environment
  | "live" => some .production
  | "test" => some .sandbox
  | _ => none

def callOf (service : Service) (appCode : String) : Event :=
  .call ⟨service, ⟨"1", appCode, .granted⟩, false, false⟩

/-- A listing of a production app is created in the sandbox. -/
theorem created_in_the_sandbox :
    ¬ ∀ (appInfo : String → Option Environment) (events : List Event),
      ∀ server ∈ Run.visited (step appInfo) opened events, EveryRequestOwn appInfo server := by
  intro hclaim
  have hown := hclaim sampleInfo [callOf .createListing "live"] _ (Run.foldl_mem_visited _ _ _)
    ⟨"1", "live", .sandbox, some .production⟩ (by decide)
  have hhost := (hown .production rfl).1
  revert hhost
  decide

end AutoMana.Ebay.Environments
