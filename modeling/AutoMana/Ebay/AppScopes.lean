import AutoMana.Ebay.Environments
import AutoMana.Relational.Arrangement
import AutoMana.Relational.Interleaving
import AutoMana.Relational.Percent

/-!
# Apps and their scopes

An app of eBay is registered with the scopes that it may ask for, which the one who registers it
gets as his own. When it is registered again it keeps its code and gains scopes. A user consents
to his own scopes, and the exchange of his refresh token asks for all of the app's.
-/

namespace AutoMana.Ebay.AppScopes

open Relational Interleaving Percent Environments

/-! ## The tables -/

/-- A row of `app_info`. -/
structure AppInfo where
  appName : String
  redirectUri : String
  ruName : String
  responseType : String
  clientSecret : String
  environment : Environment
  description : String
  appCode : String
deriving DecidableEq, Repr

/-- `app_info`, by `app_id` -/
structure Apps where
  table : Table String AppInfo
  /-- `app_code UNIQUE` -/
  code_unique : ∀ appId other info otherInfo, table.get? appId = some info →
    table.get? other = some otherInfo → info.appCode = otherInfo.appCode → appId = other

structure Server where
  apps : Apps
  /-- `scope_app`, the app and the scope -/
  scopeApp : List (String × String)
  /-- `app_user`, the user and the app -/
  appUser : List (String × String)
  /-- `scopes_user`, the user, the app, and the scope -/
  scopesUser : List (String × String × String)
  /-- `trg_scopes_user_subset_check` -/
  scopesUser_subset : ∀ row ∈ scopesUser, row.2 ∈ scopeApp
  /-- The user and the app of each row of `log_oauth_request`. -/
  requests : Table String (String × String)

def apiScope : String := "https://api.ebay.com/oauth/api_scope"

/-- The URLs in `scopes`, a table that is seeded and never written. -/
def scopes : List String :=
  (["", "/sell.inventory", "/sell.inventory.readonly", "/sell.account", "/sell.account.readonly",
    "/sell.fulfillment", "/sell.fulfillment.readonly", "/sell.finances", "/sell.marketing",
    "/sell.marketing.readonly", "/sell.analytics.readonly", "/sell.marketplace.insights.readonly",
    "/sell.item.draft", "/sell.logistics", "/sell.payment.dispute", "/metadata.insights",
    "/buy.order", "/buy.order.readonly", "/buy.guest.order", "/buy.item.feed", "/buy.item.bulk",
    "/buy.product.feed", "/buy.marketing", "/buy.deal", "/buy.marketplace.insights",
    "/buy.shopping.cart", "/commerce.catalog.readonly", "/commerce.identity.readonly",
    "/commerce.identity.email.readonly", "/commerce.identity.phone.readonly",
    "/commerce.identity.address.readonly", "/commerce.identity.name.readonly",
    "/commerce.notification.subscription", "/commerce.notification.subscription.readonly",
    "/commerce.identity.status.readonly", "/commerce.feedback", "/commerce.feedback.readonly",
    "/commerce.message", "/commerce.shipping", "/commerce.vero", "/buy.offer.auction",
    "/buy.proxy.guest.order", "/sell.item", "/sell.inventory.mapping", "/sell.reputation",
    "/sell.reputation.readonly", "/sell.stores", "/sell.stores.readonly"]).map (apiScope ++ ·)

/-! ## register_app -/

/-- What is registered, with the code that it is told or given. -/
structure CreateAppRequest where
  ebayAppId : String
  appName : String
  ruName : String
  responseType : String
  clientSecret : String
  environment : Environment
  description : String
  allowedScopes : List String
  appCode : String
deriving DecidableEq, Repr

/-- `ensure_app_code` -/
def CreateAppRequest.ensureAppCode (app : CreateAppRequest) (drawn : String) : CreateAppRequest :=
  if app.appCode = "" then { app with appCode := drawn } else app

/-- The widths of the columns. -/
def CreateAppRequest.fits (app : CreateAppRequest) : Bool :=
  app.appName.length ≤ 100 && app.ruName.length ≤ 200 && app.responseType.length ≤ 20 &&
    app.appCode.length ≤ 50

/-- The row that is inserted. -/
def CreateAppRequest.info (app : CreateAppRequest) : AppInfo where
  appName := app.appName
  redirectUri := app.ruName
  ruName := app.ruName
  responseType := app.responseType
  clientSecret := app.clientSecret
  environment := app.environment
  description := app.description
  appCode := app.appCode

/-- `DO UPDATE`, which keeps the response type and the code. -/
def updateApp (stored excluded : AppInfo) : AppInfo :=
  { excluded with responseType := stored.responseType, appCode := stored.appCode }

/-- A row that keeps its code. -/
def Apps.replace (apps : Apps) (appId : String) (stored info : AppInfo)
    (hstored : apps.table.get? appId = some stored) (hcode : info.appCode = stored.appCode) :
    Apps where
  table := apps.table.set appId info
  code_unique := by
    have hold : ∀ other otherInfo, (apps.table.set appId info).get? other = some otherInfo →
        ∃ before, apps.table.get? other = some before ∧ before.appCode = otherInfo.appCode := by
      intro other otherInfo hget
      rw [Table.get?_set] at hget
      split_ifs at hget with hsame
      · exact ⟨stored, hsame ▸ hstored, hcode.symm.trans (congrArg _ (Option.some.inj hget))⟩
      · exact ⟨otherInfo, hget, rfl⟩
    intro first second firstInfo secondInfo hfirst hsecond heq
    obtain ⟨before, hbefore, hcodeBefore⟩ := hold first firstInfo hfirst
    obtain ⟨after, hafter, hcodeAfter⟩ := hold second secondInfo hsecond
    exact apps.code_unique first second before after hbefore hafter
      (hcodeBefore.trans (heq.trans hcodeAfter.symm))

/-- A row with a code that no other has. -/
def Apps.add (apps : Apps) (appId : String) (info : AppInfo)
    (hcode : ∀ other otherInfo, apps.table.get? other = some otherInfo →
      otherInfo.appCode ≠ info.appCode) : Apps where
  table := apps.table.set appId info
  code_unique := by
    intro first second firstInfo secondInfo hfirst hsecond heq
    rw [Table.get?_set] at hfirst hsecond
    split_ifs at hfirst hsecond with hone htwo htwo
    · exact hone.trans htwo.symm
    · cases hfirst
      exact absurd heq.symm (hcode second secondInfo hsecond)
    · cases hsecond
      exact absurd heq (hcode first firstInfo hfirst)
    · exact apps.code_unique first second firstInfo secondInfo hfirst hsecond heq

/-- `EbayAppRepository.add`; `none` when a column is too narrow or the code is another app's. -/
def Apps.register (apps : Apps) (app : CreateAppRequest) : Option (Apps × String) :=
  if app.fits then
    match hstored : apps.table.get? app.ebayAppId with
    | some stored =>
      some (apps.replace app.ebayAppId stored (updateApp stored app.info) hstored rfl,
        stored.appCode)
    | none =>
      if htaken : apps.table.rows.any (·.2.appCode = app.appCode) then none
      else
        some (apps.add app.ebayAppId app.info fun other otherInfo hother heq =>
          htaken (List.any_eq_true.mpr ⟨(other, otherInfo),
            (apps.table.mem_rows_iff other otherInfo).mpr hother, decide_eq_true heq⟩),
          app.appCode)
  else none

/-- `JOIN scopes` of the allowed scopes -/
def CreateAppRequest.granted (app : CreateAppRequest) : List String :=
  scopes.filter (· ∈ app.allowedScopes)

/-- `register_app`; `none` when it raises, and nothing is committed. -/
def registerApp (server : Server) (app : CreateAppRequest) (createdBy : String) :
    Option (Server × String) :=
  match server.apps.register app with
  | none => none
  | some (apps, appCode) =>
    if appCode = "" then none
    else
      let scopeApp := app.granted.map (app.ebayAppId, ·) ∪ server.scopeApp
      let assigned := app.granted.map fun scope => (createdBy, app.ebayAppId, scope)
      -- the trigger is asked for each row, stored before or not
      if hsubset : ∀ row ∈ assigned, row.2 ∈ scopeApp then
        some ({ server with
          apps
          scopeApp
          appUser := [(createdBy, app.ebayAppId)] ∪ server.appUser
          scopesUser := assigned ∪ server.scopesUser
          scopesUser_subset := by
            intro row hrow
            rcases List.mem_union_iff.mp hrow with hnew | hold
            · exact hsubset row hnew
            · exact List.mem_union_iff.mpr (Or.inr (server.scopesUser_subset row hold)) },
          appCode)
      else none

/-! ## What the other services read and write -/

/-- `get_environment` -/
def getEnvironment (server : Server) (appCode : String) : Option Environment :=
  (server.apps.table.rows.find? (·.2.appCode = appCode)).map (·.2.environment)

/-- `get_app_settings`, for a user who is linked to the app -/
def getAppSettings (server : Server) (userId appCode : String) : Option (String × AppInfo) :=
  server.apps.table.rows.find? fun row =>
    row.2.appCode = appCode && decide ((userId, row.1) ∈ server.appUser)

/-- `get_app_scopes`, before they are listed in some order -/
def getAppScopes (server : Server) (appId : String) : List String :=
  scopes.filter fun scope => (appId, scope) ∈ server.scopeApp

/-- `get_user_scopes_query` -/
def getUserScopes (server : Server) (userId appId : String) : List String :=
  scopes.filter fun scope => (userId, appId, scope) ∈ server.scopesUser

/-- `update_redirect_uri`; `none` when there is no such app, or the column is too narrow. -/
def updateRedirectUri (server : Server) (userId appCode redirectUri : String) : Option Server :=
  match hfound : getAppSettings server userId appCode with
  | none => none
  | some (appId, info) =>
    if redirectUri.length ≤ 255 then
      some { server with
        apps := server.apps.replace appId info { info with redirectUri } (by
          rw [getAppSettings] at hfound
          exact (server.apps.table.mem_rows_iff appId info).mp (List.mem_of_find?_eq_some hfound))
          rfl }
    else none

/-! ## The authorization URL -/

def utf8 (text : String) : Bytes := text.toByteArray.data.toList

/-- `safe`, beside what is always safe -/
def scopeSafe (byte : UInt8) : Bool :=
  alwaysSafe byte || charOf byte ∈ ['/', ':', '@', '.', '!', '$', '&', '\'', '(', ')', '*', '+',
    ',', ';', '=', '-', '_', '~']

/-- `" ".join(scopes)` -/
def joinScopes (scopes : List String) : Bytes := [32].intercalate (scopes.map utf8)

def authUrl : Environment → String
  | .sandbox => "https://auth.sandbox.ebay.com/oauth2/authorize"
  | .production => "https://auth.ebay.com/oauth2/authorize"

/-- What is sent to eBay for the consent of a user. -/
structure Authorization where
  clientId : String
  responseType : String
  redirectUri : String
  state : String
  scope : List String
deriving DecidableEq, Repr

def Authorization.fields (authorization : Authorization) : List (Bytes × Bytes) :=
  [(utf8 "client_id", utf8 authorization.clientId),
    (utf8 "response_type", utf8 authorization.responseType),
    (utf8 "redirect_uri", utf8 authorization.redirectUri),
    (utf8 "state", utf8 authorization.state)]

def Authorization.query (authorization : Authorization) : List Char :=
  urlencode authorization.fields ++
    '&' :: field "scope".toList (quote scopeSafe (joinScopes authorization.scope))

/-- `EbayAuthAPIRepository.request_auth_code` -/
def requestAuthCode (environment : Environment) (authorization : Authorization) : List Char :=
  (authUrl environment).toList ++ '?' :: authorization.query

/-- `exchange_refresh_token`, as eBay receives it -/
structure Exchange where
  appId : String
  secret : String
  refreshToken : String
  scope : List String
deriving DecidableEq, Repr

/-! ## The calls -/

inductive Command where
  | registerApp (createdBy : String) (app : CreateAppRequest)
  | updateRedirectUri (userId appCode redirectUri : String)
  /-- The environment of the app is read by a service of its own, and then the flow is started. -/
  | login (userId appCode : String)
  | refresh (userId appCode : String)
deriving DecidableEq

/-- What a turn meets outside. -/
structure Outcome where
  /-- The await raises. -/
  raises : Bool
  /-- A new UUID. -/
  uniqueId : String
  /-- A new code for an app. -/
  appCode : String
  /-- What `fetch_refresh_token` finds. -/
  refreshToken : Option String
  order : Arrangement String

/-- A call at its await points, or what it ended with. -/
inductive Call where
  | received (command : Command)
  | settings (environment : Environment) (userId appCode : String)
  | userScopes (environment : Environment) (userId appId : String) (info : AppInfo)
  | appScopes (environment : Environment) (userId appId : String) (info : AppInfo)
  | logRequest (environment : Environment) (userId appId : String) (info : AppInfo)
      (scopes : List String)
  | refreshSettings (userId appCode refreshToken : String)
  | refreshScopes (userId appId : String) (info : AppInfo) (refreshToken : String)
  | registered (createdBy : String) (app : CreateAppRequest) (appCode : String)
  | authorized (userId : String) (authorization : Authorization) (url : List Char)
  | exchanging (userId : String) (exchange : Exchange)
  | returned
  | raised
deriving DecidableEq

def Call.next (server : Server) (outcome : Outcome) : Call → Server × Call
  | .received (.registerApp createdBy app) =>
    let app := app.ensureAppCode outcome.appCode
    match registerApp server app createdBy with
    | some (next, appCode) => (next, .registered createdBy app appCode)
    | none => (server, .raised)
  | .received (.updateRedirectUri userId appCode redirectUri) =>
    match updateRedirectUri server userId appCode redirectUri with
    | some next => (next, .returned)
    | none => (server, .raised)
  | .received (.login userId appCode) =>
    match getEnvironment server appCode with
    | some environment => (server, .settings environment userId appCode)
    | none => (server, .raised)
  | .settings environment userId appCode =>
    match getAppSettings server userId appCode with
    | some (appId, info) => (server, .userScopes environment userId appId info)
    | none => (server, .raised)
  | .userScopes environment userId appId info =>
    let scopes := outcome.order.list (getUserScopes server userId appId)
    if scopes = [] then (server, .appScopes environment userId appId info)
    else (server, .logRequest environment userId appId info scopes)
  | .appScopes environment userId appId info =>
    let scopes := outcome.order.list (getAppScopes server appId)
    if scopes = [] then (server, .raised)
    else (server, .logRequest environment userId appId info scopes)
  | .logRequest environment userId appId info scopes =>
    if (server.requests.get? outcome.uniqueId).isSome then (server, .raised)
    else
      let authorization : Authorization :=
        ⟨appId, info.responseType, info.ruName, outcome.uniqueId, scopes⟩
      ({ server with requests := server.requests.set outcome.uniqueId (userId, appId) },
        .authorized userId authorization (requestAuthCode environment authorization))
  | .received (.refresh userId appCode) =>
    match outcome.refreshToken with
    | some refreshToken => (server, .refreshSettings userId appCode refreshToken)
    | none => (server, .raised)
  | .refreshSettings userId appCode refreshToken =>
    match getAppSettings server userId appCode with
    | some (appId, info) => (server, .refreshScopes userId appId info refreshToken)
    | none => (server, .raised)
  | .refreshScopes userId appId info refreshToken =>
    (server, .exchanging userId ⟨appId, info.clientSecret, refreshToken,
      outcome.order.list (getAppScopes server appId)⟩)
  | call => (server, call)

def Call.ended : Call → Bool
  | .registered .. | .authorized .. | .exchanging .. | .returned | .raised => true
  | _ => false

/-- A call up to its next await. -/
def turn (server : Server) (call : Call) (outcome : Outcome) : Server × Call :=
  if call.ended then (server, call)
  else if outcome.raises then (server, .raised)
  else call.next server outcome

def system : System Server Call Command Outcome where
  start _ command := .received command
  turn := turn

/-- No app is registered, and no call has started. -/
def opened : Pool Server Call where
  shared := ⟨⟨.empty, fun _ _ _ _ hget => by cases hget⟩, [], [], [], by simp, .empty⟩
  threads := []

/-! ## One registration -/

/-- An app of a code is found for the users who are linked to it. -/
theorem getAppSettings_iff {server : Server} {userId appCode appId : String} {info : AppInfo} :
    getAppSettings server userId appCode = some (appId, info) ↔
      server.apps.table.get? appId = some info ∧ info.appCode = appCode ∧
        (userId, appId) ∈ server.appUser := by
  rw [getAppSettings]
  constructor
  · intro hfound
    have hrow := List.mem_of_find?_eq_some hfound
    have hcond := List.find?_some hfound
    rw [Bool.and_eq_true, decide_eq_true_eq, decide_eq_true_eq] at hcond
    exact ⟨(server.apps.table.mem_rows_iff appId info).mp hrow, hcond⟩
  · intro hstored
    have hrow := (server.apps.table.mem_rows_iff appId info).mpr hstored.1
    cases hfound : server.apps.table.rows.find? fun row =>
        row.2.appCode = appCode && decide ((userId, row.1) ∈ server.appUser) with
    | none =>
      have hnone := List.find?_eq_none.mp hfound (appId, info) hrow
      simp [hstored.2] at hnone
    | some row =>
      have hget := (server.apps.table.mem_rows_iff row.1 row.2).mp
        (List.mem_of_find?_eq_some hfound)
      have hcond := List.find?_some hfound
      rw [Bool.and_eq_true, decide_eq_true_eq] at hcond
      have hsame := server.apps.code_unique row.1 appId row.2 info hget hstored.1
        (hcond.1.trans hstored.2.1.symm)
      rw [hsame, hstored.1] at hget
      rw [← hsame, Option.some.inj hget]

/-- The settings of an app are those of a registration. -/
structure SetBy (info : AppInfo) (app : CreateAppRequest) : Prop where
  appName : info.appName = app.appName
  ruName : info.ruName = app.ruName
  clientSecret : info.clientSecret = app.clientSecret
  environment : info.environment = app.environment
  description : info.description = app.description

/-- What is stored of the app that is registered, under the code that is returned. -/
structure Stores (apps next : Apps) (app : CreateAppRequest) (appCode : String) (info : AppInfo) :
    Prop where
  get? : ∀ other, next.table.get? other =
    if other = app.ebayAppId then some info else apps.table.get? other
  code : info.appCode = appCode
  setBy : SetBy info app
  kept : ∀ stored, apps.table.get? app.ebayAppId = some stored →
    info.appCode = stored.appCode ∧ info.responseType = stored.responseType
  told : apps.table.get? app.ebayAppId = none → appCode = app.appCode

theorem stores_of_register {apps next : Apps} {app : CreateAppRequest} {appCode : String}
    (hregister : apps.register app = some (next, appCode)) :
    ∃ info, Stores apps next app appCode info := by
  rw [Apps.register] at hregister
  split at hregister
  · split at hregister
    · next stored hstored =>
      cases hregister
      refine ⟨updateApp stored app.info, Table.get?_set _ _ _, rfl, ⟨rfl, rfl, rfl, rfl, rfl⟩,
        fun other hother => ?_, fun hnew => ?_⟩
      · rw [hstored] at hother
        cases hother
        exact ⟨rfl, rfl⟩
      · rw [hstored] at hnew
        cases hnew
    · next hnew =>
      split at hregister
      · cases hregister
      · cases hregister
        refine ⟨app.info, Table.get?_set _ _ _, rfl, ⟨rfl, rfl, rfl, rfl, rfl⟩,
          fun stored hstored => ?_, fun _ => rfl⟩
        rw [hnew] at hstored
        cases hstored
  · cases hregister

/-- What a registration that is committed has written. -/
structure Registers (server next : Server) (app : CreateAppRequest) (createdBy appCode : String) :
    Prop where
  apps : ∃ info, Stores server.apps next.apps app appCode info
  scopeApp : ∀ appId scope, (appId, scope) ∈ next.scopeApp ↔
    (appId, scope) ∈ server.scopeApp ∨ app.ebayAppId = appId ∧ scope ∈ app.granted
  appUser : ∀ userId appId, (userId, appId) ∈ next.appUser ↔
    (userId, appId) ∈ server.appUser ∨ createdBy = userId ∧ app.ebayAppId = appId
  scopesUser : ∀ userId appId scope, (userId, appId, scope) ∈ next.scopesUser ↔
    (userId, appId, scope) ∈ server.scopesUser ∨
      createdBy = userId ∧ app.ebayAppId = appId ∧ scope ∈ app.granted
  requests : next.requests = server.requests
  code : appCode ≠ ""

theorem registerApp_spec {server next : Server} {app : CreateAppRequest}
    {createdBy appCode : String}
    (hregister : registerApp server app createdBy = some (next, appCode)) :
    Registers server next app createdBy appCode := by
  rw [registerApp] at hregister
  split at hregister
  · cases hregister
  · next apps code happs =>
    dsimp only at hregister
    split at hregister
    · cases hregister
    · next hcode =>
      split at hregister
      · cases hregister
        refine ⟨stores_of_register happs, fun appId scope => ?_, fun userId appId => ?_,
          fun userId appId scope => ?_, rfl, hcode⟩
        · simp only [List.mem_union_iff, List.mem_map, Prod.mk.injEq, or_comm]
          grind
        · simp [or_comm, eq_comm]
        · simp [or_comm, eq_comm, and_left_comm]
      · cases hregister

/-! ## The registrations of a run -/

/-- An app without its `redirect_uri`. -/
def AppInfo.blank (info : AppInfo) : AppInfo := { info with redirectUri := "" }

/-- No registration is committed. Only a `redirect_uri` and the requests may be new. -/
structure Quiet (server next : Server) : Prop where
  apps : ∀ appId, (next.apps.table.get? appId).map AppInfo.blank =
    (server.apps.table.get? appId).map AppInfo.blank
  scopeApp : next.scopeApp = server.scopeApp
  appUser : next.appUser = server.appUser
  scopesUser : next.scopesUser = server.scopesUser
  requests : ∀ state request, server.requests.get? state = some request →
    next.requests.get? state = some request

theorem Quiet.refl (server : Server) : Quiet server server :=
  ⟨fun _ => rfl, rfl, rfl, rfl, fun _ _ hget => hget⟩

theorem quiet_updateRedirectUri {server next : Server} {userId appCode redirectUri : String}
    (hupdate : updateRedirectUri server userId appCode redirectUri = some next) :
    Quiet server next := by
  rw [updateRedirectUri] at hupdate
  split at hupdate
  · cases hupdate
  · next appId info hfound =>
    split at hupdate
    · cases hupdate
      refine ⟨fun other => ?_, rfl, rfl, rfl, fun _ _ hget => hget⟩
      have hstored := (getAppSettings_iff.mp hfound).1
      simp only [Apps.replace, Table.get?_set]
      split_ifs with hsame
      · rw [hsame, hstored]
        rfl
      · rfl
    · cases hupdate

/-- Who registered what, under the code that was returned. -/
abbrev Registration := String × CreateAppRequest × String

def Call.registration? : Call → Option Registration
  | .registered createdBy app appCode => some (createdBy, app, appCode)
  | _ => none

/-- A turn commits a registration, or is quiet. -/
theorem turn_cases (server : Server) (call : Call) (outcome : Outcome) :
    (∃ createdBy app appCode, call.registration? = none ∧
      (turn server call outcome).2 = .registered createdBy app appCode ∧
        Registers server (turn server call outcome).1 app createdBy appCode) ∨
      (turn server call outcome).2.registration? = call.registration? ∧
        Quiet server (turn server call outcome).1 := by
  rw [turn]
  split_ifs with hended hraises
  · exact Or.inr ⟨rfl, .refl server⟩
  · right
    refine ⟨?_, .refl server⟩
    cases call <;> first | rfl | exact absurd rfl hended
  · cases call with
    | received command =>
      cases command with
      | registerApp createdBy app =>
        simp only [Call.next]
        split
        · next registered appCode hregister =>
          exact Or.inl ⟨_, _, _, rfl, rfl, registerApp_spec hregister⟩
        · exact Or.inr ⟨rfl, .refl server⟩
      | updateRedirectUri userId appCode redirectUri =>
        right
        simp only [Call.next]
        split
        · next updated hupdate => exact ⟨rfl, quiet_updateRedirectUri hupdate⟩
        · exact ⟨rfl, .refl server⟩
      | login userId appCode =>
        right
        simp only [Call.next]
        split <;> exact ⟨rfl, .refl server⟩
      | refresh userId appCode =>
        right
        simp only [Call.next]
        split <;> exact ⟨rfl, .refl server⟩
    | settings environment userId appCode =>
      right
      simp only [Call.next]
      split <;> exact ⟨rfl, .refl server⟩
    | userScopes environment userId appId info =>
      right
      simp only [Call.next]
      split_ifs <;> exact ⟨rfl, .refl server⟩
    | appScopes environment userId appId info =>
      right
      simp only [Call.next]
      split_ifs <;> exact ⟨rfl, .refl server⟩
    | logRequest environment userId appId info scopes =>
      right
      simp only [Call.next]
      split_ifs with hstored
      · exact ⟨rfl, .refl server⟩
      · refine ⟨rfl, fun _ => rfl, rfl, rfl, rfl, fun state request hget => ?_⟩
        rw [Table.get?_set, if_neg]
        · exact hget
        · rintro rfl
          exact hstored (Option.isSome_of_eq_some hget)
    | refreshSettings userId appCode refreshToken =>
      right
      simp only [Call.next]
      split <;> exact ⟨rfl, .refl server⟩
    | refreshScopes userId appId info refreshToken => exact Or.inr ⟨rfl, .refl server⟩
    | registered | authorized | exchanging | returned | raised => exact absurd rfl hended

/-- The registrations that were committed. -/
def Registered (pool : Pool Server Call) (registration : Registration) : Prop :=
  ∃ call ∈ pool.threads, call.registration? = some registration

/-- What some thread meets after a turn, another one meets or the one that took it. -/
theorem exists_mem_set_iff {T : Type} {threads : List T} {position : Nat}
    (hlength : position < threads.length) (thread : T) (meets : T → Prop) :
    (∃ other ∈ threads.set position thread, meets other) ↔
      (∃ elsewhere other, elsewhere ≠ position ∧ threads[elsewhere]? = some other ∧ meets other) ∨
        meets thread := by
  constructor
  · rintro ⟨other, hother, hmeets⟩
    obtain ⟨elsewhere, helsewhere⟩ := List.mem_iff_getElem?.mp hother
    rw [List.getElem?_set] at helsewhere
    split_ifs at helsewhere with hsame
    · exact Or.inr (Option.some.inj helsewhere ▸ hmeets)
    · exact Or.inl ⟨elsewhere, other, fun heq => hsame heq.symm, helsewhere, hmeets⟩
  · rintro (⟨elsewhere, other, hne, hother, hmeets⟩ | hmeets)
    · refine ⟨other, List.mem_iff_getElem?.mpr ⟨elsewhere, ?_⟩, hmeets⟩
      rw [List.getElem?_set_ne (Ne.symm hne), hother]
    · exact ⟨thread, List.mem_set hlength thread, hmeets⟩

/-- A move commits a registration, or is quiet. -/
theorem step_cases (pool : Pool Server Call) (move : Move Command Outcome) :
    (∃ createdBy app appCode,
      Registers pool.shared (system.step pool move).shared app createdBy appCode ∧
        ∀ registration, Registered (system.step pool move) registration ↔
          Registered pool registration ∨ registration = (createdBy, app, appCode)) ∨
      Quiet pool.shared (system.step pool move).shared ∧
        ∀ registration, Registered (system.step pool move) registration ↔
          Registered pool registration := by
  cases move with
  | start command =>
    right
    refine ⟨.refl _, fun registration => ?_⟩
    simp [Registered, System.step, system, Call.registration?]
  | turn position outcome =>
    cases hthread : pool.threads[position]? with
    | none =>
      rw [System.step_turn_of_none hthread]
      exact Or.inr ⟨.refl _, fun _ => Iff.rfl⟩
    | some call =>
      have hlength := (List.getElem?_eq_some_iff.mp hthread).1
      have hbefore (registration : Registration) := exists_mem_set_iff hlength call
        fun other => other.registration? = some registration
      have hself : pool.threads.set position call = pool.threads := by
        rw [← (List.getElem?_eq_some_iff.mp hthread).2, List.set_getElem_self]
      rw [hself] at hbefore
      have hafter (registration : Registration) := exists_mem_set_iff hlength
        (turn pool.shared call outcome).2 fun other => other.registration? = some registration
      rw [System.step_turn hthread]
      rcases turn_cases pool.shared call outcome with
        ⟨createdBy, app, appCode, hnone, hcall, hregisters⟩ | ⟨hsame, hquiet⟩
      · left
        refine ⟨createdBy, app, appCode, hregisters, fun registration => ?_⟩
        have hnew : (Call.registered createdBy app appCode).registration? = some registration ↔
            registration = (createdBy, app, appCode) :=
          Option.some_inj.trans eq_comm
        have hold := hbefore registration
        rw [hnone, or_iff_left (Option.some_ne_none registration).symm] at hold
        refine (hafter registration).trans ?_
        rw [hcall, hnew, Registered, hold]
      · right
        refine ⟨hquiet, fun registration => ?_⟩
        refine (hafter registration).trans ?_
        rw [hsame]
        exact (hbefore registration).symm

/-- A scope that a user has registered for an app. -/
def Grants (pool : Pool Server Call) (userId appId scope : String) : Prop :=
  ∃ app appCode, Registered pool (userId, app, appCode) ∧ app.ebayAppId = appId ∧
    scope ∈ app.granted

/-- The tables hold what was registered, and nothing else. -/
structure Booked (pool : Pool Server Call) : Prop where
  scopeApp : ∀ appId scope, (appId, scope) ∈ pool.shared.scopeApp ↔
    ∃ userId, Grants pool userId appId scope
  appUser : ∀ userId appId, (userId, appId) ∈ pool.shared.appUser ↔
    ∃ app appCode, Registered pool (userId, app, appCode) ∧ app.ebayAppId = appId
  scopesUser : ∀ userId appId scope, (userId, appId, scope) ∈ pool.shared.scopesUser ↔
    Grants pool userId appId scope
  stored : ∀ userId app appCode, Registered pool (userId, app, appCode) →
    ∃ info, pool.shared.apps.table.get? app.ebayAppId = some info ∧ info.appCode = appCode
  setBy : ∀ appId info, pool.shared.apps.table.get? appId = some info →
    ∃ userId app appCode, Registered pool (userId, app, appCode) ∧ app.ebayAppId = appId ∧
      SetBy info app
  code : ∀ registration, Registered pool registration → registration.2.2 ≠ ""

theorem SetBy.of_blank {info other : AppInfo} {app : CreateAppRequest} (hset : SetBy info app)
    (hblank : other.blank = info.blank) : SetBy other app := by
  simp only [AppInfo.blank, AppInfo.mk.injEq] at hblank
  obtain ⟨hname, -, hruName, -, hsecret, henvironment, hdescription, -⟩ := hblank
  exact ⟨hname.trans hset.appName, hruName.trans hset.ruName, hsecret.trans hset.clientSecret,
    henvironment.trans hset.environment, hdescription.trans hset.description⟩

/-- A quiet move leaves an app but for its `redirect_uri`. -/
theorem Quiet.get? {server next : Server} (hquiet : Quiet server next) {appId : String}
    {info : AppInfo} (hget : next.apps.table.get? appId = some info) :
    ∃ before, server.apps.table.get? appId = some before ∧ info.blank = before.blank := by
  have hsame := hquiet.apps appId
  rw [hget, Option.map_some, eq_comm, Option.map_eq_some_iff] at hsame
  obtain ⟨before, hbefore, hblank⟩ := hsame
  exact ⟨before, hbefore, hblank.symm⟩

theorem Quiet.get?_next {server next : Server} (hquiet : Quiet server next) {appId : String}
    {info : AppInfo} (hget : server.apps.table.get? appId = some info) :
    ∃ after, next.apps.table.get? appId = some after ∧ after.blank = info.blank := by
  have hsame := hquiet.apps appId
  rw [hget, Option.map_some, Option.map_eq_some_iff] at hsame
  exact hsame

theorem Grants.congr {pool next : Pool Server Call} (hsame : ∀ registration,
    Registered next registration ↔ Registered pool registration) (userId appId scope : String) :
    Grants next userId appId scope ↔ Grants pool userId appId scope := by
  simp only [Grants, hsame]

theorem Booked.of_quiet {pool next : Pool Server Call} (hbooked : Booked pool)
    (hquiet : Quiet pool.shared next.shared)
    (hsame : ∀ registration, Registered next registration ↔ Registered pool registration) :
    Booked next where
  scopeApp appId scope := by
    rw [hquiet.scopeApp, hbooked.scopeApp]
    simp only [Grants.congr hsame]
  appUser userId appId := by
    rw [hquiet.appUser, hbooked.appUser]
    simp only [hsame]
  scopesUser userId appId scope := by
    rw [hquiet.scopesUser, hbooked.scopesUser, Grants.congr hsame]
  stored userId app appCode hregistered := by
    obtain ⟨info, hget, hcode⟩ := hbooked.stored userId app appCode ((hsame _).mp hregistered)
    obtain ⟨after, hafter, hblank⟩ := hquiet.get?_next hget
    exact ⟨after, hafter, (congrArg AppInfo.appCode hblank).trans hcode⟩
  setBy appId info hget := by
    obtain ⟨before, hbefore, hblank⟩ := hquiet.get? hget
    obtain ⟨userId, app, appCode, hregistered, hid, hset⟩ := hbooked.setBy appId before hbefore
    exact ⟨userId, app, appCode, (hsame _).mpr hregistered, hid, hset.of_blank hblank⟩
  code registration hregistered := hbooked.code registration ((hsame _).mp hregistered)

section Commits

variable {pool next : Pool Server Call} {createdBy appCode : String} {app : CreateAppRequest}

theorem grants_iff (hregistered : ∀ registration, Registered next registration ↔
      Registered pool registration ∨ registration = (createdBy, app, appCode))
    (userId appId scope : String) : Grants next userId appId scope ↔
      Grants pool userId appId scope ∨
        createdBy = userId ∧ app.ebayAppId = appId ∧ scope ∈ app.granted := by
  simp only [Grants, hregistered, Prod.mk.injEq]
  constructor
  · rintro ⟨other, code, hold | ⟨rfl, rfl, rfl⟩, hrest⟩
    · exact Or.inl ⟨other, code, hold, hrest⟩
    · exact Or.inr ⟨rfl, hrest⟩
  · rintro (⟨other, code, hold, hrest⟩ | ⟨rfl, hrest⟩)
    · exact ⟨other, code, Or.inl hold, hrest⟩
    · exact ⟨app, appCode, Or.inr ⟨rfl, rfl, rfl⟩, hrest⟩

theorem Booked.of_registers (hbooked : Booked pool)
    (hregisters : Registers pool.shared next.shared app createdBy appCode)
    (hregistered : ∀ registration, Registered next registration ↔
      Registered pool registration ∨ registration = (createdBy, app, appCode)) :
    Booked next where
  scopeApp appId scope := by
    rw [hregisters.scopeApp, hbooked.scopeApp]
    simp only [grants_iff hregistered, exists_or, exists_eq_left']
  appUser userId appId := by
    rw [hregisters.appUser, hbooked.appUser]
    simp only [hregistered, Prod.mk.injEq]
    constructor
    · rintro (⟨other, code, hold, hid⟩ | ⟨rfl, hid⟩)
      · exact ⟨other, code, Or.inl hold, hid⟩
      · exact ⟨app, appCode, Or.inr ⟨rfl, rfl, rfl⟩, hid⟩
    · rintro ⟨other, code, hold | ⟨rfl, rfl, rfl⟩, hid⟩
      · exact Or.inl ⟨other, code, hold, hid⟩
      · exact Or.inr ⟨rfl, hid⟩
  scopesUser userId appId scope := by
    rw [hregisters.scopesUser, hbooked.scopesUser, grants_iff hregistered]
  stored userId other code hother := by
    obtain ⟨info, hstores⟩ := hregisters.apps
    rw [hregistered, Prod.mk.injEq, Prod.mk.injEq] at hother
    rcases hother with hold | ⟨-, rfl, rfl⟩
    · obtain ⟨before, hget, hcode⟩ := hbooked.stored userId other code hold
      rw [hstores.get?]
      split_ifs with hsame
      · rw [hsame] at hget
        exact ⟨info, rfl, (hstores.kept before hget).1.trans hcode⟩
      · exact ⟨before, hget, hcode⟩
    · exact ⟨info, by rw [hstores.get?, if_pos rfl], hstores.code⟩
  setBy appId info hget := by
    obtain ⟨stored, hstores⟩ := hregisters.apps
    rw [hstores.get?] at hget
    split_ifs at hget with hsame
    · cases hget
      exact ⟨createdBy, app, appCode, (hregistered _).mpr (Or.inr rfl), hsame.symm, hstores.setBy⟩
    · obtain ⟨userId, other, code, hother, hrest⟩ := hbooked.setBy appId info hget
      exact ⟨userId, other, code, (hregistered _).mpr (Or.inl hother), hrest⟩
  code registration hother := by
    rcases (hregistered _).mp hother with hold | rfl
    · exact hbooked.code registration hold
    · exact hregisters.code

end Commits

theorem booked_opened : Booked opened := by
  constructor <;> simp [opened, Grants, Registered]

/-- In every state of every run the tables hold what was registered. -/
theorem booked_visited (moves : List (Move Command Outcome)) :
    ∀ pool ∈ Run.visited system.step opened moves, Booked pool := by
  refine Run.forall_visited_of_step (fun pool move hbooked => ?_) moves booked_opened
  rcases step_cases pool move with ⟨createdBy, app, appCode, hregisters, hregistered⟩ | hquiet
  · exact hbooked.of_registers hregisters hregistered
  · exact hbooked.of_quiet hquiet.1 hquiet.2

section Sample

def sampleOutcome : Outcome := ⟨false, "r", "c", some "t", .inOrder String⟩

def sampleApp (allowedScopes : List String) : CreateAppRequest where
  ebayAppId := "A"
  appName := "Listings"
  ruName := "Listings RuName"
  responseType := "code"
  clientSecret := "s"
  environment := .sandbox
  description := ""
  allowedScopes
  appCode := ""

def sampleInfo : AppInfo := ((sampleApp []).ensureAppCode "c").info

def inventoryScope : String := apiScope ++ "/sell.inventory"

/-- Ada registers an app, and is about to consent. -/
def sampleMoves : List (Move Command Outcome) :=
  [.start (.registerApp "ada" (sampleApp [apiScope])), .turn 0 sampleOutcome,
    .start (.login "ada" "c"), .turn 1 sampleOutcome, .turn 1 sampleOutcome]

/-- She consents, Bob registers the app with another scope, and her token is refreshed. -/
def sampleLater : List (Move Command Outcome) :=
  [.turn 1 sampleOutcome, .start (.registerApp "bob" (sampleApp [inventoryScope])),
    .turn 2 sampleOutcome, .start (.refresh "ada" "c"), .turn 3 sampleOutcome,
    .turn 3 sampleOutcome]

def samplePool : Pool Server Call := sampleMoves.foldl system.step opened

def sampleLast : Pool Server Call :=
  (.turn 1 sampleOutcome :: sampleLater).foldl system.step samplePool

theorem sampleLast_mem : sampleLast ∈ Run.visited system.step opened
    (sampleMoves ++ .turn 1 sampleOutcome :: sampleLater) := by
  rw [sampleLast, samplePool, ← List.foldl_append]
  exact Run.foldl_mem_visited _ _ _

end Sample

/-- In every state of a run, an app has the scopes that anyone has registered it with, and a user
has those that he has. -/
theorem scopes_registered (moves : List (Move Command Outcome)) :
    ∀ pool ∈ Run.visited system.step opened moves,
      (∀ appId scope, (appId, scope) ∈ pool.shared.scopeApp ↔
        ∃ userId, Grants pool userId appId scope) ∧
      ∀ userId appId scope, (userId, appId, scope) ∈ pool.shared.scopesUser ↔
        Grants pool userId appId scope :=
  fun pool hpool =>
    ⟨(booked_visited moves pool hpool).scopeApp, (booked_visited moves pool hpool).scopesUser⟩

theorem scopes_registered_bob :
    (∃ userId, Grants sampleLast userId "A" inventoryScope) ∧
      Grants sampleLast "bob" "A" inventoryScope ∧
      ¬ Grants sampleLast "ada" "A" inventoryScope := by
  obtain ⟨hscopeApp, hscopesUser⟩ := scopes_registered _ sampleLast sampleLast_mem
  have hrows : ("A", inventoryScope) ∈ sampleLast.shared.scopeApp ∧
      ("bob", "A", inventoryScope) ∈ sampleLast.shared.scopesUser ∧
      ("ada", "A", inventoryScope) ∉ sampleLast.shared.scopesUser := by decide +kernel
  exact ⟨(hscopeApp _ _).mp hrows.1, (hscopesUser _ _ _).mp hrows.2.1,
    fun hgrants => hrows.2.2 ((hscopesUser _ _ _).mpr hgrants)⟩

theorem register_eq_none_iff {apps : Apps} {app : CreateAppRequest} :
    apps.register app = none ↔ app.fits = false ∨ apps.table.get? app.ebayAppId = none ∧
      ∃ other info, apps.table.get? other = some info ∧ info.appCode = app.appCode := by
  have htaken : apps.table.rows.any (·.2.appCode = app.appCode) = true ↔
      ∃ other info, apps.table.get? other = some info ∧ info.appCode = app.appCode := by
    simp only [List.any_eq_true, decide_eq_true_eq, Prod.exists, Table.mem_rows_iff]
  rw [Apps.register]
  split
  · next hfits =>
    split
    · next stored hstored => simp [hfits, hstored]
    · next hnew =>
      rw [← htaken]
      split <;> simp_all
  · next hfits => simp [Bool.eq_false_iff.mpr hfits]

/-- A registration is refused when a column is too narrow, or for the code of another app. The
trigger refuses none. -/
theorem registration_refused_iff (moves : List (Move Command Outcome)) :
    ∀ pool ∈ Run.visited system.step opened moves, ∀ createdBy app, app.appCode ≠ "" →
      (registerApp pool.shared app createdBy = none ↔ app.fits = false ∨
        (∀ registration, Registered pool registration →
          registration.2.1.ebayAppId ≠ app.ebayAppId) ∧
        ∃ registration, Registered pool registration ∧ registration.2.2 = app.appCode) := by
  intro pool hpool createdBy app hcode
  have hbooked := booked_visited moves pool hpool
  have hstored : pool.shared.apps.table.get? app.ebayAppId = none ↔
      ∀ registration, Registered pool registration →
        registration.2.1.ebayAppId ≠ app.ebayAppId := by
    constructor
    · intro hnew registration hregistered hid
      obtain ⟨info, hget, -⟩ := hbooked.stored _ _ _ hregistered
      rw [hid, hnew] at hget
      cases hget
    · intro hnone
      rw [Option.eq_none_iff_forall_ne_some]
      intro info hget
      obtain ⟨userId, other, appCode, hother, hid, -⟩ := hbooked.setBy _ info hget
      exact hnone _ hother hid
  have htaken : (∃ other info, pool.shared.apps.table.get? other = some info ∧
      info.appCode = app.appCode) ↔
      ∃ registration, Registered pool registration ∧ registration.2.2 = app.appCode := by
    constructor
    · rintro ⟨otherId, info, hget, heq⟩
      obtain ⟨userId, other, appCode, hother, hid, -⟩ := hbooked.setBy _ info hget
      obtain ⟨stored, hstored, hsame⟩ := hbooked.stored _ _ _ hother
      rw [hid, hget, Option.some.injEq] at hstored
      exact ⟨_, hother, hsame.symm.trans ((congrArg _ hstored.symm).trans heq)⟩
    · rintro ⟨⟨userId, other, appCode⟩, hother, heq⟩
      obtain ⟨info, hget, hsame⟩ := hbooked.stored _ _ _ hother
      exact ⟨_, info, hget, hsame.trans heq⟩
  have hnone : registerApp pool.shared app createdBy = none ↔
      pool.shared.apps.register app = none := by
    rw [registerApp]
    split
    · next hrefused => simp [hrefused]
    · next apps appCode happs =>
      obtain ⟨info, hstores⟩ := stores_of_register happs
      have hne : appCode ≠ "" := by
        cases hget : pool.shared.apps.table.get? app.ebayAppId with
        | none => exact hstores.told hget ▸ hcode
        | some stored =>
          obtain ⟨userId, other, otherCode, hother, hid, -⟩ := hbooked.setBy _ stored hget
          obtain ⟨before, hbefore, hsame⟩ := hbooked.stored _ _ _ hother
          rw [hid, hget, Option.some.injEq] at hbefore
          rw [← hstores.code, (hstores.kept stored hget).1, hbefore, hsame]
          exact hbooked.code _ hother
      dsimp only
      rw [if_neg hne, dif_pos]
      · simp [happs]
      · intro row hrow
        obtain ⟨scope, hscope, rfl⟩ := List.mem_map.mp hrow
        exact List.mem_union_iff.mpr (Or.inl (List.mem_map_of_mem hscope))
  rw [hnone, register_eq_none_iff, hstored, htaken]

theorem registration_refused_iff_taken :
    ∃ registration, Registered sampleLast registration ∧ registration.2.2 = "c" := by
  let other : CreateAppRequest := { sampleApp [] with ebayAppId := "B", appCode := "c" }
  have hrefused : (registerApp sampleLast.shared other "mallory").isNone ∧ other.fits = true := by
    decide +kernel
  have hreasons := (registration_refused_iff _ sampleLast sampleLast_mem "mallory" other
    (by decide)).mp (Option.isNone_iff_eq_none.mp hrefused.1)
  rcases hreasons with hwide | hcode
  · exact absurd hrefused.2 (by simp [hwide])
  · exact hcode.2

/-! ## What is sent to eBay -/

/-- Scopes of the table that the app has. -/
def OfApp (server : Server) (appId : String) (asked : List String) : Prop :=
  ∀ scope ∈ asked, scope ∈ scopes ∧ (appId, scope) ∈ server.scopeApp

/-- What a call has read, is in the tables. -/
def Backed (server : Server) : Call → Prop
  | .logRequest _ _ appId _ asked => asked ≠ [] ∧ OfApp server appId asked
  | .authorized userId authorization url =>
    (∃ environment, url = requestAuthCode environment authorization) ∧
      server.requests.get? authorization.state = some (userId, authorization.clientId) ∧
      authorization.scope ≠ [] ∧ OfApp server authorization.clientId authorization.scope
  | .exchanging _ exchange => OfApp server exchange.appId exchange.scope
  | _ => True

/-- Scopes and requests are added, and none is removed. -/
structure Grown (server next : Server) : Prop where
  scopeApp : ∀ row ∈ server.scopeApp, row ∈ next.scopeApp
  requests : ∀ state request, server.requests.get? state = some request →
    next.requests.get? state = some request

theorem grown_turn (server : Server) (call : Call) (outcome : Outcome) :
    Grown server (turn server call outcome).1 := by
  rcases turn_cases server call outcome with ⟨createdBy, app, appCode, -, -, hregisters⟩ |
    ⟨-, hquiet⟩
  · refine ⟨fun row hrow => (hregisters.scopeApp row.1 row.2).mpr (Or.inl hrow), ?_⟩
    intro state request hget
    rw [hregisters.requests, hget]
  · refine ⟨fun row hrow => ?_, hquiet.requests⟩
    rw [hquiet.scopeApp]
    exact hrow

theorem OfApp.mono {server next : Server} {appId : String} {asked : List String}
    (hasked : OfApp server appId asked) (hgrown : Grown server next) : OfApp next appId asked :=
  fun scope hscope => ⟨(hasked scope hscope).1, hgrown.scopeApp _ (hasked scope hscope).2⟩

theorem Backed.mono {server next : Server} {call : Call} (hbacked : Backed server call)
    (hgrown : Grown server next) : Backed next call := by
  cases call with
  | logRequest => exact ⟨hbacked.1, hbacked.2.mono hgrown⟩
  | authorized =>
    exact ⟨hbacked.1, hgrown.requests _ _ hbacked.2.1, hbacked.2.2.1, hbacked.2.2.2.mono hgrown⟩
  | exchanging => exact OfApp.mono hbacked hgrown
  | _ => trivial

theorem ofApp_getAppScopes (server : Server) (appId : String) (order : Arrangement String) :
    OfApp server appId (order.list (getAppScopes server appId)) := by
  intro scope hscope
  simpa [getAppScopes] using hscope

/-- The scopes of a user are the app's. -/
theorem ofApp_getUserScopes (server : Server) (userId appId : String)
    (order : Arrangement String) :
    OfApp server appId (order.list (getUserScopes server userId appId)) := by
  intro scope hscope
  rw [Arrangement.mem_list, getUserScopes, List.mem_filter, decide_eq_true_eq] at hscope
  exact ⟨hscope.1, server.scopesUser_subset _ hscope.2⟩

theorem backed_turn {server : Server} {call : Call} (hbacked : Backed server call)
    (outcome : Outcome) : Backed (turn server call outcome).1 (turn server call outcome).2 := by
  rw [turn]
  split_ifs with hended hraises
  · exact hbacked
  · trivial
  · cases call with
    | received command =>
      cases command <;> simp only [Call.next] <;> split <;> trivial
    | settings | refreshSettings =>
      simp only [Call.next]
      split <;> trivial
    | userScopes environment userId appId info =>
      simp only [Call.next]
      split_ifs with hnone
      · trivial
      · exact ⟨hnone, ofApp_getUserScopes server userId appId outcome.order⟩
    | appScopes environment userId appId info =>
      simp only [Call.next]
      split_ifs with hnone
      · trivial
      · exact ⟨hnone, ofApp_getAppScopes server appId outcome.order⟩
    | logRequest environment userId appId info asked =>
      simp only [Call.next]
      split_ifs
      · trivial
      · exact ⟨⟨environment, rfl⟩, by rw [Table.get?_set, if_pos rfl], hbacked⟩
    | refreshScopes userId appId info refreshToken =>
      exact ofApp_getAppScopes server appId outcome.order
    | registered | authorized | exchanging | returned | raised => exact absurd rfl hended

theorem backed_visited (moves : List (Move Command Outcome)) :
    ∀ pool ∈ Run.visited system.step opened moves,
      Holds (fun _ => True) Backed pool := by
  have hrespects : Respects system (fun _ => True) Backed fun _ _ => True := {
    start := fun _ _ _ _ => trivial
    turn := fun pool position outcome call hpool _ hcall =>
      ⟨trivial, backed_turn (hpool.thread hcall) outcome⟩
    others := fun pool position outcome call hpool _ hcall elsewhere other _ hother =>
      (hpool.thread hother).mono (grown_turn pool.shared call outcome) }
  refine Run.forall_visited_of_step (fun pool move hpool => hrespects.step hpool trivial) moves ?_
  exact ⟨trivial, fun call hcall => by cases hcall⟩

/-- The fields of the query of a URL. -/
def readUrl (url : List Char) : List (Bytes × Bytes) :=
  readQuery ((url.dropWhile (· ≠ '?')).drop 1)

theorem legible_scopeSafe : Legible scopeSafe := fun byte =>
  of_decide_eq_true (@forall_of_range (fun byte => scopeSafe byte = true →
    byte.toNat < 128 ∧ charOf byte ≠ '%') (by decide +kernel) byte)

/-- No scope has a space, an ampersand or a plus in it. -/
theorem byte_of_scope {scope : String} (hscope : scope ∈ scopes) {byte : UInt8}
    (hbyte : byte ∈ utf8 scope) : byte ≠ 32 ∧ charOf byte ≠ '&' ∧ charOf byte ≠ '+' := by
  have hall : scopes.all fun scope => (utf8 scope).all fun byte =>
      byte ≠ 32 ∧ charOf byte ≠ '&' ∧ charOf byte ≠ '+' := by decide +kernel
  exact of_decide_eq_true
    (List.all_eq_true.mp (List.all_eq_true.mp hall scope hscope) byte hbyte)

theorem mem_joinScopes {asked : List String} {byte : UInt8} (hbyte : byte ∈ joinScopes asked) :
    byte = 32 ∨ ∃ scope ∈ asked, byte ∈ utf8 scope := by
  induction asked with
  | nil => cases hbyte
  | cons scope rest ih =>
    cases rest with
    | nil =>
      rw [joinScopes, List.map_singleton, List.intercalate_singleton] at hbyte
      exact Or.inr ⟨scope, List.mem_cons_self, hbyte⟩
    | cons next others =>
      rw [joinScopes, List.map_cons, List.map_cons, List.intercalate_cons_cons, ← List.map_cons,
        List.append_assoc, List.mem_append, List.mem_append, List.mem_singleton] at hbyte
      rcases hbyte with hown | hspace | hlater
      · exact Or.inr ⟨scope, List.mem_cons_self, hown⟩
      · exact Or.inl hspace
      · rcases ih hlater with hspace | ⟨other, hother, hmem⟩
        · exact Or.inl hspace
        · exact Or.inr ⟨other, List.mem_cons_of_mem _ hother, hmem⟩

theorem byte_of_mem_joinScopes {asked : List String} (hasked : ∀ scope ∈ asked, scope ∈ scopes) :
    ∀ byte ∈ joinScopes asked, charOf byte ≠ '&' ∧ charOf byte ≠ '+' := by
  intro byte hbyte
  rcases mem_joinScopes hbyte with rfl | ⟨scope, hscope, hmem⟩
  · decide
  · exact (byte_of_scope (hasked scope hscope) hmem).2

/-- The scopes are separated by the spaces. -/
theorem splitOn_joinScopes {asked : List String} (hne : asked ≠ [])
    (hasked : ∀ scope ∈ asked, scope ∈ scopes) :
    (joinScopes asked).splitOn 32 = asked.map utf8 := by
  apply List.splitOn_intercalate
  · intro text htext hspace
    obtain ⟨scope, hscope, rfl⟩ := List.mem_map.mp htext
    exact (byte_of_scope (hasked scope hscope) hspace).1 rfl
  · simpa using hne

/-- The query of an authorization URL reads as what was put into it. -/
theorem readUrl_requestAuthCode (environment : Environment) {authorization : Authorization}
    (hasked : ∀ scope ∈ authorization.scope, scope ∈ scopes) :
    readUrl (requestAuthCode environment authorization) =
      authorization.fields ++ [(utf8 "scope", joinScopes authorization.scope)] := by
  have hbase : ∀ c ∈ (authUrl environment).toList, decide (c ≠ '?') = true := by
    have hall : (authUrl environment).toList.all (· ≠ '?') = true := by
      cases environment <;> decide +kernel
    exact List.all_eq_true.mp hall
  have hname : "scope".toList = quotePlus (utf8 "scope") := by decide +kernel
  have hbytes := byte_of_mem_joinScopes hasked
  have hvalue : '&' ∉ quote scopeSafe (joinScopes authorization.scope) :=
    notMem_quote (by decide) fun byte hbyte => (hbytes byte hbyte).1
  have hne : authorization.fields ≠ [] := List.cons_ne_nil _ _
  rw [readUrl, requestAuthCode, List.dropWhile_append_of_pos hbase,
    List.dropWhile_cons_of_neg (by decide), List.drop_one, List.tail_cons, Authorization.query,
    hname, readQuery_append hne hvalue,
    unquotePlus_quote legible_scopeSafe fun byte hbyte => (hbytes byte hbyte).2]

/-- Every authorization URL is read as the app, its settings, the state of a request of the user,
and scopes that were registered for the app. -/
theorem authorization_reads_back (moves : List (Move Command Outcome)) :
    ∀ pool ∈ Run.visited system.step opened moves, ∀ userId authorization url,
      .authorized userId authorization url ∈ pool.threads →
        readUrl url = authorization.fields ++
          [(utf8 "scope", joinScopes authorization.scope)] ∧
        (joinScopes authorization.scope).splitOn 32 = authorization.scope.map utf8 ∧
        authorization.scope ≠ [] ∧
        (∀ scope ∈ authorization.scope, ∃ otherId,
          Grants pool otherId authorization.clientId scope) ∧
        pool.shared.requests.get? authorization.state =
          some (userId, authorization.clientId) := by
  intro pool hpool userId authorization url hcall
  obtain ⟨⟨environment, rfl⟩, hrequest, hne, hasked⟩ :=
    (backed_visited moves pool hpool).threads _ hcall
  have hscopes : ∀ scope ∈ authorization.scope, scope ∈ scopes :=
    fun scope hscope => (hasked scope hscope).1
  refine ⟨readUrl_requestAuthCode environment hscopes, splitOn_joinScopes hne hscopes, hne,
    fun scope hscope => ?_, hrequest⟩
  have hbooked := booked_visited moves pool hpool
  exact (hbooked.scopeApp authorization.clientId scope).mp (hasked scope hscope).2

theorem authorization_reads_back_ada :
    readUrl (requestAuthCode .sandbox ⟨"A", "code", "Listings RuName", "r", [apiScope]⟩) =
      [(utf8 "client_id", utf8 "A"), (utf8 "response_type", utf8 "code"),
        (utf8 "redirect_uri", utf8 "Listings RuName"), (utf8 "state", utf8 "r"),
        (utf8 "scope", utf8 apiScope)] ∧
      ∃ otherId, Grants sampleLast otherId "A" apiScope := by
  have hauthorized : .authorized "ada" ⟨"A", "code", "Listings RuName", "r", [apiScope]⟩
      (requestAuthCode .sandbox ⟨"A", "code", "Listings RuName", "r", [apiScope]⟩) ∈
        sampleLast.threads := by decide +kernel
  obtain ⟨hread, -, -, hgranted, -⟩ :=
    authorization_reads_back _ sampleLast sampleLast_mem _ _ _ hauthorized
  exact ⟨hread, hgranted apiScope (List.mem_singleton_self _)⟩

/-! ## Consents and exchanges -/

/-- What is registered stays registered. -/
theorem Registered.foldl {pool : Pool Server Call} {registration : Registration}
    (hregistered : Registered pool registration) (moves : List (Move Command Outcome)) :
    Registered (moves.foldl system.step pool) registration := by
  induction moves generalizing pool with
  | nil => exact hregistered
  | cons move rest ih =>
    apply ih
    rcases step_cases pool move with ⟨createdBy, app, appCode, -, hnext⟩ | ⟨-, hnext⟩
    · exact (hnext registration).mpr (Or.inl hregistered)
    · exact (hnext registration).mpr hregistered

theorem Grants.foldl {pool : Pool Server Call} {userId appId scope : String}
    (hgrants : Grants pool userId appId scope) (moves : List (Move Command Outcome)) :
    Grants (moves.foldl system.step pool) userId appId scope := by
  obtain ⟨app, appCode, hregistered, hrest⟩ := hgrants
  exact ⟨app, appCode, hregistered.foldl moves, hrest⟩

theorem Grants.mem_scopes {pool : Pool Server Call} {userId appId scope : String}
    (hgrants : Grants pool userId appId scope) : scope ∈ scopes := by
  obtain ⟨app, appCode, -, -, hgranted⟩ := hgrants
  exact List.mem_of_mem_filter hgranted

theorem Booked.mem_getUserScopes {pool : Pool Server Call} (hbooked : Booked pool)
    (userId appId scope : String) :
    scope ∈ getUserScopes pool.shared userId appId ↔ Grants pool userId appId scope := by
  rw [getUserScopes, List.mem_filter, decide_eq_true_eq, hbooked.scopesUser]
  exact and_iff_right_of_imp Grants.mem_scopes

theorem Booked.mem_getAppScopes {pool : Pool Server Call} (hbooked : Booked pool)
    (appId scope : String) :
    scope ∈ getAppScopes pool.shared appId ↔ ∃ userId, Grants pool userId appId scope := by
  rw [getAppScopes, List.mem_filter, decide_eq_true_eq, hbooked.scopeApp]
  refine and_iff_right_of_imp ?_
  rintro ⟨userId, hgrants⟩
  exact hgrants.mem_scopes

/-- A user consents to the scopes that he has registered. An exchange for the app asks for them
later, and for no others if and only if nobody else has registered others before it. -/
theorem exchange_within_consent_iff {moves later : List (Move Command Outcome)}
    {position elsewhere : Nat} {outcome answer : Outcome} {environment : Environment}
    {userId otherId appId refreshToken : String} {info otherInfo : AppInfo}
    {pool last : Pool Server Call} (hpool : pool = moves.foldl system.step opened)
    (hlast : last = (.turn position outcome :: later).foldl system.step pool)
    (hread : pool.threads[position]? = some (.userScopes environment userId appId info))
    (hexchange : last.threads[elsewhere]? =
      some (.refreshScopes otherId appId otherInfo refreshToken))
    (houtcome : outcome.raises = false) (hanswer : answer.raises = false)
    (hown : ∃ scope, Grants pool userId appId scope) :
    ∃ consented asked,
      (system.step pool (.turn position outcome)).threads[position]? =
        some (.logRequest environment userId appId info consented) ∧
      (system.step last (.turn elsewhere answer)).threads[elsewhere]? =
        some (.exchanging otherId ⟨appId, otherInfo.clientSecret, refreshToken, asked⟩) ∧
      (∀ scope ∈ consented, scope ∈ asked) ∧
      ((∀ scope ∈ asked, scope ∈ consented) ↔
        ∀ createdBy scope, Grants last createdBy appId scope → Grants pool userId appId scope) := by
  have hbooked : Booked pool := by
    rw [hpool]
    exact booked_visited moves _ (Run.foldl_mem_visited ..)
  have hbookedLast : Booked last := by
    rw [hlast, hpool, ← List.foldl_append]
    exact booked_visited _ _ (Run.foldl_mem_visited ..)
  obtain ⟨scope, hscope⟩ := hown
  have hne : outcome.order.list (getUserScopes pool.shared userId appId) ≠ [] := by
    apply List.ne_nil_of_mem (a := scope)
    rw [Arrangement.mem_list, hbooked.mem_getUserScopes]
    exact hscope
  refine ⟨outcome.order.list (getUserScopes pool.shared userId appId),
    answer.order.list (getAppScopes last.shared appId), ?_, ?_, ?_, ?_⟩
  · have hlength := (List.getElem?_eq_some_iff.mp hread).1
    rw [System.step_turn hread, List.getElem?_set_self hlength]
    simp [system, turn, Call.ended, houtcome, Call.next, hne]
  · have hlength := (List.getElem?_eq_some_iff.mp hexchange).1
    rw [System.step_turn hexchange, List.getElem?_set_self hlength]
    simp [system, turn, Call.ended, hanswer, Call.next]
  · intro other hother
    rw [Arrangement.mem_list, hbooked.mem_getUserScopes] at hother
    rw [Arrangement.mem_list, hbookedLast.mem_getAppScopes]
    exact ⟨userId, hlast ▸ hother.foldl _⟩
  · simp only [Arrangement.mem_list, hbooked.mem_getUserScopes, hbookedLast.mem_getAppScopes,
      forall_exists_index]
    exact forall_comm

theorem exchange_within_consent_iff_bob : ∃ consented asked,
    (system.step samplePool (.turn 1 sampleOutcome)).threads[1]? =
      some (.logRequest .sandbox "ada" "A" sampleInfo consented) ∧
    (system.step sampleLast (.turn 3 sampleOutcome)).threads[3]? =
      some (.exchanging "ada" ⟨"A", "s", "t", asked⟩) ∧
    ¬ ∀ scope ∈ asked, scope ∈ consented := by
  have hpool : samplePool = sampleMoves.foldl system.step opened := rfl
  have hlast : sampleLast =
      (.turn 1 sampleOutcome :: sampleLater).foldl system.step samplePool := rfl
  have hraises : sampleOutcome.raises = false := rfl
  have hread : samplePool.threads[1]? =
      some (.userScopes .sandbox "ada" "A" sampleInfo) := by decide +kernel
  have hexchange : sampleLast.threads[3]? =
      some (.refreshScopes "ada" "A" sampleInfo "t") := by decide +kernel
  have hbooked : Booked samplePool :=
    booked_visited sampleMoves _ (Run.foldl_mem_visited _ _ _)
  have hbookedLast := booked_visited _ sampleLast sampleLast_mem
  have hreads : apiScope ∈ getUserScopes samplePool.shared "ada" "A" ∧
      inventoryScope ∉ getUserScopes samplePool.shared "ada" "A" ∧
      inventoryScope ∈ getUserScopes sampleLast.shared "bob" "A" := by decide +kernel
  simp only [hbooked.mem_getUserScopes, hbookedLast.mem_getUserScopes] at hreads
  obtain ⟨consented, asked, hconsents, hasks, -, hiff⟩ :=
    exchange_within_consent_iff hpool hlast hread hexchange hraises hraises ⟨apiScope, hreads.1⟩
  refine ⟨consented, asked, hconsents, hasks, ?_⟩
  rw [hiff]
  exact fun hall => hreads.2.1 (hall "bob" inventoryScope hreads.2.2)

end AutoMana.Ebay.AppScopes
