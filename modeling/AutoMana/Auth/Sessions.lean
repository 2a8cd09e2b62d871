import AutoMana.Relational.Dict
import AutoMana.Relational.Interleaving

/-!
# The sessions of users

A login answers with a session and the time to which it lasts, seven days. It takes a live session
of its user, of whichever device, or creates one, which lasts for two hours. A session is valid
for requests of the device it was created for.
-/

namespace AutoMana.Auth.Sessions

open Relational Relational.Interleaving

/-! ## The tables -/

structure Device where
  ipAddress : String
  userAgent : String
  deriving DecidableEq

/-- A row of `sessions`. Times are in seconds. -/
structure Session where
  userId : String
  createdAt : Nat
  expiresAt : Nat
  device : Device
  active : Bool

/-- A row of `refresh_tokens`, without the text of the token. -/
structure RefreshToken where
  sessionId : String
  refreshTokenExpiresAt : Nat
  used : Bool
  revoked : Bool

/-- The answer to a successful login, with its user and device. -/
structure Login where
  userId : String
  device : Device
  sessionId : String
  sessionExpiresAt : Nat

/-- What was committed for a call. -/
inductive Answer where
  | loggedIn (login : Login)
  | loggedOut (sessionId : String)
  | reset (sessionIds : List String)

structure Server where
  now : Nat
  sessions : Table String Session
  refreshTokens : Table String RefreshToken
  /-- The first one first. -/
  answers : List Answer

/-! ## Queries -/

/-- A row of `v_active_sessions`. -/
structure ActiveSession where
  tokenId : String
  sessionId : String
  session : Session

/-- `v_active_sessions`, `now` being the start of the transaction. -/
def activeSessions (server : Server) (now : Nat) : List ActiveSession :=
  server.refreshTokens.rows.filterMap fun row =>
    (server.sessions.get? row.2.sessionId).bind fun session =>
      if session.active && !row.2.revoked && decide (now < session.expiresAt) && !row.2.used then
        some ⟨row.1, row.2.sessionId, session⟩
      else none

/-- The first row of a query. The order is not specified, so `tie` picks among the rows. -/
def firstOf (rows : List ActiveSession) (tie : Nat) : Option ActiveSession :=
  rows[tie % rows.length]?

/-- `get_by_user_id` -/
def getByUserId (server : Server) (now : Nat) (userId : String) : List ActiveSession :=
  (activeSessions server now).filter (·.session.userId = userId)

/-- `validate_session_credentials`; `none` when it raises. -/
def validateSessionCredentials (server : Server) (now : Nat) (sessionId : String)
    (device : Device) (tie : Nat) : Option ActiveSession :=
  (firstOf ((activeSessions server now).filter fun row =>
    decide (row.sessionId = sessionId) && decide (row.session.device = device)) tie).filter
      fun row => ¬ row.session.expiresAt < server.now

/-! ## Functions of the database -/

/-- `insert_add_token`, of a session as `CreateSession` has it: without an expiry of its own it
lasts for two hours. -/
def insertAddToken (server : Server) (sessionId tokenId userId : String) (device : Device)
    (createdAt refreshTokenExpiresAt : Nat) : Server :=
  { server with
    sessions := server.sessions.set sessionId
      ⟨userId, createdAt, createdAt + 7200, device, true⟩
    refreshTokens := server.refreshTokens.set tokenId
      ⟨sessionId, refreshTokenExpiresAt, false, false⟩ }

/-- `rotate_refresh_token` -/
def rotateRefreshToken (server : Server) (oldId sessionId tokenId : String)
    (refreshTokenExpiresAt : Nat) : Server :=
  { server with
    refreshTokens := (server.refreshTokens.mapValues fun id token =>
      if id = oldId then { token with used := true } else token).set tokenId
        ⟨sessionId, refreshTokenExpiresAt, false, false⟩ }

/-- `inactivate_session`; `none` when there is no such session. -/
def inactivateSession (server : Server) (sessionId : String) : Option Server :=
  (server.sessions.get? sessionId).map fun session =>
    { server with
      sessions := server.sessions.set sessionId { session with active := false }
      refreshTokens := server.refreshTokens.mapValues fun _ token =>
        if token.sessionId = sessionId then { token with revoked := true } else token }

def answer (server : Server) (given : Answer) : Server :=
  { server with answers := server.answers ++ [given] }

/-! ## The services -/

/-- What a turn meets outside: whether it raises, the user of the credentials or of the reset
token, new UUIDs, an order of rows. -/
structure Outcome where
  raises : Bool
  userId? : Option String
  sessionId : String
  tokenId : String
  tie : Nat

inductive Command where
  /-- Time passes. -/
  | pass (seconds : Nat)
  | login (device : Device)
  | refreshSession (sessionId : String) (device : Device)
  | logout (sessionId : String)
  | resetPassword

/-- A call at its await points. `now` is the time of its transaction. -/
inductive Call where
  | received (command : Command)
  | lookup (userId : String) (device : Device) (expireTime now : Nat)
  | rotateLogin (login : Login) (oldId : String)
  | create (userId : String) (device : Device) (expireTime createdAt : Nat)
  | validate (sessionId : String) (device : Device) (now : Nat)
  | rotate (sessionId oldId : String) (expireTime : Nat)
  | lookupReset (userId : String) (now : Nat)
  | invalidate (sessionIds : List String)
  | returned
  | raised

/-- The insert of a token fails when its id is taken. -/
def rotates (server : Server) (outcome : Outcome) : Bool :=
  !outcome.raises && (server.refreshTokens.get? outcome.tokenId).isNone

/-- Neither id is taken, and the address fits into its column. -/
def creates (server : Server) (device : Device) (outcome : Outcome) : Bool :=
  rotates server outcome && (server.sessions.get? outcome.sessionId).isNone &&
    decide (device.ipAddress.length ≤ 45)

/-- A service up to its next await; its writes are seen from its commit on. -/
def turn (server : Server) (call : Call) (outcome : Outcome) : Server × Call :=
  match call with
  | .received (.pass seconds) => ({ server with now := server.now + seconds }, .returned)
  | .received (.login device) =>
    match outcome.userId? with
    | some userId => (server, .lookup userId device (server.now + 604800) server.now)
    | none => (server, .returned)
  | .lookup userId device expireTime now =>
    match firstOf (getByUserId server now userId) outcome.tie with
    | some row =>
      (server, .rotateLogin ⟨userId, device, row.sessionId, expireTime⟩ row.tokenId)
    | none => (server, .create userId device expireTime server.now)
  | .rotateLogin login oldId =>
    if rotates server outcome then
      (answer (rotateRefreshToken server oldId login.sessionId outcome.tokenId
        login.sessionExpiresAt) (.loggedIn login), .returned)
    else (server, .raised)
  | .create userId device expireTime createdAt =>
    if creates server device outcome then
      (answer (insertAddToken server outcome.sessionId outcome.tokenId userId device createdAt
        expireTime) (.loggedIn ⟨userId, device, outcome.sessionId, expireTime⟩), .returned)
    else (server, .raised)
  | .received (.refreshSession sessionId device) => (server, .validate sessionId device server.now)
  | .validate sessionId device now =>
    match validateSessionCredentials server now sessionId device outcome.tie with
    | some row => (server, .rotate row.sessionId row.tokenId (server.now + 604800))
    | none => (server, .raised)
  | .rotate sessionId oldId expireTime =>
    if rotates server outcome then
      (rotateRefreshToken server oldId sessionId outcome.tokenId expireTime, .returned)
    else (server, .raised)
  | .received (.logout sessionId) =>
    match inactivateSession server sessionId with
    | some next => (answer next (.loggedOut sessionId), .returned)
    | none => (server, .raised)
  | .received .resetPassword =>
    match outcome.userId? with
    | some userId => (server, .lookupReset userId server.now)
    | none => (server, .raised)
  | .lookupReset userId now =>
    (server, .invalidate ((getByUserId server now userId).map ActiveSession.sessionId))
  | .invalidate sessionIds =>
    match sessionIds.foldlM inactivateSession server with
    | some next => (answer next (.reset sessionIds), .returned)
    | none => (server, .raised)
  | .returned => (server, .returned)
  | .raised => (server, .raised)

def system : System Server Call Command Outcome where
  start _ command := .received command
  turn := turn

/-- Nothing is stored, and no call has started. -/
def opened : Pool Server Call := ⟨⟨0, .empty, .empty, []⟩, []⟩

/-! ## What is claimed, and the condition -/

/-- A logout or a reset of the session. -/
def Answer.Ends (sessionId : String) : Answer → Prop
  | .loggedIn _ => False
  | .loggedOut other => other = sessionId
  | .reset sessionIds => sessionId ∈ sessionIds

/-- A login of the same user from the same device. -/
def Answer.Renews (login : Login) : Answer → Prop
  | .loggedIn other => other.userId = login.userId ∧ other.device = login.device
  | .loggedOut _ => False
  | .reset _ => False

def Ended (answers : List Answer) (sessionId : String) : Prop :=
  ∃ given ∈ answers, given.Ends sessionId

/-- The newest login of its user and device, with a session that was not ended. -/
structure Standing (answers : List Answer) (login : Login) : Prop where
  newest : ∃ before after, answers = before ++ .loggedIn login :: after ∧
    ∀ given ∈ after, ¬ given.Renews login
  lasting : ¬ Ended answers login.sessionId

/-- The session of a login is valid for its device up to the time in the answer. -/
def KeepsWord (server : Server) : Prop :=
  ∀ login, Standing server.answers login → server.now < login.sessionExpiresAt → ∀ tie,
    (validateSessionCredentials server server.now login.sessionId login.device tie).isSome

/-- A login takes a session that was created for its device and has not expired, and while it
stands no time passes over the expiry of its session. -/
def Timely (server : Server) (call : Call) (outcome : Outcome) : Prop :=
  match call with
  | .received (.pass seconds) =>
    ∀ login, Standing server.answers login → server.now + seconds < login.sessionExpiresAt →
      ∀ session, server.sessions.get? login.sessionId = some session →
        server.now + seconds < session.expiresAt
  | .rotateLogin login _ =>
    rotates server outcome → ¬ Ended server.answers login.sessionId →
      server.now < login.sessionExpiresAt →
      ∀ session, server.sessions.get? login.sessionId = some session →
        session.device = login.device ∧ server.now < session.expiresAt
  | .create _ device expireTime createdAt =>
    creates server device outcome → server.now < expireTime → server.now < createdAt + 7200
  | _ => True

def TimelyMove (pool : Pool Server Call) : Move Command Outcome → Prop
  | .start _ => True
  | .turn position outcome =>
    ∀ call, pool.threads[position]? = some call → Timely pool.shared call outcome

/-! ## Rows that stay -/

/-- No row goes; a session keeps its device and expiry, a token its session. -/
structure Grows (before after : Server) : Prop where
  sessions : ∀ sessionId session, before.sessions.get? sessionId = some session →
    ∃ later, after.sessions.get? sessionId = some later ∧ later.device = session.device ∧
      later.expiresAt = session.expiresAt
  tokens : ∀ tokenId token, before.refreshTokens.get? tokenId = some token →
    ∃ later, after.refreshTokens.get? tokenId = some later ∧ later.sessionId = token.sessionId

section Rows

variable {server next : Server} {outcome : Outcome}

theorem Grows.refl (server : Server) : Grows server server :=
  ⟨fun _ session hget => ⟨session, hget, rfl, rfl⟩, fun _ token hget => ⟨token, hget, rfl⟩⟩

theorem Grows.trans {first second third : Server} (hfirst : Grows first second)
    (hsecond : Grows second third) : Grows first third := by
  constructor
  · intro sessionId session hget
    obtain ⟨middle, hmiddle, hdevice, hexpires⟩ := hfirst.sessions _ _ hget
    obtain ⟨later, hlater, hsame, hkept⟩ := hsecond.sessions _ _ hmiddle
    exact ⟨later, hlater, hsame.trans hdevice, hkept.trans hexpires⟩
  · intro tokenId token hget
    obtain ⟨middle, hmiddle, hsession⟩ := hfirst.tokens _ _ hget
    obtain ⟨later, hlater, hsame⟩ := hsecond.tokens _ _ hmiddle
    exact ⟨later, hlater, hsame.trans hsession⟩

theorem Grows.isSome (hgrows : Grows server next) {sessionId : String}
    (hsession : (server.sessions.get? sessionId).isSome) :
    (next.sessions.get? sessionId).isSome := by
  obtain ⟨session, hsession⟩ := Option.isSome_iff_exists.mp hsession
  obtain ⟨later, hlater, -⟩ := hgrows.sessions _ _ hsession
  exact Option.isSome_of_eq_some hlater

/-- The answers are no rows. -/
theorem Grows.answer {given : Answer} (hgrows : Grows server next) :
    Grows server (answer next given) := ⟨hgrows.sessions, hgrows.tokens⟩

theorem get?_rotateRefreshToken {oldId sessionId tokenId : String} {expireTime : Nat}
    (id : String) :
    (rotateRefreshToken server oldId sessionId tokenId expireTime).refreshTokens.get? id =
      if id = tokenId then some ⟨sessionId, expireTime, false, false⟩
      else (server.refreshTokens.get? id).map fun token =>
        if id = oldId then { token with used := true } else token := by
  rw [rotateRefreshToken, Table.get?_set, Table.get?_mapValues]

theorem grows_rotateRefreshToken {oldId sessionId tokenId : String} {expireTime : Nat}
    (hnew : server.refreshTokens.get? tokenId = none) :
    Grows server (rotateRefreshToken server oldId sessionId tokenId expireTime) := by
  refine ⟨(Grows.refl server).sessions, fun id token hget => ?_⟩
  have hne : id ≠ tokenId := Table.ne_of_new hnew hget
  rw [get?_rotateRefreshToken, if_neg hne, hget, Option.map_some]
  refine ⟨_, rfl, ?_⟩
  split_ifs <;> rfl

theorem grows_insertAddToken {sessionId tokenId userId : String} {device : Device}
    {createdAt expireTime : Nat} (hsession : server.sessions.get? sessionId = none)
    (htoken : server.refreshTokens.get? tokenId = none) :
    Grows server
      (insertAddToken server sessionId tokenId userId device createdAt expireTime) := by
  constructor
  · intro id session hget
    have hne : id ≠ sessionId := Table.ne_of_new hsession hget
    rw [insertAddToken, Table.get?_set, if_neg hne]
    exact ⟨session, hget, rfl, rfl⟩
  · intro id token hget
    have hne : id ≠ tokenId := Table.ne_of_new htoken hget
    rw [insertAddToken, Table.get?_set, if_neg hne]
    exact ⟨token, hget, rfl⟩

/-! ## Ending sessions -/

/-- Only the sessions of a list and their tokens are changed. -/
structure Ends (sessionIds : List String) (before after : Server) : Prop where
  grows : Grows before after
  now : after.now = before.now
  answers : after.answers = before.answers
  sessions : ∀ sessionId ∉ sessionIds,
    after.sessions.get? sessionId = before.sessions.get? sessionId
  tokens : ∀ tokenId token, before.refreshTokens.get? tokenId = some token →
    token.sessionId ∉ sessionIds → after.refreshTokens.get? tokenId = some token
  stored : ∀ sessionId ∈ sessionIds, (before.sessions.get? sessionId).isSome

theorem ends_inactivateSession {sessionId : String}
    (hnext : inactivateSession server sessionId = some next) : Ends [sessionId] server next := by
  obtain ⟨session, hsession, rfl⟩ := Option.map_eq_some_iff.mp hnext
  refine ⟨⟨?_, ?_⟩, rfl, rfl, ?_, ?_, ?_⟩
  · intro id stored hget
    rw [Table.get?_set]
    split_ifs with hsame
    · rw [hsame, hsession] at hget
      obtain rfl := Option.some.inj hget
      exact ⟨_, rfl, rfl, rfl⟩
    · exact ⟨stored, hget, rfl, rfl⟩
  · intro id token hget
    rw [Table.get?_mapValues, hget, Option.map_some]
    refine ⟨_, rfl, ?_⟩
    split_ifs <;> rfl
  · intro id hid
    rw [Table.get?_set, if_neg fun hsame : id = sessionId => hid (List.mem_singleton.mpr hsame)]
  · intro id token hget hid
    rw [Table.get?_mapValues, hget, Option.map_some,
      if_neg fun hsame : token.sessionId = sessionId => hid (List.mem_singleton.mpr hsame)]
  · intro id hid
    rw [List.mem_singleton.mp hid, hsession]
    rfl

theorem Ends.trans {first second third : Server} {some rest : List String}
    (hfirst : Ends some first second) (hsecond : Ends rest second third) :
    Ends (some ++ rest) first third := by
  refine ⟨hfirst.grows.trans hsecond.grows, hsecond.now.trans hfirst.now,
    hsecond.answers.trans hfirst.answers, ?_, ?_, ?_⟩
  · intro id hid
    rw [List.mem_append, not_or] at hid
    rw [hsecond.sessions id hid.2, hfirst.sessions id hid.1]
  · intro id token hget hid
    rw [List.mem_append, not_or] at hid
    exact hsecond.tokens id token (hfirst.tokens id token hget hid.1) hid.2
  · intro id hid
    by_cases hearly : id ∈ some
    · exact hfirst.stored id hearly
    · rw [← hfirst.sessions id hearly]
      exact hsecond.stored id ((List.mem_append.mp hid).resolve_left hearly)

theorem ends_foldlM {sessionIds : List String}
    (hnext : sessionIds.foldlM inactivateSession server = some next) :
    Ends sessionIds server next := by
  induction sessionIds generalizing server with
  | nil =>
    obtain rfl : server = next := Option.some.inj hnext
    exact ⟨.refl server, rfl, rfl, fun _ _ => rfl, fun _ _ hget _ => hget,
      fun _ hid => by cases hid⟩
  | cons sessionId rest ih =>
    rw [List.foldlM_cons, Option.bind_eq_bind, Option.bind_eq_some_iff] at hnext
    obtain ⟨middle, hmiddle, hnext⟩ := hnext
    exact (ends_inactivateSession hmiddle).trans (ih hnext)

end Rows

/-! ## Sessions that were not ended -/

/-- A session is active, and a token of it is neither used nor revoked. -/
def Live (server : Server) (sessionId : String) : Prop :=
  (∀ session, server.sessions.get? sessionId = some session → session.active = true) ∧
    ∃ tokenId token, server.refreshTokens.get? tokenId = some token ∧
      token.sessionId = sessionId ∧ token.used = false ∧ token.revoked = false

structure Sound (server : Server) : Prop where
  live : ∀ sessionId, (server.sessions.get? sessionId).isSome →
    ¬ Ended server.answers sessionId → Live server sessionId
  stored : ∀ login, .loggedIn login ∈ server.answers →
    (server.sessions.get? login.sessionId).isSome
  ended : ∀ sessionId, Ended server.answers sessionId → (server.sessions.get? sessionId).isSome

/-- The token that a call rotates is one of the session. -/
def Own (server : Server) (sessionId tokenId : String) : Prop :=
  (server.sessions.get? sessionId).isSome ∧
    ∃ token, server.refreshTokens.get? tokenId = some token ∧ token.sessionId = sessionId

def Rotating (server : Server) : Call → Prop
  | .rotateLogin login oldId => Own server login.sessionId oldId
  | .rotate sessionId oldId _ => Own server sessionId oldId
  | _ => True

theorem ended_concat {answers : List Answer} {given : Answer} {sessionId : String} :
    Ended (answers ++ [given]) sessionId ↔ Ended answers sessionId ∨ given.Ends sessionId := by
  simp [Ended, or_and_right, exists_or]

section Invariant

variable {server next : Server}

theorem Own.mono {sessionId tokenId : String} (hown : Own server sessionId tokenId)
    (hgrows : Grows server next) : Own next sessionId tokenId := by
  obtain ⟨hsession, token, htoken, hsame⟩ := hown
  obtain ⟨kept, hkept, hid⟩ := hgrows.tokens _ _ htoken
  exact ⟨hgrows.isSome hsession, kept, hkept, hid.trans hsame⟩

theorem Rotating.mono {call : Call} (hrotating : Rotating server call)
    (hgrows : Grows server next) : Rotating next call := by
  cases call with
  | rotateLogin | rotate => exact Own.mono hrotating hgrows
  | received | lookup | create | validate | lookupReset | invalidate | returned | raised =>
    trivial

/-- A row of the view is of a stored session with its token. -/
theorem mem_activeSessions_iff {now : Nat} {row : ActiveSession} :
    row ∈ activeSessions server now ↔
      server.sessions.get? row.sessionId = some row.session ∧ row.session.active = true ∧
        now < row.session.expiresAt ∧ ∃ token, server.refreshTokens.get? row.tokenId = some token ∧
          token.sessionId = row.sessionId ∧ token.used = false ∧ token.revoked = false := by
  rw [activeSessions, List.mem_filterMap]
  constructor
  · rintro ⟨⟨tokenId, token⟩, htoken, hrow⟩
    obtain ⟨session, hsession, hrow⟩ := Option.bind_eq_some_iff.mp hrow
    split_ifs at hrow with hkept
    obtain rfl := Option.some.inj hrow
    simp only [Bool.and_eq_true, Bool.not_eq_true', decide_eq_true_eq] at hkept
    obtain ⟨⟨⟨hactive, hrevoked⟩, hnow⟩, hused⟩ := hkept
    exact ⟨hsession, hactive, hnow, token, (Table.mem_rows_iff _ _ _).mp htoken, rfl, hused,
      hrevoked⟩
  · rintro ⟨hsession, hactive, hnow, token, htoken, hsame, hused, hrevoked⟩
    refine ⟨(row.tokenId, token), (Table.mem_rows_iff _ _ _).mpr htoken, ?_⟩
    rw [hsame, hsession]
    simp [hactive, hnow, hused, hrevoked]

theorem mem_of_firstOf {rows : List ActiveSession} {tie : Nat} {row : ActiveSession}
    (hrow : firstOf rows tie = some row) : row ∈ rows := List.mem_of_getElem? hrow

theorem exists_firstOf {rows : List ActiveSession} (hrows : rows ≠ []) (tie : Nat) :
    ∃ row, firstOf rows tie = some row := by
  have hlength : tie % rows.length < rows.length :=
    Nat.mod_lt tie (List.length_pos_iff.mpr hrows)
  exact ⟨rows[tie % rows.length], List.getElem?_eq_getElem hlength⟩

/-- A row that validates is of the session, which is of the device and has not expired. -/
theorem of_validateSessionCredentials {now tie : Nat} {sessionId : String} {device : Device}
    {row : ActiveSession}
    (hrow : validateSessionCredentials server now sessionId device tie = some row) :
    row.sessionId = sessionId ∧ row.session.device = device ∧
      row ∈ activeSessions server now := by
  have hfirst := mem_of_firstOf (Option.filter_eq_some_iff.mp hrow).1
  obtain ⟨hactive, hsame⟩ := List.mem_filter.mp hfirst
  rw [Bool.and_eq_true, decide_eq_true_eq, decide_eq_true_eq] at hsame
  exact ⟨hsame.1, hsame.2, hactive⟩

/-- The session is of the device, and has not expired. -/
def Valid (server : Server) (sessionId : String) (device : Device) : Prop :=
  ∃ session, server.sessions.get? sessionId = some session ∧ session.device = device ∧
    server.now < session.expiresAt

/-- A session that was not ended is valid for its device until it expires. -/
theorem forall_validate_iff {sessionId : String} (hlive : Live server sessionId)
    (device : Device) :
    (∀ tie, (validateSessionCredentials server server.now sessionId device tie).isSome) ↔
      Valid server sessionId device := by
  constructor
  · intro hvalid
    obtain ⟨row, hrow⟩ := Option.isSome_iff_exists.mp (hvalid 0)
    obtain ⟨rfl, rfl, hactive⟩ := of_validateSessionCredentials hrow
    obtain ⟨hsession, -, hnow, -⟩ := mem_activeSessions_iff.mp hactive
    exact ⟨row.session, hsession, rfl, hnow⟩
  · rintro ⟨session, hsession, rfl, hnow⟩ tie
    obtain ⟨hactive, tokenId, token, htoken, hsame, hused, hrevoked⟩ := hlive
    have hmem : (⟨tokenId, sessionId, session⟩ : ActiveSession) ∈
        (activeSessions server server.now).filter fun row =>
          decide (row.sessionId = sessionId) && decide (row.session.device = session.device) := by
      refine List.mem_filter.mpr ⟨mem_activeSessions_iff.mpr ?_, by simp⟩
      exact ⟨hsession, hactive session hsession, hnow, token, htoken, hsame, hused, hrevoked⟩
    obtain ⟨row, hrow⟩ := exists_firstOf (List.ne_nil_of_mem hmem) tie
    have hrowActive := (List.mem_filter.mp (mem_of_firstOf hrow)).1
    obtain ⟨-, -, hrowNow, -⟩ := mem_activeSessions_iff.mp hrowActive
    rw [validateSessionCredentials, hrow]
    simp [Nat.le_of_lt hrowNow]

/-! ## What the turns keep -/

theorem Sound.loggedIn (hsound : Sound server) {login : Login}
    (hsession : (server.sessions.get? login.sessionId).isSome) :
    Sound (answer server (.loggedIn login)) := by
  refine ⟨fun id hid hlasting => ?_, fun other hother => ?_, fun id hended => ?_⟩
  · exact hsound.live id hid fun hended => hlasting (ended_concat.mpr (.inl hended))
  · rcases List.mem_append.mp hother with hold | hnew
    · exact hsound.stored other hold
    · obtain rfl : other = login := by simpa using hnew
      exact hsession
  · rcases ended_concat.mp hended with hold | hnew
    · exact hsound.ended id hold
    · cases hnew

theorem Sound.rotate (hsound : Sound server) {oldId sessionId tokenId : String}
    (hown : Own server sessionId oldId) (hnew : server.refreshTokens.get? tokenId = none)
    (expireTime : Nat) :
    Sound (rotateRefreshToken server oldId sessionId tokenId expireTime) := by
  refine ⟨fun id hid hlasting => ?_, hsound.stored, hsound.ended⟩
  obtain ⟨hactive, otherId, token, htoken, hsame, hused, hrevoked⟩ := hsound.live id hid hlasting
  refine ⟨hactive, ?_⟩
  by_cases hrotated : id = sessionId
  · refine ⟨tokenId, ⟨sessionId, expireTime, false, false⟩, ?_, hrotated.symm, rfl, rfl⟩
    rw [get?_rotateRefreshToken, if_pos rfl]
  · have hne : otherId ≠ tokenId := Table.ne_of_new hnew htoken
    -- the token that is used up is of another session
    have hother : otherId ≠ oldId := by
      rintro rfl
      obtain ⟨-, old, hold, hsession⟩ := hown
      rw [htoken] at hold
      obtain rfl := Option.some.inj hold
      exact hrotated (hsame.symm.trans hsession)
    refine ⟨otherId, token, ?_, hsame, hused, hrevoked⟩
    rw [get?_rotateRefreshToken, if_neg hne, htoken, Option.map_some, if_neg hother]

theorem Sound.create (hsound : Sound server) {sessionId tokenId : String}
    (hsession : server.sessions.get? sessionId = none)
    (htoken : server.refreshTokens.get? tokenId = none) (userId : String) (device : Device)
    (createdAt expireTime : Nat) :
    Sound (insertAddToken server sessionId tokenId userId device createdAt expireTime) := by
  have hgrows : Grows server
      (insertAddToken server sessionId tokenId userId device createdAt expireTime) :=
    grows_insertAddToken hsession htoken
  refine ⟨fun id hid hlasting => ?_, fun login hlogin => hgrows.isSome (hsound.stored login hlogin),
    fun id hended => hgrows.isSome (hsound.ended id hended)⟩
  rw [insertAddToken, Table.get?_set] at hid
  rw [Live, insertAddToken]
  simp only [Table.get?_set]
  split_ifs at hid ⊢ with hcreated
  · refine ⟨fun session hnew => by rw [← Option.some.inj hnew], tokenId,
      ⟨sessionId, expireTime, false, false⟩, if_pos rfl, hcreated.symm, rfl, rfl⟩
  · obtain ⟨hactive, otherId, token, hother, hsame⟩ := hsound.live id hid hlasting
    have hne : otherId ≠ tokenId := Table.ne_of_new htoken hother
    exact ⟨hactive, otherId, token, (if_neg hne).trans hother, hsame⟩

/-- After the sessions of an answer are ended, the others are as they were. -/
theorem Sound.ends (hsound : Sound server) {sessionIds : List String}
    (hends : Ends sessionIds server next) {given : Answer}
    (hgiven : ∀ sessionId, given.Ends sessionId ↔ sessionId ∈ sessionIds)
    (hother : ∀ login, given ≠ .loggedIn login) : Sound (answer next given) := by
  refine ⟨fun id hid hlasting => ?_, fun login hlogin => ?_, fun id hended => ?_⟩
  · obtain ⟨hold, hnew⟩ := not_or.mp (ended_concat.not.mp hlasting)
    rw [hgiven] at hnew
    rw [hends.answers] at hold
    have hsame := hends.sessions id hnew
    obtain ⟨hactive, tokenId, token, htoken, hrest⟩ := hsound.live id (hsame ▸ hid) hold
    exact ⟨fun session hsession => hactive session (hsame ▸ hsession), tokenId, token,
      hends.tokens tokenId token htoken (hrest.1 ▸ hnew), hrest⟩
  · rcases List.mem_append.mp hlogin with hold | hnew
    · exact hends.grows.isSome (hsound.stored login (hends.answers ▸ hold))
    · exact absurd (List.mem_singleton.mp hnew).symm (hother login)
  · rcases ended_concat.mp hended with hold | hnew
    · exact hends.grows.isSome (hsound.ended id (hends.answers ▸ hold))
    · exact hends.grows.isSome (hends.stored id ((hgiven id).mp hnew))

/-- The session and the token of a row of the view. -/
theorem own_of_mem {now : Nat} {row : ActiveSession} (hrow : row ∈ activeSessions server now) :
    Own server row.sessionId row.tokenId := by
  obtain ⟨hsession, -, -, token, htoken, hsame, -⟩ := mem_activeSessions_iff.mp hrow
  exact ⟨Option.isSome_of_eq_some hsession, token, htoken, hsame⟩

theorem own_of_getByUserId {now tie : Nat} {userId : String} {row : ActiveSession}
    (hrow : firstOf (getByUserId server now userId) tie = some row) :
    Own server row.sessionId row.tokenId :=
  own_of_mem (List.mem_filter.mp (mem_of_firstOf hrow)).1

theorem new_of_rotates {outcome : Outcome} (hrotates : rotates server outcome) :
    server.refreshTokens.get? outcome.tokenId = none := by
  rw [rotates, Bool.and_eq_true, Option.isNone_iff_eq_none] at hrotates
  exact hrotates.2

theorem new_of_creates {device : Device} {outcome : Outcome}
    (hcreates : creates server device outcome) :
    server.refreshTokens.get? outcome.tokenId = none ∧
      server.sessions.get? outcome.sessionId = none := by
  rw [creates, Bool.and_eq_true, Bool.and_eq_true, Option.isNone_iff_eq_none] at hcreates
  exact ⟨new_of_rotates hcreates.1.1, hcreates.1.2⟩

/-- A turn keeps the invariant and the rows, and rotates a token of its session next. -/
structure Keeps (server : Server) (result : Server × Call) : Prop where
  sound : Sound result.1
  grows : Grows server result.1
  rotating : Rotating result.1 result.2

theorem Keeps.of_same (hsound : Sound server) {call : Call} (hcall : Rotating server call) :
    Keeps server (server, call) := ⟨hsound, .refl server, hcall⟩

theorem keeps_turn (hsound : Sound server) {call : Call} (hcall : Rotating server call)
    (outcome : Outcome) : Keeps server (turn server call outcome) := by
  cases call with
  | received command =>
    cases command with
    | pass seconds => exact ⟨⟨hsound.live, hsound.stored, hsound.ended⟩,
        ⟨(Grows.refl server).sessions, (Grows.refl server).tokens⟩, trivial⟩
    | login device =>
      rw [turn]
      cases outcome.userId? <;> exact .of_same hsound trivial
    | refreshSession sessionId device => exact .of_same hsound trivial
    | logout sessionId =>
      rw [turn]
      cases hnext : inactivateSession server sessionId with
      | none => exact .of_same hsound trivial
      | some next =>
        have hends := ends_inactivateSession hnext
        refine ⟨hsound.ends hends (fun other => ?_) (fun _ h => by cases h), hends.grows.answer,
          trivial⟩
        rw [Answer.Ends, List.mem_singleton, eq_comm]
    | resetPassword =>
      rw [turn]
      cases outcome.userId? <;> exact .of_same hsound trivial
  | lookup userId device expireTime now =>
    rw [turn]
    cases hrow : firstOf (getByUserId server now userId) outcome.tie with
    | none => exact .of_same hsound trivial
    | some row => exact .of_same hsound (own_of_getByUserId hrow)
  | rotateLogin login oldId =>
    rw [turn]
    split_ifs with hrotates
    · have hnew := new_of_rotates hrotates
      have hgrows : Grows server (rotateRefreshToken server oldId login.sessionId
        outcome.tokenId login.sessionExpiresAt) := grows_rotateRefreshToken hnew
      have hrotated := hsound.rotate hcall hnew login.sessionExpiresAt
      exact ⟨hrotated.loggedIn (hgrows.isSome hcall.1), hgrows.answer, trivial⟩
    · exact .of_same hsound trivial
  | create userId device expireTime createdAt =>
    rw [turn]
    split_ifs with hcreates
    · obtain ⟨htoken, hsession⟩ := new_of_creates hcreates
      have hcreated := hsound.create hsession htoken userId device createdAt expireTime
      refine ⟨hcreated.loggedIn ?_, (grows_insertAddToken hsession htoken).answer, trivial⟩
      rw [insertAddToken, Table.get?_set, if_pos rfl]
      rfl
    · exact .of_same hsound trivial
  | validate sessionId device now =>
    rw [turn]
    cases hrow : validateSessionCredentials server now sessionId device outcome.tie with
    | none => exact .of_same hsound trivial
    | some row =>
      exact .of_same hsound (own_of_mem (of_validateSessionCredentials hrow).2.2)
  | rotate sessionId oldId expireTime =>
    rw [turn]
    split_ifs with hrotates
    · have hnew := new_of_rotates hrotates
      exact ⟨hsound.rotate hcall hnew expireTime, grows_rotateRefreshToken hnew, trivial⟩
    · exact .of_same hsound trivial
  | lookupReset userId now => exact .of_same hsound trivial
  | invalidate sessionIds =>
    rw [turn]
    cases hnext : sessionIds.foldlM inactivateSession server with
    | none => exact .of_same hsound trivial
    | some next =>
      have hends := ends_foldlM hnext
      exact ⟨hsound.ends hends (fun _ => Iff.rfl) (fun _ h => by cases h), hends.grows.answer,
        trivial⟩
  | returned | raised => exact .of_same hsound trivial

end Invariant

theorem respects : Respects system Sound Rotating fun _ _ => True where
  start _ _ _ _ := trivial
  turn pool position answer call hpool _ hcall := by
    have hkeeps := keeps_turn hpool.shared (hpool.thread hcall) answer
    exact ⟨hkeeps.sound, hkeeps.rotating⟩
  others pool position answer call hpool _ hcall elsewhere other _ hother :=
    (hpool.thread hother).mono (keeps_turn hpool.shared (hpool.thread hcall) answer).grows

/-! ## Standing logins -/

/-- Every standing login that has not run out has a session of its device that has not expired. -/
def InLife (server : Server) : Prop :=
  ∀ login, Standing server.answers login → server.now < login.sessionExpiresAt →
    Valid server login.sessionId login.device

theorem Standing.mem {answers : List Answer} {login : Login} (hstanding : Standing answers login) :
    .loggedIn login ∈ answers := by
  obtain ⟨before, after, rfl, -⟩ := hstanding.newest
  exact List.mem_append_right _ List.mem_cons_self

theorem standing_concat_iff {answers : List Answer} {given : Answer} {login : Login} :
    Standing (answers ++ [given]) login ↔
      (Standing answers login ∧ ¬ given.Renews login ∨ given = .loggedIn login ∧
        ¬ Ended answers login.sessionId) ∧ ¬ given.Ends login.sessionId := by
  constructor
  · rintro ⟨⟨before, after, hsplit, hnone⟩, hlasting⟩
    rw [ended_concat, not_or] at hlasting
    refine ⟨?_, hlasting.2⟩
    rcases List.eq_nil_or_concat after with rfl | ⟨rest, last, rfl⟩
    · obtain ⟨-, hgiven⟩ := List.append_inj' hsplit rfl
      exact .inr ⟨List.singleton_injective hgiven, hlasting.1⟩
    · rw [List.concat_eq_append] at hsplit hnone
      rw [← List.cons_append, ← List.append_assoc] at hsplit
      obtain ⟨hearlier, hgiven⟩ := List.append_inj' hsplit rfl
      obtain rfl := List.singleton_injective hgiven
      refine .inl ⟨⟨⟨before, rest, hearlier, fun other hother => ?_⟩, hlasting.1⟩, ?_⟩
      · exact hnone other (List.mem_append_left _ hother)
      · exact hnone given (List.mem_append_right _ (List.mem_singleton_self given))
  · rintro ⟨⟨⟨⟨before, after, rfl, hnone⟩, hlasting⟩, hnot⟩ | ⟨rfl, hlasting⟩, hends⟩
    · refine ⟨⟨before, after ++ [given], by simp, fun other hother => ?_⟩,
        ended_concat.not.mpr (not_or.mpr ⟨hlasting, hends⟩)⟩
      rcases List.mem_append.mp hother with hold | hnew
      · exact hnone other hold
      · exact List.mem_singleton.mp hnew ▸ hnot
    · exact ⟨⟨answers, [], rfl, fun _ hother => by cases hother⟩,
        ended_concat.not.mpr (not_or.mpr ⟨hlasting, hends⟩)⟩

theorem keepsWord_iff {server : Server} (hsound : Sound server) :
    KeepsWord server ↔ InLife server := by
  refine forall_congr' fun login => forall_congr' fun hstanding => forall_congr' fun _ => ?_
  have hstored := hsound.stored login hstanding.mem
  exact forall_validate_iff (hsound.live _ hstored hstanding.lasting) login.device

section Steps

variable {server next : Server}

theorem Valid.mono {sessionId : String} {device : Device} (hvalid : Valid server sessionId device)
    (hgrows : Grows server next) (hnow : next.now = server.now) :
    Valid next sessionId device := by
  obtain ⟨session, hsession, rfl, hexpires⟩ := hvalid
  obtain ⟨later, hlater, hdevice, hkept⟩ := hgrows.sessions _ _ hsession
  exact ⟨later, hlater, hdevice, by rw [hnow, hkept]; exact hexpires⟩

theorem valid_iff_forall {sessionId : String} {device : Device}
    (hstored : (server.sessions.get? sessionId).isSome) :
    Valid server sessionId device ↔
      ∀ session, server.sessions.get? sessionId = some session →
        session.device = device ∧ server.now < session.expiresAt := by
  obtain ⟨found, hfound⟩ := Option.isSome_iff_exists.mp hstored
  rw [Valid, hfound]
  simp only [Option.some.injEq, exists_eq_left', forall_eq']

theorem valid_insertAddToken_iff {sessionId tokenId userId : String} {device : Device}
    {createdAt expireTime : Nat} :
    Valid (insertAddToken server sessionId tokenId userId device createdAt expireTime) sessionId
      device ↔ server.now < createdAt + 7200 := by
  rw [Valid, insertAddToken, Table.get?_set, if_pos rfl]
  simp only [Option.some.injEq, exists_eq_left', true_and]

/-- What ends sessions makes no login stand. -/
theorem InLife.ends (hlife : InLife server) {sessionIds : List String}
    (hends : Ends sessionIds server next) {given : Answer}
    (hother : ∀ login, given ≠ .loggedIn login) : InLife (answer next given) := by
  intro login hstanding hnow
  obtain ⟨⟨hold, -⟩ | ⟨hnew, -⟩, -⟩ := standing_concat_iff.mp hstanding
  · exact (hlife login (hends.answers ▸ hold) (hends.now ▸ hnow)).mono hends.grows.answer
      hends.now
  · exact absurd hnew (hother login)

theorem inLife_pass_iff (hlife : InLife server) (seconds : Nat) :
    InLife { server with now := server.now + seconds } ↔
      ∀ login, Standing server.answers login → server.now + seconds < login.sessionExpiresAt →
        ∀ session, server.sessions.get? login.sessionId = some session →
          server.now + seconds < session.expiresAt := by
  refine forall_congr' fun login => forall_congr' fun hstanding => forall_congr' fun hlater => ?_
  constructor
  · rintro ⟨found, hfound, -, hexpires⟩ session hsession
    obtain rfl := Option.some.inj (hfound.symm.trans hsession)
    exact hexpires
  · intro hexpires
    have hnow : server.now < login.sessionExpiresAt :=
      Nat.lt_of_le_of_lt (Nat.le_add_right server.now seconds) hlater
    obtain ⟨session, hsession, hdevice, -⟩ := hlife login hstanding hnow
    exact ⟨session, hsession, hdevice, hexpires session hsession⟩

/-- After a login every other standing login is as it was. -/
theorem inLife_loggedIn_iff (hlife : InLife server) (hgrows : Grows server next)
    (hnow : next.now = server.now) (hanswers : next.answers = server.answers) (login : Login) :
    InLife (answer next (.loggedIn login)) ↔
      (¬ Ended server.answers login.sessionId → server.now < login.sessionExpiresAt →
        Valid next login.sessionId login.device) := by
  constructor
  · intro hnext hlasting hlater
    exact hnext login (standing_concat_iff.mpr ⟨.inr ⟨rfl, hanswers ▸ hlasting⟩, id⟩)
      (hnow ▸ hlater)
  · intro hlogin other hstanding hlater
    obtain ⟨⟨hold, -⟩ | ⟨hnew, hlasting⟩, -⟩ := standing_concat_iff.mp hstanding
    · exact (hlife other (hanswers ▸ hold) (hnow ▸ hlater)).mono hgrows.answer hnow
    · obtain rfl : login = other := by simpa using hnew
      exact hlogin (hanswers ▸ hlasting) (hnow ▸ hlater)

theorem inLife_turn_iff (hsound : Sound server) (hlife : InLife server) {call : Call}
    (hcall : Rotating server call) (outcome : Outcome) :
    InLife (turn server call outcome).1 ↔ Timely server call outcome := by
  have hsame : InLife server ↔ True := iff_true_intro hlife
  cases call with
  | received command =>
    cases command with
    | pass seconds => exact inLife_pass_iff hlife seconds
    | login device =>
      rw [turn]
      cases outcome.userId? <;> exact hsame
    | refreshSession => exact hsame
    | logout sessionId =>
      rw [turn]
      cases hnext : inactivateSession server sessionId with
      | none => exact hsame
      | some next =>
        exact iff_true_intro (hlife.ends (ends_inactivateSession hnext) fun _ h => by cases h)
    | resetPassword =>
      rw [turn]
      cases outcome.userId? <;> exact hsame
  | lookup userId device expireTime now =>
    rw [turn]
    cases firstOf (getByUserId server now userId) outcome.tie <;> exact hsame
  | rotateLogin login oldId =>
    rw [turn, Timely]
    by_cases hrotates : rotates server outcome
    · have hgrows : Grows server (rotateRefreshToken server oldId login.sessionId
        outcome.tokenId login.sessionExpiresAt) :=
        grows_rotateRefreshToken (new_of_rotates hrotates)
      rw [if_pos hrotates, inLife_loggedIn_iff hlife hgrows rfl rfl, imp_iff_right hrotates]
      exact forall_congr' fun _ => forall_congr' fun _ => valid_iff_forall hcall.1
    · rw [if_neg hrotates]
      exact iff_of_true hlife fun h => absurd h hrotates
  | create userId device expireTime createdAt =>
    rw [turn, Timely]
    by_cases hcreates : creates server device outcome
    · obtain ⟨htoken, hsession⟩ := new_of_creates hcreates
      have hlasting : ¬ Ended server.answers outcome.sessionId := by
        intro hended
        have hstored := hsound.ended _ hended
        rw [hsession] at hstored
        cases hstored
      have hgrows : Grows server (insertAddToken server outcome.sessionId outcome.tokenId userId
        device createdAt expireTime) := grows_insertAddToken hsession htoken
      rw [if_pos hcreates, inLife_loggedIn_iff hlife hgrows rfl rfl, imp_iff_right hcreates,
        imp_iff_right hlasting]
      exact forall_congr' fun _ => valid_insertAddToken_iff
    · rw [if_neg hcreates]
      exact iff_of_true hlife fun h => absurd h hcreates
  | validate sessionId device now =>
    rw [turn]
    cases validateSessionCredentials server now sessionId device outcome.tie <;> exact hsame
  | rotate sessionId oldId expireTime =>
    rw [turn]
    split_ifs with hrotates
    · exact iff_true_intro fun login hstanding hnow =>
        (hlife login hstanding hnow).mono (grows_rotateRefreshToken (new_of_rotates hrotates)) rfl
    · exact hsame
  | lookupReset => exact hsame
  | invalidate sessionIds =>
    rw [turn]
    cases hnext : sessionIds.foldlM inactivateSession server with
    | none => exact hsame
    | some next => exact iff_true_intro (hlife.ends (ends_foldlM hnext) fun _ h => by cases h)
  | returned | raised => exact hsame

theorem inLife_step_iff {pool : Pool Server Call} (hpool : Holds Sound Rotating pool)
    (hlife : InLife pool.shared) (move : Move Command Outcome) :
    InLife (system.step pool move).shared ↔ TimelyMove pool move := by
  cases move with
  | start command => exact iff_of_true hlife trivial
  | turn position outcome =>
    cases hcall : pool.threads[position]? with
    | none =>
      rw [System.step_turn_of_none hcall]
      exact iff_of_true hlife fun call h => by rw [hcall] at h; cases h
    | some call =>
      rw [System.step_turn hcall]
      refine (inLife_turn_iff hpool.shared hlife (hpool.thread hcall) outcome).trans ?_
      rw [TimelyMove, hcall]
      simp only [Option.some.injEq, forall_eq']

theorem holds_opened : Holds Sound Rotating opened := by
  refine ⟨⟨fun _ hid => ?_, fun _ hlogin => ?_, fun _ hended => ?_⟩, fun _ hcall => ?_⟩
  · cases hid
  · cases hlogin
  · obtain ⟨given, hgiven, -⟩ := hended
    cases hgiven
  · cases hcall

end Steps

/-- In every interleaving of logins, refreshes, logouts and resets, and however time passes, the
sessions of the logins that stand are valid for their devices up to the times in the answers
exactly when every login takes a session of its own device, and no time passes over the expiry
of a session while a login with it stands. -/
theorem sessions_keep_word_iff (moves : List (Move Command Outcome)) :
    (∀ next ∈ Run.visited system.step opened moves, KeepsWord next.shared) ↔
      Run.StepsMeet system.step TimelyMove opened moves := by
  have hproperty : ∀ pool : Pool Server Call, Holds Sound Rotating pool ∧ InLife pool.shared →
      KeepsWord pool.shared := fun pool hpool => (keepsWord_iff hpool.1.shared).mpr hpool.2
  have hholds : ∀ (pool : Pool Server Call) (move : Move Command Outcome),
      Holds Sound Rotating pool → Holds Sound Rotating (system.step pool move) :=
    fun pool move hpool => respects.step hpool trivial
  have hkeep : ∀ (pool : Pool Server Call) (move : Move Command Outcome),
      Holds Sound Rotating pool ∧ InLife pool.shared → TimelyMove pool move →
      Holds Sound Rotating (system.step pool move) ∧ InLife (system.step pool move).shared :=
    fun pool move hpool hmove =>
      ⟨hholds pool move hpool.1, (inLife_step_iff hpool.1 hpool.2 move).mpr hmove⟩
  have hexact : ∀ (pool : Pool Server Call) (move : Move Command Outcome),
      Holds Sound Rotating pool ∧ InLife pool.shared → KeepsWord (system.step pool move).shared →
      TimelyMove pool move := by
    intro pool move hpool hword
    rw [keepsWord_iff (hholds pool move hpool.1).shared] at hword
    exact (inLife_step_iff hpool.1 hpool.2 move).mp hword
  refine Run.forall_visited_iff_of_inv hproperty hkeep hexact ⟨holds_opened, ?_⟩
  exact fun login hstanding => by cases hstanding.mem

/-! ## Two runs -/

def laptop : Device := ⟨"10.0.0.1", "Firefox"⟩

def phone : Device := ⟨"10.0.0.2", "Safari"⟩

/-- The user of the credentials, and the ids that are new in a turn. -/
def outcome (sessionId tokenId : String) : Outcome := ⟨false, some "ada", sessionId, tokenId, 0⟩

/-- A login from the laptop, and two hours. -/
def loginThenWait : List (Move Command Outcome) :=
  [.start (.login laptop), .turn 0 (outcome "s" "t"), .turn 0 (outcome "s" "t"),
    .turn 0 (outcome "s" "t"), .start (.pass 7200), .turn 1 (outcome "s" "t")]

/-- A login from the laptop, and one from the phone. -/
def loginTwice : List (Move Command Outcome) :=
  [.start (.login laptop), .turn 0 (outcome "s" "t"), .turn 0 (outcome "s" "t"),
    .turn 0 (outcome "s" "t"), .start (.login phone), .turn 1 (outcome "s" "u"),
    .turn 1 (outcome "s" "u"), .turn 1 (outcome "s" "u")]

theorem not_keepsWord_of_login {moves : List (Move Command Outcome)} {answers : List Answer}
    {login : Login}
    (hanswers : (moves.foldl system.step opened).shared.answers = answers ++ [.loggedIn login])
    (hlasting : ¬ Ended answers login.sessionId)
    (hnow : (moves.foldl system.step opened).shared.now < login.sessionExpiresAt)
    (hinvalid : validateSessionCredentials (moves.foldl system.step opened).shared
      (moves.foldl system.step opened).shared.now login.sessionId login.device 0 = none) :
    ¬ ∀ next ∈ Run.visited system.step opened moves, KeepsWord next.shared := by
  intro hall
  have hword := hall _ (Run.foldl_mem_visited system.step opened moves)
  have hstanding : Standing (moves.foldl system.step opened).shared.answers login := by
    rw [hanswers]
    exact standing_concat_iff.mpr ⟨.inr ⟨rfl, hlasting⟩, id⟩
  have hvalid := hword login hstanding hnow 0
  rw [hinvalid] at hvalid
  cases hvalid

/-- After two hours the session of a login is not valid, and that of a login from a second
device never is. -/
theorem sessions_break_word :
    (¬ ∀ next ∈ Run.visited system.step opened loginThenWait, KeepsWord next.shared) ∧
      ¬ ∀ next ∈ Run.visited system.step opened loginTwice, KeepsWord next.shared := by
  constructor
  · exact @not_keepsWord_of_login loginThenWait [] ⟨"ada", laptop, "s", 604800⟩ rfl
      (by simp [Ended]) (by decide) rfl
  · exact @not_keepsWord_of_login loginTwice [.loggedIn ⟨"ada", laptop, "s", 604800⟩]
      ⟨"ada", phone, "s", 604800⟩ rfl (by simp [Ended, Answer.Ends]) (by decide) rfl

end AutoMana.Auth.Sessions
