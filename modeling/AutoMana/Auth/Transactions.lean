import AutoMana.Auth.Sessions
import AutoMana.Auth.Users
import AutoMana.Relational.Versions

/-!
# Statements of the services of sessions and passwords

Every service is a transaction under READ COMMITTED. A statement reads what is committed when it
starts, and what its own transaction has written. To write a row it waits for the lock of the
row and takes the version that is committed then. A commit installs all that was written.
-/

namespace AutoMana.Auth.Transactions

open Relational Relational.Interleaving
open Sessions (Session RefreshToken Device ActiveSession)

/-! ## The tables -/

/-- A row of `password_reset_tokens`. -/
structure ResetToken where
  userId : String
  tokenHash : String
  expiresAt : Nat
  usedAt : Option Nat

structure Database where
  users : Table String User
  sessions : Table String Session
  refreshTokens : Table String RefreshToken
  resetTokens : Table String ResetToken

inductive RowKey where
  | user (id : String)
  | session (id : String)
  | refreshToken (id : String)
  | resetToken (id : String)
  deriving DecidableEq

/-- The versions a transaction has written, of each table the newest first. -/
structure Versions where
  users : List (String × Option User)
  sessions : List (String × Option Session)
  refreshTokens : List (String × Option RefreshToken)
  resetTokens : List (String × Option ResetToken)

namespace Versions

def none : Versions := ⟨[], [], [], []⟩

/-- The rows of which it has the locks. -/
def keys (versions : Versions) : List RowKey :=
  versions.users.map (.user ·.1) ++ versions.sessions.map (.session ·.1) ++
    versions.refreshTokens.map (.refreshToken ·.1) ++ versions.resetTokens.map (.resetToken ·.1)

end Versions

def Database.install (database : Database) (versions : Versions) : Database where
  users := database.users.install versions.users
  sessions := database.sessions.install versions.sessions
  refreshTokens := database.refreshTokens.install versions.refreshTokens
  resetTokens := database.resetTokens.install versions.resetTokens

/-- What a committed transaction did. -/
inductive Event where
  /-- A refresh token was replaced by its successor. -/
  | rotated (oldId tokenId : String)
  /-- A session was opened with the password of this hash. -/
  | opened (sessionId userId hashedPassword : String)
  /-- A reset token changed the password of its user. -/
  | changed (resetId userId : String) (expiresAt : Nat) (hashedPassword : String)

structure Server where
  now : Nat
  committed : Database
  locks : List RowKey
  /-- Each event with the time of its commit, the first one first. -/
  history : List (Nat × Event)

/-! ## Transactions -/

inductive Command where
  /-- Time passes. -/
  | pass (seconds : Nat)
  | login (username password : String) (device : Device)
  | refreshSession (sessionId : String) (device : Device)
  | logout (sessionId : String)
  | requestReset (email : String)
  | resetPassword (token newPassword : String)

/-- The statement that is next. -/
inductive Point where
  | received (command : Command)
  | byUsername (username password : String) (device : Device)
  | byEmail (username password : String) (device : Device) (expireTime : Nat)
  | lookup (user : UserInDB) (device : Device) (expireTime : Nat)
  | useToken (oldId sessionId : String) (expireTime : Nat)
  | insertSuccessor (oldId sessionId : String) (expireTime : Nat)
  | insertSession (user : UserInDB) (device : Device) (expireTime : Nat)
  | insertToken (sessionId : String) (expireTime : Nat)
  | getSession (sessionId : String)
  | validate (sessionId : String) (device : Device)
  | getById (row : ActiveSession)
  | sessionExists (sessionIds : List String)
  | deactivate (sessionId : String) (rest : List String)
  | startRevoke (sessionId : String) (rest : List String)
  | revoke (tokenIds : List String) (sessionId : String) (rest : List String)
  | byResetEmail (email : String)
  | startDelete (userId : String)
  | deleteResets (resetIds : List String) (userId : String)
  | insertReset (userId : String)
  | getByTokenHash (token newPassword : String)
  | updatePassword (resetId : String) (reset : ResetToken) (hashedPassword : String)
  | markUsed (resetId userId : String)
  | lookupReset (userId : String)
  | commit
  | ended

/-- A call and its transaction, which began at a time. -/
structure Call where
  began : Nat
  written : Versions
  events : List Event
  point : Point

/-- What a statement meets outside: whether it or the transaction fails, a new UUID, an order of
rows, a salt, a random token. -/
structure Outcome where
  raises : Bool
  id : String
  tie : Nat
  salt : String
  rawToken : String

/-- What a statement of the call reads. -/
def view (server : Server) (call : Call) : Database := server.committed.install call.written

/-- The tables of sessions, for the queries of a transaction. -/
def sessionTables (server : Server) (call : Call) : Sessions.Server :=
  ⟨server.now, (view server call).sessions, (view server call).refreshTokens, []⟩

/-- Another transaction has the lock of the row. -/
def blocked (server : Server) (call : Call) (key : RowKey) : Bool :=
  decide (key ∈ server.locks) && decide (key ∉ call.written.keys)

def Call.goto (call : Call) (point : Point) : Call := { call with point }

def Call.record (call : Call) (events : List Event) : Call :=
  { call with events := call.events ++ events }

section Write

variable (server : Server) (call : Call) (id : String) (next : Point)

def writeUser (version : Option User) : Server × Call :=
  ({ server with locks := .user id :: server.locks },
    { call with
      written := { call.written with users := (id, version) :: call.written.users }
      point := next })

def writeSession (version : Option Session) : Server × Call :=
  ({ server with locks := .session id :: server.locks },
    { call with
      written := { call.written with sessions := (id, version) :: call.written.sessions }
      point := next })

def writeRefreshToken (version : Option RefreshToken) : Server × Call :=
  ({ server with locks := .refreshToken id :: server.locks },
    { call with
      written := { call.written with refreshTokens := (id, version) :: call.written.refreshTokens }
      point := next })

def writeResetToken (version : Option ResetToken) : Server × Call :=
  ({ server with locks := .resetToken id :: server.locks },
    { call with
      written := { call.written with resetTokens := (id, version) :: call.written.resetTokens }
      point := next })

end Write

/-- The locks of a transaction that ends are free. -/
def unlock (server : Server) (call : Call) : List RowKey :=
  server.locks.filter (· ∉ call.written.keys)

def rollback (server : Server) (call : Call) : Server × Call :=
  ({ server with locks := unlock server call }, ⟨call.began, .none, [], .ended⟩)

def commit (server : Server) (call : Call) : Server × Call :=
  ({ server with
      committed := view server call
      locks := unlock server call
      history := server.history ++ call.events.map (server.now, ·) },
    ⟨call.began, .none, [], .ended⟩)

/-! ## Statements -/

section Statements

variable (lib : Libraries) (server : Server) (call : Call) (outcome : Outcome)

/-- `login` from the user on that was found. -/
def loginUser (row : String × User) (password : String) (device : Device) (expireTime : Nat) :
    Server × Call :=
  match checkUser lib password row with
  | .error _ => rollback server call
  | .ok none => (server, call.goto .commit)
  | .ok (some user) => (server, call.goto (.lookup user device expireTime))

/-- The statement of `rotate_refresh_token` that updates the old token. -/
def useToken (oldId sessionId : String) (expireTime : Nat) : Server × Call :=
  let next := Point.insertSuccessor oldId sessionId expireTime
  match (view server call).refreshTokens.get? oldId with
  | none => (server, call.goto next)
  | some token =>
    if blocked server call (.refreshToken oldId) then (server, call)
    else writeRefreshToken server call oldId next (some { token with used := true })

/-- An insert of a refresh token; it raises when the id is taken. -/
def insertRefreshToken (sessionId : String) (expireTime : Nat) (events : List Event)
    (next : Point) : Server × Call :=
  if blocked server call (.refreshToken outcome.id) then (server, call)
  else if ((view server call).refreshTokens.get? outcome.id).isSome then rollback server call
  else
    writeRefreshToken server (call.record events) outcome.id next
      (some ⟨sessionId, expireTime, false, false⟩)

/-- The insert of a session as `CreateSession` has it: without an expiry of its own it lasts for
two hours. It raises when the id is taken or the address does not fit. -/
def insertSession (user : UserInDB) (device : Device) (expireTime : Nat) : Server × Call :=
  if blocked server call (.session outcome.id) then (server, call)
  else if ((view server call).sessions.get? outcome.id).isSome ∨ 45 < device.ipAddress.length then
    rollback server call
  else
    writeSession server (call.record [.opened outcome.id user.uniqueId user.hashedPassword])
      outcome.id (.insertToken outcome.id expireTime)
      (some ⟨user.uniqueId, server.now, server.now + 7200, device, true⟩)

/-- The statement of `inactivate_session` that updates the session. -/
def deactivate (sessionId : String) (rest : List String) : Server × Call :=
  match (view server call).sessions.get? sessionId with
  | none => (server, call.goto (.startRevoke sessionId rest))
  | some session =>
    if blocked server call (.session sessionId) then (server, call)
    else
      writeSession server call sessionId (.startRevoke sessionId rest)
        (some { session with active := false })

/-- The tokens of a session. -/
def tokensOf (database : Database) (sessionId : String) : List String :=
  (database.refreshTokens.rows.filter fun row => decide (row.2.sessionId = sessionId)).map Prod.fst

/-- The statement of `inactivate_session` that updates the tokens, row by row. -/
def revoke (tokenId : String) (tokenIds : List String) (sessionId : String)
    (rest : List String) : Server × Call :=
  match (view server call).refreshTokens.get? tokenId with
  | none => (server, call.goto (.revoke tokenIds sessionId rest))
  | some token =>
    if blocked server call (.refreshToken tokenId) then (server, call)
    else
      writeRefreshToken server call tokenId (.revoke tokenIds sessionId rest)
        (some { token with revoked := true })

/-- The tokens `invalidate_for_user` deletes: those of the user that are valid. -/
def pending (userId : String) (began : Nat) (reset : ResetToken) : Bool :=
  decide (reset.userId = userId) && reset.usedAt.isNone && decide (began < reset.expiresAt)

/-- `invalidate_for_user`, row by row. -/
def deleteReset (resetId : String) (resetIds : List String) (userId : String) : Server × Call :=
  let next := Point.deleteResets resetIds userId
  if blocked server call (.resetToken resetId) then (server, call)
  else if ((view server call).resetTokens.get? resetId).any (pending userId call.began) then
    writeResetToken server call resetId next none
  else (server, call.goto next)

/-- `PasswordResetRepository.create`; it raises when the id or the hash is taken. -/
def insertReset (userId : String) : Server × Call :=
  let tokenHash := lib.sha256 outcome.rawToken
  if blocked server call (.resetToken outcome.id) then (server, call)
  else if ((view server call).resetTokens.get? outcome.id).isSome ∨
      (view server call).resetTokens.rows.any (fun row => decide (row.2.tokenHash = tokenHash)) then
    rollback server call
  else
    writeResetToken server call outcome.id .commit
      (some ⟨userId, tokenHash, server.now + 1800, none⟩)

/-- `reset_password` to its first update. -/
def getByTokenHash (token newPassword : String) : Server × Call :=
  let tokenHash := lib.sha256 token
  match (view server call).resetTokens.rows.find? (·.2.tokenHash = tokenHash) with
  | none => rollback server call
  | some (resetId, reset) =>
    if reset.usedAt.isSome ∨ reset.expiresAt < server.now then rollback server call
    else
      match lib.hashpw newPassword outcome.salt with
      | none => rollback server call
      | some hashedPassword => (server, call.goto (.updatePassword resetId reset hashedPassword))

/-- `update_password` -/
def updatePassword (resetId : String) (reset : ResetToken) (hashedPassword : String) :
    Server × Call :=
  match (view server call).users.get? reset.userId with
  | none => (server, call.goto (.markUsed resetId reset.userId))
  | some user =>
    if blocked server call (.user reset.userId) then (server, call)
    else
      writeUser server
        (call.record [.changed resetId reset.userId reset.expiresAt hashedPassword]) reset.userId
        (.markUsed resetId reset.userId) (some { user with hashedPassword := some hashedPassword })

/-- `mark_used` -/
def markUsed (resetId userId : String) : Server × Call :=
  match (view server call).resetTokens.get? resetId with
  | none => (server, call.goto (.lookupReset userId))
  | some reset =>
    if blocked server call (.resetToken resetId) then (server, call)
    else
      writeResetToken server call resetId (.lookupReset userId)
        (some { reset with usedAt := some call.began })

/-- The statement that is next, and the code up to the one after it. -/
def statement : Server × Call :=
  match call.point with
  | .received (.pass seconds) => ({ server with now := server.now + seconds }, call.goto .ended)
  | .received (.login username password device) =>
    (server, { call with began := server.now, point := .byUsername username password device })
  | .received (.refreshSession sessionId device) =>
    (server, { call with began := server.now, point := .validate sessionId device })
  | .received (.logout sessionId) =>
    (server, { call with began := server.now, point := .sessionExists [sessionId] })
  | .received (.requestReset email) =>
    (server, { call with began := server.now, point := .byResetEmail email })
  | .received (.resetPassword token newPassword) =>
    (server, { call with began := server.now, point := .getByTokenHash token newPassword })
  | .byUsername username password device =>
    let expireTime := server.now + 604800
    match get (view server call).users username with
    | some row => loginUser lib server call row password device expireTime
    | none => (server, call.goto (.byEmail username password device expireTime))
  | .byEmail username password device expireTime =>
    match getByEmail (view server call).users username with
    | some row => loginUser lib server call row password device expireTime
    | none => (server, call.goto .commit)
  | .lookup user device expireTime =>
    match Sessions.firstOf
      (Sessions.getByUserId (sessionTables server call) call.began user.uniqueId) outcome.tie with
    | some row => (server, call.goto (.useToken row.tokenId row.sessionId expireTime))
    | none => (server, call.goto (.insertSession user device expireTime))
  | .useToken oldId sessionId expireTime => useToken server call oldId sessionId expireTime
  | .insertSuccessor oldId sessionId expireTime =>
    insertRefreshToken server call outcome sessionId expireTime [.rotated oldId outcome.id] .commit
  | .insertSession user device expireTime =>
    insertSession server call outcome user device expireTime
  | .insertToken sessionId expireTime =>
    insertRefreshToken server call outcome sessionId expireTime [] (.getSession sessionId)
  | .getSession sessionId =>
    if (Sessions.activeSessions (sessionTables server call) call.began).any
        (fun row => decide (row.sessionId = sessionId)) then (server, call.goto .commit)
    else rollback server call
  | .validate sessionId device =>
    match Sessions.validateSessionCredentials (sessionTables server call) call.began sessionId
      device outcome.tie with
    | some row => (server, call.goto (.getById row))
    | none => rollback server call
  | .getById row =>
    match getById (view server call).users row.session.userId with
    | some _ => (server, call.goto (.useToken row.tokenId row.sessionId (server.now + 604800)))
    | none => rollback server call
  | .sessionExists [] => (server, call.goto .commit)
  | .sessionExists (sessionId :: rest) =>
    if ((view server call).sessions.get? sessionId).isSome then
      (server, call.goto (.deactivate sessionId rest))
    else rollback server call
  | .deactivate sessionId rest => deactivate server call sessionId rest
  | .startRevoke sessionId rest =>
    (server, call.goto (.revoke (tokensOf (view server call) sessionId) sessionId rest))
  | .revoke [] _ rest => (server, call.goto (.sessionExists rest))
  | .revoke (tokenId :: tokenIds) sessionId rest =>
    revoke server call tokenId tokenIds sessionId rest
  | .byResetEmail email =>
    match getByEmail (view server call).users email with
    | some row => (server, call.goto (.startDelete row.1))
    | none => (server, call.goto .commit)
  | .startDelete userId =>
    let resetIds := ((view server call).resetTokens.rows.filter fun row =>
      pending userId call.began row.2).map Prod.fst
    (server, call.goto (.deleteResets resetIds userId))
  | .deleteResets [] userId => (server, call.goto (.insertReset userId))
  | .deleteResets (resetId :: resetIds) userId => deleteReset server call resetId resetIds userId
  | .insertReset userId => insertReset lib server call outcome userId
  | .getByTokenHash token newPassword => getByTokenHash lib server call outcome token newPassword
  | .updatePassword resetId reset hashedPassword =>
    updatePassword server call resetId reset hashedPassword
  | .markUsed resetId userId => markUsed server call resetId userId
  | .lookupReset userId =>
    (server, call.goto (.sessionExists
      ((Sessions.getByUserId (sessionTables server call) call.began userId).map
        ActiveSession.sessionId)))
  | .commit => commit server call
  | .ended => (server, call)

/-- A statement, or the failure of the transaction: an error of the database or of the code, or a
deadlock. -/
def turn : Server × Call :=
  if outcome.raises then rollback server call else statement lib server call outcome

end Statements

def system (lib : Libraries) : System Server Call Command Outcome where
  start _ command := ⟨0, .none, [], .received command⟩
  turn := turn lib

/-- There are users, no sessions and no reset tokens, and no call has started. -/
def opened (users : Users) : Pool Server Call :=
  ⟨⟨0, ⟨users.table, .empty, .empty, .empty⟩, [], []⟩, []⟩

end AutoMana.Auth.Transactions
