import AutoMana.Auth.Transactions

/-!
# What the transactions write

Each transaction rotates a token, or opens a session, or ends sessions and may change a password.
It writes versions of rows that are committed, which it has locked, or new rows. So what it
commits follows from where it is, whatever the others commit meanwhile.
-/

namespace AutoMana.Auth.Transactions

open Relational Relational.Interleaving
open Sessions (Session RefreshToken Device ActiveSession)

/-! ## Locks -/

/-- What a turn of a call does with the locks. -/
def Locking (server : Server) (call : Call) (next : Server × Call) : Prop :=
  (∃ taken, (∀ key ∈ taken, key ∈ call.written.keys ∨ key ∉ server.locks) ∧
      next.1.locks = taken ++ server.locks ∧
      ∀ key, key ∈ next.2.written.keys ↔ key ∈ taken ∨ key ∈ call.written.keys) ∨
    next.1.locks = unlock server call ∧ next.2.written.keys = []

section Locks

variable {server : Server} {call : Call} {id : String} {point : Point}

theorem locking_same {next : Server × Call} (hlocks : next.1.locks = server.locks)
    (hwritten : next.2.written = call.written) : Locking server call next :=
  .inl ⟨[], by simp, hlocks, by simp [hwritten]⟩

theorem locking_rollback : Locking server call (rollback server call) := .inr ⟨rfl, rfl⟩

theorem free_of_not_blocked {key : RowKey} (hfree : ¬ blocked server call key = true) :
    key ∈ call.written.keys ∨ key ∉ server.locks := by
  simp only [blocked, Bool.and_eq_true, decide_eq_true_eq, not_and, not_not] at hfree
  exact or_iff_not_imp_right.mpr fun hlocked => hfree (not_not.mp hlocked)

variable {writer : Call}

theorem locking_writeUser (hwritten : writer.written = call.written)
    (hfree : ¬ blocked server call (.user id) = true) (version : Option User) :
    Locking server call (writeUser server writer id point version) := by
  refine .inl ⟨[.user id], by simpa using free_of_not_blocked hfree, rfl, fun key => ?_⟩
  simp [writeUser, hwritten, Versions.keys]

theorem locking_writeSession (hwritten : writer.written = call.written)
    (hfree : ¬ blocked server call (.session id) = true) (version : Option Session) :
    Locking server call (writeSession server writer id point version) := by
  refine .inl ⟨[.session id], by simpa using free_of_not_blocked hfree, rfl, fun key => ?_⟩
  simp [writeSession, hwritten, Versions.keys, or_left_comm]

theorem locking_writeRefreshToken (hwritten : writer.written = call.written)
    (hfree : ¬ blocked server call (.refreshToken id) = true) (version : Option RefreshToken) :
    Locking server call (writeRefreshToken server writer id point version) := by
  refine .inl ⟨[.refreshToken id], by simpa using free_of_not_blocked hfree, rfl, fun key => ?_⟩
  simp [writeRefreshToken, hwritten, Versions.keys, or_left_comm]

theorem locking_writeResetToken (hwritten : writer.written = call.written)
    (hfree : ¬ blocked server call (.resetToken id) = true) (version : Option ResetToken) :
    Locking server call (writeResetToken server writer id point version) := by
  refine .inl ⟨[.resetToken id], by simpa using free_of_not_blocked hfree, rfl, fun key => ?_⟩
  simp [writeResetToken, hwritten, Versions.keys, or_left_comm]

end Locks

theorem locking_statement (lib : Libraries) (server : Server) (call : Call) (outcome : Outcome) :
    Locking server call (statement lib server call outcome) := by
  have hrollback := @locking_rollback server call
  obtain ⟨began, written, events, point⟩ := call
  cases point with
  | useToken =>
    simp only [statement, useToken]
    split
    · exact locking_same rfl rfl
    · split_ifs with hblocked
      · exact locking_same rfl rfl
      · exact locking_writeRefreshToken (by rfl) hblocked _
  | insertSuccessor | insertToken =>
    simp only [statement, insertRefreshToken]
    split_ifs with hblocked
    · exact locking_same rfl rfl
    · exact hrollback
    · exact locking_writeRefreshToken (by rfl) hblocked _
  | insertSession =>
    simp only [statement, insertSession]
    split_ifs with hblocked
    · exact locking_same rfl rfl
    · exact hrollback
    · exact locking_writeSession (by rfl) hblocked _
  | deactivate =>
    simp only [statement, deactivate]
    split
    · exact locking_same rfl rfl
    · split_ifs with hblocked
      · exact locking_same rfl rfl
      · exact locking_writeSession (by rfl) hblocked _
  | revoke tokenIds =>
    cases tokenIds with
    | nil => exact locking_same rfl rfl
    | cons =>
      simp only [statement, revoke]
      split
      · exact locking_same rfl rfl
      · split_ifs with hblocked
        · exact locking_same rfl rfl
        · exact locking_writeRefreshToken (by rfl) hblocked _
  | deleteResets resetIds =>
    cases resetIds with
    | nil => exact locking_same rfl rfl
    | cons =>
      simp only [statement, deleteReset]
      split_ifs with hblocked
      · exact locking_same rfl rfl
      · exact locking_writeResetToken (by rfl) hblocked _
      · exact locking_same rfl rfl
  | insertReset =>
    simp only [statement, insertReset]
    split_ifs with hblocked
    · exact locking_same rfl rfl
    · exact hrollback
    · exact locking_writeResetToken (by rfl) hblocked _
  | updatePassword =>
    simp only [statement, updatePassword]
    split
    · exact locking_same rfl rfl
    · split_ifs with hblocked
      · exact locking_same rfl rfl
      · exact locking_writeUser (by rfl) hblocked _
  | markUsed =>
    simp only [statement, markUsed]
    split
    · exact locking_same rfl rfl
    · split_ifs with hblocked
      · exact locking_same rfl rfl
      · exact locking_writeResetToken (by rfl) hblocked _
  | commit => exact .inr ⟨rfl, rfl⟩
  | ended => exact locking_same rfl rfl
  | startRevoke | startDelete | lookupReset => exact locking_same rfl rfl
  | sessionExists sessionIds =>
    cases sessionIds with
    | nil => exact locking_same rfl rfl
    | cons =>
      simp only [statement]
      split_ifs
      · exact locking_same rfl rfl
      · exact hrollback
  | received command => cases command <;> exact locking_same rfl rfl
  | byUsername | byEmail =>
    simp only [statement, loginUser]
    split
    · split
      · exact hrollback
      · exact locking_same rfl rfl
      · exact locking_same rfl rfl
    · exact locking_same rfl rfl
  | lookup | byResetEmail =>
    simp only [statement]
    split <;> exact locking_same rfl rfl
  | getSession =>
    simp only [statement]
    split_ifs
    · exact locking_same rfl rfl
    · exact hrollback
  | validate | getById =>
    simp only [statement]
    split
    · exact locking_same rfl rfl
    · exact hrollback
  | getByTokenHash =>
    simp only [statement, getByTokenHash]
    split
    · exact hrollback
    · split_ifs
      · exact hrollback
      · split
        · exact hrollback
        · exact locking_same rfl rfl

/-- What is locked is held by the transaction that has written the row. -/
theorem rowLocks (lib : Libraries) :
    RowLocks (system lib) Server.locks fun call => call.written.keys where
  start _ _ := rfl
  turn server call outcome := by
    change Locking server call (turn lib server call outcome)
    rw [turn]
    split_ifs
    · exact locking_rollback
    · exact locking_statement lib server call outcome

/-! ## What a call has written -/

/-- The row of a key is the same. -/
def SameRow (before after : Database) : RowKey → Prop
  | .user id => after.users.get? id = before.users.get? id
  | .session id => after.sessions.get? id = before.sessions.get? id
  | .refreshToken id => after.refreshTokens.get? id = before.refreshTokens.get? id
  | .resetToken id => after.resetTokens.get? id = before.resetTokens.get? id

/-- No session goes, and a token stays with its session. -/
structure Grows (before after : Database) : Prop where
  sessions : ∀ id, (before.sessions.get? id).isSome → (after.sessions.get? id).isSome
  tokens : ∀ id token, before.refreshTokens.get? id = some token →
    ∃ later, after.refreshTokens.get? id = some later ∧ later.sessionId = token.sessionId

/-- A token of the session is stored. -/
def TokenOf (database : Database) (sessionId id : String) : Prop :=
  ∃ token, database.refreshTokens.get? id = some token ∧ token.sessionId = sessionId

/-- Nothing but reset tokens is written. -/
structure Quiet (written : Versions) (events : List Event) : Prop where
  users : written.users = []
  sessions : written.sessions = []
  refreshTokens : written.refreshTokens = []
  events : events = []

/-- The old token is written. -/
structure Rotating (database : Database) (written : Versions) (events : List Event)
    (oldId sessionId : String) : Prop where
  users : written.users = []
  sessions : written.sessions = []
  stored : (database.sessions.get? sessionId).isSome
  refreshTokens : ∃ token, database.refreshTokens.get? oldId = some token ∧
    token.sessionId = sessionId ∧
    written.refreshTokens = [(oldId, some { token with used := true })]
  events : events = []

/-- A token of the session is replaced by a new one. -/
structure Rotated (database : Database) (written : Versions) (events : List Event)
    (oldId tokenId sessionId : String) : Prop where
  users : written.users = []
  sessions : written.sessions = []
  stored : (database.sessions.get? sessionId).isSome
  new : database.refreshTokens.get? tokenId = none
  refreshTokens : ∃ token expireTime, database.refreshTokens.get? oldId = some token ∧
    token.sessionId = sessionId ∧ written.refreshTokens =
      [(tokenId, some ⟨sessionId, expireTime, false, false⟩),
        (oldId, some { token with used := true })]
  events : events = [.rotated oldId tokenId]

/-- A new session is written. -/
structure Opening (database : Database) (written : Versions) (events : List Event)
    (sessionId : String) (session : Session) (hashedPassword : String) : Prop where
  users : written.users = []
  sessions : written.sessions = [(sessionId, some session)]
  active : session.active = true
  new : database.sessions.get? sessionId = none
  events : events = [.opened sessionId session.userId hashedPassword]

/-- A new session is written with its token. -/
structure Opened (database : Database) (written : Versions) (events : List Event)
    (sessionId : String) (session : Session) (hashedPassword : String) : Prop extends
    Opening database written events sessionId session hashedPassword where
  refreshTokens : ∃ tokenId expireTime, database.refreshTokens.get? tokenId = none ∧
    written.refreshTokens = [(tokenId, some ⟨sessionId, expireTime, false, false⟩)]

/-- The password of a user is changed by a reset token. -/
def ChangesPassword (database : Database) (written : Versions) (events : List Event) : Prop :=
  ∃ resetId userId expiresAt hashedPassword user, database.users.get? userId = some user ∧
    written.users = [(userId, some { user with hashedPassword := some hashedPassword })] ∧
    events = [.changed resetId userId expiresAt hashedPassword]

/-- Sessions and tokens of them are ended, perhaps after a change of the password. -/
structure Ending (database : Database) (written : Versions) (events : List Event) : Prop where
  sessions : ∀ version ∈ written.sessions,
    ∃ session, database.sessions.get? version.1 = some session ∧
      version.2 = some { session with active := false }
  refreshTokens : ∀ version ∈ written.refreshTokens,
    ∃ token, database.refreshTokens.get? version.1 = some token ∧
      version.2 = some { token with revoked := true } ∧
      token.sessionId ∈ written.sessions.map Prod.fst
  password : written.users = [] ∧ events = [] ∨ ChangesPassword database written events

/-- What a call has written, by the statement that is next. -/
def Written (database : Database) (call : Call) : Prop :=
  match call.point with
  | .getById row =>
    Quiet call.written call.events ∧ (database.sessions.get? row.sessionId).isSome ∧
      TokenOf database row.sessionId row.tokenId
  | .useToken oldId sessionId _ =>
    Quiet call.written call.events ∧ (database.sessions.get? sessionId).isSome ∧
      TokenOf database sessionId oldId
  | .insertSuccessor oldId sessionId _ => Rotating database call.written call.events oldId sessionId
  | .insertToken sessionId _ =>
    call.written.refreshTokens = [] ∧ ∃ session hashedPassword,
      Opening database call.written call.events sessionId session hashedPassword
  | .getSession sessionId =>
    ∃ session hashedPassword,
      Opened database call.written call.events sessionId session hashedPassword
  | .markUsed .. | .lookupReset .. | .sessionExists .. => Ending database call.written call.events
  | .deactivate sessionId _ =>
    Ending database call.written call.events ∧ (database.sessions.get? sessionId).isSome
  | .startRevoke sessionId _ =>
    Ending database call.written call.events ∧ sessionId ∈ call.written.sessions.map Prod.fst
  | .revoke tokenIds sessionId _ =>
    Ending database call.written call.events ∧ sessionId ∈ call.written.sessions.map Prod.fst ∧
      ∀ tokenId ∈ tokenIds, TokenOf database sessionId tokenId
  | .commit =>
    (∃ oldId tokenId sessionId,
        Rotated database call.written call.events oldId tokenId sessionId) ∨
      (∃ sessionId session hashedPassword,
        Opened database call.written call.events sessionId session hashedPassword) ∨
      Ending database call.written call.events
  | _ => Quiet call.written call.events

section Frame

variable {database after : Database} {written : Versions} {events : List Event}

theorem Quiet.ending (hquiet : Quiet written events) : Ending database written events where
  sessions := by simp [hquiet.sessions]
  refreshTokens := by simp [hquiet.refreshTokens]
  password := .inl ⟨hquiet.users, hquiet.events⟩

theorem mem_keys_user {id : String} {version : Option User}
    (hversion : (id, version) ∈ written.users) : .user id ∈ written.keys := by
  simp only [Versions.keys, List.mem_append, List.mem_map]
  exact .inl (.inl (.inl ⟨_, hversion, rfl⟩))

theorem mem_keys_session {id : String} {version : Option Session}
    (hversion : (id, version) ∈ written.sessions) : .session id ∈ written.keys := by
  simp only [Versions.keys, List.mem_append, List.mem_map]
  exact .inl (.inl (.inr ⟨_, hversion, rfl⟩))

theorem mem_keys_refreshToken {id : String} {version : Option RefreshToken}
    (hversion : (id, version) ∈ written.refreshTokens) :
    .refreshToken id ∈ written.keys := by
  simp only [Versions.keys, List.mem_append, List.mem_map]
  exact .inl (.inr ⟨_, hversion, rfl⟩)

theorem TokenOf.mono {sessionId id : String} (htoken : TokenOf database sessionId id)
    (hgrows : Grows database after) : TokenOf after sessionId id := by
  obtain ⟨token, hget, rfl⟩ := htoken
  exact hgrows.tokens id token hget

-- the rows that the call has locked are as they were
variable (hsame : ∀ key ∈ written.keys, SameRow database after key)
include hsame

theorem Rotating.frame (hgrows : Grows database after) {oldId sessionId : String}
    (hrotating : Rotating database written events oldId sessionId) :
    Rotating after written events oldId sessionId := by
  obtain ⟨token, hget, hsession, hwritten⟩ := hrotating.refreshTokens
  have hold : after.refreshTokens.get? oldId = some token :=
    (hsame _ (mem_keys_refreshToken (hwritten ▸ List.mem_singleton_self _))).trans hget
  exact { hrotating with
    stored := hgrows.sessions _ hrotating.stored
    refreshTokens := ⟨token, hold, hsession, hwritten⟩ }

theorem Rotated.frame (hgrows : Grows database after) {oldId tokenId sessionId : String}
    (hrotated : Rotated database written events oldId tokenId sessionId) :
    Rotated after written events oldId tokenId sessionId := by
  obtain ⟨token, expireTime, hget, hsession, hwritten⟩ := hrotated.refreshTokens
  have hnew : after.refreshTokens.get? tokenId = none :=
    (hsame _ (mem_keys_refreshToken (hwritten ▸ List.mem_cons_self))).trans hrotated.new
  have hold : after.refreshTokens.get? oldId = some token :=
    (hsame _ (mem_keys_refreshToken
      (hwritten ▸ List.mem_cons_of_mem _ (List.mem_singleton_self _)))).trans hget
  exact { hrotated with
    stored := hgrows.sessions _ hrotated.stored
    new := hnew
    refreshTokens := ⟨token, expireTime, hold, hsession, hwritten⟩ }

theorem Opening.frame {sessionId hashedPassword : String} {session : Session}
    (hopening : Opening database written events sessionId session hashedPassword) :
    Opening after written events sessionId session hashedPassword :=
  { hopening with
    new := (hsame _ (mem_keys_session
      (hopening.sessions ▸ List.mem_singleton_self _))).trans hopening.new }

theorem Opened.frame {sessionId hashedPassword : String} {session : Session}
    (hopened : Opened database written events sessionId session hashedPassword) :
    Opened after written events sessionId session hashedPassword := by
  obtain ⟨tokenId, expireTime, hnew, hwritten⟩ := hopened.refreshTokens
  have hkept : after.refreshTokens.get? tokenId = none :=
    (hsame _ (mem_keys_refreshToken (hwritten ▸ List.mem_singleton_self _))).trans hnew
  exact { hopened.toOpening.frame hsame with
    refreshTokens := ⟨tokenId, expireTime, hkept, hwritten⟩ }

theorem Ending.frame (hending : Ending database written events) : Ending after written events where
  sessions version hversion := by
    obtain ⟨session, hget, hended⟩ := hending.sessions version hversion
    exact ⟨session, (hsame _ (mem_keys_session hversion)).trans hget, hended⟩
  refreshTokens version hversion := by
    obtain ⟨token, hget, hended, hsession⟩ := hending.refreshTokens version hversion
    exact ⟨token, (hsame _ (mem_keys_refreshToken hversion)).trans hget, hended, hsession⟩
  password := by
    refine hending.password.imp_right ?_
    rintro ⟨resetId, userId, expiresAt, hashedPassword, user, hget, hwritten, hevents⟩
    have hkept : after.users.get? userId = some user :=
      (hsame _ (mem_keys_user (hwritten ▸ List.mem_singleton_self _))).trans hget
    exact ⟨resetId, userId, expiresAt, hashedPassword, user, hkept, hwritten, hevents⟩

end Frame

/-- What a call has written stays as it is while its rows do. -/
theorem Written.frame {database after : Database} {call : Call}
    (hsame : ∀ key ∈ call.written.keys, SameRow database after key)
    (hgrows : Grows database after) (hwritten : Written database call) :
    Written after call := by
  obtain ⟨began, written, events, point⟩ := call
  cases point with
  | getById | useToken =>
    exact ⟨hwritten.1, hgrows.sessions _ hwritten.2.1, hwritten.2.2.mono hgrows⟩
  | insertSuccessor => exact Rotating.frame hsame hgrows hwritten
  | insertToken =>
    obtain ⟨hnone, session, hashedPassword, hopening⟩ := hwritten
    exact ⟨hnone, session, hashedPassword, hopening.frame hsame⟩
  | getSession =>
    obtain ⟨session, hashedPassword, hopened⟩ := hwritten
    exact ⟨session, hashedPassword, hopened.frame hsame⟩
  | markUsed | lookupReset | sessionExists => exact Ending.frame hsame hwritten
  | deactivate => exact ⟨hwritten.1.frame hsame, hgrows.sessions _ hwritten.2⟩
  | startRevoke => exact ⟨hwritten.1.frame hsame, hwritten.2⟩
  | revoke =>
    exact ⟨hwritten.1.frame hsame, hwritten.2.1,
      fun tokenId htoken => (hwritten.2.2 tokenId htoken).mono hgrows⟩
  | commit =>
    rcases hwritten with ⟨oldId, tokenId, sessionId, hrotated⟩ |
      ⟨sessionId, session, hash, hopened⟩ |
      hending
    · exact .inl ⟨oldId, tokenId, sessionId, hrotated.frame hsame hgrows⟩
    · exact .inr (.inl ⟨sessionId, session, hash, hopened.frame hsame⟩)
    · exact .inr (.inr (hending.frame hsame))
  | received | byUsername | byEmail | lookup | insertSession | validate | byResetEmail
  | startDelete | deleteResets | insertReset | getByTokenHash | updatePassword | ended =>
    exact hwritten

/-! ## What is read -/

section View

variable {server : Server} {call : Call}

theorem view_users_of_nil (husers : call.written.users = []) :
    (view server call).users = server.committed.users := by
  rw [view, Database.install, husers, Table.install_nil]

theorem view_sessions_of_nil (hsessions : call.written.sessions = []) :
    (view server call).sessions = server.committed.sessions := by
  rw [view, Database.install, hsessions, Table.install_nil]

theorem view_refreshTokens_of_nil (htokens : call.written.refreshTokens = []) :
    (view server call).refreshTokens = server.committed.refreshTokens := by
  rw [view, Database.install, htokens, Table.install_nil]

/-- The token of an active session is of the session. -/
theorem own_of_active (hquiet : Quiet call.written call.events) {now : Nat} {row : ActiveSession}
    (hrow : row ∈ Sessions.activeSessions (sessionTables server call) now) :
    (server.committed.sessions.get? row.sessionId).isSome ∧
      TokenOf server.committed row.sessionId row.tokenId := by
  obtain ⟨hsession, -, -, token, htoken, hsame, -, -⟩ := Sessions.mem_activeSessions_iff.mp hrow
  simp only [sessionTables, view_sessions_of_nil hquiet.sessions] at hsession
  simp only [sessionTables, view_refreshTokens_of_nil hquiet.refreshTokens] at htoken
  exact ⟨Option.isSome_of_eq_some hsession, token, htoken, hsame⟩

theorem Ending.get?_sessions (hending : Ending server.committed call.written call.events)
    (id : String) :
    (view server call).sessions.get? id =
      if id ∈ call.written.sessions.map Prod.fst then
        (server.committed.sessions.get? id).map fun session => { session with active := false }
      else server.committed.sessions.get? id :=
  Table.get?_install_of_changes hending.sessions id

theorem Ending.get?_refreshTokens (hending : Ending server.committed call.written call.events)
    (id : String) :
    (view server call).refreshTokens.get? id =
      if id ∈ call.written.refreshTokens.map Prod.fst then
        (server.committed.refreshTokens.get? id).map fun token => { token with revoked := true }
      else server.committed.refreshTokens.get? id := by
  refine Table.get?_install_of_changes (fun version hversion => ?_) id
  obtain ⟨token, hget, hended, -⟩ := hending.refreshTokens version hversion
  exact ⟨token, hget, hended⟩

theorem Rotated.get?_refreshTokens {oldId tokenId sessionId : String}
    (hrotated : Rotated server.committed call.written call.events oldId tokenId sessionId) :
    ∃ token expireTime, server.committed.refreshTokens.get? oldId = some token ∧
      token.sessionId = sessionId ∧ ∀ id, (view server call).refreshTokens.get? id =
        if id = tokenId then some ⟨sessionId, expireTime, false, false⟩
        else if id = oldId then some { token with used := true }
        else server.committed.refreshTokens.get? id := by
  obtain ⟨token, expireTime, hget, hsession, hwritten⟩ := hrotated.refreshTokens
  refine ⟨token, expireTime, hget, hsession, fun id => ?_⟩
  rw [view, Database.install, hwritten, Table.install_cons, Table.get?_put, Table.install_cons,
    Table.get?_put, Table.install_nil]

theorem Opening.get?_sessions {sessionId hashedPassword : String} {session : Session}
    (hopening : Opening server.committed call.written call.events sessionId session hashedPassword)
    (id : String) :
    (view server call).sessions.get? id =
      if id = sessionId then some session else server.committed.sessions.get? id := by
  rw [view, Database.install, hopening.sessions, Table.install_cons, Table.get?_put,
    Table.install_nil]

theorem Opened.get?_refreshTokens {sessionId hashedPassword : String} {session : Session}
    (hopened : Opened server.committed call.written call.events sessionId session hashedPassword) :
    ∃ tokenId expireTime, server.committed.refreshTokens.get? tokenId = none ∧
      ∀ id, (view server call).refreshTokens.get? id =
        if id = tokenId then some ⟨sessionId, expireTime, false, false⟩
        else server.committed.refreshTokens.get? id := by
  obtain ⟨tokenId, expireTime, hnew, hwritten⟩ := hopened.refreshTokens
  refine ⟨tokenId, expireTime, hnew, fun id => ?_⟩
  rw [view, Database.install, hwritten, Table.install_cons, Table.get?_put, Table.install_nil]

/-- A row that is not written is the same after a commit. -/
theorem sameRow_view {key : RowKey} (hkey : key ∉ call.written.keys) :
    SameRow server.committed (view server call) key := by
  cases key with
  | user id | session id | refreshToken id | resetToken id =>
    apply Table.get?_install_of_notMem
    intro hmem
    obtain ⟨version, hversion, rfl⟩ := List.mem_map.mp hmem
    refine hkey ?_
    simp only [Versions.keys, List.mem_append, List.mem_map]
    grind

end View

end AutoMana.Auth.Transactions
