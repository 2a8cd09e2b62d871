import AutoMana.Auth.WriteSets

/-!
# What commits keep

Whatever is interleaved, a token that is stored is of a session that is stored, and an active
session has a token that is neither used nor revoked.
-/

namespace AutoMana.Auth.Transactions

open Relational Relational.Interleaving
open Sessions (Session RefreshToken Device ActiveSession)

/-- A token of the session that is neither used nor revoked. -/
def LiveToken (database : Database) (sessionId id : String) : Prop :=
  ∃ token, database.refreshTokens.get? id = some token ∧ token.sessionId = sessionId ∧
    token.used = false ∧ token.revoked = false

structure Sound (server : Server) : Prop where
  owned : ∀ id token, server.committed.refreshTokens.get? id = some token →
    (server.committed.sessions.get? token.sessionId).isSome
  live : ∀ id session, server.committed.sessions.get? id = some session → session.active = true →
    ∃ tokenId, LiveToken server.committed id tokenId
  recorded : ∀ at' sessionId userId hashedPassword,
    (at', .opened sessionId userId hashedPassword) ∈ server.history →
      ∃ session, server.committed.sessions.get? sessionId = some session ∧
        session.userId = userId

theorem Grows.refl (database : Database) : Grows database database :=
  ⟨fun _ => id, fun _ token htoken => ⟨token, htoken, rfl⟩⟩

/-- A new event is no session that was opened. -/
theorem mem_history_of_commit {server : Server} {call : Call} {entry : Nat × Event}
    (hentry : entry ∈ (commit server call).1.history) :
    entry ∈ server.history ∨ entry.1 = server.now ∧ entry.2 ∈ call.events := by
  rcases List.mem_append.mp hentry with hold | hnew
  · exact .inl hold
  · obtain ⟨event, hevent, rfl⟩ := List.mem_map.mp hnew
    exact .inr ⟨rfl, hevent⟩

section Commit

variable {server : Server} {call : Call}

theorem Rotated.grows {oldId tokenId sessionId : String}
    (hrotated : Rotated server.committed call.written call.events oldId tokenId sessionId) :
    Grows server.committed (view server call) := by
  obtain ⟨token, expireTime, hold, hsession, htokens⟩ := hrotated.get?_refreshTokens
  refine ⟨fun id hstored => ?_, fun id stored hget => ?_⟩
  · rw [view_sessions_of_nil hrotated.sessions]
    exact hstored
  have hne : id ≠ tokenId := Table.ne_of_new hrotated.new hget
  rw [htokens, if_neg hne]
  split_ifs with hsame
  · subst hsame
    rw [hold, Option.some.injEq] at hget
    exact ⟨_, rfl, hget ▸ rfl⟩
  · exact ⟨stored, hget, rfl⟩

theorem Rotated.sound (hsound : Sound server) {oldId tokenId sessionId : String}
    (hrotated : Rotated server.committed call.written call.events oldId tokenId sessionId) :
    Sound (commit server call).1 := by
  obtain ⟨token, expireTime, hold, hsession, htokens⟩ := hrotated.get?_refreshTokens
  have hsessions := @view_sessions_of_nil server call hrotated.sessions
  refine ⟨fun id stored hget => ?_, fun id session hget hactive => ?_, ?_⟩
  · change (view server call).refreshTokens.get? id = some stored at hget
    change ((view server call).sessions.get? stored.sessionId).isSome
    rw [hsessions]
    rw [htokens] at hget
    split_ifs at hget with hnew hused
    · obtain rfl := Option.some.inj hget
      exact hrotated.stored
    · obtain rfl := Option.some.inj hget
      exact hsession ▸ hrotated.stored
    · exact hsound.owned id stored hget
  · change (view server call).sessions.get? id = some session at hget
    rw [hsessions] at hget
    by_cases hsame : id = sessionId
    · refine ⟨tokenId, ⟨sessionId, expireTime, false, false⟩, ?_, hsame.symm, rfl, rfl⟩
      exact (htokens tokenId).trans (if_pos rfl)
    · -- the tokens of another session are not written
      obtain ⟨liveId, live, hlive, hof, hunused⟩ := hsound.live id session hget hactive
      have hnew : liveId ≠ tokenId := Table.ne_of_new hrotated.new hlive
      have hother : liveId ≠ oldId := by
        rintro rfl
        rw [hold, Option.some.injEq] at hlive
        subst hlive
        exact hsame (hof.symm.trans hsession)
      refine ⟨liveId, live, ?_, hof, hunused⟩
      exact (htokens liveId).trans ((if_neg hnew).trans ((if_neg hother).trans hlive))
  · intro at' openedId userId hashedPassword hentry
    change ∃ session, (view server call).sessions.get? openedId = some session ∧ _
    rw [hsessions]
    rcases mem_history_of_commit hentry with hrecorded | ⟨-, hevent⟩
    · exact hsound.recorded _ _ _ _ hrecorded
    · rw [hrotated.events, List.mem_singleton] at hevent
      cases hevent

theorem Opened.grows {sessionId hashedPassword : String} {session : Session}
    (hopened : Opened server.committed call.written call.events sessionId session hashedPassword) :
    Grows server.committed (view server call) := by
  obtain ⟨tokenId, expireTime, hnew, htokens⟩ := hopened.get?_refreshTokens
  constructor
  · intro id hstored
    rw [hopened.get?_sessions]
    split_ifs
    · rfl
    · exact hstored
  · intro id token hget
    have hne : id ≠ tokenId := Table.ne_of_new hnew hget
    exact ⟨token, (htokens id).trans ((if_neg hne).trans hget), rfl⟩

theorem Opened.sound (hsound : Sound server) {sessionId hashedPassword : String} {session : Session}
    (hopened : Opened server.committed call.written call.events sessionId session hashedPassword) :
    Sound (commit server call).1 := by
  obtain ⟨tokenId, expireTime, hnew, htokens⟩ := hopened.get?_refreshTokens
  have hsessions := hopened.get?_sessions
  refine ⟨fun id token hget => ?_, fun id stored hget hactive => ?_, ?_⟩
  · change (view server call).refreshTokens.get? id = some token at hget
    rw [htokens] at hget
    split_ifs at hget with hsame
    · obtain rfl := Option.some.inj hget
      exact Option.isSome_of_eq_some ((hsessions sessionId).trans (if_pos rfl))
    · exact hopened.grows.sessions _ (hsound.owned id token hget)
  · change (view server call).sessions.get? id = some stored at hget
    rw [hsessions] at hget
    split_ifs at hget with hsame
    · refine ⟨tokenId, ⟨sessionId, expireTime, false, false⟩, ?_, hsame.symm, rfl, rfl⟩
      exact (htokens tokenId).trans (if_pos rfl)
    · obtain ⟨liveId, live, hlive, hof⟩ := hsound.live id stored hget hactive
      have hne : liveId ≠ tokenId := Table.ne_of_new hnew hlive
      exact ⟨liveId, live, (htokens liveId).trans ((if_neg hne).trans hlive), hof⟩
  · intro at' openedId userId hash hentry
    change ∃ session, (view server call).sessions.get? openedId = some session ∧ _
    rw [hsessions]
    rcases mem_history_of_commit hentry with hrecorded | ⟨-, hevent⟩
    · obtain ⟨stored, hget, huser⟩ := hsound.recorded _ _ _ _ hrecorded
      have hne : openedId ≠ sessionId := Table.ne_of_new hopened.new hget
      exact ⟨stored, (if_neg hne).trans hget, huser⟩
    · rw [hopened.events, List.mem_singleton, Event.opened.injEq] at hevent
      obtain ⟨rfl, rfl, -⟩ := hevent
      exact ⟨session, if_pos rfl, rfl⟩

theorem Ending.grows (hending : Ending server.committed call.written call.events) :
    Grows server.committed (view server call) := by
  constructor
  · intro id hstored
    rw [hending.get?_sessions]
    split_ifs
    · rw [Option.isSome_map]
      exact hstored
    · exact hstored
  · intro id token hget
    rw [hending.get?_refreshTokens, hget]
    split_ifs
    · exact ⟨_, rfl, rfl⟩
    · exact ⟨token, rfl, rfl⟩

/-- An event of a transaction that ends sessions opens none. -/
theorem Ending.notMem_events (hending : Ending server.committed call.written call.events)
    {sessionId userId hashedPassword : String} :
    .opened sessionId userId hashedPassword ∉ call.events := by
  rcases hending.password with ⟨-, hevents⟩ | ⟨_, _, _, _, _, -, -, hevents⟩ <;> simp [hevents]

theorem Ending.sound (hsound : Sound server)
    (hending : Ending server.committed call.written call.events) :
    Sound (commit server call).1 := by
  refine ⟨fun id token hget => ?_, fun id session hget hactive => ?_, ?_⟩
  · change (view server call).refreshTokens.get? id = some token at hget
    refine hending.grows.sessions _ ?_
    rw [hending.get?_refreshTokens] at hget
    split_ifs at hget
    · obtain ⟨old, hold, rfl⟩ := Option.map_eq_some_iff.mp hget
      exact hsound.owned id old hold
    · exact hsound.owned id token hget
  · change (view server call).sessions.get? id = some session at hget
    rw [hending.get?_sessions] at hget
    split_ifs at hget with hended
    · obtain ⟨old, -, rfl⟩ := Option.map_eq_some_iff.mp hget
      cases hactive
    · obtain ⟨liveId, live, hlive, hof, hunused⟩ := hsound.live id session hget hactive
      -- a token that is revoked is of a session that is ended
      have hkept : liveId ∉ call.written.refreshTokens.map Prod.fst := by
        intro hmem
        obtain ⟨version, hversion, rfl⟩ := List.mem_map.mp hmem
        obtain ⟨token, htoken, -, hsession⟩ := hending.refreshTokens version hversion
        obtain rfl := Option.some.inj (htoken.symm.trans hlive)
        exact hended (hof ▸ hsession)
      refine ⟨liveId, live, ?_, hof, hunused⟩
      exact (hending.get?_refreshTokens liveId).trans ((if_neg hkept).trans hlive)
  · intro at' openedId userId hashedPassword hentry
    rcases mem_history_of_commit hentry with hrecorded | ⟨-, hevent⟩
    · obtain ⟨session, hget, rfl⟩ := hsound.recorded _ _ _ _ hrecorded
      change ∃ session, (view server call).sessions.get? openedId = some session ∧ _
      rw [hending.get?_sessions, hget]
      split_ifs
      · exact ⟨_, rfl, rfl⟩
      · exact ⟨session, rfl, rfl⟩
    · exact absurd hevent hending.notMem_events

end Commit

/-! ## What a turn keeps -/

/-- What a turn of a call leaves to itself and to the others. -/
structure Keeps (server : Server) (call : Call) (next : Server × Call) : Prop where
  sound : Sound next.1
  written : Written next.1.committed next.2
  grows : Grows server.committed next.1.committed
  rows : ∀ key ∉ call.written.keys, SameRow server.committed next.1.committed key
  now : server.now ≤ next.1.now
  /-- Only a commit changes what is committed. -/
  same : call.point ≠ .commit →
    next.1.committed = server.committed ∧ next.1.history = server.history

section Turn

variable {server : Server} {call : Call}

theorem keeps_of_same (hsound : Sound server) {next : Server × Call}
    (hcommitted : next.1.committed = server.committed) (hhistory : next.1.history = server.history)
    (hnow : server.now ≤ next.1.now) (hwritten : Written server.committed next.2) :
    Keeps server call next where
  sound := by
    refine ⟨?_, ?_, ?_⟩
    · rw [hcommitted]
      exact hsound.owned
    · rw [hcommitted]
      exact hsound.live
    · rw [hcommitted, hhistory]
      exact hsound.recorded
  written := hcommitted ▸ hwritten
  grows := hcommitted ▸ .refl _
  rows key _ := by
    rw [hcommitted]
    cases key <;> rfl
  now := hnow
  same _ := ⟨hcommitted, hhistory⟩

theorem keeps_rollback (hsound : Sound server) : Keeps server call (rollback server call) :=
  keeps_of_same hsound rfl rfl (Nat.le_refl _) ⟨rfl, rfl, rfl, rfl⟩

theorem keeps_commit (hsound : Sound server) (hpoint : call.point = .commit)
    (hwritten : (∃ oldId tokenId sessionId,
        Rotated server.committed call.written call.events oldId tokenId sessionId) ∨
      (∃ sessionId session hashedPassword,
        Opened server.committed call.written call.events sessionId session hashedPassword) ∨
      Ending server.committed call.written call.events) :
    Keeps server call (commit server call) := by
  have hnext : Written (commit server call).1.committed (commit server call).2 :=
    ⟨rfl, rfl, rfl, rfl⟩
  have hnow : server.now ≤ (commit server call).1.now := Nat.le_refl _
  rcases hwritten with ⟨oldId, tokenId, sessionId, hrotated⟩ | ⟨sessionId, session, hash, hopened⟩ |
    hending
  · exact ⟨hrotated.sound hsound, hnext, hrotated.grows, fun _ => sameRow_view, hnow,
      fun hother => absurd hpoint hother⟩
  · exact ⟨hopened.sound hsound, hnext, hopened.grows, fun _ => sameRow_view, hnow,
      fun hother => absurd hpoint hother⟩
  · exact ⟨hending.sound hsound, hnext, hending.grows, fun _ => sameRow_view, hnow,
      fun hother => absurd hpoint hother⟩

/-- A session that is stored is read, whatever the transaction has ended. -/
theorem Ending.isSome_sessions (hending : Ending server.committed call.written call.events)
    (id : String) :
    ((view server call).sessions.get? id).isSome = (server.committed.sessions.get? id).isSome := by
  rw [hending.get?_sessions]
  split_ifs
  · rw [Option.isSome_map]
  · rfl

/-- A version of a session is its committed row, perhaps ended. -/
theorem Ending.of_sessions (hending : Ending server.committed call.written call.events)
    {id : String} {session : Session}
    (hget : (view server call).sessions.get? id = some session) :
    ∃ stored, server.committed.sessions.get? id = some stored ∧
      { session with active := false } = { stored with active := false } := by
  rw [hending.get?_sessions] at hget
  split_ifs at hget
  · obtain ⟨stored, hstored, rfl⟩ := Option.map_eq_some_iff.mp hget
    exact ⟨stored, hstored, rfl⟩
  · exact ⟨session, hget, rfl⟩

/-- A version of a token is its committed row, perhaps revoked. -/
theorem Ending.of_refreshTokens (hending : Ending server.committed call.written call.events)
    {id : String} {token : RefreshToken}
    (hget : (view server call).refreshTokens.get? id = some token) :
    ∃ stored, server.committed.refreshTokens.get? id = some stored ∧
      { token with revoked := true } = { stored with revoked := true } ∧
      token.sessionId = stored.sessionId := by
  rw [hending.get?_refreshTokens] at hget
  split_ifs at hget
  · obtain ⟨stored, hstored, rfl⟩ := Option.map_eq_some_iff.mp hget
    exact ⟨stored, hstored, rfl, rfl⟩
  · exact ⟨token, hget, rfl, rfl⟩

/-- The transaction ends one more session. -/
theorem Ending.deactivate (hending : Ending server.committed call.written call.events) {id : String}
    {session : Session} (hget : (view server call).sessions.get? id = some session)
    (point : Point) :
    Ending server.committed
      (writeSession server call id point (some { session with active := false })).2.written
      call.events where
  sessions version hversion := by
    rcases List.mem_cons.mp hversion with rfl | hold
    · obtain ⟨stored, hstored, hsame⟩ := hending.of_sessions hget
      exact ⟨stored, hstored, congrArg some hsame⟩
    · exact hending.sessions version hold
  refreshTokens version hversion := by
    obtain ⟨token, htoken, hended, hsession⟩ := hending.refreshTokens version hversion
    exact ⟨token, htoken, hended, List.mem_cons_of_mem _ hsession⟩
  password := hending.password

/-- The transaction revokes one more token. -/
theorem Ending.revoke (hending : Ending server.committed call.written call.events)
    {id : String} {token : RefreshToken}
    (hget : (view server call).refreshTokens.get? id = some token)
    (hsession : token.sessionId ∈ call.written.sessions.map Prod.fst) (point : Point) :
    Ending server.committed
      (writeRefreshToken server call id point (some { token with revoked := true })).2.written
      call.events where
  sessions := hending.sessions
  refreshTokens version hversion := by
    rcases List.mem_cons.mp hversion with rfl | hold
    · obtain ⟨stored, hstored, hsame, hof⟩ := hending.of_refreshTokens hget
      exact ⟨stored, hstored, congrArg some hsame, hof ▸ hsession⟩
    · exact hending.refreshTokens version hold
  password := hending.password

theorem Ending.tokenOf_iff (hending : Ending server.committed call.written call.events)
    {sessionId id : String} :
    TokenOf (view server call) sessionId id ↔ TokenOf server.committed sessionId id := by
  constructor
  · rintro ⟨token, hget, rfl⟩
    obtain ⟨stored, hstored, -, hof⟩ := hending.of_refreshTokens hget
    exact ⟨stored, hstored, hof.symm⟩
  · exact fun htoken => htoken.mono hending.grows

theorem mem_tokensOf {database : Database} {sessionId id : String} :
    id ∈ tokensOf database sessionId ↔ TokenOf database sessionId id := by
  simp only [tokensOf, List.mem_map, List.mem_filter, decide_eq_true_eq, Prod.exists,
    exists_and_right, exists_eq_right, Table.mem_rows_iff, TokenOf]

/-- The first write of a reset is that of the password. -/
theorem Quiet.changesPassword (hquiet : Quiet call.written call.events) {userId : String}
    {user : User} (huser : server.committed.users.get? userId = some user) (resetId : String)
    (expiresAt : Nat) (hashedPassword : String) (point : Point) :
    Ending server.committed
      (writeUser server (call.record [.changed resetId userId expiresAt hashedPassword]) userId
        point (some { user with hashedPassword := some hashedPassword })).2.written
      (call.record [.changed resetId userId expiresAt hashedPassword]).events where
  sessions := (@Quiet.ending server.committed _ _ hquiet).sessions
  refreshTokens := (@Quiet.ending server.committed _ _ hquiet).refreshTokens
  password := .inr ⟨resetId, userId, expiresAt, hashedPassword, user, huser,
    congrArg _ hquiet.users, congrArg (· ++ _) hquiet.events⟩

/-- A statement that only reads goes on with what was written. -/
theorem keeps_goto (hsound : Sound server) {point : Point}
    (hwritten : Written server.committed (call.goto point)) :
    Keeps server call (server, call.goto point) :=
  keeps_of_same hsound rfl rfl (Nat.le_refl _) hwritten

/-- A token is inserted under an id that is new. -/
theorem keeps_insertRefreshToken (hsound : Sound server) (hcall : Written server.committed call)
    (hversions : ∀ version ∈ call.written.refreshTokens, version.2.isSome) {outcome : Outcome}
    {sessionId : String} {expireTime : Nat} {events : List Event} {next : Point}
    (hinserted : server.committed.refreshTokens.get? outcome.id = none →
      Written server.committed (writeRefreshToken server (call.record events) outcome.id next
        (some ⟨sessionId, expireTime, false, false⟩)).2) :
    Keeps server call
      (insertRefreshToken server call outcome sessionId expireTime events next) := by
  rw [insertRefreshToken]
  split_ifs with hblocked htaken
  · exact keeps_of_same hsound rfl rfl (Nat.le_refl _) hcall
  · exact keeps_rollback hsound
  · refine keeps_of_same hsound rfl rfl (Nat.le_refl _) (hinserted ?_)
    exact Table.get?_eq_none_of_install hversions (Option.not_isSome_iff_eq_none.mp htaken)

theorem keeps_statement (lib : Libraries) (hsound : Sound server)
    (hcall : Written server.committed call) (outcome : Outcome) :
    Keeps server call (statement lib server call outcome) := by
  have hrollback := @keeps_rollback server call hsound
  obtain ⟨began, written, events, point⟩ := call
  cases point with
  | received command =>
    cases command with
    | logout => exact keeps_of_same hsound rfl rfl (Nat.le_refl _) (Quiet.ending hcall)
    | pass seconds => exact keeps_of_same hsound rfl rfl (Nat.le_add_right _ _) hcall
    | login | refreshSession | requestReset | resetPassword =>
      exact keeps_of_same hsound rfl rfl (Nat.le_refl _) hcall
  | byUsername =>
    simp only [statement, loginUser]
    split
    · split
      · exact hrollback
      · exact keeps_goto hsound (.inr (.inr (Quiet.ending hcall)))
      · exact keeps_goto hsound hcall
    · exact keeps_goto hsound hcall
  | byEmail =>
    simp only [statement, loginUser]
    split
    · split
      · exact hrollback
      · exact keeps_goto hsound (.inr (.inr (Quiet.ending hcall)))
      · exact keeps_goto hsound hcall
    · exact keeps_goto hsound (.inr (.inr (Quiet.ending hcall)))
  | lookup user =>
    simp only [statement]
    split
    next row hrow =>
      have hactive := List.mem_of_mem_filter (Sessions.mem_of_firstOf hrow)
      exact keeps_goto hsound ⟨hcall, own_of_active hcall hactive⟩
    next => exact keeps_goto hsound hcall
  | useToken oldId sessionId =>
    obtain ⟨hquiet, hstored, token, htoken, hof⟩ := hcall
    simp only [statement, useToken, view_refreshTokens_of_nil hquiet.refreshTokens, htoken]
    split_ifs with hblocked
    · exact keeps_of_same hsound rfl rfl (Nat.le_refl _) ⟨hquiet, hstored, token, htoken, hof⟩
    · refine keeps_of_same hsound rfl rfl (Nat.le_refl _) ?_
      exact ⟨hquiet.users, hquiet.sessions, hstored,
        ⟨token, htoken, hof, congrArg _ hquiet.refreshTokens⟩, hquiet.events⟩
  | insertSuccessor oldId sessionId expireTime =>
    have hrotating : Rotating server.committed written events oldId sessionId := hcall
    obtain ⟨token, htoken, hof, hwritten⟩ := hrotating.refreshTokens
    refine keeps_insertRefreshToken hsound hcall ?_ fun hnew => ?_
    · intro version hversion
      obtain rfl := List.mem_singleton.mp (hwritten ▸ hversion)
      rfl
    · refine .inl ⟨oldId, outcome.id, sessionId, hrotating.users, hrotating.sessions,
        hrotating.stored, hnew, ⟨token, expireTime, htoken, hof, congrArg _ hwritten⟩, ?_⟩
      exact congrArg (· ++ _) hrotating.events
  | insertSession user device =>
    simp only [statement, insertSession]
    split_ifs with hblocked hraises
    · exact keeps_of_same hsound rfl rfl (Nat.le_refl _) hcall
    · exact hrollback
    · refine keeps_of_same hsound rfl rfl (Nat.le_refl _) ?_
      rw [not_or, Option.not_isSome_iff_eq_none, view_sessions_of_nil hcall.sessions] at hraises
      exact ⟨hcall.refreshTokens, _, user.hashedPassword, hcall.users, congrArg _ hcall.sessions,
        rfl, hraises.1, congrArg (· ++ _) hcall.events⟩
  | insertToken sessionId =>
    have hopens := hcall
    obtain ⟨hnone, session, hashedPassword, hopening⟩ := hopens
    refine keeps_insertRefreshToken hsound hcall ?_ fun hnew => ?_
    · intro version hversion
      rw [hnone] at hversion
      cases hversion
    · refine ⟨session, hashedPassword, ⟨hopening.users, hopening.sessions, hopening.active,
        hopening.new, ?_⟩, outcome.id, _, hnew, congrArg _ hnone⟩
      exact (List.append_nil _).trans hopening.events
  | getSession sessionId =>
    simp only [statement]
    split_ifs
    · obtain ⟨session, hashedPassword, hopened⟩ := hcall
      exact keeps_goto hsound (.inr (.inl ⟨sessionId, session, hashedPassword, hopened⟩))
    · exact hrollback
  | validate =>
    simp only [statement]
    split
    next row hrow =>
      obtain ⟨-, -, hactive⟩ := Sessions.of_validateSessionCredentials hrow
      exact keeps_goto hsound ⟨hcall, own_of_active hcall hactive⟩
    next => exact hrollback
  | getById row =>
    simp only [statement]
    split
    · exact keeps_goto hsound hcall
    · exact hrollback
  | sessionExists sessionIds =>
    cases sessionIds with
    | nil => exact keeps_goto hsound (.inr (.inr hcall))
    | cons sessionId rest =>
      simp only [statement]
      split_ifs with hexists
      · rw [Ending.isSome_sessions hcall] at hexists
        exact keeps_goto hsound ⟨hcall, hexists⟩
      · exact hrollback
  | deactivate sessionId rest =>
    obtain ⟨hending, hstored⟩ := hcall
    obtain ⟨session, hsession⟩ := Option.isSome_iff_exists.mp
      ((hending.isSome_sessions sessionId).trans hstored)
    simp only [statement, deactivate, hsession]
    split_ifs with hblocked
    · exact keeps_of_same hsound rfl rfl (Nat.le_refl _) ⟨hending, hstored⟩
    · exact keeps_of_same hsound rfl rfl (Nat.le_refl _)
        ⟨hending.deactivate hsession (.startRevoke sessionId rest), List.mem_cons_self⟩
  | startRevoke sessionId rest =>
    obtain ⟨hending, hended⟩ := hcall
    refine keeps_goto hsound ⟨hending, hended, fun tokenId htoken => ?_⟩
    exact hending.tokenOf_iff.mp (mem_tokensOf.mp htoken)
  | revoke tokenIds sessionId rest =>
    cases tokenIds with
    | nil => exact keeps_goto hsound hcall.1
    | cons tokenId tokenIds =>
      obtain ⟨hending, hended, htokens⟩ := hcall
      obtain ⟨token, htoken, hof⟩ := hending.tokenOf_iff.mpr (htokens tokenId List.mem_cons_self)
      simp only [statement, revoke, htoken]
      split_ifs with hblocked
      · exact keeps_of_same hsound rfl rfl (Nat.le_refl _) ⟨hending, hended, htokens⟩
      · refine keeps_of_same hsound rfl rfl (Nat.le_refl _) ⟨?_, hended, fun other hother => ?_⟩
        · exact hending.revoke htoken (hof ▸ hended) (.revoke tokenIds sessionId rest)
        · exact htokens other (List.mem_cons_of_mem _ hother)
  | byResetEmail =>
    simp only [statement]
    split
    · exact keeps_goto hsound hcall
    · exact keeps_goto hsound (.inr (.inr (Quiet.ending hcall)))
  | startDelete => exact keeps_goto hsound hcall
  | deleteResets resetIds =>
    cases resetIds with
    | nil => exact keeps_goto hsound hcall
    | cons resetId resetIds =>
      simp only [statement, deleteReset]
      split_ifs with hblocked hpending
      · exact keeps_of_same hsound rfl rfl (Nat.le_refl _) hcall
      · exact keeps_of_same hsound rfl rfl (Nat.le_refl _)
          ⟨hcall.users, hcall.sessions, hcall.refreshTokens, hcall.events⟩
      · exact keeps_goto hsound hcall
  | insertReset =>
    simp only [statement, insertReset]
    split_ifs with hblocked htaken
    · exact keeps_of_same hsound rfl rfl (Nat.le_refl _) hcall
    · exact hrollback
    · exact keeps_of_same hsound rfl rfl (Nat.le_refl _) (.inr (.inr (Quiet.ending
        ⟨hcall.users, hcall.sessions, hcall.refreshTokens, hcall.events⟩)))
  | getByTokenHash =>
    simp only [statement, getByTokenHash]
    split
    · exact hrollback
    · split_ifs
      · exact hrollback
      · split
        · exact hrollback
        · exact keeps_goto hsound hcall
  | updatePassword resetId reset hashedPassword =>
    simp only [statement, updatePassword]
    split
    · exact keeps_goto hsound (Quiet.ending hcall)
    next user huser =>
      split_ifs with hblocked
      · exact keeps_of_same hsound rfl rfl (Nat.le_refl _) hcall
      · rw [view_users_of_nil hcall.users] at huser
        exact keeps_of_same hsound rfl rfl (Nat.le_refl _)
          (Quiet.changesPassword hcall huser _ _ _ _)
  | markUsed =>
    simp only [statement, markUsed]
    split
    · exact keeps_goto hsound hcall
    · split_ifs with hblocked
      · exact keeps_of_same hsound rfl rfl (Nat.le_refl _) hcall
      · exact keeps_of_same hsound rfl rfl (Nat.le_refl _)
          ⟨hcall.sessions, hcall.refreshTokens, hcall.password⟩
  | lookupReset => exact keeps_goto hsound hcall
  | commit => exact keeps_commit hsound rfl hcall
  | ended => exact keeps_of_same hsound rfl rfl (Nat.le_refl _) hcall

theorem keeps_turn (lib : Libraries) (hsound : Sound server)
    (hcall : Written server.committed call) (outcome : Outcome) :
    Keeps server call (turn lib server call outcome) := by
  rw [turn]
  split_ifs
  · exact keeps_rollback hsound
  · exact keeps_statement lib hsound hcall outcome

end Turn

/-- The call is at its commit, and the commit does not fail. -/
def Commits (call : Call) (outcome : Outcome) : Prop :=
  call.point = .commit ∧ outcome.raises = false

/-- What a call that is at its commit has written. -/
theorem Written.commit {server : Server} {call : Call} (hcall : Written server.committed call)
    (hpoint : call.point = .commit) :
    (∃ oldId tokenId sessionId,
        Rotated server.committed call.written call.events oldId tokenId sessionId) ∨
      (∃ sessionId session hashedPassword,
        Opened server.committed call.written call.events sessionId session hashedPassword) ∨
      Ending server.committed call.written call.events := by
  rw [Written, hpoint] at hcall
  exact hcall

theorem turn_of_commits {lib : Libraries} {server : Server} {call : Call} {outcome : Outcome}
    (hcommits : Commits call outcome) : turn lib server call outcome = commit server call := by
  obtain ⟨hpoint, hraises⟩ := hcommits
  rw [turn, if_neg (by rw [hraises]; exact Bool.false_ne_true), statement, hpoint]

theorem same_of_not_commits {lib : Libraries} {server : Server} {call : Call} {outcome : Outcome}
    (hsound : Sound server) (hcall : Written server.committed call)
    (hcommits : ¬ Commits call outcome) :
    (turn lib server call outcome).1.committed = server.committed ∧
      (turn lib server call outcome).1.history = server.history := by
  rw [turn]
  split_ifs with hraises
  · exact ⟨rfl, rfl⟩
  · refine (keeps_statement lib hsound hcall outcome).same fun hpoint => hcommits ⟨hpoint, ?_⟩
    exact Bool.eq_false_iff.mpr hraises

/-! ## Every run -/

/-- The invariants of the server and of each call, while the locks tell the rows apart. -/
theorem respects (lib : Libraries) :
    Respects (system lib) Sound (fun server call => Written server.committed call)
      fun pool _ => RowsLocked Server.locks (fun call : Call => call.written.keys) pool where
  start _ _ _ _ := ⟨rfl, rfl, rfl, rfl⟩
  turn pool position outcome call hpool _ hcall := by
    have hkeeps := keeps_turn lib hpool.shared (hpool.thread hcall) outcome
    exact ⟨hkeeps.sound, hkeeps.written⟩
  others pool position outcome call hpool hlocked hcall elsewhere other hne hother := by
    have hkeeps := keeps_turn lib hpool.shared (hpool.thread hcall) outcome
    refine (hpool.thread hother).frame (fun key hkey => ?_) hkeeps.grows
    exact hkeeps.rows key (hlocked.notMem hcall hother hne hkey)

/-- What holds of every pool that is reached. -/
structure Inv (pool : Pool Server Call) : Prop where
  locked : RowsLocked Server.locks (fun call : Call => call.written.keys) pool
  holds : Holds Sound (fun server call => Written server.committed call) pool

theorem inv_step (lib : Libraries) {pool : Pool Server Call} (hinv : Inv pool)
    (move : Move Command Outcome) : Inv ((system lib).step pool move) :=
  ⟨(rowLocks lib).step hinv.locked move, (respects lib).step hinv.holds hinv.locked⟩

theorem inv_opened (users : Users) : Inv (opened users) where
  locked := rowsLocked_of_empty rfl
  holds := by
    refine ⟨⟨fun _ _ hget => ?_, fun _ _ hget => ?_, fun _ _ _ _ hentry => ?_⟩, fun _ hcall => ?_⟩
    · cases hget
    · cases hget
    · cases hentry
    · cases hcall

end AutoMana.Auth.Transactions
