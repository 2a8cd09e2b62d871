import AutoMana.Auth.Commits

/-!
# A reset token works once

The row of a reset token is read without a lock, long before it is marked. So a second reset may
have read it as unused, or it may have expired meanwhile. A session that is opened with the
password from before the reset, but committed after the reset has read the sessions of the user,
is not ended.
-/

namespace AutoMana.Auth.Transactions

open Relational Relational.Interleaving
open Sessions (Session RefreshToken Device)

/-- The reset token that changed a password. -/
def Event.resetId? : Event → Option String
  | .rotated .. => none
  | .opened .. => none
  | .changed resetId .. => some resetId

/-- A request with the session is let in from some device. -/
def Validates (server : Server) (sessionId : String) : Prop :=
  ∃ device tie, (Sessions.validateSessionCredentials
    ⟨server.now, server.committed.sessions, server.committed.refreshTokens, []⟩ server.now
    sessionId device tie).isSome

/-- A reset token changes the password once at most, before its expiry, and every session that
validates was opened with the password that its user has. -/
structure ResetsOnce (server : Server) : Prop where
  once : (server.history.filterMap (·.2.resetId?)).Nodup
  timely : ∀ at' resetId userId expiresAt hashedPassword,
    (at', .changed resetId userId expiresAt hashedPassword) ∈ server.history → at' < expiresAt
  fresh : ∀ at' sessionId userId hashedPassword,
    (at', .opened sessionId userId hashedPassword) ∈ server.history →
      Validates server sessionId → ∀ user, server.committed.users.get? userId = some user →
        user.hashedPassword = some hashedPassword

/-- A reset commits before its token expires and before another reset with the token, having
ended the sessions that were opened with an older password. A login commits while the user has
the password it was checked with, unless its session has expired. -/
structure Exclusive (server : Server) (call : Call) : Prop where
  unused : ∀ resetId userId expiresAt hashedPassword,
    .changed resetId userId expiresAt hashedPassword ∈ call.events →
      resetId ∉ server.history.filterMap (·.2.resetId?) ∧ server.now < expiresAt
  ended : ∀ resetId userId expiresAt hashedPassword,
    .changed resetId userId expiresAt hashedPassword ∈ call.events →
      ∀ at' sessionId older, (at', .opened sessionId userId older) ∈ server.history →
        Validates server sessionId → sessionId ∉ call.written.sessions.map Prod.fst →
          older = hashedPassword
  opened : ∀ sessionId userId hashedPassword,
    .opened sessionId userId hashedPassword ∈ call.events →
      ∀ session, (sessionId, some session) ∈ call.written.sessions →
        server.now < session.expiresAt → ∀ user, server.committed.users.get? userId = some user →
          user.hashedPassword = some hashedPassword

def ExclusiveMove (pool : Pool Server Call) : Move Command Outcome → Prop
  | .start _ => True
  | .turn position outcome =>
    ∀ call, pool.threads[position]? = some call → Commits call outcome →
      Exclusive pool.shared call

/-! ## Sessions that validate -/

section Validates

variable {server next : Server}

/-- A session validates until it is ended or expires. -/
theorem validates_iff (hsound : Sound server) {sessionId : String} :
    Validates server sessionId ↔ ∃ session,
      server.committed.sessions.get? sessionId = some session ∧ session.active = true ∧
        server.now < session.expiresAt := by
  constructor
  · rintro ⟨device, tie, hvalid⟩
    obtain ⟨row, hrow⟩ := Option.isSome_iff_exists.mp hvalid
    obtain ⟨rfl, -, hactive⟩ := Sessions.of_validateSessionCredentials hrow
    obtain ⟨hsession, hactive, hnow, -⟩ := Sessions.mem_activeSessions_iff.mp hactive
    exact ⟨row.session, hsession, hactive, hnow⟩
  · rintro ⟨session, hsession, hactive, hnow⟩
    obtain ⟨tokenId, token, htoken, hof, hused, hrevoked⟩ :=
      hsound.live sessionId session hsession hactive
    refine ⟨session.device, 0, ?_⟩
    refine (Sessions.forall_validate_iff ⟨fun other hother => ?_, tokenId, token, htoken, hof,
      hused, hrevoked⟩ session.device).mpr ⟨session, hsession, rfl, hnow⟩ 0
    rw [← Option.some.inj (hsession.symm.trans hother)]
    exact hactive

/-- A session that validates after time has passed did so before. -/
theorem Validates.of_later (hsound : Sound server)
    (hcommitted : next.committed = server.committed) (hnow : server.now ≤ next.now)
    (hnext : Sound next) {sessionId : String} (hvalid : Validates next sessionId) :
    Validates server sessionId := by
  obtain ⟨session, hsession, hactive, hlater⟩ := (validates_iff hnext).mp hvalid
  rw [hcommitted] at hsession
  exact (validates_iff hsound).mpr ⟨session, hsession, hactive, Nat.lt_of_le_of_lt hnow hlater⟩

end Validates

/-! ## Commits that keep the property -/

section Commit

variable {server : Server} {call : Call}

theorem resetIds_commit : (commit server call).1.history.filterMap (·.2.resetId?) =
    server.history.filterMap (·.2.resetId?) ++ call.events.filterMap Event.resetId? := by
  simp only [commit, List.filterMap_append, List.filterMap_map]
  rfl

theorem ResetsOnce.rotated (hsound : Sound server) (honce : ResetsOnce server)
    {oldId tokenId sessionId : String}
    (hrotated : Rotated server.committed call.written call.events oldId tokenId sessionId) :
    ResetsOnce (commit server call).1 := by
  have hnext := hrotated.sound hsound
  have hold : ∀ entry ∈ (commit server call).1.history, entry ∈ server.history ∨
      entry.2 = .rotated oldId tokenId := by
    intro entry hentry
    refine (mem_history_of_commit hentry).imp_right fun hnew => ?_
    exact List.mem_singleton.mp (hrotated.events ▸ hnew.2)
  refine ⟨?_, fun at' resetId userId expiresAt hash hentry => ?_,
    fun at' openedId userId hash hentry hvalid user huser => ?_⟩
  · rw [resetIds_commit, hrotated.events]
    exact (List.append_nil _).symm ▸ honce.once
  · exact honce.timely _ _ _ _ _ ((hold _ hentry).resolve_right nofun)
  · refine honce.fresh _ _ _ _ ((hold _ hentry).resolve_right nofun) ?_ user ?_
    · obtain ⟨session, hsession, hlive⟩ := (validates_iff hnext).mp hvalid
      refine (validates_iff hsound).mpr ⟨session, ?_, hlive⟩
      rw [← hsession]
      exact congrArg (·.get? openedId) (view_sessions_of_nil hrotated.sessions).symm
    · rw [← huser]
      exact congrArg (·.get? userId) (view_users_of_nil hrotated.users).symm

theorem ResetsOnce.opened (hsound : Sound server) (honce : ResetsOnce server)
    {sessionId hashedPassword : String} {session : Session}
    (hopened : Opened server.committed call.written call.events sessionId session hashedPassword)
    (hexclusive : Exclusive server call) : ResetsOnce (commit server call).1 := by
  have hnext := hopened.sound hsound
  have hevents : ∀ entry ∈ (commit server call).1.history, entry ∈ server.history ∨
      entry.2 = .opened sessionId session.userId hashedPassword := by
    intro entry hentry
    refine (mem_history_of_commit hentry).imp_right fun hnew => ?_
    exact List.mem_singleton.mp (hopened.events ▸ hnew.2)
  have husers : (commit server call).1.committed.users = server.committed.users :=
    view_users_of_nil hopened.users
  refine ⟨?_, fun at' resetId userId expiresAt hash hentry => ?_,
    fun at' openedId userId hash hentry hvalid user huser => ?_⟩
  · rw [resetIds_commit, hopened.events]
    exact (List.append_nil _).symm ▸ honce.once
  · exact honce.timely _ _ _ _ _ ((hevents _ hentry).resolve_right nofun)
  · obtain ⟨stored, hstored, hactive, hnow⟩ := (validates_iff hnext).mp hvalid
    rw [husers] at huser
    change (view server call).sessions.get? openedId = some stored at hstored
    rw [hopened.get?_sessions] at hstored
    rcases hevents _ hentry with hrecorded | hevent
    · -- a session of before has another id
      obtain ⟨before, hbefore, -⟩ := hsound.recorded _ _ _ _ hrecorded
      have hne : openedId ≠ sessionId := Table.ne_of_new hopened.new hbefore
      rw [if_neg hne] at hstored
      exact honce.fresh _ _ _ _ hrecorded
        ((validates_iff hsound).mpr ⟨stored, hstored, hactive, hnow⟩) user huser
    · cases hevent
      rw [if_pos rfl] at hstored
      refine hexclusive.opened sessionId session.userId hashedPassword ?_ session ?_ ?_ user huser
      · rw [hopened.events]
        exact List.mem_singleton_self _
      · rw [hopened.sessions]
        exact List.mem_singleton_self _
      · rw [Option.some.inj hstored]
        exact hnow

/-- A session that validates after a commit that ends sessions is none of them, and did so
before. -/
theorem Ending.validates (hsound : Sound server)
    (hending : Ending server.committed call.written call.events) {sessionId : String} :
    Validates (commit server call).1 sessionId ↔
      sessionId ∉ call.written.sessions.map Prod.fst ∧ Validates server sessionId := by
  rw [validates_iff (hending.sound hsound), validates_iff hsound]
  change (∃ session, (view server call).sessions.get? sessionId = some session ∧ _) ↔ _
  rw [hending.get?_sessions]
  split_ifs with hended
  · simp only [Option.map_eq_some_iff, hended, not_true, false_and, iff_false]
    rintro ⟨_, ⟨stored, -, rfl⟩, hactive, -⟩
    cases hactive
  · simp only [hended, not_false_eq_true, true_and]
    rfl

theorem ResetsOnce.ending (hsound : Sound server) (honce : ResetsOnce server)
    (hending : Ending server.committed call.written call.events)
    (hexclusive : Exclusive server call) : ResetsOnce (commit server call).1 := by
  have hvalidates := @Ending.validates server call hsound hending
  rcases hending.password with ⟨husers, hevents⟩ |
    ⟨resetId, ownerId, expiresAt, newPassword, owner, howner, husers, hevents⟩
  · have hhistory : (commit server call).1.history = server.history := by
      simp [commit, hevents]
    refine ⟨hhistory ▸ honce.once, hhistory ▸ honce.timely,
      fun at' openedId userId hash hentry hvalid user huser => ?_⟩
    rw [hhistory] at hentry
    refine honce.fresh _ _ _ _ hentry (hvalidates.mp hvalid).2 user ?_
    rw [← huser]
    exact congrArg (·.get? userId) (view_users_of_nil husers).symm
  · have hevent : .changed resetId ownerId expiresAt newPassword ∈ call.events := by
      rw [hevents]
      exact List.mem_singleton_self _
    have hentries : ∀ entry ∈ (commit server call).1.history, entry ∈ server.history ∨
        entry = (server.now, .changed resetId ownerId expiresAt newPassword) := by
      intro entry hentry
      refine (mem_history_of_commit hentry).imp_right fun hnew => ?_
      exact Prod.ext hnew.1 (List.mem_singleton.mp (hevents ▸ hnew.2))
    obtain ⟨hunused, hnow⟩ := hexclusive.unused _ _ _ _ hevent
    refine ⟨?_, fun at' otherId userId expires hash hentry => ?_,
      fun at' openedId userId hash hentry hvalid user huser => ?_⟩
    · rw [resetIds_commit, hevents]
      refine List.Nodup.append honce.once (List.nodup_singleton resetId) ?_
      intro id hused hsame
      exact hunused (List.mem_singleton.mp hsame ▸ hused)
    · rcases hentries _ hentry with hold | hnew
      · exact honce.timely _ _ _ _ _ hold
      · cases hnew
        exact hnow
    · have hold := (hentries _ hentry).resolve_right nofun
      obtain ⟨hkept, hvalid⟩ := hvalidates.mp hvalid
      change (server.committed.users.install call.written.users).get? userId = some user at huser
      rw [husers, Table.install_cons, Table.get?_put, Table.install_nil] at huser
      split_ifs at huser with hsame
      · subst hsame
        rw [← Option.some.inj huser, hexclusive.ended _ _ _ _ hevent _ _ _ hold hvalid hkept]
      · exact honce.fresh _ _ _ _ hold hvalid user huser

/-! ## Commits after which the property holds -/

theorem Rotated.exclusive {oldId tokenId sessionId : String}
    (hrotated : Rotated server.committed call.written call.events oldId tokenId sessionId) :
    Exclusive server call := by
  have honly : ∀ event ∈ call.events, event = .rotated oldId tokenId :=
    fun event hevent => List.mem_singleton.mp (hrotated.events ▸ hevent)
  constructor
  · intro _ _ _ _ hevent
    cases honly _ hevent
  · intro _ _ _ _ hevent
    cases honly _ hevent
  · intro _ _ _ hevent
    cases honly _ hevent

theorem Opened.exclusive (hsound : Sound server) {sessionId hashedPassword : String}
    {session : Session}
    (hopened : Opened server.committed call.written call.events sessionId session hashedPassword)
    (honce : ResetsOnce (commit server call).1) : Exclusive server call := by
  have honly : ∀ event ∈ call.events, event = .opened sessionId session.userId hashedPassword :=
    fun event hevent => List.mem_singleton.mp (hopened.events ▸ hevent)
  constructor
  · intro _ _ _ _ hevent
    cases honly _ hevent
  · intro _ _ _ _ hevent
    cases honly _ hevent
  · intro openedId userId hash hevent stored hstored hnow user huser
    have hentry : (server.now, .opened openedId userId hash) ∈ (commit server call).1.history :=
      List.mem_append_right _ (List.mem_map_of_mem hevent)
    cases honly _ hevent
    rw [hopened.sessions, List.mem_singleton, Prod.mk.injEq, Option.some.injEq] at hstored
    obtain ⟨-, rfl⟩ := hstored
    refine honce.fresh _ _ _ _ hentry ?_ user ?_
    · refine (validates_iff (hopened.sound hsound)).mpr ⟨stored, ?_, hopened.active, hnow⟩
      exact (hopened.get?_sessions sessionId).trans (if_pos rfl)
    · rw [← huser]
      exact congrArg (·.get? stored.userId) (@view_users_of_nil server call hopened.users)

theorem Ending.exclusive (hsound : Sound server)
    (hending : Ending server.committed call.written call.events)
    (honce : ResetsOnce (commit server call).1) : Exclusive server call := by
  rcases hending.password with ⟨-, hevents⟩ |
    ⟨resetId, ownerId, expiresAt, newPassword, owner, howner, husers, hevents⟩
  · constructor <;> intro _ _ _ <;> simp [hevents]
  · have honly : ∀ event ∈ call.events, event = .changed resetId ownerId expiresAt newPassword :=
      fun event hevent => List.mem_singleton.mp (hevents ▸ hevent)
    constructor
    · intro _ _ _ _ hevent
      have hentry := List.mem_append_right server.history
        (List.mem_map_of_mem (f := (server.now, ·)) hevent)
      cases honly _ hevent
      refine ⟨fun hused => ?_, honce.timely _ _ _ _ _ hentry⟩
      have hnodup := honce.once
      rw [resetIds_commit, hevents] at hnodup
      exact (List.nodup_append.mp hnodup).2.2 resetId hused resetId
        (List.mem_singleton_self resetId) rfl
    · intro _ _ _ _ hevent at' sessionId older hentry hvalid hkept
      cases honly _ hevent
      have hfresh := honce.fresh at' sessionId ownerId older (List.mem_append_left _ hentry)
        ((hending.validates hsound).mpr ⟨hkept, hvalid⟩)
      refine (Option.some.inj (hfresh { owner with hashedPassword := some newPassword } ?_)).symm
      change (server.committed.users.install call.written.users).get? ownerId = _
      rw [husers, Table.install_cons, Table.get?_put, if_pos rfl]
    · intro _ _ _ hevent
      cases honly _ hevent

end Commit

/-! ## Every run -/

section Steps

variable {lib : Libraries} {pool : Pool Server Call}

/-- Nothing but a commit opens a session or changes a password, and no session starts to
validate as time passes. -/
theorem ResetsOnce.of_same {server next : Server} (honce : ResetsOnce server)
    (hsound : Sound server) (hnext : Sound next) (hnow : server.now ≤ next.now)
    (hcommitted : next.committed = server.committed) (hhistory : next.history = server.history) :
    ResetsOnce next := by
  refine ⟨hhistory ▸ honce.once, hhistory ▸ honce.timely,
    fun at' sessionId userId hash hentry hvalid user huser => ?_⟩
  rw [hhistory] at hentry
  rw [hcommitted] at huser
  exact honce.fresh _ _ _ _ hentry (hvalid.of_later hsound hcommitted hnow hnext) user huser

theorem resetsOnce_step (hinv : Inv pool) (honce : ResetsOnce pool.shared)
    {move : Move Command Outcome} (hmove : ExclusiveMove pool move) :
    ResetsOnce ((system lib).step pool move).shared := by
  cases move with
  | start command => exact honce
  | turn position outcome =>
    cases hcall : pool.threads[position]? with
    | none => rwa [System.step_turn_of_none hcall]
    | some call =>
      rw [System.step_turn hcall]
      have hsound := hinv.holds.shared
      have hwritten := hinv.holds.thread hcall
      by_cases hcommits : Commits call outcome
      · have hexclusive := hmove call hcall hcommits
        rw [show ((system lib).turn pool.shared call outcome) = commit pool.shared call from
          turn_of_commits hcommits]
        rcases hwritten.commit hcommits.1 with ⟨_, _, _, hrotated⟩ | ⟨_, _, _, hopened⟩ | hending
        · exact honce.rotated hsound hrotated
        · exact honce.opened hsound hopened hexclusive
        · exact honce.ending hsound hending hexclusive
      · obtain ⟨hcommitted, hhistory⟩ := @same_of_not_commits lib _ _ _ hsound hwritten hcommits
        have hkeeps := keeps_turn lib hsound hwritten outcome
        exact honce.of_same hsound hkeeps.sound hkeeps.now hcommitted hhistory

theorem exclusiveMove_of_resetsOnce (hinv : Inv pool) {move : Move Command Outcome}
    (honce : ResetsOnce ((system lib).step pool move).shared) : ExclusiveMove pool move := by
  cases move with
  | start command => trivial
  | turn position outcome =>
    intro call hcall hcommits
    rw [System.step_turn hcall, show ((system lib).turn pool.shared call outcome) =
      commit pool.shared call from turn_of_commits hcommits] at honce
    have hsound := hinv.holds.shared
    rcases (hinv.holds.thread hcall).commit hcommits.1 with ⟨_, _, _, hrotated⟩ |
      ⟨_, _, _, hopened⟩ | hending
    · exact hrotated.exclusive
    · exact hopened.exclusive hsound honce
    · exact hending.exclusive hsound honce

end Steps

/-- Whatever is interleaved, every reset token changes the password once at most and before it
expires, and no session that was opened with an older password validates, exactly when every
reset commits as the first one of its token, in time, having ended the sessions of the older
password, and every login commits while the password it was checked with is that of the user. -/
theorem resets_once_iff (lib : Libraries) (users : Users) (moves : List (Move Command Outcome)) :
    (∀ next ∈ Run.visited (system lib).step (opened users) moves, ResetsOnce next.shared) ↔
      Run.StepsMeet (system lib).step ExclusiveMove (opened users) moves := by
  have hproperty : ∀ pool : Pool Server Call, Inv pool ∧ ResetsOnce pool.shared →
      ResetsOnce pool.shared := fun pool hpool => hpool.2
  have hkeep : ∀ (pool : Pool Server Call) (move : Move Command Outcome),
      Inv pool ∧ ResetsOnce pool.shared → ExclusiveMove pool move →
      Inv ((system lib).step pool move) ∧ ResetsOnce ((system lib).step pool move).shared :=
    fun pool move hpool hmove => ⟨inv_step lib hpool.1 move, resetsOnce_step hpool.1 hpool.2 hmove⟩
  have hexact : ∀ (pool : Pool Server Call) (move : Move Command Outcome),
      Inv pool ∧ ResetsOnce pool.shared → ResetsOnce ((system lib).step pool move).shared →
      ExclusiveMove pool move :=
    fun pool move hpool honce => exclusiveMove_of_resetsOnce hpool.1 honce
  refine Run.forall_visited_iff_of_inv hproperty hkeep hexact ⟨inv_opened users, ?_⟩
  refine ⟨List.nodup_nil, fun _ _ _ _ _ hentry => ?_, fun _ _ _ _ hentry => ?_⟩
  · cases hentry
  · cases hentry

/-! ## Two runs -/

def phone : Device := ⟨"10.0.0.2", "Safari"⟩

/-- A statement that does not fail, with the id that is new in it. -/
def goes (position : Nat) (id : String) : Move Command Outcome :=
  .turn position ⟨false, id, 0, "salt", "raw"⟩

/-- A reset token `r` is sent to the user. -/
def requested : List (Move Command Outcome) :=
  [.start (.requestReset "ada@example.org"), goes 0 "", goes 0 "", goes 0 "", goes 0 "",
    goes 0 "r", goes 0 ""]

/-- A second reset has read the token before the first one commits. -/
def resetTwice : List (Move Command Outcome) :=
  requested ++ [.start (.resetPassword "raw" "first"), goes 1 "", goes 1 "",
    .start (.resetPassword "raw" "second"), goes 2 "", goes 2 "",
    goes 1 "", goes 1 "", goes 1 "", goes 1 "", goes 1 "",
    goes 2 "", goes 2 "", goes 2 "", goes 2 "", goes 2 ""]

/-- A login has checked the password before the reset commits, and opens its session then. -/
def loginBesideReset : List (Move Command Outcome) :=
  requested ++ [.start (.login "ada" "lovelace" phone), goes 1 "", goes 1 "", goes 1 "",
    .start (.resetPassword "raw" "first"), goes 2 "", goes 2 "", goes 2 "", goes 2 "", goes 2 "",
    goes 2 "", goes 2 "",
    goes 1 "s", goes 1 "t", goes 1 "", goes 1 ""]

/-- One token changes the password twice, and a session of the old password validates after the
reset. -/
theorem reset_twice_and_old_session :
    (¬ ∀ next ∈ Run.visited (system plainLibraries).step (opened adaAndMallory) resetTwice,
      ResetsOnce next.shared) ∧
    ¬ ∀ next ∈ Run.visited (system plainLibraries).step (opened adaAndMallory) loginBesideReset,
      ResetsOnce next.shared := by
  constructor
  · intro hall
    have honce := (hall _ (Run.foldl_mem_visited _ _ _)).once
    have hids : ((resetTwice.foldl (system plainLibraries).step
        (opened adaAndMallory)).shared.history.filterMap (·.2.resetId?)) = ["r", "r"] := rfl
    rw [hids] at honce
    exact absurd honce (by decide)
  · intro hall
    have hfresh := (hall _ (Run.foldl_mem_visited _ _ _)).fresh 0 "s" "1" "lovelace"
      (List.mem_cons_of_mem _ List.mem_cons_self) ⟨phone, 0, rfl⟩ _ rfl
    exact absurd hfresh (by decide)

end AutoMana.Auth.Transactions
