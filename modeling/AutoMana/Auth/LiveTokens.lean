import AutoMana.Auth.Commits

/-!
# One live refresh token per session

A rotation is not told when the token that it has read is used or revoked meanwhile, and a logout
does not see the successor that a rotation has not committed. So a session has two live tokens,
or one after its logout, exactly when such a transaction commits.
-/

namespace AutoMana.Auth.Transactions

open Relational Relational.Interleaving
open Sessions (Session RefreshToken Device)

/-- The token that was replaced. -/
def Event.replaced? : Event → Option String
  | .rotated oldId _ => some oldId
  | .opened .. => none
  | .changed .. => none

/-- A session has one live token at most, and none when it is not active. A token has one
successor at most. -/
structure OneLive (server : Server) : Prop where
  unique : ∀ sessionId id other, LiveToken server.committed sessionId id →
    LiveToken server.committed sessionId other → id = other
  inactive : ∀ sessionId session, server.committed.sessions.get? sessionId = some session →
    session.active = false → ∀ id, ¬ LiveToken server.committed sessionId id
  successors : (server.history.filterMap (·.2.replaced?)).Nodup

/-- A rotation replaces a token that is live, and all live tokens of a session that is ended were
revoked. -/
structure Current (server : Server) (call : Call) : Prop where
  rotated : ∀ oldId tokenId, .rotated oldId tokenId ∈ call.events →
    ∃ sessionId, LiveToken server.committed sessionId oldId
  ended : ∀ sessionId session, (sessionId, some session) ∈ call.written.sessions →
    session.active = false → ∀ id, LiveToken server.committed sessionId id →
      id ∈ call.written.refreshTokens.map Prod.fst

def CurrentMove (pool : Pool Server Call) : Move Command Outcome → Prop
  | .start _ => True
  | .turn position outcome =>
    ∀ call, pool.threads[position]? = some call → Commits call outcome → Current pool.shared call

/-- The tokens that were replaced are used. -/
structure Settled (server : Server) : Prop extends OneLive server where
  used : ∀ id ∈ server.history.filterMap (·.2.replaced?),
    ∃ token, server.committed.refreshTokens.get? id = some token ∧ token.used = true

/-! ## Live tokens after a commit -/

section Commit

variable {server : Server} {call : Call}

theorem Rotated.liveToken_iff {oldId tokenId sessionId : String}
    (hrotated : Rotated server.committed call.written call.events oldId tokenId sessionId)
    {ownerId id : String} :
    LiveToken (view server call) ownerId id ↔ id = tokenId ∧ ownerId = sessionId ∨
      id ≠ tokenId ∧ id ≠ oldId ∧ LiveToken server.committed ownerId id := by
  obtain ⟨token, expireTime, -, -, htokens⟩ := hrotated.get?_refreshTokens
  rw [LiveToken, htokens]
  split_ifs with hnew hold
  · subst hnew
    constructor
    · rintro ⟨inserted, hinserted, rfl, -⟩
      exact .inl ⟨rfl, by rw [← Option.some.inj hinserted]⟩
    · rintro (⟨-, rfl⟩ | ⟨hne, -⟩)
      · exact ⟨_, rfl, rfl, rfl, rfl⟩
      · exact absurd rfl hne
  · subst hold
    simp [hnew]
  · simp [hnew, hold, LiveToken]

theorem Opened.liveToken_iff {sessionId hashedPassword : String} {session : Session}
    (hopened : Opened server.committed call.written call.events sessionId session hashedPassword) :
    ∃ tokenId, server.committed.refreshTokens.get? tokenId = none ∧ ∀ ownerId id,
      LiveToken (view server call) ownerId id ↔ id = tokenId ∧ ownerId = sessionId ∨
        id ≠ tokenId ∧ LiveToken server.committed ownerId id := by
  obtain ⟨tokenId, expireTime, hnew, htokens⟩ := hopened.get?_refreshTokens
  refine ⟨tokenId, hnew, fun ownerId id => ?_⟩
  rw [LiveToken, htokens]
  split_ifs with hsame
  · subst hsame
    constructor
    · rintro ⟨inserted, hinserted, rfl, -⟩
      exact .inl ⟨rfl, by rw [← Option.some.inj hinserted]⟩
    · rintro (⟨-, rfl⟩ | ⟨hne, -⟩)
      · exact ⟨_, rfl, rfl, rfl, rfl⟩
      · exact absurd rfl hne
  · simp [hsame, LiveToken]

theorem Ending.liveToken_iff (hending : Ending server.committed call.written call.events)
    {ownerId id : String} :
    LiveToken (view server call) ownerId id ↔
      id ∉ call.written.refreshTokens.map Prod.fst ∧ LiveToken server.committed ownerId id := by
  rw [LiveToken, hending.get?_refreshTokens]
  split_ifs with hrevoked
  · simp [hrevoked]
  · simp [hrevoked, LiveToken]

/-- No session has a token before it is stored. -/
theorem Sound.not_liveToken (hsound : Sound server) {sessionId : String}
    (hnew : server.committed.sessions.get? sessionId = none) (id : String) :
    ¬ LiveToken server.committed sessionId id := by
  rintro ⟨token, htoken, rfl, -⟩
  have hstored := hsound.owned id token htoken
  rw [hnew] at hstored
  cases hstored

theorem replaced_commit : (commit server call).1.history.filterMap (·.2.replaced?) =
    server.history.filterMap (·.2.replaced?) ++ call.events.filterMap Event.replaced? := by
  simp only [commit, List.filterMap_append, List.filterMap_map]
  rfl

/-- The events of a transaction that ends sessions replace no token. -/
theorem Ending.notMem_replaced (hending : Ending server.committed call.written call.events)
    {oldId tokenId : String} : .rotated oldId tokenId ∉ call.events := by
  rcases hending.password with ⟨-, hevents⟩ | ⟨_, _, _, _, _, -, -, hevents⟩ <;> simp [hevents]

theorem Ending.replaced (hending : Ending server.committed call.written call.events) :
    call.events.filterMap Event.replaced? = [] := by
  rcases hending.password with ⟨-, hevents⟩ | ⟨_, _, _, _, _, -, -, hevents⟩ <;>
    rw [hevents] <;> rfl

/-! ## Commits that keep one live token -/

theorem Settled.rotated (hsettled : Settled server) {oldId tokenId sessionId : String}
    (hrotated : Rotated server.committed call.written call.events oldId tokenId sessionId)
    (hcurrent : Current server call) : Settled (commit server call).1 := by
  obtain ⟨token, expireTime, hold, hsession, htokens⟩ := hrotated.get?_refreshTokens
  have hevent : .rotated oldId tokenId ∈ call.events := by
    rw [hrotated.events]
    exact List.mem_singleton_self _
  have hlive : LiveToken server.committed sessionId oldId := by
    obtain ⟨ownerId, live, hget, hof, hunused⟩ := hcurrent.rotated oldId tokenId hevent
    obtain rfl := Option.some.inj (hold.symm.trans hget)
    exact ⟨token, hold, hsession, hunused⟩
  have hlater := @Rotated.liveToken_iff server call oldId tokenId sessionId hrotated
  -- the live token of the session was the old one
  have honly : ∀ id, id ≠ oldId → ¬ LiveToken server.committed sessionId id :=
    fun id hne hother => hne (hsettled.unique sessionId id oldId hother hlive)
  have hreplaced : call.events.filterMap Event.replaced? = [oldId] := by
    rw [hrotated.events]
    rfl
  refine ⟨⟨fun ownerId id other hid hother => ?_,
    fun ownerId session hget hinactive id hid => ?_, ?_⟩, fun id hid => ?_⟩
  · rcases hlater.mp hid with ⟨rfl, rfl⟩ | ⟨-, hne, hkept⟩
    · rcases hlater.mp hother with ⟨rfl, -⟩ | ⟨-, hne, hkept⟩
      · rfl
      · exact absurd hkept (honly other hne)
    · rcases hlater.mp hother with ⟨rfl, rfl⟩ | ⟨-, -, hkept'⟩
      · exact absurd hkept (honly id hne)
      · exact hsettled.unique ownerId id other hkept hkept'
  · change (view server call).sessions.get? ownerId = some session at hget
    rw [view_sessions_of_nil hrotated.sessions] at hget
    rcases hlater.mp hid with ⟨rfl, rfl⟩ | ⟨-, -, hkept⟩
    · exact hsettled.inactive _ session hget hinactive oldId hlive
    · exact hsettled.inactive ownerId session hget hinactive id hkept
  · rw [replaced_commit, hreplaced]
    refine List.Nodup.append hsettled.successors (List.nodup_singleton oldId) ?_
    intro id hused hsame
    obtain rfl := List.mem_singleton.mp hsame
    obtain ⟨stored, hget, htrue⟩ := hsettled.used id hused
    obtain ⟨live, hgetLive, -, hfalse, -⟩ := hlive
    obtain rfl := Option.some.inj (hget.symm.trans hgetLive)
    rw [htrue] at hfalse
    cases hfalse
  · change ∃ token, (view server call).refreshTokens.get? id = some token ∧ token.used = true
    rw [replaced_commit, hreplaced, List.mem_append, List.mem_singleton] at hid
    have hne : id ≠ tokenId := by
      rcases hid with hused | rfl
      · obtain ⟨stored, hget, -⟩ := hsettled.used id hused
        exact Table.ne_of_new hrotated.new hget
      · exact Table.ne_of_new hrotated.new hold
    rw [htokens, if_neg hne]
    split_ifs with hsame
    · exact ⟨_, rfl, rfl⟩
    · exact hsettled.used id (hid.resolve_right hsame)

theorem Settled.opened (hsound : Sound server) (hsettled : Settled server)
    {sessionId hashedPassword : String} {session : Session}
    (hopened : Opened server.committed call.written call.events sessionId session hashedPassword) :
    Settled (commit server call).1 := by
  obtain ⟨tokenId, hnew, hlater⟩ := hopened.liveToken_iff
  have hnone := hsound.not_liveToken hopened.new
  have hreplaced : call.events.filterMap Event.replaced? = [] := by
    rw [hopened.events]
    rfl
  refine ⟨⟨fun ownerId id other hid hother => ?_,
    fun ownerId stored hget hinactive id hid => ?_, ?_⟩, fun id hid => ?_⟩
  · rcases (hlater _ _).mp hid with ⟨rfl, rfl⟩ | ⟨-, hkept⟩
    · rcases (hlater _ _).mp hother with ⟨rfl, -⟩ | ⟨-, hkept⟩
      · rfl
      · exact absurd hkept (hnone other)
    · rcases (hlater _ _).mp hother with ⟨rfl, rfl⟩ | ⟨-, hkept'⟩
      · exact absurd hkept (hnone id)
      · exact hsettled.unique ownerId id other hkept hkept'
  · change (view server call).sessions.get? ownerId = some stored at hget
    rw [hopened.get?_sessions] at hget
    split_ifs at hget with hsame
    · obtain rfl := Option.some.inj hget
      rw [hopened.active] at hinactive
      cases hinactive
    · rcases (hlater _ _).mp hid with ⟨-, howner⟩ | ⟨-, hkept⟩
      · exact hsame howner
      · exact hsettled.inactive ownerId stored hget hinactive id hkept
  · rw [replaced_commit, hreplaced, List.append_nil]
    exact hsettled.successors
  · rw [replaced_commit, hreplaced, List.append_nil] at hid
    obtain ⟨stored, hget, hused⟩ := hsettled.used id hid
    obtain ⟨insertedId, expireTime, hinserted, htokens⟩ := hopened.get?_refreshTokens
    have hne : id ≠ insertedId := Table.ne_of_new hinserted hget
    exact ⟨stored, (htokens id).trans ((if_neg hne).trans hget), hused⟩

theorem Settled.ending (hsettled : Settled server)
    (hending : Ending server.committed call.written call.events)
    (hcurrent : Current server call) : Settled (commit server call).1 := by
  have hlater := @Ending.liveToken_iff server call hending
  refine ⟨⟨fun ownerId id other hid hother => ?_,
    fun ownerId session hget hinactive id hid => ?_, ?_⟩, fun id hid => ?_⟩
  · exact hsettled.unique ownerId id other (hlater.mp hid).2 (hlater.mp hother).2
  · obtain ⟨hkept, hlive⟩ := hlater.mp hid
    change (view server call).sessions.get? ownerId = some session at hget
    rw [hending.get?_sessions] at hget
    split_ifs at hget with hended
    · obtain ⟨version, hversion, rfl⟩ := List.mem_map.mp hended
      obtain ⟨stored, -, hvalue⟩ := hending.sessions version hversion
      refine hkept (hcurrent.ended version.1 { stored with active := false } ?_ rfl id hlive)
      rw [← hvalue]
      exact hversion
    · exact hsettled.inactive ownerId session hget hinactive id hlive
  · rw [replaced_commit, hending.replaced, List.append_nil]
    exact hsettled.successors
  · rw [replaced_commit, hending.replaced, List.append_nil] at hid
    obtain ⟨stored, hget, hused⟩ := hsettled.used id hid
    change ∃ token, (view server call).refreshTokens.get? id = some token ∧ token.used = true
    rw [hending.get?_refreshTokens, hget]
    split_ifs
    · exact ⟨_, rfl, hused⟩
    · exact ⟨stored, rfl, hused⟩

/-! ## Commits after which there is one live token -/

theorem Rotated.current (hsound : Sound server) {oldId tokenId sessionId : String}
    (hrotated : Rotated server.committed call.written call.events oldId tokenId sessionId)
    (hone : OneLive (commit server call).1) : Current server call := by
  have hlater := @Rotated.liveToken_iff server call oldId tokenId sessionId hrotated
  constructor
  · intro old new hevent
    rw [hrotated.events, List.mem_singleton, Event.rotated.injEq] at hevent
    obtain ⟨rfl, rfl⟩ := hevent
    by_contra hnone
    rw [not_exists] at hnone
    have hnew : LiveToken (view server call) sessionId new := hlater.mpr (.inl ⟨rfl, rfl⟩)
    obtain ⟨session, hsession⟩ := Option.isSome_iff_exists.mp hrotated.stored
    have hkept : (view server call).sessions.get? sessionId = some session := by
      rw [view_sessions_of_nil hrotated.sessions, hsession]
    cases hactive : session.active with
    | false => exact hone.inactive sessionId session hkept hactive new hnew
    | true =>
      -- the live token of the session is another one
      obtain ⟨liveId, hlive⟩ := hsound.live sessionId session hsession hactive
      have hneOld : liveId ≠ old := fun hsame => hnone sessionId (hsame ▸ hlive)
      have hneNew : liveId ≠ new := by
        obtain ⟨token, hget, -⟩ := hlive
        exact Table.ne_of_new hrotated.new hget
      have hother := hlater.mpr (.inr ⟨hneNew, hneOld, hlive⟩)
      exact hneNew (hone.unique sessionId liveId new hother hnew)
  · intro ownerId session hmem
    rw [hrotated.sessions] at hmem
    cases hmem

theorem Opened.current {sessionId hashedPassword : String} {session : Session}
    (hopened : Opened server.committed call.written call.events sessionId session hashedPassword) :
    Current server call := by
  constructor
  · intro oldId tokenId hevent
    rw [hopened.events, List.mem_singleton] at hevent
    cases hevent
  · intro ownerId stored hmem hinactive
    rw [hopened.sessions, List.mem_singleton, Prod.mk.injEq, Option.some.injEq] at hmem
    rw [hmem.2, hopened.active] at hinactive
    cases hinactive

theorem Ending.current (hending : Ending server.committed call.written call.events)
    (hone : OneLive (commit server call).1) : Current server call := by
  constructor
  · intro oldId tokenId hevent
    exact absurd hevent hending.notMem_replaced
  · intro sessionId session hmem hinactive id hlive
    by_contra hkept
    have hended : sessionId ∈ call.written.sessions.map Prod.fst :=
      List.mem_map.mpr ⟨_, hmem, rfl⟩
    obtain ⟨stored, hget, -⟩ := hending.sessions _ hmem
    refine hone.inactive sessionId { stored with active := false } ?_ rfl id
      (hending.liveToken_iff.mpr ⟨hkept, hlive⟩)
    change (view server call).sessions.get? sessionId = _
    rw [hending.get?_sessions, if_pos hended, hget]
    rfl

end Commit

/-! ## Every run -/

section Steps

variable {lib : Libraries} {pool : Pool Server Call}

theorem OneLive.of_same {server next : Server} (hone : OneLive server)
    (hcommitted : next.committed = server.committed) (hhistory : next.history = server.history) :
    OneLive next := by
  refine ⟨?_, ?_, ?_⟩
  · rw [hcommitted]
    exact hone.unique
  · rw [hcommitted]
    exact hone.inactive
  · rw [hhistory]
    exact hone.successors

theorem Settled.of_same {server next : Server} (hsettled : Settled server)
    (hcommitted : next.committed = server.committed) (hhistory : next.history = server.history) :
    Settled next := by
  refine ⟨hsettled.toOneLive.of_same hcommitted hhistory, ?_⟩
  rw [hcommitted, hhistory]
  exact hsettled.used

theorem settled_step (hinv : Inv pool) (hsettled : Settled pool.shared)
    {move : Move Command Outcome} (hmove : CurrentMove pool move) :
    Settled ((system lib).step pool move).shared := by
  cases move with
  | start command => exact hsettled
  | turn position outcome =>
    cases hcall : pool.threads[position]? with
    | none => rwa [System.step_turn_of_none hcall]
    | some call =>
      rw [System.step_turn hcall]
      have hwritten := hinv.holds.thread hcall
      by_cases hcommits : Commits call outcome
      · have hcurrent := hmove call hcall hcommits
        rw [show ((system lib).turn pool.shared call outcome) = commit pool.shared call from
          turn_of_commits hcommits]
        rcases hwritten.commit hcommits.1 with ⟨_, _, _, hrotated⟩ | ⟨_, _, _, hopened⟩ | hending
        · exact hsettled.rotated hrotated hcurrent
        · exact hsettled.opened hinv.holds.shared hopened
        · exact hsettled.ending hending hcurrent
      · obtain ⟨hcommitted, hhistory⟩ :=
          @same_of_not_commits lib _ _ _ hinv.holds.shared hwritten hcommits
        exact hsettled.of_same hcommitted hhistory

theorem currentMove_of_oneLive (hinv : Inv pool) {move : Move Command Outcome}
    (hone : OneLive ((system lib).step pool move).shared) : CurrentMove pool move := by
  cases move with
  | start command => trivial
  | turn position outcome =>
    intro call hcall hcommits
    rw [System.step_turn hcall, show ((system lib).turn pool.shared call outcome) =
      commit pool.shared call from turn_of_commits hcommits] at hone
    rcases (hinv.holds.thread hcall).commit hcommits.1 with ⟨_, _, _, hrotated⟩ |
      ⟨_, _, _, hopened⟩ | hending
    · exact hrotated.current hinv.holds.shared hone
    · exact hopened.current
    · exact hending.current hone

end Steps

/-- Whatever is interleaved, every session has one live token at most, none after it is ended,
and every token one successor at most, exactly when every rotation commits while the token it
replaces is live, and every logout or reset has revoked all live tokens of its sessions. -/
theorem one_live_token_iff (lib : Libraries) (users : Users) (moves : List (Move Command Outcome)) :
    (∀ next ∈ Run.visited (system lib).step (opened users) moves, OneLive next.shared) ↔
      Run.StepsMeet (system lib).step CurrentMove (opened users) moves := by
  have hproperty : ∀ pool : Pool Server Call, Inv pool ∧ Settled pool.shared →
      OneLive pool.shared := fun pool hpool => hpool.2.toOneLive
  have hkeep : ∀ (pool : Pool Server Call) (move : Move Command Outcome),
      Inv pool ∧ Settled pool.shared → CurrentMove pool move →
      Inv ((system lib).step pool move) ∧ Settled ((system lib).step pool move).shared :=
    fun pool move hpool hmove => ⟨inv_step lib hpool.1 move, settled_step hpool.1 hpool.2 hmove⟩
  have hexact : ∀ (pool : Pool Server Call) (move : Move Command Outcome),
      Inv pool ∧ Settled pool.shared → OneLive ((system lib).step pool move).shared →
      CurrentMove pool move := fun pool move hpool hone => currentMove_of_oneLive hpool.1 hone
  refine Run.forall_visited_iff_of_inv hproperty hkeep hexact ⟨inv_opened users, ?_⟩
  refine ⟨⟨fun _ _ _ hlive => ?_, fun _ _ hget => ?_, List.nodup_nil⟩, fun _ hid => ?_⟩
  · obtain ⟨_, hget, -⟩ := hlive
    cases hget
  · cases hget
  · cases hid

/-! ## Two runs -/

def laptop : Device := ⟨"10.0.0.1", "Firefox"⟩

/-- A statement that does not fail, with the id that is new in it. -/
def runs (position : Nat) (id : String) : Move Command Outcome :=
  .turn position ⟨false, id, 0, "", ""⟩

/-- A login that opens the session `s` with the token `t`, and two refreshes that are at the
update of the token. -/
def loginAndRead : List (Move Command Outcome) :=
  [.start (.login "ada" "lovelace" laptop), runs 0 "", runs 0 "", runs 0 "", runs 0 "s",
    runs 0 "t", runs 0 "", runs 0 "", .start (.refreshSession "s" laptop), runs 1 "", runs 1 "",
    runs 1 ""]

/-- A second refresh reads the token as well, and both rotate it. -/
def refreshTwice : List (Move Command Outcome) :=
  loginAndRead ++ [.start (.refreshSession "s" laptop), runs 2 "", runs 2 "", runs 2 "",
    runs 1 "", runs 1 "u", runs 1 "", runs 2 "", runs 2 "v", runs 2 ""]

/-- The session is ended before the refresh rotates its token. -/
def refreshAfterLogout : List (Move Command Outcome) :=
  loginAndRead ++ [.start (.logout "s"), runs 2 "", runs 2 "", runs 2 "", runs 2 "", runs 2 "",
    runs 2 "", runs 2 "", runs 2 "", runs 1 "", runs 1 "u", runs 1 ""]

/-- Two refreshes of one token leave two live tokens of the session, and a refresh beside a
logout leaves one of the session that is ended. -/
theorem two_live_tokens :
    (¬ ∀ next ∈ Run.visited (system plainLibraries).step (opened adaAndMallory) refreshTwice,
      OneLive next.shared) ∧
    ¬ ∀ next ∈ Run.visited (system plainLibraries).step (opened adaAndMallory) refreshAfterLogout,
      OneLive next.shared := by
  constructor
  · intro hall
    have hone := hall _ (Run.foldl_mem_visited _ _ _)
    have hsame := hone.unique "s" "u" "v" ⟨_, rfl, rfl, rfl, rfl⟩ ⟨_, rfl, rfl, rfl, rfl⟩
    exact absurd hsame (by decide)
  · intro hall
    have hone := hall _ (Run.foldl_mem_visited _ _ _)
    exact hone.inactive "s" _ rfl rfl "u" ⟨_, rfl, rfl, rfl, rfl⟩

end AutoMana.Auth.Transactions
