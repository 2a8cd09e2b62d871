import AutoMana.Relational.Locking

/-!
# Rotated refresh tokens

`resolve_token` locks the row of the refresh token, has it exchanged at eBay, and upserts a
rotated one in the transaction of the service that called it. What that service does afterwards
decides whether the new token is committed, while eBay has given up the old one already.
-/

namespace AutoMana.Ebay.TokenRotation

open Relational Relational.Interleaving

/-! ## The services of one user and app -/

structure Server where
  /-- The row of `ebay_refresh_tokens`, as it is committed. -/
  refreshToken : String
  /-- A transaction holds the row since its `FOR UPDATE`. -/
  locked : Bool
  /-- `ebay:access_token:…` is in the cache. -/
  accessToken : Bool
  /-- The refresh token that eBay issued last, the only one it takes. -/
  issued : String

/-- What a turn meets outside. -/
structure Outcome where
  /-- The await raises, or the service is cancelled there. -/
  fails : Bool
  /-- The refresh token in eBay's answer. -/
  refreshToken : Option String
  /-- The service has another await before its transaction ends. -/
  more : Bool

inductive Command where
  | call
  /-- The access token in the cache expires. -/
  | expire

/-- A service that calls `resolve_token` in its transaction, at its await points. -/
inductive Service where
  | received (command : Command)
  | fetch
  | exchange (record : String)
  | upsert (newRefresh : Option String)
  | cache (newRefresh : Option String)
  /-- The rest of a service that holds the row. -/
  | body (newRefresh : Option String)
  /-- The rest of a service that found an access token. -/
  | cachedBody
  | ended

/-- `new_refresh`, if it differs from what was sent. -/
def newRefresh? (record : String) (outcome : Outcome) : Option String :=
  outcome.refreshToken.filter fun token => decide (token ≠ "") && decide (token ≠ record)

/-- The transaction is rolled back, and the row is free. -/
def rollback (server : Server) : Server × Service := ({ server with locked := false }, .ended)

/-- A service up to its next await. -/
def turn (server : Server) (service : Service) (outcome : Outcome) : Server × Service :=
  match service with
  | .received .expire => ({ server with accessToken := false }, .ended)
  | .received .call =>
    if outcome.fails then (server, .ended)
    else if server.accessToken then (server, .cachedBody)
    else (server, .fetch)
  | .fetch =>
    if outcome.fails then (server, .ended)
    else if server.locked then (server, .fetch)
    else ({ server with locked := true }, .exchange server.refreshToken)
  -- eBay refuses all but the token it issued last
  | .exchange record =>
    if record ≠ server.issued then rollback server
    else
      let next := { server with issued := (newRefresh? record outcome).getD server.issued }
      if outcome.fails then rollback next else (next, .upsert (newRefresh? record outcome))
  -- the upsert is seen from the commit on
  | .upsert newRefresh =>
    if outcome.fails then rollback server else (server, .cache newRefresh)
  | .cache newRefresh =>
    if outcome.fails then rollback server
    else ({ server with accessToken := true }, .body newRefresh)
  | .body newRefresh =>
    if outcome.fails then rollback server
    else if outcome.more then (server, .body newRefresh)
    else
      ({ server with
          refreshToken := newRefresh.getD server.refreshToken
          locked := false },
        .ended)
  | .cachedBody =>
    if outcome.fails then (server, .ended)
    else if outcome.more then (server, .cachedBody)
    else (server, .ended)
  | .ended => (server, .ended)

def system : System Server Service Command Outcome where
  start _ command := .received command
  turn := turn

/-- The committed token is the last that eBay issued, and no service has started. -/
def opened (refreshToken : String) (accessToken : Bool) : Pool Server Service :=
  ⟨⟨refreshToken, false, accessToken, refreshToken⟩, []⟩

/-! ## The condition -/

/-- A refresh token that eBay has issued to the service, which did not commit it yet. -/
def uncommitted? : Service → Outcome → Option String
  | .exchange record, outcome => newRefresh? record outcome
  | .upsert newRefresh, _ => newRefresh
  | .cache newRefresh, _ => newRefresh
  | .body newRefresh, _ => newRefresh
  | _, _ => none

/-- A service to which eBay issued a new refresh token does not fail. -/
def RotationCommits (pool : Pool Server Service) : Move Command Outcome → Prop
  | .start _ => True
  | .turn position outcome => ∀ service, pool.threads[position]? = some service →
    outcome.fails = true → uncommitted? service outcome = none

/-! ## The row lock -/

/-- The service holds the row. -/
def Service.holds : Service → Prop
  | .exchange _ | .upsert _ | .cache _ | .body _ => True
  | _ => False

def Server.free (server : Server) : Prop := server.locked = false

theorem locks : Locks system Server.free Service.holds where
  start _ _ := id
  other server service outcome hholds := by
    change (Server.free (turn _ _ _).1 ↔ _ ∧ ¬ Service.holds (turn _ _ _).2) ∧
      (Service.holds (turn _ _ _).2 → _)
    cases service with
    | received command =>
      cases command with
      | expire => simp [turn, Service.holds, Server.free]
      | call =>
        rw [turn]
        split_ifs <;> simp [Service.holds]
    | fetch =>
      rw [turn]
      split_ifs with _ hlocked
      · simp [Service.holds]
      · simp [Service.holds]
      · simpa [Service.holds, Server.free] using hlocked
    | cachedBody =>
      rw [turn]
      split_ifs <;> simp [Service.holds]
    | ended => simp [turn, Service.holds]
    | exchange | upsert | cache | body => exact absurd trivial hholds
  holder server service outcome hholds hheld := by
    change Server.free (turn _ _ _).1 ↔ ¬ Service.holds (turn _ _ _).2
    have hkept : ∀ newRefresh, Server.free server ↔ ¬ Service.holds (.body newRefresh) :=
      fun _ => iff_of_false hheld fun h => h trivial
    cases service with
    | exchange record =>
      rw [turn]
      split_ifs
      · exact iff_of_true rfl id
      · exact iff_of_true rfl id
      · exact hkept none
    | upsert | cache =>
      rw [turn]
      split_ifs
      · exact iff_of_true rfl id
      · exact hkept none
    | body =>
      rw [turn]
      split_ifs
      · exact iff_of_true rfl id
      · exact hkept none
      · exact iff_of_true rfl id
    | received | fetch | cachedBody | ended => exact absurd hholds id

/-! ## A kept token -/

/-- Without an open exchange the committed token is the last. -/
def Kept (server : Server) : Prop :=
  server.locked = false → server.refreshToken = server.issued

/-- eBay takes another token than the committed one. -/
def Lost (server : Server) : Prop := server.refreshToken ≠ server.issued

/-- The new token, if there is one, is all that the row lacks. -/
structure Missing (server : Server) (newRefresh : Option String) : Prop where
  issued : server.issued = newRefresh.getD server.refreshToken
  new : ∀ token, newRefresh = some token → token ≠ server.refreshToken

/-- The holder of the row brings what is missing. -/
def Sound (server : Server) : Service → Prop
  | .exchange record => record = server.refreshToken ∧ server.refreshToken = server.issued
  | .upsert newRefresh | .cache newRefresh | .body newRefresh => Missing server newRefresh
  | _ => True

theorem sound_of_not_holds {server : Server} {service : Service} (hholds : ¬ service.holds) :
    Sound server service := by
  cases service with
  | exchange | upsert | cache | body => exact absurd trivial hholds
  | received | fetch | cachedBody | ended => trivial

/-- A service that does not hold the row changes neither token. -/
theorem tokens_turn (server : Server) {service : Service} (hholds : ¬ service.holds)
    (outcome : Outcome) :
    (turn server service outcome).1.refreshToken = server.refreshToken ∧
      (turn server service outcome).1.issued = server.issued := by
  cases service with
  | received command =>
    cases command with
    | expire => exact ⟨rfl, rfl⟩
    | call =>
      rw [turn]
      split_ifs <;> exact ⟨rfl, rfl⟩
  | fetch | cachedBody =>
    rw [turn]
    split_ifs <;> exact ⟨rfl, rfl⟩
  | ended => exact ⟨rfl, rfl⟩
  | exchange | upsert | cache | body => exact absurd trivial hholds

/-- A service that comes to hold the row has the committed token. -/
theorem holds_turn {server : Server} {service : Service} (hholds : ¬ service.holds)
    {outcome : Outcome} (hnext : (turn server service outcome).2.holds) :
    server.locked = false ∧
      (turn server service outcome).2 = .exchange server.refreshToken := by
  cases service with
  | received command =>
    cases command with
    | expire => exact absurd hnext id
    | call =>
      rw [turn] at hnext
      split_ifs at hnext <;> exact absurd hnext id
  | fetch =>
    rw [turn] at hnext ⊢
    split_ifs at hnext ⊢ with _ hlocked
    · exact absurd hnext id
    · exact absurd hnext id
    · exact ⟨by simpa using hlocked, rfl⟩
  | cachedBody =>
    rw [turn] at hnext
    split_ifs at hnext <;> exact absurd hnext id
  | ended => exact absurd hnext id
  | exchange | upsert | cache | body => exact absurd trivial hholds

theorem newRefresh?_ne {record token : String} {outcome : Outcome}
    (hnew : newRefresh? record outcome = some token) : token ≠ record := by
  rw [newRefresh?, Option.filter_eq_some_iff, Bool.and_eq_true, decide_eq_true_eq,
    decide_eq_true_eq] at hnew
  exact hnew.2.2

/-- A rollback keeps the token if there is no new one, and else loses it. -/
theorem rollback_of_missing {server : Server} {newRefresh : Option String}
    (hmissing : Missing server newRefresh) :
    (newRefresh = none → Kept (rollback server).1) ∧
      (newRefresh ≠ none → Lost (rollback server).1) := by
  refine ⟨fun hnone _ => ?_, fun hsome => ?_⟩
  · have hissued := hmissing.issued
    rw [hnone] at hissued
    exact hissued.symm
  · obtain ⟨token, rfl⟩ := Option.ne_none_iff_exists'.mp hsome
    exact fun hsame => hmissing.new token rfl (hmissing.issued.symm.trans hsame.symm)

/-- What eBay does for the token that it issued last. -/
def afterExchange (server : Server) (outcome : Outcome) : Server :=
  { server with
    issued := (newRefresh? server.refreshToken outcome).getD server.refreshToken }

theorem turn_exchange {server : Server} (hlast : server.refreshToken = server.issued)
    (outcome : Outcome) :
    turn server (.exchange server.refreshToken) outcome =
      if outcome.fails then rollback (afterExchange server outcome)
      else (afterExchange server outcome,
        .upsert (newRefresh? server.refreshToken outcome)) := by
  rw [turn, if_neg (not_not_intro hlast), afterExchange, ← hlast]

theorem missing_afterExchange (server : Server) (outcome : Outcome) :
    Missing (afterExchange server outcome) (newRefresh? server.refreshToken outcome) :=
  ⟨rfl, fun _ hnew => newRefresh?_ne hnew⟩

/-- When the holder of the row fails, what it did not commit decides whether the token is lost. -/
theorem holder_fails {server : Server} {service : Service} (hsound : Sound server service)
    (hholds : service.holds) {outcome : Outcome} (hfails : outcome.fails = true) :
    (turn server service outcome).2 = .ended ∧
      (uncommitted? service outcome = none → Kept (turn server service outcome).1) ∧
      (uncommitted? service outcome ≠ none → Lost (turn server service outcome).1) := by
  cases service with
  | received | fetch | cachedBody | ended => exact absurd hholds id
  | exchange record =>
    obtain ⟨rfl, hlast⟩ := hsound
    rw [turn_exchange hlast, if_pos hfails]
    exact ⟨rfl, rollback_of_missing (missing_afterExchange server outcome)⟩
  | upsert | cache | body =>
    rw [turn, if_pos hfails]
    exact ⟨rfl, rollback_of_missing hsound⟩

/-- A turn of the holder that does not fail brings the new token nearer to its commit. -/
theorem holder_turn {server : Server} {service : Service} (hsound : Sound server service)
    (hholds : service.holds) (hheld : server.locked = true) {outcome : Outcome}
    (hfails : ¬ outcome.fails = true) :
    Kept (turn server service outcome).1 ∧
      Sound (turn server service outcome).1 (turn server service outcome).2 := by
  have hopen : ∀ next : Server, next.locked = server.locked → Kept next := by
    intro next hsame hfree
    rw [hsame, hheld] at hfree
    cases hfree
  cases service with
  | received | fetch | cachedBody | ended => exact absurd hholds id
  | exchange record =>
    obtain ⟨rfl, hlast⟩ := hsound
    rw [turn_exchange hlast, if_neg hfails]
    exact ⟨hopen _ rfl, missing_afterExchange server outcome⟩
  | upsert newRefresh =>
    rw [turn, if_neg hfails]
    exact ⟨hopen _ rfl, hsound⟩
  | cache newRefresh =>
    rw [turn, if_neg hfails]
    exact ⟨hopen _ rfl, hsound.issued, hsound.new⟩
  | body newRefresh =>
    rw [turn, if_neg hfails]
    split_ifs
    · exact ⟨hopen _ rfl, hsound⟩
    · exact ⟨fun _ => hsound.issued.symm, trivial⟩

/-- Nothing is lost while the services to which eBay issued a new token commit it. -/
theorem respects_kept : Respects system Kept Sound fun pool move =>
    Locked Server.free Service.holds pool ∧ RotationCommits pool move where
  start _ _ _ _ := trivial
  turn pool position outcome service hpool hmove hservice := by
    obtain ⟨hlocked, hcommits⟩ := hmove
    by_cases hholds : service.holds
    · have hheld : pool.shared.locked = true := by
        simpa [Server.free] using hlocked.not_free hservice hholds
      have hsound := hpool.thread hservice
      by_cases hfails : outcome.fails = true
      · obtain ⟨hended, hkept, -⟩ := holder_fails hsound hholds hfails
        refine ⟨hkept (hcommits service hservice hfails), ?_⟩
        change Sound (turn pool.shared service outcome).1 (turn pool.shared service outcome).2
        rw [hended]
        trivial
      · exact holder_turn hsound hholds hheld hfails
    · obtain ⟨hcommitted, hissued⟩ := tokens_turn _ hholds outcome
      refine ⟨fun hfree => ?_, ?_⟩
      · have hbefore := ((locks.other pool.shared service outcome hholds).1.mp hfree).1
        exact hcommitted.trans ((hpool.shared hbefore).trans hissued.symm)
      · by_cases hnext : Service.holds (turn pool.shared service outcome).2
        · obtain ⟨hfree, htaken⟩ := holds_turn hholds hnext
          change Sound (turn pool.shared service outcome).1 (turn pool.shared service outcome).2
          rw [htaken]
          exact ⟨hcommitted.symm, hcommitted.trans ((hpool.shared hfree).trans hissued.symm)⟩
        · exact sound_of_not_holds hnext
  others pool position outcome service hpool hmove hservice elsewhere other hne hother := by
    by_cases hholds : service.holds
    · exact sound_of_not_holds (hmove.1.exclusive.others hservice hholds hne hother)
    · obtain ⟨hcommitted, hissued⟩ := tokens_turn _ hholds outcome
      change Sound (turn pool.shared service outcome).1 other
      have hsound := hpool.thread hother
      cases other with
      | exchange record => rwa [Sound, hcommitted, hissued]
      | upsert | cache | body =>
        exact ⟨by rw [hissued, hcommitted, hsound.issued], by rw [hcommitted]; exact hsound.new⟩
      | received | fetch | cachedBody | ended => trivial

/-! ## A lost token -/

/-- Every exchange is refused. -/
def Refused (server : Server) : Service → Prop
  | .exchange record => record = server.refreshToken
  | .upsert _ | .cache _ | .body _ => False
  | _ => True

theorem refused_of_not_holds {server : Server} {service : Service} (hholds : ¬ service.holds) :
    Refused server service := by
  cases service with
  | exchange | upsert | cache | body => exact absurd trivial hholds
  | received | fetch | cachedBody | ended => trivial

theorem refused_turn {server : Server} {service : Service} (hlost : Lost server)
    (hrefused : Refused server service) (outcome : Outcome) :
    (turn server service outcome).1.refreshToken = server.refreshToken ∧
      (turn server service outcome).1.issued = server.issued ∧
        Refused (turn server service outcome).1 (turn server service outcome).2 := by
  by_cases hholds : service.holds
  · cases service with
    | exchange record =>
      obtain rfl := hrefused
      have hlost : server.refreshToken ≠ server.issued := hlost
      rw [turn, if_pos hlost]
      exact ⟨rfl, rfl, trivial⟩
    | upsert | cache | body => exact absurd hrefused id
    | received | fetch | cachedBody | ended => exact absurd hholds id
  · obtain ⟨hcommitted, hissued⟩ := tokens_turn _ hholds outcome
    refine ⟨hcommitted, hissued, ?_⟩
    by_cases hnext : Service.holds (turn server service outcome).2
    · rw [(holds_turn hholds hnext).2]
      exact hcommitted.symm
    · exact refused_of_not_holds hnext

/-- A lost token stays lost. -/
theorem respects_lost : Respects system Lost Refused fun _ _ => True where
  start _ _ _ _ := trivial
  turn pool position outcome service hpool _ hservice := by
    obtain ⟨hcommitted, hissued, hrefused⟩ :=
      refused_turn hpool.shared (hpool.thread hservice) outcome
    refine ⟨?_, hrefused⟩
    change (turn _ _ _).1.refreshToken ≠ (turn _ _ _).1.issued
    rw [hcommitted, hissued]
    exact hpool.shared
  others pool position outcome service hpool _ hservice elsewhere other _ hother := by
    obtain ⟨hcommitted, -, -⟩ := refused_turn hpool.shared (hpool.thread hservice) outcome
    have hrefused := hpool.thread hother
    cases other with
    | exchange record => exact Eq.trans hrefused hcommitted.symm
    | upsert | cache | body => exact hrefused
    | received | fetch | cachedBody | ended => trivial

/-- A service that fails with an uncommitted token loses it. -/
theorem lost_of_fails {pool : Pool Server Service} {move : Move Command Outcome}
    (hlocked : Locked Server.free Service.holds pool) (hpool : Holds Kept Sound pool)
    (hmove : ¬ RotationCommits pool move) : Holds Lost Refused (system.step pool move) := by
  cases move with
  | start => exact absurd trivial hmove
  | turn position outcome =>
    simp only [RotationCommits, not_forall] at hmove
    obtain ⟨service, hservice, hfails, hsome⟩ := hmove
    have hholds : service.holds := by
      cases service with
      | exchange | upsert | cache | body => trivial
      | received | fetch | cachedBody | ended => exact absurd rfl hsome
    obtain ⟨hended, -, hlost⟩ := holder_fails (hpool.thread hservice) hholds hfails
    have hlost : Lost (system.step pool (.turn position outcome)).shared := by
      rw [System.step_turn hservice]
      exact hlost hsome
    refine ⟨hlost, fun other hother => ?_⟩
    obtain ⟨elsewhere, helsewhere⟩ := List.mem_iff_getElem?.mp hother
    rcases getElem?_turn hservice helsewhere with ⟨-, rfl⟩ | ⟨hne, hold⟩
    · change Refused _ (turn _ _ _).2
      rw [hended]
      trivial
    · exact refused_of_not_holds (hlocked.exclusive.others hservice hholds hne hold)

structure Keeping (pool : Pool Server Service) : Prop where
  locked : Locked Server.free Service.holds pool
  holds : Holds Kept Sound pool

theorem keeping_opened (refreshToken : String) (accessToken : Bool) :
    Keeping (opened refreshToken accessToken) := by
  refine ⟨⟨iff_of_true rfl ?_, ?_⟩, fun _ => rfl, ?_⟩
  · intro position service hservice
    cases hservice
  · intro position other service next hservice
    cases hservice
  · intro service hservice
    cases hservice

/-- Whether the token is kept or lost is decided at the first service that fails with it. -/
theorem keeping_or_lost (refreshToken : String) (accessToken : Bool)
    (moves : List (Move Command Outcome)) :
    Run.StepsMeet system.step RotationCommits (opened refreshToken accessToken) moves ∧
        Keeping (moves.foldl system.step (opened refreshToken accessToken)) ∨
      ¬ Run.StepsMeet system.step RotationCommits (opened refreshToken accessToken) moves ∧
        Holds Lost Refused (moves.foldl system.step (opened refreshToken accessToken)) :=
  Run.final_of_decided
    (fun _ move hpool hmove => Keeping.mk (hpool.locked.step locks move)
      (respects_kept.step hpool.holds ⟨hpool.locked, hmove⟩))
    (fun _ _ hpool hmove => lost_of_fails hpool.locked hpool.holds hmove)
    (fun _ _ hpool => respects_lost.step hpool trivial)
    moves (keeping_opened refreshToken accessToken)

/-- After all services have ended, the committed token is the last that eBay issued exactly when
no service failed to which eBay had issued a new one. -/
theorem refreshToken_eq_issued_iff (refreshToken : String) (accessToken : Bool)
    {moves : List (Move Command Outcome)}
    (hended : ∀ service ∈
      (moves.foldl system.step (opened refreshToken accessToken)).threads, service = .ended) :
    (moves.foldl system.step (opened refreshToken accessToken)).shared.refreshToken =
        (moves.foldl system.step (opened refreshToken accessToken)).shared.issued ↔
      Run.StepsMeet system.step RotationCommits (opened refreshToken accessToken) moves := by
  rcases keeping_or_lost refreshToken accessToken moves with
    ⟨hmeet, hkeeping⟩ | ⟨hnot, hlost⟩
  · have hfree := hkeeping.locked.free_of_forall fun service hservice => by
      rw [hended service hservice]
      exact id
    exact iff_of_true (hkeeping.holds.shared hfree) hmeet
  · exact iff_of_false hlost.shared hnot

/-! ## Samples -/

/-- A service that eBay issues a new token, at all of its turns. -/
def rotation (position : Nat) (refreshToken : String) : List (Move Command Outcome) :=
  .start .call :: List.replicate 6 (.turn position ⟨false, some refreshToken, false⟩)

/-- A service that raises after eBay's answer. -/
def failing : List (Move Command Outcome) :=
  .start .call :: List.replicate 3 (.turn 0 ⟨false, some "new", false⟩) ++
    [.turn 0 ⟨true, none, false⟩]

/-- The rollback undoes the upsert, and not the rotation. -/
theorem rollback_loses_rotation :
    ¬ ∀ (refreshToken : String) (accessToken : Bool) (moves : List (Move Command Outcome)),
      (∀ service ∈
        (moves.foldl system.step (opened refreshToken accessToken)).threads, service = .ended) →
      (moves.foldl system.step (opened refreshToken accessToken)).shared.refreshToken =
        (moves.foldl system.step (opened refreshToken accessToken)).shared.issued := by
  intro hclaim
  have hended : ∀ service ∈ (failing.foldl system.step (opened "old" false)).threads,
      service = .ended := by
    intro service hservice
    exact List.mem_singleton.mp hservice
  have hkept := hclaim "old" false failing hended
  revert hkept
  decide

/-- Two rotations commit one after the other. -/
theorem rotations_commit :
    ((rotation 0 "new" ++ .start .expire :: .turn 1 ⟨false, none, false⟩ ::
      rotation 2 "newer").foldl system.step (opened "old" false)).shared.refreshToken =
        ((rotation 0 "new" ++ .start .expire :: .turn 1 ⟨false, none, false⟩ ::
          rotation 2 "newer").foldl system.step (opened "old" false)).shared.issued := by
  refine (refreshToken_eq_issued_iff "old" false fun service hservice => ?_).mpr ?_
  · have hthreads : service ∈ List.replicate 3 Service.ended := hservice
    exact List.eq_of_mem_replicate hthreads
  · refine ⟨trivial, ?_, ?_, ?_, ?_, ?_, ?_, trivial, ?_, trivial, ?_, ?_, ?_, ?_, ?_, ?_, trivial⟩
    all_goals
      intro service _ hfails
      cases hfails

end AutoMana.Ebay.TokenRotation
