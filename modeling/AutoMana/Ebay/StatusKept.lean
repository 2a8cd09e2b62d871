import AutoMana.Ebay.OrderCommands
import AutoMana.Relational.Interleaving

/-!
# The status the user set

Users and the sync write the statuses of orders in any order. The status that a user set
last stays while the sync finds only orders without a status, or with the one it writes, and
eBay refuses no shipment.
-/

namespace AutoMana.Ebay.StatusKept

open Relational Relational.Interleaving

/-! ## Interleavings -/

/-- The stored statuses, and what the user set last. -/
structure Statuses where
  orderStatus : Table OrderKey OrderStatus
  lastSet : OrderKey → Option LocalStatus

def Statuses.status? (statuses : Statuses) (key : OrderKey) : Option LocalStatus :=
  (statuses.orderStatus.get? key).map (·.localStatus)

/-- The status that the user sets with a write. A refused shipment sets none. -/
def userSet? : Write → Option LocalStatus
  | .sync _ => none
  | .update _ status => some status
  | .ship _ answer => if answer.accepted then some .sent else none

def Statuses.write (statuses : Statuses) (write : Write) : Statuses where
  orderStatus := write.apply statuses.orderStatus
  lastSet :=
    match userSet? write with
    | none => statuses.lastSet
    | some status => Function.update statuses.lastSet write.key (some status)

/-- A command is the writes it has left. -/
def system : System Statuses (List Write) OrderCommand Unit where
  start _ command := writes command
  turn statuses thread _ :=
    match thread with
    | [] => (statuses, [])
    | write :: rest => (statuses.write write, rest)

/-- Any statuses, none set by the user, and no command under way. -/
def opened (table : Table OrderKey OrderStatus) : Pool Statuses (List Write) :=
  ⟨⟨table, fun _ => none⟩, []⟩

/-- The write that a move performs. -/
def write? (pool : Pool Statuses (List Write)) : Move OrderCommand Unit → Option Write
  | .start _ => none
  | .turn position _ => pool.threads[position]?.bind List.head?

/-! ## What is claimed, and the condition -/

structure Lawful (pool : Pool Statuses (List Write)) (move : Move OrderCommand Unit) : Prop where
  /-- What the user set last is stored. -/
  lastSet : ∀ key status, (system.step pool move).shared.lastSet key = some status →
    (system.step pool move).shared.status? key = some status
  /-- A sync only creates. -/
  sync : ∀ key, write? pool move = some (.sync key) → ∀ other status,
    pool.shared.status? other = some status →
    (system.step pool move).shared.status? other = some status
  /-- A refused shipment sets nothing. -/
  ship : ∀ call answer, write? pool move = some (.ship call answer) → answer.accepted = false →
    ∀ other, (system.step pool move).shared.status? other = pool.shared.status? other

/-- A sync finds no status but `sold`, and eBay refuses no shipment of an order that is not
`sent` already. -/
structure Agrees (pool : Pool Statuses (List Write)) (move : Move OrderCommand Unit) : Prop where
  sync : ∀ key, write? pool move = some (.sync key) →
    pool.shared.status? key = none ∨ pool.shared.status? key = some .sold
  ship : ∀ call answer, write? pool move = some (.ship call answer) →
    answer.accepted = true ∨ pool.shared.status? call.key = some .sent

/-! ## Steps -/

/-- What the user set last is stored. -/
def Stands (statuses : Statuses) : Prop :=
  ∀ key status, statuses.lastSet key = some status → statuses.status? key = some status

theorem status?_write (statuses : Statuses) (write : Write) (key : OrderKey) :
    (statuses.write write).status? key =
      if key = write.key then some write.row.localStatus else statuses.status? key :=
  localStatus_upsertOrderStatus statuses.orderStatus write.key write.row key

/-- A status the user sets is the one that is written. -/
theorem localStatus_of_userSet {write : Write} {status : LocalStatus}
    (hset : userSet? write = some status) : write.row.localStatus = status := by
  cases write with
  | sync key => cases hset
  | update key written => exact Option.some.inj hset
  | ship call answer =>
    simp only [userSet?, Option.ite_none_right_eq_some, Option.some.injEq] at hset
    exact hset.2

/-- A write of the user stands, and so does one of a status that is stored already. -/
theorem stands_write {statuses : Statuses} (hstands : Stands statuses) {write : Write}
    (hwrite : userSet? write = none → ∀ status, statuses.status? write.key = some status →
      status = write.row.localStatus) : Stands (statuses.write write) := by
  intro key status hlast
  rw [status?_write]
  cases hset : userSet? write with
  | none =>
    simp only [Statuses.write, hset] at hlast
    have hstored := hstands key status hlast
    split_ifs with hkey
    · rw [hwrite hset status (hkey ▸ hstored)]
    · exact hstored
  | some written =>
    simp only [Statuses.write, hset, Function.update_apply] at hlast
    split_ifs at hlast ⊢ with hkey
    · rw [localStatus_of_userSet hset, ← hlast]
    · exact hstands key status hlast

theorem shared_step (pool : Pool Statuses (List Write)) (move : Move OrderCommand Unit) :
    (system.step pool move).shared = (write? pool move).elim pool.shared pool.shared.write := by
  cases move with
  | start command => rfl
  | turn position answer =>
    cases hthread : pool.threads[position]? with
    | none => simp [System.step_turn_of_none hthread, write?, hthread]
    | some thread => cases thread <;> simp [System.step_turn hthread, system, write?, hthread]

/-- What the user set last stands after a step that agrees. -/
theorem stands_step {pool : Pool Statuses (List Write)} (hstands : Stands pool.shared)
    {move : Move OrderCommand Unit} (hagrees : Agrees pool move) :
    Stands (system.step pool move).shared := by
  rw [shared_step]
  cases hwrite : write? pool move with
  | none => exact hstands
  | some write =>
    refine stands_write hstands fun hset status hstored => ?_
    cases write with
    | sync key =>
      rcases hagrees.sync key hwrite with hnone | hsold
      · rw [Write.key, hnone] at hstored
        cases hstored
      · rw [Write.key, hsold] at hstored
        exact (Option.some.inj hstored).symm
    | update key written => cases hset
    | ship call answer =>
      rcases hagrees.ship call answer hwrite with haccepted | hsent
      · simp [userSet?, haccepted] at hset
      · rw [Write.key, hsent] at hstored
        exact (Option.some.inj hstored).symm

/-- Where what the user set last is stored, the lawful steps are those that agree. -/
theorem lawful_iff_agrees {pool : Pool Statuses (List Write)} (hstands : Stands pool.shared)
    (move : Move OrderCommand Unit) : Lawful pool move ↔ Agrees pool move := by
  constructor
  · intro hlawful
    constructor
    · intro key hwrite
      cases hstored : pool.shared.status? key with
      | none => exact Or.inl rfl
      | some status =>
        have hkept := hlawful.sync key hwrite key status hstored
        rw [shared_step, hwrite, Option.elim_some, status?_write, Write.key, if_pos rfl] at hkept
        exact Or.inr hkept.symm
    · intro call answer hwrite
      cases haccepted : answer.accepted with
      | true => exact Or.inl rfl
      | false =>
        have hkept := hlawful.ship call answer hwrite haccepted call.key
        rw [shared_step, hwrite, Option.elim_some, status?_write, Write.key, if_pos rfl] at hkept
        exact Or.inr hkept.symm
  · intro hagrees
    refine ⟨stands_step hstands hagrees, fun key hwrite other status hstored => ?_,
      fun call answer hwrite haccepted other => ?_⟩
    · rw [shared_step, hwrite, Option.elim_some, status?_write, Write.key]
      split_ifs with hkey
      · subst hkey
        rcases hagrees.sync other hwrite with hnone | hsold
        · rw [hnone] at hstored
          cases hstored
        · rw [← hstored, hsold]
          rfl
      · exact hstored
    · rw [shared_step, hwrite, Option.elim_some, status?_write, Write.key]
      split_ifs with hkey
      · subst hkey
        rcases hagrees.ship call answer hwrite with htrue | hsent
        · rw [haccepted] at htrue
          cases htrue
        · exact hsent.symm
      · rfl

/-- In every interleaving of commands and syncs the steps are lawful exactly when they agree
with what is stored. -/
theorem lawful_run_iff (table : Table OrderKey OrderStatus)
    (moves : List (Move OrderCommand Unit)) :
    Run.StepsMeet system.step Lawful (opened table) moves ↔
      Run.StepsMeet system.step Agrees (opened table) moves := by
  have hagree : ∀ (pool : Pool Statuses (List Write)) move, Stands pool.shared →
      (Lawful pool move ↔ Agrees pool move) := fun _ move hstands =>
    lawful_iff_agrees hstands move
  refine Run.stepsMeet_congr hagree (fun pool move hstands hagrees => ?_) fun key status hlast => ?_
  · exact stands_step hstands hagrees
  · cases hlast

/-- A user sets an order to `in_transit`, and then it is synced. -/
def syncAfterUpdate : List (Move OrderCommand Unit) :=
  [.start (.updateOrderLocalStatus ⟨⟨"1", "app"⟩, "in_transit", false⟩), .turn 0 (),
    .start (.syncOwnSales (sampleSync [⟨some "1", none, none, none⟩])), .turn 1 ()]

theorem sync_replaces_the_status :
    ¬ ∀ (table : Table OrderKey OrderStatus) (moves : List (Move OrderCommand Unit)),
      Run.StepsMeet system.step Lawful (opened table) moves := by
  intro hclaim
  obtain ⟨-, -, -, hsynced, -⟩ := hclaim .empty syncAfterUpdate
  have hstored := hsynced.lastSet ⟨"1", "app"⟩ .inTransit (by decide)
  revert hstored
  decide

end AutoMana.Ebay.StatusKept
