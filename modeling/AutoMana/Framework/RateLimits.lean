import AutoMana.Relational.Budget
import AutoMana.Relational.Runs
import Mathlib.Data.NNRat.Defs

/-!
# The token bucket

`AsyncTokenBucket.acquire`: a task takes the lock, refills the bucket at each turn of its loop, and
keeps the lock while it sleeps. Tokens and times are exact rationals. A sleeping task wakes up when
its delay has passed, or later.
-/

namespace AutoMana.Framework

open Relational

/-- The arguments of the bucket. -/
structure AsyncTokenBucket where
  rate : ℚ
  capacity : Nat
  rate_pos : 0 < rate
  capacity_pos : 1 ≤ capacity

/-- The task that has the lock, and when it may take its next turn. -/
structure Holder where
  tokens : Nat
  wakesAt : ℚ
  deriving DecidableEq

/-- The clock, the bucket with what was granted, the lock, and the tasks that wait for it. -/
structure Limiter where
  clock : ℚ
  bucket : Budget ℚ
  lock : Option Holder
  waiting : List Nat

inductive Event where
  /-- `acquire(tokens)` is called. -/
  | call (tokens : Nat)
  /-- One of the waiting tasks gets the lock. -/
  | enter (position : Nat)
  | elapse (time : ℚ≥0)
  /-- The task with the lock takes its next turn. -/
  | turn
  /-- The task with the lock is cancelled. -/
  | cancel

namespace AsyncTokenBucket

variable (limits : AsyncTokenBucket)

/-- `AsyncTokenBucket(rate_per_sec, capacity)` is constructed. -/
def start (clock : ℚ) : Limiter := ⟨clock, ⟨limits.capacity, clock, []⟩, none, []⟩

/-- One turn of the loop: refill, and take the tokens or sleep until there would be enough. -/
def acquire (limiter : Limiter) (holder : Holder) : Limiter :=
  let bucket := limiter.bucket.refill limits.rate limits.capacity limiter.clock
  if holder.tokens ≤ bucket.level then
    { limiter with bucket := bucket.spend holder.tokens, lock := none }
  else
    let waitS := (holder.tokens - bucket.level) / limits.rate
    { limiter with bucket, lock := some { holder with wakesAt := limiter.clock + waitS } }

def step (limiter : Limiter) : Event → Limiter
  | .call tokens => { limiter with waiting := limiter.waiting ++ [tokens] }
  | .enter position =>
    match limiter.lock, limiter.waiting[position]? with
    | none, some tokens =>
      { limiter with
        lock := some ⟨tokens, limiter.clock⟩
        waiting := limiter.waiting.eraseIdx position }
    | _, _ => limiter
  | .elapse time => { limiter with clock := limiter.clock + time }
  | .turn =>
    match limiter.lock with
    | none => limiter
    | some holder =>
      if holder.wakesAt ≤ limiter.clock then limits.acquire limiter holder else limiter
  | .cancel => { limiter with lock := none }

/-- The bucket is a budget within its capacity, and was last refilled in the past. -/
structure Keeps (limiter : Limiter) : Prop where
  bucket : limiter.bucket.Within limits.rate limits.capacity
  past : limiter.bucket.time ≤ limiter.clock

variable {limits} {limiter : Limiter}

theorem start_keeps (clock : ℚ) : limits.Keeps (limits.start clock) :=
  ⟨Budget.within_full (Nat.cast_nonneg _) limits.rate_pos.le clock, le_refl clock⟩

/-- A turn refills the bucket, and takes no more than is in it. -/
theorem Keeps.acquire (hkeeps : limits.Keeps limiter) (holder : Holder) :
    limits.Keeps (limits.acquire limiter holder) := by
  have hrefill := hkeeps.bucket.refill (Nat.cast_nonneg _) limits.rate_pos.le hkeeps.past
  simp only [AsyncTokenBucket.acquire]
  split_ifs with henough
  · exact ⟨hrefill.spend limits.rate_pos.le (Nat.cast_nonneg _) henough, le_refl _⟩
  · exact ⟨hrefill, le_refl _⟩

theorem Keeps.step (hkeeps : limits.Keeps limiter) (event : Event) :
    limits.Keeps (limits.step limiter event) := by
  cases event with
  | call tokens => exact ⟨hkeeps.bucket, hkeeps.past⟩
  | enter position =>
    rw [AsyncTokenBucket.step]
    split
    · exact ⟨hkeeps.bucket, hkeeps.past⟩
    · exact hkeeps
  | elapse time => exact ⟨hkeeps.bucket, hkeeps.past.trans (le_add_of_nonneg_right time.2)⟩
  | turn =>
    rw [AsyncTokenBucket.step]
    split
    · exact hkeeps
    · split_ifs with hwakes
      · exact hkeeps.acquire _
      · exact hkeeps
  | cancel => exact ⟨hkeeps.bucket, hkeeps.past⟩

end AsyncTokenBucket

/-- In every state of every run the tokens are between zero and the capacity, and no window has
granted more than the capacity and what came in within it. -/
theorem acquire_keeps_rate (limits : AsyncTokenBucket) (constructed : ℚ) (events : List Event) :
    ∀ limiter ∈ Run.visited limits.step (limits.start constructed) events,
      0 ≤ limiter.bucket.level ∧ limiter.bucket.level ≤ limits.capacity ∧
        ∀ first last, first ≤ last → Budget.totalIn first last limiter.bucket.spent ≤
          limits.capacity + limits.rate * (last - first) := by
  intro limiter hvisited
  have hkeeps : limits.Keeps limiter :=
    Run.forall_visited_of_step (fun _ event hkeeps => hkeeps.step event) events
      (AsyncTokenBucket.start_keeps constructed) limiter hvisited
  refine ⟨hkeeps.bucket.nonneg, hkeeps.bucket.le_cap, fun first last hle => ?_⟩
  rw [mul_comm]
  exact hkeeps.bucket.windows first last hle

/-- One token each second and two at once: three calls in a row, of which the last one sleeps half
a second too long. -/
def hurried : List Event :=
  [.call 1, .call 1, .call 1, .enter 0, .turn, .enter 0, .turn, .enter 0, .turn,
    .elapse (3 / 2), .turn]

def onePerSecond : AsyncTokenBucket := ⟨1, 2, by decide, by decide⟩

theorem acquire_keeps_rate_hurried :
    (hurried.foldl onePerSecond.step (onePerSecond.start 0)).bucket.spent =
        [(3 / 2, 1), (0, 1), (0, 1)] ∧
      Budget.totalIn 0 (3 / 2) (hurried.foldl onePerSecond.step (onePerSecond.start 0)).bucket.spent
        ≤ (2 : Nat) + 1 * (3 / 2 - 0) := by
  refine ⟨by decide +kernel, ?_⟩
  exact (acquire_keeps_rate onePerSecond 0 hurried _ (Run.foldl_mem_visited _ _ _)).2.2 0 (3 / 2)
    (by decide +kernel)

end AutoMana.Framework
