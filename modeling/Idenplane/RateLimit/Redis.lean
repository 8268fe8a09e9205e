import Idenplane.Names
import Idenplane.Lib.Pool
import Idenplane.Lib.Tickets

/-! # The rate limiter on Redis

`checkWithRedis` counts a request in the counters of its minute and its hour, and takes it
out of both when one of them is above its limit.  The limiter of one key is a pool of such
calls on shared counters.  The counters remember whose increments they hold, which no call
reads.

A counter expires only after its window, when no call of the window is still running.
-/

namespace Idenplane.RateLimit

open Atomic Tickets

structure RateLimitResult where
  allowed : Bool
  (limit remaining resetAt : Int)
  retryAfter : Option Int := none
  deriving DecidableEq

section Limiter

variable {ι : Type} [DecidableEq ι]

/-- What the calls of one key share. -/
structure Redis (ι : Type) where
  /-- `Date.now()`. -/
  clock : Int
  /-- The counters `rl:m:key:window`. -/
  minute : Counter Int ι
  /-- The counters `rl:h:key:window`. -/
  hour : Counter Int ι
  startedAt : ι → Option Int
  running : ι → Bool
  expiredMinutes : List Int
  expiredHours : List Int

def Redis.start (clock : Int) : Redis ι where
  clock := clock
  minute := .zero
  hour := .zero
  startedAt _ := none
  running _ := false
  expiredMinutes := []
  expiredHours := []

def minuteWindow (now : Int) : Int := now / 60

def hourWindow (now : Int) : Int := now / 3600

def readClock (call : ι) : Prog (Redis ι) Empty Int :=
  .atomic fun s => (s.clock / 1000,
    { s with
      startedAt := update s.startedAt call (some (s.clock / 1000))
      running := update s.running call true })

def incrMinute (call : ι) (window : Int) : Prog (Redis ι) Empty Int :=
  .atomic fun s => ((s.minute.incr window call).1, { s with minute := (s.minute.incr window call).2 })

def incrHour (call : ι) (window : Int) : Prog (Redis ι) Empty Int :=
  .atomic fun s => ((s.hour.incr window call).1, { s with hour := (s.hour.incr window call).2 })

def decrMinute (call : ι) (window : Int) : Prog (Redis ι) Empty Unit :=
  .modify fun s => { s with minute := s.minute.decr window call }

def decrHour (call : ι) (window : Int) : Prog (Redis ι) Empty Unit :=
  .modify fun s => { s with hour := s.hour.decr window call }

def return_ (call : ι) : Prog (Redis ι) Empty Unit :=
  .modify fun s => { s with running := update s.running call false }

def undo (call : ι) (now : Int) : Prog (Redis ι) Empty Unit := do
  decrMinute call (minuteWindow now)
  decrHour call (hourWindow now)

def redisResult (now : Int) (limitPerMinute limitPerHour : Nat) (minuteCount hourCount : Int) :
    RateLimitResult :=
  let minuteResetAt := (minuteWindow now + 1) * 60
  let hourResetAt := (hourWindow now + 1) * 3600
  if minuteCount > limitPerMinute then
    { allowed := false
      limit := limitPerMinute
      remaining := 0
      resetAt := minuteResetAt
      retryAfter := some (max 1 (minuteResetAt - now)) }
  else if hourCount > limitPerHour then
    { allowed := false
      limit := limitPerHour
      remaining := 0
      resetAt := hourResetAt
      retryAfter := some (max 1 (hourResetAt - now)) }
  else
    { allowed := true
      limit := limitPerMinute
      remaining := limitPerMinute - minuteCount
      resetAt := minuteResetAt }

/-- The end of `checkWithRedis`, from both counts on. -/
def settle (limitPerMinute limitPerHour : Nat) (call : ι) (now minuteCount hourCount : Int) :
    Prog (Redis ι) Empty RateLimitResult := do
  if minuteCount > limitPerMinute ∨ hourCount > limitPerHour then undo call now else pure ()
  return_ call
  pure (redisResult now limitPerMinute limitPerHour minuteCount hourCount)

def checkWithRedis (limitPerMinute limitPerHour : Nat) (call : ι) :
    Prog (Redis ι) Empty RateLimitResult := do
  let now ← readClock call
  let minuteCount ← incrMinute call (minuteWindow now)
  let hourCount ← incrHour call (hourWindow now)
  settle limitPerMinute limitPerHour call now minuteCount hourCount

def Redis.Uses (s : Redis ι) (call : ι) (now : Int) : Prop :=
  s.running call = true ∧ s.startedAt call = some now

/-- Time passes, and counters expire that no call uses and that no call will use. -/
inductive Redis.Env : Redis ι → Redis ι → Prop where
  | tick {s : Redis ι} (clock : Int) :
      minuteWindow (clock / 1000) ∉ s.expiredMinutes → hourWindow (clock / 1000) ∉ s.expiredHours →
      Redis.Env s { s with clock := clock }
  | expireMinute {s : Redis ι} (window : Int) : minuteWindow (s.clock / 1000) ≠ window →
      (∀ call now, s.Uses call now → minuteWindow now ≠ window) →
      Redis.Env s { s with
        minute := s.minute.expire window
        expiredMinutes := window :: s.expiredMinutes }
  | expireHour {s : Redis ι} (window : Int) : hourWindow (s.clock / 1000) ≠ window →
      (∀ call now, s.Uses call now → hourWindow now ≠ window) →
      Redis.Env s { s with
        hour := s.hour.expire window
        expiredHours := window :: s.expiredHours }

def redisPool (limitPerMinute limitPerHour : Nat) (clock : Int) :
    Pool ι (Redis ι) Empty RateLimitResult :=
  ⟨.start clock, checkWithRedis limitPerMinute limitPerHour⟩

def RedisReaches (limitPerMinute limitPerHour : Nat)
    (pool : Pool ι (Redis ι) Empty RateLimitResult) : Prop :=
  ∃ clock, Pool.Reaches Redis.Env (fun _ _ => True)
    (redisPool limitPerMinute limitPerHour clock) pool

def allowedCalls (pool : Pool ι (Redis ι) Empty RateLimitResult) (when_ : Int → Prop) : Set ι :=
  { call | ∃ res now, pool.procs call = .done res ∧ res.allowed = true ∧
    pool.state.startedAt call = some now ∧ when_ now }

def Quiet (pool : Pool ι (Redis ι) Empty RateLimitResult) : Prop :=
  ∀ call now, pool.state.startedAt call = some now → ∃ res, pool.procs call = .done res

end Limiter

end Idenplane.RateLimit
