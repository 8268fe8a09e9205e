import Idenplane.Lib.Windows
import Idenplane.RateLimit.Redis

/-! # The rate limiter on the database

`checkWithDatabase` is the fallback without Redis.  One row per key has the counts of the
current minute and the current hour.  A request counts itself in both with one write, and
then, in writes of their own, restarts a window that is over and takes itself out again
when it is above a limit.  Another request may come between any two of these writes.

Besides the row, the state remembers which request was counted in which window, who has
still something to write, and whether the run has been orderly.
-/

namespace Idenplane.RateLimit

open Atomic Windows

def minuteWindowMs : Int := 60000

def hourWindowMs : Int := 3600000

structure RateLimitEntry where
  (minuteCount minuteWindowStart hourCount hourWindowStart : Int)
  deriving DecidableEq

namespace RateLimitEntry

def minute (e : RateLimitEntry) : Cell := ⟨e.minuteCount, e.minuteWindowStart⟩

def hour (e : RateLimitEntry) : Cell := ⟨e.hourCount, e.hourWindowStart⟩

def minuteOver (e : RateLimitEntry) (now : Int) : Bool :=
  now - e.minuteWindowStart ≥ minuteWindowMs

def hourOver (e : RateLimitEntry) (now : Int) : Bool :=
  now - e.hourWindowStart ≥ hourWindowMs

def minuteCountAt (e : RateLimitEntry) (now : Int) : Int :=
  if e.minuteOver now then 1 else e.minuteCount

def hourCountAt (e : RateLimitEntry) (now : Int) : Int :=
  if e.hourOver now then 1 else e.hourCount

def rejects (limitPerMinute limitPerHour : Nat) (e : RateLimitEntry) (now : Int) : Bool :=
  e.minuteCountAt now > limitPerMinute || e.hourCountAt now > limitPerHour

end RateLimitEntry

def ceilSeconds (n : Int) : Int := -(-n / 1000)

def databaseResult (limitPerMinute limitPerHour : Nat) (e : RateLimitEntry) (now : Int) :
    RateLimitResult :=
  let minuteResetAt := ceilSeconds (max e.minuteWindowStart now + minuteWindowMs)
  let hourResetAt := ceilSeconds (max e.hourWindowStart now + hourWindowMs)
  if e.minuteCountAt now > limitPerMinute then
    { allowed := false
      limit := limitPerMinute
      remaining := 0
      resetAt := minuteResetAt
      retryAfter := some (max 1 (minuteResetAt - now / 1000)) }
  else if e.hourCountAt now > limitPerHour then
    { allowed := false
      limit := limitPerHour
      remaining := 0
      resetAt := hourResetAt
      retryAfter := some (max 1 (hourResetAt - now / 1000)) }
  else
    { allowed := true
      limit := limitPerMinute
      remaining := max 0 (limitPerMinute - e.minuteCountAt now)
      resetAt := minuteResetAt }

inductive PrismaError where
  | recordNotFound
  deriving DecidableEq

section Limiter

variable {ι : Type} [DecidableEq ι]

structure Database (ι : Type) where
  clock : Int
  entry : Option RateLimitEntry
  minute : Ledger ι
  hour : Ledger ι
  startedAt : ι → Option Int
  /-- The calls that have counted themselves and have another write to make. -/
  pending : List ι
  /-- No step so far has come between the steps of another call, or too late. -/
  orderly : Bool

def Database.start (clock : Int) : Database ι where
  clock := clock
  entry := none
  minute := .empty
  hour := .empty
  startedAt _ := none
  pending := []
  orderly := true

def Database.mark (s : Database ι) (call : ι) (more : Bool) : Database ι :=
  { s with
    pending := if more then call :: s.pending.filter (· ≠ call) else s.pending.filter (· ≠ call) }

def Database.alone (s : Database ι) (call : ι) : Bool := (s.pending.filter (· ≠ call)).isEmpty

def readTime (call : ι) : Prog (Database ι) PrismaError Int :=
  .atomic fun s => (s.clock, { s with startedAt := update s.startedAt call (some s.clock) })

variable (limitPerMinute limitPerHour : Nat)

def upserted (old : Option RateLimitEntry) (now : Int) : RateLimitEntry :=
  match old with
  | none => ⟨1, now, 1, now⟩
  | some e => { e with minuteCount := e.minuteCount + 1, hourCount := e.hourCount + 1 }

/-- The call has not been overtaken: windows of the row have not started after it read the
clock, and a row that was deleted leaves no window open. -/
def Database.timely (s : Database ι) (now : Int) : Bool :=
  match s.entry with
  | none => s.minute.starts.all (· + minuteWindowMs ≤ now) &&
      s.hour.starts.all (· + hourWindowMs ≤ now)
  | some e => e.minuteWindowStart ≤ now && e.hourWindowStart ≤ now

def Database.upsert (s : Database ι) (call : ι) (now : Int) (more : Bool) : Database ι :=
  { s with
    entry := some (upserted s.entry now)
    minute := match s.entry with
      | none => s.minute.start now call
      | some e => s.minute.join e.minuteWindowStart call
    hour := match s.entry with
      | none => s.hour.start now call
      | some e => s.hour.join e.hourWindowStart call
    orderly := s.orderly && s.timely now }.mark call more

def Database.restartMinute (s : Database ι) (e : RateLimitEntry) (call : ι) (now : Int)
    (more : Bool) : Database ι :=
  { s with
    entry := some { e with minuteCount := 1, minuteWindowStart := now }
    minute := s.minute.restart e.minuteWindowStart now call
    orderly := s.orderly && s.alone call }.mark call more

def Database.restartHour (s : Database ι) (e : RateLimitEntry) (call : ι) (now : Int)
    (more : Bool) : Database ι :=
  { s with
    entry := some { e with hourCount := 1, hourWindowStart := now }
    hour := s.hour.restart e.hourWindowStart now call
    orderly := s.orderly && s.alone call }.mark call more

def Database.uncount (s : Database ι) (e : RateLimitEntry) (call : ι) : Database ι :=
  { s with
    entry := some { e with minuteCount := e.minuteCount - 1, hourCount := e.hourCount - 1 }
    minute := s.minute.leave e.minuteWindowStart call
    hour := s.hour.leave e.hourWindowStart call }.mark call false

def upsert (call : ι) (now : Int) : Prog (Database ι) PrismaError RateLimitEntry :=
  .atomic fun s =>
    let e := upserted s.entry now
    (e, s.upsert call now
      (e.minuteOver now || e.hourOver now || e.rejects limitPerMinute limitPerHour now))

def updateEntry (f : Database ι → RateLimitEntry → Database ι) :
    Prog (Database ι) PrismaError Unit := do
  let found ← .atomic fun s =>
    match s.entry with
    | none => (none, s)
    | some e => (some (), f s e)
  .orFail found .recordNotFound

def restartMinute (call : ι) (entry : RateLimitEntry) (now : Int) :
    Prog (Database ι) PrismaError Unit :=
  if entry.minuteOver now then
    updateEntry fun s e => s.restartMinute e call now
      (entry.hourOver now || entry.rejects limitPerMinute limitPerHour now)
  else pure ()

def restartHour (call : ι) (entry : RateLimitEntry) (now : Int) :
    Prog (Database ι) PrismaError Unit :=
  if entry.hourOver now then
    updateEntry fun s e => s.restartHour e call now (entry.rejects limitPerMinute limitPerHour now)
  else pure ()

/-- Don't count rejected requests.  Nothing is undone when the row is gone. -/
def uncount (call : ι) : Prog (Database ι) PrismaError Unit :=
  .modify fun s =>
    match s.entry with
    | none => s.mark call false
    | some e => s.uncount e call

def checkWithDatabase (call : ι) : Prog (Database ι) PrismaError RateLimitResult := do
  let now ← readTime call
  let e ← upsert limitPerMinute limitPerHour call now
  restartMinute limitPerMinute limitPerHour call e now
  restartHour limitPerMinute limitPerHour call e now
  if e.rejects limitPerMinute limitPerHour now then uncount call else pure ()
  pure (databaseResult limitPerMinute limitPerHour e now)

/-- `cleanupExpiredDbEntries` deletes the row. -/
def Database.expired (s : Database ι) : Bool :=
  match s.entry with
  | none => false
  | some e => e.minuteWindowStart < s.clock - hourWindowMs || e.hourWindowStart < s.clock - hourWindowMs

inductive Database.Env : Database ι → Database ι → Prop where
  | tick {s : Database ι} (clock : Int) : Database.Env s { s with clock := clock }
  | cleanup {s : Database ι} : s.expired = true →
      Database.Env s { s with entry := none, orderly := s.orderly && s.pending.isEmpty }

def databasePool (clock : Int) : Pool ι (Database ι) PrismaError RateLimitResult :=
  ⟨.start clock, checkWithDatabase limitPerMinute limitPerHour⟩

def DatabaseReaches (pool : Pool ι (Database ι) PrismaError RateLimitResult) : Prop :=
  ∃ clock, Pool.Reaches Database.Env (fun _ _ => True)
    (databasePool limitPerMinute limitPerHour clock) pool

def OrderlyReaches (pool : Pool ι (Database ι) PrismaError RateLimitResult) : Prop :=
  ∃ clock, Pool.Reaches (fun s s' => Database.Env s s' ∧ s'.orderly = true)
    (fun _ s' => s'.orderly = true) (databasePool limitPerMinute limitPerHour clock) pool

/-- The calls that were allowed at a time from `since` on, before `since + span`. -/
def allowedWithin (pool : Pool ι (Database ι) PrismaError RateLimitResult) (since span : Int) :
    Set ι :=
  { call | ∃ res now, pool.procs call = .done res ∧ res.allowed = true ∧
    pool.state.startedAt call = some now ∧ since ≤ now ∧ now < since + span }

def WithinLimits (pool : Pool ι (Database ι) PrismaError RateLimitResult) : Prop :=
  (∀ since ∈ pool.state.minute.starts,
      (allowedWithin pool since minuteWindowMs).encard ≤ limitPerMinute) ∧
    ∀ since ∈ pool.state.hour.starts, (allowedWithin pool since hourWindowMs).encard ≤ limitPerHour

end Limiter

end Idenplane.RateLimit
