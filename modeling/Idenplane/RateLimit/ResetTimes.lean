import Idenplane.RateLimit.Database
import Idenplane.RateLimit.RedisSafety

/-! # When a rejected caller may come back

A rejected call is told when the window it ran into ends.  Both back ends keep two windows, of
a minute and of an hour; on Redis they begin with the epoch's minutes and hours, on the database
with the first request in them.  The calls of one key come one after the other here.
-/

namespace Idenplane.RateLimit

open Atomic Tickets Windows RateLimitEntry Counter Prog

inductive Span where
  | minute
  | hour
  deriving DecidableEq

def Span.ms : Span → Int
  | minute => minuteWindowMs
  | hour => hourWindowMs

def limitOf (perMinute perHour : Nat) : Span → Nat
  | .minute => perMinute
  | .hour => perHour

structure BackEnd (σ : Type) where
  check : σ → RateLimitResult → σ → Prop
  clock : σ → Int
  wait : σ → Int → σ
  /-- A call made now is above the limit of the window. -/
  exceeds : Span → σ → Bool
  /-- The beginning of the window a call made now is counted in. -/
  windowStart : Span → σ → Int

namespace BackEnd

variable {σ : Type} (b : BackEnd σ)

/-- Calls one after the other, and a clock that does not go back. -/
inductive Run (first : σ) : σ → Prop where
  | start : Run first first
  | wait {s : σ} (time : Int) : Run first s → b.clock s ≤ time → Run first (b.wait s time)
  | check {s s' : σ} {res : RateLimitResult} : Run first s → b.check s res s' → Run first s'

/-- The window on whose account a call is rejected: the minute, when both are exhausted. -/
def exhausted (s : σ) : Span := if b.exceeds .minute s then .minute else .hour

def windowEnd (span : Span) (s : σ) : Int := b.windowStart span s + span.ms

/-- The reset time of a call that was rejected is the end of the exhausted window: from then on
a single call is not rejected on account of that window, and before its end every call still is. -/
structure Truthful (span : Span) (s : σ) (res : RateLimitResult) (s' : σ) : Prop where
  isEnd : res.resetAt = ceilSeconds (b.windowEnd span s)
  after : ∀ time, b.clock s' ≤ time → res.resetAt * 1000 ≤ time →
    b.exceeds span (b.wait s' time) = false
  before : ∀ time, b.clock s' ≤ time → time < b.windowEnd span s →
    b.exceeds span (b.wait s' time) = true

theorem exceeds_exhausted {s : σ} (rejected : b.exceeds .minute s || b.exceeds .hour s) :
    b.exceeds (b.exhausted s) s = true := by
  rw [exhausted]
  by_cases minute : b.exceeds .minute s
  · rw [if_pos minute, minute]
  · rw [if_neg minute]
    simpa [minute] using rejected

end BackEnd

variable {ι : Type} [DecidableEq ι] (perMinute perHour : Nat)

def Redis.counter (s : Redis ι) : Span → Counter Int ι
  | .minute => s.minute
  | .hour => s.hour

def windowOf : Span → Int → Int
  | .minute => minuteWindow
  | .hour => hourWindow

def redisBackEnd : BackEnd (Redis ι) where
  check s res s' :=
    ∃ call, (checkWithRedis perMinute perHour call).run s = (.ok res, s')
  clock := Redis.clock
  wait s time := { s with clock := time }
  exceeds span s :=
    (s.counter span).value (windowOf span (s.clock / 1000)) + 1 > limitOf perMinute perHour span
  windowStart span s := windowOf span (s.clock / 1000) * span.ms

/-- Between two calls no counter is above its limit, and those of later windows are zero. -/
def RedisBetween (s : Redis ι) : Prop :=
  ∀ span window, (s.counter span).value window ≤ limitOf perMinute perHour span ∧
    (windowOf span (s.clock / 1000) < window → (s.counter span).value window = 0)

variable {perMinute perHour}

theorem windowOf_mono (span : Span) {first snd : Int} (later : first ≤ snd) :
    windowOf span (first / 1000) ≤ windowOf span (snd / 1000) := by
  cases span with
  | minute => simp only [windowOf, minuteWindow]; omega
  | hour => simp only [windowOf, hourWindow]; omega

structure RedisChecked (perMinute perHour : Nat) (s : Redis ι) (res : RateLimitResult)
    (s' : Redis ι) : Prop where
  result_eq : res = redisResult (s.clock / 1000) perMinute perHour
    (s.minute.value (minuteWindow (s.clock / 1000)) + 1) (s.hour.value (hourWindow (s.clock / 1000)) + 1)
  clock_eq : s'.clock = s.clock
  other : ∀ span window, window ≠ windowOf span (s.clock / 1000) →
    (s'.counter span).value window = (s.counter span).value window
  own : ∀ span, (s'.counter span).value (windowOf span (s.clock / 1000)) =
    (s.counter span).value (windowOf span (s.clock / 1000)) + if res.allowed then 1 else 0

theorem redisResult_allowed_eq (now minuteCount hourCount : Int) :
    (redisResult now perMinute perHour minuteCount hourCount).allowed =
      !decide (minuteCount > perMinute ∨ hourCount > perHour) := by
  rw [Bool.eq_iff_iff, redisResult_allowed, not_eq_true', decide_eq_false_iff_not]
  omega

theorem redis_checked {s s' : Redis ι} {res : RateLimitResult}
    (ran : (redisBackEnd perMinute perHour).check s res s') :
    RedisChecked perMinute perHour s res s' := by
  obtain ⟨call, ran⟩ := ran
  by_cases above : s.minute.value (minuteWindow (s.clock / 1000)) + 1 > perMinute ∨
      s.hour.value (hourWindow (s.clock / 1000)) + 1 > perHour
  · simp only [checkWithRedis, readClock, incrMinute, incrHour, settle, atomic, step_bind,
      done_bind, run_step, incr, if_pos above] at ran
    cases ran
    refine { result_eq := rfl, clock_eq := rfl, other := ?_, own := ?_ }
    · intro span window ne
      cases span with
      | minute =>
        simp [Redis.counter, decr]
      | hour =>
        simp [Redis.counter, decr]
    · intro span
      rw [redisResult_allowed_eq, decide_eq_true above]
      cases span <;> simp [Redis.counter, decr, windowOf]
  · simp only [checkWithRedis, readClock, incrMinute, incrHour, settle, atomic, step_bind,
      done_bind, run_step, incr, if_neg above] at ran
    cases ran
    refine { result_eq := rfl, clock_eq := rfl, other := ?_, own := ?_ }
    · intro span window ne
      cases span with
      | minute =>
        have ne : window ≠ minuteWindow (s.clock / 1000) := ne
        simp [Redis.counter, ne]
      | hour =>
        have ne : window ≠ hourWindow (s.clock / 1000) := ne
        simp [Redis.counter, ne]
    · intro span
      rw [redisResult_allowed_eq, decide_eq_false above]
      cases span <;> simp [Redis.counter, windowOf]

/-- A call is allowed exactly when it is above neither limit. -/
theorem redis_allowed {s s' : Redis ι} {res : RateLimitResult}
    (checked : RedisChecked perMinute perHour s res s') :
    res.allowed = !((redisBackEnd perMinute perHour).exceeds .minute s ||
      (redisBackEnd perMinute perHour).exceeds .hour s) := by
  rw [checked.result_eq, redisResult_allowed_eq, Bool.decide_or]
  rfl

variable {clock : Int}

theorem redis_between {s : Redis ι} (run : (redisBackEnd perMinute perHour).Run (.start clock) s) :
    RedisBetween perMinute perHour s := by
  induction run with
  | start =>
    intro span window
    cases span <;> simp [Redis.start, Redis.counter, zero]
  | @wait s time _ later ih =>
    intro span window
    constructor
    · exact (ih span window).1
    · intro isLater
      exact (ih span window).2 (lt_of_le_of_lt (windowOf_mono span later) isLater)
  | @check s s' res _ ran ih =>
    have checked := redis_checked ran
    intro span window
    rw [checked.clock_eq]
    by_cases isOwn : window = windowOf span (s.clock / 1000)
    · subst isOwn
      constructor
      · rw [checked.own span]
        cases allowed : res.allowed with
        | false => simpa using (ih span _).1
        | true =>
          rw [redis_allowed checked] at allowed
          simp only [redisBackEnd, Bool.not_or, and_eq_true, not_eq_true',
            decide_eq_false_iff_not, not_lt] at allowed
          cases span with
          | minute => exact allowed.1
          | hour => exact allowed.2
      · exact fun later => absurd later (lt_irrefl _)
    · rw [checked.other span window isOwn]
      exact ih span window

section RedisReset

variable {s s' : Redis ι} {res : RateLimitResult}

theorem redis_resetAt (checked : RedisChecked perMinute perHour s res s')
    (rejected : res.allowed = false) :
    res.resetAt = ceilSeconds ((redisBackEnd perMinute perHour).windowEnd
      ((redisBackEnd perMinute perHour).exhausted s) s) := by
  rw [redis_allowed checked, not_eq_false'] at rejected
  rw [checked.result_eq]
  by_cases minute : s.minute.value (minuteWindow (s.clock / 1000)) + 1 > perMinute
  · have isMinute : (redisBackEnd perMinute perHour).exhausted s = .minute :=
      if_pos (decide_eq_true minute)
    rw [isMinute]
    simp only [redisResult, if_pos minute, BackEnd.windowEnd, redisBackEnd, windowOf, Span.ms,
      minuteWindowMs, ceilSeconds]
    omega
  · have notMinute : (redisBackEnd perMinute perHour).exceeds .minute s = false :=
      decide_eq_false minute
    have isHour : (redisBackEnd perMinute perHour).exhausted s = .hour := by
      rw [BackEnd.exhausted, notMinute]
      rfl
    have hour : s.hour.value (hourWindow (s.clock / 1000)) + 1 > perHour := by
      rw [notMinute, Bool.false_or] at rejected
      exact of_decide_eq_true rejected
    rw [isHour]
    simp only [redisResult, if_neg minute, if_pos hour, BackEnd.windowEnd, redisBackEnd, windowOf,
      Span.ms, hourWindowMs, ceilSeconds]
    omega

omit [DecidableEq ι] in
theorem redis_value (checked : RedisChecked perMinute perHour s res s')
    (rejected : res.allowed = false) (span : Span) (window : Int) :
    (s'.counter span).value window = (s.counter span).value window := by
  by_cases isOwn : window = windowOf span (s.clock / 1000)
  · rw [isOwn, checked.own span, rejected]
    simp
  · exact checked.other span window isOwn

theorem windowOf_within (span : Span) {now time : Int} (later : now ≤ time)
    (within : time < windowOf span (now / 1000) * span.ms + span.ms) :
    windowOf span (time / 1000) = windowOf span (now / 1000) := by
  cases span with
  | minute => simp only [windowOf, minuteWindow, Span.ms, minuteWindowMs] at *; omega
  | hour => simp only [windowOf, hourWindow, Span.ms, hourWindowMs] at *; omega

theorem windowOf_after (span : Span) {now time : Int}
    (after : ceilSeconds (windowOf span (now / 1000) * span.ms + span.ms) * 1000 ≤ time) :
    windowOf span (now / 1000) < windowOf span (time / 1000) := by
  cases span with
  | minute => simp only [windowOf, minuteWindow, Span.ms, minuteWindowMs, ceilSeconds] at *; omega
  | hour => simp only [windowOf, hourWindow, Span.ms, hourWindowMs, ceilSeconds] at *; omega

theorem redis_truthful_iff {span : Span}
    (run : (redisBackEnd perMinute perHour).Run (.start clock) s)
    (ran : (redisBackEnd perMinute perHour).check s res s')
    (rejected : res.allowed = false)
    (exhausted : (redisBackEnd perMinute perHour).exhausted s = span) :
    (redisBackEnd perMinute perHour).Truthful span s res s' ↔
      0 < limitOf perMinute perHour span := by
  have checked := redis_checked ran
  have isEnd := redis_resetAt checked rejected
  have full : (redisBackEnd perMinute perHour).exceeds span s = true := by
    rw [← exhausted]
    apply BackEnd.exceeds_exhausted
    rw [redis_allowed checked, not_eq_false'] at rejected
    exact rejected
  rw [exhausted] at isEnd
  have single (time : Int) (after : res.resetAt * 1000 ≤ time) :
      (s'.counter span).value (windowOf span (time / 1000)) = 0 := by
    rw [redis_value checked rejected]
    apply (redis_between run span _).2
    apply windowOf_after
    rw [isEnd] at after
    exact after
  constructor
  · intro truthful
    have later : (redisBackEnd perMinute perHour).clock s' ≤
        max s'.clock (res.resetAt * 1000) := le_max_left _ _
    have passes := truthful.after _ later (le_max_right _ _)
    have zero := single _ (le_max_right s'.clock _)
    have within := of_decide_eq_false passes
    change ¬(s'.counter span).value (windowOf span (max s'.clock (res.resetAt * 1000) / 1000)) + 1 >
      limitOf perMinute perHour span at within
    omega
  · intro positive
    refine { isEnd := isEnd, after := ?_, before := ?_ }
    · intro time _ after
      apply decide_eq_false
      change ¬(s'.counter span).value (windowOf span (time / 1000)) + 1 >
        limitOf perMinute perHour span
      have zero := single time after
      omega
    · intro time later within
      apply decide_eq_true
      change (s'.counter span).value (windowOf span (time / 1000)) + 1 >
        limitOf perMinute perHour span
      have sameClock : s.clock ≤ time := checked.clock_eq ▸ later
      rw [windowOf_within span sameClock within, redis_value checked rejected]
      exact of_decide_eq_true full

end RedisReset

namespace RateLimitEntry

def cell (e : RateLimitEntry) : Span → Cell
  | .minute => e.minute
  | .hour => e.hour

def countAt (e : RateLimitEntry) (now : Int) : Span → Int
  | .minute => e.minuteCountAt now
  | .hour => e.hourCountAt now

/-- The beginning of a window after the windows that are over have been restarted. -/
def startAt (e : RateLimitEntry) (now : Int) (span : Span) : Int :=
  if now - (e.cell span).start ≥ span.ms then now else (e.cell span).start

def restarted (e : RateLimitEntry) (now : Int) : RateLimitEntry where
  minuteCount := e.minuteCountAt now
  minuteWindowStart := e.startAt now .minute
  hourCount := e.hourCountAt now
  hourWindowStart := e.startAt now .hour

theorem restarted_eq (e : RateLimitEntry) (now : Int) :
    (let row := if e.minuteOver now then { e with minuteCount := 1, minuteWindowStart := now } else e
      if e.hourOver now then { row with hourCount := 1, hourWindowStart := now } else row) =
      e.restarted now := by
  have minuteStart : e.startAt now .minute = if e.minuteOver now then now else e.minuteWindowStart := by
    simp [startAt, minuteOver, cell, minute, Span.ms]
  have hourStart : e.startAt now .hour = if e.hourOver now then now else e.hourWindowStart := by
    simp [startAt, hourOver, cell, hour, Span.ms]
  unfold restarted minuteCountAt hourCountAt
  rw [minuteStart, hourStart]
  by_cases minute : e.minuteOver now <;> by_cases hour : e.hourOver now <;> simp [minute, hour]

end RateLimitEntry

variable (perMinute perHour)

def databaseBackEnd : BackEnd (Database ι) where
  check s res s' :=
    ∃ call, (checkWithDatabase perMinute perHour call).run s = (.ok res, s')
  clock := Database.clock
  wait s time := { s with clock := time }
  exceeds span s :=
    (upserted s.entry s.clock).countAt s.clock span > limitOf perMinute perHour span
  windowStart span s := (upserted s.entry s.clock).startAt s.clock span

variable {perMinute perHour}

structure DatabaseChecked (perMinute perHour : Nat) (s : Database ι)
    (res : RateLimitResult) (s' : Database ι) : Prop where
  result_eq : res = databaseResult perMinute perHour (upserted s.entry s.clock) s.clock
  clock_eq : s'.clock = s.clock
  entry_eq : ∃ e, s'.entry = some e ∧ ∀ span,
    (e.cell span).start = (upserted s.entry s.clock).startAt s.clock span ∧
    (e.cell span).count = (upserted s.entry s.clock).countAt s.clock span -
      if (upserted s.entry s.clock).rejects perMinute perHour s.clock then 1 else 0

variable {row : RateLimitEntry}

omit [DecidableEq ι] in
theorem updateEntry_run {s : Database ι} (stored : s.entry = some row)
    (f : Database ι → RateLimitEntry → Database ι) : (updateEntry f).run s = (.ok (), f s row) := by
  simp [updateEntry, atomic, stored, orFail_some]

variable (perMinute perHour) in
theorem restartMinute_run {s : Database ι} (stored : s.entry = some row)
    (call : ι) (e : RateLimitEntry) (now : Int) :
    ∃ s', (restartMinute perMinute perHour call e now).run s = (.ok (), s') ∧
      s'.clock = s.clock ∧ s'.entry = some (if e.minuteOver now then
        { row with minuteCount := 1, minuteWindowStart := now } else row) := by
  unfold restartMinute
  by_cases isOver : e.minuteOver now
  · rw [if_pos isOver, if_pos isOver, updateEntry_run stored]
    exact ⟨_, rfl, rfl, rfl⟩
  · rw [if_neg isOver, if_neg isOver]
    exact ⟨s, rfl, rfl, stored⟩

variable (perMinute perHour) in
theorem restartHour_run {s : Database ι} (stored : s.entry = some row)
    (call : ι) (e : RateLimitEntry) (now : Int) :
    ∃ s', (restartHour perMinute perHour call e now).run s = (.ok (), s') ∧
      s'.clock = s.clock ∧ s'.entry = some (if e.hourOver now then
        { row with hourCount := 1, hourWindowStart := now } else row) := by
  unfold restartHour
  by_cases isOver : e.hourOver now
  · rw [if_pos isOver, if_pos isOver, updateEntry_run stored]
    exact ⟨_, rfl, rfl, rfl⟩
  · rw [if_neg isOver, if_neg isOver]
    exact ⟨s, rfl, rfl, stored⟩

theorem uncount_run {s : Database ι} (stored : s.entry = some row)
    (call : ι) : (uncount call).run s = (.ok (), s.uncount row call) := by
  simp [uncount, modify, stored]

variable (perMinute perHour) in
theorem database_run (s : Database ι) (call : ι) :
    ∃ res s', (checkWithDatabase perMinute perHour call).run s = (.ok res, s') ∧
      DatabaseChecked perMinute perHour s res s' := by
  let entry := upserted s.entry s.clock
  let started : Database ι :=
    { s with startedAt := update s.startedAt call (some s.clock) }
  let counted := started.upsert call s.clock (entry.minuteOver s.clock || entry.hourOver s.clock ||
    entry.rejects perMinute perHour s.clock)
  have stored : counted.entry = some entry := rfl
  obtain ⟨s₁, run₁, clock₁, entry₁⟩ :=
    restartMinute_run perMinute perHour stored call entry s.clock
  obtain ⟨s₂, run₂, clock₂, entry₂⟩ :=
    restartHour_run perMinute perHour entry₁ call entry s.clock
  rw [entry.restarted_eq s.clock] at entry₂
  have clock_eq : s₂.clock = s.clock := clock₂.trans clock₁
  have begun (rest : Unit → Prog (Database ι) PrismaError RateLimitResult) :
      (restartMinute perMinute perHour call entry s.clock >>= fun _ =>
        restartHour perMinute perHour call entry s.clock >>= rest).run counted =
      (rest ()).run s₂ := by
    rw [run_bind, run₁]
    dsimp only
    rw [run_bind, run₂]
  cases rejected : entry.rejects perMinute perHour s.clock with
  | false =>
    refine ⟨databaseResult perMinute perHour entry s.clock, s₂, ?_, ?_⟩
    · refine (begun _).trans ?_
      rw [rejected]
      rfl
    · refine { result_eq := rfl, clock_eq := clock_eq, entry_eq := ⟨_, entry₂, ?_⟩ }
      intro span
      rw [rejected]
      cases span with
      | minute => exact ⟨rfl, (Int.sub_zero _).symm⟩
      | hour => exact ⟨rfl, (Int.sub_zero _).symm⟩
  | true =>
    refine ⟨databaseResult perMinute perHour entry s.clock,
      s₂.uncount (entry.restarted s.clock) call, ?_, ?_⟩
    · refine (begun _).trans ?_
      rw [rejected, if_pos rfl, run_bind, uncount_run entry₂]
      rfl
    · refine { result_eq := rfl, clock_eq := clock_eq, entry_eq := ⟨_, rfl, ?_⟩ }
      intro span
      rw [rejected]
      cases span with
      | minute => exact ⟨rfl, rfl⟩
      | hour => exact ⟨rfl, rfl⟩

theorem database_checked {s s' : Database ι} {res : RateLimitResult}
    (ran : (databaseBackEnd perMinute perHour).check s res s') :
    DatabaseChecked perMinute perHour s res s' := by
  obtain ⟨call, ran⟩ := ran
  obtain ⟨_, _, alone, checked⟩ := database_run perMinute perHour s call
  rw [ran] at alone
  cases alone
  exact checked

/-- Between two calls the windows have started, and no count is above its limit. -/
def DatabaseBetween (perMinute perHour : Nat) (s : Database ι) : Prop :=
  ∀ e, s.entry = some e → ∀ span, (e.cell span).start ≤ s.clock ∧ 0 ≤ (e.cell span).count ∧
    (e.cell span).count ≤ limitOf perMinute perHour span

theorem countAt_eq (e : RateLimitEntry) (now : Int) (span : Span) : e.countAt now span =
      if now - (e.cell span).start ≥ span.ms then 1 else (e.cell span).count := by
  cases span with
  | minute => simp [countAt, minuteCountAt, minuteOver, cell, minute, Span.ms]
  | hour => simp [countAt, hourCountAt, hourOver, cell, hour, Span.ms]

theorem upserted_none (now : Int) (span : Span) : (upserted none now).cell span = ⟨1, now⟩ := by
  cases span <;> rfl

theorem upserted_some (e : RateLimitEntry) (now : Int) (span : Span) :
    (upserted (some e) now).cell span = ⟨(e.cell span).count + 1, (e.cell span).start⟩ := by
  cases span <;> rfl

theorem rejects_iff (e : RateLimitEntry) (now : Int) : e.rejects perMinute perHour now = true ↔
      ∃ span, e.countAt now span > limitOf perMinute perHour span := by
  rw [rejects, or_eq_true, decide_eq_true_eq, decide_eq_true_eq]
  constructor
  · intro above
    cases above with
    | inl minute => exact ⟨.minute, minute⟩
    | inr hour => exact ⟨.hour, hour⟩
  · intro ⟨span, above⟩
    cases span with
    | minute => exact .inl above
    | hour => exact .inr above

omit [DecidableEq ι] in
/-- A call that has counted itself finds its windows started, and its counts at most one above
the limit. -/
theorem counted {s : Database ι} (between : DatabaseBetween perMinute perHour s)
    (span : Span) : ((upserted s.entry s.clock).cell span).start ≤ s.clock ∧
      1 ≤ (upserted s.entry s.clock).countAt s.clock span ∧
      (upserted s.entry s.clock).countAt s.clock span ≤ limitOf perMinute perHour span + 1 := by
  rw [countAt_eq]
  cases stored : s.entry with
  | none =>
    rw [upserted_none]
    dsimp only
    split <;> omega
  | some e =>
    obtain ⟨begun, low, high⟩ := between e stored span
    rw [upserted_some]
    dsimp only
    split <;> omega

theorem database_between {s : Database ι}
    (run : (databaseBackEnd perMinute perHour).Run (.start clock) s) :
    DatabaseBetween perMinute perHour s := by
  induction run with
  | start =>
    intro e stored
    cases stored
  | @wait s time _ later ih =>
    intro e stored span
    obtain ⟨begun, bounds⟩ := ih e stored span
    exact ⟨begun.trans later, bounds⟩
  | @check s s' res _ ran ih =>
    have checked := database_checked ran
    obtain ⟨e, entry_eq, cells⟩ := checked.entry_eq
    intro row stored span
    rw [entry_eq] at stored
    cases stored
    obtain ⟨begun, low, high⟩ := counted ih span
    obtain ⟨start_eq, count_eq⟩ := cells span
    rw [start_eq, count_eq, checked.clock_eq, startAt]
    constructor
    · split
      · exact le_rfl
      · exact begun
    · cases rejected : (upserted s.entry s.clock).rejects perMinute perHour s.clock with
      | true =>
        rw [if_pos rfl]
        omega
      | false =>
        have within : ¬(upserted s.entry s.clock).countAt s.clock span >
            limitOf perMinute perHour span := by
          intro above
          rw [(rejects_iff _ _).mpr ⟨span, above⟩] at rejected
          cases rejected
        omega

section DatabaseReset

variable {s s' : Database ι} {res : RateLimitResult}

omit [DecidableEq ι] in
theorem database_allowed (checked : DatabaseChecked perMinute perHour s res s') :
    res.allowed = !(upserted s.entry s.clock).rejects perMinute perHour s.clock := by
  rw [checked.result_eq]
  unfold databaseResult rejects
  by_cases minute : (upserted s.entry s.clock).minuteCountAt s.clock > perMinute <;>
    by_cases hour : (upserted s.entry s.clock).hourCountAt s.clock > perHour <;>
    simp [minute, hour]

/-- The answer counts the span of the window from the rejected call on. -/
theorem database_resetAt (between : DatabaseBetween perMinute perHour s)
    (checked : DatabaseChecked perMinute perHour s res s')
    (rejected : res.allowed = false) : res.resetAt = ceilSeconds
      (s.clock + ((databaseBackEnd perMinute perHour).exhausted s).ms) := by
  rw [database_allowed checked, not_eq_false'] at rejected
  rw [checked.result_eq]
  by_cases minute : (upserted s.entry s.clock).minuteCountAt s.clock > perMinute
  · have isMinute : (databaseBackEnd perMinute perHour).exhausted s = .minute :=
      if_pos (decide_eq_true minute)
    have started : (upserted s.entry s.clock).minuteWindowStart ≤ s.clock := (counted between .minute).1
    rw [isMinute, databaseResult]
    rw [if_pos minute, max_eq_right started]
    rfl
  · have notMinute : (databaseBackEnd perMinute perHour).exceeds .minute s = false :=
      decide_eq_false minute
    have isHour : (databaseBackEnd perMinute perHour).exhausted s = .hour := by
      rw [BackEnd.exhausted, notMinute]
      rfl
    have started : (upserted s.entry s.clock).hourWindowStart ≤ s.clock := (counted between .hour).1
    have hour : (upserted s.entry s.clock).hourCountAt s.clock > perHour := by
      rw [rejects, or_eq_true, decide_eq_true_eq, decide_eq_true_eq] at rejected
      exact rejected.resolve_left minute
    rw [isHour, databaseResult]
    rw [if_neg minute, if_pos hour, max_eq_right started]
    rfl

theorem database_truthful_iff {span : Span}
    (run : (databaseBackEnd perMinute perHour).Run (.start clock) s)
    (ran : (databaseBackEnd perMinute perHour).check s res s')
    (rejected : res.allowed = false)
    (exhausted : (databaseBackEnd perMinute perHour).exhausted s = span) :
    (databaseBackEnd perMinute perHour).Truthful span s res s' ↔
      0 < limitOf perMinute perHour span ∧ ceilSeconds s.clock =
          ceilSeconds ((databaseBackEnd perMinute perHour).windowStart span s) := by
  have between := database_between run
  have checked := database_checked ran
  have resetAt := database_resetAt between checked rejected
  rw [exhausted] at resetAt
  have isRejected := rejected
  rw [database_allowed checked, not_eq_false'] at isRejected
  have above : (upserted s.entry s.clock).countAt s.clock span >
      limitOf perMinute perHour span := by
    have full : (databaseBackEnd perMinute perHour).exceeds span s = true := by
      rw [← exhausted]
      apply BackEnd.exceeds_exhausted
      exact isRejected
    exact of_decide_eq_true full
  obtain ⟨e, entry_eq, cells⟩ := checked.entry_eq
  obtain ⟨start_eq, count_eq⟩ := cells span
  obtain ⟨begun, -, atMost⟩ := counted between span
  have start_le : (e.cell span).start ≤ s.clock := by
    rw [start_eq, startAt]
    split
    · exact le_rfl
    · exact begun
  have probe (time : Int) : (databaseBackEnd perMinute perHour).exceeds span
      ((databaseBackEnd perMinute perHour).wait s' time) =
      decide ((if time - (e.cell span).start ≥ span.ms then 1 else (e.cell span).count + 1) >
        (limitOf perMinute perHour span : Int)) := by
    apply decide_eq_decide.mpr
    change (upserted s'.entry time).countAt time span > _ ↔ _
    rw [entry_eq, countAt_eq, upserted_some]
  have end_eq : (databaseBackEnd perMinute perHour).windowEnd span s =
      (e.cell span).start + span.ms := by
    rw [start_eq]
    rfl
  have windowStart_eq : (databaseBackEnd perMinute perHour).windowStart span s =
      (e.cell span).start := start_eq.symm
  have shifted (time : Int) : ceilSeconds (time + span.ms) = ceilSeconds time + span.ms / 1000 := by
    cases span with
    | minute => simp only [ceilSeconds, Span.ms, minuteWindowMs]; omega
    | hour => simp only [ceilSeconds, Span.ms, hourWindowMs]; omega
  have elapsed {time : Int} (after : res.resetAt * 1000 ≤ time) :
      time - (e.cell span).start ≥ span.ms := by
    rw [resetAt, ceilSeconds] at after
    omega
  rw [windowStart_eq]
  constructor
  · intro truthful
    have isEnd := truthful.isEnd
    rw [resetAt, end_eq, shifted, shifted] at isEnd
    have passes := truthful.after _ (le_max_left _ (res.resetAt * 1000)) (le_max_right _ _)
    rw [probe, if_pos (elapsed (le_max_right _ _)), decide_eq_false_iff_not] at passes
    exact ⟨by omega, by omega⟩
  · intro ⟨positive, sameSecond⟩
    refine { isEnd := ?_, after := ?_, before := ?_ }
    · rw [resetAt, end_eq, shifted, shifted, sameSecond]
    · intro time _ after
      rw [probe, if_pos (elapsed after)]
      apply decide_eq_false
      omega
    · intro time _ within
      rw [end_eq] at within
      rw [probe, if_neg (by omega)]
      apply decide_eq_true
      omega

end DatabaseReset

/-- On Redis the reset time of every rejected call is right, and on the database exactly that of
the calls made in the second in which the exhausted window has started, seconds rounded up.  A
limit of zero is the exception, which no reset time is right for. -/
theorem reset_times (ι : Type) [DecidableEq ι] (perMinute perHour : Nat) (clock : Int) :
    (∀ s res s', (redisBackEnd perMinute perHour).Run (Redis.start (ι := ι) clock) s →
      (redisBackEnd perMinute perHour).check s res s' → res.allowed = false →
      ∀ span, (redisBackEnd perMinute perHour).exhausted s = span →
        ((redisBackEnd perMinute perHour).Truthful span s res s' ↔
          0 < limitOf perMinute perHour span)) ∧
    ∀ s res s', (databaseBackEnd perMinute perHour).Run (Database.start (ι := ι) clock) s →
      (databaseBackEnd perMinute perHour).check s res s' → res.allowed = false →
      ∀ span, (databaseBackEnd perMinute perHour).exhausted s = span →
        ((databaseBackEnd perMinute perHour).Truthful span s res s' ↔
          0 < limitOf perMinute perHour span ∧ ceilSeconds s.clock = ceilSeconds
              ((databaseBackEnd perMinute perHour).windowStart span s)) := by
  constructor
  · intro s res s' run ran rejected span exhausted
    exact redis_truthful_iff run ran rejected exhausted
  · intro s res s' run ran rejected span exhausted
    exact database_truthful_iff run ran rejected exhausted

section Example

/-- One call a minute is allowed, and one has been made at the start. -/
def onceOnDatabase (time : Int) : Database Bool :=
  { ((checkWithDatabase 1 10 true).run (.start 0)).2 with clock := time }

theorem onceOnDatabase_run {time : Int} (later : 0 ≤ time) :
    (databaseBackEnd 1 10).Run (.start 0) (onceOnDatabase time) :=
  .wait time (.check .start ⟨true, rfl⟩) later

def onceOnRedis (time : Int) : Redis Bool :=
  { ((checkWithRedis 1 10 true).run (.start 0)).2 with clock := time }

theorem onceOnRedis_run {time : Int} (later : 0 ≤ time) :
    (redisBackEnd 1 10).Run (.start 0) (onceOnRedis time) :=
  .wait time (.check .start ⟨true, rfl⟩) later

/-- A call half a minute later on Redis, and one in the same second on the database. -/
theorem reset_times_secondCall :
    (∃ res s', (redisBackEnd 1 10).Truthful .minute (onceOnRedis 30000) res s') ∧
      ∃ res s', (databaseBackEnd 1 10).Truthful .minute (onceOnDatabase 0) res s' := by
  obtain ⟨onRedis, onDatabase⟩ := reset_times Bool 1 10 0
  constructor
  · have judged := onRedis (onceOnRedis 30000) _ _ (onceOnRedis_run (by decide)) ⟨false, rfl⟩ rfl
      .minute rfl
    exact ⟨_, _, judged.mpr (by decide)⟩
  · have judged := onDatabase (onceOnDatabase 0) _ _ (onceOnDatabase_run le_rfl) ⟨false, rfl⟩ rfl
      .minute rfl
    exact ⟨_, _, judged.mpr (by decide)⟩

/-- Half a minute later on the database, the answer names the end of a minute that starts with
the rejected call. -/
theorem late_reset_time : (databaseBackEnd 1 10).Run (.start 0) (onceOnDatabase 30000) ∧
      ∃ res s', (databaseBackEnd 1 10).check (onceOnDatabase 30000) res s' ∧
        res.allowed = false ∧ (databaseBackEnd 1 10).exhausted (onceOnDatabase 30000) = .minute ∧
        res.resetAt = 90 ∧
        (databaseBackEnd 1 10).windowEnd .minute (onceOnDatabase 30000) = 60000 ∧
        ¬(databaseBackEnd 1 10).Truthful .minute (onceOnDatabase 30000) res s' := by
  refine ⟨onceOnDatabase_run (by decide), _, _, ⟨false, rfl⟩, rfl, rfl, rfl, rfl, ?_⟩
  intro truthful
  have isEnd : (90 : Int) = 60 := truthful.isEnd
  omega

end Example

end Idenplane.RateLimit
