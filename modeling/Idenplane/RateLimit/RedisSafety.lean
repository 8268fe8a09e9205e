import Idenplane.RateLimit.Redis

/-! # What the limiter on Redis allows

The counters are ticket counters: whatever the calls do to each other, those that were allowed
hold tickets up to the limit in both counters, and those that were rejected hold none.
-/

namespace Idenplane.RateLimit

open Atomic Tickets List Counter Redis Pool

variable {ι : Type} [DecidableEq ι] {pm perHour : Nat}

/-- The counters are right, their tickets belong to calls of their window, and windows that
are in use have not expired. -/
structure RedisInv (perMinute perHour : Nat) (s : Redis ι) : Prop where
  minute : s.minute.Ok perMinute (· ∉ s.expiredMinutes)
  hour : s.hour.Ok perHour (· ∉ s.expiredHours)
  minuteOwner : ∀ t ∈ s.minute.held, ∃ now,
    s.startedAt t.owner = some now ∧ t.key = minuteWindow now
  hourOwner : ∀ t ∈ s.hour.held, ∃ now, s.startedAt t.owner = some now ∧ t.key = hourWindow now
  inUse : ∀ call now, s.Uses call now →
    minuteWindow now ∉ s.expiredMinutes ∧ hourWindow now ∉ s.expiredHours
  current : minuteWindow (s.clock / 1000) ∉ s.expiredMinutes ∧
    hourWindow (s.clock / 1000) ∉ s.expiredHours

structure Untouched (call : ι) (s s' : Redis ι) : Prop where
  startedAt : s'.startedAt call = s.startedAt call
  running : s'.running call = s.running call
  minute : s.minute.Same call s'.minute
  hour : s.hour.Same call s'.hour

def redisProtocol (perMinute perHour : Nat) : Protocol ι (Redis ι) where
  inv := RedisInv perMinute perHour
  rely := Untouched
  refl _ _ := ⟨rfl, rfl, fun _ _ => Iff.rfl, fun _ _ => Iff.rfl⟩
  trans _ _ _ _ first second :=
    ⟨second.startedAt.trans first.startedAt, second.running.trans first.running,
      first.minute.trans second.minute, first.hour.trans second.hour⟩

structure Holds (call : ι) (now : Int) (minuteCount hourCount : Option Int) (s : Redis ι) :
    Prop where
  uses : s.Uses call now
  minute : s.minute.Own call (minuteCount.map (minuteWindow now, ·))
  hour : s.hour.Own call (hourCount.map (hourWindow now, ·))

section Steps

variable {s s' : Redis ι} {call : ι} {now : Int} {m h : Option Int}

omit [DecidableEq ι] in
theorem Holds.stable (holds : Holds call now m h s) (moved : Untouched call s s') :
    Holds call now m h s' where
  uses := ⟨moved.running.trans holds.uses.1, moved.startedAt.trans holds.uses.2⟩
  minute := holds.minute.stable moved.minute
  hour := holds.hour.stable moved.hour

def Step (perMinute perHour : Nat) (call : ι) (s s' : Redis ι) : Prop :=
  RedisInv perMinute perHour s' ∧ ∀ j, j ≠ call → Untouched j s s'

theorem readClock_step (inv : RedisInv pm perHour s) (fresh : s.startedAt call = none) :
    let s' : Redis ι := { s with
      startedAt := update s.startedAt call (some (s.clock / 1000))
      running := update s.running call true }
    Step pm perHour call s s' ∧ Holds call (s.clock / 1000) none none s' := by
  have noMinute : s.minute.Free call := by
    rintro t held rfl
    obtain ⟨now, begun, -⟩ := inv.minuteOwner t held
    simp [fresh] at begun
  have noHour : s.hour.Free call := by
    rintro t held rfl
    obtain ⟨now, begun, -⟩ := inv.hourOwner t held
    simp [fresh] at begun
  refine ⟨⟨{ inv with minuteOwner := ?_, hourOwner := ?_, inUse := ?_ }, ?_⟩,
    ⟨⟨by simp, by simp⟩, noMinute.own, noHour.own⟩⟩
  · intro t held
    simpa [update_of_ne (noMinute t held)] using inv.minuteOwner t held
  · intro t held
    simpa [update_of_ne (noHour t held)] using inv.hourOwner t held
  · rintro other now ⟨isRunning, begun⟩
    by_cases same : other = call
    · subst same
      simp only [update_self, some.injEq] at begun
      exact begun ▸ inv.current
    · simp only [update_of_ne same] at isRunning begun
      exact inv.inUse other now ⟨isRunning, begun⟩
  · intro j other
    exact ⟨by simp [other], by simp [other], fun _ _ => Iff.rfl, fun _ _ => Iff.rfl⟩

omit [DecidableEq ι] in
theorem incrMinute_step (inv : RedisInv pm perHour s) (holds : Holds call now none h s) :
    let counted := s.minute.incr (minuteWindow now) call
    let s' : Redis ι := { s with minute := counted.2 }
    Step pm perHour call s s' ∧ Holds call now (some counted.1) h s' := by
  refine ⟨⟨{ inv with minute := ?_, minuteOwner := ?_ }, ?_⟩,
    ⟨holds.uses, holds.minute.incr _, holds.hour⟩⟩
  · exact inv.minute.incr (inv.inUse call now holds.uses).1 holds.minute.free
  · intro t held
    rcases mem_cons.mp held with rfl | held
    · exact ⟨now, holds.uses.2, rfl⟩
    · exact inv.minuteOwner t held
  · intro j other
    exact ⟨rfl, rfl, incr_same other, fun _ _ => Iff.rfl⟩

omit [DecidableEq ι] in
theorem incrHour_step (inv : RedisInv pm perHour s) (holds : Holds call now m none s) :
    let counted := s.hour.incr (hourWindow now) call
    let s' : Redis ι := { s with hour := counted.2 }
    Step pm perHour call s s' ∧ Holds call now m (some counted.1) s' := by
  refine ⟨⟨{ inv with hour := ?_, hourOwner := ?_ }, ?_⟩,
    ⟨holds.uses, holds.minute, holds.hour.incr _⟩⟩
  · exact inv.hour.incr (inv.inUse call now holds.uses).2 holds.hour.free
  · intro t held
    rcases mem_cons.mp held with rfl | held
    · exact ⟨now, holds.uses.2, rfl⟩
    · exact inv.hourOwner t held
  · intro j other
    exact ⟨rfl, rfl, fun _ _ => Iff.rfl, incr_same other⟩

theorem decrMinute_step {count : Int} (inv : RedisInv pm perHour s)
    (holds : Holds call now (some count) h s) :
    let s' : Redis ι := { s with minute := s.minute.decr (minuteWindow now) call }
    Step pm perHour call s s' ∧ Holds call now none h s' := by
  refine ⟨⟨{ inv with minute := inv.minute.decr holds.minute.mem, minuteOwner := ?_ }, ?_⟩,
    ⟨holds.uses, decr_own, holds.hour⟩⟩
  · intro t held
    exact inv.minuteOwner t (mem_of_mem_filter held)
  · intro j other
    exact ⟨rfl, rfl, decr_same other, fun _ _ => Iff.rfl⟩

theorem decrHour_step {count : Int} (inv : RedisInv pm perHour s)
    (holds : Holds call now m (some count) s) :
    let s' : Redis ι := { s with hour := s.hour.decr (hourWindow now) call }
    Step pm perHour call s s' ∧ Holds call now m none s' := by
  refine ⟨⟨{ inv with hour := inv.hour.decr holds.hour.mem, hourOwner := ?_ }, ?_⟩,
    ⟨holds.uses, holds.minute, decr_own⟩⟩
  · intro t held
    exact inv.hourOwner t (mem_of_mem_filter held)
  · intro j other
    exact ⟨rfl, rfl, fun _ _ => Iff.rfl, decr_same other⟩

/-- What a call leaves behind: its tickets when it was allowed, nothing when it was not. -/
structure Outcome (perMinute perHour : Nat) (call : ι) (res : RateLimitResult)
    (s : Redis ι) : Prop where
  started : ∃ now, s.startedAt call = some now
  allowed : res.allowed = true → ∀ now, s.startedAt call = some now →
    (∃ n ≤ (perMinute : Int), s.minute.Own call (some (minuteWindow now, n))) ∧
      ∃ n ≤ (perHour : Int), s.hour.Own call (some (hourWindow now, n))
  rejected : res.allowed = false → s.minute.Free call ∧ s.hour.Free call

theorem return_step (inv : RedisInv pm perHour s) : Step pm perHour call s
      { s with running := update s.running call false } := by
  refine ⟨{ inv with inUse := ?_ }, ?_⟩
  · rintro other now ⟨isRunning, begun⟩
    by_cases same : other = call
    · subst same
      simp at isRunning
    · simp only [update_of_ne same] at isRunning
      exact inv.inUse other now ⟨isRunning, begun⟩
  · intro j other
    exact ⟨rfl, by simp [other], fun _ _ => Iff.rfl, fun _ _ => Iff.rfl⟩

end Steps

section Calls

def Delivered (perMinute perHour : Nat) (call : ι) : Except Empty RateLimitResult → Redis ι → Prop
  | .ok res, s => Outcome perMinute perHour call res s
  | .error e, _ => nomatch e

variable {res : RateLimitResult}

omit [DecidableEq ι] in
theorem Outcome.stable {call : ι} {s s' : Redis ι}
    (out : Outcome pm perHour call res s) (moved : Untouched call s s') :
    Outcome pm perHour call res s' := by
  obtain ⟨begun, allowed, rejected⟩ := out
  rw [← moved.startedAt] at begun allowed
  refine ⟨begun, fun isAllowed now at_ => ?_, fun isRejected => ?_⟩
  · obtain ⟨⟨m, small, minute⟩, n, smallHour, hour⟩ := allowed isAllowed now at_
    exact ⟨⟨m, small, minute.stable moved.minute⟩, n, smallHour, hour.stable moved.hour⟩
  · obtain ⟨minute, hour⟩ := rejected isRejected
    exact ⟨(minute.own.stable moved.minute).free, (hour.own.stable moved.hour).free⟩

theorem redisResult_allowed (pm perHour : Nat) (now minuteCount hourCount : Int) :
    (redisResult now pm perHour minuteCount hourCount).allowed = true ↔
      minuteCount ≤ pm ∧ hourCount ≤ perHour := by
  unfold redisResult
  split
  · rename_i above
    simp only [false_eq_true, false_iff]
    omega
  · split
    · simp only [false_eq_true, false_iff]
      omega
    · simp only [true_iff]
      omega

theorem return_sat {call : ι} {s : Redis ι} (out : Outcome pm perHour call res s) :
    (do return_ call; pure res : Prog (Redis ι) Empty RateLimitResult).Sat
      (redisProtocol pm perHour) (fun _ _ => True) call
      (Delivered pm perHour call) s := by
  apply Sat.modify_bind
  intro t move inv _
  obtain ⟨inv', os⟩ := return_step inv
  refine ⟨inv', os, ?_⟩
  have kept := out.stable move
  have left : Outcome pm perHour call res { t with running := update t.running call false } :=
    ⟨kept.started, kept.allowed, kept.rejected⟩
  exact fun u later _ => left.stable later

theorem settle_sat {call : ι} {now minuteCount hourCount : Int} {s : Redis ι}
    (holds : Holds call now (some minuteCount) (some hourCount) s) :
    (settle pm perHour call now minuteCount hourCount).Sat
      (redisProtocol pm perHour) (fun _ _ => True) call
      (Delivered pm perHour call) s := by
  have verdict := redisResult_allowed pm perHour now minuteCount hourCount
  unfold settle
  by_cases above : minuteCount > pm ∨ hourCount > perHour
  · rw [if_pos above]
    have isRejected : (redisResult now pm perHour minuteCount hourCount).allowed =
        false := by
      rw [eq_false_iff, Ne, verdict]
      omega
    change Prog.Sat _ _ _ _ (do
      decrMinute call (minuteWindow now)
      decrHour call (hourWindow now)
      return_ call
      pure _) s
    apply Sat.modify_bind
    intro t move inv _
    obtain ⟨⟨inv, os⟩, holds⟩ := decrMinute_step inv (holds.stable move)
    refine ⟨inv, os, ?_⟩
    apply Sat.modify_bind
    intro t move inv _
    obtain ⟨⟨inv, os⟩, holds⟩ := decrHour_step inv (holds.stable move)
    refine ⟨inv, os, return_sat ⟨⟨now, holds.uses.2⟩, ?_, ?_⟩⟩
    · simp [isRejected]
    · exact fun _ => ⟨holds.minute.free, holds.hour.free⟩
  · rw [if_neg above]
    have isAllowed := verdict.mpr (by omega)
    refine return_sat ⟨⟨now, holds.uses.2⟩, fun _ other at_ => ?_, by simp [isAllowed]⟩
    obtain rfl : now = other := some.inj (holds.uses.2.symm.trans at_)
    have small := verdict.mp isAllowed
    exact ⟨⟨minuteCount, small.1, holds.minute⟩, hourCount, small.2, holds.hour⟩

theorem checkWithRedis_sat {call : ι} {s : Redis ι} (fresh : s.startedAt call = none) :
    (checkWithRedis pm perHour call).Sat (redisProtocol pm perHour) (fun _ _ => True) call
      (Delivered pm perHour call) s := by
  apply Sat.atomic_bind
  intro t move inv _
  obtain ⟨⟨inv, os⟩, holds⟩ := readClock_step inv (move.startedAt.trans fresh)
  refine ⟨inv, os, ?_⟩
  apply Sat.atomic_bind
  intro t move inv _
  obtain ⟨⟨inv, os⟩, holds⟩ := incrMinute_step inv (holds.stable move)
  refine ⟨inv, os, ?_⟩
  apply Sat.atomic_bind
  intro t move inv _
  obtain ⟨⟨inv, os⟩, holds⟩ := incrHour_step inv (holds.stable move)
  exact ⟨inv, os, settle_sat holds⟩

omit [DecidableEq ι] in
theorem env_step {s s' : Redis ι} (inv : RedisInv pm perHour s) (moved : Redis.Env s s') :
    RedisInv pm perHour s' ∧ ∀ call, Untouched call s s' := by
  cases moved with
  | tick clock minute hour =>
    exact ⟨{ inv with current := ⟨minute, hour⟩ },
      fun _ => ⟨rfl, rfl, fun _ _ => Iff.rfl, fun _ _ => Iff.rfl⟩⟩
  | expireMinute window past unused =>
    refine ⟨{ inv with minute := ?_, inUse := ?_, current := ?_ },
      fun _ => ⟨rfl, rfl, fun _ _ => Iff.rfl, fun _ _ => Iff.rfl⟩⟩
    · exact inv.minute.expire (fun _ still => not_mem_of_not_mem_cons still) (by simp)
    · intro call now uses
      refine ⟨?_, (inv.inUse call now uses).2⟩
      exact not_mem_cons_of_ne_of_not_mem (unused call now uses) (inv.inUse call now uses).1
    · exact ⟨not_mem_cons_of_ne_of_not_mem past inv.current.1, inv.current.2⟩
  | expireHour window past unused =>
    refine ⟨{ inv with hour := ?_, inUse := ?_, current := ?_ },
      fun _ => ⟨rfl, rfl, fun _ _ => Iff.rfl, fun _ _ => Iff.rfl⟩⟩
    · exact inv.hour.expire (fun _ still => not_mem_of_not_mem_cons still) (by simp)
    · intro call now uses
      refine ⟨(inv.inUse call now uses).1, ?_⟩
      exact not_mem_cons_of_ne_of_not_mem (unused call now uses) (inv.inUse call now uses).2
    · exact ⟨inv.current.1, not_mem_cons_of_ne_of_not_mem past inv.current.2⟩

end Calls

section Results

variable {pool : Pool ι (Redis ι) Empty RateLimitResult}

/-- In every interleaving the counters are right, and whoever is done has left its outcome. -/
theorem redis_sound (reached : RedisReaches pm perHour pool) : RedisInv pm perHour pool.state ∧
      ∀ call res, pool.procs call = .done res → Outcome pm perHour call res pool.state := by
  obtain ⟨clock, reached⟩ := reached
  have init : RedisInv pm perHour (.start clock : Redis ι) := {
    minute := .zero
    hour := .zero
    minuteOwner := by simp [start, zero]
    hourOwner := by simp [start, zero]
    inUse := by simp [start, Redis.Uses]
    current := by simp [start] }
  have threads : ∀ call, (checkWithRedis pm perHour call).Sat
      (redisProtocol pm perHour) (fun _ _ => True) call
      (Delivered pm perHour call) (.start clock : Redis ι) :=
    fun call => checkWithRedis_sat rfl
  have sound := sound (P := redisProtocol pm perHour)
    (c := redisPool pm perHour clock) init threads
    (fun _ _ => env_step) reached
  refine ⟨sound.1, fun call res fin => ?_⟩
  exact sound_done (P := redisProtocol pm perHour)
    (c := redisPool pm perHour clock) init threads
    (fun _ _ => env_step) reached fin

/-- The limiter keeps to its limits in every interleaving, and counts what it has allowed and
nothing else once no call is under way. -/
theorem redis_limits_are_exact {pm perHour : Nat} (reached : RedisReaches pm perHour pool) :
    (∀ window, (allowedCalls pool (minuteWindow · = window)).encard ≤ pm) ∧
      (∀ window, (allowedCalls pool (hourWindow · = window)).encard ≤ perHour) ∧
      (Quiet pool →
        let now := pool.state.clock / 1000
        (∃ n : Nat, (allowedCalls pool (minuteWindow · = minuteWindow now)).encard = n ∧
          pool.state.minute.value (minuteWindow now) = n) ∧
        ∃ n : Nat, (allowedCalls pool (hourWindow · = hourWindow now)).encard = n ∧
          pool.state.hour.value (hourWindow now) = n) := by
  obtain ⟨inv, outcomes⟩ := redis_sound reached
  refine ⟨fun window => ?_, fun window => ?_, fun quiet => ⟨?_, ?_⟩⟩
  · apply inv.minute.encard_le window
    rintro call ⟨res, now, fin, isAllowed, at_, rfl⟩
    obtain ⟨⟨n, small, owns⟩, -⟩ := (outcomes call res fin).allowed isAllowed now at_
    exact ⟨n, small, owns.mem⟩
  · apply inv.hour.encard_le window
    rintro call ⟨res, now, fin, isAllowed, at_, rfl⟩
    obtain ⟨-, n, small, owns⟩ := (outcomes call res fin).allowed isAllowed now at_
    exact ⟨n, small, owns.mem⟩
  · obtain ⟨n, owners, v⟩ := inv.minute.encard_owners inv.current.1
    refine ⟨n, ?_, v⟩
    rw [← owners]
    congr 1
    ext call
    constructor
    · rintro ⟨res, now, fin, isAllowed, at_, isNow⟩
      obtain ⟨⟨m, -, owns⟩, -⟩ := (outcomes call res fin).allowed isAllowed now at_
      exact ⟨m, isNow ▸ owns.mem⟩
    · rintro ⟨number, held⟩
      obtain ⟨now, at_, isNow⟩ := inv.minuteOwner _ held
      obtain ⟨res, fin⟩ := quiet call now at_
      refine ⟨res, now, fin, ?_, at_, isNow.symm⟩
      by_contra notAllowed
      have isRejected : res.allowed = false := by simpa using notAllowed
      exact ((outcomes call res fin).rejected isRejected).1 _ held rfl
  · obtain ⟨n, owners, v⟩ := inv.hour.encard_owners inv.current.2
    refine ⟨n, ?_, v⟩
    rw [← owners]
    congr 1
    ext call
    constructor
    · rintro ⟨res, now, fin, isAllowed, at_, isNow⟩
      obtain ⟨-, m, -, owns⟩ := (outcomes call res fin).allowed isAllowed now at_
      exact ⟨m, isNow ▸ owns.mem⟩
    · rintro ⟨number, held⟩
      obtain ⟨now, at_, isNow⟩ := inv.hourOwner _ held
      obtain ⟨res, fin⟩ := quiet call now at_
      refine ⟨res, now, fin, ?_, at_, isNow.symm⟩
      by_contra notAllowed
      have isRejected : res.allowed = false := by simpa using notAllowed
      exact ((outcomes call res fin).rejected isRejected).2 _ held rfl

def twoCalls : Pool Bool (Redis Bool) Empty RateLimitResult :=
  ((redisPool 1 10 0).runOne false).runOne true

/-- The first is allowed, the second is not, and the counter is back at one. -/
theorem redis_limits_are_exact_twoCalls : (allowedCalls twoCalls (minuteWindow · = 0)).encard ≤ 1 ∧
      twoCalls.state.minute.value 0 = 1 ∧
      ∃ n : Nat, (allowedCalls twoCalls (minuteWindow · = 0)).encard = n ∧
        twoCalls.state.minute.value 0 = n := by
  have reached : RedisReaches 1 10 twoCalls :=
    ⟨0, (reaches_runOne (fun _ _ => trivial) _ false).trans
      (reaches_runOne (fun _ _ => trivial) _ true)⟩
  have quiet : Quiet twoCalls := by
    intro call now _
    cases call with
    | false => exact ⟨_, rfl⟩
    | true => exact ⟨_, rfl⟩
  have limits := redis_limits_are_exact reached
  exact ⟨limits.1 0, rfl, (limits.2.2 quiet).1⟩

end Results

end Idenplane.RateLimit
