import Idenplane.BruteForce.Lockout

/-! # What a lock stands for

The lock of an account against the history of the calls: how many failures were recorded in
the window, and since when.
-/

namespace Idenplane.BruteForce

open Atomic Auth

/-- The failed passwords of the user since they were last forgotten. -/
def remembered (userId : Nat) (times : List Int) (event : Event) : List Int :=
  match event.action with
  | .recordFailure id => if id = userId then event.time :: times else times
  | .resetFailures id => if id = userId then [] else times
  | .unlockUser id => if id = userId then [] else times
  | _ => times

def recordedSince (userId : Nat) (events : List Event) : List Int :=
  events.foldl (remembered userId) []

def Action.failure : Action → Option (Kind × Nat)
  | .recordFailure id => some (.password, id)
  | .recordTotpFailure id => some (.totp, id)
  | .recordWebAuthnFailure id => some (.webAuthn, id)
  | _ => none

def recorded (kind : Kind) (userId : Nat) (events : List Event) : Nat :=
  events.countP fun event => event.action.failure = some (kind, userId)

def Lasting (realm : Realm) (now : Int) : Prop :=
  0 < realm.lockoutDuration ∧ (0 < realm.permanentLockoutAfter → now < permanentLockUntil)

def NoCodeFailures (realm : Realm) (userId : Nat) (now : Int) (s : Store) : Prop :=
  (∀ failure ∈ s.totpFailures, failure.userId = userId → failure.failedAt < windowStart realm now) ∧
  ∀ failure ∈ s.webAuthnFailures, failure.realmId = realm.id → failure.userId = userId →
    failure.failedAt < windowStart realm now

variable {r : Realm} {uid : Nat} {account : Account} {now : Int}

theorem Account.step_tracks {times : List Int} {ev : Event}
    (tracks : Logs.Tracks (now - cleanupAge) (account.failures .password) times)
    (clock : now ≤ ev.time) :
    Logs.Tracks (ev.time - cleanupAge) ((account.step r uid ev).failures .password)
      (remembered uid times ev) := by
  have later : now - cleanupAge ≤ ev.time - cleanupAge := by omega
  have tracks := tracks.later later
  obtain ⟨time, act⟩ := ev
  cases act with
  | cleanupOldFailures => exact tracks.prune
  | recordFailure id =>
    by_cases own : id = uid
    · simpa [step, remembered, own, record] using tracks.cons time
    · simpa [step, remembered, own] using tracks
  | recordTotpFailure id | recordWebAuthnFailure id =>
    by_cases own : id = uid
    · simpa [step, remembered, own, record] using tracks
    · simpa [step, remembered, own] using tracks
  | resetFailures id | unlockUser id =>
    by_cases own : id = uid
    · simpa [step, remembered, own, release, clear] using Logs.Tracks.refl _ []
    · simpa [step, remembered, own] using tracks
  | resetTotpFailures id | resetWebAuthnFailures id =>
    by_cases own : id = uid
    · simpa [step, remembered, own, clear] using tracks
    · simpa [step, remembered, own] using tracks

theorem Account.run_tracks {times : List Int} {evs : List Event} {next : Event}
    (tracks : Logs.Tracks (now - cleanupAge) (account.failures .password) times)
    (clock : Clocked now (evs ++ [next])) :
    Logs.Tracks (next.time - cleanupAge) ((account.run r uid evs).failures .password)
      (evs.foldl (remembered uid) times) := by
  induction evs generalizing account times now with
  | nil =>
    have later := clock.1
    exact tracks.later (by omega)
  | cons ev evs ih => exact ih (step_tracks tracks clock.1) clock.2

/-- Locks and windows of an account after `counted` failures. -/
structure Account.Since (realm : Realm) (unlockedAt : Int) (account : Account)
    (counted : Kind → Nat) : Prop where
  window : ∀ kind start, windowStart realm unlockedAt ≤ start →
    Logs.since start (account.failures kind) ≤ counted kind
  lock : account.lockedUntil.isSome → ∃ kind, maxFailures realm ≤ (counted kind : Int)

def counts (userId : Nat) (event : Event) (counted : Kind → Nat) (kind : Kind) : Nat :=
  counted kind + if event.action.failure = some (kind, userId) then 1 else 0

theorem le_counts (ev : Event) (cnt : Kind → Nat) (kind : Kind) :
    cnt kind ≤ counts uid ev cnt kind := le_add_right ..

namespace Account.Since

variable {unlockedAt : Int} {cnt : Kind → Nat}

section

variable (since : Since r unlockedAt account cnt)

include since

theorem mono {more : Kind → Nat}
    (le : ∀ kind, cnt kind ≤ more kind) : Since r unlockedAt account more where
  window kind start inside := (since.window kind start inside).trans (le kind)
  lock locked := by
    obtain ⟨kind, many⟩ := since.lock locked
    have := le kind
    exact ⟨kind, by omega⟩

theorem record {time : Int} (clock : unlockedAt ≤ time) (kind : Kind) :
    Since r unlockedAt (account.record r time kind)
      fun other => cnt other + if kind = other then 1 else 0 := by
  have window : ∀ other start, windowStart r unlockedAt ≤ start →
      Logs.since start ((account.record r time kind).failures other) ≤
        cnt other + if kind = other then 1 else 0 := by
    intro other start inside
    have before := since.window other start inside
    by_cases same : kind = other
    · subst same
      simp only [Account.record, update_self, Logs.since_cons, if_true]
      split <;> omega
    · simp only [Account.record, update_of_ne (Ne.symm same), if_neg same]
      exact before
  refine ⟨window, ?_⟩
  intro locked
  by_cases many : maxFailures r ≤
      (Logs.since (windowStart r time) (time :: account.failures kind) : Int)
  · have inside : windowStart r unlockedAt ≤ windowStart r time := by
      simp only [windowStart]
      omega
    have few := window kind _ inside
    simp only [Account.record, update_self, if_true] at few
    refine ⟨kind, ?_⟩
    rw [if_pos rfl]
    omega
  · simp only [Account.record, if_neg many] at locked
    obtain ⟨other, enough⟩ := since.lock locked
    exact ⟨other, by split <;> omega⟩

theorem clear (kind : Kind) : Since r unlockedAt (account.clear kind) cnt where
  window other start inside := by
    by_cases same : other = kind
    · subst same
      simp [Account.clear]
    · simpa [Account.clear, update_of_ne same] using since.window other start inside
  lock := since.lock

theorem release : Since r unlockedAt account.release cnt where
  window := (since.clear .password).window
  lock locked := by cases locked

theorem cleanup (time : Int) : Since r unlockedAt (account.cleanup time) cnt where
  window kind start inside :=
    (Logs.since_prune_le _ _ _).trans (since.window kind start inside)
  lock := since.lock

theorem step {ev : Event} (clock : unlockedAt ≤ ev.time) :
    Since r unlockedAt (account.step r uid ev) (counts uid ev cnt) := by
  have same : Since r unlockedAt account (counts uid ev cnt) :=
    since.mono (le_counts ev cnt)
  obtain ⟨time, act⟩ := ev
  cases act with
  | cleanupOldFailures => exact same.cleanup time
  | recordFailure id | recordTotpFailure id | recordWebAuthnFailure id =>
    by_cases own : id = uid
    · subst own
      simp only [Account.step, if_true]
      refine (since.record clock _).mono fun kind => ?_
      simp [counts, Action.failure]
    · simpa only [Account.step, if_neg own] using same
  | resetFailures id | unlockUser id =>
    by_cases own : id = uid
    · simpa only [Account.step, if_pos own] using same.release
    · simpa only [Account.step, if_neg own] using same
  | resetTotpFailures id | resetWebAuthnFailures id =>
    by_cases own : id = uid
    · simpa only [Account.step, if_pos own] using same.clear _
    · simpa only [Account.step, if_neg own] using same

theorem run {events : List Event} (started : unlockedAt ≤ now) (clock : Clocked now events) :
    Since r unlockedAt (account.run r uid events)
      fun kind => cnt kind + recorded kind uid events := by
  induction events generalizing account cnt now with
  | nil => exact since
  | cons ev events ih =>
    have first : Since r unlockedAt (account.step r uid ev)
        (counts uid ev cnt) := since.step (started.trans clock.1)
    refine (ih first (started.trans clock.1) clock.2).mono fun kind => ?_
    simp only [counts, recorded, countP_cons, decide_eq_true_eq]
    omega

end

end Account.Since

variable {s : Store}

theorem run_append (r : Realm) (s : Store) (pre after : List Event) :
    run r s (pre ++ after) = run r (run r s pre) after :=
  foldl_append

theorem Clocked.tail {pre after : List Event} (clock : Clocked now (pre ++ after)) :
    ∃ last, now ≤ last ∧ Clocked last after := by
  induction pre generalizing now with
  | nil => exact ⟨now, le_rfl, clock⟩
  | cons ev pre ih =>
    obtain ⟨last, le, rest⟩ := ih clock.2
    exact ⟨last, clock.1.trans le, rest⟩

theorem lt_lockEnd (lasting : Lasting r now) (total : Nat) :
    now < lockEnd r now total .password := by
  simp only [lockEnd]
  split
  case isTrue permanent => exact lasting.2 permanent.1
  case isFalse =>
    have := lasting.1
    omega

/-- The window of a realm whose `failureResetTime` is at most a day is in the table. -/
theorem cleanup_le_windowStart (day : r.failureResetTime ≤ 24 * 60 * 60) :
    now - cleanupAge ≤ windowStart r now := by
  simp only [cleanupAge, windowStart]
  omega

theorem locked_after_failure (enabled : r.bruteForceEnabled = true)
    (day : r.failureResetTime ≤ 24 * 60 * 60) (known : Known r uid s)
    (clean : (accountOf r uid s).failures .password = []) (evs : List Event)
    (clock : Clocked s.now (evs ++ [⟨now, .recordFailure uid⟩]))
    (lasting : Lasting r now) :
    lockedAt r uid now (run r s (evs ++ [⟨now, .recordFailure uid⟩])) = true ↔
      maxFailures r ≤ (Logs.since (windowStart r now)
          (recordedSince uid (evs ++ [⟨now, .recordFailure uid⟩])) : Int) ∨
        lockedAt r uid now (run r s evs) = true := by
  obtain ⟨pre, known'⟩ := run_account enabled known evs
  have start : Logs.Tracks (s.now - cleanupAge) ((accountOf r uid s).failures .password) [] := by
    rw [clean]
    exact .refl _ _
  have tracks : Logs.Tracks (now - cleanupAge)
      (((accountOf r uid s).run r uid evs).failures .password)
      (evs.foldl (remembered uid) []) := Account.run_tracks start clock
  have count := tracks.cons now (windowStart r now) (cleanup_le_windowStart day)
  have recorded : recordedSince uid (evs ++ [⟨now, .recordFailure uid⟩]) =
      now :: evs.foldl (remembered uid) [] := by
    simp [recordedSince, remembered]
  rw [run_append, lockedAt_iff enabled, lockedAt_iff enabled, run, foldl_cons, foldl_nil,
    step_account enabled known', pre, recorded, ← count]
  simp only [Account.step, if_true, Account.record]
  split
  case isTrue many =>
    simp only [some.injEq, exists_eq_left', lt_lockEnd lasting, many, true_or]
  case isFalse few => simp only [few, false_or]

theorem locked_after_unlock (enabled : r.bruteForceEnabled = true)
    (known : Known r uid s) (pre : List Event) (unlockedAt : Int) (after : List Event)
    (clock : Clocked s.now (pre ++ ⟨unlockedAt, .unlockUser uid⟩ :: after))
    (quiet : NoCodeFailures r uid unlockedAt (run r s pre))
    (locked : lockedAt r uid now (run r s (pre ++ ⟨unlockedAt, .unlockUser uid⟩ :: after)) = true) :
    ∃ kind, maxFailures r ≤ (recorded kind uid after : Int) := by
  obtain ⟨-, known'⟩ := run_account enabled known pre
  have start : Account.Since r unlockedAt (accountOf r uid (run r s pre)).release fun _ => 0 := by
    refine ⟨?_, fun locked => by cases locked⟩
    intro kind start inside
    rw [Nat.le_zero, Logs.since, countP_eq_zero]
    intro time mem
    cases kind with
    | password => simp [Account.release, Account.clear] at mem
    | totp =>
      obtain ⟨f, isFailure, rfl⟩ := mem_map.mp mem
      obtain ⟨stored, own⟩ := mem_filter.mp isFailure
      have early := quiet.1 f stored (by simpa using own)
      simp only [decide_eq_true_eq]
      omega
    | webAuthn =>
      obtain ⟨f, isFailure, rfl⟩ := mem_map.mp mem
      obtain ⟨stored, own⟩ := mem_filter.mp isFailure
      simp only [and_eq_true, decide_eq_true_eq] at own
      have early := quiet.2 f stored own.1 own.2
      simp only [decide_eq_true_eq]
      omega
  obtain ⟨last, -, rest⟩ := clock.tail
  have since : Account.Since r unlockedAt ((accountOf r uid (run r s pre)).release.run r uid after)
      fun kind => 0 + recorded kind uid after := start.run le_rfl rest.2
  rw [run_append, lockedAt_iff enabled, (run_account enabled known' _).1] at locked
  obtain ⟨until_, isLocked, -⟩ := locked
  have step : (accountOf r uid (run r s pre)).step r uid
      ⟨unlockedAt, .unlockUser uid⟩ = (accountOf r uid (run r s pre)).release :=
    if_pos rfl
  rw [Account.run, foldl_cons, step] at isLocked
  obtain ⟨kind, many⟩ := since.lock (by rw [Account.run, isLocked]; rfl)
  exact ⟨kind, by simpa using many⟩

/-- The lock of a user against the history.  After a failed password it says that there were
too many in the window, or that an earlier lock still runs; after an unlock it takes as many
new failures of one kind as the realm allows. -/
theorem lockout_accounting (enabled : r.bruteForceEnabled = true)
    (day : r.failureResetTime ≤ 24 * 60 * 60) (known : Known r uid s)
    (clean : (accountOf r uid s).failures .password = []) :
    (∀ (evs : List Event) (now : Int),
      Clocked s.now (evs ++ [⟨now, .recordFailure uid⟩]) → Lasting r now →
      (lockedAt r uid now (run r s (evs ++ [⟨now, .recordFailure uid⟩])) = true ↔
        maxFailures r ≤ (Logs.since (windowStart r now)
            (recordedSince uid (evs ++ [⟨now, .recordFailure uid⟩])) : Int) ∨
          lockedAt r uid now (run r s evs) = true)) ∧
    ∀ (pre : List Event) (unlockedAt : Int) (after : List Event) (now : Int),
      Clocked s.now (pre ++ ⟨unlockedAt, .unlockUser uid⟩ :: after) →
      NoCodeFailures r uid unlockedAt (run r s pre) → lockedAt r uid now
        (run r s (pre ++ ⟨unlockedAt, .unlockUser uid⟩ :: after)) = true →
      ∃ kind, maxFailures r ≤ (recorded kind uid after : Int) :=
  ⟨fun evs _ clock lasting =>
      locked_after_failure enabled day known clean evs clock lasting,
    fun pre unlockedAt after _ clock quiet locked =>
      locked_after_unlock enabled known pre unlockedAt after clock quiet locked⟩

def strict : Realm where
  id := 1
  name := "strict"
  bruteForceEnabled := true
  maxLoginFailures := 2
  lockoutDuration := 900
  failureResetTime := 600
  permanentLockoutAfter := 0

def oneUser : Store where
  users := [{ id := 7, realmId := 1, username := "ann" }]

theorem two_failures_lock : lockedAt strict 7 2000 (run strict oneUser
      [⟨1000, .recordFailure 7⟩, ⟨2000, .recordFailure 7⟩]) = true := by
  have enabled : strict.bruteForceEnabled = true := rfl
  have known : Known strict 7 oneUser := ⟨_, rfl, rfl⟩
  have accounting := lockout_accounting enabled (by decide) known rfl
  refine (accounting.1 [⟨1000, .recordFailure 7⟩] 2000 ⟨by decide, by decide, trivial⟩
    ⟨by decide, fun permanent => absurd permanent (by decide)⟩).mpr (.inl (by decide +kernel))

/-- A lock of failed codes that still runs when one password fails; a window of two days from
which the cleanup of the first day is missing; an unlock after which one failed code locks
again. -/
theorem lock_is_not_the_count :
    (lockedAt strict 7 3000 (run strict oneUser [⟨1000, .recordTotpFailure 7⟩,
        ⟨2000, .recordTotpFailure 7⟩, ⟨3000, .recordFailure 7⟩]) = true ∧
      recordedSince 7 [⟨1000, .recordTotpFailure 7⟩, ⟨2000, .recordTotpFailure 7⟩,
        ⟨3000, .recordFailure 7⟩] = [3000]) ∧
    (lockedAt { strict with failureResetTime := 172800 } 7 90000000
        (run { strict with failureResetTime := 172800 } oneUser [⟨0, .recordFailure 7⟩,
          ⟨90000000, .cleanupOldFailures⟩, ⟨90000000, .recordFailure 7⟩]) = false ∧
      Logs.since (windowStart { strict with failureResetTime := 172800 } 90000000)
        (recordedSince 7 [⟨0, .recordFailure 7⟩, ⟨90000000, .cleanupOldFailures⟩,
          ⟨90000000, .recordFailure 7⟩]) = 2) ∧
    lockedAt strict 7 3000 (run strict oneUser [⟨1000, .recordTotpFailure 7⟩,
        ⟨2000, .unlockUser 7⟩, ⟨3000, .recordTotpFailure 7⟩]) = true := by
  decide +kernel

end Idenplane.BruteForce
