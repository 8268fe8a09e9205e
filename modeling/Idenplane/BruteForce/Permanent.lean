import Idenplane.BruteForce.Lockout

/-! # Permanent locks

How many lockouts of a user stand behind the one that disables the user.  The program divides the
number of all failures in the table by `maxLoginFailures`, also of those that left the window
without a lockout.
-/

namespace Idenplane.BruteForce

open Atomic Account Logs

/-- This is a failed password that puts the user into lockout. -/
def locks (realm : Realm) (userId : Nat) (s : Store) (event : Event) : Bool :=
  event.action = .recordFailure userId &&
    decide (maxFailures realm ≤ (since (windowStart realm event.time)
      (event.time :: (accountOf realm userId s).failures .password) : Int))

def lockouts (realm : Realm) (userId : Nat) (s : Store) : List Event → Nat
  | [] => 0
  | event :: events =>
    (if locks realm userId s event then 1 else 0) +
      lockouts realm userId (step realm s event) events

/-- The failures of the table that are younger than the last lockout, after an event. -/
def pending (realm : Realm) (userId : Nat) (s : Store) (young : List Int) (event : Event) :
    List Int :=
  match event.action with
  | .recordFailure id =>
    if id = userId then if locks realm userId s event then [] else event.time :: young
    else young
  | .cleanupOldFailures => prune (event.time - cleanupAge) young
  | _ => young

/-- Before every lockout, fewer failures than a lockout takes are younger than the last one. -/
def Regular (realm : Realm) (userId : Nat) (s : Store) (young : List Int) : List Event → Prop
  | [] => True
  | event :: events =>
    (locks realm userId s event → (young.length : Int) < maxFailures realm) ∧
      Regular realm userId (step realm s event) (pending realm userId s young event) events

def isEnabled (userId : Nat) (s : Store) : Bool :=
  (s.users.find? (·.id = userId)).any (·.enabled)

def NoReset (userId : Nat) (events : List Event) : Prop :=
  ∀ event ∈ events, event.action ≠ .resetFailures userId ∧ event.action ≠ .unlockUser userId

variable {r : Realm} {uid : Nat} {s : Store} {young old : List Int} {ev : Event}

/-- The failures in the table are those younger than the last lockout and those of lockouts. -/
structure Counted (r : Realm) (uid : Nat) (s : Store) (young : List Int) (n : Nat) : Prop where
  known : Known r uid s
  rows : ∃ old, (accountOf r uid s).failures .password = young ++ old ∧
    (old.length : Int) ≤ n * maxFailures r

theorem maxFailures_pos (r : Realm) : 0 < maxFailures r := by
  unfold maxFailures
  omega

theorem Counted.step {n : Nat} (enabled : r.bruteForceEnabled = true)
    (counted : Counted r uid s young n)
    (few : locks r uid s ev → (young.length : Int) < maxFailures r)
    (noReset : ev.action ≠ .resetFailures uid ∧ ev.action ≠ .unlockUser uid) :
    Counted r uid (step r s ev) (pending r uid s young ev)
      ((if locks r uid s ev then 1 else 0) + n) := by
  obtain ⟨known, old, rows, bound⟩ := counted
  have later := step_account enabled known ev
  refine ⟨step_known known ev, ?_⟩
  rw [later]
  obtain ⟨time, act⟩ := ev
  have quiet (same : locks r uid s ⟨time, act⟩ = false) (rest : List Int)
      (smaller : rest.length ≤ old.length) :
      (rest.length : Int) ≤
        ((if locks r uid s ⟨time, act⟩ then 1 else 0) + n : Nat) * maxFailures r := by
    rw [same]
    simp
    omega
  cases act with
  | recordFailure id =>
    by_cases own : id = uid
    · subst own
      cases isLock : locks r id s ⟨time, .recordFailure id⟩ with
      | true =>
        refine ⟨time :: (young ++ old), by simp [Account.step, record, pending, isLock, rows], ?_⟩
        have := few isLock
        simp only [if_true, length_cons, length_append]
        push_cast
        rw [Int.add_mul]
        omega
      | false =>
        refine ⟨old, by simp [Account.step, record, pending, isLock, rows], ?_⟩
        simpa using bound
    · refine ⟨old, by simp [Account.step, pending, own, rows], quiet ?_ old le_rfl⟩
      simp [locks, own]
  | cleanupOldFailures =>
    refine ⟨prune (time - cleanupAge) old, ?_, quiet rfl _ (List.length_filter_le _ _)⟩
    simp [Account.step, Account.cleanup, pending, rows, prune]
  | resetFailures id =>
    have other : id ≠ uid := fun same => noReset.1 (by rw [same])
    exact ⟨old, by simp [Account.step, pending, other, rows], quiet rfl old le_rfl⟩
  | unlockUser id =>
    have other : id ≠ uid := fun same => noReset.2 (by rw [same])
    exact ⟨old, by simp [Account.step, pending, other, rows], quiet rfl old le_rfl⟩
  | recordTotpFailure id | recordWebAuthnFailure id | resetTotpFailures id
    | resetWebAuthnFailures id =>
    refine ⟨old, ?_, quiet rfl old le_rfl⟩
    by_cases own : id = uid <;>
      simp [Account.step, record, Account.clear, pending, own, rows]

/-- A failure disables a user when it locks the user out and the table has enough failures. -/
theorem failureRecorded_disables (before : isEnabled uid s = true)
    (after : isEnabled uid (Auth.failureRecorded r uid s) = false) :
    locks r uid s ⟨s.now, .recordFailure uid⟩ = true ∧ r.permanentLockoutAfter ≤
        (((accountOf r uid s).failures .password).length + 1 : Int) / maxFailures r := by
  rw [failureRecorded_eq, loginNoted_account, if_pos rfl, Account.noted_failures] at after
  split at after
  case isTrue many =>
    refine ⟨by simp [locks, many], ?_⟩
    by_contra less
    have keeps (total : Nat) (u : User) : (loginLock r s.now total u).id = u.id := rfl
    have isHit : (loginNoted r uid s).users = s.users := rfl
    rw [isEnabled, Auth.find?_updateUser _ _ _ (keeps _), isHit] at after
    cases hit : s.users.find? (·.id = uid) with
    | none => simp [isEnabled, hit] at before
    | some u =>
      simp only [isEnabled, hit, Option.any_some] at before
      simp [hit, loginLock, less, before] at after
  case isFalse => exact absurd (after.symm.trans before) (by decide)

variable {time : Int}

theorem disabled (before : isEnabled uid s = true)
    (after : isEnabled uid (step r s ⟨time, .recordFailure uid⟩) = false) :
    r.bruteForceEnabled = true ∧ locks r uid s ⟨time, .recordFailure uid⟩ = true ∧
      r.permanentLockoutAfter ≤
        (((accountOf r uid s).failures .password).length + 1 : Int) / maxFailures r := by
  rw [step, Action.op, Auth.recordFailure] at after
  split at after
  case isTrue enabled =>
    exact ⟨enabled, failureRecorded_disables (s := { s with now := time }) before after⟩
  case isFalse => exact absurd (after.symm.trans before) (by decide)

/-- In a run of which every lockout is of failures younger than the last one, a failure disables the
user only as the lockout that the realm says, or a later one. -/
theorem disabled_after_lockouts {n : Nat} {events : List Event}
    (counted : Counted r uid s young n) (noReset : NoReset uid events)
    (regular : Regular r uid s young (events ++ [⟨time, .recordFailure uid⟩]))
    (before : isEnabled uid (run r s events) = true)
    (after : isEnabled uid (run r s (events ++ [⟨time, .recordFailure uid⟩])) = false) :
    r.permanentLockoutAfter ≤
      (n + lockouts r uid s (events ++ [⟨time, .recordFailure uid⟩]) : Nat) := by
  induction events generalizing s young n with
  | nil =>
    obtain ⟨-, isLock, total⟩ := disabled (s := s) before after
    obtain ⟨-, old, rows, bound⟩ := counted
    have few := regular.1 isLock
    refine total.trans ?_
    simp only [nil_append, lockouts, isLock, if_true, rows, length_append]
    apply Int.ediv_le_of_le_mul (maxFailures_pos r)
    push_cast
    rw [Int.add_mul]
    omega
  | cons ev events ih =>
    have enabled : r.bruteForceEnabled = true := by
      rw [run, foldl_append] at after
      exact (disabled before after).1
    have next := counted.step enabled regular.1 (noReset ev mem_cons_self)
    have later := ih next (fun e mem => noReset e (.tail _ mem)) regular.2 before after
    simp only [cons_append, lockouts]
    omega

/-- A failure disables the user only with as many lockouts behind it as the realm says, when one is
enough or the lockouts of the run are regular. -/
theorem permanent_lock_is_late (known : Known r uid s)
    (unfailed : (accountOf r uid s).failures .password = []) {evs : List Event}
    (noReset : NoReset uid evs)
    (holds : r.permanentLockoutAfter ≤ 1 ∨ Regular r uid s [] (evs ++ [⟨time, .recordFailure uid⟩]))
    (before : isEnabled uid (run r s evs) = true)
    (after : isEnabled uid (run r s (evs ++ [⟨time, .recordFailure uid⟩])) = false) :
    r.permanentLockoutAfter ≤ lockouts r uid s (evs ++ [⟨time, .recordFailure uid⟩]) := by
  rcases holds with one | regular
  · have isLock : 1 ≤ lockouts r uid s (evs ++ [⟨time, .recordFailure uid⟩]) := by
      clear unfailed known noReset
      induction evs generalizing s with
      | nil =>
        rw [nil_append, lockouts, (disabled (s := s) before after).2.1, if_pos rfl]
        exact le_add_right ..
      | cons ev evs ih =>
        rw [cons_append, lockouts]
        exact (ih before after).trans (Nat.le_add_left ..)
    omega
  · have counted : Counted r uid s [] 0 := ⟨known, [], by simp [unfailed], by simp⟩
    simpa using disabled_after_lockouts counted noReset regular before after

/-- Two failures in ten seconds are a lockout, two lockouts are permanent. -/
def twoStrikes : Realm :=
  { id := 1, name := "acme", bruteForceEnabled := true, maxLoginFailures := 2
    failureResetTime := 10, lockoutDuration := 60, permanentLockoutAfter := 2 }

def office : Store := { users := [{ id := 7, realmId := 1, username := "anna" }] }

def failuresAt (times : List Int) : List Event := times.map (⟨·, .recordFailure 7⟩)

theorem second_lockout_disables : twoStrikes.permanentLockoutAfter ≤
      lockouts twoStrikes 7 office (failuresAt [0, 1000, 100000] ++ [⟨101000, .recordFailure 7⟩]) := by
  have noReset : NoReset 7 (failuresAt [0, 1000, 100000]) := by
    simp [NoReset, failuresAt]
  have regular : Regular twoStrikes 7 office []
      (failuresAt [0, 1000, 100000] ++ [⟨101000, .recordFailure 7⟩]) :=
    ⟨by decide +kernel, by decide +kernel, by decide +kernel, by decide +kernel, trivial⟩
  exact permanent_lock_is_late ⟨_, rfl, rfl⟩ rfl noReset (.inr regular) (by decide +kernel)
    (by decide +kernel)

/-- The first lockout of a user is permanent, after two failures that locked nothing. -/
theorem first_lockout_disables : NoReset 7 (failuresAt [0, 100000, 200000]) ∧
    (accountOf twoStrikes 7 office).failures .password = [] ∧
    isEnabled 7 (run twoStrikes office (failuresAt [0, 100000, 200000])) = true ∧
    isEnabled 7 (run twoStrikes office (failuresAt [0, 100000, 200000, 201000])) = false ∧
    twoStrikes.permanentLockoutAfter = 2 ∧
    lockouts twoStrikes 7 office (failuresAt [0, 100000, 200000, 201000]) = 1 := by
  refine ⟨by simp [NoReset, failuresAt], ?_⟩
  decide +kernel

end Idenplane.BruteForce
