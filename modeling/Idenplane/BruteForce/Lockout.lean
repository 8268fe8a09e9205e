import Idenplane.Lib.Logs
import Idenplane.StepUp.Controller

/-! # Lockout

`BruteForceService`: failed passwords, one-time codes and passkeys of a user, and the lock
that too many of them set.  The failures of a user and the lock are an account of its own,
which the tables hold for every user.
-/

namespace Idenplane.BruteForce

open Atomic Auth Admin StepUp Logs Store List

def recentWebAuthnFailures (realm : Realm) (userId : Nat) (s : Store) :
    List WebAuthnFailure :=
  s.webAuthnFailures.filter fun failure =>
    failure.realmId = realm.id && failure.userId = userId &&
      decide (s.now - max realm.failureResetTime 1 * 1000 ≤ failure.failedAt)

def webAuthnNoted (realm : Realm) (userId : Nat) (s : Store) : Store :=
  { s with
    webAuthnFailures := { realmId := realm.id, userId := userId, failedAt := s.now } ::
      s.webAuthnFailures }

def codeLock (realm : Realm) (now : Int) (user : User) : User :=
  { user with lockedUntil := some (now + realm.lockoutDuration * 1000) }

def maxFailures (realm : Realm) : Int := max realm.maxLoginFailures 1

def lockOut (realm : Realm) (userId failureCount : Nat) : Op Unit :=
  if maxFailures realm ≤ (failureCount : Int) then do
    let now ← read now
    let found ← atomic (userUpdated userId (codeLock realm now))
    require found .internal
  else pure ()

def recordWebAuthnFailure (realm : Realm) (userId : Nat) : Op Unit :=
  if !realm.bruteForceEnabled then pure ()
  else do
    modify (webAuthnNoted realm userId)
    let failures ← read (recentWebAuthnFailures realm userId)
    lockOut realm userId failures.length

def resetWebAuthnFailures (realmId userId : Nat) : Op Unit :=
  modify fun s => { s with
    webAuthnFailures := s.webAuthnFailures.filter fun failure =>
      !(failure.realmId = realmId && failure.userId = userId) }

def unlocked (user : User) : User := { user with lockedUntil := none, enabled := true }

def loginCleared (realmId userId : Nat) (s : Store) : Store :=
  { s with loginFailures := s.loginFailures.filter fun failure =>
      !(failure.realmId = realmId && failure.userId = userId) }

/-- The failed passwords go; failed codes and passkeys stay. -/
def unlockUser (realmId userId : Nat) : Op Unit := do
  let found ← read fun s =>
    s.users.any fun user => user.id = userId && user.realmId = realmId
  require found (notFound "User not found")
  let updated ← atomic (userUpdated userId unlocked)
  require updated .internal
  modify (loginCleared realmId userId)

def cleanupAge : Int := 24 * 60 * 60 * 1000

def cleanupOldFailures : Op Unit := do
  modify fun s => { s with
    loginFailures := s.loginFailures.filter fun failure =>
      !(failure.failedAt < s.now - cleanupAge) }
  modify fun s => { s with
    totpFailures := s.totpFailures.filter fun failure =>
      !(failure.failedAt < s.now - cleanupAge) }
  modify fun s => { s with
    webAuthnFailures := s.webAuthnFailures.filter fun failure =>
      !(failure.failedAt < s.now - cleanupAge) }

inductive Action where
  | recordFailure (userId : Nat)
  | recordTotpFailure (userId : Nat)
  | recordWebAuthnFailure (userId : Nat)
  | resetFailures (userId : Nat)
  | resetTotpFailures (userId : Nat)
  | resetWebAuthnFailures (userId : Nat)
  | unlockUser (userId : Nat)
  | cleanupOldFailures
  deriving DecidableEq

def Action.op (realm : Realm) : Action → Op Unit
  | .recordFailure userId => Auth.recordFailure realm userId
  | .recordTotpFailure userId => StepUp.recordTotpFailure realm userId
  | .recordWebAuthnFailure userId => BruteForce.recordWebAuthnFailure realm userId
  | .resetFailures userId => Auth.resetFailures realm.id userId
  | .resetTotpFailures userId => StepUp.resetTotpFailures userId
  | .resetWebAuthnFailures userId => BruteForce.resetWebAuthnFailures realm.id userId
  | .unlockUser userId => BruteForce.unlockUser realm.id userId
  | .cleanupOldFailures => BruteForce.cleanupOldFailures

structure Event where
  time : Int
  action : Action
  deriving DecidableEq

def step (realm : Realm) (s : Store) (event : Event) : Store :=
  ((event.action.op realm).run { s with now := event.time }).2

def run (realm : Realm) (s : Store) (events : List Event) : Store :=
  events.foldl (step realm) s

def Clocked (now : Int) : List Event → Prop
  | [] => True
  | event :: events => now ≤ event.time ∧ Clocked event.time events

/-- `checkLocked` of the user's row at some time. -/
def lockedAt (realm : Realm) (userId : Nat) (now : Int) (s : Store) : Bool :=
  (s.users.find? (·.id = userId)).any fun user => isLocked realm user now

inductive Kind where
  | password
  | totp
  | webAuthn
  deriving DecidableEq

structure Account where
  failures : Kind → List Int
  lockedUntil : Option Int

def windowStart (realm : Realm) (now : Int) : Int := now - max realm.failureResetTime 1 * 1000

/-- How long a lock that is set now lasts, with so many failures in the table. -/
def lockEnd (realm : Realm) (now : Int) (total : Nat) : Kind → Int
  | .password =>
    if 0 < realm.permanentLockoutAfter ∧
        realm.permanentLockoutAfter ≤ (total : Int) / maxFailures realm then permanentLockUntil
    else now + realm.lockoutDuration * 1000
  | _ => now + realm.lockoutDuration * 1000

namespace Account

def record (realm : Realm) (now : Int) (kind : Kind) (account : Account) : Account :=
  let times := now :: account.failures kind
  { failures := update account.failures kind times
    lockedUntil :=
      if maxFailures realm ≤ (since (windowStart realm now) times : Int) then
        some (lockEnd realm now times.length kind)
      else account.lockedUntil }

def clear (kind : Kind) (account : Account) : Account :=
  { account with failures := update account.failures kind [] }

def release (account : Account) : Account :=
  { account.clear .password with lockedUntil := none }

def cleanup (now : Int) (account : Account) : Account :=
  { account with failures := fun kind => prune (now - cleanupAge) (account.failures kind) }

def step (realm : Realm) (userId : Nat) (account : Account) (event : Event) : Account :=
  match event.action with
  | .recordFailure id => if id = userId then account.record realm event.time .password else account
  | .recordTotpFailure id => if id = userId then account.record realm event.time .totp else account
  | .recordWebAuthnFailure id =>
    if id = userId then account.record realm event.time .webAuthn else account
  | .resetFailures id => if id = userId then account.release else account
  | .resetTotpFailures id => if id = userId then account.clear .totp else account
  | .resetWebAuthnFailures id => if id = userId then account.clear .webAuthn else account
  | .unlockUser id => if id = userId then account.release else account
  | .cleanupOldFailures => account.cleanup event.time

def run (realm : Realm) (userId : Nat) (account : Account) (events : List Event) : Account :=
  events.foldl (step realm userId) account

end Account

def accountOf (realm : Realm) (userId : Nat) (s : Store) : Account where
  failures
    | .password => (s.loginFailures.filter fun failure =>
      failure.realmId = realm.id && failure.userId = userId).map (·.failedAt)
    | .totp => (s.totpFailures.filter (·.userId = userId)).map (·.failedAt)
    | .webAuthn => (s.webAuthnFailures.filter fun failure =>
      failure.realmId = realm.id && failure.userId = userId).map (·.failedAt)
  lockedUntil := (s.users.find? (·.id = userId)).bind (·.lockedUntil)

def Known (realm : Realm) (userId : Nat) (s : Store) : Prop :=
  ∃ user, s.users.find? (·.id = userId) = some user ∧ user.realmId = realm.id

variable {r : Realm} {uid : Nat} {s s' : Store}

theorem since_map {ρ : Type} (start : Int) (rows : List ρ) (time : ρ → Int) :
    since start (rows.map time) = (rows.filter (start ≤ time ·)).length := by
  rw [since, countP_map, countP_eq_length_filter]
  rfl

theorem Account.ext_kinds {a b : Account} (pw : a.failures .password = b.failures .password)
    (totp : a.failures .totp = b.failures .totp)
    (webAuthn : a.failures .webAuthn = b.failures .webAuthn)
    (lockedUntil : a.lockedUntil = b.lockedUntil) : a = b := by
  cases a
  cases b
  congr
  funext kind
  cases kind
  · exact pw
  · exact totp
  · exact webAuthn

variable {chg : User → User}

open Account

theorem accountOf_updateUser (known : Known r uid s) (id : Nat)
    {until_ : Option Int} (keeps : ∀ u, (chg u).id = u.id)
    (sets : ∀ u, (chg u).lockedUntil = until_) :
    accountOf r uid (updateUser s id chg) =
      if id = uid then { accountOf r uid s with lockedUntil := until_ }
      else accountOf r uid s := by
  obtain ⟨u, hit, -⟩ := known
  have locks : (accountOf r uid (updateUser s id chg)).lockedUntil =
      if id = uid then until_ else u.lockedUntil := by
    rw [accountOf, find?_updateUser s id _ keeps, hit]
    by_cases own : id = uid <;> simp [own, sets]
  by_cases own : id = uid
  · rw [if_pos own] at locks ⊢
    exact ext_kinds rfl rfl rfl locks
  · rw [if_neg own] at locks ⊢
    refine ext_kinds rfl rfl rfl (locks.trans ?_)
    rw [accountOf, hit]
    rfl

def Account.noted (now : Int) (kind : Kind) (account : Account) : Account :=
  { account with
    failures := update account.failures kind (now :: account.failures kind) }

@[simp] theorem Account.noted_failures (now : Int) (kind : Kind) (account : Account) :
    (account.noted now kind).failures kind = now :: account.failures kind :=
  update_self ..

def loginNoted (realm : Realm) (id : Nat) (s : Store) : Store :=
  { s with loginFailures := { realmId := realm.id, userId := id, failedAt := s.now } ::
      s.loginFailures }

def totpNoted (id : Nat) (s : Store) : Store :=
  { s with totpFailures := { userId := id, failedAt := s.now } :: s.totpFailures }

theorem loginNoted_account (id : Nat) (s : Store) : accountOf r uid (loginNoted r id s) =
      if id = uid then (accountOf r uid s).noted s.now .password
      else accountOf r uid s := by
  by_cases own : id = uid
  · rw [if_pos own]
    apply ext_kinds <;> simp [accountOf, loginNoted, noted, own]
  · rw [if_neg own]
    apply ext_kinds <;> simp [accountOf, loginNoted, own]

theorem totpNoted_account (id : Nat) (s : Store) : accountOf r uid (totpNoted id s) =
      if id = uid then (accountOf r uid s).noted s.now .totp
      else accountOf r uid s := by
  by_cases own : id = uid
  · rw [if_pos own]
    apply ext_kinds <;> simp [accountOf, totpNoted, noted, own]
  · rw [if_neg own]
    apply ext_kinds <;> simp [accountOf, totpNoted, own]

theorem webAuthnNoted_account (id : Nat) (s : Store) : accountOf r uid (webAuthnNoted r id s) =
      if id = uid then (accountOf r uid s).noted s.now .webAuthn
      else accountOf r uid s := by
  by_cases own : id = uid
  · rw [if_pos own]
    apply ext_kinds <;> simp [accountOf, webAuthnNoted, noted, own]
  · rw [if_neg own]
    apply ext_kinds <;> simp [accountOf, webAuthnNoted, own]

theorem recorded_account {id : Nat} {now : Int} {kind : Kind}
    (noted : Store) (known : Known r uid noted)
    (isNoted : accountOf r uid noted =
      if id = uid then (accountOf r uid s).noted now kind else accountOf r uid s)
    (keeps : ∀ u, (chg u).id = u.id)
    (sets : ∀ u, (chg u).lockedUntil =
      some (lockEnd r now ((accountOf r id noted).failures kind).length kind)) :
    accountOf r uid (if maxFailures r ≤ (since (windowStart r now)
            ((accountOf r id noted).failures kind) : Int) then
          updateUser noted id chg
        else noted) =
      if id = uid then (accountOf r uid s).record r now kind
      else accountOf r uid s := by
  by_cases own : id = uid
  · subst own
    simp only [if_true] at isNoted ⊢
    by_cases many : maxFailures r ≤ (since (windowStart r now)
        ((accountOf r id noted).failures kind) : Int)
    · rw [if_pos many, accountOf_updateUser known id keeps sets, if_pos rfl]
      rw [isNoted, noted_failures] at many ⊢
      rw [record, if_pos many]
      rfl
    · rw [if_neg many, isNoted]
      rw [isNoted, noted_failures] at many
      rw [record, if_neg many]
      rfl
  · simp only [if_neg own] at isNoted ⊢
    split
    · rw [accountOf_updateUser known id keeps sets, if_neg own, isNoted]
    · exact isNoted

def loginLock (realm : Realm) (now : Int) (total : Nat) (user : User) : User :=
  { user with
    lockedUntil := some (lockEnd realm now total .password)
    enabled := if 0 < realm.permanentLockoutAfter ∧
        realm.permanentLockoutAfter ≤ (total : Int) / maxFailures realm then false
      else user.enabled }

theorem failureRecorded_eq (r : Realm) (id : Nat) (s : Store) : failureRecorded r id s =
    if maxFailures r ≤ (since (windowStart r s.now)
        ((accountOf r id (loginNoted r id s)).failures .password) : Int) then
      updateUser (loginNoted r id s) id (loginLock r s.now
        ((accountOf r id (loginNoted r id s)).failures .password).length)
    else loginNoted r id s := by
  have count : since (windowStart r s.now)
      ((accountOf r id (loginNoted r id s)).failures .password) = _ := since_map _ _ _
  have total : ((accountOf r id (loginNoted r id s)).failures .password).length = _ :=
    length_map _
  rw [count, total, failureRecorded]
  by_cases many : maxFailures r ≤ (((loginNoted r id s).loginFailures.filter fun f =>
      f.realmId = r.id && f.userId = id).filter fun f =>
        windowStart r s.now ≤ f.failedAt).length
  · rw [if_pos many]
    refine (if_neg (not_lt.mpr many)).trans ?_
    unfold loginLock lockEnd
    by_cases permanent : 0 < r.permanentLockoutAfter ∧ r.permanentLockoutAfter ≤
        (((loginNoted r id s).loginFailures.filter fun f =>
          f.realmId = r.id && f.userId = id).length : Int) / maxFailures r
    · simp only [if_pos permanent]
      exact if_pos permanent
    · simp only [if_neg permanent]
      exact if_neg permanent
  · rw [if_neg many]
    exact if_pos (not_le.mp many)

theorem recordFailure_account (enabled : r.bruteForceEnabled = true)
    (known : Known r uid s) (id : Nat) :
    accountOf r uid ((recordFailure r id).run s).2 =
      if id = uid then (accountOf r uid s).record r s.now .password
      else accountOf r uid s := by
  rw [recordFailure, if_pos enabled, run_modify, failureRecorded_eq]
  exact recorded_account (loginNoted r id s) known (loginNoted_account id s) (fun _ => rfl)
    fun _ => rfl

theorem lockOut_leaves (r : Realm) (id failureCount : Nat) (s : Store) :
    ((lockOut r id failureCount).run s).2 = if maxFailures r ≤ (failureCount : Int) then
        updateUser s id (codeLock r s.now)
      else s := by
  by_cases many : maxFailures r ≤ (failureCount : Int)
  · rw [lockOut, if_pos many, if_pos many]
    exact run_require_snd ..
  · rw [lockOut, if_neg many, if_neg many]
    rfl

theorem length_recentTotpFailures (r : Realm) (id : Nat) (s : Store) :
    (recentTotpFailures r id s).length =
      since (windowStart r s.now) ((accountOf r id s).failures .totp) := by
  refine (Eq.trans ?_ (since_map _ _ _).symm :)
  rw [recentTotpFailures, filter_filter]
  simp only [Bool.and_comm]
  rfl

theorem length_recentWebAuthnFailures (r : Realm) (id : Nat) (s : Store) :
    (recentWebAuthnFailures r id s).length =
      since (windowStart r s.now) ((accountOf r id s).failures .webAuthn) := by
  refine (Eq.trans ?_ (since_map _ _ _).symm :)
  rw [recentWebAuthnFailures, filter_filter]
  simp only [Bool.and_comm]
  rfl

theorem recordTotpFailure_account (enabled : r.bruteForceEnabled = true)
    (known : Known r uid s) (id : Nat) :
    accountOf r uid ((recordTotpFailure r id).run s).2 =
      if id = uid then (accountOf r uid s).record r s.now .totp
      else accountOf r uid s := by
  have leaves : ((recordTotpFailure r id).run s).2 =
      ((lockOut r id (recentTotpFailures r id (totpNoted id s)).length).run
        (totpNoted id s)).2 := by
    rw [recordTotpFailure, enabled]
    rfl
  rw [leaves, lockOut_leaves, length_recentTotpFailures]
  exact recorded_account (totpNoted id s) known (totpNoted_account id s) (fun _ => rfl) fun _ => rfl

theorem recordWebAuthnFailure_account (enabled : r.bruteForceEnabled = true)
    (known : Known r uid s) (id : Nat) :
    accountOf r uid ((recordWebAuthnFailure r id).run s).2 =
      if id = uid then (accountOf r uid s).record r s.now .webAuthn
      else accountOf r uid s := by
  have leaves : ((recordWebAuthnFailure r id).run s).2 =
      ((lockOut r id (recentWebAuthnFailures r id (webAuthnNoted r id s)).length).run
        (webAuthnNoted r id s)).2 := by
    rw [recordWebAuthnFailure, enabled]
    rfl
  rw [leaves, lockOut_leaves, length_recentWebAuthnFailures]
  exact recorded_account (webAuthnNoted r id s) known (webAuthnNoted_account id s)
    (fun _ => rfl) fun _ => rfl

section Rows

variable {ρ : Type} {mine gone : ρ → Bool}

theorem filter_apart (rows : List ρ) (apart : ∀ row, mine row = true → gone row = false) :
    (rows.filter fun row => !gone row).filter mine = rows.filter mine := by
  rw [filter_filter]
  apply filter_congr
  intro row _
  cases isMine : mine row with
  | true => simp [apart row isMine]
  | false => rfl

theorem filter_gone (rows : List ρ) (own : ∀ row, mine row = true → gone row = true) :
    (rows.filter fun row => !gone row).filter mine = [] := by
  rw [filter_filter, filter_eq_nil_iff]
  intro row _
  cases isMine : mine row with
  | true => simp [own row isMine]
  | false => simp

theorem filter_pruned (rows : List ρ) (time : ρ → Int) (cutoff : Int) :
    ((rows.filter fun row => !(time row < cutoff)).filter mine).map time =
      prune cutoff ((rows.filter mine).map time) := by
  rw [prune, filter_map, filter_filter, filter_filter]
  congr 1
  apply filter_congr
  intro row _
  by_cases early : time row < cutoff
  · simp [early, not_le.mpr early]
  · simp [early, not_lt.mp early]

end Rows

theorem loginCleared_account (id : Nat) (s : Store) :
    accountOf r uid (loginCleared r.id id s) = if id = uid then (accountOf r uid s).clear .password
      else accountOf r uid s := by
  by_cases own : id = uid
  · subst own
    rw [if_pos rfl]
    refine ext_kinds ?_ rfl rfl rfl
    exact congrArg (map _) (filter_gone _ fun _ isMine => isMine)
  · rw [if_neg own]
    refine ext_kinds (congrArg (map _) (filter_apart _ ?_)) rfl rfl rfl
    intro f isMine
    simp only [and_eq_true, decide_eq_true_eq] at isMine
    simp [isMine, Ne.symm own]

theorem released_account (known : Known r uid s) (id : Nat) (chg : User → User)
    (keeps : ∀ u, (chg u).id = u.id)
    (opens : ∀ u, (chg u).lockedUntil = none) :
    accountOf r uid (updateUser (loginCleared r.id id s) id chg) =
      if id = uid then (accountOf r uid s).release else accountOf r uid s := by
  have known' : Known r uid (loginCleared r.id id s) := known
  rw [accountOf_updateUser known' id keeps opens, loginCleared_account]
  by_cases own : id = uid
  · simp only [if_pos own]
    rfl
  · simp only [if_neg own]

theorem resetFailures_account (known : Known r uid s) (id : Nat) :
    accountOf r uid ((resetFailures r.id id).run s).2 =
      if id = uid then (accountOf r uid s).release else accountOf r uid s := by
  rw [← released_account known id (fun u => { u with lockedUntil := none }) (fun _ => rfl)
    fun _ => rfl]
  exact congrArg _ (run_require_snd ..)

theorem unlockUser_account (known : Known r uid s) (id : Nat) :
    accountOf r uid ((unlockUser r.id id).run s).2 =
      if id = uid then (accountOf r uid s).release else accountOf r uid s := by
  have released := released_account known id unlocked (fun _ => rfl) fun _ => rfl
  rw [unlockUser, run_read_bind, run_require_bind_snd, run_atomic_bind]
  split
  case isTrue hit =>
    have exists_ : s.users.any (·.id = id) = true := by
      simp only [any_eq_true, and_eq_true] at hit ⊢
      obtain ⟨u, mem, isId, -⟩ := hit
      exact ⟨u, mem, isId⟩
    rw [run_require_bind_snd, userUpdated, if_pos exists_, run_modify]
    exact released
  case isFalse missing =>
    obtain ⟨u, hit, inRealm⟩ := known
    rw [if_neg]
    rintro rfl
    apply missing
    have isUser := find?_some hit
    exact any_eq_true.mpr ⟨u, mem_of_find?_eq_some hit, by simp_all⟩

theorem resetTotpFailures_account (id : Nat) (s : Store) :
    accountOf r uid ((resetTotpFailures id).run s).2 =
      if id = uid then (accountOf r uid s).clear .totp
      else accountOf r uid s := by
  rw [resetTotpFailures, run_modify]
  simp only [ne_eq, decide_not]
  by_cases own : id = uid
  · subst own
    rw [if_pos rfl]
    refine ext_kinds rfl ?_ rfl rfl
    exact congrArg (map _) (filter_gone _ fun _ isMine => isMine)
  · rw [if_neg own]
    refine ext_kinds rfl (congrArg (map _) (filter_apart _ ?_)) rfl rfl
    intro f isMine
    simp only [decide_eq_true_eq] at isMine
    simp [isMine, Ne.symm own]

theorem resetWebAuthnFailures_account (id : Nat) (s : Store) :
    accountOf r uid ((resetWebAuthnFailures r.id id).run s).2 =
      if id = uid then (accountOf r uid s).clear .webAuthn
      else accountOf r uid s := by
  by_cases own : id = uid
  · subst own
    rw [if_pos rfl]
    refine ext_kinds rfl rfl ?_ rfl
    exact congrArg (map _) (filter_gone _ fun _ isMine => isMine)
  · rw [if_neg own]
    refine ext_kinds rfl rfl (congrArg (map _) (filter_apart _ ?_)) rfl
    intro f isMine
    simp only [and_eq_true, decide_eq_true_eq] at isMine
    simp [isMine, Ne.symm own]

theorem cleanupOldFailures_account (s : Store) :
    accountOf r uid (cleanupOldFailures.run s).2 = (accountOf r uid s).cleanup s.now :=
  ext_kinds (filter_pruned ..) (filter_pruned ..) (filter_pruned ..) rfl

theorem known_updateUser (known : Known r uid s) (id : Nat) (keeps : ∀ u, (chg u).id = u.id)
    (stays : ∀ u, (chg u).realmId = u.realmId) :
    Known r uid (updateUser s id chg) := by
  obtain ⟨u, hit, inRealm⟩ := known
  refine ⟨_, by rw [find?_updateUser s id _ keeps, hit]; rfl, ?_⟩
  split
  · rw [stays, inRealm]
  · exact inRealm

def KeepsKnown (realm : Realm) (userId : Nat) (s s' : Store) : Prop :=
  Known realm userId s → Known realm userId s'

theorem lockOut_keeps (id failureCount : Nat) :
    (lockOut r id failureCount).Keeps (KeepsKnown r uid) := by
  unfold lockOut
  split
  · refine (Keeps.read (fun _ known => known) _).bind fun now => ?_
    refine (Keeps.atomic fun s known => ?_).bind fun hit => Keeps.require _ _
    exact known_updateUser known id (fun _ => rfl) fun _ => rfl
  · trivial

theorem Action.keepsKnown (r : Realm) (uid : Nat) (act : Action) :
    (act.op r).Keeps (KeepsKnown r uid) := by
  cases act with
  | recordFailure id =>
    simp only [op, Auth.recordFailure]
    split
    · apply Keeps.modify
      intro s known
      rw [failureRecorded_eq]
      split
      · exact known_updateUser (s := loginNoted r id s) known id (fun _ => rfl) fun _ => rfl
      · exact known
    · trivial
  | recordTotpFailure id =>
    simp only [op, StepUp.recordTotpFailure]
    split
    · trivial
    · refine (Keeps.modify fun _ known => known).bind fun _ => ?_
      refine (Keeps.read (fun _ known => known) _).bind fun failures => ?_
      exact lockOut_keeps id failures.length
  | recordWebAuthnFailure id =>
    simp only [op, BruteForce.recordWebAuthnFailure]
    split
    · trivial
    · refine (Keeps.modify fun _ known => known).bind fun _ => ?_
      refine (Keeps.read (fun _ known => known) _).bind fun failures => ?_
      exact lockOut_keeps id failures.length
  | resetFailures id =>
    refine (Keeps.modify fun _ known => known).bind fun _ => ?_
    refine (Keeps.atomic fun s known => ?_).bind fun hit => Keeps.require _ _
    exact known_updateUser known id (fun _ => rfl) fun _ => rfl
  | resetTotpFailures id => exact .modify fun _ known => known
  | resetWebAuthnFailures id => exact .modify fun _ known => known
  | unlockUser id =>
    refine (Keeps.read (fun _ known => known) _).bind fun hit => ?_
    refine (Keeps.require _ _).bind fun _ => ?_
    refine (Keeps.atomic fun s known => ?_).bind fun updated => ?_
    · exact known_updateUser known id (fun _ => rfl) fun _ => rfl
    · exact (Keeps.require _ _).bind fun _ => Keeps.modify fun _ known => known
  | cleanupOldFailures =>
    refine (Keeps.modify fun _ known => known).bind fun _ => ?_
    refine (Keeps.modify fun _ known => known).bind fun _ => ?_
    exact .modify fun _ known => known

theorem step_known (known : Known r uid s) (ev : Event) : Known r uid (step r s ev) :=
  (ev.action.keepsKnown r uid).run (fun _ same => same)
    (fun first snd known => snd (first known)) { s with now := ev.time } known

section

variable (enabled : r.bruteForceEnabled = true)

include enabled

/-- The tables do to each account what the account says. -/
theorem step_account (known : Known r uid s) (event : Event) : accountOf r uid (step r s event) =
      (accountOf r uid s).step r uid event := by
  have known' : Known r uid { s with now := event.time } := known
  obtain ⟨time, act⟩ := event
  cases act with
  | recordFailure id => exact recordFailure_account enabled known' id
  | recordTotpFailure id => exact recordTotpFailure_account enabled known' id
  | recordWebAuthnFailure id => exact recordWebAuthnFailure_account enabled known' id
  | resetFailures id => exact resetFailures_account known' id
  | resetTotpFailures id => exact resetTotpFailures_account id _
  | resetWebAuthnFailures id => exact resetWebAuthnFailures_account id _
  | unlockUser id => exact unlockUser_account known' id
  | cleanupOldFailures => exact cleanupOldFailures_account _

theorem run_account (known : Known r uid s)
    (evs : List Event) : accountOf r uid (run r s evs) = (accountOf r uid s).run r uid evs ∧
      Known r uid (run r s evs) := by
  induction evs generalizing s with
  | nil => exact ⟨rfl, known⟩
  | cons ev evs ih =>
    have rest := ih (step_known known ev)
    rw [step_account enabled known ev] at rest
    exact rest

theorem lockedAt_iff (now : Int) (s : Store) : lockedAt r uid now s = true ↔
      ∃ until_, (accountOf r uid s).lockedUntil = some until_ ∧ now < until_ := by
  rw [lockedAt, accountOf]
  cases found : s.users.find? (·.id = uid) with
  | none => simp
  | some u => cases locks : u.lockedUntil <;> simp [isLocked, enabled, locks]

end

end Idenplane.BruteForce
