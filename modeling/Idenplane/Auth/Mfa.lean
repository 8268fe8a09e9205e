import Idenplane.Sms.Otp

/-! # Second factors and lockout

The parts of `MfaService`, `BruteForceService` and `PasswordPolicyService` that the
token endpoint uses.
-/

namespace Idenplane.Auth

open Atomic Text

def isLocked (realm : Realm) (user : User) (now : Int) : Bool :=
  realm.bruteForceEnabled && match user.lockedUntil with
    | some until_ => now < until_
    | none => false

/-- 2099-12-31T23:59:59Z, the end of a permanent lockout. -/
def permanentLockUntil : Int := 4102444799000

def Store.updateUser (s : Store) (userId : Nat) (change : User → User) : Store :=
  { s with users := s.users.map fun user => if user.id = userId then change user else user }

open Auth.Store

theorem find?_updateUser (s : Store) (id userId : Nat) {chg : User → User}
    (keeps : ∀ user, (chg user).id = user.id) :
    (updateUser s id chg).users.find? (·.id = userId) =
      (s.users.find? (·.id = userId)).map fun user => if id = userId then chg user else user := by
  have test : ((fun user : User => decide (user.id = userId)) ∘
      fun user => if user.id = id then chg user else user) = (decide <| ·.id = userId) := by
    funext user
    by_cases own : user.id = id <;> simp [own, keeps]
  rw [updateUser, find?_map, test]
  cases found : s.users.find? (·.id = userId) with
  | none => rfl
  | some user =>
    have isUser : user.id = userId := by simpa using find?_some found
    simp [isUser, eq_comm]

/-- The serializable transaction of `recordFailure`. -/
def failureRecorded (realm : Realm) (userId : Nat) (store : Store) : Store :=
  let maxFailures := max realm.maxLoginFailures 1
  let resetTime := max realm.failureResetTime 1
  let store := { store with
    loginFailures := { realmId := realm.id, userId := userId, failedAt := store.now } ::
      store.loginFailures }
  let own := store.loginFailures.filter fun f => f.realmId = realm.id && f.userId = userId
  let recent : Int := (own.filter fun f => store.now - resetTime * 1000 ≤ f.failedAt).length
  if recent < maxFailures then store
  else if 0 < realm.permanentLockoutAfter ∧
      realm.permanentLockoutAfter ≤ (own.length : Int) / maxFailures then
    updateUser store userId fun user =>
      { user with lockedUntil := some permanentLockUntil, enabled := false }
  else
    updateUser store userId fun user =>
      { user with lockedUntil := some (store.now + realm.lockoutDuration * 1000) }

def recordFailure (realm : Realm) (userId : Nat) : Op Unit :=
  if realm.bruteForceEnabled then modify (failureRecorded realm userId) else pure ()

/-- `user.update`, which throws when there is no such user. -/
def userUpdated (userId : Nat) (change : User → User) (s : Store) : Bool × Store :=
  (s.users.any (·.id = userId), updateUser s userId change)

def resetFailures (realmId userId : Nat) : Op Unit := do
  modify fun s => { s with
    loginFailures := s.loginFailures.filter fun f =>
      !(f.realmId = realmId && f.userId = userId) }
  let found ← atomic (userUpdated userId fun user => { user with lockedUntil := none })
  require found .internal

def isExpired (user : User) (realm : Realm) (now : Int) : Bool :=
  if realm.passwordMaxAgeDays ≤ 0 then false
  else match user.passwordChangedAt with
    | none => true
    | some changed => realm.passwordMaxAgeDays * 24 * 60 * 60 * 1000 < now - changed

def getEnrolledFactors (s : Store) (userId : Nat) : List CredentialType :=
  [.totp, .sms].filter fun type => s.userCredentials.any fun c =>
    c.userId = userId && c.verified && c.type = type

def isMfaEnabled (s : Store) (userId : Nat) : Bool :=
  !(getEnrolledFactors s userId).isEmpty

def isMfaRequired (realm : Realm) (userId : Nat) (s : Store) : Bool :=
  realm.mfaRequired || isMfaEnabled s userId

def availableMfaMethods (realm : Realm) (userId : Nat) (s : Store) : List String :=
  let factors := getEnrolledFactors s userId
  (if factors.contains .totp then ["totp"] else []) ++
    (if factors.contains .sms && Sms.canDeliver realm then ["sms"] else []) ++ ["recovery"]

inductive VerifiedFactor where
  | totp
  | sms
  | recovery
  deriving DecidableEq

def TOTP_USED_CODE_TTL_SECONDS : Int := 90

section Factors

variable (deps : Deps)

/-- `isTotpCodeUsed`, from the table of used codes. -/
def isTotpCodeUsed (userId : Nat) (code : String) (s : Store) : Bool :=
  s.usedTotpCodes.any fun used =>
    used.userId = userId && used.codeHash = deps.sha256Text code && s.now < used.expiresAt

def markTotpCodeUsed (userId : Nat) (code : String) : Op Unit :=
  modify fun s => { s with
    usedTotpCodes :=
      { userId := userId, codeHash := deps.sha256Text code,
        expiresAt := s.now + TOTP_USED_CODE_TTL_SECONDS * 1000 } :: s.usedTotpCodes }

def verifyTotp (userId : Nat) (code : String) : Op Bool := do
  let cred ← read fun s =>
    s.userCredentials.find? fun c => c.userId = userId && c.type = .totp
  match cred with
  | none => pure false
  | some cred =>
    if !cred.verified then pure false
    else
      let used ← read (isTotpCodeUsed deps userId code)
      if used then pure false
      else
        let now ← read Store.now
        if deps.totpValidate cred.secretKey now code then
          markTotpCodeUsed deps userId code
          pure true
        else pure false

def recoveryCodeUsed (userId : Nat) (codeHash : String) (s : Store) : Bool × Store :=
  let matched (c : RecoveryCode) : Bool := c.userId = userId && c.codeHash = codeHash && !c.used
  (s.recoveryCodes.any matched, { s with
    recoveryCodes := s.recoveryCodes.map fun c => if matched c then { c with used := true } else c })

def verifyRecoveryCode (userId : Nat) (code : String) : Op Bool :=
  atomic (recoveryCodeUsed userId (deps.sha256Text (removeSpaces (deps.toLowerCase code))))

inductive SecondFactorInput where
  | totp (code : String)
  | recovery (code : String)
  | otp (code : String)
  | sms (code : String) (realmId : Nat) (purpose : SmsOtpPurpose) (binding : String)

/-- The checks of `verifySecondFactor`. -/
def checkAnswer (req userId : Nat) : SecondFactorInput → Op (Option VerifiedFactor)
  | .totp code => do
    let code := trim code
    if code = "" then pure none
    else
      let totp ← verifyTotp deps userId code
      pure (if totp then some .totp else none)
  | .recovery code => do
    let code := trim code
    if code = "" then pure none
    else
      let recovery ← verifyRecoveryCode deps userId code
      pure (if recovery then some .recovery else none)
  | .otp code => do
    let code := trim code
    if code = "" then pure none
    else
      let totp ← verifyTotp deps userId code
      if totp then pure (some .totp)
      else
        let recovery ← verifyRecoveryCode deps userId code
        pure (if recovery then some .recovery else none)
  | .sms code realmId purpose binding => do
    let code := trim code
    if code = "" then pure none
    else
      let res ← Sms.verifyCode deps req
        { realmId := realmId, userId := userId, purpose := purpose, binding := binding,
          code := code }
      match res with
      | .ok _ => pure (some .sms)
      | .refused _ _ => pure none

def answerPassedOn (req token userId : Nat) (s : Store) : Store :=
  { s with mfaLog := .checked req (sha256 token) userId s.now :: s.mfaLog }

/-- `verifySecondFactor`: the factor that was verified, if one was.  The answer is one to the
challenge `token`, and is recorded as such. -/
def verifySecondFactor (req token userId : Nat) (input : SecondFactorInput) :
    Op (Option VerifiedFactor) := do
  modify (answerPassedOn req token userId)
  checkAnswer deps req userId input

end Factors

def MAX_MFA_ATTEMPTS : Nat := 5
def MFA_CHALLENGE_RATE_LIMIT_MAX_REQUESTS : Nat := 5
def MFA_CHALLENGE_RATE_LIMIT_WINDOW_SECONDS : Int := 300

def createMfaChallenge (userId realmId : Nat) (clientId : Option String)
    (oauthParams : Option AuthorizeParams := none) (primaryAmr : Option (List String) := none) :
    Op Nat := do
  let recent ← read fun s => s.pendingActions.countP fun action =>
    action.type = .mfaChallenge && action.userId = userId &&
      s.now - MFA_CHALLENGE_RATE_LIMIT_WINDOW_SECONDS * 1000 ≤ action.createdAt
  require (recent < MFA_CHALLENGE_RATE_LIMIT_MAX_REQUESTS) .internal
  atomic fun s =>
    (s.supply, { s with
      supply := s.supply + 2
      mfaLog := .created (sha256 s.supply) userId s.now :: s.mfaLog
      pendingActions :=
        { id := s.supply + 1, tokenHash := sha256 s.supply, type := .mfaChallenge,
          userId := userId, realmId := realmId, clientId := clientId,
          oauthParams := oauthParams, primaryAmr := primaryAmr,
          expiresAt := s.now + 5 * 60 * 1000, createdAt := s.now } ::
        s.pendingActions })

def answerable (tokenHash : Sha256) (now : Int) (action : PendingAction) : Bool :=
  action.tokenHash = tokenHash && action.type = .mfaChallenge && now < action.expiresAt &&
    action.attempts < MAX_MFA_ATTEMPTS

/-- The conditional update that spends one attempt; how many rows it changed. -/
def spendAttempt (req : Nat) (tokenHash : Sha256) (s : Store) : Nat × Store :=
  let count := s.pendingActions.countP (answerable tokenHash s.now)
  (count, { s with
    pendingActions := s.pendingActions.map fun action =>
      if answerable tokenHash s.now action then { action with attempts := action.attempts + 1 }
      else action
    mfaLog := if count = 0 then s.mfaLog
      else .spent req tokenHash s.now :: s.mfaLog })

/-- `deleteMany` on the challenge; how many rows it removed. -/
def dropChallenge (tokenHash : Sha256) (s : Store) : Nat × Store :=
  let matched (action : PendingAction) : Bool :=
    action.tokenHash = tokenHash && action.type = .mfaChallenge
  (s.pendingActions.countP matched,
    { s with pendingActions := s.pendingActions.filter (!matched ·) })

/-- `deleteMany` on the challenge that was answered. -/
def claimChallenge (req : Nat) (tokenHash : Sha256) (s : Store) : Nat × Store :=
  let (count, dropped) := dropChallenge tokenHash s
  (count, { dropped with
    mfaLog := if count = 1 then .claimed req tokenHash :: s.mfaLog else s.mfaLog })

def validateMfaChallengeWithAttemptCheck (req token : Nat) : Op (Option PendingAction) := do
  let count ← atomic (spendAttempt req (sha256 token))
  if count = 0 then
    let _ ← atomic (dropChallenge (sha256 token))
    pure none
  else
    read fun s => s.pendingActions.find? (·.tokenHash = sha256 token)

def consumeMfaChallenge (req token : Nat) : Op Bool := do
  let count ← atomic (claimChallenge req (sha256 token))
  pure (count = 1)

end Idenplane.Auth
