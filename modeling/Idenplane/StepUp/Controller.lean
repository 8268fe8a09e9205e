import Idenplane.Admin.Auth
import Idenplane.StepUp.Service

/-! # Verification in a session

`StepUpController`: a user who has a browser session answers a challenge, types the password
again or uses a passkey, and the session is recorded at that level.
-/

namespace Idenplane.StepUp

open Atomic Auth Admin

def recentTotpFailures (realm : Realm) (userId : Nat) (s : Store) : List TotpFailure :=
  s.totpFailures.filter fun failure =>
    failure.userId = userId && s.now - max realm.failureResetTime 1 * 1000 ≤ failure.failedAt

def totpRateLimitBlocks (realm : Realm) (userId : Nat) : Op Bool :=
  if !realm.bruteForceEnabled then pure false
  else do
    let failures ← read (recentTotpFailures realm userId)
    pure (max realm.maxLoginFailures 1 ≤ (failures.length : Int))

def recordTotpFailure (realm : Realm) (userId : Nat) : Op Unit :=
  if !realm.bruteForceEnabled then pure ()
  else do
    modify fun s => { s with
      totpFailures := { userId := userId, failedAt := s.now } :: s.totpFailures }
    let failures ← read (recentTotpFailures realm userId)
    if max realm.maxLoginFailures 1 ≤ (failures.length : Int) then
      let now ← read Store.now
      let found ← atomic (userUpdated userId fun user =>
        { user with lockedUntil := some (now + realm.lockoutDuration * 1000) })
      require found .internal
    else pure ()

def resetTotpFailures (userId : Nat) : Op Unit :=
  modify fun s => { s with
    totpFailures := s.totpFailures.filter (·.userId ≠ userId) }

/-- The verifications that are not by a second factor, which end with the verified user. -/
structure Verifiers where
  /-- `LoginService.validateCredentials(realm, username, password)`. -/
  validateCredentials : Realm → String → String → Op Nat
  /-- `WebAuthnService.verifyAuthentication(realm, assertion)`. -/
  verifyAuthentication : Realm → String → Op Nat

structure VerifyBody where
  (acr client_id : Option String := none)
  mfa_token : Option Nat := none
  (otp method password assertion : Option String := none)

structure VerifyAnswer where
  acr : String
  amr : List String
  deriving DecidableEq

section Endpoints

variable (deps : Deps) (verifiers : Verifiers)

def secondFactorInput (realm : Realm) (body : VerifyBody) (token : Nat) (otp : String) :
    SecondFactorInput :=
  if body.method = some "sms" then .sms otp realm.id .stepUp (toString token) else .otp otp

def verificationDone (sessionId userId : Nat) (acrLevel : String) (s : Store) : Store :=
  { s with
    stepUpLog := { sessionId := sessionId, userId := userId, acrLevel := acrLevel, at_ := s.now } ::
      s.stepUpLog }

def recordMfaStepUp (req token sessionId : Nat) (cacheDuration : Int) (s : Store) : Store :=
  { recordStepUp sessionId ACR_MFA cacheDuration s with
    mfaLog := .steppedUp req (sha256 token) :: s.mfaLog }

def refuseWrongAnswer (realm : Realm) (userId : Nat) : Option VerifiedFactor → Op VerifiedFactor
  | some factor => pure factor
  | none => do
    recordTotpFailure realm userId
    Prog.fail (unauthorized "Invalid OTP code")

def verifyMfa (req : Nat) (realm : Realm) (body : VerifyBody) (user : User) (sessionId : Nat)
    (cacheDuration : Int) : Op VerifyAnswer := do
  let token ← orFail body.mfa_token (badRequest "mfa_token and otp are required for MFA step-up")
  let otp ← orFail (given body.otp) (badRequest "mfa_token and otp are required for MFA step-up")
  let found ← validateMfaChallengeWithAttemptCheck req token
  let challenge ← orFail found (unauthorized "Invalid or expired MFA token")
  require (challenge.userId = user.id) (unauthorized "MFA token does not match session user")
  require (challenge.realmId = realm.id) (unauthorized "Invalid or expired MFA token")
  let blocked ← totpRateLimitBlocks realm challenge.userId
  require (!blocked) (unauthorized "Too many failed attempts. Please try again later.")
  let verified ← verifySecondFactor deps req token challenge.userId
    (secondFactorInput realm body token otp)
  let factor ← refuseWrongAnswer realm challenge.userId verified
  let consumed ← consumeMfaChallenge req token
  require consumed (unauthorized "Invalid or expired MFA token")
  modify (verificationDone sessionId challenge.userId ACR_MFA)
  resetTotpFailures challenge.userId
  modify (recordMfaStepUp req token sessionId cacheDuration)
  pure ⟨ACR_MFA, ["pwd", if factor = .sms then "sms" else "otp"]⟩

/-- The exception of a verification is replaced by the endpoint's own. -/
def orRefuse {α : Type} (failure : Failure) : Op α → Op α
  | .done a => .done a
  | .fail _ => .fail failure
  | .step update next => .step update fun s => orRefuse failure (next s)

def verifyPassword (realm : Realm) (body : VerifyBody) (user : User) (sessionId : Nat)
    (cacheDuration : Int) : Op VerifyAnswer := do
  let password ← orFail (given body.password)
    (badRequest "password is required for password step-up")
  let verified ← orRefuse (unauthorized "Invalid password")
    (verifiers.validateCredentials realm user.username password)
  modify (verificationDone sessionId verified ACR_PASSWORD)
  modify (recordStepUp sessionId ACR_PASSWORD cacheDuration)
  pure ⟨ACR_PASSWORD, ["pwd"]⟩

def verifyWebAuthn (realm : Realm) (body : VerifyBody) (user : User) (sessionId : Nat)
    (cacheDuration : Int) : Op VerifyAnswer := do
  let assertion ← orFail body.assertion
    (badRequest "WebAuthn step-up requires a full AuthenticationResponseJSON")
  let verified ← orRefuse (unauthorized "WebAuthn verification failed")
    (verifiers.verifyAuthentication realm assertion)
  require (verified = user.id)
    (unauthorized "WebAuthn credential does not belong to the session user")
  modify (verificationDone sessionId verified ACR_WEBAUTHN)
  modify (recordStepUp sessionId ACR_WEBAUTHN cacheDuration)
  pure ⟨ACR_WEBAUTHN, ["hwk"]⟩

/-- `POST verify`; the session token is the one of the cookie. -/
def verify (req : Nat) (realm : Realm) (sessionToken : Option Nat) (body : VerifyBody) :
    Op VerifyAnswer := do
  let required := badRequest ("acr and client_id are required; " ++
    "session must be provided via the IDENPLANE_SESSION cookie")
  let sessionToken ← orFail sessionToken required
  let acr ← orFail (given body.acr) required
  let clientId ← orFail (given body.client_id) required
  let known ← validateLoginSession realm sessionToken
  let user ← orFail known (unauthorized "Invalid or expired session")
  let found ← read fun s =>
    s.loginSessions.find? (·.tokenHash = sha256 sessionToken)
  let loginSession ← orFail found (unauthorized "Session not found")
  let row ← read fun s =>
    s.clients.find? fun client => client.realmId = realm.id && client.clientId = clientId
  let client ← orFail row (badRequest "Client not found")
  if acr = ACR_MFA then
    verifyMfa deps req realm body user loginSession.id client.stepUpCacheDuration
  else if acr = ACR_PASSWORD then
    verifyPassword verifiers realm body user loginSession.id client.stepUpCacheDuration
  else if acr = ACR_WEBAUTHN then
    verifyWebAuthn verifiers realm body user loginSession.id client.stepUpCacheDuration
  else Prog.fail (badRequest ("Unsupported ACR value: " ++ acr))

def getMfaChallenge (token : Nat) : Op (Option PendingAction) := do
  let found ← read fun s => s.pendingActions.find? (·.tokenHash = sha256 token)
  let now ← read Store.now
  pure (found.filter fun action => action.type = .mfaChallenge && !(action.expiresAt < now) &&
    action.attempts < MAX_MFA_ATTEMPTS)

end Endpoints

def cleanupExpiredActions : Op Unit := do
  modify fun s => { s with
    pendingActions := s.pendingActions.filter fun action =>
      !(action.type ∈ [.mfaChallenge, .mfaEnrollment, .smsEnrollment] && action.expiresAt < s.now) }
  modify fun s => { s with
    usedTotpCodes := s.usedTotpCodes.filter fun used => !(used.expiresAt < s.now) }

end Idenplane.StepUp
