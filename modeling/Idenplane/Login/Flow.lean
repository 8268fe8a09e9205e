import Idenplane.Login.Service

/-! # The pages of a sign-in

`LoginFlowService` and the endpoints around it: the login page, the page for the second
factor, the set-up of a second factor on the way, the consent page, the authorization
endpoint and the sign-in with a passkey.  Each of them may end with a code for the client.
-/

namespace Idenplane.Login

open Atomic Auth Admin StepUp

inductive Page where
  | login (error : Option String)
  | changePassword
  | totp (error : Option String)
  | totpSetup (message : Option String)
  | smsSetup (message : String)
  /-- A second factor was set up; `continues` says that a sign-in waits for it. -/
  | activated (continues : Bool)
  | account
  | consent (reqId : Nat)
  | stepUp (acr : String)
  | client (redirect : Redirect)
  | clientError (uri error : String)
  | failed (failure : Failure)
  deriving DecidableEq

structure Answer where
  page : Page
  (session challenge enrollment : Option Nat := none)
  deriving DecidableEq

structure Cookies where
  (session challenge enrollment smsEnrollment : Option Nat := none)

def recover {α : Type} (answer : Failure → α) : Op α → Op α
  | .done a => .done a
  | .fail failure => .done (answer failure)
  | .step update next => .step update fun s => recover answer (next s)

def withCookie {α : Type} (cookie : Option Nat) (find : Nat → Op (Option α)) : Op (Option α) :=
  match cookie with
  | some token => find token
  | none => pure none

def validateCsrf (valid : Bool) : Op Unit :=
  require valid (.oauth "Forbidden" "Invalid or missing CSRF token" 403)

section Flow

variable (deps : Deps) (externals : Externals)

def consentGiven (user : User) (client : Client) (scopes : List String) : Op Bool :=
  if client.requireConsent then read (hasConsent user.id client.id scopes) else pure true

/-- Without consent the request is kept until the user answered the consent page. -/
def consentOrCode (realm : Realm) (user : User) (client : Client) (params : AuthorizeParams)
    (ctx : SatisfiedAuthContext) : Op Page := do
  let scopes := Text.words ' ' (params.scope.getD "openid")
  let granted ← consentGiven user client scopes
  if granted then
    let redirect ← authorizeWithUser deps realm user params ctx
    pure (.client redirect)
  else
    let reqId ← storeConsentRequest
      { id := 0, tokenHash := sha256 0, userId := user.id, clientId := client.id,
        realmName := realm.name, scopes := scopes, oauthParams := params,
        satisfiedAcr := ctx.acr, amr := ctx.amr, expiresAt := 0 }
    pure (.consent reqId)

/-- The request is validated before the session is created. -/
def completeLogin (realm : Realm) (user : User) (oauthParams : AuthorizeParams) (cookies : Cookies)
    (ctx : SatisfiedAuthContext) : Op Answer := do
  if oauthParams.client_id = "" then
    let session ← createLoginSession realm user cookies.session ctx
    pure { page := .account, session := some session }
  else
    let client ← validateAuthRequest realm oauthParams
    let session ← createLoginSession realm user cookies.session ctx
    let page ← consentOrCode deps realm user client oauthParams ctx
    pure { page := page, session := some session }

def continueAfterPrimaryAuth (realm : Realm) (user : User) (oauthParams : AuthorizeParams)
    (primaryAmr : List String) (cookies : Cookies) : Op Answer := do
  let mfaRequired ← read (isMfaRequired realm user.id)
  let mfaEnabled ← read (isMfaEnabled · user.id)
  if mfaEnabled then
    let challenge ← createMfaChallenge user.id realm.id none (some oauthParams) (some primaryAmr)
    pure { page := .totp none, challenge := some challenge }
  else if mfaRequired then
    let enrollment ← createMfaEnrollment user.id realm.id oauthParams primaryAmr
    pure { page := .totpSetup (some "Two-factor authentication is required. Please set it up now.")
           enrollment := some enrollment }
  else
    completeLogin deps realm user oauthParams cookies { acr := some ACR_PASSWORD, amr := primaryAmr }

def amrForFactor (primaryAmr : Option (List String)) (sms : Bool) : List String :=
  primaryAmr.getD ["pwd"] ++ [if sms then "sms" else "otp"]

inductive RiskAction where
  | ALLOW
  | STEP_UP
  | BLOCK
  deriving DecidableEq

structure LoginBody where
  username : String
  password : String
  params : AuthorizeParams
  csrf : Bool
  /-- The assessment of the attempt, in a realm that assesses risks. -/
  risk : RiskAction := .ALLOW

def carriedParams (params : AuthorizeParams) : AuthorizeParams where
  response_type := params.response_type
  client_id := params.client_id
  redirect_uri := params.redirect_uri
  scope := given params.scope
  state := given params.state
  code_challenge := given params.code_challenge
  code_challenge_method := given params.code_challenge_method
  nonce := given params.nonce

def noParams : AuthorizeParams where
  response_type := ""
  client_id := ""
  redirect_uri := ""

def verifyEmailFirst : String :=
  "Please verify your email address before signing in. Check your inbox for the verification link."

def loginAllowed (realm : Realm) (user : User) (oauthParams : AuthorizeParams) (cookies : Cookies) :
    Op Answer := do
  if realm.requireEmailVerification && truthy user.email && !user.emailVerified then
    pure { page := .login (some verifyEmailFirst) }
  else
    let now ← read Store.now
    if isExpired user realm now then pure { page := .changePassword }
    else continueAfterPrimaryAuth deps realm user oauthParams ["pwd"] cookies

def loginAssessed (realm : Realm) (user : User) (oauthParams : AuthorizeParams) (cookies : Cookies) :
    RiskAction → Op Answer
  | .BLOCK => pure { page := .login (some
      "Login blocked due to suspicious activity. Check your email for details.") }
  | .STEP_UP => do
    let mfaAvailable ← read (isMfaEnabled · user.id)
    if mfaAvailable then
      let challenge ← createMfaChallenge user.id realm.id none (some oauthParams)
      pure { page := .totp none, challenge := some challenge }
    else loginAllowed deps realm user oauthParams cookies
  | .ALLOW => loginAllowed deps realm user oauthParams cookies

def loginError (failure : Failure) : Answer :=
  { page := .login (some (failure.description.getD failure.error)) }

def handleLogin (realm : Realm) (body : LoginBody) (cookies : Cookies) : Op Answer := do
  validateCsrf body.csrf
  recover loginError do
    let user ← validateCredentials deps externals realm body.username body.password
    let oauthParams := carriedParams body.params
    loginAssessed deps realm user oauthParams cookies
      (if realm.adaptiveAuthEnabled then body.risk else .ALLOW)

structure TotpBody where
  (code recoveryCode smsCode : Option String := none)
  csrf : Bool

def TotpBody.input (body : TotpBody) (realm : Realm) (token : Nat) : SecondFactorInput :=
  match given body.smsCode, given body.code with
  | some code, _ => .sms code realm.id .login (toString token)
  | none, some code => .totp code
  | none, none => .recovery (body.recoveryCode.getD "")

def factorAnswered (userId : Nat) (s : Store) : Store :=
  { s with loginLog := .factorVerified userId :: s.loginLog }

def sessionExpired : Answer := { page := .login (some "MFA session expired. Please login again.") }

/-- The challenge was answered: the sign-in is finished at the level of a second factor. -/
def finishChallenge (req : Nat) (realm : Realm) (token : Nat) (challenge : PendingAction)
    (factor : VerifiedFactor) (cookies : Cookies) : Op Answer := do
  let claimed ← consumeMfaChallenge req token
  if claimed then
    modify (factorAnswered challenge.userId)
    resetTotpFailures challenge.userId
    let found ← read (findUserById challenge.userId)
    match found with
    | none => pure { page := .login (some "User not found.") }
    | some user =>
      completeLogin deps realm user (challenge.oauthParams.getD noParams) cookies
        { acr := some ACR_MFA, amr := amrForFactor challenge.primaryAmr (factor = .sms) }
  else pure sessionExpired

def answerWrong (realm : Realm) (userId : Nat) : Op Answer := do
  recordTotpFailure realm userId
  let failures ← read (recentTotpFailures realm userId)
  pure { page := .totp (some
    (if !realm.bruteForceEnabled || max realm.maxLoginFailures 1 - failures.length ≤ 2 then
      "Too many failed attempts. Please try again later."
    else "Invalid code. Please try again.")) }

def answerChallenge (req : Nat) (realm : Realm) (body : TotpBody) (token : Nat)
    (challenge : PendingAction) (cookies : Cookies) : Op Answer := do
  let blocked ← totpRateLimitBlocks realm challenge.userId
  if blocked then
    pure { page := .totp (some "Too many failed attempts. Please try again later.") }
  else
    let verified ← verifySecondFactor deps req token challenge.userId (body.input realm token)
    match verified with
    | none => answerWrong realm challenge.userId
    | some factor => finishChallenge deps req realm token challenge factor cookies

def handleTotp (req : Nat) (realm : Realm) (body : TotpBody) (cookies : Cookies) :
    Op Answer := do
  validateCsrf body.csrf
  match cookies.challenge with
  | none => pure sessionExpired
  | some token =>
    let found ← validateMfaChallengeWithAttemptCheck req token
    match found with
    | none => pure { page := .login (some
        "MFA session expired or too many failed attempts. Please login again.") }
    | some challenge =>
      if challenge.realmId ≠ realm.id then pure sessionExpired
      else answerChallenge deps req realm body token challenge cookies

/-- The user who sets a factor up, with the enrolment that a sign-in waits for. -/
def getTotpSetupUser (realm : Realm) (cookies : Cookies) : Op (Option (User × Option Nat)) := do
  let enrollment ← withCookie cookies.enrollment getMfaEnrollment
  let paused ← read fun s =>
    (enrollment.filter (·.realmId = realm.id)).bind fun action => findUserById action.userId s
  match paused.filter (·.enabled) with
  | some user => pure (some (user, cookies.enrollment))
  | none =>
    let user ← withCookie cookies.session (validateLoginSession realm)
    pure (user.map (·, none))

/-- `setupTotp`: the unverified credential is replaced; the secret is not the caller's. -/
def setupTotp (userId : Nat) (secretKey : String) : Op Unit := do
  modify fun s => { s with
    userCredentials := s.userCredentials.filter fun c =>
      !(c.userId = userId && c.type = .totp && !c.verified) }
  let created ← atomic fun s =>
    if s.userCredentials.any fun c => c.userId = userId && c.type = .totp then (false, s)
    else (true, { s with
      userCredentials :=
        { userId := userId, type := .totp, secretKey := secretKey } :: s.userCredentials })
  require created .internal

def credentialVerified (userId : Nat) (type : CredentialType) (s : Store) : Store :=
  { s with userCredentials := s.userCredentials.map fun c =>
      if c.userId = userId && c.type = type then { c with verified := true } else c }

/-- `ensureRecoveryCodes`; ten codes are drawn when none is left. -/
def ensureRecoveryCodes (userId : Nat) (codes : List String) : Op Unit := do
  let unused ← read fun s =>
    s.recoveryCodes.countP fun c => c.userId = userId && !c.used
  if 0 < unused then pure ()
  else
    modify fun s => { s with
      recoveryCodes := codes.map (fun code => { userId := userId, codeHash := deps.sha256Text code }) ++
        s.recoveryCodes.filter (·.userId ≠ userId) }

def verifyAndActivateTotp (userId : Nat) (code : String) (codes : List String) : Op Bool := do
  let found ← read fun s =>
    s.userCredentials.find? fun c => c.userId = userId && c.type = .totp
  match found.filter (!·.verified) with
  | none => pure false
  | some cred =>
    let now ← read Store.now
    if deps.totpValidate cred.secretKey now code then
      modify (credentialVerified userId .totp)
      ensureRecoveryCodes deps userId codes
      pure true
    else pure false

def resumeEnrollment (enrollment : Option Nat) (factor : CredentialType) : Op Unit :=
  match enrollment with
  | some token => markMfaEnrollmentVerified token factor
  | none => pure ()

def enrollmentDone (user : User) (enrollment : Option Nat) (factor : CredentialType) : Op Answer := do
  modify (factorAnswered user.id)
  resumeEnrollment enrollment factor
  pure { page := .activated enrollment.isSome }

def handleTotpSetup (realm : Realm) (csrf : Bool) (code : Option String) (codes : List String)
    (cookies : Cookies) : Op Answer := do
  validateCsrf csrf
  let setupUser ← getTotpSetupUser realm cookies
  match setupUser with
  | none => pure { page := .login none }
  | some (user, enrollment) =>
    match given code with
    | none => pure { page := .totpSetup (some "Please enter the verification code.") }
    | some code =>
      let activated ← verifyAndActivateTotp deps user.id code codes
      if activated then enrollmentDone user enrollment .totp
      else pure { page := .totpSetup (some "Invalid code. Please try again.") }

/-- The upsert of `saveEnrolledPhone`. -/
def phoneSaved (userId : Nat) (phone : String) (s : Store) : Store :=
  { s with userCredentials :=
      { userId := userId, type := .sms, phoneNumber := some (deps.encrypt phone), verified := true } ::
        s.userCredentials.filter fun c => !(c.userId = userId && c.type = .sms) }

def endSmsEnrollment (token : Nat) (s : Store) : Store :=
  { s with pendingActions := s.pendingActions.filter fun action =>
      !(action.tokenHash = sha256 token && action.type = .smsEnrollment) }

def getSmsEnrollment (realm : Realm) (userId : Nat) (cookies : Cookies) : Op (Option Nat) :=
  match cookies.smsEnrollment with
  | none => pure none
  | some token => do
    let found ← read (findPendingAction (sha256 token))
    let now ← read Store.now
    let pending := found.filter fun action => action.type = .smsEnrollment &&
      !(action.expiresAt < now) && action.userId = userId && action.realmId = realm.id
    pure (if pending.isSome then some token else none)

def codeExpired : Answer :=
  { page := .smsSetup "Your code expired. Please enter your phone number again." }

def phoneAnswered (user : User) (enrollment : Option Nat) (token : Nat) (codes : List String) :
    Sms.VerifyResult → Op Answer
  | .ok phone => do
    modify (phoneSaved deps user.id phone)
    modify (endSmsEnrollment token)
    ensureRecoveryCodes deps user.id codes
    enrollmentDone user enrollment .sms
  | .refused reason remaining =>
    if reason = .invalid then
      let attempts := toString (remaining.getD 0)
      pure { page := .smsSetup ("Invalid code. " ++ attempts ++ " attempt(s) remaining.") }
    else do
      modify (endSmsEnrollment token)
      pure (if reason = .locked then
        { page := .smsSetup "Too many incorrect codes. Please start again." } else codeExpired)

def verifySmsSetupCode (req : Nat) (realm : Realm) (csrf : Bool) (code : Option String)
    (codes : List String) (cookies : Cookies) : Op Answer := do
  validateCsrf csrf
  let setupUser ← getTotpSetupUser realm cookies
  match setupUser with
  | none => pure { page := .login none }
  | some (user, enrollment) =>
    if !Sms.canEnroll realm then pure { page := .account }
    else
      let pending ← getSmsEnrollment realm user.id cookies
      match pending with
      | none => pure codeExpired
      | some token =>
        let res ← Sms.verifyCode deps req
          { realmId := realm.id, userId := user.id, purpose := .enroll,
            binding := toString token, code := code.getD "" }
        phoneAnswered deps user enrollment token codes res

/-- `POST mfa-enrollment/continue`: the sign-in that waited goes on. -/
def continueAfterMfaEnrollment (realm : Realm) (csrf : Bool) (cookies : Cookies) : Op Answer := do
  validateCsrf csrf
  let enrollment ← withCookie cookies.enrollment consumeVerifiedMfaEnrollment
  match enrollment.filter (·.realmId = realm.id) with
  | none => pure { page := .login (some "Your sign-in expired. Please sign in again.") }
  | some enrollment =>
    let found ← read (findUserById enrollment.userId)
    let enabled ← read fun s =>
      found.filter fun user => user.enabled && isMfaEnabled s user.id
    match enabled with
    | none => pure { page := .login (some "Please sign in again.") }
    | some user =>
      completeLogin deps realm user (enrollment.oauthParams.getD noParams) cookies
        { acr := some ACR_MFA
          amr := amrForFactor enrollment.primaryAmr (enrollment.factor = some .sms) }

def missingConsent : Failure := badRequest "Consent request expired or invalid"

/-- `GET consent`: the request is kept under a new token. -/
def showConsentForm (reqId : Option Nat) : Op Answer := do
  let reqId ← orFail reqId (badRequest "Missing consent request ID")
  let found ← getConsentRequest reqId
  let req ← orFail found missingConsent
  let newReqId ← storeConsentRequest req
  pure { page := .consent newReqId }

/-- `POST consent`, in whatever realm. -/
def handleConsent (realm : Realm) (csrf : Bool) (reqId : Option Nat) (deny : Bool) : Op Answer := do
  validateCsrf csrf
  let reqId ← orFail reqId (badRequest "Missing consent request ID")
  let found ← getConsentRequest reqId
  let req ← orFail found missingConsent
  if deny then
    require (deps.isUrl req.oauthParams.redirect_uri) .internal
    pure { page := .clientError req.oauthParams.redirect_uri "access_denied" }
  else
    grantConsent req.userId req.clientId req.scopes
    let found ← read (findUserById req.userId)
    let user ← orFail found (badRequest "User not found")
    let redirect ← authorizeWithUser deps realm user req.oauthParams
      { acr := req.satisfiedAcr, amr := req.amr }
    pure { page := .client redirect }

/-- The stronger of two requirements. -/
def resolveRequiredAcr (requestedAcr clientAcr : Option String) : Option String :=
  match given requestedAcr, given clientAcr with
  | none, clientAcr => clientAcr
  | requestedAcr, none => requestedAcr
  | some requestedAcr, some clientAcr =>
    if acrStrength (some requestedAcr) ≥ acrStrength (some clientAcr) then some requestedAcr
    else some clientAcr

def amrForSessionAcr (sessionAcr : String) : List String :=
  if satisfiesAcr sessionAcr ACR_WEBAUTHN then ["hwk"]
  else if satisfiesAcr sessionAcr ACR_MFA then ["pwd", "otp"]
  else ["pwd"]

def firstAcr (acrValues : Option String) : Option String :=
  (given acrValues).map fun values =>
    String.ofList ((Text.split ' ' values.toList).headD [])

def sessionContext (session : Option LoginSession) (sessionAcr : String) : SatisfiedAuthContext where
  acr := some sessionAcr
  amr := match session with
    | some session =>
      if !session.amr.isEmpty && session.satisfiedAcr = some sessionAcr then session.amr
      else amrForSessionAcr sessionAcr
    | none => amrForSessionAcr sessionAcr

/-- A user who has a session is sent to the step-up, to the consent page or to the client. -/
def silentSignOn (realm : Realm) (user : User) (client : Client) (token : Nat)
    (params : AuthorizeParams) : Op Answer := do
  let session ← read fun s => s.loginSessions.find? (·.tokenHash = sha256 token)
  let sessionAcr ← read fun s =>
    match session with
    | some session => getLoginSessionAcr session s
    | none => ACR_PASSWORD
  let requiredAcr := resolveRequiredAcr (firstAcr params.acr_values) client.requiredAcr
  match requiredAcr.filter fun required => session.isSome && !satisfiesAcr sessionAcr required with
  | some required => pure { page := .stepUp required }
  | none =>
    let page ← consentOrCode deps realm user client params (sessionContext session sessionAcr)
    pure { page := page }

/-- The parameters of an authorization request, with its `prompt`. -/
structure AuthorizeQuery extends AuthorizeParams where
  prompt : Option String := none

def authorizeInternal (realm : Realm) (query : AuthorizeQuery) (cookies : Cookies) : Op Answer := do
  let client ← validateAuthRequest realm query.toAuthorizeParams
  let known ← withCookie cookies.session (validateLoginSession realm)
  match known, cookies.session with
  | some user, some token =>
    if query.prompt = some "none" then
      let redirectUri := client.redirectUris.headD ""
      require (deps.isUrl redirectUri) .internal
      pure { page := .clientError redirectUri "login_required" }
    else if query.prompt = some "login" then pure { page := .login none }
    else silentSignOn deps realm user client token query.toAuthorizeParams
  | _, _ => pure { page := .login none }

/-- The callback of a provider that signed the user in; which user of the realm its identity
stands for is the broker's. -/
def brokerCallback (realm : Realm) (userId : Nat) (oauthParams : AuthorizeParams) (cookies : Cookies) :
    Op Answer :=
  recover (fun failure => { page := .failed failure }) do
    let found ← read (findUserById userId)
    let user ← orFail (found.filter (·.realmId = realm.id)) .internal
    require user.enabled (.oauth "Forbidden" "This account is disabled." 403)
    continueAfterPrimaryAuth deps realm user oauthParams [] cookies

/-- `POST webauthn/authenticate/verify`.  `verified` says that the assertion answers the
challenge with the credential's key. -/
def completeAuthentication (realm : Realm) (credentialId : String) (verified : Bool)
    (params : AuthorizeParams) (cookies : Cookies) : Op Answer := do
  require realm.webAuthnEnabled (.oauth "Forbidden" "WebAuthn is not enabled for this realm" 403)
  let found ← read fun s =>
    s.webAuthnCredentials.find? (·.credentialId = credentialId)
  let cred ← orFail found (.oauth "Not Found" "Passkey not found" 404)
  require (cred.realmId = realm.id) (.oauth "Forbidden" "Passkey does not belong to this realm" 403)
  require verified (badRequest "Authentication verification failed")
  let found ← read (findUserById cred.userId)
  let user ← orFail found .internal
  modify (factorAnswered user.id)
  let ctx : SatisfiedAuthContext := { acr := some ACR_WEBAUTHN, amr := ["hwk"] }
  let oauthParams := carriedParams params
  let session ← createLoginSession realm user cookies.session ctx
  if oauthParams.client_id = "" then pure { page := .account, session := some session }
  else
    recover (fun failure => { loginError failure with session := some session }) do
      let client ← validateAuthRequest realm oauthParams
      let page ← consentOrCode deps realm user client oauthParams ctx
      pure { page := page, session := some session }

end Flow

end Idenplane.Login
