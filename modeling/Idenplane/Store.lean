import Idenplane.Claims

/-! # The database

One record holds the tables the modelled services read and write, as lists of
rows.  Row types have the columns of the Prisma schema that some modelled
function uses, under the schema's names.

Some fields of the store are not tables.  `now` is the server clock in
milliseconds, `supply` the next fresh name.  The histories at the end are written
along with the operation they record and are never read by the program.
-/

namespace Idenplane

structure Realm where
  id : Nat
  name : String
  displayName : Option String := none
  enabled : Bool := true
  accessTokenLifespan : Int := 300
  refreshTokenLifespan : Int := 1800
  offlineTokenLifespan : Int := 2592000
  passwordMinLength : Int := 8
  (passwordRequireUppercase passwordRequireLowercase passwordRequireDigits
    passwordRequireSpecialChars : Bool := false)
  passwordHistoryCount : Int := 0
  passwordMaxAgeDays : Int := 0
  registrationAllowed : Bool := true
  (registrationApprovalRequired bruteForceEnabled : Bool := false)
  maxLoginFailures : Int := 5
  lockoutDuration : Int := 900
  failureResetTime : Int := 600
  permanentLockoutAfter : Int := 0
  (mfaRequired smsMfaEnabled : Bool := false)
  smsProvider : String := "none"
  otpLength : Int := 6
  otpExpirySeconds : Int := 300
  smsMaxRequestsPerUser : Int := 3
  smsRateLimitWindow : Int := 900
  impersonationEnabled : Bool := false
  impersonationMaxDuration : Int := 1800
  maxSessionsPerUser : Int := 10
  (requireEmailVerification adaptiveAuthEnabled webAuthnEnabled magicLinkEnabled : Bool := false)
  magicLinkExpirySeconds : Int := 300
  magicLinkRateLimitPerEmail : Int := 5
  deriving DecidableEq

structure User where
  id : Nat
  realmId : Nat
  username : String
  email : Option String := none
  emailVerified : Bool := false
  (firstName lastName : Option String := none)
  enabled : Bool := true
  passwordHash : Option String := none
  federationLink : Option Nat := none
  (passwordChangedAt lockedUntil : Option Int := none)
  deriving DecidableEq

inductive ClientType where
  | CONFIDENTIAL
  | PUBLIC
  deriving DecidableEq

structure Client where
  id : Nat
  realmId : Nat
  clientId : String
  clientSecret : Option String := none
  clientType : ClientType := .CONFIDENTIAL
  (name description : Option String := none)
  enabled : Bool := true
  (redirectUris postLogoutRedirectUris webOrigins : List String := [])
  grantTypes : List String := ["authorization_code"]
  backchannelLogoutUri : Option String := none
  backchannelLogoutSessionRequired : Bool := true
  requireConsent : Bool := false
  requiredAcr : Option String := none
  stepUpCacheDuration : Int := 900
  serviceAccountUserId : Option Nat := none
  createdAt : Int := 0
  updatedAt : Int := 0
  deriving DecidableEq

/-- A role of a realm, or of a client when `clientId` is set. -/
structure Role where
  id : Nat
  realmId : Nat
  clientId : Option Nat := none
  name : String
  description : Option String := none
  deriving DecidableEq

structure UserRole where
  userId : Nat
  roleId : Nat
  deriving DecidableEq

structure Group where
  id : Nat
  realmId : Nat
  name : String
  description : Option String := none
  parentId : Option Nat := none
  deriving DecidableEq

structure UserGroup where
  userId : Nat
  groupId : Nat
  deriving DecidableEq

structure GroupRole where
  groupId : Nat
  roleId : Nat
  deriving DecidableEq

/-- An OAuth session, the one refresh tokens belong to. -/
structure Session where
  id : Nat
  userId : Nat
  (clientId satisfiedAcr : Option String := none)
  amr : List String := []
  createdAt : Int
  expiresAt : Int
  deriving DecidableEq

structure RefreshToken where
  id : Nat
  sessionId : Nat
  tokenHash : Sha256
  scope : Option String := none
  (revoked isOffline : Bool := false)
  clientId : Option String := none
  createdAt : Int := 0
  expiresAt : Int
  deriving DecidableEq

structure AuthorizationCode where
  (id code clientId userId : Nat)
  redirectUri : String
  (scope codeChallenge codeChallengeMethod nonce acrValues satisfiedAcr : Option String := none)
  amr : List String := []
  used : Bool := false
  expiresAt : Int
  deriving DecidableEq

structure DeviceCode where
  id : Nat
  deviceCode : Nat
  userCode : String
  clientId : Nat
  realmId : Nat
  scope : Option String := none
  userId : Option Nat := none
  (approved denied : Bool := false)
  interval : Int := 5
  lastPolledAt : Option Int := none
  expiresAt : Int
  deriving DecidableEq

/-- A browser session, the one step-up verification works on. -/
structure LoginSession where
  (id userId realmId : Nat)
  tokenHash : Sha256
  satisfiedAcr : Option String := none
  amr : List String := []
  createdAt : Int := 0
  expiresAt : Int
  deriving DecidableEq

structure RealmSigningKey where
  id : Nat
  realmId : Nat
  active : Bool := true
  createdAt : Int
  deriving DecidableEq

structure CustomAttribute where
  id : Nat
  realmId : Nat
  name : String
  displayName : String := ""
  type : String := "text"
  (required showOnRegistration : Bool := false)
  showOnProfile : Bool := true
  options : Option (List String) := none
  mapToOidcClaim : Option String := none
  sortOrder : Int := 0
  deriving DecidableEq

structure UserAttribute where
  userId : Nat
  attributeId : Nat
  value : String
  deriving DecidableEq

structure ClientScope where
  id : Nat
  realmId : Nat
  name : String
  deriving DecidableEq

structure ProtocolMapper where
  id : Nat
  clientScopeId : Nat
  mapperType : String
  config : List (String × Value)
  deriving DecidableEq

/-- A row of `client_default_scopes` or of `client_optional_scopes`. -/
structure ClientScopeLink where
  clientId : Nat
  clientScopeId : Nat
  deriving DecidableEq

/-- The parameters of an authorization request.  A parameter that has to be there is empty
when it is not. -/
structure Auth.AuthorizeParams where
  (response_type client_id redirect_uri : String)
  (scope state code_challenge code_challenge_method nonce acr_values : Option String := none)
  deriving DecidableEq

inductive PendingActionType where
  | mfaChallenge
  | mfaEnrollment
  | smsEnrollment
  | consentRequest
  deriving DecidableEq

inductive CredentialType where
  | totp
  | sms
  deriving DecidableEq

/-- The `data` columns are those of `MfaChallengeData` and of `MfaEnrollmentData`.  The rows
of consent requests are in a table of their own. -/
structure PendingAction where
  id : Nat
  tokenHash : Sha256
  type : PendingActionType
  userId : Nat
  realmId : Nat
  clientId : Option String := none
  oauthParams : Option Auth.AuthorizeParams := none
  primaryAmr : Option (List String) := none
  verified : Bool := false
  factor : Option CredentialType := none
  attempts : Nat := 0
  expiresAt : Int
  createdAt : Int
  deriving DecidableEq

/-- A pending action of type `consent_request`. -/
structure ConsentRequest where
  id : Nat
  tokenHash : Sha256
  userId : Nat
  clientId : Nat
  realmName : String
  scopes : List String
  oauthParams : Auth.AuthorizeParams
  satisfiedAcr : Option String := none
  amr : List String := []
  expiresAt : Int
  deriving DecidableEq

structure UserConsent where
  userId : Nat
  clientId : Nat
  scopes : List String
  deriving DecidableEq

structure WebAuthnCredential where
  credentialId : String
  userId : Nat
  realmId : Nat
  deriving DecidableEq

structure UserCredential where
  userId : Nat
  type : CredentialType
  secretKey : String := ""
  phoneNumber : Option String := none
  verified : Bool := false
  deriving DecidableEq

structure RecoveryCode where
  userId : Nat
  codeHash : String
  used : Bool := false
  deriving DecidableEq

structure UsedTotpCode where
  userId : Nat
  codeHash : String
  expiresAt : Int
  deriving DecidableEq

structure LoginFailure where
  realmId : Nat
  userId : Nat
  failedAt : Int
  deriving DecidableEq

structure TotpFailure where
  userId : Nat
  failedAt : Int
  deriving DecidableEq

structure WebAuthnFailure where
  realmId : Nat
  userId : Nat
  failedAt : Int
  deriving DecidableEq

inductive VerificationType where
  | email_verification
  | password_reset
  | change_password
  deriving DecidableEq

structure VerificationToken where
  id : Nat
  tokenHash : Sha256
  userId : Nat
  type : VerificationType
  expiresAt : Int
  deriving DecidableEq

structure PasswordHistory where
  (id userId realmId : Nat)
  passwordHash : String
  createdAt : Int
  deriving DecidableEq

structure UserFederation where
  id : Nat
  realmId : Nat
  enabled : Bool := true
  priority : Int := 0
  (connectionUrl bindDn bindCredential usersDn : String := "")
  userObjectClass : String := "inetOrgPerson"
  usernameLdapAttr : String := "uid"
  searchFilter : Option String := none
  importEnabled : Bool := true
  deriving DecidableEq

structure IdentityProvider where
  id : Nat
  realmId : Nat
  alias_ : String
  enabled : Bool := true
  clientId : String
  authorizationUrl : String
  defaultScopes : String := "openid email profile"
  tokenUrl : String := ""
  userinfoUrl : Option String := none
  (trustEmail linkOnly : Bool := false)
  syncUserProfile : Bool := true
  deriving DecidableEq

structure ImpersonationSession where
  (id realmId adminUserId targetUserId sessionId : Nat)
  active : Bool := true
  expiresAt : Int
  deriving DecidableEq

structure AdminRevokedToken where
  jti : Nat
  expiresAt : Int
  deriving DecidableEq

/-- `sessionId` has no foreign key: it may name a row of either session table. -/
structure StepUpRecord where
  id : Nat
  sessionId : Nat
  acrLevel : String
  completedAt : Int
  expiresAt : Int
  deriving DecidableEq

structure SessionRiskProfile where
  (sessionId realmId userId : Nat)
  clientId : Option String := none
  stepUpRequired : Bool := false
  stepUpReason : Option String := none
  stepUpExpiresAt : Option Int := none
  terminateSession : Bool := false
  deriving DecidableEq

inductive SmsOtpPurpose where
  | enroll
  | login
  | stepUp
  deriving DecidableEq

structure OtpAttempt where
  (id realmId userId : Nat)
  purpose : SmsOtpPurpose
  bindingHash : String
  phoneHash : String
  phoneEncrypted : Option String := none
  codeHash : String
  attempts : Nat := 0
  sendCount : Nat := 1
  lastSentAt : Int
  expiresAt : Int
  deriving DecidableEq

inductive DeliveryStatus where
  | pending
  | rejected
  | failed
  | sent
  deriving DecidableEq

structure SmsDeliveryLog where
  (id realmId userId : Nat)
  phoneHash : String
  ipHash : Option String := none
  status : DeliveryStatus := .pending
  createdAt : Int
  deriving DecidableEq

inductive MagicLinkStatus where
  | PENDING
  | COMPLETED
  | EXPIRED
  | CANCELLED
  deriving DecidableEq

structure MagicLinkRequest where
  (id realmId userId : Nat)
  email : String
  tokenHash : Sha256
  status : MagicLinkStatus := .PENDING
  expiresAt : Int
  completedAt : Option Int := none
  createdAt : Int
  deriving DecidableEq

/-- What the refresh grant did with a presented token. -/
inductive RefreshEvent where
  /-- The request revoked the token it presented, to replace it. -/
  | rotated (request : Nat) (token : RefreshToken)
  /-- The request created the successor of the token it presented. -/
  | succeeded (request : Nat) (token successor : RefreshToken)
  /-- The request presented a revoked token and had its session's tokens revoked. -/
  | replayed (request : Nat) (sessionId : Nat)
  deriving DecidableEq

/-- A request, authenticated as `client`, marked `code` as used at time `at_`. -/
structure CodeClaim where
  request : Nat
  client : Client
  code : AuthorizationCode
  at_ : Int
  deriving DecidableEq

/-- What a user decided about the device code with this identifier. -/
inductive DeviceEvent where
  | approved (id userId : Nat)
  | denied (id : Nat)
  deriving DecidableEq

/-- What a call did to the magic links of a user. -/
inductive MagicLinkEvent where
  /-- It cancelled those that were pending. -/
  | cancelled (request : Nat) (userId realmId : Nat)
  | created (request : Nat) (link : MagicLinkRequest)
  /-- It accepted the link at the time `at_`; at the time `checkedAt` it had checked the link as
  it had read it. -/
  | accepted (request : Nat) (link : MagicLinkRequest) (checkedAt at_ : Int)
  deriving DecidableEq

/-- What a request did to the row of an SMS challenge. -/
inductive SmsEvent where
  /-- It stored a code; `row` is the row as written. -/
  | stored (request : Nat) (row : OtpAttempt)
  /-- It handed the code of `row` to the provider. -/
  | sent (request : Nat) (row : OtpAttempt)
  /-- It reserved a guess at the time `at_`. -/
  | reserved (request : Nat) (rowId : Nat) (at_ : Int)
  /-- It guessed the code and deleted the row. -/
  | claimed (request : Nat) (rowId : Nat)
  deriving DecidableEq

/-- What happened to a challenge for a second factor. -/
inductive MfaEvent where
  | created (tokenHash : Sha256) (userId : Nat) (at_ : Int)
  /-- The request spent an attempt at the time `at_`. -/
  | spent (request : Nat) (tokenHash : Sha256) (at_ : Int)
  /-- Its answer was passed on to be checked, at the time `at_`. -/
  | checked (request : Nat) (tokenHash : Sha256) (userId : Nat) (at_ : Int)
  /-- It answered and deleted the challenge. -/
  | claimed (request : Nat) (tokenHash : Sha256)
  /-- It recorded a step-up. -/
  | steppedUp (request : Nat) (tokenHash : Sha256)
  deriving DecidableEq

/-- What a request did that counts against the limits of messages. -/
inductive SmsBudgetEvent where
  /-- It reserved the row `logId` of the delivery log. -/
  | reserved (request : Nat) (logId : Nat)
  /-- It handed a message to the provider at the time `at_`. -/
  | handed (request : Nat) (logId : Nat) (at_ : Int)
  deriving DecidableEq

/-- A user answered a verification of a level in a browser session. -/
structure StepUpAnswer where
  sessionId : Nat
  userId : Nat
  acrLevel : String
  at_ : Int
  deriving DecidableEq

/-- What happened on the way to a browser session. -/
inductive LoginEvent where
  /-- The user answered with a second factor or a passkey. -/
  | factorVerified (userId : Nat)
  | sessionStarted (session : LoginSession)
  deriving DecidableEq

structure Store where
  now : Int := 0
  supply : Nat := 0
  realms : List Realm := []
  users : List User := []
  clients : List Client := []
  roles : List Role := []
  userRoles : List UserRole := []
  groups : List Group := []
  userGroups : List UserGroup := []
  groupRoles : List GroupRole := []
  sessions : List Session := []
  refreshTokens : List RefreshToken := []
  authorizationCodes : List AuthorizationCode := []
  deviceCodes : List DeviceCode := []
  loginSessions : List LoginSession := []
  signingKeys : List RealmSigningKey := []
  customAttributes : List CustomAttribute := []
  userAttributes : List UserAttribute := []
  clientScopes : List ClientScope := []
  protocolMappers : List ProtocolMapper := []
  (clientDefaultScopes clientOptionalScopes : List ClientScopeLink := [])
  pendingActions : List PendingAction := []
  consentRequests : List ConsentRequest := []
  userConsents : List UserConsent := []
  webAuthnCredentials : List WebAuthnCredential := []
  userCredentials : List UserCredential := []
  recoveryCodes : List RecoveryCode := []
  usedTotpCodes : List UsedTotpCode := []
  loginFailures : List LoginFailure := []
  totpFailures : List TotpFailure := []
  webAuthnFailures : List WebAuthnFailure := []
  passwordHistories : List PasswordHistory := []
  verificationTokens : List VerificationToken := []
  userFederations : List UserFederation := []
  identityProviders : List IdentityProvider := []
  impersonationSessions : List ImpersonationSession := []
  adminRevokedTokens : List AdminRevokedToken := []
  stepUpRecords : List StepUpRecord := []
  riskProfiles : List SessionRiskProfile := []
  otpAttempts : List OtpAttempt := []
  smsDeliveryLogs : List SmsDeliveryLog := []
  magicLinkRequests : List MagicLinkRequest := []
  signed : List Jwt := []
  refreshLog : List RefreshEvent := []
  codeLog : List CodeClaim := []
  deviceLog : List DeviceEvent := []
  smsLog : List SmsEvent := []
  smsBudgetLog : List SmsBudgetEvent := []
  mfaLog : List MfaEvent := []
  stepUpLog : List StepUpAnswer := []
  loginLog : List LoginEvent := []
  magicLinkLog : List MagicLinkEvent := []

end Idenplane
