import Mathlib.Data.List.Sort
import Idenplane.Auth.Tokens
import Idenplane.Auth.Mfa

/-! # The token endpoint

`handleTokenRequest` of the auth service with its six grants.  Each grant is the
sequence of database calls its handler makes, one atomic step a call, with the
errors the handler throws in between.

A request carries a number of its own.  The program never reads it; it tags what
the request wrote into the histories.
-/

namespace Idenplane.Auth

open Atomic

/-- The form fields the grants read.  A secret the server handed out before is the
number it was drawn as. -/
structure Body where
  (grant_type client_id client_secret username password scope : Option String := none)
  (refresh_token code : Option Nat := none)
  (redirect_uri code_verifier : Option String := none)
  (device_code mfa_token : Option Nat := none)
  (mfa_method otp : Option String := none)
  deriving DecidableEq

def Body.clientId (body : Body) : String := body.client_id.getD ""

inductive GrantType where
  | password
  | client_credentials
  | refresh_token
  | authorization_code
  | mfa_otp
  | device_code
  deriving DecidableEq

def DEVICE_URN : String := "urn:ietf:params:oauth:grant-type:device_code"
def MFA_OTP_URN : String := "urn:ietf:params:oauth:grant-type:mfa-otp"

/-- The cases of the switch on `grant_type`. -/
def GrantType.ofText (text : String) : Option GrantType :=
  if text = "password" then some .password
  else if text = "client_credentials" then some .client_credentials
  else if text = "refresh_token" then some .refresh_token
  else if text = "authorization_code" then some .authorization_code
  else if text = "mfa_otp" then some .mfa_otp
  else if text = DEVICE_URN then some .device_code
  else none

def invalidGrant (description : String) : Failure := .oauth "invalid_grant" description 400

def findUser (realmId : Nat) (username : String) (s : Store) : Option User :=
  s.users.find? fun user => user.realmId = realmId && user.username = username

def findUserById (id : Nat) (s : Store) : Option User :=
  s.users.find? (·.id = id)

theorem findUserById_id {id : Nat} {u : User} {s : Store}
    (hit : findUserById id s = some u) : u.id = id := by
  simpa using find?_some hit

def findClient (realmId : Nat) (clientId : String) (s : Store) : Option Client :=
  s.clients.find? fun client => client.realmId = realmId && client.clientId = clientId

/-- The grant-type check of `validateClient`. -/
def Client.allows (client : Client) (grantType : String) : Bool :=
  if grantType = DEVICE_URN || grantType = "device_code" then
    client.grantTypes.contains DEVICE_URN || client.grantTypes.contains "device_code"
  else if grantType = MFA_OTP_URN || grantType = "mfa_otp" then
    client.grantTypes.contains MFA_OTP_URN || client.grantTypes.contains "password"
  else client.grantTypes.contains grantType

section Service

variable (deps : Deps)

def checkClientSecret (client : Client) (clientSecret : Option String) : Op Unit := do
  let secret ← orFail (given clientSecret) (.oauth "invalid_client" "client_secret is required" 401)
  let hash ← orFail (given client.clientSecret)
    (.oauth "invalid_client" "Client has no secret configured" 401)
  let valid ← orFail (deps.verifyPassword hash secret) .internal
  require valid (.oauth "invalid_client" "Invalid client credentials" 401)

def authenticateClient (client : Client) (clientSecret : Option String) : Op Unit :=
  match client.clientType with
  | .CONFIDENTIAL => checkClientSecret deps client clientSecret
  | .PUBLIC => pure ()

def validateClient (realm : Realm) (clientId clientSecret : Option String)
    (grantType : String) : Op Client := do
  let clientId ← orFail (given clientId) (.oauth "invalid_client" "client_id is required" 401)
  let found ← read (findClient realm.id clientId)
  let client ← orFail (found.filter (·.enabled)) (.oauth "invalid_client" "Invalid client" 401)
  require (Client.allows client grantType) (.oauth "unauthorized_client"
    ("Grant type '" ++ grantType ++ "' not allowed for this client") 400)
  authenticateClient deps client clientSecret
  pure client

theorem validateClient_reads (r : Realm) (cid sec : Option String)
    (grantType : String) : (validateClient deps r cid sec grantType).Keeps Eq := by
  refine .bind (.orFail _ _) fun _ => .bind (.read (fun _ => rfl) _) fun _ =>
    .bind (.orFail _ _) fun c => .bind (.require _ _) fun _ => .bind ?_ fun _ => trivial
  unfold authenticateClient
  cases c.clientType with
  | CONFIDENTIAL =>
    exact .bind (.orFail _ _) fun _ => .bind (.orFail _ _) fun _ =>
      .bind (.orFail _ _) fun _ => .require _ _
  | PUBLIC => trivial

structure Authenticated (realm : Realm) (clientId clientSecret : Option String)
    (grantType : String) (client : Client) : Prop where
  realm : client.realmId = realm.id
  clientId : given clientId = some client.clientId
  enabled : client.enabled = true
  allows : Client.allows client grantType = true
  secret : client.clientType = .CONFIDENTIAL → ∃ secret hash, given clientSecret = some secret ∧
    given client.clientSecret = some hash ∧ deps.verifyPassword hash secret = some true

theorem checkClientSecret_returns (c : Client) (sec : Option String) :
    (checkClientSecret deps c sec).Returns fun _ =>
      ∃ secret hash, given sec = some secret ∧ given c.clientSecret = some hash ∧
        deps.verifyPassword hash secret = some true := by
  refine .bind (.orFail _ _) fun secret isSecret => .bind (.orFail _ _) fun hash isHash =>
    .bind (.orFail _ _) fun valid isValid => ?_
  cases valid with
  | false => trivial
  | true => exact ⟨secret, hash, isSecret, isHash, isValid⟩

theorem findClient_spec {rid : Nat} {clientId : String} {s : Store} {c : Client}
    (hit : findClient rid clientId s = some c) :
    c.realmId = rid ∧ c.clientId = clientId := by
  have named := find?_some hit
  simpa using named

theorem validateClient_returns (r : Realm) (cid sec : Option String)
    (grantType : String) : (validateClient deps r cid sec grantType).Returns
      (Authenticated deps r cid sec grantType) := by
  refine .bind (.orFail _ _) fun id isGiven => ?_
  refine .bind (R := fun hit => ∃ s, hit = findClient r.id id s)
    (.read fun s => ⟨s, rfl⟩) fun hit ⟨s, isFound⟩ => ?_
  refine .bind (.orFail _ _) fun c ok => .bind (.require _ _) fun _ allowed => ?_
  rw [isFound] at ok
  obtain ⟨isClient, enabled⟩ := filter_eq_some_iff.mp ok
  obtain ⟨inRealm, rfl⟩ := findClient_spec isClient
  unfold authenticateClient
  cases kind : c.clientType with
  | CONFIDENTIAL =>
    refine .bind (checkClientSecret_returns deps c sec) fun _ checked => ?_
    exact ⟨inRealm, isGiven, enabled, allowed, fun _ => checked⟩
  | PUBLIC => exact ⟨inRealm, isGiven, enabled, allowed, fun no => by simp [kind] at no⟩

/-- `updateMany` on the refresh tokens of these sessions, offline ones apart. -/
def revokeOnlineTokens (ids : List Nat) (s : Store) : Store :=
  { s with refreshTokens := s.refreshTokens.map fun token =>
      if ids.contains token.sessionId && !token.isOffline then { token with revoked := true }
      else token }

/-- `session.deleteMany`; what belongs to a session goes with it. -/
def deleteSessions (ids : List Nat) (s : Store) : Store :=
  { s with
    sessions := s.sessions.filter (!ids.contains ·.id)
    refreshTokens := s.refreshTokens.filter (!ids.contains ·.sessionId)
    riskProfiles := s.riskProfiles.filter (!ids.contains ·.sessionId) }

def evictSessions (ids : List Nat) : Op Unit := do
  modify (revokeOnlineTokens ids)
  modify (deleteSessions ids)

def activeSessions (realm : Realm) (userId : Nat) (s : Store) : List Session :=
  (s.sessions.filter fun session => session.userId = userId &&
    s.users.any (fun user => user.id = userId && user.realmId = realm.id) &&
    s.now < session.expiresAt).insertionSort (·.createdAt ≤ ·.createdAt)

def enforceSessionLimit (realm : Realm) (userId : Nat) : Op Unit :=
  if realm.maxSessionsPerUser ≤ 0 then pure ()
  else do
    let active ← read (activeSessions realm userId)
    if realm.maxSessionsPerUser ≤ active.length then
      evictSessions ((active.take (active.length - realm.maxSessionsPerUser.toNat + 1)).map (·.id))
    else pure ()

/-- `session.create`, which throws when the user is gone. -/
def createSession (realm : Realm) (userId : Nat) (satisfiedAcr : Option String)
    (amr : List String) (s : Store) : Option Nat × Store :=
  if s.users.any (·.id = userId) then
    (some s.supply, { s with
      supply := s.supply + 1
      sessions :=
        { id := s.supply, userId := userId, satisfiedAcr := satisfiedAcr, amr := amr,
          createdAt := s.now, expiresAt := s.now + realm.refreshTokenLifespan * 1000 } ::
        s.sessions })
  else (none, s)

/-- How every interactive grant ends: make room for a session, create it with the
context to remember, and issue its first tokens. -/
def startSession (satisfiedAcr : Option String) (amr : List String) (issue : Issue) :
    Op TokenResponse := do
  enforceSessionLimit issue.realm issue.user.id
  let created ← atomic (createSession issue.realm issue.user.id satisfiedAcr amr)
  let sessionId ← orFail created .internal
  let authTime ← read Store.now
  issueTokens deps { issue with sessionId := sessionId, authTime := some authTime }

structure SessionWork (s s' : Store) : Prop where
  supply : s.supply ≤ s'.supply
  rest : { s' with
    supply := s.supply, sessions := s.sessions, refreshTokens := s.refreshTokens,
    riskProfiles := s.riskProfiles, refreshLog := s.refreshLog, signed := s.signed } = s

theorem SessionWork.refl (s : Store) : SessionWork s s := ⟨le_rfl, rfl⟩

theorem SessionWork.trans {a b c : Store} (ab : SessionWork a b) (bc : SessionWork b c) :
    SessionWork a c where
  supply := ab.supply.trans bc.supply
  rest := by
    rw [← bc.rest] at ab
    exact ab.rest

theorem enforceSessionLimit_works (r : Realm) (uid : Nat) :
    (enforceSessionLimit r uid).Keeps SessionWork := by
  unfold enforceSessionLimit
  split
  · trivial
  · refine .bind (.read .refl _) fun active => ?_
    split
    · exact .bind (.modify fun _ => ⟨le_rfl, rfl⟩) fun _ => .modify fun _ => ⟨le_rfl, rfl⟩
    · trivial

theorem createSession_works (r : Realm) (uid : Nat) (acr : Option String)
    (amr : List String) (s : Store) :
    SessionWork s (createSession r uid acr amr s).2 := by
  unfold createSession
  split
  · exact ⟨le_succ _, rfl⟩
  · exact .refl s

theorem createRefreshToken_works (issue : Issue) (s : Store) :
    SessionWork s (createRefreshToken issue s).2 := by
  unfold createRefreshToken
  split
  · exact ⟨le_add_right _ _, rfl⟩
  · exact .refl s

theorem signJwt_works (pl : Claims) (key : Nat) (o : Origin) (expiresIn : Int) :
    (signJwt pl key o expiresIn).Keeps SessionWork :=
  .atomic fun _ => ⟨le_succ _, rfl⟩

theorem issueTokens_works (issue : Issue) : (issueTokens deps issue).Keeps SessionWork := by
  refine .bind (.read .refl _) fun _ => .bind (.orFail _ _) fun key => .bind (.read .refl _) fun _ =>
    .bind (.orFail _ _) fun pl => .bind (signJwt_works _ _ _ _) fun tok =>
    .bind (.atomic (createRefreshToken_works issue)) fun _ => .bind (.orFail _ _) fun _ =>
    .bind ?_ fun _ => trivial
  unfold buildIdToken
  split
  · exact .bind (.read .refl _) fun _ => .bind (signJwt_works _ _ _ _) fun _ => trivial
  · trivial

theorem startSession_works (acr : Option String) (amr : List String) (issue : Issue) :
    (startSession deps acr amr issue).Keeps SessionWork :=
  .bind (enforceSessionLimit_works _ _) fun _ =>
    .bind (.atomic (createSession_works _ _ _ _)) fun _ => .bind (.orFail _ _) fun _ =>
      .bind (.read .refl _) fun _ => issueTokens_works deps _

/-- `user.create` for a user found in a directory; names and addresses are unique in
a realm. -/
def importUser (realmId : Nat) (federation : UserFederation) (e : LdapUser) (s : Store) :
    Option User × Store :=
  if s.users.any fun user => user.realmId = realmId &&
      (user.username = e.uid || (user.email.isSome && user.email = e.email)) then
    (none, s)
  else
    let user : User :=
      { id := s.supply, realmId := realmId, username := e.uid, email := e.email,
        firstName := e.firstName, lastName := e.lastName,
        emailVerified := truthy e.email, federationLink := some federation.id }
    (some user, { s with supply := s.supply + 1, users := user :: s.users })

def findOrImport (realmId : Nat) (username : String) (federation : UserFederation) :
    Option User → Op (Option User)
  | some user => pure (some user)
  | none =>
    if federation.importEnabled then
      match deps.ldapSearchUser federation username with
      | some e => do
        let created ← atomic (importUser realmId federation e)
        let user ← orFail created .internal
        pure (some user)
      | none => pure none
    else pure none

def tryFederations (realmId : Nat) (username password : String) :
    List UserFederation → Op (Option Nat)
  | [] => pure none
  | federation :: rest =>
    if deps.ldapAuthenticate federation username password then do
      let known ← read (findUser realmId username)
      let user ← findOrImport deps realmId username federation known
      match user with
      | some user => pure (some user.id)
      | none => tryFederations realmId username password rest
    else tryFederations realmId username password rest

/-- The user that a directory of the realm authenticated, if one did. -/
def authenticateViaFederation (realmId : Nat) (username password : String) : Op (Option Nat) := do
  let federations ← read fun s =>
    (s.userFederations.filter fun federation =>
      federation.realmId = realmId && federation.enabled).insertionSort (·.priority ≤ ·.priority)
  tryFederations deps realmId username password federations

/-- A user linked to a directory and without a password has to be accepted there. -/
def authenticateLinked (realm : Realm) (username password : String) : Option User → Op (Option User)
  | none => pure none
  | some user =>
    if user.enabled && !truthy user.passwordHash && user.federationLink.isSome then do
      let accepted ← authenticateViaFederation deps realm.id username password
      let id ← orFail accepted (invalidGrant "Invalid credentials")
      read (findUserById id)
    else pure (some user)

/-- Nobody knows this user yet, or only by name. -/
def unknownLocally : Option User → Bool
  | none => true
  | some user => !truthy user.passwordHash && user.federationLink.isNone

def authenticateUnknown (realm : Realm) (username password : String) (user : Option User) :
    Op (Option User) :=
  if unknownLocally user then do
    let accepted ← authenticateViaFederation deps realm.id username password
    match accepted with
    | some id => read (findUserById id)
    | none => pure user
  else pure user

/-- A user without a local password is here because a directory accepted it. -/
def passwordValid (user : User) (password : String) : Option Bool :=
  match given user.passwordHash with
  | some hash => deps.verifyPassword hash password
  | none => some user.federationLink.isSome

def refuseWrongPassword (realm : Realm) (user : User) (valid : Bool) : Op Unit :=
  if valid then pure ()
  else do
    recordFailure realm user.id
    Prog.fail (invalidGrant "Invalid credentials")

/-- A user with a second factor gets a challenge instead of tokens. -/
def demandSecondFactor (realm : Realm) (user : User) (clientId : Option String)
    (mfaRequired mfaEnabled : Bool) : Op Unit :=
  if mfaRequired && mfaEnabled then do
    let mfaToken ← createMfaChallenge user.id realm.id clientId
    let methods ← read (availableMfaMethods realm user.id)
    Prog.fail { error := "mfa_required"
                description := some "MFA verification is required to complete authentication"
                status := 401
                mfaToken := some mfaToken
                mfaMethods := methods }
  else if mfaRequired then
    Prog.fail (invalidGrant "MFA setup required. Please set up two-factor authentication.")
  else pure ()

def handlePasswordGrant (realm : Realm) (body : Body) : Op TokenResponse := do
  let _ ← validateClient deps realm body.client_id body.client_secret "password"
  require (truthy body.username && truthy body.password)
    (.oauth "invalid_request" "username and password are required" 400)
  let username := body.username.getD ""
  let password := body.password.getD ""
  let known ← read (findUser realm.id username)
  let linked ← authenticateLinked deps realm username password known
  let found ← authenticateUnknown deps realm username password linked
  let user ← orFail (found.filter (·.enabled)) (invalidGrant "Invalid credentials")
  let now ← read Store.now
  require (!isLocked realm user now)
    (invalidGrant "Account is temporarily locked. Please try again later.")
  let valid ← orFail (passwordValid deps user password) .internal
  refuseWrongPassword realm user valid
  resetFailures realm.id user.id
  let now ← read Store.now
  require (!isExpired user realm now)
    (invalidGrant "Password has expired. Please change your password.")
  let mfaRequired ← read (isMfaRequired realm user.id)
  let mfaEnabled ← read (isMfaEnabled · user.id)
  demandSecondFactor realm user body.client_id mfaRequired mfaEnabled
  startSession deps (some ACR_PASSWORD) ["pwd"]
    { realm := realm, user := user, clientId := body.clientId, sessionId := 0, scope := body.scope,
      acr := some ACR_PASSWORD, amr := ["pwd"] }

def badChallenge : Failure :=
  invalidGrant "Invalid or expired MFA token, or too many failed attempts"

def Body.secondFactor (body : Body) (realm : Realm) (token : Nat) (otp : String) :
    SecondFactorInput :=
  if body.mfa_method = some "sms" then .sms otp realm.id .login (toString token) else .otp otp

def handleMfaOtpGrant (req : Nat) (realm : Realm) (body : Body) : Op TokenResponse := do
  let _ ← validateClient deps realm body.client_id body.client_secret MFA_OTP_URN
  let token ← orFail body.mfa_token (.oauth "invalid_request" "mfa_token and otp are required" 400)
  let otp ← orFail (given body.otp) (.oauth "invalid_request" "mfa_token and otp are required" 400)
  let found ← validateMfaChallengeWithAttemptCheck req token
  let challenge ← orFail found badChallenge
  require (challenge.realmId = realm.id) badChallenge
  require (!truthy challenge.clientId || challenge.clientId = body.client_id) badChallenge
  let verified ← verifySecondFactor deps req token challenge.userId
    (body.secondFactor realm token otp)
  let factor ← orFail verified (invalidGrant "Invalid OTP code")
  let consumed ← consumeMfaChallenge req token
  require consumed badChallenge
  let known ← read (findUserById challenge.userId)
  let user ← orFail known (invalidGrant "User not found")
  startSession deps (some ACR_MFA) ["pwd", if factor = .sms then "sms" else "otp"]
    { realm := realm, user := user, clientId := body.clientId, sessionId := 0, scope := body.scope,
      acr := some ACR_MFA, amr := ["pwd", "otp"] }

def SERVICE_ACCOUNT_SESSION_LIMIT : Nat := 100

def oldSessions (userId : Nat) (s : Store) : List Nat :=
  (((s.sessions.filter (·.userId = userId)).insertionSort
    (fun a b => b.createdAt ≤ a.createdAt)).drop SERVICE_ACCOUNT_SESSION_LIMIT).map (·.id)

def capSessions (userId : Nat) : Op Unit := do
  let old ← read (oldSessions userId)
  if old.isEmpty then pure () else evictSessions old

def serviceAccountTokens (realm : Realm) (body : Body) (user : User) : Op TokenResponse := do
  let created ← atomic (createSession realm user.id none [])
  let sessionId ← orFail created .internal
  capSessions user.id
  let authTime ← read Store.now
  issueTokens deps
    { realm := realm, user := user, clientId := body.clientId, sessionId := sessionId,
      scope := body.scope, authTime := some authTime }

def clientToken (realm : Realm) (body : Body) (client : Client) : Op TokenResponse := do
  let signingKey ← read (getActiveSigningKey · realm.id)
  let key ← orFail signingKey .internal
  let accessToken ← signJwt (.literal
    [("iss", .str (deps.issuer realm)), ("sub", .id client.id), ("aud", .str body.clientId),
     ("scope", .str (body.scope.getD "openid")), ("typ", .str "Bearer"),
     ("azp", .str body.clientId)]) key.id (.clientToken client.id) realm.accessTokenLifespan
  pure { accessToken := accessToken
         expiresIn := realm.accessTokenLifespan
         scope := some (body.scope.getD "openid") }

def handleClientCredentialsGrant (realm : Realm) (body : Body) : Op TokenResponse := do
  let client ← validateClient deps realm body.client_id body.client_secret "client_credentials"
  let account ← read fun s => client.serviceAccountUserId.bind (findUserById · s)
  match account with
  | some user => serviceAccountTokens deps realm body user
  | none => clientToken deps realm body client

/-- A refresh token with the session and the user it belongs to.  They exist as long
as the token does: deletions cascade. -/
structure StoredToken where
  token : RefreshToken
  session : Session
  user : User
  deriving DecidableEq

def findRefreshToken (tokenHash : Sha256) (s : Store) : Option StoredToken := do
  let token ← s.refreshTokens.find? (·.tokenHash = tokenHash)
  let session ← s.sessions.find? (·.id = token.sessionId)
  let user ← s.users.find? (·.id = session.userId)
  some ⟨token, session, user⟩

/-- The answer to the replay of a revoked token: `updateMany` on its session. -/
def revokeFamily (req sessionId : Nat) (s : Store) : Store :=
  { s with
    refreshTokens := s.refreshTokens.map fun token =>
      if token.sessionId = sessionId then { token with revoked := true } else token
    refreshLog := .replayed req sessionId :: s.refreshLog }

def badRefreshToken : Failure := invalidGrant "Invalid or expired refresh token"

def acceptRefreshToken (req : Nat) (now : Int) : Option StoredToken → Op StoredToken
  | none => Prog.fail badRefreshToken
  | some stored =>
    if stored.token.revoked then do
      modify (revokeFamily req stored.token.sessionId)
      Prog.fail badRefreshToken
    else if stored.token.expiresAt < now then Prog.fail badRefreshToken
    else pure stored

/-- `refreshToken.update`, which throws when the row is gone. -/
def rotateToken (req : Nat) (token : RefreshToken) (s : Store) : Bool × Store :=
  if s.refreshTokens.any (·.id = token.id) then
    (true, { s with
      refreshTokens := s.refreshTokens.map fun row =>
        if row.id = token.id then { row with revoked := true } else row
      refreshLog := .rotated req token :: s.refreshLog })
  else (false, s)

/-- The tokens that replace a refresh token carry the context of its session. -/
def refreshIssue (req : Nat) (realm : Realm) (body : Body) (stored : StoredToken) : Issue where
  realm := realm
  user := stored.user
  clientId := body.clientId
  sessionId := stored.token.sessionId
  scope := (given body.scope).or (given stored.token.scope)
  acr := some (stored.session.satisfiedAcr.getD ACR_PASSWORD)
  amr := if stored.session.amr.isEmpty then ["pwd"] else stored.session.amr
  replaces := some (req, stored.token)

def handleRefreshTokenGrant (req : Nat) (realm : Realm) (body : Body) :
    Op TokenResponse := do
  let presented ← orFail body.refresh_token
    (.oauth "invalid_request" "refresh_token is required" 400)
  let _ ← validateClient deps realm body.client_id body.client_secret "refresh_token"
  let found ← read (findRefreshToken (sha256 presented))
  let now ← read Store.now
  let stored ← acceptRefreshToken req now found
  require (truthy stored.token.clientId)
    (invalidGrant "This refresh token predates client binding. Please log in again.")
  require (stored.token.clientId = body.client_id)
    (invalidGrant "Refresh token was not issued to this client")
  let rotated ← atomic (rotateToken req stored.token)
  require rotated .internal
  issueTokens deps (refreshIssue req realm body stored)

def claimable (code : Nat) (now : Int) (row : AuthorizationCode) : Bool :=
  row.code = code && !row.used && now < row.expiresAt

/-- The conditional update that marks the code as used, before any other check. -/
def claimCode (req : Nat) (client : Client) (code : Nat) (s : Store) :
    Option AuthorizationCode × Store :=
  match s.authorizationCodes.find? (claimable code s.now) with
  | some row =>
    (some { row with used := true }, { s with
      authorizationCodes := s.authorizationCodes.map fun row =>
        if claimable code s.now row then { row with used := true } else row
      codeLog := ⟨req, client, row, s.now⟩ :: s.codeLog })
  | none => (none, s)

def pkceChallenge (codeVerifier : String) : String :=
  String.ofList (Text.base64url (Text.ofHex (deps.sha256Text codeVerifier).toList))

def checkCodeVerifier (codeChallenge codeVerifier : Option String) : Op Unit :=
  match given codeChallenge with
  | none => pure ()
  | some challenge => do
    let verifier ← orFail (given codeVerifier)
      (.oauth "invalid_request" "code_verifier is required for PKCE" 400)
    require (pkceChallenge deps verifier = challenge) (invalidGrant "Invalid code_verifier")

def handleAuthorizationCodeGrant (req : Nat) (realm : Realm) (body : Body) :
    Op TokenResponse := do
  let code ← orFail body.code (.oauth "invalid_request" "code is required" 400)
  let client ← validateClient deps realm body.client_id body.client_secret "authorization_code"
  let claimed ← atomic (claimCode req client code)
  let authCode ← orFail claimed (invalidGrant "Invalid or expired authorization code")
  require (authCode.clientId = client.id) (invalidGrant "Invalid or expired authorization code")
  require (some authCode.redirectUri = body.redirect_uri) (invalidGrant "redirect_uri mismatch")
  require (client.clientType != .PUBLIC || truthy authCode.codeChallenge)
    (.oauth "invalid_request" "PKCE (code_challenge) is required for public clients" 400)
  checkCodeVerifier deps authCode.codeChallenge body.code_verifier
  let known ← read (findUserById authCode.userId)
  let user ← orFail known (invalidGrant "User not found")
  let now ← read Store.now
  require (!isLocked realm user now)
    (invalidGrant "Account is temporarily locked. Please try again later.")
  let acr := authCode.satisfiedAcr.getD ACR_PASSWORD
  let amr := if authCode.amr.isEmpty then ["pwd"] else authCode.amr
  startSession deps (some acr) amr
    { realm := realm, user := user, clientId := body.clientId, sessionId := 0,
      scope := authCode.scope, nonce := authCode.nonce, acr := some acr, amr := amr,
      code := some authCode.code }

def deviceError (error : String) : Failure := { error := error }

/-- `deviceCode.update`, which throws when the row is gone. -/
def deviceUpdated (id : Nat) (change : Int → DeviceCode → DeviceCode) (s : Store) : Bool × Store :=
  (s.deviceCodes.any (·.id = id), { s with
    deviceCodes := s.deviceCodes.map fun row =>
      if row.id = id then change s.now row else row })

def polledAt (now : Int) (row : DeviceCode) : DeviceCode := { row with lastPolledAt := some now }

def tooEarly (device : DeviceCode) (now : Int) : Bool :=
  match device.lastPolledAt with
  | some polled => now - polled < device.interval * 1000
  | none => false

def refuseEarlyPoll (device : DeviceCode) (early : Bool) : Op Unit :=
  if early then do
    let found ← atomic (deviceUpdated device.id fun now row =>
      { polledAt now row with interval := device.interval + 5 })
    require found .internal
    Prog.fail (deviceError "slow_down")
  else pure ()

/-- `deviceCode.delete`, which throws when the row is gone. -/
def deviceDeleted (id : Nat) (s : Store) : Bool × Store :=
  (s.deviceCodes.any (·.id = id), { s with deviceCodes := s.deviceCodes.filter (·.id ≠ id) })

def handleDeviceCodeGrant (realm : Realm) (body : Body) : Op TokenResponse := do
  let presented ← orFail body.device_code (.oauth "invalid_request" "device_code is required" 400)
  let _ ← validateClient deps realm body.client_id body.client_secret DEVICE_URN
  let found ← read fun s => s.deviceCodes.find? (·.deviceCode = presented)
  let device ← orFail (found.filter (·.realmId = realm.id)) (deviceError "authorization_pending")
  let now ← read Store.now
  require (!(device.expiresAt < now)) (deviceError "expired_token")
  require (!device.denied) (deviceError "access_denied")
  require device.approved (deviceError "authorization_pending")
  let userId ← orFail device.userId (deviceError "authorization_pending")
  let now ← read Store.now
  refuseEarlyPoll device (tooEarly device now)
  let polled ← atomic (deviceUpdated device.id polledAt)
  require polled .internal
  let known ← read (findUserById userId)
  let user ← orFail known (invalidGrant "User not found")
  let mfaEnabled ← read (isMfaEnabled · user.id)
  require (!mfaEnabled) (invalidGrant ("MFA verification required. Device code grant does " ++
    "not support MFA. Use authorization_code grant instead."))
  let mfaRequired ← read (isMfaRequired realm user.id)
  require (!mfaRequired) (invalidGrant
    "MFA setup required. Use authorization_code grant to complete MFA setup.")
  let deleted ← atomic (deviceDeleted device.id)
  require deleted .internal
  startSession deps none []
    { realm := realm, user := user, clientId := body.clientId, sessionId := 0,
      scope := device.scope }

def handleGrant (req : Nat) (realm : Realm) (body : Body) : GrantType → Op TokenResponse
  | .password => handlePasswordGrant deps realm body
  | .client_credentials => handleClientCredentialsGrant deps realm body
  | .refresh_token => handleRefreshTokenGrant deps req realm body
  | .authorization_code => handleAuthorizationCodeGrant deps req realm body
  | .mfa_otp => handleMfaOtpGrant deps req realm body
  | .device_code => handleDeviceCodeGrant deps realm body

def handleTokenRequest (req : Nat) (realm : Realm) (body : Body) : Op TokenResponse := do
  let text ← orFail (given body.grant_type) (.oauth "invalid_request" "grant_type is required" 400)
  let grant ← orFail (GrantType.ofText text)
    (.oauth "unsupported_grant_type" ("Unsupported grant_type: " ++ text) 400)
  handleGrant deps req realm body grant

end Service

end Idenplane.Auth
