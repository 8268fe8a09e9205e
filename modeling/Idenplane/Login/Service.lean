import Idenplane.Lib.Table
import Idenplane.StepUp.Controller

/-! # Signing in

`LoginService`, `ConsentService` and the enrolments of `MfaService`: a password is checked, a
browser session is started, a consent is asked for and remembered, a second factor is set up
on the way.
-/

namespace Idenplane.Login

open Atomic Auth Admin StepUp List Store

section Credentials

structure Externals where
  /-- `verifyMigratedPassword`, for a user whose hash was imported and is not Argon2. -/
  verifyMigratedPassword : User → String → Bool

variable (deps : Deps) (externals : Externals)

def invalidCredentials : Failure := unauthorized "Invalid credentials"

def refuseLocked (realm : Realm) (user : User) : Op Unit := do
  let now ← read now
  require (!isLocked realm user now)
    (unauthorized "Account is temporarily locked. Please try again later.")

def recordWrongPassword (realm : Realm) (user : User) : Op User := do
  recordFailure realm user.id
  Prog.fail invalidCredentials

/-- A user who is linked to a directory has to be accepted there. -/
def validateLinked (realm : Realm) (user : User) (username password : String) : Op User := do
  require user.enabled invalidCredentials
  refuseLocked realm user
  let accepted ← authenticateViaFederation deps realm.id username password
  if accepted.isSome then
    resetFailures realm.id user.id
    pure user
  else recordWrongPassword realm user

def rehashToArgon2 (userId : Nat) (password : String) : Op Unit := do
  let found ← atomic (userUpdated userId fun user =>
    { user with passwordHash := some (deps.hashPassword password) })
  require found .internal

/-- A hash that is not Argon2's is tried as the imported one, and replaced. -/
def verifyOrMigrate (user : User) (hash password : String) : Op Bool := do
  let valid ← orFail (deps.verifyPassword hash password) .internal
  if valid then pure true
  else if externals.verifyMigratedPassword user password then
    rehashToArgon2 deps user.id password
    pure true
  else pure false

def validateLocal (realm : Realm) (user : User) (hash password : String) : Op User := do
  refuseLocked realm user
  let valid ← verifyOrMigrate deps externals user hash password
  if valid then
    resetFailures realm.id user.id
    pure user
  else recordWrongPassword realm user

def validateUnknown (realm : Realm) (username password : String) : Op User := do
  let accepted ← authenticateViaFederation deps realm.id username password
  let id ← orFail accepted invalidCredentials
  let imported ← read (findUserById id)
  orFail imported invalidCredentials

def validateCredentials (realm : Realm) (username password : String) : Op User := do
  let found ← read (findUser realm.id username)
  match found with
  | none => validateUnknown deps realm username password
  | some user =>
    if user.federationLink.isSome then validateLinked deps realm user username password
    else
      match if user.enabled then given user.passwordHash else none with
      | some hash => validateLocal deps externals realm user hash password
      | none => Prog.fail invalidCredentials

end Credentials

def deleteLoginSession (token : Nat) (s : Store) : Store :=
  { s with loginSessions := s.loginSessions.filter (·.tokenHash ≠ sha256 token) }

def activeLoginSessions (realm : Realm) (userId : Nat) (s : Store) : List LoginSession :=
  (s.loginSessions.filter fun session => session.userId = userId &&
    session.realmId = realm.id && s.now < session.expiresAt).insertionSort
      (·.createdAt ≤ ·.createdAt)

def deleteLoginSessions (ids : List Nat) (s : Store) : Store :=
  { s with loginSessions := s.loginSessions.filter (!ids.contains ·.id) }

def evictLoginSessions (realm : Realm) (userId : Nat) : Op Unit :=
  if realm.maxSessionsPerUser ≤ 0 then pure ()
  else do
    let active ← read (activeLoginSessions realm userId)
    if realm.maxSessionsPerUser ≤ active.length then
      modify (deleteLoginSessions
        ((active.take (active.length - realm.maxSessionsPerUser.toNat + 1)).map (·.id)))
    else pure ()

/-- The row of a new session; the token is the number `s.supply`. -/
def loginSessionRow (realm : Realm) (user : User) (ctx : SatisfiedAuthContext) (s : Store) :
    LoginSession where
  id := s.supply + 1
  userId := user.id
  realmId := realm.id
  tokenHash := sha256 s.supply
  satisfiedAcr := ctx.acr
  amr := ctx.amr
  createdAt := s.now
  expiresAt := s.now + realm.refreshTokenLifespan * 1000

/-- `loginSession.create`, which throws when the user is gone. -/
def insertLoginSession (realm : Realm) (user : User) (ctx : SatisfiedAuthContext)
    (s : Store) : Option Nat × Store :=
  if s.users.any (·.id = user.id) then
    let session := loginSessionRow realm user ctx s
    (some s.supply, { s with
      supply := s.supply + 2
      loginSessions := session :: s.loginSessions
      loginLog := .sessionStarted session :: s.loginLog })
  else (none, s)

def deleteExistingSession : Option Nat → Op Unit
  | some token => modify (deleteLoginSession token)
  | none => pure ()

def createLoginSession (realm : Realm) (user : User) (existingSessionToken : Option Nat)
    (ctx : SatisfiedAuthContext) : Op Nat := do
  deleteExistingSession existingSessionToken
  evictLoginSessions realm user.id
  let created ← atomic (insertLoginSession realm user ctx)
  orFail created .internal

def findConsent (userId clientId : Nat) (s : Store) : Option UserConsent :=
  s.userConsents.find? fun consent => consent.userId = userId && consent.clientId = clientId

def hasConsent (userId clientId : Nat) (requestedScopes : List String) (s : Store) : Bool :=
  match findConsent userId clientId s with
  | none => false
  | some consent => requestedScopes.all (consent.scopes.contains ·)

/-- What a consent request remembers; its token is the number `s.supply`. -/
def insertConsentRequest (req : ConsentRequest) (s : Store) : Nat × Store :=
  (s.supply, { s with
    supply := s.supply + 2
    consentRequests :=
      { req with
        id := s.supply + 1, tokenHash := sha256 s.supply,
        expiresAt := s.now + 10 * 60 * 1000 } :: s.consentRequests })

def storeConsentRequest (req : ConsentRequest) : Op Nat :=
  atomic (insertConsentRequest req)

def findConsentRequest (tokenHash : Sha256) (s : Store) : Option ConsentRequest :=
  s.consentRequests.find? (·.tokenHash = tokenHash)

/-- `pendingAction.delete`, which throws when the row is gone. -/
def consentRequestDeleted (id : Nat) (s : Store) : Bool × Store :=
  (s.consentRequests.any (·.id = id),
    { s with consentRequests := s.consentRequests.filter (·.id ≠ id) })

/-- The request is deleted whether it has expired or not. -/
def getConsentRequest (token : Nat) : Op (Option ConsentRequest) := do
  let found ← read (findConsentRequest (sha256 token))
  match found with
  | none => pure none
  | some req =>
    let now ← read now
    let deleted ← atomic (consentRequestDeleted req.id)
    require deleted .internal
    pure (if req.expiresAt < now then none else some req)

/-- The upsert of `grantConsent`, which throws when the user or the client is gone. -/
def consentGranted (userId clientId : Nat) (scopes : List String) (s : Store) : Bool × Store :=
  if s.users.any (·.id = userId) && s.clients.any (·.id = clientId) then
    (true, { s with
      userConsents :=
        { userId := userId, clientId := clientId, scopes := scopes } ::
          s.userConsents.filter fun consent =>
            !(consent.userId = userId && consent.clientId = clientId) })
  else (false, s)

def grantConsent (userId clientId : Nat) (scopes : List String) : Op Unit := do
  let granted ← atomic (consentGranted userId clientId scopes)
  require granted .internal

def MFA_ENROLLMENT_TTL_SECONDS : Int := 15 * 60

def createMfaEnrollment (userId realmId : Nat) (oauthParams : AuthorizeParams)
    (primaryAmr : List String) : Op Nat :=
  atomic fun s =>
    (s.supply, { s with
      supply := s.supply + 2
      pendingActions :=
        { id := s.supply + 1, tokenHash := sha256 s.supply, type := .mfaEnrollment,
          userId := userId, realmId := realmId, oauthParams := some oauthParams,
          primaryAmr := some primaryAmr,
          expiresAt := s.now + MFA_ENROLLMENT_TTL_SECONDS * 1000, createdAt := s.now } ::
        s.pendingActions })

def findPendingAction (tokenHash : Sha256) (s : Store) : Option PendingAction :=
  s.pendingActions.find? (·.tokenHash = tokenHash)

def getMfaEnrollment (token : Nat) : Op (Option PendingAction) := do
  let found ← read (findPendingAction (sha256 token))
  let now ← read now
  pure (found.filter fun action => action.type = .mfaEnrollment && !(action.expiresAt < now))

/-- The row as `markMfaEnrollmentVerified` rewrites it. -/
def enrolled (factor : CredentialType) (action : PendingAction) : PendingAction :=
  { action with verified := true, factor := some factor }

/-- `pendingAction.update`, which throws when the row is gone. -/
def enrollmentUpdated (id : Nat) (factor : CredentialType) (s : Store) : Bool × Store :=
  (s.pendingActions.any (·.id = id), { s with
    pendingActions := s.pendingActions.map fun action =>
      if action.id = id then enrolled factor action else action })

def markMfaEnrollmentVerified (token : Nat) (factor : CredentialType) : Op Unit := do
  let found ← read (findPendingAction (sha256 token))
  match found.filter (·.type = .mfaEnrollment) with
  | none => pure ()
  | some action =>
    let updated ← atomic (enrollmentUpdated action.id factor)
    require updated .internal

/-- The row with the token is deleted, whatever it is of. -/
def takePendingAction (tokenHash : Sha256) (s : Store) : Option PendingAction × Store :=
  (findPendingAction tokenHash s, { s with
    pendingActions := s.pendingActions.filter (·.tokenHash ≠ tokenHash)
    consentRequests := s.consentRequests.filter (·.tokenHash ≠ tokenHash) })

def consumeVerifiedMfaEnrollment (token : Nat) : Op (Option PendingAction) := do
  let taken ← atomic (takePendingAction (sha256 token))
  let now ← read now
  pure (taken.filter fun action =>
    action.type = .mfaEnrollment && !(action.expiresAt < now) && action.verified)

section Limits

open Prog

variable (r : Realm) (uid : Nat) {s : Store}

/-- The realm's limit, before a session is created: of the live sessions of the user, oldest first,
the last ones stay, one less than the limit.  No other session goes, and no refresh token of a
session that went is left.  The same holds of the sessions of browsers. -/
theorem session_limits_evict_oldest (limited : 0 < r.maxSessionsPerUser)
    (ids : (s.sessions.map (·.id)).Nodup) (loginIds : (s.loginSessions.map (·.id)).Nodup) :
    (∃ t n, (enforceSessionLimit r uid).run s = (.ok (), t) ∧
      n = (activeSessions r uid s).length + 1 - r.maxSessionsPerUser.toNat ∧
      (activeSessions r uid t).Perm ((activeSessions r uid s).drop n) ∧
      ∀ row ∈ s.sessions, row ∉ t.sessions → row ∈ (activeSessions r uid s).take n ∧
        ∀ tok ∈ t.refreshTokens, tok.sessionId ≠ row.id) ∧
    ∃ t n, (evictLoginSessions r uid).run s = (.ok (), t) ∧
      n = (activeLoginSessions r uid s).length + 1 - r.maxSessionsPerUser.toNat ∧
      (activeLoginSessions r uid t).Perm ((activeLoginSessions r uid s).drop n) ∧
      ∀ row ∈ s.loginSessions, row ∉ t.loginSessions → row ∈ (activeLoginSessions r uid s).take n := by
  constructor
  · have listed : (activeSessions r uid s).Perm _ := perm_insertionSort ..
    unfold enforceSessionLimit
    rw [if_neg (by omega), run_read_bind]
    split
    · next crowded =>
      obtain ⟨stay, go⟩ := Table.evict ids listed
        ((activeSessions r uid s).length - r.maxSessionsPerUser.toNat + 1) rfl
      refine ⟨_, _, rfl, by omega, (perm_insertionSort ..).trans stay, ?_⟩
      intro row isRow gone
      refine ⟨go row isRow gone, fun tok isTok same => gone ?_⟩
      have kept := (mem_filter.mp isTok).2
      rw [same] at kept
      exact mem_filter.mpr ⟨isRow, kept⟩
    · next roomy =>
      exact ⟨s, 0, rfl, by omega, .rfl, fun row isRow gone => absurd isRow gone⟩
  · have listed : (activeLoginSessions r uid s).Perm _ := perm_insertionSort ..
    unfold evictLoginSessions
    rw [if_neg (by omega), run_read_bind]
    split
    · next crowded =>
      obtain ⟨stay, go⟩ := Table.evict loginIds listed
        ((activeLoginSessions r uid s).length - r.maxSessionsPerUser.toNat + 1) rfl
      exact ⟨_, _, rfl, by omega, (perm_insertionSort ..).trans stay, go⟩
    · next roomy =>
      exact ⟨s, 0, rfl, by omega, .rfl, fun row isRow gone => absurd isRow gone⟩

def two : Realm := { id := 3, name := "acme", maxSessionsPerUser := 2 }

/-- A session that is over, two that are not, and a refresh token of each of these. -/
def crowded : Store where
  now := 5
  sessions := [{ id := 2, userId := 7, createdAt := 2, expiresAt := 9 },
    { id := 1, userId := 7, createdAt := 1, expiresAt := 9 },
    { id := 4, userId := 7, createdAt := 0, expiresAt := 4 }]
  refreshTokens := [{ id := 5, sessionId := 1, tokenHash := sha256 10, expiresAt := 9 },
    { id := 6, sessionId := 2, tokenHash := sha256 11, expiresAt := 9 }]
  loginSessions := [{ id := 8, userId := 7, realmId := 3, tokenHash := sha256 12, expiresAt := 9 },
    { id := 9, userId := 7, realmId := 3, tokenHash := sha256 13, createdAt := 3, expiresAt := 9 }]
  users := [{ id := 7, realmId := 3, username := "ada" }]

theorem first_sessions_go : (∃ t, (enforceSessionLimit two 7).run crowded = (.ok (), t) ∧
      (activeSessions two 7 t).map (·.id) = [2] ∧ (∀ tok ∈ t.refreshTokens, tok.sessionId ≠ 1) ∧
      ∃ ended ∈ t.sessions, ended.id = 4) ∧
    ∃ t, (evictLoginSessions two 7).run crowded = (.ok (), t) ∧
      (activeLoginSessions two 7 t).map (·.id) = [9] := by
  obtain ⟨⟨t, n, ran, rfl, stay, gone⟩, u, m, evicted, rfl, others, -⟩ :=
    session_limits_evict_oldest two 7 (s := crowded) (by decide) (by decide) (by decide)
  have isAfter : t = ((enforceSessionLimit two 7).run crowded).2 := by rw [ran]
  refine ⟨⟨t, ran, ?_, ?_, ?_⟩, u, evicted, perm_singleton.mp (others.map (·.id))⟩
  · exact perm_singleton.mp (stay.map (·.id))
  · have firstGone : { id := 1, userId := 7, createdAt := 1, expiresAt := 9 } ∉ t.sessions := by
      rw [isAfter]
      decide +kernel
    exact (gone _ (by decide) firstGone).2
  · by_contra lost
    have taken := (gone { id := 4, userId := 7, createdAt := 0, expiresAt := 4 } (by decide)
      fun kept => lost ⟨_, kept, rfl⟩).1
    exact absurd taken (by decide +kernel)

end Limits

end Idenplane.Login
