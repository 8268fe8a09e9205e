import Idenplane.Login.Flow
import Idenplane.Lib.Sequential

/-! # What a visit writes

A visit is one request to a page of the sign-in, in some realm and with some cookies.  Each
handler is a chain of writes of a few kinds: a session, a pending action, a consent request, a
consent, a code, and what the rest of the server may do at any time.  A write says on what
grounds it was made, so that a rule about codes or sessions is proved from the writes alone.
-/

namespace Idenplane.Login

open Atomic Auth Admin StepUp

inductive Action where
  | authorize (query : AuthorizeQuery)
  | login (body : LoginBody)
  | totp (body : TotpBody)
  | showTotpSetup (secretKey : String)
  | totpSetup (csrf : Bool) (code : Option String) (codes : List String)
  | smsSetup (csrf : Bool) (code : Option String) (codes : List String)
  | continueEnrollment (csrf : Bool)
  | showConsent (reqId : Option Nat)
  | consent (csrf : Bool) (reqId : Option Nat) (deny : Bool)
  | broker (userId : Nat) (oauthParams : AuthorizeParams)
  | passkey (credentialId : String) (verified : Bool) (params : AuthorizeParams)
  | stepUpChallenge (requiredAcr : Option String)
  /-- `passkeyUser` is the user whose passkey signed the assertion, if one did. -/
  | stepUp (body : VerifyBody) (passkeyUser : Option Nat)

structure Visit where
  request : Nat
  realmName : String
  cookies : Cookies
  action : Action

/-- `GET account/totp-setup`. -/
def showTotpSetup (realm : Realm) (secretKey : String) (cookies : Cookies) : Op Answer := do
  let setupUser ← getTotpSetupUser realm cookies
  match setupUser with
  | none => pure { page := .login none }
  | some (user, _) =>
    setupTotp user.id secretKey
    pure { page := .totpSetup none }

/-- `GET step-up/challenge`. -/
def stepUpChallenge (realm : Realm) (requiredAcr : Option String) (cookies : Cookies) :
    Op Answer := do
  let acr ← orFail (given requiredAcr) (badRequest "acr and client_id are required")
  let token ← orFail cookies.session (badRequest "acr and client_id are required")
  let known ← validateLoginSession realm token
  let user ← orFail known (unauthorized "Invalid or expired session")
  let found ← read fun s => s.loginSessions.find? (·.tokenHash = sha256 token)
  let session ← orFail found (unauthorized "Session not found")
  let satisfied ← read (isStepUpCached session.id acr)
  if satisfied then pure { page := .stepUp acr }
  else if acr = ACR_MFA then
    let enabled ← read (isMfaEnabled · user.id)
    require enabled (badRequest "MFA is not set up for this account. Please enroll in MFA first.")
    let challenge ← createMfaChallenge user.id realm.id none
    pure { page := .stepUp acr, challenge := some challenge }
  else pure { page := .stepUp acr }

section Serve

variable (deps : Deps) (externals : Externals)

def verifiers (passkeyUser : Option Nat) : Verifiers where
  validateCredentials realm username password := do
    let user ← validateCredentials deps externals realm username password
    pure user.id
  verifyAuthentication _ _ := orFail passkeyUser .internal

/-- `POST step-up/verify`. -/
def stepUp (request : Nat) (realm : Realm) (body : VerifyBody) (passkeyUser : Option Nat)
    (cookies : Cookies) : Op Answer := do
  let answer ← StepUp.verify deps (verifiers deps externals passkeyUser) request realm
    cookies.session body
  pure { page := .stepUp answer.acr }

def Visit.handler (visit : Visit) (realm : Realm) : Op Answer :=
  match visit.action with
  | .authorize query => authorizeInternal deps realm query visit.cookies
  | .login body => handleLogin deps externals realm body visit.cookies
  | .totp body => handleTotp deps visit.request realm body visit.cookies
  | .showTotpSetup secretKey => showTotpSetup realm secretKey visit.cookies
  | .totpSetup csrf code codes => handleTotpSetup deps realm csrf code codes visit.cookies
  | .smsSetup csrf code codes =>
    verifySmsSetupCode deps visit.request realm csrf code codes visit.cookies
  | .continueEnrollment csrf => continueAfterMfaEnrollment deps realm csrf visit.cookies
  | .showConsent reqId => showConsentForm reqId
  | .consent csrf reqId deny => handleConsent deps realm csrf reqId deny
  | .broker userId oauthParams => brokerCallback deps realm userId oauthParams visit.cookies
  | .passkey credentialId verified params =>
    completeAuthentication deps realm credentialId verified params visit.cookies
  | .stepUpChallenge requiredAcr => stepUpChallenge realm requiredAcr visit.cookies
  | .stepUp body passkeyUser => stepUp deps externals visit.request realm body passkeyUser visit.cookies

/-- The realm of the address, as `RealmGuard` finds it. -/
def findRealm (name : String) (s : Store) : Option Realm :=
  (s.realms.find? (·.name = name)).filter (·.enabled)

def Visit.serve (visit : Visit) (s : Store) : Store :=
  match findRealm visit.realmName s with
  | none => s
  | some realm => ((visit.handler deps externals realm).run s).2

end Serve

variable {chg : User → User}

section Owners

def userRealm (s : Store) (userId : Nat) : Option Nat := (findUserById userId s).map (·.realmId)

def Consented (s : Store) (userId clientId : Nat) : Prop :=
  ∃ consent ∈ s.userConsents, consent.userId = userId ∧ consent.clientId = clientId

def pausesSignIn (action : PendingAction) : Prop :=
  action.type = .mfaChallenge ∨ action.type = .mfaEnrollment

def key (action : PendingAction) : Nat × Sha256 := (action.id, action.tokenHash)

structure Keyed (s : Store) : Prop where
  userIds : (s.users.map (·.id)).Nodup
  users : ∀ user ∈ s.users, user.id < s.supply
  actions : (s.pendingActions.map (·.id)).Nodup
  actionIds : ∀ action ∈ s.pendingActions, action.id < s.supply
  tokens : (s.pendingActions.map (·.tokenHash)).Nodup
  drawn : ∀ action ∈ s.pendingActions, ∃ token < s.supply, action.tokenHash = sha256 token

namespace Keyed

variable {s s' : Store}

section

variable (keyed : Keyed s)

include keyed

theorem of_rows (supply : s.supply ≤ s'.supply)
    (unique : (s'.users.map (·.id)).Nodup) (ids : ∀ u ∈ s'.users, u.id < s'.supply)
    (keys : (s'.pendingActions.map key).Sublist (s.pendingActions.map key)) : Keyed s' := by
  have old : ∀ action ∈ s'.pendingActions, ∃ old ∈ s.pendingActions, key old = key action :=
    fun action mem => mem_map.mp (keys.subset (mem_map_of_mem mem))
  have first := keys.map Prod.fst
  have second := keys.map Prod.snd
  simp only [map_map] at first second
  constructor
  · exact unique
  · exact ids
  · exact keyed.actions.sublist first
  · intro action mem
    obtain ⟨row, isRow, same⟩ := old action mem
    rw [← show row.id = action.id from congrArg Prod.fst same]
    exact (keyed.actionIds row isRow).trans_le supply
  · exact keyed.tokens.sublist second
  · intro action mem
    obtain ⟨row, isRow, same⟩ := old action mem
    obtain ⟨tok, below, isToken⟩ := keyed.drawn row isRow
    exact ⟨tok, below.trans_le supply, (congrArg Prod.snd same).symm.trans isToken⟩

theorem grown (supply : s.supply ≤ s'.supply)
    (us : s'.users = s.users) (actions : s'.pendingActions = s.pendingActions) : Keyed s' := by
  refine keyed.of_rows supply (us ▸ keyed.userIds) ?_ (actions ▸ List.Sublist.refl _)
  exact us ▸ fun u mem => (keyed.users u mem).trans_le supply

/-- A token stands for one pending action. -/
theorem same_token {a b : PendingAction} (isA : a ∈ s.pendingActions)
    (isB : b ∈ s.pendingActions) (same : a.tokenHash = b.tokenHash) : a = b :=
  inj_on_of_nodup_map keyed.tokens isA isB same

theorem same_id {a b : PendingAction} (isA : a ∈ s.pendingActions)
    (isB : b ∈ s.pendingActions) (same : a.id = b.id) : a = b :=
  inj_on_of_nodup_map keyed.actions isA isB same

theorem userKeys : UserKeys s :=
  ⟨fun _ isA _ isB same => inj_on_of_nodup_map keyed.userIds isA isB same, keyed.users⟩

theorem userRealm {u : User} (known : u ∈ s.users) : Login.userRealm s u.id = some u.realmId := by
  rw [Login.userRealm, findUserById, Table.find?_of_mem keyed.userIds known]
  rfl

end

end Keyed

/-- A consent request names a client of the realm that its user belongs to. -/
def RequestOwned (s : Store) (request : ConsentRequest) : Prop :=
  ∃ realmId client, userRealm s request.userId = some realmId ∧
    findClient realmId request.oauthParams.client_id s = some client ∧ client.id = request.clientId

/-- The history shows the start of the session and, if it is one of a second factor, that the
factor had been verified before. -/
def Established (session : LoginSession) (log : List LoginEvent) : Prop :=
  ∃ earlier, .sessionStarted session :: earlier <:+ log ∧
    (acrStrength (some ACR_MFA) ≤ acrStrength session.satisfiedAcr →
      .factorVerified session.userId ∈ earlier)

theorem Established.mono {sess : LoginSession} {log log' : List LoginEvent}
    (established : Established sess log) (grown : log <:+ log') : Established sess log' := by
  obtain ⟨earlier, begun, answered⟩ := established
  exact ⟨earlier, begun.trans grown, answered⟩

/-- Everything that a sign-in reads belongs to a user of its realm, and a second factor that is
on record was answered. -/
structure Owned (s : Store) : Prop where
  keyed : Keyed s
  sessions : ∀ session ∈ s.loginSessions, userRealm s session.userId = some session.realmId
  pending : ∀ action ∈ s.pendingActions, pausesSignIn action →
    userRealm s action.userId = some action.realmId
  credentials : ∀ cred ∈ s.webAuthnCredentials, userRealm s cred.userId = some cred.realmId
  requests : ∀ request ∈ s.consentRequests, RequestOwned s request
  established : ∀ session ∈ s.loginSessions, Established session s.loginLog
  enrolled : ∀ action ∈ s.pendingActions, pausesSignIn action → action.verified = true →
    .factorVerified action.userId ∈ s.loginLog

/-- A row of a pending action, changed in what nothing depends on. -/
structure SameAction (old new : PendingAction) : Prop where
  id : new.id = old.id
  tokenHash : new.tokenHash = old.tokenHash
  type : new.type = old.type
  userId : new.userId = old.userId
  realmId : new.realmId = old.realmId
  oauthParams : new.oauthParams = old.oauthParams
  verified : new.verified = old.verified

theorem SameAction.refl (action : PendingAction) : SameAction action action :=
  ⟨rfl, rfl, rfl, rfl, rfl, rfl, rfl⟩

theorem SameAction.trans {a b c : PendingAction} (ab : SameAction a b) (bc : SameAction b c) :
    SameAction a c :=
  ⟨bc.id.trans ab.id, bc.tokenHash.trans ab.tokenHash, bc.type.trans ab.type,
    bc.userId.trans ab.userId, bc.realmId.trans ab.realmId, bc.oauthParams.trans ab.oauthParams,
    bc.verified.trans ab.verified⟩

/-- What the rest of the server may do at any time: end sessions, spend and drop pending
actions, import and change users, register passkeys, set policies, record and expire step-ups,
exchange codes. -/
structure Others (s s' : Store) : Prop where
  keyed : Keyed s → Keyed s'
  users : Keyed s → ∀ {id realmId}, userRealm s id = some realmId → userRealm s' id = some realmId
  clients : s'.clients = s.clients
  sessions : ∀ session ∈ s'.loginSessions, session ∈ s.loginSessions
  pending : ∀ action ∈ s'.pendingActions, pausesSignIn action →
    ∃ old ∈ s.pendingActions, SameAction old action
  credentials : Keyed s → ∀ cred ∈ s'.webAuthnCredentials,
    cred ∈ s.webAuthnCredentials ∨ userRealm s' cred.userId = some cred.realmId
  requests : ∀ request ∈ s'.consentRequests, request ∈ s.consentRequests
  consents : ∀ {userId clientId}, Consented s userId clientId → Consented s' userId clientId
  codes : ∀ code ∈ s'.authorizationCodes, ∃ old ∈ s.authorizationCodes, code.userId = old.userId ∧
    code.clientId = old.clientId ∧ code.satisfiedAcr = old.satisfiedAcr
  log : s'.loginLog = s.loginLog

namespace Others

variable {a b c s s' : Store}

theorem refl (s : Store) : Others s s where
  keyed := id
  users := fun _ _ _ => id
  clients := rfl
  sessions := fun _ => id
  pending := fun act mem _ => ⟨act, mem, .refl act⟩
  credentials := fun _ _ => .inl
  requests := fun _ => id
  consents := id
  codes := fun code mem => ⟨code, mem, rfl, rfl, rfl⟩
  log := rfl

theorem trans (ab : Others a b) (bc : Others b c) : Others a c where
  keyed := fun ok => bc.keyed (ab.keyed ok)
  users := fun ok _ _ known => bc.users (ab.keyed ok) (ab.users ok known)
  clients := bc.clients.trans ab.clients
  sessions := fun sess mem => ab.sessions sess (bc.sessions sess mem)
  pending := by
    intro act mem pauses
    obtain ⟨middle, isMiddle, same⟩ := bc.pending act mem pauses
    have still : pausesSignIn middle := by
      unfold pausesSignIn at *
      rwa [← same.type]
    obtain ⟨old, isOld, pre⟩ := ab.pending middle isMiddle still
    exact ⟨old, isOld, pre.trans same⟩
  credentials := by
    intro ok cred mem
    obtain pre | registered := bc.credentials (ab.keyed ok) cred mem
    · exact (ab.credentials ok cred pre).imp_right (bc.users (ab.keyed ok))
    · exact .inr registered
  requests := fun req mem => ab.requests req (bc.requests req mem)
  consents := fun given_ => bc.consents (ab.consents given_)
  codes := by
    intro code mem
    obtain ⟨middle, isMiddle, u, client, acr⟩ := bc.codes code mem
    obtain ⟨old, isOld, u', client', acr'⟩ := ab.codes middle isMiddle
    exact ⟨old, isOld, u.trans u', client.trans client', acr.trans acr'⟩
  log := bc.log.trans ab.log

structure Tables where
  users : List User
  clients : List Client
  loginSessions : List LoginSession
  webAuthnCredentials : List WebAuthnCredential
  consentRequests : List ConsentRequest
  userConsents : List UserConsent
  authorizationCodes : List AuthorizationCode
  loginLog : List LoginEvent

def tables (s : Store) : Tables where
  users := s.users
  clients := s.clients
  loginSessions := s.loginSessions
  webAuthnCredentials := s.webAuthnCredentials
  consentRequests := s.consentRequests
  userConsents := s.userConsents
  authorizationCodes := s.authorizationCodes
  loginLog := s.loginLog

section

variable (supply : s.supply ≤ s'.supply)

include supply

theorem of_parts (same : tables { s' with users := s.users } = tables s)
    (rows : ∀ act ∈ s'.pendingActions, ∃ old ∈ s.pendingActions, SameAction old act)
    (keys : (s'.pendingActions.map key).Sublist (s.pendingActions.map key))
    (unique : Keyed s → (s'.users.map (·.id)).Nodup)
    (ids : Keyed s → ∀ u ∈ s'.users, u.id < s'.supply)
    (realms : Keyed s → ∀ {id rid},
      userRealm s id = some rid → userRealm s' id = some rid) : Others s s' := by
  have consents : s'.userConsents = s.userConsents := congrArg Tables.userConsents same
  have codes : s'.authorizationCodes = s.authorizationCodes := congrArg Tables.authorizationCodes same
  have sessions : s'.loginSessions = s.loginSessions := congrArg Tables.loginSessions same
  have requests : s'.consentRequests = s.consentRequests := congrArg Tables.consentRequests same
  have creds : s'.webAuthnCredentials = s.webAuthnCredentials :=
    congrArg Tables.webAuthnCredentials same
  constructor
  · exact fun ok => ok.of_rows supply (unique ok) (ids ok) keys
  · exact fun ok _ _ known => realms ok known
  · exact congrArg Tables.clients same
  · simp [sessions]
  · exact fun act mem _ => rows act mem
  · exact fun _ cred mem => .inl (creds ▸ mem)
  · simp [requests]
  · intro uid cid granted
    simpa only [Consented, consents] using granted
  · intro code mem
    rw [codes] at mem
    exact ⟨code, mem, rfl, rfl, rfl⟩
  · exact congrArg Tables.loginLog same

theorem of_pending (same : tables s' = tables s)
    (rows : ∀ act ∈ s'.pendingActions, ∃ old ∈ s.pendingActions, SameAction old act)
    (keys : (s'.pendingActions.map key).Sublist (s.pendingActions.map key)) : Others s s' := by
  have us : s'.users = s.users := congrArg Tables.users same
  refine of_parts supply (us ▸ same) rows keys (fun ok => us ▸ ok.userIds) ?_ ?_
  · intro ok u mem
    rw [us] at mem
    exact (ok.users u mem).trans_le supply
  · intro _ id rid known
    simpa only [userRealm, findUserById, us] using known

theorem of_tables (same : tables s' = tables s)
    (rows : s'.pendingActions = s.pendingActions) : Others s s' := by
  refine of_pending supply same (fun act mem => ?_) ?_
  · rw [rows] at mem
    exact ⟨act, mem, .refl act⟩
  · rw [rows]

theorem of_users (same : tables { s' with users := s.users } = tables s)
    (rows : s'.pendingActions = s.pendingActions)
    (unique : Keyed s → (s'.users.map (·.id)).Nodup)
    (ids : Keyed s → ∀ u ∈ s'.users, u.id < s'.supply)
    (realms : Keyed s → ∀ {id rid},
      userRealm s id = some rid → userRealm s' id = some rid) : Others s s' := by
  refine of_parts supply same (fun act mem => ?_) (rows ▸ .refl _) unique ids realms
  rw [rows] at mem
  exact ⟨act, mem, .refl act⟩

end

theorem updateUser (s : Store) (uid : Nat)
    (id : ∀ u, (chg u).id = u.id) (rid : ∀ u, (chg u).realmId = u.realmId) :
    Others s (Auth.Store.updateUser s uid chg) := by
  have sameId : ∀ u : User, (if u.id = uid then chg u else u).id = u.id := by
    intro u
    split
    · exact id u
    · rfl
  refine of_users le_rfl rfl rfl ?_ ?_ ?_
  · intro ok
    have columns : (Auth.Store.updateUser s uid chg).users.map (·.id) = s.users.map (·.id) := by
      simp only [Auth.Store.updateUser, map_map]
      exact map_congr_left fun u _ => sameId u
    exact columns ▸ ok.userIds
  · intro ok u mem
    obtain ⟨old, isOld, rfl⟩ := mem_map.mp mem
    rw [sameId]
    exact ok.users old isOld
  · intro _ wanted r known
    rw [← known]
    unfold userRealm findUserById Auth.Store.updateUser
    induction s.users with
    | nil => rfl
    | cons u rest ih =>
      rw [map_cons, find?_cons, find?_cons, sameId]
      by_cases here : u.id = wanted
      · simp only [here, decide_true, map_some]
        split
        · rw [rid]
        · rfl
      · simp only [here, decide_false]
        exact ih

theorem importUser (rid : Nat) (fed : UserFederation) (e : LdapUser) (s : Store) :
    Others s (Auth.importUser rid fed e s).2 := by
  unfold Auth.importUser
  split
  · exact refl s
  · refine of_users (le_succ _) rfl rfl ?_ ?_ ?_
    · intro ok
      refine nodup_cons.mpr ⟨fun taken => ?_, ok.userIds⟩
      obtain ⟨u, isUser, same⟩ := mem_map.mp taken
      have := ok.users u isUser
      simp only at same
      omega
    · intro ok u mem
      cases mem with
      | head => exact lt_succ_self _
      | tail _ older => exact lt_succ_of_lt (ok.users u older)
    · intro ok id r known
      unfold userRealm findUserById at *
      have other : s.supply ≠ id := by
        rintro rfl
        obtain ⟨u, hit, -⟩ := map_eq_some_iff.mp known
        have := ok.users u (mem_of_find?_eq_some hit)
        have := find?_some hit
        simp at this
        omega
      simpa [other] using known

theorem sessionsDropped {keep : LoginSession → Bool} (s : Store) :
    Others s { s with loginSessions := s.loginSessions.filter keep } :=
  { refl s with
    sessions := fun _ mem => mem_of_mem_filter mem
    pending := fun act mem _ => ⟨act, mem, .refl act⟩
    codes := fun code mem => ⟨code, mem, rfl, rfl, rfl⟩
    users := fun _ _ _ => id
    consents := id
    keyed := fun ok => ok.grown le_rfl rfl rfl }

theorem requestsDropped {keep : ConsentRequest → Bool} (s : Store) :
    Others s { s with consentRequests := s.consentRequests.filter keep } :=
  { refl s with
    requests := fun _ mem => mem_of_mem_filter mem
    pending := fun act mem _ => ⟨act, mem, .refl act⟩
    codes := fun code mem => ⟨code, mem, rfl, rfl, rfl⟩
    users := fun _ _ _ => id
    consents := id
    keyed := fun ok => ok.grown le_rfl rfl rfl }

theorem pendingDropped {keep : PendingAction → Bool} (s : Store) :
    Others s { s with pendingActions := s.pendingActions.filter keep } := by
  refine of_pending le_rfl rfl (fun act mem => ?_) (filter_sublist.map _)
  exact ⟨act, mem_of_mem_filter mem, .refl act⟩

end Others

end Owners

section Quiet

variable {deps : Deps} {externals : Externals} {req : Nat}

structure AccountWork (s s' : Store) : Prop where
  others : Others s s'
  factors : s'.userCredentials = s.userCredentials

theorem AccountWork.refl (s : Store) : AccountWork s s := ⟨.refl s, rfl⟩

theorem AccountWork.trans {a b c : Store} (ab : AccountWork a b) (bc : AccountWork b c) :
    AccountWork a c := ⟨ab.others.trans bc.others, bc.factors.trans ab.factors⟩

theorem updateUser_works (s : Store) (uid : Nat)
    (id : ∀ u, (chg u).id = u.id) (rid : ∀ u, (chg u).realmId = u.realmId) :
    AccountWork s (Auth.Store.updateUser s uid chg) := ⟨.updateUser s uid id rid, rfl⟩

theorem failureRecorded_works (r : Realm) (userId : Nat) (s : Store) :
    AccountWork s (failureRecorded r userId s) := by
  have first : AccountWork s { s with
      loginFailures := { realmId := r.id, userId := userId, failedAt := s.now } ::
        s.loginFailures } := ⟨.of_tables le_rfl rfl rfl, rfl⟩
  unfold failureRecorded
  simp only
  split
  · exact first
  · split
    · exact first.trans (updateUser_works _ _ (fun _ => rfl) fun _ => rfl)
    · exact first.trans (updateUser_works _ _ (fun _ => rfl) fun _ => rfl)

theorem importUser_works (rid : Nat) (fed : UserFederation) (e : LdapUser) (s : Store) :
    AccountWork s (importUser rid fed e s).2 := by
  refine ⟨.importUser rid fed e s, ?_⟩
  unfold importUser
  split <;> rfl

theorem recordFailure_works (r : Realm) (uid : Nat) : (recordFailure r uid).Keeps AccountWork := by
  unfold recordFailure
  split
  · exact .modify (failureRecorded_works r uid)
  · trivial

theorem resetFailures_works (rid uid : Nat) : (resetFailures rid uid).Keeps AccountWork :=
  .bind (.modify fun _ => ⟨.of_tables le_rfl rfl rfl, rfl⟩) fun _ =>
    .bind (.atomic fun s => updateUser_works s uid (fun _ => rfl) fun _ => rfl) fun _ => .require _ _

theorem tryFederations_works (rid : Nat) (uname pw : String) (feds : List UserFederation) :
    (tryFederations deps rid uname pw feds).Keeps AccountWork := by
  induction feds with
  | nil => trivial
  | cons fed rest ih =>
    unfold tryFederations
    split
    · refine .bind (.read .refl _) fun known => .bind ?_ fun u => ?_
      · cases known with
        | some u => trivial
        | none =>
          simp only [findOrImport]
          split
          · split
            · exact .bind (.atomic (importUser_works _ _ _)) fun _ =>
                .bind (.orFail _ _) fun _ => trivial
            · trivial
          · trivial
      · cases u with
        | some u => trivial
        | none => exact ih
    · exact ih

theorem authenticateViaFederation_works (rid : Nat) (uname pw : String) :
    (authenticateViaFederation deps rid uname pw).Keeps AccountWork :=
  .bind (.read .refl _) fun _ => tryFederations_works _ _ _ _

theorem recordWrongPassword_works (r : Realm) (u : User) :
    (recordWrongPassword r u).Keeps AccountWork :=
  .bind (recordFailure_works _ _) fun _ => trivial

theorem refuseLocked_works (r : Realm) (u : User) : (refuseLocked r u).Keeps AccountWork :=
  .bind (.read .refl _) fun _ => .require _ _

theorem verifyOrMigrate_works (u : User) (hash pw : String) :
    (verifyOrMigrate deps externals u hash pw).Keeps AccountWork := by
  refine .bind (.orFail _ _) fun valid => ?_
  split
  · trivial
  · split
    · exact .bind (.bind (.atomic fun s => updateUser_works s _ (fun _ => rfl) fun _ => rfl) fun _ =>
        .require _ _) fun _ => trivial
    · trivial

theorem validateCredentials_works (r : Realm) (uname pw : String) :
    (validateCredentials deps externals r uname pw).Keeps AccountWork := by
  refine .bind (.read .refl _) fun hit => ?_
  cases hit with
  | none =>
    exact .bind (authenticateViaFederation_works _ _ _) fun _ => .bind (.orFail _ _) fun _ =>
      .bind (.read .refl _) fun _ => .orFail _ _
  | some u =>
    simp only
    split
    · refine .bind (.require _ _) fun _ => .bind (refuseLocked_works _ _) fun _ =>
        .bind (authenticateViaFederation_works _ _ _) fun ok => ?_
      split
      · exact .bind (resetFailures_works _ _) fun _ => trivial
      · exact recordWrongPassword_works _ _
    · split
      · refine .bind (refuseLocked_works _ _) fun _ => .bind (verifyOrMigrate_works _ _ _)
          fun valid => ?_
        split
        · exact .bind (resetFailures_works _ _) fun _ => trivial
        · exact recordWrongPassword_works _ _
      · trivial

theorem validateCredentials_others (r : Realm) (uname pw : String) :
    (validateCredentials deps externals r uname pw).Keeps Others :=
  (validateCredentials_works r uname pw).mono fun _ _ work => work.others

theorem FactorWork.others {s s' : Store} (work : FactorWork s s') : Others s s' :=
  .of_tables (congrArg Store.supply work :).ge (congrArg Others.tables work :)
    (congrArg Store.pendingActions work :)

theorem verifySecondFactor_others (tok uid : Nat) (input : SecondFactorInput) :
    (verifySecondFactor deps req tok uid input).Keeps Others :=
  (verifySecondFactor_works tok uid input).mono fun _ _ work => FactorWork.others work

theorem verifyCode_others (ps : Sms.VerifyParams) : (Sms.verifyCode deps req ps).Keeps Others :=
  (verifyCode_works req ps).mono fun _ _ work => FactorWork.others work.factorWork

theorem recordTotpFailure_others (r : Realm) (uid : Nat) :
    (recordTotpFailure r uid).Keeps Others := by
  unfold recordTotpFailure
  split
  · trivial
  · refine .bind (.modify fun _ => .of_tables le_rfl rfl rfl) fun _ => .bind (.read .refl _)
      fun failures => ?_
    split
    · exact .bind (.read .refl _) fun _ =>
        .bind (.atomic fun s => .updateUser s _ (fun _ => rfl) fun _ => rfl) fun _ => .require _ _
    · trivial

theorem resetTotpFailures_others (uid : Nat) : (resetTotpFailures uid).Keeps Others :=
  .modify fun _ => .of_tables le_rfl rfl rfl

theorem totpRateLimitBlocks_others (r : Realm) (uid : Nat) :
    (totpRateLimitBlocks r uid).Keeps Others := by
  unfold totpRateLimitBlocks
  split
  · trivial
  · exact .bind (.read .refl _) fun _ => trivial

theorem spendAttempt_others (th : Sha256) (s : Store) : Others s (spendAttempt req th s).2 := by
  have same : ∀ act : PendingAction, SameAction act
      (if answerable th s.now act then { act with attempts := act.attempts + 1 }
        else act) := by
    intro act
    split
    · exact ⟨rfl, rfl, rfl, rfl, rfl, rfl, rfl⟩
    · exact .refl act
  refine .of_pending le_rfl rfl (fun act mem => ?_) ?_
  · obtain ⟨old, isOld, rfl⟩ := mem_map.mp mem
    exact ⟨old, isOld, same old⟩
  · have columns : (spendAttempt req th s).2.pendingActions.map key =
        s.pendingActions.map key := by
      simp only [spendAttempt, map_map]
      exact map_congr_left fun act _ => Prod.ext (same act).id (same act).tokenHash
    rw [columns]

theorem dropChallenge_others (th : Sha256) (s : Store) :
    Others s (dropChallenge th s).2 := .pendingDropped s

theorem claimChallenge_others (th : Sha256) (s : Store) : Others s (claimChallenge req th s).2 :=
  (dropChallenge_others th s).trans (.of_tables le_rfl rfl rfl)

theorem validateMfaChallenge_others (tok : Nat) :
    (validateMfaChallengeWithAttemptCheck req tok).Keeps Others := by
  refine .bind (.atomic (spendAttempt_others _)) fun count => ?_
  split
  · exact .bind (.atomic (dropChallenge_others _)) fun _ => trivial
  · exact .read .refl _

theorem consumeMfaChallenge_others (tok : Nat) : (consumeMfaChallenge req tok).Keeps Others :=
  .bind (.atomic (claimChallenge_others _)) fun _ => trivial

variable {α : Type}

theorem reads_others {p : Op α} (reads : p.Keeps Eq) : p.Keeps Others :=
  reads.mono fun s _ same => same ▸ .refl s

theorem evictLoginSessions_others (r : Realm) (uid : Nat) :
    (evictLoginSessions r uid).Keeps Others := by
  unfold evictLoginSessions
  split
  · trivial
  · refine .bind (.read .refl _) fun active => ?_
    split
    · exact .modify fun s => .sessionsDropped s
    · trivial

theorem getConsentRequest_others (tok : Nat) : (getConsentRequest tok).Keeps Others := by
  refine .bind (.read .refl _) fun hit => ?_
  cases hit with
  | none => trivial
  | some hit =>
    exact .bind (.read .refl _) fun _ => .bind (.atomic fun s => .requestsDropped s) fun _ =>
      .bind (.require _ _) fun _ => trivial

theorem takePendingAction_others (th : Sha256) (s : Store) : Others s (takePendingAction th s).2 :=
  (Others.pendingDropped s).trans (.requestsDropped _)

theorem getMfaEnrollment_reads (tok : Nat) : (getMfaEnrollment tok).Keeps Eq :=
  .bind (.read (fun _ => rfl) _) fun _ => .bind (.read (fun _ => rfl) _) fun _ => trivial

theorem ensureRecoveryCodes_others (uid : Nat) (codes : List String) :
    (ensureRecoveryCodes deps uid codes).Keeps Others := by
  refine .bind (.read .refl _) fun unused => ?_
  split
  · trivial
  · exact .modify fun _ => .of_tables le_rfl rfl rfl

theorem setupTotp_others (uid : Nat) (secretKey : String) :
    (setupTotp uid secretKey).Keeps Others := by
  refine .bind (.modify fun _ => .of_tables le_rfl rfl rfl) fun _ => .bind (.atomic fun s => ?_)
    fun _ => .require _ _
  split
  · exact .refl s
  · exact .of_tables le_rfl rfl rfl

theorem verifyAndActivateTotp_others (uid : Nat) (code : String) (codes : List String) :
    (verifyAndActivateTotp deps uid code codes).Keeps Others := by
  refine .bind (.read .refl _) fun hit => ?_
  split
  · trivial
  · refine .bind (.read .refl _) fun now => ?_
    split
    · exact .bind (.modify fun _ => .of_tables le_rfl rfl rfl) fun _ =>
        .bind (ensureRecoveryCodes_others _ _) fun _ => trivial
    · trivial

variable {K : Store → Store → Prop}

theorem withCookie_keeps (cookie : Option Nat)
    {find : Nat → Op (Option α)} (keeps : ∀ tok, (find tok).Keeps K) :
    (withCookie cookie find).Keeps K := by
  cases cookie with
  | none => trivial
  | some tok => exact keeps tok

theorem getTotpSetupUser_reads (r : Realm) (cks : Cookies) : (getTotpSetupUser r cks).Keeps Eq := by
  refine .bind (withCookie_keeps _ getMfaEnrollment_reads) fun enrollment =>
    .bind (.read (fun _ => rfl) _) fun paused => ?_
  split
  · trivial
  · exact .bind (withCookie_keeps _ (validateLoginSession_reads r)) fun _ => trivial

theorem getSmsEnrollment_reads (r : Realm) (uid : Nat) (cks : Cookies) :
    (getSmsEnrollment r uid cks).Keeps Eq := by
  unfold getSmsEnrollment
  cases cks.smsEnrollment with
  | none => trivial
  | some tok =>
    exact .bind (.read (fun _ => rfl) _) fun _ => .bind (.read (fun _ => rfl) _) fun _ => trivial

theorem endSmsEnrollment_others (tok : Nat) (s : Store) : Others s (endSmsEnrollment tok s) :=
  .pendingDropped s

theorem orRefuse_keeps {f : Failure} {p : Op α} (keeps : p.Keeps K) : (orRefuse f p).Keeps K := by
  induction p with
  | done a => exact keeps
  | fail e => exact keeps
  | step update next ih => exact ⟨keeps.1, fun s => ih s (keeps.2 s)⟩

theorem recordStepUp_others (sid : Nat) (acrLevel : String) (cacheDuration : Int) (s : Store) :
    Others s (recordStepUp sid acrLevel cacheDuration s) :=
  .of_tables (le_succ _) rfl rfl

theorem verifyMfa_others (r : Realm) (body : VerifyBody) (u : User) (sid : Nat)
    (cacheDuration : Int) :
    (verifyMfa deps req r body u sid cacheDuration).Keeps Others := by
  refine .bind (.orFail _ _) fun tok => .bind (.orFail _ _) fun otp =>
    .bind (validateMfaChallenge_others tok) fun hit => .bind (.orFail _ _) fun chal =>
    .bind (.require _ _) fun _ => .bind (.require _ _) fun _ =>
    .bind (totpRateLimitBlocks_others _ _) fun blocked => .bind (.require _ _) fun _ =>
    .bind (verifySecondFactor_others _ _ _) fun verified => .bind ?_ fun factor =>
    .bind (consumeMfaChallenge_others tok) fun _ => .bind (.require _ _) fun _ =>
    .bind (.modify fun _ => .of_tables le_rfl rfl rfl) fun _ =>
    .bind (resetTotpFailures_others _) fun _ =>
    .bind (.modify fun _ => .of_tables (le_succ _) rfl rfl) fun _ => trivial
  cases verified with
  | some factor => trivial
  | none => exact .bind (recordTotpFailure_others _ _) fun _ => trivial

theorem stepUp_others (r : Realm) (body : VerifyBody) (passkeyUser : Option Nat) (cks : Cookies) :
    (stepUp deps externals req r body passkeyUser cks).Keeps Others := by
  refine .bind (.bind (.orFail _ _) fun tok => .bind (.orFail _ _) fun acr =>
    .bind (.orFail _ _) fun cid =>
    .bind (reads_others (validateLoginSession_reads r tok)) fun known =>
    .bind (.orFail _ _) fun u => .bind (.read .refl _) fun hit => .bind (.orFail _ _) fun sess =>
    .bind (.read .refl _) fun row => .bind (.orFail _ _) fun c => ?_) fun _ => trivial
  split
  · exact verifyMfa_others _ _ _ _ _
  · split
    · exact .bind (.orFail _ _) fun pw =>
        .bind (orRefuse_keeps (.bind (validateCredentials_others _ _ _) fun _ => trivial)) fun _ =>
        .bind (.modify fun _ => .of_tables le_rfl rfl rfl) fun _ =>
        .bind (.modify (recordStepUp_others _ _ _)) fun _ => trivial
    · split
      · exact .bind (.orFail _ _) fun assertion => .bind (orRefuse_keeps (.orFail _ _)) fun _ =>
          .bind (.require _ _) fun _ => .bind (.modify fun _ => .of_tables le_rfl rfl rfl) fun _ =>
          .bind (.modify (recordStepUp_others _ _ _)) fun _ => trivial
      · trivial

end Quiet

end Idenplane.Login
