import Idenplane.Login.Writes

/-! # The chain of writes of a visit

What each kind of write presupposes, and that every handler is a chain of them.
-/

namespace Idenplane.Login

open Atomic Auth Admin StepUp

section Requests

def accepts (params : AuthorizeParams) (client : Client) : Bool :=
  client.enabled && matchesRedirectUri params.redirect_uri client.redirectUris &&
    client.grantTypes.contains "authorization_code" &&
    (!truthy params.code_challenge_method || params.code_challenge_method = some "S256") &&
    (client.clientType != .PUBLIC || truthy params.code_challenge)

def authRequestClient (realmId : Nat) (params : AuthorizeParams) (s : Store) : Option Client :=
  if params.response_type = "code" && (params.client_id != "" && params.redirect_uri != "") then
    (findClient realmId params.client_id s).filter (accepts params)
  else none

variable {ps : AuthorizeParams}

theorem authRequestClient_spec {rid : Nat} {s : Store}
    {client : Client} (valid : authRequestClient rid ps s = some client) :
    findClient rid ps.client_id s = some client := by
  unfold authRequestClient at valid
  split at valid
  · exact (filter_eq_some_iff.mp valid).1
  · cases valid

theorem authRequestClient_congr {rid : Nat} {s s' : Store} (cs : s'.clients = s.clients) :
    authRequestClient rid ps s' = authRequestClient rid ps s := by
  simp only [authRequestClient, findClient, cs]

theorem validateAuthRequest_ensures {thrown : Store → Prop} {post : Client → Store → Prop}
    {r : Realm} {s : Store} (refused : thrown s)
    (valid : ∀ c, authRequestClient r.id ps s = some c → post c s) :
    (validateAuthRequest r ps).Ensures thrown post s := by
  refine .require_bind refused fun isCode => .require_bind refused fun isNamed =>
    .read_bind (.orFail_bind refused fun c hit => .require_bind refused fun redirect =>
      .require_bind refused fun grant => .require_bind refused fun method =>
        .require_bind refused fun pkce => ?_)
  obtain ⟨isClient, enabled⟩ := filter_eq_some_iff.mp hit
  apply valid
  rw [authRequestClient, isCode, isNamed, Bool.true_and, if_pos rfl, isClient]
  rw [filter_some, accepts, enabled, redirect, grant, method, pkce]
  rfl

end Requests

section Writes

def Completes (visit : Visit) (start : Store) (realm : Realm) (params : AuthorizeParams)
    (acr : String) : Prop :=
  match visit.action with
  | .login body => params = carriedParams body.params ∧ acr = ACR_PASSWORD ∧
      realm.mfaRequired = false ∧ ∀ user, findUser realm.id body.username start = some user →
        isMfaEnabled start user.id = false
  | .totp _ => acr = ACR_MFA ∧ ∃ token action, visit.cookies.challenge = some token ∧
      action ∈ start.pendingActions ∧ action.tokenHash = sha256 token ∧
      params = action.oauthParams.getD noParams
  | .continueEnrollment _ => acr = ACR_MFA ∧ ∃ token action,
      visit.cookies.enrollment = some token ∧ action ∈ start.pendingActions ∧
      action.tokenHash = sha256 token ∧ params = action.oauthParams.getD noParams
  | .broker userId oauthParams => params = oauthParams ∧ acr = ACR_PASSWORD ∧
      realm.mfaRequired = false ∧ isMfaEnabled start userId = false
  | .passkey _ _ given_ => acr = ACR_WEBAUTHN ∧ params = carriedParams given_
  | _ => False

variable (visit : Visit) (start : Store)

/-- A user of the realm asks for a code at a level: that of a session, which is at least the
one that the client requires, or that of the sign-in just completed. -/
structure Asks (s : Store) (realm : Realm) (user : User) (client : Client)
    (params : AuthorizeParams) (acr : Option String) : Prop where
  isRealm : findRealm visit.realmName start = some realm
  member : userRealm s user.id = some realm.id
  level : acrStrength client.requiredAcr ≤ acrStrength acr ∨
    ∃ level, acr = some level ∧ Completes visit start realm params level

def Accepts (realm : Realm) (request : ConsentRequest) : Prop :=
  findRealm visit.realmName start = some realm ∧ ∃ csrf reqId,
    visit.action = .consent csrf (some reqId) false ∧
      findConsentRequest (sha256 reqId) start = some request

/-- Why a code is written. -/
inductive CodeGrounds (s : Store) (realm : Realm) (user : User) (client : Client)
    (params : AuthorizeParams) (acr : Option String) : Prop where
  | asked : Asks visit start s realm user client params acr →
      (client.requireConsent = true → Consented s user.id client.id) →
      CodeGrounds s realm user client params acr
  | accepted (request : ConsentRequest) : Accepts visit start realm request →
      RequestOwned s request → user.id = request.userId → params = request.oauthParams →
      acr = request.satisfiedAcr → Consented s request.userId request.clientId →
      CodeGrounds s realm user client params acr

/-- Why a consent request is written. -/
inductive RequestGrounds (s : Store) (request : ConsentRequest) : Prop where
  | asked {realm : Realm} {user : User} {client : Client} :
      Asks visit start s realm user client request.oauthParams request.satisfiedAcr →
      authRequestClient realm.id request.oauthParams s = some client →
      request.userId = user.id → request.clientId = client.id → RequestGrounds s request
  | again (old : ConsentRequest) : old ∈ start.consentRequests → request.clientId = old.clientId →
      request.satisfiedAcr = old.satisfiedAcr → RequestOwned s request → RequestGrounds s request

inductive Write : Store → Store → Prop where
  | others {s s' : Store} : Others s s' → Write s s'
  | answered {s : Store} (userId : Nat) : Write s (factorAnswered userId s)
  | session {s : Store} {realm : Realm} {user : User} {context : SatisfiedAuthContext} :
      userRealm s user.id = some realm.id →
      (acrStrength (some ACR_MFA) ≤ acrStrength context.acr →
        .factorVerified user.id ∈ s.loginLog) →
      Write s (insertLoginSession realm user context s).2
  | pending {s : Store} {action : PendingAction} {log : List MfaEvent} :
      userRealm s action.userId = some action.realmId → action.verified = false →
      action.id = s.supply + 1 → action.tokenHash = sha256 s.supply →
      Write s { s with
        supply := s.supply + 2, mfaLog := log, pendingActions := action :: s.pendingActions }
  | enrolled {s : Store} {id : Nat} {factor : CredentialType} :
      (∀ action ∈ s.pendingActions, action.id = id → .factorVerified action.userId ∈ s.loginLog) →
      Write s (enrollmentUpdated id factor s).2
  | request {s : Store} {request : ConsentRequest} : RequestGrounds visit start s request →
      Write s (insertConsentRequest request s).2
  | consent {s : Store} {userId clientId : Nat} {scopes : List String} :
      Write s (consentGranted userId clientId scopes s).2
  | code {s : Store} {realm : Realm} {user : User} {client : Client} {params : AuthorizeParams}
      {context : SatisfiedAuthContext} {scope : Option String} :
      authRequestClient realm.id params s = some client →
      CodeGrounds visit start s realm user client params context.acr →
      Write s (createCode client user params context scope s).2

def Chain (s : Store) : Prop := Relation.ReflTransGen (Write visit start) start s

end Writes

section Preservation

variable {visit : Visit} {start s s' : Store}

theorem enrollmentUpdated_row (id : Nat) (factor : CredentialType) (act : PendingAction) :
    key (if act.id = id then enrolled factor act else act) = key act ∧
      (if act.id = id then enrolled factor act else act).type = act.type ∧
      (if act.id = id then enrolled factor act else act).userId = act.userId ∧
      (if act.id = id then enrolled factor act else act).realmId = act.realmId := by
  split <;> exact ⟨rfl, rfl, rfl, rfl⟩

section

variable (write : Write visit start s s')

include write

theorem Write.users (keyed : Keyed s) {id realmId : Nat}
    (known : userRealm s id = some realmId) : userRealm s' id = some realmId := by
  cases write with
  | others work => exact work.users keyed known
  | answered | pending | enrolled | request => exact known
  | session =>
    unfold insertLoginSession
    split <;> exact known
  | consent =>
    unfold consentGranted
    split <;> exact known
  | code =>
    unfold createCode
    split <;> exact known

theorem Write.clients : s'.clients = s.clients := by
  cases write with
  | others work => exact work.clients
  | answered | pending | enrolled | request => rfl
  | session =>
    unfold insertLoginSession
    split <;> rfl
  | consent =>
    unfold consentGranted
    split <;> rfl
  | code =>
    unfold createCode
    split <;> rfl

theorem Write.consented {userId clientId : Nat}
    (granted : Consented s userId clientId) : Consented s' userId clientId := by
  cases write with
  | others work => exact work.consents granted
  | answered | pending | enrolled | request => exact granted
  | session =>
    unfold insertLoginSession
    split <;> exact granted
  | @consent user client scopes =>
    unfold consentGranted
    split
    · obtain ⟨consent, member, isUser, isClient⟩ := granted
      by_cases same : consent.userId = user ∧ consent.clientId = client
      · exact ⟨_, mem_cons_self, by rw [← isUser, same.1], by rw [← isClient, same.2]⟩
      · refine ⟨consent, .tail _ (mem_filter.mpr ⟨member, ?_⟩), isUser, isClient⟩
        rw [← Bool.decide_and, decide_eq_false same, Bool.not_false]
    · exact granted
  | code =>
    unfold createCode
    split <;> exact granted

theorem Write.log : s.loginLog <:+ s'.loginLog := by
  cases write with
  | others work => exact work.log ▸ suffix_rfl
  | pending | enrolled | request => exact suffix_rfl
  | answered => exact List.suffix_cons _ _
  | session =>
    unfold insertLoginSession
    split
    · exact List.suffix_cons _ _
    · exact suffix_rfl
  | consent =>
    unfold consentGranted
    split <;> exact suffix_rfl
  | code =>
    unfold createCode
    split <;> exact suffix_rfl

end

variable {request : ConsentRequest}

theorem RequestOwned.write (write : Write visit start s s') (keyed : Keyed s) (owned : RequestOwned s request) : RequestOwned s' request := by
  obtain ⟨rid, c, m, hit, same⟩ := owned
  refine ⟨rid, c, write.users keyed m, ?_, same⟩
  simpa only [findClient, write.clients] using hit

theorem RequestGrounds.owned
    (grounds : RequestGrounds visit start s request) : RequestOwned s request := by
  cases grounds with
  | asked asks valid isUser isClient =>
    exact ⟨_, _, isUser ▸ asks.member, authRequestClient_spec valid, isClient.symm⟩
  | again _ _ _ _ owned => exact owned

theorem RequestGrounds.stored {req : ConsentRequest}
    (grounds : RequestGrounds visit start s req) (id : Nat) (tokenHash : Sha256)
    (expiresAt : Int) : RequestGrounds visit start s
      { req with id := id, tokenHash := tokenHash, expiresAt := expiresAt } := by
  cases grounds with
  | asked asks valid isUser isClient => exact .asked asks valid isUser isClient
  | again old isOld isClient level owned => exact .again old isOld isClient level owned

section

variable (write : Write visit start s s')

include write

theorem Write.keyed (keyed : Keyed s) : Keyed s' := by
  cases write with
  | others work => exact work.keyed keyed
  | answered => exact keyed.grown le_rfl rfl rfl
  | session =>
    unfold insertLoginSession
    split
    · exact keyed.grown (le_add_right _ 2) rfl rfl
    · exact keyed
  | @pending action log known unverified isNew isToken =>
    constructor
    · exact keyed.userIds
    · exact fun user member => Nat.lt_add_right 2 (keyed.users user member)
    · refine nodup_cons.mpr ⟨fun taken => ?_, keyed.actions⟩
      obtain ⟨old, isOld, same⟩ := mem_map.mp taken
      have := keyed.actionIds old isOld
      simp only [isNew] at same
      omega
    · intro old member
      cases member with
      | head => exact isNew ▸ lt_succ_self _
      | tail _ older => exact Nat.lt_add_right 2 (keyed.actionIds old older)
    · refine nodup_cons.mpr ⟨fun taken => ?_, keyed.tokens⟩
      obtain ⟨old, isOld, same⟩ := mem_map.mp taken
      obtain ⟨token, below, drawn⟩ := keyed.drawn old isOld
      have equal : sha256 token = sha256 s.supply := drawn.symm.trans (same.trans isToken)
      cases equal
      exact absurd below (Nat.lt_irrefl _)
    · intro old member
      cases member with
      | head => exact ⟨s.supply, Nat.lt_add_of_pos_right Nat.two_pos, isToken⟩
      | tail _ older =>
        obtain ⟨token, below, drawn⟩ := keyed.drawn old older
        exact ⟨token, Nat.lt_add_right 2 below, drawn⟩
  | @enrolled id factor known =>
    have columns : (enrollmentUpdated id factor s).2.pendingActions.map key =
        s.pendingActions.map key := by
      simp only [enrollmentUpdated, map_map]
      exact map_congr_left fun action _ => (enrollmentUpdated_row id factor action).1
    exact keyed.of_rows le_rfl keyed.userIds keyed.users (columns ▸ List.Sublist.refl _)
  | request => exact keyed.grown (le_add_right _ 2) rfl rfl
  | consent =>
    unfold consentGranted
    split
    · exact keyed.grown le_rfl rfl rfl
    · exact keyed
  | code =>
    unfold createCode
    split
    · exact keyed.grown (le_add_right _ 2) rfl rfl
    · exact keyed

theorem Write.sessions {session : LoginSession}
    (member : session ∈ s'.loginSessions) : session ∈ s.loginSessions ∨
      userRealm s session.userId = some session.realmId ∧ Established session s'.loginLog := by
  cases write with
  | others work => exact .inl (work.sessions session member)
  | answered | pending | enrolled | request => exact .inl member
  | session known level =>
    unfold insertLoginSession at *
    split at member
    · rename_i exists_
      cases member with
      | head =>
        rw [if_pos exists_]
        exact .inr ⟨known, s.loginLog, suffix_rfl, level⟩
      | tail _ older => exact .inl older
    · exact .inl member
  | consent =>
    unfold consentGranted at member
    split at member <;> exact .inl member
  | code =>
    unfold createCode at member
    split at member <;> exact .inl member

theorem Write.pendingActions {action : PendingAction}
    (member : action ∈ s'.pendingActions) (pauses : pausesSignIn action) :
    (∃ old ∈ s.pendingActions, pausesSignIn old ∧ old.userId = action.userId ∧
        old.realmId = action.realmId ∧
        (action.verified = old.verified ∨ .factorVerified action.userId ∈ s.loginLog)) ∨
      userRealm s action.userId = some action.realmId ∧ action.verified = false := by
  have kept : action ∈ s.pendingActions → ∃ old ∈ s.pendingActions, pausesSignIn old ∧
      old.userId = action.userId ∧ old.realmId = action.realmId ∧
        (action.verified = old.verified ∨ .factorVerified action.userId ∈ s.loginLog) :=
    fun member => ⟨action, member, pauses, rfl, rfl, .inl rfl⟩
  cases write with
  | others work =>
    obtain ⟨old, isOld, same⟩ := work.pending action member pauses
    refine .inl ⟨old, isOld, ?_, same.userId.symm, same.realmId.symm, .inl same.verified⟩
    unfold pausesSignIn at *
    rwa [← same.type]
  | answered | request => exact .inl (kept member)
  | pending known unverified =>
    cases member with
    | head => exact .inr ⟨known, unverified⟩
    | tail _ older => exact .inl (kept older)
  | @enrolled id factor known =>
    obtain ⟨old, isOld, rfl⟩ := mem_map.mp member
    obtain ⟨-, type, userId, realmId⟩ := enrollmentUpdated_row id factor old
    refine .inl ⟨old, isOld, ?_, userId.symm, realmId.symm, ?_⟩
    · unfold pausesSignIn at *
      rwa [type] at pauses
    · by_cases here : old.id = id
      · exact .inr (userId ▸ known old isOld here)
      · rw [if_neg here]
        exact .inl rfl
  | session =>
    unfold insertLoginSession at member
    split at member <;> exact .inl (kept member)
  | consent =>
    unfold consentGranted at member
    split at member <;> exact .inl (kept member)
  | code =>
    unfold createCode at member
    split at member <;> exact .inl (kept member)

theorem Write.requests (member : request ∈ s'.consentRequests) :
    request ∈ s.consentRequests ∨ RequestGrounds visit start s request := by
  cases write with
  | others work => exact .inl (work.requests request member)
  | answered | pending | enrolled => exact .inl member
  | request grounds =>
    cases member with
    | head => exact .inr (grounds.stored _ _ _)
    | tail _ older => exact .inl older
  | session =>
    unfold insertLoginSession at member
    split at member <;> exact .inl member
  | consent =>
    unfold consentGranted at member
    split at member <;> exact .inl member
  | code =>
    unfold createCode at member
    split at member <;> exact .inl member

theorem Write.codes {code : AuthorizationCode} (member : code ∈ s'.authorizationCodes) :
    (∃ old ∈ s.authorizationCodes, code.userId = old.userId ∧ code.clientId = old.clientId ∧
        code.satisfiedAcr = old.satisfiedAcr) ∨
      ∃ realm user client params, authRequestClient realm.id params s = some client ∧
        CodeGrounds visit start s realm user client params code.satisfiedAcr ∧
        code.userId = user.id ∧ code.clientId = client.id := by
  have kept : code ∈ s.authorizationCodes → ∃ old ∈ s.authorizationCodes, code.userId = old.userId ∧
      code.clientId = old.clientId ∧ code.satisfiedAcr = old.satisfiedAcr :=
    fun member => ⟨code, member, rfl, rfl, rfl⟩
  cases write with
  | others work => exact .inl (work.codes code member)
  | answered | pending | enrolled | request => exact .inl (kept member)
  | session =>
    unfold insertLoginSession at member
    split at member <;> exact .inl (kept member)
  | consent =>
    unfold consentGranted at member
    split at member <;> exact .inl (kept member)
  | code valid grounds =>
    unfold createCode at member
    split at member
    · cases member with
      | head => exact .inr ⟨_, _, _, _, valid, grounds, rfl, rfl⟩
      | tail _ older => exact .inl (kept older)
    · exact .inl (kept member)

theorem Write.credentials (keyed : Keyed s)
    {credential : WebAuthnCredential} (member : credential ∈ s'.webAuthnCredentials) :
    credential ∈ s.webAuthnCredentials ∨
      userRealm s' credential.userId = some credential.realmId := by
  cases write with
  | others work => exact work.credentials keyed credential member
  | answered | pending | enrolled | request => exact .inl member
  | session =>
    unfold insertLoginSession at *
    split at member <;> exact .inl member
  | consent =>
    unfold consentGranted at *
    split at member <;> exact .inl member
  | code =>
    unfold createCode at *
    split at member <;> exact .inl member

theorem Write.owned (owned : Owned s) : Owned s' := by
  have users : ∀ {id realmId}, userRealm s id = some realmId → userRealm s' id = some realmId :=
    write.users owned.keyed
  constructor
  · exact write.keyed owned.keyed
  · intro sess m
    obtain old | ⟨known, -⟩ := write.sessions m
    · exact users (owned.sessions sess old)
    · exact users known
  · intro act m pauses
    obtain ⟨old, isOld, still, isUser, isRealm, -⟩ | ⟨known, -⟩ := write.pendingActions m pauses
    · exact isUser ▸ isRealm ▸ users (owned.pending old isOld still)
    · exact users known
  · intro cred m
    obtain old | registered := write.credentials owned.keyed m
    · exact users (owned.credentials cred old)
    · exact registered
  · intro req m
    obtain old | grounds := write.requests m
    · exact (owned.requests req old).write write owned.keyed
    · exact grounds.owned.write write owned.keyed
  · intro sess m
    obtain old | ⟨-, established⟩ := write.sessions m
    · exact (owned.established sess old).mono write.log
    · exact established
  · intro act m pauses verified
    obtain ⟨old, isOld, still, isUser, -, same | answered⟩ | ⟨-, unverified⟩ :=
      write.pendingActions m pauses
    · exact isUser ▸ write.log.subset (owned.enrolled old isOld still (same ▸ verified))
    · exact write.log.subset answered
    · rw [unverified] at verified
      cases verified

end

theorem Others.owned (work : Others s s') (owned : Owned s) : Owned s' :=
  let visit : Visit := ⟨0, "", {}, .showConsent none⟩
  (.others work : Write visit s s s').owned owned

theorem Chain.owned (owned : Owned start) (chain : Chain visit start s) : Owned s := by
  induction chain with
  | refl => exact owned
  | tail _ write ih => exact write.owned ih

theorem Chain.clients (chain : Chain visit start s) : s.clients = start.clients := by
  induction chain with
  | refl => rfl
  | tail _ write ih => exact write.clients.trans ih

end Preservation

end Idenplane.Login
