import Idenplane.Auth.Grants

/-! # When a grant returns tokens

A request that runs without interruption returns tokens exactly when its handler's
checks all pass.  For each handler these checks are stated on the database the request
finds.
-/

namespace Idenplane.Auth

open Atomic Prog

variable {acr : Option String} {amr : List String} {i : Nat}

section Outcomes

variable {d : Deps} {s s' : Store}

/-- The client that a request authenticates as in this database. -/
structure Accepts (d : Deps) (realm : Realm) (body : Body) (grantType : String) (s : Store)
    (client : Client) : Prop where
  found : findClient realm.id client.clientId s = some client
  authenticated : Authenticated d realm body.client_id body.client_secret grantType client

variable {α : Type} {rest : Unit → Op α} {a : α}

theorem authenticateClient_bind_ok {c : Client} {sec : Option String} :
    (authenticateClient d c sec >>= rest).run s = (.ok a, s') ↔
      (c.clientType = .CONFIDENTIAL → ∃ secret hash, given sec = some secret ∧
        given c.clientSecret = some hash ∧ d.verifyPassword hash secret = some true) ∧
      (rest ()).run s = (.ok a, s') := by
  unfold authenticateClient
  cases c.clientType with
  | PUBLIC => simp
  | CONFIDENTIAL =>
    rw [run_bind_ok]
    simp only [checkClientSecret, run_orFail_bind_ok, run_require_ok]
    constructor
    · rintro ⟨_, _, ⟨secret, isSecret, hash, isHash, valid, isValid, passed, rfl⟩, done_⟩
      exact ⟨fun _ => ⟨secret, hash, isSecret, isHash, passed ▸ isValid⟩, done_⟩
    · rintro ⟨checked, done_⟩
      obtain ⟨secret, hash, isSecret, isHash, isValid⟩ := checked trivial
      exact ⟨(), s, ⟨secret, isSecret, hash, isHash, true, isValid, rfl, rfl⟩, done_⟩

variable {r : Realm} {body : Body}

theorem validateClient_bind_ok {grantType : String} {rest : Client → Op α} :
    (validateClient d r body.client_id body.client_secret grantType >>= rest).run s = (.ok a, s') ↔
      ∃ c, Accepts d r body grantType s c ∧ (rest c).run s = (.ok a, s') := by
  rw [run_bind_ok]
  simp only [validateClient, run_orFail_bind_ok, run_read_bind,
    run_require_bind_ok, authenticateClient_bind_ok, pure_def, run_done,
    Prod.mk.injEq, ok.injEq, filter_eq_some_iff]
  constructor
  · rintro ⟨_, _, ⟨id, isGiven, c, ⟨hit, enabled⟩, allows, sec, rfl, rfl⟩, done_⟩
    obtain ⟨inRealm, rfl⟩ := findClient_spec hit
    exact ⟨c, ⟨hit, ⟨inRealm, isGiven, enabled, allows, sec⟩⟩, done_⟩
  · rintro ⟨c, ⟨hit, inRealm, isGiven, enabled, allows, sec⟩, done_⟩
    exact ⟨c, s, ⟨c.clientId, isGiven, c, ⟨hit, enabled⟩, allows, sec, rfl, rfl⟩, done_⟩

/-- Nothing about the realm or the roles of the user stops an issuance. -/
structure Issuable (realm : Realm) (user : User) (s : Store) : Prop where
  key : (getActiveSigningKey s realm.id).isSome
  roles : (resourceAccess s (allRoles s user.id)).isSome

structure SameAccounts (s s' : Store) : Prop where
  users : s'.users = s.users
  clients : s'.clients = s.clients
  roles : s'.roles = s.roles
  userRoles : s'.userRoles = s.userRoles
  groups : s'.groups = s.groups
  userGroups : s'.userGroups = s.userGroups
  groupRoles : s'.groupRoles = s.groupRoles
  signingKeys : s'.signingKeys = s.signingKeys

theorem SameAccounts.refl (s : Store) : SameAccounts s s :=
  ⟨rfl, rfl, rfl, rfl, rfl, rfl, rfl, rfl⟩

theorem SameAccounts.trans {a b c : Store} (ab : SameAccounts a b) (bc : SameAccounts b c) :
    SameAccounts a c :=
  ⟨bc.users.trans ab.users, bc.clients.trans ab.clients, bc.roles.trans ab.roles,
    bc.userRoles.trans ab.userRoles, bc.groups.trans ab.groups,
    bc.userGroups.trans ab.userGroups, bc.groupRoles.trans ab.groupRoles,
    bc.signingKeys.trans ab.signingKeys⟩

theorem SessionWork.accounts (work : SessionWork s s') : SameAccounts s s' :=
  ⟨(congrArg Store.users work.rest :), (congrArg Store.clients work.rest :),
    (congrArg Store.roles work.rest :), (congrArg Store.userRoles work.rest :),
    (congrArg Store.groups work.rest :), (congrArg Store.userGroups work.rest :),
    (congrArg Store.groupRoles work.rest :), (congrArg Store.signingKeys work.rest :)⟩

theorem Issuable.same (r : Realm) (u : User) (same : SameAccounts s s') :
    Issuable r u s' ↔ Issuable r u s := by
  have key : getActiveSigningKey s' r.id = getActiveSigningKey s r.id := by
    simp only [getActiveSigningKey, same.signingKeys]
  have rs : resourceAccess s' (allRoles s' u.id) = resourceAccess s (allRoles s u.id) := by
    rw [resourceAccess_congr same.clients,
      allRoles_congr same.roles same.groups same.groupRoles same.userRoles same.userGroups]
  constructor
  · intro h
    exact ⟨key ▸ h.key, rs ▸ h.roles⟩
  · intro h
    exact ⟨key ▸ h.key, rs ▸ h.roles⟩

theorem accessTokenPayload_isSome (d : Deps) (issue : Issue) :
    (issue.accessTokenPayload d s).isSome =
      (resourceAccess s (allRoles s issue.user.id)).isSome := by
  cases hit : resourceAccess s (allRoles s issue.user.id) <;> simp [Issue.accessTokenPayload, hit]

def Issue.accessToken (issue : Issue) (d : Deps) (key : RealmSigningKey) (payload : Claims)
    (s : Store) : Jwt :=
  stamp (enrichToken d payload issue.user issue.realm.name) key.id
    (.accessToken issue.user.id issue.sessionId) issue.realm.accessTokenLifespan s

def signedStore (jwt : Jwt) (s : Store) : Store :=
  { s with supply := s.supply + 1, signed := jwt :: s.signed }

theorem buildIdToken_ok (d : Deps) (issue : Issue) (tok : Jwt) (key : Nat) (s : Store) :
    ∃ idToken t, (buildIdToken d issue tok key).run s = (.ok idToken, t) := by
  unfold buildIdToken
  split
  · exact ⟨_, _, rfl⟩
  · exact ⟨_, _, rfl⟩

variable {issue : Issue} {ans : TokenResponse}

theorem issueTokens_ok : (issueTokens d issue).run s = (.ok ans, s') ↔
      ∃ key pl raw idToken, getActiveSigningKey s issue.realm.id = some key ∧
        issue.accessTokenPayload d s = some pl ∧
        (createRefreshToken issue (signedStore (issue.accessToken d key pl s) s)).1 = some raw ∧
        (buildIdToken d issue (issue.accessToken d key pl s) key.id).run
          (createRefreshToken issue (signedStore (issue.accessToken d key pl s) s)).2 =
            (.ok idToken, s') ∧
        ans =
          { accessToken := issue.accessToken d key pl s
            expiresIn := issue.realm.accessTokenLifespan
            refreshToken := some raw
            scope := some issue.validatedScope
            sessionState := some issue.sessionId
            idToken := idToken } := by
  simp only [issueTokens, run_read_bind, run_orFail_bind_ok, signJwt, run_atomic_bind]
  constructor
  · rintro ⟨key, isKey, pl, isPayload, raw, isRaw, done_⟩
    obtain ⟨idToken, t, isIdToken, same⟩ := run_bind_ok.mp done_
    obtain ⟨rfl, rfl⟩ := same
    exact ⟨key, pl, raw, idToken, isKey, isPayload, isRaw, isIdToken, rfl⟩
  · rintro ⟨key, pl, raw, idToken, isKey, isPayload, isRaw, isIdToken, rfl⟩
    exact ⟨key, isKey, pl, isPayload, raw, isRaw, run_bind_ok.mpr ⟨idToken, s', isIdToken, rfl⟩⟩

theorem issueTokens_origin (done_ : (issueTokens d issue).run s = (.ok ans, s')) :
    ans.accessToken.origin = .accessToken issue.user.id issue.sessionId := by
  obtain ⟨key, pl, raw, idToken, -, -, -, -, rfl⟩ := issueTokens_ok.mp done_
  rfl

theorem createRefreshToken_fst (issue : Issue) (s : Store) : (createRefreshToken issue s).1 =
    if s.sessions.any (·.id = issue.sessionId) then some s.supply else none := by
  unfold createRefreshToken
  split <;> rfl

theorem signedStore_created {jwt : Jwt} {raw : Nat} :
    (createRefreshToken issue (signedStore jwt s)).1 = some raw ↔
      s.sessions.any (·.id = issue.sessionId) = true ∧ raw = s.supply + 1 := by
  rw [createRefreshToken_fst]
  by_cases sess : s.sessions.any (·.id = issue.sessionId) = true
  · simp [signedStore, sess, eq_comm]
  · simp [signedStore, sess]

theorem issueTokens_total : (∃ ans t, (issueTokens d issue).run s = (.ok ans, t)) ↔
      Issuable issue.realm issue.user s ∧ s.sessions.any (·.id = issue.sessionId) = true := by
  constructor
  · rintro ⟨ans, t, done_⟩
    obtain ⟨key, pl, raw, idToken, isKey, isPayload, isRaw, -⟩ := issueTokens_ok.mp done_
    refine ⟨⟨by rw [isKey]; rfl, ?_⟩, (signedStore_created.mp isRaw).1⟩
    rw [← accessTokenPayload_isSome d, isPayload]
    rfl
  · rintro ⟨issuable, sess⟩
    obtain ⟨key, isKey⟩ := isSome_iff_exists.mp issuable.key
    have isSome := issuable.roles
    rw [← accessTokenPayload_isSome d] at isSome
    obtain ⟨pl, isPayload⟩ := isSome_iff_exists.mp isSome
    have new : (createRefreshToken issue
        (signedStore (issue.accessToken d key pl s) s)).1 = some (s.supply + 1) :=
      signedStore_created.mpr ⟨sess, rfl⟩
    obtain ⟨idToken, t, isIdToken⟩ := buildIdToken_ok d issue (issue.accessToken d key pl s) key.id
      (createRefreshToken issue (signedStore (issue.accessToken d key pl s) s)).2
    exact ⟨_, t, issueTokens_ok.mpr ⟨key, pl, _, idToken, isKey, isPayload, new, isIdToken, rfl⟩⟩

theorem SessionWork.of_run {p : Op α} (works : p.Keeps SessionWork)
    {res : Except Failure α} (h : p.run s = (res, s')) : SessionWork s s' := by
  have work := works.run .refl .trans s
  rw [h] at work
  exact work

theorem enforceSessionLimit_ok (r : Realm) (uid : Nat) :
    ∃ t, (enforceSessionLimit r uid).run s = (.ok (), t) ∧ SessionWork s t := by
  have ok : ∃ t, (enforceSessionLimit r uid).run s = (.ok (), t) := by
    unfold enforceSessionLimit
    split
    · exact ⟨s, rfl⟩
    · rw [run_read_bind]
      split
      · exact ⟨_, rfl⟩
      · exact ⟨s, rfl⟩
  obtain ⟨t, done_⟩ := ok
  exact ⟨t, done_, .of_run (enforceSessionLimit_works r uid) done_⟩

theorem startSession_ok : (startSession d acr amr issue).run s = (.ok ans, s') ↔
      ∃ t, (enforceSessionLimit issue.realm issue.user.id).run s = (.ok (), t) ∧
        SessionWork s t ∧ s.users.any (·.id = issue.user.id) = true ∧
        (issueTokens d { issue with sessionId := t.supply, authTime := some t.now }).run
          (createSession issue.realm issue.user.id acr amr t).2 = (.ok ans, s') := by
  obtain ⟨t, limited, work⟩ := enforceSessionLimit_ok (s := s) issue.realm issue.user.id
  have users := work.accounts.users
  unfold startSession
  rw [run_bind, limited]
  simp only [run_atomic_bind, run_orFail_bind_ok, run_read_bind]
  by_cases known : s.users.any (·.id = issue.user.id) = true
  · have new : createSession issue.realm issue.user.id acr amr t =
        (some t.supply, (createSession issue.realm issue.user.id acr amr t).2) := by
      unfold createSession
      rw [users, if_pos known]
    have time : (createSession issue.realm issue.user.id acr amr t).2.now = t.now := by
      unfold createSession
      split <;> rfl
    constructor
    · rintro ⟨sessionId, isSession, done_⟩
      rw [new] at isSession
      cases isSession
      rw [time] at done_
      exact ⟨t, rfl, work, known, done_⟩
    · rintro ⟨t', same, -, -, done_⟩
      cases same
      exact ⟨t.supply, by rw [new], by rw [time]; exact done_⟩
  · have refused : (createSession issue.realm issue.user.id acr amr t).1 = none := by
      unfold createSession
      rw [users, if_neg known]
    rw [refused]
    simp [known]

theorem startSession_origin (done_ : (startSession d acr amr issue).run s = (.ok ans, s')) :
    ∃ sessionId, ans.accessToken.origin = .accessToken issue.user.id sessionId := by
  obtain ⟨t, -, -, -, issued⟩ := startSession_ok.mp done_
  have origin := issueTokens_origin issued
  exact ⟨t.supply, origin⟩

theorem createSession_ok (r : Realm) {uid : Nat} (acr : Option String)
    (amr : List String) (known : s.users.any (·.id = uid) = true) :
    (createSession r uid acr amr s).2.sessions.any (·.id = s.supply) = true := by
  unfold createSession
  rw [if_pos known]
  simp

theorem startSession_total : (∃ ans t, (startSession d acr amr issue).run s = (.ok ans, t)) ↔
      Issuable issue.realm issue.user s ∧ s.users.any (·.id = issue.user.id) = true := by
  obtain ⟨u, limited, work⟩ := enforceSessionLimit_ok (s := s) issue.realm issue.user.id
  have works : SessionWork s (createSession issue.realm issue.user.id acr amr u).2 :=
    work.trans (createSession_works issue.realm issue.user.id acr amr u)
  have issued : (∃ ans t, (issueTokens d
      { issue with sessionId := u.supply, authTime := some u.now }).run
        (createSession issue.realm issue.user.id acr amr u).2 = (.ok ans, t)) ↔ _ :=
    issueTokens_total
  have issuable := Issuable.same issue.realm issue.user works.accounts
  constructor
  · rintro ⟨ans, t, done_⟩
    obtain ⟨u', limited', -, known, done_⟩ := startSession_ok.mp done_
    rw [limited] at limited'
    cases limited'
    exact ⟨issuable.mp (issued.mp ⟨ans, t, done_⟩).1, known⟩
  · rintro ⟨allowed, known⟩
    have session := createSession_ok issue.realm acr amr
      (work.accounts.users ▸ known : u.users.any (·.id = issue.user.id) = true)
    obtain ⟨ans, t, done_⟩ := issued.mpr ⟨issuable.mpr allowed, session⟩
    exact ⟨ans, t, startSession_ok.mpr ⟨u, limited, work, known, done_⟩⟩

structure RefreshAccepted (d : Deps) (realm : Realm) (body : Body) (s : Store)
    (stored : StoredToken) : Prop where
  client : ∃ client, Accepts d realm body "refresh_token" s client
  found : ∃ presented, body.refresh_token = some presented ∧
    findRefreshToken (sha256 presented) s = some stored
  unrevoked : stored.token.revoked = false
  unexpired : s.now ≤ stored.token.expiresAt
  issuedTo : stored.token.clientId = body.client_id

theorem acceptRefreshToken_bind_ok {now : Int} {hit : Option StoredToken}
    {rest : StoredToken → Op α} :
    (acceptRefreshToken i now hit >>= rest).run s = (.ok a, s') ↔
      ∃ row, hit = some row ∧ row.token.revoked = false ∧
        now ≤ row.token.expiresAt ∧ (rest row).run s = (.ok a, s') := by
  cases hit with
  | none => simp [acceptRefreshToken]
  | some row =>
    simp only [acceptRefreshToken]
    by_cases revoked : row.token.revoked = true
    · simp [revoked, modify]
    · by_cases expired : row.token.expiresAt < now
      · simp [revoked, expired, not_le.mpr expired]
      · simp [revoked, expired, not_lt.mp expired]

theorem rotateToken_found {tok : RefreshToken} (isRow : tok ∈ s.refreshTokens) :
    (rotateToken i tok s).1 = true := by
  unfold rotateToken
  rw [if_pos (any_eq_true.mpr ⟨tok, isRow, by simp⟩)]

theorem rotateToken_accounts (i : Nat) (tok : RefreshToken) (s : Store) :
    SameAccounts s (rotateToken i tok s).2 := by
  unfold rotateToken
  split
  · exact ⟨rfl, rfl, rfl, rfl, rfl, rfl, rfl, rfl⟩
  · exact .refl s

theorem rotateToken_sessions (i : Nat) (tok : RefreshToken) (s : Store) :
    (rotateToken i tok s).2.sessions = s.sessions := by
  unfold rotateToken
  split <;> rfl

theorem findRefreshToken_spec {hash : Sha256} {row : StoredToken}
    (hit : findRefreshToken hash s = some row) :
    row.token ∈ s.refreshTokens ∧ row.token.tokenHash = hash ∧
      s.sessions.find? (·.id = row.token.sessionId) = some row.session ∧
      findUserById row.session.userId s = some row.user := by
  simp only [findRefreshToken, bind_eq_bind, bind_eq_some_iff, some.injEq] at hit
  obtain ⟨tok, isToken, sess, isSession, u, isUser, rfl⟩ := hit
  exact ⟨mem_of_find?_eq_some isToken, by simpa using find?_some isToken, isSession, isUser⟩

theorem handleRefreshTokenGrant_ok : (handleRefreshTokenGrant d i r body).run s = (.ok ans, s') ↔
      ∃ row, RefreshAccepted d r body s row ∧ (issueTokens d (refreshIssue i r body row)).run
          (rotateToken i row.token s).2 = (.ok ans, s') := by
  simp only [handleRefreshTokenGrant, run_orFail_bind_ok, validateClient_bind_ok,
    run_read_bind, acceptRefreshToken_bind_ok, run_require_bind_ok,
    run_atomic_bind, decide_eq_true_eq]
  constructor
  · rintro ⟨presented, isPresented, c, accepts, row, hit, unrevoked, unexpired, -,
      issuedTo, -, done_⟩
    exact ⟨row, ⟨⟨c, accepts⟩, ⟨presented, isPresented, hit⟩, unrevoked, unexpired,
      issuedTo⟩, done_⟩
  · rintro ⟨row, ⟨⟨c, accepts⟩, ⟨presented, isPresented, hit⟩, unrevoked, unexpired,
      issuedTo⟩, done_⟩
    have named := given_eq_some.mp accepts.authenticated.clientId
    refine ⟨presented, isPresented, c, accepts, row, hit, unrevoked, unexpired, ?_,
      issuedTo, rotateToken_found (findRefreshToken_spec hit).1, done_⟩
    rw [issuedTo, named.1]
    simpa [truthy] using named.2

structure CodeAccepted (d : Deps) (realm : Realm) (body : Body) (s : Store) (client : Client)
    (row : AuthorizationCode) (user : User) : Prop where
  accepts : Accepts d realm body "authorization_code" s client
  found : ∃ code, body.code = some code ∧
    s.authorizationCodes.find? (claimable code s.now) = some row
  issuedTo : row.clientId = client.id
  redirectUri : some row.redirectUri = body.redirect_uri
  challenge : client.clientType = .PUBLIC → truthy row.codeChallenge = true
  verifier : ∀ challenge, given row.codeChallenge = some challenge →
    ∃ verifier, given body.code_verifier = some verifier ∧ pkceChallenge d verifier = challenge
  isUser : findUserById row.userId s = some user
  unlocked : isLocked realm user s.now = false

def codeIssue (realm : Realm) (body : Body) (row : AuthorizationCode) (user : User) : Issue where
  realm := realm
  user := user
  clientId := body.clientId
  sessionId := 0
  scope := row.scope
  nonce := row.nonce
  acr := some (row.satisfiedAcr.getD ACR_PASSWORD)
  amr := if row.amr.isEmpty then ["pwd"] else row.amr
  code := some row.code

theorem checkCodeVerifier_bind_ok {codeChallenge codeVerifier : Option String} :
    (checkCodeVerifier d codeChallenge codeVerifier >>= rest).run s = (.ok a, s') ↔
      (∀ chal, given codeChallenge = some chal → ∃ verifier,
        given codeVerifier = some verifier ∧ pkceChallenge d verifier = chal) ∧
      (rest ()).run s = (.ok a, s') := by
  unfold checkCodeVerifier
  cases given codeChallenge with
  | none => simp
  | some chal =>
    rw [run_bind_ok]
    simp only [run_orFail_bind_ok, run_require_ok, decide_eq_true_eq]
    constructor
    · rintro ⟨_, _, ⟨verifier, isVerifier, same, rfl⟩, done_⟩
      refine ⟨?_, done_⟩
      intro chal' isChallenge
      cases isChallenge
      exact ⟨verifier, isVerifier, same⟩
    · rintro ⟨checked, done_⟩
      obtain ⟨verifier, isVerifier, same⟩ := checked chal rfl
      exact ⟨(), s, ⟨verifier, isVerifier, same, rfl⟩, done_⟩

theorem claimCode_accounts (i : Nat) (c : Client) (code : Nat) (s : Store) :
    SameAccounts s (claimCode i c code s).2 := by
  unfold claimCode
  split
  · exact ⟨rfl, rfl, rfl, rfl, rfl, rfl, rfl, rfl⟩
  · exact .refl s

theorem claimCode_now (i : Nat) (c : Client) (code : Nat) (s : Store) :
    (claimCode i c code s).2.now = s.now := by
  unfold claimCode
  split <;> rfl

theorem claimCode_fst (i : Nat) (c : Client) (code : Nat) (s : Store) : (claimCode i c code s).1 =
      (s.authorizationCodes.find? (claimable code s.now)).map fun row => { row with used := true } := by
  unfold claimCode
  split <;> simp_all

theorem handleAuthorizationCodeGrant_ok :
    (handleAuthorizationCodeGrant d i r body).run s = (.ok ans, s') ↔
      ∃ c row u, CodeAccepted d r body s c row u ∧
        (startSession d (some (row.satisfiedAcr.getD ACR_PASSWORD))
          (if row.amr.isEmpty then ["pwd"] else row.amr) (codeIssue r body row u)).run
            (claimCode i c row.code s).2 = (.ok ans, s') := by
  have code_eq : ∀ {code : Nat} {row : AuthorizationCode},
      s.authorizationCodes.find? (claimable code s.now) = some row → row.code = code := by
    intro code row hit
    have passes := find?_some hit
    simp only [claimable, and_eq_true, decide_eq_true_eq] at passes
    exact passes.1.1
  simp only [handleAuthorizationCodeGrant, run_orFail_bind_ok, validateClient_bind_ok,
    run_read_bind, run_require_bind_ok, run_atomic_bind, checkCodeVerifier_bind_ok,
    decide_eq_true_eq, (claimCode_accounts i _ _ s).users, claimCode_now, findUserById,
    claimCode_fst, map_eq_some_iff]
  constructor
  · rintro ⟨code, isCode, c, accepts, _, ⟨row, hit, rfl⟩, issuedTo, redirectUri, chal,
      verifier, u, isUser, unlocked, done_⟩
    obtain rfl := code_eq hit
    refine ⟨c, row, u, ⟨accepts, ⟨_, isCode, hit⟩, issuedTo, redirectUri, ?_, verifier,
      isUser, by simpa using unlocked⟩, done_⟩
    intro isPublic
    simpa [isPublic] using chal
  · rintro ⟨c, row, u, ⟨accepts, ⟨code, isCode, hit⟩, issuedTo, redirectUri, chal,
      verifier, isUser, unlocked⟩, done_⟩
    obtain rfl := code_eq hit
    refine ⟨row.code, isCode, c, accepts, _, ⟨row, hit, rfl⟩, issuedTo, redirectUri, ?_,
      verifier, u, isUser, by simpa using unlocked, done_⟩
    cases kind : c.clientType with
    | CONFIDENTIAL => rfl
    | PUBLIC => simpa using chal kind

structure DeviceAccepted (d : Deps) (realm : Realm) (body : Body) (s : Store)
    (device : DeviceCode) (user : User) : Prop where
  client : ∃ client, Accepts d realm body DEVICE_URN s client
  found : ∃ presented, body.device_code = some presented ∧
    s.deviceCodes.find? (·.deviceCode = presented) = some device
  inRealm : device.realmId = realm.id
  unexpired : s.now ≤ device.expiresAt
  undenied : device.denied = false
  approved : device.approved = true
  patient : tooEarly device s.now = false
  isUser : ∃ userId, device.userId = some userId ∧ findUserById userId s = some user
  noSecondFactor : isMfaRequired realm user.id s = false

def deviceIssue (realm : Realm) (body : Body) (device : DeviceCode) (user : User) : Issue where
  realm := realm
  user := user
  clientId := body.clientId
  sessionId := 0
  scope := device.scope

/-- The store when the device is found to poll in time and its code is spent. -/
def deviceSpent (device : DeviceCode) (s : Store) : Store :=
  (deviceDeleted device.id (deviceUpdated device.id polledAt s).2).2

variable {device : DeviceCode}

theorem deviceUpdated_found (isRow : device ∈ s.deviceCodes) :
    (deviceUpdated device.id polledAt s).1 = true :=
  any_eq_true.mpr ⟨device, isRow, by simp⟩

theorem deviceDeleted_found (isRow : device ∈ s.deviceCodes) :
    (deviceDeleted device.id (deviceUpdated device.id polledAt s).2).1 = true := by
  refine any_eq_true.mpr ⟨polledAt s.now device, ?_, by simp [polledAt]⟩
  exact mem_map.mpr ⟨device, isRow, by simp⟩

theorem refuseEarlyPoll_bind_ok {early : Bool} : (refuseEarlyPoll device early >>= rest).run s = (.ok a, s') ↔
      early = false ∧ (rest ()).run s = (.ok a, s') := by
  cases early with
  | false => simp [refuseEarlyPoll]
  | true =>
    simp only [refuseEarlyPoll, if_true, run_bind_ok, run_atomic, run_fail]
    simp

theorem deviceSpent_accounts (device : DeviceCode) (s : Store) :
    SameAccounts s (deviceSpent device s) :=
  ⟨rfl, rfl, rfl, rfl, rfl, rfl, rfl, rfl⟩

theorem handleDeviceCodeGrant_ok : (handleDeviceCodeGrant d r body).run s = (.ok ans, s') ↔
      ∃ device u, DeviceAccepted d r body s device u ∧
        (startSession d none [] (deviceIssue r body device u)).run
          (deviceSpent device s) = (.ok ans, s') := by
  simp only [handleDeviceCodeGrant, run_orFail_bind_ok, validateClient_bind_ok,
    run_read_bind, run_require_bind_ok, run_atomic_bind, refuseEarlyPoll_bind_ok,
    decide_eq_true_eq, filter_eq_some_iff, Bool.not_eq_eq_eq_not, Bool.not_true,
    decide_eq_false_iff_not, not_lt]
  constructor
  · rintro ⟨presented, isPresented, c, accepts, device, ⟨hit, inRealm⟩, unexpired, undenied,
      approved, uid, isUserId, patient, -, u, isUser, -, noSecondFactor, -, done_⟩
    exact ⟨device, u, ⟨⟨c, accepts⟩, ⟨presented, isPresented, hit⟩, inRealm, unexpired,
      undenied, approved, patient, ⟨uid, isUserId, isUser⟩, noSecondFactor⟩, done_⟩
  · rintro ⟨device, u, ⟨⟨c, accepts⟩, ⟨presented, isPresented, hit⟩, inRealm, unexpired,
      undenied, approved, patient, ⟨uid, isUserId, isUser⟩, noSecondFactor⟩, done_⟩
    have isRow := mem_of_find?_eq_some hit
    have notEnabled : isMfaEnabled s u.id = false := by
      simp only [isMfaRequired, Bool.or_eq_false_iff] at noSecondFactor
      exact noSecondFactor.2
    exact ⟨presented, isPresented, c, accepts, device, ⟨hit, inRealm⟩, unexpired, undenied,
      approved, uid, isUserId, patient, deviceUpdated_found isRow, u, isUser, notEnabled,
      noSecondFactor, deviceDeleted_found isRow, done_⟩

def attempted (i token : Nat) (s : Store) : Store := (spendAttempt i (sha256 token) s).2

/-- The challenge a request may answer, the factor it answers with, and the database
after the answer was checked. -/
structure MfaAccepted (d : Deps) (i : Nat) (realm : Realm) (body : Body) (s : Store)
    (token : Nat) (challenge : PendingAction) (factor : VerifiedFactor) (t : Store)
    (user : User) : Prop where
  client : ∃ client, Accepts d realm body MFA_OTP_URN s client
  presented : body.mfa_token = some token
  answerable : (spendAttempt i (sha256 token) s).1 ≠ 0
  found : (attempted i token s).pendingActions.find? (·.tokenHash = sha256 token) = some challenge
  inRealm : challenge.realmId = realm.id
  issuedTo : truthy challenge.clientId = true → challenge.clientId = body.client_id
  verified : ∃ otp, given body.otp = some otp ∧
    (verifySecondFactor d i token challenge.userId (body.secondFactor realm token otp)).run
      (attempted i token s) = (.ok (some factor), t)
  consumed : (claimChallenge i (sha256 token) t).1 = 1
  isUser : findUserById challenge.userId t = some user

def mfaIssue (realm : Realm) (body : Body) (user : User) : Issue where
  realm := realm
  user := user
  clientId := body.clientId
  sessionId := 0
  scope := body.scope
  acr := some ACR_MFA
  amr := ["pwd", "otp"]

theorem validateMfaChallenge_bind_ok {i tok : Nat} {e : Failure} {rest : PendingAction → Op α} :
    (validateMfaChallengeWithAttemptCheck i tok >>= fun hit =>
        orFail hit e >>= rest).run s = (.ok a, s') ↔
      (spendAttempt i (sha256 tok) s).1 ≠ 0 ∧ ∃ chal,
        (attempted i tok s).pendingActions.find? (·.tokenHash = sha256 tok) = some chal ∧
        (rest chal).run (attempted i tok s) = (.ok a, s') := by
  rw [run_bind_ok]
  simp only [validateMfaChallengeWithAttemptCheck, run_atomic_bind]
  by_cases none_ : (spendAttempt i (sha256 tok) s).1 = 0
  · simp [none_, run_orFail_bind_ok]
  · simp only [none_, if_false, run_read, Prod.mk.injEq, ok.injEq, ne_eq,
      not_false_eq_true, true_and, run_orFail_bind_ok]
    constructor
    · rintro ⟨hit, t, ⟨rfl, rfl⟩, done_⟩
      exact done_
    · intro done_
      exact ⟨_, _, ⟨rfl, rfl⟩, done_⟩

theorem consumeMfaChallenge_bind {i tok : Nat} {rest : Bool → Op α} :
    (consumeMfaChallenge i tok >>= rest).run s =
      (rest ((claimChallenge i (sha256 tok) s).1 = 1)).run (claimChallenge i (sha256 tok) s).2 :=
  rfl

theorem claimChallenge_users (i : Nat) (th : Sha256) (s : Store) :
    (claimChallenge i th s).2.users = s.users := rfl

theorem handleMfaOtpGrant_ok : (handleMfaOtpGrant d i r body).run s = (.ok ans, s') ↔
      ∃ tok chal factor t user, MfaAccepted d i r body s tok chal factor t user ∧
        (startSession d (some ACR_MFA) ["pwd", if factor = .sms then "sms" else "otp"]
          (mfaIssue r body user)).run (claimChallenge i (sha256 tok) t).2 = (.ok ans, s') := by
  have verify_bind : ∀ (tok uid : Nat) (input : SecondFactorInput) (t : Store)
      (rest : Option VerifiedFactor → Op TokenResponse),
      (verifySecondFactor d i tok uid input >>= rest).run t = (.ok ans, s') ↔
        ∃ verified u, (verifySecondFactor d i tok uid input).run t = (.ok verified, u) ∧
          (rest verified).run u = (.ok ans, s') := fun _ _ _ _ _ => run_bind_ok
  simp only [handleMfaOtpGrant, run_orFail_bind_ok, validateClient_bind_ok,
    validateMfaChallenge_bind_ok, run_require_bind_ok, verify_bind, consumeMfaChallenge_bind,
    run_read_bind, decide_eq_true_eq, findUserById, claimChallenge_users]
  constructor
  · rintro ⟨c, accepts, tok, isToken, otp, isOtp, answerable, chal, hit, inRealm,
      issuedTo, _, t, verified, factor, rfl, consumed, user, isUser, done_⟩
    refine ⟨tok, chal, factor, t, user, ⟨⟨c, accepts⟩, isToken, answerable, hit,
      inRealm, ?_, ⟨otp, isOtp, verified⟩, consumed, isUser⟩, done_⟩
    intro hasClient
    simpa [hasClient] using issuedTo
  · rintro ⟨tok, chal, factor, t, user, ⟨⟨c, accepts⟩, isToken, answerable, hit,
      inRealm, issuedTo, ⟨otp, isOtp, verified⟩, consumed, isUser⟩, done_⟩
    refine ⟨c, accepts, tok, isToken, otp, isOtp, answerable, chal, hit, inRealm, ?_,
      _, t, verified, factor, rfl, consumed, user, isUser, done_⟩
    cases hasClient : truthy chal.clientId with
    | false => rfl
    | true => simpa using issuedTo hasClient

def cappedStore (realm : Realm) (user : User) (s : Store) : Store :=
  ((capSessions user.id).run (createSession realm user.id none [] s).2).2

def serviceIssue (realm : Realm) (body : Body) (user : User) (s : Store) : Issue where
  realm := realm
  user := user
  clientId := body.clientId
  sessionId := s.supply
  scope := body.scope
  authTime := some (cappedStore realm user s).now

theorem capSessions_ok (uid : Nat) :
    ∃ t, (capSessions uid).run s = (.ok (), t) ∧ SessionWork s t := by
  simp only [capSessions, run_read_bind]
  split
  · exact ⟨s, rfl, .refl s⟩
  · exact ⟨_, rfl, ⟨le_rfl, rfl⟩⟩

theorem cappedStore_works (r : Realm) (u : User) (s : Store) :
    SessionWork s (cappedStore r u s) := by
  obtain ⟨t, done_, work⟩ := capSessions_ok
    (s := (createSession r u.id none [] s).2) u.id
  unfold cappedStore
  rw [done_]
  exact (createSession_works r u.id none [] s).trans work

theorem serviceAccountTokens_ok {u : User} :
    (serviceAccountTokens d r body u).run s = (.ok ans, s') ↔ s.users.any (·.id = u.id) = true ∧
        (issueTokens d (serviceIssue r body u s)).run (cappedStore r u s) = (.ok ans, s') := by
  obtain ⟨t, capped, -⟩ := capSessions_ok (s := (createSession r u.id none [] s).2) u.id
  have isCapped : cappedStore r u s = t := by rw [cappedStore, capped]
  simp only [serviceAccountTokens, run_atomic_bind, run_orFail_bind_ok]
  have cap_bind : ∀ rest : Unit → Op TokenResponse, (capSessions u.id >>= rest).run
      (createSession r u.id none [] s).2 = (rest ()).run t := by
    intro rest
    rw [run_bind, capped]
  simp only [cap_bind, run_read_bind, serviceIssue, isCapped]
  by_cases known : s.users.any (·.id = u.id) = true
  · have created : (createSession r u.id none [] s).1 = some s.supply := by
      unfold createSession
      rw [if_pos known]
    simp [created, known]
  · have refused : (createSession r u.id none [] s).1 = none := by
      unfold createSession
      rw [if_neg known]
    simp [refused, known]

def serviceAccount (client : Client) (s : Store) : Option User :=
  client.serviceAccountUserId.bind (findUserById · s)

theorem handleClientCredentialsGrant_ok :
    (handleClientCredentialsGrant d r body).run s = (.ok ans, s') ↔
      ∃ c, Accepts d r body "client_credentials" s c ∧ ((∃ u, serviceAccount c s = some u ∧
          (serviceAccountTokens d r body u).run s = (.ok ans, s')) ∨
        (serviceAccount c s = none ∧ (clientToken d r body c).run s = (.ok ans, s'))) := by
  simp only [handleClientCredentialsGrant, validateClient_bind_ok, run_read_bind]
  refine exists_congr fun c => and_congr_right fun _ => ?_
  have account : (c.serviceAccountUserId.bind fun id => findUserById id s) =
    serviceAccount c s := rfl
  rw [account]
  cases serviceAccount c s <;> simp

end Outcomes

end Idenplane.Auth
