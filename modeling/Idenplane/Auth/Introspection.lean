import Idenplane.Admin.Auth
import Idenplane.Auth.AccountStatus
import Idenplane.Auth.Context

/-! # Introspection

Introspection takes a signed token or an opaque refresh token.  It verifies a signed token and
looks up what its claims name: the session, and a user.  The token of a client that has no
service account names the client as its subject, and no user has that identifier: such a token
is inactive from the start.  Refresh tokens are inactive outside the realm of their user, although
the token endpoint of another realm may have returned them.
-/

namespace Idenplane.Auth

open Atomic Admin

structure AccessIntrospection where
  active : Bool
  (sub iss aud exp iat scope azp client_id : Option Value)
  username : Option String
  (preferred_username email realm_access resource_access : Option Value)

inductive IntrospectionAnswer where
  | inactive
  | accessToken (described : AccessIntrospection)
  | refreshToken (described : Introspection)

def IntrospectionAnswer.active : IntrospectionAnswer → Bool
  | .inactive => false
  | .accessToken described => described.active
  | .refreshToken described => described.active

inductive Presented where
  | jwt (token : Jwt)
  | opaqueToken (raw : Nat)

def Presented.verified (key : Nat) (now : Int) : Presented → Option Claims
  | .jwt token => verifyJwt token key now
  | .opaqueToken _ => none

section Introspect

/- The answer of the blacklist, and the identifier that a text spells, if it spells one. -/
variable (blacklisted : Value → Bool) (spelled : String → Option Nat)

/-- The identifier that a claim gives.  A query with anything but a text throws. -/
def identifierOf : Value → Option Nat
  | .id id => some id
  | .str text => spelled text
  | _ => none

def givenClaim (payload : Claims) (key : String) : Option Value :=
  (payload key).filter Value.truthy

def isRevoked (payload : Claims) : Bool := (givenClaim payload "jti").any blacklisted

def sessionStands (payload : Claims) (s : Store) : Bool :=
  match givenClaim payload "sid" with
  | none => true
  | some sid => (identifierOf spelled sid).any fun id => s.sessions.any (·.id = id)

/-- The user that a token names as its subject, if it names a subject; none when there is no
such user, or the user is disabled. -/
def findSubject (payload : Claims) (s : Store) : Option (Option User) :=
  match givenClaim payload "sub" with
  | none => some none
  | some sub =>
    (((identifierOf spelled sub).bind (findUserById · s)).filter (·.enabled)).map some

def describe (payload : Claims) (user : Option User) : AccessIntrospection where
  active := true
  sub := payload "sub"
  iss := payload "iss"
  aud := payload "aud"
  exp := payload "exp"
  iat := payload "iat"
  scope := payload "scope"
  azp := payload "azp"
  client_id := payload "azp"
  username := user.map (·.username)
  preferred_username := payload "preferred_username"
  email := payload "email"
  realm_access := payload "realm_access"
  resource_access := payload "resource_access"

def introspectPayload (payload : Claims) : Op IntrospectionAnswer :=
  if isRevoked blacklisted payload then pure .inactive
  else do
    let stands ← read (sessionStands spelled payload)
    if !stands then pure .inactive
    else do
      let subject ← read (findSubject spelled payload)
      match subject with
      | none => pure .inactive
      | some user => pure (.accessToken (describe payload user))

/-- The fallback for what does not verify.  No refresh token has the digest of a signed token. -/
def introspectOther (realm : Realm) : Presented → Op IntrospectionAnswer
  | .jwt _ => pure .inactive
  | .opaqueToken raw => do
    let described ← introspectRefreshToken realm raw
    pure (.refreshToken described)

def introspect (realm : Realm) (token : Presented) : Op IntrospectionAnswer := do
  let signingKey ← read (getActiveSigningKey · realm.id)
  match signingKey with
  | none => pure .inactive
  | some key => do
    let now ← read Store.now
    match token.verified key.id now with
    | some payload => introspectPayload blacklisted spelled payload
    | none => introspectOther realm token

end Introspect

section Lifetime

variable (blacklisted : Value → Bool) (spelled : String → Option Nat)

/-- The client that a token of its own was issued to is enabled; of any other token, the user
that it names as its subject. -/
def EnabledSubject (token : Jwt) (t : Store) : Prop :=
  match token.origin with
  | .clientToken clientId => ∃ client ∈ t.clients, client.id = clientId ∧ client.enabled = true
  | _ => ∀ sub, givenClaim token.payload "sub" = some sub →
      ∃ id user, identifierOf spelled sub = some id ∧ findUserById id t = some user ∧
        user.enabled = true

/-- An access token of the realm that is unexpired and not revoked, whose session, if it has one,
still exists, whose subject is enabled and whose signing key is still the realm's. -/
structure Live (realm : Realm) (token : Jwt) (t : Store) : Prop where
  key : ∃ key, getActiveSigningKey t realm.id = some key ∧ key.id = token.key
  unexpired : ∃ exp, token.payload "exp" = some (.num exp) ∧ t.now / 1000 < exp
  unrevoked : ∀ jti, token.payload "jti" = some jti → blacklisted jti = false
  session : ∀ sid, givenClaim token.payload "sid" = some sid →
    ∃ id, identifierOf spelled sid = some id ∧ ∃ row ∈ t.sessions, row.id = id
  subject : EnabledSubject spelled token t

/-- A refresh token that was not rotated or revoked and is not expired, of an enabled user, in a
realm that still has a signing key. -/
structure RefreshLive (realm : Realm) (raw : Nat) (t : Store) : Prop where
  key : (getActiveSigningKey t realm.id).isSome
  stored : ∃ stored, findRefreshToken (sha256 raw) t = some stored ∧
    stored.token.revoked = false ∧ t.now ≤ stored.token.expiresAt ∧ stored.user.enabled = true

/-- The time from which the token is valid, if a mapper, an attribute or a plugin has set one. -/
def Begun (token : Jwt) (now : Int) : Prop :=
  ∀ nbf, token.payload "nbf" = some nbf → ∃ time, nbf = .num time ∧ time ≤ now / 1000

/-- What the server does not do between two moments: it moves no refresh token to another session,
no session to another user and no user to another realm, and gives no identifier twice. -/
structure Later (s t : Store) : Prop where
  tokens : ∀ row ∈ t.refreshTokens, ∀ old ∈ s.refreshTokens, row.tokenHash = old.tokenHash →
    row.sessionId = old.sessionId
  sessions : ∀ row ∈ t.sessions, ∀ old ∈ s.sessions, row.id = old.id → row.userId = old.userId
  users : ∀ row ∈ t.users, ∀ old ∈ s.users, row.id = old.id → row.realmId = old.realmId
  distinct : ∀ client ∈ s.clients, findUserById client.id t = none

def IntrospectsAs (realm : Realm) (token : Jwt) (t : Store) : Prop :=
  ∃ described,
    ((introspect blacklisted spelled realm (.jwt token)).run t).1 = .ok (.accessToken described) ∧
    described.active = true ∧ described.sub = token.payload "sub" ∧
    described.scope = token.payload "scope" ∧ described.azp = token.payload "azp"

def RefreshIntrospects (realm : Realm) (raw : Nat) (t : Store) : Prop :=
  ∃ answer, ((introspect blacklisted spelled realm (.opaqueToken raw)).run t).1 = .ok answer ∧
    answer.active = true

/-- A client asks for a token of its own, and has no service account. -/
def ClientOnly (d : Deps) (realm : Realm) (body : Body) (s : Store) : Prop :=
  body.grant = some .client_credentials ∧
    ∃ client, Accepts d realm body "client_credentials" s client ∧ serviceAccount client s = none

end Lifetime

section Agreement

variable {blacklisted : Value → Bool} {spelled : String → Option Nat} {d : Deps} {i : Nat}
  {r : Realm} {body : Body} {s s' t : Store} {answer : TokenResponse} {token : Jwt}

theorem verifyJwt_isSome {key : Nat} {now : Int} {exp : Int}
    (expires : token.payload "exp" = some (.num exp)) :
    (∃ pl, verifyJwt token key now = some pl) ↔
      token.key = key ∧ now / 1000 < exp ∧ Begun token now := by
  simp only [verifyJwt, expires, Option.ite_none_right_eq_some, and_eq_true,
    decide_eq_true_eq, Begun]
  cases token.payload "nbf" with
  | none => simp
  | some nbf => cases nbf <;> simp [and_assoc]

theorem introspectsAs_iff {key : RealmSigningKey} (isKey : getActiveSigningKey t r.id = some key) :
    IntrospectsAs blacklisted spelled r token t ↔ (∃ pl, verifyJwt token key.id t.now = some pl) ∧
      isRevoked blacklisted token.payload = false ∧ sessionStands spelled token.payload t = true ∧
      ∃ user, findSubject spelled token.payload t = some user := by
  unfold IntrospectsAs introspect
  simp only [run_read_bind, isKey, Presented.verified]
  cases verified : verifyJwt token key.id t.now with
  | none => simp [introspectOther]
  | some pl =>
    obtain ⟨-, rfl⟩ := verifyJwt_ok verified
    simp only [introspectPayload]
    cases revoked : isRevoked blacklisted token.payload with
    | true => simp
    | false =>
      cases stands : sessionStands spelled token.payload t with
      | false => simp [stands]
      | true =>
        cases subject : findSubject spelled token.payload t with
        | none => simp [stands, subject]
        | some user => simp [stands, subject, describe]

open IntrospectionAnswer

theorem refreshIntrospects_iff {raw : Nat} {row : StoredToken}
    (key : (getActiveSigningKey t r.id).isSome)
    (hit : findRefreshToken (sha256 raw) t = some row)
    (unrevoked : row.token.revoked = false) (unexpired : t.now ≤ row.token.expiresAt)
    (enabled : row.user.enabled = true) :
    RefreshIntrospects blacklisted spelled r raw t ↔ row.user.realmId = r.id := by
  obtain ⟨key, isKey⟩ := isSome_iff_exists.mp key
  have described : (introspectRefreshToken r raw).run t =
      (.ok (introspectStored r t.now row), t) := by
    simp only [introspectRefreshToken, run_read_bind, hit, pure_def, run_done]
  have answered : ((introspect blacklisted spelled r (.opaqueToken raw)).run t).1 =
      .ok (.refreshToken (introspectStored r t.now row)) := by
    simp only [introspect, run_read_bind, isKey, Presented.verified, introspectOther]
    rw [run_bind, described]
    rfl
  unfold RefreshIntrospects
  rw [answered]
  by_cases inRealm : row.user.realmId = r.id
  · simp [active, introspectStored, unrevoked, not_lt.mpr unexpired,
      enabled, inRealm]
  · simp [active, introspectStored, unrevoked, inRealm]

/-- The tokens come from an issuance on a session of the user they are for. -/
structure Issues (d : Deps) (realm : Realm) (issue : Issue) (u : Store) (answer : TokenResponse)
    (s' : Store) : Prop where
  realm : issue.realm = realm
  session : ∃ row ∈ u.sessions, row.id = issue.sessionId ∧ row.userId = issue.user.id
  issued : (issueTokens d issue).run u = (.ok answer, s')

variable {issue : Issue}

theorem startSession_issues {acr : Option String} {amr : List String} (isRealm : issue.realm = r)
    (done_ : (startSession d acr amr issue).run s = (.ok answer, s')) :
    ∃ issue u, Issues d r issue u answer s' := by
  obtain ⟨u, -, work, known, issued⟩ := startSession_ok.mp done_
  refine ⟨{ issue with sessionId := u.supply, authTime := some u.now }, _, isRealm, ?_, issued⟩
  have here : u.users.any (·.id = issue.user.id) = true := work.accounts.users ▸ known
  unfold createSession
  rw [if_pos here]
  exact ⟨_, mem_cons_self, rfl, rfl⟩

theorem capSessions_sessions (uid : Nat) (s : Store) : ∃ keep : Nat → Bool,
      ((capSessions uid).run s).2.sessions = s.sessions.filter fun row => keep row.id := by
  unfold capSessions
  rw [run_read_bind]
  split
  · exact ⟨fun _ => true, by simp⟩
  · exact ⟨fun id => !(oldSessions uid s).contains id, rfl⟩

theorem serviceAccountTokens_issues {user : User}
    (done_ : (serviceAccountTokens d r body user).run s = (.ok answer, s')) :
    ∃ issue u, Issues d r issue u answer s' := by
  obtain ⟨known, issued⟩ := serviceAccountTokens_ok.mp done_
  refine ⟨_, _, rfl, ?_, issued⟩
  obtain ⟨-, sess⟩ := issueTokens_total.mp ⟨answer, s', issued⟩
  obtain ⟨other, isOther, isNew⟩ := any_eq_true.mp sess
  obtain ⟨keep, kept⟩ := capSessions_sessions user.id (createSession r user.id none [] s).2
  -- Whichever row has the new identifier, it was kept: so the new row was kept too.
  have keeps : keep s.supply = true := by
    have isKept : keep other.id = true := by
      rw [cappedStore, kept] at isOther
      exact (mem_filter.mp isOther).2
    rwa [of_decide_eq_true isNew] at isKept
  rw [cappedStore, kept]
  unfold createSession
  rw [if_pos known]
  exact ⟨_, mem_filter.mpr ⟨mem_cons_self, keeps⟩, rfl, rfl⟩

theorem handleRefreshTokenGrant_issues
    (done_ : (handleRefreshTokenGrant d i r body).run s = (.ok answer, s')) :
    ∃ issue u, Issues d r issue u answer s' := by
  obtain ⟨row, accepted, issued⟩ := handleRefreshTokenGrant_ok.mp done_
  refine ⟨_, _, rfl, ?_, issued⟩
  obtain ⟨presented, -, hit⟩ := accepted.found
  obtain ⟨-, -, isSession, isUser⟩ := findRefreshToken_spec hit
  have ofToken : row.session.id = row.token.sessionId := by
    simpa using find?_some isSession
  have ofUser : row.user.id = row.session.userId := by simpa using find?_some isUser
  refine ⟨row.session, ?_, ofToken, ofUser.symm⟩
  rw [rotateToken_sessions]
  exact mem_of_find?_eq_some isSession

theorem Accepts.client_unique {grantType : String} {a b : Client}
    (first : Accepts d r body grantType s a) (snd : Accepts d r body grantType s b) :
    a = b := by
  have sameName : a.clientId = b.clientId :=
    some.inj (first.authenticated.clientId.symm.trans snd.authenticated.clientId)
  have found := first.found
  rw [sameName, snd.found] at found
  exact (some.inj found).symm

theorem clientToken_subject {c : Client}
    (done_ : (clientToken d r body c).run s = (.ok answer, s')) :
    answer.refreshToken = none ∧ answer.accessToken.payload "sub" = some (.id c.id) := by
  simp only [clientToken, run_read_bind, run_orFail_bind_ok, signJwt,
    run_atomic_bind, pure_def, run_done, Prod.mk.injEq, ok.injEq] at done_
  obtain ⟨key, -, rfl, -⟩ := done_
  exact ⟨rfl, rfl⟩

/-- A request that succeeds gets the token of a client without a service account, or tokens of a
user's session. -/
theorem granted_cases (granted : (handleTokenRequest d i r body).run s = (.ok answer, s')) :
    (ClientOnly d r body s ∧ answer.refreshToken = none ∧ ∃ c ∈ s.clients, s'.clients = s.clients ∧
        answer.accessToken.payload "sub" = some (.id c.id)) ∨
    (¬ ClientOnly d r body s ∧ ∃ issue u, Issues d r issue u answer s') := by
  obtain ⟨grant, isGrant, done_⟩ := handleTokenRequest_ok.mp granted
  have notClient : grant ≠ .client_credentials → ¬ ClientOnly d r body s := by
    rintro other ⟨isClient, -⟩
    rw [isGrant] at isClient
    exact other (some.inj isClient)
  cases grant with
  | password =>
    obtain ⟨u, issue, -, isRealm, -, -, starting⟩ := handlePasswordGrant_started done_
    exact .inr ⟨notClient (by decide), startSession_issues isRealm starting⟩
  | refresh_token =>
    exact .inr ⟨notClient (by decide), handleRefreshTokenGrant_issues done_⟩
  | authorization_code =>
    obtain ⟨c, row, user, -, starting⟩ := handleAuthorizationCodeGrant_ok.mp done_
    exact .inr ⟨notClient (by decide), startSession_issues rfl starting⟩
  | device_code =>
    obtain ⟨device, user, -, starting⟩ := handleDeviceCodeGrant_ok.mp done_
    exact .inr ⟨notClient (by decide), startSession_issues rfl starting⟩
  | mfa_otp =>
    obtain ⟨token, chal, factor, u, user, -, starting⟩ := handleMfaOtpGrant_ok.mp done_
    exact .inr ⟨notClient (by decide), startSession_issues rfl starting⟩
  | client_credentials =>
    obtain ⟨c, accepts, ⟨user, isAccount, issued⟩ | ⟨isNone, issued⟩⟩ :=
      handleClientCredentialsGrant_ok.mp done_
    · refine .inr ⟨?_, serviceAccountTokens_issues issued⟩
      rintro ⟨-, other, accepted, isNone⟩
      rw [accepted.client_unique accepts, isAccount] at isNone
      cases isNone
    · obtain ⟨noRefresh, subject⟩ := clientToken_subject issued
      have same := (clientToken_ok issued).1.accounts.clients
      exact .inl ⟨⟨isGrant, c, accepts, isNone⟩, noRefresh, c,
        mem_of_find?_eq_some accepts.found, same, subject⟩

theorem buildIdToken_refreshTokens {key : Nat} {idToken : Option Jwt}
    (built : (buildIdToken d issue token key).run s = (.ok idToken, s')) :
    s'.refreshTokens = s.refreshTokens := by
  unfold buildIdToken at built
  split at built
  · cases built
    rfl
  · cases built
    rfl

theorem Issues.stored {u : Store} (issues : Issues d r issue u answer s') :
    (∃ sess ∈ s'.sessions, sess.id = issue.sessionId ∧ sess.userId = issue.user.id) ∧
      ∀ raw, answer.refreshToken = some raw →
        ∃ row ∈ s'.refreshTokens, row.tokenHash = sha256 raw ∧ row.sessionId = issue.sessionId := by
  obtain ⟨key, pl, raw, idToken, -, -, new, built, rfl⟩ := issueTokens_ok.mp issues.issued
  have sessions := (buildIdToken_sessions built).trans (createRefreshToken_layers issue _).2
  constructor
  · rw [sessions]
    exact issues.session
  · rintro raw' ⟨⟩
    have rows := buildIdToken_refreshTokens built
    unfold createRefreshToken at new rows
    split at new
    · rename_i exists_
      cases new
      rw [if_pos exists_] at rows
      rw [rows]
      exact ⟨_, mem_cons_self, rfl, rfl⟩
    · cases new

theorem refresh_active_iff {raw : Nat} (keys : UserKeys s)
    (granted : (handleTokenRequest d i r body).run s = (.ok answer, s'))
    (returned : answer.refreshToken = some raw) (later : Later s' t)
    (live : RefreshLive r raw t) :
    RefreshIntrospects blacklisted spelled r raw t ↔ SubjectIn r answer s' := by
  obtain ⟨-, noRefresh, -⟩ | ⟨-, issue, u, issues⟩ := granted_cases granted
  · rw [noRefresh] at returned
    cases returned
  obtain ⟨stored, hit, unrevoked, unexpired, enabled⟩ := live.stored
  rw [refreshIntrospects_iff live.key hit unrevoked unexpired enabled]
  obtain ⟨isToken, hash, isSession, isUser⟩ := findRefreshToken_spec hit
  obtain ⟨⟨sess, known, sid, uid⟩, rows⟩ := issues.stored
  obtain ⟨row, isRow, rowHash, rowSession⟩ := rows raw returned
  -- The token found later leads to the user of the issuance.
  have sameSession : stored.token.sessionId = issue.sessionId :=
    (later.tokens _ isToken row isRow (hash.trans rowHash.symm)).trans rowSession
  have ofToken : stored.session.id = stored.token.sessionId := by
    simpa using find?_some isSession
  have ofSession : stored.session.userId = issue.user.id :=
    (later.sessions _ (mem_of_find?_eq_some isSession) sess known
      (ofToken.trans (sameSession.trans sid.symm))).trans uid
  have ofUser : stored.user.id = issue.user.id := by
    have hit : stored.user.id = stored.session.userId := by simpa using find?_some isUser
    exact hit.trans ofSession
  have origin := issueTokens_origin issues.issued
  have exists_ : SubjectSatisfies (fun _ => True) (fun _ => True) answer s' :=
    (subject_satisfies_iff d i body _ _ keys (fun _ _ _ => trivial) fun _ _ => trivial).mpr
      (fun _ _ _ _ => trivial) answer s' granted
  unfold SubjectIn SubjectSatisfies at *
  rw [origin] at exists_ ⊢
  have stillThere : ∀ user ∈ s'.users, user.id = issue.user.id →
      stored.user.realmId = user.realmId := fun user isKnown sameId =>
    later.users _ (findUserById_any isUser).1 user isKnown (ofUser.trans sameId.symm)
  constructor
  · intro inRealm
    obtain ⟨user, isKnown, sameId, -⟩ := exists_
    exact ⟨user, isKnown, sameId, (stillThere user isKnown sameId).symm.trans inRealm⟩
  · rintro ⟨user, isKnown, sameId, inRealm⟩
    exact (stillThere user isKnown sameId).trans inRealm

theorem userToken_active_iff {u : Store} (issues : Issues d r issue u answer s')
    (live : Live blacklisted spelled r answer.accessToken t) :
    IntrospectsAs blacklisted spelled r answer.accessToken t ↔ Begun answer.accessToken t.now := by
  obtain ⟨key, isKey, signed⟩ := live.key
  obtain ⟨exp, expires, unexpired⟩ := live.unexpired
  have unrevoked : isRevoked blacklisted answer.accessToken.payload = false := by
    unfold isRevoked
    cases given_ : givenClaim answer.accessToken.payload "jti" with
    | none => rfl
    | some jti => exact live.unrevoked jti (filter_eq_some_iff.mp given_).1
  have stands : sessionStands spelled answer.accessToken.payload t = true := by
    unfold sessionStands
    split
    · rfl
    · rename_i sid given_
      obtain ⟨id, isId, row, isRow, rfl⟩ := live.session sid given_
      simp only [isId, Option.any_some]
      exact any_eq_true.mpr ⟨row, isRow, by simp⟩
  have subject : ∃ user, findSubject spelled answer.accessToken.payload t = some user := by
    have enabled := live.subject
    unfold EnabledSubject at enabled
    rw [issueTokens_origin issues.issued] at enabled
    unfold findSubject
    split
    · exact ⟨none, rfl⟩
    · rename_i sub given_
      obtain ⟨id, user, isId, isUser, enabled⟩ := enabled sub given_
      exact ⟨some user, by simp [isId, isUser, enabled]⟩
  rw [introspectsAs_iff isKey, verifyJwt_isSome expires]
  simp only [unrevoked, stands, subject, and_true]
  constructor
  · rintro ⟨-, -, begun⟩
    exact begun
  · intro begun
    exact ⟨signed.symm, unexpired, begun⟩

theorem clientToken_inactive {cid : Nat} (unknown : findUserById cid t = none)
    (subject : token.payload "sub" = some (.id cid))
    (key : ∃ key, getActiveSigningKey t r.id = some key ∧ key.id = token.key) :
    ¬ IntrospectsAs blacklisted spelled r token t := by
  obtain ⟨key, isKey, -⟩ := key
  rw [introspectsAs_iff isKey]
  rintro ⟨-, -, -, u, hit⟩
  have given_ : givenClaim token.payload "sub" = some (.id cid) := by
    rw [givenClaim, subject]
    rfl
  have nobody : findSubject spelled token.payload t = none := by
    unfold findSubject
    rw [given_]
    simp [identifierOf, unknown]
  rw [nobody] at hit
  cases hit

/-- At any later time, an access token that the endpoint returned and that still lives is active,
with its subject, scope and client, exactly when it is not the token of a client without a service
account and no other time to be valid from was put into it.  A refresh token returned with it
that still lives is active exactly when the user whose credential was redeemed belongs to the
realm. -/
theorem issued_tokens_introspect_iff (d : Deps) (i : Nat) (r : Realm) (body : Body)
    (s s' : Store) (answer : TokenResponse) (keys : UserKeys s)
    (granted : (handleTokenRequest d i r body).run s = (.ok answer, s'))
    (blacklisted : Value → Bool) (spelled : String → Option Nat) (t : Store) (later : Later s' t) :
    (Live blacklisted spelled r answer.accessToken t →
      (IntrospectsAs blacklisted spelled r answer.accessToken t ↔
        ¬ ClientOnly d r body s ∧ Begun answer.accessToken t.now)) ∧
    ∀ raw, answer.refreshToken = some raw → RefreshLive r raw t →
      (RefreshIntrospects blacklisted spelled r raw t ↔
        ∀ grant user, body.grant = some grant → Redeems d i r body s grant user →
          user.realmId = r.id) := by
  constructor
  · intro live
    obtain ⟨clientOnly, -, c, isClient, same, subject⟩ | ⟨notOnly, issue, u, issues⟩ :=
      granted_cases granted
    · have inactive : ¬ IntrospectsAs blacklisted spelled r answer.accessToken t :=
        clientToken_inactive (later.distinct c (same ▸ isClient)) subject live.key
      simp [inactive, clientOnly]
    · simp [userToken_active_iff issues live, notOnly]
  · intro raw returned live
    rw [refresh_active_iff keys granted returned later live,
      ← subject_in_realm_iff d i r body s keys]
    constructor
    · intro inRealm answer' s'' granted'
      rw [granted] at granted'
      cases granted'
      exact inRealm
    · intro every
      exact every answer s' granted

end Agreement

section Example

def nothingRevoked : Value → Bool := fun _ => false

def noText : String → Option Nat := fun _ => none

theorem alice_later {r : Realm} {answer : TokenResponse} {s' : Store}
    (granted : (handleTokenRequest .transparent 0 r refreshBody).run (twoRealms alice) =
      (.ok answer, s')) (isKnown : r = acme ∨ r = globex) : Later s' s' := by
  rcases isKnown with rfl | rfl
  · cases granted
    exact ⟨by decide, by decide, by decide, by decide⟩
  · cases granted
    exact ⟨by decide, by decide, by decide, by decide⟩

/-- Alice refreshes at home, and both tokens are active. -/
theorem alice_tokens_active :
    ∃ answer s', (handleTokenRequest .transparent 0 acme refreshBody).run (twoRealms alice) =
        (.ok answer, s') ∧ IntrospectsAs nothingRevoked noText acme answer.accessToken s' ∧
      ∃ raw, answer.refreshToken = some raw ∧
        RefreshIntrospects nothingRevoked noText acme raw s' := by
  obtain ⟨answer, s', granted⟩ : ∃ answer s',
      (handleTokenRequest .transparent 0 acme refreshBody).run (twoRealms alice) =
        (.ok answer, s') := ⟨_, _, rfl⟩
  obtain ⟨access, refresh⟩ := issued_tokens_introspect_iff .transparent 0 acme refreshBody
    (twoRealms alice) s' answer (twoRealms_keys rfl) granted nothingRevoked noText s'
    (alice_later granted (.inl rfl))
  have live : Live nothingRevoked noText acme answer.accessToken s' := by
    cases granted
    refine ⟨⟨_, rfl, rfl⟩, ⟨_, rfl, by decide⟩, fun _ _ => rfl, ?_, ?_⟩
    · rintro sid ⟨⟩
      exact ⟨4, rfl, _, mem_cons_self, rfl⟩
    · rintro sub ⟨⟩
      exact ⟨2, alice, rfl, rfl, rfl⟩
  have begun : Begun answer.accessToken s'.now := by
    cases granted
    rintro nbf ⟨⟩
  have notClient : ¬ ClientOnly .transparent acme refreshBody (twoRealms alice) := by
    rintro ⟨isClient, -⟩
    cases isClient
  have hers : ∀ grant u, refreshBody.grant = some grant →
      Redeems .transparent 0 acme refreshBody (twoRealms alice) grant u →
      u.realmId = acme.id := by
    intro grant u _ redeems
    rw [mem_singleton.mp redeems.granted.1]
    rfl
  refine ⟨answer, s', granted, (access live).mpr ⟨notClient, begun⟩, ?_⟩
  have returned : answer.refreshToken = some 41 := by
    cases granted
    rfl
  have refreshLive : RefreshLive acme 41 s' := by
    cases granted
    exact ⟨rfl, _, rfl, rfl, by decide, rfl⟩
  exact ⟨41, returned, (refresh 41 returned refreshLive).mpr hers⟩

/-- A client that may ask for tokens of its own and has no service account. -/
def robotStore : Store where
  supply := 40
  realms := [acme]
  clients := [{ id := 3, realmId := 1, clientId := "robot", clientSecret := some "secret",
                clientType := .CONFIDENTIAL, grantTypes := ["client_credentials"] }]
  signingKeys := [{ id := 7, realmId := 1, createdAt := 0 }]

def robotBody : Body where
  grant_type := some "client_credentials"
  client_id := some "robot"
  client_secret := some "secret"

/-- The robot's token is inactive at once, and so is the refresh token that the other realm
returns to Alice. -/
theorem issued_tokens_inactive :
    (∃ answer s', (handleTokenRequest .transparent 0 acme robotBody).run robotStore =
        (.ok answer, s') ∧ Later s' s' ∧ Live nothingRevoked noText acme answer.accessToken s' ∧
      ((introspect nothingRevoked noText acme (.jwt answer.accessToken)).run s').1 =
        .ok .inactive) ∧
    ∃ answer s' raw, (handleTokenRequest .transparent 0 globex refreshBody).run (twoRealms alice) =
        (.ok answer, s') ∧ answer.refreshToken = some raw ∧ Later s' s' ∧
      RefreshLive globex raw s' ∧ ¬ RefreshIntrospects nothingRevoked noText globex raw s' := by
  constructor
  · refine ⟨_, _, rfl, ⟨by decide, by decide, by decide, by decide⟩, ?_, rfl⟩
    refine ⟨⟨_, rfl, rfl⟩, ⟨_, rfl, by decide⟩, fun _ _ => rfl, ?_, ?_⟩
    · rintro sid ⟨⟩
    · exact ⟨_, mem_cons_self, rfl, rfl⟩
  · refine ⟨_, _, 41, rfl, rfl, alice_later rfl (.inr rfl), ⟨rfl, _, rfl, rfl, by decide, rfl⟩, ?_⟩
    rintro ⟨answer, said, active⟩
    cases said
    cases active

end Example

end Idenplane.Auth
