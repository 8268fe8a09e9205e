import Idenplane.Auth.Signing

/-! # The other signers

Impersonation, identity brokering and back-channel logout sign tokens with the realm's key
too.  What they sign is fixed by the server.
-/

namespace Idenplane.Auth

open Atomic Claims

structure ImpersonationTokenResponse where
  accessToken : Jwt
  expiresIn : Int
  refreshToken : Nat
  impersonationSessionId : Nat

def forbidden (message : String) : Failure := .oauth "Forbidden" message 403

def isApiKey : Value → Bool
  | .str text => "api-key:".toList.isPrefixOf text.toList
  | _ => false

def findAdmin (adminUserId : Value) (s : Store) : Option User :=
  match adminUserId with
  | .id id => findUserById id s
  | _ => none

/-- `session.create` for the impersonated user. -/
def impersonatedSession (userId : Nat) (maxDuration : Int) (s : Store) : Option Nat × Store :=
  if s.users.any (·.id = userId) then
    (some s.supply, { s with
      supply := s.supply + 1
      sessions := { id := s.supply, userId := userId, createdAt := s.now,
                    expiresAt := s.now + maxDuration * 1000 } :: s.sessions })
  else (none, s)

def impersonationRecorded (realm : Realm) (adminUserId targetUserId sessionId : Nat)
    (maxDuration : Int) (s : Store) : Nat × Store :=
  (s.supply, { s with
    supply := s.supply + 1
    impersonationSessions :=
      { id := s.supply, realmId := realm.id, adminUserId := adminUserId,
        targetUserId := targetUserId, sessionId := sessionId,
        expiresAt := s.now + maxDuration * 1000 } :: s.impersonationSessions })

/-- `refreshToken.create`; this token belongs to no client. -/
def impersonationToken (sessionId : Nat) (maxDuration : Int) (s : Store) : Nat × Store :=
  (s.supply, { s with
    supply := s.supply + 2
    refreshTokens :=
      { id := s.supply + 1, sessionId := sessionId, tokenHash := sha256 s.supply,
        scope := some "openid", createdAt := s.now,
        expiresAt := s.now + maxDuration * 1000 } :: s.refreshTokens })

def startImpersonation (d : Deps) (realm : Realm) (adminUserId : Value) (targetUserId : Nat) :
    Op ImpersonationTokenResponse := do
  require realm.impersonationEnabled (forbidden "Impersonation is not enabled for this realm")
  let known ← read (findUserById targetUserId)
  let target ← orFail (known.filter (·.realmId = realm.id))
    (.oauth "Not Found" ("User '" ++ toString targetUserId ++ "' not found in realm") 404)
  require target.enabled (badRequest "Cannot impersonate a disabled user")
  require (!isApiKey adminUserId) (forbidden ("Impersonation is not permitted using API " ++
    "key authentication. Use an admin JWT token instead."))
  let found ← read (findAdmin adminUserId)
  let admin ← orFail found
    (.oauth "Not Found" ("Admin user '" ++ adminUserId.toKey ++ "' not found") 404)
  require (admin.id ≠ targetUserId) (badRequest "Cannot impersonate yourself")
  let maxDuration := realm.impersonationMaxDuration
  let created ← atomic (impersonatedSession targetUserId maxDuration)
  let sessionId ← orFail created .internal
  let impersonationSessionId ← atomic
    (impersonationRecorded realm admin.id targetUserId sessionId maxDuration)
  let signingKey ← read (getActiveSigningKey · realm.id)
  let key ← orFail signingKey .internal
  let accessToken ← signJwt (.literal
    [("iss", .str (d.issuer realm)), ("sub", .id targetUserId), ("aud", .str realm.name),
     ("typ", .str "Bearer"), ("sid", .id sessionId),
     ("act", .json ("\x7b\"sub\":\"" ++ adminUserId.toKey ++ "\"\x7d")),
     ("impersonated", .bool true)])
    key.id (.impersonation targetUserId sessionId) maxDuration
  let refreshToken ← atomic (impersonationToken sessionId maxDuration)
  pure { accessToken := accessToken
         expiresIn := maxDuration
         refreshToken := refreshToken
         impersonationSessionId := impersonationSessionId }

structure BrokerParams where
  client_id : String
  redirect_uri : String
  (scope state nonce code_challenge code_challenge_method : Option String := none)

structure BrokerRedirect where
  (authorizationUrl clientId redirectUri scope : String)
  state : Jwt

/-- A property that an object literal leaves out when its value is undefined. -/
def optional (key : String) (value : Option String) : List (String × Value) :=
  (value.map fun text => (key, Value.str text)).toList

def brokerState (realm : Realm) (name : String) (params : BrokerParams) : Claims :=
  .literal ([("realmId", .id realm.id), ("realmName", .str realm.name), ("alias", .str name),
    ("clientId", .str params.client_id), ("redirectUri", .str params.redirect_uri)] ++
    optional "scope" params.scope ++ optional "state" params.state ++
    optional "nonce" params.nonce ++ optional "codeChallenge" params.code_challenge ++
    optional "codeChallengeMethod" params.code_challenge_method)

def initiateLogin (d : Deps) (realm : Realm) (name : String) (params : BrokerParams) :
    Op BrokerRedirect := do
  require (params.client_id != "") (badRequest "client_id is required")
  require (params.redirect_uri != "") (badRequest "redirect_uri is required")
  let found ← read fun s => s.identityProviders.find? fun idp =>
    idp.realmId = realm.id && idp.alias_ = name
  let idp ← orFail found (.oauth "Not Found" ("Identity provider '" ++ name ++ "' not found") 404)
  require idp.enabled (badRequest ("Identity provider '" ++ name ++ "' is disabled"))
  let known ← read (findClient realm.id params.client_id)
  let client ← orFail (known.filter (·.enabled)) (badRequest "Invalid client_id")
  require (matchesRedirectUri params.redirect_uri client.redirectUris)
    (badRequest "Invalid redirect_uri")
  let signingKey ← read (getActiveSigningKey · realm.id)
  let key ← orFail signingKey .internal
  let state ← signJwt ((brokerState realm name params).spread
    (.literal [("typ", .str "broker_state")])) key.id .brokerState 600
  require (d.isUrl idp.authorizationUrl) .internal
  pure { authorizationUrl := idp.authorizationUrl
         clientId := idp.clientId
         redirectUri := d.baseUrl ++ "/realms/" ++ realm.name ++ "/broker/" ++ name ++ "/callback"
         scope := idp.defaultScopes
         state := state }

/-- `dispatchLogoutTokens`: one token for each client that wants to know. -/
def signLogoutTokens (d : Deps) (realm : Realm) (userId sessionId key : Nat) : List Client → Op Unit
  | [] => pure ()
  | client :: rest =>
    if truthy client.backchannelLogoutUri then do
      let _ ← signJwt (spreadIf (.literal
        [("iss", .str (d.issuer realm)), ("sub", .id userId), ("aud", .str client.clientId),
         ("events", .json
           "\x7b\"http://schemas.openid.net/event/backchannel-logout\":\x7b\x7d\x7d")])
        client.backchannelLogoutSessionRequired (.literal [("sid", .id sessionId)]))
        key .logoutToken 120
      signLogoutTokens d realm userId sessionId key rest
    else signLogoutTokens d realm userId sessionId key rest

def dispatchLogoutTokens (d : Deps) (realm : Realm) (userId sessionId : Nat) : Op Unit := do
  let clients ← read fun s => s.clients.filter fun client =>
    client.realmId = realm.id && client.backchannelLogoutUri.isSome
  if clients.isEmpty then pure ()
  else do
    let signingKey ← read (getActiveSigningKey · realm.id)
    match signingKey with
    | none => pure ()
    | some key => signLogoutTokens d realm userId sessionId key.id clients

section Signers

variable {d : Deps} {r : Realm} {s : Store} {kind : Store → Jwt → Prop} [TokenKind kind]

theorem startImpersonation_signs (covers : CoversFixed r.id kind) (adminUserId : Value)
    (targetUserId : Nat) :
    ∀ s, (startImpersonation d r adminUserId targetUserId).Moves (Signs kind) s := by
  have sess : ∀ duration t, Quiet t (impersonatedSession targetUserId duration t).2 := by
    intro duration t
    unfold impersonatedSession
    split
    · exact ⟨le_succ _, rfl⟩
    · exact .refl t
  refine .after (.require _ _) fun _ => .after (.read .refl _) fun _ =>
    .after (.orFail _ _) fun _ => .after (.require _ _) fun _ =>
    .after (.require _ _) fun _ => .after (.read .refl _) fun _ =>
    .after (.orFail _ _) fun _ => .after (.require _ _) fun _ =>
    .after (.atomic (sess _)) fun _ => .after (.orFail _ _) fun _ =>
    .after (.atomic fun _ => ⟨le_succ _, rfl⟩) fun _ t => ?_
  refine .read_bind (.orFail_bind (.refl t) fun key hit => ?_)
  refine .bind .trans (signJwt_signs (covers hit (by simp) (by simp))) fun _ t₁ _ => ?_
  refine .after (.atomic fun _ => ⟨le_add_right _ _, rfl⟩) (fun _ t₂ => ?_) t₁
  exact .refl t₂

def stateToken (realm : Realm) (name : String) (params : BrokerParams) (key : Nat) (s : Store) : Jwt :=
  stamp ((brokerState realm name params).spread (.literal [("typ", .str "broker_state")])) key
    .brokerState 600 s

theorem initiateLogin_signs {name : String} {ps : BrokerParams}
    (covers : ∀ {s key}, getActiveSigningKey s r.id = some key →
      kind s (stateToken r name ps key.id s)) :
    ∀ s, (initiateLogin d r name ps).Moves (Signs kind) s := by
  refine .after (.require _ _) fun _ => .after (.require _ _) fun _ =>
    .after (.read .refl _) fun _ => .after (.orFail _ _) fun _ =>
    .after (.require _ _) fun _ => .after (.read .refl _) fun _ =>
    .after (.orFail _ _) fun _ => .after (.require _ _) fun _ t => ?_
  refine .read_bind (.orFail_bind (.refl t) fun key hit => ?_)
  refine .bind .trans (signJwt_signs (covers hit)) fun _ t₁ _ => ?_
  refine .after (.require _ _) (fun _ t₂ => ?_) t₁
  exact .refl t₂

theorem signLogoutTokens_signs (covers : CoversFixed r.id kind) {uid sid : Nat} {key : RealmSigningKey}
    (hit : getActiveSigningKey s r.id = some key) (cs : List Client) :
    (signLogoutTokens d r uid sid key.id cs).Moves (Signs kind) s := by
  induction cs generalizing s with
  | nil => exact .refl s
  | cons c rest ih =>
    simp only [signLogoutTokens]
    split
    · refine .bind .trans (signJwt_signs (covers hit ?_ ?_)) fun _ t signed => ?_
      · unfold spreadIf
        split <;> simp [spread]
      · unfold spreadIf
        split <;> simp [spread]
      · cases signed
        exact ih hit
    · exact ih hit

theorem dispatchLogoutTokens_signs (covers : CoversFixed r.id kind) (uid sid : Nat)
    (s : Store) : (dispatchLogoutTokens d r uid sid).Moves (Signs kind) s := by
  refine .read_bind ?_
  split
  · exact .refl s
  · refine .read_bind ?_
    cases found : getActiveSigningKey s r.id with
    | none => exact .refl s
    | some key => exact signLogoutTokens_signs covers found _

end Signers

end Idenplane.Auth
