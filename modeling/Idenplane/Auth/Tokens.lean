import Idenplane.Deps

/-! # Issuing tokens

`issueTokens` and `buildIdToken` of the auth service, with the signing of tokens
and the roles they carry.  What goes into a token is a function of the database;
signing it, storing the refresh token and signing the id token are steps.
-/

namespace Idenplane

open Atomic Claims

def ACR_PASSWORD : String := "urn:idenplane:acr:password"
def ACR_MFA : String := "urn:idenplane:acr:mfa"

namespace Auth

/-- `signJwt`: the issue time, the expiry and the token id replace what the payload
says about them. -/
def stamp (payload : Claims) (key : Nat) (origin : Origin) (expiresInSeconds : Int)
    (s : Store) : Jwt where
  key := key
  payload := ((payload.assign "iat" (.num (s.now / 1000))).assign
    "exp" (.num (s.now / 1000 + expiresInSeconds))).assign "jti" (.id s.supply)
  origin := origin

def signJwt (payload : Claims) (key : Nat) (origin : Origin) (expiresInSeconds : Int) : Op Jwt :=
  atomic fun s =>
    let jwt := stamp payload key origin expiresInSeconds s
    (jwt, { s with supply := s.supply + 1, signed := jwt :: s.signed })

def getActiveSigningKey (s : Store) (realmId : Nat) : Option RealmSigningKey :=
  (s.signingKeys.filter fun key => key.realmId = realmId && key.active).foldl (fun newest key =>
      match newest with
      | none => some key
      | some best => if best.createdAt < key.createdAt then some key else some best) none

def userRoleRows (s : Store) (userId : Nat) : List Role :=
  (s.userRoles.filter (·.userId = userId)).filterMap fun link =>
    s.roles.find? (·.id = link.roleId)

def groupRoleRows (s : Store) (groupId : Nat) : List Role :=
  (s.groupRoles.filter (·.groupId = groupId)).filterMap fun link =>
    s.roles.find? (·.id = link.roleId)

/-- `walkGroup`: a group that was not visited yet and its ancestors.  Each call visits
one group, so a fuel of the number of groups is enough. -/
def walkGroup (s : Store) : Nat → Nat → List Nat × List Role → List Nat × List Role
  | 0, _, seen => seen
  | fuel + 1, groupId, (visited, roles) =>
    if visited.contains groupId then (visited, roles)
    else
      match s.groups.find? (·.id = groupId) with
      | none => (groupId :: visited, roles)
      | some group =>
        let roles := roles ++ groupRoleRows s groupId
        match group.parentId with
        | some parent => walkGroup s fuel parent (groupId :: visited, roles)
        | none => (groupId :: visited, roles)

def resolveGroupRoles (s : Store) (userId : Nat) : List Role :=
  ((s.userGroups.filter (·.userId = userId)).foldl
    (fun seen membership => walkGroup s (s.groups.length + 1) membership.groupId seen)
    ([], [])).2

def dedupRoles (roles : List Role) : List Role :=
  (roles.foldl (fun (seen, kept) role =>
    if seen.contains role.id then (seen, kept) else (role.id :: seen, kept ++ [role]))
    (([] : List Nat), ([] : List Role))).2

def allRoles (s : Store) (userId : Nat) : List Role :=
  dedupRoles (userRoleRows s userId ++ resolveGroupRoles s userId)

def realmRoles (roles : List Role) : List String :=
  (roles.filter (·.clientId.isNone)).map (·.name)

/-- The names every object inherits: `resourceAccess[name]` finds something there that
has no `roles`, and the handler throws. -/
def objectPrototype : List String :=
  ["constructor", "__defineGetter__", "__defineSetter__", "hasOwnProperty", "__lookupGetter__",
   "__lookupSetter__", "isPrototypeOf", "propertyIsEnumerable", "toString", "valueOf",
   "__proto__", "toLocaleString"]

def addResource (access : List (String × List String)) (clientId role : String) :
    List (String × List String) :=
  if access.any (·.1 = clientId) then
    access.map fun e => if e.1 = clientId then (clientId, e.2 ++ [role]) else e
  else access ++ [(clientId, [role])]

/-- The client roles, by client; none when building the object throws. -/
def resourceAccess (s : Store) (roles : List Role) : Option (List (String × List String)) :=
  roles.foldlM (fun access role =>
    match role.clientId.bind fun id => s.clients.find? (·.id = id) with
    | none => some access
    | some client =>
      if objectPrototype.contains client.clientId then none
      else some (addResource access client.clientId role.name)) []

section SameTables

variable {s s' : Store} (roles : s'.roles = s.roles) (groups : s'.groups = s.groups)
  (groupRoles : s'.groupRoles = s.groupRoles)

include roles groups groupRoles

theorem walkGroup_congr (fuel gid : Nat) (seen : List Nat × List Role) :
    walkGroup s' fuel gid seen = walkGroup s fuel gid seen := by
  induction fuel generalizing gid seen with
  | zero => rfl
  | succ fuel ih =>
    simp only [walkGroup, ih, groups, groupRoleRows, groupRoles, roles]

theorem allRoles_congr (userRoles : s'.userRoles = s.userRoles)
    (userGroups : s'.userGroups = s.userGroups) (userId : Nat) :
    allRoles s' userId = allRoles s userId := by
  simp only [allRoles, userRoleRows, resolveGroupRoles, userRoles, userGroups, roles, groups,
    walkGroup_congr roles groups groupRoles]

end SameTables

theorem resourceAccess_congr {s s' : Store} (cs : s'.clients = s.clients)
    (roles : List Role) : resourceAccess s' roles = resourceAccess s roles := by
  simp only [resourceAccess, cs]

/-- The arguments of `issueTokens`.  `replaces` is not one of them: it names the request
and the refresh token that a refresh replaces, for the history. -/
structure Issue where
  realm : Realm
  user : User
  clientId : String
  sessionId : Nat
  (scope nonce : Option String := none)
  authTime : Option Int := none
  acr : Option String := none
  amr : List String := []
  code : Option Nat := none
  replaces : Option (Nat × RefreshToken) := none

def Issue.effectiveScopes (issue : Issue) : List String :=
  let scopes := parseAndValidate issue.scope
  if scopes.isEmpty then ["openid"] else scopes

def Issue.validatedScope (issue : Issue) : String := scopesToString issue.effectiveScopes

def Issue.userClaims (issue : Issue) (s : Store) : Claims :=
  resolveUserClaims issue.user (getClaimsForScopes issue.effectiveScopes)
    (getOidcClaimsForUser s issue.user.id)

def Issue.mapperClaims (issue : Issue) (s : Store)
    (resources : List (String × List String)) : Claims :=
  let mappers := getScopeMappers s issue.effectiveScopes issue.realm.id
  if mappers.isEmpty then .empty
  else ProtocolMapperExecutor.executeMappers
    { username := issue.user.username
      email := issue.user.email
      emailVerified := issue.user.emailVerified
      firstName := issue.user.firstName
      lastName := issue.user.lastName
      realmRoles := realmRoles (allRoles s issue.user.id)
      resourceAccess := resources } .empty mappers

/-- The context of the authentication, as both tokens state it. -/
def Issue.context (issue : Issue) : Claims :=
  (literal [("acr", .str (issue.acr.getD ACR_PASSWORD))]).spreadIf (!issue.amr.isEmpty)
    (.literal [("amr", .texts issue.amr)])

def Issue.fixedAccess (issue : Issue) (d : Deps) : Claims :=
  (literal [("iss", .str (d.issuer issue.realm)), ("sub", .id issue.user.id),
     ("aud", .str issue.clientId), ("scope", .str issue.validatedScope), ("typ", .str "Bearer"),
     ("azp", .str issue.clientId), ("sid", .id issue.sessionId)]).spread issue.context

def Issue.accessTokenPayload (issue : Issue) (d : Deps) (s : Store) : Option Claims := do
  let roles := allRoles s issue.user.id
  let resources ← resourceAccess s roles
  let includeRoles := !truthy issue.scope ||
    (getClaimsForScopes issue.effectiveScopes).contains "realm_access"
  let layered := (issue.fixedAccess d).spread (issue.userClaims s)
  let withRoles := layered.spreadIf includeRoles (.literal
    [("realm_access", .access (realmRoles roles)), ("resource_access", .resources resources)])
  some (withRoles.spread (issue.mapperClaims s resources))

/-- `enrichToken`: a plugin that throws leaves the payload as it was. -/
def enrichToken (d : Deps) (payload : Claims) (user : User) (realm : String) : Claims :=
  d.enrichers.foldl (fun res enricher => (enricher res user realm).getD res) payload

def Issue.fixedId (issue : Issue) (d : Deps) (accessToken : Jwt) (now : Int) : Claims :=
  let fixed := (literal [("iss", .str (d.issuer issue.realm)), ("sub", .id issue.user.id),
     ("aud", .str issue.clientId), ("azp", .str issue.clientId), ("typ", .str "ID"),
     ("sid", .id issue.sessionId), ("at_hash", .str (d.computeAtHash accessToken)),
     ("auth_time", .num ((issue.authTime.getD now) / 1000))]).spread issue.context
  match issue.code with
  | some code => fixed.spread (.literal [("c_hash", .str (d.computeChash code))])
  | none => fixed

def Issue.idTokenPayload (issue : Issue) (d : Deps) (accessToken : Jwt) (s : Store) :
    Claims :=
  let payload := (issue.fixedId d accessToken s.now).spread (issue.userClaims s)
  match given issue.nonce with
  | some nonce => payload.assign "nonce" (.str nonce)
  | none => payload

structure TokenResponse where
  accessToken : Jwt
  expiresIn : Int
  refreshToken : Option Nat := none
  scope : Option String := none
  sessionState : Option Nat := none
  idToken : Option Jwt := none

/-- The row `refreshToken.create` adds for the raw token `s.supply`. -/
def Issue.refreshTokenRow (issue : Issue) (s : Store) : RefreshToken where
  id := s.supply + 1
  sessionId := issue.sessionId
  tokenHash := sha256 s.supply
  scope := some issue.validatedScope
  isOffline := issue.effectiveScopes.contains "offline_access"
  clientId := some issue.clientId
  createdAt := s.now
  expiresAt := s.now + (if issue.effectiveScopes.contains "offline_access" then
    issue.realm.offlineTokenLifespan else issue.realm.refreshTokenLifespan) * 1000

/-- `refreshToken.create`: fails when the session is gone.  Returns the raw token. -/
def createRefreshToken (issue : Issue) (s : Store) : Option Nat × Store :=
  if s.sessions.any (·.id = issue.sessionId) then
    let row := issue.refreshTokenRow s
    (some s.supply, { s with
      supply := s.supply + 2
      refreshTokens := row :: s.refreshTokens
      refreshLog := match issue.replaces with
        | some (req, token) => .succeeded req token row :: s.refreshLog
        | none => s.refreshLog })
  else (none, s)

def buildIdToken (d : Deps) (issue : Issue) (accessToken : Jwt) (key : Nat) : Op (Option Jwt) :=
  if issue.effectiveScopes.contains "openid" then do
    let payload ← read (issue.idTokenPayload d accessToken)
    let idToken ← signJwt payload key (.idToken issue.user.id issue.sessionId)
      issue.realm.accessTokenLifespan
    pure (some idToken)
  else pure none

def issueTokens (d : Deps) (issue : Issue) : Op TokenResponse := do
  let signingKey ← read (getActiveSigningKey · issue.realm.id)
  let key ← orFail signingKey .internal
  let planned ← read (issue.accessTokenPayload d)
  let payload ← orFail planned .internal
  let accessToken ← signJwt (enrichToken d payload issue.user issue.realm.name) key.id
    (.accessToken issue.user.id issue.sessionId) issue.realm.accessTokenLifespan
  let created ← atomic (createRefreshToken issue)
  let refreshToken ← orFail created .internal
  let idToken ← buildIdToken d issue accessToken key.id
  pure { accessToken := accessToken
         expiresIn := issue.realm.accessTokenLifespan
         refreshToken := some refreshToken
         scope := some issue.validatedScope
         sessionState := some issue.sessionId
         idToken := idToken }

end Auth

end Idenplane
