import Idenplane.Store
import Idenplane.Lib.Text

/-! # Scopes, user claims and protocol mappers

What a token says about its user.  The claims of a token come in layers: the
claims the granted scopes allow, the custom attributes an administrator mapped to
a claim, and the protocol mappers of the realm's client scopes.  A later layer
replaces what an earlier one said.
-/

namespace Idenplane

def oidcScopes : List (String × List String) :=
  [("openid", ["sub"]),
   ("profile", ["name", "family_name", "given_name", "preferred_username", "updated_at"]),
   ("email", ["email", "email_verified"]),
   ("roles", ["realm_access", "resource_access"])]

def supportedScopes : List String := oidcScopes.map Prod.fst

def parseAndValidate : Option String → List String
  | none => []
  | some scope => (Text.words ' ' scope).filter (supportedScopes.contains ·)

def getClaimsForScopes (scopes : List String) : List String :=
  scopes.flatMap fun scope => (oidcScopes.lookup scope).getD []

def scopesToString (scopes : List String) : String := " ".intercalate scopes

/-- The claim of each mapped custom attribute the user has a value for. -/
def getOidcClaimsForUser (s : Store) (userId : Nat) : Claims :=
  (s.userAttributes.filter (·.userId = userId)).foldl (fun claims value =>
    match s.customAttributes.find? (·.id = value.attributeId) with
    | some definition =>
      match definition.mapToOidcClaim with
      | some claim => if claim = "" then claims else claims.assign claim (.str value.value)
      | none => claims
    | none => claims) Claims.empty

/-- The user's full name, as `resolveUserClaims` and the full-name mapper build it. -/
def fullName (firstName lastName : Option String) : Option String :=
  match firstName, lastName with
  | some first, some last => if first ≠ "" ∧ last ≠ "" then some (first ++ " " ++ last) else some first
  | some first, none => some first
  | none, last => last

def userColumns (user : User) : Claims := fun key =>
  match key with
  | "preferred_username" => some (.str user.username)
  | "given_name" => user.firstName.map .str
  | "family_name" => user.lastName.map .str
  | "name" => (fullName user.firstName user.lastName).map .str
  | "email" => user.email.map .str
  | "email_verified" => some (.bool user.emailVerified)
  | _ => none

def nonEmpty (custom : Claims) : Claims := fun key =>
  match custom key with
  | some (.str "") => none
  | value => value

def resolveUserClaims (user : User) (allowedClaims : List String) (custom : Claims) : Claims :=
  let filtered : Claims := fun key =>
    if key = "sub" then some (.id user.id)
    else if allowedClaims.contains key then userColumns user key
    else none
  filtered.spread (nonEmpty custom)

structure MapperContext where
  username : String
  email : Option String
  emailVerified : Bool
  (firstName lastName : Option String)
  realmRoles : List String
  resourceAccess : List (String × List String)

namespace ProtocolMapperExecutor

variable (config : List (String × Value)) (ctx : MapperContext) (payload : Claims)

def attributeMap : String → Option Value
  | "username" => some (.str ctx.username)
  | "email" => ctx.email.map .str
  | "emailVerified" => some (.bool ctx.emailVerified)
  | "firstName" => ctx.firstName.map .str
  | "lastName" => ctx.lastName.map .str
  | _ => none

def executeUserModelAttributeMapper : Claims :=
  match config.lookup "user.attribute", config.lookup "claim.name" with
  | some userAttribute, some claimName =>
    if userAttribute.truthy && claimName.truthy then
      match attributeMap ctx userAttribute.toKey with
      | some value => payload.assign claimName.toKey value
      | none => payload
    else payload
  | _, _ => payload

def executeHardcodedClaimMapper : Claims :=
  match config.lookup "claim.name", config.lookup "claim.value" with
  | some claimName, some claimValue =>
    if claimName.truthy then payload.assign claimName.toKey claimValue else payload
  | _, _ => payload

def executeRoleListMapper : Claims :=
  let claimName : Value := match config.lookup "claim.name" with
    | none | some (.json "null") => .str "realm_access"
    | some name => name
  if claimName = .str "realm_access" then
    (payload.assign "realm_access" (.access ctx.realmRoles)).assign
      "resource_access" (.resources ctx.resourceAccess)
  else payload

def executeAudienceMapper : Claims :=
  match config.lookup "included.client.audience" with
  | none => payload
  | some audience =>
    if !audience.truthy then payload
    else match payload "aud", audience with
      | some (.texts items), .str text => payload.assign "aud" (.texts (items ++ [text]))
      | some (.str existing), .str text => payload.assign "aud" (.texts [existing, text])
      | some (.texts _), _ | some (.str _), _ => payload.assign "aud" (.json "[]")
      | _, _ => payload.assign "aud" audience

def executeFullNameMapper : Claims :=
  match fullName ctx.firstName ctx.lastName with
  | some name => if name = "" then payload else payload.assign "name" (.str name)
  | none => payload

def executeMapper (mapper : ProtocolMapper) : Claims :=
  match mapper.mapperType with
  | "oidc-usermodel-attribute-mapper" =>
    executeUserModelAttributeMapper mapper.config ctx payload
  | "oidc-hardcoded-claim-mapper" => executeHardcodedClaimMapper mapper.config payload
  | "oidc-role-list-mapper" => executeRoleListMapper mapper.config ctx payload
  | "oidc-audience-mapper" => executeAudienceMapper mapper.config payload
  | "oidc-full-name-mapper" => executeFullNameMapper ctx payload
  | _ => payload

def executeMappers (mappers : List ProtocolMapper) : Claims :=
  mappers.foldl (fun payload mapper => executeMapper ctx payload mapper) payload

end ProtocolMapperExecutor

def getScopeMappers (s : Store) (scopeNames : List String) (realmId : Nat) :
    List ProtocolMapper :=
  let scopes := s.clientScopes.filter fun scope =>
    scope.realmId = realmId && scopeNames.contains scope.name
  scopes.flatMap fun scope => s.protocolMappers.filter (·.clientScopeId = scope.id)

def getClientEffectiveScopes (s : Store) (clientDbId : Nat) (requestedScopes : List String) :
    List String :=
  let names (links : List ClientScopeLink) : List String :=
    (links.filter (·.clientId = clientDbId)).filterMap fun link =>
      (s.clientScopes.find? (·.id = link.clientScopeId)).map (·.name)
  let optionalNames := names s.clientOptionalScopes
  (names s.clientDefaultScopes ++ requestedScopes.filter (optionalNames.contains ·)).eraseDups

end Idenplane
