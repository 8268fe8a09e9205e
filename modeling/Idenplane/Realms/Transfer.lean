import Idenplane.Lib.Loops
import Idenplane.Realms.Service

/-! # Export and import of a realm

`RealmExportService` and `RealmImportService`.  An export names rows instead of giving their ids;
an import creates new rows and finds out again which name belongs to which of them.
-/

namespace Idenplane.Realms.Transfer

open Atomic Auth Admin Properties

structure ScopeRow where
  id : Nat
  realmId : Nat
  name : String
  description : Option String := none
  protocol : String := "openid-connect"
  builtIn : Bool := false

/-- What a protocol mapper says; exported and imported as it is. -/
structure Mapper where
  name : String
  protocol : String := "openid-connect"
  mapperType : String
  config : Js := .obj []

structure MapperRow where
  clientScopeId : Nat
  mapper : Mapper

structure Provider where
  alias_ : String
  displayName : Option String := none
  enabled : Bool := true
  providerType : String := "oidc"
  clientId : String
  clientSecret : String := ""
  authorizationUrl : String
  tokenUrl : String
  (userinfoUrl jwksUrl issuer : Option String := none)
  defaultScopes : String := "openid email profile"
  (trustEmail linkOnly : Bool := false)
  syncUserProfile : Bool := true

structure ProviderRow where
  realmId : Nat
  provider : Provider

structure Database where
  realms : List RealmRow := []
  signingKeys : List RealmSigningKey := []
  clientScopes : List ScopeRow := []
  protocolMappers : List MapperRow := []
  clients : List Client := []
  roles : List Role := []
  groups : List Group := []
  identityProviders : List ProviderRow := []
  (defaultScopes optionalScopes : List ClientScopeLink := [])
  users : List User := []
  userRoles : List UserRole := []
  userGroups : List UserGroup := []

structure World where
  db : Database := {}
  supply : Nat := 0

abbrev Call (α : Type) := Prog World Failure α

structure ImportedScope where
  name : String
  (description protocol : Option String := none)
  builtIn : Option Bool := none
  protocolMappers : List Mapper := []

structure ImportedClient where
  clientId : String
  clientType : Option ClientType := none
  (clientSecret name description : Option String := none)
  (enabled requireConsent : Option Bool := none)
  (redirectUris webOrigins grantTypes : Option (List String) := none)
  backchannelLogoutUri : Option String := none
  backchannelLogoutSessionRequired : Option Bool := none

structure RoleName where
  name : String
  clientId : Option String := none
  deriving DecidableEq

structure ImportedRole extends RoleName where
  description : Option String := none

structure ImportedGroup where
  name : String
  (description parentName : Option String := none)

structure ScopeAssignment where
  clientId : String
  (defaultScopes optionalScopes : List String := [])

structure ImportedUser where
  username : String
  email : Option String := none
  emailVerified : Option Bool := none
  (firstName lastName : Option String := none)
  enabled : Option Bool := none
  roles : List RoleName := []
  groups : List String := []

structure Document extends Payload where
  clients : List ImportedClient := []
  roles : List ImportedRole := []
  groups : List ImportedGroup := []
  clientScopes : List ImportedScope := []
  identityProviders : List Provider := []
  clientScopeAssignments : List ScopeAssignment := []
  users : List ImportedUser := []

section Export

variable (db : Database) (realm : RealmRow)

def Database.clientsOf (db : Database) (realmId : Nat) : List Client :=
  db.clients.filter (·.realmId = realmId)

def Database.rolesOf (db : Database) (realmId : Nat) : List Role :=
  db.roles.filter (·.realmId = realmId)

def Database.groupsOf (db : Database) (realmId : Nat) : List Group :=
  db.groups.filter (·.realmId = realmId)

def Database.scopesOf (db : Database) (realmId : Nat) : List ScopeRow :=
  db.clientScopes.filter (·.realmId = realmId)

def Database.usersOf (db : Database) (realmId : Nat) : List User :=
  db.users.filter (·.realmId = realmId)

/-- `clientMap.get`, for the client of a role. -/
def clientName (clients : List Client) (id : Option Nat) : Option String :=
  id.bind fun id => (clients.find? (·.id = id)).map (·.clientId)

def parentName (groups : List Group) (group : Group) : Option String :=
  group.parentId.bind fun id => (groups.find? (·.id = id)).map (·.name)

def scopeNames (scopes : List ScopeRow) (links : List ClientScopeLink) (client : Client) :
    List String :=
  ((links.filter (·.clientId = client.id)).filterMap fun link =>
    (scopes.find? (·.id = link.clientScopeId)).map (·.name)).filter (· ≠ "")

def exportSettings : Settings where
  displayName := realm.displayName
  enabled := some realm.enabled
  accessTokenLifespan := some realm.accessTokenLifespan
  refreshTokenLifespan := some realm.refreshTokenLifespan
  offlineTokenLifespan := some realm.offlineTokenLifespan
  passwordMinLength := some realm.passwordMinLength
  passwordRequireUppercase := some realm.passwordRequireUppercase
  passwordRequireLowercase := some realm.passwordRequireLowercase
  passwordRequireDigits := some realm.passwordRequireDigits
  passwordRequireSpecialChars := some realm.passwordRequireSpecialChars
  passwordHistoryCount := some realm.passwordHistoryCount
  passwordMaxAgeDays := some realm.passwordMaxAgeDays
  bruteForceEnabled := some realm.bruteForceEnabled
  maxLoginFailures := some realm.maxLoginFailures
  lockoutDuration := some realm.lockoutDuration
  failureResetTime := some realm.failureResetTime
  permanentLockoutAfter := some realm.permanentLockoutAfter
  mfaRequired := some realm.mfaRequired

def exportClient (includeSecrets : Bool) (client : Client) : ImportedClient where
  clientId := client.clientId
  clientType := some client.clientType
  clientSecret := if includeSecrets then client.clientSecret else none
  name := client.name
  description := client.description
  enabled := some client.enabled
  requireConsent := some client.requireConsent
  redirectUris := some client.redirectUris
  webOrigins := some client.webOrigins
  grantTypes := some client.grantTypes
  backchannelLogoutUri := client.backchannelLogoutUri
  backchannelLogoutSessionRequired := some client.backchannelLogoutSessionRequired

def exportRole (clients : List Client) (role : Role) : ImportedRole where
  name := role.name
  description := role.description
  clientId := clientName clients role.clientId

def exportGroup (groups : List Group) (group : Group) : ImportedGroup where
  name := group.name
  description := group.description
  parentName := parentName groups group

def exportScope (mappers : List MapperRow) (scope : ScopeRow) : ImportedScope where
  name := scope.name
  description := scope.description
  protocol := some scope.protocol
  builtIn := some scope.builtIn
  protocolMappers := (mappers.filter (·.clientScopeId = scope.id)).map (·.mapper)

def exportAssignment (db : Database) (scopes : List ScopeRow) (client : Client) :
    ScopeAssignment where
  clientId := client.clientId
  defaultScopes := scopeNames scopes db.defaultScopes client
  optionalScopes := scopeNames scopes db.optionalScopes client

def exportUser (db : Database) (clients : List Client) (user : User) : ImportedUser where
  username := user.username
  email := user.email
  emailVerified := some user.emailVerified
  firstName := user.firstName
  lastName := user.lastName
  enabled := some user.enabled
  roles := (db.userRoles.filter (·.userId = user.id)).filterMap fun link =>
    (db.roles.find? (·.id = link.roleId)).map fun role =>
      { name := role.name, clientId := clientName clients role.clientId }
  groups := (db.userGroups.filter (·.userId = user.id)).filterMap fun link =>
    (db.groups.find? (·.id = link.groupId)).map (·.name)

def exportData (includeUsers includeSecrets : Bool) : Document where
  version := "1"
  name := realm.name
  settings := exportSettings realm
  clients := (db.clientsOf realm.id).map (exportClient includeSecrets)
  roles := (db.rolesOf realm.id).map (exportRole (db.clientsOf realm.id))
  groups := (db.groupsOf realm.id).map (exportGroup (db.groupsOf realm.id))
  clientScopes := (db.scopesOf realm.id).map (exportScope db.protocolMappers)
  identityProviders := (db.identityProviders.filter (·.realmId = realm.id)).map fun row =>
    { row.provider with clientSecret := if includeSecrets then row.provider.clientSecret else "" }
  clientScopeAssignments := (db.clientsOf realm.id).map (exportAssignment db (db.scopesOf realm.id))
  users :=
    if includeUsers then (db.usersOf realm.id).map (exportUser db (db.clientsOf realm.id)) else []

end Export

def exportRealm (name : String) (includeUsers includeSecrets : Bool) : Call Document := do
  let found ← read fun w => w.db.realms.find? (·.name = name)
  let realm ← orFail found (notFound ("Realm '" ++ name ++ "' not found"))
  read fun w => exportData w.db realm includeUsers includeSecrets

/-- The calls of an import, with the place of the entry that each is about. -/
inductive Statement where
  | findRealm
  | deleteRealm
  | keyPair
  | createRealm
  | scope (i : Nat)
  | mapper (i j : Nat)
  | seed (i : Nat)
  | client (i : Nat)
  | role (i : Nat)
  | readGroup (i : Nat)
  | group (i : Nat)
  | identityProvider (i : Nat)
  | readAssignment (i : Nat)
  | defaultScope (i j : Nat)
  | optionalScope (i j : Nat)
  | user (i : Nat)
  | userRole (i j : Nat)
  | userGroup (i j : Nat)

/-- Which calls throw: the entry is malformed, or the database is gone. -/
abbrev Throws := Statement → Bool

def insert (taken : Database → Bool) (grown : Nat → Database → Database) (w : World) :
    Option Nat × World :=
  if taken w.db then (none, w)
  else (some w.supply, { db := grown w.supply w.db, supply := w.supply + 1 })

def append (taken : Database → Bool) (grown : Database → Database) (w : World) :
    Option Unit × World :=
  if taken w.db then (none, w) else (some (), { w with db := grown w.db })

def statement (throws : Throws) (statement : Statement) {α : Type}
    (effect : World → Option α × World) : Call α := do
  require (!throws statement) .internal
  let res ← atomic effect
  orFail res .internal

/-- `realm.delete`, with everything that belongs to the realm. -/
def Database.deleteRealm (db : Database) (realm : RealmRow) : Database :=
  let scopeIds := (db.scopesOf realm.id).map (·.id)
  let clientIds := (db.clientsOf realm.id).map (·.id)
  let userIds := (db.usersOf realm.id).map (·.id)
  { realms := db.realms.filter (·.name ≠ realm.name)
    signingKeys := db.signingKeys.filter (·.realmId ≠ realm.id)
    clientScopes := db.clientScopes.filter (·.realmId ≠ realm.id)
    protocolMappers := db.protocolMappers.filter (!scopeIds.contains ·.clientScopeId)
    clients := db.clients.filter (·.realmId ≠ realm.id)
    roles := db.roles.filter (·.realmId ≠ realm.id)
    groups := db.groups.filter (·.realmId ≠ realm.id)
    identityProviders := db.identityProviders.filter (·.realmId ≠ realm.id)
    defaultScopes := db.defaultScopes.filter (!clientIds.contains ·.clientId)
    optionalScopes := db.optionalScopes.filter (!clientIds.contains ·.clientId)
    users := db.users.filter (·.realmId ≠ realm.id)
    userRoles := db.userRoles.filter (!userIds.contains ·.userId)
    userGroups := db.userGroups.filter (!userIds.contains ·.userId) }

/-- Ids by name, the `Map`s of an import. -/
abbrev Ids := Object String Nat

section Import

variable (throws : Throws)

def scopeRow (realmId id : Nat) (scope : ImportedScope) : ScopeRow where
  id := id
  realmId := realmId
  name := scope.name
  description := scope.description
  protocol := scope.protocol.getD "openid-connect"
  builtIn := scope.builtIn.getD false

/-- `protocolMapper.create`; the name is unique in the scope. -/
def createMapper (i scopeId : Nat) (j : Nat) (mapper : Mapper) (_ : Unit) : Call Unit :=
  statement throws (.mapper i j) (append (fun db => db.protocolMappers.any fun row =>
      row.clientScopeId = scopeId && row.mapper.name = mapper.name)
    (fun db => { db with protocolMappers := db.protocolMappers ++ [⟨scopeId, mapper⟩] }))

def createScope (realmId : Nat) (i : Nat) (scope : ImportedScope) (ids : Ids) : Call Ids := do
  let id ← statement throws (.scope i) (insert
    (fun db => db.clientScopes.any fun row => row.realmId = realmId && row.name = scope.name)
    (fun id db => { db with clientScopes := db.clientScopes ++ [scopeRow realmId id scope] }))
  forEach (createMapper throws i id) 0 scope.protocolMappers ()
  pure (set ids scope.name id)

def seedMapper (name mapperType : String) (config : List (String × String)) : Mapper where
  name := name
  mapperType := mapperType
  config := .obj (config.map fun e => (e.1, .str e.2))

/-- `DEFAULT_SCOPES` and `OPTIONAL_SCOPES`. -/
def seededScopes : List ImportedScope :=
  let attributeMapper := "oidc-usermodel-attribute-mapper"
  [{ name := "openid", description := some "OpenID Connect scope", builtIn := some true,
      protocolMappers := [seedMapper "sub" attributeMapper
        [("user.attribute", "id"), ("claim.name", "sub")]] },
    { name := "profile", description := some "User profile information", builtIn := some true,
      protocolMappers :=
        [seedMapper "username" attributeMapper
            [("user.attribute", "username"), ("claim.name", "preferred_username")],
          seedMapper "full name" "oidc-full-name-mapper" [],
          seedMapper "given name" attributeMapper
            [("user.attribute", "firstName"), ("claim.name", "given_name")],
          seedMapper "family name" attributeMapper
            [("user.attribute", "lastName"), ("claim.name", "family_name")]] },
    { name := "email", description := some "Email address", builtIn := some true,
      protocolMappers :=
        [seedMapper "email" attributeMapper [("user.attribute", "email"), ("claim.name", "email")],
          seedMapper "email verified" attributeMapper
            [("user.attribute", "emailVerified"), ("claim.name", "email_verified")]] },
    { name := "roles", description := some "User roles", builtIn := some true,
      protocolMappers := [seedMapper "realm roles" "oidc-role-list-mapper"
        [("claim.name", "realm_access")]] },
    { name := "web-origins", description := some "Web origins for CORS", builtIn := some true },
    { name := "offline_access", description := some "Offline access for long-lived tokens",
      builtIn := some true }]

/-- One turn of `seedDefaultScopes`; the scope and its mappers are created together. -/
def seedScope (realmId : Nat) (i : Nat) (scope : ImportedScope) (_ : Unit) : Call Unit := do
  require (!throws (.seed i)) .internal
  let existing ← read fun w =>
    w.db.clientScopes.any fun row => row.realmId = realmId && row.name = scope.name
  if existing then pure ()
  else
    modify fun w =>
      { db := { w.db with
          clientScopes := w.db.clientScopes ++ [scopeRow realmId w.supply scope]
          protocolMappers := w.db.protocolMappers ++ scope.protocolMappers.map (⟨w.supply, ·⟩) }
        supply := w.supply + 1 }

def clientRow (realmId id : Nat) (client : ImportedClient) : Client where
  id := id
  realmId := realmId
  clientId := client.clientId
  clientType := client.clientType.getD .CONFIDENTIAL
  clientSecret := client.clientSecret
  name := client.name
  description := client.description
  enabled := client.enabled.getD true
  requireConsent := client.requireConsent.getD false
  redirectUris := client.redirectUris.getD []
  webOrigins := (client.webOrigins.getD []).filter (· ≠ "*")
  grantTypes := client.grantTypes.getD ["authorization_code"]
  backchannelLogoutUri := client.backchannelLogoutUri
  backchannelLogoutSessionRequired := client.backchannelLogoutSessionRequired.getD true

def createClient (realmId : Nat) (i : Nat) (client : ImportedClient) (ids : Ids) : Call Ids := do
  let id ← statement throws (.client i) (insert
    (fun db => db.clients.any fun row => row.realmId = realmId && row.clientId = client.clientId)
    (fun id db => { db with clients := db.clients ++ [clientRow realmId id client] }))
  pure (set ids client.clientId id)

def dbClientId (clientIds : Ids) (role : RoleName) : Option Nat :=
  (given role.clientId).bind (get clientIds)

def roleRow (clientIds : Ids) (realmId id : Nat) (role : ImportedRole) : Role where
  id := id
  realmId := realmId
  clientId := dbClientId clientIds role.toRoleName
  name := role.name
  description := role.description

/-- The key of a role in `roleIdMap`. -/
def roleKey (role : RoleName) : String := role.name ++ "|" ++ role.clientId.getD ""

/-- `role.create`; the name is unique in a client. -/
def createRole (clientIds : Ids) (realmId : Nat) (i : Nat) (role : ImportedRole) (ids : Ids) :
    Call Ids := do
  let id ← statement throws (.role i) (insert
    (fun db => (dbClientId clientIds role.toRoleName).any fun client =>
      db.roles.any fun row =>
        row.realmId = realmId && row.clientId = some client && row.name = role.name)
    (fun id db => { db with roles := db.roles ++ [roleRow clientIds realmId id role] }))
  pure (set ids (roleKey role.toRoleName) id)

def groupRow (parentId : Option Nat) (realmId id : Nat) (group : ImportedGroup) : Group where
  id := id
  realmId := realmId
  name := group.name
  description := group.description
  parentId := parentId

def insertGroup (realmId : Nat) (i : Nat) (group : ImportedGroup) (parentId : Option Nat)
    (ids : Ids) : Call Ids := do
  let id ← statement throws (.group i) (insert
    (fun db => db.groups.any fun row => row.realmId = realmId && row.name = group.name)
    (fun id db => { db with groups := db.groups ++ [groupRow parentId realmId id group] }))
  pure (set ids group.name id)

def createRoot (realmId : Nat) (i : Nat) (group : ImportedGroup) (ids : Ids) : Call Ids := do
  require (!throws (.readGroup i)) .internal
  match given group.parentName with
  | none => insertGroup throws realmId i group none ids
  | some _ => pure ids

def createChild (realmId : Nat) (i : Nat) (group : ImportedGroup) (ids : Ids) : Call Ids :=
  match given group.parentName with
  | none => pure ids
  | some parent => insertGroup throws realmId i group (get ids parent) ids

def createProvider (realmId : Nat) (i : Nat) (provider : Provider) (_ : Unit) : Call Unit :=
  statement throws (.identityProvider i) (append (fun db => db.identityProviders.any fun row =>
      row.realmId = realmId && row.provider.alias_ = provider.alias_)
    (fun db => { db with identityProviders := db.identityProviders ++ [⟨realmId, provider⟩] }))

/-- A scope that is not known is skipped. -/
def assignDefault (scopeIds : Ids) (client : Nat) (i j : Nat) (scope : String) (_ : Unit) :
    Call Unit :=
  match get scopeIds scope with
  | none => pure ()
  | some id => statement throws (.defaultScope i j) (append
      (fun db => db.defaultScopes.contains ⟨client, id⟩)
      (fun db => { db with defaultScopes := db.defaultScopes ++ [⟨client, id⟩] }))

def assignOptional (scopeIds : Ids) (client : Nat) (i j : Nat) (scope : String) (_ : Unit) :
    Call Unit :=
  match get scopeIds scope with
  | none => pure ()
  | some id => statement throws (.optionalScope i j) (append
      (fun db => db.optionalScopes.contains ⟨client, id⟩)
      (fun db => { db with optionalScopes := db.optionalScopes ++ [⟨client, id⟩] }))

def assignScopes (clientIds scopeIds : Ids) (i : Nat) (assignment : ScopeAssignment) (_ : Unit) :
    Call Unit := do
  require (!throws (.readAssignment i)) .internal
  match get clientIds assignment.clientId with
  | none => pure ()
  | some client => do
    forEach (assignDefault throws scopeIds client i) 0 assignment.defaultScopes ()
    forEach (assignOptional throws scopeIds client i) 0 assignment.optionalScopes ()

def userRow (realmId id : Nat) (user : ImportedUser) : User where
  id := id
  realmId := realmId
  username := user.username
  email := user.email
  emailVerified := user.emailVerified.getD false
  firstName := user.firstName
  lastName := user.lastName
  enabled := user.enabled.getD true

def assignRole (roleIds : Ids) (user : Nat) (i j : Nat) (role : RoleName) (_ : Unit) :
    Call Unit :=
  match get roleIds (roleKey role) with
  | none => pure ()
  | some id => statement throws (.userRole i j) (append (fun db => db.userRoles.contains ⟨user, id⟩)
      (fun db => { db with userRoles := db.userRoles ++ [⟨user, id⟩] }))

def assignGroup (groupIds : Ids) (user : Nat) (i j : Nat) (group : String) (_ : Unit) :
    Call Unit :=
  match get groupIds group with
  | none => pure ()
  | some id => statement throws (.userGroup i j) (append
      (fun db => db.userGroups.contains ⟨user, id⟩)
      (fun db => { db with userGroups := db.userGroups ++ [⟨user, id⟩] }))

/-- `user.create`; the name is unique in the realm, and so is the address. -/
def createUser (roleIds groupIds : Ids) (realmId : Nat) (i : Nat) (user : ImportedUser) (_ : Unit) :
    Call Unit := do
  let id ← statement throws (.user i) (insert
    (fun db => db.users.any fun row => row.realmId = realmId &&
      (row.username = user.username || row.email.isSome && row.email = user.email))
    (fun id db => { db with users := db.users ++ [userRow realmId id user] }))
  forEach (assignRole throws roleIds id i) 0 user.roles ()
  forEach (assignGroup throws groupIds id i) 0 user.groups ()

def createRealm (doc : Document) : Call Nat :=
  statement throws .createRealm (insert (fun db => (db.realms.find? (·.name = doc.name)).isSome)
    (fun id db => { db with
      realms := db.realms ++ [{ doc.settings.apply { id := 0, name := doc.name } with id := id }]
      signingKeys := db.signingKeys ++ [{ id := id, realmId := id, createdAt := 0 }] }))

structure Summary where
  realmName : String
  (clientsImported rolesImported groupsImported scopesImported idpsImported usersImported : Nat)
  deriving DecidableEq

/-- A document without scopes brings the default ones. -/
def seedScopes (doc : Document) (realmId : Nat) : Call Unit :=
  if doc.clientScopes.isEmpty then forEach (seedScope throws realmId) 0 seededScopes ()
  else pure ()

def importContents (doc : Document) (realmId : Nat) : Call Summary := do
  let scopeIds ← forEach (createScope throws realmId) 0 doc.clientScopes []
  seedScopes throws doc realmId
  let clientIds ← forEach (createClient throws realmId) 0 doc.clients []
  let roleIds ← forEach (createRole throws clientIds realmId) 0 doc.roles []
  let rootIds ← forEach (createRoot throws realmId) 0 doc.groups []
  let groupIds ← forEach (createChild throws realmId) 0 doc.groups rootIds
  forEach (createProvider throws realmId) 0 doc.identityProviders ()
  forEach (assignScopes throws clientIds scopeIds) 0 doc.clientScopeAssignments ()
  forEach (createUser throws roleIds groupIds realmId) 0 doc.users ()
  pure
    { realmName := doc.name
      clientsImported := doc.clients.length
      rolesImported := doc.roles.length
      groupsImported := doc.groups.length
      scopesImported := doc.clientScopes.length
      idpsImported := doc.identityProviders.length
      usersImported := doc.users.length }

def importRealm (doc : Document) (overwrite : Bool) : Call Summary := do
  require (doc.version ≠ "") (badRequest "Invalid import format: missing version or realm")
  require (doc.name ≠ "") (badRequest "Invalid import format: realm name is required")
  require (!throws .findRealm) .internal
  let existing ← read fun w => w.db.realms.find? (·.name = doc.name)
  require (existing.isNone || overwrite)
    (realmExists doc.name ". Use overwrite option to replace it.")
  match existing with
  | none => pure ()
  | some realm => do
    require (!throws .deleteRealm) .internal
    modify fun w => { w with db := w.db.deleteRealm realm }
  require (!throws .keyPair) .internal
  let realmId ← createRealm throws doc
  importContents throws doc realmId

end Import

end Idenplane.Realms.Transfer
