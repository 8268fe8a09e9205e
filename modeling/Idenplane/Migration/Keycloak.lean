import Idenplane.Lib.Merging
import Idenplane.Lib.Transactions
import Idenplane.Migration.Passwords
import Idenplane.Realms.Transfer

/-! # Import from Keycloak

`KeycloakImporterService`.  A real import runs in one transaction and catches what each entity
throws; a dry run makes the same queries outside of one and creates nothing.
-/

namespace Idenplane.Migration

open Atomic Transaction Properties Realms Realms.Transfer

structure SmtpServer where
  (host password : Option String := none)

structure KeycloakRole where
  name : String
  description : Option String := none

structure KeycloakClientScope where
  name : String
  (description protocol : Option String := none)

structure KeycloakClient where
  clientId : String
  name : Option String := none
  (enabled publicClient : Option Bool := none)
  secret : Option String := none
  (redirectUris webOrigins : Option (List String) := none)
  (standardFlowEnabled directAccessGrantsEnabled serviceAccountsEnabled consentRequired : Option
    Bool := none)

structure KeycloakUser where
  username : String
  (email firstName lastName : Option String := none)
  (enabled emailVerified : Option Bool := none)
  credentials : List KeycloakCredential := []
  realmRoles : List String := []

inductive KeycloakGroup where
  | mk (name : String) (subGroups : List KeycloakGroup)

structure KeycloakIdentityProvider where
  alias_ : String
  providerId : String
  (enabled trustEmail : Option Bool := none)
  config : Object String String := []
  displayName : Option String := none

structure KeycloakRealmExport where
  realm : String
  displayName : Option String := none
  (enabled registrationAllowed : Option Bool := none)
  (accessTokenLifespan ssoSessionMaxLifespan : Option Int := none)
  smtpServer : SmtpServer := {}
  bruteForceProtected : Bool := false
  failureFactor : Option Int := none
  users : List KeycloakUser := []
  clients : List KeycloakClient := []
  roles : List KeycloakRole := []
  groups : List KeycloakGroup := []
  clientScopes : List KeycloakClientScope := []
  identityProviders : List KeycloakIdentityProvider := []

structure KeycloakImportOptions where
  dryRun : Bool
  targetRealm : Option String := none

inductive Entity where
  | realms
  | users
  | clients
  | roles
  | groups
  | scopes
  | identityProviders
  deriving DecidableEq

abbrev MigrationEntityStats := Merging.Tally

structure MigrationError where
  entity : Entity
  name : String
  error : Thrown
  deriving DecidableEq

structure Report where
  dryRun : Bool
  summary : Entity → MigrationEntityStats := fun _ => {}
  errors : List MigrationError := []
  warnings : List (Entity × String) := []

namespace Report

def count (entity : Entity) (change : MigrationEntityStats → MigrationEntityStats)
    (report : Report) : Report :=
  { report with summary := update report.summary entity (change (report.summary entity)) }

def created (entity : Entity) (report : Report) : Report := report.count entity .create

def skipped (entity : Entity) (report : Report) : Report := report.count entity .skip

def recorded (entity : Entity) (name : String) (error : Thrown) (report : Report) : Report :=
  { report with errors := report.errors ++ [{ entity := entity, name := name, error := error }] }

def failed (entity : Entity) (name : String) (error : Thrown) (report : Report) : Report :=
  (report.count entity .fail).recorded entity name error

def warned (entity : Entity) (message : String) (report : Report) : Report :=
  { report with warnings := report.warnings ++ [(entity, message)] }

end Report

abbrev Import (α : Type) := Transaction.Call World Report α

/-- What an import writes to: nothing, in a dry run, where a realm that does not exist yet has
the id `dry-run-realm-id` and no rows. -/
inductive Target where
  | dryRun (realmId : Option Nat)
  | real (realmId : Nat)

def Target.realmId : Target → Option Nat
  | .dryRun realmId => realmId
  | .real realmId => some realmId

def tooLong : Thrown := .error "Password must not exceed 1024 characters."

def isHashable (password : String) : Bool :=
  Text.utf16Length password.toList ≤ maxPasswordLength

def hashPassword (d : Deps) (password : String) : Import String := do
  require (isHashable password) tooLong
  pure (d.hashPassword password)

open Report

/-- One turn of a loop: what exists is skipped, and what throws is counted. -/
def importEntity {α : Type} (entity : Entity) (name : String) (isKnown : World → Bool)
    (prepare : Import α) (create : Nat → α → Import Unit) (target : Target) : Import Unit :=
  caught (failed entity name) do
    let existing ← query isKnown
    if existing then note (skipped entity)
    else do
      let prepared ← prepare
      match target with
      | .dryRun _ => pure ()
      | .real realmId => create realmId prepared
      note (created entity)

def hasRole (realmId : Option Nat) (name : String) (w : World) : Bool :=
  w.db.roles.any fun row => some row.realmId = realmId && row.name = name && row.clientId = none

/-- Names of realm roles are not constrained: the column `clientId` is null. -/
def createRole (role : KeycloakRole) (realmId : Nat) : Import Unit := do
  let _ ← write (insert (fun _ => false) fun id db => { db with
    roles := db.roles ++
      [{ id := id, realmId := realmId, name := role.name, description := role.description }] })

def isBuiltinRole (realm name : String) : Bool :=
  ["offline_access", "uma_authorization", "default-roles-" ++ realm].contains name

def importRole (target : Target) (role : KeycloakRole) : Import Unit :=
  importEntity .roles role.name (hasRole target.realmId role.name) (pure ())
    (fun realmId _ => createRole role realmId) target

def importRoles (data : KeycloakRealmExport) (target : Target) : Import Unit :=
  each (importRole target) (data.roles.filter fun role => !isBuiltinRole data.realm role.name)

def findGroup (realmId : Option Nat) (name : String) (parentId : Option Nat) (w : World) :
    Option Nat :=
  (w.db.groups.find? fun row =>
    some row.realmId = realmId && row.name = name && row.parentId = parentId).map (·.id)

/-- `group.create`; the name is unique in the realm. -/
def createGroup (realmId : Nat) (name : String) (parentId : Option Nat) : Import Nat :=
  write (insert (fun db => db.groups.any fun row => row.realmId = realmId && row.name = name)
    fun id db => { db with
      groups := db.groups ++ [{ id := id, realmId := realmId, name := name, parentId := parentId }] })

/-- The id under which the subgroups of a new group are looked up. -/
def newGroup (target : Target) (name : String) (parentId : Option Nat) : Import (Option Nat) :=
  match target with
  | .dryRun _ => pure none
  | .real realmId => do
    let id ← createGroup realmId name parentId
    pure (some id)

mutual

def importGroup (target : Target) (parentId : Option Nat) : KeycloakGroup → Import Unit
  | .mk name subGroups => caught (failed .groups name) do
      let existing ← query (findGroup target.realmId name parentId)
      match existing with
      | some id => do
        note (skipped .groups)
        importGroups target (some id) subGroups
      | none => do
        let groupId ← newGroup target name parentId
        note (created .groups)
        importGroups target groupId subGroups

def importGroups (target : Target) (parentId : Option Nat) : List KeycloakGroup → Import Unit
  | [] => pure ()
  | group :: groups => do
    importGroup target parentId group
    importGroups target parentId groups

end

def hasScope (realmId : Option Nat) (name : String) (w : World) : Bool :=
  w.db.clientScopes.any fun row => some row.realmId = realmId && row.name = name

def createScope (scope : KeycloakClientScope) (realmId : Nat) : Import Unit := do
  let _ ← write (insert
    (fun db => db.clientScopes.any fun row => row.realmId = realmId && row.name = scope.name)
    fun id db => { db with
      clientScopes := db.clientScopes ++
        [{ id := id, realmId := realmId, name := scope.name, description := scope.description,
           protocol := scope.protocol.getD "openid-connect" }] })

def importScope (target : Target) (scope : KeycloakClientScope) : Import Unit :=
  importEntity .scopes scope.name (hasScope target.realmId scope.name) (pure ())
    (fun realmId _ => createScope scope realmId) target

def importClientScopes (data : KeycloakRealmExport) (target : Target) : Import Unit :=
  each (importScope target) data.clientScopes

def mapKeycloakGrantTypes (client : KeycloakClient) : List String :=
  (if client.standardFlowEnabled ≠ some false then ["authorization_code"] else []) ++
    (if client.directAccessGrantsEnabled = some true then ["password"] else []) ++
    (if client.serviceAccountsEnabled = some true then ["client_credentials"] else []) ++
    ["refresh_token"]

def hasClient (realmId : Option Nat) (clientId : String) (w : World) : Bool :=
  w.db.clients.any fun row => some row.realmId = realmId && row.clientId = clientId

def hashedSecret (d : Deps) (secret : Option String) : Import (Option String) :=
  match given secret with
  | none => pure none
  | some secret => do
    let hash ← hashPassword d secret
    pure (some hash)

def keycloakClientRow (client : KeycloakClient) (secretHash : Option String) (realmId id : Nat) :
    Client where
  id := id
  realmId := realmId
  clientId := client.clientId
  name := client.name
  enabled := client.enabled.getD true
  clientType := if client.publicClient = some true then .PUBLIC else .CONFIDENTIAL
  clientSecret := secretHash
  redirectUris := client.redirectUris.getD []
  webOrigins := (client.webOrigins.getD []).filter (· ≠ "*")
  grantTypes := mapKeycloakGrantTypes client
  requireConsent := client.consentRequired.getD false

/-- A secret is hashed only when the client is created. -/
def createClient (d : Deps) (client : KeycloakClient) (realmId : Nat) : Import Unit := do
  let secretHash ← hashedSecret d client.secret
  let _ ← write (insert
    (fun db => db.clients.any fun row => row.realmId = realmId && row.clientId = client.clientId)
    fun id db => { db with
      clients := db.clients ++ [keycloakClientRow client secretHash realmId id] })

def isKeycloakBuiltinClient (clientId : String) : Bool :=
  ["account", "account-console", "admin-cli", "broker", "realm-management",
    "security-admin-console"].contains clientId

def importClient (d : Deps) (target : Target) (client : KeycloakClient) : Import Unit :=
  importEntity .clients client.clientId (hasClient target.realmId client.clientId) (pure ())
    (fun realmId _ => createClient d client realmId) target

def importClients (d : Deps) (data : KeycloakRealmExport) (target : Target) : Import Unit :=
  each (importClient d target)
    (data.clients.filter fun client => !isKeycloakBuiltinClient client.clientId)

def hasUser (realmId : Option Nat) (username : String) (w : World) : Bool :=
  w.db.users.any fun row => some row.realmId = realmId && row.username = username

/-- The password column; the hashes of a dry run are thrown away. -/
def passwordColumn (d : Deps) (user : KeycloakUser) : Import (Option String) :=
  let extracted := extractKeycloakPassword user.credentials
  match extracted.needsHashing, given extracted.hash with
  | true, some rawHash => do
    let hash ← hashPassword d rawHash
    pure (some hash)
  | _, _ => pure extracted.hash

def findRole (realmId : Nat) (name : String) (w : World) : Option Nat :=
  (w.db.roles.find? fun row =>
    row.realmId = realmId && row.name = name && row.clientId = none).map (·.id)

/-- A role that is already assigned is no error, for the program. -/
def assignRealmRole (realmId userId : Nat) (roleName : String) : Import Unit := do
  let role ← query (findRole realmId roleName)
  match role with
  | none => pure ()
  | some roleId => caught (fun _ report => report) (write (append
      (fun db => db.userRoles.contains ⟨userId, roleId⟩)
      (fun db => { db with userRoles := db.userRoles ++ [⟨userId, roleId⟩] })))

def keycloakUserRow (user : KeycloakUser) (hash : Option String) (realmId id : Nat) : User where
  id := id
  realmId := realmId
  username := user.username
  email := user.email
  emailVerified := user.emailVerified.getD false
  firstName := user.firstName
  lastName := user.lastName
  enabled := user.enabled.getD true
  passwordHash := hash

/-- `user.create`; the name is unique in the realm, and so is the address. -/
def createUser (user : KeycloakUser) (realmId : Nat) (hash : Option String) : Import Unit := do
  let id ← write (insert (fun db => db.users.any fun row => row.realmId = realmId &&
      (row.username = user.username || row.email.isSome && row.email = user.email))
    fun id db => { db with users := db.users ++ [keycloakUserRow user hash realmId id] })
  each (assignRealmRole realmId id) user.realmRoles

def importUser (d : Deps) (target : Target) (user : KeycloakUser) : Import Unit :=
  importEntity .users user.username (hasUser target.realmId user.username)
    (passwordColumn d user) (createUser user) target

def importUsers (d : Deps) (data : KeycloakRealmExport) (target : Target) : Import Unit :=
  each (importUser d target) data.users

/-- What `map[providerId]` gives for a name that every object has is no text. -/
def mapKeycloakProviderType (providerId : String) : Option String :=
  if Auth.objectPrototype.contains providerId then none
  else some ((([("oidc", "OIDC"), ("keycloak-oidc", "OIDC"), ("google", "OIDC"), ("github", "OIDC"),
    ("facebook", "OIDC"), ("microsoft", "OIDC"), ("saml", "SAML")] :
    List (String × String)).lookup providerId).getD "OIDC")

def hasIdentityProvider (realmId : Option Nat) (name : String) (w : World) : Bool :=
  w.db.identityProviders.any fun row =>
    some row.realmId = realmId && row.provider.alias_ = name

def keycloakProvider (idp : KeycloakIdentityProvider) (providerType : String) : Provider where
  alias_ := idp.alias_
  displayName := some (idp.displayName.getD idp.alias_)
  providerType := providerType
  enabled := idp.enabled.getD true
  trustEmail := idp.trustEmail.getD false
  clientId := (get idp.config "clientId").getD ""
  clientSecret := (get idp.config "clientSecret").getD ""
  authorizationUrl := (get idp.config "authorizationUrl").getD ""
  tokenUrl := (get idp.config "tokenUrl").getD ""
  userinfoUrl := get idp.config "userInfoUrl"
  issuer := get idp.config "issuer"

def createIdentityProvider (idp : KeycloakIdentityProvider) (realmId : Nat) : Import Unit := do
  let providerType ← orFail (mapKeycloakProviderType idp.providerId) .invalid
  write (append (fun db => db.identityProviders.any fun row =>
      row.realmId = realmId && row.provider.alias_ = idp.alias_)
    fun db => { db with
      identityProviders := db.identityProviders ++ [⟨realmId, keycloakProvider idp providerType⟩] })

def importIdentityProvider (target : Target) (idp : KeycloakIdentityProvider) : Import Unit :=
  importEntity .identityProviders idp.alias_ (hasIdentityProvider target.realmId idp.alias_)
    (pure ()) (fun realmId _ => createIdentityProvider idp realmId) target

def importIdentityProviders (data : KeycloakRealmExport) (target : Target) : Import Unit :=
  each (importIdentityProvider target) data.identityProviders

/-- `realm.create`, with numbers that fit their columns.  The other importers of a realm create its
signing key with it. -/
def keycloakRealmRow (data : KeycloakRealmExport) (name : String) (id : Nat) : RealmRow where
  id := id
  name := name
  displayName := data.displayName
  enabled := data.enabled.getD true
  registrationAllowed := data.registrationAllowed.getD false
  accessTokenLifespan := data.accessTokenLifespan.getD 300
  refreshTokenLifespan := data.ssoSessionMaxLifespan.getD 1800
  smtpPassword := (given data.smtpServer.host).bind fun _ => data.smtpServer.password
  bruteForceEnabled := data.bruteForceProtected
  maxLoginFailures := if data.bruteForceProtected then data.failureFactor.getD 5 else 5

def findRealm (name : String) (w : World) : Option Nat :=
  (w.db.realms.find? (·.name = name)).map (·.id)

def createRealm (data : KeycloakRealmExport) (name : String) : Import Nat :=
  write (insert (fun db => (db.realms.find? (·.name = name)).isSome) fun id db => { db with
    realms := db.realms ++ [keycloakRealmRow data name id] })

def targetOf (dryRun : Bool) (realmId : Nat) : Target :=
  if dryRun then .dryRun (some realmId) else .real realmId

def importRealmEntity (data : KeycloakRealmExport) (name : String) (dryRun : Bool) :
    Import Target := do
  let existing ← query (findRealm name)
  match existing with
  | some id => do
    note (skipped .realms)
    note (warned .realms ("Realm '" ++ name ++ "' already exists, using existing"))
    pure (targetOf dryRun id)
  | none =>
    if dryRun then do
      note (created .realms)
      pure (.dryRun none)
    else do
      let id ← createRealm data name
      note (created .realms)
      pure (.real id)

def importContents (d : Deps) (data : KeycloakRealmExport) (target : Target) : Import Unit := do
  importRoles data target
  importGroups target none data.groups
  importClientScopes data target
  importClients d data target
  importUsers d data target
  importIdentityProviders data target

def rollingBack (name : String) : Thrown :=
  .error ("Failed to create realm '" ++ name ++ "' — rolling back")

/-- Without a realm a dry run ends, and a transaction is rolled back. -/
def importEverything (d : Deps) (data : KeycloakRealmExport) (name : String) (dryRun : Bool) :
    Import Unit := do
  let res ← (importRealmEntity data name dryRun).attempt
  match res with
  | .ok target => importContents d data target
  | .error thrown => do
    note (failed .realms name thrown)
    require dryRun (rollingBack name)

def realmName (data : KeycloakRealmExport) (options : KeycloakImportOptions) : String :=
  options.targetRealm.getD data.realm

def Report.rolledBack (name : String) (thrown : Thrown) (report : Report) : Report :=
  if report.errors.any (·.error = thrown) then report else report.recorded .realms name thrown

def importRealm (d : Deps) (data : KeycloakRealmExport) (options : KeycloakImportOptions)
    (w : World) : Report × World :=
  let name := realmName data options
  match (importEverything d data name options.dryRun).run
      { data := w, notes := { dryRun := options.dryRun } } with
  | (.ok _, session) => (session.notes, session.committed w)
  | (.error thrown, session) => (session.notes.rolledBack name thrown, w)

end Idenplane.Migration
