import Idenplane.Migration.Keycloak

/-! # Import from Auth0, Zitadel and Authentik

`Auth0ImporterService`, `ZitadelImporterService` and `AuthentikImporterService`.  Their realm has
to exist.  They run outside of a transaction: every statement stands for itself, and what one
entity throws is caught and counted.
-/

namespace Idenplane.Migration

open Atomic Transaction Properties Realms Realms.Transfer Report

structure ImportOptions where
  dryRun : Bool
  targetRealm : String

/-- `realm.findUnique`, and the steps of an importer into the realm that it finds. -/
def importInto (steps : Target → Import Unit) (options : ImportOptions) (w : World) :
    Report × World :=
  let report : Report := { dryRun := options.dryRun }
  match findRealm options.targetRealm w with
  | none =>
    (report.recorded .realms options.targetRealm
      (.error ("Realm '" ++ options.targetRealm ++ "' does not exist. Create it first.")), w)
  | some realmId =>
    let session := ((steps (targetOf options.dryRun realmId)).run { data := w, notes := report }).2
    (session.notes, session.data)

def addRole (name : String) (description : Option String) (realmId : Nat) : Import Unit := do
  let _ ← writeAlone (insert (fun _ => false) fun id db => { db with
    roles := db.roles ++
      [{ id := id, realmId := realmId, name := name, description := description }] })

/-- `client.create`; the client id is unique in the realm. -/
def addClient (row : Nat → Client) : Import Unit := do
  let _ ← writeAlone (insert (fun db => db.clients.any fun other =>
      other.realmId = (row 0).realmId && other.clientId = (row 0).clientId)
    fun id db => { db with clients := db.clients ++ [row id] })

/-- `user.create`; the name is unique in the realm, and so is the address. -/
def addUser (row : Nat → User) : Import Nat :=
  writeAlone (insert (fun db => db.users.any fun other => other.realmId = (row 0).realmId &&
      (other.username = (row 0).username || other.email.isSome && other.email = (row 0).email))
    fun id db => { db with users := db.users ++ [row id] })

/-- `identityProvider.create`; the alias is unique in the realm. -/
def addIdentityProvider (provider : Provider) (realmId : Nat) : Import Unit :=
  writeAlone (append (fun db => db.identityProviders.any fun other =>
      other.realmId = realmId && other.provider.alias_ = provider.alias_)
    fun db => { db with identityProviders := db.identityProviders ++ [⟨realmId, provider⟩] })

namespace Auth0

structure Role where
  name : String
  description : Option String := none

structure Client where
  client_id : String
  (name client_secret : Option String := none)
  (callbacks allowed_origins grant_types : Option (List String) := none)
  token_endpoint_auth_method : Option String := none

structure CustomPasswordHash where
  algorithm : String
  value : String

structure User where
  (user_id email : Option String := none)
  email_verified : Option Bool := none
  (username given_name family_name : Option String := none)
  blocked : Option Bool := none
  password_hash : Option String := none
  custom_password_hash : Option CustomPasswordHash := none

structure Connection where
  name : String
  strategy : String
  options : Object String String := []

structure Export where
  roles : List Role := []
  clients : List Client := []
  users : List User := []
  connections : List Connection := []
  organizations : Nat := 0

def importRole (target : Target) (role : Role) : Import Unit :=
  importEntity .roles role.name (hasRole target.realmId role.name) (pure ())
    (fun realmId _ => addRole role.name role.description realmId) target

/-- For grants that are not called like a property of every object. -/
def mapAuth0GrantTypes (grantTypes : List String) : List String := grantTypes.filter (· ≠ "")

def clientRow (client : Client) (secretHash : Option String) (realmId id : Nat) :
    Idenplane.Client where
  id := id
  realmId := realmId
  clientId := client.client_id
  name := client.name
  clientType := if client.token_endpoint_auth_method = some "none" then .PUBLIC else .CONFIDENTIAL
  clientSecret := secretHash
  redirectUris := client.callbacks.getD []
  webOrigins := (client.allowed_origins.getD []).filter (· ≠ "*")
  grantTypes := mapAuth0GrantTypes (client.grant_types.getD [])

def createClient (d : Deps) (client : Client) (realmId : Nat) : Import Unit := do
  let secretHash ← hashedSecret d client.client_secret
  addClient (clientRow client secretHash realmId)

def importClient (d : Deps) (target : Target) (client : Client) : Import Unit :=
  importEntity .clients client.client_id (hasClient target.realmId client.client_id) (pure ())
    (fun realmId _ => createClient d client realmId) target

def extractAuth0Password (user : User) : Option String :=
  match given user.password_hash, user.custom_password_hash with
  | some hash, _ => some hash
  | none, some custom => if custom.algorithm = "bcrypt" then some custom.value else none
  | none, none => none

def userRow (user : User) (username : String) (realmId id : Nat) : Idenplane.User where
  id := id
  realmId := realmId
  username := username
  email := user.email
  firstName := user.given_name
  lastName := user.family_name
  enabled := !user.blocked.getD false
  emailVerified := user.email_verified.getD false
  passwordHash := extractAuth0Password user

def importUser (target : Target) (user : User) : Import Unit :=
  match given (user.username <|> user.email <|> user.user_id) with
  | none => note (failed .users "unknown" (.error "No username, email, or user_id"))
  | some username =>
    importEntity .users username (hasUser target.realmId username) (pure ()) (fun realmId _ => do
        let _ ← addUser (userRow user username realmId))
      target

def mapAuth0Strategy (strategy : String) : String :=
  if ["google-oauth2", "github", "facebook", "microsoft", "apple", "linkedin", "twitter"].contains
      strategy || "oauth2".toList.isPrefixOf strategy.toList then "OIDC"
  else if strategy = "samlp" || strategy = "adfs" then "SAML"
  else "OIDC"

def provider (conn : Connection) : Provider where
  alias_ := conn.name
  displayName := some conn.name
  providerType := mapAuth0Strategy conn.strategy
  clientId := (get conn.options "client_id").getD ""
  clientSecret := (get conn.options "client_secret").getD ""
  authorizationUrl := (get conn.options "authorization_endpoint").getD ""
  tokenUrl := (get conn.options "token_endpoint").getD ""

def importConnection (target : Target) (conn : Connection) : Import Unit :=
  if conn.strategy = "auth0" then
    note (warned .identityProviders ("Database connection '" ++ conn.name ++
      "' skipped — Auth0 DB connections don't map to identity providers"))
  else
    importEntity .identityProviders conn.name (hasIdentityProvider target.realmId conn.name)
      (pure ()) (fun realmId _ => addIdentityProvider (provider conn) realmId) target

def warnOrganizations (count : Nat) : Import Unit :=
  if count = 0 then pure ()
  else note (warned .realms (toString count ++
    " Auth0 organizations found. Use Idenplane's Organization module to recreate them."))

def importSteps (d : Deps) (data : Export) (target : Target) : Import Unit := do
  each (importRole target) data.roles
  each (importClient d target) data.clients
  each (importUser target) data.users
  each (importConnection target) data.connections
  warnOrganizations data.organizations

def importData (d : Deps) (data : Export) : ImportOptions → World → Report × World :=
  importInto (importSteps d data)

end Auth0

namespace Zitadel

structure Role where
  key : String
  displayName : Option String := none

structure OidcConfig where
  (clientId clientSecret : Option String := none)
  redirectUris : Option (List String) := none
  authMethodType : Option String := none
  grantTypes : Option (List String) := none

structure Application where
  appId : String
  name : Option String := none
  oidcConfig : Option OidcConfig := none

structure Project where
  roles : List Role := []
  apps : List Application := []

structure HashedPassword where
  (hash algorithm : Option String := none)

structure Human where
  (givenName familyName email : Option String := none)
  isVerified : Option Bool := none
  hashedPassword : HashedPassword := {}

structure User where
  userId : String
  (username state : Option String := none)
  human : Human := {}
  machine : Option (Option String) := none

structure IdpConfig where
  (clientId clientSecret authorizationEndpoint tokenEndpoint : Option String := none)

structure Idp where
  idpId : String
  (name type : Option String := none)
  oidcConfig : Option IdpConfig := none

structure Export where
  projects : List Project := []
  users : List User := []
  idps : List Idp := []

def importRole (target : Target) (role : Role) : Import Unit :=
  importEntity .roles role.key (hasRole target.realmId role.key) (pure ())
    (fun realmId _ => addRole role.key role.displayName realmId) target

/-- For grants that are not called like a property of every object. -/
def mapZitadelGrantTypes (grantTypes : List String) : List String :=
  (grantTypes.map fun g =>
    (([("OIDC_GRANT_TYPE_AUTHORIZATION_CODE", "authorization_code"),
      ("OIDC_GRANT_TYPE_IMPLICIT", "implicit"), ("OIDC_GRANT_TYPE_REFRESH_TOKEN", "refresh_token"),
      ("OIDC_GRANT_TYPE_DEVICE_CODE", "urn:ietf:params:oauth:grant-type:device_code")] :
      List (String × String)).lookup g).getD g).filter (· ≠ "")

def clientIdOf (app : Application) (config : OidcConfig) : String := config.clientId.getD app.appId

def clientRow (app : Application) (config : OidcConfig) (realmId id : Nat) : Client where
  id := id
  realmId := realmId
  clientId := clientIdOf app config
  name := some (app.name.getD app.appId)
  clientType :=
    if config.authMethodType = some "OIDC_AUTH_METHOD_TYPE_NONE" then .PUBLIC else .CONFIDENTIAL
  clientSecret := config.clientSecret
  redirectUris := config.redirectUris.getD []
  grantTypes := mapZitadelGrantTypes (config.grantTypes.getD [])

def createClient (app : Application) (config : OidcConfig) (realmId : Nat) : Import Unit :=
  addClient (clientRow app config realmId)

def importClient (target : Target) (app : Application) : Import Unit :=
  match app.oidcConfig with
  | none => note (warned .clients ("App '" ++ app.name.getD app.appId ++
      "' has no oidcConfig (likely SAML) — SAML app import isn't supported yet, " ++
      "recreate it manually."))
  | some config =>
    importEntity .clients (app.name.getD app.appId)
      (hasClient target.realmId (clientIdOf app config)) (pure ())
      (fun realmId _ => createClient app config realmId) target

def extractZitadelPassword (user : User) : Option String :=
  (given user.human.hashedPassword.hash).filter fun _ =>
    user.human.hashedPassword.algorithm = some "bcrypt"

def isInactive (s : String) : Bool := ["USER_STATE_INACTIVE", "USER_STATE_LOCKED"].contains s

def userRow (user : User) (username : String) (realmId id : Nat) : Idenplane.User where
  id := id
  realmId := realmId
  username := username
  email := user.human.email
  firstName := user.human.givenName
  lastName := user.human.familyName
  enabled := !isInactive (user.state.getD "")
  emailVerified := user.human.isVerified.getD false
  passwordHash := extractZitadelPassword user

def importUser (target : Target) (user : User) : Import Unit :=
  match user.machine with
  | some name => note (warned .users ("Machine user '" ++ name.getD user.userId ++
      "' skipped — recreate it as a service account/NHI in Idenplane instead."))
  | none =>
    match given (user.username <|> user.human.email <|> some user.userId) with
    | none => note (failed .users "unknown" (.error "No username, email, or userId"))
    | some username =>
      importEntity .users username (hasUser target.realmId username) (pure ()) (fun realmId _ => do
          let _ ← addUser (userRow user username realmId))
        target

def provider (name : String) (config : IdpConfig) : Provider where
  alias_ := name
  displayName := some name
  providerType := "OIDC"
  clientId := config.clientId.getD ""
  clientSecret := config.clientSecret.getD ""
  authorizationUrl := config.authorizationEndpoint.getD ""
  tokenUrl := config.tokenEndpoint.getD ""

def importIdp (target : Target) (idp : Idp) : Import Unit :=
  let name := idp.name.getD idp.idpId
  match idp.oidcConfig with
  | none => note (warned .identityProviders ("IdP '" ++ name ++ "' (type " ++
      idp.type.getD "unknown" ++ ") has no oidcConfig — only generic OIDC IdPs are supported " ++
      "for import today, recreate this one manually."))
  | some config =>
    importEntity .identityProviders name (hasIdentityProvider target.realmId name) (pure ())
      (fun realmId _ => addIdentityProvider (provider name config) realmId) target

def importSteps (data : Export) (target : Target) : Import Unit := do
  each (fun project => each (importRole target) project.roles) data.projects
  each (fun project => each (importClient target) project.apps) data.projects
  each (importUser target) data.users
  each (importIdp target) data.idps

def importData (data : Export) : ImportOptions → World → Report × World :=
  importInto (importSteps data)

end Zitadel

namespace Authentik

structure OAuth2Provider where
  name : String
  client_id : String
  (client_secret client_type : Option String := none)
  redirect_uris : Option (List String) := none

structure User where
  username : String
  (email name : Option String := none)
  is_active : Option Bool := none
  groups : List String := []
  password : Option String := none

structure OAuthSource where
  name : String
  (provider_type authorization_url access_token_url consumer_key consumer_secret : Option String :=
    none)

structure Export where
  groups : List String := []
  providers : List OAuth2Provider := []
  users : List User := []
  sources : List OAuthSource := []

/-- Groups by name; a dry run knows a group that it would create, but has no id for it. -/
abbrev GroupIds := Object String (Option Nat)

def importGroup (target : Target) (name : String) (ids : GroupIds) : Import GroupIds := do
  let res ← (do
    let existing ← query (findGroup target.realmId name none)
    match existing with
    | some id => do
      note (skipped .groups)
      pure (some id)
    | none => do
      let created ← match target with
        | .dryRun _ => pure none
        | .real realmId => do
          let id ← writeAlone (insert
            (fun db => db.groups.any fun row => row.realmId = realmId && row.name = name)
            fun id db => { db with
              groups := db.groups ++ [{ id := id, realmId := realmId, name := name }] })
          pure (some id)
      note (Report.created .groups)
      pure created : Import (Option Nat)).attempt
  match res with
  | .ok id => pure (set ids name id)
  | .error thrown => do
    note (failed .groups name thrown)
    pure ids

def importGroups (target : Target) : List String → GroupIds → Import GroupIds
  | [], ids => pure ids
  | name :: names, ids => do
    let ids ← importGroup target name ids
    importGroups target names ids

def clientRow (provider : OAuth2Provider) (realmId id : Nat) : Client where
  id := id
  realmId := realmId
  clientId := provider.client_id
  name := some provider.name
  clientType := if provider.client_type = some "public" then .PUBLIC else .CONFIDENTIAL
  clientSecret := provider.client_secret
  redirectUris := provider.redirect_uris.getD []
  grantTypes := ["authorization_code", "refresh_token"]

def createClient (provider : OAuth2Provider) (realmId : Nat) : Import Unit :=
  addClient (clientRow provider realmId)

def importClient (target : Target) (provider : OAuth2Provider) : Import Unit :=
  importEntity .clients provider.name (hasClient target.realmId provider.client_id) (pure ())
    (fun realmId _ => createClient provider realmId) target

def splitName (name : Option String) : Option String × Option String :=
  match Text.words ' ' (name.getD "") with
  | [] => (none, none)
  | firstName :: rest => (some firstName, given (some (" ".intercalate rest)))

def userRow (user : User) (realmId id : Nat) : Idenplane.User where
  id := id
  realmId := realmId
  username := user.username
  email := user.email
  firstName := (splitName user.name).1
  lastName := (splitName user.name).2
  enabled := user.is_active.getD true
  passwordHash := (extractAuthentikPassword user.password).hash

def joinGroup (ids : GroupIds) (username : String) (userId : Option Nat) (groupName : String) :
    Import Unit :=
  match get ids groupName with
  | none => note (warned .users ("User '" ++ username ++ "' references group '" ++
      groupName ++ "', which was not in the export — skipped that membership."))
  | some groupId =>
    match userId, groupId with
    | some userId, some groupId => writeAlone (append
        (fun db => db.userGroups.contains ⟨userId, groupId⟩)
        fun db => { db with userGroups := db.userGroups ++ [⟨userId, groupId⟩] })
    | _, _ => pure ()

def importUser (ids : GroupIds) (target : Target) (user : User) : Import Unit :=
  caught (failed .users user.username) do
    let existing ← query (hasUser target.realmId user.username)
    if existing then note (skipped .users)
    else do
      let userId ← match target with
        | .dryRun _ => pure none
        | .real realmId => do
          let id ← addUser (userRow user realmId)
          pure (some id)
      note (Report.created .users)
      each (joinGroup ids user.username userId) user.groups

def provider (source : OAuthSource) : Provider where
  alias_ := source.name
  displayName := some source.name
  providerType := "OIDC"
  clientId := source.consumer_key.getD ""
  clientSecret := source.consumer_secret.getD ""
  authorizationUrl := source.authorization_url.getD ""
  tokenUrl := source.access_token_url.getD ""

def importSource (d : Deps) (target : Target) (source : OAuthSource) : Import Unit :=
  if ["openidconnect", "oidc"].contains (d.toLowerCase (source.provider_type.getD "")) then
    importEntity .identityProviders source.name (hasIdentityProvider target.realmId source.name)
      (pure ()) (fun realmId _ => addIdentityProvider (provider source) realmId) target
  else
    note (warned .identityProviders ("Source '" ++ source.name ++ "' (type " ++
      source.provider_type.getD "unknown" ++ ") is not a generic OIDC source — only OIDC " ++
      "sources are supported for import today, recreate this one manually."))

def importSteps (d : Deps) (data : Export) (target : Target) : Import Unit := do
  let ids ← importGroups target data.groups []
  each (importClient target) data.providers
  each (importUser ids target) data.users
  each (importSource d target) data.sources

def importData (d : Deps) (data : Export) : ImportOptions → World → Report × World :=
  importInto (importSteps d data)

end Authentik

end Idenplane.Migration
