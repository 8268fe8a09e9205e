import Idenplane.Admin.Attributes
import Idenplane.Lib.Cache

/-! # Clients

`ClientsService`.  A client is named by its `client_id` or by the UUID of its row, and what the
database says about a name is kept in Redis under the name.  A row that comes back from Redis is
the JSON of the row; the origins that Redis keeps for CORS are left out.
-/

namespace Idenplane.Clients

open Atomic Auth Admin

/-- `CLIENT_SELECT`: everything but the secret. -/
structure ClientConfig where
  id : Nat
  realmId : Nat
  clientId : String
  clientType : ClientType
  (name description : Option String)
  enabled : Bool
  (redirectUris postLogoutRedirectUris webOrigins grantTypes : List String)
  requireConsent : Bool
  backchannelLogoutUri : Option String
  backchannelLogoutSessionRequired : Bool
  serviceAccountUserId : Option Nat
  requiredAcr : Option String
  (stepUpCacheDuration createdAt updatedAt : Int)
  deriving DecidableEq

def select (client : Client) : ClientConfig where
  id := client.id
  realmId := client.realmId
  clientId := client.clientId
  clientType := client.clientType
  name := client.name
  description := client.description
  enabled := client.enabled
  redirectUris := client.redirectUris
  postLogoutRedirectUris := client.postLogoutRedirectUris
  webOrigins := client.webOrigins
  grantTypes := client.grantTypes
  requireConsent := client.requireConsent
  backchannelLogoutUri := client.backchannelLogoutUri
  backchannelLogoutSessionRequired := client.backchannelLogoutSessionRequired
  serviceAccountUserId := client.serviceAccountUserId
  requiredAcr := client.requiredAcr
  stepUpCacheDuration := client.stepUpCacheDuration
  createdAt := client.createdAt
  updatedAt := client.updatedAt

/-- The random texts: the UUID of the row with the number, and a secret. -/
structure Randomness where
  (uuid secret : Nat → String)

/-- The key is the id of the realm and the name that was asked for. -/
structure Backend where
  store : Store
  cache : Cache.Entries (Nat × String) ClientConfig := Cache.empty

abbrev Call (α : Type) := Prog Backend Failure α

def Backend.onStore (change : Store → Store) (backend : Backend) : Backend :=
  { backend with store := change backend.store }

structure CreateClientDto where
  clientId : String
  (name description : Option String := none)
  clientType : Option ClientType := none
  (publicClient enabled : Option Bool := none)
  (redirectUris postLogoutRedirectUris webOrigins grantTypes : Option (List String) := none)
  requireConsent : Option Bool := none
  backchannelLogoutUri : Option String := none
  backchannelLogoutSessionRequired : Option Bool := none
  requiredAcr : Option String := none
  stepUpCacheDuration : Option Int := none

/-- A column that may be empty is sent as `some none` to empty it. -/
structure UpdateClientDto where
  (name description : Option (Option String) := none)
  clientType : Option ClientType := none
  enabled : Option Bool := none
  (redirectUris postLogoutRedirectUris webOrigins grantTypes : Option (List String) := none)
  requireConsent : Option Bool := none
  backchannelLogoutUri : Option (Option String) := none
  backchannelLogoutSessionRequired : Option Bool := none
  requiredAcr : Option (Option String) := none
  stepUpCacheDuration : Option Int := none

def isUuid (text : String) : Bool :=
  (Text.split '-' text.toList).map List.length = [8, 4, 4, 4, 12] &&
    (Text.split '-' text.toList).all (·.all fun c => (Text.hexDigit c).isSome)

def findById (random : Randomness) (id : String) (s : Store) : Option Client :=
  s.clients.find? (random.uuid ·.id = id)

def clientNotFound (name : String) : Failure := notFound ("Client '" ++ name ++ "' not found")

/-- The part of `findByClientId` that asks the database. -/
def findInDatabase (random : Randomness) (realm : Realm) (name : String) :
    Call (Option ClientConfig) := do
  let client ← read fun backend => findClient realm.id name backend.store
  match client with
  | some client => pure (some (select client))
  | none =>
    if isUuid name then do
      let client ← read fun backend => findById random name backend.store
      pure ((client.map select).filter (·.realmId = realm.id))
    else pure none

def findByClientId (random : Randomness) (realm : Realm) (name : String) : Call ClientConfig := do
  let cached ← read fun backend => backend.cache (realm.id, name)
  match cached with
  | some config => pure config
  | none => do
    let found ← findInDatabase random realm name
    let config ← orFail found (clientNotFound name)
    modify fun backend =>
      { backend with cache := Cache.put backend.cache (realm.id, name) config }
    pure config

def invalidateClientCache (realm : Realm) (clientId : String) : Call Unit :=
  modify fun backend => { backend with cache := Cache.drop backend.cache (realm.id, clientId) }

def rejectWildcardOrigins (webOrigins : Option (List String)) : Call Unit :=
  require (!(webOrigins.getD []).contains "*")
    (badRequest ("webOrigins must not contain the wildcard \"*\". " ++
      "Specify explicit origins (e.g. \"https://app.example.com\") instead."))

def defaultScopeNames : List String := ["openid", "profile", "email", "roles", "web-origins"]
def optionalScopeNames : List String := ["offline_access"]

/-- The links of a new client to the scopes of its realm with these names. -/
def scopeLinks (realm : Realm) (client : Nat) (names : List String) (s : Store) :
    List ClientScopeLink :=
  (s.clientScopes.filter fun scope => scope.realmId = realm.id && names.contains scope.name).map
    fun scope => ⟨client, scope.id⟩

def assignBuiltInScopes (realm : Realm) (client : Nat) (s : Store) : Store :=
  { s with
    clientDefaultScopes :=
      scopeLinks realm client defaultScopeNames s ++ s.clientDefaultScopes
    clientOptionalScopes :=
      scopeLinks realm client optionalScopeNames s ++ s.clientOptionalScopes }

/-- `user.create` for the service account; names are unique in a realm. -/
def serviceAccountCreated (realm : Realm) (username : String) (backend : Backend) :
    Option Nat × Backend :=
  let store := backend.store
  if (findUser realm.id username store).isSome then (none, backend)
  else
    (some store.supply, { backend with store := { store with
      supply := store.supply + 1
      users := { id := store.supply, realmId := realm.id, username := username } :: store.users } })

def clientRow (client : Client) (s : Store) : Client :=
  { client with id := s.supply, createdAt := s.now, updatedAt := s.now }

def clientAdded (row : Client) (s : Store) : Store :=
  { s with supply := s.supply + 1, clients := row :: s.clients }

/-- `client.create`; a `client_id` is unique in a realm. -/
def clientCreated (client : Client) (backend : Backend) : Option Client × Backend :=
  if (findClient client.realmId client.clientId backend.store).isSome then (none, backend)
  else
    (some (clientRow client backend.store),
      backend.onStore (clientAdded (clientRow client backend.store)))

def generateSecret (random : Randomness) (backend : Backend) : String × Backend :=
  (random.secret backend.store.supply, backend.onStore fun s => { s with supply := s.supply + 1 })

def newSecret (random : Randomness) : ClientType → Call (Option String)
  | .CONFIDENTIAL => do
    let secret ← atomic (generateSecret random)
    pure (some secret)
  | .PUBLIC => pure none

def serviceAccountName (clientId : String) : String := "service-account-" ++ clientId

def newServiceAccount (realm : Realm) (clientId : String) (wanted : Bool) : Call (Option Nat) :=
  if wanted then do
    let created ← atomic (serviceAccountCreated realm (serviceAccountName clientId))
    let account ← orFail created .internal
    pure (some account)
  else pure none

def CreateClientDto.type (dto : CreateClientDto) : ClientType :=
  dto.clientType.getD (if dto.publicClient = some true then .PUBLIC else .CONFIDENTIAL)

def CreateClientDto.grants (dto : CreateClientDto) : List String :=
  dto.grantTypes.getD ["authorization_code"]

def CreateClientDto.hasServiceAccount (dto : CreateClientDto) : Bool :=
  dto.grants.contains "client_credentials" && dto.type = .CONFIDENTIAL

def newClient (realm : Realm) (dto : CreateClientDto) (secretHash : Option String)
    (account : Option Nat) : Client where
  id := 0
  realmId := realm.id
  clientId := dto.clientId
  clientSecret := secretHash
  clientType := dto.type
  name := dto.name
  description := dto.description
  enabled := dto.enabled.getD true
  redirectUris := dto.redirectUris.getD []
  postLogoutRedirectUris := dto.postLogoutRedirectUris.getD []
  webOrigins := dto.webOrigins.getD []
  grantTypes := dto.grants
  requireConsent := dto.requireConsent.getD false
  backchannelLogoutUri := dto.backchannelLogoutUri
  backchannelLogoutSessionRequired := dto.backchannelLogoutSessionRequired.getD true
  serviceAccountUserId := account
  requiredAcr := dto.requiredAcr
  stepUpCacheDuration := dto.stepUpCacheDuration.getD 900

def clientExists (realm : Realm) (clientId : String) : Failure :=
  conflict ("Client '" ++ clientId ++ "' already exists in realm '" ++ realm.name ++ "'")

def create (d : Deps) (random : Randomness) (realm : Realm) (dto : CreateClientDto) :
    Call (ClientConfig × Option String) := do
  rejectWildcardOrigins dto.webOrigins
  let existing ← read fun backend => findClient realm.id dto.clientId backend.store
  require existing.isNone (clientExists realm dto.clientId)
  let rawSecret ← newSecret random dto.type
  let account ← newServiceAccount realm dto.clientId dto.hasServiceAccount
  let created ← atomic (clientCreated (newClient realm dto (rawSecret.map d.hashPassword) account))
  let client ← orFail created .internal
  modify (Backend.onStore (assignBuiltInScopes realm client.id))
  pure (select client, rawSecret)

/-- `client.update` with what the request brings. -/
def clientUpdated (dto : UpdateClientDto) (now : Int) (client : Client) : Client :=
  { client with
    name := dto.name.getD client.name
    description := dto.description.getD client.description
    clientType := dto.clientType.getD client.clientType
    enabled := dto.enabled.getD client.enabled
    redirectUris := dto.redirectUris.getD client.redirectUris
    postLogoutRedirectUris := dto.postLogoutRedirectUris.getD client.postLogoutRedirectUris
    webOrigins := dto.webOrigins.getD client.webOrigins
    grantTypes := dto.grantTypes.getD client.grantTypes
    requireConsent := dto.requireConsent.getD client.requireConsent
    backchannelLogoutUri := dto.backchannelLogoutUri.getD client.backchannelLogoutUri
    backchannelLogoutSessionRequired :=
      dto.backchannelLogoutSessionRequired.getD client.backchannelLogoutSessionRequired
    requiredAcr := dto.requiredAcr.getD client.requiredAcr
    stepUpCacheDuration := dto.stepUpCacheDuration.getD client.stepUpCacheDuration
    updatedAt := now }

def clientsWritten (test : Client → Bool) (change : Int → Client → Client) (backend : Backend) :
    Option Client × Backend :=
  let store := backend.store
  ((store.clients.find? test).map (change store.now), { backend with store := { store with
    clients := store.clients.map fun client =>
      if test client then change store.now client else client } })

/-- The unique key `realmId_clientId`. -/
def hasKey (realm : Realm) (clientId : String) (client : Client) : Bool :=
  client.realmId = realm.id && client.clientId = clientId

def update (random : Randomness) (realm : Realm) (name : String) (dto : UpdateClientDto) :
    Call ClientConfig := do
  rejectWildcardOrigins dto.webOrigins
  let existing ← findByClientId random realm name
  let written ← atomic (clientsWritten (hasKey realm existing.clientId) (clientUpdated dto))
  let updated ← orFail written .internal
  invalidateClientCache realm existing.clientId
  pure (select updated)

def clientsDeleted (test : Client → Bool) (backend : Backend) : Bool × Backend :=
  (backend.store.clients.any test, backend.onStore fun s =>
    { s with clients := s.clients.filter (!test ·) })

/-- `user.delete`; a user who is gone is no error. -/
def serviceAccountDeleted (account : Option Nat) (s : Store) : Store :=
  match account with
  | none => s
  | some userId => { s with users := s.users.filter (·.id ≠ userId) }

def remove (random : Randomness) (realm : Realm) (name : String) : Call Unit := do
  let client ← findByClientId random realm name
  modify (Backend.onStore (serviceAccountDeleted client.serviceAccountUserId))
  let deleted ← atomic (clientsDeleted (hasKey realm client.clientId))
  require deleted .internal
  invalidateClientCache realm client.clientId

def secretSet (hash : String) (now : Int) (client : Client) : Client :=
  { client with clientSecret := some hash, updatedAt := now }

def regenerateSecret (d : Deps) (random : Randomness) (realm : Realm) (name : String) :
    Call String := do
  let client ← findByClientId random realm name
  require (client.clientType = .CONFIDENTIAL)
    (conflict "Cannot generate secret for a PUBLIC client")
  let rawSecret ← atomic (generateSecret random)
  let written ← atomic (clientsWritten (·.id = client.id) (secretSet (d.hashPassword rawSecret)))
  let _ ← orFail written .internal
  invalidateClientCache realm client.clientId
  pure rawSecret

end Idenplane.Clients
