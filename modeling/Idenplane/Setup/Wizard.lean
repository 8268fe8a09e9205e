import Idenplane.Realms.Transfer

/-! # The first realms

`AdminSeedService`, and what `SetupWizardService` writes to the tables of a realm.  The row of the
wizard is an argument, and what becomes of it the answer.
-/

namespace Idenplane.Setup

open Atomic Auth Admin Realms.Transfer
open Realms (RealmRow)

structure SmtpConfig where
  host : String
  password : Option String := none

structure WizardState where
  completed : Bool := false
  currentStep : Nat := 0
  (adminUsername adminEmail adminPasswordHash realmName realmDisplayName : Option String := none)
  smtpConfig : Option SmtpConfig := none
  (clientId clientSecret : Option String := none)
  redirectUris : List String := []

structure SaveClientDto where
  clientId : String
  redirectUris : List String

section Writes

variable (throws : Throws)

def createSignedRealm (row : RealmRow) : Call Nat :=
  statement throws .createRealm (insert (fun db => (db.realms.find? (·.name = row.name)).isSome)
    fun id db => { db with
      realms := db.realms ++ [{ row with id := id }]
      signingKeys := db.signingKeys ++ [{ id := id, realmId := id, createdAt := 0 }] })

/-- `role.create`; names of realm roles are not constrained. -/
def addRole (realmId i : Nat) (name description : String) : Call Nat :=
  statement throws (.role i) (insert (fun _ => false) fun id db => { db with
    roles := db.roles ++
      [{ id := id, realmId := realmId, name := name, description := some description }] })

/-- `user.create`; the name is unique in the realm, and so is the address. -/
def addUser (row : User) : Call Nat :=
  statement throws (.user 0) (insert
    (fun db => db.users.any fun other => other.realmId = row.realmId &&
      (other.username = row.username || other.email.isSome && other.email = row.email))
    fun id db => { db with users := db.users ++ [{ row with id := id }] })

def assignSuperAdmin (userId roleId : Nat) : Call Unit :=
  statement throws (.userRole 0 0) (append (fun db => db.userRoles.contains ⟨userId, roleId⟩)
    fun db => { db with userRoles := db.userRoles ++ [⟨userId, roleId⟩] })

/-- The roles, the administrator and the scopes of a realm that administers the others. -/
def furnish (realmId : Nat) (admin : Call User) : Call Unit := do
  let superAdmin ← addRole throws realmId 0 "super-admin" "Full access to all realms and settings"
  let _ ← addRole throws realmId 1 "realm-admin" "Manage specific realms"
  let _ ← addRole throws realmId 2 "view-only" "Read-only access"
  let row ← admin
  let userId ← addUser throws row
  assignSuperAdmin throws userId superAdmin
  forEach (seedScope throws realmId) 0 seededScopes ()

def masterRealm : RealmRow :=
  { id := 0, name := "master", displayName := some "Master", enabled := true }

def seededAdmin (d : Deps) (realmId : Nat) (adminUsername adminPassword : String) :
    Call User := do
  require (Text.utf16Length adminPassword.toList ≤ maxPasswordLength) .internal
  pure { id := 0, realmId := realmId, username := adminUsername,
         passwordHash := some (d.hashPassword adminPassword) }

def ensureMasterRealm (d : Deps) (adminUsername adminPassword : String) : Call Unit := do
  require (!throws .findRealm) .internal
  let existing ← read fun w => w.db.realms.find? (·.name = "master")
  if existing.isSome then pure ()
  else do
    require (!throws .keyPair) .internal
    let realmId ← createSignedRealm throws masterRealm
    furnish throws realmId (seededAdmin d realmId adminUsername adminPassword)

def wizardRealm (s : WizardState) (name : String) : RealmRow where
  id := 0
  name := name
  displayName := some ((given s.realmDisplayName).getD name)
  enabled := true
  smtpPassword := s.smtpConfig.bind (·.password)

def wizardAdmin (s : WizardState) (realmId : Nat) (username hash : String) : User where
  id := 0
  realmId := realmId
  username := username
  email := s.adminEmail
  enabled := true
  passwordHash := some hash

def adminMissing : Failure :=
  badRequest "Admin account must be created before completing the wizard"

def realmMissing : Failure := badRequest "Realm must be created before completing the wizard"

def wizardSteps : Nat := 6

def completeWizard (s : WizardState) : Call WizardState := do
  let username ← orFail (given s.adminUsername) adminMissing
  let hash ← orFail (given s.adminPasswordHash) adminMissing
  let name ← orFail (given s.realmName) realmMissing
  require (!throws .keyPair) .internal
  let realmId ← createSignedRealm throws (wizardRealm s name)
  furnish throws realmId (pure (wizardAdmin s realmId username hash))
  pure { s with completed := true, currentStep := wizardSteps }

/-- `isHttpUrl`: the text is a URL of the protocol `http:` or `https:`. -/
def validateClientConfig (isHttpUrl : String → Bool) (dto : SaveClientDto) : Call Unit := do
  require (3 ≤ Text.utf16Length dto.clientId.toList)
    (badRequest "Client ID must be at least 3 characters")
  require (!dto.redirectUris.isEmpty) (badRequest "At least one redirect URI is required")
  -- What the check of the protocol throws is caught by the `catch` for the parser.
  match dto.redirectUris.find? (!isHttpUrl ·) with
  | some uri => Prog.fail (badRequest ("Invalid redirect URI format: " ++ uri))
  | none => pure ()

def wizardClient (dto : SaveClientDto) (clientSecret : String) (realmId id : Nat) : Client where
  id := id
  realmId := realmId
  clientId := dto.clientId
  clientSecret := some clientSecret
  clientType := .CONFIDENTIAL
  name := some dto.clientId
  enabled := true
  redirectUris := dto.redirectUris
  grantTypes := ["authorization_code"]

/-- `clientSecret` is what `generateSecret` returns. -/
def saveClient (isHttpUrl : String → Bool) (s : WizardState) (dto : SaveClientDto)
    (clientSecret : String) : Call WizardState := do
  validateClientConfig isHttpUrl dto
  let name ← orFail (given s.realmName) (badRequest "Realm must be created before adding a client")
  require (!throws .findRealm) .internal
  let found ← read fun w => w.db.realms.find? (·.name = name)
  let realm ← orFail found (badRequest "Realm not found. Please complete Step 2 first.")
  let existing ← read fun w => w.db.clients.any fun row =>
    row.realmId = realm.id && row.clientId = dto.clientId
  require (!existing) (badRequest
    ("Client '" ++ dto.clientId ++ "' already exists in realm '" ++ realm.name ++ "'"))
  let _ ← statement throws (.client 0) (insert (fun db => db.clients.any fun row =>
      row.realmId = realm.id && row.clientId = dto.clientId)
    fun id db => { db with
      clients := db.clients ++ [wizardClient dto clientSecret realm.id id] })
  pure { s with
    clientId := some dto.clientId
    clientSecret := some clientSecret
    redirectUris := dto.redirectUris
    currentStep := max s.currentStep 4 }

end Writes

end Idenplane.Setup
