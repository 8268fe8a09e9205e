import Idenplane.Admin.Attributes

/-! # Non-human identities

`NhiService`: the life cycle of an identity and of its credentials.  The random key that a call
generates is an argument of the call.
-/

namespace Idenplane.Nhi

open Atomic Auth Admin

inductive NhiIdentityType where
  | MACHINE_TO_MACHINE
  | IOT_DEVICE
  | SERVICE
  | AI_AGENT
  deriving DecidableEq

inductive NhiLifecycleStatus where
  | PROVISIONING
  | ACTIVE
  | SUSPENDED
  | DECOMMISSIONED
  deriving DecidableEq

inductive NhiCredentialType where
  | API_KEY
  | CERTIFICATE
  | JWT
  | OAUTH
  | MTLS
  deriving DecidableEq

structure NhiIdentity where
  id : Nat
  realmId : Nat
  identityType : NhiIdentityType := .MACHINE_TO_MACHINE
  name : String
  description : Option String := none
  enabled : Bool := true
  lifecycleStatus : NhiLifecycleStatus := .PROVISIONING
  (suspendedAt decommissionedAt : Option Int := none)
  agentPurpose : Option String := none
  (permissionScopes tags : List String := [])
  deriving DecidableEq

structure NhiCredential where
  id : Nat
  nhiIdentityId : Nat
  credentialType : NhiCredentialType := .API_KEY
  name : String
  (keyPrefix keyHash : Option String := none)
  (expiresAt rotatedAt : Option Int := none)
  rotationRequired : Bool := false
  enabled : Bool := true
  revoked : Bool := false
  revokedAt : Option Int := none
  allowedIpRanges : List String := []
  createdAt : Int
  deriving DecidableEq

structure NhiCredentialPolicy where
  id : Nat
  realmId : Nat
  enabled : Bool := true
  credentialType : NhiCredentialType := .API_KEY
  rotationIntervalDays : Int := 90
  rotationBeforeDays : Int := 7
  autoRotate : Bool := false
  deriving DecidableEq

/-- `NHI_CREDENTIAL_SELECT`: everything but the hash. -/
def NhiCredential.select (credential : NhiCredential) : NhiCredential :=
  { credential with keyHash := none }

def NhiCredential.live (credential : NhiCredential) : Bool :=
  !credential.revoked && credential.enabled

/-- A rotation has put one credential in the place of another; `live` says whether the other could
still be used at that moment. -/
structure Succession where
  predecessor : Nat
  successor : Nat
  live : Bool
  deriving DecidableEq

/-- The tables.  No program reads the last three fields. -/
structure World where
  now : Int := 0
  supply : Nat := 0
  realms : List Realm := []
  identities : List NhiIdentity := []
  credentials : List NhiCredential := []
  policies : List NhiCredentialPolicy := []
  /-- The API keys that a rotation has begun with. -/
  begun : List Nat := []
  successions : List Succession := []
  /-- The identities for which `createCredential` has made an API key. -/
  issued : List Nat := []

abbrev Call (α : Type) := Prog World Failure α

structure CreateNhiIdentityDto where
  name : String
  description : Option String := none
  identityType : Option NhiIdentityType := none
  enabled : Option Bool := none
  lifecycleStatus : Option NhiLifecycleStatus := none
  agentPurpose : Option String := none
  (permissionScopes tags : Option (List String) := none)

structure UpdateNhiIdentityDto where
  (name description : Option String := none)
  identityType : Option NhiIdentityType := none
  enabled : Option Bool := none
  lifecycleStatus : Option NhiLifecycleStatus := none
  agentPurpose : Option String := none
  (permissionScopes tags : Option (List String) := none)

structure CreateNhiCredentialDto where
  name : String
  credentialType : Option NhiCredentialType := none
  expiresAt : Option Int := none
  (rotationRequired enabled : Option Bool := none)
  allowedIpRanges : Option (List String) := none

section Tables

variable (w : World)

def World.identityRow? (id : Nat) : Option NhiIdentity := w.identities.find? (·.id = id)

/-- The row of `findFirst({ id, realmId })`. -/
def World.identity? (realm : Realm) (id : Nat) : Option NhiIdentity :=
  (w.identityRow? id).filter (·.realmId = realm.id)

/-- The row of `findUnique({ realmId, name })`. -/
def World.identityNamed? (realm : Realm) (name : String) : Option NhiIdentity :=
  w.identities.find? fun identity => identity.realmId = realm.id && identity.name = name

/-- The row of `findFirst({ id, nhiIdentityId })`. -/
def World.credential? (nhiIdentityId id : Nat) : Option NhiCredential :=
  w.credentials.find? fun credential =>
    credential.id = id && credential.nhiIdentityId = nhiIdentityId

def World.nameTaken (nhiIdentityId : Nat) (name : String) : Bool :=
  w.credentials.any fun credential =>
    credential.nhiIdentityId = nhiIdentityId && credential.name = name

def World.isLive (id : Nat) : Bool :=
  w.credentials.any fun credential => credential.id = id && credential.live

end Tables

/-- `nhiIdentity.update` by id. -/
def identityUpdated (id : Nat) (change : NhiIdentity → NhiIdentity) (w : World) :
    Option NhiIdentity × World :=
  match w.identityRow? id with
  | none => (none, w)
  | some identity =>
    (some (change identity),
      { w with identities := w.identities.map fun other =>
          if other.id = id then change other else other })

/-- `nhiCredential.update` by id. -/
def credentialUpdated (id : Nat) (change : NhiCredential → NhiCredential) (w : World) : World :=
  { w with credentials := w.credentials.map fun credential =>
      if credential.id = id then change credential else credential }

/-- `nhiCredential.create`; a name that the identity has for another credential is refused. -/
def credentialCreated (row : Nat → Int → NhiCredential) (w : World) :
    Option NhiCredential × World :=
  let credential := row w.supply w.now
  if w.nameTaken credential.nhiIdentityId credential.name then (none, w)
  else
    (some credential,
      { w with supply := w.supply + 1, credentials := w.credentials ++ [credential] })

theorem credentialCreated_of_taken {row : Nat → Int → NhiCredential} {w : World}
    (taken : w.nameTaken (row w.supply w.now).nhiIdentityId
      (row w.supply w.now).name = true) : credentialCreated row w = (none, w) := by
  simp [credentialCreated, taken]

theorem credentialCreated_of_free {row : Nat → Int → NhiCredential} {w : World}
    (free : w.nameTaken (row w.supply w.now).nhiIdentityId (row w.supply w.now).name = false) :
    credentialCreated row w = (some (row w.supply w.now),
        { w with
          supply := w.supply + 1
          credentials := w.credentials ++ [row w.supply w.now] }) := by
  simp [credentialCreated, free]

def identityNotFound (id : Nat) : Failure :=
  notFound ("NHI identity '" ++ toString id ++ "' not found")

def findById (realm : Realm) (id : Nat) : Call NhiIdentity := do
  let identity ← read fun w => w.identity? realm id
  orFail identity (identityNotFound id)

def identityCreated (realm : Realm) (dto : CreateNhiIdentityDto) (w : World) :
    Option NhiIdentity × World :=
  let identity : NhiIdentity :=
    { id := w.supply
      realmId := realm.id
      identityType := dto.identityType.getD .MACHINE_TO_MACHINE
      name := dto.name
      description := dto.description
      enabled := dto.enabled.getD true
      lifecycleStatus := dto.lifecycleStatus.getD .PROVISIONING
      agentPurpose := dto.agentPurpose
      permissionScopes := dto.permissionScopes.getD []
      tags := dto.tags.getD [] }
  if (w.identityNamed? realm dto.name).isSome then (none, w)
  else
    (some identity, { w with supply := w.supply + 1, identities := w.identities ++ [identity] })

def create (realm : Realm) (dto : CreateNhiIdentityDto) : Call NhiIdentity := do
  let existing ← read fun w => w.identityNamed? realm dto.name
  require existing.isNone (conflict
    ("NHI identity '" ++ dto.name ++ "' already exists in realm '" ++ realm.name ++ "'"))
  let identity ← atomic (identityCreated realm dto)
  orFail identity .internal

def UpdateNhiIdentityDto.apply (dto : UpdateNhiIdentityDto) (now : Int) (identity : NhiIdentity) :
    NhiIdentity :=
  { identity with
    identityType := dto.identityType.getD identity.identityType
    name := dto.name.getD identity.name
    description := dto.description.or identity.description
    enabled := dto.enabled.getD identity.enabled
    lifecycleStatus := dto.lifecycleStatus.getD identity.lifecycleStatus
    agentPurpose := dto.agentPurpose.or identity.agentPurpose
    permissionScopes := dto.permissionScopes.getD identity.permissionScopes
    tags := dto.tags.getD identity.tags
    suspendedAt :=
      if dto.lifecycleStatus = some .SUSPENDED then some now else identity.suspendedAt
    decommissionedAt :=
      if dto.lifecycleStatus = some .DECOMMISSIONED then some now else identity.decommissionedAt }

def World.nameConflicts (w : World) (realm : Realm) (id : Nat) (name : String) : Bool :=
  (w.identityNamed? realm name).any (·.id ≠ id)

def updateWritten (realm : Realm) (id : Nat) (dto : UpdateNhiIdentityDto) (w : World) :
    Option NhiIdentity × World :=
  if dto.name.any (w.nameConflicts realm id) then (none, w)
  else identityUpdated id (dto.apply w.now) w

def update (realm : Realm) (id : Nat) (dto : UpdateNhiIdentityDto) : Call NhiIdentity := do
  let _ ← findById realm id
  -- an empty name is not looked up
  let conflicts ← read fun w =>
    dto.name.any fun name => name ≠ "" && w.nameConflicts realm id name
  require (!conflicts) (conflict
    ("NHI identity name '" ++ dto.name.getD "" ++ "' already taken in realm '" ++ realm.name ++ "'"))
  let identity ← atomic (updateWritten realm id dto)
  orFail identity .internal

def suspend (realm : Realm) (id : Nat) : Call NhiIdentity := do
  let _ ← findById realm id
  let identity ← atomic fun w =>
    identityUpdated id
      (fun identity => { identity with lifecycleStatus := .SUSPENDED, suspendedAt := some w.now })
      w
  orFail identity .internal

def reactivate (realm : Realm) (id : Nat) : Call NhiIdentity := do
  let identity ← findById realm id
  require (identity.lifecycleStatus = .SUSPENDED)
    (conflict "Only suspended identities can be reactivated")
  let identity ← atomic (identityUpdated id fun identity =>
      { identity with lifecycleStatus := .ACTIVE, suspendedAt := none })
  orFail identity .internal

/-- `nhiCredential.updateMany` for the identity. -/
def credentialsRevoked (nhiIdentityId : Nat) (w : World) : World :=
  { w with credentials := w.credentials.map fun credential =>
      if credential.nhiIdentityId = nhiIdentityId then
        { credential with revoked := true, revokedAt := some w.now }
      else credential }

def decommission (realm : Realm) (id : Nat) : Call NhiIdentity := do
  let _ ← findById realm id
  -- Revoke all credentials first
  modify (credentialsRevoked id)
  let identity ← atomic fun w =>
    identityUpdated id (fun identity =>
        { identity with
          lifecycleStatus := .DECOMMISSIONED
          decommissionedAt := some w.now
          enabled := false })
      w
  orFail identity .internal

section Credentials

variable (deps : Deps)

def keyPrefix (rawKey : String) : String := String.ofList (rawKey.toList.take 8)

/-- The row for the data of `createCredential`.  A key is generated only when the type is asked
for. -/
def CreateNhiCredentialDto.row (dto : CreateNhiCredentialDto) (nhiIdentityId : Nat) (rawKey : String)
    (id : Nat) (now : Int) : NhiCredential where
  id := id
  nhiIdentityId := nhiIdentityId
  credentialType := dto.credentialType.getD .API_KEY
  name := dto.name
  keyPrefix := if dto.credentialType = some .API_KEY then some (keyPrefix rawKey) else none
  keyHash := if dto.credentialType = some .API_KEY then some (deps.hashPassword rawKey) else none
  expiresAt := dto.expiresAt
  rotationRequired := dto.rotationRequired.getD false
  enabled := dto.enabled.getD true
  allowedIpRanges := dto.allowedIpRanges.getD []
  createdAt := now

def credentialIssued (row : Nat → Int → NhiCredential) (w : World) : Option NhiCredential × World :=
  match credentialCreated row w with
  | (none, w') => (none, w')
  | (some credential, w') =>
    (some credential,
      { w' with
        issued :=
          if credential.credentialType = .API_KEY then credential.nhiIdentityId :: w'.issued
          else w'.issued })

theorem credentialIssued_of_free {row : Nat → Int → NhiCredential} {w : World}
    (free : w.nameTaken (row w.supply w.now).nhiIdentityId (row w.supply w.now).name = false) :
    credentialIssued row w = (some (row w.supply w.now),
        { w with
          supply := w.supply + 1
          credentials := w.credentials ++ [row w.supply w.now]
          issued :=
            if (row w.supply w.now).credentialType = .API_KEY then
              (row w.supply w.now).nhiIdentityId :: w.issued
            else w.issued }) := by
  rw [credentialIssued, credentialCreated_of_free free]

def createCredential (realm : Realm) (nhiIdentityId : Nat) (dto : CreateNhiCredentialDto)
    (rawKey : String) : Call (NhiCredential × Option String) := do
  let _ ← findById realm nhiIdentityId
  let created ← atomic (credentialIssued (dto.row deps nhiIdentityId rawKey))
  let credential ← orFail created .internal
  pure (credential.select, if dto.credentialType = some .API_KEY then some rawKey else none)

def credentialNotFound (id : Nat) : Failure :=
  notFound ("Credential '" ++ toString id ++ "' not found")

def findCredentialById (realm : Realm) (nhiIdentityId credentialId : Nat) : Call NhiCredential := do
  let _ ← findById realm nhiIdentityId
  let credential ← read fun w => w.credential? nhiIdentityId credentialId
  let credential ← orFail credential (credentialNotFound credentialId)
  pure credential.select

def revocation (now : Int) (credential : NhiCredential) : NhiCredential :=
  { credential with revoked := true, revokedAt := some now }

def revokeCredential (realm : Realm) (nhiIdentityId credentialId : Nat) : Call String := do
  let _ ← findCredentialById realm nhiIdentityId credentialId
  let credential ← read fun w => w.credential? nhiIdentityId credentialId
  if credential.any (·.revoked) then
    pure "Credential is already revoked"
  else do
    modify fun w => credentialUpdated credentialId (revocation w.now) w
    pure "Credential revoked successfully"

def successorName (name : String) : String :=
  if name = "" then "rotated credential" else name ++ " (rotated)"

def successor (newRaw : String) (old : NhiCredential) (id : Nat) (now : Int) : NhiCredential where
  id := id
  nhiIdentityId := old.nhiIdentityId
  credentialType := .API_KEY
  name := successorName old.name
  keyPrefix := some (keyPrefix newRaw)
  keyHash := some (deps.hashPassword newRaw)
  expiresAt := old.expiresAt
  rotationRequired := false
  enabled := true
  allowedIpRanges := old.allowedIpRanges
  createdAt := now

def rotationBegun (found : Option NhiCredential) (w : World) : World :=
  match found with
  | some credential =>
    if credential.credentialType = .API_KEY then
      { w with begun := credential.id :: w.begun }
    else w
  | none => w

def successorCreated (newRaw : String) (old : NhiCredential) (w : World) :
    Option NhiCredential × World :=
  match credentialCreated (successor deps newRaw old) w with
  | (none, w') => (none, w')
  | (some new, w') =>
    (some new,
      { w' with successions :=
          ⟨old.id, new.id, w.isLive old.id⟩ :: w.successions })

variable {deps} in
theorem successorCreated_of_taken {newRaw : String} {old : NhiCredential} {w : World}
    (taken : w.nameTaken old.nhiIdentityId (successorName old.name) = true) :
    successorCreated deps newRaw old w = (none, w) := by
  rw [successorCreated, credentialCreated_of_taken taken]

variable {deps} in
theorem successorCreated_of_free {newRaw : String} {old : NhiCredential} {w : World}
    (free : w.nameTaken old.nhiIdentityId (successorName old.name) = false) :
    successorCreated deps newRaw old w = (some (successor deps newRaw old w.supply w.now),
        { w with
          supply := w.supply + 1
          credentials := w.credentials ++ [successor deps newRaw old w.supply w.now]
          successions := ⟨old.id, w.supply, w.isLive old.id⟩ :: w.successions }) := by
  rw [successorCreated, credentialCreated_of_free free]
  rfl

def rotateCredential (realm : Realm) (nhiIdentityId credentialId : Nat) (newRaw : String) :
    Call (NhiCredential × String) := do
  let _ ← findCredentialById realm nhiIdentityId credentialId
  let found ← atomic fun w =>
    let found := w.credential? nhiIdentityId credentialId
    (found, rotationBegun found w)
  let oldCredential ← orFail found (credentialNotFound credentialId)
  require (oldCredential.credentialType = .API_KEY)
    (conflict "Only API_KEY credentials can be rotated")
  let created ← atomic (successorCreated deps newRaw oldCredential)
  let newCredential ← orFail created .internal
  -- Revoke old credential
  modify fun w => credentialUpdated credentialId (revocation w.now) w
  modify fun w =>
    credentialUpdated credentialId (fun credential => { credential with rotatedAt := some w.now }) w
  pure (newCredential.select, newRaw)

end Credentials

end Idenplane.Nhi
