import Idenplane.Admin.Attributes
import Idenplane.Lib.Cache
import Idenplane.Realms.Secrets

/-! # Realms

`RealmsService`, and the part of `RealmImportService` that writes to the table of the realms.
Each call to the database or to Redis is one step.  The signing keys, the scopes and the other
rows of a new realm are in other tables.
-/

namespace Idenplane.Realms

open Atomic Auth Admin Cache

structure RealmRow extends Realm where
  smtpPassword : Option String := none
  emailProviderConfig : Js := .null
  smsProviderConfig : Js := .obj []
  (recaptchaSecretKey hcaptchaSecretKey : Option String := none)
  /-- The number of the write that made the row what it is; nobody reads it. -/
  version : Nat := 0

structure Settings where
  displayName : Option String := none
  enabled : Option Bool := none
  (accessTokenLifespan refreshTokenLifespan offlineTokenLifespan passwordMinLength : Option Int :=
    none)
  (passwordRequireUppercase passwordRequireLowercase passwordRequireDigits
    passwordRequireSpecialChars : Option Bool := none)
  (passwordHistoryCount passwordMaxAgeDays : Option Int := none)
  bruteForceEnabled : Option Bool := none
  (maxLoginFailures lockoutDuration failureResetTime permanentLockoutAfter : Option Int := none)
  mfaRequired : Option Bool := none

def Settings.apply (settings : Settings) (realm : RealmRow) : RealmRow :=
  { realm with
    displayName := settings.displayName.or realm.displayName
    enabled := settings.enabled.getD realm.enabled
    accessTokenLifespan := settings.accessTokenLifespan.getD realm.accessTokenLifespan
    refreshTokenLifespan := settings.refreshTokenLifespan.getD realm.refreshTokenLifespan
    offlineTokenLifespan := settings.offlineTokenLifespan.getD realm.offlineTokenLifespan
    passwordMinLength := settings.passwordMinLength.getD realm.passwordMinLength
    passwordRequireUppercase :=
      settings.passwordRequireUppercase.getD realm.passwordRequireUppercase
    passwordRequireLowercase :=
      settings.passwordRequireLowercase.getD realm.passwordRequireLowercase
    passwordRequireDigits := settings.passwordRequireDigits.getD realm.passwordRequireDigits
    passwordRequireSpecialChars :=
      settings.passwordRequireSpecialChars.getD realm.passwordRequireSpecialChars
    passwordHistoryCount := settings.passwordHistoryCount.getD realm.passwordHistoryCount
    passwordMaxAgeDays := settings.passwordMaxAgeDays.getD realm.passwordMaxAgeDays
    bruteForceEnabled := settings.bruteForceEnabled.getD realm.bruteForceEnabled
    maxLoginFailures := settings.maxLoginFailures.getD realm.maxLoginFailures
    lockoutDuration := settings.lockoutDuration.getD realm.lockoutDuration
    failureResetTime := settings.failureResetTime.getD realm.failureResetTime
    permanentLockoutAfter := settings.permanentLockoutAfter.getD realm.permanentLockoutAfter
    mfaRequired := settings.mfaRequired.getD realm.mfaRequired }

/-- `UpdateRealmDto`; the settings that are not named here are stored as they come. -/
structure UpdateRealmDto where
  settings : Settings := {}
  (registrationAllowed registrationApprovalRequired requireEmailVerification : Option Bool := none)
  maxSessionsPerUser : Option Int := none
  impersonationEnabled : Option Bool := none
  impersonationMaxDuration : Option Int := none
  (webAuthnEnabled adaptiveAuthEnabled magicLinkEnabled : Option Bool := none)
  (magicLinkExpirySeconds magicLinkRateLimitPerEmail : Option Int := none)
  smsMfaEnabled : Option Bool := none
  smsProvider : Option String := none
  (otpLength otpExpirySeconds smsMaxRequestsPerUser smsRateLimitWindow : Option Int := none)
  /-- `loginTheme`, `accountTheme`, `emailTheme` and `themeName`, where they are given. -/
  themes : List String := []
  smtpPassword : Option String := none
  (emailProviderConfig smsProviderConfig : Option Record := none)
  (recaptchaSecretKey hcaptchaSecretKey : Option String := none)

/-- An update as it was written: what was asked, and the row that it had read. -/
structure Update where
  name : String
  dto : UpdateRealmDto
  existing : RealmRow

structure State where
  realms : List RealmRow := []
  /-- `realm:name:<name>`. -/
  byName : Cache.Entries String RealmRow := empty
  /-- `realm:config:<id>`. -/
  configs : Cache.Entries Nat RealmRow := empty
  supply : Nat := 0
  writes : Nat := 0
  updates : List Update := []

abbrev Call (α : Type) := Prog State Failure α

def State.find (name : String) (s : State) : Option RealmRow :=
  s.realms.find? (·.name = name)

def redactSecrets (realm : RealmRow) : RealmRow :=
  { realm with
    smtpPassword :=
      if truthy realm.smtpPassword then some secretPlaceholder else realm.smtpPassword
    smsProviderConfig := redactSmsProviderConfig realm.smsProviderConfig
    emailProviderConfig := redactEmailProviderConfig realm.emailProviderConfig }

def realmNotFound (name : String) : Failure := notFound ("Realm '" ++ name ++ "' not found")

def cacheRealmByName (name : String) (realm : RealmRow) (s : State) : State :=
  { s with byName := put s.byName name realm }

def cacheRealmConfig (realm : RealmRow) (s : State) : State :=
  { s with configs := put s.configs realm.id realm }

def findByNameRaw (name : String) : Call RealmRow := do
  let cached ← read fun s => s.byName name
  match cached with
  | some realm => pure realm
  | none => do
    let found ← read (State.find name)
    let realm ← orFail found (realmNotFound name)
    modify (cacheRealmByName name realm)
    modify (cacheRealmConfig realm)
    pure realm

def findByName (name : String) : Call RealmRow := do
  let realm ← findByNameRaw name
  pure (redactSecrets realm)

/-- `findAll`, oldest first. -/
def findAll : Call (List RealmRow) := do
  let realms ← read fun s => s.realms.reverse
  pure (realms.map redactSecrets)

def configDropped (id : Nat) (s : State) : State :=
  { s with configs := drop s.configs id }

def nameDropped (name : String) (s : State) : State :=
  { s with byName := drop s.byName name }

def invalidateRealmCache (id : Nat) (name : String) : Call Unit := do
  modify (configDropped id)
  modify (nameDropped name)

def assertSmsMfaDeliverable (smsMfaEnabled : Bool) (smsProvider : String) : Call Unit :=
  require (!(smsMfaEnabled && (smsProvider = "" || smsProvider = "none")))
    (badRequest "Choose an SMS provider before turning on SMS multi-factor authentication.")

/-- `update` checks this only when the request says something about it. -/
def checkSms (dto : UpdateRealmDto) (existing : RealmRow) : Call Unit :=
  if dto.smsMfaEnabled.isSome || dto.smsProvider.isSome then
    assertSmsMfaDeliverable (dto.smsMfaEnabled.getD existing.smsMfaEnabled)
      (dto.smsProvider.getD existing.smsProvider)
  else pure ()

def themeMissing (available : List String) (theme : String) : Failure :=
  badRequest ("Theme '" ++ theme ++ "' does not exist. Available themes: " ++
    ", ".intercalate available)

def checkThemes (available : List String) (themes : List String) : Call Unit :=
  match themes.find? (!available.contains ·) with
  | some theme => Prog.fail (themeMissing available theme)
  | none => pure ()

/-- The columns with secrets, as `update` fills them from what is stored. -/
structure SecretData where
  smtpPassword : Option String
  (emailProviderConfig smsProviderConfig : Option Record)
  (recaptchaSecretKey hcaptchaSecretKey : Option String)

def newSmtpPassword (d : Deps) (sent : Option String) : Option String :=
  ((given sent).filter (· ≠ secretPlaceholder)).map (encryptSecret d)

def secretData (d : Deps) (dto : UpdateRealmDto) (existing : RealmRow) : SecretData where
  smtpPassword := newSmtpPassword d dto.smtpPassword
  emailProviderConfig :=
    encryptEmailProviderConfig d dto.emailProviderConfig existing.emailProviderConfig
  smsProviderConfig :=
    encryptSmsProviderConfig d dto.smsProviderConfig existing.smsProviderConfig
  recaptchaSecretKey := dto.recaptchaSecretKey.map (encryptSecret d)
  hcaptchaSecretKey := dto.hcaptchaSecretKey.map (encryptSecret d)

def secretsWritten (data : SecretData) (realm : RealmRow) : RealmRow :=
  { realm with
    smtpPassword := data.smtpPassword.or realm.smtpPassword
    emailProviderConfig := (data.emailProviderConfig.map .obj).getD realm.emailProviderConfig
    smsProviderConfig := (data.smsProviderConfig.map .obj).getD realm.smsProviderConfig
    recaptchaSecretKey := data.recaptchaSecretKey.or realm.recaptchaSecretKey
    hcaptchaSecretKey := data.hcaptchaSecretKey.or realm.hcaptchaSecretKey }

/-- `realm.update` with what the request brings. -/
def realmUpdated (dto : UpdateRealmDto) (data : SecretData) (realm : RealmRow) : RealmRow :=
  let realm := secretsWritten data (dto.settings.apply realm)
  { realm with
    registrationAllowed := dto.registrationAllowed.getD realm.registrationAllowed
    registrationApprovalRequired :=
      dto.registrationApprovalRequired.getD realm.registrationApprovalRequired
    requireEmailVerification := dto.requireEmailVerification.getD realm.requireEmailVerification
    maxSessionsPerUser := dto.maxSessionsPerUser.getD realm.maxSessionsPerUser
    impersonationEnabled := dto.impersonationEnabled.getD realm.impersonationEnabled
    impersonationMaxDuration := dto.impersonationMaxDuration.getD realm.impersonationMaxDuration
    webAuthnEnabled := dto.webAuthnEnabled.getD realm.webAuthnEnabled
    adaptiveAuthEnabled := dto.adaptiveAuthEnabled.getD realm.adaptiveAuthEnabled
    magicLinkEnabled := dto.magicLinkEnabled.getD realm.magicLinkEnabled
    magicLinkExpirySeconds := dto.magicLinkExpirySeconds.getD realm.magicLinkExpirySeconds
    magicLinkRateLimitPerEmail :=
      dto.magicLinkRateLimitPerEmail.getD realm.magicLinkRateLimitPerEmail
    smsMfaEnabled := dto.smsMfaEnabled.getD realm.smsMfaEnabled
    smsProvider := dto.smsProvider.getD realm.smsProvider
    otpLength := dto.otpLength.getD realm.otpLength
    otpExpirySeconds := dto.otpExpirySeconds.getD realm.otpExpirySeconds
    smsMaxRequestsPerUser := dto.smsMaxRequestsPerUser.getD realm.smsMaxRequestsPerUser
    smsRateLimitWindow := dto.smsRateLimitWindow.getD realm.smsRateLimitWindow }

/-- `realm.update` of the row under the name: the row before and after. -/
def realmWritten (d : Deps) (name : String) (dto : UpdateRealmDto) (existing : RealmRow)
    (s : State) : Option (RealmRow × RealmRow) × State :=
  let stamped (realm : RealmRow) : RealmRow :=
    { realmUpdated dto (secretData d dto existing) realm with version := s.writes + 1 }
  ((s.find name).map fun realm => (realm, stamped realm),
    { s with
      writes := s.writes + 1
      updates := { name := name, dto := dto, existing := existing } :: s.updates
      realms := s.realms.map fun realm => if realm.name = name then stamped realm else realm })

def update (d : Deps) (available : List String) (name : String) (dto : UpdateRealmDto) :
    Call (RealmRow × RealmRow) := do
  let existing ← findByNameRaw name
  checkSms dto existing
  checkThemes available dto.themes
  let written ← atomic (realmWritten d name dto existing)
  let (before, realm) ← orFail written .internal
  invalidateRealmCache existing.id name
  pure (before, redactSecrets realm)

def realmDeleted (name : String) (s : State) : Option RealmRow × State :=
  (s.find name, { s with
    writes := s.writes + 1, realms := s.realms.filter (·.name ≠ name) })

def remove (name : String) : Call (RealmRow × RealmRow) := do
  let existing ← findByNameRaw name
  invalidateRealmCache existing.id name
  let deleted ← atomic (realmDeleted name)
  let realm ← orFail deleted .internal
  pure (realm, redactSecrets realm)

/-- `realm.create`; the name is unique. -/
def realmCreated (realm : RealmRow) (s : State) : Option RealmRow × State :=
  if (s.find realm.name).isSome then (none, s)
  else
    let row : RealmRow :=
      { realm with id := s.supply, version := s.writes + 1 }
    (some row, { s with
      supply := s.supply + 1, writes := s.writes + 1, realms := row :: s.realms })

def realmExists (name : String) (hint : String) : Failure :=
  conflict ("Realm '" ++ name ++ "' already exists" ++ hint)

/-- The row that `create` asks for. -/
def newRealm (d : Deps) (name : String) (dto : UpdateRealmDto) : RealmRow :=
  realmUpdated dto
    { smtpPassword := dto.smtpPassword.map (encryptSecret d)
      emailProviderConfig := encryptEmailProviderConfig d dto.emailProviderConfig .undefined
      smsProviderConfig := encryptSmsProviderConfig d dto.smsProviderConfig .undefined
      recaptchaSecretKey := dto.recaptchaSecretKey.map (encryptSecret d)
      hcaptchaSecretKey := dto.hcaptchaSecretKey.map (encryptSecret d) }
    { id := 0, name := name }

def create (d : Deps) (name : String) (dto : UpdateRealmDto) : Call RealmRow := do
  let existing ← read (State.find name)
  require existing.isNone (realmExists name "")
  assertSmsMfaDeliverable (dto.smsMfaEnabled.getD false) (dto.smsProvider.getD "")
  let created ← atomic (realmCreated (newRealm d name dto))
  let realm ← orFail created .internal
  pure (redactSecrets realm)

/-- What an export says about the realm.  Secrets are not exported. -/
structure Payload where
  version : String
  name : String
  settings : Settings := {}

/-- An import replaces a realm only when it is told to.  The row that it replaced. -/
def importRealm (payload : Payload) (overwrite : Bool) : Call (Option RealmRow) := do
  require (payload.version ≠ "") (badRequest "Invalid import format: missing version or realm")
  require (payload.name ≠ "") (badRequest "Invalid import format: realm name is required")
  let existing ← read (State.find payload.name)
  require (existing.isNone || overwrite)
    (realmExists payload.name ". Use overwrite option to replace it.")
  let replaced ← match existing with
    | none => pure none
    | some _ => do
      let deleted ← atomic (realmDeleted payload.name)
      let realm ← orFail deleted .internal
      pure (some realm)
  let created ← atomic (realmCreated (payload.settings.apply { id := 0, name := payload.name }))
  let _ ← orFail created .internal
  pure replaced

end Idenplane.Realms
