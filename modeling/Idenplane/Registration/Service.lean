import Idenplane.Auth.Signers
import Idenplane.Registration.Captcha
import Idenplane.Registration.World

/-! # The registration service

`RegistrationService`, the update of a user by an administrator, the verification page of the
login, and the acceptance of an invitation, each call to the database one step.  The texts of
the mails and the webhooks are left out. -/

namespace Idenplane.Registration

open Atomic Auth Admin Passwords

structure Mail where
  /-- `isConfigured`. -/
  configured : Bool := true
  /-- `sendEmail` does not throw. -/
  sent : Bool := true

/-- `createToken`, its first statement. -/
def tokensDropped (userId : Nat) (s : Store) : Store :=
  { s with verificationTokens := s.verificationTokens.filter fun token =>
      !(token.userId = userId && token.type = .email_verification) }

/-- `createToken`, its second statement.  The token is the next fresh name. -/
def tokenIssued (userId : Nat) (address : String) (w : World) : World :=
  w.write { w.store with
      supply := w.store.supply + 1
      verificationTokens :=
        { id := w.store.supply, tokenHash := sha256 w.store.supply, userId := userId,
          type := .email_verification, expiresAt := w.store.now + 86400 * 1000 } ::
        w.store.verificationTokens }
    (.issued w.store.supply userId address)

def sendVerificationEmail (mail : Mail) (userId : Nat) (email : String) : Run Unit :=
  if mail.configured then do
    onStore (modify (tokensDropped userId))
    modify (tokenIssued userId email)
    require mail.sent .internal
  else pure ()

def sendWelcomeEmail (mail : Mail) : Run Unit :=
  if mail.configured then require mail.sent .internal else pure ()

structure RegisterDto where
  (username email password : String)
  (firstName lastName captchaToken : Option String := none)
  acceptTerms : Option Bool := none
  attributes : Option (List (String × String)) := none

structure RegisterResult where
  userId : Nat
  requiresApproval : Bool
  emailSent : Bool
  deriving DecidableEq

section

variable (deps : Deps) (realm : RegistrationRealm)

def emailDomain (email : String) : Option String :=
  ((Text.split '@' email.toList)[1]?).map fun part => deps.toLowerCase (String.ofList part)

def captchaFailed (errorCodes : Option (List String)) : Failure :=
  badRequest ("CAPTCHA verification failed: " ++
    (errorCodes.map (", ".intercalate ·)).getD "invalid token")

/-- A CAPTCHA is verified when the caller names a provider and brings a token. -/
def verifyCaptcha (captcha : CaptchaService) (dto : RegisterDto) (captchaProvider : Option String) :
    Op Unit :=
  match given captchaProvider, given dto.captchaToken with
  | some provider, some token =>
    if provider = NONE then pure ()
    else
      let captchaResult := captcha.verify token provider (some "register")
      require captchaResult.success (captchaFailed captchaResult.errorCodes)
  | _, _ => pure ()

def domainAllowed (email : String) : Bool :=
  realm.allowedEmailDomains.isEmpty ||
    match given (emailDomain deps email) with
    | some domain => (realm.allowedEmailDomains.map deps.toLowerCase).contains domain
    | none => false

/-- The checks of `register` before it opens the account. -/
def admitRegistration (captcha : CaptchaService) (dto : RegisterDto)
    (captchaProvider : Option String) : Op Unit := do
  verifyCaptcha captcha dto captchaProvider
  require realm.registrationAllowed (forbidden "Self-registration is disabled for this realm")
  require (domainAllowed deps realm dto.email)
    (badRequest ("Email domain '" ++ (emailDomain deps dto.email).getD "undefined" ++
      "' is not allowed for self-registration"))
  let existingUsername ← read (findUser realm.id dto.username)
  require existingUsername.isNone (conflict ("Username '" ++ dto.username ++ "' is already taken"))
  let existingEmail ← read (emailTaken realm.toRealm (some dto.email))
  require (!(dto.email != "" && existingEmail))
    (conflict ("Email '" ++ dto.email ++ "' is already in use"))
  requirePolicy realm.toRealm dto.password

def newAccount (dto : RegisterDto) (passwordHash : String) (s : Store) : User where
  id := s.supply
  realmId := realm.id
  username := dto.username
  email := some dto.email
  firstName := dto.firstName
  lastName := dto.lastName
  enabled := !realm.registrationApprovalRequired
  passwordHash := some passwordHash
  passwordChangedAt := some s.now
  emailVerified := !realm.requireEmailVerification

/-- `user.create`, which throws when the name or the address is taken by now. -/
def accountOpened (dto : RegisterDto) (passwordHash : String) (w : World) : Option User × World :=
  if (findUser realm.id dto.username w.store).isSome ||
      emailTaken realm.toRealm (some dto.email) w.store then (none, w)
  else
    let user := newAccount realm dto passwordHash w.store
    (some user, w.write
      { w.store with supply := w.store.supply + 1, users := user :: w.store.users }
      (.registered user.id realm.registrationApprovalRequired))

def attributeRows (userId : Nat) (attributes : List (String × String)) (s : Store) :
    List UserAttribute :=
  attributes.filterMap fun (name, value) =>
    (s.customAttributes.find? fun custom =>
      custom.realmId = realm.id && custom.name = name).map fun custom =>
        { userId := userId, attributeId := custom.id, value := value }

def storeAttributes (userId : Nat) (attributes : Option (List (String × String))) : Op Unit := do
  let rows ← read (attributeRows realm userId (attributes.getD []))
  modify fun s => { s with userAttributes := rows ++ s.userAttributes }

def register (captcha : CaptchaService) (mail : Mail) (dto : RegisterDto)
    (captchaProvider : Option String) : Run RegisterResult := do
  onStore (admitRegistration deps realm captcha dto captchaProvider)
  let passwordHash ← onStore (hashPassword deps dto.password)
  let created ← atomic (accountOpened realm dto passwordHash)
  let user ← orFail created .internal
  onStore (storeAttributes realm user.id dto.attributes)
  onStore (recordHistory user.id realm.id passwordHash realm.passwordHistoryCount)
  let emailSent := realm.requireEmailVerification && dto.email != ""
  if emailSent then sendVerificationEmail mail user.id dto.email else pure ()
  pure { userId := user.id
         requiresApproval := realm.registrationApprovalRequired
         emailSent := emailSent }

end

section

variable (realm : RegistrationRealm)

def findInRealm (userId : Nat) (s : Store) : Option User :=
  s.users.find? fun user => user.id = userId && user.realmId = realm.id

def verifiedUser (userId : Nat) (w : World) : Option User × World :=
  match findInRealm realm userId w.store with
  | none => (none, w)
  | some user => (some user, w.note (.verifying user.id user.enabled))

/-- `user.update({ data: { emailVerified: true } })` for whoever brought the token. -/
def addressVerified (token userId : Nat) (w : World) : Bool × World :=
  w.updateRow userId (fun user => { user with emailVerified := true }) (.redeemed token)

def enabledAgain (userId : Nat) (w : World) : Bool × World :=
  w.updateRow userId (fun user => { user with enabled := true }) fun row => .reenabled row.id

/-- `RegistrationService.verifyEmail`: the user, if the token was good. -/
def verifyEmail (token : Nat) : Run (Option Nat) := do
  let res ← onStore (validateToken token .email_verification)
  match res with
  | none => pure none
  | some userId => do
    let found ← atomic (verifiedUser realm userId)
    match found with
    | none => pure none
    | some user => do
      let written ← atomic (addressVerified token user.id)
      require written .internal
      if !user.enabled && realm.registrationApprovalRequired then do
        let enabled ← atomic (enabledAgain user.id)
        require enabled .internal
        pure (some user.id)
      else pure (some user.id)

/-- `LoginController.verifyEmail`, which asks neither for the realm nor for the account. -/
def verifyEmailPage (token : Nat) : Run Unit := do
  let res ← onStore (validateToken token .email_verification)
  match res with
  | none => pure ()
  | some userId => do
    let written ← atomic (addressVerified token userId)
    require written .internal

def resendVerificationEmail (mail : Mail) (email : String) : Run Bool := do
  let found ← onStore (read fun s => s.users.find? fun user =>
    user.realmId = realm.id && user.email = some email)
  match found with
  | none => pure false
  | some user =>
    if user.emailVerified then pure false
    else do
      sendVerificationEmail mail user.id email
      pure true

def findPending (userId : Nat) (s : Store) : Option User :=
  (findInRealm realm userId s).filter fun user => !user.enabled

def pendingNotFound : Failure := notFound "Pending registration not found"

def accountApproved (userId : Nat) (w : World) : Bool × World :=
  w.updateRow userId (fun user => { user with enabled := true }) fun row => .approved row.id

def approveRegistration (mail : Mail) (userId : Nat) : Run Unit := do
  let found ← onStore (read (findPending realm userId))
  let user ← orFail found pendingNotFound
  let written ← atomic (accountApproved userId)
  require written .internal
  match given user.email with
  | none => pure ()
  | some email =>
    if realm.requireEmailVerification && !user.emailVerified then
      sendVerificationEmail mail user.id email
    else sendWelcomeEmail mail

/-- The look-up of `rejectRegistration`. -/
def rejectedUser (call userId : Nat) (w : World) : Option User × World :=
  match findPending realm userId w.store with
  | none => (none, w)
  | some user => (some user, w.note (.rejecting call user.id))

/-- `user.delete`, with what hangs on the user. -/
def accountDeleted (call userId : Nat) (w : World) : Bool × World :=
  match findUserById userId w.store with
  | none => (false, w)
  | some _ =>
    let store := userDeleted userId w.store
    (true, { w with
      store := { store with
        verificationTokens := store.verificationTokens.filter (·.userId ≠ userId) }
      federatedIdentities := w.federatedIdentities.filter (·.userId ≠ userId)
      members := w.members.filter (·.userId ≠ userId)
      log := .rejected call userId :: w.log })

def rejectRegistration (call userId : Nat) : Run Unit := do
  let found ← atomic (rejectedUser realm call userId)
  let _ ← orFail found pendingNotFound
  let deleted ← atomic (accountDeleted call userId)
  require deleted .internal

/-- `user.update` with what the request brings. -/
def profileWritten (userId : Nat) (dto : UpdateUserDto) (w : World) : Bool × World :=
  w.updateRow userId (profileUpdated dto) fun row => .updated row dto

def updateUser (userId : Nat) (dto : UpdateUserDto) : Run Unit := do
  let user ← onStore (findUserInRealm realm.toRealm userId)
  let taken ← onStore (read (emailTaken realm.toRealm dto.email))
  require (!(truthy dto.email && dto.email ≠ user.email && taken)) (emailInUse dto.email)
  let written ← atomic (profileWritten userId dto)
  require written .internal

def gone (message : String) : Failure := .oauth "Gone" message 410

/-- The transaction: the invitation is accepted and the member is there. -/
def invitationAccepted (invitation : OrganizationInvitation) (userId : Nat) (w : World) :
    World :=
  let known := w.members.any fun mem =>
    mem.organizationId = invitation.organizationId && mem.userId = userId
  { w with
    invitations := w.invitations.map fun row =>
      if row.id = invitation.id then { row with acceptedAt := some w.store.now } else row
    members := if known then w.members else
      { organizationId := invitation.organizationId, userId := userId,
        role := invitation.role } :: w.members }

def acceptInvitation (slug : String) (token : Nat) (userId : Option Nat) : Run Nat := do
  let found ← read fun w : World => w.organizations.find? fun org =>
    org.realmId = realm.id && org.slug = slug
  let org ← orFail found (notFound ("Organization '" ++ slug ++ "' not found"))
  let known ← read fun w : World => w.invitations.find? (·.token = sha256 token)
  let invitation ← orFail (known.filter (·.organizationId = org.id))
    (notFound "Invitation not found")
  require invitation.acceptedAt.isNone (gone "Invitation has already been accepted")
  let now ← onStore (read Store.now)
  require (!(invitation.expiresAt < now)) (gone "Invitation has expired")
  let owner ← onStore (read fun s => s.users.find? fun user =>
    user.realmId = realm.id && user.email = some invitation.email)
  let invitedUser ← orFail owner
    (forbidden "No user with the invited email address exists in this realm")
  require invitedUser.emailVerified
    (forbidden "Your email address must be verified before you can accept an invitation")
  require (userId.all (· = invitedUser.id))
    (forbidden "The supplied userId does not match the user this invitation was issued to")
  modify (invitationAccepted invitation invitedUser.id)
  pure invitedUser.id

end

end Idenplane.Registration
