import Idenplane.Registration.Service

/-! # The two entrances

`RegistrationController.register`, behind its validated body, and the form of the login pages. -/

namespace Idenplane.Registration

open Atomic Auth Admin Passwords Text

/-- `/^[a-zA-Z0-9_-]+$/`. -/
def isUsernameChar (c : Char) : Bool := isUpper c || isLower c || c.isDigit || c == '_' || c == '-'

/-- The decorators of `RegisterDto`. -/
def validDto (isEmail : String → Bool) (dto : RegisterDto) : Bool :=
  3 ≤ utf16Length dto.username.toList && dto.username.toList.all isUsernameChar &&
    isEmail dto.email && 8 ≤ utf16Length dto.password.toList

section

variable (deps : Deps) (realm : RegistrationRealm)

def registerController (isEmail : String → Bool) (captcha : CaptchaService) (mail : Mail)
    (dto : RegisterDto) (captchaProvider : Option String) : Run RegisterResult := do
  require (validDto isEmail dto) (badRequest "Bad Request")
  require (!(truthy realm.termsOfServiceUrl && !dto.acceptTerms.getD false))
    (badRequest "You must accept the terms of service")
  register deps realm captcha mail dto captchaProvider

abbrev Body := List (String × String)

/-- `body[name] ?? ''`. -/
def field (body : Body) (name : String) : String := (body.lookup name).getD ""

def trimmed (body : Body) (name : String) : String := trim (field body name)

def hasAngle (text : String) : Bool := text.toList.any fun c => c == '<' || c == '>'

def formDomainAllowed (email : String) : Bool :=
  realm.allowedEmailDomains.isEmpty ||
    (realm.allowedEmailDomains.map deps.toLowerCase).contains ((emailDomain deps email).getD "")

def registrationAttributes (s : Store) : List CustomAttribute :=
  (realmAttributes realm.toRealm s).filter (·.showOnRegistration)

def missingAttribute (body : Body) (definition : CustomAttribute) : Option String :=
  if definition.required && formValue body definition = "" then
    some ("'" ++ definition.displayName ++ "' is required.")
  else none

def admitForm (csrfValid : Bool) (body : Body) : Op Unit := do
  require csrfValid (forbidden "Invalid or missing CSRF token")
  require realm.registrationAllowed (refusal "Registration is not allowed for this realm.")
  require (2 ≤ utf16Length (trimmed body "username").toList)
    (refusal "Username must be at least 2 characters.")
  require (!(hasAngle (trimmed body "username") || hasAngle (trimmed body "firstName") ||
      hasAngle (trimmed body "lastName")))
    (refusal "Fields must not contain HTML tags or angle brackets.")
  require (trimmed body "email" != "") (refusal "Email is required.")
  require (formDomainAllowed deps realm (trimmed body "email"))
    (refusal ("Registration is only allowed for email domains: " ++
      ", ".intercalate (realm.allowedEmailDomains.map deps.toLowerCase)))
  require (!(truthy realm.termsOfServiceUrl && field body "terms_accepted" = ""))
    (refusal "You must accept the terms of service to register.")
  require (field body "password" != "") (refusal "Password is required.")
  require (field body "password" = field body "confirmPassword") (refusal "Passwords do not match.")
  requireStrength realm.toRealm (field body "password")

def admitApplicant (body : Body) : Op Unit := do
  let definitions ← read (registrationAttributes realm)
  requireNoComplaint (definitions.findSome? (missingAttribute body))
  let byName ← read (findUser realm.id (trimmed body "username"))
  let byEmail ← read (emailTaken realm.toRealm (some (trimmed body "email")))
  require (!(byName.isSome || byEmail)) accountExists

def formAccount (body : Body) (passwordHash : String) (s : Store) : User where
  id := s.supply
  realmId := realm.id
  username := trimmed body "username"
  email := some (trimmed body "email")
  firstName := given (some (trimmed body "firstName"))
  lastName := given (some (trimmed body "lastName"))
  enabled := !realm.registrationApprovalRequired
  passwordHash := some passwordHash
  passwordChangedAt := some s.now

def formAccountOpened (body : Body) (passwordHash : String) (w : World) : Option User × World :=
  if (findUser realm.id (trimmed body "username") w.store).isSome ||
      emailTaken realm.toRealm (some (trimmed body "email")) w.store then (none, w)
  else
    let user := formAccount realm body passwordHash w.store
    (some user, w.write
      { w.store with supply := w.store.supply + 1, users := user :: w.store.users }
      (.registered user.id realm.registrationApprovalRequired))

/-- The account goes again when its attributes cannot be saved. -/
def accountWithdrawn (userId : Nat) (w : World) : World :=
  { w with
    store := { userDeleted userId w.store with
      verificationTokens := w.store.verificationTokens.filter (·.userId ≠ userId) }
    federatedIdentities := w.federatedIdentities.filter (·.userId ≠ userId)
    members := w.members.filter (·.userId ≠ userId) }

def handleRegistration (mail : Mail) (csrfValid : Bool) (body : Body) : Run User := do
  onStore (admitForm deps realm csrfValid body)
  onStore (admitApplicant realm body)
  let passwordHash ← onStore (hashPassword deps (field body "password"))
  let created ← atomic (formAccountOpened realm body passwordHash)
  let user ← orFail created accountExists
  onStore (recordHistory user.id realm.id passwordHash realm.passwordHistoryCount)
  let saved ← (onStore (validateAndSaveRegistrationAttributes deps realm.toRealm user.id body)).attempt
  match saved with
  | .error _ => do
    modify (accountWithdrawn user.id)
    Prog.fail (refusal "Failed to save custom attribute values. Please try again.")
  | .ok () => do
    -- a mail that cannot be sent does not stop the registration
    let _ ← (sendVerificationEmail mail user.id (trimmed body "email")).attempt
    pure user

end

end Idenplane.Registration
