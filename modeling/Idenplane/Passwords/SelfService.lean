import Idenplane.Admin.Users

/-! # Passwords that users set themselves

The registration form, the form for an expired password and the form behind a reset link, as
`LoginController` handles them.  A link is good at the URL of every realm: the token names its
user, and nothing else.
-/

namespace Idenplane.Passwords

open Atomic Auth Admin

def refusal (message : String) : Failure := .oauth "redirect" message 302

def hashPassword (d : Deps) (password : String) : Op String := do
  require (Text.utf16Length password.toList ≤ maxPasswordLength)
    (.oauth "Unprocessable Entity" "Password must not exceed 1024 characters." 422)
  pure (d.hashPassword password)

def requireStrength (realm : Realm) (password : String) : Op Unit :=
  require (passwordErrors realm password).isEmpty
    (refusal (". ".intercalate (passwordErrors realm password)))

/-- `user.update` with the new hash. -/
def passwordSet (hash : String) (now : Int) (user : User) : User :=
  { user with passwordHash := some hash, passwordChangedAt := some now }

def updatePassword (userId : Nat) (hash : String) : Op Unit := do
  let now ← read Store.now
  let updated ← atomic (userUpdated userId (passwordSet hash now))
  require updated .internal

def findToken (token : Nat) (s : Store) : Option VerificationToken :=
  s.verificationTokens.find? (·.tokenHash = sha256 token)

def tokenStands (type : VerificationType) (now : Int) (record : VerificationToken) : Bool :=
  record.type = type && !(record.expiresAt < now)

def tokenDeleted (id : Nat) (s : Store) : Store :=
  { s with verificationTokens := s.verificationTokens.filter (·.id ≠ id) }

/-- `createToken` and `createTokenWithHash`: the token is the number `s.supply`. -/
def tokenCreated (userId : Nat) (type : VerificationType) (lifetime : Int) (s : Store) :
    Store :=
  { s with
    supply := s.supply + 1
    verificationTokens :=
      { id := s.supply, tokenHash := sha256 s.supply, userId := userId, type := type,
        expiresAt := s.now + lifetime * 1000 } ::
      s.verificationTokens.filter fun token => !(token.userId = userId && token.type = type) }

/-- `VerificationService.validateToken`: whatever the token is, it is good for once. -/
def validateToken (token : Nat) (type : VerificationType) : Op (Option Nat) := do
  let found ← read (findToken token)
  let now ← read Store.now
  match found with
  | none => pure none
  | some record => do
    modify (tokenDeleted record.id)
    pure (if tokenStands type now record then some record.userId else none)

structure PasswordForm where
  token : Option Nat := none
  (currentPassword newPassword confirmPassword : Option String := none)

/-- The user whose password has expired knows it, and sets another one. -/
def handleChangePassword (d : Deps) (realm : Realm) (body : PasswordForm) : Op User := do
  let token ← orFail body.token (refusal "All fields are required.")
  let currentPassword ← orFail (given body.currentPassword) (refusal "All fields are required.")
  let newPassword ← orFail (given body.newPassword) (refusal "All fields are required.")
  require (body.newPassword = body.confirmPassword) (refusal "New passwords do not match.")
  let found ← read (findToken token)
  let now ← read Store.now
  let record ← orFail (found.filter (tokenStands .change_password now))
    (refusal "Change password session expired. Please login again.")
  let known ← read (findUserById record.userId)
  let user ← orFail known (refusal "User not found.")
  let hash ← orFail (given user.passwordHash) (refusal "User not found.")
  let valid ← orFail (d.verifyPassword hash currentPassword) .internal
  require valid (refusal "Current password is incorrect.")
  requireStrength realm newPassword
  let used ← checkHistory d user.id realm.id newPassword realm.passwordHistoryCount
  require (!used) (refusal "Password was used recently. Choose a different password.")
  let newHash ← hashPassword d newPassword
  updatePassword user.id newHash
  recordHistory user.id realm.id newHash realm.passwordHistoryCount
  modify (tokenDeleted record.id)
  pure user

-- The history is written and not asked.
def handleResetPassword (d : Deps) (realm : Realm) (body : PasswordForm) : Op User := do
  let token ← orFail body.token (refusal "Missing required fields.")
  let password ← orFail (given body.newPassword) (refusal "Missing required fields.")
  require (body.newPassword = body.confirmPassword) (refusal "Passwords do not match.")
  requireStrength realm password
  let res ← validateToken token .password_reset
  let userId ← orFail res (refusal "This reset link is invalid or has expired.")
  let newHash ← hashPassword d password
  updatePassword userId newHash
  let known ← read (findUserById userId)
  -- the update would have thrown
  let user ← orFail known .internal
  recordHistory user.id realm.id newHash realm.passwordHistoryCount
  pure user

structure RegistrationForm where
  username : String
  email : String
  (password confirmPassword : Option String := none)
  /-- What the form says about the other fields before it looks at the password. -/
  (complaint attributeComplaint : Option String := none)
  /-- `validateAndSaveRegistrationAttributes` does not throw. -/
  attributesSaved : Bool := true

def requireNoComplaint : Option String → Op Unit
  | none => pure ()
  | some message => Prog.fail (refusal message)

def accountExists : Failure := refusal "An account with that username or email already exists."

/-- `user.create`; names and addresses are unique in a realm. -/
def userRegistered (realm : Realm) (body : RegistrationForm) (hash : String) (s : Store) :
    Option User × Store :=
  if (findUser realm.id body.username s).isSome || emailTaken realm (some body.email) s then
    (none, s)
  else
    let user : User :=
      { id := s.supply, realmId := realm.id, username := body.username,
        email := some body.email, enabled := !realm.registrationApprovalRequired,
        passwordHash := some hash, passwordChangedAt := some s.now }
    (some user, { s with supply := s.supply + 1, users := user :: s.users })

def userDeleted (userId : Nat) (s : Store) : Store :=
  { s with
    users := s.users.filter (·.id ≠ userId)
    passwordHistories := s.passwordHistories.filter (·.userId ≠ userId) }

def handleRegistration (d : Deps) (realm : Realm) (body : RegistrationForm) : Op User := do
  require realm.registrationAllowed (refusal "Registration is not allowed for this realm.")
  requireNoComplaint body.complaint
  let password ← orFail (given body.password) (refusal "Password is required.")
  require (body.password = body.confirmPassword) (refusal "Passwords do not match.")
  requireStrength realm password
  requireNoComplaint body.attributeComplaint
  let byName ← read (findUser realm.id body.username)
  let byEmail ← read (emailTaken realm (some body.email))
  require (!(byName.isSome || byEmail)) accountExists
  let hash ← hashPassword d password
  let created ← atomic (userRegistered realm body hash)
  let user ← orFail created accountExists
  recordHistory user.id realm.id hash realm.passwordHistoryCount
  if body.attributesSaved then pure user
  else do
    modify (userDeleted user.id)
    Prog.fail (refusal "Failed to save custom attribute values. Please try again.")

end Idenplane.Passwords
