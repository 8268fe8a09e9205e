import Idenplane.Admin.Attributes

/-! # Users

The parts of `UsersService` and `PasswordPolicyService` that write to the users of a realm.
-/

namespace Idenplane.Admin

open Atomic Idenplane.Auth

def isUpper (c : Char) : Bool := 'A' ≤ c && c ≤ 'Z'
def isLower (c : Char) : Bool := 'a' ≤ c && c ≤ 'z'

/-- `PasswordPolicyService.validate`: the rules the password breaks. -/
def passwordErrors (realm : Realm) (password : String) : List String :=
  let has (p : Char → Bool) : Bool := password.toList.any p
  (if Text.utf16Length password.toList < realm.passwordMinLength then
    ["Password must be at least " ++ toString realm.passwordMinLength ++ " characters"] else []) ++
  (if realm.passwordRequireUppercase && !has isUpper then
    ["Password must contain at least one uppercase letter"] else []) ++
  (if realm.passwordRequireLowercase && !has isLower then
    ["Password must contain at least one lowercase letter"] else []) ++
  (if realm.passwordRequireDigits && !has Char.isDigit then
    ["Password must contain at least one digit"] else []) ++
  (if realm.passwordRequireSpecialChars && !has fun c => !(isUpper c || isLower c || c.isDigit) then
    ["Password must contain at least one special character"] else [])

def requirePolicy (realm : Realm) (password : String) : Op Unit :=
  require (passwordErrors realm password).isEmpty
    (badRequest (". ".intercalate (passwordErrors realm password)))

def passwordHistory (userId realmId : Nat) (s : Store) : List PasswordHistory :=
  (s.passwordHistories.filter fun e => e.userId = userId && e.realmId = realmId
    ).insertionSort (fun a b => b.createdAt ≤ a.createdAt)

/-- `checkHistory`: the first entry that matches, or whose check throws, decides. -/
def inHistory (d : Deps) (password : String) : List PasswordHistory → Option Bool
  | [] => some false
  | entry :: rest =>
    match d.verifyPassword entry.passwordHash password with
    | none => none
    | some true => some true
    | some false => inHistory d password rest

def checkHistory (d : Deps) (userId realmId : Nat) (password : String) (historyCount : Int) :
    Op Bool :=
  if historyCount ≤ 0 then pure false
  else do
    let history ← read (passwordHistory userId realmId)
    orFail (inHistory d password (history.take historyCount.toNat)) .internal

def historyRecorded (userId realmId : Nat) (passwordHash : String) (s : Store) : Store :=
  { s with
    supply := s.supply + 1
    passwordHistories :=
      { id := s.supply, userId := userId, realmId := realmId, passwordHash := passwordHash,
        createdAt := s.now } :: s.passwordHistories }

def historyTrimmed (old : List PasswordHistory) (s : Store) : Store :=
  { s with passwordHistories := s.passwordHistories.filter fun e =>
      !(old.any (·.id = e.id)) }

def recordHistory (userId realmId : Nat) (passwordHash : String) (historyCount : Int) : Op Unit :=
  if historyCount ≤ 0 then pure ()
  else do
    modify (historyRecorded userId realmId passwordHash)
    let history ← read (passwordHistory userId realmId)
    let old := history.drop historyCount.toNat
    if old.isEmpty then pure () else modify (historyTrimmed old)

structure UpdateUserDto where
  (email firstName lastName : Option String := none)
  (enabled emailVerified : Option Bool := none)

def emailInUse (email : Option String) : Failure :=
  conflict ("Email '" ++ email.getD "" ++ "' is already in use")

def emailTaken (realm : Realm) (email : Option String) (s : Store) : Bool :=
  s.users.any fun user => user.realmId = realm.id && user.email.isSome && user.email = email

def findUserInRealm (realm : Realm) (userId : Nat) : Op User := do
  let found ← read fun s =>
    s.users.find? fun user => user.id = userId && user.realmId = realm.id
  orFail found (notFound "User not found")

/-- `user.update` with what the request brings. -/
def profileUpdated (dto : UpdateUserDto) (user : User) : User :=
  { user with
    email := dto.email.or user.email
    firstName := dto.firstName.or user.firstName
    lastName := dto.lastName.or user.lastName
    enabled := dto.enabled.getD user.enabled
    emailVerified := dto.emailVerified.getD user.emailVerified }

end Idenplane.Admin
