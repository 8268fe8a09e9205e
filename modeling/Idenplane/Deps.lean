import Idenplane.Lib.Atomic
import Idenplane.Scopes

/-! # What the services call outside the database

Hashing, directories, providers and plugins are functions the model knows nothing
about.  A function that may throw returns an option.
-/

namespace Idenplane

open Atomic

/-- An exception that reaches the caller: an OAuth error, a refused text message, an
HTTP exception. -/
structure Failure where
  error : String
  description : Option String := none
  status : Nat := 400
  mfaToken : Option Nat := none
  mfaMethods : List String := []
  deriving DecidableEq

/-- An `Error` that no code turns into an answer. -/
def Failure.internal : Failure := { error := "internal", status := 500 }

def Failure.oauth (error description : String) (status : Nat) : Failure :=
  { error := error, description := some description, status := status }

/-- A service operation: atomic steps on the database, ending in a value or an
exception. -/
abbrev Op (α : Type) := Prog Store Failure α

structure LdapUser where
  uid : String
  (email firstName lastName : Option String := none)
  deriving DecidableEq

structure Deps where
  baseUrl : String
  /-- `argon2.verify(hash, password)`. -/
  argon2Verify : String → String → Option Bool
  /-- `argon2.hash(password)`. -/
  hashPassword : String → String
  /-- `crypto.sha256` of a text that the server did not generate, in hex. -/
  sha256Text : String → String
  /-- `crypto.hmac(purpose, data)`, in hex. -/
  hmac : String → String → String
  encrypt : String → String
  decrypt : String → Option String
  toLowerCase : String → String
  /-- `new Date(time).toISOString()`. -/
  toISOString : Int → String
  computeAtHash : Jwt → String
  computeChash : Nat → String
  /-- `totp.validate({ token, window: 1 }) !== null` for the credential's secret. -/
  totpValidate : String → Int → String → Bool
  ldapAuthenticate : UserFederation → String → String → Bool
  ldapSearchUser : UserFederation → String → Option LdapUser
  /-- `new URL(text)` does not throw. -/
  isUrl : String → Bool
  /-- The enabled token-enrichment plugins. -/
  enrichers : List (Claims → User → String → Option Claims)
  /-- `SMS_REALM_HOURLY_LIMIT`. -/
  smsRealmHourlyLimit : Int

/-- Transparent externals, for runs on concrete inputs: a hash is the text itself. -/
def Deps.transparent : Deps where
  baseUrl := "http://localhost:3000"
  argon2Verify := fun hash password => some (hash == password)
  hashPassword := id
  sha256Text := id
  hmac := fun purpose data => purpose ++ ":" ++ data
  encrypt := id
  decrypt := some
  toLowerCase := id
  toISOString := toString
  computeAtHash := fun _ => "at_hash"
  computeChash := fun _ => "c_hash"
  totpValidate := fun secret _ code => secret == code
  ldapAuthenticate := fun _ _ _ => false
  ldapSearchUser := fun _ _ => none
  isUrl := fun _ => true
  enrichers := []
  smsRealmHourlyLimit := 1000

def maxPasswordLength : Nat := 1024

def Deps.verifyPassword (d : Deps) (hash password : String) : Option Bool :=
  if Text.utf16Length password.toList > maxPasswordLength then some false
  else d.argon2Verify hash password

def Deps.issuer (d : Deps) (realm : Realm) : String :=
  d.baseUrl ++ "/realms/" ++ realm.name

end Idenplane
