import Idenplane.Authorization.Conditions
import Idenplane.Deps
import Idenplane.Lib.Base64
import Idenplane.Lib.Numerals
import Mathlib.Data.Rat.Cast.Defs

/-! # Passwords of other systems

What the importers keep of the password of a user, and `PasswordMigrationService`, which verifies
it.  The functions that derive keys are arbitrary. -/

namespace Idenplane.Migration

open Base64 Authorization Text String

structure Kdfs where
  /-- Algorithm, password, salt, iterations, number of bytes. -/
  derive : String → String → List UInt8 → Nat → Nat → List UInt8
  length : ∀ algorithm password salt iterations size,
    (derive algorithm password salt iterations size).length = size
  /-- `argon2.verify(hash, password)`. -/
  argon2Verify : String → String → Option Bool
  /-- `bcryptjs.compare(password, hash)`. -/
  bcryptCompare : String → String → Option Bool

def isCount (iterations : Int) : Bool := 1 ≤ iterations && iterations ≤ 2147483647

section

variable (kdfs : Kdfs)

/-- It throws when it is asked for no bytes, too. -/
def pbkdf2Sync (password : String) (salt : List UInt8) (iterations : Option Int) (size : Nat) :
    Option (List UInt8) :=
  match iterations with
  | none => none
  | some iterations =>
    if isCount iterations && size ≠ 0 then
      some (kdfs.derive "pbkdf2-sha256" password salt iterations.toNat size)
    else none

def derivedEquals (plaintext : String) (iterations : Option Int) (salt hash : List Char) : Bool :=
  match pbkdf2Sync kdfs plaintext (decode salt) iterations (decode hash).length with
  | some derived => derived = decode hash
  | none => false

def verifyPbkdf2 (plaintext storedHash : String) : Bool :=
  match split '$' storedHash.toList with
  | [iterations, salt, hash] =>
    derivedEquals kdfs plaintext (parseDecimal iterations) salt hash
  | _ =>
    match split ':' storedHash.toList with
    | [salt, hash] => derivedEquals kdfs plaintext (some 27500) salt hash
    | _ => false

def verifyPassword (hash password : String) : Option Bool :=
  if utf16Length password.toList > maxPasswordLength then some false
  else kdfs.argon2Verify hash password

/-- An exception is no answer. -/
def verifyMigratedPassword (plaintext storedHash algorithm : String) : Option Bool :=
  if algorithm = "argon2" then verifyPassword kdfs storedHash plaintext
  else if algorithm = "bcrypt" then kdfs.bcryptCompare plaintext storedHash
  else if algorithm = "pbkdf2-sha256" then some (verifyPbkdf2 kdfs plaintext storedHash)
  else some false

end

def decimal (n : Nat) : String := ofList (Numerals.numeral 10 n)

/-- A number of an export with its text `${number}`.  Natural numbers below 10²¹ are written in
decimal digits. -/
structure Number where
  value : ℚ
  text : String
  plain : ∀ n : Nat, value = n → n < 10 ^ 21 → text = decimal n

def Number.ofNat (n : Nat) : Number where
  value := n
  text := decimal n
  plain m same _ := by rw [Nat.cast_injective same]

structure KeycloakCredential where
  type : String := "password"
  (value hashedSaltedValue salt : Option String := none)
  hashIterations : Option Number := none
  algorithm : Option String := none

structure Extracted where
  hash : Option String := none
  algorithm : String := "argon2"
  needsHashing : Bool := false
  deriving DecidableEq

def extractKeycloakPassword (credentials : List KeycloakCredential) : Extracted :=
  match credentials.find? (·.type = "password") with
  | none => {}
  | some passwordCred =>
    match given passwordCred.hashedSaltedValue, given passwordCred.salt with
    | some hashedSaltedValue, some salt =>
      let iterations := passwordCred.hashIterations.getD (.ofNat 27500)
      { hash := some (iterations.text ++ "$" ++ salt ++ "$" ++ hashedSaltedValue)
        algorithm := "pbkdf2-sha256" }
    | _, _ =>
      match given passwordCred.value with
      | some value => { hash := some value, needsHashing := true }
      | none => {}

def utf8 (text : List Char) : List UInt8 := text.flatMap utf8EncodeChar

def ofDjangoParts : List (List Char) → Extracted
  | [_, iterations, saltPlain, hashB64] =>
    let saltBase64 := encode (utf8 saltPlain)
    { hash := some (ofList (iterations ++ '$' :: (saltBase64 ++ '$' :: hashB64)))
      algorithm := "pbkdf2-sha256" }
  | _ => {}

def extractAuthentikPassword (password : Option String) : Extracted :=
  match given password with
  | none => {}
  | some raw =>
    if "argon2$argon2".toList.isPrefixOf raw.toList then
      { hash := some (ofList (raw.toList.drop 6)) }
    else if "pbkdf2_sha256$".toList.isPrefixOf raw.toList then
      ofDjangoParts (split '$' raw.toList)
    else {}

structure Request where
  algorithm : String
  salt : List UInt8
  iterations : Nat
  hash : List UInt8
  deriving DecidableEq

def Meets (kdfs : Kdfs) (password : String) : Option Request → Prop
  | none => False
  | some req =>
    kdfs.derive req.algorithm password req.salt req.iterations req.hash.length = req.hash

def requestOf (iterations : Option Int) (salt hash : List Char) : Option Request :=
  (iterations.filter fun iterations => isCount iterations && decode hash ≠ []).map
    fun iterations =>
      ⟨"pbkdf2-sha256", decode salt, iterations.toNat, decode hash⟩

/-- What `verifyPbkdf2` makes of a stored text. -/
def readBack (stored : List Char) : Option Request :=
  match split '$' stored with
  | [iterations, salt, hash] => requestOf (parseDecimal iterations) salt hash
  | _ =>
    match split ':' stored with
    | [salt, hash] => requestOf (some 27500) salt hash
    | _ => none

variable {kdfs : Kdfs} {pw : String}

theorem derivedEquals_iff {its : Option Int} {salt hash : List Char} :
    derivedEquals kdfs pw its salt hash = true ↔ Meets kdfs pw (requestOf its salt hash) := by
  cases its with
  | none => simp [derivedEquals, pbkdf2Sync, requestOf, Meets]
  | some its =>
    by_cases asks : isCount its = true ∧ decode hash ≠ []
    · simp [derivedEquals, pbkdf2Sync, requestOf, Meets, asks, Option.filter]
    · have derived : pbkdf2Sync kdfs pw (decode salt) (some its) (decode hash).length = none := by
        simpa [pbkdf2Sync] using asks
      have asked : requestOf (some its) salt hash = none := by
        simpa [requestOf, Option.filter_eq_none_iff] using asks
      rw [derivedEquals, derived, asked]
      simp [Meets]

theorem verifyPbkdf2_iff {row : String} :
    verifyPbkdf2 kdfs pw row = true ↔ Meets kdfs pw (readBack row.toList) := by
  unfold verifyPbkdf2 readBack
  split
  · exact derivedEquals_iff
  · split
    · exact derivedEquals_iff
    · simp [Meets]

/-- Functions that answer one request, and every other one with the same byte again and again. -/
def answering (req : Request) (byte : UInt8) : Kdfs where
  derive algorithm _ salt iterations size :=
    if algorithm = req.algorithm ∧ salt = req.salt ∧ iterations = req.iterations ∧
        size = req.hash.length then
      req.hash
    else List.replicate size byte
  length := by
    intro algorithm _ salt iterations size
    split
    case isTrue same => exact same.2.2.2.symm
    case isFalse => exact List.length_replicate
  argon2Verify _ _ := none
  bcryptCompare _ _ := none

theorem answering_meets (req : Request) (byte : UInt8) :
    Meets (answering req byte) pw (some req) := by
  simp [Meets, answering]

/-- No other request is met by a byte that its hash does not begin with. -/
theorem answering_other {req other : Request} {first byte : UInt8} {rest : List UInt8}
    (differs : req ≠ other) (isHash : other.hash = first :: rest) (isOther : byte ≠ first) :
    ¬Meets (answering req byte) pw (some other) := by
  intro meets
  simp only [Meets, answering] at meets
  split at meets
  case isTrue same =>
    obtain ⟨algorithm, salt, its, _⟩ := same
    apply differs
    obtain ⟨_, _, _, _⟩ := req
    obtain ⟨_, _, _, _⟩ := other
    simp only at algorithm salt its meets
    rw [algorithm, salt, its, meets]
  case isFalse =>
    rw [isHash, length_cons, List.replicate_succ] at meets
    exact isOther (cons.inj meets).1

theorem same_of_meets {a b : Option Request} (nonempty : ∀ req, b = some req → req.hash ≠ [])
    (same : ∀ kdfs, Meets kdfs pw a ↔ Meets kdfs pw b) : a = b := by
  cases a with
  | none =>
    cases b with
    | none => rfl
    | some req =>
      have meets := (same (answering req 0)).mpr (answering_meets req 0)
      exact meets.elim
  | some req =>
    have meets (byte : UInt8) : Meets (answering req byte) pw b :=
      (same (answering req byte)).mp (answering_meets req byte)
    cases b with
    | none => exact (meets 0).elim
    | some other =>
      by_contra differs
      have different : req ≠ other := fun equal => differs (congrArg some equal)
      obtain ⟨first, rest, isHash⟩ :=
        exists_cons_of_ne_nil (nonempty other rfl)
      have isOther : first + 1 ≠ first := by simp
      exact answering_other different isHash isOther (meets (first + 1))

end Idenplane.Migration
