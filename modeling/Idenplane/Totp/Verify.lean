import Idenplane.Auth.Mfa

/-! # One-time codes of authenticators, on several servers

`verifyTotp` with all the places where a used code is remembered: a table of the database, a
Redis that may come and go, and the memory of each server.  A call is one sequence of atomic
steps, and belongs to one server.

The histories at the end of the state are not the program's.  They say which calls are between
their look-up and their record, and which codes were accepted when.
-/

namespace Idenplane.Totp

open Atomic

structure Use where
  request : Nat
  userId : Nat
  code : String
  deriving DecidableEq

/-- The call accepted the code at the time `at_`. -/
structure Acceptance extends Use where
  at_ : Int
  deriving DecidableEq

structure Cluster where
  database : Store
  databaseUp : Bool := true
  /-- Whether a server has a connection to Redis. -/
  redisAvailable : Nat → Bool := fun _ => false
  /-- Whether Redis answers on it. -/
  redisAnswers : Bool := true
  /-- The keys of Redis and when they expire. -/
  redis : List (String × Int) := []
  /-- `usedTotpCodes` of every server. -/
  memory : Nat → String → Option Int := fun _ _ => none
  lookups : List Use := []
  /-- The look-ups that an expired entry in memory took the place of. -/
  skipped : List Use := []
  /-- The calls that did not find their code, and have neither refused nor recorded it. -/
  inFlight : List Use := []
  accepted : List Acceptance := []

abbrev Op (α : Type) := Prog Cluster Failure α

def Cluster.now (s : Cluster) : Int := s.database.now

def usedKey (userId : Nat) (code : String) : String :=
  "totp:used:" ++ toString userId ++ ":" ++ code

/-- `redis.exists`; an error counts as no. -/
def redisExists (server : Nat) (key : String) (s : Cluster) : Bool :=
  s.redisAvailable server && s.redisAnswers && s.redis.any fun e => e.1 = key && s.now < e.2

/-- `redis.set` with a time to live, and whether it was stored. -/
def redisSet (server : Nat) (key : String) (s : Cluster) : Bool × Cluster :=
  if s.redisAvailable server && s.redisAnswers then
    (true, { s with redis :=
      (key, s.now + Auth.TOTP_USED_CODE_TTL_SECONDS * 1000) :: s.redis.filter (·.1 ≠ key) })
  else (false, s)

def remember (server : Nat) (key : String) (expiry : Option Int) (s : Cluster) : Cluster :=
  { s with memory := fun other name =>
      if other = server ∧ name = key then expiry else s.memory other name }

/-- What the server itself remembers.  An expired entry is dropped, and counts as unused. -/
def consultMemory (server : Nat) (use : Use) (s : Cluster) : Option Bool × Cluster :=
  match s.memory server (usedKey use.userId use.code) with
  | none => (none, s)
  | some expiry =>
    if expiry < s.now then
      (some false, { remember server (usedKey use.userId use.code) none s with
        skipped := use :: s.skipped, inFlight := use :: s.inFlight })
    else (some true, s)

section Service

variable (deps : Deps)

/-- `usedTotpCode.findFirst`; an error counts as no. -/
def lookUp (use : Use) (s : Cluster) : Bool × Cluster :=
  let found := s.databaseUp && Auth.isTotpCodeUsed deps use.userId use.code s.database
  (found, { s with
    lookups := use :: s.lookups
    inFlight := if found then s.inFlight else use :: s.inFlight })

def isTotpCodeUsed (server : Nat) (use : Use) : Op Bool := do
  let cached ← read (redisExists server (usedKey use.userId use.code))
  if cached then pure true
  else
    let recalled ← atomic (consultMemory server use)
    match recalled with
    | some used => pure used
    | none =>
      let found ← atomic (lookUp deps use)
      if found then
        let _ ← atomic (redisSet server (usedKey use.userId use.code))
        pure true
      else pure false

/-- `usedTotpCode.create`; an error is logged and no more. -/
def record (use : Use) (expiresAt : Int) (s : Cluster) : Cluster :=
  { s with
    inFlight := s.inFlight.filter (· ≠ use)
    database := if s.databaseUp then
        { s.database with usedTotpCodes :=
            { userId := use.userId, codeHash := deps.sha256Text use.code, expiresAt := expiresAt } ::
              s.database.usedTotpCodes }
      else s.database }

def markTotpCodeUsed (server : Nat) (use : Use) : Op Unit := do
  let now ← read Cluster.now
  let expiresAt := now + Auth.TOTP_USED_CODE_TTL_SECONDS * 1000
  modify (record deps use expiresAt)
  let stored ← atomic (redisSet server (usedKey use.userId use.code))
  if stored then pure ()
  else modify (remember server (usedKey use.userId use.code) (some expiresAt))

def acceptedBy (use : Use) (s : Cluster) : Cluster :=
  { s with accepted := { toUse := use, at_ := s.now } :: s.accepted }

def refusedBy (use : Use) (s : Cluster) : Cluster :=
  { s with inFlight := s.inFlight.filter (· ≠ use) }

/-- `totp.validate` with a window of one. -/
def validate (use : Use) (secretKey : String) (s : Cluster) : Bool × Cluster :=
  if deps.totpValidate secretKey s.now use.code then (true, acceptedBy use s)
  else (false, refusedBy use s)

def verifyTotp (server : Nat) (use : Use) : Op Bool := do
  let found ← read fun s =>
    if s.databaseUp then
      some (s.database.userCredentials.find? fun c => c.userId = use.userId && c.type = .totp)
    else none
  let cred ← orFail found .internal
  match cred with
  | none => pure false
  | some cred =>
    if !cred.verified then pure false
    else
      let used ← isTotpCodeUsed deps server use
      if used then pure false
      else
        let valid ← atomic (validate deps use cred.secretKey)
        if valid then
          markTotpCodeUsed deps server use
          pure true
        else pure false

end Service

end Idenplane.Totp
