import Idenplane.BruteForce.Lockout
import Idenplane.Lib.Focus

/-! # Signing in with a passkey

A request for options stores a challenge under a key: the user who was named, or the realm when
nobody was.  One challenge waits under a key, and the next one replaces it.  An assertion takes the
challenge of the credential's user or else that of the realm, and is then verified against it and
against the counter that was read at the start.

The verification of the assertion and the origin it has to come from belong to the library and are
parameters; what calls do is noted in the history.
-/

namespace Idenplane.WebAuthn

open Atomic Auth Admin

structure WebAuthnRealm extends Realm where
  webAuthnRpId : Option String := none
  webAuthnUserVerificationRequired : Bool := false
  deriving DecidableEq

structure Credential extends WebAuthnCredential where
  id : Nat
  publicKey : String
  counter : Nat := 0
  transports : List String := []
  deriving DecidableEq

inductive ChallengeType where
  | registration
  | authentication
  deriving DecidableEq

/-- The `data` column of a pending action that holds a challenge. -/
structure ChallengeData where
  key : String
  realmId : Nat
  challenge : Nat
  deriving DecidableEq

structure Challenge where
  id : Nat
  tokenHash : String
  type : String
  data : ChallengeData
  expiresAt : Int
  deriving DecidableEq

structure AuthenticationResponse where
  id : String
  /-- The challenge that `clientDataJSON` names. -/
  challenge : Nat
  /-- The signature counter of `authenticatorData`. -/
  signCount : Nat
  /-- Type, origin, relying party, flags and signature. -/
  signed : String
  deriving DecidableEq

structure VerifyOptions where
  response : AuthenticationResponse
  expectedChallenge : Nat
  (expectedOrigin expectedRPID credentialId publicKey : String)
  counter : Nat
  transports : List String
  requireUserVerification : Bool

structure Verification where
  verified : Bool
  newCounter : Nat

structure Library where
  /-- `@simplewebauthn/server`; the error is the message of an exception. -/
  verifyAuthenticationResponse : VerifyOptions → Except String Verification
  /-- The origin of `BASE_URL` with the relying party for its host. -/
  getOrigin : String → String

/-- What the library says of its verification: a verified assertion answers the challenge it was
expected to answer, and the new counter is the one that the authenticator signed. -/
structure Library.Documented (library : Library) : Prop where
  challenge : ∀ options verification,
    library.verifyAuthenticationResponse options = .ok verification → verification.verified = true →
      options.response.challenge = options.expectedChallenge
  counter : ∀ options verification,
    library.verifyAuthenticationResponse options = .ok verification → verification.verified = true →
      verification.newCounter = options.response.signCount

inductive Event where
  | drawn (req : Nat) (challenge : Nat)
  | began (req : Nat)
  /-- The challenges under the hash were deleted, to make room for a new one. -/
  | replaced (req : Nat) (tokenHash : String)
  | issued (req : Nat) (challenge : Challenge)
  | taken (req : Nat) (challenge : Challenge)
  /-- The assertion was accepted for the credential as the call had read it. -/
  | accepted (req : Nat) (cred : Credential) (newCounter : Nat)
  deriving DecidableEq

structure World where
  store : Store
  credentials : List Credential := []
  pendingActions : List Challenge := []
  supply : Nat := 0
  log : List Event := []

abbrev Act (α : Type) := Prog World Failure α

def World.now (w : World) : Int := w.store.now

def note (event : Event) (w : World) : World := { w with log := event :: w.log }

def getRpId (realm : WebAuthnRealm) : String := realm.webAuthnRpId.getD "localhost"

def actionType (type : ChallengeType) : String :=
  match type with
  | .registration => "webauthn_registration_challenge"
  | .authentication => "webauthn_authentication_challenge"

def userKey (userId : Nat) : String := toString userId

def realmKey (realmId : Nat) : String := "realm:" ++ toString realmId

section Challenges

variable (deps : Deps) (req : Nat)

def challengeHash (key : String) (realmId : Nat) (type : ChallengeType) : String :=
  deps.sha256Text (key ++ ":" ++ toString realmId ++ ":" ++ actionType type)

def challengesReplaced (tokenHash : String) (w : World) : World :=
  note (.replaced req tokenHash)
    { w with pendingActions := w.pendingActions.filter (·.tokenHash ≠ tokenHash) }

def newAction (tokenHash : String) (type : ChallengeType) (data : ChallengeData) (expiresAt : Int)
    (w : World) : Challenge where
  id := w.supply
  tokenHash := tokenHash
  type := actionType type
  data := data
  expiresAt := expiresAt

def challengeCreated (tokenHash : String) (type : ChallengeType) (data : ChallengeData)
    (expiresAt : Int) (w : World) : Bool × World :=
  if w.pendingActions.any (·.tokenHash = tokenHash) then (false, w)
  else
    (true, note (.issued req (newAction tokenHash type data expiresAt w))
      { w with
        pendingActions := newAction tokenHash type data expiresAt w :: w.pendingActions
        supply := w.supply + 1 })

def storeWebAuthnChallenge (key : String) (realmId : Nat) (type : ChallengeType)
    (challenge : Nat) : Act Unit := do
  let tokenHash := challengeHash deps key realmId type
  modify (challengesReplaced req tokenHash)
  let now ← read World.now
  let created ← atomic (challengeCreated req tokenHash type
    { key := key, realmId := realmId, challenge := challenge } (now + 5 * 60 * 1000))
  require created .internal

def findChallenge (tokenHash : String) (w : World) : Option Challenge :=
  w.pendingActions.find? (·.tokenHash = tokenHash)

/-- `delete({ where: { id } })`, which fails when there is no such row. -/
def challengeTaken (action : Challenge) (w : World) : Bool × World :=
  if w.pendingActions.any (·.id = action.id) then
    (true, note (.taken req action)
      { w with pendingActions := w.pendingActions.filter (·.id ≠ action.id) })
  else (false, w)

def deleteChallenge (action : Challenge) : Act Unit := do
  let deleted ← atomic (challengeTaken req action)
  require deleted .internal

def consumeWebAuthnChallenge (key : String) (realmId : Nat) (type : ChallengeType) :
    Act (Option Nat) := do
  let found ← read (findChallenge (challengeHash deps key realmId type))
  match found.filter (·.type = actionType type) with
  | none => pure none
  | some action => do
    let now ← read World.now
    if action.expiresAt < now then do
      deleteChallenge req action
      pure none
    else do
      deleteChallenge req action
      pure (some action.data.challenge)

end Challenges

structure AllowedCredential where
  id : String
  transports : List String
  deriving DecidableEq

structure AuthenticationOptions where
  challenge : Nat
  rpId : String
  allowCredentials : Option (List AllowedCredential)
  userVerification : String
  deriving DecidableEq

def notEnabled : Failure := forbidden "WebAuthn is not enabled for this realm"

def userCredentials (userId realmId : Nat) (w : World) : List Credential :=
  w.credentials.filter fun cred =>
    cred.userId = userId && cred.realmId = realmId

def allowedCredentials (realm : WebAuthnRealm) : Option Nat → Act (Option (List AllowedCredential))
  | none => pure none
  | some userId => do
    let found ← read fun w =>
      (findUserById userId w.store).filter (·.realmId = realm.id)
    require found.isSome (notFound ("User '" ++ toString userId ++ "' not found in realm"))
    let credentials ← read (userCredentials userId realm.id)
    if credentials.isEmpty then pure none
    else
      pure (some (credentials.map fun cred =>
        { id := cred.credentialId, transports := cred.transports }))

def challengeDrawn (req : Nat) (w : World) : Nat × World :=
  (w.supply, note (.drawn req w.supply) { w with supply := w.supply + 1 })

def generateAuthenticationOptions (deps : Deps) (req : Nat) (realm : WebAuthnRealm)
    (userId : Option Nat) : Act AuthenticationOptions := do
  require realm.webAuthnEnabled notEnabled
  let allowCredentials ← allowedCredentials realm userId
  let challenge ← atomic (challengeDrawn req)
  let challengeKey := (userId.map userKey).getD (realmKey realm.id)
  storeWebAuthnChallenge deps req challengeKey realm.id .authentication challenge
  pure {
    challenge := challenge
    rpId := getRpId realm
    allowCredentials := allowCredentials
    userVerification := if realm.webAuthnUserVerificationRequired then "required" else "preferred" }

def findUserByUsername (realmId : Nat) (username : String) (s : Store) : Option User :=
  s.users.find? fun user => user.realmId = realmId && user.username = username

/-- `POST webauthn/authenticate/options`. -/
def startAuthentication (deps : Deps) (req : Nat) (realm : WebAuthnRealm)
    (username : Option String) : Act AuthenticationOptions :=
  match given username with
  | some username => do
    let user ← read fun w => findUserByUsername realm.id username w.store
    generateAuthenticationOptions deps req realm (user.map (·.id))
  | none => generateAuthenticationOptions deps req realm none

/-- The credential with its user, which the database keeps beside it. -/
def findCredential (credentialId : String) (w : World) : Option (Credential × User) := do
  let cred ← w.credentials.find? (·.credentialId = credentialId)
  let user ← findUserById cred.userId w.store
  pure (cred, user)

def credentialFound (req : Nat) (credentialId : String) (w : World) :
    Option (Credential × User) × World :=
  (findCredential credentialId w, note (.began req) w)

def recordWebAuthnFailure (realm : WebAuthnRealm) (userId : Nat) : Act Unit :=
  (BruteForce.recordWebAuthnFailure realm.toRealm userId).focus World.store
    fun store w => { w with store := store }

def counterRollback : Failure := badRequest "Counter rollback detected"

/-- `update({ where: { id }, data: { counter } })`, which fails when there is no such row. -/
def counterUpdated (req : Nat) (cred : Credential) (newCounter : Nat) (w : World) : Bool × World :=
  if w.credentials.any (·.id = cred.id) then
    (true, note (.accepted req cred newCounter)
      { w with
        credentials := w.credentials.map fun row =>
          if row.id = cred.id then { row with counter := newCounter } else row })
  else (false, w)

section Assertions

variable (deps : Deps) (library : Library) (req : Nat) (realm : WebAuthnRealm)

def verifyOptions (response : AuthenticationResponse) (cred : Credential)
    (expectedChallenge : Nat) : VerifyOptions where
  response := response
  expectedChallenge := expectedChallenge
  expectedOrigin := library.getOrigin (getRpId realm)
  expectedRPID := getRpId realm
  credentialId := cred.credentialId
  publicKey := cred.publicKey
  counter := cred.counter
  transports := cred.transports
  requireUserVerification := realm.webAuthnUserVerificationRequired

def expectChallenge (userId : Nat) : Act Nat := do
  let own ← consumeWebAuthnChallenge deps req (userKey userId) realm.id .authentication
  match own with
  | some challenge => pure challenge
  | none => do
    let shared ← consumeWebAuthnChallenge deps req (realmKey realm.id) realm.id .authentication
    orFail shared (badRequest "Authentication challenge expired or not found. Please try again.")

def checkAssertion (response : AuthenticationResponse) (cred : Credential)
    (expectedChallenge : Nat) : Act Nat :=
  match library.verifyAuthenticationResponse
      (verifyOptions library realm response cred expectedChallenge) with
  | .error message => do
    recordWebAuthnFailure realm cred.userId
    .fail (badRequest ("Authentication verification failed: " ++ message))
  | .ok verification =>
    if verification.verified then pure verification.newCounter
    else do
      recordWebAuthnFailure realm cred.userId
      .fail (badRequest "Authentication verification failed")

def recordCounter (cred : Credential) (newCounter : Nat) : Act Unit := do
  require (!decide (newCounter ≤ cred.counter)) counterRollback
  let updated ← atomic (counterUpdated req cred newCounter)
  require updated .internal

def verifyAuthentication (response : AuthenticationResponse) : Act (User × Credential) := do
  require realm.webAuthnEnabled notEnabled
  let found ← atomic (credentialFound req response.id)
  let (cred, user) ← orFail found (notFound "Passkey not found")
  require (cred.realmId = realm.id) (forbidden "Passkey does not belong to this realm")
  let expectedChallenge ← expectChallenge deps req realm cred.userId
  let newCounter ← checkAssertion library realm response cred expectedChallenge
  recordCounter req cred newCounter
  pure (user, cred)

end Assertions

end Idenplane.WebAuthn
