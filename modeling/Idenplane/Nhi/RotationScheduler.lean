import Idenplane.Lib.Settled
import Idenplane.Nhi.Service

/-! # The rotation of credentials

`NhiRotationScheduler`, and the calls that the identities and their credentials go through.
-/

namespace Idenplane.Nhi

open Atomic Auth Nhi

def BATCH_SIZE : Nat := 50

structure DueItem where
  (credentialId nhiIdentityId policyId : Nat)
  reason : String

/-- What is open about a tick: in which order the realms, and the items of a realm, take their
steps, and the keys that are generated. -/
structure Tick where
  realms : List Nat
  items : Nat → List Nat
  newRaw : Nat → Nat → String

/-- The days are those of a clock without daylight saving. -/
def isDueForRotation (now : Int) (cred : NhiCredential) (policy : NhiCredentialPolicy) : Bool :=
  cred.rotationRequired || decide (cred.createdAt +
      (policy.rotationIntervalDays - policy.rotationBeforeDays) * (24 * 60 * 60 * 1000) ≤ now)

/-- The relation filter `nhiIdentity: { realmId }`. -/
def World.inRealm (w : World) (realm : Realm) (cred : NhiCredential) : Bool :=
  (w.identity? realm cred.nhiIdentityId).isSome

def autoRotatePolicies (realm : Realm) (w : World) : List NhiCredentialPolicy :=
  w.policies.filter fun policy =>
    policy.realmId = realm.id && policy.enabled && policy.autoRotate

def candidates (realm : Realm) (policy : NhiCredentialPolicy) (w : World) : List NhiCredential :=
  (w.credentials.filter fun cred =>
    w.inRealm realm cred && cred.credentialType = policy.credentialType &&
      !cred.revoked && cred.enabled && cred.rotatedAt.isNone).take BATCH_SIZE

def dueItem (policy : NhiCredentialPolicy) (cred : NhiCredential) : DueItem where
  credentialId := cred.id
  nhiIdentityId := cred.nhiIdentityId
  policyId := policy.id
  reason := if cred.rotationRequired then "rotation_required_flag" else "policy_threshold"

def getCredentialsDueForRotation (realm : Realm) : Call (List DueItem) := do
  let policies ← read (autoRotatePolicies realm)
  forEach (fun _ policy due => do
    let found ← read (candidates realm policy)
    let now ← read (·.now)
    pure (due ++ (found.filter (isDueForRotation now · policy)).map (dueItem policy))) 0 policies []

/-- The row of the scheduler's `findFirst`. -/
def World.rotatable? (w : World) (realm : Realm) (credentialId : Nat) : Option NhiCredential :=
  w.credentials.find? fun cred =>
    cred.id = credentialId && w.inRealm realm cred && cred.credentialType = .API_KEY && cred.live

def rotation (now : Int) (cred : NhiCredential) : NhiCredential :=
  { cred with revoked := true, revokedAt := some now, enabled := false, rotatedAt := some now }

section Scheduler

variable (deps : Deps)

/-- `rotateCredential` of the scheduler. -/
def rotateDue (realm : Realm) (credentialId : Nat) (newRaw : String) : Call Unit := do
  let oldCredential ← atomic fun w =>
    let found := w.rotatable? realm credentialId
    (found, rotationBegun found w)
  match oldCredential with
  -- Credential was already rotated or is no longer eligible
  | none => pure ()
  | some oldCredential => do
    let created ← atomic (successorCreated deps newRaw oldCredential)
    let _ ← orFail created .internal
    modify fun w => credentialUpdated credentialId (rotation w.now) w

def rotateCredentialItem (realm : Realm) (item : DueItem) (newRaw : String) : Call Unit := do
  let _ ← (rotateDue deps realm item.credentialId newRaw).attempt
  pure ()

def processRealmRotations (tick : Tick) (realm : Realm) : Call Unit := do
  let due ← getCredentialsDueForRotation realm
  Prog.allSettled (tick.items realm.id) (due.zipIdx.map fun (item, n) =>
    rotateCredentialItem deps realm item (tick.newRaw realm.id n))

def processRotations (tick : Tick) : Call Unit := do
  let realms ← read fun w => w.realms.filter (·.enabled)
  Prog.allSettled tick.realms (realms.map (processRealmRotations deps tick))

inductive Request where
  | create (realm : Realm) (dto : CreateNhiIdentityDto)
  | update (realm : Realm) (id : Nat) (dto : UpdateNhiIdentityDto)
  | suspend (realm : Realm) (id : Nat)
  | reactivate (realm : Realm) (id : Nat)
  | decommission (realm : Realm) (id : Nat)
  | createCredential (realm : Realm) (id : Nat) (dto : CreateNhiCredentialDto) (rawKey : String)
  | rotateCredential (realm : Realm) (id credentialId : Nat) (newRaw : String)
  | revokeCredential (realm : Realm) (id credentialId : Nat)
  | tick (tick : Tick)

def serve : Request → Call Unit
  | .create realm dto => do let _ ← create realm dto
  | .update realm id dto => do let _ ← update realm id dto
  | .suspend realm id => do let _ ← suspend realm id
  | .reactivate realm id => do let _ ← reactivate realm id
  | .decommission realm id => do let _ ← decommission realm id
  | .createCredential realm id dto rawKey => do let _ ← createCredential deps realm id dto rawKey
  | .rotateCredential realm id credentialId newRaw => do
    let _ ← rotateCredential deps realm id credentialId newRaw
  | .revokeCredential realm id credentialId => do
    let _ ← revokeCredential realm id credentialId
  | .tick tick => processRotations deps tick

end Scheduler

end Idenplane.Nhi
