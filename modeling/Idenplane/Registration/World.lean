import Idenplane.Lib.Parts
import Idenplane.Passwords.SelfService

/-! # Accounts

What the services that open, verify, approve and link accounts share: the store, the tables that
only they use, and a record of what was written about accounts. -/

namespace Idenplane.Registration

open Atomic Auth Admin Passwords

structure RegistrationRealm extends Realm where
  allowedEmailDomains : List String := []
  termsOfServiceUrl : Option String := none
  captchaEnabled : Bool := false
  captchaProvider : Option String := none

structure FederatedIdentity where
  userId : Nat
  identityProviderId : Nat
  externalUserId : String
  (externalUsername externalEmail : Option String := none)
  deriving DecidableEq

structure Organization where
  id : Nat
  realmId : Nat
  slug : String
  deriving DecidableEq

structure OrganizationInvitation where
  id : Nat
  organizationId : Nat
  email : String
  role : String := "member"
  token : Sha256
  expiresAt : Int
  acceptedAt : Option Int := none
  deriving DecidableEq

structure OrganizationMember where
  organizationId : Nat
  userId : Nat
  role : String := "member"
  deriving DecidableEq

inductive LinkKind where
  | created
  /-- By an address that the provider calls verified; the row is the user's before. -/
  | byEmail (email : String) (row : User)
  deriving DecidableEq

/-- What is written about accounts.  A row is the one that the write found. -/
inductive Event where
  /-- The form or the API opened the account, which is `pending` when it awaits approval. -/
  | registered (userId : Nat) (pending : Bool)
  /-- `verifyEmail` looked the user up. -/
  | verifying (userId : Nat) (enabled : Bool)
  /-- `verifyEmail` enabled the user. -/
  | reenabled (userId : Nat)
  | approved (userId : Nat)
  /-- `rejectRegistration` looked the user up. -/
  | rejecting (call userId : Nat)
  | rejected (call userId : Nat)
  | updated (row : User) (dto : UpdateUserDto)
  /-- A token for the address. -/
  | issued (token userId : Nat) (address : String)
  | redeemed (token : Nat) (row : User)
  /-- The broker opened the account for what the provider says. -/
  | provisioned (user : User)
  /-- The broker copied the provider's profile; `asserted` when a trusted provider calls the
  address verified. -/
  | synced (row : User) (email : Option String) (asserted : Bool)
  | linked (providerId : Nat) (subject : String) (userId : Nat) (kind : LinkKind)

structure World where
  store : Store
  federatedIdentities : List FederatedIdentity := []
  organizations : List Organization := []
  invitations : List OrganizationInvitation := []
  members : List OrganizationMember := []
  log : List Event := []

abbrev Run (α : Type) := Prog World Failure α

def storePart : Part World Store where
  get := World.store
  put store w := { w with store := store }
  get_put _ _ := rfl

/-- An operation on the common tables. -/
def onStore {α : Type} (operation : Op α) : Run α := operation.onPart storePart

def World.write (store : Store) (event : Event) (w : World) : World :=
  { w with store := store, log := event :: w.log }

def World.note (event : Event) (w : World) : World :=
  { w with log := event :: w.log }

/-- The update of a user who has to be there, with its entry about the row that it finds. -/
def World.updateRow (userId : Nat) (change : User → User) (e : User → Event) (w : World) :
    Bool × World :=
  match findUserById userId w.store with
  | none => (false, w)
  | some row => (true, w.write (Store.updateUser w.store userId change) (e row))

end Idenplane.Registration
