import Idenplane.Admin.Auth
import Idenplane.Broker.UserInfo
import Idenplane.Registration.Service

/-! # Linking identities to users -/

namespace Idenplane.Broker

open Atomic Auth Admin Registration

variable (realm : RegistrationRealm) (idp : IdentityProvider) (external : ExternalUserInfo)

def findIdentity (w : World) : Option FederatedIdentity :=
  w.federatedIdentities.find? fun identity =>
    identity.identityProviderId = idp.id && identity.externalUserId = external.sub

def findLinked (w : World) : Option User :=
  (findIdentity idp external w).bind fun identity => findUserById identity.userId w.store

def assertsAddress : Bool :=
  external.email.isSome && idp.trustEmail && external.emailVerified = some true

/-- `user.update` with what the provider says; addresses are unique in a realm. -/
def profileSynced (userId : Nat) (w : World) : Bool × World :=
  let taken := w.store.users.any fun user =>
    user.id ≠ userId && user.realmId = realm.id && external.email.isSome &&
      user.email = external.email
  if taken then (false, w)
  else
    w.updateRow userId
      (fun user => { user with
        email := external.email.or user.email
        firstName := external.givenName.or user.firstName
        lastName := external.familyName.or user.lastName })
      fun row => .synced row external.email (assertsAddress idp external)

/-- `federatedIdentity.create`: a provider knows a subject once, and a user is known to it
once. -/
def identityCreated (userId : Nat) (kind : LinkKind) (w : World) : Bool × World :=
  let taken := w.federatedIdentities.any fun identity =>
    identity.identityProviderId = idp.id &&
      (identity.externalUserId = external.sub || identity.userId = userId)
  if taken || !w.store.users.any (·.id = userId) then (false, w)
  else
    (true, { w with
      federatedIdentities :=
        { userId := userId, identityProviderId := idp.id, externalUserId := external.sub,
          externalUsername := external.preferredUsername, externalEmail := external.email } ::
        w.federatedIdentities
      log := .linked idp.id external.sub userId kind :: w.log })

/-- `external.preferredUsername ?? external.email?.split('@')[0] ?? alias-sub`. -/
def usernameOf : String :=
  match external.preferredUsername, external.email with
  | some username, _ => username
  | none, some email => String.ofList ((Text.split '@' email.toList).headD [])
  | none, none => idp.alias_ ++ "-" ++ external.sub

def newUser (s : Store) : User where
  id := s.supply
  realmId := realm.id
  username := usernameOf idp external
  email := external.email
  emailVerified := idp.trustEmail && external.emailVerified.getD false
  firstName := external.givenName
  lastName := external.familyName

/-- `user.create`; names and addresses are unique in a realm. -/
def userProvisioned (w : World) : Option User × World :=
  if (findUser realm.id (usernameOf idp external) w.store).isSome ||
      emailTaken realm.toRealm external.email w.store then (none, w)
  else
    let user := newUser realm idp external w.store
    (some user, w.write
      { w.store with supply := w.store.supply + 1, users := user :: w.store.users }
      (.provisioned user))

/-- Case C of `linkOrCreateUser`. -/
def createUser : Run User := do
  require (!idp.linkOnly) (unauthorized
    "No matching user found and identity provider is configured as link-only")
  let created ← atomic (userProvisioned realm idp external)
  let user ← orFail created .internal
  let linked ← atomic (identityCreated idp external user.id .created)
  require linked .internal
  pure user

/-- Case B: only an address that the provider says it verified may claim an account. -/
def claimUser : Run (Option User) :=
  match external.email with
  | some email =>
    if email != "" && idp.trustEmail && external.emailVerified = some true then do
      let existing ← onStore (read fun s => s.users.find? fun user =>
        user.realmId = realm.id && user.email = some email)
      match existing with
      | none => pure none
      | some existingUser => do
        let linked ← atomic
          (identityCreated idp external existingUser.id (.byEmail email existingUser))
        require linked .internal
        pure (some existingUser)
    else pure none
  | none => pure none

/-- Case A: the profile of a user who is linked may be copied. -/
def syncUser (user : User) : Run User :=
  if idp.syncUserProfile then do
    let synced ← atomic (profileSynced realm idp external user.id)
    require synced .internal
    pure user
  else pure user

def linkOrCreateUser : Run User := do
  let existingLink ← read (findLinked idp external)
  match existingLink with
  | some user => syncUser realm idp external user
  | none => do
    let claimed ← claimUser realm idp external
    match claimed with
    | some user => pure user
    | none => createUser realm idp external

/-- The part of `handleCallback` after the code has been exchanged. -/
def brokerLogin (rt : Js.Runtime) (hostname : String → Option String) (answers : Answers) :
    Run User := do
  let external ← orFail (fetchExternalUserInfo rt hostname idp answers) .internal
  linkOrCreateUser realm idp external

end Idenplane.Broker
