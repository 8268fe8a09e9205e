import Idenplane.Lib.Js
import Idenplane.Scim.Filter

/-! # SCIM users and groups

Listing of the users and the groups of a realm.  The database client is a parameter: it
refuses clauses it cannot read, and of its answers only the meaning of a plain equality on
the realm's column is known.
-/

namespace Idenplane.Scim

open Js (Number)

/-- A group as a user's memberships show it, or a user as a group's members show it. -/
structure Membership where
  id : String
  name : String
  deriving DecidableEq

structure DbUserWithGroups where
  (id realmId username : String)
  (email firstName lastName : Option String)
  enabled : Bool
  federationLink : Option String
  createdAt : Int
  updatedAt : Int
  userGroups : List Membership
  deriving DecidableEq

structure DbGroupWithUserGroups where
  (id realmId name : String)
  createdAt : Int
  updatedAt : Int
  userGroups : List Membership
  deriving DecidableEq

structure ScimMeta where
  (resourceType created lastModified location : String)
  deriving DecidableEq

structure ScimUser where
  schemas : List String
  id : String
  userName : String
  (givenName familyName : Option String)
  formatted : String
  displayName : String
  emails : List String
  active : Bool
  externalId : Option String
  info : ScimMeta
  groups : List Membership
  deriving DecidableEq

structure ScimGroup where
  schemas : List String
  (id displayName externalId : String)
  info : ScimMeta
  members : List Membership
  deriving DecidableEq

structure ScimListResponse (α : Type) where
  schemas : List String
  totalResults : Nat
  startIndex : Number
  itemsPerPage : Nat
  Resources : List α

/-- The database client on one table.  A refused clause or page throws. -/
structure Prisma (ρ : Type) where
  realmId : ρ → String
  /-- The rows for which a column passes its filter. -/
  test : String → FieldFilter → Option (ρ → Bool)
  /-- The rows found, in the order asked for, from `skip` on, at most `take`. -/
  page : Number → Number → List ρ → Option (List ρ)
  test_realmId (realm : String) :
    test "realmId" (.equals (.text realm)) = some fun row => decide (realmId row = realm)

def Prisma.select {ρ : Type} (prisma : Prisma ρ) : Where → Option (ρ → Bool)
  | [] => some fun _ => true
  | (key, filter) :: rest => do
    let first ← prisma.test key filter
    let others ← prisma.select rest
    some fun row => first row && others row

structure Rendering where
  numberText : String → String
  /-- `new Date(time).toISOString()`. -/
  toISOString : Int → String
  /-- `filterScimUserAttributes`, which refuses paths through a prototype. -/
  filterScimUserAttributes : ScimUser → List String → Option ScimUser

structure ListOptions where
  (startIndex count : Option Number := none)
  filter : Option String := none
  attributes_ : List String := []

def skipOf : Number → Number
  | .nan => .nan
  | .finite number => .finite (max 0 (number - 1))
  | .infinite negative => if negative then .finite 0 else .infinite false

def takeOf : Number → Number
  | .nan => .nan
  | .finite number => .finite (min number 100)
  | .infinite negative => if negative then .infinite true else .finite 100

def emptyListResponse {α : Type} (startIndex : Number) : ScimListResponse α where
  schemas := ["urn:scim:schemas:core:1.0:ListResponse"]
  totalResults := 0
  startIndex := startIndex
  itemsPerPage := 0
  Resources := []

/-- The where-clause of a listing; none when the filter is invalid. -/
def listWhere (toPrismaWhere : String → String → Except String Where) (realmId : String)
    (filter : Option String) : Option Where :=
  match filter with
  | none => some (Where.ofRealm realmId)
  | some filter =>
    if filter = "" then some (Where.ofRealm realmId)
    else
      match toPrismaWhere filter realmId with
      | .ok clause => some ((Where.ofRealm realmId).merge clause)
      | .error _ => none

/-- `findAll` of both services.  An invalid filter finds nothing. -/
def findAll {ρ α : Type} (prisma : Prisma ρ)
    (toPrismaWhere : String → String → Except String Where) (toScim : ρ → Option α)
    (realmId : String) (options : ListOptions) (rows : List ρ) : Option (ScimListResponse α) :=
  let startIndex := options.startIndex.getD (.finite 1)
  let count := options.count.getD (.finite 100)
  match listWhere toPrismaWhere realmId options.filter with
  | none => some (emptyListResponse startIndex)
  | some clause => do
    let selected ← prisma.select clause
    let totalResults := (rows.filter selected).length
    let found ← prisma.page (skipOf startIndex) (takeOf count) (rows.filter selected)
    let resources ← found.mapM toScim
    some {
      schemas := ["urn:scim:schemas:core:1.0:ListResponse"]
      totalResults := totalResults
      startIndex := startIndex
      itemsPerPage := found.length
      Resources := resources }

section Services

variable (rendering : Rendering)

def formattedName (user : DbUserWithGroups) : String :=
  " ".intercalate (([user.firstName, user.lastName].filterMap id).filter (· ≠ ""))

def toScimUser (attributes : List String) (user : DbUserWithGroups) : Option ScimUser :=
  let scimUser : ScimUser := {
    schemas := ["urn:scim:schemas:core:1.0:User"]
    id := user.id
    userName := user.username
    givenName := user.firstName
    familyName := user.lastName
    formatted := formattedName user
    displayName := formattedName user
    emails := (user.email.filter (· ≠ "")).toList
    active := user.enabled
    externalId := user.federationLink
    info := {
      resourceType := "User"
      created := rendering.toISOString user.createdAt
      lastModified := rendering.toISOString user.updatedAt
      location := "/scim/v2/Users/" ++ user.id }
    groups := user.userGroups }
  if attributes.isEmpty then some scimUser
  else rendering.filterScimUserAttributes scimUser attributes

def toScimGroup (group : DbGroupWithUserGroups) : ScimGroup where
  schemas := ["urn:scim:schemas:core:1.0:Group"]
  id := group.id
  displayName := group.name
  externalId := group.id
  info := {
    resourceType := "GROUP"
    created := rendering.toISOString group.createdAt
    lastModified := rendering.toISOString group.updatedAt
    location := "/scim/v2/Groups/" ++ group.id }
  members := group.userGroups

def usersFindAll (prisma : Prisma DbUserWithGroups) (realmId : String) (options : ListOptions)
    (users : List DbUserWithGroups) : Option (ScimListResponse ScimUser) :=
  findAll prisma (scimFilterToPrismaWhereUser rendering.numberText)
    (toScimUser rendering options.attributes_) realmId options users

def groupsFindAll (prisma : Prisma DbGroupWithUserGroups) (realmId : String)
    (options : ListOptions) (groups : List DbGroupWithUserGroups) :
    Option (ScimListResponse ScimGroup) :=
  findAll prisma (scimFilterToPrismaWhereGroup rendering.numberText)
    (fun group => some (toScimGroup rendering group)) realmId options groups

end Services

end Idenplane.Scim
