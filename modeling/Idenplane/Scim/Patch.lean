import Idenplane.Lib.Properties
import Idenplane.Lib.Table
import Idenplane.Scim.Resources

/-! # Patching a SCIM user

The operations are read one after the other into one update of the user's row.  An operation
is read only as an object of properties; its path is looked at by no one.
-/

namespace Idenplane.Scim

open Properties (Object get set)

inductive Attribute where
  | userName
  | givenName
  | familyName
  | displayName
  | emails
  | active
  | title
  | preferredLanguage
  | locale
  | timezone
  deriving DecidableEq

/-- The name of the attribute in a path, and as a key of `applyPatchValue`. -/
def Attribute.name : Attribute → String
  | userName => "userName"
  | givenName => "name.givenName"
  | familyName => "name.familyName"
  | displayName => "displayName"
  | emails => "emails"
  | active => "active"
  | title => "title"
  | preferredLanguage => "preferredLanguage"
  | locale => "locale"
  | timezone => "timezone"

def Attribute.column : Attribute → String
  | userName => "username"
  | givenName => "firstName"
  | familyName => "lastName"
  | displayName => "displayName"
  | emails => "email"
  | active => "enabled"
  | title => "title"
  | preferredLanguage => "preferredLanguage"
  | locale => "locale"
  | timezone => "timezone"

def Attribute.all : List Attribute :=
  [.userName, .givenName, .familyName, .displayName, .emails, .active, .title,
    .preferredLanguage, .locale, .timezone]

def attributeOf (key : String) : Option Attribute := Attribute.all.find? (·.name = key)

@[simp] theorem attributeOf_name (a : Attribute) : attributeOf a.name = some a := by
  cases a <;> rfl

theorem name_of_attributeOf {key : String} {a : Attribute} (known : attributeOf key = some a) :
    a.name = key := by
  simpa using find?_some known

theorem column_inj {a b : Attribute} : a.column = b.column ↔ a = b := by
  cases a <;> cases b <;> simp [Attribute.column]

structure ScimPatchOperation where
  op : String
  path : Option String
  value : Js

inductive PatchError where
  | notFound (message : String)
  /-- The database client refused the update, or reading the value threw. -/
  | thrown
  deriving DecidableEq

section Reading

variable (rt : Js.Runtime)

def findPrimary : List Js → Option (Option Js)
  | [] => some none
  | e :: rest => do
    let primary ← e.get rt "primary"
    if primary.truthy then some (some e) else findPrimary rest

def primaryEmail (first : Js) (rest : List Js) : Option Js := do
  let found ← findPrimary rt (first :: rest)
  let primary := (found.filter Js.truthy).getD first
  primary.get rt "value"

/-- One case of the switch in `applyPatchValue`. -/
def patchProperty (res : Object String Js) (key : String) (val : Js) : Option (Object String Js) :=
  match attributeOf key with
  | none => some res
  | some .userName => do
    -- The text of the name goes into a list that nothing reads.
    let _ ← val.toText rt
    some (set res "username" val)
  | some .emails =>
    match val with
    | .arr (first :: rest) => do
      let email ← primaryEmail rt first rest
      some (set res "email" email)
    | _ => some res
  | some a => some (set res a.column val)

def entriesOf : Js → List (String × Js)
  | .obj properties => properties
  | .arr items => items.mapIdx fun index item => (toString index, item)
  | _ => []

def applyPatchValue (value : Js) : Option (Object String Js) :=
  (entriesOf value).foldlM (fun res e => patchProperty rt res e.1 e.2) []

/-- `typeof value === 'object' && value !== null`. -/
def isObject : Js → Bool
  | .obj _ | .arr _ => true
  | _ => false

def assignAll (data patch : Object String Js) : Object String Js :=
  patch.foldl (fun data e => set data e.1 e.2) data

def patchOperation (updateData : Object String Js) (op : ScimPatchOperation) :
    Option (Object String Js) :=
  if op.op = "add" ∨ op.op = "replace" then
    if isObject op.value then do
      let patchData ← applyPatchValue rt op.value
      some (assignAll updateData patchData)
    else some updateData
  else some updateData

end Reading

inductive Held where
  | nothing
  | text (value : String)
  | flag (value : Bool)
  deriving DecidableEq

/-- A value as the database client takes it for a column: by itself, or as `{ set }`. -/
def scalar : Js → Option Held
  | .null => some .nothing
  | .str text => some (.text text)
  | .bool flag => some (.flag flag)
  | .obj [("set", .null)] => some .nothing
  | .obj [("set", .str text)] => some (.text text)
  | .obj [("set", .bool flag)] => some (.flag flag)
  | _ => none

def Held.required : Held → Option String
  | text value => some value
  | _ => none

def Held.nullable : Held → Option (Option String)
  | text value => some (some value)
  | nothing => some none
  | flag _ => none

def Held.boolean : Held → Option Bool
  | flag value => some value
  | _ => none

/-- The new value of a column; a property that is not there or is undefined changes nothing. -/
def readColumn {α : Type} (accepts : Held → Option α) (current : α) (property : Option Js) :
    Option α :=
  match property with
  | none | some .undefined => some current
  | some value => (scalar value).bind accepts

def userColumns : List String := ["username", "firstName", "lastName", "email", "enabled"]

def unknownColumn : String × Js → Bool
  | (_, .undefined) => false
  | (column, _) => !userColumns.contains column

open Held

def DbUserWithGroups.updated (user : DbUserWithGroups) (now : Int) (data : Object String Js) :
    Option DbUserWithGroups :=
  if data.any unknownColumn then none
  else do
    let username ← readColumn required user.username (get data "username")
    let email ← readColumn nullable user.email (get data "email")
    let firstName ← readColumn nullable user.firstName (get data "firstName")
    let lastName ← readColumn nullable user.lastName (get data "lastName")
    let enabled ← readColumn boolean user.enabled (get data "enabled")
    some { user with
      username := username
      email := email
      firstName := firstName
      lastName := lastName
      enabled := enabled
      updatedAt := now }

/-- The unique indexes on a realm and a user name, and on a realm and an address. -/
def taken (users : List DbUserWithGroups) (user : DbUserWithGroups) : Bool :=
  users.any fun other =>
    other.id != user.id && other.realmId == user.realmId &&
      (other.username == user.username || (other.email.isSome && other.email == user.email))

def updateUser (now : Int) (users : List DbUserWithGroups) (user : DbUserWithGroups)
    (data : Object String Js) : Option (List DbUserWithGroups) := do
  let new ← user.updated now data
  if taken users new then none else some (Table.replace (·.id) new users)

def findUserRow (users : List DbUserWithGroups) (realmId userId : String) :
    Option DbUserWithGroups :=
  users.find? fun user => user.id = userId && user.realmId = realmId

def usersFindById (rendering : Rendering) (users : List DbUserWithGroups)
    (realmId userId : String) : Except PatchError ScimUser :=
  match findUserRow users realmId userId with
  | none => .error (.notFound ("User '" ++ userId ++ "' not found"))
  | some user =>
    match toScimUser rendering [] user with
    | some scimUser => .ok scimUser
    | none => .error .thrown

/-- `ScimUsersService.patch`, with the users afterwards. -/
def patch (rt : Js.Runtime) (rendering : Rendering) (now : Int)
    (users : List DbUserWithGroups) (realmId userId : String)
    (operations : List ScimPatchOperation) :
    Except PatchError (List DbUserWithGroups × ScimUser) :=
  match findUserRow users realmId userId with
  | none => .error (.notFound ("User '" ++ userId ++ "' not found"))
  | some user =>
    match operations.foldlM (patchOperation rt) [] with
    | none => .error .thrown
    | some updateData =>
      match if updateData.isEmpty then some users else updateUser now users user updateData with
      | none => .error .thrown
      | some users => do
        let scimUser ← usersFindById rendering users realmId userId
        .ok (users, scimUser)

end Idenplane.Scim
