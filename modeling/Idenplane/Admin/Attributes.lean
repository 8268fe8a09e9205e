import Idenplane.Auth.Signing

/-! # Custom attributes

`CustomAttributesService`: an administrator defines the attributes of a realm, and may map
each of them to a claim; users bring values at registration, administrators set them later.
No claim is reserved.
-/

namespace Idenplane.Admin

open Atomic Idenplane.Auth Text

def notFound (message : String) : Failure := .oauth "Not Found" message 404
def conflict (message : String) : Failure := .oauth "Conflict" message 409

/-- `CreateCustomAttributeDto` as it passed the validation of the request. -/
structure CreateCustomAttributeDto where
  name : String
  displayName : String
  type : Option String := none
  (required showOnRegistration showOnProfile : Option Bool := none)
  options : Option (List String) := none
  mapToOidcClaim : Option String := none
  sortOrder : Option Int := none

/-- `UpdateCustomAttributeDto`: what is missing stays as it is. -/
structure UpdateCustomAttributeDto where
  (displayName type : Option String := none)
  (required showOnRegistration showOnProfile : Option Bool := none)
  options : Option (List String) := none
  mapToOidcClaim : Option String := none
  sortOrder : Option Int := none

def validateOptionsForType (type : String) (options : Option (List String)) : Op Unit :=
  require (!((type = "select" || type = "multi-select") && (options.getD []).isEmpty))
    (badRequest ("Attribute type '" ++ type ++ "' requires at least one option"))

/-- `customAttribute.create`; names are unique in a realm. -/
def attributeCreated (realm : Realm) (dto : CreateCustomAttributeDto) (s : Store) :
    Option CustomAttribute × Store :=
  if s.customAttributes.any fun row => row.realmId = realm.id && row.name = dto.name then
    (none, s)
  else
    let row : CustomAttribute :=
      { id := s.supply
        realmId := realm.id
        name := dto.name
        displayName := dto.displayName
        type := dto.type.getD "text"
        required := dto.required.getD false
        showOnRegistration := dto.showOnRegistration.getD false
        showOnProfile := dto.showOnProfile.getD true
        options := dto.options
        mapToOidcClaim := dto.mapToOidcClaim
        sortOrder := dto.sortOrder.getD 0 }
    (some row, { s with
      supply := s.supply + 1, customAttributes := s.customAttributes ++ [row] })

def createAttribute (realm : Realm) (dto : CreateCustomAttributeDto) : Op CustomAttribute := do
  validateOptionsForType (dto.type.getD "text") dto.options
  let created ← atomic (attributeCreated realm dto)
  orFail created (conflict ("Attribute '" ++ dto.name ++ "' already exists in this realm"))

def findAttributeById (realm : Realm) (attributeId : Nat) : Op CustomAttribute := do
  let found ← read fun s => s.customAttributes.find? fun row =>
    row.id = attributeId && row.realmId = realm.id
  orFail found (notFound "Custom attribute not found")

def attributeUpdated (attributeId : Nat) (dto : UpdateCustomAttributeDto) (s : Store) :
    Bool × Store :=
  (s.customAttributes.any (·.id = attributeId), { s with
    customAttributes := s.customAttributes.map fun row =>
      if row.id = attributeId then
        { row with
          displayName := dto.displayName.getD row.displayName
          type := dto.type.getD row.type
          required := dto.required.getD row.required
          showOnRegistration := dto.showOnRegistration.getD row.showOnRegistration
          showOnProfile := dto.showOnProfile.getD row.showOnProfile
          options := dto.options.or row.options
          mapToOidcClaim := dto.mapToOidcClaim.or row.mapToOidcClaim
          sortOrder := dto.sortOrder.getD row.sortOrder }
      else row })

def updateAttribute (realm : Realm) (attributeId : Nat) (dto : UpdateCustomAttributeDto) :
    Op Unit := do
  let definition ← findAttributeById realm attributeId
  if truthy dto.type || dto.options.isSome then
    validateOptionsForType (dto.type.getD definition.type) dto.options
  let updated ← atomic (attributeUpdated attributeId dto)
  require updated .internal

/-- `customAttribute.delete`; the values go with the definition. -/
def attributeDeleted (attributeId : Nat) (s : Store) : Store :=
  { s with
    customAttributes := s.customAttributes.filter (·.id ≠ attributeId)
    userAttributes := s.userAttributes.filter (·.attributeId ≠ attributeId) }

def removeAttribute (realm : Realm) (attributeId : Nat) : Op Unit := do
  let _ ← findAttributeById realm attributeId
  modify (attributeDeleted attributeId)

def validateAttributeValue (d : Deps) (definition : CustomAttribute) (value : String) :
    Option String :=
  let refuse (bad : Bool) (reason : String) : Option String :=
    if bad then some ("'" ++ definition.displayName ++ "' " ++ reason) else none
  match definition.type with
  | "number" => refuse (!isNumber value) "must be a number"
  | "boolean" =>
    refuse (!(["true", "false", "1", "0", "yes", "no"].contains (d.toLowerCase value)))
      "must be a boolean value"
  | "select" =>
    match definition.options with
    | some options =>
      refuse (!options.contains value) ("must be one of: " ++ ", ".intercalate options)
    | none => none
  | "multi-select" =>
    match definition.options with
    | some options =>
      (split ',' value.toList).findSome? fun piece =>
        let selected := trim (String.ofList piece)
        refuse (!options.contains selected) ("contains invalid option: " ++ selected)
    | none => none
  | _ => refuse (value.toList.any fun c => c == '<' || c == '>')
      "must not contain HTML tags or angle brackets"

def assertUserInRealm (realmId userId : Nat) : Op Unit := do
  let found ← read fun s => s.users.any fun user =>
    user.id = userId && user.realmId = realmId
  require found (notFound "User not found")

def realmAttributes (realm : Realm) (s : Store) : List CustomAttribute :=
  s.customAttributes.filter (·.realmId = realm.id)

def checkAttribute (d : Deps) (attributes : List (String × String))
    (definition : CustomAttribute) : Option String :=
  match attributes.lookup definition.name with
  | none => none
  | some value =>
    if definition.required && trim value == "" then
      some ("Attribute '" ++ definition.displayName ++ "' is required and cannot be empty")
    else validateAttributeValue d definition value

def upsertValue (userId attributeId : Nat) (value : String) (s : Store) : Store :=
  let matched (row : UserAttribute) : Bool := row.userId = userId && row.attributeId = attributeId
  { s with userAttributes :=
      if s.userAttributes.any matched then
        s.userAttributes.map fun row => if matched row then { row with value := value } else row
      else s.userAttributes ++ [⟨userId, attributeId, value⟩] }

def upsertValues (userId : Nat) (values : List (Nat × String)) (s : Store) : Store :=
  values.foldl (fun s (attributeId, value) => upsertValue userId attributeId value s) s

def identified (definitions : List CustomAttribute) (attributes : List (String × String)) :
    List (Nat × String) :=
  attributes.filterMap fun (name, value) =>
    (definitions.find? (·.name = name)).map fun definition => (definition.id, value)

def setUserAttributes (d : Deps) (realm : Realm) (userId : Nat)
    (attributes : List (String × String)) : Op Unit := do
  assertUserInRealm realm.id userId
  let definitions ← read (realmAttributes realm)
  match attributes.find? fun (name, _) => !definitions.any (·.name = name) with
  | some (name, _) =>
    Prog.fail (badRequest ("Unknown attribute '" ++ name ++ "' for this realm"))
  | none =>
    match definitions.findSome? (checkAttribute d attributes) with
    | some message => Prog.fail (badRequest message)
    | none => modify (upsertValues userId (identified definitions attributes))

def formValue (body : List (String × String)) (definition : CustomAttribute) : String :=
  trim ((body.lookup ("attr_" ++ definition.name)).getD "")

def checkRegistration (d : Deps) (body : List (String × String))
    (definition : CustomAttribute) : Option String :=
  let value := formValue body definition
  if value = "" then
    if definition.required then some ("'" ++ definition.displayName ++ "' is required") else none
  else validateAttributeValue d definition value

/-- The transaction of creates; a value that exists makes it fail. -/
def valuesCreated (userId : Nat) (values : List (Nat × String)) (s : Store) : Bool × Store :=
  if values.any fun (attributeId, _) => s.userAttributes.any fun row =>
      row.userId = userId && row.attributeId = attributeId then (false, s)
  else
    let rows := values.map fun (attributeId, value) => ⟨userId, attributeId, value⟩
    (true, { s with userAttributes := s.userAttributes ++ rows })

def validateAndSaveRegistrationAttributes (d : Deps) (realm : Realm) (userId : Nat)
    (body : List (String × String)) : Op Unit := do
  let definitions ← read fun s =>
    (realmAttributes realm s).filter (·.showOnRegistration)
  match definitions.findSome? (checkRegistration d body) with
  | some message => Prog.fail (badRequest message)
  | none =>
    let values := (definitions.filter (formValue body · ≠ "")).map fun definition =>
      (definition.id, formValue body definition)
    if values.isEmpty then pure ()
    else do
      let created ← atomic (valuesCreated userId values)
      require created .internal

end Idenplane.Admin
