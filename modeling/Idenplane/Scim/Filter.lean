import Idenplane.Names
import Idenplane.Lib.Text

/-! # SCIM filters

A filter `attribute operator value` becomes a where-clause of the database client.  The
attribute is the caller's text: names that the mapping does not know are column names as
they stand.
-/

namespace Idenplane.Scim

inductive FilterValue where
  | text (text : String)
  | flag (flag : Bool)
  /-- `parseFloat` of the text. -/
  | number (text : String)
  deriving DecidableEq

structure FilterParseResult where
  attribute_ : String
  operator : String
  value : FilterValue
  deriving DecidableEq

/-- `\w`. -/
def isWord (c : Char) : Bool := c.isAlphanum || c = '_'

/-- What `.` does not match. -/
def isLineTerminator (c : Char) : Bool := c.val ∈ [0xa, 0xd, 0x2028, 0x2029]

def operators : List String := ["eq", "ne", "co", "sw", "ew", "gt", "ge", "lt", "le"]

/-- `/^-?\d+(\.\d+)?$/`. -/
def isNumeral (raw : List Char) : Bool :=
  let digits := match raw with
    | '-' :: rest => rest
    | rest => rest
  let whole := digits.takeWhile Char.isDigit
  !whole.isEmpty &&
    match digits.dropWhile Char.isDigit with
    | [] => true
    | '.' :: fraction => !fraction.isEmpty && fraction.all Char.isDigit
    | _ => false

def isQuoted (mark : Char) (raw : List Char) : Bool :=
  raw.head? = some mark && raw.getLast? = some mark

def parseFilterValue (raw : String) : FilterValue :=
  if raw = "true" then .flag true
  else if raw = "false" then .flag false
  else if isNumeral raw.toList then .number raw
  else if isQuoted '"' raw.toList || isQuoted (Char.ofNat 39) raw.toList then
    .text (String.ofList (raw.toList.drop 1).dropLast)
  else .text raw

/-- `/^([\w.]+)\s+(eq|ne|co|sw|ew|gt|ge|lt|le)\s+(\S.*)$/i`.  The classes of neighbouring
groups are disjoint, so there is one way to match. -/
def matchFilter (text : List Char) : Option (String × String × String) :=
  let attributeName := text.takeWhile fun c => isWord c || c = '.'
  let afterName := text.dropWhile fun c => isWord c || c = '.'
  match afterName.dropWhile Text.isSpace with
  | a :: b :: afterOperator =>
    let operator := String.ofList [a.toLower, b.toLower]
    let value := afterOperator.dropWhile Text.isSpace
    if !attributeName.isEmpty && (afterName.head?.any Text.isSpace) && operator ∈ operators &&
        (afterOperator.head?.any Text.isSpace) && !value.isEmpty &&
        !value.any isLineTerminator then
      some (String.ofList attributeName, operator, String.ofList value)
    else none
  | _ => none

def parseScimFilter (filter : String) : Except String FilterParseResult :=
  if filter = "" then .error "Invalid filter expression"
  else
    let trimmed := Text.trim filter
    match matchFilter trimmed.toList with
    | none => .error ("Invalid filter syntax: " ++ trimmed)
    | some (name, operator, rawValue) =>
      .ok {
        attribute_ := Text.trim name
        operator := operator
        value := parseFilterValue (Text.trim rawValue) }

inductive FieldFilter where
  | equals (value : FilterValue)
  | not (value : FilterValue)
  | contains (text : String)
  | startsWith (text : String)
  | endsWith (text : String)
  | gt (value : FilterValue)
  | gte (value : FilterValue)
  | lt (value : FilterValue)
  | lte (value : FilterValue)
  deriving DecidableEq

/-- An object of column filters. -/
abbrev Where := List (String × FieldFilter)

/-- `clause[key] = filter`. -/
def Where.put (clause : Where) (key : String) (filter : FieldFilter) : Where :=
  clause.filter (·.1 ≠ key) ++ [(key, filter)]

/-- `{ ...first, ...second }`. -/
def Where.merge (first second : Where) : Where :=
  second.foldl (fun clause e => clause.put e.1 e.2) first

/-- `{ realmId }`. -/
def Where.ofRealm (realmId : String) : Where := [("realmId", .equals (.text realmId))]

def attrToField : List (String × String) :=
  [("userName", "username"), ("name.givenName", "firstName"), ("name.familyName", "lastName"),
    ("displayName", "displayName"), ("emails.value", "email"), ("active", "enabled"),
    ("title", "title"), ("externalId", "federationLink")]

def nativeCode (name : String) : String := "function " ++ name ++ "() \x7b [native code] \x7d"

def inheritedNames : List (String × String) :=
  [("constructor", nativeCode "Object"), ("__proto__", "[object Object]")] ++
    ["__defineGetter__", "__defineSetter__", "__lookupGetter__", "__lookupSetter__",
      "hasOwnProperty", "isPrototypeOf", "propertyIsEnumerable", "toLocaleString", "toString",
      "valueOf"].map fun name => (name, nativeCode name)

/-- `attrToField[attribute] || attribute`, as a key. -/
def fieldOf (name : String) : String :=
  match (attrToField ++ inheritedNames).lookup name with
  | some field => field
  | none => name

/-- `String(value)`; the text of a number is the language's. -/
def FilterValue.toText (numberText : String → String) : FilterValue → String
  | .text t => t
  | .flag b => if b then "true" else "false"
  | .number raw => numberText raw

section Clauses

variable (numberText : String → String)

def operatorFilter (operator : String) (value : FilterValue) : Option FieldFilter :=
  match operator with
  | "eq" => some (.equals value)
  | "ne" => some (.not value)
  | "co" => some (.contains (value.toText numberText))
  | "sw" => some (.startsWith (value.toText numberText))
  | "ew" => some (.endsWith (value.toText numberText))
  | "gt" => some (.gt value)
  | "ge" => some (.gte value)
  | "lt" => some (.lt value)
  | "le" => some (.lte value)
  | _ => none

def scimFilterToPrismaWhereUser (filter realmId : String) : Except String Where := do
  let parsed ← parseScimFilter filter
  match operatorFilter numberText parsed.operator parsed.value with
  | some comparison => .ok ((Where.ofRealm realmId).put (fieldOf parsed.attribute_) comparison)
  | none => .error ("Unsupported operator: " ++ parsed.operator)

def scimFilterToPrismaWhereGroup (filter realmId : String) : Except String Where := do
  let parsed ← parseScimFilter filter
  if parsed.attribute_ = "displayName" then
    if parsed.operator ∈ ["eq", "ne", "co", "sw", "ew"] then
      match operatorFilter numberText parsed.operator parsed.value with
      | some comparison => .ok ((Where.ofRealm realmId).put "name" comparison)
      | none => .error ("Unsupported operator for displayName: " ++ parsed.operator)
    else .error ("Unsupported operator for displayName: " ++ parsed.operator)
  else if parsed.attribute_ = "externalId" then
    if parsed.operator = "eq" then
      .ok ((Where.ofRealm realmId).put "id" (.equals parsed.value))
    else .error ("Unsupported operator for externalId: " ++ parsed.operator)
  else .error ("Unsupported attribute: " ++ parsed.attribute_)

end Clauses

end Idenplane.Scim
