import Idenplane.Deps
import Idenplane.Lib.Js
import Idenplane.Lib.Properties

/-! # The secrets of a realm

`realm-secrets.util.ts` and the part of `CryptoService` that it uses.  Secrets are encrypted in
the database and leave it as a placeholder; a client that sends the placeholder back means the
secret that is stored.
-/

namespace Idenplane.Realms

open Properties

/-- `CryptoService.encryptSecret`: an envelope is not wrapped again. -/
def encryptSecret (d : Deps) (value : String) : String :=
  if value = "" then value
  else if (d.decrypt value).isSome then value
  else d.encrypt value

/-- `CryptoService.decryptSecret`: what is no envelope is an old plaintext. -/
def decryptSecret (d : Deps) (value : String) : String :=
  if value = "" then value else (d.decrypt value).getD value

def secretPlaceholder : String := "••••••"

abbrev Record := Object String Js

def record? : Js → Option Record
  | .obj properties => some properties
  | _ => none

/-- `value[key]` of a record, `undefined` when there is no such property. -/
def property (record : Record) (key : String) : Js := (get record key).getD .undefined

def emailSecretFields : List (String × String) :=
  [("smtp", "password"), ("resend", "apiKey"), ("sendgrid", "apiKey"), ("mailgun", "apiKey"),
    ("postmark", "serverToken")]

def storedText : Js → Option String
  | .str text => if text = "" then none else some text
  | _ => none

def setSecret (d : Deps) (values : Record) (field : String) (value : Option String) : Record :=
  match value with
  | some text => set values field (.str (encryptSecret d text))
  | none => delete values field

def encryptSection (d : Deps) (field : String) (values previous : Record) : Record :=
  match property values field with
  | .str value =>
    if value = secretPlaceholder then
      setSecret d values field (storedText (property previous field))
    else setSecret d values field (storedText (.str value))
  | _ => delete values field

/-- One turn of the loop of `encryptEmailProviderConfig`. -/
def encryptEmailSection (d : Deps) (incoming previous : Record) (out : Record)
    (secret : String × String) : Record :=
  match record? (property incoming secret.1) with
  | none => out
  | some values =>
    set out secret.1 (.obj (encryptSection d secret.2 values
      ((record? (property previous secret.1)).getD [])))

/-- What is stored instead of the configuration; `none` leaves the column alone. -/
def encryptEmailProviderConfig (d : Deps) (config : Option Record) (stored : Js) :
    Option Record :=
  config.map fun incoming =>
    emailSecretFields.foldl (encryptEmailSection d incoming ((record? stored).getD [])) incoming

def redactEmailSection (out : Record) (secret : String × String) : Record :=
  match record? (property out secret.1) with
  | none => out
  | some values =>
    if (property values secret.2).truthy then
      set out secret.1 (.obj (set values secret.2 (.str secretPlaceholder)))
    else out

def redactEmailProviderConfig (config : Js) : Js :=
  match record? config with
  | none => config
  | some record => .obj (emailSecretFields.foldl redactEmailSection record)

def smsSecretFields : List String :=
  ["twilioAuthToken", "vonageApiSecret", "awsSecretAccessKey", "webhookHeaders"]

def isEmptyJson (value : Js) : Bool :=
  match value with
  | .str text => ["", "\x7b\x7d", "[]"].contains (Text.trim text)
  | _ => false

/-- One turn of the loop of `encryptSmsProviderConfig`. -/
def encryptSmsField (d : Deps) (previous : Record) (out : Record) (field : String) : Record :=
  match property out field with
  | .str value =>
    if value = secretPlaceholder then
      setSecret d out field (storedText (property previous field))
    else if field = "webhookHeaders" && isEmptyJson (.str value) then delete out field
    else set out field (.str (encryptSecret d value))
  | _ => out

def encryptSmsProviderConfig (d : Deps) (config : Option Record) (stored : Js) : Option Record :=
  config.map fun incoming =>
    smsSecretFields.foldl (encryptSmsField d ((record? stored).getD [])) incoming

def redactSmsField (out : Record) (field : String) : Record :=
  if (property out field).truthy then set out field (.str secretPlaceholder) else out

def redactSmsProviderConfig (config : Js) : Js :=
  match record? config with
  | none => config
  | some record => .obj (smsSecretFields.foldl redactSmsField record)

end Idenplane.Realms
