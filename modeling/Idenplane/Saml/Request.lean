import Idenplane.Admin.Auth
import Idenplane.Lib.Base64
import Idenplane.Lib.Js
import Idenplane.Lib.Zlib

/-! # SAML requests

`SamlIdpService`, where it reads a `SAMLRequest`.  The document is parsed twice: into an object,
without the namespace prefixes, and into a tree, whose signature is checked. -/

namespace Idenplane.Saml

open Auth Admin String Base64

/-- The decoders of `zlib` and `Buffer`. -/
structure Decoders where
  /-- RFC 1951. -/
  inflateRaw : List UInt8 → Option (List UInt8)
  /-- `toString('utf-8')` of bytes that are not UTF-8. -/
  lossy : List UInt8 → String

def ofText (text : String) : List UInt8 := text.toList.flatMap String.utf8EncodeChar

def toText (decoders : Decoders) (bytes : List UInt8) : String :=
  (String.fromUTF8? bytes.toByteArray).getD (decoders.lossy bytes)

/-- What stands at the beginning of both `validateAuthnRequest` and `validateSignature`. -/
def decodeXml (decoders : Decoders) (samlRequest : String) : String :=
  let decoded := decode samlRequest.toList
  match Zlib.inflate decoders.inflateRaw decoded with
  | some inflated => toText decoders inflated
  | none => toText decoders decoded

inductive Node where
  | element (tagName : String) (attributes : List (String × String)) (children : List Node)
  | text (text : String)

/-- `fast-xml-parser`, `xmldom` and `xml-crypto`; `none` where they throw. -/
structure Libraries where
  /-- `parser.parse(xml)`: prefixes are removed, and attributes are named `@_…`. -/
  parse : String → Option Js
  /-- `new DOMParser().parseFromString(xml, 'text/xml')`: the root. -/
  parseFromString : String → Option Node
  /-- `sig.loadSignature(node)` does not throw. -/
  loadSignature : Node → Bool
  /-- `sig.checkSignature(xml)` for a certificate and a signature. -/
  checkSignature : String → Node → String → Option Bool

def getElementsByTagName (tagName : String) : Node → List Node
  | .text _ => []
  | .element tag attributes children =>
    (if tag = tagName then [.element tag attributes children] else []) ++
      elementsAmong tagName children
where elementsAmong (tagName : String) : List Node → List Node
    | [] => []
    | node :: rest => getElementsByTagName tagName node ++ elementsAmong tagName rest

def MAX_XML_SIZE : Nat := 256 * 1024

structure ParsedAuthnRequest where
  (id issuer acsUrl nameIdPolicy : Js)

section

variable (rt : Js.Runtime)

/-- `value?.[key]`. -/
def optionalGet (value : Js) (key : String) : Option Js :=
  if value.isNullish then some .undefined else value.get rt key

/-- `value ?? other`. -/
def orElse (value other : Js) : Js := if value.isNullish then other else value

/-- `typeof issuer === 'string' ? issuer : (issuer?.['#text'] ?? '')`. -/
def issuerText (issuer : Js) : Option Js :=
  match issuer with
  | .str text => some (.str text)
  | _ => (optionalGet rt issuer "#text").map (orElse · (.str ""))

/-- The four values, out of the object for the root; `none` where reading throws. -/
def readAuthnRequest (randomUUID : String) (authnRequest : Js) : Option ParsedAuthnRequest := do
  let id ← authnRequest.get rt "@_ID"
  let issuer ← (← authnRequest.get rt "Issuer") |> issuerText rt
  let acsUrl ← authnRequest.get rt "@_AssertionConsumerServiceURL"
  let policy ← authnRequest.get rt "NameIDPolicy"
  let format ← optionalGet rt policy "@_Format"
  some { id := orElse id (.str randomUUID)
         issuer := issuer
         acsUrl := orElse acsUrl .null
         nameIdPolicy := orElse format .null }

def validateXml (libraries : Libraries) (randomUUID : String) (xml : String) :
    Except Failure ParsedAuthnRequest := do
  if MAX_XML_SIZE < Text.utf16Length xml.toList then
    throw (badRequest "SAMLRequest exceeds maximum allowed size")
  let some doc := libraries.parse xml | throw (badRequest "Invalid SAMLRequest")
  let some authnRequest := doc.get rt "AuthnRequest" | throw (badRequest "Invalid SAMLRequest")
  if !authnRequest.truthy then
    throw (badRequest "Invalid AuthnRequest: root element not found")
  let some parsed := readAuthnRequest rt randomUUID authnRequest
    | throw (badRequest "Invalid SAMLRequest")
  if !parsed.issuer.truthy then throw (badRequest "AuthnRequest missing Issuer")
  return parsed

/-- `randomUUID` is what the function of that name returns in this call. -/
def validateAuthnRequest (decoders : Decoders) (libraries : Libraries) (randomUUID : String)
    (samlRequest : String) : Except Failure ParsedAuthnRequest :=
  validateXml rt libraries randomUUID (decodeXml decoders samlRequest)

end

def validateSignature (decoders : Decoders) (libraries : Libraries) (samlRequest : String)
    (certificate : String) : Except Failure Unit := do
  let xml := decodeXml decoders samlRequest
  let some doc := libraries.parseFromString xml | throw .internal
  let signature :: _ := getElementsByTagName "Signature" doc
    | throw (badRequest "AuthnRequest is not signed")
  if !libraries.loadSignature signature then throw .internal
  match libraries.checkSignature certificate signature xml with
  | some true => return ()
  | _ => throw (badRequest "AuthnRequest signature validation failed")

variable {decoders : Decoders}

theorem fromUTF8_ofText (text : String) : fromUTF8? (ofText text).toByteArray = some text := by
  have bytes : (ofText text).toByteArray = text.toByteArray := utf8Encode_toList
  rw [bytes]
  simp [fromUTF8?, fromUTF8, text.isValidUTF8]

theorem toText_ofText (text : String) : toText decoders (ofText text) = text := by
  rw [toText, fromUTF8_ofText]
  rfl

theorem decode_text (bytes : List UInt8) :
    decode (ofList (encode bytes)).toList = bytes := by
  rw [toList_ofList, decode_encode]

end Idenplane.Saml
