import Idenplane.Saml.Request

/-! # The two bindings

HTTP-POST sends a document as it is, HTTP-Redirect compresses it first.  The service tries the
wrapped format alone, so that it reads a compressed document as if it were a text. -/

namespace Idenplane.Saml

open Auth Admin Zlib String

variable (decoders : Decoders) (libraries : Libraries) (rt : Js.Runtime)
  (deflateRaw : List UInt8 → List UInt8) (xml : String)

def postBinding : String := ofList (Base64.encode (ofText xml))

def redirectBinding : String := ofList (Base64.encode (deflateRaw (ofText xml)))

/-- A document begins with markup, white space or a byte order mark. -/
def BeginsDocument : Prop :=
  ∃ c rest, xml.toList = c :: rest ∧ c ∈ ['<', ' ', '\t', '\n', '\r', '\ufeff']

/-- One document, one request: whatever `randomUUID` returns in the two calls. -/
structure Alike (uuid uuid' : String) : Prop where
  document : decodeXml decoders (redirectBinding deflateRaw xml) = decodeXml decoders (postBinding xml)
  request : validateAuthnRequest rt decoders libraries uuid (redirectBinding deflateRaw xml) =
    validateAuthnRequest rt decoders libraries uuid' (postBinding xml)

/-- The compressed bytes are a wrapped stream of the document, or the document themselves. -/
def Survives : Prop :=
  (∃ bytes, inflate decoders.inflateRaw (deflateRaw (ofText xml)) = some bytes ∧
      toText decoders bytes = xml) ∨
    inflate decoders.inflateRaw (deflateRaw (ofText xml)) = none ∧
      toText decoders (deflateRaw (ofText xml)) = xml

def requestId : Option Js := do
  let doc ← libraries.parse xml
  let authnRequest ← doc.get rt "AuthnRequest"
  authnRequest.get rt "@_ID"

def HasId : Prop := ∃ id, requestId libraries rt xml = some id ∧ id.isNullish = false

section

variable {decoders libraries rt deflateRaw xml}

/-- No document begins like a compressed stream. -/
theorem method_of_begins (begins : BeginsDocument xml) :
    ∃ first rest, ofText xml = first :: rest ∧ first.toNat % 16 ≠ 8 := by
  obtain ⟨c, rest, isXml, first⟩ := begins
  simp only [mem_cons, not_mem_nil, or_false] at first
  unfold ofText
  rw [isXml, List.flatMap_cons]
  rcases first with rfl | rfl | rfl | rfl | rfl | rfl
  all_goals exact ⟨_, _, rfl, by decide⟩

theorem decodeXml_post (begins : BeginsDocument xml) :
    decodeXml decoders (postBinding xml) = xml := by
  obtain ⟨first, rest, isBytes, method⟩ := method_of_begins begins
  have plain : inflate decoders.inflateRaw (ofText xml) = none := by
    rw [isBytes, inflate_of_method method]
  simp only [decodeXml, postBinding, decode_text, plain, toText_ofText]

theorem decodeXml_redirect : decodeXml decoders (redirectBinding deflateRaw xml) = xml ↔
      Survives decoders deflateRaw xml := by
  simp only [decodeXml, redirectBinding, decode_text, Survives]
  cases inflate decoders.inflateRaw (deflateRaw (ofText xml)) with
  | none => simp
  | some bytes => simp

theorem toText_eq {bytes : List UInt8} (reads : toText decoders bytes = xml) :
    bytes.toByteArray = xml.toByteArray ∨ decoders.lossy bytes = xml := by
  unfold toText fromUTF8? at reads
  split at reads
  case isTrue valid =>
    left
    rw [← reads]
    rfl
  case isFalse => exact .inr reads

/-- What an encoder makes of a document does not survive: it has no header, is shorter, and its
bytes that are no text are replaced by a character that the document does not hold. -/
theorem not_survives (inflates : inflate decoders.inflateRaw (deflateRaw (ofText xml)) = none)
    (shorter : (deflateRaw (ofText xml)).length < (ofText xml).length)
    (lossy : decoders.lossy (deflateRaw (ofText xml)) ≠ xml) :
    ¬Survives decoders deflateRaw xml := by
  intro survives
  rcases survives with ⟨bytes, inflated, _⟩ | ⟨_, reads⟩
  · rw [inflates] at inflated
    cases inflated
  · cases toText_eq reads with
    | inl same =>
      have isText : (ofText xml).toByteArray = xml.toByteArray := utf8Encode_toList
      rw [← isText] at same
      have sizes := congrArg ByteArray.size same
      simp only [List.size_toByteArray] at sizes
      omega
    | inr replaced => exact lossy replaced

variable {req : ParsedAuthnRequest}

theorem readAuthnRequest_some {uuid : String} {authnRequest : Js}
    (read : readAuthnRequest rt uuid authnRequest = some req) :
    ∃ id, authnRequest.get rt "@_ID" = some id ∧ req.id = orElse id (.str uuid) ∧
      ∀ other, readAuthnRequest rt other authnRequest =
        some { req with id := orElse id (.str other) } := by
  simp only [readAuthnRequest, bind_eq_bind, bind_eq_some_iff] at read
  obtain ⟨id, isId, element, isElement, issuer, isIssuer, acsUrl, isUrl, pol, isPolicy, format,
    isFormat, same⟩ := read
  cases same
  refine ⟨id, isId, rfl, fun other => ?_⟩
  simp [readAuthnRequest, isId, isElement, isIssuer, isUrl, isPolicy, isFormat]

theorem validateXml_ok {uuid : String} (accepted : validateXml rt libraries uuid xml = .ok req) :
    ∃ id, requestId libraries rt xml = some id ∧ req.id = orElse id (.str uuid) ∧
      ∀ other, validateXml rt libraries other xml =
        .ok { req with id := orElse id (.str other) } := by
  unfold validateXml at accepted ⊢
  unfold requestId
  by_cases large : MAX_XML_SIZE < Text.utf16Length xml.toList
  · simp only [large, if_true] at accepted
    cases accepted
  · simp only [large, if_false] at accepted ⊢
    cases parsed : libraries.parse xml with
    | none =>
      simp only [parsed] at accepted
      cases accepted
    | some doc =>
      simp only [parsed] at accepted
      cases root : doc.get rt "AuthnRequest" with
      | none =>
        simp only [root] at accepted
        cases accepted
      | some authnRequest =>
        simp only [root] at accepted
        cases present : authnRequest.truthy with
        | false =>
          simp only [present] at accepted
          cases accepted
        | true =>
          simp only [present] at accepted
          cases read : readAuthnRequest rt uuid authnRequest with
          | none =>
            simp only [read] at accepted
            cases accepted
          | some hit =>
            simp only [read] at accepted
            obtain ⟨id, isId, hasId, os⟩ := readAuthnRequest_some read
            cases issued : hit.issuer.truthy with
            | false =>
              simp only [issued] at accepted
              cases accepted
            | true =>
              simp only [issued] at accepted
              cases accepted
              refine ⟨id, by simp [root, isId], hasId, fun other => ?_⟩
              simp only [root, present, os other, issued]
              rfl

end

/-- For every document that is accepted: both bindings lead to one document and one request
exactly if the compressed bytes happen to be read as the document, and the request has an
identifier. -/
theorem bindings_alike_iff (decoders : Decoders) (libraries : Libraries) (rt : Js.Runtime)
    (deflateRaw : List UInt8 → List UInt8) (xml : String) (begins : BeginsDocument xml)
    (uuid uuid' : String) (fresh : uuid ≠ uuid') (req : ParsedAuthnRequest)
    (accepted : validateXml rt libraries uuid' xml = .ok req) :
    Alike decoders libraries rt deflateRaw xml uuid uuid' ↔
      Survives decoders deflateRaw xml ∧ HasId libraries rt xml := by
  obtain ⟨id, isId, _, same⟩ := validateXml_ok accepted
  have post : decodeXml decoders (postBinding xml) = xml := decodeXml_post begins
  constructor
  · intro alike
    have survives := decodeXml_redirect.mp (alike.document.trans post)
    refine ⟨survives, id, isId, ?_⟩
    have requests := alike.request
    simp only [validateAuthnRequest, post, decodeXml_redirect.mpr survives, same] at requests
    cases nullish : id.isNullish with
    | false => rfl
    | true =>
      have ids := congrArg ParsedAuthnRequest.id (Except.ok.inj requests)
      simp only [orElse, nullish, if_true] at ids
      exact absurd (Js.str.inj ids) fresh
  · intro cond
    obtain ⟨survives, id', isId', given_⟩ := cond
    have redirect := decodeXml_redirect.mpr survives
    constructor
    · rw [redirect, post]
    · rw [isId'] at isId
      cases isId
      simp only [validateAuthnRequest, post, redirect, same, orElse, given_]
      rfl

def shopRequest : String :=
  "<samlp:AuthnRequest ID=\"_1\"><Issuer>shop</Issuer></samlp:AuthnRequest>"

def shopStream : List UInt8 :=
  [179, 41, 78, 204, 205, 41, 176, 114, 44, 45, 201, 200, 11, 74, 45, 44, 77, 45, 46, 81, 240, 116,
    177, 85, 138, 55, 84, 178, 179, 241, 44, 46, 46, 77, 45, 178, 43, 206, 200, 47, 176, 209, 135,
    114, 108, 244, 49, 117, 216, 1, 0]

def shopDeflate (bytes : List UInt8) : List UInt8 :=
  if bytes = ofText shopRequest then shopStream else []

def shopDecoders : Decoders where
  inflateRaw bytes := if bytes = shopStream then some (ofText shopRequest) else none
  lossy _ := "\ufffd"

def shopRuntime : Js.Runtime where
  inherited := fun _ _ => some .undefined
  numberOfText := fun _ => .nan
  numberText := fun number => toString number.num
  builtinText := id
  regExp := fun _ => none

def shopLibraries : Libraries where
  parse text :=
    if text = shopRequest then
      some (.obj [("AuthnRequest", .obj [("Issuer", .str "shop"), ("@_ID", .str "_1")])])
    else some (.obj [])
  parseFromString _ := none
  loadSignature _ := false
  checkSignature _ _ _ := none

def shopParsed : ParsedAuthnRequest where
  id := .str "_1"
  issuer := .str "shop"
  acsUrl := .null
  nameIdPolicy := .null

theorem shopRequest_begins : BeginsDocument shopRequest := ⟨'<', _, rfl, mem_cons_self⟩

theorem shopRequest_accepted :
    validateXml shopRuntime shopLibraries "u-2" shopRequest = .ok shopParsed := rfl

theorem shopStream_inflates : inflate shopDecoders.inflateRaw shopStream = none :=
  inflate_of_method (by decide)

theorem shopRequest_lost : ¬Survives shopDecoders shopDeflate shopRequest := by
  have stream : shopDeflate (ofText shopRequest) = shopStream := if_pos rfl
  apply not_survives
  · rw [stream]
    exact shopStream_inflates
  · rw [stream]
    decide +kernel
  · decide +kernel

theorem shop_needs_survival :
    Alike shopDecoders shopLibraries shopRuntime shopDeflate shopRequest "u-1" "u-2" ↔
      Survives shopDecoders shopDeflate shopRequest ∧ HasId shopLibraries shopRuntime shopRequest :=
  bindings_alike_iff shopDecoders shopLibraries shopRuntime shopDeflate shopRequest
    shopRequest_begins "u-1" "u-2" (by decide) shopParsed shopRequest_accepted

/-- The compressed request of the shop is not read. -/
theorem shop_is_not_understood :
    ¬Alike shopDecoders shopLibraries shopRuntime shopDeflate shopRequest "u-1" "u-2" := by
  intro alike
  apply shopRequest_lost
  apply decodeXml_redirect.mp
  rw [alike.document, decodeXml_post shopRequest_begins]

end Idenplane.Saml
