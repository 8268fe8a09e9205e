import Idenplane.Saml.Bindings
import Idenplane.Saml.Documents

/-! # What a signature covers

The endpoint checks the first element that is named `Signature` without a prefix, wherever it
stands, and goes on with the values of the root, whatever the signature refers to. -/

namespace Idenplane.Saml

open Auth Admin

/-- What `xml-crypto` computes. -/
structure Crypto where
  /-- A reference of a signature digests correctly in the document. -/
  digests : Node → Node → Node → Bool
  /-- The signature value verifies under a certificate. -/
  verifies : String → Node → Bool

def references (signature : Node) : List Node :=
  (signature.children.filter (·.localName = "SignedInfo")).flatMap fun signedInfo =>
    signedInfo.children.filter (·.localName = "Reference")

/-- The element a URI names: the whole document, or an element by its identifier. -/
def resolve (doc : Node) (uri : String) : Option Node :=
  if uri = "" then some doc
  else doc.elements.find? fun node =>
    ["Id", "ID", "id"].any fun name => "#" ++ node.getAttribute name = uri

/-- An element is a part of a node.  The signature itself is not, since it is taken out before the
node is digested. -/
inductive PartOf (signature part : Node) : Node → Prop where
  | self : part ≠ signature → PartOf signature part part
  | nested {tagName : String} {attributes : List (String × String)} {children : List Node}
      {child : Node} :
    Node.element tagName attributes children ≠ signature → child ∈ children →
      PartOf signature part child → PartOf signature part (.element tagName attributes children)

section

variable (rt : Js.Runtime) (decoders : Decoders) (libraries : Libraries) (crypto : Crypto)

structure Valid (certificate : String) (doc signature : Node) : Prop where
  digests : ∀ reference ∈ references signature, crypto.digests doc signature reference = true
  verifies : crypto.verifies certificate signature = true

def Sound : Prop :=
  ∀ certificate signature xml doc, libraries.parseFromString xml = some doc →
    libraries.loadSignature signature = true →
      (libraries.checkSignature certificate signature xml = some true ↔
        Valid crypto certificate doc signature)

/-- Some signature of the document is valid, and a part of what it refers to fulfils `P`. -/
def SignedPart (certificate : String) (doc : Node) (P : Node → Prop) : Prop :=
  ∃ signature ∈ doc.elements, signature.localName = "Signature" ∧
    Valid crypto certificate doc signature ∧ ∃ reference ∈ references signature, ∃ target,
        resolve doc (reference.getAttribute "URI") = some target ∧
          ∃ part, PartOf signature part target ∧ P part

def FirstIsValid (certificate : String) (doc : Node) : Prop :=
  ∃ signature rest, getElementsByTagName "Signature" doc = signature :: rest ∧
    libraries.loadSignature signature = true ∧ Valid crypto certificate doc signature

/-- The root has a valid signature that refers to it, and every signature has the prefix `ds`. -/
structure OrdinarilySigned (certificate : String) (doc : Node) : Prop where
  signs : ∃ signature ∈ doc.children, signature.tagName = "ds:Signature" ∧
    libraries.loadSignature signature = true ∧ Valid crypto certificate doc signature ∧
      ∃ reference ∈ references signature, resolve doc (reference.getAttribute "URI") = some doc
  prefixed : ∀ signature ∈ doc.elements, signature.localName = "Signature" →
    signature.tagName = "ds:Signature"

variable (decoding : Decoding) (realmId : Nat) (providers : List SamlServiceProvider)
  (randomUUID samlRequest : String)

/-- The endpoint acts on the values of a part that is signed, and accepts what is signed in the
ordinary way. -/
structure SignatureCovers (certificate : String) (parsed : ParsedAuthnRequest)
    (sp : SamlServiceProvider) : Prop where
  covers : handleSsoRequest rt decoders libraries realmId providers randomUUID
      (some samlRequest) = .ok (parsed, sp) →
    ∃ doc, libraries.parseFromString (decodeXml decoders samlRequest) = some doc ∧
      SignedPart crypto certificate doc (·.request decoding randomUUID = parsed)
  accepts : ∀ doc, libraries.parseFromString (decodeXml decoders samlRequest) = some doc →
    OrdinarilySigned libraries crypto certificate doc →
      Routed rt decoders libraries realmId providers randomUUID samlRequest parsed sp →
        handleSsoRequest rt decoders libraries realmId providers randomUUID
          (some samlRequest) = .ok (parsed, sp)

end

section

variable {rt : Js.Runtime} {decoders : Decoders} {libraries : Libraries} {crypto : Crypto}
  {decoding : Decoding} {realmId : Nat} {providers : List SamlServiceProvider}
  {randomUUID samlRequest certificate : String} {doc : Node}

/-- A valid signature that refers to the root covers its values. -/
theorem SignedPart.of_root {P : Node → Prop} {signature reference : Node}
    (element : signature ∈ doc.elements) (named : signature.localName = "Signature")
    (valid : Valid crypto certificate doc signature) (refers : reference ∈ references signature)
    (root : resolve doc (reference.getAttribute "URI") = some doc) (outside : doc ≠ signature)
    (holds : P doc) : SignedPart crypto certificate doc P :=
  ⟨signature, element, named, valid, reference, refers, doc, root, doc, .self outside, holds⟩

theorem validateSignature_ok (sound : Sound libraries crypto)
    (isDoc : libraries.parseFromString (decodeXml decoders samlRequest) = some doc) :
    validateSignature decoders libraries samlRequest certificate = .ok () ↔
      FirstIsValid libraries crypto certificate doc := by
  simp only [validateSignature, isDoc, bind, Except.bind, FirstIsValid]
  cases getElementsByTagName "Signature" doc with
  | nil => simp [throw, throwThe, MonadExceptOf.throw]
  | cons signature rest =>
    cases loads : libraries.loadSignature signature with
    | false => simp [loads, throw, throwThe, MonadExceptOf.throw]
    | true =>
      have isValid := sound certificate signature _ doc isDoc loads
      cases checked : libraries.checkSignature certificate signature
          (decodeXml decoders samlRequest) with
      | none =>
        simp [loads, ← isValid, checked, throw, throwThe, MonadExceptOf.throw]
      | some ans =>
        cases ans with
        | false => simp [loads, ← isValid, checked, throw, throwThe, MonadExceptOf.throw]
        | true => simp [loads, ← isValid, checked, pure, Except.pure]

theorem first_of_validateSignature (sound : Sound libraries crypto)
    (accepted : validateSignature decoders libraries samlRequest certificate = .ok ()) :
    ∃ doc, libraries.parseFromString (decodeXml decoders samlRequest) = some doc ∧
      FirstIsValid libraries crypto certificate doc := by
  cases isDoc : libraries.parseFromString (decodeXml decoders samlRequest) with
  | none =>
    simp only [validateSignature, isDoc] at accepted
    cases accepted
  | some doc => exact ⟨doc, rfl, (validateSignature_ok sound isDoc).mp accepted⟩

theorem not_first_of_ordinary (ordinary : OrdinarilySigned libraries crypto certificate doc) :
    ¬FirstIsValid libraries crypto certificate doc := by
  intro first
  obtain ⟨signature, rest, hit, _⟩ := first
  have among : signature ∈ getElementsByTagName "Signature" doc := by
    rw [hit]
    exact mem_cons_self
  obtain ⟨element, named⟩ := mem_getElementsByTagName doc among
  have isLocal : signature.localName = "Signature" := by
    unfold Node.localName
    rw [named]
    decide
  have prefixed := ordinary.prefixed signature element isLocal
  rw [named] at prefixed
  exact absurd prefixed (by decide)

theorem request_of_readable {parsed : ParsedAuthnRequest} {xml : String}
    (inherits : NothingInherited rt) (one : OneDocument rt decoding libraries xml)
    (isDoc : libraries.parseFromString xml = some doc)
    (readable : validateXml rt libraries randomUUID xml = .ok parsed) :
    parsed = doc.request decoding randomUUID := by
  unfold validateXml at readable
  by_cases large : MAX_XML_SIZE < Text.utf16Length xml.toList
  · simp only [large, if_true] at readable
    cases readable
  · simp only [large, if_false] at readable
    cases isObject : libraries.parse xml with
    | none =>
      simp only [isObject] at readable
      cases readable
    | some obj =>
      simp only [isObject] at readable
      cases root : obj.get rt "AuthnRequest" with
      | none =>
        simp only [root] at readable
        cases readable
      | some authnRequest =>
        simp only [root] at readable
        cases present : authnRequest.truthy with
        | false =>
          simp only [present] at readable
          cases readable
        | true =>
          have described := one doc obj authnRequest isDoc isObject root present
          simp only [present] at readable
          cases read : readAuthnRequest rt randomUUID authnRequest with
          | none =>
            simp only [read] at readable
            cases readable
          | some hit =>
            simp only [read] at readable
            cases issued : hit.issuer.truthy with
            | false =>
              simp only [issued] at readable
              cases readable
            | true =>
              simp only [issued] at readable
              cases readable
              exact readAuthnRequest_eq inherits described read issued

end

def wrappedXml : String :=
  "<AuthnRequest ID=\"_2\"><Issuer>shop</Issuer><Extensions><AuthnRequest ID=\"_1\">" ++
    ("<Issuer>shop</Issuer><Signature><SignedInfo><Reference URI=\"#_1\"/></SignedInfo>" ++
      "</Signature></AuthnRequest></Extensions></AuthnRequest>")

def ownXml : String :=
  "<samlp:AuthnRequest ID=\"_1\" AssertionConsumerServiceURL=\"https://shop.example/acs\">" ++
    ("<saml:Issuer>shop</saml:Issuer><Signature><SignedInfo><Reference URI=\"#_1\"/>" ++
      "</SignedInfo></Signature><samlp:NameIDPolicy Format=\"email\"/></samlp:AuthnRequest>")

def referenceNode : Node := .element "Reference" [("URI", "#_1")] []

def signatureNode : Node := .element "Signature" [] [.element "SignedInfo" [] [referenceNode]]

def issuerNode : Node := .element "Issuer" [] [.text "shop"]

def signedNode : Node := .element "AuthnRequest" [("ID", "_1")] [issuerNode, signatureNode]

def wrappedDoc : Node :=
  .element "AuthnRequest" [("ID", "_2")] [issuerNode, .element "Extensions" [] [signedNode]]

def ownDoc : Node :=
  .element "samlp:AuthnRequest"
    [("ID", "_1"), ("AssertionConsumerServiceURL", "https://shop.example/acs")]
    [.element "saml:Issuer" [] [.text "shop"], signatureNode,
      .element "samlp:NameIDPolicy" [("Format", "email")] []]

def shopDecoding : Decoding where
  value node name := node.getAttribute name
  text
    | .element _ _ [.text text] => .str text
    | _ => .str ""

/-- The object of an element, for elements without repeated names. -/
def objectOfNode : Node → Js
  | .text text => .str text
  | .element _ [] [.text text] => .str text
  | .element _ attributes children =>
    .obj (fields children ++ attributes.map fun e => ("@_" ++ e.1, .str e.2))
where fields : List Node → List (String × Js)
    | [] => []
    | node :: rest => (node.localName, objectOfNode node) :: fields rest

def librariesFor (xml : String) (doc : Node) : Libraries where
  parse text := if text = xml then some (.obj [(doc.localName, objectOfNode doc)]) else none
  parseFromString text := if text = xml then some doc else none
  loadSignature _ := true
  checkSignature certificate _ _ := some (certificate = "shop-certificate")

def shopCrypto : Crypto where
  digests _ _ _ := true
  verifies certificate _ := certificate = "shop-certificate"

def signingShop : SamlServiceProvider where
  id := 1
  realmId := 1
  entityId := "shop"
  acsUrl := "https://shop.example/acs"
  certificate := some "shop-certificate"

def wrappedParsed : ParsedAuthnRequest where
  id := .str "_2"
  issuer := .str "shop"
  acsUrl := .null
  nameIdPolicy := .null

def ownParsed : ParsedAuthnRequest where
  id := .str "_1"
  issuer := .str "shop"
  acsUrl := .str "https://shop.example/acs"
  nameIdPolicy := .str "email"

theorem librariesFor_sound (text : String) (root : Node) :
    Sound (librariesFor text root) shopCrypto := by
  intro certificate signature xml doc isDoc loads
  constructor
  · intro checked
    exact ⟨fun _ _ => rfl, some.inj checked⟩
  · intro valid
    exact congrArg some valid.verifies

theorem begins_append {first : String} {rest : List Char} (markup : first.toList = '<' :: rest)
    (xml : String) : BeginsDocument (first ++ xml) :=
  ⟨'<', rest ++ xml.toList, by rw [toList_append, markup]; rfl, mem_cons_self⟩

theorem wrappedXml_begins : BeginsDocument wrappedXml := begins_append rfl _

theorem ownXml_begins : BeginsDocument ownXml := begins_append rfl _

theorem wrappedXml_small : ¬MAX_XML_SIZE < Text.utf16Length wrappedXml.toList := by decide +kernel

theorem ownXml_small : ¬MAX_XML_SIZE < Text.utf16Length ownXml.toList := by decide +kernel

section

variable {xml : String} (begins : BeginsDocument xml)

include begins

theorem parsed_own (doc : Node) :
    (librariesFor xml doc).parseFromString (decodeXml shopDecoders (postBinding xml)) =
      some doc := by
  rw [decodeXml_post begins]
  exact if_pos rfl

theorem shop_routed {doc : Node} {parsed : ParsedAuthnRequest}
    (readable : validateXml shopRuntime (librariesFor xml doc) "u-1" xml = .ok parsed)
    (issuer : parsed.issuer = .str "shop") (acsUrl : acsAllowed signingShop parsed.acsUrl = true) :
    Routed shopRuntime shopDecoders (librariesFor xml doc) 1 [signingShop] "u-1" (postBinding xml)
      parsed signingShop where
  present := by
    intro empty
    have same : decodeXml shopDecoders (postBinding xml) = xml := decodeXml_post begins
    rw [empty] at same
    obtain ⟨c, rest, isXml, _⟩ := begins
    rw [← same] at isXml
    cases isXml
  readable := by
    rw [validateAuthnRequest, decodeXml_post begins]
    exact readable
  found := by
    rw [issuer]
    rfl
  enabled := rfl
  acsUrl := acsUrl

/-- The shop's document is accepted when its first signature is one of the shop. -/
theorem shop_accepted {doc signature : Node} {rest : List Node} {parsed : ParsedAuthnRequest}
    (hit : getElementsByTagName "Signature" doc = signature :: rest)
    (readable : validateXml shopRuntime (librariesFor xml doc) "u-1" xml = .ok parsed)
    (issuer : parsed.issuer = .str "shop") (acsUrl : acsAllowed signingShop parsed.acsUrl = true) :
    handleSsoRequest shopRuntime shopDecoders (librariesFor xml doc) 1 [signingShop] "u-1"
      (some (postBinding xml)) = .ok (parsed, signingShop) := by
  refine handleSsoRequest_ok.mpr ⟨shop_routed begins readable issuer acsUrl, fun certificate reg => ?_⟩
  cases reg
  exact (validateSignature_ok (librariesFor_sound _ _) (parsed_own begins doc)).mpr
    ⟨signature, rest, hit, rfl, fun _ _ => rfl, rfl⟩

end

theorem wrapped_accepted : handleSsoRequest shopRuntime shopDecoders
    (librariesFor wrappedXml wrappedDoc) 1 [signingShop] "u-1" (some (postBinding wrappedXml)) =
      .ok (wrappedParsed, signingShop) := by
  refine shop_accepted wrappedXml_begins rfl ?_ rfl rfl
  simp only [validateXml, wrappedXml_small, if_false, librariesFor]
  rfl

theorem own_accepted : handleSsoRequest shopRuntime shopDecoders (librariesFor ownXml ownDoc) 1
    [signingShop] "u-1" (some (postBinding ownXml)) = .ok (ownParsed, signingShop) := by
  refine shop_accepted ownXml_begins rfl ?_ rfl rfl
  simp only [validateXml, ownXml_small, if_false, librariesFor]
  rfl

theorem part_of_signed {part : Node} (isPart : PartOf signatureNode part signedNode) :
    part = signedNode ∨ part = issuerNode ∨ part = .text "shop" := by
  cases isPart with
  | self => exact .inl rfl
  | nested _ among inner =>
    simp only [mem_cons, not_mem_nil, or_false] at among
    rcases among with rfl | rfl
    · cases inner with
      | self => exact .inr (.inl rfl)
      | nested _ among inner =>
        rw [mem_singleton] at among
        subst among
        cases inner
        exact .inr (.inr rfl)
    · cases inner with
      | self ne => exact absurd rfl ne
      | nested ne => exact absurd rfl ne

theorem signature_of_wrapped {signature : Node} (element : signature ∈ wrappedDoc.elements)
    (named : signature.localName = "Signature") : signature = signatureNode := by
  simp only [wrappedDoc, signedNode, signatureNode, referenceNode, issuerNode, Node.elements,
    Node.elements.among, append_nil, cons_append, nil_append, mem_cons, not_mem_nil,
    or_false] at element
  rcases element with rfl | rfl | rfl | rfl | rfl | rfl | rfl | rfl
  case inr.inr.inr.inr.inr.inl => rfl
  all_goals exact absurd named (by decide)

theorem wrapped_not_signed : ¬SignedPart shopCrypto "shop-certificate" wrappedDoc fun part =>
      part.request shopDecoding "u-1" = wrappedParsed := by
  rintro ⟨signature, element, named, _, reference, refers, target, isTarget, part, isPart, read⟩
  obtain rfl := signature_of_wrapped element named
  obtain rfl : reference = referenceNode := mem_singleton.mp refers
  obtain rfl : signedNode = target := some.inj isTarget
  rcases part_of_signed isPart with rfl | rfl | rfl
  all_goals
    have ids := congrArg ParsedAuthnRequest.id read
    exact absurd (Js.str.inj ids) (by decide)

theorem own_one : OneDocument shopRuntime shopDecoding (librariesFor ownXml ownDoc) ownXml := by
  intro doc object value isDoc isObject isValue _
  simp only [librariesFor, if_true, some.injEq] at isDoc isObject
  subst isDoc isObject
  cases isValue
  exact ⟨rfl, rfl, ⟨.str "shop", rfl, .one (.plain rfl)⟩,
    ⟨.obj [("@_Format", .str "email")], rfl, .one ⟨rfl, rfl⟩⟩⟩

end Idenplane.Saml
