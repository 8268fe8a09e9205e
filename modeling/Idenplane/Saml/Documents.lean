import Idenplane.Saml.Sso

/-! # Documents

The tree of a document, the values that an element of it has as a request, and what the parser of
objects makes of the root. -/

namespace Idenplane.Saml

open Auth Admin Option

namespace Node

/-- A name without its prefix. -/
def unprefixed (name : String) : String :=
  String.ofList (name.toList.reverse.takeWhile (· ≠ ':')).reverse

def tagName : Node → String
  | .element tagName _ _ => tagName
  | .text _ => ""

def children : Node → List Node
  | .element _ _ children => children
  | .text _ => []

def attributes : Node → List (String × String)
  | .element _ attributes _ => attributes
  | .text _ => []

def getAttribute (node : Node) (name : String) : String :=
  (node.attributes.lookup name).getD ""

def localName (node : Node) : String := unprefixed node.tagName

def hasAttribute (node : Node) (name : String) : Bool :=
  node.attributes.any fun (key, _) => unprefixed key = name

/-- The child of this name, if there is one and no other. -/
def onlyChild (node : Node) (name : String) : Option Node :=
  match node.children.filter (·.localName = name) with
  | [child] => some child
  | _ => none

def elements : Node → List Node
  | .text _ => []
  | .element tagName attributes children => .element tagName attributes children :: among children
where among : List Node → List Node
    | [] => []
    | node :: rest => elements node ++ among rest

end Node

mutual

theorem mem_getElementsByTagName {tagName : String} {hit : Node} :
    ∀ node, hit ∈ getElementsByTagName tagName node → hit ∈ node.elements ∧ hit.tagName = tagName
  | .text _, among => by
    simp only [getElementsByTagName, not_mem_nil] at among
  | .element tag attrs children, among => by
    simp only [getElementsByTagName, mem_append] at among
    cases among with
    | inl self =>
      split at self
      case isTrue named =>
        rw [mem_singleton] at self
        subst self
        exact ⟨mem_cons_self, named⟩
      case isFalse => cases self
    | inr below =>
      have ⟨element, named⟩ := mem_elementsAmong children below
      exact ⟨.tail _ element, named⟩

theorem mem_elementsAmong {tagName : String} {hit : Node} :
    ∀ nodes, hit ∈ getElementsByTagName.elementsAmong tagName nodes →
      hit ∈ Node.elements.among nodes ∧ hit.tagName = tagName
  | [], among => by
    simp only [getElementsByTagName.elementsAmong, not_mem_nil] at among
  | node :: rest, among => by
    simp only [getElementsByTagName.elementsAmong, mem_append] at among
    simp only [Node.elements.among, mem_append]
    cases among with
    | inl first =>
      have ⟨element, named⟩ := mem_getElementsByTagName node first
      exact ⟨.inl element, named⟩
    | inr later =>
      have ⟨element, named⟩ := mem_elementsAmong rest later
      exact ⟨.inr element, named⟩

end

/-- How `fast-xml-parser` decodes the value of an attribute and the text of an element: it trims
white space, resolves entities, and takes a text that looks like a number for one. -/
structure Decoding where
  value : Node → String → String
  text : Node → Js

section

variable (rt : Js.Runtime) (decoding : Decoding) (randomUUID : String)

def Node.attributeValue (node : Node) (name : String) : Option String :=
  if node.hasAttribute name then some (decoding.value node name) else none

/-- The values of an element as a request: two of its attributes, the text of its issuer, and an
attribute of its policy. -/
def Node.request (node : Node) : ParsedAuthnRequest where
  id := .str ((node.attributeValue decoding "ID").getD randomUUID)
  issuer := ((node.onlyChild "Issuer").map decoding.text).getD (.str "")
  acsUrl := ((node.attributeValue decoding "AssertionConsumerServiceURL").map .str).getD .null
  nameIdPolicy :=
    (((node.onlyChild "NameIDPolicy").bind (·.attributeValue decoding "Format")).map
      .str).getD .null

/-- Nothing in the language has a property with a name that a request is read by. -/
def NothingInherited : Prop :=
  ∀ key ∈ ["AuthnRequest", "@_ID", "Issuer", "@_AssertionConsumerServiceURL", "NameIDPolicy",
    "@_Format", "#text"], ∀ value, rt.inherited value key = some .undefined

/-- The text of an element stands for itself, or below `#text` when there is more to the element
and the text is not empty. -/
inductive TextOf (node : Node) : Js → Prop
  | plain {text : String} (read : decoding.text node = .str text) : TextOf node (.str text)
  | number {number : ℚ} (read : decoding.text node = .num number) : TextOf node (.num number)
  | flag {flag : Bool} (read : decoding.text node = .bool flag) : TextOf node (.bool flag)
  | beside {properties : List (String × Js)}
      (read : properties.lookup "#text" = some (decoding.text node)) : TextOf node (.obj properties)
  | without {properties : List (String × Js)} (none_ : properties.lookup "#text" = none)
      (read : decoding.text node = .str "") : TextOf node (.obj properties)

/-- An attribute is a property named with `@_`. -/
def HasAttribute (node : Node) (value : Js) (name : String) : Prop :=
  value.get rt ("@_" ++ name) =
    some (((node.attributeValue decoding name).map Js.str).getD .undefined)

/-- Children of one name make one property; it is an array when there are several. -/
inductive ChildrenOf (describes : Node → Js → Prop) : List Node → Js → Prop
  | none : ChildrenOf describes [] .undefined
  | one {child : Node} {value : Js} (described : describes child value) :
      ChildrenOf describes [child] value
  | several {first snd : Node} {rest : List Node} {items : List Js} :
      ChildrenOf describes (first :: snd :: rest) (.arr items)

def HasChildren (node : Node) (value : Js) (name : String) (describes : Node → Js → Prop) : Prop :=
  ∃ property, value.get rt name = some property ∧
    ChildrenOf describes (node.children.filter (·.localName = name)) property

/-- What the manual of `fast-xml-parser` says of the value of an element, as far as it is read. -/
structure Describes (node : Node) (value : Js) : Prop where
  id : HasAttribute rt decoding node value "ID"
  acsUrl : HasAttribute rt decoding node value "AssertionConsumerServiceURL"
  issuer : HasChildren rt node value "Issuer" (TextOf decoding)
  nameIdPolicy : HasChildren rt node value "NameIDPolicy" fun policy property =>
    HasAttribute rt decoding policy property "Format" ∧ property.isNullish = false

/-- Both parsers read one document: what the object has under the name of a request is the value
of the root of the tree. -/
def OneDocument (libraries : Libraries) (xml : String) : Prop :=
  ∀ doc object value, libraries.parseFromString xml = some doc →
    libraries.parse xml = some object → object.get rt "AuthnRequest" = some value →
      value.truthy = true → Describes rt decoding doc value

end

variable {rt : Js.Runtime} {decoding : Decoding} {randomUUID : String} {node doc : Node}
  {value found : Js} {parsed : ParsedAuthnRequest}

theorem orElse_attribute {name : String} (has : HasAttribute rt decoding node value name)
    (isFound : value.get rt ("@_" ++ name) = some found) (default : Js) :
    orElse found default = ((node.attributeValue decoding name).map Js.str).getD default := by
  rw [HasAttribute, isFound, some.injEq] at has
  rw [has]
  cases node.attributeValue decoding name <;> rfl

theorem get_of_lookup {properties : List (String × Js)} {key : String}
    (inherits : ∀ value, rt.inherited value key = some .undefined) :
    (Js.obj properties).get rt key = some ((properties.lookup key).getD .undefined) := by
  cases isFound : properties.lookup key with
  | none => simp [Js.get, isFound, inherits]
  | some property => simp [Js.get, isFound]

/-- A name that is no number is not that of an item. -/
theorem get_of_arr {items : List Js} {key : String} (notLength : key ≠ "length")
    (odd : ∃ c ∈ key.toList, c.isDigit = false) :
    (Js.arr items).get rt key = rt.inherited (.arr items) key := by
  simp only [Js.get, notLength, if_false]
  cases key.toNat? with
  | none => rfl
  | some index =>
    refine if_neg fun same => ?_
    obtain ⟨c, mem, notDigit⟩ := odd
    rw [← same, Nat.toString_eq_ofList_toDigits, toList_ofList] at mem
    rw [Nat.isDigit_of_mem_toDigits (by decide) (by decide) mem] at notDigit
    cases notDigit

theorem issuerText_blank (notText : ∀ text, value ≠ .str text)
    (read : optionalGet rt value "#text" = some .undefined) :
    issuerText rt value = some (.str "") := by
  unfold issuerText
  split
  case h_1 text => exact absurd rfl (notText text)
  case h_2 =>
    rw [read]
    rfl

/-- The issuer that is read is the text of the only child of that name. -/
theorem issuerText_eq (inherits : NothingInherited rt)
    (children : ChildrenOf (TextOf decoding) (node.children.filter (·.localName = "Issuer")) value)
    (isFound : issuerText rt value = some found) (present : found.truthy = true) :
    found = ((node.onlyChild "Issuer").map decoding.text).getD (.str "") := by
  have text : ∀ value, rt.inherited value "#text" = some .undefined := inherits _ (by simp)
  have absent (notText : ∀ text, value ≠ .str text)
      (read : optionalGet rt value "#text" = some .undefined) : False := by
    rw [issuerText_blank notText read] at isFound
    rw [← some.inj isFound] at present
    exact absurd present (by decide)
  unfold Node.onlyChild
  generalize node.children.filter (·.localName = "Issuer") = nodes at children
  cases children with
  | none => exact (absent (by simp) rfl).elim
  | several =>
    refine (absent (by simp) ?_).elim
    rw [optionalGet, if_neg (by simp [Js.isNullish]), get_of_arr (by decide) ⟨'#', by decide, rfl⟩,
      text]
  | one described =>
    rw [map_some, getD_some]
    cases described with
    | plain read =>
      rw [read]
      exact (some.inj isFound).symm
    | number read => exact (absent (by simp) (text _)).elim
    | flag read => exact (absent (by simp) (text _)).elim
    | without none_ read =>
      refine (absent (by simp) ?_).elim
      exact (get_of_lookup text).trans (by rw [none_]; rfl)
    | @beside properties read =>
      have isText : optionalGet rt (.obj properties) "#text" =
          some ((properties.lookup "#text").getD .undefined) := get_of_lookup text
      rw [read, getD_some] at isText
      rw [issuerText, isText, map_some, some.injEq, orElse] at isFound
      · split at isFound
        · rw [← isFound] at present
          exact absurd present (by decide)
        · exact isFound.symm
      · simp

theorem format_eq (inherits : NothingInherited rt) (children : ChildrenOf (fun policy property =>
        HasAttribute rt decoding policy property "Format" ∧ property.isNullish = false)
      (node.children.filter (·.localName = "NameIDPolicy")) value)
    (isFound : optionalGet rt value "@_Format" = some found) :
    orElse found .null =
      (((node.onlyChild "NameIDPolicy").bind (·.attributeValue decoding "Format")).map
        Js.str).getD .null := by
  unfold Node.onlyChild
  generalize node.children.filter (·.localName = "NameIDPolicy") = nodes at children
  cases children with
  | none =>
    cases isFound
    rfl
  | several =>
    have undefined : found = .undefined := by
      have format : ∀ value, rt.inherited value "@_Format" = some .undefined :=
        inherits _ (by simp)
      rw [optionalGet, if_neg (by simp [Js.isNullish]),
        get_of_arr (by decide) ⟨'@', by decide, rfl⟩, format] at isFound
      exact (some.inj isFound).symm
    rw [undefined]
    rfl
  | one described =>
    obtain ⟨has, present⟩ := described
    rw [optionalGet, present, if_neg (by decide)] at isFound
    exact orElse_attribute has isFound .null

/-- The endpoint reads the values of the root. -/
theorem readAuthnRequest_eq (inherits : NothingInherited rt)
    (described : Describes rt decoding node value) (read : readAuthnRequest rt randomUUID value = some parsed)
    (issued : parsed.issuer.truthy = true) : parsed = node.request decoding randomUUID := by
  unfold readAuthnRequest at read
  obtain ⟨id, isId, read⟩ := bind_eq_some_iff.mp read
  obtain ⟨child, isChild, read⟩ := bind_eq_some_iff.mp read
  obtain ⟨issuer, isIssuer, read⟩ := bind_eq_some_iff.mp read
  obtain ⟨acsUrl, isAcsUrl, read⟩ := bind_eq_some_iff.mp read
  obtain ⟨policy, isPolicy, read⟩ := bind_eq_some_iff.mp read
  obtain ⟨format, isFormat, read⟩ := bind_eq_some_iff.mp read
  obtain ⟨issuers, hasIssuers, children⟩ := described.issuer
  obtain ⟨policies, hasPolicies, policyChildren⟩ := described.nameIdPolicy
  obtain rfl : child = issuers := some.inj (isChild.symm.trans hasIssuers)
  obtain rfl : policy = policies := some.inj (isPolicy.symm.trans hasPolicies)
  cases read
  simp only [Node.request, ParsedAuthnRequest.mk.injEq]
  refine ⟨?_, issuerText_eq inherits children isIssuer issued,
    orElse_attribute described.acsUrl isAcsUrl _, format_eq inherits policyChildren isFormat⟩
  rw [orElse_attribute described.id isId]
  cases node.attributeValue decoding "ID" <;> rfl

end Idenplane.Saml
