import Idenplane.Saml.Request

/-! # The sign-on endpoint

`SamlIdpController.handleSsoRequest` until it asks who the user is. -/

namespace Idenplane.Saml

open Auth Admin

structure SamlServiceProvider where
  id : Nat
  realmId : Nat
  entityId : String
  enabled : Bool := true
  acsUrl : String
  certificate : Option String := none
  nameIdFormat : String := "urn:oasis:names:tc:SAML:1.1:nameid-format:emailAddress"
  (signAssertions signResponses : Bool := true)
  validRedirectUris : List String := []
  deriving DecidableEq

def findSpByEntityId (realmId : Nat) (entityId : String)
    (providers : List SamlServiceProvider) : Option SamlServiceProvider :=
  providers.find? fun sp => sp.realmId = realmId && sp.entityId = entityId

/-- The provider of an issuer; a query with anything but a text throws. -/
def findIssuer (realmId : Nat) (issuer : Js) (providers : List SamlServiceProvider) :
    Except Failure (Option SamlServiceProvider) :=
  match issuer with
  | .str entityId => .ok (findSpByEntityId realmId entityId providers)
  | _ => .error .internal

/-- `allowedAcsUrls.includes(parsed.acsUrl)`, if there is one in the request. -/
def acsAllowed (sp : SamlServiceProvider) (acsUrl : Js) : Bool :=
  match acsUrl with
  | .null => true
  | .str url => (sp.acsUrl :: sp.validRedirectUris).contains url
  | _ => false

section

variable (rt : Js.Runtime) (decoders : Decoders) (libraries : Libraries)

def handleSsoRequest (realmId : Nat) (providers : List SamlServiceProvider) (randomUUID : String)
    (samlRequest : Option String) : Except Failure (ParsedAuthnRequest × SamlServiceProvider) := do
  let some samlRequest := given samlRequest
    | throw (badRequest "Missing SAMLRequest parameter")
  let parsed ← validateAuthnRequest rt decoders libraries randomUUID samlRequest
  let found ← findIssuer realmId parsed.issuer providers
  let some sp := found.filter (·.enabled)
    | throw (badRequest ("Unknown or disabled SAML service provider: " ++
        (match parsed.issuer with | .str issuer => issuer | _ => "")))
  if let some certificate := given sp.certificate then
    validateSignature decoders libraries samlRequest certificate
  if !acsAllowed sp parsed.acsUrl then
    throw (badRequest ("ACS URL in AuthnRequest does not match any registered endpoint for this " ++
      "service provider"))
  return (parsed, sp)

structure Routed (realmId : Nat) (providers : List SamlServiceProvider) (randomUUID : String)
    (samlRequest : String) (parsed : ParsedAuthnRequest) (sp : SamlServiceProvider) : Prop where
  present : samlRequest ≠ ""
  readable : validateAuthnRequest rt decoders libraries randomUUID samlRequest = .ok parsed
  found : findIssuer realmId parsed.issuer providers = .ok (some sp)
  enabled : sp.enabled = true
  acsUrl : acsAllowed sp parsed.acsUrl = true

end

variable {rt : Js.Runtime} {decoders : Decoders} {libraries : Libraries} {rid : Nat}
  {providers : List SamlServiceProvider} {randomUUID samlRequest : String}
  {parsed : ParsedAuthnRequest} {sp : SamlServiceProvider}

theorem handleSsoRequest_ok :
    handleSsoRequest rt decoders libraries rid providers randomUUID (some samlRequest) =
        .ok (parsed, sp) ↔
      Routed rt decoders libraries rid providers randomUUID samlRequest parsed sp ∧
        ∀ certificate, given sp.certificate = some certificate →
          validateSignature decoders libraries samlRequest certificate = .ok () := by
  constructor
  · intro done_
    have present : samlRequest ≠ "" := by
      intro empty
      subst empty
      cases done_
    have isGiven : given (some samlRequest) = some samlRequest := given_eq_some.mpr ⟨rfl, present⟩
    simp only [handleSsoRequest, isGiven, bind, Except.bind] at done_
    cases readable : validateAuthnRequest rt decoders libraries randomUUID samlRequest with
    | error f =>
      simp only [readable] at done_
      cases done_
    | ok req =>
      simp only [readable] at done_
      cases issuer : findIssuer rid req.issuer providers with
      | error f =>
        simp only [issuer] at done_
        cases done_
      | ok hit =>
        simp only [issuer] at done_
        cases enabled : hit.filter (·.enabled) with
        | none =>
          simp only [enabled] at done_
          cases done_
        | some row =>
          obtain ⟨isFound, isEnabled⟩ := filter_eq_some_iff.mp enabled
          simp only [enabled] at done_
          cases certificate : given row.certificate with
          | none =>
            simp only [certificate] at done_
            cases allowed : acsAllowed row req.acsUrl with
            | false =>
              simp only [allowed] at done_
              cases done_
            | true =>
              simp only [allowed] at done_
              cases done_
              refine ⟨⟨present, readable, by rw [issuer, isFound], isEnabled, allowed⟩, ?_⟩
              intro other isOther
              rw [certificate] at isOther
              cases isOther
          | some reg =>
            simp only [certificate] at done_
            cases signed : validateSignature decoders libraries samlRequest reg with
            | error f =>
              simp only [signed] at done_
              cases done_
            | ok _ =>
              simp only [signed] at done_
              cases allowed : acsAllowed row req.acsUrl with
              | false =>
                simp only [allowed] at done_
                cases done_
              | true =>
                simp only [allowed] at done_
                cases done_
                refine ⟨⟨present, readable, by rw [issuer, isFound], isEnabled, allowed⟩, ?_⟩
                intro other isOther
                rw [certificate] at isOther
                cases isOther
                exact signed
  · intro cond
    obtain ⟨routed, signed⟩ := cond
    have isGiven : given (some samlRequest) = some samlRequest := given_eq_some.mpr ⟨rfl, routed.present⟩
    simp only [handleSsoRequest, isGiven, bind, Except.bind, routed.readable, routed.found,
      filter_some, routed.enabled, if_true]
    cases certificate : given sp.certificate with
    | none => simp [routed.acsUrl, pure, Except.pure]
    | some reg => simp [signed reg certificate, routed.acsUrl, pure, Except.pure]

end Idenplane.Saml
