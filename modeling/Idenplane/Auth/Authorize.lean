import Idenplane.Auth.Grants

/-! # Authorization codes

`OAuthService`: what an authorization request has to look like, the code it creates
for a user who has logged in, and the clean-up of codes that nobody exchanged.
-/

namespace Idenplane.Auth

open Atomic

structure SatisfiedAuthContext where
  acr : Option String := none
  amr : List String := []
  deriving DecidableEq

/-- A pattern that ends in `/*` stands for its base and everything below it. -/
def matchesRedirectUri (redirectUri : String) (registeredUris : List String) : Bool :=
  registeredUris.any fun pattern =>
    if "/*".toList.isSuffixOf pattern.toList then
      let base := pattern.toList.dropLast
      redirectUri.toList = base.dropLast || base.isPrefixOf redirectUri.toList
    else pattern = redirectUri

def badRequest (message : String) : Failure := .oauth "Bad Request" message 400

def validateAuthRequest (realm : Realm) (params : AuthorizeParams) : Op Client := do
  require (params.response_type = "code") (badRequest "Only response_type=code is supported")
  require (params.client_id != "" && params.redirect_uri != "")
    (badRequest "client_id and redirect_uri are required")
  let found ← read (findClient realm.id params.client_id)
  let client ← orFail (found.filter (·.enabled)) (.oauth "Not Found" "Client not found" 404)
  require (matchesRedirectUri params.redirect_uri client.redirectUris)
    (badRequest "Invalid redirect_uri")
  require (client.grantTypes.contains "authorization_code")
    (badRequest "Client does not support authorization_code grant")
  require (!truthy params.code_challenge_method || params.code_challenge_method = some "S256")
    (badRequest "Only S256 code_challenge_method is supported")
  require (client.clientType != .PUBLIC || truthy params.code_challenge)
    (badRequest "PKCE (code_challenge) is required for public clients")
  pure client

/-- The row of a new code; the code is the number `s.supply`. -/
def codeRow (client : Client) (user : User) (params : AuthorizeParams)
    (ctx : SatisfiedAuthContext) (scope : Option String) (s : Store) :
    AuthorizationCode where
  id := s.supply + 1
  code := s.supply
  clientId := client.id
  userId := user.id
  redirectUri := params.redirect_uri
  scope := scope
  codeChallenge := params.code_challenge
  codeChallengeMethod := params.code_challenge_method
  nonce := params.nonce
  acrValues := params.acr_values
  satisfiedAcr := ctx.acr
  amr := ctx.amr
  expiresAt := s.now + 60 * 1000

/-- `authorizationCode.create`, which throws when the client is gone. -/
def createCode (client : Client) (user : User) (params : AuthorizeParams)
    (ctx : SatisfiedAuthContext) (scope : Option String) (s : Store) :
    Option Nat × Store :=
  if s.clients.any (·.id = client.id) then
    (some s.supply, { s with
      supply := s.supply + 2
      authorizationCodes :=
        codeRow client user params ctx scope s :: s.authorizationCodes })
  else (none, s)

/-- The address the browser is sent to, with its `code` and `state` parameters. -/
structure Redirect where
  uri : String
  code : Nat
  state : Option String
  deriving DecidableEq

def authorizeWithUser (d : Deps) (realm : Realm) (user : User) (params : AuthorizeParams)
    (ctx : SatisfiedAuthContext) : Op Redirect := do
  let client ← validateAuthRequest realm params
  let effectiveScopes ← read fun s =>
    getClientEffectiveScopes s client.id (parseAndValidate params.scope)
  let effectiveScope :=
    if effectiveScopes.isEmpty then params.scope else some (scopesToString effectiveScopes)
  let created ← atomic (createCode client user params ctx effectiveScope)
  let code ← orFail created .internal
  require (d.isUrl params.redirect_uri) .internal
  pure { uri := params.redirect_uri, code := code, state := given params.state }

def cleanupExpiredCodes : Op Unit :=
  modify fun s => { s with
    authorizationCodes := s.authorizationCodes.filter fun row => !(row.expiresAt < s.now) }

theorem validateAuthRequest_reads (r : Realm) (ps : AuthorizeParams) :
    (validateAuthRequest r ps).Keeps Eq :=
  .bind (.require _ _) fun _ => .bind (.require _ _) fun _ =>
    .bind (.read (fun _ => rfl) _) fun _ => .bind (.orFail _ _) fun _ =>
      .bind (.require _ _) fun _ => .bind (.require _ _) fun _ => .bind (.require _ _) fun _ =>
        .bind (.require _ _) fun _ => trivial

end Idenplane.Auth
