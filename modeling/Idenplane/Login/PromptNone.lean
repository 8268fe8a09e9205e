import Idenplane.Login.Flow

/-! # Requests that must not show a page

A request with `prompt=none` has to be answered at its own `redirect_uri`.  The endpoint looks at
the prompt only for a user who has a session, refuses that user, and sends the refusal to the
address that is registered first.
-/

namespace Idenplane.Login

open Atomic Auth Admin StepUp

def Page.uri : Page → Option String
  | .client redirect => some redirect.uri
  | .clientError uri _ => some uri
  | _ => none

/-- The cookie is that of a valid session of the user. -/
def HasSession (realm : Realm) (cookies : Cookies) (s : Store) (user : User) : Prop :=
  (withCookie cookies.session (validateLoginSession realm)).run s = (.ok (some user), s)

/-- The session is as strong as the request and the client require, and the user has agreed. -/
structure Suffices (client : Client) (params : AuthorizeParams) (cookies : Cookies) (s : Store)
    (user : User) : Prop where
  acr : ∀ token session required, cookies.session = some token →
    s.loginSessions.find? (·.tokenHash = sha256 token) = some session →
    resolveRequiredAcr (firstAcr params.acr_values) client.requiredAcr = some required →
    satisfiesAcr (getLoginSessionAcr session s) required = true
  consent : client.requireConsent = true →
    hasConsent user.id client.id (Text.words ' ' (params.scope.getD "openid")) s = true

/-- What the answer to a request with `prompt=none` has to be. -/
structure Silent (realm : Realm) (client : Client) (query : AuthorizeQuery) (cookies : Cookies)
    (s : Store) (outcome : Except Failure Answer) : Prop where
  redirected : ∃ answer, outcome = .ok answer ∧ answer.page.uri = some query.redirect_uri
  code : ∀ user answer, outcome = .ok answer → HasSession realm cookies s user →
    Suffices client query.toAuthorizeParams cookies s user →
    ∃ redirect, answer.page = .client redirect
  refusal : ∀ answer, outcome = .ok answer → (∀ user, ¬HasSession realm cookies s user) →
    answer.page = .clientError query.redirect_uri "login_required"

section Requests

variable {d : Deps} {r : Realm} {query : AuthorizeQuery} {cks : Cookies} {s : Store} {c : Client}

theorem withSession_reads (r : Realm) (cks : Cookies) :
    (withCookie cks.session (validateLoginSession r)).Keeps Eq := by
  unfold withCookie
  split
  · exact validateLoginSession_reads _ _
  · trivial

theorem HasSession.token {u : User} (has : HasSession r cks s u) :
    ∃ token, cks.session = some token := by
  cases isCookie : cks.session with
  | none =>
    rw [HasSession, isCookie] at has
    cases has
  | some token => exact ⟨token, rfl⟩

theorem authorizeInternal_of_session {u : User} (d : Deps) (asked : query.prompt = some "none")
    (valid : (validateAuthRequest r query.toAuthorizeParams).run s = (.ok c, s))
    (has : HasSession r cks s u) :
    (authorizeInternal d r query cks).run s = (if d.isUrl (c.redirectUris.headD "") then
        .ok { page := .clientError (c.redirectUris.headD "") "login_required" }
      else .error .internal, s) := by
  obtain ⟨tok, isCookie⟩ := has.token
  rw [authorizeInternal, run_bind, valid]
  simp only
  rw [run_bind, has]
  simp only [isCookie, asked, if_true]
  cases d.isUrl (c.redirectUris.headD "") <;> rfl

theorem authorizeInternal_of_no_session
    (valid : (validateAuthRequest r query.toAuthorizeParams).run s = (.ok c, s))
    (no : ∀ u, ¬HasSession r cks s u) {ans : Answer}
    (answered : ((authorizeInternal d r query cks).run s).1 = .ok ans) :
    ans.page = .login none := by
  rw [authorizeInternal, run_bind, valid] at answered
  simp only at answered
  rw [run_bind] at answered
  have same := (withSession_reads r cks).run (fun _ => rfl) Eq.trans s
  rcases ran : (withCookie cks.session (validateLoginSession r)).run s with ⟨res, s'⟩
  rw [ran] at same answered
  subst same
  cases res with
  | error f => cases answered
  | ok known =>
    cases known with
    | some u => exact absurd ran (no u)
    | none =>
      cases answered
      rfl

/-- The answer is right exactly when a user who has a session may not be given a code, and the
client has registered the `redirect_uri` of the request first. -/
theorem prompt_none_silent_iff (d : Deps) (cks : Cookies) (asked : query.prompt = some "none")
    (valid : (validateAuthRequest r query.toAuthorizeParams).run s = (.ok c, s)) :
    Silent r c query cks s ((authorizeInternal d r query cks).run s).1 ↔
      ∃ user, HasSession r cks s user ∧ ¬Suffices c query.toAuthorizeParams cks s user ∧
        c.redirectUris.headD "" = query.redirect_uri ∧
        d.isUrl query.redirect_uri = true := by
  constructor
  · intro silent
    obtain ⟨ans, answered, sent⟩ := silent.redirected
    by_cases some_ : ∃ user, HasSession r cks s user
    · obtain ⟨user, has⟩ := some_
      have answer_ := answered
      rw [authorizeInternal_of_session d asked valid has] at answer_
      split at answer_
      · rename_i isUrl
        cases answer_
        have first : c.redirectUris.headD "" = query.redirect_uri := some.inj sent
        refine ⟨user, has, fun suffices_ => ?_, first, first ▸ isUrl⟩
        obtain ⟨redirect, isCode⟩ := silent.code user _ answered has suffices_
        cases isCode
      · cases answer_
    · have login := authorizeInternal_of_no_session valid (not_exists.mp some_) answered
      rw [login] at sent
      cases sent
  · rintro ⟨user, has, lacking, first, isUrl⟩
    have answered := authorizeInternal_of_session d asked valid has
    rw [first, if_pos isUrl] at answered
    rw [answered]
    refine ⟨⟨_, rfl, rfl⟩, fun other ans isAnswer alsoHas suffices_ => ?_,
      fun ans _ no => absurd has (no user)⟩
    have same : other = user := by
      have ran := alsoHas.symm.trans has
      simpa using ran
    exact absurd (same ▸ suffices_) lacking

end Requests

namespace PromptNone

def app (requireConsent : Bool) : Client where
  id := 3
  realmId := 1
  clientId := "app"
  redirectUris := ["https://app.example/a", "https://app.example/b"]
  requireConsent := requireConsent

def signedIn (requireConsent : Bool) : Store where
  supply := 20
  realms := [acme]
  users := [alice]
  clients := [app requireConsent]
  loginSessions := [{ id := 4, userId := 2, realmId := 1, tokenHash := sha256 5, expiresAt := 1000 }]

def asks (redirectUri : String) : AuthorizeQuery where
  response_type := "code"
  client_id := "app"
  redirect_uri := redirectUri
  prompt := some "none"

end PromptNone

open PromptNone

theorem prompt_none_silent_iff_unagreed :
    Silent acme (app true) (asks "https://app.example/a") { session := some 5 } (signedIn true)
      ((authorizeInternal .transparent acme (asks "https://app.example/a")
        { session := some 5 }).run (signedIn true)).1 := by
  apply (prompt_none_silent_iff .transparent { session := some 5 } rfl rfl).mpr
  refine ⟨alice, rfl, fun suffices_ => ?_, rfl, rfl⟩
  cases suffices_.consent rfl

/-- Alice has nothing to agree to; she is refused, and at another address. -/
theorem signed_in_refused_elsewhere :
    (authorizeInternal .transparent acme (asks "https://app.example/b") { session := some 5 }).run
        (signedIn false) =
      (.ok { page := .clientError "https://app.example/a" "login_required" }, signedIn false) ∧
      ¬Silent acme (app false) (asks "https://app.example/b") { session := some 5 } (signedIn false)
        ((authorizeInternal .transparent acme (asks "https://app.example/b")
          { session := some 5 }).run (signedIn false)).1 := by
  refine ⟨rfl, fun silent => ?_⟩
  obtain ⟨ans, answered, sent⟩ := silent.redirected
  cases answered
  revert sent
  decide

end Idenplane.Login
