import Idenplane.Login.Codes
import Idenplane.Auth.GrantedScopes

/-! # Consents and the scopes of a code

Consent is asked for, stored and looked up by the scopes of the request.  The code carries the
default scopes of its client as well, to which nobody is asked to agree, and the consent form
looks the client up again by its name in whatever realm the form was posted to.
-/

namespace Idenplane.Login

open Atomic Auth Admin StepUp GrantedScopes Text Prod List

variable {uid : Nat} {u : User} {client : Client} {params : AuthorizeParams} {scopes : List String}

section Agreements

inductive ConsentEvent where
  | granted (userId clientId : Nat) (scopes : List String)
  | revoked (userId clientId : Nat)

/-- The scopes that the user agreed to for the client and did not revoke since; the newest event
comes first. -/
def agreedScopes (userId clientId : Nat) : List ConsentEvent → List String
  | [] => []
  | .granted user client scopes :: earlier =>
    if user = userId ∧ client = clientId then scopes ++ agreedScopes userId clientId earlier
    else agreedScopes userId clientId earlier
  | .revoked user client :: earlier =>
    if user = userId ∧ client = clientId then [] else agreedScopes userId clientId earlier

/-- The user agreed to all of the scopes, `openid` aside. -/
def AgreedTo (history : List ConsentEvent) (userId clientId : Nat) (scopes : List String) : Prop :=
  ∀ scope ∈ scopes, scope ≠ "openid" → scope ∈ agreedScopes userId clientId history

def CodeAgreed (history : List ConsentEvent) (code : AuthorizationCode) : Prop :=
  AgreedTo history code.userId code.clientId (words ' ' (code.scope.getD ""))

variable {history : List ConsentEvent}

theorem agreedScopes_granted {uid clientId u client : Nat} {scope : String}
    (agreed : scope ∈ agreedScopes uid clientId history) :
    scope ∈ agreedScopes uid clientId (.granted u client scopes :: history) := by
  rw [agreedScopes]
  split
  · exact mem_append_right _ agreed
  · exact agreed

theorem agreedScopes_self {uid clientId : Nat} {scope : String} (mem : scope ∈ scopes) :
    scope ∈ agreedScopes uid clientId (.granted uid clientId scopes :: history) := by
  rw [agreedScopes, if_pos ⟨rfl, rfl⟩]
  exact mem_append_left _ mem

theorem agreedScopes_revoked {uid clientId u client : Nat}
    (other : ¬(u = uid ∧ client = clientId)) :
    agreedScopes uid clientId (.revoked u client :: history) =
      agreedScopes uid clientId history := by
  rw [agreedScopes, if_neg other]

end Agreements

section CodeScopes

variable {s : Store} {clientId : Nat} {scope : Option String}

def askedScopes (params : AuthorizeParams) : List String :=
  words ' ' (params.scope.getD "openid")

def linkedScopes (s : Store) (links : List ClientScopeLink) (clientId : Nat) : List String :=
  (links.filter (·.clientId = clientId)).filterMap fun link =>
    (s.clientScopes.find? (·.id = link.clientScopeId)).map (·.name)

def defaultScopes (s : Store) (clientId : Nat) : List String :=
  (linkedScopes s s.clientDefaultScopes clientId).flatMap (words ' ')

def grantedRequest (s : Store) (clientId : Nat) (scope : Option String) : List String :=
  if (getClientEffectiveScopes s clientId (parseAndValidate scope)).isEmpty then
    words ' ' (scope.getD "")
  else (parseAndValidate scope).filter ((linkedScopes s s.clientOptionalScopes clientId).contains ·)

theorem getClientEffectiveScopes_eq (s : Store) (clientId : Nat) (requested : List String) :
    getClientEffectiveScopes s clientId requested =
      (linkedScopes s s.clientDefaultScopes clientId ++
        requested.filter ((linkedScopes s s.clientOptionalScopes clientId).contains ·)).eraseDups :=
  rfl

theorem words_supported {name : String} (supported : name ∈ supportedScopes) :
    words ' ' name = [name] := by
  have plain := supported_plain name supported
  have joined : words ' ' (" ".intercalate [name]) = [name] :=
    words_intercalate (by simpa using plain)
  simpa using joined

theorem mem_words_storedScope (word : String) :
    word ∈ words ' ' ((storedScope s clientId scope).getD "") ↔
      word ∈ defaultScopes s clientId ∨ word ∈ grantedRequest s clientId scope := by
  have isEffective := getClientEffectiveScopes_eq s clientId (parseAndValidate scope)
  unfold storedScope grantedRequest
  generalize getClientEffectiveScopes s clientId (parseAndValidate scope) = effective at isEffective
  cases effective with
  | nil =>
    -- Nothing is linked to the client by default.
    have none_ : defaultScopes s clientId = [] := by
      cases linked : linkedScopes s s.clientDefaultScopes clientId with
      | nil => rw [defaultScopes, linked, flatMap_nil]
      | cons name rest =>
        rw [linked, cons_append, eraseDups_cons] at isEffective
        cases isEffective
    rw [none_]
    simp
  | cons name rest =>
    simp only [isEmpty_cons, false_eq_true, if_false]
    rw [getD_some, scopesToString, words_joined, isEffective]
    simp only [mem_flatMap, mem_eraseDups, mem_append, defaultScopes]
    constructor
    · rintro ⟨part, isDefault | ofRequest, inPart⟩
      · exact .inl ⟨part, isDefault, inPart⟩
      · have supported := parseAndValidate_supported scope part (mem_filter.mp ofRequest).1
        rw [words_supported supported, mem_singleton] at inPart
        exact .inr (inPart ▸ ofRequest)
    · rintro (⟨part, isDefault, inPart⟩ | ofRequest)
      · exact ⟨part, .inl isDefault, inPart⟩
      · have supported := parseAndValidate_supported scope word (mem_filter.mp ofRequest).1
        refine ⟨word, .inr ofRequest, ?_⟩
        rw [words_supported supported]
        exact mem_singleton_self word

theorem grantedRequest_asked {word : String}
    (mem : word ∈ grantedRequest s clientId params.scope) : word ∈ askedScopes params := by
  unfold grantedRequest at mem
  unfold askedScopes
  cases isScope : params.scope with
  | none =>
    rw [isScope] at mem
    split at mem
    · cases mem
    · cases mem
  | some scope =>
    rw [isScope] at mem
    split at mem
    · exact mem
    · exact (mem_filter.mp (mem_filter.mp mem).1).1

end CodeScopes

section Visits

def revokeConsent (userId clientId : Nat) : Op Unit :=
  modify fun s => { s with
    userConsents := s.userConsents.filter fun consent =>
      !(consent.userId = userId && consent.clientId = clientId) }

/-- What may end with a code, and the page that asks for the consent. -/
inductive ConsentAction where
  /-- The end of a sign-in of some user. -/
  | completeLogin (user : User) (oauthParams : AuthorizeParams) (cookies : Cookies)
      (ctx : SatisfiedAuthContext)
  | authorize (query : AuthorizeQuery) (cookies : Cookies)
  | passkey (credentialId : String) (verified : Bool) (params : AuthorizeParams) (cookies : Cookies)
  | showConsent (reqId : Option Nat)
  | consent (csrf : Bool) (reqId : Option Nat) (deny : Bool)

variable (deps : Deps)

def ConsentAction.handler (realm : Realm) : ConsentAction → Op Answer
  | .completeLogin user oauthParams cookies ctx =>
    Login.completeLogin deps realm user oauthParams cookies ctx
  | .authorize query cookies => authorizeInternal deps realm query cookies
  | .passkey credentialId verified params cookies =>
    completeAuthentication deps realm credentialId verified params cookies
  | .showConsent reqId => showConsentForm reqId
  | .consent csrf reqId deny => handleConsent deps realm csrf reqId deny

def ConsentAction.serve (realm : Realm) (action : ConsentAction) (s : Store) : Store :=
  ((action.handler deps realm).run s).2

/-- The request whose scopes the user agrees to by posting the form: it has not expired, and the
consent can be stored. -/
def ConsentAction.grants (s : Store) : ConsentAction → Option ConsentRequest
  | .consent true (some reqId) false =>
    (findConsentRequest (sha256 reqId) s).filter fun request => !(request.expiresAt < s.now) &&
      (s.users.any (·.id = request.userId) && s.clients.any (·.id = request.clientId))
  | _ => none

def historyAfter (action : ConsentAction) (s : Store) (history : List ConsentEvent) :
    List ConsentEvent :=
  match action.grants s with
  | some request => .granted request.userId request.clientId request.scopes :: history
  | none => history

/-- What the rest of the server does in between: it may delete consents, requests and codes, and
change everything else. -/
structure Meanwhile (s s' : Store) : Prop where
  clientIds : (s'.clients.map (·.id)).Nodup
  consents : ∀ consent ∈ s'.userConsents, consent ∈ s.userConsents
  requests : ∀ request ∈ s'.consentRequests, request ∈ s.consentRequests
  codes : ∀ code ∈ s'.authorizationCodes, code ∈ s.authorizationCodes

inductive ConsentStep : Store × List ConsentEvent → Store × List ConsentEvent → Prop where
  | visit {s : Store} {history : List ConsentEvent} (realm : Realm) (action : ConsentAction) :
      ConsentStep (s, history) (action.serve deps realm s, historyAfter action s history)
  | revoke {s : Store} {history : List ConsentEvent} (userId clientId : Nat) :
      ConsentStep (s, history)
        (((revokeConsent userId clientId).run s).2, .revoked userId clientId :: history)
  | others {s s' : Store} {history : List ConsentEvent} : Meanwhile s s' →
      ConsentStep (s, history) (s', history)

structure Unasked (s : Store) : Prop where
  clientIds : (s.clients.map (·.id)).Nodup
  userConsents : s.userConsents = []
  consentRequests : s.consentRequests = []

end Visits

variable {req : ConsentRequest}

section Keeping

/-- Consents stand for agreements, and requests ask for what they say. -/
structure Honest (history : List ConsentEvent) (s : Store) : Prop where
  consents : ∀ consent ∈ s.userConsents, ∀ scope ∈ consent.scopes,
    scope ∈ agreedScopes consent.userId consent.clientId history
  requests : ∀ request ∈ s.consentRequests, request.scopes = askedScopes request.oauthParams

def clientTables (s : Store) :
    List Client × List ClientScope × List ClientScopeLink × List ClientScopeLink :=
  (s.clients, s.clientScopes, s.clientDefaultScopes, s.clientOptionalScopes)

structure Unconcerned (s s' : Store) : Prop where
  tables : clientTables s' = clientTables s
  users : s'.users = s.users
  consents : s'.userConsents = s.userConsents
  codes : s'.authorizationCodes = s.authorizationCodes
  requests : ∀ request ∈ s'.consentRequests, request ∈ s.consentRequests

namespace Unconcerned

variable {s s' s'' : Store}

theorem refl (s : Store) : Unconcerned s s := ⟨rfl, rfl, rfl, rfl, fun _ mem => mem⟩

theorem trans (first : Unconcerned s s') (snd : Unconcerned s' s'') : Unconcerned s s'' where
  tables := snd.tables.trans first.tables
  users := snd.users.trans first.users
  consents := snd.consents.trans first.consents
  codes := snd.codes.trans first.codes
  requests := fun req mem => first.requests req (snd.requests req mem)

end Unconcerned

theorem createLoginSession_unconcerned (r : Realm) (u : User) (old : Option Nat)
    (ctx : SatisfiedAuthContext) :
    (createLoginSession r u old ctx).Keeps Unconcerned := by
  have dropped : (deleteExistingSession old).Keeps Unconcerned := by
    cases old with
    | none => trivial
    | some tok => exact .modify fun s => ⟨rfl, rfl, rfl, rfl, fun _ mem => mem⟩
  have evicted : (evictLoginSessions r u.id).Keeps Unconcerned := by
    unfold evictLoginSessions
    split
    · trivial
    · refine .bind (.read .refl _) fun active => ?_
      split
      · exact .modify fun s => ⟨rfl, rfl, rfl, rfl, fun _ mem => mem⟩
      · trivial
  refine .bind dropped fun _ => .bind evicted fun _ => .bind (.atomic fun s => ?_) fun _ =>
    .orFail _ _
  unfold insertLoginSession
  split
  · exact ⟨rfl, rfl, rfl, rfl, fun _ mem => mem⟩
  · exact .refl s

theorem getConsentRequest_unconcerned (tok : Nat) : (getConsentRequest tok).Keeps Unconcerned := by
  refine .bind (.read .refl _) fun hit => ?_
  cases hit with
  | none => trivial
  | some hit =>
    refine .bind (.read .refl _) fun _ => .bind (.atomic fun s => ?_) fun _ =>
      .bind (.require _ _) fun _ => trivial
    exact ⟨rfl, rfl, rfl, rfl, fun _ mem => mem_of_mem_filter mem⟩

def IssuedFor (grounds : User → Client → AuthorizeParams → Prop) (s : Store)
    (code : AuthorizationCode) : Prop :=
  ∃ user client params, client ∈ s.clients ∧ code.userId = user.id ∧ code.clientId = client.id ∧
    code.scope = storedScope s client.id params.scope ∧ grounds user client params

/-- How far a visit has come that began in `start`. -/
structure Comes (grounds : User → Client → AuthorizeParams → Prop) (history : List ConsentEvent)
    (start s : Store) : Prop where
  tables : clientTables s = clientTables start
  honest : Honest history s
  codes : ∀ code ∈ s.authorizationCodes,
    code ∈ start.authorizationCodes ∨ IssuedFor grounds start code

variable {deps : Deps} {grounds : User → Client → AuthorizeParams → Prop}
  {history : List ConsentEvent} {start s s' : Store}

theorem Honest.begins (honest : Honest history s) : Comes grounds history s s :=
  ⟨rfl, honest, fun _ mem => .inl mem⟩

theorem storedScope_congr (tables : clientTables s = clientTables start) (clientId : Nat)
    (scope : Option String) : storedScope s clientId scope = storedScope start clientId scope := by
  simp only [clientTables, mk.injEq] at tables
  obtain ⟨-, scopes, defaults, optionals⟩ := tables
  have effective : getClientEffectiveScopes s clientId = getClientEffectiveScopes start clientId := by
    funext requested
    simp only [getClientEffectiveScopes, scopes, defaults, optionals]
  unfold storedScope
  rw [effective]

variable {ctx : SatisfiedAuthContext}

section

variable (comes : Comes grounds history start s)

include comes

theorem Comes.unconcerned (work : Unconcerned s s') : Comes grounds history start s' where
  tables := work.tables.trans comes.tables
  honest :=
    { consents := work.consents ▸ comes.honest.consents
      requests := fun req mem => comes.honest.requests req (work.requests req mem) }
  codes := work.codes ▸ comes.codes

theorem Comes.pass {α : Type} {p : Op α} {post : α → Store → Prop} (keeps : p.Keeps Unconcerned)
    (h : ∀ a t, p.run s = (.ok a, t) → Unconcerned s t → Comes grounds history start t → post a t) :
    p.Ensures (Comes grounds history start) post s :=
  .of_keeps .refl .trans keeps (fun _ work => comes.unconcerned work)
    fun a t ran work => h a t ran work (comes.unconcerned work)

theorem Comes.request (asks : req.scopes = askedScopes req.oauthParams) :
    Comes grounds history start (insertConsentRequest req s).2 where
  tables := comes.tables
  honest :=
    { consents := comes.honest.consents
      requests := by
        intro other mem
        cases mem with
        | head => exact asks
        | tail _ older => exact comes.honest.requests other older }
  codes := comes.codes

theorem Comes.code (ctx : SatisfiedAuthContext) (isClient : client ∈ s.clients)
    (reason : grounds u client params) : Comes grounds history start
      (createCode client u params ctx (storedScope s client.id params.scope) s).2 := by
  have cs : s.clients = start.clients := congrArg fst comes.tables
  unfold createCode
  split
  · refine ⟨comes.tables, ⟨comes.honest.consents, comes.honest.requests⟩, fun code mem => ?_⟩
    cases mem with
    | head =>
      refine .inr ⟨u, client, params, cs ▸ isClient, rfl, rfl, ?_, reason⟩
      exact storedScope_congr comes.tables _ _
    | tail _ older => exact comes.codes code older
  · exact comes

theorem authorizeWithUser_comes {r : Realm}
    (reason : ∀ client, authRequestClient r.id params s = some client → grounds u client params) :
    (authorizeWithUser deps r u params ctx).Ensures (Comes grounds history start)
      (fun _ => Comes grounds history start) s := by
  refine .bind (validateAuthRequest_ensures comes fun client valid => .read_bind (.atomic_bind ?_))
  have isClient : client ∈ s.clients := mem_of_find?_eq_some (authRequestClient_spec valid)
  have issued := comes.code ctx isClient (reason client valid)
  exact .orFail_bind issued fun _ _ => .require_bind issued fun _ => issued

end

/-- The user agreed to what the request asks for, if the client requires it. -/
def AskedFor (history : List ConsentEvent) (user : User) (client : Client)
    (params : AuthorizeParams) : Prop :=
  client.requireConsent = true → AgreedTo history user.id client.id (askedScopes params)

theorem Honest.hasConsent (honest : Honest history s) {uid clientId : Nat}
    (granted : hasConsent uid clientId scopes s = true) :
    AgreedTo history uid clientId scopes := by
  unfold Login.hasConsent at granted
  split at granted
  · cases granted
  · rename_i consent hit
    have named := find?_some hit
    simp only [and_eq_true, decide_eq_true_eq] at named
    intro scope mem _
    have stored := contains_iff_mem.mp (all_eq_true.mp granted scope mem)
    rw [← named.1, ← named.2]
    exact honest.consents consent (mem_of_find?_eq_some hit) scope stored

theorem consentOrCode_comes {r : Realm} (comes : Comes (AskedFor history) history start s)
    (valid : authRequestClient r.id params s = some client) :
    (consentOrCode deps r u client params ctx).Ensures (Comes (AskedFor history) history start)
      (fun _ => Comes (AskedFor history) history start) s := by
  have given_ : (consentGiven u client (askedScopes params)).Ensures
      (Comes (AskedFor history) history start)
      (fun granted t => t = s ∧ (granted = true → AskedFor history u client params)) s := by
    unfold consentGiven
    split
    · exact ⟨rfl, fun granted _ => comes.honest.hasConsent granted⟩
    · rename_i optional
      exact ⟨rfl, fun _ need => absurd need optional⟩
  refine .bind (given_.mono ?_)
  rintro granted t ⟨rfl, asked⟩
  cases granted with
  | true =>
    refine .bind ((authorizeWithUser_comes comes fun other isOther => ?_).mono
      fun _ _ done_ => done_)
    cases valid.symm.trans isOther
    exact asked rfl
  | false => exact .atomic_bind (comes.request rfl)

end Keeping

section Serving

variable {deps : Deps} {history : List ConsentEvent} {s : Store}
  {grounds : User → Client → AuthorizeParams → Prop}

/-- Why a code may be issued: the user agreed before, or accepts the request with this visit. -/
def Reason (history : List ConsentEvent) (accepted : Option ConsentRequest) (user : User)
    (client : Client) (params : AuthorizeParams) : Prop :=
  match accepted with
  | none => AskedFor history user client params
  | some request => user.id = request.userId ∧ params = request.oauthParams

theorem Honest.grown {history' : List ConsentEvent} (honest : Honest history s)
    (more : ∀ uid clientId, ∀ scope ∈ agreedScopes uid clientId history,
      scope ∈ agreedScopes uid clientId history') : Honest history' s where
  consents := fun consent mem scope isScope =>
    more _ _ scope (honest.consents consent mem scope isScope)
  requests := honest.requests

theorem Honest.after (honest : Honest history s) (act : ConsentAction) :
    Honest (historyAfter act s history) s := by
  unfold historyAfter
  split
  · exact honest.grown fun _ _ _ agreed => agreedScopes_granted agreed
  · exact honest

theorem Comes.granted {start : Store} (comes : Comes grounds history start s) (uid clientId : Nat)
    (agreed : ∀ scope ∈ scopes, scope ∈ agreedScopes uid clientId history) :
    Comes grounds history start (consentGranted uid clientId scopes s).2 := by
  unfold consentGranted
  split
  · refine ⟨comes.tables, ⟨fun consent mem => ?_, comes.honest.requests⟩, comes.codes⟩
    cases mem with
    | head => exact agreed
    | tail _ older => exact comes.honest.consents consent (mem_of_mem_filter older)
  · exact comes

theorem getConsentRequest_live {tok : Nat} {t : Store}
    (ran : (getConsentRequest tok).run s = (.ok (some req), t)) :
    findConsentRequest (sha256 tok) s = some req ∧ ¬req.expiresAt < s.now := by
  have stored := getConsentRequest_ok ran
  refine ⟨stored, fun expired => ?_⟩
  simp only [getConsentRequest, run_read_bind, stored, run_atomic_bind,
    run_require_bind_ok, pure_def, run_done, mk.injEq, ok.injEq] at ran
  rw [if_pos expired] at ran
  cases ran.2.1

theorem showConsentForm_comes (honest : Honest history s) (reqId : Option Nat) :
    (showConsentForm reqId).Ensures (Comes grounds history s) (fun _ => Comes grounds history s) s := by
  have first : Comes grounds history s s := honest.begins
  refine .orFail_bind first fun tok _ => .bind (first.pass (getConsentRequest_unconcerned tok) ?_)
  intro hit t ran _ comes
  refine .orFail_bind comes fun req isRequest => ?_
  subst isRequest
  have asks := honest.requests req (findConsentRequest_mem (getConsentRequest_ok ran))
  exact .atomic_bind (comes.request asks)

theorem handleConsent_comes (honest : Honest history s) (r : Realm) (csrf : Bool)
    (reqId : Option Nat) (deny : Bool) :
    let action := ConsentAction.consent csrf reqId deny
    let after := historyAfter action s history
    (handleConsent deps r csrf reqId deny).Ensures (Comes (Reason after (action.grants s)) after s)
      (fun _ => Comes (Reason after (action.grants s)) after s) s := by
  intro action after
  have first : Comes (Reason after (action.grants s)) after s s := (honest.after action).begins
  refine .require_bind first fun isCsrf => .orFail_bind first fun tok isToken =>
    .bind (first.pass (getConsentRequest_unconcerned tok) ?_)
  intro hit t ran work comes
  refine .orFail_bind comes fun request isRequest => ?_
  subst isCsrf isToken isRequest
  cases deny with
  | true => exact .require_bind comes fun _ => comes
  | false =>
    obtain ⟨row, live⟩ := getConsentRequest_live ran
    -- The consent is stored exactly when the visit counts as an agreement.
    have grants : (consentGranted request.userId request.clientId request.scopes t).1 = true →
        action.grants s = some request := by
      intro granted
      have clients : t.clients = s.clients := congrArg fst work.tables
      unfold consentGranted at granted
      split at granted
      · rename_i known
        rw [clients, work.users] at known
        simp only [action, ConsentAction.grants, row]
        rw [filter_some, known, decide_eq_false live]
        rfl
      · cases granted
    cases granted : (consentGranted request.userId request.clientId request.scopes t).1 with
    | false =>
      have same : (consentGranted request.userId request.clientId request.scopes t).2 = t := by
        unfold consentGranted at granted ⊢
        split at granted
        · cases granted
        · rename_i unknown
          rw [if_neg unknown]
      refine .bind (.atomic_bind ?_)
      rw [granted, same]
      exact comes
    | true =>
      have isGrant := grants granted
      have isAfter : after =
          .granted request.userId request.clientId request.scopes :: history := by
        simp only [after, historyAfter, isGrant]
      have given_ := comes.granted request.userId request.clientId
        fun scope (mem : scope ∈ request.scopes) => isAfter ▸ agreedScopes_self mem
      refine .bind (.atomic_bind (.require given_ fun _ => .read_bind
        (.orFail_bind given_ fun u isUser => .bind ?_)))
      refine (authorizeWithUser_comes given_ fun client valid => ?_).mono fun _ _ done_ => done_
      rw [isGrant]
      exact ⟨findUserById_id isUser, rfl⟩

theorem grants_mem {act : ConsentAction}
    (grants : act.grants s = some req) : req ∈ s.consentRequests := by
  unfold ConsentAction.grants at grants
  split at grants
  · exact findConsentRequest_mem (filter_eq_some_iff.mp grants).1
  · cases grants

theorem completeLogin_comes (honest : Honest history s) (r : Realm) (u : User)
    (params : AuthorizeParams) (cks : Cookies) (ctx : SatisfiedAuthContext) :
    (completeLogin deps r u params cks ctx).Ensures
      (Comes (AskedFor history) history s) (fun _ => Comes (AskedFor history) history s) s := by
  have first : Comes (AskedFor history) history s s := honest.begins
  have session := createLoginSession_unconcerned r u cks.session ctx
  unfold completeLogin
  split
  · exact .bind (first.pass session fun _ _ _ _ comes => comes)
  · refine .bind (validateAuthRequest_ensures first fun client valid => .bind (first.pass session ?_))
    intro _ t _ work comes
    rw [← authRequestClient_congr (congrArg fst work.tables)] at valid
    exact .bind ((consentOrCode_comes comes valid).mono fun _ _ done_ => done_)

theorem silentSignOn_comes (honest : Honest history s) (r : Realm) (u : User) (tok : Nat)
    (valid : authRequestClient r.id params s = some client) :
    (silentSignOn deps r u client tok params).Ensures
      (Comes (AskedFor history) history s) (fun _ => Comes (AskedFor history) history s) s := by
  refine .read_bind (.read_bind ?_)
  dsimp only
  split
  · exact honest.begins
  · exact .bind ((consentOrCode_comes honest.begins valid).mono fun _ _ done_ => done_)

theorem authorizeInternal_comes (honest : Honest history s) (r : Realm) (query : AuthorizeQuery)
    (cks : Cookies) : (authorizeInternal deps r query cks).Ensures
      (Comes (AskedFor history) history s) (fun _ => Comes (AskedFor history) history s) s := by
  have first : Comes (AskedFor history) history s s := honest.begins
  refine .bind (validateAuthRequest_ensures first fun client valid => .bind ?_)
  have known : (withCookie cks.session (validateLoginSession r)).Keeps Eq := by
    unfold withCookie
    split
    · exact validateLoginSession_reads _ _
    · trivial
  refine .of_reads known first fun u _ => ?_
  split
  · split
    · exact .require_bind first fun _ => first
    · split
      · exact first
      · exact silentSignOn_comes honest r _ _ valid
  · exact first

theorem completeAuthentication_comes (honest : Honest history s) (r : Realm)
    (credId : String) (verified : Bool) (params : AuthorizeParams) (cks : Cookies) :
    (completeAuthentication deps r credId verified params cks).Ensures
      (Comes (AskedFor history) history s) (fun _ => Comes (AskedFor history) history s) s := by
  have first : Comes (AskedFor history) history s s := honest.begins
  refine .require_bind first fun _ => .read_bind (.orFail_bind first fun cred _ =>
    .require_bind first fun _ => .require_bind first fun _ => .read_bind
      (.orFail_bind first fun u _ => .modify_bind (.bind ?_)))
  have answered : Comes (AskedFor history) history s (factorAnswered u.id s) :=
    first.unconcerned ⟨rfl, rfl, rfl, rfl, fun _ mem => mem⟩
  refine answered.pass (createLoginSession_unconcerned _ _ _ _) fun _ t _ _ comes => ?_
  split
  · exact comes
  · refine recover_ensures ?_ fun _ _ done_ => done_
    exact .bind (validateAuthRequest_ensures comes fun client valid =>
      .bind ((consentOrCode_comes comes valid).mono fun _ _ done_ => done_))

theorem serve_comes (deps : Deps) (honest : Honest history s) (r : Realm) (act : ConsentAction) :
    Comes (Reason (historyAfter act s history) (act.grants s)) (historyAfter act s history)
      s (act.serve deps r s) := by
  apply Ensures.run
  cases act with
  | completeLogin u params cks ctx =>
    exact completeLogin_comes honest r u params cks ctx
  | authorize query cks => exact authorizeInternal_comes honest r query cks
  | passkey credId verified params cks =>
    exact completeAuthentication_comes honest r credId verified params cks
  | showConsent reqId => exact showConsentForm_comes honest reqId
  | consent csrf reqId deny => exact handleConsent_comes honest r csrf reqId deny

end Serving

section Runs

variable {deps : Deps} {s₀ s : Store} {history : List ConsentEvent}

theorem honest_of_run (unasked : Unasked s₀)
    (run : Relation.ReflTransGen (ConsentStep deps) (s₀, []) (s, history)) :
    (s.clients.map (·.id)).Nodup ∧ Honest history s := by
  generalize final : (s, history) = state at run
  induction run generalizing s history with
  | refl =>
    cases final
    exact ⟨unasked.clientIds, by simp [unasked.userConsents], by simp [unasked.consentRequests]⟩
  | tail _ step ih =>
    cases step with
    | visit r act =>
      cases final
      obtain ⟨unique, honest⟩ := ih rfl
      have comes := serve_comes deps honest r act
      have clients : (act.serve deps r _).clients = _ := congrArg fst comes.tables
      exact ⟨clients ▸ unique, comes.honest⟩
    | revoke uid clientId =>
      cases final
      obtain ⟨unique, honest⟩ := ih rfl
      refine ⟨unique, fun consent mem scope isScope => ?_, honest.requests⟩
      obtain ⟨row, kept⟩ := mem_filter.mp mem
      have other : ¬(uid = consent.userId ∧ clientId = consent.clientId) := by
        rintro ⟨rfl, rfl⟩
        simp at kept
      rw [agreedScopes_revoked other]
      exact honest.consents consent row scope isScope
    | others work =>
      cases final
      obtain ⟨unique, honest⟩ := ih rfl
      exact ⟨work.clientIds, fun consent mem => honest.consents consent (work.consents consent mem),
        fun req mem => honest.requests req (work.requests req mem)⟩

/-- The user agreed to the client's default scopes; and where the consent form resolves another
client than the one that was asked for, to what that one is given because of the request. -/
structure FullyAsked (history : List ConsentEvent) (s : Store) (action : ConsentAction)
    (userId clientId : Nat) : Prop where
  defaults : AgreedTo history userId clientId (defaultScopes s clientId)
  elsewhere : ∀ request, action.grants s = some request → request.clientId ≠ clientId →
    AgreedTo history userId clientId (grantedRequest s clientId request.oauthParams.scope)

/-- A code of a client that requires consent is covered by what its user agreed to exactly if the
defaults are. -/
theorem codes_agreed_iff (unasked : Unasked s₀)
    (run : Relation.ReflTransGen (ConsentStep deps) (s₀, []) (s, history)) (r : Realm)
    (act : ConsentAction) {code : AuthorizationCode}
    (issued : code ∈ (act.serve deps r s).authorizationCodes)
    (fresh : code ∉ s.authorizationCodes) {client : Client} (isClient : client ∈ s.clients)
    (ofClient : code.clientId = client.id) (need : client.requireConsent = true) :
    CodeAgreed (historyAfter act s history) code ↔
      FullyAsked (historyAfter act s history) s act code.userId code.clientId := by
  obtain ⟨unique, honest⟩ := honest_of_run unasked run
  obtain known | ⟨u, other, params, isOther, isUser, ofOther, isScope, reason⟩ :=
    (serve_comes deps honest r act).codes code issued
  · exact absurd known fresh
  have same : other = client :=
    inj_on_of_nodup_map unique isOther isClient (ofOther.symm.trans ofClient)
  subst same
  have carried (word : String) : word ∈ words ' ' (code.scope.getD "") ↔
      word ∈ defaultScopes s code.clientId ∨ word ∈ grantedRequest s code.clientId params.scope := by
    rw [isScope, ofOther]
    exact mem_words_storedScope word
  unfold Reason at reason
  constructor
  · intro agreed
    refine ⟨fun word mem => agreed word ((carried word).mpr (.inl mem)), ?_⟩
    intro req isGrant _ word mem
    rw [isGrant] at reason
    apply agreed word
    rw [← reason.2] at mem
    exact (carried word).mpr (.inr mem)
  · intro asked word mem
    cases (carried word).mp mem with
    | inl isDefault => exact asked.defaults word isDefault
    | inr ofRequest =>
      have ask := grantedRequest_asked ofRequest
      cases isGrant : act.grants s with
      | none =>
        rw [isGrant] at reason
        rw [isUser, ofOther]
        exact reason need word ask
      | some req =>
        rw [isGrant] at reason
        obtain ⟨sameUser, sameParams⟩ := reason
        by_cases home : req.clientId = code.clientId
        · intro _
          have scopes := honest.requests req (grants_mem isGrant)
          rw [historyAfter, isGrant, isUser, sameUser, ← home]
          apply agreedScopes_self
          rw [scopes, ← sameParams]
          exact ask
        · rw [sameParams] at ofRequest
          exact asked.elsewhere req isGrant home word ofRequest

end Runs

section Mail

/-- Alice's realm has a scope `email`, which is linked to the client in one way or the other. -/
def mailTenants (defaults optionals : List ClientScopeLink) : Store :=
  { tenants with
    clientScopes := [{ id := 6, realmId := 1, name := "email" }]
    clientDefaultScopes := defaults
    clientOptionalScopes := optionals }

def acme : Realm := { id := 1, name := "acme" }

def app : Client where
  id := 4
  realmId := 1
  clientId := "app"
  redirectUris := ["https://app.example/cb"]
  requireConsent := true

def aliceLogsIn (scope : Option String) : ConsentAction :=
  .completeLogin { id := 3, realmId := 1, username := "alice", passwordHash := some "secret" }
    { appRequest with scope := scope } {} {}

def aliceAccepts : ConsentAction := .consent true (some 42) false

def mailAsked (defaults optionals : List ClientScopeLink) (scope : Option String) : Store :=
  (aliceLogsIn scope).serve .transparent acme (mailTenants defaults optionals)

def mailAccepted (defaults optionals : List ClientScopeLink) (scope : Option String) : Store :=
  aliceAccepts.serve .transparent acme (mailAsked defaults optionals scope)

theorem mailTenants_unasked (defaults optionals : List ClientScopeLink) :
    Unasked (mailTenants defaults optionals) :=
  ⟨tenants_initial.clientIds, rfl, rfl⟩

theorem mailAsked_reached (defaults optionals : List ClientScopeLink) (scope : Option String) :
    Relation.ReflTransGen (ConsentStep .transparent) (mailTenants defaults optionals, [])
      (mailAsked defaults optionals scope, []) :=
  .tail .refl (.visit acme (aliceLogsIn scope))

/-- What Alice was asked for is covered. -/
theorem requested_email_agreed :
    ∃ code ∈ (mailAccepted [] [⟨4, 6⟩] (some "openid email")).authorizationCodes,
      code.scope = some "email" ∧
      CodeAgreed (historyAfter aliceAccepts (mailAsked [] [⟨4, 6⟩] (some "openid email")) []) code := by
  have rows : ∃ code ∈ (mailAccepted [] [⟨4, 6⟩] (some "openid email")).authorizationCodes,
      code.scope = some "email" ∧ code.clientId = 4 := by decide +kernel
  obtain ⟨code, issued, scope, ofClient⟩ := rows
  refine ⟨code, issued, scope, ?_⟩
  have fresh : code ∉ (mailAsked [] [⟨4, 6⟩] (some "openid email")).authorizationCodes := by
    rw [show (mailAsked [] [⟨4, 6⟩] (some "openid email")).authorizationCodes = [] by decide +kernel]
    exact not_mem_nil
  have isClient : app ∈ (mailAsked [] [⟨4, 6⟩] (some "openid email")).clients := by decide +kernel
  refine (codes_agreed_iff (mailTenants_unasked [] [⟨4, 6⟩]) (mailAsked_reached [] [⟨4, 6⟩] _) acme
    aliceAccepts issued fresh isClient ofClient rfl).mpr ⟨?_, ?_⟩
  · have none_ : defaultScopes (mailAsked [] [⟨4, 6⟩] (some "openid email")) 4 = [] := by
      decide +kernel
    rw [ofClient, none_]
    intro scope mem
    cases mem
  · intro req isGrant other
    have home : (aliceAccepts.grants (mailAsked [] [⟨4, 6⟩] (some "openid email"))).map
        (·.clientId) = some 4 := by decide +kernel
    rw [isGrant, map_some, some.injEq] at home
    exact absurd (home.trans ofClient.symm) other

/-- Alice agreed to `openid`, and the code gives her e-mail address away. -/
theorem default_email_unasked : Unasked (mailTenants [⟨4, 6⟩] []) ∧
      Relation.ReflTransGen (ConsentStep .transparent) (mailTenants [⟨4, 6⟩] [], [])
        (mailAsked [⟨4, 6⟩] [] (some "openid"), []) ∧
      ∃ code ∈ (mailAccepted [⟨4, 6⟩] [] (some "openid")).authorizationCodes,
        (∃ client ∈ (mailAsked [⟨4, 6⟩] [] (some "openid")).clients,
          client.id = code.clientId ∧ client.requireConsent = true) ∧
        ¬CodeAgreed (historyAfter aliceAccepts (mailAsked [⟨4, 6⟩] [] (some "openid")) []) code := by
  refine ⟨mailTenants_unasked _ _, mailAsked_reached _ _ _, ?_⟩
  unfold CodeAgreed AgreedTo
  decide +kernel

end Mail

end Idenplane.Login
