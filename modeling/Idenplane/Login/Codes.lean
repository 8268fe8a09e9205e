import Idenplane.Login.Handlers

/-! # The codes of a sign-in

Any number of visits, to any realms and with any cookies, parameters and consent requests, with
anything that the rest of the server does in between.  A code is written at the end of a
sign-in, by a session or after a consent; the last of these trusts the address of the visit.
-/

namespace Idenplane.Login

open Atomic Auth Admin StepUp

section Runs

inductive Step (d : Deps) (externals : Externals) (allowed : Visit → Store → Prop) :
    Store → Store → Prop where
  | visit {s : Store} (visit : Visit) : allowed visit s →
      Step d externals allowed s (visit.serve d externals s)
  | others {s s' : Store} : Others s s' → Step d externals allowed s s'

abbrev Reaches (d : Deps) (externals : Externals) (allowed : Visit → Store → Prop) :=
  Relation.ReflTransGen (Step d externals allowed)

structure Initial (s : Store) : Prop where
  userIds : (s.users.map (·.id)).Nodup
  users : ∀ user ∈ s.users, user.id < s.supply
  clientIds : (s.clients.map (·.id)).Nodup
  credentials : ∀ cred ∈ s.webAuthnCredentials, userRealm s cred.userId = some cred.realmId
  loginSessions : s.loginSessions = []
  pendingActions : s.pendingActions = []
  consentRequests : s.consentRequests = []
  authorizationCodes : s.authorizationCodes = []

theorem Initial.owned {s : Store} (initial : Initial s) : Owned s where
  keyed :=
    { userIds := initial.userIds
      users := initial.users
      actions := by simp [initial.pendingActions]
      actionIds := by simp [initial.pendingActions]
      tokens := by simp [initial.pendingActions]
      drawn := by simp [initial.pendingActions] }
  sessions := by simp [initial.loginSessions]
  pending := by simp [initial.pendingActions]
  credentials := initial.credentials
  requests := by simp [initial.consentRequests]
  established := by simp [initial.loginSessions]
  enrolled := by simp [initial.pendingActions]

variable {d : Deps} {x : Externals} {allowed : Visit → Store → Prop} {s₀ s : Store}

theorem Reaches.owned (initial : Initial s₀) (run : Reaches d x allowed s₀ s) : Owned s := by
  induction run with
  | refl => exact initial.owned
  | tail _ step ih =>
    cases step with
    | others work => exact work.owned ih
    | visit visit _ => exact (serve_chain d x visit ih).owned ih

/-- What holds at first and is kept by every write of an allowed visit holds in every run. -/
theorem Reaches.invariant {Inv : Store → Prop} (initial : Initial s₀) (first : Inv s₀)
    (others : ∀ {s s' : Store}, Owned s → Others s s' → Inv s → Inv s')
    (write : ∀ {visit : Visit} {start s s' : Store}, allowed visit start → Inv start → Owned s →
      Chain visit start s → Inv s → Write visit start s s' → Inv s')
    (run : Reaches d x allowed s₀ s) : Inv s := by
  induction run with
  | refl => exact first
  | tail pre step holds =>
    have owned := Reaches.owned initial pre
    cases step with
    | others work => exact others owned work holds
    | visit visit isAllowed =>
      have chain := serve_chain d x visit owned
      generalize visit.serve d x _ = final at chain
      induction chain with
      | refl => exact holds
      | tail pre next ih =>
        exact write isAllowed holds (Chain.owned owned pre) pre ih next

end Runs

section Homes

variable {d : Deps} {x : Externals} {s₀ s : Store}

/-- A consent is accepted where the request names the client that it was stored for. -/
def ConsentAtHome (visit : Visit) (start : Store) : Prop :=
  ∀ realm request client, Accepts visit start realm request →
    authRequestClient realm.id request.oauthParams start = some client →
      client.id = request.clientId

/-- User and client of the code are of one realm, and the user consented if the client asks
for it. -/
def AtHome (s : Store) (code : AuthorizationCode) : Prop :=
  ∃ client, s.clients.find? (·.id = code.clientId) = some client ∧
    userRealm s code.userId = some client.realmId ∧
    (client.requireConsent = true → Consented s code.userId client.id)

structure Homely (s : Store) : Prop where
  clientIds : (s.clients.map (·.id)).Nodup
  codes : ∀ code ∈ s.authorizationCodes, AtHome s code

theorem findClient_spec {realmId : Nat} {cid : String} {c : Client}
    (hit : findClient realmId cid s = some c) :
    c ∈ s.clients ∧ c.realmId = realmId := by
  have named := find?_some hit
  simp only [and_eq_true, decide_eq_true_eq] at named
  exact ⟨mem_of_find?_eq_some hit, named.1⟩

theorem AtHome.kept {s' : Store} {old code : AuthorizationCode} (home : AtHome s old)
    (cs : s'.clients = s.clients)
    (us : ∀ {id rid}, userRealm s id = some rid → userRealm s' id = some rid)
    (consents : ∀ {uid cid}, Consented s uid cid → Consented s' uid cid)
    (isUser : code.userId = old.userId) (isClient : code.clientId = old.clientId) :
    AtHome s' code := by
  obtain ⟨c, hit, m, consented⟩ := home
  refine ⟨c, ?_, ?_, fun need => ?_⟩
  · rw [cs, isClient, hit]
  · rw [isUser]
    exact us m
  · rw [isUser]
    exact consents (consented need)

theorem CodeGrounds.atHome {visit : Visit} {start : Store} {r : Realm} {u : User}
    {c : Client} {ps : AuthorizeParams} {acr : Option String} {code : AuthorizationCode}
    (unique : (s.clients.map (·.id)).Nodup) (chain : Chain visit start s)
    (home : ConsentAtHome visit start) (valid : authRequestClient r.id ps s = some c)
    (grounds : CodeGrounds visit start s r u c ps acr)
    (isUser : code.userId = u.id) (isClient : code.clientId = c.id) : AtHome s code := by
  obtain ⟨m, inRealm⟩ := findClient_spec (authRequestClient_spec valid)
  refine ⟨c, isClient ▸ Table.find?_of_mem unique m, ?_, ?_⟩
  · cases grounds with
    | asked asks _ =>
      rw [isUser, asks.member, inRealm]
    | accepted req accepts owned same isParams _ _ =>
      subst isParams
      have stored := home r req c accepts ((authRequestClient_chain chain .refl).trans valid)
      obtain ⟨rid, other, owner, hit, isOther⟩ := owned
      obtain ⟨isMember, here⟩ := findClient_spec hit
      rw [inj_on_of_nodup_map unique isMember m (isOther.trans stored.symm)] at here
      rw [isUser, same, owner, here]
  · intro need
    cases grounds with
    | asked _ consented =>
      rw [isUser]
      exact consented need
    | accepted req accepts _ same isParams _ consented =>
      subst isParams
      rw [isUser, same, home r req c accepts ((authRequestClient_chain chain .refl).trans valid)]
      exact consented

theorem homely_of_visits (initial : Initial s₀)
    (run : Reaches d x ConsentAtHome s₀ s) : Homely s := by
  refine run.invariant initial ⟨initial.clientIds, by simp [initial.authorizationCodes]⟩ ?_ ?_
  · intro s s' owned work homely
    refine ⟨work.clients ▸ homely.clientIds, fun code m => ?_⟩
    obtain ⟨old, isOld, isUser, isClient, -⟩ := work.codes code m
    exact (homely.codes old isOld).kept work.clients (work.users owned.keyed) work.consents isUser isClient
  · intro visit start s s' home _ owned chain homely write
    refine ⟨write.clients ▸ homely.clientIds, fun code m => ?_⟩
    have kept {old : AuthorizationCode} (atHome : AtHome s old) (isUser : code.userId = old.userId)
        (isClient : code.clientId = old.clientId) : AtHome s' code :=
      atHome.kept write.clients (write.users owned.keyed) write.consented isUser isClient
    obtain ⟨old, isOld, isUser, isClient, -⟩ | ⟨r, u, c, ps, valid, grounds, isUser,
      isClient⟩ := write.codes m
    · exact kept (homely.codes old isOld) isUser isClient
    · exact kept (grounds.atHome homely.clientIds chain home valid isUser isClient) rfl rfl

theorem codes_stay_in_realm (initial : Initial s₀) (run : Reaches d x ConsentAtHome s₀ s) :
    ∀ code ∈ s.authorizationCodes, AtHome s code :=
  (homely_of_visits initial run).codes

/-- Both realms have a client of one name and address; Alice is a user of the first. -/
def tenants : Store where
  supply := 40
  realms := [{ id := 1, name := "acme" }, { id := 2, name := "globex" }]
  users := [{ id := 3, realmId := 1, username := "alice", passwordHash := some "secret" }]
  clients :=
    [{ id := 4, realmId := 1, clientId := "app", redirectUris := ["https://app.example/cb"],
       requireConsent := true },
     { id := 5, realmId := 2, clientId := "app", redirectUris := ["https://app.example/cb"],
       requireConsent := true }]

theorem tenants_initial : Initial tenants where
  userIds := by decide
  users := by decide
  clientIds := by decide
  credentials := by decide
  loginSessions := rfl
  pendingActions := rfl
  consentRequests := rfl
  authorizationCodes := rfl

def noMigration : Externals := ⟨fun _ _ => false⟩

def appRequest : AuthorizeParams where
  response_type := "code"
  client_id := "app"
  redirect_uri := "https://app.example/cb"

def aliceSignsIn : Visit where
  request := 0
  realmName := "acme"
  cookies := {}
  action := .login { username := "alice", password := "secret", params := appRequest, csrf := true }

/-- The answer to the consent page, posted at the address of some realm. -/
def consentPosted (realmName : String) : Visit where
  request := 1
  realmName := realmName
  cookies := {}
  action := .consent true (some 42) false

def consentAsked : Store := aliceSignsIn.serve .transparent noMigration tenants

def consentAnswered (realmName : String) : Store :=
  (consentPosted realmName).serve .transparent noMigration consentAsked

theorem aliceSignsIn_atHome (s : Store) : ConsentAtHome aliceSignsIn s := by
  intro r req c accepts
  obtain ⟨-, csrf, reqId, isConsent, -⟩ := accepts
  cases isConsent

theorem consentPosted_atHome : ConsentAtHome (consentPosted "acme") consentAsked := by
  intro r req c accepts valid
  obtain ⟨isRealm, csrf, reqId, isConsent, row⟩ := accepts
  cases isConsent
  have same : (findRealm "acme" consentAsked).bind (fun r =>
      (findConsentRequest (sha256 42) consentAsked).bind fun req =>
        (authRequestClient r.id req.oauthParams consentAsked).map (·.id)) =
      (findConsentRequest (sha256 42) consentAsked).map (·.clientId) := by decide +kernel
  rw [show findRealm "acme" consentAsked = some r from isRealm, row] at same
  simpa [valid] using same

/-- At home the consent leads to a code. -/
theorem home_consent_code : (consentAnswered "acme").authorizationCodes.length = 1 ∧
      ∀ code ∈ (consentAnswered "acme").authorizationCodes, AtHome (consentAnswered "acme") code := by
  refine ⟨by decide +kernel, codes_stay_in_realm tenants_initial
    (.tail (.tail .refl (.visit aliceSignsIn (aliceSignsIn_atHome _)))
      (.visit (consentPosted "acme") consentPosted_atHome))⟩

/-- Posted to the other realm, the consent for the client of the first gives its namesake in
the second a code for Alice, who consented to nothing there. -/
theorem consent_crosses_realms : Initial tenants ∧
      Reaches .transparent noMigration (fun _ _ => True) tenants (consentAnswered "globex") ∧
      ¬ ∀ code ∈ (consentAnswered "globex").authorizationCodes,
        AtHome (consentAnswered "globex") code := by
  refine ⟨tenants_initial, .tail (.tail .refl (.visit aliceSignsIn trivial))
    (.visit (consentPosted "globex") trivial), fun atHome => ?_⟩
  have columns : (consentAnswered "globex").authorizationCodes.map (fun code =>
      (userRealm (consentAnswered "globex") code.userId,
        ((consentAnswered "globex").clients.find? (·.id = code.clientId)).map (·.realmId))) =
      [(some 1, some 2)] := by decide +kernel
  cases codes : (consentAnswered "globex").authorizationCodes with
  | nil =>
    rw [codes] at columns
    cases columns
  | cons code rest =>
    obtain ⟨c, hit, m, -⟩ := atHome code (codes ▸ mem_cons_self)
    rw [codes, map_cons, hit, m] at columns
    simp only [map_some, cons.injEq, Prod.mk.injEq, some.injEq] at columns
    omega

end Homes

section Levels

variable {d : Deps} {x : Externals} {s₀ s : Store}

def LevelMet (visit : Visit) (start : Store) : Prop :=
  ∀ realm params level client, findRealm visit.realmName start = some realm →
    Completes visit start realm params level →
    authRequestClient realm.id params start = some client →
      acrStrength client.requiredAcr ≤ acrStrength (some level)

structure Levelled (s : Store) : Prop where
  clientIds : (s.clients.map (·.id)).Nodup
  requests : ∀ request ∈ s.consentRequests,
    acrStrength (getClientRequiredAcr request.clientId s) ≤ acrStrength request.satisfiedAcr
  codes : ∀ code ∈ s.authorizationCodes,
    acrStrength (getClientRequiredAcr code.clientId s) ≤ acrStrength code.satisfiedAcr

theorem getClientRequiredAcr_of_mem (unique : (s.clients.map (·.id)).Nodup) {c : Client}
    (m : c ∈ s.clients) : getClientRequiredAcr c.id s = c.requiredAcr := by
  rw [getClientRequiredAcr, Table.find?_of_mem unique m]
  rfl

theorem getClientRequiredAcr_congr {s' : Store} (cs : s'.clients = s.clients) (id : Nat) :
    getClientRequiredAcr id s' = getClientRequiredAcr id s := by
  rw [getClientRequiredAcr, cs, getClientRequiredAcr]

variable {visit : Visit} {start : Store} {r : Realm} {u : User} {c : Client}
  {ps : AuthorizeParams} {acr : Option String}

theorem Asks.enough (unique : (s.clients.map (·.id)).Nodup) (chain : Chain visit start s)
    (met : LevelMet visit start) (valid : authRequestClient r.id ps s = some c)
    (asks : Asks visit start s r u c ps acr) :
    acrStrength (getClientRequiredAcr c.id s) ≤ acrStrength acr := by
  obtain ⟨m, -⟩ := findClient_spec (authRequestClient_spec valid)
  rw [getClientRequiredAcr_of_mem unique m]
  cases asks.level with
  | inl enough => exact enough
  | inr completed =>
    obtain ⟨level, rfl, completes⟩ := completed
    exact met r ps level c asks.isRealm completes
      ((authRequestClient_chain chain .refl).trans valid)

theorem RequestGrounds.enough {req : ConsentRequest} (levelled : Levelled start)
    (chain : Chain visit start s) (met : LevelMet visit start)
    (grounds : RequestGrounds visit start s req) :
    acrStrength (getClientRequiredAcr req.clientId s) ≤ acrStrength req.satisfiedAcr := by
  cases grounds with
  | asked asks valid _ isClient =>
    rw [isClient]
    exact asks.enough (chain.clients ▸ levelled.clientIds) chain met valid
  | again old isOld isClient level _ =>
    rw [isClient, level, getClientRequiredAcr_congr chain.clients]
    exact levelled.requests old isOld

theorem CodeGrounds.enough (levelled : Levelled start) (chain : Chain visit start s)
    (met : LevelMet visit start) (home : ConsentAtHome visit start)
    (valid : authRequestClient r.id ps s = some c)
    (grounds : CodeGrounds visit start s r u c ps acr) :
    acrStrength (getClientRequiredAcr c.id s) ≤ acrStrength acr := by
  cases grounds with
  | asked asks _ => exact asks.enough (chain.clients ▸ levelled.clientIds) chain met valid
  | accepted req accepts _ _ isParams level _ =>
    subst isParams
    rw [home r req c accepts ((authRequestClient_chain chain .refl).trans valid), level,
      getClientRequiredAcr_congr chain.clients]
    obtain ⟨-, csrf, reqId, -, stored⟩ := accepts
    exact levelled.requests req (findConsentRequest_mem stored)

theorem levelled_of_visits (initial : Initial s₀)
    (run : Reaches d x (fun visit s => ConsentAtHome visit s ∧ LevelMet visit s) s₀ s) :
    Levelled s := by
  refine run.invariant initial ⟨initial.clientIds, by simp [initial.consentRequests],
    by simp [initial.authorizationCodes]⟩ ?_ ?_
  · intro s s' owned work levelled
    have required := getClientRequiredAcr_congr work.clients
    refine ⟨work.clients ▸ levelled.clientIds, fun req m => ?_, fun code m => ?_⟩
    · rw [required]
      exact levelled.requests req (work.requests req m)
    · obtain ⟨old, isOld, -, isClient, level⟩ := work.codes code m
      rw [required, isClient, level]
      exact levelled.codes old isOld
  · intro visit start s s' met first owned chain levelled write
    have required := getClientRequiredAcr_congr write.clients
    refine ⟨write.clients ▸ levelled.clientIds, fun req m => ?_, fun code m => ?_⟩
    · rw [required]
      obtain old | grounds := write.requests m
      · exact levelled.requests req old
      · exact grounds.enough first chain met.2
    · obtain ⟨old, isOld, -, isClient, level⟩ | ⟨r, u, c, ps, valid, grounds, -,
        isClient⟩ := write.codes m
      · rw [required, isClient, level]
        exact levelled.codes old isOld
      · rw [required, isClient]
        exact grounds.enough first chain met.2 met.1 valid

theorem codes_meet_required_acr (initial : Initial s₀)
    (run : Reaches d x (fun visit s => ConsentAtHome visit s ∧ LevelMet visit s) s₀ s) :
    ∀ code ∈ s.authorizationCodes,
      acrStrength (getClientRequiredAcr code.clientId s) ≤ acrStrength code.satisfiedAcr :=
  (levelled_of_visits initial run).codes

def demanding (requiredAcr : String) : Store :=
  { tenants with clients := [{ id := 4, realmId := 1, clientId := "app", requiredAcr := some requiredAcr,
                               redirectUris := ["https://app.example/cb"] }] }

theorem demanding_initial (requiredAcr : String) : Initial (demanding requiredAcr) where
  userIds := tenants_initial.userIds
  users := tenants_initial.users
  clientIds := nodup_singleton _
  credentials := tenants_initial.credentials
  loginSessions := rfl
  pendingActions := rfl
  consentRequests := rfl
  authorizationCodes := rfl

def signedIn (requiredAcr : String) : Store :=
  aliceSignsIn.serve .transparent noMigration (demanding requiredAcr)

theorem aliceSignsIn_meets : LevelMet aliceSignsIn (demanding ACR_PASSWORD) := by
  intro r ps level c _ completes valid
  obtain ⟨-, rfl, -⟩ := completes
  obtain ⟨m, -⟩ := findClient_spec (authRequestClient_spec valid)
  rw [mem_singleton.mp m]

/-- A client that asks for the password gets it. -/
theorem password_code_level : (signedIn ACR_PASSWORD).authorizationCodes.length = 1 ∧
      ∀ code ∈ (signedIn ACR_PASSWORD).authorizationCodes,
        acrStrength (getClientRequiredAcr code.clientId (signedIn ACR_PASSWORD)) ≤
          acrStrength code.satisfiedAcr :=
  ⟨by decide +kernel, codes_meet_required_acr (demanding_initial _)
    (.tail .refl (.visit aliceSignsIn ⟨aliceSignsIn_atHome _, aliceSignsIn_meets⟩))⟩

/-- A client that asks for a second factor gets a code for a password. -/
theorem password_login_gives_weak_code : Initial (demanding ACR_MFA) ∧
      Reaches .transparent noMigration (fun _ _ => True) (demanding ACR_MFA) (signedIn ACR_MFA) ∧
      ¬ ∀ code ∈ (signedIn ACR_MFA).authorizationCodes,
        acrStrength (getClientRequiredAcr code.clientId (signedIn ACR_MFA)) ≤
          acrStrength code.satisfiedAcr :=
  ⟨demanding_initial _, .tail .refl (.visit aliceSignsIn trivial), by decide +kernel⟩

end Levels

end Idenplane.Login
