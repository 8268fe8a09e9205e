import Idenplane.Admin.TokenOrigin
import Idenplane.Registration.Approval

/-! # The callback of a provider

The state that a login at a provider carries is a token of the realm like any other.
`handleCallback` knows it by two claims, `alias` and `realmId`, which nothing reserves: an
attribute, a mapper or a plugin may supply them.  And it does not ask whether the provider is
still enabled. -/

namespace Idenplane.Broker

open Atomic Auth Admin Registration Claims

/-- `brokerState.alias === alias`. -/
def namesAlias (claim : Option Value) (name : String) : Bool :=
  match claim with
  | some (.str text) => text = name
  | some (.id uuid) => toString uuid = name
  | _ => false

/-- `brokerState.realmId === realm.id`. -/
def namesRealm (claim : Option Value) (realmId : Nat) : Bool :=
  match claim with
  | some (.str text) => text = toString realmId
  | some (.id uuid) => uuid = realmId
  | _ => false

def findByAlias (realmId : Nat) (name : String) (s : Store) : Option IdentityProvider :=
  s.identityProviders.find? fun idp => idp.realmId = realmId && idp.alias_ = name

/-- `handleCallback` until it contacts the provider. -/
def acceptCallback (realm : Realm) (name : String) (state : Jwt) (s : Store) :
    Except Failure (IdentityProvider × Claims) := do
  let some key := getActiveSigningKey s realm.id | throw .internal
  let some brokerState := verifyJwt state key.id s.now
    | throw (unauthorized "Invalid or expired broker state")
  if !(namesAlias (brokerState "alias") name && namesRealm (brokerState "realmId") realm.id) then
    throw (badRequest "Broker state mismatch")
  let some idp := findByAlias realm.id name s
    | throw (.oauth "Not Found" ("Identity provider '" ++ name ++ "' not found") 404)
  return (idp, brokerState)

/-- The claims that are copied when they are truthy, and the parameters that they become. -/
def copiedClaims : List (String × String) :=
  [("scope", "scope"), ("state", "state"), ("nonce", "nonce"),
    ("codeChallenge", "code_challenge"), ("codeChallengeMethod", "code_challenge_method")]

def oauthParams (brokerState : Claims) : List (String × Option Value) :=
  [("response_type", some (.str "code")), ("client_id", brokerState "clientId"),
    ("redirect_uri", brokerState "redirectUri")] ++
  copiedClaims.filterMap fun (claim, parameter) =>
    ((brokerState claim).filter (·.truthy)).map fun value => (parameter, some value)

/-- `exchanged` says whether the provider accepts the code, and `answers` what it tells then. -/
def handleCallback (realm : RegistrationRealm) (runtime : Js.Runtime)
    (hostname : String → Option String) (name : String) (state : Jwt) (exchanged : Bool)
    (answers : Answers) : Run (User × List (String × Option Value)) := do
  let accepted ← onStore (read (acceptCallback realm.toRealm name state))
  match accepted with
  | .error failure => .fail failure
  | .ok (idp, brokerState) => do
    require exchanged (unauthorized "Failed to exchange code with external provider")
    let user ← brokerLogin realm idp runtime hostname answers
    pure (user, oauthParams brokerState)

def Carries (token : Jwt) (realmId : Nat) (name : String) : Prop :=
  namesAlias (token.payload "alias") name = true ∧
    namesRealm (token.payload "realmId") realmId = true

inductive Produced (d : Deps) (history : List (Act × Store)) (realmId : Nat) (name : String)
    (token : Jwt) : Prop where
  | initiateLogin {realm : Realm} {params : BrokerParams} {s t : Store} {key : Nat} :
      (.initiateLogin realm name params, s) ∈ history → realm.id = realmId →
      token ∈ ((Auth.initiateLogin d realm name params).run s).2.signed → token ∉ s.signed →
      token = stateToken realm name params key t → Produced d history realmId name token

/-- The callback is the answer to a login at this provider, in time. -/
structure Genuine (d : Deps) (history : List (Act × Store)) (realm : Realm) (name : String)
    (state : Jwt) (s : Store) (idp : IdentityProvider) : Prop where
  produced : Produced d history realm.id name state
  unexpired : ∃ exp, state.payload "exp" = some (.num exp) ∧ s.now / 1000 < exp
  provider : findByAlias realm.id name s = some idp
  enabled : idp.enabled = true

/-- No attribute, mapper or plugin gives the tokens of the realm an alias, or none gives them the
realm. -/
def StateFree (d : Deps) (realmId : Nat) (s : Store) : Prop :=
  Layers d realmId "alias" (fun claim => ∀ name, namesAlias claim name = false) s ∨
    Layers d realmId "realmId" (fun claim => namesRealm claim realmId = false) s

def Reserved (d : Deps) : Act × Store → Prop
  | (.tokenRequest _ realm _, s) => StateFree d realm.id s
  | _ => True

/-- A token that a key of the realm signed, and that names no provider of the realm unless layers
make it do so. -/
structure Plain (d : Deps) (realmId : Nat) (s : Store) (token : Jwt) : Prop where
  key : ∃ key ∈ s.signingKeys, key.realmId = realmId ∧ token.key = key.id
  plain : StateFree d realmId s → ∀ name, ¬Carries token realmId name

/-- A token that a key of the realm signed, and that has no alias. -/
structure Bare (realmId : Nat) (s : Store) (token : Jwt) : Prop where
  key : ∃ key ∈ s.signingKeys, key.realmId = realmId ∧ token.key = key.id
  bare : token.payload "alias" = none

structure StateOf (realm : Realm) (name : String) (params : BrokerParams) (s : Store)
    (token : Jwt) : Prop where
  key : ∃ key ∈ s.signingKeys, key.realmId = realm.id ∧ token.key = key.id
  state : ∃ key t, token = stateToken realm name params key t

variable {key : RealmSigningKey}

section Kinds

variable {d : Deps} {realmId : Nat} {r : Realm} {name : String} {ps : BrokerParams} {s s' : Store}

theorem StateFree.same (free : StateFree d realmId s) (same : layerTables s' = layerTables s) :
    StateFree d realmId s' :=
  free.imp (·.same same) (·.same same)

instance : TokenKind (Plain d realmId) where
  same := by
    intro s s' token same plain
    obtain ⟨layers, keys, _⟩ := tokenTables_eq same
    constructor
    · rw [keys]
      exact plain.key
    · exact fun free => plain.plain (free.same layers.symm)

instance : TokenKind (Bare realmId) where
  same := by
    intro s s' token same bare
    constructor
    · rw [(tokenTables_eq same).2.1]
      exact bare.key
    · exact bare.bare

instance : TokenKind (StateOf realm name params) where
  same := by
    intro s s' token same state
    constructor
    · rw [(tokenTables_eq same).2.1]
      exact state.key
    · exact state.state

theorem Plain.of_key {pl : Claims} {o : Origin} {expiresIn : Int}
    (hit : getActiveSigningKey s realmId = some key)
    (plain : StateFree d realmId s → (∀ name, namesAlias (pl "alias") name = false) ∨
      namesRealm (pl "realmId") realmId = false) :
    Plain d realmId s (stamp pl key.id o expiresIn s) := by
  obtain ⟨isKey, inRealm⟩ := getActiveSigningKey_mem hit
  refine ⟨⟨key, isKey, inRealm, rfl⟩, fun free name carries => ?_⟩
  have isAlias : (stamp pl key.id o expiresIn s).payload "alias" = pl "alias" := by
    simp [stamp]
  have isRealm : (stamp pl key.id o expiresIn s).payload "realmId" = pl "realmId" := by
    simp [stamp]
  unfold Carries at carries
  rw [isAlias, isRealm] at carries
  cases plain free with
  | inl noAlias => simp [noAlias name] at carries
  | inr noRealm => simp [noRealm] at carries

theorem context_bare (issue : Issue) :
    issue.context "alias" = none ∧ issue.context "realmId" = none := by
  unfold Issue.context spreadIf
  split <;> simp [spread]

theorem fixedAccess_bare (d : Deps) (issue : Issue) :
    issue.fixedAccess d "alias" = none ∧ issue.fixedAccess d "realmId" = none := by
  obtain ⟨noAlias, noRealm⟩ := context_bare issue
  simp [Issue.fixedAccess, spread, noAlias, noRealm]

theorem fixedId_bare (d : Deps) (issue : Issue) (tok : Jwt) (now : Int) :
    issue.fixedId d tok now "alias" = none ∧ issue.fixedId d tok now "realmId" = none := by
  obtain ⟨noAlias, noRealm⟩ := context_bare issue
  cases code : issue.code <;> simp [Issue.fixedId, code, spread, noAlias, noRealm]

theorem Plain.covers : Covers d realmId (Plain d realmId) where
  access := by
    rintro s key issue pl o expiresIn rfl hit isPayload
    obtain ⟨noAlias, noRealm⟩ := fixedAccess_bare d issue
    apply Plain.of_key hit
    intro free
    cases free with
    | inl layers =>
      left
      apply accessToken_good layers (by decide) _ isPayload
      rw [noAlias]
      exact fun _ => rfl
    | inr layers =>
      right
      apply accessToken_good layers (by decide) _ isPayload
      rw [noRealm]
      rfl
  id := by
    rintro s key issue tok o expiresIn rfl hit
    obtain ⟨noAlias, noRealm⟩ := fixedId_bare d issue tok s.now
    apply Plain.of_key hit
    intro free
    cases free with
    | inl layers =>
      left
      apply idToken_good layers (by decide) (by decide)
      rw [noAlias]
      exact fun _ => rfl
    | inr layers =>
      right
      apply idToken_good layers (by decide) (by decide)
      rw [noRealm]
      rfl
  fixed := by
    intro s key pl o expiresIn hit _ noAlias
    apply Plain.of_key hit
    intro _
    left
    rw [noAlias]
    exact fun _ => rfl

theorem Bare.covers : CoversFixed realmId (Bare realmId) := by
  intro s key pl o expiresIn hit _ noAlias
  obtain ⟨isKey, inRealm⟩ := getActiveSigningKey_mem hit
  exact ⟨⟨key, isKey, inRealm, rfl⟩, by simpa [stamp] using noAlias⟩

theorem Bare.plain {token : Jwt} (bare : Bare realmId s token) (name : String) :
    ¬Carries token realmId name := by
  intro carries
  have named := carries.1
  simp [bare.bare, namesAlias] at named

theorem StateOf.of_key (hit : getActiveSigningKey s r.id = some key) :
    StateOf r name ps s (stateToken r name ps key.id s) := by
  obtain ⟨isKey, inRealm⟩ := getActiveSigningKey_mem hit
  exact ⟨⟨key, isKey, inRealm, rfl⟩, key.id, s, rfl⟩

theorem literal_append (first snd : List (String × Value)) (k : String) :
    literal (first ++ snd) k = (literal snd k).or (literal first k) := by
  induction first with
  | nil => simp
  | cons e rest ih =>
    obtain ⟨key, v⟩ := e
    simp only [cons_append, literal_cons, ih, Option.or_assoc]

theorem literal_optional_of_ne {key k : String} (v : Option String) (other : k ≠ key) :
    literal (Auth.optional key v) k = none := by
  cases v <;> simp [Auth.optional, other]

theorem stateToken_claims (r : Realm) (name : String) (ps : BrokerParams) (key : Nat)
    (t : Store) : (stateToken r name ps key t).payload "alias" = some (.str name) ∧
      (stateToken r name ps key t).payload "realmId" = some (.id r.id) ∧
      (stateToken r name ps key t).payload "exp" = some (.num (t.now / 1000 + 600)) := by
  have isAlias : brokerState r name ps "alias" = some (.str name) := by
    simp [brokerState, literal_append, literal_optional_of_ne]
  have isRealm : brokerState r name ps "realmId" = some (.id r.id) := by
    simp [brokerState, literal_append, literal_optional_of_ne]
  simp [stateToken, stamp, spread, isAlias, isRealm]

end Kinds

section Run

variable {d : Deps} {adminApiKey : Option (List Char)} {hist : List (Act × Store)}
  {e : Act × Store} {realmId : Nat} {r : Realm} {name : String} {s s' : Store} {token : Jwt}

def Elsewhere (s : Store) (token : Jwt) (realmId : Nat) : Prop :=
  ∀ key ∈ s.signingKeys, key.id = token.key → key.realmId ≠ realmId

/-- A token that carries the claims of a state is one, or was signed for another realm. -/
structure StateInv (d : Deps) (history : List (Act × Store)) (s : Store) : Prop where
  keys : KeyTable s
  drawn : ∀ token ∈ s.signed, token.key < s.supply
  origin : ∀ token ∈ s.signed, ∀ realmId name, Carries token realmId name →
    Elsewhere s token realmId ∨ Produced d history realmId name token

theorem Produced.later (produced : Produced d hist realmId name token) :
    Produced d (e :: hist) realmId name token := by
  cases produced with
  | initiateLogin mem inRealm signed new isState =>
    exact .initiateLogin (.tail _ mem) inRealm signed new isState

theorem Elsewhere.other (elsewhere : Elsewhere s token realmId) (other : Other s s')
    (drawn : token.key < s.supply) : Elsewhere s' token realmId := by
  intro key' isKey signed
  cases other.keys key' isKey with
  | inl old =>
    obtain ⟨key, isOld, id, inRealm⟩ := old
    rw [← inRealm]
    exact elsewhere key isOld (id.trans signed)
  | inr new => omega

section

variable (inv : StateInv d hist s)

include inv

theorem StateInv.other (other : Other s s') : StateInv d hist s' where
  keys := other.keyTable inv.keys
  drawn := by
    rw [other.signed]
    exact fun token isSigned => (inv.drawn token isSigned).trans_le other.supply
  origin := by
    rw [other.signed]
    intro token isSigned realmId name carries
    apply (inv.origin token isSigned realmId name carries).imp_left
    exact fun elsewhere => elsewhere.other other (inv.drawn token isSigned)

/-- An operation whose new tokens are signed with the keys that are there, and are states of the
realm of their key only where a login has signed them. -/
theorem StateInv.step (supply : s.supply ≤ s'.supply) (keys : s'.signingKeys = s.signingKeys)
    (new : ∀ token ∈ s'.signed, token ∉ s.signed → token.key < s.supply ∧
      ∀ realmId name, Carries token realmId name → Elsewhere s token realmId ∨
        Produced d (e :: hist) realmId name token) :
    StateInv d (e :: hist) s' := by
  have elsewhere : ∀ token realmId, Elsewhere s token realmId → Elsewhere s' token realmId := by
    intro token realmId elsewhere
    unfold Elsewhere
    rw [keys]
    exact elsewhere
  refine ⟨⟨?_, ?_⟩, ?_, ?_⟩
  · intro key isKey
    rw [keys] at isKey
    have drawn := inv.keys.drawn key isKey
    omega
  · rw [keys]
    exact inv.keys.distinct
  · intro token isSigned
    by_cases old : token ∈ s.signed
    · exact (inv.drawn token old).trans_le supply
    · exact (new token isSigned old).1.trans_le supply
  · intro token isSigned realmId name carries
    by_cases old : token ∈ s.signed
    · exact (inv.origin token old realmId name carries).imp (elsewhere token realmId) .later
    · exact ((new token isSigned old).2 realmId name carries).imp_left (elsewhere token realmId)

theorem StateInv.quiet (work : AttributeWork s s') : StateInv d (e :: hist) s' := by
  have same := work.2
  simp only [Prod.mk.injEq] at same
  apply inv.step work.1 same.2.1
  intro token isSigned new
  rw [same.1] at isSigned
  exact absurd isSigned new

theorem StateInv.attributes {α : Type} {p : Op α}
    (works : p.Keeps AttributeWork) : StateInv d (e :: hist) (p.run s).2 :=
  inv.quiet (works.run .refl .trans s)

end

theorem elsewhere_of_key (table : KeyTable s)
    (key : ∃ key ∈ s.signingKeys, key.realmId = r.id ∧ token.key = key.id)
    (other : r.id ≠ realmId) : Elsewhere s token realmId := by
  obtain ⟨key, isKey, inRealm, signedBy⟩ := key
  intro row isRow same
  rw [table.distinct row isRow key isKey (same.trans signedBy), inRealm]
  exact other

section

variable (inv : StateInv d hist s)

include inv

theorem StateInv.signs {α : Type} {p : Op α} {kind : Store → Jwt → Prop} (signs : p.Moves (Signs kind) s)
    (keyed : ∀ token, kind s token → ∃ key ∈ s.signingKeys, key.realmId = r.id ∧ token.key = key.id)
    (plain : ∀ token, kind s token → ∀ name, ¬Carries token r.id name) :
    StateInv d (e :: hist) (p.run s).2 := by
  apply inv.step signs.supply (tokenTables_eq signs.tables).2.1
  intro token isSigned new
  have isKind := (signs.signed token isSigned).resolve_left new
  have key := keyed token isKind
  refine ⟨key_drawn inv.keys key, fun realmId name carries => ?_⟩
  left
  apply elsewhere_of_key inv.keys key
  intro same
  subst same
  exact plain token isKind name carries

theorem StateInv.mints {pl : Claims}
    {o : Origin} {expiresIn : Int} {t : Store} (isKey : key ∈ s.signingKeys)
    (quiet : Quiet s t) (noAlias : pl "alias" = none)
    (isNext : s' = { t with
      supply := t.supply + 1
      signed := stamp pl key.id o expiresIn t :: t.signed }) :
    StateInv d (e :: hist) s' := by
  have signed : t.signed = s.signed := congrArg Prod.snd quiet.tables
  have keys := (tokenTables_eq (congrArg Prod.fst quiet.tables)).2.1
  apply inv.step
  · rw [isNext]
    exact Nat.le_succ_of_le quiet.supply
  · rw [isNext]
    exact keys
  intro token isSigned new
  rw [isNext] at isSigned
  have isToken : token = stamp pl key.id o expiresIn t := by
    cases mem_cons.mp isSigned with
    | inl same => exact same
    | inr old => exact absurd (signed ▸ old) new
  subst isToken
  refine ⟨(inv.keys.drawn key isKey).1, fun realmId name carries => ?_⟩
  have carried := carries.1
  simp [stamp, noAlias, namesAlias] at carried

theorem StateInv.login (allowed : Bool) (uname pw : String) :
    StateInv d (e :: hist) ((login d allowed uname pw).run s).2 := by
  rcases ran : (Admin.login d allowed uname pw).run s with ⟨res, s'⟩
  cases res with
  | error f =>
    have quiet : Quiet s s' := login_fails d allowed uname pw s s' f ran
    exact inv.quiet (attributeWork_of_quiet quiet)
  | ok token =>
    obtain ⟨master, u, key, t, _, _, _, hit, quiet, rfl, isNext⟩ := login_ok ran
    exact inv.mints (getActiveSigningKey_mem hit).1 quiet (by simp [adminTokenPayload]) isNext

theorem StateInv.createAdminSession (apiKey : List Char) :
    StateInv d (e :: hist) ((createAdminSession d adminApiKey apiKey).run s).2 := by
  rcases ran : (Admin.createAdminSession d adminApiKey apiKey).run s with ⟨res, s'⟩
  cases res with
  | error f =>
    have quiet : Quiet s s' := createAdminSession_fails d adminApiKey apiKey s s' f ran
    exact inv.quiet (attributeWork_of_quiet quiet)
  | ok token =>
    obtain ⟨master, key, _, hit, _, rfl, isNext⟩ := createAdminSession_ok ran
    exact inv.mints (getActiveSigningKey_mem hit).1 (.refl s) (by simp [adminTokenPayload])
      isNext

theorem StateInv.initiateLogin (r : Realm) (name : String)
    (ps : BrokerParams) : StateInv d ((.initiateLogin r name ps, s) :: hist)
      ((Auth.initiateLogin d r name ps).run s).2 := by
  have signs : (Auth.initiateLogin d r name ps).Moves
      (Signs (StateOf r name ps)) s := initiateLogin_signs .of_key s
  apply inv.step signs.supply (tokenTables_eq signs.tables).2.1
  intro token isSigned new
  have isState := (signs.signed token isSigned).resolve_left new
  obtain ⟨key, t, isToken⟩ := isState.state
  refine ⟨key_drawn inv.keys isState.key, fun realmId other carries => ?_⟩
  obtain ⟨isAlias, inRealm, _⟩ := stateToken_claims r name ps key t
  have named := carries.1
  have ofRealm := carries.2
  rw [isToken, isAlias] at named
  rw [isToken, inRealm] at ofRealm
  have sameName : name = other := of_decide_eq_true named
  have sameRealm : r.id = realmId := of_decide_eq_true ofRealm
  subst sameName
  exact .inr (.initiateLogin mem_cons_self sameRealm isSigned new isToken)

theorem StateInv.act (act : Act) (reserved : Reserved d (act, s)) :
    StateInv d ((act, s) :: hist) (perform d adminApiKey act s) := by
  cases act with
  | login allowed uname pw => exact inv.login allowed uname pw
  | createAdminSession apiKey => exact inv.createAdminSession apiKey
  | tokenRequest req r body =>
    exact inv.signs (handleTokenRequest_signs d req r body Plain.covers s)
      (fun _ plain => plain.key) fun _ plain => plain.plain reserved
  | startImpersonation r adminUserId targetUserId =>
    exact inv.signs (startImpersonation_signs Bare.covers adminUserId targetUserId s)
      (fun _ bare => bare.key) fun _ bare => bare.plain
  | initiateLogin r name ps => exact inv.initiateLogin r name ps
  | dispatchLogoutTokens r uid sid =>
    exact inv.signs (dispatchLogoutTokens_signs Bare.covers uid sid s)
      (fun _ bare => bare.key) fun _ bare => bare.plain
  | createAttribute r dto => exact inv.attributes (createAttribute_works r dto)
  | updateAttribute r attributeId dto =>
    exact inv.attributes (updateAttribute_works r attributeId dto)
  | removeAttribute r attributeId =>
    exact inv.attributes (removeAttribute_works r attributeId)
  | setUserAttributes r uid attrs =>
    exact inv.attributes (setUserAttributes_works d r uid attrs)
  | registerAttributes r uid body =>
    exact inv.attributes (registerAttributes_works d r uid body)

end

theorem StateInv.reaches {start : Store} (keys : KeyTable start) (unsigned : start.signed = [])
    (reaches : Reaches d adminApiKey start hist s)
    (reserved : ∀ e ∈ hist, Reserved d e) : StateInv d hist s := by
  induction reaches with
  | start =>
    constructor
    · exact keys
    · simp [unsigned]
    · simp [unsigned]
  | act act _ ih =>
    have before := ih fun e mem => reserved e (.tail _ mem)
    exact before.act act (reserved _ mem_cons_self)
  | other _ other ih => exact (ih reserved).other other

variable {state : Jwt} {idp : IdentityProvider} {brokerState : Claims}

theorem acceptCallback_ok (accepted : acceptCallback r name state s = .ok (idp, brokerState)) :
    ∃ key, getActiveSigningKey s r.id = some key ∧
      verifyJwt state key.id s.now = some brokerState ∧ Carries state r.id name ∧
      findByAlias r.id name s = some idp := by
  unfold acceptCallback at accepted
  cases found : getActiveSigningKey s r.id with
  | none =>
    rw [found] at accepted
    cases accepted
  | some key =>
    simp only [found] at accepted
    cases verified : verifyJwt state key.id s.now with
    | none =>
      simp only [verified] at accepted
      cases accepted
    | some pl =>
      obtain ⟨_, isPayload⟩ := verifyJwt_ok verified
      simp only [verified] at accepted
      cases carries : namesAlias (pl "alias") name && namesRealm (pl "realmId") r.id with
      | false =>
        simp only [carries] at accepted
        cases accepted
      | true =>
        simp only [carries] at accepted
        cases isIdp : findByAlias r.id name s with
        | none =>
          simp only [isIdp] at accepted
          cases accepted
        | some row =>
          simp only [isIdp] at accepted
          cases accepted
          rw [isPayload] at carries
          exact ⟨key, rfl, verified, Bool.and_eq_true_iff.mp carries, rfl⟩

/-- Nobody is signed in before the provider has been contacted. -/
theorem handleCallback_ok {r : RegistrationRealm} {runtime : Js.Runtime}
    {host : String → Option String} {exchanged : Bool} {answers : Answers}
    {w w' : World} {res : User × List (String × Option Value)}
    (ran : (handleCallback r runtime host name state exchanged answers).run w = (.ok res, w')) :
    ∃ idp brokerState, acceptCallback r.toRealm name state w.store = .ok (idp, brokerState) := by
  obtain ⟨accepted, t, checked, rest⟩ := run_bind_ok.mp ran
  have isAccepted : accepted = acceptCallback r.toRealm name state w.store := by
    injection checked with res _
    injection res with same
    exact same.symm
  cases accepted with
  | error f => cases rest
  | ok pair => exact ⟨pair.1, pair.2, isAccepted.symm⟩

theorem StateInv.genuine (inv : StateInv d hist s) (isSigned : state ∈ s.signed)
    (accepted : acceptCallback r name state s = .ok (idp, brokerState))
    (enabled : idp.enabled = true) : Genuine d hist r name state s idp := by
  obtain ⟨key, hit, verified, carries, isIdp⟩ := acceptCallback_ok accepted
  obtain ⟨isKey, inRealm⟩ := getActiveSigningKey_mem hit
  have signedBy := (verifyJwt_ok verified).1
  cases inv.origin state isSigned r.id name carries with
  | inl elsewhere => exact absurd inRealm (elsewhere key isKey signedBy.symm)
  | inr produced =>
    refine ⟨produced, ?_, isIdp, enabled⟩
    cases produced with
    | @initiateLogin _ ps _ t key' _ _ _ _ isState =>
      have exp : state.payload "exp" = some (.num (t.now / 1000 + 600)) := by
        rw [isState]
        exact (stateToken_claims ..).2.2
      refine ⟨t.now / 1000 + 600, exp, ?_⟩
      simp only [verifyJwt, exp, Option.ite_none_right_eq_some, and_eq_true,
        decide_eq_true_eq] at verified
      exact verified.1.1.2

end Run

/-- In every run in which no attribute, mapper or plugin makes a state of a token of the realm,
and for every provider that is still enabled: the callback contacts the provider, and signs
somebody in, only with a state that a login at that provider has signed, and in time. -/
theorem callbacks_are_genuine (d : Deps) (adminApiKey : Option (List Char)) (start : Store)
    (keys : KeyTable start) (unsigned : start.signed = []) (hist : List (Act × Store))
    (s : Store) (reaches : Reaches d adminApiKey start hist s)
    (reserved : ∀ e ∈ hist, Reserved d e) (r : RegistrationRealm) (name : String)
    (state : Jwt) (isSigned : state ∈ s.signed)
    (enabled : ∀ idp, findByAlias r.id name s = some idp → idp.enabled = true) :
    (∀ idp brokerState, acceptCallback r.toRealm name state s = .ok (idp, brokerState) →
      Genuine d hist r.toRealm name state s idp) ∧
    ∀ runtime host exchanged answers w w' res, w.store = s →
      (handleCallback r runtime host name state exchanged answers).run w =
        (.ok res, w') → ∃ idp, Genuine d hist r.toRealm name state s idp := by
  have inv := StateInv.reaches keys unsigned reaches reserved
  have contacted : ∀ idp brokerState,
      acceptCallback r.toRealm name state s = .ok (idp, brokerState) →
      Genuine d hist r.toRealm name state s idp := by
    intro idp brokerState accepted
    obtain ⟨_, _, _, _, isIdp⟩ := acceptCallback_ok accepted
    exact inv.genuine isSigned accepted (enabled idp isIdp)
  refine ⟨contacted, ?_⟩
  intro runtime host exchanged answers w w' res same ran
  subst same
  obtain ⟨idp, brokerState, accepted⟩ := handleCallback_ok ran
  exact ⟨idp, contacted idp brokerState accepted⟩

def cafe : RegistrationRealm := { id := 1, name := "cafe" }

def hub : IdentityProvider :=
  { id := 8, realmId := 1, alias_ := "hub", clientId := "cafe"
    authorizationUrl := "https://hub.example/authorize" }

def cafeStore : Store where
  supply := 40
  realms := [cafe.toRealm]
  users := [{ id := 3, realmId := 1, username := "mallory", passwordHash := some "secret" }]
  clients := [{ id := 5, realmId := 1, clientId := "app", clientType := .PUBLIC,
                grantTypes := ["password"], redirectUris := ["https://app.example/cb"] }]
  signingKeys := [{ id := 7, realmId := 1, createdAt := 0 }]
  identityProviders := [hub]

theorem cafeStore_keys : KeyTable cafeStore := by
  constructor
  · intro key isKey
    rw [mem_singleton.mp isKey]
    decide
  · intro a isA b isB _
    rw [mem_singleton.mp isA, mem_singleton.mp isB]

def hubParams : BrokerParams := { client_id := "app", redirect_uri := "https://app.example/cb" }

def hubLogin : Act := .initiateLogin cafe.toRealm "hub" hubParams

def hubState : Jwt := stateToken cafe.toRealm "hub" hubParams 7 cafeStore

def hubCallback (state : Jwt) (s : Store) :
    Except Failure (User × List (String × Option Value)) × World :=
  (handleCallback cafe clubServer.runtime clubServer.hostname "hub" state true
    { userinfo := some (.obj [("sub", .str "a-1")]) }).run { store := s }

/-- The callback comes back with the state, and signs a user in. -/
theorem guest_is_genuine : ∃ hist s res w', Reaches .transparent none cafeStore hist s ∧
      hubCallback hubState s = (.ok res, w') ∧
      Genuine .transparent hist cafe.toRealm "hub" hubState s hub := by
  refine ⟨_, _, _, _, .act hubLogin .start, rfl, ?_⟩
  refine (callbacks_are_genuine .transparent none cafeStore cafeStore_keys rfl _ _
    (.act hubLogin .start) ?_ cafe "hub" hubState mem_cons_self ?_).1 hub _ rfl
  · intro e mem
    rw [mem_singleton.mp mem]
    trivial
  · intro idp hit
    cases hit
    rfl

def mappedTo (claim : String) : CreateCustomAttributeDto where
  name := claim
  displayName := claim
  mapToOidcClaim := some claim

def malloryActs : List Act :=
  [.tokenRequest 0 cafe.toRealm
      { grant_type := some "password", client_id := some "app", username := some "mallory"
        password := some "secret" },
    .setUserAttributes cafe.toRealm 3 [("alias", "hub"), ("realmId", "1")],
    .createAttribute cafe.toRealm (mappedTo "realmId"),
    .createAttribute cafe.toRealm (mappedTo "alias")]

def performed : List Act → Store
  | [] => cafeStore
  | act :: earlier => perform .transparent none act (performed earlier)

def malloryState : Jwt := ((performed malloryActs).signed.drop 1).headD hubState

def disabledStore : Store := { performed [hubLogin] with
  identityProviders := [{ hub with enabled := false }] }

theorem disabledStore_other : Other (performed [hubLogin]) disabledStore where
  supply := le_rfl
  signed := rfl
  keys key isKey := .inl ⟨key, isKey, rfl, rfl⟩
  distinct a isA b isB _ := by
    rw [mem_singleton.mp isA, mem_singleton.mp isB]
  realms r isRealm := .inl ⟨r, isRealm, rfl, rfl⟩

/-- An access token of Mallory's is taken for a state, and a provider that has been disabled still
signs its users in. -/
theorem callbacks_are_deceived : (∃ hist s res w', Reaches .transparent none cafeStore hist s ∧
      malloryState ∈ s.signed ∧ hubCallback malloryState s = (.ok res, w') ∧
      ¬∃ idp, Genuine .transparent hist cafe.toRealm "hub" malloryState s idp) ∧
    ∃ hist s res w', Reaches .transparent none cafeStore hist s ∧
      hubState ∈ s.signed ∧ hubCallback hubState s = (.ok res, w') ∧
      ¬∃ idp, Genuine .transparent hist cafe.toRealm "hub" hubState s idp := by
  constructor
  · refine ⟨_, performed malloryActs, _, _, .act _ (.act _ (.act _ (.act _ .start))),
      .tail _ mem_cons_self, rfl, ?_⟩
    intro genuine
    obtain ⟨idp, genuine⟩ := genuine
    cases genuine.produced with
    | initiateLogin _ _ _ _ isState =>
      have isOrigin : malloryState.origin = .accessToken 3 42 := rfl
      have other := congrArg Jwt.origin isState
      rw [isOrigin] at other
      cases other
  · refine ⟨_, disabledStore, _, _, .other (.act hubLogin .start) disabledStore_other,
      mem_cons_self, rfl, ?_⟩
    intro genuine
    obtain ⟨idp, genuine⟩ := genuine
    have provider := genuine.provider
    have enabled := genuine.enabled
    cases provider
    cases enabled

end Idenplane.Broker
