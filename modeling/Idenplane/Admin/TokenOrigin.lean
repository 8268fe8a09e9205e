import Idenplane.Admin.Auth

/-! # Where admin tokens come from

Every token of `master` is signed with one key, and the server tells admin tokens from the
others by the claim `typ` alone.  The claim is not reserved: an attribute, a mapper or a
plugin may supply it, and then an ordinary access token is accepted as an admin token.  A
login copies the names of the user's roles without asking whether they are realm roles.
When neither happens, admin tokens come from admin logins and API-key sessions.
-/

namespace Idenplane.Admin

open Atomic Idenplane.Auth Prod

/-- The operations that sign tokens, and those that decide what a token says. -/
inductive Act where
  | login (allowed : Bool) (username password : String)
  | createAdminSession (apiKey : List Char)
  | tokenRequest (req : Nat) (realm : Realm) (body : Body)
  | startImpersonation (realm : Realm) (adminUserId : Value) (targetUserId : Nat)
  | initiateLogin (realm : Realm) (name : String) (params : BrokerParams)
  | dispatchLogoutTokens (realm : Realm) (userId sessionId : Nat)
  | createAttribute (realm : Realm) (dto : CreateCustomAttributeDto)
  | updateAttribute (realm : Realm) (attributeId : Nat) (dto : UpdateCustomAttributeDto)
  | removeAttribute (realm : Realm) (attributeId : Nat)
  | setUserAttributes (realm : Realm) (userId : Nat) (attributes : List (String × String))
  | registerAttributes (realm : Realm) (userId : Nat) (body : List (String × String))

section Server

variable (deps : Deps) (adminApiKey : Option (List Char))

def perform : Act → Store → Store
  | .login allowed username password, s => ((login deps allowed username password).run s).2
  | .createAdminSession apiKey, s => ((createAdminSession deps adminApiKey apiKey).run s).2
  | .tokenRequest req realm body, s => ((handleTokenRequest deps req realm body).run s).2
  | .startImpersonation realm adminUserId targetUserId, s =>
    ((startImpersonation deps realm adminUserId targetUserId).run s).2
  | .initiateLogin realm name params, s => ((initiateLogin deps realm name params).run s).2
  | .dispatchLogoutTokens realm userId sessionId, s =>
    ((dispatchLogoutTokens deps realm userId sessionId).run s).2
  | .createAttribute realm dto, s => ((createAttribute realm dto).run s).2
  | .updateAttribute realm attributeId dto, s => ((updateAttribute realm attributeId dto).run s).2
  | .removeAttribute realm attributeId, s => ((removeAttribute realm attributeId).run s).2
  | .setUserAttributes realm userId attributes, s =>
    ((setUserAttributes deps realm userId attributes).run s).2
  | .registerAttributes realm userId body, s =>
    ((validateAndSaveRegistrationAttributes deps realm userId body).run s).2

/-- Anything else that happens to the database: user and role management, configuration,
clean-up, the clock.  It signs nothing.  A key belongs to its realm and a realm keeps its
name; new realms and keys have new identifiers. -/
structure Other (s s' : Store) : Prop where
  supply : s.supply ≤ s'.supply
  signed : s'.signed = s.signed
  keys : ∀ key' ∈ s'.signingKeys, (∃ key ∈ s.signingKeys, key.id = key'.id ∧
    key.realmId = key'.realmId) ∨
    s.supply ≤ key'.id ∧ key'.id < s'.supply ∧ key'.realmId < s'.supply
  distinct : ∀ a ∈ s'.signingKeys, ∀ b ∈ s'.signingKeys, a.id = b.id → a.realmId = b.realmId
  realms : ∀ realm' ∈ s'.realms, (∃ realm ∈ s.realms, realm.id = realm'.id ∧
    realm.name = realm'.name) ∨ s.supply ≤ realm'.id

/-- Runs of the server: the operations so far, newest first, each with the database it
found. -/
inductive Reaches (start : Store) : List (Act × Store) → Store → Prop where
  | start : Reaches start [] start
  | act {history : List (Act × Store)} {s : Store} (act : Act) :
      Reaches start history s → Reaches start ((act, s) :: history) (perform deps adminApiKey act s)
  | other {history : List (Act × Store)} {s s' : Store} :
      Reaches start history s → Other s s' → Reaches start history s'

structure KeyTable (s : Store) : Prop where
  drawn : ∀ key ∈ s.signingKeys, key.id < s.supply ∧ key.realmId < s.supply
  distinct : ∀ a ∈ s.signingKeys, ∀ b ∈ s.signingKeys, a.id = b.id → a.realmId = b.realmId

def HoldsRealmRole (s : Store) (realm : Realm) (userId : Nat) (name : String) : Prop :=
  ∃ role ∈ userRoleRows s userId, role.clientId = none ∧ role.realmId = realm.id ∧ role.name = name

/-- An admin login minted the token for a user of `master`, with realm roles the user had
then; or an API-key session, which acts for the holder of the key. -/
inductive Minted (history : List (Act × Store)) (token : Jwt) : AdminUser → Prop where
  | login {allowed : Bool} {username password : String} {s s' : Store} {master : Realm} {user : User}
      {roles : List String} :
      (.login allowed username password, s) ∈ history →
      (login deps allowed username password).run s = (.ok token, s') →
      findMaster s = some master → findUser master.id username s = some user →
      (∀ role ∈ roles, HoldsRealmRole s master user.id role) →
      Minted history token ⟨some (.id user.id), roles⟩
  | session {apiKey : List Char} {s s' : Store} : (.createAdminSession apiKey, s) ∈ history →
      (createAdminSession deps adminApiKey apiKey).run s = (.ok token, s') →
      adminApiKey = some apiKey →
      Minted history token ⟨some (.str "api-key:admin"), ["super-admin"]⟩

/-- A role that is not a realm role of `master` is named like one that the user has; and no
attribute, mapper or plugin turns tokens of `master` into admin tokens. -/
def Meets : Act × Store → Prop
  | (.login _ username _, s) => ∀ master user, findMaster s = some master →
      findUser master.id username s = some user → ∀ role ∈ userRoleRows s user.id,
      role.clientId ≠ none ∨ role.realmId ≠ master.id → HoldsRealmRole s master user.id role.name
  | (.tokenRequest _ realm _, s) =>
    (∃ master ∈ s.realms, master.name = "master" ∧ master.id = realm.id) →
    AdminFree deps realm.id s
  | _ => True

end Server

section Origin

variable {deps : Deps} {adminApiKey : Option (List Char)} {hist : List (Act × Store)}
  {s s' : Store} {token : Jwt}

theorem Other.of_same (supply : s.supply ≤ s'.supply) (keyTable : KeyTable s)
    (same : (s'.signed, s'.signingKeys, s'.realms) = (s.signed, s.signingKeys, s.realms)) :
    Other s s' := by
  simp only [mk.injEq] at same
  obtain ⟨signed, keys, realms⟩ := same
  refine ⟨supply, signed, ?_, ?_, ?_⟩
  · rw [keys]
    exact fun key isKey => .inl ⟨key, isKey, rfl, rfl⟩
  · rw [keys]
    exact keyTable.distinct
  · rw [realms]
    exact fun r isRealm => .inl ⟨r, isRealm, rfl, rfl⟩

theorem Other.keyTable (other : Other s s') (table : KeyTable s) : KeyTable s' where
  drawn := by
    intro key' isKey
    rcases other.keys key' isKey with ⟨key, isOld, id, r⟩ | ⟨-, id, r⟩
    · have := table.drawn key isOld
      have := other.supply
      omega
    · exact ⟨id, r⟩
  distinct := other.distinct

def AttributeWork (s s' : Store) : Prop :=
  s.supply ≤ s'.supply ∧
    (s'.signed, s'.signingKeys, s'.realms) = (s.signed, s.signingKeys, s.realms)

theorem AttributeWork.refl (s : Store) : AttributeWork s s := ⟨le_rfl, rfl⟩

theorem AttributeWork.trans {a b c : Store} (ab : AttributeWork a b) (bc : AttributeWork b c) :
    AttributeWork a c := ⟨ab.1.trans bc.1, bc.2.trans ab.2⟩

theorem attributeWork_of_quiet (quiet : Quiet s s') : AttributeWork s s' := by
  have same := quiet.tables
  simp only [tokenTables, mk.injEq] at same
  obtain ⟨⟨-, keys, realms⟩, signed⟩ := same
  exact ⟨quiet.supply, by rw [signed, keys, realms]⟩

theorem createAttribute_works (r : Realm) (dto : CreateCustomAttributeDto) :
    (createAttribute r dto).Keeps AttributeWork := by
  have new : ∀ t, AttributeWork t (attributeCreated r dto t).2 := by
    intro t
    unfold attributeCreated
    split
    · exact .refl t
    · exact ⟨le_succ _, rfl⟩
  exact .bind (.require _ _) fun _ => .bind (.atomic new) fun _ => .orFail _ _

theorem updateAttribute_works (r : Realm) (attributeId : Nat) (dto : UpdateCustomAttributeDto) :
    (updateAttribute r attributeId dto).Keeps AttributeWork := by
  refine .bind (.bind (.read .refl _) fun _ => .orFail _ _) fun defn => ?_
  have write : (do
      let updated ← atomic (attributeUpdated attributeId dto)
      require updated .internal : Op Unit).Keeps AttributeWork :=
    .bind (.atomic fun _ => ⟨le_rfl, rfl⟩) fun _ => .require _ _
  split
  · exact .bind (.require _ _) fun _ => write
  · exact write

theorem removeAttribute_works (r : Realm) (attributeId : Nat) :
    (removeAttribute r attributeId).Keeps AttributeWork :=
  .bind (.bind (.read .refl _) fun _ => .orFail _ _) fun _ => .modify fun _ => ⟨le_rfl, rfl⟩

theorem upsertValues_works (uid : Nat) (values : List (Nat × String)) (t : Store) :
    AttributeWork t (upsertValues uid values t) := by
  induction values generalizing t with
  | nil => exact .refl t
  | cons first rest ih =>
    obtain ⟨attributeId, v⟩ := first
    have step : AttributeWork t (upsertValue uid attributeId v t) := ⟨le_rfl, rfl⟩
    exact step.trans (ih _)

theorem setUserAttributes_works (deps : Deps) (r : Realm) (uid : Nat)
    (attrs : List (String × String)) :
    (setUserAttributes deps r uid attrs).Keeps AttributeWork := by
  refine .bind (.bind (.read .refl _) fun _ => .require _ _) fun _ => .bind (.read .refl _)
    fun definitions => ?_
  split
  · trivial
  · split
    · trivial
    · exact .modify (upsertValues_works uid _)

theorem registerAttributes_works (deps : Deps) (r : Realm) (uid : Nat)
    (body : List (String × String)) :
    (validateAndSaveRegistrationAttributes deps r uid body).Keeps AttributeWork := by
  have new : ∀ values t, AttributeWork t (valuesCreated uid values t).2 := by
    intro values t
    unfold valuesCreated
    split
    · exact .refl t
    · exact ⟨le_rfl, rfl⟩
  refine .bind (.read .refl _) fun definitions => ?_
  split
  · trivial
  · dsimp only
    split
    · trivial
    · exact .bind (.atomic (new _)) fun _ => .require _ _

/-- The key that signed the token belongs to another realm than `master`. -/
def Foreign (s : Store) (token : Jwt) : Prop :=
  ∀ key ∈ s.signingKeys, key.id = token.key → ∀ realm ∈ s.realms, realm.id = key.realmId →
    realm.name ≠ "master"

/-- A token that calls itself an admin token is one, or was signed for another realm. -/
structure Inv (deps : Deps) (adminApiKey : Option (List Char)) (history : List (Act × Store))
    (s : Store) : Prop where
  keys : KeyTable s
  drawn : ∀ token ∈ s.signed, token.key < s.supply
  origin : ∀ token ∈ s.signed, token.payload "typ" = some (.str "admin") →
    Foreign s token ∨ Minted deps adminApiKey history token
      ⟨token.payload "sub", rolesOf token.payload⟩

theorem Minted.later {user : AdminUser} {entry : Act × Store}
    (minted : Minted deps adminApiKey hist token user) :
    Minted deps adminApiKey (entry :: hist) token user := by
  cases minted with
  | login mem done_ master found rs =>
    exact .login (.tail _ mem) done_ master found rs
  | session mem done_ key => exact .session (.tail _ mem) done_ key

theorem Minted.acted {user : AdminUser} (minted : Minted deps adminApiKey hist token user) :
    (∃ allowed uname pw, .login allowed uname pw ∈ hist.map fst) ∨
      ∃ apiKey, .createAdminSession apiKey ∈ hist.map fst := by
  cases minted with
  | login mem => exact .inl ⟨_, _, _, mem_map_of_mem mem⟩
  | session mem => exact .inr ⟨_, mem_map_of_mem mem⟩

theorem Foreign.other (foreign : Foreign s token) (other : Other s s') (table : KeyTable s)
    (drawn : token.key < s.supply) : Foreign s' token := by
  intro key' isKey signed r' isRealm same
  rcases other.keys key' isKey with ⟨key, isOld, id, rid⟩ | ⟨fresh, -⟩
  · rcases other.realms r' isRealm with ⟨r, isOldRealm, sameId, sameName⟩ | fresh
    · rw [← sameName]
      exact foreign key isOld (id.trans signed) r isOldRealm (sameId.trans (same.trans rid.symm))
    · have := (table.drawn key isOld).2
      omega
  · omega

section

variable (inv : Inv deps adminApiKey hist s)

include inv

theorem Inv.other (other : Other s s') : Inv deps adminApiKey hist s' where
  keys := other.keyTable inv.keys
  drawn := by
    rw [other.signed]
    exact fun token isSigned => (inv.drawn token isSigned).trans_le other.supply
  origin := by
    rw [other.signed]
    intro token isSigned typ
    rcases inv.origin token isSigned typ with foreign | minted
    · exact .inl (foreign.other other inv.keys (inv.drawn token isSigned))
    · exact .inr minted

theorem Inv.later {e : Act × Store} : Inv deps adminApiKey (e :: hist) s where
  keys := inv.keys
  drawn := inv.drawn
  origin := fun token isSigned typ => (inv.origin token isSigned typ).imp_right .later

theorem Inv.signs {kind : Store → Jwt → Prop}
    (signs : Signs kind s s') (keyed : ∀ token, kind s token → token.key < s.supply)
    (harmless : ∀ token, kind s token → token.payload "typ" = some (.str "admin") →
      Foreign s token) : Inv deps adminApiKey hist s' := by
  obtain ⟨-, keys, realms⟩ := tokenTables_eq signs.tables
  have table : KeyTable s' := by
    constructor
    · intro key isKey
      rw [keys] at isKey
      have := inv.keys.drawn key isKey
      have := signs.supply
      omega
    · rw [keys]
      exact inv.keys.distinct
  have foreign : ∀ token, Foreign s token → Foreign s' token := by
    intro token foreign
    unfold Foreign
    rw [keys, realms]
    exact foreign
  refine ⟨table, ?_, ?_⟩
  · intro token isSigned
    rcases signs.signed token isSigned with older | isKind
    · exact (inv.drawn token older).trans_le signs.supply
    · exact (keyed token isKind).trans_le signs.supply
  · intro token isSigned typ
    rcases signs.signed token isSigned with older | isKind
    · exact (inv.origin token older typ).imp_left (foreign token)
    · exact .inl (foreign token (harmless token isKind typ))

theorem Inv.mints {key : RealmSigningKey}
    (isKey : key ∈ s.signingKeys) (signedBy : token.key = key.id)
    (minted : Minted deps adminApiKey hist token ⟨token.payload "sub", rolesOf token.payload⟩)
    (store : s' = { s with supply := s.supply + 1, signed := token :: s.signed }) :
    Inv deps adminApiKey hist s' := by
  subst store
  refine ⟨⟨?_, inv.keys.distinct⟩, ?_, ?_⟩
  · intro key isKey
    have drawn : key.id < s.supply ∧ key.realmId < s.supply := inv.keys.drawn key isKey
    exact ⟨lt_succ_of_lt drawn.1, lt_succ_of_lt drawn.2⟩
  · intro other isSigned
    rcases mem_cons.mp isSigned with rfl | older
    · rw [signedBy]
      exact lt_succ_of_lt (inv.keys.drawn key isKey).1
    · exact lt_succ_of_lt (inv.drawn other older)
  · intro other isSigned typ
    rcases mem_cons.mp isSigned with rfl | older
    · exact .inr minted
    · exact inv.origin other older typ

theorem Inv.quiet (quiet : Quiet s s') : Inv deps adminApiKey hist s' :=
  have work := attributeWork_of_quiet quiet
  inv.other (.of_same work.1 inv.keys work.2)

theorem Inv.attributes {α : Type} {p : Op α}
    (works : p.Keeps AttributeWork) : Inv deps adminApiKey hist (p.run s).2 :=
  have work := works.run .refl .trans s
  inv.other (.of_same work.1 inv.keys work.2)

end

variable {rid : Nat}

/-- A token that a key of the realm signed is foreign when the realm is not `master`. -/
theorem foreign_of_key (table : KeyTable s)
    (key : ∃ key ∈ s.signingKeys, key.realmId = rid ∧ token.key = key.id)
    (notMaster : ∀ r ∈ s.realms, r.id = rid → r.name ≠ "master") :
    Foreign s token := by
  obtain ⟨key, isKey, inRealm, signedBy⟩ := key
  intro other isOther sameKey r isRealm sameRealm
  apply notMaster r isRealm
  rw [sameRealm, table.distinct other isOther key isKey (sameKey.trans signedBy), inRealm]

theorem key_drawn (table : KeyTable s)
    (key : ∃ key ∈ s.signingKeys, key.realmId = rid ∧ token.key = key.id) :
    token.key < s.supply := by
  obtain ⟨key, isKey, -, signedBy⟩ := key
  rw [signedBy]
  exact (table.drawn key isKey).1

theorem Inv.fixed {α : Type} {p : Op α} (inv : Inv deps adminApiKey hist s)
    (signs : p.Moves (Signs (Fixed rid)) s) : Inv deps adminApiKey hist (p.run s).2 :=
  inv.signs signs (fun _ fixed => key_drawn inv.keys fixed.key)
    fun _ fixed typ => absurd typ fixed.typ

theorem Inv.tokenRequest (inv : Inv deps adminApiKey hist s) (req : Nat) (r : Realm)
    (body : Body) (meets : Meets deps (.tokenRequest req r body, s)) :
    Inv deps adminApiKey hist ((handleTokenRequest deps req r body).run s).2 := by
  apply inv.signs (handleTokenRequest_signs deps req r body Ordinary.covers s)
  · exact fun _ ordinary => key_drawn inv.keys ordinary.key
  · intro token ordinary typ
    apply foreign_of_key inv.keys ordinary.key
    intro row isRow same named
    exact ordinary.typ (meets ⟨row, isRow, named, same⟩) typ

theorem adminTokenPayload_user (deps : Deps) (sub : Value) (roles : List String) (uname : String) (key : Nat)
    (o : Origin) (expiresIn : Int) (t : Store) :
    (stamp (adminTokenPayload deps sub roles uname) key o expiresIn t).payload "sub" = some sub ∧
      rolesOf (stamp (adminTokenPayload deps sub roles uname) key o expiresIn t).payload =
        roles := by
  constructor
  · simp [stamp, adminTokenPayload]
  · simp [rolesOf, stamp, adminTokenPayload]

section

variable (inv : Inv deps adminApiKey hist s)

include inv

theorem Inv.login (allowed : Bool)
    (uname pw : String) (meets : Meets deps (.login allowed uname pw, s)) :
    Inv deps adminApiKey ((.login allowed uname pw, s) :: hist)
      ((login deps allowed uname pw).run s).2 := by
  rcases ran : (Admin.login deps allowed uname pw).run s with ⟨res, s'⟩
  cases res with
  | error e => exact (inv.quiet (login_fails deps allowed uname pw s s' e ran)).later
  | ok token =>
    obtain ⟨master, u, key, t, isMaster, isUser, -, hit, quiet, isToken, store⟩ := login_ok ran
    obtain ⟨sub, rs⟩ := adminTokenPayload_user deps (.id u.id)
      (roleNames u.id s) u.username key.id (.adminLogin u.id) 3600 t
    rw [← isToken] at sub rs
    rw [← getActiveSigningKey_same (congrArg fst quiet.tables)] at hit
    apply (inv.quiet quiet).later.mints (getActiveSigningKey_mem hit).1 (by rw [isToken]; rfl)
      ?_ store
    rw [sub, rs]
    refine .login mem_cons_self ran isMaster isUser ?_
    intro name isName
    obtain ⟨role, isRole, rfl⟩ := mem_map.mp isName
    by_cases realmRole : role.clientId ≠ none ∨ role.realmId ≠ master.id
    · exact meets master u isMaster isUser role isRole realmRole
    · simp only [ne_eq, not_or, not_not] at realmRole
      exact ⟨role, isRole, realmRole.1, realmRole.2, rfl⟩

theorem Inv.createAdminSession (apiKey : List Char) :
    Inv deps adminApiKey ((.createAdminSession apiKey, s) :: hist)
      ((createAdminSession deps adminApiKey apiKey).run s).2 := by
  rcases ran : (Admin.createAdminSession deps adminApiKey apiKey).run s with ⟨res, s'⟩
  cases res with
  | error e => exact (inv.quiet (createAdminSession_fails deps adminApiKey apiKey s s' e ran)).later
  | ok token =>
    obtain ⟨master, key, -, hit, sameKey, isToken, store⟩ := createAdminSession_ok ran
    obtain ⟨sub, rs⟩ := adminTokenPayload_user deps (.str "api-key:admin")
      ["super-admin"] "api-key" key.id .adminSession 3600 s
    rw [← isToken] at sub rs
    apply inv.later.mints (getActiveSigningKey_mem hit).1 (by rw [isToken]; rfl) ?_ store
    rw [sub, rs]
    exact .session mem_cons_self ran sameKey

theorem Inv.act (act : Act) (meets : Meets deps (act, s)) :
    Inv deps adminApiKey ((act, s) :: hist) (perform deps adminApiKey act s) := by
  cases act with
  | login allowed uname pw => exact inv.login allowed uname pw meets
  | createAdminSession apiKey => exact inv.createAdminSession apiKey
  | tokenRequest req r body => exact (inv.tokenRequest req r body meets).later
  | startImpersonation r adminUserId targetUserId =>
    exact (inv.fixed (startImpersonation_signs .covers adminUserId targetUserId s)).later
  | initiateLogin r name ps => 
      have signs : (Auth.initiateLogin deps r name ps).Moves (Signs (Fixed r.id)) s :=
        initiateLogin_signs (fun hit => .stamp hit (by simp [Claims.spread])) s
      exact (inv.fixed signs).later
  | dispatchLogoutTokens r uid sid =>
    exact (inv.fixed (dispatchLogoutTokens_signs .covers uid sid s)).later
  | createAttribute r dto => exact (inv.attributes (createAttribute_works r dto)).later
  | updateAttribute r attributeId dto =>
    exact (inv.attributes (updateAttribute_works r attributeId dto)).later
  | removeAttribute r attributeId =>
    exact (inv.attributes (removeAttribute_works r attributeId)).later
  | setUserAttributes r uid attrs =>
    exact (inv.attributes (setUserAttributes_works deps r uid attrs)).later
  | registerAttributes r uid body =>
    exact (inv.attributes (registerAttributes_works deps r uid body)).later

end

theorem Reaches.inv {start : Store} (keys : KeyTable start) (unsigned : start.signed = [])
    (reaches : Reaches deps adminApiKey start hist s) (meets : ∀ e ∈ hist, Meets deps e) :
    Inv deps adminApiKey hist s := by
  induction reaches with
  | start =>
    refine ⟨keys, ?_, ?_⟩ <;> simp [unsigned]
  | act act _ ih =>
    exact (ih fun e mem => meets e (.tail _ mem)).act act (meets _ mem_cons_self)
  | other _ other ih => exact (ih meets).other other

end Origin

/-- In every run whose operations meet the condition, every token that is accepted as an
admin token was minted by an admin login, with realm roles of `master` that its user had
then, or by an API-key session. -/
theorem admin_tokens_come_from_admin_logins (deps : Deps) (adminApiKey : Option (List Char))
    (start : Store) (keys : KeyTable start) (unsigned : start.signed = [])
    (hist : List (Act × Store)) (s : Store) (reaches : Reaches deps adminApiKey start hist s)
    (meets : ∀ e ∈ hist, Meets deps e) (token : Jwt) (isSigned : token ∈ s.signed)
    (user : AdminUser) (accepted : validateAdminToken token s = .ok user) :
    Minted deps adminApiKey hist token user := by
  obtain ⟨master, key, isMaster, hit, signedBy, typ, rfl⟩ := validateAdminToken_ok accepted
  obtain ⟨isKey, inRealm⟩ := getActiveSigningKey_mem hit
  rcases (reaches.inv keys unsigned meets).origin token isSigned typ with foreign | minted
  · have named : master.name = "master" := by simpa using find?_some isMaster
    exact absurd named (foreign key isKey signedBy.symm master (mem_of_find?_eq_some isMaster)
      inRealm.symm)
  · exact minted

section Example

def master : Realm := { id := 1, name := "master" }

/-- Root is a super-admin of `master`; Mallory has an account there and no role. -/
def masterStore : Store where
  supply := 40
  realms := [master]
  users := [{ id := 2, realmId := 1, username := "root", passwordHash := some "toor" },
            { id := 3, realmId := 1, username := "mallory", passwordHash := some "secret" }]
  roles := [{ id := 4, realmId := 1, name := "super-admin" }]
  userRoles := [⟨2, 4⟩]
  clients := [{ id := 5, realmId := 1, clientId := "app", clientType := .PUBLIC,
                grantTypes := ["password"] }]
  signingKeys := [{ id := 7, realmId := 1, createdAt := 0 }]

theorem masterStore_keys : KeyTable masterStore := by
  constructor
  · intro key isKey
    rw [mem_singleton.mp isKey]
    decide
  · intro a isA b isB _
    rw [mem_singleton.mp isA, mem_singleton.mp isB]

/-- Root signs in, and the token is Root's. -/
theorem root_token_minted_by_login :
    ∃ hist s token user, Reaches .transparent none masterStore hist s ∧ token ∈ s.signed ∧
      validateAdminToken token s = .ok user ∧ user.roles = ["super-admin"] ∧
      Minted .transparent none hist token user := by
  refine ⟨_, _, _, _, .act (.login true "root" "toor") .start, mem_cons_self, rfl, rfl, ?_⟩
  refine admin_tokens_come_from_admin_logins .transparent none masterStore masterStore_keys rfl _ _
    (.act (.login true "root" "toor") .start) ?_ _ mem_cons_self _ rfl
  intro e mem
  rw [mem_singleton.mp mem]
  intro r user isMaster isUser role isRole other
  cases isMaster
  cases isUser
  rw [mem_singleton.mp isRole] at other
  exact absurd other (by decide)

def malloryBody : Body where
  grant_type := some "password"
  client_id := some "app"
  username := some "mallory"
  password := some "secret"

/-- The attribute `kind` of `master` is mapped to the claim `typ`. -/
def kindDto : CreateCustomAttributeDto where
  name := "kind"
  displayName := "Kind"
  mapToOidcClaim := some "typ"

/-- Mallory, whose `kind` is `admin`, signs in to an ordinary client, and the access token is
accepted as an admin token that nobody minted. -/
theorem mallory_token_accepted :
    ∃ hist s token user, Reaches .transparent none masterStore hist s ∧ token ∈ s.signed ∧
      validateAdminToken token s = .ok user ∧ token.origin = .accessToken 3 41 ∧
      ¬ Minted .transparent none hist token user := by
  refine ⟨_, _, _, _, .act (.tokenRequest 0 master malloryBody)
    (.act (.setUserAttributes master 3 [("kind", "admin")])
      (.act (.createAttribute master kindDto) .start)),
    .tail _ mem_cons_self, rfl, rfl, ?_⟩
  intro minted
  rcases minted.acted with ⟨_, _, _, mem⟩ | ⟨_, mem⟩ <;> simp at mem

end Example

end Idenplane.Admin
