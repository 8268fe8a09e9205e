import Idenplane.Admin.Attributes
import Idenplane.Auth.Signers
import Idenplane.Http.Guards

/-! # Admin tokens

`AdminAuthService`.  An admin token is a token of the realm `master`, signed with that
realm's key, whose claim `typ` is `admin`.
-/

namespace Idenplane.Admin

open Atomic Idenplane.Auth

def unauthorized (message : String) : Failure := .oauth "Unauthorized" message 401
def tooManyRequests (message : String) : Failure := .oauth "Too Many Requests" message 429

def adminRoles : List String := ["super-admin", "realm-admin", "view-only"]

def findMaster (s : Store) : Option Realm := s.realms.find? (·.name = "master")

/-- The names of the user's roles.  Nobody asks what they are roles of. -/
def roleNames (userId : Nat) (s : Store) : List String :=
  (userRoleRows s userId).map (·.name)

def adminTokenPayload (d : Deps) (sub : Value) (roles : List String) (username : String) :
    Claims :=
  .literal [("iss", .str (d.baseUrl ++ "/realms/master")), ("sub", sub), ("typ", .str "admin"),
    ("realm_access", .access roles), ("preferred_username", .str username)]

/-- A wrong password is recorded, so that the account can be locked. -/
def refuseWrongAdminPassword (realm : Realm) (user : User) (valid : Bool) : Op Unit :=
  if valid then pure ()
  else do
    recordFailure realm user.id
    Prog.fail (unauthorized "Invalid credentials")

/-- `AdminAuthService.login`; `allowed` is the verdict of the limiter on the address. -/
def login (d : Deps) (allowed : Bool) (username password : String) : Op Jwt := do
  require allowed (tooManyRequests "Admin login rate limit exceeded. Please slow down.")
  let master ← read findMaster
  let master ← orFail master (unauthorized "Admin system not initialized")
  let found ← read (findUser master.id username)
  let user ← orFail (found.filter (·.enabled)) (unauthorized "Invalid credentials")
  let hash ← orFail (given user.passwordHash) (unauthorized "Invalid credentials")
  let now ← read Store.now
  require (!isLocked master user now) (tooManyRequests
    ("Account locked due to too many failed login attempts. Locked until: " ++
      (user.lockedUntil.map d.toISOString).getD "indefinitely"))
  let valid ← orFail (d.verifyPassword hash password) .internal
  refuseWrongAdminPassword master user valid
  let roles ← read (roleNames user.id)
  require (roles.any (adminRoles.contains ·)) (unauthorized "User does not have admin access")
  resetFailures master.id user.id
  let signingKey ← read (getActiveSigningKey · master.id)
  let key ← orFail signingKey .internal
  signJwt (adminTokenPayload d (.id user.id) roles user.username) key.id (.adminLogin user.id) 3600

def sameKey (apiKey expectedKey : List Char) : Bool :=
  Http.timingSafeEqual apiKey expectedKey == some true

/-- `expectedKey` is the configured `ADMIN_API_KEY`. -/
def createAdminSession (d : Deps) (expectedKey : Option (List Char)) (apiKey : List Char) :
    Op Jwt := do
  let expected ← orFail (expectedKey.filter (!·.isEmpty))
    (unauthorized "API key authentication not configured")
  require (sameKey apiKey expected) (unauthorized "Invalid API key")
  let master ← read findMaster
  let master ← orFail master (unauthorized "Admin system not initialized")
  let signingKey ← read (getActiveSigningKey · master.id)
  let key ← orFail signingKey .internal
  signJwt (adminTokenPayload d (.str "api-key:admin") ["super-admin"] "api-key") key.id
    .adminSession 3600

def extractJti (token : Jwt) : Option Nat :=
  match token.payload "jti" with
  | some (.id jti) => some jti
  | _ => none

/-- `JwkService.verifyJwt`: the signature, the expiry and the time before which the token is
not valid. -/
def verifyJwt (token : Jwt) (key : Nat) (now : Int) : Option Claims :=
  let alive := match token.payload "exp" with
    | none => true
    | some (.num exp) => now / 1000 < exp
    | some _ => false
  let begun := match token.payload "nbf" with
    | none => true
    | some (.num nbf) => nbf ≤ now / 1000
    | some _ => false
  if token.key = key && alive && begun then some token.payload else none

/-- `payload.realm_access?.roles ?? []`. -/
def rolesOf (payload : Claims) : List String :=
  match payload "realm_access" with
  | some (.access roles) => roles
  | _ => []

def validateAdminToken (token : Jwt) (s : Store) : Except Failure AdminUser := do
  let some master := findMaster s | throw (unauthorized "Admin system not initialized")
  let some key := getActiveSigningKey s master.id | throw (unauthorized "No signing key found")
  let some payload := verifyJwt token key.id s.now | throw (unauthorized "Invalid admin token")
  if payload "typ" ≠ some (.str "admin") then throw (unauthorized "Not an admin token")
  let revoked := s.adminRevokedTokens.any fun row =>
    some row.jti = extractJti token && s.now / 1000 < row.expiresAt / 1000
  if revoked then throw (unauthorized "Token has been revoked")
  return ⟨payload "sub", rolesOf payload⟩

section Admin

variable {d : Deps} {s s' : Store} {token : Jwt}

theorem verifyJwt_ok {key : Nat} {now : Int} {pl : Claims}
    (verified : verifyJwt token key now = some pl) :
    token.key = key ∧ pl = token.payload := by
  simp only [verifyJwt, Option.ite_none_right_eq_some, and_eq_true, decide_eq_true_eq,
    some.injEq] at verified
  exact ⟨verified.1.1.1, verified.2.symm⟩

/-- An accepted token was signed with a key of `master` and calls itself an admin token. -/
theorem validateAdminToken_ok {u : AdminUser} (accepted : validateAdminToken token s = .ok u) :
    ∃ master key, findMaster s = some master ∧ getActiveSigningKey s master.id = some key ∧
      token.key = key.id ∧ token.payload "typ" = some (.str "admin") ∧
      u = ⟨token.payload "sub", rolesOf token.payload⟩ := by
  unfold validateAdminToken at accepted
  cases isMaster : findMaster s with
  | none =>
    rw [isMaster] at accepted
    cases accepted
  | some master =>
    rw [isMaster] at accepted
    cases isKey : getActiveSigningKey s master.id with
    | none =>
      simp only [isKey] at accepted
      cases accepted
    | some key =>
      simp only [isKey] at accepted
      cases verified : verifyJwt token key.id s.now with
      | none =>
        simp only [verified] at accepted
        cases accepted
      | some pl =>
        obtain ⟨signed, rfl⟩ := verifyJwt_ok verified
        simp only [verified] at accepted
        split at accepted
        · cases accepted
        · rename_i typ
          split at accepted
          · cases accepted
          · cases accepted
            exact ⟨master, key, rfl, isKey, signed, by simpa using typ, rfl⟩

theorem refuseWrongAdminPassword_ok {r : Realm} {user : User} {valid : Bool} {u : Unit}
    (passed : (refuseWrongAdminPassword r user valid).run s = (.ok u, s')) :
    valid = true ∧ s' = s := by
  cases valid with
  | true =>
    cases passed
    exact ⟨rfl, rfl⟩
  | false =>
    obtain ⟨_, _, _, no⟩ := run_bind_ok.mp passed
    cases no

/-- A login succeeds for a user of `master` and signs the names of the user's roles. -/
theorem login_ok {allowed : Bool} {uname pw : String}
    (done_ : (login d allowed uname pw).run s = (.ok token, s')) :
    ∃ master u key t, findMaster s = some master ∧ findUser master.id uname s = some u ∧
      (∃ hash, u.passwordHash = some hash ∧ d.verifyPassword hash pw = some true) ∧
      getActiveSigningKey s master.id = some key ∧ Quiet s t ∧
      token = stamp (adminTokenPayload d (.id u.id) (roleNames u.id s) u.username)
        key.id (.adminLogin u.id) 3600 t ∧
      s' = { t with supply := t.supply + 1, signed := token :: t.signed } := by
  simp only [login, run_require_bind_ok, run_read_bind, run_orFail_bind_ok] at done_
  obtain ⟨-, master, isMaster, u, hit, hash, isHash, -, valid, verified, checking⟩ := done_
  obtain ⟨isUser, -⟩ := filter_eq_some_iff.mp hit
  obtain ⟨_, t₁, passed, admitting⟩ := run_bind_ok.mp checking
  obtain ⟨rfl, rfl⟩ := refuseWrongAdminPassword_ok passed
  simp only [run_read_bind, run_require_bind_ok] at admitting
  obtain ⟨-, resetting⟩ := admitting
  obtain ⟨_, t₂, reset, signing⟩ := run_bind_ok.mp resetting
  have quiet := (Before.of_run (resetFailures_before _ _) reset).quiet
  simp only [run_read_bind, run_orFail_bind_ok] at signing
  obtain ⟨key, isKey, signed⟩ := signing
  rw [getActiveSigningKey_same (congrArg Prod.fst quiet.tables)] at isKey
  cases signed
  exact ⟨master, u, key, t₂, isMaster, isUser, ⟨hash, (given_eq_some.mp isHash).1, verified⟩,
    isKey, quiet, rfl, rfl⟩

theorem signJwt_fails (pl : Claims) (key : Nat) (o : Origin) (expiresIn : Int) :
    (signJwt pl key o expiresIn).Fails Quiet := by
  intro s s' e no
  cases no

theorem login_fails (d : Deps) (allowed : Bool) (uname pw : String) :
    (login d allowed uname pw).Fails Quiet := by
  have wrong : ∀ r u valid, (refuseWrongAdminPassword r u valid).Keeps Quiet := by
    intro r u valid
    cases valid with
    | true => trivial
    | false => exact .bind (recordFailure_quiet r u.id) fun _ => trivial
  have after {α : Type} {p : Op α} {f : α → Op Jwt} (first : p.Keeps Quiet)
      (rest : ∀ a, (f a).Fails Quiet) : (p >>= f).Fails Quiet := .after .refl .trans first rest
  exact after (.require _ _) fun _ => after (.read .refl _) fun _ => after (.orFail _ _) fun _ =>
    after (.read .refl _) fun _ => after (.orFail _ _) fun _ => after (.orFail _ _) fun _ =>
    after (.read .refl _) fun _ => after (.require _ _) fun _ => after (.orFail _ _) fun _ =>
    after (wrong _ _ _) fun _ => after (.read .refl _) fun _ => after (.require _ _) fun _ =>
    after ((resetFailures_before _ _).mono fun _ _ pre => pre.quiet) fun _ =>
    after (.read .refl _) fun _ => after (.orFail _ _) fun _ => signJwt_fails _ _ _ _

theorem createAdminSession_fails (d : Deps) (expectedKey : Option (List Char))
    (apiKey : List Char) : (createAdminSession d expectedKey apiKey).Fails Quiet := by
  have after {α : Type} {p : Op α} {f : α → Op Jwt} (first : p.Keeps Quiet)
      (rest : ∀ a, (f a).Fails Quiet) : (p >>= f).Fails Quiet := .after .refl .trans first rest
  exact after (.orFail _ _) fun _ => after (.require _ _) fun _ => after (.read .refl _) fun _ =>
    after (.orFail _ _) fun _ => after (.read .refl _) fun _ => after (.orFail _ _) fun _ =>
    signJwt_fails _ _ _ _

theorem createAdminSession_ok {expectedKey : Option (List Char)} {apiKey : List Char}
    (done_ : (createAdminSession d expectedKey apiKey).run s = (.ok token, s')) :
    ∃ master key, findMaster s = some master ∧ getActiveSigningKey s master.id = some key ∧
      expectedKey = some apiKey ∧
      token = stamp (adminTokenPayload d (.str "api-key:admin") ["super-admin"] "api-key")
        key.id .adminSession 3600 s ∧
      s' = { s with supply := s.supply + 1, signed := token :: s.signed } := by
  simp only [createAdminSession, run_orFail_bind_ok, run_require_bind_ok, run_read_bind] at done_
  obtain ⟨expected, isExpected, same, master, isMaster, key, isKey, signed⟩ := done_
  obtain ⟨configured, -⟩ := filter_eq_some_iff.mp isExpected
  have equal : apiKey = expected := by
    unfold sameKey Http.timingSafeEqual at same
    split at same
    · simpa using same
    · simp at same
  cases signed
  exact ⟨master, key, isMaster, isKey, by rw [configured, equal], rfl, rfl⟩

end Admin

end Idenplane.Admin
