import Idenplane.Http.AdminAccess
import Idenplane.Lib.Js
import Mathlib.Data.List.Find
import Mathlib.Data.List.Nodup
import Mathlib.Data.List.TakeWhile

/-! # The trail of the admin requests

`AdminEventInterceptor` goes by the text of the path, by the realm that a guard has left on the
request, and by the names of the outermost fields of the body.
-/

namespace Idenplane.Events

open Http List Text UsersController RolesController

inductive ResourceType where
  | user | client | realm | role | group | scope | idp | impersonation | session | serviceAccount
  | samlServiceProvider | riskAssessment | userFederation | authorizationPolicy | organization
  | customAttribute | bruteForce | webhook | authFlow | plugin | migration
  deriving DecidableEq

inductive OperationType where
  | create | update | delete
  deriving DecidableEq

def RESOURCE_TYPE_MAP : List (String × ResourceType) :=
  [("saml-service-providers", .samlServiceProvider), ("service-accounts", .serviceAccount),
    ("client-scopes", .scope), ("identity-providers", .idp), ("user-federation", .userFederation),
    ("custom-attributes", .customAttribute), ("risk-assessments", .riskAssessment),
    ("auth-flows", .authFlow), ("organizations", .organization), ("brute-force", .bruteForce),
    ("webhooks", .webhook), ("policies", .authorizationPolicy), ("impersonat", .impersonation),
    ("sessions", .session), ("plugins", .plugin), ("migration", .migration), ("users", .user),
    ("clients", .client), ("roles", .role), ("groups", .group), ("realms", .realm)]

def SENSITIVE_BODY_FIELDS : List String :=
  ["password", "clientSecret", "client_secret", "smtpPassword", "currentPassword", "newPassword",
    "confirmPassword", "recaptchaSecretKey", "hcaptchaSecretKey", "emailProviderConfig",
    "smsProviderConfig"]

def METHOD_TO_OPERATION : Method → Option OperationType
  | .post => some .create
  | .put | .patch => some .update
  | .delete => some .delete
  | .get => none

def pathIncludes (text : List Char) : List Char → Bool
  | [] => text.isEmpty
  | c :: rest => text.isPrefixOf (c :: rest) || pathIncludes text rest

def resolveResourceType (path : List Char) : Option ResourceType :=
  (RESOURCE_TYPE_MAP.find? fun e => pathIncludes ('/' :: e.1.toList) path).map (·.2)

/-- `{ ...body }`, of an object or an array. -/
def spread : Js → Option (List (String × Js))
  | .obj properties => some properties
  | .arr items => some (items.zipIdx.map fun item => (toString item.2, item.1))
  | _ => none

def redacted (field : String × Js) : String × Js :=
  if SENSITIVE_BODY_FIELDS.contains field.1 then (field.1, .str "[REDACTED]") else field

def redactBody (body : Js) : Option Js :=
  (spread body).map fun properties => .obj (properties.map redacted)

/-- The parameters of `recordAdminEvent`, by which the event is stored if the realm keeps admin
events. -/
structure AdminEvent where
  realmId : Nat
  adminUserId : Value
  operationType : OperationType
  resourceType : ResourceType
  resourcePath : List Char
  representation : Option Js
  ipAddress : String

/-- The events of a request whose handler has succeeded; `created` is the `id` that
`extractRealmId` finds in the response. -/
def intercept (req : Request) (ctx : Context) (body : Js) (created : Option Nat) :
    List AdminEvent :=
  if req.method = .get then []
  else if !"/admin/".toList.isPrefixOf req.path then []
  else if pathIncludes "/events".toList req.path ||
      pathIncludes "/admin-events".toList req.path then []
  else if pathIncludes "/admin/auth/".toList req.path then []
  else
    let isRealmCreation : Bool := req.method = .post && req.path = "/admin/realms".toList
    if ctx.realm.isNone && !isRealmCreation then []
    else
      match ctx.adminUser, METHOD_TO_OPERATION req.method,
        resolveResourceType req.path, (ctx.realm.map (·.id)).or created with
      | some adminUser, some operationType, some resourceType, some realmId =>
        [{ realmId := realmId
           adminUserId := adminUser.userId.getD (.str "api-key")
           operationType := operationType
           resourceType := resourceType
           resourcePath := req.path
           representation := if req.method = .delete then none else redactBody body
           ipAddress := req.ip }]
      | _, _, _, _ => []

section Paths

theorem isPrefixOf_piece {text : List Char} (plain : '/' ∉ text) (piece later : List Char) :
    text.isPrefixOf (piece ++ '/' :: later) = text.isPrefixOf piece := by
  induction text generalizing piece with
  | nil => rfl
  | cons c text ih =>
    rw [mem_cons, not_or] at plain
    cases piece with
    | nil => simp [isPrefixOf_cons_cons, Ne.symm plain.1]
    | cons d piece => simp [isPrefixOf_cons_cons, ih plain.2]

/-- A path includes a slash and a text exactly when the text begins one of its segments. -/
theorem pathIncludes_slash {text : List Char} (plain : '/' ∉ text) (path : List Char) :
    pathIncludes ('/' :: text) path = (split '/' path).tail.any (text.isPrefixOf ·) := by
  induction path with
  | nil => rfl
  | cons c path ih =>
    obtain ⟨piece, rest, pieces⟩ := exists_cons_of_ne_nil (split_ne_nil '/' path)
    rw [pathIncludes, ih, split, pieces]
    by_cases slash : c = '/'
    · have first : text.isPrefixOf path = text.isPrefixOf piece := by
        obtain ⟨-, ⟨-, rfl⟩ | ⟨later, rfl, -⟩⟩ := split_cons pieces
        · rfl
        · exact isPrefixOf_piece plain _ _
      subst slash
      simp [first]
    · simp [slash, Ne.symm slash]

/-- The text begins a segment of what stands behind `/admin/realms/`. -/
def begins (text : String) (rest : List Char) : Bool :=
  (Text.split '/' rest).any (text.toList.isPrefixOf ·)

theorem pathIncludes_below {text : String} (plain : '/' ∉ text.toList) (rest : List Char) :
    pathIncludes ('/' :: text.toList) ("/admin/realms/".toList ++ rest) =
      (text.toList.isPrefixOf "admin".toList || text.toList.isPrefixOf "realms".toList ||
        begins text rest) := by
  have pieces : split '/' ("/admin/realms/".toList ++ rest) =
      [] :: "admin".toList :: "realms".toList :: split '/' rest := by
    simp [split]
  rw [pathIncludes_slash plain, pieces]
  simp [begins, Bool.or_assoc]

theorem begins_joined (text : String) (name rest : List Char) :
    begins text (name ++ '/' :: rest) = (begins text name || begins text rest) := by
  rw [begins, split_joined, any_append]
  rfl

end Paths

section Types

def collections : List (String × ResourceType) := RESOURCE_TYPE_MAP.dropLast

/-- The first text of the table that begins a segment behind `/admin/realms/`. -/
def scannedType (below : List Char) : ResourceType :=
  ((collections.find? fun e => begins e.1 below).map (·.2)).getD .realm

/-- The collection that is addressed behind the name of the realm.  That of the lockouts stands
below `attack-detection`. -/
def collection (rest : List Char) : List Char :=
  match Text.split '/' rest with
  | first :: second :: _ => if first = "attack-detection".toList then second else first
  | pieces => pieces.headD []

/-- The type of the collection; the realm's where it has none of its own. -/
def addressedType (rest : List Char) : ResourceType :=
  ((collections.find? fun e => e.1.toList.isPrefixOf (collection rest)).map (·.2)).getD .realm

/-- The name of the realm, or another segment behind it, begins with a text that the table has
before the collection that is addressed. -/
def Misleading (name rest : List Char) : Prop :=
  ∃ e ∈ (collections.takeWhile fun e => !e.1.toList.isPrefixOf (collection rest)),
    begins e.1 (name ++ '/' :: rest) = true

theorem begins_of_collection {text : String} {rest : List Char}
    (isCollection : text.toList.isPrefixOf (collection rest) = true) (name : List Char) :
    begins text (name ++ '/' :: rest) = true := by
  have among : collection rest ∈ Text.split '/' rest := by
    unfold collection
    obtain ⟨first, later, pieces⟩ := exists_cons_of_ne_nil (split_ne_nil '/' rest)
    rw [pieces]
    cases later with
    | nil => exact mem_cons_self
    | cons snd _ =>
      dsimp only
      split
      · exact mem_cons_of_mem _ mem_cons_self
      · exact mem_cons_self
  rw [begins_joined, begins, begins, any_eq_true.mpr ⟨_, among, isCollection⟩, Bool.or_true]

theorem find?_or {α : Type} (first second : α → Bool) (xs : List α) :
    xs.find? (fun item => first item || second item) =
      ((xs.takeWhile (!second ·)).find? first).or (xs.find? second) := by
  induction xs with
  | nil => rfl
  | cons item xs ih =>
    cases isFirst : first item <;> cases isSecond : second item <;> simp [isFirst, isSecond, ih]

theorem resolveResourceType_below (rest : List Char) :
    resolveResourceType ("/admin/realms/".toList ++ rest) = some (scannedType rest) := by
  have plain : ∀ e ∈ RESOURCE_TYPE_MAP, '/' ∉ e.1.toList ∧ (e.1.toList.isPrefixOf "admin".toList ||
        e.1.toList.isPrefixOf "realms".toList) = decide (e.2 = .realm) := by decide
  have others : ∀ e ∈ collections, e.2 ≠ .realm := by decide
  have same : RESOURCE_TYPE_MAP.find? (fun e => pathIncludes ('/' :: e.1.toList)
      ("/admin/realms/".toList ++ rest)) =
        RESOURCE_TYPE_MAP.find? fun e => e.2 = .realm || begins e.1 rest := by
    apply find?_congr
    intro e mem
    rw [pathIncludes_below (plain e mem).1, (plain e mem).2]
  have table : RESOURCE_TYPE_MAP = collections ++ [("realms", .realm)] := rfl
  have named : collections.find? (fun e => e.2 = .realm || begins e.1 rest) =
      collections.find? fun e => begins e.1 rest := by
    apply find?_congr
    intro e mem
    simp [others e mem]
  rw [resolveResourceType, same, table, find?_append, named, scannedType]
  cases collections.find? fun e => begins e.1 rest <;> simp

/-- The collection decides the type exactly if nothing else misleads. -/
theorem scannedType_joined (name rest : List Char) :
    scannedType (name ++ '/' :: rest) = addressedType rest ↔ ¬Misleading name rest := by
  have distinct : (collections.map (·.2)).Nodup ∧ ∀ e ∈ collections, e.2 ≠ .realm := by
    decide
  have either : (collections.find? fun e => begins e.1 (name ++ '/' :: rest)) =
      collections.find? fun e =>
        begins e.1 (name ++ '/' :: rest) || e.1.toList.isPrefixOf (collection rest) := by
    apply find?_congr
    intro e _
    cases isCollection : e.1.toList.isPrefixOf (collection rest) with
    | false => rw [Bool.or_false]
    | true => rw [begins_of_collection isCollection name, Bool.or_true]
  unfold scannedType addressedType Misleading
  rw [either, find?_or]
  cases found : (collections.takeWhile fun e => !e.1.toList.isPrefixOf (collection rest)).find?
      fun e => begins e.1 (name ++ '/' :: rest) with
  | none => simpa using found
  | some e =>
    have listed := mem_of_find?_eq_some found
    have mem := takeWhile_subset _ listed
    have named : begins e.1 (name ++ '/' :: rest) = true := by simpa using find?_some found
    refine ⟨fun same => ?_, fun clear => absurd ⟨e, listed, named⟩ clear⟩
    cases later : collections.find? fun e => e.1.toList.isPrefixOf (collection rest) with
    | none =>
      rw [later] at same
      exact absurd same (distinct.2 e mem)
    | some other =>
      rw [later] at same
      have equal : e = other := inj_on_of_nodup_map distinct.1 mem (mem_of_find?_eq_some later) same
      have fits := find?_some later
      have passed := mem_takeWhile_imp listed
      simp [equal, fits] at passed

end Types

section Secrets

variable {isSecret : String → Prop}

/-- A value under the name holds a secret in clear at some depth: a text under a secret name. -/
inductive Discloses (isSecret : String → Prop) : String → Js → Prop where
  | text {name text : String} : isSecret name → text ≠ "[REDACTED]" →
      Discloses isSecret name (.str text)
  | property {name : String} {properties : List (String × Js)} {field : String × Js} :
      field ∈ properties → Discloses isSecret field.1 field.2 →
      Discloses isSecret name (.obj properties)
  | item {name : String} {items : List Js} {item : Js} : item ∈ items →
      Discloses isSecret name item → Discloses isSecret name (.arr items)

theorem discloses_redacted {name : String} {properties : List (String × Js)} :
    Discloses isSecret name (.obj (properties.map redacted)) ↔ ∃ field ∈ properties,
      field.1 ∉ SENSITIVE_BODY_FIELDS ∧ Discloses isSecret field.1 field.2 := by
  constructor
  · intro discloses
    cases discloses with
    | property mem below =>
      obtain ⟨field, isField, rfl⟩ := mem_map.mp mem
      unfold redacted at below
      by_cases listed : field.1 ∈ SENSITIVE_BODY_FIELDS
      · rw [if_pos (contains_iff_mem.mpr listed)] at below
        cases below with
        | text _ clear => exact absurd rfl clear
      · rw [if_neg (mt contains_iff_mem.mp listed)] at below
        exact ⟨field, isField, listed, below⟩
  · rintro ⟨field, isField, listed, below⟩
    apply Discloses.property (mem_map_of_mem isField)
    rwa [redacted, if_neg (mt contains_iff_mem.mp listed)]

end Secrets

section Guarded

variable {V : Type} {sv : Server V} {route : Route} {req : Request} {ps : Params}
  {w w' : World V} {ctx ctx' : Context}

def Names (params : Params) (name : List Char) : Prop :=
  (params.lookup "realmName").or (params.lookup "realm") = some name ∧ name ≠ []

def Addresses (server : Server V) (params : Params) (realm : Realm) : Prop :=
  ∃ name w, Names params name ∧ (findRealmByName server name w).1 = some realm

theorem realmGuard_realm (passed : realmGuard sv req ps ctx w = (.ok ctx', w')) :
    (¬(∃ name, Names ps name) ∧ ctx'.realm = ctx.realm) ∨
      ∃ realm, ctx'.realm = some realm ∧ Addresses sv ps realm := by
  unfold realmGuard at passed
  split at passed
  · rename_i unnamed
    cases passed
    refine .inl ⟨?_, rfl⟩
    rintro ⟨name, named, _⟩
    cases unnamed.symm.trans named
  · rename_i empty
    cases passed
    refine .inl ⟨?_, rfl⟩
    rintro ⟨name, named, some_⟩
    cases empty.symm.trans named
    exact some_ rfl
  · rename_i name some_ named
    split at passed
    · cases passed
    · rename_i realm world₁ hit
      split at passed
      · cases passed
      · cases passed
        refine .inr ⟨realm, rfl, name, w, ⟨named, ?_⟩, by rw [hit]⟩
        exact fun empty => some_ empty

theorem runGuard_realm {guard : Guard}
    (passed : runGuard sv route req ps guard ctx w = (.ok ctx', w')) :
    (¬(guard = .realm ∧ ∃ name, Names ps name) ∧ ctx'.realm = ctx.realm) ∨
      guard = .realm ∧ ∃ realm, ctx'.realm = some realm ∧ Addresses sv ps realm := by
  cases guard with
  | realm => simpa using realmGuard_realm passed
  | adminApiKey =>
    refine .inl ⟨by simp, ?_⟩
    simp only [runGuard, adminApiKeyGuard, checkApiKey] at passed
    repeat' split at passed
    all_goals first | (cases passed; done) | (cases passed; rfl)
  | adminRoles =>
    have ok : adminRolesGuard route ctx = .ok ctx' := congrArg Prod.fst passed
    exact .inl ⟨by simp, by rw [(adminRolesGuard_ok ok).1]⟩
  | throttler | rateLimit | upgradeEnabled =>
    simp only [runGuard] at passed
    split at passed
    · cases passed
    · cases passed
      exact .inl ⟨by simp, rfl⟩

theorem runGuards_realm {guards : List Guard}
    (passed : runGuards sv route req ps guards ctx w = (.ok ctx', w'))
    (known : ∀ r, ctx.realm = some r → Addresses sv ps r) :
    (∀ r, ctx'.realm = some r → Addresses sv ps r) ∧
      (ctx'.realm.isSome ↔ ctx.realm.isSome ∨ .realm ∈ guards ∧ ∃ name, Names ps name) := by
  induction guards generalizing ctx w with
  | nil =>
    cases passed
    exact ⟨known, by simp⟩
  | cons guard rest ih =>
    simp only [runGuards] at passed
    split at passed
    · cases passed
    · rename_i middle between first
      cases runGuard_realm first with
      | inl idle =>
        obtain ⟨hit, isSome⟩ := ih passed (idle.2 ▸ known)
        refine ⟨hit, isSome.trans ?_⟩
        rw [idle.2, mem_cons, eq_comm]
        tauto
      | inr looked =>
        obtain ⟨isGuard, r, isRealm, addressed⟩ := looked
        obtain ⟨hit, isSome⟩ := ih passed (by rw [isRealm]; rintro _ ⟨⟩; exact addressed)
        refine ⟨hit, isSome.trans ?_⟩
        obtain ⟨name, _, named, _⟩ := addressed
        rw [isRealm, isGuard]
        simp [show ∃ name, Names ps name from ⟨name, named⟩]

end Guarded

section Trail

variable {V : Type} {sv : Server V} {route : Route} {req : Request} {ps : Params}
  {w w' : World V} {ctx : Context} {isSecret : String → Prop} {name rest : List Char}

/-- One event for the realm, of the type of what is addressed in it, without a secret. -/
def Audited (server : Server V) (params : Params) (isSecret : String → Prop) (rest : List Char)
    (events : List AdminEvent) : Prop :=
  ∃ event realm, events = [event] ∧ Addresses server params realm ∧ event.realmId = realm.id ∧
    event.resourceType = addressedType rest ∧
    ∀ representation, event.representation = some representation →
      ¬Discloses isSecret "" representation

def skips (path : List Char) : Bool :=
  pathIncludes "/events".toList path || pathIncludes "/admin-events".toList path ||
    pathIncludes "/admin/auth/".toList path

theorem skips_below (isPath : req.path = "/admin/realms/".toList ++ (name ++ '/' :: rest)) :
    skips req.path = (begins "events" (name ++ '/' :: rest) ||
      begins "admin-events" (name ++ '/' :: rest) ||
      pathIncludes "/admin/auth/".toList req.path) := by
  have plain : ∀ text ∈ ["events", "admin-events"], '/' ∉ text.toList ∧
      (text.toList.isPrefixOf "admin".toList || text.toList.isPrefixOf "realms".toList) = false := by
    decide
  have below (text : String) (mem : text ∈ ["events", "admin-events"]) :
      pathIncludes ('/' :: text.toList) req.path = begins text (name ++ '/' :: rest) := by
    rw [isPath, pathIncludes_below (plain text mem).1, (plain text mem).2, Bool.false_or]
  exact congrArg₂ or (congrArg₂ or (below "events" (by simp)) (below "admin-events" (by simp))) rfl

/-- What the interceptor does not confuse and sees all of. -/
structure Plain (route : Route) (params : Params) (req : Request) (name rest : List Char)
    (isSecret : String → Prop) (body : Js) : Prop where
  resolved : .realm ∈ route.guards ∧ ∃ name, Names params name
  watched : begins "events" (name ++ '/' :: rest) = false ∧
    begins "admin-events" (name ++ '/' :: rest) = false ∧
    pathIncludes "/admin/auth/".toList req.path = false
  typed : ¬Misleading name rest
  listed : req.method ≠ .delete → ∀ fields, spread body = some fields →
    ∀ field ∈ fields, field.1 ∉ SENSITIVE_BODY_FIELDS → ¬Discloses isSecret field.1 field.2

theorem intercept_below {adminUser : AdminUser} (isAdmin : ctx.adminUser = some adminUser)
    (write : req.method ≠ .get)
    (isPath : req.path = "/admin/realms/".toList ++ (name ++ '/' :: rest)) (body : Js)
    (new : Option Nat) :
    ∃ operation, intercept req ctx body new = if skips req.path then []
      else (ctx.realm.map fun r =>
        { realmId := r.id
          adminUserId := adminUser.userId.getD (.str "api-key")
          operationType := operation
          resourceType := scannedType (name ++ '/' :: rest)
          resourcePath := req.path
          representation := if req.method = .delete then none else redactBody body
          ipAddress := req.ip : AdminEvent }).toList := by
  obtain ⟨operation, isOperation⟩ : ∃ operation,
      METHOD_TO_OPERATION req.method = some operation := by
    cases isMethod : req.method with
    | get => exact absurd isMethod write
    | post | put | patch | delete => exact ⟨_, rfl⟩
  have below : "/admin/".toList.isPrefixOf req.path = true := by rw [isPath]; rfl
  have longer : req.path ≠ "/admin/realms".toList := by
    rw [isPath]
    simp
  have isType := resolveResourceType_below (name ++ '/' :: rest)
  rw [← isPath] at isType
  refine ⟨operation, ?_⟩
  unfold intercept skips
  rw [if_neg write, below, isType, isOperation, isAdmin, decide_eq_false longer, Bool.or_assoc]
  generalize pathIncludes "/events".toList req.path = events
  generalize pathIncludes "/admin-events".toList req.path = adminEvents
  generalize pathIncludes "/admin/auth/".toList req.path = auth
  cases events <;> cases adminEvents <;> cases auth <;> cases ctx.realm <;> simp

def keyServer : Server Unit := { bareServer with adminApiKey := some "key".toList }

def realmParams (name : String) : Params := [("realmName", name.toList)]

def createUser (name : String) : Request where
  method := .post
  path := "/admin/realms/".toList ++ (name.toList ++ '/' :: "users".toList)
  adminApiKey := some "key".toList

def ann : Js := .obj [("username", .str "ann"), ("password", .str "s3cret")]

def guarded (name : String) : Context where
  adminUser := some ⟨some (.str "api-key:admin"), ["super-admin"]⟩
  adminApiKeyRateLimit := some true
  realm := some { id := 0, name := name }

def updateRole (roleName : String) : Request where
  method := .put
  path := "/admin/realms/acme/".toList ++ ("roles/".toList ++ roleName.toList)
  adminApiKey := some "key".toList

def roleParams (roleName : String) : Params :=
  [("realmName", "acme".toList), ("roleName", roleName.toList)]

end Trail

end Idenplane.Events
