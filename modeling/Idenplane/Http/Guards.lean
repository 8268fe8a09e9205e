import Idenplane.Http.Router

/-! # Guards

The guards of the admin routes and the order in which a request meets them.  A
guard may refuse the request, and it may leave something on the request for the
guards and the handler after it: the admin it recognised, the realm it looked up.

What the guards call outside the database is a parameter of the model: the check
of an admin token, the rate limiters, the realm cache.  Their state, `V`, is kept
apart from the database.
-/

namespace Idenplane.Http

structure HttpError where
  status : Nat
  message : String
  deriving DecidableEq

def HttpError.unauthorized (message : String) : HttpError := ⟨401, message⟩
def HttpError.forbidden (message : String) : HttpError := ⟨403, message⟩
def HttpError.notFound (message : String) : HttpError := ⟨404, message⟩
def HttpError.tooManyRequests (message : String) : HttpError := ⟨429, message⟩

/-- An exception that is not an `HttpException`. -/
def HttpError.internal : HttpError := ⟨500, "Internal server error"⟩

structure Request where
  method : Method
  path : List Char
  (authorization adminApiKey : Option (List Char) := none)
  ip : String := ""
  deriving DecidableEq

/-- What the guards leave on the request. -/
structure Context where
  adminUser : Option AdminUser := none
  adminApiKeyRateLimit : Option Bool := none
  realm : Option Realm := none

/-- The configuration of the server and what its guards call outside the database. -/
structure Server (V : Type) where
  adminApiKey : Option (List Char)
  validateAdminToken : Store → List Char → Option AdminUser
  checkAdminApiKeyLimit : V → String → Bool × V
  cachedRealm : V → List Char → Option Realm
  cacheRealm : V → Realm → V
  /-- The guards that count or switch off requests without looking at credentials. -/
  gate : Guard → Request → V → Option HttpError × V

structure World (V : Type) where
  store : Store
  volatile : V

/-- `timingSafeEqual` on two buffers: it throws when their lengths differ. -/
def timingSafeEqual (a b : List Char) : Option Bool :=
  if Text.utf8Length a = Text.utf8Length b then some (a == b) else none

/-- `path === '/admin' || path.startsWith('/admin/')`. -/
def isAdminRoute (path : List Char) : Bool :=
  path == "/admin".toList || "/admin/".toList.isPrefixOf path

section Guards

variable {V : Type} (server : Server V) (route : Route) (req : Request)

/-- The bearer token of the request, when its `Authorization` header carries one. -/
def bearerToken : Option (List Char) :=
  match req.authorization with
  | some header => if "Bearer ".toList.isPrefixOf header then some (header.drop 7) else none
  | none => none

/-- The verdict of the admin key limiter.  The guard runs twice for one request, and
the second run reuses the verdict of the first. -/
def apiKeyLimit (ctx : Context) (volatile : V) : Bool × V :=
  match ctx.adminApiKeyRateLimit with
  | some allowed => (allowed, volatile)
  | none => server.checkAdminApiKeyLimit volatile req.ip

def compareApiKey (providedApiKey expectedKey : List Char) : Except HttpError Unit :=
  if Text.utf16Length providedApiKey = Text.utf16Length expectedKey then
    match timingSafeEqual providedApiKey expectedKey with
    | none => .error .internal
    | some true => .ok ()
    | some false => .error (.unauthorized "Invalid or missing admin credentials")
  else .error (.unauthorized "Invalid or missing admin credentials")

def checkApiKey (ctx : Context) (w : World V) : Except HttpError Context × World V :=
  match server.adminApiKey, req.adminApiKey with
  | some expectedKey, some providedApiKey =>
    if expectedKey.isEmpty then
      (.error (.unauthorized "Invalid or missing admin credentials"), w)
    else
      let limit := apiKeyLimit server req ctx w.volatile
      let w := { w with volatile := limit.2 }
      if !limit.1 then
        (.error (.tooManyRequests "Admin API key rate limit exceeded. Please slow down."), w)
      else
        match compareApiKey providedApiKey expectedKey with
        | .error error => (.error error, w)
        | .ok () =>
          (.ok { ctx with
            adminUser := some ⟨some (.str "api-key:admin"), ["super-admin"]⟩
            adminApiKeyRateLimit := some limit.1 }, w)
  | _, _ => (.error (.unauthorized "Invalid or missing admin credentials"), w)

def adminApiKeyGuard (ctx : Context) (w : World V) : Except HttpError Context × World V :=
  if route.isPublic then (.ok ctx, w)
  else if !isAdminRoute req.path then (.ok ctx, w)
  else
    match (bearerToken req).bind (server.validateAdminToken w.store) with
    | some adminUser => (.ok { ctx with adminUser := some adminUser }, w)
    | none => checkApiKey server req ctx w

def hasRole (roles : List String) (required : String) : Bool :=
  roles.contains "super-admin" || roles.contains required

def Route.demandsRoles : Bool :=
  match route.adminRoles with
  | some options => !options.roles.isEmpty
  | none => false

def adminRolesGuard (ctx : Context) : Except HttpError Context :=
  match route.adminRoles with
  | none => .ok ctx
  | some options =>
    if options.roles.isEmpty then .ok ctx
    else
      match ctx.adminUser with
      | none => .error (.forbidden "No admin roles found")
      | some adminUser =>
        if options.requireAll then
          if options.roles.all (hasRole adminUser.roles) then .ok ctx
          else .error (.forbidden ("Insufficient permissions. Required roles: " ++
            ", ".intercalate options.roles))
        else if options.roles.any (hasRole adminUser.roles) then .ok ctx
        else .error (.forbidden ("Insufficient permissions. Required at least one of: " ++
          ", ".intercalate options.roles))

/-- `RealmGuard.findRealmByName`: the cache first, then the database. -/
def findRealmByName (name : List Char) (w : World V) : Option Realm × World V :=
  match server.cachedRealm w.volatile name with
  | some realm => (some realm, w)
  | none =>
    match w.store.realms.find? (fun realm => realm.name.toList == name) with
    | none => (none, w)
    | some realm =>
      (some realm, { w with volatile := server.cacheRealm w.volatile realm })

def realmGuard (params : Params) (ctx : Context) (w : World V) :
    Except HttpError Context × World V :=
  match (params.lookup "realmName").or (params.lookup "realm") with
  | none => (.ok ctx, w)
  | some [] => (.ok ctx, w)
  | some realmName =>
    match findRealmByName server realmName w with
    | (none, w) =>
      (.error (.notFound ("Realm '" ++ String.ofList realmName ++ "' not found")), w)
    | (some realm, w) =>
      if !realm.enabled && !"/admin/".toList.isPrefixOf req.path then
        (.error (.forbidden "Realm is disabled"), w)
      else (.ok { ctx with realm := some realm }, w)

def runGuard (params : Params) (guard : Guard) (ctx : Context) (w : World V) :
    Except HttpError Context × World V :=
  match guard with
  | .adminApiKey => adminApiKeyGuard server route req ctx w
  | .adminRoles => (adminRolesGuard route ctx, w)
  | .realm => realmGuard server req params ctx w
  | .throttler | .rateLimit | .upgradeEnabled =>
    match server.gate guard req w.volatile with
    | (some error, volatile) => (.error error, { w with volatile := volatile })
    | (none, volatile) => (.ok ctx, { w with volatile := volatile })

def runGuards (params : Params) : List Guard → Context → World V →
    Except HttpError Context × World V
  | [], ctx, w => (.ok ctx, w)
  | guard :: rest, ctx, w =>
    match runGuard server route req params guard ctx w with
    | (.error error, w) => (.error error, w)
    | (.ok ctx, w) => runGuards params rest ctx w

/-- What the client gets: a refusal, or whatever the handler answers. -/
inductive Outcome where
  | refused (error : HttpError)
  | handled

/-- The effect of a handler on the database. -/
abbrev Handler := Params → Context → Store → Store

/-- A request that was dispatched to `route`: the guards, then the handler. -/
def serve (params : Params) (handler : Handler) (w : World V) : Outcome × World V :=
  match runGuards server route req params route.guards {} w with
  | (.error error, w) => (.refused error, w)
  | (.ok ctx, w) =>
    (.handled, { w with store := handler params ctx w.store })

end Guards

end Idenplane.Http
