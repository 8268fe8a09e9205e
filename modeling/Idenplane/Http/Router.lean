import Idenplane.Store
import Idenplane.Lib.Text

/-! # Routes

The part of Express and Nest that decides which handler a request reaches.  A
route pattern is a list of path segments.  A literal segment is compared without
regard to ASCII case, a parameter takes any non-empty segment, and one trailing
slash is ignored: these are the defaults of the router.  The path itself keeps
the spelling of the client.
-/

namespace Idenplane.Http

inductive Method where
  | get
  | post
  | put
  | patch
  | delete
  deriving DecidableEq

inductive Segment where
  | literal (text : String)
  | param (name : String)
  deriving DecidableEq

/-- The metadata of `@RequireAdminRoles(roles, requireAll)`. -/
structure AdminRolesOptions where
  roles : List String
  requireAll : Bool := false
  deriving DecidableEq

inductive Guard where
  | throttler
  | adminApiKey
  | realm
  | rateLimit
  | adminRoles
  | upgradeEnabled
  deriving DecidableEq

/-- A handler as its decorators declare it. -/
structure Route where
  method : Method
  pattern : List Segment
  classGuards : List Guard
  handlerGuards : List Guard := []
  isPublic : Bool := false
  adminRoles : Option AdminRolesOptions := none
  deriving DecidableEq

/-- The `APP_GUARD` providers, in the order of `AppModule`. -/
def globalGuards : List Guard := [.throttler, .adminApiKey]

/-- Nest runs the global guards first, then those of the class, then those of the
handler. -/
def Route.guards (route : Route) : List Guard :=
  globalGuards ++ route.classGuards ++ route.handlerGuards

/-- The controller or the handler declares `@UseGuards(AdminApiKeyGuard)`. -/
def Route.DeclaresAdminApiKeyGuard (route : Route) : Prop :=
  Guard.adminApiKey ∈ route.classGuards ++ route.handlerGuards

instance (route : Route) : Decidable route.DeclaresAdminApiKeyGuard :=
  inferInstanceAs (Decidable (_ ∈ _))

abbrev Params := List (String × List Char)

def sameText (a b : List Char) : Bool :=
  a.map Char.toLower == b.map Char.toLower

/-- The pattern of a decorator's text: a segment that starts with a colon is a
parameter. -/
def pattern (text : String) : List Segment :=
  (Text.split '/' text.toList).map fun segment =>
    match segment with
    | ':' :: name => .param (String.ofList name)
    | _ => .literal (String.ofList segment)

section Matching

-- The router's `decode_param`; an undecodable parameter fails the request.
variable (decodeParam : List Char → Option (List Char))

def matchSegments : List Segment → List (List Char) → Option Params
  | [], [] => some []
  | [], [[]] => some []
  | .literal text :: pattern, segment :: path =>
    if sameText text.toList segment then matchSegments pattern path else none
  | .param name :: pattern, segment :: path =>
    if segment.isEmpty then none
    else do
      let value ← decodeParam segment
      let params ← matchSegments pattern path
      some ((name, value) :: params)
  | _, _ => none

/-- The parameters of a path that starts with a slash and matches the pattern. -/
def matchPath (pattern : List Segment) : List Char → Option Params
  | '/' :: path => matchSegments decodeParam pattern (Text.split '/' path)
  | _ => none

def dispatch (app : List Route) (method : Method) (path : List Char) : Option (Route × Params) :=
  app.findSome? fun route =>
    if route.method = method then (matchPath decodeParam route.pattern path).map (route, ·) else none

end Matching

end Idenplane.Http
