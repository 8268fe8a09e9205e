import Idenplane.Clients.Service
import Idenplane.Lib.Parts
import Idenplane.Realms.Transfer

/-! # Allowed origins

`CorsOriginService`, and the services that change which origins the clients list.  The origins are
kept in Redis and once more in every instance; the services for the clients drop both copies, those
for the realms drop neither.
-/

namespace Idenplane.Cors

open Atomic Auth Admin

/-- What the process is started with; the origin is that of `BASE_URL`. -/
structure Environment where
  baseOrigin : Option String := none
  production : Bool := false
  port : String := "3000"
  noWildcard : baseOrigin ≠ some "*" := by decide

/-- The server itself, and in development the machine it runs on. -/
def Environment.builtIn (env : Environment) : List String :=
  env.baseOrigin.toList ++ if env.production then []
    else ["http://localhost:" ++ env.port, "http://127.0.0.1:" ++ env.port]

/-- A copy of the origins and the time from which on it counts no longer. -/
structure Entry where
  origins : List String
  expiry : Int

def live (e : Option Entry) (now : Int) : Option (List String) :=
  (e.filter (now < ·.expiry)).map (·.origins)

/-- The database, Redis and the instances.  The last three fields are about requests that run at
the same time, and no request reads them. -/
structure World where
  now : Int := 0
  tables : Realms.Transfer.World := {}
  store : Store := {}
  clientConfigs : Cache.Entries (Nat × String) Clients.ClientConfig := Cache.empty
  realms : Realms.State := {}
  /-- `cors:allowed-origins`. -/
  corsOrigins : Option Entry := none
  /-- `localOrigins` and `localCacheExpiry` of each instance. -/
  localOrigins : Nat → Option Entry := fun _ => none
  /-- The origins that a load has read and not yet stored everywhere. -/
  loading : Nat → Option (List String) := fun _ => none
  /-- The origins that a request has taken from the last client that listed them. -/
  taken : Nat → List String := fun _ => []
  /-- The origins that are gone since a time at which the request that took them was through. -/
  gone : List (String × Int) := []

abbrev Call (α : Type) := Prog World Failure α

def listed (clients : List Client) : List String :=
  (clients.filter (·.enabled)).flatMap fun client => client.webOrigins.filter (· ≠ "*")

def World.clients (w : World) : List Client := w.tables.db.clients

def allowedOrigins (env : Environment) (w : World) : List String :=
  env.builtIn ++ listed w.clients

/-- Request `j` writes to the tables: the origins that go are on it, those that come are not gone. -/
def World.write (env : Environment) (j : Nat) (tables : Realms.Transfer.World) (w : World) :
    World :=
  let before := allowedOrigins env w
  let after := allowedOrigins env { w with tables := tables }
  { w with
    tables := tables
    taken := fun k => ((if k = j then before else []) ++ w.taken k).filter (!after.contains ·)
    gone := w.gone.filter (!after.contains ·.1) }

def clientsPart (env : Environment) (j : Nat) : Part World Clients.Backend where
  get w := ⟨{ w.store with clients := w.clients }, w.clientConfigs⟩
  put backend w :=
    { w.write env j { w.tables with
        db := { w.tables.db with clients := backend.store.clients } } with
      store := backend.store
      clientConfigs := backend.cache }
  get_put _ _ := rfl

def realmsPart : Part World Realms.State where
  get w := { w.realms with realms := w.tables.db.realms }
  put state w :=
    { w with
      realms := state
      tables := { w.tables with db := { w.tables.db with realms := state.realms } } }
  get_put _ _ := rfl

def transferPart (env : Environment) (j : Nat) : Part World Realms.Transfer.World where
  get w := w.tables
  put tables w := w.write env j tables
  get_put _ _ := rfl

def LOCAL_TTL_MS : Int := 5 * 60 * 1000

def corsTtl : Int := 300 * 1000

section Decisions

variable (env : Environment) (j i : Nat)

/-- Request `j` reads the clients. -/
def clientsRead (w : World) : List String × World :=
  (allowedOrigins env w, { w with loading := update w.loading j (some (allowedOrigins env w)) })

def cacheCorsOrigins (origins : List String) (w : World) : World :=
  { w with corsOrigins := some ⟨origins, w.now + corsTtl⟩ }

def localOriginsSet (origins : List String) (expiry : Int) (w : World) : World :=
  { w with localOrigins := update w.localOrigins i (some ⟨origins, expiry⟩) }

/-- The end of a load, in instance `i`. -/
def loaded (origins : List String) (w : World) : World :=
  { localOriginsSet i origins (w.now + LOCAL_TTL_MS) w with
    loading := update w.loading j none }

def loadFromDatabase : Call (List String) := do
  let origins ← atomic (clientsRead env j)
  modify (cacheCorsOrigins origins)
  modify (loaded j i origins)
  pure origins

def getAllowedOrigins : Call (List String) := do
  let (now, hit) ← read fun w => (w.now, live (w.localOrigins i) w.now)
  match hit with
  | some origins => pure origins
  | none => do
    let redisOrigins ← read fun w => live w.corsOrigins w.now
    match redisOrigins with
    | some origins => do
      modify (localOriginsSet i origins (now + LOCAL_TTL_MS))
      pure origins
    | none => loadFromDatabase env j i

def isOriginAllowed (origin : String) : Call Bool := do
  let origins ← getAllowedOrigins env j i
  pure (origins.contains origin)

end Decisions

/-- The origins that request `j` has taken are gone from now on. -/
def settled (j : Nat) (w : World) : World :=
  { w with
    taken := update w.taken j []
    gone := (w.taken j).map (·, w.now) ++ w.gone }

/-- `cache.invalidateCorsOrigins` and `invalidateLocalCache`. -/
def invalidate (j i : Nat) : Call Unit := do
  modify fun w => settled j { w with corsOrigins := none }
  modify fun w =>
    { w with localOrigins := update w.localOrigins i none }

section Requests

variable (env : Environment) (j i : Nat)

def createClient (d : Deps) (random : Clients.Randomness) (realm : Realm)
    (dto : Clients.CreateClientDto) : Call (Clients.ClientConfig × Option String) := do
  let client ← (Clients.create d random realm dto).onPart (clientsPart env j)
  invalidate j i
  pure client

def updateClient (random : Clients.Randomness) (realm : Realm) (name : String)
    (dto : Clients.UpdateClientDto) : Call Clients.ClientConfig := do
  let updated ← (Clients.update random realm name dto).onPart (clientsPart env j)
  invalidate j i
  pure updated

def removeClient (random : Clients.Randomness) (realm : Realm) (name : String) : Call Unit := do
  (Clients.remove random realm name).onPart (clientsPart env j)
  invalidate j i

def updateRealm (d : Deps) (available : List String) (name : String)
    (dto : Realms.UpdateRealmDto) : Call Realms.RealmRow := do
  let (_, realm) ← (Realms.update d available name dto).onPart realmsPart
  pure realm

/-- `realm.delete`; the clients go with the realm. -/
def realmDeleted (name : String) (w : World) : Option Realms.RealmRow × World :=
  match w.tables.db.realms.find? (·.name = name) with
  | none => (none, w)
  | some realm =>
    (some realm, w.write env j { w.tables with db := w.tables.db.deleteRealm realm })

def removeRealm (name : String) : Call Realms.RealmRow := do
  let existing ← (Realms.findByNameRaw name).onPart realmsPart
  (Realms.invalidateRealmCache existing.id name).onPart realmsPart
  let deleted ← atomic (realmDeleted env j name)
  let realm ← orFail deleted .internal
  modify (settled j)
  pure (Realms.redactSecrets realm)

def importRealm (throws : Realms.Transfer.Throws) (doc : Realms.Transfer.Document)
    (overwrite : Bool) : Call Realms.Transfer.Summary := do
  let summary ← (Realms.Transfer.importRealm throws doc overwrite).onPart (transferPart env j)
  modify (settled j)
  pure summary

end Requests

inductive Request where
  | isOriginAllowed (origin : String)
  | createClient (d : Deps) (random : Clients.Randomness) (realm : Realm)
      (dto : Clients.CreateClientDto)
  | updateClient (random : Clients.Randomness) (realm : Realm) (name : String)
      (dto : Clients.UpdateClientDto)
  | removeClient (random : Clients.Randomness) (realm : Realm) (name : String)
  | updateRealm (d : Deps) (available : List String) (name : String) (dto : Realms.UpdateRealmDto)
  | removeRealm (name : String)
  | importRealm (throws : Realms.Transfer.Throws) (doc : Realms.Transfer.Document)
      (overwrite : Bool)

/-- A decision with the time at which it was asked for, or nothing about origins. -/
inductive Answer where
  | decided (asked : Int) (allowed : Bool)
  | other

/-- Request `j`, to instance `i`. -/
def serve (env : Environment) (j i : Nat) : Request → Call Answer
  | .isOriginAllowed origin => do
    let asked ← read fun w => w.now
    let allowed ← isOriginAllowed env j i origin
    pure (.decided asked allowed)
  | .createClient d random realm dto => do
    let _ ← createClient env j i d random realm dto
    pure .other
  | .updateClient random realm name dto => do
    let _ ← updateClient env j i random realm name dto
    pure .other
  | .removeClient random realm name => do
    removeClient env j i random realm name
    pure .other
  | .updateRealm d available name dto => do
    let _ ← updateRealm d available name dto
    pure .other
  | .removeRealm name => do
    let _ ← removeRealm env j name
    pure .other
  | .importRealm throws doc overwrite => do
    let _ ← importRealm env j throws doc overwrite
    pure .other

end Idenplane.Cors
