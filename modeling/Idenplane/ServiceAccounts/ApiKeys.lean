import Idenplane.Admin.Auth
import Idenplane.Security.Cidr

/-! # API keys of service accounts

`ServiceAccountsService` and `ApiKeyGuard`.  The key that a call generates, and what the counters
in Redis say, are arguments of the call.
-/

namespace Idenplane.ServiceAccounts

open Atomic Auth Admin String

structure ServiceAccount where
  id : Nat
  realmId : Nat
  name : String
  enabled : Bool := true
  deriving DecidableEq

structure ApiKey where
  id : Nat
  serviceAccountId : Nat
  keyPrefix : String
  keyHash : String
  name : Option String := none
  scopes : List String := []
  (expiresAt lastUsedAt : Option Int := none)
  requestCount : Nat := 0
  revoked : Bool := false
  (revokedAt maxRequestsPerDay maxRequestsPerMonth rateLimitPerMinute : Option Int := none)
  requireIpRestriction : Bool := false
  allowedIpRanges : List String := []
  deriving DecidableEq

/-- A rotation: the row of the key before it and after it, and the row of the new key. -/
structure Rotation where
  time : Int
  (old left new : ApiKey)
  deriving DecidableEq

/-- The tables.  No program reads `rotations`. -/
structure World where
  now : Int := 0
  supply : Nat := 0
  serviceAccounts : List ServiceAccount := []
  apiKeys : List ApiKey := []
  rotations : List Rotation := []

abbrev Call (α : Type) := Prog World Failure α

structure CreateApiKeyDto where
  name : Option String := none
  scopes : Option (List String) := none
  (expiresAt maxRequestsPerDay maxRequestsPerMonth rateLimitPerMinute : Option Int := none)
  requireIpRestriction : Option Bool := none
  allowedIpRanges : Option (List String) := none

section Management

variable (deps : Deps) (realm : Realm) (serviceAccountId : Nat)

def findById : Call ServiceAccount := do
  let sa ← read fun w =>
    w.serviceAccounts.find? fun sa => sa.id = serviceAccountId && sa.realmId = realm.id
  orFail sa (notFound ("Service account '" ++ toString serviceAccountId ++ "' not found"))

/-- The row of `findFirst({ id, serviceAccountId })`. -/
def World.apiKey? (w : World) (apiKeyId : Nat) : Option ApiKey :=
  w.apiKeys.find? fun key => key.id = apiKeyId && key.serviceAccountId = serviceAccountId

def apiKeyUpdated (id : Nat) (change : ApiKey → ApiKey) (w : World) : World :=
  { w with apiKeys := w.apiKeys.map fun key => if key.id = id then change key else key }

def apiKeyCreated (row : Nat → ApiKey) (w : World) : ApiKey × World :=
  (row w.supply,
    { w with
      supply := w.supply + 1
      apiKeys := w.apiKeys ++ [row w.supply] })

def createApiKey (rawKey : String) (dto : CreateApiKeyDto) : Call ApiKey := do
  let _ ← findById realm serviceAccountId
  atomic (apiKeyCreated fun id =>
    { id := id
      serviceAccountId := serviceAccountId
      keyPrefix := ofList (rawKey.toList.take 8)
      keyHash := deps.hashPassword rawKey
      name := dto.name
      scopes := dto.scopes.getD []
      expiresAt := dto.expiresAt
      maxRequestsPerDay := dto.maxRequestsPerDay
      maxRequestsPerMonth := dto.maxRequestsPerMonth
      rateLimitPerMinute := dto.rateLimitPerMinute
      requireIpRestriction := dto.requireIpRestriction.getD false
      allowedIpRanges := dto.allowedIpRanges.getD [] })

def apiKeyNotFound (apiKeyId : Nat) : Failure :=
  notFound ("API key '" ++ toString apiKeyId ++ "' not found")

def revokeApiKey (apiKeyId : Nat) : Call String := do
  let _ ← findById realm serviceAccountId
  let key ← read fun w => w.apiKey? serviceAccountId apiKeyId
  let key ← orFail key (apiKeyNotFound apiKeyId)
  if key.revoked then pure "API key is already revoked"
  else do
    modify fun w =>
      apiKeyUpdated apiKeyId (fun key => { key with revoked := true, revokedAt := some w.now }) w
    pure "API key revoked successfully"

def ROTATION_GRACE_SECONDS : Int := 3600

def successor (newRaw : String) (oldKey : ApiKey) (id : Nat) : ApiKey where
  id := id
  serviceAccountId := serviceAccountId
  keyPrefix := ofList (newRaw.toList.take 8)
  keyHash := deps.hashPassword newRaw
  name := oldKey.name.bind fun name => if name = "" then none else some (name ++ " (rotated)")
  scopes := oldKey.scopes
  expiresAt := oldKey.expiresAt

def graceExpiry (now : Int) : Int := now + ROTATION_GRACE_SECONDS * 1000

def graceGiven (oldKey newKey : ApiKey) (w : World) : World :=
  { apiKeyUpdated oldKey.id (fun key => { key with expiresAt := some (graceExpiry w.now) })
      w with
    rotations := ⟨w.now, oldKey, { oldKey with expiresAt := some (graceExpiry w.now) },
      newKey⟩ :: w.rotations }

def rotateApiKey (newRaw : String) (apiKeyId : Nat) : Call ApiKey := do
  let _ ← findById realm serviceAccountId
  let oldKey ← read fun w => w.apiKey? serviceAccountId apiKeyId
  let oldKey ← orFail oldKey (apiKeyNotFound apiKeyId)
  let newKey ← atomic (apiKeyCreated (successor deps serviceAccountId newRaw oldKey))
  modify (graceGiven oldKey newKey)
  pure newKey

end Management

section Validation

variable (deps : Deps)

def used (candidate : ApiKey) (w : World) : World :=
  apiKeyUpdated candidate.id
    (fun key => { key with lastUsedAt := some w.now, requestCount := key.requestCount + 1 }) w

/-- The loop over the keys with this prefix, each with its account. -/
def firstValid (plainKey : String) : List (ApiKey × ServiceAccount) → Call ApiKey
  | [] => Prog.fail (unauthorized "Invalid or expired API key")
  | (candidate, serviceAccount) :: rest => do
    let now ← read (·.now)
    if candidate.expiresAt.any (· < now) then firstValid plainKey rest
    else if !serviceAccount.enabled then firstValid plainKey rest
    else do
      let valid ← orFail (deps.verifyPassword candidate.keyHash plainKey) .internal
      if valid then do
        modify (used candidate)
        pure candidate
      else firstValid plainKey rest

def World.candidates (w : World) (keyPrefix : String) : List (ApiKey × ServiceAccount) :=
  (w.apiKeys.filter fun key => key.keyPrefix = keyPrefix && !key.revoked).filterMap fun key =>
    (w.serviceAccounts.find? (·.id = key.serviceAccountId)).map fun sa => (key, sa)

def validateApiKey (keyPrefix plainKey : String) : Call ApiKey := do
  let candidates ← read fun w => w.candidates keyPrefix
  firstValid deps plainKey candidates

/-- `checkQuotas`: the reason of a refusal. -/
def checkQuotas (apiKey : ApiKey) : Option String :=
  match apiKey.maxRequestsPerMonth with
  | some maxRequests =>
    if maxRequests ≤ apiKey.requestCount then
      some ("Monthly quota exceeded (" ++ toString apiKey.requestCount ++ "/" ++
        toString maxRequests ++ " requests)")
    else none
  | none => none

/-- What Redis counts for a key: the requests of the last minute, and of the day with this one; it
may be away. -/
structure Counts where
  (lastMinute today : Option Int := none)

def checkRateLimit (counts : Counts) (rateLimitPerMinute : Int) : Option String :=
  match counts.lastMinute with
  | some requestCount =>
    if rateLimitPerMinute ≤ requestCount then
      some ("Rate limit exceeded (" ++ toString requestCount ++ "/" ++
        toString rateLimitPerMinute ++ " per minute)")
    else none
  | none => none

def checkDailyQuota (counts : Counts) (maxRequestsPerDay : Int) : Option String :=
  match counts.today with
  | some currentCount =>
    if maxRequestsPerDay < currentCount then
      some ("Daily quota exceeded (" ++ toString currentCount ++ "/" ++
        toString maxRequestsPerDay ++ " requests)")
    else none
  | none => none

/-- The header `X-Api-Key` and the address of the client. -/
structure Request where
  plainKey : Option String
  clientIp : String

def limitExceeded (limit : Option Int) (check : Int → Option String) : Option Failure :=
  match limit with
  | some limit => if 0 < limit then (check limit).map tooManyRequests else none
  | none => none

def refuseIf (refusal : Option Failure) : Call Unit :=
  match refusal with
  | some failure => Prog.fail failure
  | none => pure ()

def ipAllowed (apiKey : ApiKey) (clientIp : String) : Bool :=
  apiKey.allowedIpRanges.any fun range => Security.ipMatchesRange clientIp range

/-- `ApiKeyGuard.canActivate`, with the key that it attaches to the request. -/
def canActivate (counts : Counts) (req : Request) : Call ApiKey := do
  let plainKey ← orFail (req.plainKey.filter fun key => 8 ≤ key.length)
    (unauthorized "Missing or malformed X-Api-Key header")
  let apiKey ← validateApiKey deps (ofList (plainKey.toList.take 8)) plainKey
  require (!(apiKey.requireIpRestriction && !apiKey.allowedIpRanges.isEmpty) ||
      ipAllowed apiKey req.clientIp)
    (forbidden ("Access denied: client IP " ++ req.clientIp ++ " is not in allowed ranges"))
  refuseIf (limitExceeded apiKey.rateLimitPerMinute (checkRateLimit counts))
  refuseIf (limitExceeded apiKey.maxRequestsPerDay (checkDailyQuota counts))
  refuseIf (limitExceeded apiKey.maxRequestsPerMonth fun _ => checkQuotas apiKey)
  pure apiKey

end Validation

end Idenplane.ServiceAccounts
