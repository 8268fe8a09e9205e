import Idenplane.Auth.Authorize
import Idenplane.RateLimit.Redis

/-! # The magic link service

A request for a link cancels the links of the user that are pending and stores a new one, in two
statements.  A validation reads the row of its link, checks what it read, and marks the row as
completed with an update that asks for its identifier only.

The texts of the mail are left out.  Whether the provider takes it, and what the limiter says
about the address of the caller, are arguments.
-/

namespace Idenplane.MagicLink

open Atomic Auth RateLimit Store

structure MagicLinkRequestResult where
  success : Bool
  message : String
  rateLimit : Option RateLimitResult := none
  deriving DecidableEq

structure MagicLinkValidateResult where
  valid : Bool
  error : Option String := none
  userId : Option Nat := none
  email : Option String := none
  realmId : Option Nat := none
  deriving DecidableEq

structure RequestArgs where
  email : String
  realmId : Nat
  clientId : String
  /-- The answer of `checkIpLimit`, when there is an address. -/
  ipRateLimit : Option RateLimitResult := none
  magicLinkUrl : Option String := none
  /-- `sendEmail` does not throw. -/
  mailed : Bool := true

def findRealmById (id : Nat) (s : Store) : Option Realm :=
  s.realms.find? (·.id = id)

def refused (message : String) : MagicLinkRequestResult := { success := false, message := message }

def resolveCallback (redirectUris : List String) (magicLinkUrl : Option String) :
    Except MagicLinkRequestResult String :=
  match magicLinkUrl.filter (· != "") with
  | some url =>
    if matchesRedirectUri url redirectUris then .ok url
    else .error (refused "Invalid magic link URL")
  | none =>
    let fallback := redirectUris.find? fun uri => !"/*".toList.isSuffixOf uri.toList
    match fallback.filter (· != "") with
    | some uri => .ok uri
    | none => .error (refused "Client has no usable redirect URI for the magic link callback")

def recentRequests (realmId : Nat) (email : String) (since : Int) (s : Store) : Nat :=
  s.magicLinkRequests.countP fun row =>
    row.realmId = realmId && row.email = email && since ≤ row.createdAt

/-- The checks of a request, which only read.  The columns of the realm are not nullable: their
`??` defaults are never used. -/
def admitRequest (d : Deps) (args : RequestArgs) :
    Prog Store MagicLinkRequestResult (Realm × User) := do
  let found ← read (findRealmById args.realmId)
  let realm ← orFail found (refused "Realm not found")
  require realm.magicLinkEnabled (refused "Magic link authentication is not enabled for this realm")
  let known ← read (findClient args.realmId args.clientId)
  let client ← orFail known (refused "Invalid client")
  let _ ← Prog.ofResult (resolveCallback client.redirectUris args.magicLinkUrl)
  require (args.ipRateLimit.all (·.allowed))
    { success := false, message := "Too many requests. Please try again later.",
      rateLimit := args.ipRateLimit }
  let normalizedEmail := d.toLowerCase args.email
  let registered ← read fun s => s.users.find? fun user =>
    user.realmId = args.realmId && user.email = some normalizedEmail
  let user ← orFail registered
    { success := true, message := "If an account exists with this email, a magic link has been sent" }
  require user.enabled (refused "User account is disabled")
  let now ← read now
  let recentCount ← read (recentRequests args.realmId normalizedEmail (now - 900 * 1000))
  require ((recentCount : Int) < realm.magicLinkRateLimitPerEmail)
    (refused "Too many requests. Please try again later.")
  pure (realm, user)

def setStatus (status : MagicLinkStatus) (row : MagicLinkRequest) : MagicLinkRequest :=
  { row with status := status }

def setCompleted (completedAt : Int) (row : MagicLinkRequest) : MagicLinkRequest :=
  { row with status := .COMPLETED, completedAt := some completedAt }

def updateWhere (test : MagicLinkRequest → Bool) (change : MagicLinkRequest → MagicLinkRequest)
    (s : Store) : Store :=
  { s with
    magicLinkRequests := s.magicLinkRequests.map fun row =>
      if test row then change row else row }

def note (event : MagicLinkEvent) (s : Store) : Store :=
  { s with magicLinkLog := event :: s.magicLinkLog }

def isPendingOf (userId realmId : Nat) (row : MagicLinkRequest) : Bool :=
  row.userId = userId && row.realmId = realmId && row.status = .PENDING

def cancelPendingRequests (req userId realmId : Nat) (s : Store) : Nat × Store :=
  (s.magicLinkRequests.countP (isPendingOf userId realmId), note (.cancelled req userId realmId)
      (updateWhere (isPendingOf userId realmId) (setStatus .CANCELLED) s))

def newLink (realmId userId : Nat) (email : String) (expiresAt : Int) (s : Store) :
    MagicLinkRequest where
  id := s.supply + 1
  realmId := realmId
  userId := userId
  email := email
  tokenHash := sha256 s.supply
  expiresAt := expiresAt
  createdAt := s.now

def insertLink (req : Nat) (link : MagicLinkRequest) (s : Store) : Store :=
  note (.created req link) { s with
    supply := s.supply + 2
    magicLinkRequests := link :: s.magicLinkRequests }

/-- `magicLinkRequest.create`, which throws when the realm or the user is gone. -/
def createRequest (req realmId userId : Nat) (email : String) (expiresAt : Int)
    (s : Store) : Bool × Store :=
  if s.realms.any (·.id = realmId) && s.users.any (·.id = userId) then
    (true, insertLink req (newLink realmId userId email expiresAt s) s)
  else (false, s)

def createLink (d : Deps) (req : Nat) (args : RequestArgs) (realm : Realm) (user : User) :
    Op MagicLinkRequestResult := do
  let _ ← atomic (cancelPendingRequests req user.id args.realmId)
  let now ← read now
  let created ← atomic (createRequest req args.realmId user.id (d.toLowerCase args.email)
    (now + realm.magicLinkExpirySeconds * 1000))
  require created .internal
  let fullRealm ← read (findRealmById args.realmId)
  match fullRealm with
  | none => pure (refused "Realm not found")
  | some _ => do
    require args.mailed .internal
    pure { success := true, message := "Magic link sent successfully" }

def requestMagicLink (d : Deps) (req : Nat) (args : RequestArgs) :
    Op MagicLinkRequestResult := do
  let admitted ← (admitRequest d args).attempt
  match admitted with
  | .error refusal => pure refusal
  | .ok (realm, user) => createLink d req args realm user

def invalid (error : String) : MagicLinkValidateResult := { valid := false, error := some error }

/-- `magicLinkRequest.findUnique`.  The foreign keys of the row find its realm and its user. -/
def findLink (tokenHash : Sha256) (s : Store) : Option (MagicLinkRequest × Realm × User) := do
  let link ← s.magicLinkRequests.find? (·.tokenHash = tokenHash)
  let realm ← findRealmById link.realmId s
  let user ← findUserById link.userId s
  pure (link, realm, user)

def isRow (id : Nat) (row : MagicLinkRequest) : Bool := row.id = id

/-- `magicLinkRequest.update`, which throws when the row is gone. -/
def updateLink (id : Nat) (change : MagicLinkRequest → MagicLinkRequest) (s : Store) :
    Bool × Store :=
  if s.magicLinkRequests.any (isRow id) then (true, updateWhere (isRow id) change s)
  else (false, s)

def completeLink (req : Nat) (link : MagicLinkRequest) (checkedAt completedAt : Int)
    (s : Store) : Bool × Store :=
  if s.magicLinkRequests.any (isRow link.id) then
    (true, note (.accepted req link checkedAt s.now)
      (updateWhere (isRow link.id) (setCompleted completedAt) s))
  else (false, s)

def expireLink (link : MagicLinkRequest) : Op MagicLinkValidateResult :=
  if link.status = .PENDING then do
    let updated ← atomic (updateLink link.id (setStatus .EXPIRED))
    require updated .internal
    pure (invalid "This link has expired")
  else pure (invalid "This link has expired")

def acceptLink (req : Nat) (link : MagicLinkRequest) (realm : Realm) (user : User)
    (checkedAt : Int) : Op MagicLinkValidateResult := do
  let completedAt ← read now
  let updated ← atomic (completeLink req link checkedAt completedAt)
  require updated .internal
  pure { valid := true, userId := some user.id, email := user.email, realmId := some realm.id }

def checkLink (req : Nat) (realmName : Option String) (link : MagicLinkRequest) (realm : Realm)
    (user : User) : Op MagicLinkValidateResult :=
  if !realm.magicLinkEnabled then pure (invalid "Magic link authentication is not enabled")
  else if (realmName.filter (· != "")).any (realm.name != ·) then pure (invalid "Invalid realm")
  else if !user.enabled then pure (invalid "User account is disabled")
  else if link.status = .COMPLETED then pure (invalid "This link has already been used")
  else if link.status = .CANCELLED then pure (invalid "This link has been cancelled")
  else do
    let now ← read now
    if link.expiresAt < now then expireLink link
    else if link.status ≠ .PENDING then pure (invalid "Invalid or expired token")
    else acceptLink req link realm user now

def validateMagicLink (req rawToken : Nat) (realmName : Option String) :
    Op MagicLinkValidateResult := do
  let found ← read (findLink (sha256 rawToken))
  match found with
  | none => pure (invalid "Invalid or expired token")
  | some (link, realm, user) => checkLink req realmName link realm user

def isOverdue (date : Int) (row : MagicLinkRequest) : Bool :=
  row.status = .PENDING && row.expiresAt < date

def cleanupExpiredRequests : Op Nat := do
  let date ← read now
  atomic fun s => (s.magicLinkRequests.countP (isOverdue date),
    updateWhere (isOverdue date) (setStatus .EXPIRED) s)

end Idenplane.MagicLink
