import Idenplane.Auth.Authorize
import Idenplane.Lib.Pool
import Idenplane.Lib.Table

/-! # Device codes

A device gets a code, a user approves or denies it, and the device polls for tokens.  Any number
of these requests and of clean-ups run side by side, one database call at a time.

A poll reads the row of the code once, and decides on what it read.  What makes a code good for
one poll only is the deletion of its row: it fails when the row is gone, and no code is given out
twice.  The row says which client the code was issued to.  No poll looks at that.
-/

namespace Idenplane.Auth.DeviceCodes

open Atomic Table Pool Unique

structure DeviceAuthorization where
  device_code : Nat
  (user_code verification_uri verification_uri_complete : String)
  expires_in : Int
  interval : Int
  deriving DecidableEq

/-- `deviceCode.create`, which throws when the user code is taken. -/
def createDeviceCode (userCode : String) (client : Client) (realm : Realm)
    (scope : Option String) (s : Store) : Option Nat × Store :=
  if s.deviceCodes.any (·.userCode = userCode) then (none, s)
  else (some s.supply, { s with
    supply := s.supply + 2
    deviceCodes :=
      { id := s.supply + 1, deviceCode := s.supply, userCode := userCode,
        clientId := client.id, realmId := realm.id, scope := scope,
        expiresAt := s.now + 600000 } :: s.deviceCodes })

/-- The user code is random: it is an argument. -/
def initiateDeviceAuth (deps : Deps) (userCode : String) (realm : Realm) (clientId : String)
    (scope : Option String) : Op DeviceAuthorization := do
  let found ← read (findClient realm.id clientId)
  let client ← orFail (found.filter (·.enabled)) (.oauth "Not Found" "Client not found" 404)
  require (client.grantTypes.contains DEVICE_URN || client.grantTypes.contains "device_code")
    (badRequest "Client does not support device authorization")
  let created ← atomic (createDeviceCode userCode client realm scope)
  let deviceCode ← orFail created .internal
  let uri := deps.baseUrl ++ "/realms/" ++ realm.name ++ "/device"
  pure { device_code := deviceCode
         user_code := userCode
         verification_uri := uri
         verification_uri_complete := uri ++ "?user_code=" ++ userCode
         expires_in := 600
         interval := 5 }

def findByUserCode (userCode : String) (s : Store) : Option DeviceCode :=
  s.deviceCodes.find? (·.userCode = userCode)

/-- `deviceCode.update` with a decision, which the history notes. -/
def decide_ (id : Nat) (change : DeviceCode → DeviceCode) (event : DeviceEvent) (s : Store) :
    Bool × Store :=
  if s.deviceCodes.any (·.id = id) then
    (true, { (deviceUpdated id (fun _ => change) s).2 with
      deviceLog := event :: s.deviceLog })
  else (false, s)

def setApproved (userId : Nat) (row : DeviceCode) : DeviceCode :=
  { row with approved := true, userId := some userId }

def setDenied (row : DeviceCode) : DeviceCode := { row with denied := true }

def approveDevice (realm : Realm) (userCode : String) (userId : Nat) : Op Unit := do
  let found ← read (findByUserCode userCode)
  let device ← orFail (found.filter (·.realmId = realm.id))
    (.oauth "Not Found" "Invalid user code" 404)
  let now ← read Store.now
  require (!(device.expiresAt < now)) (badRequest "Device code has expired")
  let updated ← atomic (decide_ device.id (setApproved userId) (.approved device.id userId))
  require updated .internal

def denyDevice (realm : Realm) (userCode : String) : Op Unit := do
  let found ← read (findByUserCode userCode)
  let device ← orFail (found.filter (·.realmId = realm.id))
    (.oauth "Not Found" "Invalid user code" 404)
  let updated ← atomic (decide_ device.id setDenied (.denied device.id))
  require updated .internal

def deleteExpired (date : Int) (s : Store) : Store :=
  { s with deviceCodes := s.deviceCodes.filter (date ≤ ·.expiresAt) }

def cleanupExpiredDeviceCodes : Op Unit := do
  let date ← read Store.now
  modify (deleteExpired date)

inductive Request where
  | initiate (userCode : String) (realm : Realm) (clientId : String) (scope : Option String)
  | approve (realm : Realm) (userCode : String) (userId : Nat)
  | deny (realm : Realm) (userCode : String)
  | poll (realm : Realm) (body : Body)
  | cleanup

inductive Reply where
  | initiated (authorization : DeviceAuthorization)
  | tokens (response : TokenResponse)
  | finished

def handle (deps : Deps) : Request → Op Reply
  | .initiate userCode realm clientId scope => do
    let authorization ← initiateDeviceAuth deps userCode realm clientId scope
    pure (.initiated authorization)
  | .approve realm userCode userId => do
    approveDevice realm userCode userId
    pure .finished
  | .deny realm userCode => do
    denyDevice realm userCode
    pure .finished
  | .poll realm body => do
    let response ← handleDeviceCodeGrant deps realm body
    pure (.tokens response)
  | .cleanup => do
    cleanupExpiredDeviceCodes
    pure .finished

def pool (deps : Deps) (requests : Nat → Request) (s : Store) : Pool Nat Store Failure Reply :=
  ⟨s, fun i => handle deps (requests i)⟩

/-- What the rest of the server does: time passes, and device codes and clients are left alone. -/
structure Env (s s' : Store) : Prop where
  now : s.now ≤ s'.now
  supply : s.supply ≤ s'.supply
  clients : s'.clients = s.clients
  rows : s'.deviceCodes = s.deviceCodes
  log : s'.deviceLog = s.deviceLog

def Free (_ _ : Store) : Prop := True

abbrev Reaches := Pool.Reaches (ι := Nat) (ε := Failure) (α := Reply) Env Free

section Poll

variable (deps : Deps) (realm : Realm) (body : Body)

def findDevice (presented : Nat) (s : Store) : Option DeviceCode :=
  s.deviceCodes.find? (·.deviceCode = presented)

def presentDevice : Op (Nat × Client) := do
  let presented ← orFail body.device_code (.oauth "invalid_request" "device_code is required" 400)
  let client ← validateClient deps realm body.client_id body.client_secret DEVICE_URN
  pure (presented, client)

def checkDevice (found : Option DeviceCode) : Op (DeviceCode × User) := do
  let device ← orFail (found.filter (·.realmId = realm.id)) (deviceError "authorization_pending")
  let now ← read Store.now
  require (!(device.expiresAt < now)) (deviceError "expired_token")
  require (!device.denied) (deviceError "access_denied")
  require device.approved (deviceError "authorization_pending")
  let userId ← orFail device.userId (deviceError "authorization_pending")
  let now ← read Store.now
  refuseEarlyPoll device (tooEarly device now)
  let polled ← atomic (deviceUpdated device.id polledAt)
  require polled .internal
  let known ← read (findUserById userId)
  let user ← orFail known (invalidGrant "User not found")
  let mfaEnabled ← read (isMfaEnabled · user.id)
  require (!mfaEnabled) (invalidGrant ("MFA verification required. Device code grant does " ++
    "not support MFA. Use authorization_code grant instead."))
  let mfaRequired ← read (isMfaRequired realm user.id)
  require (!mfaRequired) (invalidGrant
    "MFA setup required. Use authorization_code grant to complete MFA setup.")
  pure (device, user)

def issue (accepted : DeviceCode × User) (deleted : Bool) : Op Reply := do
  require deleted .internal
  let response ← startSession deps none []
    { realm := realm, user := accepted.2, clientId := body.clientId, sessionId := 0,
      scope := accepted.1.scope }
  pure (.tokens response)

def redeem (accepted : DeviceCode × User) : Op Reply := do
  let deleted ← atomic (deviceDeleted accepted.1.id)
  issue deps realm body accepted deleted

/-- What follows once the request has authenticated: it reads the row, and goes on from there. -/
def check (presented : Nat) : Op Reply := do
  let found ← read (findDevice presented)
  let accepted ← checkDevice realm found
  redeem deps realm body accepted

def acceptDevice : Op (DeviceCode × User) := do
  let identified ← presentDevice deps realm body
  let found ← read (findDevice identified.1)
  checkDevice realm found

theorem handle_poll_check : handle deps (.poll realm body) =
    presentDevice deps realm body >>= fun identified => check deps realm body identified.1 := by
  simp only [handle, handleDeviceCodeGrant, presentDevice, check, checkDevice, redeem, issue,
    bind_assoc, pure_def, done_bind]
  rfl

theorem handle_poll_redeem : handle deps (.poll realm body) =
    acceptDevice deps realm body >>= redeem deps realm body := by
  simp only [handle_poll_check, acceptDevice, check, bind_assoc]

end Poll

def identity (row : DeviceCode) : Nat × Nat × Nat × Nat × Int :=
  (row.id, row.deviceCode, row.clientId, row.realmId, row.expiresAt)

def DeviceEvent.device : DeviceEvent → Nat
  | .approved id _ => id
  | .denied id => id

open DeviceCodes.DeviceEvent

/-- Codes and identifiers are unique, and the rows say what the users have decided. -/
structure Inv (s : Store) : Prop where
  codes : ∀ a ∈ s.deviceCodes, ∀ b ∈ s.deviceCodes, a.deviceCode = b.deviceCode → a = b
  ids : ∀ a ∈ s.deviceCodes, ∀ b ∈ s.deviceCodes, a.id = b.id → a = b
  drawn : ∀ row ∈ s.deviceCodes, row.deviceCode < s.supply ∧ row.id < s.supply
  approved : ∀ row ∈ s.deviceCodes, row.approved = true →
    ∃ userId, row.userId = some userId ∧ .approved row.id userId ∈ s.deviceLog
  undenied : ∀ row ∈ s.deviceCodes, row.denied = false → .denied row.id ∉ s.deviceLog
  logged : ∀ event ∈ s.deviceLog, device event < s.supply

structure Later (s s' : Store) : Prop where
  now : s.now ≤ s'.now
  supply : s.supply ≤ s'.supply
  clients : s'.clients = s.clients
  rows : ∀ row' ∈ s'.deviceCodes, (∃ row ∈ s.deviceCodes, identity row = identity row') ∨
    (s.supply ≤ row'.deviceCode ∧ s.supply ≤ row'.id)

theorem Later.refl (s : Store) : Later s s :=
  ⟨le_rfl, le_rfl, rfl, fun row mem => .inl ⟨row, mem, rfl⟩⟩

theorem Later.trans {a b c : Store} (ab : Later a b) (bc : Later b c) : Later a c where
  now := ab.now.trans bc.now
  supply := ab.supply.trans bc.supply
  clients := bc.clients.trans ab.clients
  rows row'' mem := by
    obtain ⟨row', isRow', same'⟩ | ⟨code, id⟩ := bc.rows row'' mem
    · obtain ⟨row, isRow, same⟩ | ⟨code, id⟩ := ab.rows row' isRow'
      · exact .inl ⟨row, isRow, same.trans same'⟩
      · simp only [identity, Prod.mk.injEq] at same'
        exact .inr ⟨same'.2.1 ▸ code, same'.1 ▸ id⟩
    · exact .inr ⟨ab.supply.trans code, ab.supply.trans id⟩

open Later

def protocol : Protocol Nat Store where
  inv := Inv
  rely _ := Later
  refl _ := refl
  trans _ := trans

section Steps

variable {s s' : Store}

theorem Env.later (move : Env s s') : Later s s' :=
  ⟨move.now, move.supply, move.clients, fun row mem => .inl ⟨row, move.rows ▸ mem, rfl⟩⟩

theorem Inv.env (inv : Inv s) (move : Env s s') : Inv s' := by
  constructor
  · rw [move.rows]
    exact inv.codes
  · rw [move.rows]
    exact inv.ids
  · intro row mem
    rw [move.rows] at mem
    obtain ⟨code, id⟩ := inv.drawn row mem
    exact ⟨code.trans_le move.supply, id.trans_le move.supply⟩
  · rw [move.rows, move.log]
    exact inv.approved
  · rw [move.rows, move.log]
    exact inv.undenied
  · intro ev mem
    rw [move.log] at mem
    exact (inv.logged ev mem).trans_le move.supply

theorem Env.respects (s s' : Store) (inv : Inv s) (move : Env s s') :
    Inv s' ∧ ∀ i, protocol.rely i s s' :=
  ⟨inv.env move, fun _ => move.later⟩

theorem SessionWork.respects (s s' : Store) (inv : Inv s) (work : SessionWork s s') :
    Inv s' ∧ ∀ i, protocol.rely i s s' :=
  Env.respects s s' inv ⟨(congrArg Store.now work.rest :).ge, work.supply,
    (congrArg Store.clients work.rest :), (congrArg Store.deviceCodes work.rest :),
    (congrArg Store.deviceLog work.rest :)⟩

theorem reads_respects (t t' : Store) (inv : Inv t) (same : t = t') :
    Inv t' ∧ ∀ i, protocol.rely i t t' := by
  subst same
  exact ⟨inv, fun _ => .refl t⟩

section

variable (inv : Inv s)

include inv

theorem filter_moves (keep : DeviceCode → Bool) :
    Inv { s with deviceCodes := s.deviceCodes.filter keep } ∧
      Later s { s with deviceCodes := s.deviceCodes.filter keep } := by
  have fewer : ∀ row ∈ s.deviceCodes.filter keep, row ∈ s.deviceCodes :=
    fun row mem => (mem_filter.mp mem).1
  constructor
  · exact ⟨subset inv.codes fewer, subset inv.ids fewer,
      fun row mem => inv.drawn row (fewer row mem),
      fun row mem => inv.approved row (fewer row mem),
      fun row mem => inv.undenied row (fewer row mem), inv.logged⟩
  · exact ⟨le_rfl, le_rfl, rfl, fun row mem => .inl ⟨row, fewer row mem, rfl⟩⟩

/-- The rows are rewritten one by one, keep their identity, and say what the history says. -/
theorem map_moves {chg : DeviceCode → DeviceCode} {log : List DeviceEvent}
    (same : ∀ row, identity (chg row) = identity row)
    (approved : ∀ row ∈ s.deviceCodes, (chg row).approved = true →
      ∃ uid, (chg row).userId = some uid ∧ .approved row.id uid ∈ log)
    (undenied : ∀ row ∈ s.deviceCodes, (chg row).denied = false → .denied row.id ∉ log)
    (logged : ∀ ev ∈ log, device ev < s.supply) :
    Inv { s with deviceCodes := s.deviceCodes.map chg, deviceLog := log } ∧
      Later s { s with deviceCodes := s.deviceCodes.map chg, deviceLog := log } := by
  have id : ∀ row, (chg row).id = row.id := fun row => congrArg (·.1) (same row)
  have code : ∀ row, (chg row).deviceCode = row.deviceCode := fun row =>
    congrArg (·.2.1) (same row)
  constructor
  · constructor
    · exact map inv.codes code
    · exact map inv.ids id
    · intro row' mem
      obtain ⟨row, old, rfl⟩ := mem_map.mp mem
      rw [code, id]
      exact inv.drawn row old
    · intro row' mem
      obtain ⟨row, old, rfl⟩ := mem_map.mp mem
      rw [id]
      exact approved row old
    · intro row' mem
      obtain ⟨row, old, rfl⟩ := mem_map.mp mem
      rw [id]
      exact undenied row old
    · exact logged
  · refine ⟨le_rfl, le_rfl, rfl, fun row' mem => ?_⟩
    obtain ⟨row, old, rfl⟩ := mem_map.mp mem
    exact .inl ⟨row, old, (same row).symm⟩

theorem deviceUpdated_moves (id : Nat) {chg : Int → DeviceCode → DeviceCode}
    (same : ∀ now row, identity (chg now row) = identity row ∧
      (chg now row).approved = row.approved ∧ (chg now row).userId = row.userId ∧
      (chg now row).denied = row.denied) :
    Inv (deviceUpdated id chg s).2 ∧ Later s (deviceUpdated id chg s).2 := by
  have kept : ∀ row, identity (if row.id = id then chg s.now row else row) = identity row ∧
      (if row.id = id then chg s.now row else row).approved = row.approved ∧
      (if row.id = id then chg s.now row else row).userId = row.userId ∧
      (if row.id = id then chg s.now row else row).denied = row.denied := by
    intro row
    split
    · exact same s.now row
    · exact ⟨rfl, rfl, rfl, rfl⟩
  refine map_moves inv (fun row => (kept row).1) ?_ ?_ inv.logged
  · intro row mem isApproved
    obtain ⟨-, approved, uid, -⟩ := kept row
    rw [approved] at isApproved
    rw [uid]
    exact inv.approved row mem isApproved
  · intro row mem isUndenied
    rw [(kept row).2.2.2] at isUndenied
    exact inv.undenied row mem isUndenied

theorem createDeviceCode_moves (userCode : String) (c : Client) (realm : Realm)
    (sc : Option String) : Inv (createDeviceCode userCode c realm sc s).2 ∧
      Later s (createDeviceCode userCode c realm sc s).2 := by
  unfold createDeviceCode
  split
  · exact ⟨inv, .refl s⟩
  have fresh : ∀ row ∈ s.deviceCodes, row.deviceCode ≠ s.supply ∧ row.id ≠ s.supply + 1 := by
    intro row mem
    obtain ⟨code, id⟩ := inv.drawn row mem
    omega
  constructor
  · constructor
    · exact cons inv.codes fun row mem => (fresh row mem).1
    · exact cons inv.ids fun row mem => (fresh row mem).2
    · intro row mem
      rcases mem_cons.mp mem with rfl | old
      · exact ⟨Nat.lt_add_of_pos_right (by decide), lt_succ_self _⟩
      · obtain ⟨code, id⟩ := inv.drawn row old
        exact ⟨Nat.lt_add_right 2 code, Nat.lt_add_right 2 id⟩
    · intro row mem isApproved
      rcases mem_cons.mp mem with rfl | old
      · cases isApproved
      · exact inv.approved row old isApproved
    · intro row mem isUndenied
      rcases mem_cons.mp mem with rfl | old
      · intro isDenied
        have drawn := inv.logged _ isDenied
        simp only [device] at drawn
        omega
      · exact inv.undenied row old isUndenied
    · intro ev mem
      exact Nat.lt_add_right 2 (inv.logged ev mem)
  · refine ⟨le_rfl, le_add_right _ 2, rfl, fun row mem => ?_⟩
    rcases mem_cons.mp mem with rfl | old
    · exact .inr ⟨le_rfl, le_succ _⟩
    · exact .inl ⟨row, old, rfl⟩

theorem approval_moves (id uid : Nat) : Inv (decide_ id (setApproved uid) (.approved id uid) s).2 ∧
      Later s (decide_ id (setApproved uid) (.approved id uid) s).2 := by
  unfold decide_
  split
  · rename_i present
    obtain ⟨row, isRow, isId⟩ := any_eq_true.mp present
    have drawn : id < s.supply := of_decide_eq_true isId ▸ (inv.drawn row isRow).2
    refine map_moves inv ?_ ?_ ?_ ?_
    · intro row
      split <;> rfl
    · intro row mem isApproved
      split at isApproved
      · rename_i same
        rw [if_pos same, same]
        exact ⟨uid, rfl, mem_cons_self⟩
      · rename_i other
        rw [if_neg other]
        obtain ⟨by_, isBy, isLogged⟩ := inv.approved row mem isApproved
        exact ⟨by_, isBy, .tail _ isLogged⟩
    · intro row mem isUndenied isDenied
      have old : row.denied = false := by
        split at isUndenied
        · exact isUndenied
        · exact isUndenied
      rcases mem_cons.mp isDenied with no | isOld
      · cases no
      · exact inv.undenied row mem old isOld
    · intro ev mem
      rcases mem_cons.mp mem with rfl | isOld
      · exact drawn
      · exact inv.logged ev isOld
  · exact ⟨inv, .refl s⟩

theorem denial_moves (id : Nat) : Inv (decide_ id setDenied (.denied id) s).2 ∧
      Later s (decide_ id setDenied (.denied id) s).2 := by
  unfold decide_
  split
  · rename_i present
    obtain ⟨row, isRow, isId⟩ := any_eq_true.mp present
    have drawn : id < s.supply := of_decide_eq_true isId ▸ (inv.drawn row isRow).2
    refine map_moves inv ?_ ?_ ?_ ?_
    · intro row
      split <;> rfl
    · intro row mem isApproved
      have old : ∃ uid, row.userId = some uid ∧ .approved row.id uid ∈ s.deviceLog := by
        split at isApproved
        · exact inv.approved row mem isApproved
        · exact inv.approved row mem isApproved
      obtain ⟨by_, isBy, isLogged⟩ := old
      refine ⟨by_, ?_, .tail _ isLogged⟩
      split
      · exact isBy
      · exact isBy
    · intro row mem isUndenied isDenied
      split at isUndenied
      · cases isUndenied
      · rename_i other
        rcases mem_cons.mp isDenied with same | isOld
        · exact other (DeviceEvent.denied.inj same)
        · exact inv.undenied row mem isUndenied isOld
    · intro ev mem
      rcases mem_cons.mp mem with rfl | isOld
      · exact drawn
      · exact inv.logged ev isOld
  · exact ⟨inv, .refl s⟩

end

end Steps

variable {ok : DeviceCode × User}

section Requests

variable {deps : Deps} {i : Nat} {s : Store} {realm : Realm} {body : Body}

theorem atomic_bind_sat {α β : Type} {update : Store → α × Store} {rest : α → Op β}
    {post : Except Failure β → Store → Prop}
    (moves : ∀ t, Inv t → Inv (update t).2 ∧ Later t (update t).2)
    (follow : ∀ t, Later s t → Inv t → (rest (update t).1).Sat protocol Free i post (update t).2) :
    (atomic update >>= rest).Sat protocol Free i post s := by
  refine .atomic_bind fun t move inv _ => ?_
  obtain ⟨kept, later⟩ := moves t inv
  exact ⟨kept, fun _ _ => later, follow t move inv⟩

theorem polledAt_same (now : Int) (row : DeviceCode) :
    identity (polledAt now row) = identity row ∧ (polledAt now row).approved = row.approved ∧
      (polledAt now row).userId = row.userId ∧ (polledAt now row).denied = row.denied :=
  ⟨rfl, rfl, rfl, rfl⟩

def Respects {α : Type} (i : Nat) (p : Op α) (s : Store) : Prop :=
  p.Sat protocol Free i (onOk fun _ _ => True) s

theorem initiateDeviceAuth_respects (userCode cid : String) (sc : Option String) :
    Respects i (initiateDeviceAuth deps userCode realm cid sc) s := by
  refine .read_bind fun t _ _ => .orFail_bind ?_ fun _ _ _ _ => trivial
  intro c _
  refine .require_bind ?_ fun _ _ _ _ => trivial
  intro _
  refine atomic_bind_sat (fun t inv => createDeviceCode_moves inv _ _ _ _) fun t _ _ => ?_
  refine .orFail_bind ?_ fun _ _ _ _ => trivial
  intro code _
  exact .done fun _ _ _ => trivial

theorem require_respects (check : Bool) (e : Failure) : Respects i (require check e) s := by
  refine .ofKeeps (.require check e) reads_respects fun res _ _ _ => ?_
  cases res <;> trivial

theorem approveDevice_respects (userCode : String) (uid : Nat) :
    Respects i (approveDevice realm userCode uid) s := by
  refine .read_bind fun t _ _ => .orFail_bind ?_ fun _ _ _ _ => trivial
  intro device _
  refine .read_bind fun t _ _ => .require_bind ?_ fun _ _ _ _ => trivial
  intro _
  exact atomic_bind_sat (fun t inv => approval_moves inv _ _) fun t _ _ => require_respects _ _

theorem denyDevice_respects (userCode : String) : Respects i (denyDevice realm userCode) s := by
  refine .read_bind fun t _ _ => .orFail_bind ?_ fun _ _ _ _ => trivial
  intro device _
  exact atomic_bind_sat (fun t inv => denial_moves inv _) fun t _ _ => require_respects _ _

theorem cleanupExpiredDeviceCodes_respects : Respects i cleanupExpiredDeviceCodes s := by
  refine .read_bind fun t _ _ => ?_
  intro u _ inv _
  obtain ⟨kept, later⟩ := filter_moves inv fun row => decide (t.now ≤ row.expiresAt)
  exact ⟨kept, fun _ _ => later, .done fun _ _ _ => trivial⟩

/-- The request authenticated as this client, and this is the code it presents. -/
structure Presented (deps : Deps) (realm : Realm) (body : Body) (code : Nat) (client : Client)
    (s : Store) : Prop where
  code : body.device_code = some code
  authenticated : Authenticated deps realm body.client_id body.client_secret DEVICE_URN client
  isClient : findClient realm.id client.clientId s = some client

theorem findClient_later {rid : Nat} {cid : String} {s' : Store} (later : Later s s') :
    findClient rid cid s' = findClient rid cid s := by
  rw [findClient, later.clients, findClient]

theorem authenticateClient_reads (c : Client) (sec : Option String) :
    (authenticateClient deps c sec).Keeps Eq := by
  unfold authenticateClient
  cases c.clientType with
  | CONFIDENTIAL =>
    exact .bind (.orFail _ _) fun _ => .bind (.orFail _ _) fun _ =>
      .bind (.orFail _ _) fun _ => .require _ _
  | PUBLIC => trivial

theorem validateClient_sat {cid clientSecret : Option String} {grantType : String} :
    (validateClient deps realm cid clientSecret grantType).Sat protocol Free i
      (onOk fun c t => Authenticated deps realm cid clientSecret grantType c ∧
        findClient realm.id c.clientId t = some c) s := by
  have authenticated : (validateClient deps realm cid clientSecret grantType).Sat protocol
      Free i (onOk fun c _ =>
        Authenticated deps realm cid clientSecret grantType c) s := by
    have same : validateClient deps realm cid clientSecret grantType =
        validateClient deps realm cid clientSecret grantType >>= pure := by
      simp only [validateClient, bind_assoc, pure_def, done_bind]
    rw [same]
    refine .call_bind (validateClient_reads deps realm _ _ _)
      (validateClient_returns deps realm _ _ _) reads_respects ?_ fun _ _ _ _ => trivial
    exact fun c t isClient _ _ => .done fun _ _ _ => isClient
  have hit : (validateClient deps realm cid clientSecret grantType).Sat protocol Free i
      (onOk fun c t => findClient realm.id c.clientId t = some c) s := by
    refine .orFail_bind ?_ fun _ _ _ _ => trivial
    intro name _
    refine .read_bind fun t _ _ => .orFail_bind ?_ fun _ _ _ _ => trivial
    intro c accepted
    obtain ⟨isClient, -⟩ := filter_eq_some_iff.mp accepted
    obtain ⟨-, rfl⟩ := findClient_spec isClient
    refine .require_bind ?_ fun _ _ _ _ => trivial
    intro _
    refine .keeps_bind (authenticateClient_reads c _) reads_respects ?_ fun _ _ _ _ => trivial
    intro _ u move _
    exact .done fun v further _ => (findClient_later (.trans move further)).trans isClient
  refine (authenticated.and hit).mono ?_
  intro res t both
  cases res with
  | ok c => exact both
  | error e => trivial

theorem presentDevice_sat :
    (presentDevice deps realm body).Sat protocol Free i (onOk fun identified t =>
      Presented deps realm body identified.1 identified.2 t) s := by
  refine .orFail_bind ?_ fun _ _ _ _ => trivial
  intro presented isPresented
  refine .ok_bind validateClient_sat ?_ fun _ _ => trivial
  intro c t ok
  exact .done fun u move _ => ⟨isPresented, ok.1, (findClient_later move).trans ok.2⟩

/-- A row that was read: whoever has its identifier has its code. -/
structure Read (device : DeviceCode) (s : Store) : Prop where
  drawn : device.deviceCode < s.supply ∧ device.id < s.supply
  identified : ∀ row ∈ s.deviceCodes, row.id = device.id → row.deviceCode = device.deviceCode

variable {device : DeviceCode}

theorem Read.later {s' : Store} (read : Read device s) (later : Later s s') : Read device s' where
  drawn := ⟨read.drawn.1.trans_le later.supply, read.drawn.2.trans_le later.supply⟩
  identified row' mem sameId := by
    obtain ⟨row, isRow, same⟩ | ⟨-, fresh⟩ := later.rows row' mem
    · simp only [identity, Prod.mk.injEq] at same
      exact same.2.1.symm.trans (read.identified row isRow (same.1.trans sameId))
    · exact absurd (sameId ▸ read.drawn.2) (not_lt.mpr fresh)

theorem findDevice_read {presented : Nat} (inv : Inv s)
    (hit : findDevice presented s = some device) :
    device.deviceCode = presented ∧ Read device s := by
  have isRow := mem_of_find?_eq_some hit
  refine ⟨by simpa using find?_some hit, inv.drawn device isRow, ?_⟩
  intro row mem sameId
  rw [inv.ids row mem device isRow sameId]

/-- The row that was found passed the checks, at this time or later. -/
structure Passed (realm : Realm) (found : Option DeviceCode) (time : Int) (device : DeviceCode) :
    Prop where
  isFound : found = some device
  inRealm : device.realmId = realm.id
  inTime : time ≤ device.expiresAt
  undenied : device.denied = false
  approved : device.approved = true

theorem refuseEarlyPoll_sat {β : Type} {early : Bool} {rest : Unit → Op β}
    {post : Except Failure β → Store → Prop} (failed : ∀ e t, post (.error e) t)
    (follow : ∀ t, Later s t → Inv t → (rest ()).Sat protocol Free i post t) :
    (refuseEarlyPoll device early >>= rest).Sat protocol Free i post s := by
  unfold refuseEarlyPoll
  split
  · simp only [bind_assoc]
    refine atomic_bind_sat (fun t inv => deviceUpdated_moves inv _ fun _ _ => ⟨rfl, rfl, rfl, rfl⟩)
      fun t _ _ => .require_bind ?_ fun _ u _ _ => failed _ u
    intro _
    exact .fail fun u _ _ => failed _ u
  · exact .ofRely follow

theorem checkDevice_sat {hit : Option DeviceCode} {time : Int} (past : time ≤ s.now)
    (read : ∀ device, hit = some device → Read device s) :
    (checkDevice realm hit).Sat protocol Free i
      (onOk fun ok t => Passed realm hit time ok.1 ∧ Read ok.1 t) s := by
  refine .orFail_bind ?_ fun _ _ _ _ => trivial
  intro device isDevice
  obtain ⟨isFound, inRealm⟩ := filter_eq_some_iff.mp isDevice
  refine .read_bind fun t₁ move₁ _ => .require_bind ?_ fun _ _ _ _ => trivial
  intro unexpired
  refine .require_bind ?_ fun _ _ _ _ => trivial
  intro undenied
  refine .require_bind ?_ fun _ _ _ _ => trivial
  intro approved
  refine .orFail_bind ?_ fun _ _ _ _ => trivial
  intro uid _
  have inTime : time ≤ device.expiresAt := by
    have later := past.trans (now move₁)
    simp only [not_eq_true', decide_eq_false_iff_not, not_lt] at unexpired
    exact later.trans unexpired
  have passed : Passed realm hit time device :=
    ⟨isFound, of_decide_eq_true inRealm, inTime, by simpa using undenied, approved⟩
  refine .read_bind fun t₂ move₂ _ => refuseEarlyPoll_sat (fun _ _ => trivial) fun t₃ move₃ _ => ?_
  refine atomic_bind_sat (fun t inv => deviceUpdated_moves inv _ polledAt_same) fun t₄ move₄ inv₄ => ?_
  have polled := (deviceUpdated_moves inv₄ device.id polledAt_same).2
  have along := trans move₁ (trans move₂ (trans move₃ (trans move₄ polled)))
  have known := (read device isFound).later along
  refine .require_bind ?_ fun _ _ _ _ => trivial
  intro _
  refine .read_bind fun t₅ move₅ _ => .orFail_bind ?_ fun _ _ _ _ => trivial
  intro u _
  refine .read_bind fun t₆ move₆ _ => .require_bind ?_ fun _ _ _ _ => trivial
  intro _
  refine .read_bind fun t₇ move₇ _ => .require_bind ?_ fun _ _ _ _ => trivial
  intro _
  refine .done fun t move _ => ⟨passed, known.later ?_⟩
  exact .trans move₅ (.trans move₆ (.trans move₇ move))

theorem redeem_sat {post : Except Failure Reply → Store → Prop} (any : ∀ res t, post res t) :
    (redeem deps realm body ok).Sat protocol Free i post s := by
  refine atomic_bind_sat (fun t inv => filter_moves inv _) fun t _ _ => ?_
  refine .require_bind ?_ fun _ u _ _ => any _ u
  intro _
  refine .keeps_bind (startSession_works deps _ _ _) SessionWork.respects ?_ fun _ u _ _ => any _ u
  intro response u _ _
  exact .done fun v _ _ => any _ v

/-- The code that the request presents belongs to the row it has read. -/
def Accepted (body : Body) (accepted : DeviceCode × User) (s : Store) : Prop :=
  body.device_code = some accepted.1.deviceCode ∧ Read accepted.1 s

theorem acceptDevice_sat :
    (acceptDevice deps realm body).Sat protocol Free i (onOk (Accepted body)) s := by
  refine .ok_bind presentDevice_sat ?_ fun _ _ => trivial
  intro identified t presented
  refine .read_bind fun u _ inv => ?_
  have read := fun device (hit : findDevice identified.1 u = some device) =>
    findDevice_read inv hit
  refine (checkDevice_sat le_rfl fun device hit => (read device hit).2).mono ?_
  intro res v checked
  cases res with
  | error e => trivial
  | ok accepted =>
    refine ⟨?_, checked.2⟩
    rw [(read accepted.1 checked.1.isFound).1]
    exact presented.code

theorem handle_respects (req : Request) : Respects i (handle deps req) s := by
  have finished : ∀ (reply : Reply) t, Respects i (pure reply) t := fun _ _ =>
    .done fun _ _ _ => trivial
  cases req with
  | initiate userCode realm cid sc =>
    exact .ok_bind (initiateDeviceAuth_respects _ _ _) (fun _ t _ => finished _ t) fun _ _ => trivial
  | approve realm userCode uid =>
    exact .ok_bind (approveDevice_respects _ _) (fun _ t _ => finished _ t) fun _ _ => trivial
  | deny realm userCode =>
    exact .ok_bind (denyDevice_respects _) (fun _ t _ => finished _ t) fun _ _ => trivial
  | cleanup =>
    exact .ok_bind cleanupExpiredDeviceCodes_respects (fun _ t _ => finished _ t) fun _ _ => trivial
  | poll realm body =>
    rw [handle_poll_redeem]
    refine .ok_bind acceptDevice_sat (fun ok t _ => redeem_sat ?_) fun _ _ => trivial
    intro res u
    cases res <;> trivial

end Requests

section Runs

variable {deps : Deps} {reqs : Nat → Request} {s : Store} {realm : Realm} {body : Body}
  {c c' : Pool Nat Store Failure Reply} {i j : Nat}

/-- The state is consistent, and every program respects the protocol from here on. -/
structure Valid (c : Pool Nat Store Failure Reply) : Prop where
  inv : Inv c.state
  threads : ∀ k, Respects k (c.procs k) c.state

theorem Valid.start (deps : Deps) (reqs : Nat → Request) (inv : Inv s) : Valid (pool deps reqs s) :=
  ⟨inv, fun _ => handle_respects _⟩

theorem Valid.reaches (valid : Valid c) (reached : Reaches c c') : Valid c' := by
  obtain ⟨inv, threads⟩ := sound valid.inv valid.threads Env.respects reached
  exact ⟨inv, threads⟩

theorem Valid.moves (valid : Valid c) (reached : Reaches c c') : Later c.state c'.state :=
  sound_moves (fun _ _ _ _ move => move) valid.inv valid.threads Env.respects reached 0

theorem free (s s' : Store) : Free s s' := trivial

structure Gone (code : Nat) (s : Store) : Prop where
  drawn : code < s.supply
  absent : ∀ row ∈ s.deviceCodes, row.deviceCode ≠ code

theorem Gone.later {code : Nat} {s' : Store} (gone : Gone code s) (later : Later s s') :
    Gone code s' where
  drawn := gone.drawn.trans_le later.supply
  absent row' mem same := by
    obtain ⟨row, isRow, sameRow⟩ | ⟨fresh, -⟩ := later.rows row' mem
    · simp only [identity, Prod.mk.injEq] at sameRow
      exact gone.absent row isRow (sameRow.2.1.trans same)
    · exact absurd gone.drawn (not_lt.mpr (same ▸ fresh))

/-- A deletion that does not fail finds the row, and leaves no row with the code. -/
theorem redeem_deletes (valid : Valid c)
    (redeems : c.procs i = redeem deps realm body ok) (isAccepted : Accepted body ok c.state)
    (unfailed : ∀ e, (c.advance i).procs i ≠ .fail e) :
    (∃ row ∈ c.state.deviceCodes, row.deviceCode = ok.1.deviceCode) ∧
      Gone ok.1.deviceCode (c.advance i).state := by
  have state : (c.advance i).state = (deviceDeleted ok.1.id c.state).2 := by
    rw [advance, redeems]
    rfl
  have present : c.state.deviceCodes.any (·.id = ok.1.id) = true := by
    by_contra missing
    have refused : (deviceDeleted ok.1.id c.state).1 = false := eq_false_iff.mpr missing
    have next : (c.advance i).procs i =
        issue deps realm body ok (deviceDeleted ok.1.id c.state).1 := by
      rw [advance, redeems]
      exact update_self ..
    rw [refused] at next
    exact unfailed _ next
  obtain ⟨row, isRow, sameId⟩ := any_eq_true.mp present
  have sameCode := isAccepted.2.identified row isRow (of_decide_eq_true sameId)
  refine ⟨⟨row, isRow, sameCode⟩, ?_⟩
  rw [state]
  refine ⟨isAccepted.2.drawn.1, fun other mem same => ?_⟩
  obtain ⟨isOther, otherId⟩ := mem_filter.mp mem
  have isSame := valid.inv.codes other isOther row isRow (same.trans sameCode.symm)
  rw [isSame] at otherId
  exact absurd (of_decide_eq_true sameId) (by simpa using otherId)

variable {reply : Reply}

theorem redeem_unfinished : redeem deps realm body ok ≠ .done reply := by
  intro no
  cases no

/-- A poll that has not deleted a row yet and returns does so on the way. -/
theorem Valid.redeemed {q : Op (DeviceCode × User)} (valid : Valid c)
    (begins : c.procs i = q >>= redeem deps realm body)
    (first : q.Sat protocol Free i (onOk (Accepted body)) c.state) (reached : Reaches c c')
    (fin : c'.procs i = .done reply) : ∃ c₁ code, Reaches c c₁ ∧ body.device_code = some code ∧
      (∃ row ∈ c₁.state.deviceCodes, row.deviceCode = code) ∧ Gone code (c₁.advance i).state ∧
      Reaches (c₁.advance i) c' := by
  obtain ⟨q', here, -⟩ | ⟨c₁, ok, pre, redeems, isAccepted, after⟩ :=
    phase valid.inv valid.threads Env.respects begins first reached
  · rw [here] at fin
    obtain ⟨ok, -, no⟩ := Prog.bind_eq_done fin
    exact absurd no redeem_unfinished
  · have unfailed : ∀ e, (c₁.advance i).procs i ≠ .fail e := by
      intro e failed
      rw [failed_stays failed after] at fin
      cases fin
    obtain ⟨present, gone⟩ := redeem_deletes (valid.reaches pre) redeems isAccepted unfailed
    exact ⟨c₁, _, pre, isAccepted.1, present, gone, after⟩

/-- Of the polls that present one code, at most one returns tokens. -/
theorem redeemed_once {realm' : Realm} {body' : Body} {reply reply' : Reply} (inv : Inv s)
    (isI : reqs i = .poll realm body) (isJ : reqs j = .poll realm' body')
    (sameCode : body.device_code = body'.device_code) (reached : Reaches (pool deps reqs s) c)
    (finishedI : c.procs i = .done reply) (finishedJ : c.procs j = .done reply') : i = j := by
  by_contra different
  have other : j ≠ i := fun same => different same.symm
  have valid := Valid.start deps reqs inv
  have program : ∀ k realm body, reqs k = .poll realm body →
      (pool deps reqs s).procs k = acceptDevice deps realm body >>= redeem deps realm body := by
    intro k realm body isPoll
    rw [← handle_poll_redeem, ← isPoll]
    rfl
  obtain ⟨c₁, code, pre, isCode, ⟨row, isRow, hasCode⟩, gone, after⟩ :=
    valid.redeemed (program i _ _ isI) acceptDevice_sat reached finishedI
  have valid₁ := valid.reaches pre
  -- Where is the other poll when this one deletes the row?
  obtain ⟨q, here, satisfied⟩ | ⟨c₂, ok, before₂, redeems, isAccepted, after₂⟩ :=
    phase valid.inv valid.threads Env.respects (program j _ _ isJ) acceptDevice_sat pre
  · -- It still has to delete the row, and will not find it.
    have begins : (c₁.advance i).procs j = q >>= redeem deps realm' body' :=
      (advance_other other).trans here
    have move : Later c₁.state (c₁.advance i).state :=
      advance_moves (P := protocol) free valid₁.inv (valid₁.threads i) other
    obtain ⟨c₂, code', between, isCode', ⟨row', isRow', hasCode'⟩, -, -⟩ :=
      (valid₁.reaches (reaches_advance free c₁ i)).redeemed begins (satisfied.stable move) after
        finishedJ
    have same : code' = code := by
      rw [sameCode, isCode'] at isCode
      exact some.inj isCode
    have valid' := valid₁.reaches (reaches_advance free c₁ i)
    exact (gone.later (valid'.moves between)).absent row' isRow' (hasCode'.trans same)
  · -- It has deleted the row before, and this one has not found it.
    have onward : Reaches (c₂.advance j) c :=
      (after₂.trans (reaches_advance free c₁ i)).trans after
    have unfailed : ∀ e, (c₂.advance j).procs j ≠ .fail e := by
      intro e failed
      rw [failed_stays failed onward] at finishedJ
      cases finishedJ
    have valid₂ := valid.reaches before₂
    obtain ⟨-, gone₂⟩ := redeem_deletes valid₂ redeems isAccepted unfailed
    have same : ok.1.deviceCode = code := by
      have isCode₂ := isAccepted.1
      rw [← sameCode, isCode] at isCode₂
      exact (some.inj isCode₂).symm
    have valid' := valid₂.reaches (reaches_advance free c₂ j)
    exact (gone₂.later (valid'.moves after₂)).absent row isRow (hasCode.trans same.symm)

/-- The pool in which the request reads the row of its code.  The row says that the code was
approved and not denied, as the users have decided by then, and that it has not expired. -/
structure Checks (deps : Deps) (realm : Realm) (body : Body) (i : Nat) (client : Client)
    (device : DeviceCode) (c : Pool Nat Store Failure Reply) : Prop where
  reads : c.procs i = check deps realm body device.deviceCode
  presented : Presented deps realm body device.deviceCode client c.state
  found : findDevice device.deviceCode c.state = some device
  inRealm : device.realmId = realm.id
  approved : ∃ userId, device.userId = some userId ∧ .approved device.id userId ∈ c.state.deviceLog
  undenied : .denied device.id ∉ c.state.deviceLog
  inTime : c.state.now ≤ device.expiresAt

theorem check_unfinished {presented : Nat} : check deps realm body presented ≠ .done reply := by
  intro no
  cases no

theorem polled_checks (inv : Inv s) (isPoll : reqs i = .poll realm body)
    (reached : Reaches (pool deps reqs s) c) (fin : c.procs i = .done reply) :
    ∃ c₁ client device, Reaches (pool deps reqs s) c₁ ∧ Reaches c₁ c ∧
      Checks deps realm body i client device c₁ := by
  have valid := Valid.start deps reqs inv
  have begins : (pool deps reqs s).procs i =
      presentDevice deps realm body >>= fun identified => check deps realm body identified.1 := by
    rw [← handle_poll_check, ← isPoll]
    rfl
  obtain ⟨q, here, -⟩ | ⟨c₁, ⟨presented, client⟩, pre, reads, isPresented, after⟩ :=
    phase valid.inv valid.threads Env.respects begins presentDevice_sat reached
  · rw [here] at fin
    obtain ⟨identified, -, no⟩ := Prog.bind_eq_done fin
    exact absurd no check_unfinished
  have valid₁ := valid.reaches pre
  have isRead : c₁.advance i = ⟨c₁.state, update c₁.procs i
      (checkDevice realm (findDevice presented c₁.state) >>= redeem deps realm body)⟩ := by
    rw [advance, reads]
    rfl
  -- From here on the request decides on the row that it has read.
  let post : Nat → Except Failure Reply → Store → Prop := fun k =>
    if k = i then onOk fun _ _ =>
      ∃ device, Passed realm (findDevice presented c₁.state) c₁.state.now device
    else onOk fun _ _ => True
  have onwards : ∀ k, ((c₁.advance i).procs k).Sat protocol Free k (post k) (c₁.advance i).state := by
    intro k
    rw [isRead]
    by_cases same : k = i
    · subst same
      simp only [post, if_true, update_self]
      refine .ok_bind (checkDevice_sat le_rfl fun device found =>
        (findDevice_read valid₁.inv found).2) ?_ fun _ _ => trivial
      intro accepted t checked
      refine redeem_sat fun res u => ?_
      cases res with
      | ok _ => exact ⟨accepted.1, checked.1⟩
      | error _ => trivial
    · simp only [post, if_neg same, update_of_ne same]
      exact valid₁.threads k
  have passed : post i (.ok reply) c.state :=
    sound_done (valid₁.reaches (reaches_advance free c₁ i)).inv onwards Env.respects after fin
  simp only [post, if_true, onOk] at passed
  obtain ⟨device, passed⟩ := passed
  obtain ⟨rfl, -⟩ := findDevice_read valid₁.inv passed.isFound
  have isRow := mem_of_find?_eq_some passed.isFound
  refine ⟨c₁, client, device, pre, (reaches_advance free c₁ i).trans after, ?_⟩
  exact
    { reads := reads
      presented := isPresented
      found := passed.isFound
      inRealm := passed.inRealm
      approved := valid₁.inv.approved device isRow passed.approved
      undenied := valid₁.inv.undenied device isRow passed.undenied
      inTime := passed.inTime }

/-- Every poll comes from the client that its code was issued to: whenever the code is stored, its
row names the client that the request gives. -/
def OwnCodes (deps : Deps) (requests : Nat → Request) (s : Store) : Prop :=
  ∀ i realm body client, requests i = .poll realm body →
    given body.client_id = some client.clientId →
    findClient realm.id client.clientId s = some client →
    ∀ c, Reaches (pool deps requests s) c → ∀ row ∈ c.state.deviceCodes,
      body.device_code = some row.deviceCode → row.clientId = client.id

/-- However polls, authorizations, approvals, denials and clean-ups interleave, if every poll comes
from the client that its code was issued to: a poll that returns tokens was made by that client and
has checked the code after an approval, before a denial and before its expiry, and of the polls
that present one code at most one returns tokens. -/
theorem device_codes_once_and_bound (deps : Deps) (reqs : Nat → Request) (s : Store)
    (inv : Inv s) (own : OwnCodes deps reqs s) (c : Pool Nat Store Failure Reply)
    (reached : Reaches (pool deps reqs s) c) :
    (∀ i realm body reply, reqs i = .poll realm body → c.procs i = .done reply →
      ∃ c₁ client device, Reaches (pool deps reqs s) c₁ ∧ Reaches c₁ c ∧
        Checks deps realm body i client device c₁ ∧ device.clientId = client.id) ∧
    (∀ i j realm realm' body body' reply reply', reqs i = .poll realm body →
      reqs j = .poll realm' body' → body.device_code = body'.device_code →
      c.procs i = .done reply → c.procs j = .done reply' → i = j) := by
  constructor
  · intro i realm body reply isPoll fin
    obtain ⟨c₁, client, device, pre, after, checks⟩ := polled_checks inv isPoll reached fin
    have stays := (Valid.start deps reqs inv).moves pre
    have isClient := checks.presented.isClient
    rw [findClient_later stays] at isClient
    exact ⟨c₁, client, device, pre, after, checks,
      own i realm body client isPoll checks.presented.authenticated.clientId isClient c₁ pre device
        (mem_of_find?_eq_some checks.found) checks.presented.code⟩
  · intro i j realm realm' body body' reply reply' isI isJ sameCode finishedI finishedJ
    exact redeemed_once inv isI isJ sameCode reached finishedI finishedJ

end Runs

section Example

/-- Two clients of one realm; the code 9 was issued to the television, and Alice has approved it. -/
def livingRoom : Store where
  supply := 40
  realms := [{ id := 1, name := "acme" }]
  users := [{ id := 2, realmId := 1, username := "alice" }]
  clients := [{ id := 3, realmId := 1, clientId := "tv", clientType := .PUBLIC,
                grantTypes := [DEVICE_URN] },
              { id := 4, realmId := 1, clientId := "radio", clientType := .PUBLIC,
                grantTypes := [DEVICE_URN] }]
  signingKeys := [{ id := 7, realmId := 1, createdAt := 0 }]
  deviceCodes := [{ id := 8, deviceCode := 9, userCode := "ABCD-EFGH", clientId := 3, realmId := 1,
                    userId := some 2, approved := true, expiresAt := 600000 }]
  deviceLog := [.approved 8 2]

def pollBody (clientId : String) : Body where
  grant_type := some DEVICE_URN
  client_id := some clientId
  device_code := some 9

def polls (clientId : String) : Nat → Request := fun _ =>
  .poll { id := 1, name := "acme" } (pollBody clientId)

theorem livingRoom_inv : Inv livingRoom := by
  constructor
  · decide
  · decide
  · decide
  · intro row mem _
    rw [mem_singleton.mp mem]
    exact ⟨2, rfl, mem_cons_self⟩
  · intro row mem _
    rw [mem_singleton.mp mem]
    decide
  · decide

theorem livingRoom_row {name : String} {c : Pool Nat Store Failure Reply}
    (reached : Reaches (pool .transparent (polls name) livingRoom) c) {row : DeviceCode}
    (mem : row ∈ c.state.deviceCodes) (code : row.deviceCode = 9) : row.clientId = 3 := by
  have moves := (Valid.start .transparent (polls name) livingRoom_inv).moves reached
  obtain ⟨old, isOld, same⟩ | ⟨fresh, -⟩ := moves.rows row mem
  · rw [mem_singleton.mp isOld] at same
    simp only [identity, Prod.mk.injEq] at same
    exact same.2.2.1.symm
  · have drawn : 40 ≤ row.deviceCode := fresh
    omega

theorem tv_polls_own_codes : OwnCodes .transparent (polls "tv") livingRoom := by
  intro i realm body client isPoll named hit c reached row mem presents
  cases isPoll
  have name : client.clientId = "tv" := (some.inj named).symm
  have code : row.deviceCode = 9 := (some.inj presents).symm
  rw [name] at hit
  cases hit
  exact livingRoom_row reached mem code

/-- The television polls, and gets the tokens. -/
theorem tv_gets_tokens :
    ∃ c reply, Reaches (pool .transparent (polls "tv") livingRoom) c ∧ c.procs 0 = .done reply ∧
      ∃ c₁ client device, Reaches (pool .transparent (polls "tv") livingRoom) c₁ ∧ Reaches c₁ c ∧
        Checks .transparent { id := 1, name := "acme" } (pollBody "tv") 0 client device c₁ ∧
        device.clientId = client.id := by
  have reached : Reaches (pool .transparent (polls "tv") livingRoom)
      ((pool .transparent (polls "tv") livingRoom).runOne 0) := reaches_runOne free _ 0
  refine ⟨_, _, reached, rfl, ?_⟩
  exact (device_codes_once_and_bound .transparent (polls "tv") livingRoom livingRoom_inv
    tv_polls_own_codes _ reached).1 0 _ _ _ rfl rfl

/-- The radio polls with the television's code, and gets the tokens. -/
theorem radio_gets_tv_tokens : ∃ c res, Reaches (pool .transparent (polls "radio") livingRoom) c ∧
      c.procs 0 = .done (.tokens res) ∧
      ¬ ∃ c₁ client device, Reaches (pool .transparent (polls "radio") livingRoom) c₁ ∧
        Reaches c₁ c ∧
        Checks .transparent { id := 1, name := "acme" } (pollBody "radio") 0 client device c₁ ∧
        device.clientId = client.id := by
  have reached : Reaches (pool .transparent (polls "radio") livingRoom)
      ((pool .transparent (polls "radio") livingRoom).runOne 0) := reaches_runOne free _ 0
  refine ⟨_, _, reached, rfl, ?_⟩
  rintro ⟨c₁, client, device, pre, -, checks, bound⟩
  have code : device.deviceCode = 9 := (some.inj checks.presented.code).symm
  have isTv := livingRoom_row pre (mem_of_find?_eq_some checks.found) code
  have name : client.clientId = "radio" :=
    (some.inj checks.presented.authenticated.clientId).symm
  have stays := (Valid.start .transparent (polls "radio") livingRoom_inv).moves pre
  have found := checks.presented.isClient
  rw [findClient_later stays, name] at found
  cases found
  rw [isTv] at bound
  exact absurd bound (by decide)

end Example

end Idenplane.Auth.DeviceCodes
