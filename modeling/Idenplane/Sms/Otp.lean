import Idenplane.Deps

/-! # One-time codes by text message

`SmsOtpService`.  A challenge is a purpose and a binding; it has at most one row.
`sendCode` creates the row or replaces the code in it, `verifyCode` reserves a
guess at the row, compares, and deletes the row when the code was right.

Two things a send depends on are inputs of the model: the number `randomInt`
draws, and whether the provider takes the message.
-/

namespace Idenplane.Sms

open Atomic String

def SMS_OTP_MAX_ATTEMPTS : Nat := 5
def SMS_OTP_MAX_SENDS : Nat := 5
def SMS_OTP_RESEND_COOLDOWN_SECONDS : Int := 30
def SMS_OTP_MAX_SENDS_PER_IP : Nat := 10
def OTP_ROW_RETENTION_MS : Int := 30 * 60 * 1000
def DELIVERY_LOG_RETENTION_DAYS : Int := 90
def MIN_CODE_LENGTH : Int := 6
def MAX_CODE_LENGTH : Int := 10
def MIN_EXPIRY_SECONDS : Int := 60
def MAX_EXPIRY_SECONDS : Int := 15 * 60

/-- `now.getTime() - SMS_OTP_RESEND_COOLDOWN_SECONDS * 1000` and the like. -/
def cooldownMs : Int := SMS_OTP_RESEND_COOLDOWN_SECONDS * 1000

def purposeText : SmsOtpPurpose → String
  | .enroll => "enroll"
  | .login => "login"
  | .stepUp => "step_up"

/-- `E164`: a plus, a non-zero digit, 7 to 14 more digits. -/
def isE164 : List Char → Bool
  | '+' :: first :: rest =>
    first.isDigit && first != '0' && rest.all Char.isDigit && 7 ≤ rest.length && rest.length ≤ 14
  | _ => false

def normalizePhone (input : Option String) : Option String := do
  let text ← input
  let phone := (Text.trim text).toList.filter fun c => !(Text.isSpace c || "().-".toList.contains c)
  let phone := match phone with
    | '0' :: '0' :: rest => '+' :: rest
    | other => other
  if isE164 phone then some (ofList phone) else none

def maskPhone (phone : String) : String :=
  let text := phone.toList
  if text.length ≤ 7 then "••••"
  else ofList (text.take 3 ++ List.replicate (text.length - 7) '•' ++
    text.drop (text.length - 4))

def canDeliver (realm : Realm) : Bool :=
  realm.smsProvider != "" && realm.smsProvider != "none"

def canEnroll (realm : Realm) : Bool :=
  realm.smsMfaEnabled && canDeliver realm

def clamp (value min max fallback : Int) : Int :=
  if value = 0 then fallback else Min.min max (Max.max min value)

/-- `generateCode`: `draw` is what `randomInt` returned, below `10 ** length`. -/
def generateCode (length : Nat) (draw : Nat) : String :=
  let digits := (toString (draw % Nat.pow 10 length)).toList
  ofList (List.replicate (length - digits.length) '0' ++ digits)

inductive VerifyReason where
  | invalid
  | expired
  | locked
  | notFound
  deriving DecidableEq

inductive VerifyResult where
  | ok (phone : String)
  | refused (reason : VerifyReason) (remainingAttempts : Option Nat)
  deriving DecidableEq

structure SendParams where
  realm : Realm
  userId : Nat
  purpose : SmsOtpPurpose
  binding : String
  (phone ip : Option String := none)
  /-- What `randomInt` draws. -/
  draw : Nat := 0
  /-- The provider's error, if the message cannot be sent. -/
  providerError : Option String := none

structure SendResult where
  maskedPhone : String
  expiresAt : Int
  resendAvailableAt : Int
  deriving DecidableEq

structure VerifyParams where
  realmId : Nat
  userId : Nat
  purpose : SmsOtpPurpose
  binding : String
  code : String
  deriving DecidableEq

section Service

variable (deps : Deps)

def bindingHash (purpose : SmsOtpPurpose) (binding : String) : String :=
  deps.hmac "sms-otp-binding" (purposeText purpose ++ ":" ++ binding)

def codeHash (bindingHash code : String) : String :=
  deps.hmac "sms-otp-code" (bindingHash ++ ":" ++ code)

def phoneHash (phone : String) : String :=
  deps.hmac "sms-phone" phone

def enrolledPhone (s : Store) (userId : Nat) : Option String := do
  let cred ← s.userCredentials.find? fun c => c.userId = userId ∧ c.type = .sms
  if !cred.verified || !truthy cred.phoneNumber then none
  else
    let encrypted ← cred.phoneNumber
    normalizePhone (deps.decrypt encrypted)

def findRow (purpose : SmsOtpPurpose) (binding : String) (s : Store) : Option OtpAttempt :=
  s.otpAttempts.find? fun row => row.purpose = purpose ∧ row.bindingHash = binding

def unavailable : Failure :=
  { error := "unavailable", description := some "Text message verification is not available." }

def cooldown (wait : Int) : Failure :=
  { error := "cooldown"
    description := some ("Please wait " ++ toString wait ++
      " seconds before requesting another code.") }

/-- Where the code goes: the number being added, or the enrolled one. -/
def destination (params : SendParams) : Op String :=
  match params.purpose with
  | .enroll => do
    require (canEnroll params.realm) unavailable
    orFail (normalizePhone params.phone)
      { error := "invalid_phone"
        description := some "Enter the number in international format, for example +201012345678." }
  | .login | .stepUp => do
    require (canDeliver params.realm) unavailable
    let phone ← read (enrolledPhone deps · params.userId)
    orFail phone
      { error := "unavailable"
        description := some "No phone number is set up for this account." }

/-- The refusals of a send for a challenge that has a row already. -/
def checkRow (params : SendParams) (now : Int) (existing : OtpAttempt) : Op Unit := do
  require (existing.userId = params.userId && existing.realmId = params.realm.id) unavailable
  require (existing.attempts < SMS_OTP_MAX_ATTEMPTS)
    { error := "locked", description := some "Too many incorrect codes. Please start again." }
  require (existing.sendCount < SMS_OTP_MAX_SENDS)
    { error := "too_many_sends"
      description := some "Too many codes were requested. Please start again." }
  -- `Math.ceil((lastSentAt + cooldown - now) / 1000) > 0`
  let wait := -((now - existing.lastSentAt - cooldownMs) / 1000)
  require (wait ≤ 0) (cooldown wait)

def checkExisting (params : SendParams) (now : Int) : Option OtpAttempt → Op Unit
  | some existing => checkRow params now existing
  | none => pure ()

def createDeliveryLog (req : Nat) (params : SendParams) (phone : String)
    (ipHash : Option String) : Op Nat :=
  atomic fun s =>
    (s.supply, { s with
      supply := s.supply + 1
      smsBudgetLog := .reserved req s.supply :: s.smsBudgetLog
      smsDeliveryLogs := { id := s.supply, realmId := params.realm.id, userId := params.userId,
                           phoneHash := phoneHash deps phone, ipHash := ipHash,
                           createdAt := s.now } :: s.smsDeliveryLogs })

def updateDeliveryLog (logId : Nat) (status : DeliveryStatus) : Op Unit :=
  modify fun s => { s with
    smsDeliveryLogs := s.smsDeliveryLogs.map fun log =>
      if log.id = logId then { log with status := status } else log }

def countLogs (where_ : SmsDeliveryLog → Bool) : Op Nat :=
  read fun s => s.smsDeliveryLogs.countP where_

def countByIp (params : SendParams) (windowStart : Int) : Option String → Op Nat
  | some hash => countLogs fun log =>
    log.realmId = params.realm.id && log.ipHash = some hash && windowStart ≤ log.createdAt
  | none => pure 0

/-- The caps per user, phone, address and realm; each count includes this send.  The four counts run
at the same time; here they come in the order in which they are started. -/
def checkSendLimits (params : SendParams) (phone : String) (ipHash : Option String) (now : Int) :
    Op Bool := do
  let realm := params.realm
  let maxPerWindow := clamp realm.smsMaxRequestsPerUser 1 100 3
  let windowStart := now - clamp realm.smsRateLimitWindow 60 86400 900 * 1000
  let hourStart := now - 3600000
  let realmHourlyLimit := clamp deps.smsRealmHourlyLimit 1 1000000 1000
  let byUser ← countLogs fun log =>
    log.realmId = realm.id && log.userId = params.userId && windowStart ≤ log.createdAt
  let byPhone ← countLogs fun log =>
    log.realmId = realm.id && log.phoneHash = phoneHash deps phone && windowStart ≤ log.createdAt
  let byIp ← countByIp params windowStart ipHash
  let byRealm ← countLogs fun log => log.realmId = realm.id && hourStart ≤ log.createdAt
  pure (byUser ≤ maxPerWindow && byPhone ≤ maxPerWindow && byIp ≤ SMS_OTP_MAX_SENDS_PER_IP &&
    byRealm ≤ realmHourlyLimit)

/-- The columns a send writes: the new code, where it goes and until when it counts. -/
structure CodeFields where
  phoneHash : String
  phoneEncrypted : Option String
  codeHash : String
  lastSentAt : Int
  expiresAt : Int

def OtpAttempt.withCode (row : OtpAttempt) (fields : CodeFields) : OtpAttempt :=
  { row with
    phoneHash := fields.phoneHash
    phoneEncrypted := fields.phoneEncrypted
    codeHash := fields.codeHash
    lastSentAt := fields.lastSentAt
    expiresAt := fields.expiresAt }

/-- The resend of `existing` is still allowed on this row. -/
def mayResend (existing : OtpAttempt) (now : Int) (row : OtpAttempt) : Bool :=
  row.id = existing.id && row.lastSentAt ≤ now - cooldownMs &&
    row.sendCount < SMS_OTP_MAX_SENDS && row.attempts < SMS_OTP_MAX_ATTEMPTS

def resentRow (row : OtpAttempt) (fields : CodeFields) : OtpAttempt :=
  { OtpAttempt.withCode row fields with sendCount := row.sendCount + 1 }

/-- The conditional update that claims a resend; the row as written, if one matched. -/
def claimResend (req : Nat) (existing : OtpAttempt) (now : Int) (fields : CodeFields)
    (s : Store) : Option OtpAttempt × Store :=
  match s.otpAttempts.find? (mayResend existing now) with
  | none => (none, s)
  | some row =>
    (some (resentRow row fields), { s with
      otpAttempts := s.otpAttempts.map fun r =>
        if mayResend existing now r then resentRow r fields else r
      smsLog := .stored req (resentRow row fields) :: s.smsLog })

/-- The first send creates the row, unless a concurrent first send did. -/
def createRow (req : Nat) (params : SendParams) (binding : String) (fields : CodeFields)
    (s : Store) : Option OtpAttempt × Store :=
  match findRow params.purpose binding s with
  | some _ => (none, s)
  | none =>
    let row : OtpAttempt :=
      { id := s.supply, realmId := params.realm.id, userId := params.userId,
        purpose := params.purpose, bindingHash := binding, phoneHash := fields.phoneHash,
        phoneEncrypted := fields.phoneEncrypted, codeHash := fields.codeHash,
        lastSentAt := fields.lastSentAt, expiresAt := fields.expiresAt }
    (some row, { s with
      supply := s.supply + 1
      otpAttempts := row :: s.otpAttempts
      smsLog := .stored req row :: s.smsLog })

def storeCode (req : Nat) (params : SendParams) (binding : String) (now : Int)
    (fields : CodeFields) : Option OtpAttempt → Op (Option OtpAttempt)
  | some existing => atomic (claimResend req existing now fields)
  | none => atomic (createRow req params binding fields)

def sendSms (req logId : Nat) (row : OtpAttempt) : Op Unit :=
  modify fun s => { s with
    smsLog := .sent req row :: s.smsLog
    smsBudgetLog := .handed req logId s.now :: s.smsBudgetLog }

/-- `reject`: the refused send stays in the delivery log and keeps counting. -/
def reject {α : Type} (logId : Nat) (error : Failure) : Op α := do
  updateDeliveryLog logId .rejected
  .fail error

def deliver (req : Nat) (params : SendParams) (logId : Nat) (row : OtpAttempt)
    (res : SendResult) : Op SendResult := do
  sendSms req logId row
  match params.providerError with
  | some _ =>
    updateDeliveryLog logId .failed
    .fail { error := "send_failed"
            description := some "The text message could not be sent. Please try again later."
            status := 503 }
  | none =>
    updateDeliveryLog logId .sent
    pure res

/-- The columns of a code sent to `phone` at the time `now`. -/
def codeFields (params : SendParams) (phone binding : String) (now : Int) : CodeFields :=
  let length := clamp params.realm.otpLength MIN_CODE_LENGTH MAX_CODE_LENGTH MIN_CODE_LENGTH
  let expirySeconds :=
    clamp params.realm.otpExpirySeconds MIN_EXPIRY_SECONDS MAX_EXPIRY_SECONDS 300
  { phoneHash := phoneHash deps phone
    phoneEncrypted := if params.purpose = .enroll then some (deps.encrypt phone) else none
    codeHash := codeHash deps binding (generateCode length.toNat params.draw)
    lastSentAt := now
    expiresAt := now + expirySeconds * 1000 }

@[simp] theorem codeFields_lastSentAt (ps : SendParams) (phone binding : String)
    (now : Int) : (codeFields deps ps phone binding now).lastSentAt = now := rfl

def sendCode (req : Nat) (params : SendParams) : Op SendResult := do
  let phone ← destination deps params
  let binding := bindingHash deps params.purpose params.binding
  let ipHash := if truthy params.ip then params.ip.map (deps.hmac "sms-ip") else none
  let now ← read Store.now
  let existing ← read (findRow params.purpose binding)
  checkExisting params now existing
  let logId ← createDeliveryLog deps req params phone ipHash
  let withinLimits ← checkSendLimits deps params phone ipHash now
  if !withinLimits then
    reject logId
      { error := "rate_limited"
        description := some "Too many text messages were requested. Please try again later." }
  else
    let fields := codeFields deps params phone binding now
    let written ← storeCode req params binding now fields existing
    match written with
    | none => reject logId (cooldown SMS_OTP_RESEND_COOLDOWN_SECONDS)
    | some row =>
      deliver req params logId row
        { maskedPhone := maskPhone phone, expiresAt := fields.expiresAt,
          resendAvailableAt := now + cooldownMs }

def mayGuess (rowId : Nat) (now : Int) (row : OtpAttempt) : Bool :=
  row.id = rowId && row.attempts < SMS_OTP_MAX_ATTEMPTS && now < row.expiresAt

def guessedRow (row : OtpAttempt) : OtpAttempt := { row with attempts := row.attempts + 1 }

/-- The conditional update that spends a guess; how many rows it changed. -/
def reserveGuess (req rowId : Nat) (now : Int) (s : Store) : Nat × Store :=
  let reserved := s.otpAttempts.countP (mayGuess rowId now)
  if reserved = 0 then (0, s)
  else (reserved, { s with
    otpAttempts := s.otpAttempts.map fun row =>
      if mayGuess rowId now row then guessedRow row else row
    smsLog := .reserved req rowId now :: s.smsLog })

def stillHolds (row : OtpAttempt) (r : OtpAttempt) : Bool :=
  r.id = row.id && r.codeHash = row.codeHash

/-- The conditional delete that claims the code; how many rows it removed. -/
def claimCode (req : Nat) (row : OtpAttempt) (s : Store) : Nat × Store :=
  let claimed := s.otpAttempts.countP (stillHolds row)
  if claimed = 0 then (0, s)
  else (claimed, { s with
    otpAttempts := s.otpAttempts.filter fun r => !stillHolds row r
    smsLog := .claimed req row.id :: s.smsLog })

def claimedPhone (params : VerifyParams) (row : OtpAttempt) : Op (Option String) :=
  match params.purpose with
  | .enroll =>
    if truthy row.phoneEncrypted then do
      let encrypted ← orFail row.phoneEncrypted .internal
      let phone ← orFail (deps.decrypt encrypted) .internal
      pure (if phone = "" then none else some phone)
    else pure none
  | .login | .stepUp => read (enrolledPhone deps · params.userId)

def verifyCode (req : Nat) (params : VerifyParams) : Op VerifyResult := do
  let binding := bindingHash deps params.purpose params.binding
  let found ← read (findRow params.purpose binding)
  match found with
  | none => pure (.refused .notFound none)
  | some row =>
    if row.userId ≠ params.userId || row.realmId ≠ params.realmId then
      pure (.refused .notFound none)
    else
      let now ← read Store.now
      let reserved ← atomic (reserveGuess req row.id now)
      if reserved = 0 then
        if row.expiresAt ≤ now then pure (.refused .expired none)
        else pure (.refused .locked (some 0))
      else if row.codeHash ≠ codeHash deps binding (Text.removeSpaces params.code) then
        let remainingAttempts := SMS_OTP_MAX_ATTEMPTS - (row.attempts + 1)
        if remainingAttempts = 0 then pure (.refused .locked (some remainingAttempts))
        else pure (.refused .invalid (some remainingAttempts))
      else
        let claimed ← atomic (claimCode req row)
        if claimed ≠ 1 then pure (.refused .notFound none)
        else
          let phone ← claimedPhone deps params row
          match phone with
          | some phone => pure (.ok phone)
          | none => pure (.refused .notFound none)

def cleanup : Op Unit := do
  modify fun s => { s with
    otpAttempts := s.otpAttempts.filter fun row =>
      !(row.expiresAt < s.now - OTP_ROW_RETENTION_MS) }
  modify fun s => { s with
    smsDeliveryLogs := s.smsDeliveryLogs.filter fun log =>
      !(log.createdAt < s.now - DELIVERY_LOG_RETENTION_DAYS * 86400000) }

end Service

end Idenplane.Sms
