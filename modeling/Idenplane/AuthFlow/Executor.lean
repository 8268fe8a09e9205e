import Idenplane.Lib.Js
import Idenplane.Login.Service

/-! # Authentication flows

A flow is a list of steps, and a session walks through it.  The caller names the step that it wants
to be checked; what succeeds is followed by the next step in order that applies, what fails by the
fallback of the step, if it has one.

The flow of a session is stored and not edited while the session runs.  A session has two fields that
the program does not have: the steps that succeeded, and the users whose password was right, newest
first.  Nothing reads them.
-/

namespace Idenplane.AuthFlow

open Atomic Auth

inductive ConditionOperator where
  | eq
  | neq
  | in_
  | not_in
  | exists_
  | not_exists
  | other (name : String)
  deriving DecidableEq

structure FlowStepCondition where
  field : String
  operator : ConditionOperator
  value : Js := .undefined

inductive StepType where
  | password
  | totp
  | webauthn
  | social
  | ldap
  | email_otp
  | magic_link
  | consent
  | other (name : String)
  deriving DecidableEq

structure FlowStep where
  id : String
  type : StepType
  required : Bool
  order : Int
  condition : Option FlowStepCondition := none
  fallbackStepId : Option String := none

abbrev FlowContext := List (String × Js)

section Flows

variable (rt : Js.Runtime)

def isObject : Js → Bool
  | .arr _ => true
  | .obj _ => true
  | _ => false

def resolveParts : List String → Js → Js
  | [], current => current
  | part :: rest, current =>
    if isObject current then resolveParts rest ((current.get rt part).getD .undefined)
    else .undefined

def resolveField (field : String) (context : FlowContext) : Js :=
  resolveParts rt ((Text.split '.' field.toList).map String.ofList) (.obj context)

/-- One of the values, or one of the items of an array, is in the list. -/
def isAmong (items : List Js) : Js → Bool
  | .arr values => values.any (Js.includes items)
  | value => Js.includes items value

def evaluateCondition (condition : FlowStepCondition) (context : FlowContext) : Bool :=
  let rawValue := resolveField rt condition.field context
  match condition.operator with
  | .exists_ => !rawValue.isNullish
  | .not_exists => rawValue.isNullish
  | .eq => rawValue.strictEquals condition.value
  | .neq => !rawValue.strictEquals condition.value
  | .in_ =>
    match condition.value with
    | .arr items => isAmong items rawValue
    | _ => false
  | .not_in =>
    match condition.value with
    | .arr items => !isAmong items rawValue
    | _ => true
  | .other _ => false

def conditionMet (step : FlowStep) (context : FlowContext) : Bool :=
  match step.condition with
  | some condition => evaluateCondition rt condition context
  | none => true

def FlowStep.fallback (step : FlowStep) : Option String := given step.fallbackStepId

def validateSteps (steps : List FlowStep) : Except Failure Unit :=
  let ids := steps.map (·.id)
  let orders := steps.map (·.order)
  if steps = [] then .error (badRequest "A flow must have at least one step")
  else if ¬ ids.Nodup then .error (badRequest "Step IDs must be unique within a flow")
  else if ¬ orders.Nodup then
    .error (badRequest "Step order values must be unique within a flow")
  else
    match steps.find? fun step => step.fallback.any (!ids.contains ·) with
    | some step => .error (badRequest ("Step '" ++ step.id ++ "' references unknown fallbackStepId '" ++
        step.fallback.getD "" ++ "'"))
    | none => .ok ()

def findStep (steps : List FlowStep) (stepId : String) : Option FlowStep :=
  steps.find? (·.id = stepId)

def executeStep (steps : List FlowStep) (stepId : String) (context : FlowContext) :
    Except Failure (FlowStep × Bool) :=
  match findStep steps stepId with
  | none => .error (.oauth "Not Found" ("Step '" ++ stepId ++ "' not found in flow") 404)
  | some step => .ok (step, !conditionMet rt step context && !step.required)

/-- A step that is required is never passed over. -/
def firstApplicableStep (context : FlowContext) (steps : List FlowStep) : Option FlowStep :=
  steps.find? fun step => conditionMet rt step context || step.required

def sorted (steps : List FlowStep) : List FlowStep := steps.insertionSort (·.order ≤ ·.order)

def getNextStep (steps : List FlowStep) (currentStepId : Option String) (context : FlowContext) :
    Except Failure (Option FlowStep) :=
  match currentStepId with
  | none => .ok (firstApplicableStep rt context (sorted steps))
  | some id =>
    match (sorted steps).dropWhile (·.id ≠ id) with
    | [] => .error (badRequest ("Step '" ++ id ++ "' not found in flow"))
    | _ :: remaining => .ok (firstApplicableStep rt context remaining)

end Flows

structure FlowSession where
  userId : Option Nat := none
  completedStepIds : List String := []
  currentStepId : Option String := none
  context : FlowContext := []
  complete : Bool := false
  completed : List FlowStep := []
  checked : List Nat := []

structure StepResult where
  success : Bool
  stepId : String
  stepType : StepType
  nextStepId : Option String
  flowComplete : Bool
  message : Option String := none
  /-- `data: { pending: true }`, for a step that another controller is to complete. -/
  pending : Bool := false

structure Credentials where
  (username password code : Option String := none)
  userId : Option Nat := none

structure StepCheck where
  success : Bool
  pending : Bool := false

def createSession (context : FlowContext) : FlowSession := { context := context }

def setProperty (key : String) (value : Js) (context : FlowContext) : FlowContext :=
  (key, value) :: context.filter (·.1 ≠ key)

def idText (id : Nat) : Js := .str (toString id)

section Execution

variable (rt : Js.Runtime) (deps : Deps) (externals : Login.Externals) (steps : List FlowStep)
  (realm : Realm)

def startFlow (session : FlowSession) : FlowSession :=
  match getNextStep rt steps none session.context with
  | .ok next => { session with currentStepId := next.map (·.id) }
  | .error _ => session

def identified (user : User) (session : FlowSession) : FlowSession :=
  { session with
    userId := some user.id
    context := setProperty "user" (.obj [("id", idText user.id), ("username", .str user.username),
      ("email", user.email.elim .null .str), ("enabled", .bool user.enabled)]) session.context
    checked := user.id :: session.checked }

def handlePasswordStep (credentials : Credentials) (session : FlowSession) (s : Store) :
    Except Failure StepCheck × FlowSession × Store :=
  match given credentials.username, given credentials.password with
  | some username, some password =>
    match (Login.validateCredentials deps externals realm username password).run s with
    | (.ok user, s') => (.ok { success := true }, identified user session, s')
    | (.error failure, s') => (.error failure, session, s')
  | _, _ =>
    (.error (badRequest "username and password are required for password step"), session, s)

def handleTotpStep (credentials : Credentials) (session : FlowSession) (s : Store) :
    Except Failure StepCheck × FlowSession × Store :=
  match session.userId with
  | none => (.error (badRequest "Password step must be completed before TOTP"), session, s)
  | some userId =>
    match given credentials.code with
    | none => (.error (badRequest "code is required for TOTP step"), session, s)
    | some code =>
      match (checkAnswer deps 0 userId (.otp code)).run s with
      | (.ok verified, s') => (.ok { success := verified.isSome }, session, s')
      | (.error failure, s') => (.error failure, session, s')

def webauthnVerified (context : FlowContext) : Bool :=
  ((context.lookup "webauthnVerified").getD .undefined).truthy

def handleWebAuthnStep (credentials : Credentials) (session : FlowSession) :
    StepCheck × FlowSession :=
  match if webauthnVerified session.context then credentials.userId else none with
  | some userId => ({ success := true },
      { session with
        userId := some userId
        context := setProperty "user" (.obj [("id", idText userId)]) session.context })
  | none => ({ success := false }, session)

def dispatchStep (step : FlowStep) (credentials : Credentials) (session : FlowSession)
    (s : Store) : Except Failure StepCheck × FlowSession × Store :=
  match step.type with
  | .password => handlePasswordStep deps externals realm credentials session s
  | .totp => handleTotpStep deps credentials session s
  | .webauthn =>
    let answer := handleWebAuthnStep credentials session
    (.ok answer.1, answer.2, s)
  | .ldap => handlePasswordStep deps externals realm credentials session s
  | .social => (.ok { success := true, pending := true }, session, s)
  | .email_otp => (.ok { success := true, pending := true }, session, s)
  | .magic_link => (.ok { success := true, pending := true }, session, s)
  | .consent => (.ok { success := true, pending := true }, session, s)
  | .other _ => (.ok { success := false }, session, s)

def advanceSession (session : FlowSession) (completedStep : FlowStep) (pending : Bool) :
    Except Failure StepResult × FlowSession :=
  let session := { session with
    completedStepIds := session.completedStepIds ++ [completedStep.id] }
  match getNextStep rt steps (some completedStep.id) session.context with
  | .error failure => (.error failure, session)
  | .ok next =>
    (.ok { success := true, stepId := completedStep.id, stepType := completedStep.type,
           nextStepId := next.map (·.id), flowComplete := next.isNone, pending := pending },
      { session with currentStepId := next.map (·.id), complete := next.isNone })

def failed (step : FlowStep) (next message : String) : StepResult where
  success := false
  stepId := step.id
  stepType := step.type
  nextStepId := some next
  flowComplete := false
  message := some message

def processStep (session : FlowSession) (stepId : String) (credentials : Credentials)
    (s : Store) : Except Failure StepResult × FlowSession × Store :=
  if session.complete then
    (.error (badRequest "Authentication flow is already complete"), session, s)
  else
    match executeStep rt steps stepId session.context with
    | .error failure => (.error failure, session, s)
    | .ok (step, true) =>
      let advanced := advanceSession rt steps session step false
      (advanced.1, advanced.2, s)
    | .ok (step, false) =>
      match dispatchStep deps externals realm step credentials session s with
      | (.error failure, session', s') =>
        if failure.status = 401 then (.error failure, session', s')
        else
          match step.fallback with
          | some target => (.ok (failed step target "Step failed; redirected to fallback"),
              { session' with currentStepId := some target }, s')
          | none => (.error failure, session', s')
      | (.ok check, session', s') =>
        if check.success then
          let advanced := advanceSession rt steps
            { session' with completed := step :: session'.completed } step check.pending
          (advanced.1, advanced.2, s')
        else
          match step.fallback with
          | some target =>
            (.ok (failed step target "Step verification failed; redirected to fallback"),
              { session' with currentStepId := some target }, s')
          | none => (.ok (failed step stepId "Verification failed"), session', s')

end Execution

end Idenplane.AuthFlow
