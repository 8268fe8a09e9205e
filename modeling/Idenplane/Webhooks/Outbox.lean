import Idenplane.Names
import Mathlib.Data.List.Sort
import Mathlib.Logic.Function.Basic
import Mathlib.Logic.Relation

/-! # The outbox of webhook events

`dispatchEvent` stores an event.  Every instance of the server starts a tick of `processQueue` from
time to time: it selects a batch of events that are due, marks them, and processes all of them at
once, each in a task of its own.

A step of the system is one database call of one tick or task, the end of the deliveries of a task,
an exception, the crash of an instance, or something outside the scheduler.  What the subscribers
answer is an argument of the step.  The payloads, the delivery log and the texts of errors are left
out.
-/

namespace Idenplane.Webhooks

structure Webhook where
  id : Nat
  realmId : Nat
  enabled : Bool := true
  eventTypes : List String := []
  deriving DecidableEq

inductive WebhookEventStatus where
  | PENDING
  | PROCESSING
  | DELIVERED
  | FAILED
  deriving DecidableEq

structure WebhookEvent where
  id : Nat
  realmId : Nat
  eventType : String
  status : WebhookEventStatus := .PENDING
  attempts : Nat := 0
  maxAttempts : Int := 4
  nextRetryAt : Int
  deriving DecidableEq

def RETRY_DELAYS_MS : List Int := [1000, 10000, 60000, 600000]

def MAX_ATTEMPTS : Nat := RETRY_DELAYS_MS.length + 1

def BATCH_SIZE : Nat := 50

inductive Outcome where
  | noSubscribers
  | delivered
  | failed
  deriving DecidableEq

/-- Where a call of `processEvent` is. -/
inductive Phase where
  | lookingUp
  | delivering (webhooks : List Webhook)
  | writing (outcome : Outcome)
  | ended
  deriving DecidableEq

/-- A call of `processEvent`, with the event as the tick has read it. -/
structure Task where
  event : WebhookEvent
  phase : Phase := .lookingUp
  deriving DecidableEq

/-- A call of `processQueue`, in an instance of the server. -/
inductive Tick where
  | idle
  | selecting (server : Nat) (now : Int)
  | claiming (server : Nat) (events : List WebhookEvent)
  | processing (server : Nat) (tasks : List Task)
  | finished
  deriving DecidableEq

def Tick.server : Tick → Option Nat
  | .selecting server _ => some server
  | .claiming server _ => some server
  | .processing server _ => some server
  | _ => none

def Tick.tasks : Tick → List Task
  | .processing _ tasks => tasks
  | _ => []

def Tick.setPhase (k : Nat) (phase : Phase) : Tick → Tick
  | .processing server tasks =>
    .processing server (tasks.modify k fun task => { task with phase := phase })
  | tick => tick

structure System where
  now : Int := 0
  supply : Nat := 0
  webhooks : List Webhook := []
  events : List WebhookEvent := []
  ticks : Nat → Tick := fun _ => .idle

def System.setTick (s : System) (i : Nat) (tick : Tick) : System :=
  { s with ticks := update s.ticks i tick }

def System.task (s : System) (i k : Nat) : Option Task := (s.ticks i).tasks[k]?

def System.setPhase (s : System) (i k : Nat) (phase : Phase) : System :=
  s.setTick i ((s.ticks i).setPhase k phase)

/-- `webhookEvent.create`, with the defaults of the columns. -/
def System.enqueue (s : System) (realmId : Nat) (eventType : String) : System :=
  { s with
    supply := s.supply + 1
    events := { id := s.supply, realmId := realmId, eventType := eventType, nextRetryAt := s.now } ::
      s.events }

def waits (status : WebhookEventStatus) : Bool := status = .PENDING || status = .FAILED

def isDue (now : Int) (row : WebhookEvent) : Bool :=
  waits row.status && row.nextRetryAt ≤ now && row.attempts < MAX_ATTEMPTS

/-- `webhookEvent.findMany`, the ones that are longest due first. -/
def selectDue (now : Int) (rows : List WebhookEvent) : List WebhookEvent :=
  ((rows.filter (isDue now)).insertionSort fun a b => a.nextRetryAt ≤ b.nextRetryAt).take BATCH_SIZE

def setStatus (status : WebhookEventStatus) (row : WebhookEvent) : WebhookEvent :=
  { row with status := status }

/-- `webhookEvent.updateMany`, whose count is not looked at. -/
def System.claim (s : System) (events : List WebhookEvent) : System :=
  { s with
    events := s.events.map fun row =>
      if (events.map (·.id)).contains row.id && waits row.status then setStatus .PROCESSING row
      else row }

def subscribers (event : WebhookEvent) (webhooks : List Webhook) : List Webhook :=
  webhooks.filter fun webhook =>
    webhook.realmId = event.realmId && webhook.enabled && webhook.eventTypes.contains event.eventType

def conclude (event : WebhookEvent) (now : Int) (row : WebhookEvent) : Outcome → WebhookEvent
  | .noSubscribers => { row with status := .DELIVERED }
  | .delivered => { row with status := .DELIVERED, attempts := event.attempts + 1 }
  | .failed =>
    let newAttemptCount := event.attempts + 1
    let retriesLeft := event.maxAttempts - newAttemptCount
    if retriesLeft > 0 ∧ newAttemptCount ≤ RETRY_DELAYS_MS.length then
      { row with
        status := .FAILED
        attempts := newAttemptCount
        nextRetryAt := now + RETRY_DELAYS_MS.getD (newAttemptCount - 1) 600000 }
    else { row with status := .FAILED, attempts := newAttemptCount }

def System.write (s : System) (event : WebhookEvent) (outcome : Outcome) : System :=
  { s with
    events := s.events.map fun row => if row.id = event.id then conclude event s.now row outcome
      else row }

inductive Action where
  /-- `dispatchEvent`; an event that cannot be stored is only logged. -/
  | dispatch (realmId : Nat) (eventType : String) (stored : Bool)
  | start (i server : Nat)
  | select (i : Nat)
  | claim (i : Nat)
  /-- A query of the tick throws, perhaps after the database has executed it. -/
  | abort (i : Nat) (executed : Bool)
  | lookUp (i k : Nat)
  /-- All deliveries of the task are settled, with these successes. -/
  | settle (i k : Nat) (results : List Bool)
  | write (i k : Nat)
  | throw (i k : Nat)
  | crash (server : Nat)
  /-- Time passes, and webhooks are configured. -/
  | others (now : Int) (webhooks : List Webhook)
  deriving DecidableEq

def step (s : System) : Action → Option System
  | .dispatch realmId eventType stored => some (if stored then s.enqueue realmId eventType else s)
  | .start i server =>
    match s.ticks i with
    | .idle => some (s.setTick i (.selecting server s.now))
    | _ => none
  | .select i =>
    match s.ticks i with
    | .selecting server now =>
      let events := selectDue now s.events
      some (s.setTick i (if events = [] then .finished else .claiming server events))
    | _ => none
  | .claim i =>
    match s.ticks i with
    | .claiming server events =>
      some ((s.claim events).setTick i (.processing server (events.map fun event =>
        { event := event })))
    | _ => none
  | .abort i executed =>
    match s.ticks i with
    | .selecting _ _ => some (s.setTick i .finished)
    | .claiming _ events => some ((if executed then s.claim events else s).setTick i .finished)
    | _ => none
  | .lookUp i k =>
    match s.task i k with
    | some ⟨event, .lookingUp⟩ =>
      let webhooks := subscribers event s.webhooks
      some (s.setPhase i k (if webhooks = [] then .writing .noSubscribers
        else .delivering webhooks))
    | _ => none
  | .settle i k results =>
    match s.task i k with
    | some ⟨_, .delivering webhooks⟩ =>
      if results.length = webhooks.length then
        some (s.setPhase i k (.writing (if results.all id then .delivered else .failed)))
      else none
    | _ => none
  | .write i k =>
    match s.task i k with
    | some ⟨event, .writing outcome⟩ => some ((s.write event outcome).setPhase i k .ended)
    | _ => none
  | .throw i k =>
    match s.task i k with
    | some task => if task.phase = .ended then none else some (s.setPhase i k .ended)
    | none => none
  | .crash server =>
    some { s with ticks := fun i => if (s.ticks i).server = some server then .finished else s.ticks i }
  | .others now webhooks =>
    if s.now ≤ now then some { s with now := now, webhooks := webhooks } else none

def Reaches (allowed : System → Action → Prop) : System → System → Prop :=
  Relation.ReflTransGen fun s s' => ∃ action, allowed s action ∧ step s action = some s'

end Idenplane.Webhooks
