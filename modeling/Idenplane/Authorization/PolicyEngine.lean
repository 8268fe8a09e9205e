import Mathlib.Data.List.Sort
import Idenplane.Authorization.Conditions

/-! # The policy engine

Policies are evaluated in the order of their priority, deny overrides, and the decision names
the policy that decided.  Whatever a condition throws is thrown by the engine.
-/

namespace Idenplane.Authorization

open Js (Runtime)

inductive Decision where
  | ALLOW
  | DENY
  deriving DecidableEq

structure RawPolicy where
  id : String
  name : String
  enabled : Bool
  effect : String
  priority : Int
  logic : String
  clientId : Option String
  (subjectConditions resourceConditions actionConditions environmentConditions : Js)

structure PolicyEvaluationRequest where
  (subject resource action environment : Js)
  clientId : Option String

structure ConditionDetail where
  conditionType : String
  passed : Bool
  reason : String
  deriving DecidableEq

structure PolicyMatchDetail where
  policyId : String
  policyName : String
  effect : Decision
  matched : Bool
  conditionResults : List ConditionDetail
  deriving DecidableEq

structure PolicyEvaluationResult where
  decision : Decision
  reason : String
  matchedPolicies : List PolicyMatchDetail
  evaluatedCount : Nat
  deriving DecidableEq

inductive Logic where
  | AND
  | OR
  deriving DecidableEq

/-- `parseConditions`.  A single condition need not be wrapped in an array. -/
def parseConditions (raw : Js) : List Js :=
  if !raw.truthy then []
  else match raw with
    | .arr items => items
    | raw => [raw]

def buildContext (req : PolicyEvaluationRequest) : Js :=
  .obj [("subject", req.subject), ("resource", req.resource), ("action", req.action),
    ("environment", if req.environment.isNullish then .obj [] else req.environment)]

def RawPolicy.logicOf (policy : RawPolicy) : Logic := if policy.logic = "OR" then .OR else .AND

def RawPolicy.effectOf (policy : RawPolicy) : Decision :=
  if policy.effect = "DENY" then .DENY else .ALLOW

def RawPolicy.conditionTypes (policy : RawPolicy) : List (String × Js) :=
  [("subject", policy.subjectConditions), ("resource", policy.resourceConditions),
    ("action", policy.actionConditions), ("environment", policy.environmentConditions)]

section Engine

variable (rt : Runtime)

def evaluateConditions (conditions : List Js) (ctx : Js) (logic : Logic) :
    Option (Bool × List ConditionResult) :=
  if conditions.isEmpty then some (true, [])
  else do
    let results ← conditions.mapM (evaluateCondition rt · ctx)
    let passed := match logic with
      | .AND => results.all (·.passed)
      | .OR => results.any (·.passed)
    some (passed, results)

/-- The loop of `evaluatePolicy` over the categories. -/
def evaluateCategories (ctx : Js) (logic : Logic) :
    List (String × Js) → Option (Bool × List ConditionDetail)
  | [] => some (true, [])
  | (type, raw) :: rest => do
    let (passed, results) ← evaluateConditions rt (parseConditions raw) ctx logic
    let (policyPassed, details) ← evaluateCategories ctx logic rest
    some (passed && policyPassed, results.map (fun r => ⟨type, r.passed, r.reason⟩) ++ details)

def evaluatePolicy (policy : RawPolicy) (req : PolicyEvaluationRequest) :
    Option PolicyMatchDetail := do
  let (policyPassed, conditionResults) ←
    evaluateCategories rt (buildContext req) policy.logicOf policy.conditionTypes
  some {
    policyId := policy.id
    policyName := policy.name
    effect := policy.effectOf
    matched := policyPassed
    conditionResults := conditionResults }

def applicablePolicies (policies : List RawPolicy) : List RawPolicy :=
  (policies.filter (·.enabled)).insertionSort fun a b => b.priority ≤ a.priority

def conclude (details : List PolicyMatchDetail) : Decision × String :=
  let matched := details.filter (·.matched)
  match matched.find? (·.effect = .DENY) with
  | some denyMatch => (.DENY, "Explicit DENY by policy " ++ quoted denyMatch.policyName)
  | none =>
    match matched.find? (·.effect = .ALLOW) with
    | some allowMatch => (.ALLOW, "Permitted by policy " ++ quoted allowMatch.policyName)
    | none => (.DENY, "No matching policy — default deny")

def evaluatePolicies (policies : List RawPolicy) (req : PolicyEvaluationRequest) :
    Option PolicyEvaluationResult := do
  let applicable := applicablePolicies policies
  let matchDetails ← applicable.mapM (evaluatePolicy rt · req)
  some {
    decision := (conclude matchDetails).1
    reason := (conclude matchDetails).2
    matchedPolicies := matchDetails
    evaluatedCount := applicable.length }

end Engine

end Idenplane.Authorization
