import Idenplane.Names
import Idenplane.Lib.Js
import Idenplane.Lib.Table

/-! # Policies of the continuous risk verification

Two services evaluate the policies of a realm: `ContinuousRiskAssessmentService` and
`SessionRiskEvaluator`.  The conditions of a policy are JSON, a tree of `all`, `any` and
signals.  Properties that objects inherit are not modelled; none is called `all`, `any` or
`signal`.
-/

variable {xs : List Js}

namespace Idenplane.Risk

structure ContinuousRiskPolicy where
  id : String
  realmId : String
  clientId : Option String
  name : String
  enabled : Bool
  priority : Int
  conditions : Js
  action : String
  (riskScoreContribution cooldownSeconds createdAt : Int)

structure ContinuousRiskSignal where
  name : String
  score : ℚ
  weight : ℚ
  reason : String
  triggered : Bool
  deriving DecidableEq

structure PolicyEvaluationResult where
  policyId : String
  policyName : String
  fired : Bool
  action : String
  riskScoreContribution : Int
  reason : Option String
  deriving DecidableEq

def property : Js → String → Js
  | .obj properties, key => (properties.lookup key).getD .undefined
  | _, _ => .undefined

def arrayAt (value : Js) (key : String) : Option (List Js) :=
  match property value key with
  | .arr items => some items
  | _ => none

def textAt (value : Js) (key : String) : Option String :=
  match property value key with
  | .str text => if text = "" then none else some text
  | _ => none

open List

theorem sizeOf_lookup {properties : List (String × Js)} {key : String} {v : Js}
    (hit : properties.lookup key = some v) : sizeOf v < sizeOf properties := by
  induction properties with
  | nil => cases hit
  | cons e rest ih =>
    obtain ⟨name, first⟩ := e
    rw [lookup_cons] at hit
    cases same : key == name with
    | true =>
      rw [same] at hit
      cases hit
      simp only [cons.sizeOf_spec, Prod.mk.sizeOf_spec]
      omega
    | false =>
      rw [same] at hit
      have smaller := ih hit
      simp only [cons.sizeOf_spec]
      omega

theorem sizeOf_arrayAt {value item : Js} {key : String}
    (hit : arrayAt value key = some xs) (mem : item ∈ xs) :
    sizeOf item < sizeOf value := by
  unfold arrayAt property at hit
  cases value with
  | obj properties =>
    cases present : properties.lookup key with
    | none => simp [present] at hit
    | some inner =>
      cases inner with
      | arr inside =>
        have smaller := sizeOf_lookup present
        have smallest := sizeOf_lt_of_mem mem
        simp only [present, getD_some, some.injEq] at hit
        subst hit
        simp only [Js.arr.sizeOf_spec, Js.obj.sizeOf_spec] at smaller ⊢
        omega
      | _ => simp [present] at hit
  | _ => cases hit

/-- Enabled policies of the realm, for the client or for all, the highest priority first. -/
def getActivePolicies (policies : List ContinuousRiskPolicy) (realmId : String)
    (clientId : Option String) : List ContinuousRiskPolicy :=
  (policies.filter fun policy => policy.realmId == realmId && policy.enabled &&
    (policy.clientId == clientId || policy.clientId == none)).mergeSort
    fun first second => second.priority ≤ first.priority

def evaluateCondition (conditions : Js) : Bool :=
  match _ : arrayAt conditions "all" with
  | some items => items.attach.all fun sub => evaluateCondition sub.1
  | none =>
    match _ : arrayAt conditions "any" with
    | some items => items.attach.any fun sub => evaluateCondition sub.1
    | none =>
      match textAt conditions "signal" with
      | some signalName =>
        signalName == "device_posture" || signalName == "network_context" ||
          signalName == "behavioral_biometrics"
      | none => false
termination_by sizeOf conditions
decreasing_by
  · exact sizeOf_arrayAt ‹arrayAt conditions "all" = some _› sub.2
  · exact sizeOf_arrayAt ‹arrayAt conditions "any" = some _› sub.2

def cooling (now : Int) (lastEvaluatedAt : Option Int) (policy : ContinuousRiskPolicy) : Bool :=
  match lastEvaluatedAt with
  | some last => now - last < policy.cooldownSeconds * 1000
  | none => false

def evaluatePolicy (now : Int) (lastEvaluatedAt : Option Int) (policy : ContinuousRiskPolicy) :
    PolicyEvaluationResult :=
  if cooling now lastEvaluatedAt policy then
    { policyId := policy.id
      policyName := policy.name
      fired := false
      action := policy.action
      riskScoreContribution := 0
      reason := none }
  else
    let fired := evaluateCondition policy.conditions
    { policyId := policy.id
      policyName := policy.name
      fired := fired
      action := policy.action
      riskScoreContribution := if fired then policy.riskScoreContribution else 0
      reason := if fired then some ("Policy " ++ policy.name ++ " triggered") else none }

def evaluatePolicies (now : Int) (policies : List ContinuousRiskPolicy)
    (lastEvaluatedAt : Option Int) : List PolicyEvaluationResult :=
  policies.map (evaluatePolicy now lastEvaluatedAt)

def findAllPolicies (policies : List ContinuousRiskPolicy) (realmId : String) :
    List ContinuousRiskPolicy :=
  (policies.filter (·.realmId == realmId)).mergeSort fun first second =>
    second.priority < first.priority ||
      (second.priority == first.priority && first.createdAt ≤ second.createdAt)

def signalNames (signals : List ContinuousRiskSignal) : List String :=
  (signals.filter (·.triggered)).map (·.name)

/-- `'signal' in conditions`, and the signal is among the triggered ones. -/
def matchesCondition (conditions : Js) (signals : List ContinuousRiskSignal) : Bool :=
  match property conditions "signal" with
  | .str signal => (signalNames signals).contains signal
  | _ => false

/-- The policies whose contribution `evaluateSession` adds. -/
def countedPolicies (policies : List ContinuousRiskPolicy) (realmId : String)
    (signals : List ContinuousRiskSignal) : List ContinuousRiskPolicy :=
  (findAllPolicies policies realmId).filter fun policy =>
    policy.enabled && matchesCondition policy.conditions signals

inductive Tree where
  | all (subs : List Tree)
  | any (subs : List Tree)
  | signal (name : String)

namespace Tree

mutual

def toJson : Tree → Js
  | all subs => .obj [("all", .arr (toJsons subs))]
  | any subs => .obj [("any", .arr (toJsons subs))]
  | signal name => .obj [("signal", .str name)]

def toJsons : List Tree → List Js
  | [] => []
  | sub :: rest => toJson sub :: toJsons rest

end

section Meaning

variable (leaf : String → Bool)

mutual

def holds : Tree → Bool
  | all subs => allHold subs
  | any subs => anyHolds subs
  | signal name => leaf name

def allHold : List Tree → Bool
  | [] => true
  | sub :: rest => holds sub && allHold rest

def anyHolds : List Tree → Bool
  | [] => false
  | sub :: rest => holds sub || anyHolds rest

end

end Meaning

end Tree

def namesSignal (signalName : String) : Bool :=
  signalName == "device_posture" || signalName == "network_context" ||
    signalName == "behavioral_biometrics"

theorem evaluateCondition_all {conditions : Js} (isAll : arrayAt conditions "all" = some xs) :
    evaluateCondition conditions = xs.all evaluateCondition := by
  rw [evaluateCondition]
  split
  · rename_i found
    rw [isAll] at found
    cases found
    simp
  · rename_i missing
    rw [isAll] at missing
    cases missing

theorem evaluateCondition_any {conditions : Js}
    (notAll : arrayAt conditions "all" = none) (isAny : arrayAt conditions "any" = some xs) :
    evaluateCondition conditions = xs.any evaluateCondition := by
  rw [evaluateCondition]
  split
  · rename_i found
    rw [notAll] at found
    cases found
  · split
    · rename_i found
      rw [isAny] at found
      cases found
      simp
    · rename_i missing
      rw [isAny] at missing
      cases missing

open Risk.Tree

theorem evaluateCondition_signal (name : String) :
    evaluateCondition (signal name).toJson = namesSignal name := by
  rw [evaluateCondition]
  split
  · rename_i found
    cases found
  · split
    · rename_i found
      cases found
    · by_cases empty : name = ""
      · subst empty
        rfl
      · have isText : textAt (signal name).toJson "signal" = some name := if_neg empty
        rw [isText]
        rfl

mutual

theorem evaluateCondition_toJson (tree : Tree) :
    evaluateCondition tree.toJson = tree.holds namesSignal := by
  cases tree with
  | all subs => rw [evaluateCondition_all rfl, holds, evaluateConditions_all subs]
  | any subs => rw [evaluateCondition_any rfl rfl, holds, evaluateConditions_any subs]
  | signal name => exact evaluateCondition_signal name

theorem evaluateConditions_all (subs : List Tree) :
    (toJsons subs).all evaluateCondition = allHold namesSignal subs := by
  cases subs with
  | nil => rfl
  | cons sub rest =>
    rw [toJsons, all_cons, allHold, evaluateCondition_toJson sub, evaluateConditions_all rest]

theorem evaluateConditions_any (subs : List Tree) :
    (toJsons subs).any evaluateCondition = anyHolds namesSignal subs := by
  cases subs with
  | nil => rfl
  | cons sub rest =>
    rw [toJsons, any_cons, anyHolds, evaluateCondition_toJson sub, evaluateConditions_any rest]

end

end Idenplane.Risk
