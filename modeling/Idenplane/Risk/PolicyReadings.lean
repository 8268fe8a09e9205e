import Idenplane.Risk.Policies

/-! # How the two engines read a policy

A policy is due when it is enabled, applies to the client of the session, has not fired within
its cooldown and its tree is true of the signals that were triggered.  The first engine takes
every signal it knows by name for triggered and counts the cooldown from the last evaluation;
the second one looks at nothing but a single signal, whatever the client and the cooldown.
-/

namespace Idenplane.Risk

abbrev Firings := List (String × Int)

def FiredLately (now : Int) (firings : Firings) (policy : ContinuousRiskPolicy) : Prop :=
  ∃ time, (policy.id, time) ∈ firings ∧ now - time < policy.cooldownSeconds * 1000

def isTriggered (signals : List ContinuousRiskSignal) (name : String) : Bool :=
  signals.any fun signal => signal.triggered && signal.name == name

structure Evaluation where
  policies : List ContinuousRiskPolicy
  realmId : String
  clientId : Option String
  signals : List ContinuousRiskSignal
  now : Int
  lastEvaluatedAt : Option Int
  firings : Firings

namespace Evaluation

variable (e : Evaluation)

/-- `assessContinuousRisk` adds the contribution of the policy. -/
def AssessmentCounts (policy : ContinuousRiskPolicy) : Prop :=
  ∃ res ∈ evaluatePolicies e.now (getActivePolicies e.policies e.realmId e.clientId)
      e.lastEvaluatedAt,
    res.policyId = policy.id ∧ res.fired = true

/-- `evaluateSession` adds the contribution of the policy. -/
def SessionCounts (policy : ContinuousRiskPolicy) : Prop :=
  policy ∈ countedPolicies e.policies e.realmId e.signals

/-- The policy is one of the realm's for all clients or for this one. -/
def Applies (policy : ContinuousRiskPolicy) : Prop :=
  policy.clientId = none ∨ policy.clientId = e.clientId

def Due (policy : ContinuousRiskPolicy) (tree : Tree) : Prop :=
  policy.enabled = true ∧ policy.realmId = e.realmId ∧ e.Applies policy ∧
    tree.holds (isTriggered e.signals) = true ∧ ¬FiredLately e.now e.firings policy

def IsTriggeredSignal (tree : Tree) : Prop :=
  ∃ name, tree = .signal name ∧ isTriggered e.signals name = true

/-- When the engines read a policy as it is meant. -/
inductive ReadAlike (policy : ContinuousRiskPolicy) (tree : Tree) : Prop where
  | unused : ¬(policy.enabled = true ∧ policy.realmId = e.realmId) → ReadAlike policy tree
  /-- The policy is for another client, and the second engine cannot read it. -/
  | elsewhere : ¬e.Applies policy → ¬e.IsTriggeredSignal tree → ReadAlike policy tree
  /-- A single signal that was triggered and that the first engine knows, past the cooldown. -/
  | single : e.Applies policy → e.IsTriggeredSignal tree → tree.holds namesSignal = true →
      cooling e.now e.lastEvaluatedAt policy = false → ¬FiredLately e.now e.firings policy →
      ReadAlike policy tree
  /-- Anything else, when neither reading of the tree lets the policy fire. -/
  | silent : e.Applies policy → ¬e.IsTriggeredSignal tree →
      (tree.holds namesSignal = true → cooling e.now e.lastEvaluatedAt policy = true) →
      (tree.holds (isTriggered e.signals) = true → FiredLately e.now e.firings policy) →
      ReadAlike policy tree

end Evaluation

section Engines

variable {e : Evaluation} {policy : ContinuousRiskPolicy} {tree : Tree}

open List

theorem mem_getActivePolicies (mem : policy ∈ e.policies) :
    policy ∈ getActivePolicies e.policies e.realmId e.clientId ↔
      policy.realmId = e.realmId ∧ policy.enabled = true ∧ e.Applies policy := by
  simp only [getActivePolicies, mem_mergeSort, mem_filter, mem, true_and,
    and_eq_true, or_eq_true, beq_iff_eq, Evaluation.Applies]
  constructor
  · intro ⟨⟨r, enabled⟩, c⟩
    exact ⟨r, enabled, c.symm⟩
  · intro ⟨r, enabled, c⟩
    exact ⟨⟨r, enabled⟩, c.symm⟩

theorem evaluatePolicy_id (now : Int) (last : Option Int) (policy : ContinuousRiskPolicy) :
    (evaluatePolicy now last policy).policyId = policy.id := by
  unfold evaluatePolicy
  split <;> rfl

theorem evaluatePolicy_fired (isTree : policy.conditions = tree.toJson) (now : Int)
    (last : Option Int) : (evaluatePolicy now last policy).fired = true ↔
      cooling now last policy = false ∧ tree.holds namesSignal = true := by
  unfold evaluatePolicy
  cases cools : cooling now last policy with
  | true => simp
  | false => simp [isTree, evaluateCondition_toJson]

/-- The first engine: the names of the signals, and the time since the last evaluation. -/
theorem assessmentCounts_iff (unique : Table.Unique (·.id) e.policies) (mem : policy ∈ e.policies)
    (isTree : policy.conditions = tree.toJson) : e.AssessmentCounts policy ↔
      (policy.realmId = e.realmId ∧ policy.enabled = true ∧ e.Applies policy) ∧
        cooling e.now e.lastEvaluatedAt policy = false ∧ tree.holds namesSignal = true := by
  rw [← mem_getActivePolicies mem, ← evaluatePolicy_fired isTree]
  constructor
  · intro ⟨res, evaluated, isPolicy, fired⟩
    obtain ⟨other, active, rfl⟩ := mem_map.mp evaluated
    rw [evaluatePolicy_id] at isPolicy
    have listed : other ∈ e.policies :=
      (mem_filter.mp (mem_mergeSort.mp active)).1
    rw [unique other listed policy mem isPolicy] at active fired
    exact ⟨active, fired⟩
  · intro ⟨active, fired⟩
    exact ⟨_, mem_map_of_mem active, evaluatePolicy_id .., fired⟩

theorem contains_signalNames (signals : List ContinuousRiskSignal) (name : String) :
    (signalNames signals).contains name = isTriggered signals name := by
  induction signals with
  | nil => rfl
  | cons signal rest ih =>
    cases triggered : signal.triggered with
    | true =>
      simp only [signalNames, isTriggered] at ih
      simp only [signalNames, isTriggered, filter_cons, triggered, if_true, map_cons,
        contains_cons, any_cons, Bool.true_and, ih]
      rw [Bool.beq_comm]
    | false =>
      simp only [signalNames, isTriggered] at ih
      simp only [signalNames, isTriggered, filter_cons, triggered, any_cons,
        Bool.false_and, Bool.false_or, ← ih]
      rfl

theorem matchesCondition_iff : matchesCondition tree.toJson e.signals = true ↔
    e.IsTriggeredSignal tree := by
  cases tree with
  | all subs =>
    constructor
    · intro matched
      cases matched
    · intro ⟨name, isSignal, _⟩
      cases isSignal
  | any subs =>
    constructor
    · intro matched
      cases matched
    · intro ⟨name, isSignal, _⟩
      cases isSignal
  | signal name =>
    have isText : matchesCondition (Tree.signal name).toJson e.signals =
      isTriggered e.signals name := contains_signalNames e.signals name
    rw [isText]
    constructor
    · intro triggered
      exact ⟨name, rfl, triggered⟩
    · intro ⟨_, isSignal, triggered⟩
      cases isSignal
      exact triggered

/-- The second engine: one triggered signal, of any client and at any time. -/
theorem sessionCounts_iff (mem : policy ∈ e.policies) (isTree : policy.conditions = tree.toJson) :
    e.SessionCounts policy ↔
      policy.realmId = e.realmId ∧ policy.enabled = true ∧ e.IsTriggeredSignal tree := by
  rw [← matchesCondition_iff, ← isTree]
  simp [Evaluation.SessionCounts, countedPolicies, findAllPolicies, mem]

theorem holds_of_isTriggeredSignal (single : e.IsTriggeredSignal tree) :
    tree.holds (isTriggered e.signals) = true := by
  obtain ⟨name, rfl, triggered⟩ := single
  exact triggered

open Evaluation.ReadAlike

/-- Both engines count a policy exactly when it is due, and hence the same policies, just in
these cases. -/
theorem policies_read_alike_iff (unique : Table.Unique (·.id) e.policies)
    (mem : policy ∈ e.policies) (isTree : policy.conditions = tree.toJson) :
    ((e.AssessmentCounts policy ↔ e.Due policy tree) ∧
      (e.SessionCounts policy ↔ e.AssessmentCounts policy)) ↔ e.ReadAlike policy tree := by
  rw [assessmentCounts_iff unique mem isTree, sessionCounts_iff mem isTree, Evaluation.Due]
  have meant (single : e.IsTriggeredSignal tree) := holds_of_isTriggeredSignal single
  constructor
  · intro ⟨assessment, sess⟩
    by_cases used : policy.enabled = true ∧ policy.realmId = e.realmId
    · obtain ⟨enabled, r⟩ := used
      by_cases applies : e.Applies policy
      · by_cases single : e.IsTriggeredSignal tree
        · obtain ⟨-, settled, named⟩ := sess.mp ⟨r, enabled, single⟩
          obtain ⟨-, -, -, -, rested⟩ := assessment.mp ⟨⟨r, enabled, applies⟩, settled, named⟩
          exact .single applies single named settled rested
        · apply silent applies single
          · intro named
            cases settled : cooling e.now e.lastEvaluatedAt policy with
            | true => rfl
            | false =>
              exact absurd (sess.mpr ⟨⟨r, enabled, applies⟩, settled, named⟩).2.2 single
          · intro isTrue
            by_contra rested
            have counted := assessment.mpr ⟨enabled, r, applies, isTrue, rested⟩
            exact single (sess.mpr counted).2.2
      · apply elsewhere applies
        intro single
        exact applies (sess.mp ⟨r, enabled, single⟩).1.2.2
    · exact .unused used
  · intro alike
    cases alike with
    | unused unused =>
      constructor
      · constructor
        · intro counted
          exact absurd ⟨counted.1.2.1, counted.1.1⟩ unused
        · intro due
          exact absurd ⟨due.1, due.2.1⟩ unused
      · constructor
        · intro counted
          exact absurd ⟨counted.2.1, counted.1⟩ unused
        · intro counted
          exact absurd ⟨counted.1.2.1, counted.1.1⟩ unused
    | elsewhere notHere notSingle =>
      constructor
      · constructor
        · intro counted
          exact absurd counted.1.2.2 notHere
        · intro due
          exact absurd due.2.2.1 notHere
      · constructor
        · intro counted
          exact absurd counted.2.2 notSingle
        · intro counted
          exact absurd counted.1.2.2 notHere
    | single applies single named settled rested =>
      constructor
      · constructor
        · intro counted
          exact ⟨counted.1.2.1, counted.1.1, applies, meant single, rested⟩
        · intro due
          exact ⟨⟨due.2.1, due.1, applies⟩, settled, named⟩
      · constructor
        · intro counted
          exact ⟨⟨counted.1, counted.2.1, applies⟩, settled, named⟩
        · intro counted
          exact ⟨counted.1.1, counted.1.2.1, single⟩
    | silent applies notSingle unnamed lately =>
      have notCounted : ¬((policy.realmId = e.realmId ∧ policy.enabled = true ∧ e.Applies policy) ∧
          cooling e.now e.lastEvaluatedAt policy = false ∧ tree.holds namesSignal = true) := by
        intro ⟨_, settled, named⟩
        rw [unnamed named] at settled
        cases settled
      constructor
      · constructor
        · intro counted
          exact absurd counted notCounted
        · intro due
          exact absurd (lately due.2.2.2.1) due.2.2.2.2
      · constructor
        · intro counted
          exact absurd counted.2.2 notSingle
        · intro counted
          exact absurd counted notCounted

end Engines

def devicePolicy : ContinuousRiskPolicy where
  id := "p1"
  realmId := "acme"
  clientId := none
  name := "device"
  enabled := true
  priority := 0
  conditions := (Tree.signal "device_posture").toJson
  action := "STEP_UP"
  riskScoreContribution := 30
  cooldownSeconds := 300
  createdAt := 0

/-- The device posture was evaluated with this outcome, and the session never before. -/
def deviceEvaluation (triggered : Bool) : Evaluation where
  policies := [devicePolicy]
  realmId := "acme"
  clientId := none
  signals := [⟨"device_posture", if triggered then 25 else 0, 3 / 2, "", triggered⟩]
  now := 1000
  lastEvaluatedAt := none
  firings := []

theorem devicePolicies_unique (triggered : Bool) :
    Table.Unique (·.id) (deviceEvaluation triggered).policies := by
  intro a isFirst b isSecond _
  rw [mem_singleton.mp isFirst, mem_singleton.mp isSecond]

theorem triggered_device_counts : ((deviceEvaluation true).AssessmentCounts devicePolicy ↔
        (deviceEvaluation true).Due devicePolicy (.signal "device_posture")) ∧
      ((deviceEvaluation true).SessionCounts devicePolicy ↔
        (deviceEvaluation true).AssessmentCounts devicePolicy) := by
  apply (policies_read_alike_iff (devicePolicies_unique true) mem_cons_self rfl).mpr
  apply Evaluation.ReadAlike.single (.inl rfl) ⟨"device_posture", rfl, rfl⟩ rfl rfl
  intro ⟨time, fired, _⟩
  cases fired

/-- A device in order: the policy is not due, and the first engine counts it. -/
theorem compliant_device_counted : (deviceEvaluation false).AssessmentCounts devicePolicy ∧
      ¬(deviceEvaluation false).Due devicePolicy (.signal "device_posture") := by
  constructor
  · have isTree : devicePolicy.conditions = (Tree.signal "device_posture").toJson := rfl
    apply (assessmentCounts_iff (devicePolicies_unique false) mem_cons_self isTree).mpr
    exact ⟨⟨rfl, rfl, .inl rfl⟩, rfl, rfl⟩
  · intro due
    have isTrue : false = true := due.2.2.2.1
    cases isTrue

end Idenplane.Risk
