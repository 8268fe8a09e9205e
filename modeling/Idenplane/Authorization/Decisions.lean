import Idenplane.Authorization.PolicyEngine

/-! # What the policy engine decides

The meaning of a list of policies is a set of permissions and prohibitions, in which neither
the order of the list nor the priorities play a part.  They are about the policy that the
reason names.
-/

namespace Idenplane.Authorization

open List Prod

open Js (Runtime)

section Traversal

variable {α β : Type} {f : α → Option β}

theorem mapM_isSome (xs : List α) : (xs.mapM f).isSome = true ↔ ∀ x ∈ xs, (f x).isSome = true := by
  induction xs with
  | nil => simp
  | cons x xs ih =>
    rw [forall_mem_cons, ← ih, mapM_cons]
    cases f x <;> cases xs.mapM f <;> simp

theorem forall₂_of_mapM {xs : List α} {ys : List β} (mapped : xs.mapM f = some ys) :
    Forall₂ (fun x y => f x = some y) xs ys := by
  induction xs generalizing ys with
  | nil =>
    cases mapped
    exact .nil
  | cons x xs ih =>
    cases first : f x with
    | none => simp [mapM_cons, first] at mapped
    | some y =>
      cases rest : xs.mapM f with
      | none => simp [mapM_cons, first, rest] at mapped
      | some others =>
        simp [mapM_cons, first, rest] at mapped
        subst mapped
        exact .cons first (ih rest)

end Traversal

section Meaning

variable (rt : Runtime)

def Passes (condition ctx : Js) : Prop :=
  ∃ reason, evaluateCondition rt condition ctx = some ⟨true, reason⟩

def CategoryPasses (logic : Logic) (conditions : List Js) (ctx : Js) : Prop :=
  conditions ≠ [] → match logic with
    | .AND => ∀ condition ∈ conditions, Passes rt condition ctx
    | .OR => ∃ condition ∈ conditions, Passes rt condition ctx

def Matches (policy : RawPolicy) (req : PolicyEvaluationRequest) : Prop :=
  ∀ category ∈ policy.conditionTypes,
    CategoryPasses rt policy.logicOf (parseConditions category.2) (buildContext req)

def Evaluable (policy : RawPolicy) (req : PolicyEvaluationRequest) : Prop :=
  ∀ category ∈ policy.conditionTypes, ∀ condition ∈ parseConditions category.2,
    wellFormed rt condition (buildContext req) = true

def Applies (effect : Decision) (policies : List RawPolicy) (req : PolicyEvaluationRequest) :
    Prop :=
  ∃ policy ∈ policies, policy.enabled ∧ policy.effectOf = effect ∧ Matches rt policy req

end Meaning

variable {pol : RawPolicy}

section Evaluation

variable {rt : Runtime}

theorem evaluateConditions_isSome (conditions : List Js) (ctx : Js) (logic : Logic) :
    (evaluateConditions rt conditions ctx logic).isSome = true ↔
      ∀ cond ∈ conditions, wellFormed rt cond ctx = true := by
  cases conditions with
  | nil => simp [evaluateConditions]
  | cons cond rest =>
    have all := mapM_isSome (f := (evaluateCondition rt · ctx)) (cond :: rest)
    simp only [evaluateCondition_isSome] at all
    rw [← all, evaluateConditions]
    cases (cond :: rest).mapM (evaluateCondition rt · ctx) <;> simp

variable {conditions : List Js} {results : List ConditionResult}

theorem passed_iff {ctx : Js} (evaluated : Forall₂ (fun cond res =>
      evaluateCondition rt cond ctx = some res) conditions results) :
    (results.all (·.passed) = true ↔ ∀ cond ∈ conditions, Passes rt cond ctx) ∧
      (results.any (·.passed) = true ↔ ∃ cond ∈ conditions, Passes rt cond ctx) := by
  induction evaluated with
  | nil => simp
  | cons first _ ih =>
    rename_i cond res _ _ _
    have passes : res.passed = true ↔ Passes rt cond ctx := by
      obtain ⟨passed, reason⟩ := res
      simp [Passes, first]
    simp [passes, ih.1, ih.2]

theorem categoryPasses_iff {ctx : Js} {logic : Logic} {passed : Bool}
    (evaluated : evaluateConditions rt conditions ctx logic = some (passed, results)) :
    passed = true ↔ CategoryPasses rt logic conditions ctx := by
  cases conditions with
  | nil =>
    simp only [evaluateConditions, isEmpty_nil, if_true, some.injEq, mk.injEq] at evaluated
    simp [CategoryPasses, evaluated.1.symm]
  | cons cond rest =>
    simp only [evaluateConditions, isEmpty_cons, false_eq_true, if_false] at evaluated
    cases mapped : (cond :: rest).mapM (evaluateCondition rt · ctx) with
    | none => simp [mapped] at evaluated
    | some hit =>
      have both := passed_iff (forall₂_of_mapM mapped)
      simp only [mapped, bind_eq_bind, bind_some, some.injEq, mk.injEq] at evaluated
      rw [← evaluated.1, CategoryPasses.eq_def]
      cases logic with
      | AND => simpa using both.1
      | OR => simpa using both.2

theorem evaluateCategories_isSome (ctx : Js) (logic : Logic) (categories : List (String × Js)) :
    (evaluateCategories rt ctx logic categories).isSome = true ↔
      ∀ category ∈ categories, ∀ cond ∈ parseConditions category.2,
        wellFormed rt cond ctx = true := by
  induction categories with
  | nil => simp [evaluateCategories]
  | cons category rest ih =>
    rw [forall_mem_cons, ← ih, ← evaluateConditions_isSome, evaluateCategories]
    cases evaluateConditions rt (parseConditions category.2) ctx logic <;>
      cases evaluateCategories rt ctx logic rest <;> simp

theorem categoriesPass_iff {ctx : Js} {logic : Logic} {categories : List (String × Js)}
    {passed : Bool} {details : List ConditionDetail}
    (evaluated : evaluateCategories rt ctx logic categories = some (passed, details)) :
    passed = true ↔ ∀ category ∈ categories,
      CategoryPasses rt logic (parseConditions category.2) ctx := by
  induction categories generalizing passed details with
  | nil =>
    simp only [evaluateCategories, some.injEq, mk.injEq] at evaluated
    simp [evaluated.1.symm]
  | cons category rest ih =>
    rw [evaluateCategories] at evaluated
    cases first : evaluateConditions rt (parseConditions category.2) ctx logic with
    | none => simp [first] at evaluated
    | some ans =>
      cases others : evaluateCategories rt ctx logic rest with
      | none => simp [first, others] at evaluated
      | some remaining =>
        simp only [first, others, bind_eq_bind, bind_some, some.injEq, mk.injEq] at evaluated
        rw [← evaluated.1, and_eq_true, categoryPasses_iff first, ih others, forall_mem_cons]

theorem evaluatePolicy_isSome (pol : RawPolicy) (req : PolicyEvaluationRequest) :
    (evaluatePolicy rt pol req).isSome = true ↔ Evaluable rt pol req := by
  rw [Evaluable, ← evaluateCategories_isSome, evaluatePolicy]
  cases evaluateCategories rt (buildContext req) pol.logicOf pol.conditionTypes <;> simp

variable (rt) in
structure Describes (req : PolicyEvaluationRequest) (policy : RawPolicy)
    (detail : PolicyMatchDetail) : Prop where
  name : detail.policyName = policy.name
  effect : detail.effect = policy.effectOf
  matched : detail.matched = true ↔ Matches rt policy req

variable {detail : PolicyMatchDetail}

theorem evaluatePolicy_describes {req : PolicyEvaluationRequest} (evaluated : evaluatePolicy rt pol req = some detail) :
    Describes rt req pol detail := by
  rw [evaluatePolicy] at evaluated
  cases hit : evaluateCategories rt (buildContext req) pol.logicOf pol.conditionTypes with
  | none => simp [hit] at evaluated
  | some ans =>
    simp only [hit, bind_eq_bind, bind_some, some.injEq] at evaluated
    subst evaluated
    exact ⟨rfl, rfl, categoriesPass_iff hit⟩

variable {details : List PolicyMatchDetail}

section

variable {pols : List RawPolicy}

section

variable {req : PolicyEvaluationRequest}

theorem describes_of_mapM (evaluated : pols.mapM (evaluatePolicy rt · req) = some details) :
    Forall₂ (Describes rt req) pols details :=
  (forall₂_of_mapM evaluated).imp fun _ _ => evaluatePolicy_describes

theorem find_some_spec {effect : Decision} (described : Forall₂ (Describes rt req) pols details)
    (sorted : pols.Pairwise fun a b => b.priority ≤ a.priority)
    (hit : (details.filter (·.matched)).find? (·.effect = effect) = some detail) :
    ∃ pol ∈ pols, pol.effectOf = effect ∧ Matches rt pol req ∧
      detail.policyName = pol.name ∧ ∀ other ∈ pols, other.effectOf = effect →
        Matches rt other req → other.priority ≤ pol.priority := by
  induction described with
  | nil => simp at hit
  | @cons pol first pols details head _ ih =>
    obtain ⟨above, sorted⟩ := pairwise_cons.mp sorted
    by_cases decides : first.matched = true ∧ first.effect = effect
    · obtain rfl : first = detail := by simpa [decides] using hit
      refine ⟨pol, by simp, head.effect ▸ decides.2, head.matched.mp decides.1, head.name, ?_⟩
      intro other mem _ _
      rcases mem_cons.mp mem with rfl | mem
      · exact le_refl _
      · exact above other mem
    · have later : (details.filter (·.matched)).find? (·.effect = effect) = some detail := by
        by_cases matched : first.matched = true
        · have differs : ¬first.effect = effect := fun same => decides ⟨matched, same⟩
          simpa [matched, differs] using hit
        · simpa [matched] using hit
      obtain ⟨chosen, mem, ofEffect, matching, name, maximal⟩ := ih sorted later
      refine ⟨chosen, .tail _ mem, ofEffect, matching, name, ?_⟩
      intro other isOther otherEffect otherMatches
      rcases mem_cons.mp isOther with rfl | isOther
      · exact absurd ⟨head.matched.mpr otherMatches, head.effect.trans otherEffect⟩ decides
      · exact maximal other isOther otherEffect otherMatches

theorem find_none_spec {effect : Decision} (described : Forall₂ (Describes rt req) pols details)
    (hit : (details.filter (·.matched)).find? (·.effect = effect) = none) :
    ∀ pol ∈ pols, pol.effectOf = effect → ¬Matches rt pol req := by
  induction described with
  | nil => simp
  | @cons pol first pols details head _ ih =>
    have absent : ∀ detail ∈ first :: details, detail.matched = true → ¬detail.effect = effect := by
      simpa using hit
    rw [forall_mem_cons] at absent ⊢
    constructor
    · intro ofEffect matching
      exact absent.1 (head.matched.mpr matching) (head.effect.trans ofEffect)
    · exact ih (by simpa using absent.2)

end

theorem mem_applicablePolicies :
    pol ∈ applicablePolicies pols ↔ pol ∈ pols ∧ pol.enabled = true := by
  rw [applicablePolicies, mem_insertionSort, mem_filter]

end

theorem applicablePolicies_sorted (pols : List RawPolicy) :
    (applicablePolicies pols).Pairwise fun a b => b.priority ≤ a.priority := by
  exact pairwise_insertionSort _ _

end Evaluation

section Semantics

variable (rt : Runtime)

def decision (policies : List RawPolicy) (req : PolicyEvaluationRequest) : Option Decision :=
  (evaluatePolicies rt policies req).map (·.decision)

/-- The same policies in another order, with other priorities, or with disabled ones besides. -/
inductive Rearranged : List RawPolicy → List RawPolicy → Prop where
  | permuted {policies others} : policies.Perm others → Rearranged policies others
  | reprioritised {policies others} :
      List.Forall₂ (fun policy other => ∃ priority, other = { policy with priority := priority })
        policies others → Rearranged policies others
  | added {policies} policy : policy.enabled = false → Rearranged policies (policy :: policies)
  | removed {policies} policy : policy.enabled = false → Rearranged (policy :: policies) policies
  | trans {a b c} : Rearranged a b → Rearranged b c → Rearranged a c

def EvaluableAll (policies : List RawPolicy) (req : PolicyEvaluationRequest) : Prop :=
  ∀ policy ∈ policies, policy.enabled → Evaluable rt policy req

/-- The reason of a decision that a policy with this name has made. -/
def namedReason (decision : Decision) (name : String) : String :=
  match decision with
  | .ALLOW => "Permitted by policy " ++ quoted name
  | .DENY => "Explicit DENY by policy " ++ quoted name

/-- The reason names a matching policy of maximal priority among those of its effect. -/
def ReasonNames (policies : List RawPolicy) (req : PolicyEvaluationRequest)
    (res : PolicyEvaluationResult) : Prop :=
  ∃ policy ∈ policies, policy.enabled ∧ policy.effectOf = res.decision ∧
    Matches rt policy req ∧ res.reason = namedReason res.decision policy.name ∧
    ∀ other ∈ policies, other.enabled → other.effectOf = res.decision →
      Matches rt other req → other.priority ≤ policy.priority

/-- How a request is decided: deny overrides, whatever the order and the priorities. -/
structure DecisionSemantics (policies : List RawPolicy) (req : PolicyEvaluationRequest) :
    Prop where
  returns : ∃ res, evaluatePolicies rt policies req = some res
  allow_iff : decision rt policies req = some .ALLOW ↔
    Applies rt .ALLOW policies req ∧ ¬Applies rt .DENY policies req
  rearranged : ∀ others, Rearranged policies others →
    decision rt others req = decision rt policies req
  deny_added : ∀ policy others, policy.effectOf = .DENY → others.Perm (policy :: policies) →
    decision rt policies req = some .DENY → decision rt others req ≠ some .ALLOW
  reason : ∀ res, evaluatePolicies rt policies req = some res → ReasonNames rt policies req res ∨
      (res.decision = .DENY ∧ res.reason = "No matching policy — default deny" ∧
        ∀ policy ∈ policies, policy.enabled → ¬Matches rt policy req)

end Semantics

section Decisions

variable {rt : Runtime} {pols others : List RawPolicy} {req : PolicyEvaluationRequest}

theorem evaluatePolicies_isSome :
    (evaluatePolicies rt pols req).isSome = true ↔ EvaluableAll rt pols req := by
  have each : (∀ pol ∈ applicablePolicies pols,
      (evaluatePolicy rt pol req).isSome = true) ↔ EvaluableAll rt pols req := by
    simp only [mem_applicablePolicies, evaluatePolicy_isSome, EvaluableAll, and_imp]
  rw [← each, ← mapM_isSome, evaluatePolicies]
  cases (applicablePolicies pols).mapM (evaluatePolicy rt · req) <;> simp

def firstMatch (effect : Decision) (details : List PolicyMatchDetail) : Option PolicyMatchDetail :=
  (details.filter (·.matched)).find? (·.effect = effect)

theorem conclude_cases (details : List PolicyMatchDetail) :
    (∃ detail, firstMatch .DENY details = some detail ∧
        conclude details = (.DENY, namedReason .DENY detail.policyName)) ∨
      (firstMatch .DENY details = none ∧ ∃ detail, firstMatch .ALLOW details = some detail ∧
        conclude details = (.ALLOW, namedReason .ALLOW detail.policyName)) ∨
      (firstMatch .DENY details = none ∧ firstMatch .ALLOW details = none ∧
        conclude details = (.DENY, "No matching policy — default deny")) := by
  unfold conclude firstMatch
  dsimp only
  cases (details.filter (·.matched)).find? (·.effect = .DENY) with
  | some denyMatch => exact .inl ⟨denyMatch, rfl, rfl⟩
  | none =>
    cases (details.filter (·.matched)).find? (·.effect = .ALLOW) with
    | some allowMatch => exact .inr (.inl ⟨rfl, allowMatch, rfl, rfl⟩)
    | none => exact .inr (.inr ⟨rfl, rfl, rfl⟩)

variable {res : PolicyEvaluationResult}

theorem evaluatePolicies_cases (evaluated : evaluatePolicies rt pols req = some res) :
    (res.decision = .DENY ∧ ReasonNames rt pols req res) ∨
      (res.decision = .ALLOW ∧ ReasonNames rt pols req res ∧ ¬Applies rt .DENY pols req) ∨
      (res.decision = .DENY ∧ res.reason = "No matching policy — default deny" ∧
        ∀ pol ∈ pols, pol.enabled → ¬Matches rt pol req) := by
  rw [evaluatePolicies] at evaluated
  cases mapped : (applicablePolicies pols).mapM (evaluatePolicy rt · req) with
  | none => simp [mapped] at evaluated
  | some details =>
    simp only [mapped, bind_eq_bind, bind_some, some.injEq] at evaluated
    have described := describes_of_mapM mapped
    have sorted := applicablePolicies_sorted pols
    have decided : res.decision = (conclude details).1 := by rw [← evaluated]
    have explained : res.reason = (conclude details).2 := by rw [← evaluated]
    have named : ∀ detail, firstMatch res.decision details = some detail →
        res.reason = namedReason res.decision detail.policyName →
        ReasonNames rt pols req res := by
      intro detail hit reason
      obtain ⟨pol, mem, ofEffect, matching, name, maximal⟩ :=
        find_some_spec described sorted hit
      simp only [mem_applicablePolicies] at mem maximal
      exact ⟨pol, mem.1, mem.2, ofEffect, matching, name ▸ reason,
        fun other isOther enabled => maximal other ⟨isOther, enabled⟩⟩
    have absent : ∀ effect, firstMatch effect details = none →
        ∀ pol ∈ pols, pol.enabled → pol.effectOf = effect → ¬Matches rt pol req := by
      intro effect hit pol mem enabled
      exact find_none_spec described hit pol (mem_applicablePolicies.mpr ⟨mem, enabled⟩)
    rcases conclude_cases details with ⟨detail, hit, concluded⟩ |
      ⟨noDeny, detail, hit, concluded⟩ | ⟨noDeny, noAllow, concluded⟩
    · rw [concluded] at decided explained
      exact .inl ⟨decided, named detail (decided ▸ hit) (decided ▸ explained)⟩
    · rw [concluded] at decided explained
      refine .inr (.inl ⟨decided, named detail (decided ▸ hit) (decided ▸ explained), ?_⟩)
      rintro ⟨pol, mem, enabled, ofEffect, matching⟩
      exact absent .DENY noDeny pol mem enabled ofEffect matching
    · rw [concluded] at decided explained
      refine .inr (.inr ⟨decided, explained, ?_⟩)
      intro pol mem enabled
      cases effect : pol.effectOf with
      | ALLOW => exact absent .ALLOW noAllow pol mem enabled effect
      | DENY => exact absent .DENY noDeny pol mem enabled effect

theorem applies_of_reasonNames (ns : ReasonNames rt pols req res) :
    Applies rt res.decision pols req := by
  obtain ⟨pol, mem, enabled, effect, matching, -, -⟩ := ns
  exact ⟨pol, mem, enabled, effect, matching⟩

theorem result_allow_iff
    (evaluated : evaluatePolicies rt pols req = some res) : res.decision = .ALLOW ↔
      Applies rt .ALLOW pols req ∧ ¬Applies rt .DENY pols req := by
  rcases evaluatePolicies_cases evaluated with ⟨deny, ns⟩ | ⟨allow, ns, none⟩ | ⟨deny, -, none⟩
  · have denied := deny ▸ applies_of_reasonNames ns
    simp [deny, denied]
  · have allowed := allow ▸ applies_of_reasonNames ns
    simp [allow, allowed, none]
  · have absent : ¬Applies rt .ALLOW pols req := by
      rintro ⟨pol, mem, enabled, -, matching⟩
      exact none pol mem enabled matching
    simp [deny, absent]

theorem decision_allow_iff (evaluable : EvaluableAll rt pols req) :
    decision rt pols req = some .ALLOW ↔
      Applies rt .ALLOW pols req ∧ ¬Applies rt .DENY pols req := by
  obtain ⟨res, evaluated⟩ := isSome_iff_exists.mp (evaluatePolicies_isSome.mpr evaluable)
  rw [← result_allow_iff evaluated, decision, evaluated]
  simp

/-- A rearrangement has the same enabled policies, up to their priorities. -/
theorem exists_enabled_of_rearranged {Q : RawPolicy → Prop}
    (regardless : ∀ policy priority, Q { policy with priority := priority } ↔ Q policy)
    (same : Rearranged pols others) :
    (∃ policy ∈ others, policy.enabled = true ∧ Q policy) ↔
      ∃ policy ∈ pols, policy.enabled = true ∧ Q policy := by
  induction same with
  | permuted perm => simp only [perm.mem_iff]
  | reprioritised each =>
    induction each with
    | nil => simp
    | cons first _ ih =>
      obtain ⟨priority, rfl⟩ := first
      simp only [exists_mem_cons_iff, ih, regardless]
  | added policy disabled | removed policy disabled => simp [disabled]
  | trans _ _ first snd => exact snd.trans first

theorem applies_of_rearranged (same : Rearranged pols others) (effect : Decision) :
    Applies rt effect others req ↔ Applies rt effect pols req :=
  exists_enabled_of_rearranged
    (Q := fun pol => pol.effectOf = effect ∧ Matches rt pol req)
    (fun _ _ => Iff.rfl) same

theorem evaluableAll_of_rearranged (same : Rearranged pols others) :
    EvaluableAll rt others req ↔ EvaluableAll rt pols req := by
  have blocked := exists_enabled_of_rearranged
    (Q := fun pol => ¬Evaluable rt pol req) (fun _ _ => Iff.rfl) same
  rw [← not_iff_not]
  simpa [EvaluableAll] using blocked

theorem decision_eq (evaluable : EvaluableAll rt pols req)
    (otherEvaluable : EvaluableAll rt others req)
    (same : ∀ effect, Applies rt effect others req ↔ Applies rt effect pols req) :
    decision rt others req = decision rt pols req := by
  have allowed : decision rt others req = some .ALLOW ↔ decision rt pols req = some .ALLOW := by
    rw [decision_allow_iff evaluable, decision_allow_iff otherEvaluable, same, same]
  obtain ⟨res, evaluated⟩ := isSome_iff_exists.mp (evaluatePolicies_isSome.mpr evaluable)
  obtain ⟨other, otherEvaluated⟩ :=
    isSome_iff_exists.mp (evaluatePolicies_isSome.mpr otherEvaluable)
  simp only [decision, evaluated, otherEvaluated, map_some, some.injEq] at allowed ⊢
  cases first : other.decision <;> cases snd : res.decision <;> simp_all

/-- With one more prohibition nothing new is allowed. -/
theorem decision_ne_allow_of_deny_added (deny : pol.effectOf = .DENY)
    (perm : others.Perm (pol :: pols))
    (denied : decision rt pols req = some .DENY) :
    decision rt others req ≠ some .ALLOW := by
  intro allowed
  obtain ⟨other, evaluated, decided⟩ := map_eq_some_iff.mp allowed
  obtain ⟨⟨granting, mem, enabled, effect, matching⟩, forbidden⟩ :=
    (result_allow_iff evaluated).mp decided
  have old : ∀ {p}, p ∈ pols → p ∈ others := fun isOld =>
    perm.mem_iff.mpr (.tail _ isOld)
  have evaluable : EvaluableAll rt pols req := fun p isOld =>
    evaluatePolicies_isSome.mp (by rw [evaluated]; rfl) p (old isOld)
  have refused : ¬(Applies rt .ALLOW pols req ∧ ¬Applies rt .DENY pols req) := by
    rw [← decision_allow_iff evaluable, denied]
    simp
  apply refused
  constructor
  · rcases mem_cons.mp (perm.mem_iff.mp mem) with rfl | mem
    · exact absurd (deny.symm.trans effect) (by decide)
    · exact ⟨granting, mem, enabled, effect, matching⟩
  · rintro ⟨p, isOld, applies⟩
    exact forbidden ⟨p, old isOld, applies⟩

/-- Decisions follow the semantics on exactly the lists whose enabled policies can all be
evaluated.  On the others the engine throws. -/
theorem decision_semantics_iff (rt : Runtime) (pols : List RawPolicy)
    (req : PolicyEvaluationRequest) : DecisionSemantics rt pols req ↔
      ∀ pol ∈ pols, pol.enabled → Evaluable rt pol req := by
  constructor
  · intro semantics
    obtain ⟨res, evaluated⟩ := semantics.returns
    exact evaluatePolicies_isSome.mp (by rw [evaluated]; rfl)
  · intro evaluable
    refine {
      returns := isSome_iff_exists.mp (evaluatePolicies_isSome.mpr evaluable)
      allow_iff := decision_allow_iff evaluable
      rearranged := ?_
      deny_added := fun _ _ => decision_ne_allow_of_deny_added
      reason := ?_ }
    · intro others same
      exact decision_eq evaluable ((evaluableAll_of_rearranged same).mpr evaluable)
        (applies_of_rearranged same)
    · intro res evaluated
      rcases evaluatePolicies_cases evaluated with ⟨-, ns⟩ | ⟨-, ns, -⟩ | default
      · exact .inl ns
      · exact .inl ns
      · exact .inr default

/-- Enough of the language for conditions that print no number and use no pattern. -/
def plainRuntime : Runtime where
  inherited _ _ := some .undefined
  numberOfText _ := .nan
  numberText _ := ""
  builtinText name := name
  regExp _ := none

def openPolicy : RawPolicy where
  id := "1"
  name := "open"
  enabled := true
  effect := "ALLOW"
  priority := 1
  logic := "AND"
  clientId := none
  subjectConditions := .null
  resourceConditions := .null
  actionConditions := .null
  environmentConditions := .null

/-- A policy with the conditions `[{}]`, which pass the validation of the request body. -/
def fieldlessPolicy : RawPolicy :=
  { openPolicy with id := "2", name := "fieldless", subjectConditions := .arr [.obj []] }

def readRequest : PolicyEvaluationRequest where
  subject := .obj []
  resource := .obj []
  action := .str "read"
  environment := .undefined
  clientId := none

/-- The request is permitted, and yet it fails. -/
theorem fieldless_condition_has_no_decision :
    ¬DecisionSemantics plainRuntime [openPolicy, fieldlessPolicy] readRequest := by
  intro semantics
  obtain ⟨res, evaluated⟩ := semantics.returns
  cases evaluated

end Decisions

end Idenplane.Authorization
