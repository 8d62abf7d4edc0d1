import Macr.Planning.Coordination
import Mathlib.Algebra.Order.Ring.Rat
import Mathlib.Data.Prod.Lex

/-!
# The dynamic coordination planner

`plan` checks every candidate of a state against the hard gates, ranks those that pass and binds
the best. `revise_for_failure` replaces a failed binding: it ranks the candidates of the new state
whose routes the old plan recorded as eligible. A chain is a plan followed by such revisions.
-/

namespace Macr

/-- `IdentityStatus`. -/
inductive IdentityStatus where
  | resolved
  | claimed
  | unresolved
deriving DecidableEq, Repr

/-- The text of an identity status. -/
def IdentityStatus.value : IdentityStatus → String
  | .resolved => "resolved"
  | .claimed => "claimed"
  | .unresolved => "unresolved"

/-- `QualificationState`. -/
inductive QualificationState where
  | untested
  | shadowOnly
  | qualified
  | stale
  | suspended
  | revoked
  | rejected
deriving DecidableEq, Repr

/-- The text of a qualification state. -/
def QualificationState.value : QualificationState → String
  | .untested => "untested"
  | .shadowOnly => "shadow_only"
  | .qualified => "qualified"
  | .stale => "stale"
  | .suspended => "suspended"
  | .revoked => "revoked"
  | .rejected => "rejected"

/-- `QualificationKey`. -/
structure QualificationKey where
  /-- The model. -/
  modelSubjectId : Digest
  /-- The route to the model. -/
  routeId : Digest
  /-- The role it is qualified for. -/
  roleDigest : Digest
  /-- The class of contexts it is qualified for. -/
  contextClass : String
  /-- What verified it. -/
  verifierSuiteDigest : Digest
  /-- How it was probed. -/
  probeDigest : Digest
  /-- The class is a bounded identifier. -/
  context_valid : isIdentifier contextClass

/-- `QualificationKey.digest`, which the constructor compares with the key's components. -/
def QualificationKey.digest (sha : Sha256) (key : QualificationKey) : Digest :=
  sha.sha256Id "qualification_key_v1" (.obj [("model_subject_id", .hex key.modelSubjectId),
    ("route_id", .hex key.routeId), ("role_digest", .hex key.roleDigest),
    ("context_class", .str key.contextClass),
    ("verifier_suite_digest", .hex key.verifierSuiteDigest),
    ("probe_digest", .hex key.probeDigest)])

/-- `ExclusionReason`. -/
inductive ExclusionReason where
  | identityUnresolved
  | roleMismatch
  | contextClassMismatch
  | qualificationNotCurrent
  | qualificationSnapshotMismatch
  | privacyDenied
  | capabilityMissing
  | verifierUnavailable
  | contextCapsuleDenied
  | contextCapsuleExpired
  | routeNotAllowlisted
  | providerUnavailable
  | budgetUnassessable
  | budgetDenied
deriving DecidableEq, Repr

/-- The text of an exclusion reason. -/
def ExclusionReason.value : ExclusionReason → String
  | .identityUnresolved => "identity_unresolved"
  | .roleMismatch => "role_mismatch"
  | .contextClassMismatch => "context_class_mismatch"
  | .qualificationNotCurrent => "qualification_not_current"
  | .qualificationSnapshotMismatch => "qualification_snapshot_mismatch"
  | .privacyDenied => "privacy_denied"
  | .capabilityMissing => "capability_missing"
  | .verifierUnavailable => "verifier_unavailable"
  | .contextCapsuleDenied => "context_capsule_denied"
  | .contextCapsuleExpired => "context_capsule_expired"
  | .routeNotAllowlisted => "route_not_allowlisted"
  | .providerUnavailable => "provider_unavailable"
  | .budgetUnassessable => "budget_unassessable"
  | .budgetDenied => "budget_denied"

/-- The text of a reason is a bounded identifier. -/
theorem ExclusionReason.value_valid (reason : ExclusionReason) : isIdentifier reason.value := by
  cases reason <;> decide

/-- `PlanningCandidate`. -/
structure PlanningCandidate where
  /-- The model. -/
  modelSubjectId : Digest
  /-- Whether the model is known. -/
  identityStatus : IdentityStatus
  /-- Who offers it. -/
  providerId : String
  /-- The route to the model. -/
  routeId : Digest
  /-- The parameters it is called with. -/
  parameterProfileDigest : Digest
  /-- What the model is qualified for. -/
  qualificationKey : QualificationKey
  /-- Whether the qualification stands. -/
  qualificationState : QualificationState
  /-- The evidence it stands on. -/
  qualificationEvidenceSetDigest : Digest
  /-- The privacy levels it may read. -/
  approvedPrivacy : List PrivacyLevel
  /-- What it can do. -/
  capabilities : List String
  /-- What verifies its output. -/
  verifierGraphDigest : Digest
  /-- Whether the route may be used. -/
  routeAllowlisted : Bool
  /-- Whether the provider answers. -/
  available : Bool
  /-- What the call is expected to cost, when that is known. -/
  expectedTotalCostUsd : Option ℚ
  /-- How long the call is expected to take. -/
  expectedLatencyMs : ℚ
  /-- How useful it was found to be. -/
  verifiedUtilityLowerBound : ℚ
  /-- How recent the evidence is. -/
  evidenceFreshnessEpoch : Nat
  /-- The evidence for an exclusion. -/
  reasonEvidenceDigest : Digest
  /-- The provider is a bounded identifier. -/
  provider_valid : isIdentifier providerId
  /-- The key is about this model and route. -/
  key_binds : qualificationKey.modelSubjectId = modelSubjectId ∧
    qualificationKey.routeId = routeId
  /-- There is a privacy level, and none occurs twice. -/
  privacy_set : approvedPrivacy ≠ [] ∧ approvedPrivacy.Nodup
  /-- There is a capability, and they are kept in order. -/
  capabilities_set : capabilities ≠ [] ∧ Ascending capabilities
  /-- A cost is not negative. -/
  cost_nonneg : ∀ cost ∈ expectedTotalCostUsd, 0 ≤ cost
  /-- A latency is not negative. -/
  latency_nonneg : 0 ≤ expectedLatencyMs
  /-- A utility lies between 0 and 1. -/
  utility_range : 0 ≤ verifiedUtilityLowerBound ∧ verifiedUtilityLowerBound ≤ 1

namespace PlanningCandidate

/-- `PlanningCandidate.to_dict`. -/
def toDict (sha : Sha256) (candidate : PlanningCandidate) : Json :=
  .obj [("model_subject_id", .hex candidate.modelSubjectId),
    ("identity_status", .str candidate.identityStatus.value),
    ("provider_id", .str candidate.providerId), ("route_id", .hex candidate.routeId),
    ("parameter_profile_digest", .hex candidate.parameterProfileDigest),
    ("qualification_key", .hex (candidate.qualificationKey.digest sha)),
    ("qualification_state", .str candidate.qualificationState.value),
    ("qualification_evidence_set_digest", .hex candidate.qualificationEvidenceSetDigest),
    ("approved_privacy", .strs (candidate.approvedPrivacy.map (·.value))),
    ("capabilities", .strs candidate.capabilities),
    ("verifier_graph_digest", .hex candidate.verifierGraphDigest),
    ("route_allowlisted", .bool candidate.routeAllowlisted),
    ("available", .bool candidate.available),
    ("expected_total_cost_usd", .optNum candidate.expectedTotalCostUsd),
    ("expected_latency_ms", .num candidate.expectedLatencyMs),
    ("verified_utility_lower_bound", .num candidate.verifiedUtilityLowerBound),
    ("evidence_freshness_epoch", .int candidate.evidenceFreshnessEpoch),
    ("reason_evidence_digest", .hex candidate.reasonEvidenceDigest)]

/-- `PlanningCandidate.candidate_id`. -/
def candidateId (sha : Sha256) (candidate : PlanningCandidate) : Digest :=
  sha.sha256Id "planning_candidate_v1" (candidate.toDict sha)

end PlanningCandidate

/-- `PlanningInput`. The operator policy's snapshot identifier is that of its profile. -/
structure PlanningInput where
  /-- The task. -/
  taskDigest : Digest
  /-- The role to fill. -/
  requiredRoleDigest : Digest
  /-- The class of its context. -/
  contextClass : String
  /-- What the model must be able to do. -/
  requiredCapabilities : List String
  /-- How private the task is. -/
  privacy : PrivacyLevel
  /-- What the task may cost. -/
  maxCostUsd : ℚ
  /-- How fast it should be done. -/
  latencyObjectiveMs : ℚ
  /-- The capsules it reads. -/
  contextCapsuleIds : List Digest
  /-- The policy it is planned under. -/
  operatorPolicy : OperatorPolicyProfile
  /-- The qualifications. -/
  qualificationSnapshotId : Digest
  /-- The routes. -/
  routeSnapshotId : Digest
  /-- The availabilities. -/
  availabilitySnapshotId : Digest
  /-- The prices. -/
  pricingSnapshotId : Digest
  /-- The evidence. -/
  evidenceSnapshotIds : List Digest
  /-- The topologies. -/
  topologyRegistryDigest : Digest
  /-- Which planner is asked. -/
  plannerVersion : String
  /-- The shape of the plan. -/
  topologyId : TopologyId
  /-- The revision to plan. -/
  planRevision : Nat
  /-- When it is planned. -/
  plannedAt : Timestamp
  /-- The texts are bounded identifiers. -/
  identifiers : isIdentifier contextClass ∧ isIdentifier plannerVersion
  /-- There is a capability, and they are kept in order. -/
  capabilities_set : requiredCapabilities ≠ [] ∧ Ascending requiredCapabilities
  /-- A cost is not negative. -/
  cost_nonneg : 0 ≤ maxCostUsd
  /-- A latency is not negative. -/
  latency_nonneg : 0 ≤ latencyObjectiveMs
  /-- There is a capsule, and they are kept in order. -/
  capsules_set : contextCapsuleIds ≠ [] ∧ Ascending contextCapsuleIds
  /-- There is evidence, and it is kept in order. -/
  evidence_set : evidenceSnapshotIds ≠ [] ∧ Ascending evidenceSnapshotIds
  /-- Revisions count from 1. -/
  revision_positive : 1 ≤ planRevision

/-- `PlanningState`: what is known when a plan is made. -/
structure PlanningState (sha : Sha256) where
  /-- The slot to fill. -/
  roleSlot : RoleSlot
  /-- What verifies its output. -/
  verifierGraph : VerifierGraph
  /-- The capsules, by identifier. -/
  contextCapsules : List ContextCapsule
  /-- The candidates, by route. -/
  candidates : List PlanningCandidate
  /-- The slot names the graph. -/
  graph_matches : roleSlot.verifierGraphDigest = verifierGraph.graphDigest sha
  /-- There is a capsule, and they are kept in order. -/
  capsules_set : contextCapsules ≠ [] ∧ Ascending (contextCapsules.map (·.capsuleId sha))
  /-- No two candidates share a route, and they are kept in order. -/
  candidates_ascending : Ascending (candidates.map (·.routeId))

/-- `EligibilityDecision`. -/
structure EligibilityDecision where
  /-- The candidate. -/
  candidateId : Digest
  /-- Whether it may be bound. -/
  allowed : Bool
  /-- Why not. -/
  reasons : List ExclusionReason

/-- A `PlanningError`. -/
def planningError (message : String) : MacrError := .other s!"PlanningError: {message}"

namespace DynamicCoordinationPlanner

variable (sha : Sha256)

/-- A reason that a condition gives. -/
def reasonIf (condition : Prop) [Decidable condition] (reason : ExclusionReason) :
    List ExclusionReason :=
  if condition then [reason] else []

/-- The loop of `_eligibility` over the capsules, which ends at the first that denies. -/
def capsuleReasons (input : PlanningInput) (candidate : PlanningCandidate) :
    List ContextCapsule → List ExclusionReason
  | [] => []
  | capsule :: rest =>
    reasonIf (capsule.dataClassification ∉ candidate.approvedPrivacy) .privacyDenied ++
      reasonIf (∃ expiresAt ∈ capsule.expiresAt, expiresAt ≤ input.plannedAt)
        .contextCapsuleExpired ++
      match capsule.assertAllowed input.requiredRoleDigest candidate.routeId with
      | .error _ => [.contextCapsuleDenied]
      | .ok _ => capsuleReasons input candidate rest

/-- What the budget says against a candidate. -/
def budgetReasons (input : PlanningInput) (candidate : PlanningCandidate) :
    List ExclusionReason :=
  match candidate.expectedTotalCostUsd with
  | none => [.budgetUnassessable]
  | some cost =>
    reasonIf (input.operatorPolicy.budgetMode = .enforce ∧ input.maxCostUsd < cost) .budgetDenied

/-- The reasons `_eligibility` collects, in its order and with repetitions. -/
def reasons (input : PlanningInput) (state : PlanningState sha) (candidate : PlanningCandidate) :
    List ExclusionReason :=
  reasonIf (candidate.identityStatus ∉ [IdentityStatus.resolved, .claimed]) .identityUnresolved ++
    reasonIf (candidate.qualificationKey.roleDigest ≠ input.requiredRoleDigest) .roleMismatch ++
    reasonIf (candidate.qualificationKey.contextClass ≠ input.contextClass)
      .contextClassMismatch ++
    reasonIf (candidate.qualificationState ≠ .qualified) .qualificationNotCurrent ++
    reasonIf (candidate.qualificationEvidenceSetDigest ∉ input.evidenceSnapshotIds)
      .qualificationSnapshotMismatch ++
    reasonIf (input.privacy ∉ candidate.approvedPrivacy) .privacyDenied ++
    reasonIf (¬input.requiredCapabilities ⊆ candidate.capabilities) .capabilityMissing ++
    reasonIf (candidate.verifierGraphDigest ≠ state.verifierGraph.graphDigest sha)
      .verifierUnavailable ++
    capsuleReasons input candidate state.contextCapsules ++
    reasonIf (candidate.routeAllowlisted = false) .routeNotAllowlisted ++
    reasonIf (candidate.available = false) .providerUnavailable ++
    budgetReasons input candidate

/-- `_eligibility`: every gate a candidate fails, each reason once. -/
def eligibility (input : PlanningInput) (state : PlanningState sha)
    (candidate : PlanningCandidate) : EligibilityDecision :=
  let collected := (reasons sha input state candidate).eraseDups
  ⟨candidate.candidateId sha, collected.isEmpty, collected⟩

/-- The tuple of `_rank_key`: higher utility, lower cost, lower latency, fresher evidence and the
lower route come first. -/
abbrev RankKey := ℚ ×ₗ ℚ ×ₗ ℚ ×ₗ ℤ ×ₗ Nat

/-- The ranking of a candidate whose cost is known. -/
def rank (candidate : PlanningCandidate) (cost : ℚ) : RankKey :=
  toLex (-candidate.verifiedUtilityLowerBound, toLex (cost, toLex (candidate.expectedLatencyMs,
    toLex (-(candidate.evidenceFreshnessEpoch : ℤ), candidate.routeId))))

/-- `_rank_key`. -/
def rankKey (candidate : PlanningCandidate) : Except MacrError RankKey := do
  let cost ← require candidate.expectedTotalCostUsd
    (planningError "eligible candidate cost is unavailable")
  return rank candidate cost

/-- `sorted(candidates, key=_rank_key)`. -/
def ranked (candidates : List PlanningCandidate) : Except MacrError (List PlanningCandidate) := do
  let keyed ← candidates.mapM (fun candidate => do return (← rankKey candidate, candidate))
  return (keyed.insertionSort (fun left right => left.1 ≤ right.1)).map Prod.snd

/-- The record of a candidate whose cost is known. -/
def recordOf (candidate : PlanningCandidate) (cost : ℚ)
    (known : candidate.expectedTotalCostUsd = some cost) : EligibleCandidate where
  modelSubjectId := candidate.modelSubjectId
  routeId := candidate.routeId
  qualificationKey := candidate.qualificationKey.digest sha
  verifiedUtilityLowerBound := candidate.verifiedUtilityLowerBound
  expectedTotalCostUsd := cost
  expectedLatencyMs := candidate.expectedLatencyMs
  evidenceFreshnessEpoch := candidate.evidenceFreshnessEpoch
  utility_range := candidate.utility_range
  cost_nonneg := candidate.cost_nonneg cost known
  latency_nonneg := candidate.latency_nonneg

/-- `_eligible_record`. -/
def eligibleRecord (candidate : PlanningCandidate) : Except MacrError EligibleCandidate :=
  match known : candidate.expectedTotalCostUsd with
  | some cost => .ok (recordOf sha candidate cost known)
  | none => .error (planningError "eligible candidate cost is unavailable")

/-- `_binding`. -/
def binding (state : PlanningState sha) (candidate : PlanningCandidate) : ModelBinding where
  slotId := state.roleSlot.slotId
  modelSubjectId := candidate.modelSubjectId
  routeId := candidate.routeId
  qualificationKey := candidate.qualificationKey.digest sha
  parameterProfileDigest := candidate.parameterProfileDigest
  contextCapsuleIds := state.roleSlot.contextCapsuleIds
  slot_valid := state.roleSlot.slot_valid
  capsules_required := state.roleSlot.capsules_required
  capsules_ascending := state.roleSlot.sets_ascending.2

/-- `_budget_evaluation`. -/
def budgetEvaluation (input : PlanningInput) (candidate : PlanningCandidate) (cost : ℚ)
    (known : candidate.expectedTotalCostUsd = some cost) : BudgetEvaluation where
  budgetMode := input.operatorPolicy.budgetMode
  estimatedTotalCostUsd := cost
  warningThresholdUsd := some input.maxCostUsd
  warningTriggered := input.operatorPolicy.budgetMode = .warn ∧ input.maxCostUsd < cost
  cost_nonneg := candidate.cost_nonneg cost known
  threshold_nonneg := fun threshold given => by
    cases given
    exact input.cost_nonneg

/-- The record of a candidate that a gate excludes. -/
def excludedRecord (candidate : PlanningCandidate) (reason : ExclusionReason) :
    ExcludedCandidate :=
  ⟨candidate.modelSubjectId, candidate.routeId, reason.value, candidate.reasonEvidenceDigest,
    reason.value_valid⟩

/-- `_TIE_BREAK_RULES`. -/
def tieBreakRules : List String :=
  ["verified_utility_desc", "total_cost_asc", "latency_asc", "freshness_desc", "route_id_asc"]

/-- `_validate_input_state`. -/
def validateInputState (input : PlanningInput) (state : PlanningState sha) :
    Except MacrError Unit := do
  raiseIf (state.roleSlot.roleDefinitionDigest ≠ input.requiredRoleDigest)
    (planningError "role slot does not match required role")
  raiseIf (state.contextCapsules.map (·.capsuleId sha) ≠ input.contextCapsuleIds)
    (planningError "context capsule snapshot does not match input")
  raiseIf (state.roleSlot.contextCapsuleIds ≠ input.contextCapsuleIds)
    (planningError "role slot context capsules do not match input")

/-- The candidates of a state that pass every gate. -/
def allowed (input : PlanningInput) (state : PlanningState sha) : List PlanningCandidate :=
  state.candidates.filter (fun candidate => (eligibility sha input state candidate).allowed)

/-- The records of the candidates of a state that a gate excludes, with their first reasons. -/
def excluded (input : PlanningInput) (state : PlanningState sha) : List ExcludedCandidate :=
  state.candidates.filterMap (fun candidate =>
    (eligibility sha input state candidate).reasons.head?.map (excludedRecord candidate))

/-- `plan`, under the identifier the factory gives. -/
def plan (planId : Uuid) (input : PlanningInput) (state : PlanningState sha) :
    Except MacrError CoordinationPlan := do
  validateInputState sha input state
  raiseIf (allowed sha input state = [])
    (planningError "no eligible binding satisfies hard policy gates")
  let ranked ← ranked (allowed sha input state)
  let chosen ← require ranked.head? .assertionError
  let eligible ← ranked.mapM (eligibleRecord sha)
  match known : chosen.expectedTotalCostUsd with
  | none => .error .assertionError
  | some cost =>
    CoordinationPlan.create sha {
      planId := planId
      planRevision := input.planRevision
      plannedAt := input.plannedAt
      plannerVersion := input.plannerVersion
      topologyId := input.topologyId
      executionMode := .shadowOnly
      taskDigest := input.taskDigest
      roles := [state.roleSlot]
      bindings := [binding sha state chosen]
      contextCapsuleIds := input.contextCapsuleIds
      verifierGraph := state.verifierGraph
      policySnapshotIds := [input.operatorPolicy.snapshotId sha]
      evidenceSnapshotIds := input.evidenceSnapshotIds
      qualificationSnapshotId := input.qualificationSnapshotId
      routeSnapshotId := input.routeSnapshotId
      availabilitySnapshotId := input.availabilitySnapshotId
      pricingSnapshotId := input.pricingSnapshotId
      topologyRegistryDigest := input.topologyRegistryDigest
      eligibleCandidates := eligible
      excludedCandidates := excluded sha input state
      budgetEvaluation := budgetEvaluation input chosen cost known
      fallbackRules := []
      tieBreakRules := tieBreakRules }

/-- The evidence of a failed binding. -/
def failureEvidence (plan : CoordinationPlan) (prior : ModelBinding) (reason : String) : Digest :=
  sha.sha256Id "plan_fallback_failure_v1" (.obj [
    ("prior_plan_digest", .hex (plan.planDigest sha)), ("from_route_id", .hex prior.routeId),
    ("reason_code", .str reason), ("next_revision", .int (plan.planRevision + 1))])

/-- The availability snapshot after a failure. -/
def availabilityRevision (plan : CoordinationPlan) (evidence : Digest) : Digest :=
  sha.sha256Id "availability_revision_v1" (.obj [
    ("previous_snapshot_id", .hex plan.availabilitySnapshotId),
    ("failure_evidence_digest", .hex evidence)])

/-- The record of a binding that failed. -/
def failureRecord (prior : ModelBinding) (evidence : Digest) : ExcludedCandidate :=
  ⟨prior.modelSubjectId, prior.routeId, ExclusionReason.providerUnavailable.value, evidence,
    ExclusionReason.value_valid _⟩

/-- The budget evaluation of a revision: the mode and threshold of the old plan at a new cost. -/
def revisedBudget (old : BudgetEvaluation) (candidate : PlanningCandidate) (cost : ℚ)
    (known : candidate.expectedTotalCostUsd = some cost) : BudgetEvaluation where
  budgetMode := old.budgetMode
  estimatedTotalCostUsd := cost
  warningThresholdUsd := old.warningThresholdUsd
  warningTriggered := old.budgetMode = .warn ∧ ∃ threshold ∈ old.warningThresholdUsd,
    threshold < cost
  cost_nonneg := candidate.cost_nonneg cost known
  threshold_nonneg := old.threshold_nonneg

/-- `revise_for_failure`. -/
def reviseForFailure (plan : CoordinationPlan) (failureReason : String)
    (state : PlanningState sha) : Except MacrError CoordinationPlan :=
  if reasonValid : isIdentifier failureReason then do
    raiseIf (plan.bindings.length ≠ 1)
      (planningError "fallback revision currently requires one binding")
    let prior ← require plan.bindings.head? .assertionError
    let eligible := plan.eligibleCandidates.filter (·.routeId ≠ prior.routeId)
    let remaining := state.candidates.filter
      (fun candidate => candidate.routeId ∈ eligible.map (·.routeId))
    raiseIf (remaining = []) (planningError "no eligible fallback binding remains")
    let ranked ← ranked remaining
    let chosen ← require ranked.head? .assertionError
    let evidence := failureEvidence sha plan prior failureReason
    match known : chosen.expectedTotalCostUsd with
    | none => .error (planningError "fallback cost cannot be evaluated")
    | some cost =>
      CoordinationPlan.create sha { plan with
        planRevision := plan.planRevision + 1
        executionMode := .shadowOnly
        bindings := [binding sha state chosen]
        evidenceSnapshotIds := plan.evidenceSnapshotIds ++ [evidence]
        availabilitySnapshotId := availabilityRevision sha plan evidence
        eligibleCandidates := eligible
        excludedCandidates := plan.excludedCandidates ++ [failureRecord prior evidence]
        budgetEvaluation := revisedBudget plan.budgetEvaluation chosen cost known
        fallbackRules := plan.fallbackRules ++
          [⟨failureReason, prior.routeId, some chosen.routeId, reasonValid⟩] }
  else .error (.valueError "failure_reason must be a bounded identifier")

/-- One revision of a chain: why the last binding failed, and what is known then. -/
structure Fallback where
  /-- Why the last binding failed. -/
  failureReason : String
  /-- What is known then. -/
  state : PlanningState sha

/-- The revisions of a plan, one after the other. -/
def revisions (plan : CoordinationPlan) :
    List (Fallback sha) → Except MacrError (List CoordinationPlan)
  | [] => return []
  | fallback :: rest => do
    let revised ← reviseForFailure sha plan fallback.failureReason fallback.state
    let later ← revisions revised rest
    return revised :: later

/-- A plan and its revisions. -/
def chain (planId : Uuid) (input : PlanningInput) (first : PlanningState sha)
    (fallbacks : List (Fallback sha)) : Except MacrError (List CoordinationPlan) := do
  let planned ← plan sha planId input first
  let later ← revisions sha planned fallbacks
  return planned :: later

end DynamicCoordinationPlanner

end Macr
