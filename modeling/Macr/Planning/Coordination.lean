import Macr.Planning.Contracts
import Macr.Lib.Sorting
import Mathlib.Data.String.Basic

/-!
# Coordination plans

A plan binds every required role slot to one candidate route and records the candidates it found
eligible and those it excluded. `create` sorts the collections of a plan and refuses one whose
bindings, roles, capsules and records contradict each other.
-/

namespace Macr

open Lib

/-- `TopologyId`. -/
inductive TopologyId where
  | t0DirectVerified
  | t1FanoutVerified
  | t2SupervisorWorker
  | t3CrossfilePairExperimental
deriving DecidableEq, Repr

/-- The text of a topology. -/
def TopologyId.value : TopologyId → String
  | .t0DirectVerified => "T0_DIRECT_VERIFIED"
  | .t1FanoutVerified => "T1_FANOUT_VERIFIED"
  | .t2SupervisorWorker => "T2_SUPERVISOR_WORKER"
  | .t3CrossfilePairExperimental => "T3_CROSSFILE_PAIR_EXPERIMENTAL"

/-- `PlanExecutionMode`. -/
inductive PlanExecutionMode where
  | shadowOnly
  | executionEligible
deriving DecidableEq, Repr

/-- The text of an execution mode. -/
def PlanExecutionMode.value : PlanExecutionMode → String
  | .shadowOnly => "shadow_only"
  | .executionEligible => "execution_eligible"

/-- `RoleSlot`. -/
structure RoleSlot where
  /-- Its name in the plan. -/
  slotId : String
  /-- The role to fill. -/
  roleDefinitionDigest : Digest
  /-- What the role may do. -/
  authority : List String
  /-- The capsules it reads. -/
  contextCapsuleIds : List Digest
  /-- What verifies its output. -/
  verifierGraphDigest : Digest
  /-- Whether the plan must fill it. -/
  required : Bool
  /-- The name is a bounded identifier. -/
  slot_valid : isIdentifier slotId
  /-- There is an authority. -/
  authority_required : authority ≠ []
  /-- Authorities are bounded identifiers. -/
  authority_valid : ∀ item ∈ authority, isIdentifier item
  /-- There is a capsule. -/
  capsules_required : contextCapsuleIds ≠ []
  /-- The sets are kept in order. -/
  sets_ascending : Ascending authority ∧ Ascending contextCapsuleIds

/-- `RoleSlot.to_dict`. -/
def RoleSlot.toDict (slot : RoleSlot) : Json :=
  .obj [("slot_id", .str slot.slotId),
    ("role_definition_digest", .hex slot.roleDefinitionDigest),
    ("authority", .strs slot.authority),
    ("context_capsule_ids", .hexes slot.contextCapsuleIds),
    ("verifier_graph_digest", .hex slot.verifierGraphDigest),
    ("required", .bool slot.required)]

/-- `ModelBinding`. -/
structure ModelBinding where
  /-- The slot it fills. -/
  slotId : String
  /-- The model. -/
  modelSubjectId : Digest
  /-- The route to the model. -/
  routeId : Digest
  /-- What the model is qualified for. -/
  qualificationKey : Digest
  /-- The parameters it is called with. -/
  parameterProfileDigest : Digest
  /-- The capsules it reads. -/
  contextCapsuleIds : List Digest
  /-- The slot is a bounded identifier. -/
  slot_valid : isIdentifier slotId
  /-- There is a capsule. -/
  capsules_required : contextCapsuleIds ≠ []
  /-- The set is kept in order. -/
  capsules_ascending : Ascending contextCapsuleIds

/-- `ModelBinding.to_dict`. -/
def ModelBinding.toDict (binding : ModelBinding) : Json :=
  .obj [("slot_id", .str binding.slotId), ("model_subject_id", .hex binding.modelSubjectId),
    ("route_id", .hex binding.routeId), ("qualification_key", .hex binding.qualificationKey),
    ("parameter_profile_digest", .hex binding.parameterProfileDigest),
    ("context_capsule_ids", .hexes binding.contextCapsuleIds)]

/-- `EligibleCandidate`. -/
structure EligibleCandidate where
  /-- The model. -/
  modelSubjectId : Digest
  /-- The route to the model. -/
  routeId : Digest
  /-- What the model is qualified for. -/
  qualificationKey : Digest
  /-- How useful it was found to be. -/
  verifiedUtilityLowerBound : ℚ
  /-- What the call is expected to cost. -/
  expectedTotalCostUsd : ℚ
  /-- How long the call is expected to take. -/
  expectedLatencyMs : ℚ
  /-- How recent the evidence is. -/
  evidenceFreshnessEpoch : Nat
  /-- A utility lies between 0 and 1. -/
  utility_range : 0 ≤ verifiedUtilityLowerBound ∧ verifiedUtilityLowerBound ≤ 1
  /-- A cost is not negative. -/
  cost_nonneg : 0 ≤ expectedTotalCostUsd
  /-- A latency is not negative. -/
  latency_nonneg : 0 ≤ expectedLatencyMs

/-- `EligibleCandidate.to_dict`. -/
def EligibleCandidate.toDict (record : EligibleCandidate) : Json :=
  .obj [("model_subject_id", .hex record.modelSubjectId), ("route_id", .hex record.routeId),
    ("qualification_key", .hex record.qualificationKey),
    ("verified_utility_lower_bound", .num record.verifiedUtilityLowerBound),
    ("expected_total_cost_usd", .num record.expectedTotalCostUsd),
    ("expected_latency_ms", .num record.expectedLatencyMs),
    ("evidence_freshness_epoch", .int record.evidenceFreshnessEpoch)]

/-- `ExcludedCandidate`. -/
structure ExcludedCandidate where
  /-- The model. -/
  modelSubjectId : Digest
  /-- The route to the model. -/
  routeId : Digest
  /-- Why it was excluded. -/
  reasonCode : String
  /-- The evidence for the reason. -/
  reasonEvidenceDigest : Digest
  /-- The reason is a bounded identifier. -/
  reason_valid : isIdentifier reasonCode
deriving DecidableEq

/-- `ExcludedCandidate.to_dict`. -/
def ExcludedCandidate.toDict (record : ExcludedCandidate) : Json :=
  .obj [("model_subject_id", .hex record.modelSubjectId), ("route_id", .hex record.routeId),
    ("reason_code", .str record.reasonCode),
    ("reason_evidence_digest", .hex record.reasonEvidenceDigest)]

/-- `BudgetEvaluation`. -/
structure BudgetEvaluation where
  /-- What a plan over budget leads to. -/
  budgetMode : BudgetMode
  /-- What the bound candidate is expected to cost. -/
  estimatedTotalCostUsd : ℚ
  /-- From which cost on to warn. -/
  warningThresholdUsd : Option ℚ
  /-- Whether the cost warns. -/
  warningTriggered : Bool
  /-- A cost is not negative. -/
  cost_nonneg : 0 ≤ estimatedTotalCostUsd
  /-- A threshold is not negative. -/
  threshold_nonneg : ∀ threshold ∈ warningThresholdUsd, 0 ≤ threshold

/-- `BudgetEvaluation.to_dict`. -/
def BudgetEvaluation.toDict (budget : BudgetEvaluation) : Json :=
  .obj [("budget_mode", .str budget.budgetMode.value),
    ("estimated_total_cost_usd", .num budget.estimatedTotalCostUsd),
    ("warning_threshold_usd", .optNum budget.warningThresholdUsd),
    ("warning_triggered", .bool budget.warningTriggered)]

/-- `FallbackRule`. -/
structure FallbackRule where
  /-- Why the binding was replaced. -/
  reasonCode : String
  /-- The route that failed. -/
  fromRouteId : Digest
  /-- The route bound in its place. -/
  toRouteId : Option Digest
  /-- The reason is a bounded identifier. -/
  reason_valid : isIdentifier reasonCode
deriving DecidableEq

/-- `FallbackRule.to_dict`. -/
def FallbackRule.toDict (rule : FallbackRule) : Json :=
  .obj [("reason_code", .str rule.reasonCode), ("from_route_id", .hex rule.fromRouteId),
    ("to_route_id", .optHex rule.toRouteId)]

/-- `CoordinationPlan`. Only the host accepts a plan's outcome. -/
structure CoordinationPlan where
  /-- Its identifier. -/
  planId : Uuid
  /-- How often it was revised, counted from 1. -/
  planRevision : Nat
  /-- When it was planned. -/
  plannedAt : Timestamp
  /-- Which planner made it. -/
  plannerVersion : String
  /-- Its shape. -/
  topologyId : TopologyId
  /-- Whether it may be executed. -/
  executionMode : PlanExecutionMode
  /-- The task. -/
  taskDigest : Digest
  /-- The slots. -/
  roles : List RoleSlot
  /-- Who fills them. -/
  bindings : List ModelBinding
  /-- The capsules it uses. -/
  contextCapsuleIds : List Digest
  /-- What verifies its outcome. -/
  verifierGraph : VerifierGraph
  /-- The policies it was planned under. -/
  policySnapshotIds : List Digest
  /-- The evidence it was planned from. -/
  evidenceSnapshotIds : List Digest
  /-- The qualifications. -/
  qualificationSnapshotId : Digest
  /-- The routes. -/
  routeSnapshotId : Digest
  /-- The availabilities. -/
  availabilitySnapshotId : Digest
  /-- The prices. -/
  pricingSnapshotId : Digest
  /-- The topologies. -/
  topologyRegistryDigest : Digest
  /-- The candidates that may be bound. -/
  eligibleCandidates : List EligibleCandidate
  /-- The candidates that may not. -/
  excludedCandidates : List ExcludedCandidate
  /-- What the binding costs. -/
  budgetEvaluation : BudgetEvaluation
  /-- The replacements made so far. -/
  fallbackRules : List FallbackRule
  /-- How equal candidates were told apart. -/
  tieBreakRules : List String

/-- `_digests`. -/
def digests (name : String) (required : Bool) (values : List Digest) :
    Except MacrError (List Digest) := do
  raiseIf (required ∧ values = []) (.valueError s!"{name} must not be empty")
  raiseIf (¬values.Nodup) (.valueError s!"{name} must not contain duplicates")
  return values.insertionSort (· ≤ ·)

/-- `_ordered_identifiers`. -/
def orderedIdentifiers (name : String) (required : Bool) (values : List String) :
    Except MacrError (List String) := do
  raiseIf (values.any (fun value => !isIdentifier value))
    (.valueError s!"{name} item must be a bounded identifier")
  raiseIf (required ∧ values = []) (.valueError s!"{name} must not be empty")
  raiseIf (¬values.Nodup) (.valueError s!"{name} must not contain duplicates")
  return values

namespace CoordinationPlan

/-- `sorted(roles, key=slot_id)`. -/
def sortRoles (roles : List RoleSlot) : List RoleSlot :=
  roles.insertionSort (fun left right => left.slotId ≤ right.slotId)

/-- `sorted(bindings, key=(slot_id, route_id))`. -/
def sortBindings (bindings : List ModelBinding) : List ModelBinding :=
  bindings.insertionSort
    (ByKey (·.slotId) (fun left right => left.routeId ≤ right.routeId))

/-- `sorted(eligible, key=(route_id, qualification_key))`. -/
def sortEligible (records : List EligibleCandidate) : List EligibleCandidate :=
  records.insertionSort
    (ByKey (·.routeId) (fun left right => left.qualificationKey ≤ right.qualificationKey))

/-- `sorted(excluded, key=(route_id, reason_code))`. -/
def sortExcluded (records : List ExcludedCandidate) : List ExcludedCandidate :=
  records.insertionSort
    (ByKey (·.routeId) (fun left right => left.reasonCode ≤ right.reasonCode))

/-- The checks of the slots and of who fills them, on sorted lists. -/
def checkSlots (roles : List RoleSlot) (bindings : List ModelBinding) :
    Except MacrError Unit := do
  raiseIf (roles = []) (.valueError "roles must contain RoleSlot values")
  raiseIf (¬(roles.map (·.slotId)).Nodup) (.valueError "roles contain duplicate slot")
  raiseIf (bindings = []) (.valueError "bindings must contain ModelBinding values")
  raiseIf (¬(bindings.map (·.slotId)).Nodup) (.valueError "bindings contain duplicate slot")
  raiseIf ((∃ binding ∈ bindings, binding.slotId ∉ roles.map (·.slotId)) ∨
      ∃ role ∈ roles, role.required ∧ role.slotId ∉ bindings.map (·.slotId))
    (.valueError "binding slot does not match required role slot")

/-- The checks of the records against the bindings. -/
def checkRecords (bindings : List ModelBinding) (eligible : List EligibleCandidate)
    (excluded : List ExcludedCandidate) : Except MacrError Unit := do
  raiseIf (∃ binding ∈ bindings, binding.routeId ∉ eligible.map (·.routeId))
    (.valueError "chosen binding route is not an eligible candidate")
  raiseIf (∃ record ∈ eligible, record.routeId ∈ excluded.map (·.routeId))
    (.valueError "candidate route cannot be eligible and excluded")

/-- `CoordinationPlan.create`: the plan with its collections in order, or the first check that
its values fail. -/
def create (sha : Sha256) (values : CoordinationPlan) : Except MacrError CoordinationPlan := do
  raiseIf (values.planRevision < 1) (.valueError "plan_revision must be a positive integer")
  raiseIf (¬isIdentifier values.plannerVersion)
    (.valueError "planner_version must be a bounded identifier")
  let roles := sortRoles values.roles
  let bindings := sortBindings values.bindings
  checkSlots roles bindings
  let capsules ← digests "context_capsule_ids" true values.contextCapsuleIds
  raiseIf ((∃ role ∈ roles, ∃ capsule ∈ role.contextCapsuleIds, capsule ∉ capsules) ∨
      ∃ binding ∈ bindings, ∃ capsule ∈ binding.contextCapsuleIds, capsule ∉ capsules)
    (.valueError "role or binding capsule is not in plan capsules")
  raiseIf (∃ role ∈ roles, role.verifierGraphDigest ≠ values.verifierGraph.graphDigest sha)
    (.valueError "role verifier graph does not match plan verifier graph")
  let policies ← digests "policy_snapshot_ids" true values.policySnapshotIds
  let evidence ← digests "evidence_snapshot_ids" true values.evidenceSnapshotIds
  let eligible := sortEligible values.eligibleCandidates
  let excluded := sortExcluded values.excludedCandidates
  checkRecords bindings eligible excluded
  let tieBreaks ← orderedIdentifiers "tie_break_rules" true values.tieBreakRules
  raiseIf (values.topologyId = .t0DirectVerified ∧ (roles.length ≠ 1 ∨ bindings.length ≠ 1))
    (.valueError "T0 requires exactly one role and one binding")
  return { values with
    roles := roles
    bindings := bindings
    contextCapsuleIds := capsules
    policySnapshotIds := policies
    evidenceSnapshotIds := evidence
    eligibleCandidates := eligible
    excludedCandidates := excluded
    tieBreakRules := tieBreaks }

/-- `CoordinationPlan.canonical_plan`. -/
def canonicalPlan (sha : Sha256) (plan : CoordinationPlan) : Json :=
  .obj [("plan_revision", .int plan.planRevision), ("planned_at", .time plan.plannedAt),
    ("planner_version", .str plan.plannerVersion),
    ("topology_id", .str plan.topologyId.value),
    ("execution_mode", .str plan.executionMode.value),
    ("task_digest", .hex plan.taskDigest),
    ("roles", .arr (plan.roles.map (·.toDict))),
    ("bindings", .arr (plan.bindings.map (·.toDict))),
    ("context_capsule_ids", .hexes plan.contextCapsuleIds),
    ("verifier_graph", plan.verifierGraph.toDict sha),
    ("policy_snapshot_ids", .hexes plan.policySnapshotIds),
    ("evidence_snapshot_ids", .hexes plan.evidenceSnapshotIds),
    ("qualification_snapshot_id", .hex plan.qualificationSnapshotId),
    ("route_snapshot_id", .hex plan.routeSnapshotId),
    ("availability_snapshot_id", .hex plan.availabilitySnapshotId),
    ("pricing_snapshot_id", .hex plan.pricingSnapshotId),
    ("topology_registry_digest", .hex plan.topologyRegistryDigest),
    ("eligible_candidates", .arr (plan.eligibleCandidates.map (·.toDict))),
    ("excluded_candidates", .arr (plan.excludedCandidates.map (·.toDict))),
    ("budget_evaluation", plan.budgetEvaluation.toDict),
    ("fallback_rules", .arr (plan.fallbackRules.map (·.toDict))),
    ("tie_break_rules", .strs plan.tieBreakRules),
    ("acceptance_authority", .str "host_only")]

/-- `CoordinationPlan.plan_digest`. -/
def planDigest (sha : Sha256) (plan : CoordinationPlan) : Digest :=
  sha.sha256Id "coordination_plan_v1" (plan.canonicalPlan sha)

end CoordinationPlan

end Macr
