import Macr.Authority

/-!
# Provider admission contracts

The immutable values an admission kernel is given: policies, the bindings that name one control
change each, requests and permits. A policy carries the checks of its constructor as fields, so
an inconsistent policy cannot be built. Every value is identified by the digest of its document.
-/

namespace Macr

/-- `uncertain_dispatch_scope`. -/
inductive UncertainDispatchScope where
  | global
  | capacityReservation
deriving DecidableEq, Repr

/-- `AdmissionDeploymentMode`. -/
inductive AdmissionDeploymentMode where
  | canonicalRuntime
  | offlineTest
deriving DecidableEq, Repr

/-- The stored text of a deployment mode. -/
def AdmissionDeploymentMode.value : AdmissionDeploymentMode → String
  | .canonicalRuntime => "canonical_runtime"
  | .offlineTest => "offline_test"

/-- `_MAX_PROVIDER_CAPACITY`. -/
def maxProviderCapacity : Nat := 32

/-- The largest policy revision. -/
def maxPolicyRevision : Nat := 1000000

/-- `ProviderAdmissionPolicy`. -/
@[ext]
structure ProviderAdmissionPolicy where
  /-- The provider the policy is for. -/
  providerId : String
  /-- The policy's revision. -/
  revision : Nat
  /-- The weight of one request. -/
  capacityUnit : Nat
  /-- The target in force after installation. -/
  effectiveTarget : Nat
  /-- The target the provider may be raised to. -/
  candidateTarget : Nat
  /-- The target no activation exceeds. -/
  hardMax : Nat
  /-- The units one project may hold. -/
  perProjectCap : Nat
  /-- Who set the policy. -/
  policySource : String
  /-- What an uncertain dispatch stops. -/
  uncertainDispatchScope : UncertainDispatchScope
  /-- Revisions are bounded. -/
  revision_bounded : 1 ≤ revision ∧ revision ≤ maxPolicyRevision
  /-- Weighted units are not measured. -/
  capacityUnit_one : capacityUnit = 1
  /-- Targets start at one. -/
  effectiveTarget_positive : 1 ≤ effectiveTarget
  /-- Targets are ordered. -/
  targets_ordered : effectiveTarget ≤ candidateTarget ∧ candidateTarget ≤ hardMax
  /-- The hard maximum is bounded. -/
  hardMax_bounded : hardMax ≤ maxProviderCapacity
  /-- A project holds at least one unit and at most the hard maximum. -/
  perProjectCap_bounded : 1 ≤ perProjectCap ∧ perProjectCap ≤ hardMax

instance : DecidableEq ProviderAdmissionPolicy :=
  fun _ _ => decidable_of_iff' _ ProviderAdmissionPolicy.ext_iff

/-- `ProviderAdmissionPolicy.to_dict`; the default scope is not written. -/
def ProviderAdmissionPolicy.toDict (policy : ProviderAdmissionPolicy) : Json :=
  let document : List (String × Json) :=
    [("provider_id", .str policy.providerId),
      ("revision", .int policy.revision),
      ("capacity_unit", .int policy.capacityUnit),
      ("effective_target", .int policy.effectiveTarget),
      ("candidate_target", .int policy.candidateTarget),
      ("hard_max", .int policy.hardMax),
      ("per_project_cap", .int policy.perProjectCap),
      ("policy_source", .str policy.policySource)]
  match policy.uncertainDispatchScope with
  | .global => .obj document
  | .capacityReservation =>
    .obj (document ++ [("uncertain_dispatch_scope", .str "capacity_reservation")])

/-- `ProviderAdmissionPolicy.policy_digest`. -/
def ProviderAdmissionPolicy.policyDigest (sha : Sha256) (policy : ProviderAdmissionPolicy) :
    Digest := sha.sha256Id "provider_admission_policy_v1" policy.toDict

/-- `glm_provider_admission_policy`. -/
def glmProviderAdmissionPolicy : ProviderAdmissionPolicy where
  providerId := "glm_flash_worker"
  revision := 3
  capacityUnit := 1
  effectiveTarget := 8
  candidateTarget := 16
  hardMax := 32
  perProjectCap := 8
  policySource := "built_in"
  uncertainDispatchScope := .capacityReservation
  revision_bounded := by decide
  capacityUnit_one := rfl
  effectiveTarget_positive := by decide
  targets_ordered := by decide
  hardMax_bounded := by decide
  perProjectCap_bounded := by decide

/-- `glm_provider_admission_policy_v2`, with a provider-global uncertainty stop. -/
def glmProviderAdmissionPolicyV2 : ProviderAdmissionPolicy :=
  { glmProviderAdmissionPolicy with
    revision := 2
    uncertainDispatchScope := .global
    revision_bounded := by decide }

/-- `glm_provider_admission_policy_v1`. -/
def glmProviderAdmissionPolicyV1 : ProviderAdmissionPolicy where
  providerId := "glm_flash_worker"
  revision := 1
  capacityUnit := 1
  effectiveTarget := 1
  candidateTarget := 2
  hardMax := 8
  perProjectCap := 2
  policySource := "built_in"
  uncertainDispatchScope := .global
  revision_bounded := by decide
  capacityUnit_one := rfl
  effectiveTarget_positive := Nat.one_pos
  targets_ordered := by decide
  hardMax_bounded := by decide
  perProjectCap_bounded := by decide

/-- `grok_provider_admission_policy`. -/
def grokProviderAdmissionPolicy : ProviderAdmissionPolicy :=
  { glmProviderAdmissionPolicy with
    providerId := "grok"
    revision := 2
    revision_bounded := by decide }

/-- `grok_provider_admission_policy_v1`, with a provider-global uncertainty stop. -/
def grokProviderAdmissionPolicyV1 : ProviderAdmissionPolicy :=
  { grokProviderAdmissionPolicy with
    revision := 1
    uncertainDispatchScope := .global
    revision_bounded := by decide }

/-- `ProviderAdmissionTargetBinding`. -/
structure ProviderAdmissionTargetBinding where
  /-- The provider. -/
  providerId : String
  /-- The policy the target is set under. -/
  policyDigest : Digest
  /-- The target. -/
  target : Nat
  /-- The revision of the policy. -/
  policyRevision : Nat
  /-- Targets are bounded. -/
  target_bounded : 1 ≤ target ∧ target ≤ maxProviderCapacity
  /-- Revisions are bounded. -/
  policyRevision_bounded : 1 ≤ policyRevision ∧ policyRevision ≤ maxPolicyRevision
deriving DecidableEq

/-- `ProviderAdmissionTargetBinding.binding_digest`. -/
def ProviderAdmissionTargetBinding.bindingDigest (sha : Sha256)
    (binding : ProviderAdmissionTargetBinding) : Digest :=
  sha.sha256Id "provider_admission_target_v1" (.obj
    [("provider_id", .str binding.providerId),
      ("policy_digest", .hex binding.policyDigest),
      ("target", .int binding.target),
      ("policy_revision", .int binding.policyRevision)])

/-- `ProviderAdmissionPolicyTransitionBinding`. -/
structure ProviderAdmissionPolicyTransitionBinding where
  /-- The provider. -/
  providerId : String
  /-- The policy in force. -/
  fromPolicyDigest : Digest
  /-- Its revision. -/
  fromPolicyRevision : Nat
  /-- The successor. -/
  toPolicyDigest : Digest
  /-- Its revision. -/
  toPolicyRevision : Nat
  /-- The target set under the successor. -/
  target : Nat
  /-- The snapshot of unresolved capacity the transition was reviewed against. -/
  reconciliationSnapshotDigest : Option Digest
  /-- The evidence that the unresolved capacity is isolated. -/
  reconciliationIsolationEvidenceDigest : Option Digest
  /-- Revisions advance within their bounds. -/
  revisions_ordered : 1 ≤ fromPolicyRevision ∧ fromPolicyRevision < toPolicyRevision ∧
    toPolicyRevision ≤ maxPolicyRevision
  /-- Targets are bounded. -/
  target_bounded : 1 ≤ target ∧ target ≤ maxProviderCapacity
deriving DecidableEq

/-- A document field that is written only when it has a value. -/
def optionalField (name : String) : Option Digest → List (String × Json)
  | none => []
  | some digest => [(name, .hex digest)]

/-- `ProviderAdmissionPolicyTransitionBinding.binding_digest`. -/
def ProviderAdmissionPolicyTransitionBinding.bindingDigest (sha : Sha256)
    (binding : ProviderAdmissionPolicyTransitionBinding) : Digest :=
  sha.sha256Id
    (if binding.reconciliationSnapshotDigest.isSome ∨
        binding.reconciliationIsolationEvidenceDigest.isSome then
      "provider_admission_policy_transition_v2"
    else
      "provider_admission_policy_transition_v1")
    (.obj ([("provider_id", .str binding.providerId),
      ("from_policy_digest", .hex binding.fromPolicyDigest),
      ("from_policy_revision", .int binding.fromPolicyRevision),
      ("to_policy_digest", .hex binding.toPolicyDigest),
      ("to_policy_revision", .int binding.toPolicyRevision),
      ("target", .int binding.target)] ++
      optionalField "reconciliation_snapshot_digest" binding.reconciliationSnapshotDigest ++
      optionalField "reconciliation_isolation_evidence_digest"
        binding.reconciliationIsolationEvidenceDigest))

/-- `ProviderAdmissionCircuitBinding`; its two states are always open and half open. -/
structure ProviderAdmissionCircuitBinding where
  /-- The provider. -/
  providerId : String
  /-- The policy in force. -/
  policyDigest : Digest
  /-- The revision of the policy. -/
  policyRevision : Nat
  /-- The one request the half-open slot is for. -/
  probeRequestDigest : Digest
  /-- Revisions are bounded. -/
  policyRevision_bounded : 1 ≤ policyRevision ∧ policyRevision ≤ maxPolicyRevision
deriving DecidableEq

/-- `ProviderAdmissionCircuitBinding.binding_digest`. -/
def ProviderAdmissionCircuitBinding.bindingDigest (sha : Sha256)
    (binding : ProviderAdmissionCircuitBinding) : Digest :=
  sha.sha256Id "provider_admission_circuit_v1" (.obj
    [("provider_id", .str binding.providerId),
      ("policy_digest", .hex binding.policyDigest),
      ("from_state", .str "open"),
      ("to_state", .str "half_open"),
      ("policy_revision", .int binding.policyRevision),
      ("probe_request_digest", .hex binding.probeRequestDigest)])

/-- `ProviderAdmissionRequest`. -/
structure ProviderAdmissionRequest where
  /-- The request's identifier. -/
  requestId : Uuid
  /-- The provider asked for. -/
  providerId : String
  /-- The project the request is for. -/
  projectBindingDigest : Digest
  /-- The admission lane. -/
  lane : AdmissionLane
  /-- The run the request is for. -/
  runId : Uuid
  /-- The authority it is made under. -/
  authorization : AuthorizationReference
  /-- The plane of the run. -/
  plane : String
  /-- The task type of the run. -/
  taskType : String
  /-- The task. -/
  taskDigest : Digest
  /-- The plan member, where the run is for one. -/
  memberDigest : Option Digest
  /-- The batch, where the run is for one. -/
  batchId : Option String
  /-- The provider tier binding, where one applies. -/
  providerTierBindingDigest : Option Digest
deriving DecidableEq

/-- `ProviderAdmissionRequest.to_dict`. -/
def ProviderAdmissionRequest.toDict (request : ProviderAdmissionRequest) : Json :=
  .obj [("request_id", .hex request.requestId),
    ("provider_id", .str request.providerId),
    ("project_binding_digest", .hex request.projectBindingDigest),
    ("lane", .str request.lane.value),
    ("run_id", .hex request.runId),
    ("authorization_digest", .hex request.authorization.digest),
    ("authorization_epoch", .int request.authorization.epoch),
    ("plane", .str request.plane),
    ("task_type", .str request.taskType),
    ("task_digest", .hex request.taskDigest),
    ("member_digest", .optHex request.memberDigest),
    ("batch_id", .optStr request.batchId),
    ("provider_tier_binding_digest", .optHex request.providerTierBindingDigest)]

/-- `ProviderAdmissionRequest.binding_digest`. -/
def ProviderAdmissionRequest.bindingDigest (sha : Sha256) (request : ProviderAdmissionRequest) :
    Digest := sha.sha256Id "provider_admission_request_v1" request.toDict

/-- `ProviderAdmissionPermit`; its capacity unit is always one. -/
structure ProviderAdmissionPermit where
  /-- The admitted request. -/
  requestId : Uuid
  /-- The provider. -/
  providerId : String
  /-- The project. -/
  projectBindingDigest : Digest
  /-- The admission lane. -/
  admissionLane : AdmissionLane
  /-- The run. -/
  runId : Uuid
  /-- The authority's digest. -/
  authorityDigest : Digest
  /-- The authority's epoch. -/
  authorityEpoch : Nat
  /-- The task. -/
  taskDigest : Digest
  /-- The plan member. -/
  memberDigest : Option Digest
  /-- The provider tier binding. -/
  providerTierBindingDigest : Option Digest
  /-- The policy the request was admitted under. -/
  policyDigest : Digest
  /-- The token of the grant. -/
  fencingToken : Nat
  /-- When it was granted. -/
  acquiredAt : Timestamp
  /-- When it expires. -/
  expiresAt : Timestamp
deriving DecidableEq

end Macr
