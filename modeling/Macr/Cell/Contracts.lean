import Macr.Agent.Contracts
import Macr.Authority
import Macr.Planning.Contracts

/-!
# Hosted cell contracts

The values a hosted agent cell works with: its policy, its context sections, what a model is asked
and decides, what a tool is asked and answers, and the projection its events rebuild. As in the
agent contracts a value is one its constructor has accepted, and a digest is computed from the
document it hashes. Fields that must be present together are one optional field.
-/

namespace Macr

/-- `HostedAgentCellStatus`. -/
inductive HostedAgentCellStatus where
  | ready
  | running
  | checkpointed
  | completionPending
  | completed
  | blocked
  | reconciliationRequired
deriving DecidableEq, Repr

/-- The stored text of a status. -/
def HostedAgentCellStatus.value : HostedAgentCellStatus → String
  | .ready => "ready"
  | .running => "running"
  | .checkpointed => "checkpointed"
  | .completionPending => "completion_pending"
  | .completed => "completed"
  | .blocked => "blocked"
  | .reconciliationRequired => "reconciliation_required"

/-- The statuses that need a final candidate. -/
def HostedAgentCellStatus.completing : HostedAgentCellStatus → Bool
  | .completionPending | .completed => true
  | _ => false

/-- `HostedContextKind`. -/
inductive HostedContextKind where
  | operatorBrief
  | projectFact
  | toolResult
  | toolDenial
deriving DecidableEq, Repr

/-- The stored text of a kind of context. -/
def HostedContextKind.value : HostedContextKind → String
  | .operatorBrief => "operator_brief"
  | .projectFact => "project_fact"
  | .toolResult => "tool_result"
  | .toolDenial => "tool_denial"

/-- `HostedToolResultStatus`. -/
inductive HostedToolResultStatus where
  | completed
  | denied
  | failed
deriving DecidableEq, Repr

/-- The stored text of a result's status. -/
def HostedToolResultStatus.value : HostedToolResultStatus → String
  | .completed => "completed"
  | .denied => "denied"
  | .failed => "failed"

/-- `HostedBlobRole`. -/
inductive HostedBlobRole where
  | context
  | projection
  | modelRaw
  | modelDecision
  | toolArguments
  | toolResult
deriving DecidableEq, Repr

/-- The stored text of a role. -/
def HostedBlobRole.value : HostedBlobRole → String
  | .context => "context"
  | .projection => "projection"
  | .modelRaw => "model_raw"
  | .modelDecision => "model_decision"
  | .toolArguments => "tool_arguments"
  | .toolResult => "tool_result"

/-- `DelegationClass`. -/
inductive DelegationClass where
  | noDelegation
  | nonSensitiveRoutine
  | frontierRestricted
  | privateResident
deriving DecidableEq, Repr

/-- The stored text of a delegation class. -/
def DelegationClass.value : DelegationClass → String
  | .noDelegation => "none"
  | .nonSensitiveRoutine => "non_sensitive_routine"
  | .frontierRestricted => "frontier_restricted"
  | .privateResident => "private_resident"

/-- `round` of a number that is not negative: the nearest integer, and of two the even one. -/
def roundHalfEven (value : ℚ) : Int :=
  let low := value.floor
  if value - low < 1 / 2 then low
  else if 1 / 2 < value - low then low + 1
  else if low % 2 = 0 then low else low + 1

/-! ## Blobs and references -/

/-- What names a blob: the run, the role and the digest of the bytes. -/
structure BlobKey where
  /-- The run. -/
  agentRunId : Uuid
  /-- The role. -/
  role : HostedBlobRole
  /-- The digest of the bytes. -/
  sha256 : Digest
deriving DecidableEq

/-- A `blob_ref` text: `hosted-blob:` with the parts of a key, or another text. -/
inductive BlobRefText where
  | hosted (key : BlobKey)
  | text (value : String)
deriving DecidableEq

/-- The document of a reference to a blob; its parts are kept apart. -/
def BlobRefText.toJson : BlobRefText → Json
  | .hosted key => .arr [.str "hosted-blob:", .hex key.agentRunId, .str key.role.value,
      .hex key.sha256]
  | .text value => .str value

/-- `HostedBlobRef`. -/
structure HostedBlobRef extends BlobKey where
  /-- The number of bytes. -/
  byteCount : Nat
deriving DecidableEq

/-- `blob_ref`. -/
def HostedBlobRef.blobRef (blob : HostedBlobRef) : BlobRefText := .hosted blob.toBlobKey

/-- A reference to evidence: a context section, a tool's result, or another text. -/
inductive EvidenceRef where
  | context (sectionId : Uuid)
  | toolResult (actionId : Uuid)
  | text (value : String)
deriving DecidableEq

/-- The document of a reference to evidence. -/
def EvidenceRef.toJson : EvidenceRef → Json
  | .context sectionId => .arr [.str "hosted-context:", .hex sectionId]
  | .toolResult actionId => .arr [.str "hosted-tool-result:", .hex actionId]
  | .text value => .str value

/-! ## Policy -/

/-- The provider admission of a policy or of a request; its three parts are present together. -/
structure AdmissionBinding where
  /-- `project_binding_digest`. -/
  projectBindingDigest : Digest
  /-- `admission_lane`. -/
  admissionLane : AdmissionLane
  /-- `provider_admission_policy_digest`. -/
  providerAdmissionPolicyDigest : Digest
deriving DecidableEq

/-- The fields that a policy fixes for every request to its model. -/
structure HostedModelTerms where
  /-- The provider. -/
  providerId : String
  /-- The model. -/
  modelId : String
  /-- `model_token_policy_digest`. -/
  modelTokenPolicyDigest : Digest
  /-- `provider_execution_profile_digest`. -/
  providerExecutionProfileDigest : Digest
  /-- `prompt_compiler_version`. -/
  promptCompilerVersion : String
  /-- `delegation_class`. -/
  delegationClass : DelegationClass
  /-- `privacy`. -/
  privacy : PrivacyLevel
  /-- `provider_tier_binding_digest`. -/
  providerTierBindingDigest : Option Digest
  /-- The provider admission. -/
  admission : Option AdmissionBinding
  /-- `max_latency_s`. -/
  maxLatencySeconds : ℚ
  /-- `max_output_tokens`. -/
  maxOutputTokens : Nat
  /-- `max_provider_context_tokens`. -/
  maxProviderContextTokens : Nat
deriving DecidableEq

/-- The hashed fields of the terms. -/
def HostedModelTerms.identityFields (terms : HostedModelTerms) : List (String × Json) :=
  [("provider_id", .str terms.providerId), ("model_id", .str terms.modelId),
    ("model_token_policy_digest", .hex terms.modelTokenPolicyDigest),
    ("provider_execution_profile_digest", .hex terms.providerExecutionProfileDigest),
    ("prompt_compiler_version", .str terms.promptCompilerVersion),
    ("delegation_class", .str terms.delegationClass.value),
    ("privacy", .str terms.privacy.value),
    ("provider_tier_binding_digest", .optHex terms.providerTierBindingDigest),
    ("project_binding_digest", .optHex (terms.admission.map (·.projectBindingDigest))),
    ("admission_lane", .optStr (terms.admission.map (·.admissionLane.value))),
    ("provider_admission_policy_digest",
      .optHex (terms.admission.map (·.providerAdmissionPolicyDigest))),
    ("max_latency_s", .num terms.maxLatencySeconds),
    ("max_output_tokens", .int terms.maxOutputTokens),
    ("max_provider_context_tokens", .int terms.maxProviderContextTokens)]

/-- `HostedAgentCellPolicy`. -/
structure HostedAgentCellPolicy where
  /-- The run. -/
  agentRunId : Uuid
  /-- What every request to the model must carry. -/
  terms : HostedModelTerms
  /-- `project_ref`. -/
  projectRef : String
  /-- `tool_catalog_digest`. -/
  toolCatalogDigest : Digest
  /-- `allowed_tool_ids`. -/
  allowedToolIds : List String
  /-- `max_steps`. -/
  maxSteps : Nat
  /-- `max_provider_calls`. -/
  maxProviderCalls : Nat
  /-- `max_tool_calls`. -/
  maxToolCalls : Nat
  /-- `max_active_wall_seconds`. -/
  maxActiveWallSeconds : ℚ
  /-- `max_currency_cost_usd`. -/
  maxCurrencyCostUsd : ℚ
  /-- `max_provider_call_cost_usd`. -/
  maxProviderCallCostUsd : ℚ
  /-- `max_context_bytes`. -/
  maxContextBytes : Nat
  /-- `max_raw_model_response_bytes`. -/
  maxRawModelResponseBytes : Nat
  /-- `max_tool_result_bytes`. -/
  maxToolResultBytes : Nat
  /-- `max_final_output_bytes`. -/
  maxFinalOutputBytes : Nat
  /-- `revision`. -/
  revision : Nat
  /-- Calls are made in steps. -/
  calls_within_steps : maxProviderCalls ≤ maxSteps ∧ maxToolCalls ≤ maxSteps
  /-- One call may not cost more than all. -/
  call_within_total : maxProviderCallCostUsd ≤ maxCurrencyCostUsd
  /-- Costs and times are not negative. -/
  nonneg : 0 ≤ maxProviderCallCostUsd ∧ 0 ≤ maxActiveWallSeconds
deriving DecidableEq

namespace HostedAgentCellPolicy

/-- `_identity_dict`. -/
def identityFields (policy : HostedAgentCellPolicy) : List (String × Json) :=
  [("schema_version", .str "macr-hosted-agent-cell/v1"),
    ("agent_run_id", .hex policy.agentRunId)] ++ policy.terms.identityFields ++
  [("project_ref", .str policy.projectRef),
    ("tool_catalog_digest", .hex policy.toolCatalogDigest),
    ("allowed_tool_ids", .strs policy.allowedToolIds),
    ("max_steps", .int policy.maxSteps),
    ("max_provider_calls", .int policy.maxProviderCalls),
    ("max_tool_calls", .int policy.maxToolCalls),
    ("max_active_wall_seconds", .num policy.maxActiveWallSeconds),
    ("max_currency_cost_usd", .num policy.maxCurrencyCostUsd),
    ("max_provider_call_cost_usd", .num policy.maxProviderCallCostUsd),
    ("max_context_bytes", .int policy.maxContextBytes),
    ("max_raw_model_response_bytes", .int policy.maxRawModelResponseBytes),
    ("max_tool_result_bytes", .int policy.maxToolResultBytes),
    ("max_final_output_bytes", .int policy.maxFinalOutputBytes),
    ("revision", .int policy.revision)]

/-- `policy_digest`. -/
def policyDigest (sha : Sha256) (policy : HostedAgentCellPolicy) : Digest :=
  sha.sha256Id "macr.hosted-agent-cell.policy.v1" (.obj policy.identityFields)

/-- `round(max_active_wall_seconds * 1000)`. -/
def wallLimitMs (policy : HostedAgentCellPolicy) : Int :=
  roundHalfEven (policy.maxActiveWallSeconds * 1000)

end HostedAgentCellPolicy

/-- `SemanticContextRequest`. Its profile, roots, node types and limits are only hashed here. -/
structure SemanticContextRequest where
  /-- The run. -/
  agentRunId : Uuid
  /-- The graph. -/
  graphId : Uuid
  /-- The graph's revision. -/
  graphRevision : Nat
  /-- The graph's digest. -/
  graphDigest : Digest
  /-- The document of the other fields. -/
  selection : Json
deriving DecidableEq

/-- `SemanticContextRequest.request_digest`. -/
def SemanticContextRequest.requestDigest (sha : Sha256) (request : SemanticContextRequest) :
    Digest :=
  sha.sha256Id "macr.semantic.context-request.v1" (.obj
    [("agent_run_id", .hex request.agentRunId), ("graph_id", .hex request.graphId),
      ("graph_revision", .int request.graphRevision), ("graph_digest", .hex request.graphDigest),
      ("selection", request.selection)])

/-! ## Tools -/

/-- `HostedToolRequest`. -/
structure HostedToolRequest where
  /-- The request. -/
  requestId : Uuid
  /-- The tool. -/
  toolId : String
  /-- The arguments. -/
  arguments : Json
deriving DecidableEq

namespace HostedToolRequest

/-- `arguments_digest`. -/
def argumentsDigest (sha : Sha256) (request : HostedToolRequest) : Digest :=
  sha.sha256 request.arguments

/-- The fields of a request that are public without its digest. -/
def identityFields (sha : Sha256) (request : HostedToolRequest) : List (String × Json) :=
  [("request_id", .hex request.requestId), ("tool_id", .str request.toolId),
    ("arguments_digest", .hex (request.argumentsDigest sha))]

/-- `request_digest`. -/
def requestDigest (sha : Sha256) (request : HostedToolRequest) : Digest :=
  sha.sha256Id "macr.hosted-tool-request.v1" (.obj (request.identityFields sha))

/-- `to_public_dict`. -/
def toPublicDict (sha : Sha256) (request : HostedToolRequest) : Json :=
  .obj (request.identityFields sha ++ [("request_digest", .hex (request.requestDigest sha))])

/-- `to_private_dict`. -/
def toPrivateDict (sha : Sha256) (request : HostedToolRequest) : Json :=
  .obj (request.identityFields sha ++ [("request_digest", .hex (request.requestDigest sha)),
    ("arguments", request.arguments)])

end HostedToolRequest

/-- The bytes of a completed tool result, by where they are and what they hash to. -/
structure ToolResultBlob where
  /-- `result_blob_ref`. -/
  blobRef : BlobRefText
  /-- `result_digest`. -/
  digest : Digest
  /-- `result_bytes`. -/
  bytes : Nat
deriving DecidableEq

/-- `HostedToolResultRef`; the three fields of its blob are present together. -/
structure HostedToolResultRef where
  /-- The action. -/
  actionId : Uuid
  /-- The digest of the tool request. -/
  requestDigest : Digest
  /-- The tool. -/
  toolId : String
  /-- How the execution ended. -/
  status : HostedToolResultStatus
  /-- The result's bytes. -/
  blob : Option ToolResultBlob
  /-- When the result was observed. -/
  observedAt : Timestamp
  /-- A completed result has bytes. -/
  completed_blob : status = .completed → blob ≠ none
  /-- A denied result has none. -/
  denied_blob : status = .denied → blob = none
deriving DecidableEq

namespace HostedToolResultRef

/-- `evidence_ref`. -/
def evidenceRef (result : HostedToolResultRef) : EvidenceRef := .toolResult result.actionId

/-- `_identity_dict`. -/
def identityFields (result : HostedToolResultRef) : List (String × Json) :=
  [("action_id", .hex result.actionId), ("request_digest", .hex result.requestDigest),
    ("tool_id", .str result.toolId), ("status", .str result.status.value),
    ("result_blob_ref", ((result.blob.map (·.blobRef.toJson)).getD .null)),
    ("result_digest", .optHex (result.blob.map (·.digest))),
    ("result_bytes", .optNat (result.blob.map (·.bytes))),
    ("observed_at", .time result.observedAt)]

/-- `reference_digest`. -/
def referenceDigest (sha : Sha256) (result : HostedToolResultRef) : Digest :=
  sha.sha256Id "macr.hosted-tool-result-ref.v1" (.obj result.identityFields)

/-- `to_public_dict`. -/
def toPublicDict (sha : Sha256) (result : HostedToolResultRef) : Json :=
  .obj (result.identityFields ++ [("evidence_ref", result.evidenceRef.toJson),
    ("reference_digest", .hex (result.referenceDigest sha))])

end HostedToolResultRef

/-- `ActionProposal`. The fields that are only hashed are one document. -/
structure ActionProposal where
  /-- The action. -/
  actionId : Uuid
  /-- The run. -/
  agentRunId : Uuid
  /-- The run's epoch. -/
  agentRunEpoch : Nat
  /-- The document of the other fields. -/
  details : Json
deriving DecidableEq

/-- `proposal_digest`. -/
def ActionProposal.proposalDigest (sha : Sha256) (proposal : ActionProposal) : Digest :=
  sha.sha256Id "macr.action.proposal.v1" (.obj
    [("action_id", .hex proposal.actionId), ("agent_run_id", .hex proposal.agentRunId),
      ("agent_run_epoch", .int proposal.agentRunEpoch), ("details", proposal.details)])

/-- `ActionAdmission`. The fields that are only hashed are one document. -/
structure ActionAdmission where
  /-- The action. -/
  actionId : Uuid
  /-- The admitted proposal. -/
  proposalDigest : Digest
  /-- The authority it was admitted under. -/
  authorization : AuthorityBinding
  /-- The budget it was admitted under. -/
  budgetDigest : Digest
  /-- `world_basis_digest`. -/
  worldBasisDigest : Digest
  /-- `policy_snapshot_digest`. -/
  policySnapshotDigest : Digest
  /-- The document of the other fields. -/
  details : Json
deriving DecidableEq

/-- `admission_digest`. -/
def ActionAdmission.admissionDigest (sha : Sha256) (admission : ActionAdmission) : Digest :=
  sha.sha256Id "macr.action.admission.v1" (.obj
    [("action_id", .hex admission.actionId), ("proposal_digest", .hex admission.proposalDigest),
      ("authorization", .obj admission.authorization.referenceFields),
      ("budget_digest", .hex admission.budgetDigest),
      ("world_basis_digest", .hex admission.worldBasisDigest),
      ("policy_snapshot_digest", .hex admission.policySnapshotDigest),
      ("details", admission.details)])

/-! ## Context sections -/

/-- The body of a section: the canonical text of a document, or a text that is none. -/
inductive ContextBody where
  | text (value : String)
  | canonical (document : Json)
deriving DecidableEq

/-- The document that stands for a body. -/
def ContextBody.toJson : ContextBody → Json
  | .text value => .str value
  | .canonical document => document

/-- `HostedContextSection`. -/
structure HostedContextSection where
  /-- The section. -/
  sectionId : Uuid
  /-- The run. -/
  agentRunId : Uuid
  /-- The kind. -/
  kind : HostedContextKind
  /-- The label. -/
  label : String
  /-- The body. -/
  body : ContextBody
  /-- Where the body comes from. -/
  sourceRef : EvidenceRef
  /-- The digest of the source. -/
  sourceDigest : Digest
  /-- When the section was made. -/
  createdAt : Timestamp
deriving DecidableEq

namespace HostedContextSection

/-- `body_digest`. -/
def bodyDigest (sha : Sha256) (item : HostedContextSection) : Digest := sha.sha256 item.body.toJson

/-- `evidence_ref`. -/
def evidenceRef (item : HostedContextSection) : EvidenceRef := .context item.sectionId

/-- `_identity_dict`. -/
def identityFields (sha : Sha256) (item : HostedContextSection) : List (String × Json) :=
  [("section_id", .hex item.sectionId), ("agent_run_id", .hex item.agentRunId),
    ("kind", .str item.kind.value), ("label", .str item.label),
    ("body_digest", .hex (item.bodyDigest sha)), ("source_ref", item.sourceRef.toJson),
    ("source_digest", .hex item.sourceDigest), ("created_at", .time item.createdAt)]

/-- `section_digest`. -/
def sectionDigest (sha : Sha256) (item : HostedContextSection) : Digest :=
  sha.sha256Id "macr.hosted-context-section.v1" (.obj (item.identityFields sha))

/-- `to_private_dict`, without the length of the body. -/
def toPrivateDict (sha : Sha256) (item : HostedContextSection) : Json :=
  .obj (item.identityFields sha ++ [("evidence_ref", item.evidenceRef.toJson),
    ("section_digest", .hex (item.sectionDigest sha)), ("body", item.body.toJson)])

end HostedContextSection

/-! ## Models -/

/-- What a decision decides: one tool request, or a final candidate that cites evidence. -/
inductive HostedDecisionContent where
  | toolRequest (request : HostedToolRequest)
  | finalCandidate (candidate : String) (evidenceRefs : List EvidenceRef)
      (cited : evidenceRefs ≠ [])
deriving DecidableEq

/-- `HostedModelDecision`. -/
structure HostedModelDecision where
  /-- The decision. -/
  decisionId : Uuid
  /-- What it decides. -/
  content : HostedDecisionContent
deriving DecidableEq

namespace HostedModelDecision

/-- `_proposal_dict`. -/
def proposalFields (sha : Sha256) (decision : HostedModelDecision) : List (String × Json) :=
  match decision.content with
  | .toolRequest request =>
    [("kind", .str "tool_request"), ("tool_id", .str request.toolId),
      ("arguments_digest", .hex (request.argumentsDigest sha)),
      ("final_candidate_digest", .null), ("evidence_refs", .arr [])]
  | .finalCandidate candidate evidenceRefs _ =>
    [("kind", .str "final_candidate"), ("tool_id", .null), ("arguments_digest", .null),
      ("final_candidate_digest", .hex (sha.sha256 (.str candidate))),
      ("evidence_refs", .arr (evidenceRefs.map (·.toJson)))]

/-- `proposal_digest`: the decision without the identifiers it was given. -/
def proposalDigest (sha : Sha256) (decision : HostedModelDecision) : Digest :=
  sha.sha256Id "macr.hosted-model-proposal.v1" (.obj (decision.proposalFields sha))

/-- `decision_digest`. -/
def decisionDigest (sha : Sha256) (decision : HostedModelDecision) : Digest :=
  sha.sha256Id "macr.hosted-model-decision.v1" (.obj
    ([("decision_id", .hex decision.decisionId),
      ("proposal_digest", .hex (decision.proposalDigest sha)),
      ("tool_request", match decision.content with
        | .toolRequest request => request.toPublicDict sha
        | .finalCandidate .. => .null)] ++ decision.proposalFields sha))

/-- `to_private_dict`. -/
def toPrivateDict (sha : Sha256) (decision : HostedModelDecision) : Json :=
  .obj [("decision_id", .hex decision.decisionId),
    ("content", match decision.content with
      | .toolRequest request => request.toPrivateDict sha
      | .finalCandidate candidate evidenceRefs _ =>
        .arr [.str candidate, .arr (evidenceRefs.map (·.toJson))]),
    ("proposal_digest", .hex (decision.proposalDigest sha)),
    ("decision_digest", .hex (decision.decisionDigest sha))]

end HostedModelDecision

/-- `HostedModelRequest`. -/
@[ext]
structure HostedModelRequest where
  /-- The invocation. -/
  providerInvocationId : Uuid
  /-- The run. -/
  agentRunId : Uuid
  /-- The run's epoch. -/
  agentRunEpoch : Nat
  /-- The run's revision. -/
  agentStateRevision : Nat
  /-- The step. -/
  stepIndex : Nat
  /-- What the policy fixes. -/
  terms : HostedModelTerms
  /-- `context_blob_ref`. -/
  contextBlobRef : BlobRefText
  /-- `context_digest`. -/
  contextDigest : Digest
  /-- `context_bytes`. -/
  contextBytes : Nat
  /-- `policy_digest`. -/
  policyDigest : Digest
  /-- `cost_ceiling_usd`. -/
  costCeilingUsd : ℚ
  /-- Epochs, revisions and steps start at one. -/
  positive : 0 < agentRunEpoch ∧ 0 < agentStateRevision ∧ 0 < stepIndex
  /-- A cost is not negative. -/
  nonneg : 0 ≤ costCeilingUsd

instance : DecidableEq HostedModelRequest :=
  fun _ _ => decidable_of_iff' _ HostedModelRequest.ext_iff

/-- `HostedModelRequest.request_digest`. -/
def HostedModelRequest.requestDigest (sha : Sha256) (request : HostedModelRequest) : Digest :=
  sha.sha256Id "macr.hosted-model-request.v1" (.obj
    ([("provider_invocation_id", .hex request.providerInvocationId),
      ("agent_run_id", .hex request.agentRunId),
      ("agent_run_epoch", .int request.agentRunEpoch),
      ("agent_state_revision", .int request.agentStateRevision),
      ("step_index", .int request.stepIndex)] ++ request.terms.identityFields ++
    [("context_blob_ref", request.contextBlobRef.toJson),
      ("context_digest", .hex request.contextDigest),
      ("context_bytes", .int request.contextBytes),
      ("policy_digest", .hex request.policyDigest),
      ("cost_ceiling_usd", .num request.costCeilingUsd)]))

/-- `HostedModelResult`. -/
@[ext]
structure HostedModelResult where
  /-- The invocation. -/
  providerInvocationId : Uuid
  /-- The provider. -/
  providerId : String
  /-- The model. -/
  modelId : String
  /-- The decision. -/
  decision : HostedModelDecision
  /-- The reported cost. -/
  currencyCostUsd : ℚ
  /-- How long the call took. -/
  durationMs : Nat
  /-- Whether the network was attempted, if known. -/
  networkAttempted : Option Bool
  /-- Whether a response was received, if known. -/
  responseReceived : Option Bool
  /-- A cost is not negative. -/
  nonneg : 0 ≤ currencyCostUsd
  /-- A response comes from the network. -/
  received_attempted : responseReceived = some true → networkAttempted = some true

instance : DecidableEq HostedModelResult :=
  fun _ _ => decidable_of_iff' _ HostedModelResult.ext_iff

/-- `HostedModelResult.result_digest`. -/
def HostedModelResult.resultDigest (sha : Sha256) (result : HostedModelResult) : Digest :=
  sha.sha256Id "macr.hosted-model-result.v1" (.obj
    [("provider_invocation_id", .hex result.providerInvocationId),
      ("provider_id", .str result.providerId), ("model_id", .str result.modelId),
      ("decision_digest", .hex (result.decision.decisionDigest sha)),
      ("currency_cost_usd", .num result.currencyCostUsd),
      ("duration_ms", .int result.durationMs),
      ("network_attempted", .optBool result.networkAttempted),
      ("response_received", .optBool result.responseReceived)])

end Macr
