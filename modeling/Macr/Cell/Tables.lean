import Macr.Agent.Store
import Macr.Cell.Events
import Macr.Lib.Sorting
import Mathlib.Data.Prod.Lex

/-!
# Hosted cell tables

A cell has a projection row, a chain of events, and evidence tables written beside them: sections,
model dispatches and terminals, tool requests, claims and results, checkpoints, rehydrations,
intents and completions. Every operation first reads the cell by replaying its events and by
recomputing the evidence from them. Blobs are files named by the digest of their bytes, with a row
of metadata; the context envelopes are a cache of such blobs.
-/

namespace Macr

open Lib

/-- What the cell store takes from outside besides the hash: the length of canonical bytes, JSON
text that is no canonical document, and the reading of a model's bytes as a proposal. -/
structure CellKernel extends AgentKernel where
  /-- The number of canonical bytes of a document. -/
  encodedLength : Json → Nat
  /-- `json.loads` of a text that is no canonical document. -/
  loads : String → Option Json
  /-- `HostedModelDecision.from_json_bytes`, up to the identifiers it draws. -/
  readProposal : String → Option HostedDecisionContent

/-- What a caller and its surroundings supply to a call. -/
structure CellCaller where
  /-- The clock. -/
  now : Timestamp
  /-- `HostedCellAuthorityVerifier.verify_cell`: reference, run, policy digest and operation. -/
  verifyCell : AuthorityBinding → Uuid → Digest → String → Except MacrError Unit

/-! ## Blobs -/

/-- A context envelope as it is stored. Every key that is not read back is in one document. -/
structure HostedContextDocument where
  /-- The other keys. -/
  details : Json
  /-- `context_sections`. -/
  sections : List HostedContextSection
  /-- `causal_digest`. -/
  causalDigest : Digest
  /-- `envelope_digest`. -/
  envelopeDigest : Digest
deriving DecidableEq

/-- The document without its own digest. -/
def HostedContextDocument.withoutDigest (sha : Sha256) (document : HostedContextDocument) : Json :=
  .obj [("details", document.details),
    ("context_sections", .arr (document.sections.map (·.toPrivateDict sha))),
    ("causal_digest", .hex document.causalDigest)]

/-- The digest an envelope with a causal digest and a document has. -/
def envelopeDigestOf (kernel : CellKernel) (causalDigest : Digest) (encoded : Json) : Digest :=
  kernel.sha.sha256Id "macr.hosted-context-envelope.v1" (.obj
    [("causal_digest", .hex causalDigest), ("payload_sha256", .hex (kernel.sha.sha256 encoded)),
      ("payload_bytes", .int (kernel.encodedLength encoded))])

/-- The bytes of a blob: a record in its canonical form, a document, or other bytes. -/
inductive BlobContent where
  | context (item : HostedContextSection)
  | projection (document : HostedContextDocument)
  | modelDecision (decision : HostedModelDecision)
  | json (document : Json)
  | raw (bytes : String)
deriving DecidableEq

/-- The document that stands for the bytes. -/
def BlobContent.toJson (sha : Sha256) : BlobContent → Json
  | .context item => item.toPrivateDict sha
  | .projection document => .obj [("document", document.withoutDigest sha),
      ("envelope_digest", .hex document.envelopeDigest)]
  | .modelDecision decision => decision.toPrivateDict sha
  | .json document => document
  | .raw bytes => .str bytes

/-- A file of the blob store. -/
structure BlobFile where
  /-- Its name. -/
  key : BlobKey
  /-- Its bytes. -/
  content : BlobContent
deriving DecidableEq

/-- A row of `hosted_agent_blobs`; its reference and digest are those of the key and the count. -/
structure HostedBlobRow where
  /-- Primary key. -/
  key : BlobKey
  /-- `byte_count`. -/
  byteCount : Nat
  /-- `created_at`. -/
  createdAt : Timestamp
deriving DecidableEq

/-! ## Rows -/

/-- A row of `hosted_agent_cells`. -/
structure HostedCellRow where
  /-- `policy_json`. -/
  policy : HostedAgentCellPolicy
  /-- `semantic_request_json`. -/
  semanticRequest : SemanticContextRequest
  /-- The projection columns. -/
  state : HostedAgentCellState
  /-- `state_digest`. -/
  stateDigest : Digest
deriving DecidableEq

/-- A row of `hosted_context_sections`. -/
structure HostedSectionRow where
  /-- `section_id`, which is unique. -/
  sectionId : Uuid
  /-- The run. -/
  agentRunId : Uuid
  /-- `kind`. -/
  kind : HostedContextKind
  /-- `blob_ref`. -/
  blob : BlobKey
  /-- `body_digest`. -/
  bodyDigest : Digest
  /-- `body_bytes`. -/
  bodyBytes : Nat
  /-- `source_digest`. -/
  sourceDigest : Digest
  /-- `section_digest`, which is unique. -/
  sectionDigest : Digest
  /-- `created_at`. -/
  createdAt : Timestamp
deriving DecidableEq

/-- A row of `hosted_model_dispatches`; the columns that repeat the request are read from it. -/
structure HostedDispatchRow where
  /-- `request_json`. -/
  request : HostedModelRequest
  /-- `dispatched_at`. -/
  dispatchedAt : Timestamp
deriving DecidableEq

/-- How a dispatch ended. -/
inductive ModelTerminal where
  | completed (result : HostedModelResult) (rawBlob decisionBlob : BlobKey)
  | failed (failureCode : String) (failureDigest : Digest) (rawBlob : Option BlobKey)
  | reconciliationRequired (failureCode : String) (failureDigest : Digest)
      (rawBlob : Option BlobKey)
deriving DecidableEq

/-- A row of `hosted_model_terminals`. -/
structure HostedTerminalRow where
  /-- Primary key. -/
  providerInvocationId : Uuid
  /-- `terminal_state` with the columns of that state. -/
  terminal : ModelTerminal
  /-- `currency_cost_usd`. -/
  currencyCostUsd : Option ℚ
  /-- `duration_ms`. -/
  durationMs : Nat
  /-- `network_attempted`. -/
  networkAttempted : Option Bool
  /-- `response_received`. -/
  responseReceived : Option Bool
  /-- `terminal_at`. -/
  terminalAt : Timestamp
deriving DecidableEq

/-- `decision` of a tool request with the columns of that decision. -/
inductive ToolDecision where
  | admitted (proposal : ActionProposal) (admission : ActionAdmission)
  | denied (reasonCode : String) (reasonDigest : Digest)
deriving DecidableEq

/-- A row of `hosted_tool_requests`. -/
structure HostedToolRequestRow where
  /-- Primary key. -/
  actionId : Uuid
  /-- The run. -/
  agentRunId : Uuid
  /-- `step_index`. -/
  stepIndex : Nat
  /-- `model_request_digest`, which is unique. -/
  modelRequestDigest : Digest
  /-- `tool_id`. -/
  toolId : String
  /-- `arguments_blob_ref`. -/
  argumentsBlob : BlobKey
  /-- `arguments_digest`. -/
  argumentsDigest : Digest
  /-- The decision. -/
  decision : ToolDecision
  /-- `created_at`. -/
  createdAt : Timestamp
deriving DecidableEq

/-- A row of `hosted_tool_results`; its columns are those of the result. -/
structure HostedToolResultRow where
  /-- `result_ref_json`. -/
  result : HostedToolResultRef
  /-- `duration_ms`. -/
  durationMs : Nat
deriving DecidableEq

/-- A row of `hosted_tool_execution_claims`. -/
structure HostedClaimRow where
  /-- Primary key. -/
  actionId : Uuid
  /-- `admission_digest`. -/
  admissionDigest : Digest
  /-- `ownership_lease_id`. -/
  ownershipLeaseId : Uuid
  /-- `ownership_fencing_token`. -/
  ownershipFencingToken : Nat
  /-- `cell_state_digest`. -/
  cellStateDigest : Digest
  /-- `semantic_projection_digest`. -/
  semanticProjectionDigest : Digest
  /-- `claim_digest`, which is unique. -/
  claimDigest : Digest
  /-- `claimed_at`. -/
  claimedAt : Timestamp
deriving DecidableEq

/-- What a snapshot says of a model call. -/
structure ModelRecord where
  /-- `request_digest`. -/
  requestDigest : Digest
  /-- `terminal_state`. -/
  terminalState : Option String
  /-- `result_digest`. -/
  resultDigest : Option Digest
  /-- `failure_digest`. -/
  failureDigest : Option Digest
deriving DecidableEq

/-- What a snapshot says of a tool request. -/
structure ToolRecord where
  /-- `model_request_digest`. -/
  modelRequestDigest : Digest
  /-- `decision`. -/
  decision : String
  /-- `admission_digest`. -/
  admissionDigest : Option Digest
  /-- `reason_digest`. -/
  reasonDigest : Option Digest
  /-- `reference_digest`. -/
  referenceDigest : Option Digest
deriving DecidableEq

/-- The snapshot of a cell: counters, sections and evidence. -/
structure CellSnapshot where
  /-- The run. -/
  agentRunId : Uuid
  /-- `policy_digest`. -/
  policyDigest : Digest
  /-- `semantic_request_digest`. -/
  semanticRequestDigest : Digest
  /-- `next_step`. -/
  nextStep : Nat
  /-- `provider_calls`. -/
  providerCalls : Nat
  /-- `tool_calls`. -/
  toolCalls : Nat
  /-- `active_wall_ms`. -/
  activeWallMs : Nat
  /-- `currency_cost_usd`. -/
  currencyCostUsd : ℚ
  /-- `section_digests`. -/
  sectionDigests : List Digest
  /-- `model_records`. -/
  modelRecords : List ModelRecord
  /-- `tool_records`. -/
  toolRecords : List ToolRecord
deriving DecidableEq

/-- The digest of a snapshot. -/
def CellSnapshot.digest (sha : Sha256) (snapshot : CellSnapshot) : Digest :=
  sha.sha256Id "macr.hosted-agent-cell.snapshot.v1" (.obj
    [("agent_run_id", .hex snapshot.agentRunId),
      ("policy_digest", .hex snapshot.policyDigest),
      ("semantic_request_digest", .hex snapshot.semanticRequestDigest),
      ("next_step", .int snapshot.nextStep), ("provider_calls", .int snapshot.providerCalls),
      ("tool_calls", .int snapshot.toolCalls), ("active_wall_ms", .int snapshot.activeWallMs),
      ("currency_cost_usd", .num snapshot.currencyCostUsd),
      ("section_digests", .hexes snapshot.sectionDigests),
      ("model_records", .arr (snapshot.modelRecords.map fun record =>
        .obj [("request_digest", .hex record.requestDigest),
          ("terminal_state", .optStr record.terminalState),
          ("result_digest", .optHex record.resultDigest),
          ("failure_digest", .optHex record.failureDigest)])),
      ("tool_records", .arr (snapshot.toolRecords.map fun record =>
        .obj [("model_request_digest", .hex record.modelRequestDigest),
          ("decision", .str record.decision), ("admission_digest", .optHex record.admissionDigest),
          ("reason_digest", .optHex record.reasonDigest),
          ("reference_digest", .optHex record.referenceDigest)]))])

/-- The parts of an authority that a checkpoint names; the first, the second and the revision make
`authority_ref`. -/
structure CheckpointAuthority where
  /-- The kind of the authority's source. -/
  sourceKind : String
  /-- The authority's source. -/
  sourceId : String
  /-- `authority_digest`. -/
  digest : Digest
  /-- `authority_revision`. -/
  revision : Nat
  /-- `authority_epoch`. -/
  epoch : Nat
deriving DecidableEq

/-- The parts of an authority that a checkpoint names. -/
def AuthorityBinding.checkpointPart (authority : AuthorityBinding) : CheckpointAuthority :=
  ⟨authority.sourceKind, authority.sourceId, authority.digest, authority.revision,
    authority.epoch⟩

/-- `AgentCheckpoint`. Its references and digests are kept in the order of their texts, so two
such tuples are equal exactly when one permutes the other. -/
structure AgentCheckpoint where
  /-- The checkpoint. -/
  checkpointId : Uuid
  /-- The run. -/
  agentRunId : Uuid
  /-- The run's epoch. -/
  agentRunEpoch : Nat
  /-- The run's revision. -/
  stateRevision : Nat
  /-- The goal's reference and digest. -/
  goal : BindingRef × Digest
  /-- The authority. -/
  authority : CheckpointAuthority
  /-- The budget. -/
  budget : VersionedBinding
  /-- The semantic state. -/
  semanticState : SemanticStateBinding
  /-- The plan; its three fields are present together. -/
  activePlan : Option VersionedBinding
  /-- `world_basis_refs`. -/
  worldBasisRefs : List BindingRef
  /-- `memory_binding_digests`. -/
  memoryBindingDigests : List Digest
  /-- `pending_action_refs`. -/
  pendingActionRefs : List String
  /-- `reconciliation_refs`. -/
  reconciliationRefs : List String
  /-- The state digest in `verification_state_ref`. -/
  verificationStateDigest : Digest
  /-- `wake_condition_ref`. -/
  wakeConditionRef : Option String
  /-- The digest in `parent_checkpoint_ref`. -/
  parentCheckpointDigest : Option Digest
  /-- When the checkpoint was made. -/
  createdAt : Timestamp
  /-- `require_string_tuple`: at most 128 references, none twice. -/
  world_bounded : worldBasisRefs.Nodup ∧ worldBasisRefs.length ≤ 128
  /-- No digest twice. -/
  memory_distinct : memoryBindingDigests.Nodup
deriving DecidableEq

/-- `checkpoint_digest`. -/
def AgentCheckpoint.checkpointDigest (sha : Sha256) (checkpoint : AgentCheckpoint) : Digest :=
  sha.sha256Id "macr.temporal.checkpoint.v1" (.obj
    [("checkpoint_id", .hex checkpoint.checkpointId),
      ("agent_run_id", .hex checkpoint.agentRunId),
      ("agent_run_epoch", .int checkpoint.agentRunEpoch),
      ("state_revision", .int checkpoint.stateRevision),
      ("goal_ref", checkpoint.goal.1.toJson), ("goal_digest", .hex checkpoint.goal.2),
      ("authority_ref", .arr [.str checkpoint.authority.sourceKind,
        .str checkpoint.authority.sourceId, .int checkpoint.authority.revision]),
      ("authority_digest", .hex checkpoint.authority.digest),
      ("authority_revision", .int checkpoint.authority.revision),
      ("authority_epoch", .int checkpoint.authority.epoch),
      ("budget", .obj checkpoint.budget.identityFields),
      ("semantic_state", .obj checkpoint.semanticState.identityFields),
      ("active_plan", (checkpoint.activePlan.map (fun plan => .obj plan.identityFields)).getD .null),
      ("world_basis_refs", .arr (checkpoint.worldBasisRefs.map (·.toJson))),
      ("memory_binding_digests", .hexes checkpoint.memoryBindingDigests),
      ("pending_action_refs", .strs checkpoint.pendingActionRefs),
      ("reconciliation_refs", .strs checkpoint.reconciliationRefs),
      ("verification_state_ref", .hex checkpoint.verificationStateDigest),
      ("wake_condition_ref", .optStr checkpoint.wakeConditionRef),
      ("parent_checkpoint_ref", .optHex checkpoint.parentCheckpointDigest),
      ("created_at", .time checkpoint.createdAt)])

/-- A row of `hosted_agent_checkpoints`. -/
structure HostedCheckpointRow where
  /-- The run. -/
  agentRunId : Uuid
  /-- `cell_revision`. -/
  cellRevision : Nat
  /-- `checkpoint_json`, whose `checkpoint_id` is the primary key. -/
  checkpoint : AgentCheckpoint
  /-- `checkpoint_digest`, which is unique. -/
  checkpointDigest : Digest
  /-- `cell_snapshot_json`. -/
  snapshot : CellSnapshot
  /-- `cell_snapshot_digest`. -/
  snapshotDigest : Digest
  /-- `parent_checkpoint_digest`. -/
  parentCheckpointDigest : Option Digest
deriving DecidableEq

/-- A row of `hosted_agent_rehydrations`. -/
structure HostedRehydrationRow where
  /-- Primary key. -/
  rehydrationId : Uuid
  /-- The run. -/
  agentRunId : Uuid
  /-- `cell_revision`. -/
  cellRevision : Nat
  /-- `checkpoint_digest`. -/
  checkpointDigest : Digest
  /-- `previous_epoch`. -/
  previousEpoch : Nat
  /-- `new_epoch`. -/
  newEpoch : Nat
  /-- `fencing_token`. -/
  fencingToken : Nat
  /-- `receipt_digest`, which is unique. -/
  receiptDigest : Digest
  /-- `rehydrated_at`. -/
  rehydratedAt : Timestamp
deriving DecidableEq

/-- A row of `hosted_agent_completion_intents`. -/
structure HostedIntentRow where
  /-- Primary key. -/
  candidateRunId : Uuid
  /-- The run, which is unique. -/
  agentRunId : Uuid
  /-- `decision_digest`. -/
  decisionDigest : Digest
  /-- `final_answer_digest`. -/
  finalAnswerDigest : Digest
  /-- `evidence_refs_json`. -/
  evidenceRefs : List EvidenceRef
  /-- `evidence_refs_digest`. -/
  evidenceRefsDigest : Digest
  /-- `intent_digest`, which is unique. -/
  intentDigest : Digest
  /-- `created_at`. -/
  createdAt : Timestamp
deriving DecidableEq

/-- A row of `hosted_agent_completions`. -/
structure HostedCompletionRow where
  /-- Primary key. -/
  candidateRunId : Uuid
  /-- The run, which is unique. -/
  agentRunId : Uuid
  /-- `final_capture_id`. -/
  finalCaptureId : String
  /-- `final_answer_digest`. -/
  finalAnswerDigest : Digest
  /-- `decision_digest`. -/
  decisionDigest : Digest
  /-- `evidence_refs_digest`. -/
  evidenceRefsDigest : Digest
  /-- `prepared_at`. -/
  preparedAt : Timestamp
  /-- `finalized_at`. -/
  finalizedAt : Option Timestamp
deriving DecidableEq

/-- A row of `hosted_context_envelopes`. -/
structure HostedEnvelopeRow where
  /-- Primary key. -/
  envelopeDigest : Digest
  /-- The run. -/
  agentRunId : Uuid
  /-- `step_index`. -/
  stepIndex : Nat
  /-- `agent_run_epoch`. -/
  agentRunEpoch : Nat
  /-- `agent_state_revision`. -/
  agentStateRevision : Nat
  /-- `semantic_projection_digest`. -/
  semanticProjectionDigest : Digest
  /-- `policy_digest`. -/
  policyDigest : Digest
  /-- `tool_catalog_digest`. -/
  toolCatalogDigest : Digest
  /-- `causal_digest`. -/
  causalDigest : Digest
  /-- `blob_ref`. -/
  blob : BlobKey
  /-- `byte_count`. -/
  byteCount : Nat
  /-- `created_at`. -/
  createdAt : Timestamp
deriving DecidableEq

/-- The tables that are written beside the events. -/
structure CellEvidence where
  /-- `hosted_context_sections`, in the order of their sequence. -/
  sections : Table (fun row : HostedSectionRow => row.sectionId)
  /-- `hosted_model_dispatches`. -/
  dispatches : Table (fun row : HostedDispatchRow => row.request.providerInvocationId)
  /-- `hosted_model_terminals`. -/
  terminals : Table (fun row : HostedTerminalRow => row.providerInvocationId)
  /-- `hosted_tool_requests`. -/
  toolRequests : Table (fun row : HostedToolRequestRow => row.actionId)
  /-- `hosted_tool_execution_claims`. -/
  claims : Table (fun row : HostedClaimRow => row.actionId)
  /-- `hosted_tool_results`. -/
  toolResults : Table (fun row : HostedToolResultRow => row.result.actionId)
  /-- `hosted_agent_checkpoints`. -/
  checkpoints : Table (fun row : HostedCheckpointRow => row.checkpoint.checkpointId)
  /-- `hosted_agent_rehydrations`. -/
  rehydrations : Table (fun row : HostedRehydrationRow => row.rehydrationId)
  /-- `hosted_agent_completion_intents`. -/
  intents : Table (fun row : HostedIntentRow => row.candidateRunId)
  /-- `hosted_agent_completions`. -/
  completions : Table (fun row : HostedCompletionRow => row.candidateRunId)

/-- The tables of the cell store and the files of its blob store. -/
structure CellTables extends CellEvidence where
  /-- `hosted_agent_cells`. -/
  cells : Table (fun row : HostedCellRow => row.state.agentRunId)
  /-- `hosted_agent_cell_events`. -/
  events : Table (fun event : CellEvent => event.eventId)
  /-- `hosted_agent_blobs`. -/
  blobs : Table (fun row : HostedBlobRow => row.key)
  /-- The files. -/
  files : Table (fun file : BlobFile => file.key)
  /-- `hosted_context_envelopes`. -/
  envelopes : Table (fun row : HostedEnvelopeRow => row.envelopeDigest)

/-- A new database. -/
def CellTables.initial : CellTables where
  sections := Table.empty
  dispatches := Table.empty
  terminals := Table.empty
  toolRequests := Table.empty
  claims := Table.empty
  toolResults := Table.empty
  checkpoints := Table.empty
  rehydrations := Table.empty
  intents := Table.empty
  completions := Table.empty
  cells := Table.empty
  events := Table.empty
  blobs := Table.empty
  files := Table.empty
  envelopes := Table.empty

/-! ## Rows of a run in their order -/

/-- The events of a run, by revision. -/
def CellTables.eventsOf (db : CellTables) (run : Uuid) : List CellEvent :=
  sortOn (·.cellRevision) (db.events.rows.filter (fun event => event.agentRunId = run))

/-- The order of tool requests: the step, then the action. -/
def HostedToolRequestRow.order (row : HostedToolRequestRow) : Nat ×ₗ Uuid :=
  toLex (row.stepIndex, row.actionId)

namespace CellEvidence

/-- The sections of a run, by sequence. -/
def sectionsOf (db : CellEvidence) (run : Uuid) : List HostedSectionRow :=
  db.sections.rows.filter (fun row => row.agentRunId = run)

/-- The dispatches of a run, by step. -/
def dispatchesOf (db : CellEvidence) (run : Uuid) : List HostedDispatchRow :=
  sortOn (·.request.stepIndex)
    (db.dispatches.rows.filter (fun row => row.request.agentRunId = run))

/-- The terminals of a run, by the step of their dispatch. -/
def terminalsOf (db : CellEvidence) (run : Uuid) : List HostedTerminalRow :=
  (db.dispatchesOf run).filterMap (fun row => db.terminals.find? row.request.providerInvocationId)

/-- The tool requests of a run, by step and action. -/
def toolRequestsOf (db : CellEvidence) (run : Uuid) : List HostedToolRequestRow :=
  sortOn HostedToolRequestRow.order
    (db.toolRequests.rows.filter (fun row => row.agentRunId = run))

/-- The claims of a run, by the order of their requests. -/
def claimsOf (db : CellEvidence) (run : Uuid) : List HostedClaimRow :=
  (db.toolRequestsOf run).filterMap (fun row => db.claims.find? row.actionId)

/-- The checkpoints of a run, by revision. -/
def checkpointsOf (db : CellEvidence) (run : Uuid) : List HostedCheckpointRow :=
  sortOn (·.cellRevision) (db.checkpoints.rows.filter (fun row => row.agentRunId = run))

/-- The rehydrations of a run, by revision. -/
def rehydrationsOf (db : CellEvidence) (run : Uuid) : List HostedRehydrationRow :=
  sortOn (·.cellRevision) (db.rehydrations.rows.filter (fun row => row.agentRunId = run))

/-- The intents of a run, by time and candidate. -/
def intentsOf (db : CellEvidence) (run : Uuid) : List HostedIntentRow :=
  sortOn (fun row => (toLex (row.createdAt, row.candidateRunId) : Timestamp ×ₗ Uuid))
    (db.intents.rows.filter (fun row => row.agentRunId = run))

/-- The completions of a run, by time. -/
def completionsOf (db : CellEvidence) (run : Uuid) : List HostedCompletionRow :=
  sortOn (·.preparedAt) (db.completions.rows.filter (fun row => row.agentRunId = run))

end CellEvidence

/-! ## What a row says of an event -/

/-- The payload a dispatch gives. -/
def HostedDispatchRow.dispatched (sha : Sha256) (row : HostedDispatchRow) : ModelDispatched where
  providerInvocationId := row.request.providerInvocationId
  requestDigest := row.request.requestDigest sha
  contextDigest := row.request.contextDigest
  costCeilingUsd := row.request.costCeilingUsd

/-- The payload a completed terminal gives. -/
def HostedTerminalRow.completed? (sha : Sha256) (row : HostedTerminalRow) :
    Option ModelCompleted :=
  match row.terminal with
  | .completed result _ _ =>
    some ⟨row.providerInvocationId, result.resultDigest sha, row.durationMs,
      result.currencyCostUsd⟩
  | .failed .. | .reconciliationRequired .. => none

/-- The payload another terminal gives. -/
def HostedTerminalRow.failed? (row : HostedTerminalRow) : Option ModelFailed :=
  match row.terminal with
  | .completed .. => none
  | .failed _ failureDigest _ =>
    some ⟨row.providerInvocationId, failureDigest, row.durationMs, row.currencyCostUsd,
      row.networkAttempted, row.responseReceived, .blocked⟩
  | .reconciliationRequired _ failureDigest _ =>
    some ⟨row.providerInvocationId, failureDigest, row.durationMs, row.currencyCostUsd,
      row.networkAttempted, row.responseReceived, .reconciliationRequired⟩

/-- The payload an admitted request gives. -/
def HostedToolRequestRow.admitted? (sha : Sha256) (row : HostedToolRequestRow) :
    Option ToolAdmitted :=
  match row.decision with
  | .admitted _ admission =>
    some ⟨row.actionId, row.modelRequestDigest, admission.admissionDigest sha⟩
  | .denied .. => none

/-- The action, the request and the reason a denied request gives. -/
def HostedToolRequestRow.denied? (row : HostedToolRequestRow) : Option (Uuid × Digest × Digest) :=
  match row.decision with
  | .admitted .. => none
  | .denied _ reasonDigest => some (row.actionId, row.modelRequestDigest, reasonDigest)

/-- The action, the request and the reason of a denial's event. -/
def ToolDenied.subject (payload : ToolDenied) : Uuid × Digest × Digest :=
  (payload.actionId, payload.requestDigest, payload.reasonDigest)

/-- The payload a claim gives. -/
def HostedClaimRow.claimed (row : HostedClaimRow) : ToolClaimed where
  actionId := row.actionId
  admissionDigest := row.admissionDigest
  semanticProjectionDigest := row.semanticProjectionDigest
  ownershipFencingToken := row.ownershipFencingToken

/-- The payload a result gives with a section. -/
def HostedToolResultRow.completedWith (sha : Sha256) (row : HostedToolResultRow)
    (item : HostedSectionRow) : ToolCompleted where
  actionId := row.result.actionId
  referenceDigest := row.result.referenceDigest sha
  sectionDigest := item.sectionDigest
  durationMs := row.durationMs
  status := row.result.status

/-- The payload a checkpoint gives. -/
def HostedCheckpointRow.checkpointed (row : HostedCheckpointRow) : CellCheckpointed where
  checkpointDigest := row.checkpointDigest
  cellSnapshotDigest := row.snapshotDigest

/-- The payload a rehydration gives. -/
def HostedRehydrationRow.rehydrated (row : HostedRehydrationRow) : CellRehydrated where
  checkpointDigest := row.checkpointDigest
  receiptDigest := row.receiptDigest
  previousEpoch := row.previousEpoch
  newEpoch := row.newEpoch

/-- The payload an intent gives. -/
def HostedIntentRow.intended (row : HostedIntentRow) : CompletionIntent where
  candidateRunId := row.candidateRunId
  decisionDigest := row.decisionDigest
  finalAnswerDigest := row.finalAnswerDigest
  evidenceRefsDigest := row.evidenceRefsDigest
  intentDigest := row.intentDigest

/-- The payload a completion gives when it is prepared. -/
def HostedCompletionRow.prepared (row : HostedCompletionRow) : CompletionPrepared where
  candidateRunId := row.candidateRunId
  finalCaptureId := row.finalCaptureId
  finalAnswerDigest := row.finalAnswerDigest
  decisionDigest := row.decisionDigest
  evidenceRefsDigest := row.evidenceRefsDigest

/-- The payload a completion gives once it is finalized. -/
def HostedCompletionRow.finalized? (row : HostedCompletionRow) : Option CellCompleted :=
  row.finalizedAt.map (fun _ => ⟨row.finalCaptureId, row.finalAnswerDigest⟩)

namespace CellEventBody

/-- The sections an event adds. -/
def sectionDigests : CellEventBody → List Digest
  | .attached payload => payload.sectionDigests
  | .contextAppended sectionDigest => [sectionDigest]
  | .toolDenied payload => [payload.sectionDigest]
  | .toolCompleted payload => [payload.sectionDigest]
  | _ => []

/-- The payload of an attachment. -/
def attached? : CellEventBody → Option CellAttached
  | .attached payload => some payload
  | _ => none

/-- The payload of a dispatch. -/
def modelDispatched? : CellEventBody → Option ModelDispatched
  | .modelDispatched payload => some payload
  | _ => none

/-- The payload of a completed call. -/
def modelCompleted? : CellEventBody → Option ModelCompleted
  | .modelCompleted payload => some payload
  | _ => none

/-- The payload of a failed call. -/
def modelFailed? : CellEventBody → Option ModelFailed
  | .modelFailed payload => some payload
  | _ => none

/-- The payload of an admission. -/
def toolAdmitted? : CellEventBody → Option ToolAdmitted
  | .toolAdmitted payload => some payload
  | _ => none

/-- The payload of a denial. -/
def toolDenied? : CellEventBody → Option ToolDenied
  | .toolDenied payload => some payload
  | _ => none

/-- The payload of a claim. -/
def toolClaimed? : CellEventBody → Option ToolClaimed
  | .toolClaimed payload => some payload
  | _ => none

/-- The payload of a tool's result. -/
def toolCompleted? : CellEventBody → Option ToolCompleted
  | .toolCompleted payload => some payload
  | _ => none

/-- The payload of a checkpoint. -/
def checkpointed? : CellEventBody → Option CellCheckpointed
  | .checkpointed payload => some payload
  | _ => none

/-- The payload of a rehydration. -/
def rehydrated? : CellEventBody → Option CellRehydrated
  | .rehydrated payload => some payload
  | _ => none

/-- The payload of an intent. -/
def completionIntent? : CellEventBody → Option CompletionIntent
  | .completionIntent payload => some payload
  | _ => none

/-- The payload of a prepared completion. -/
def completionPrepared? : CellEventBody → Option CompletionPrepared
  | .completionPrepared payload => some payload
  | _ => none

/-- The payload of a completion. -/
def completed? : CellEventBody → Option CellCompleted
  | .completed payload => some payload
  | _ => none

end CellEventBody

/-! ## The evidence recomputed -/

namespace CellEvidence

/-- The results of a run with the sections whose source has their digest, by the order of their
requests. The join looks at the sections of every run. -/
def toolResultsOf (sha : Sha256) (db : CellEvidence) (run : Uuid) : List ToolCompleted :=
  (db.toolRequestsOf run).flatMap fun row =>
    match db.toolResults.find? row.actionId with
    | none => []
    | some result =>
      (db.sections.rows.filter
        (fun item => item.sourceDigest = result.result.referenceDigest sha)).map
          (result.completedWith sha)

/-- `_verify_evidence_tables`, for a cell with these events. -/
def verify (sha : Sha256) (db : CellEvidence) (state : HostedAgentCellState)
    (bodies : List CellEventBody) : Except MacrError Unit := do
  let run := state.agentRunId
  let expectedSections := bodies.flatMap (·.sectionDigests)
  raiseIf ((db.sectionsOf run).map (·.sectionDigest) ≠ expectedSections)
    (cellStateError "context section evidence does not match cell events")
  let attached ← require (match bodies.filterMap (·.attached?) with
    | [attached] => some attached
    | _ => none) (cellStateError "cell attachment evidence does not match genesis event")
  raiseIf (attached ≠ ⟨state.policyDigest, state.semanticRequestDigest,
      expectedSections.take attached.sectionDigests.length⟩)
    (cellStateError "cell attachment evidence does not match genesis event")
  raiseIf ((db.dispatchesOf run).map (·.dispatched sha) ≠ bodies.filterMap (·.modelDispatched?))
    (cellStateError "model dispatch evidence does not match cell events")
  raiseIf ((db.terminalsOf run).filterMap (·.completed? sha) ≠
        bodies.filterMap (·.modelCompleted?) ∨
      (db.terminalsOf run).filterMap (·.failed?) ≠ bodies.filterMap (·.modelFailed?))
    (cellStateError "model terminal evidence does not match cell events")
  let denied := (db.toolRequestsOf run).filterMap (·.denied?)
  let deniedPayloads := bodies.filterMap (·.toolDenied?)
  raiseIf ((db.toolRequestsOf run).filterMap (·.admitted? sha) ≠
        bodies.filterMap (·.toolAdmitted?) ∨ denied.length ≠ deniedPayloads.length)
    (cellStateError "tool request evidence does not match cell events")
  raiseIf ((denied.zip deniedPayloads).any (fun pair => pair.2.subject ≠ pair.1) = true)
    (cellStateError "tool denial evidence does not match cell event")
  raiseIf ((db.claimsOf run).map (·.claimed) ≠ bodies.filterMap (·.toolClaimed?))
    (cellStateError "tool claim evidence does not match cell events")
  raiseIf (db.toolResultsOf sha run ≠ bodies.filterMap (·.toolCompleted?))
    (cellStateError "tool terminal evidence does not match cell events")
  raiseIf ((db.checkpointsOf run).map (·.checkpointed) ≠ bodies.filterMap (·.checkpointed?))
    (cellStateError "checkpoint evidence does not match cell events")
  raiseIf ((db.rehydrationsOf run).map (·.rehydrated) ≠ bodies.filterMap (·.rehydrated?))
    (cellStateError "rehydration evidence does not match cell events")
  raiseIf ((db.intentsOf run).map (·.intended) ≠ bodies.filterMap (·.completionIntent?))
    (cellStateError "completion intent evidence does not match cell events")
  raiseIf ((db.completionsOf run).map (·.prepared) ≠ bodies.filterMap (·.completionPrepared?))
    (cellStateError "completion evidence does not match cell events")
  raiseIf ((db.completionsOf run).filterMap (·.finalized?) ≠ bodies.filterMap (·.completed?))
    (cellStateError "finalized completion does not match cell event")

end CellEvidence

namespace CellTables

/-- `_state_from_row`. -/
def stateFromRow (sha : Sha256) (row : HostedCellRow) : Except MacrError HostedAgentCellState := do
  raiseIf (row.state.stateDigest sha ≠ row.stateDigest)
    (cellStateError "hosted Agent cell state digest conflicts")
  pure row.state

/-- `_cell_row`. -/
def cellRow (sha : Sha256) (db : CellTables) (run : Uuid) : Except MacrError HostedCellRow := do
  let row ← require (db.cells.find? run) (cellStateError "hosted Agent cell does not exist")
  let observed ← stateFromRow sha row
  let replayed ← replayCellEvents sha run (db.eventsOf run)
  raiseIf (replayed ≠ observed)
    (cellStateError "hosted Agent cell projection does not match event history")
  db.verify sha observed ((db.eventsOf run).map (·.body))
  pure row

/-- `_cell_row` followed by `_state_from_row`. -/
def readState (sha : Sha256) (db : CellTables) (run : Uuid) :
    Except MacrError HostedAgentCellState := do
  let row ← db.cellRow sha run
  stateFromRow sha row

end CellTables

end Macr
