import Macr.Cell.Contracts
import Macr.Lib.EventLog

/-!
# Hosted cell events

The projection of a cell is a record that its constructor checks. Every change of a cell is an
event: it carries the payload of its type and the whole projection after it, so replaying a chain
recomputes each projection from the one before and refuses an event that claims another.
-/

namespace Macr

open Lib

/-- `HostedAgentCellStateError`. -/
def cellStateError (message : String) : MacrError :=
  .hostedCell "HostedAgentCellStateError" message

/-- `HostedAgentCellBudgetError`. -/
def cellBudgetError (message : String) : MacrError :=
  .hostedCell "HostedAgentCellBudgetError" message

/-- `HostedAgentReconciliationRequired`. -/
def cellReconciliationError (message : String) : MacrError :=
  .hostedCell "HostedAgentReconciliationRequired" message

/-- `HostedAgentCheckpointError`. -/
def cellCheckpointError (message : String) : MacrError :=
  .hostedCell "HostedAgentCheckpointError" message

/-! ## Projections -/

/-- The final candidate of a cell; its three fields are present together. -/
structure FinalCandidate where
  /-- `candidate_run_id`. -/
  candidateRunId : Uuid
  /-- `final_capture_id`. -/
  captureId : String
  /-- `final_answer_digest`. -/
  answerDigest : Digest
deriving DecidableEq

/-- The fields of `HostedAgentCellState` before its constructor checks them. -/
structure CellFields where
  /-- The run. -/
  agentRunId : Uuid
  /-- The number of events so far. -/
  cellRevision : Nat
  /-- The policy. -/
  policyDigest : Digest
  /-- The semantic request. -/
  semanticRequestDigest : Digest
  /-- The status. -/
  status : HostedAgentCellStatus
  /-- The next step. -/
  nextStep : Nat
  /-- The model calls dispatched. -/
  providerCalls : Nat
  /-- The tool actions admitted. -/
  toolCalls : Nat
  /-- The recorded durations. -/
  activeWallMs : Nat
  /-- The reported costs. -/
  currencyCostUsd : ℚ
  /-- The last checkpoint. -/
  latestCheckpointDigest : Option Digest
  /-- The final candidate. -/
  final : Option FinalCandidate
  /-- When the cell was attached. -/
  createdAt : Timestamp
  /-- When the cell last changed. -/
  updatedAt : Timestamp
deriving DecidableEq

/-- What `HostedAgentCellState.__post_init__` checks between the fields. -/
def CellFields.Valid (fields : CellFields) : Prop :=
  0 < fields.cellRevision ∧ 0 < fields.nextStep ∧ 0 ≤ fields.currencyCostUsd ∧
    (fields.status.completing = true → fields.final ≠ none)

instance (fields : CellFields) : Decidable fields.Valid :=
  inferInstanceAs (Decidable (_ ∧ _ ∧ _ ∧ (_ → _)))

/-- `HostedAgentCellState`. -/
structure HostedAgentCellState extends CellFields where
  /-- The constructor has accepted the fields. -/
  valid : toCellFields.Valid
deriving DecidableEq

namespace HostedAgentCellState

/-- `HostedAgentCellState.__init__`, which `dataclasses.replace` also runs. -/
def ofFields (fields : CellFields) : Except MacrError HostedAgentCellState :=
  if valid : fields.Valid then .ok ⟨fields, valid⟩
  else .error (.valueError "completion state requires final candidate evidence")

/-- A state that is made has the fields it was made from. -/
@[simp] theorem ofFields_eq_ok {fields : CellFields} {state : HostedAgentCellState} :
    ofFields fields = .ok state ↔ state.toCellFields = fields := by
  unfold ofFields
  constructor
  · intro made
    split at made
    · rw [← Except.ok.inj made]
    · exact absurd made (by simp)
  · rintro rfl
    rw [dif_pos state.valid]

/-- `_identity_dict`. -/
def identityFields (state : HostedAgentCellState) : List (String × Json) :=
  [("agent_run_id", .hex state.agentRunId), ("cell_revision", .int state.cellRevision),
    ("policy_digest", .hex state.policyDigest),
    ("semantic_request_digest", .hex state.semanticRequestDigest),
    ("status", .str state.status.value), ("next_step", .int state.nextStep),
    ("provider_calls", .int state.providerCalls), ("tool_calls", .int state.toolCalls),
    ("active_wall_ms", .int state.activeWallMs),
    ("currency_cost_usd", .num state.currencyCostUsd),
    ("latest_checkpoint_digest", .optHex state.latestCheckpointDigest),
    ("candidate_run_id", .optHex (state.final.map (·.candidateRunId))),
    ("final_capture_id", .optStr (state.final.map (·.captureId))),
    ("final_answer_digest", .optHex (state.final.map (·.answerDigest))),
    ("created_at", .time state.createdAt), ("updated_at", .time state.updatedAt)]

/-- `state_digest`. -/
def stateDigest (sha : Sha256) (state : HostedAgentCellState) : Digest :=
  sha.sha256Id "macr.hosted-agent-cell.state.v1" (.obj state.identityFields)

end HostedAgentCellState

/-! ## Payloads -/

/-- The payload of `cell.attached`. -/
structure CellAttached where
  /-- The policy. -/
  policyDigest : Digest
  /-- The semantic request. -/
  semanticRequestDigest : Digest
  /-- The first sections. -/
  sectionDigests : List Digest
deriving DecidableEq

/-- The payload of `cell.model_dispatched`. -/
structure ModelDispatched where
  /-- The invocation. -/
  providerInvocationId : Uuid
  /-- The request. -/
  requestDigest : Digest
  /-- The context. -/
  contextDigest : Digest
  /-- The ceiling of the call. -/
  costCeilingUsd : ℚ
deriving DecidableEq

/-- The payload of `cell.model_completed`. -/
structure ModelCompleted where
  /-- The invocation. -/
  providerInvocationId : Uuid
  /-- The result. -/
  resultDigest : Digest
  /-- How long the call took. -/
  durationMs : Nat
  /-- The reported cost. -/
  currencyCostUsd : ℚ
deriving DecidableEq

/-- The payload of `cell.model_failed`. -/
structure ModelFailed where
  /-- The invocation. -/
  providerInvocationId : Uuid
  /-- The failure. -/
  failureDigest : Digest
  /-- How long the call took. -/
  durationMs : Nat
  /-- The cost, if it is known. -/
  currencyCostUsd : Option ℚ
  /-- Whether the network was attempted, if known. -/
  networkAttempted : Option Bool
  /-- Whether a response was received, if known. -/
  responseReceived : Option Bool
  /-- The status the failure leads to. -/
  cellStatus : HostedAgentCellStatus
deriving DecidableEq

/-- The payload of `cell.tool_admitted`. -/
structure ToolAdmitted where
  /-- The action. -/
  actionId : Uuid
  /-- The tool request. -/
  requestDigest : Digest
  /-- The admission. -/
  admissionDigest : Digest
deriving DecidableEq

/-- The payload of `cell.tool_denied`. -/
structure ToolDenied where
  /-- The action. -/
  actionId : Uuid
  /-- The tool request. -/
  requestDigest : Digest
  /-- The reason. -/
  reasonDigest : Digest
  /-- The section that tells the model. -/
  sectionDigest : Digest
deriving DecidableEq

/-- The payload of `cell.tool_claimed`. -/
structure ToolClaimed where
  /-- The action. -/
  actionId : Uuid
  /-- The admission. -/
  admissionDigest : Digest
  /-- The semantic projection. -/
  semanticProjectionDigest : Digest
  /-- The owner's token. -/
  ownershipFencingToken : Nat
deriving DecidableEq

/-- The payload of `cell.tool_completed`. -/
structure ToolCompleted where
  /-- The action. -/
  actionId : Uuid
  /-- The result. -/
  referenceDigest : Digest
  /-- The section that tells the model. -/
  sectionDigest : Digest
  /-- How long the tool took. -/
  durationMs : Nat
  /-- How it ended. -/
  status : HostedToolResultStatus
deriving DecidableEq

/-- The payload of `cell.checkpointed`. -/
structure CellCheckpointed where
  /-- The checkpoint. -/
  checkpointDigest : Digest
  /-- The snapshot. -/
  cellSnapshotDigest : Digest
deriving DecidableEq

/-- The payload of `cell.rehydrated`. -/
structure CellRehydrated where
  /-- The checkpoint. -/
  checkpointDigest : Digest
  /-- The receipt. -/
  receiptDigest : Digest
  /-- The epoch of the checkpoint. -/
  previousEpoch : Nat
  /-- The epoch of the new owner. -/
  newEpoch : Nat
deriving DecidableEq

/-- The payload of `cell.completion_intent`. -/
structure CompletionIntent where
  /-- The candidate's run. -/
  candidateRunId : Uuid
  /-- The final decision. -/
  decisionDigest : Digest
  /-- The answer. -/
  finalAnswerDigest : Digest
  /-- The cited evidence. -/
  evidenceRefsDigest : Digest
  /-- The intent. -/
  intentDigest : Digest
deriving DecidableEq

/-- The payload of `cell.completion_prepared`. -/
structure CompletionPrepared where
  /-- The candidate's run. -/
  candidateRunId : Uuid
  /-- The capture. -/
  finalCaptureId : String
  /-- The answer. -/
  finalAnswerDigest : Digest
  /-- The final decision. -/
  decisionDigest : Digest
  /-- The cited evidence. -/
  evidenceRefsDigest : Digest
deriving DecidableEq

/-- The payload of `cell.completed`. -/
structure CellCompleted where
  /-- The capture. -/
  finalCaptureId : String
  /-- The answer. -/
  finalAnswerDigest : Digest
deriving DecidableEq

/-- The type of a cell event with the payload of the type. -/
inductive CellEventBody where
  | attached (payload : CellAttached)
  | contextAppended (sectionDigest : Digest)
  | modelDispatched (payload : ModelDispatched)
  | modelCompleted (payload : ModelCompleted)
  | modelFailed (payload : ModelFailed)
  | reconciliationRequired (pendingModels pendingTools : Nat)
  | toolAdmitted (payload : ToolAdmitted)
  | toolDenied (payload : ToolDenied)
  | toolClaimed (payload : ToolClaimed)
  | toolCompleted (payload : ToolCompleted)
  | checkpointed (payload : CellCheckpointed)
  | rehydrated (payload : CellRehydrated)
  | completionIntent (payload : CompletionIntent)
  | completionPrepared (payload : CompletionPrepared)
  | completed (payload : CellCompleted)
deriving DecidableEq

namespace CellEventBody

/-- `event_type`. -/
def eventType : CellEventBody → String
  | .attached _ => "cell.attached"
  | .contextAppended _ => "cell.context_appended"
  | .modelDispatched _ => "cell.model_dispatched"
  | .modelCompleted _ => "cell.model_completed"
  | .modelFailed _ => "cell.model_failed"
  | .reconciliationRequired _ _ => "cell.reconciliation_required"
  | .toolAdmitted _ => "cell.tool_admitted"
  | .toolDenied _ => "cell.tool_denied"
  | .toolClaimed _ => "cell.tool_claimed"
  | .toolCompleted _ => "cell.tool_completed"
  | .checkpointed _ => "cell.checkpointed"
  | .rehydrated _ => "cell.rehydrated"
  | .completionIntent _ => "cell.completion_intent"
  | .completionPrepared _ => "cell.completion_prepared"
  | .completed _ => "cell.completed"

/-- The document of a payload. -/
def payload : CellEventBody → Json
  | .attached payload =>
    .obj [("policy_digest", .hex payload.policyDigest),
      ("semantic_request_digest", .hex payload.semanticRequestDigest),
      ("section_digests", .hexes payload.sectionDigests)]
  | .contextAppended sectionDigest => .obj [("section_digest", .hex sectionDigest)]
  | .modelDispatched payload =>
    .obj [("provider_invocation_id", .hex payload.providerInvocationId),
      ("request_digest", .hex payload.requestDigest),
      ("context_digest", .hex payload.contextDigest),
      ("cost_ceiling_usd", .num payload.costCeilingUsd)]
  | .modelCompleted payload =>
    .obj [("provider_invocation_id", .hex payload.providerInvocationId),
      ("result_digest", .hex payload.resultDigest), ("duration_ms", .int payload.durationMs),
      ("currency_cost_usd", .num payload.currencyCostUsd)]
  | .modelFailed payload =>
    .obj [("provider_invocation_id", .hex payload.providerInvocationId),
      ("failure_digest", .hex payload.failureDigest), ("duration_ms", .int payload.durationMs),
      ("currency_cost_usd", .optNum payload.currencyCostUsd),
      ("network_attempted", .optBool payload.networkAttempted),
      ("response_received", .optBool payload.responseReceived),
      ("cell_status", .str payload.cellStatus.value)]
  | .reconciliationRequired pendingModels pendingTools =>
    .obj [("pending_model_dispatches", .int pendingModels),
      ("pending_tool_dispatches", .int pendingTools)]
  | .toolAdmitted payload =>
    .obj [("action_id", .hex payload.actionId), ("request_digest", .hex payload.requestDigest),
      ("admission_digest", .hex payload.admissionDigest)]
  | .toolDenied payload =>
    .obj [("action_id", .hex payload.actionId), ("request_digest", .hex payload.requestDigest),
      ("reason_digest", .hex payload.reasonDigest),
      ("section_digest", .hex payload.sectionDigest)]
  | .toolClaimed payload =>
    .obj [("action_id", .hex payload.actionId),
      ("admission_digest", .hex payload.admissionDigest),
      ("semantic_projection_digest", .hex payload.semanticProjectionDigest),
      ("ownership_fencing_token", .int payload.ownershipFencingToken)]
  | .toolCompleted payload =>
    .obj [("action_id", .hex payload.actionId),
      ("reference_digest", .hex payload.referenceDigest),
      ("section_digest", .hex payload.sectionDigest), ("duration_ms", .int payload.durationMs),
      ("status", .str payload.status.value)]
  | .checkpointed payload =>
    .obj [("checkpoint_digest", .hex payload.checkpointDigest),
      ("cell_snapshot_digest", .hex payload.cellSnapshotDigest)]
  | .rehydrated payload =>
    .obj [("checkpoint_digest", .hex payload.checkpointDigest),
      ("receipt_digest", .hex payload.receiptDigest),
      ("previous_epoch", .int payload.previousEpoch), ("new_epoch", .int payload.newEpoch)]
  | .completionIntent payload =>
    .obj [("candidate_run_id", .hex payload.candidateRunId),
      ("decision_digest", .hex payload.decisionDigest),
      ("final_answer_digest", .hex payload.finalAnswerDigest),
      ("evidence_refs_digest", .hex payload.evidenceRefsDigest),
      ("intent_digest", .hex payload.intentDigest)]
  | .completionPrepared payload =>
    .obj [("candidate_run_id", .hex payload.candidateRunId),
      ("final_capture_id", .str payload.finalCaptureId),
      ("final_answer_digest", .hex payload.finalAnswerDigest),
      ("decision_digest", .hex payload.decisionDigest),
      ("evidence_refs_digest", .hex payload.evidenceRefsDigest)]
  | .completed payload =>
    .obj [("final_capture_id", .str payload.finalCaptureId),
      ("final_answer_digest", .hex payload.finalAnswerDigest)]

/-- `payload_digest`. -/
def payloadDigest (sha : Sha256) (body : CellEventBody) : Digest :=
  sha.sha256Id "macr.hosted-agent-cell.event-payload.v1"
    (.obj [("event_type", .str body.eventType), ("payload", body.payload)])

/-- What an event that is no genesis changes, besides the revision and the time. -/
def changes (body : CellEventBody) (current : CellFields) : CellFields :=
  match body with
  | .attached _ | .contextAppended _ | .toolDenied _ | .toolClaimed _ | .completionIntent _ =>
    current
  | .modelDispatched _ =>
    { current with
      status := .running
      nextStep := current.nextStep + 1
      providerCalls := current.providerCalls + 1 }
  | .modelCompleted payload =>
    { current with
      activeWallMs := current.activeWallMs + payload.durationMs
      currencyCostUsd := current.currencyCostUsd + payload.currencyCostUsd }
  | .modelFailed payload =>
    { current with
      status := payload.cellStatus
      activeWallMs := current.activeWallMs + payload.durationMs
      currencyCostUsd := current.currencyCostUsd + payload.currencyCostUsd.getD 0 }
  | .reconciliationRequired _ _ => { current with status := .reconciliationRequired }
  | .toolAdmitted _ => { current with toolCalls := current.toolCalls + 1 }
  | .toolCompleted payload =>
    { current with activeWallMs := current.activeWallMs + payload.durationMs }
  | .checkpointed payload =>
    { current with
      status := .checkpointed
      latestCheckpointDigest := some payload.checkpointDigest }
  | .rehydrated _ => { current with status := .running }
  | .completionPrepared payload =>
    { current with
      status := .completionPending
      final := some ⟨payload.candidateRunId, payload.finalCaptureId,
        payload.finalAnswerDigest⟩ }
  | .completed _ => { current with status := .completed }

/-- The fields after an event: its changes, the next revision and the time. -/
def fieldsAfter (body : CellEventBody) (current : CellFields) (updatedAt : Timestamp) :
    CellFields :=
  { body.changes current with
    cellRevision := current.cellRevision + 1
    updatedAt := updatedAt }

end CellEventBody

/-- `_transition_expected`. -/
def transitionExpected (current : Option HostedAgentCellState) (next : HostedAgentCellState)
    (body : CellEventBody) : Except MacrError Unit :=
  match current, body with
  | none, .attached _ =>
    raiseIf (next.cellRevision ≠ 1 ∨ next.status ≠ .ready ∨ next.nextStep ≠ 1 ∨
        next.providerCalls ≠ 0 ∨ next.toolCalls ≠ 0)
      (cellStateError "cell event chain has invalid genesis")
  | none, _ => .error (cellStateError "cell event chain has invalid genesis")
  | some _, .attached _ => .error (cellStateError "cell event type is unsupported")
  | some current, body => do
    let expected ← HostedAgentCellState.ofFields
      (body.fieldsAfter current.toCellFields next.updatedAt)
    raiseIf (expected ≠ next)
      (cellStateError "cell event does not produce its claimed projection")

/-! ## Events -/

/-- A row of `hosted_agent_cell_events`. -/
structure CellEvent where
  /-- Primary key. -/
  eventId : Uuid
  /-- The run. -/
  agentRunId : Uuid
  /-- The place in the run's chain, counted from one. -/
  cellRevision : Nat
  /-- `event_type` and `payload_json`. -/
  body : CellEventBody
  /-- `payload_digest`. -/
  payloadDigest : Digest
  /-- `prior_event_digest`. -/
  priorEventDigest : Digest
  /-- `state_after_json`. -/
  stateAfter : HostedAgentCellState
  /-- `state_digest_after`. -/
  stateDigestAfter : Digest
  /-- `event_digest`. -/
  eventDigest : Digest
  /-- When the event was appended. -/
  createdAt : Timestamp
deriving DecidableEq

namespace CellEvent

/-- The digest of an event of a run at a place that names a prior event. -/
def digestOf (sha : Sha256) (eventId agentRunId : Uuid) (cellRevision : Nat)
    (body : CellEventBody) (priorEventDigest stateDigestAfter : Digest)
    (createdAt : Timestamp) : Digest :=
  sha.sha256Id "macr.hosted-agent-cell.event.v1" (.obj
    [("event_id", .hex eventId), ("agent_run_id", .hex agentRunId),
      ("cell_revision", .int cellRevision), ("event_type", .str body.eventType),
      ("payload_digest", .hex (body.payloadDigest sha)),
      ("prior_event_digest", .hex priorEventDigest),
      ("state_digest_after", .hex stateDigestAfter), ("created_at", .time createdAt)])

/-- The row `_append_event` inserts after a row with a digest. -/
def following (sha : Sha256) (eventId : Uuid) (next : HostedAgentCellState)
    (body : CellEventBody) (priorEventDigest : Digest) : CellEvent where
  eventId := eventId
  agentRunId := next.agentRunId
  cellRevision := next.cellRevision
  body := body
  payloadDigest := body.payloadDigest sha
  priorEventDigest := priorEventDigest
  stateAfter := next
  stateDigestAfter := next.stateDigest sha
  eventDigest := digestOf sha eventId next.agentRunId next.cellRevision body priorEventDigest
    (next.stateDigest sha) next.updatedAt
  createdAt := next.updatedAt

/-- What `_replay_events` compares a row with, at a place of a run after a digest. -/
def Continues (sha : Sha256) (event : CellEvent) (agentRunId : Uuid) (index : Nat)
    (priorDigest : Digest) : Prop :=
  event.cellRevision = index ∧ event.payloadDigest = event.body.payloadDigest sha ∧
    event.priorEventDigest = priorDigest ∧
    event.stateDigestAfter = event.stateAfter.stateDigest sha ∧
    event.eventDigest = digestOf sha event.eventId agentRunId index event.body priorDigest
      (event.stateAfter.stateDigest sha) event.createdAt ∧
    event.stateAfter.agentRunId = agentRunId ∧ event.stateAfter.cellRevision = index ∧
    event.stateAfter.updatedAt = event.createdAt

instance (sha : Sha256) (event : CellEvent) (agentRunId : Uuid) (index : Nat)
    (priorDigest : Digest) : Decidable (event.Continues sha agentRunId index priorDigest) :=
  inferInstanceAs (Decidable (_ ∧ _ ∧ _ ∧ _ ∧ _ ∧ _ ∧ _ ∧ _))

end CellEvent

/-- The place, the digest and the projection the loop of `_replay_events` has come to. -/
structure ReplayPoint where
  /-- The number of rows read. -/
  index : Nat
  /-- The digest of the last row. -/
  priorDigest : Digest
  /-- The projection after the last row. -/
  current : HostedAgentCellState

/-- One turn of the loop of `_replay_events`. -/
def replayTurn (sha : Sha256) (agentRunId : Uuid) (before : Option ReplayPoint)
    (event : CellEvent) : Except MacrError ReplayPoint := do
  let index := (before.map (·.index)).getD 0 + 1
  let priorDigest := (before.map (·.priorDigest)).getD zeroDigest
  raiseIf (¬event.Continues sha agentRunId index priorDigest)
    (cellStateError "cell event chain is invalid")
  transitionExpected (before.map (·.current)) event.stateAfter event.body
  pure ⟨index, event.eventDigest, event.stateAfter⟩

/-- The chain of one run as a log. -/
def cellEventLog (sha : Sha256) (agentRunId : Uuid) :
    Lib.EventLog ReplayPoint CellEvent MacrError where
  apply := replayTurn sha agentRunId

/-- `_replay_events`, on the rows in the order of their revisions. -/
def replayCellEvents (sha : Sha256) (agentRunId : Uuid) (events : List CellEvent) :
    Except MacrError HostedAgentCellState := do
  let point ← (cellEventLog sha agentRunId).replayFrom none events
  let point ← require point (cellStateError "cell event history is missing")
  pure point.current

/-! ## What a turn does -/

/-- A transition from a projection succeeds exactly when the event's fields are the next ones. -/
theorem transitionExpected_some {current next : HostedAgentCellState} {body : CellEventBody}
    {value : Unit} : transitionExpected (some current) next body = .ok value ↔
      (∀ payload, body ≠ .attached payload) ∧
        next.toCellFields = body.fieldsAfter current.toCellFields next.updatedAt := by
  cases body with
  | attached payload => simp [transitionExpected]
  | _ =>
    simp only [transitionExpected, bind_eq_ok, HostedAgentCellState.ofFields_eq_ok,
      raiseIf_eq_ok, ne_eq, not_not, reduceCtorEq, not_false_eq_true, implies_true, true_and]
    constructor
    · rintro ⟨expected, fields, rfl⟩
      exact fields
    · intro fields
      exact ⟨next, fields, rfl⟩

/-- A transition from nothing succeeds exactly when a new cell is attached. -/
theorem transitionExpected_none {next : HostedAgentCellState} {body : CellEventBody}
    {value : Unit} : transitionExpected none next body = .ok value ↔
      (∃ payload, body = .attached payload) ∧ next.cellRevision = 1 ∧ next.status = .ready ∧
        next.nextStep = 1 ∧ next.providerCalls = 0 ∧ next.toolCalls = 0 := by
  cases body <;> simp [transitionExpected, not_or]

/-- The row that follows another continues the chain at its own revision. -/
theorem CellEvent.following_continues (sha : Sha256) (eventId : Uuid)
    (next : HostedAgentCellState) (body : CellEventBody) (priorEventDigest : Digest) :
    (following sha eventId next body priorEventDigest).Continues sha next.agentRunId
      next.cellRevision priorEventDigest :=
  ⟨rfl, rfl, rfl, rfl, rfl, rfl, rfl, rfl⟩

end Macr
