import Macr.Cell.Store

/-!
# Checkpoints and completion of hosted cells

The operations that stop a cell and take it up again, and those that end it. A checkpoint binds
the header of its run and the snapshot of the cell's evidence; a later owner rehydrates from it. A
final decision is completed in three records: the intent, the prepared completion that names the
captured bytes, and the finalization once the agent run is completed.
-/

namespace Macr

open Lib

/-- `CandidateCapture`. -/
structure CandidateCapture where
  /-- The capture. -/
  captureId : String
  /-- The provider it is filed under. -/
  providerId : String
  /-- The candidate's run. -/
  runId : Uuid
  /-- The digest of the bytes. -/
  sha256 : Digest
  /-- The number of bytes. -/
  byteCount : Nat
  /-- `task_digest`. -/
  taskDigest : Digest
  /-- `approval_digest`. -/
  approvalDigest : Option Digest
deriving DecidableEq

namespace CellTables

variable (kernel : CellKernel)

/-! ## Checkpoints -/

/-- `terminal_state` as a text. -/
def terminalText : ModelTerminal → String
  | .completed .. => "completed"
  | .failed .. => "failed"
  | .reconciliationRequired .. => "reconciliation_required"

/-- `failure_digest`. -/
def failureDigest? : ModelTerminal → Option Digest
  | .completed .. => none
  | .failed _ failureDigest _ | .reconciliationRequired _ failureDigest _ => some failureDigest

/-- The record of a dispatch in a snapshot. -/
def modelRecord (db : CellTables) (row : HostedDispatchRow) : ModelRecord :=
  let terminal := (db.terminals.find? row.request.providerInvocationId).map (·.terminal)
  { requestDigest := row.request.requestDigest kernel.sha
    terminalState := terminal.map terminalText
    resultDigest := (terminal.bind (evidence? kernel)).map (·.1)
    failureDigest := terminal.bind failureDigest? }

/-- The record of a tool request in a snapshot. -/
def toolRecord (db : CellTables) (row : HostedToolRequestRow) : ToolRecord where
  modelRequestDigest := row.modelRequestDigest
  decision := if (row.admitted? kernel.sha).isSome then "admitted" else "denied"
  admissionDigest := (row.admitted? kernel.sha).map (·.admissionDigest)
  reasonDigest := row.denied?.map (·.2.2)
  referenceDigest := (db.toolResults.find? row.actionId).map (·.result.referenceDigest kernel.sha)

/-- `_snapshot`, for the projection it has read. -/
def snapshot (db : CellTables) (state : HostedAgentCellState) : CellSnapshot where
  agentRunId := state.agentRunId
  policyDigest := state.policyDigest
  semanticRequestDigest := state.semanticRequestDigest
  nextStep := state.nextStep
  providerCalls := state.providerCalls
  toolCalls := state.toolCalls
  activeWallMs := state.activeWallMs
  currencyCostUsd := state.currencyCostUsd
  sectionDigests := (db.sectionsOf state.agentRunId).map (·.sectionDigest)
  modelRecords := (db.dispatchesOf state.agentRunId).map (db.modelRecord kernel)
  toolRecords := (db.toolRequestsOf state.agentRunId).map (db.toolRecord kernel)

/-- The bindings a checkpoint must have: those of the run's header, of the run's row and of the
cell. References are compared as sorted tuples. -/
def CheckpointBinds (projection : AgentRunProjection) (agentRow : AgentRunRow)
    (state : HostedAgentCellState) (checkpoint : AgentCheckpoint) : Prop :=
  let header := projection.initialHeader
  checkpoint.agentRunEpoch = projection.epoch ∧
    checkpoint.stateRevision = projection.stateRevision ∧
    checkpoint.goal = (header.goal.ref, header.goal.digest) ∧
    checkpoint.authority = header.authority.checkpointPart ∧ checkpoint.budget = header.budget ∧
    some checkpoint.semanticState = agentRow.semanticState ∧
    checkpoint.activePlan = header.activePlan ∧
    checkpoint.worldBasisRefs.Perm (header.worldBindings.map (·.ref)) ∧
    checkpoint.memoryBindingDigests.Perm (header.memoryBindings.map fun binding =>
      kernel.sha.sha256Id "macr.agent.memory-binding.v1" (.obj binding.identityFields)) ∧
    checkpoint.pendingActionRefs = [] ∧ checkpoint.reconciliationRefs = [] ∧
    checkpoint.verificationStateDigest = state.stateDigest kernel.sha ∧
    checkpoint.wakeConditionRef = none ∧
    checkpoint.parentCheckpointDigest = state.latestCheckpointDigest

instance (projection : AgentRunProjection) (agentRow : AgentRunRow)
    (state : HostedAgentCellState) (checkpoint : AgentCheckpoint) :
    Decidable (CheckpointBinds kernel projection agentRow state checkpoint) :=
  inferInstanceAs (Decidable (_ ∧ _ ∧ _ ∧ _ ∧ _ ∧ _ ∧ _ ∧ _ ∧ _ ∧ _ ∧ _ ∧ _ ∧ _ ∧ _))

/-- `INSERT INTO hosted_agent_checkpoints`. -/
def insertCheckpoint (db : CellTables) (row : HostedCheckpointRow) :
    Except MacrError CellTables := do
  raiseIf (∃ other ∈ db.checkpoints.rows, other.checkpointDigest = row.checkpointDigest ∨
    (other.agentRunId = row.agentRunId ∧ other.cellRevision = row.cellRevision)) .integrity
  let checkpoints ← require (db.checkpoints.insert? row) .integrity
  pure { db with checkpoints := checkpoints }

/-- `create_checkpoint`: the projection and the digest of the snapshot. -/
def createCheckpoint (agents : AgentTables) (caller : CellCaller) (db : CellTables)
    (permit : AgentOwnershipPermit) (checkpoint : AgentCheckpoint) (eventId : Uuid) :
    Except MacrError (CellTables × HostedAgentCellState × Digest) := do
  let (projection, agentRow) ← verifyPermit kernel agents permit caller.now
  let row ← db.cellRow kernel.sha permit.agentRunId
  let state ← stateFromRow kernel.sha row
  verifyAuthority caller projection state.policyDigest "checkpoint"
  raiseIf (state.status ≠ .ready ∧ state.status ≠ .running ∧ state.status ≠ .blocked)
    (cellCheckpointError "cell cannot checkpoint now")
  raiseIf (db.pendingCounts kernel.sha permit.agentRunId ≠ (0, 0))
    (cellReconciliationError "checkpoint cannot include a pending operation")
  raiseIf (checkpoint.agentRunId ≠ permit.agentRunId ∨
      ¬CheckpointBinds kernel projection agentRow state checkpoint)
    (cellCheckpointError "checkpoint bindings are stale")
  let read ← db.readState kernel.sha permit.agentRunId
  let snapshot := db.snapshot kernel read
  let snapshotDigest := snapshot.digest kernel.sha
  let checkpointDigest := checkpoint.checkpointDigest kernel.sha
  match db.checkpoints.find? checkpoint.checkpointId with
  | some existing =>
    raiseIf (existing.checkpointDigest ≠ checkpointDigest)
      (cellCheckpointError "checkpoint identity conflicts")
    pure (db, state, snapshotDigest)
  | none =>
    let db ← db.insertCheckpoint
      { agentRunId := permit.agentRunId
        cellRevision := state.cellRevision + 1
        checkpoint := checkpoint
        checkpointDigest := checkpointDigest
        snapshot := snapshot
        snapshotDigest := snapshotDigest
        parentCheckpointDigest := state.latestCheckpointDigest }
    let (db, next) ← db.updateState kernel row (.checkpointed ⟨checkpointDigest, snapshotDigest⟩)
      eventId caller.now (fun current => { current with
        status := .checkpointed
        latestCheckpointDigest := some checkpointDigest })
    pure (db, next, snapshotDigest)

/-- What a checkpoint must still agree with at rehydration: the evidence, the header's goal,
authority and budget, the semantic state, and an epoch before the owner's. -/
def StillBinds (projection : AgentRunProjection) (agentRow : AgentRunRow)
    (permit : AgentOwnershipPermit) (selected : Digest) (snapshot : CellSnapshot)
    (row : HostedCheckpointRow) : Prop :=
  let header := projection.initialHeader
  let checkpoint := row.checkpoint
  checkpoint.checkpointDigest kernel.sha = selected ∧
    row.snapshotDigest = snapshot.digest kernel.sha ∧ row.snapshot = snapshot ∧
    checkpoint.agentRunEpoch < permit.epoch ∧ checkpoint.agentRunId = permit.agentRunId ∧
    checkpoint.goal.2 = header.goal.digest ∧
    checkpoint.authority.digest = header.authority.digest ∧
    checkpoint.budget.digest = header.budget.digest ∧
    some checkpoint.semanticState = agentRow.semanticState

instance (projection : AgentRunProjection) (agentRow : AgentRunRow)
    (permit : AgentOwnershipPermit) (selected : Digest) (snapshot : CellSnapshot)
    (row : HostedCheckpointRow) :
    Decidable (StillBinds kernel projection agentRow permit selected snapshot row) :=
  inferInstanceAs (Decidable (_ ∧ _ ∧ _ ∧ _ ∧ _ ∧ _ ∧ _ ∧ _ ∧ _))

/-- The digest of a rehydration. -/
def receiptOf (rehydrationId run : Uuid) (selected : Digest) (previousEpoch newEpoch
    fencingToken : Nat) (rehydratedAt : Timestamp) : Digest :=
  kernel.sha.sha256Id "macr.hosted-agent-cell.rehydration.v1" (.obj
    [("rehydration_id", .hex rehydrationId), ("agent_run_id", .hex run),
      ("checkpoint_digest", .hex selected), ("previous_epoch", .int previousEpoch),
      ("new_epoch", .int newEpoch), ("fencing_token", .int fencingToken),
      ("rehydrated_at", .time rehydratedAt)])

/-- `INSERT INTO hosted_agent_rehydrations`. -/
def insertRehydration (db : CellTables) (row : HostedRehydrationRow) :
    Except MacrError CellTables := do
  raiseIf (row.previousEpoch < 1 ∨ row.newEpoch ≤ row.previousEpoch) .integrity
  raiseIf (∃ other ∈ db.rehydrations.rows, other.receiptDigest = row.receiptDigest ∨
    (other.agentRunId = row.agentRunId ∧ other.cellRevision = row.cellRevision)) .integrity
  let rehydrations ← require (db.rehydrations.insert? row) .integrity
  pure { db with rehydrations := rehydrations }

/-- `rehydrate`. -/
def rehydrate (agents : AgentTables) (caller : CellCaller) (db : CellTables)
    (permit : AgentOwnershipPermit) (selected : Digest) (rehydrationId eventId : Uuid) :
    Except MacrError (CellTables × HostedAgentCellState) := do
  let (projection, agentRow) ← verifyPermit kernel agents permit caller.now
  let row ← db.cellRow kernel.sha permit.agentRunId
  let state ← stateFromRow kernel.sha row
  verifyAuthority caller projection state.policyDigest "rehydrate"
  raiseIf (state.status ≠ .checkpointed ∨ state.latestCheckpointDigest ≠ some selected)
    (cellCheckpointError "cell is not at the named checkpoint")
  raiseIf (db.pendingCounts kernel.sha permit.agentRunId ≠ (0, 0))
    (cellReconciliationError "checkpoint has pending operations")
  let checkpointRow ← require
    (db.checkpoints.rows.find? (fun other => other.checkpointDigest = selected))
    (cellCheckpointError "checkpoint evidence is missing")
  let read ← db.readState kernel.sha permit.agentRunId
  raiseIf (¬StillBinds kernel projection agentRow permit selected (db.snapshot kernel read)
    checkpointRow) (cellCheckpointError "checkpoint reconstruction diverged")
  let previousEpoch := checkpointRow.checkpoint.agentRunEpoch
  let receipt := receiptOf kernel rehydrationId permit.agentRunId selected previousEpoch
    permit.epoch permit.fencingToken caller.now
  let db ← db.insertRehydration
    { rehydrationId := rehydrationId
      agentRunId := permit.agentRunId
      cellRevision := state.cellRevision + 1
      checkpointDigest := selected
      previousEpoch := previousEpoch
      newEpoch := permit.epoch
      fencingToken := permit.fencingToken
      receiptDigest := receipt
      rehydratedAt := caller.now }
  db.updateState kernel row (.rehydrated ⟨selected, receipt, previousEpoch, permit.epoch⟩) eventId
    caller.now (fun current => { current with status := .running })

/-! ## The final decision and the evidence it may cite -/

/-- The dispatch and the result of the last completed model call of a run. -/
def lastCompleted (db : CellTables) (run : Uuid) :
    Option (HostedDispatchRow × HostedModelResult × BlobKey) :=
  ((db.dispatchesOf run).filterMap fun row =>
    (db.terminals.find? row.request.providerInvocationId).bind fun terminalRow =>
      match terminalRow.terminal with
      | .completed result _ decisionBlob => some (row, result, decisionBlob)
      | .failed .. | .reconciliationRequired .. => none).getLast?

/-- The decision in the blob a terminal names, compared with the terminal's result. -/
def storedDecision (db : CellTables) (run : Uuid) (result : HostedModelResult)
    (decisionBlob : BlobKey) : Except MacrError HostedModelDecision := do
  let blob ← db.blobFromRef (.hosted decisionBlob) run .modelDecision
  let content ← db.readBlob kernel blob
  let decision ← require (match content with
    | .modelDecision decision => some decision
    | _ => none) (.valueError "HostedModelDecision identity does not match")
  raiseIf (result.decision.decisionDigest kernel.sha ≠ decision.decisionDigest kernel.sha)
    (cellStateError "stored model decision conflicts")
  pure decision

/-- `_last_model_decision`. -/
def lastModelDecision (db : CellTables) (run : Uuid) : Except MacrError HostedModelDecision := do
  let (_, result, decisionBlob) ← require (db.lastCompleted run)
    (cellStateError "cell has no completed model decision")
  db.storedDecision kernel run result decisionBlob

/-- A field of a document. -/
def field? (document : Json) (name : String) : Option Json :=
  match document with
  | .obj fields => (fields.find? (fun entry => entry.1 = name)).map (·.2)
  | _ => none

/-- The references a section of an envelope makes citable. -/
def sectionRefs (item : HostedContextSection) : Except MacrError (List EvidenceRef) :=
  if item.kind = .toolResult then do
    let document ← require (match item.body with
      | .text value => kernel.loads value
      | .canonical document => some document)
      (cellStateError "model tool-result context is invalid")
    let evidenceRef ← require ((field? document "result_ref").bind (field? · "evidence_ref"))
      (cellStateError "model tool-result context is invalid")
    raiseIf (evidenceRef ≠ item.sourceRef.toJson)
      (cellStateError "model tool-result evidence reference conflicts")
    pure [item.evidenceRef, item.sourceRef]
  else pure [item.evidenceRef]

/-- `_latest_model_context_evidence_refs`: what the context of the last completed call shows. -/
def latestContextEvidenceRefs (db : CellTables) (run : Uuid) :
    Except MacrError (List EvidenceRef) := do
  let (dispatch, _, _) ← require (db.lastCompleted run)
    (cellStateError "cell has no completed model context")
  let blob ← db.blobFromRef dispatch.request.contextBlobRef run .projection
  let envelope ← require ((db.envelopes.find? dispatch.request.contextDigest).filter
    (fun row => row.agentRunId = run)) (cellStateError "model context envelope evidence is missing")
  raiseIf (envelope.blob ≠ blob.toBlobKey)
    (cellStateError "model context envelope evidence is missing")
  let content ← db.readBlob kernel blob
  let document ← require (match content with
    | .projection document => some document
    | _ => none) (cellStateError "model context envelope is invalid")
  raiseIf (document.envelopeDigest ≠ dispatch.request.contextDigest ∨
      envelopeDigestOf kernel document.causalDigest (document.withoutDigest kernel.sha) ≠
        dispatch.request.contextDigest)
    (cellStateError "model context envelope identity conflicts")
  let refs ← document.sections.mapM (sectionRefs kernel)
  pure refs.flatten

/-! ## Completion -/

/-- The digest of cited evidence. -/
def evidenceRefsDigest (refs : List EvidenceRef) : Digest :=
  kernel.sha.sha256Id "macr.hosted-agent-cell.completion-evidence.v1"
    (.obj [("evidence_refs", .arr (refs.map (·.toJson)))])

/-- The digest of an intent. -/
def intentDigestOf (candidateRunId run : Uuid) (decisionDigest answerDigest : Digest)
    (refs : List EvidenceRef) (createdAt : Timestamp) : Digest :=
  kernel.sha.sha256Id "macr.hosted-agent-cell.completion-intent.v1" (.obj
    [("candidate_run_id", .hex candidateRunId), ("agent_run_id", .hex run),
      ("decision_digest", .hex decisionDigest), ("final_answer_digest", .hex answerDigest),
      ("evidence_refs", .arr (refs.map (·.toJson))),
      ("evidence_refs_digest", .hex (evidenceRefsDigest kernel refs)),
      ("created_at", .time createdAt)])

/-- `hashlib.sha256` of a candidate's bytes. -/
def answerDigestOf (candidate : String) : Digest := kernel.sha.sha256 (.str candidate)

/-- The candidate and the references of a final decision. -/
def finalParts (decision : HostedModelDecision) : Option (String × List EvidenceRef) :=
  match decision.content with
  | .toolRequest _ => none
  | .finalCandidate candidate evidenceRefs _ => some (candidate, evidenceRefs)

/-- `INSERT INTO hosted_agent_completion_intents`. -/
def insertIntent (db : CellTables) (row : HostedIntentRow) : Except MacrError CellTables := do
  raiseIf (∃ other ∈ db.intents.rows, other.agentRunId = row.agentRunId ∨
    other.intentDigest = row.intentDigest) .integrity
  let intents ← require (db.intents.insert? row) .integrity
  pure { db with intents := intents }

/-- `create_completion_intent`: the digest of the intent. -/
def createCompletionIntent (agents : AgentTables) (caller : CellCaller) (db : CellTables)
    (permit : AgentOwnershipPermit) (candidateRunId : Uuid) (decision : HostedModelDecision)
    (eventId : Uuid) : Except MacrError (CellTables × Digest) := do
  let (candidate, refs) ← require (finalParts decision)
    (.valueError "completion intent requires one final decision")
  let decisionDigest := decision.decisionDigest kernel.sha
  let answerDigest := answerDigestOf kernel candidate
  let intentDigest := intentDigestOf kernel candidateRunId permit.agentRunId decisionDigest
    answerDigest refs caller.now
  let (projection, _) ← verifyPermit kernel agents permit caller.now
  let row ← db.cellRow kernel.sha permit.agentRunId
  let state ← stateFromRow kernel.sha row
  verifyAuthority caller projection state.policyDigest "completion_intent"
  raiseIf (state.status ≠ .running) (cellStateError "cell cannot intend completion")
  raiseIf (db.pendingCounts kernel.sha permit.agentRunId ≠ (0, 0))
    (cellReconciliationError "completion intent has pending operations")
  let last ← db.lastModelDecision kernel permit.agentRunId
  raiseIf (last ≠ decision)
    (cellStateError "completion intent does not bind last model decision")
  let known ← db.latestContextEvidenceRefs kernel permit.agentRunId
  raiseIf (∃ ref ∈ refs, ref ∉ known)
    (cellStateError "completion intent cites unknown evidence")
  match db.intents.rows.find? (fun other => other.agentRunId = permit.agentRunId) with
  | some existing =>
    raiseIf (existing.intentDigest ≠ intentDigest)
      (cellStateError "completion intent identity conflicts")
    pure (db, intentDigest)
  | none =>
    let db ← db.insertIntent
      { candidateRunId := candidateRunId
        agentRunId := permit.agentRunId
        decisionDigest := decisionDigest
        finalAnswerDigest := answerDigest
        evidenceRefs := refs
        evidenceRefsDigest := evidenceRefsDigest kernel refs
        intentDigest := intentDigest
        createdAt := caller.now }
    let (db, _) ← db.updateState kernel row (.completionIntent ⟨candidateRunId, decisionDigest,
      answerDigest, evidenceRefsDigest kernel refs, intentDigest⟩) eventId caller.now id
    pure (db, intentDigest)

/-- `task_digest` of a final candidate. -/
def finalTaskDigest (run : Uuid) (policyDigest : Digest) (refs : List EvidenceRef) : Digest :=
  kernel.sha.sha256Id "macr.hosted-agent-cell.final-task.v1" (.obj
    [("agent_run_id", .hex run), ("policy_digest", .hex policyDigest),
      ("evidence_refs", .arr (refs.map (·.toJson)))])

/-- `INSERT INTO hosted_agent_completions`. -/
def insertCompletion (db : CellTables) (row : HostedCompletionRow) :
    Except MacrError CellTables := do
  raiseIf (∃ other ∈ db.completions.rows, other.agentRunId = row.agentRunId) .integrity
  let completions ← require (db.completions.insert? row) .integrity
  pure { db with completions := completions }

/-- `prepare_completion`. -/
def prepareCompletion (agents : AgentTables) (caller : CellCaller) (db : CellTables)
    (permit : AgentOwnershipPermit) (candidateRunId : Uuid) (capture : CandidateCapture)
    (decision : HostedModelDecision) (evidenceRefs : List EvidenceRef) (eventId : Uuid) :
    Except MacrError (CellTables × HostedAgentCellState) := do
  raiseIf (capture.runId ≠ candidateRunId ∨ capture.providerId ≠ "hosted_agent_cell" ∨
      (finalParts decision).map (answerDigestOf kernel ·.1) ≠ some capture.sha256)
    (.valueError "capture must belong to candidate_run_id")
  raiseIf (evidenceRefs = []) (cellStateError "final candidate cites no evidence")
  let refsDigest := evidenceRefsDigest kernel evidenceRefs
  let decisionDigest := decision.decisionDigest kernel.sha
  let (projection, _) ← verifyPermit kernel agents permit caller.now
  let row ← db.cellRow kernel.sha permit.agentRunId
  let state ← stateFromRow kernel.sha row
  verifyAuthority caller projection state.policyDigest "completion_prepare"
  raiseIf (state.status ≠ .running) (cellStateError "cell cannot complete now")
  raiseIf (db.pendingCounts kernel.sha permit.agentRunId ≠ (0, 0))
    (cellReconciliationError "completion has pending operations")
  let known ← db.latestContextEvidenceRefs kernel permit.agentRunId
  raiseIf (∃ ref ∈ evidenceRefs, ref ∉ known)
    (cellStateError "completion evidence was not observed by the final model")
  raiseIf (capture.taskDigest ≠ finalTaskDigest kernel permit.agentRunId
        (row.policy.policyDigest kernel.sha) evidenceRefs ∨
      capture.approvalDigest ≠ some projection.initialHeader.authority.digest)
    (cellStateError "completion capture provenance conflicts")
  let intent ← require (db.intents.rows.find? (fun other => other.agentRunId = permit.agentRunId))
    (cellStateError "completion has no exact durable intent")
  raiseIf (intent.candidateRunId ≠ candidateRunId ∨ intent.decisionDigest ≠ decisionDigest ∨
      intent.finalAnswerDigest ≠ capture.sha256 ∨ intent.evidenceRefsDigest ≠ refsDigest ∨
      intent.evidenceRefs ≠ evidenceRefs)
    (cellStateError "completion has no exact durable intent")
  let (_, result, decisionBlob) ← require (db.lastCompleted permit.agentRunId)
    (cellStateError "final candidate has no completed model decision")
  let stored ← db.storedDecision kernel permit.agentRunId result decisionBlob
  raiseIf (result.decision.decisionDigest kernel.sha ≠ decisionDigest ∨ stored ≠ decision ∨
      (finalParts decision).map (·.2) ≠ some evidenceRefs)
    (cellStateError "completion does not bind the exact final model decision")
  let db ← db.insertCompletion
    { candidateRunId := candidateRunId
      agentRunId := permit.agentRunId
      finalCaptureId := capture.captureId
      finalAnswerDigest := capture.sha256
      decisionDigest := decisionDigest
      evidenceRefsDigest := refsDigest
      preparedAt := caller.now
      finalizedAt := none }
  db.updateState kernel row (.completionPrepared ⟨candidateRunId, capture.captureId,
      capture.sha256, decisionDigest, refsDigest⟩) eventId
    caller.now (fun current => { current with
      status := .completionPending
      final := some ⟨candidateRunId, capture.captureId, capture.sha256⟩ })

/-- The evidence of the last `agent.completed` event of a run. -/
def completionEvidence (agents : AgentTables) (run : Uuid) : Option (String × Digest) :=
  ((agents.history run).filterMap fun event =>
    match event.body with
    | .completed evidenceRef evidenceDigest => some (evidenceRef, evidenceDigest)
    | _ => none).getLast?

/-- `finalize_completion`. No permit is asked for: the completed agent run decides. -/
def finalizeCompletion (agents : AgentTables) (caller : CellCaller) (db : CellTables)
    (run : Uuid) (eventId : Uuid) : Except MacrError (CellTables × HostedAgentCellState) := do
  let row ← db.cellRow kernel.sha run
  let state ← stateFromRow kernel.sha row
  if state.status = .completed then pure (db, state)
  else do
    raiseIf (state.status ≠ .completionPending) (cellStateError "cell has no pending completion")
    let agentRow ← require (agents.runs.find? run) (.typeError "NoneType")
    let projection ← agentRow.projection kernel.sha
    raiseIf (projection.state ≠ .completed) (cellStateError "AgentRun is not completed")
    let (evidenceRef, evidenceDigest) ← require (completionEvidence agents run)
      (cellStateError "AgentRun completion event is missing")
    raiseIf (state.final.map (fun final => ("candidate:" ++ final.captureId, final.answerDigest)) ≠
        some (evidenceRef, evidenceDigest))
      (cellStateError "AgentRun completion evidence conflicts")
    let final ← require state.final .assertionError
    let completions := db.completions.update
      (fun other => other.agentRunId = run ∧ other.finalizedAt = none)
      (fun other => { other with finalizedAt := some caller.now }) (fun _ => rfl)
    { db with completions := completions }.updateState kernel row
      (.completed ⟨final.captureId, final.answerDigest⟩) eventId caller.now
      (fun current => { current with status := .completed })

end CellTables

end Macr
