import Macr.Cell.Tables

/-!
# The hosted cell store

Each operation that changes a cell is one write transaction: it checks the caller's permit against
the agent tables, reads the cell with all its cross-checks, inserts its evidence and appends one
event. Blobs are written to files, which a rollback does not undo.
-/

namespace Macr

open Lib

/-- `StoragePolicyError` of the blob store. -/
def storagePolicyError : MacrError := .other "StoragePolicyError"

/-- `_pending_counts`: dispatches without a terminal, and admitted requests without a result. -/
def CellEvidence.pendingCounts (sha : Sha256) (db : CellEvidence) (run : Uuid) : Nat × Nat :=
  (db.dispatches.rows.countP (fun row => row.request.agentRunId = run ∧
      db.terminals.find? row.request.providerInvocationId = none),
    db.toolRequests.rows.countP (fun row => row.agentRunId = run ∧
      (row.admitted? sha).isSome ∧ db.toolResults.find? row.actionId = none))

namespace CellTables

variable (kernel : CellKernel)

/-! ## Blobs -/

/-- The digest of the bytes of a blob. -/
def contentDigest (content : BlobContent) : Digest := kernel.sha.sha256 (content.toJson kernel.sha)

/-- The number of bytes of a blob. -/
def contentLength (content : BlobContent) : Nat :=
  kernel.encodedLength (content.toJson kernel.sha)

/-- The document `json.loads` reads from the bytes of a blob. -/
def contentDocument (content : BlobContent) : Option Json :=
  match content with
  | .raw bytes => kernel.loads bytes
  | other => some (other.toJson kernel.sha)

/-- The reference of some bytes. -/
def blobRefOf (run : Uuid) (role : HostedBlobRole) (content : BlobContent) : HostedBlobRef :=
  { agentRunId := run, role := role, sha256 := contentDigest kernel content,
    byteCount := contentLength kernel content }

/-- `HostedAgentBlobStore.write`: a file that is there is kept and compared. -/
def writeBlob (db : CellTables) (run : Uuid) (role : HostedBlobRole) (content : BlobContent) :
    Except MacrError (CellTables × HostedBlobRef) := do
  let blob := blobRefOf kernel run role content
  let files := (db.files.insert? ⟨blob.toBlobKey, content⟩).getD db.files
  raiseIf ((files.find? blob.toBlobKey).map (contentLength kernel ·.content) ≠
    some blob.byteCount) storagePolicyError
  pure ({ db with files := files }, blob)

/-- `HostedAgentBlobStore.read`. -/
def readBlob (db : CellTables) (blob : HostedBlobRef) : Except MacrError BlobContent := do
  let file ← require (db.files.find? blob.toBlobKey) storagePolicyError
  raiseIf (contentLength kernel file.content ≠ blob.byteCount ∨
    contentDigest kernel file.content ≠ blob.sha256) storagePolicyError
  pure file.content

/-- `_register_blob`. -/
def registerBlob (db : CellTables) (blob : HostedBlobRef) (createdAt : Timestamp) :
    Except MacrError CellTables := do
  let _ ← db.readBlob kernel blob
  match db.blobs.find? blob.toBlobKey with
  | none =>
    let blobs ← require (db.blobs.insert? ⟨blob.toBlobKey, blob.byteCount, createdAt⟩) .integrity
    pure { db with blobs := blobs }
  | some existing =>
    raiseIf (existing.byteCount ≠ blob.byteCount) (cellStateError "hosted blob metadata conflicts")
    pure db

/-- `_require_blob`. -/
def requireBlob (blob : HostedBlobRef) (run : Uuid) (role : HostedBlobRole) :
    Except MacrError Unit :=
  raiseIf (blob.agentRunId ≠ run ∨ blob.role ≠ role)
    (cellStateError "hosted blob does not match its AgentRun and role")

/-- `_blob_from_ref`. -/
def blobFromRef (db : CellTables) (blobRef : BlobRefText) (run : Uuid) (role : HostedBlobRole) :
    Except MacrError HostedBlobRef := do
  let row ← require (match blobRef with
    | .hosted key => db.blobs.find? key
    | .text _ => none) (cellStateError "hosted blob metadata is missing")
  raiseIf (row.key.agentRunId ≠ run ∨ row.key.role ≠ role)
    (cellStateError "hosted blob reference crosses AgentRun or role")
  pure { row.key with byteCount := row.byteCount }

/-! ## Checks and writes that operations share -/

/-- `_verify_permit`: the projection and the row of the permitted run. -/
def verifyPermit (agents : AgentTables) (permit : AgentOwnershipPermit) (now : Timestamp) :
    Except MacrError (AgentRunProjection × AgentRunRow) := do
  let row ← require (agents.runs.find? permit.agentRunId)
    (cellStateError "AgentRun does not exist")
  let projection ← row.projection kernel.sha
  raiseIf (projection.state ≠ .active) (cellStateError "hosted Agent cell requires ACTIVE AgentRun")
  let _ ← AgentTables.requirePermitRow (agents.ownership.find? permit.agentRunId) permit (some now)
  raiseIf (projection.epoch ≠ permit.epoch)
    (cellStateError "AgentRun epoch does not match ownership")
  pure (projection, row)

/-- `_verify_authority`. -/
def verifyAuthority (caller : CellCaller) (projection : AgentRunProjection)
    (policyDigest : Digest) (operation : String) : Except MacrError Unit :=
  caller.verifyCell projection.initialHeader.authority projection.agentRunId policyDigest operation

/-- The row of a section under a blob. -/
def sectionRow (item : HostedContextSection) (blob : HostedBlobRef) : HostedSectionRow where
  sectionId := item.sectionId
  agentRunId := item.agentRunId
  kind := item.kind
  blob := blob.toBlobKey
  bodyDigest := item.bodyDigest kernel.sha
  bodyBytes := kernel.encodedLength item.body.toJson
  sourceDigest := item.sourceDigest
  sectionDigest := item.sectionDigest kernel.sha
  createdAt := item.createdAt

/-- `INSERT INTO hosted_context_sections`. -/
def insertSection (db : CellTables) (row : HostedSectionRow) : Except MacrError CellTables := do
  raiseIf (∃ other ∈ db.sections.rows, other.sectionDigest = row.sectionDigest) .integrity
  let sections ← require (db.sections.insert? row) .integrity
  pure { db with sections := sections }

/-- `_append_event`. -/
def appendEvent (db : CellTables) (current : Option HostedAgentCellState)
    (next : HostedAgentCellState) (body : CellEventBody) (eventId : Uuid) :
    Except MacrError CellTables := do
  transitionExpected current next body
  let prior := ((db.eventsOf next.agentRunId).getLast?.map (·.eventDigest)).getD zeroDigest
  let event := CellEvent.following kernel.sha eventId next body prior
  raiseIf (∃ other ∈ db.events.rows, (other.agentRunId = event.agentRunId ∧
    other.cellRevision = event.cellRevision) ∨ other.eventDigest = event.eventDigest) .integrity
  let events ← require (db.events.insert? event) .integrity
  pure { db with events := events }

/-- `_update_state`: `dataclasses.replace` with the next revision and some changes, the event and
the compare and swap of the row. -/
def updateState (db : CellTables) (row : HostedCellRow) (body : CellEventBody) (eventId : Uuid)
    (updatedAt : Timestamp) (changes : CellFields → CellFields) :
    Except MacrError (CellTables × HostedAgentCellState) := do
  let current ← stateFromRow kernel.sha row
  let next ← HostedAgentCellState.ofFields
    { changes current.toCellFields with
      cellRevision := current.cellRevision + 1
      updatedAt := updatedAt }
  let db ← db.appendEvent kernel (some current) next body eventId
  let met (other : HostedCellRow) : Bool :=
    other.state.agentRunId = next.agentRunId ∧ other.stateDigest = current.stateDigest kernel.sha
  raiseIf (db.cells.rows.countP met ≠ 1)
    (cellStateError "hosted Agent cell state changed concurrently")
  let swap (other : HostedCellRow) : HostedCellRow :=
    if other.state.agentRunId = next.agentRunId then
      { other with state := next, stateDigest := next.stateDigest kernel.sha }
    else other
  pure ({ db with cells := db.cells.update met swap (by
    intro other
    by_cases same : other.state.agentRunId = next.agentRunId <;> simp [swap, same]) }, next)

/-- A result of a transaction that no write of a file precedes. -/
def settled {α : Type} (db : CellTables) (result : Except MacrError (CellTables × α)) :
    Except MacrError (Committed CellTables α) :=
  .ok (settle db (result.map (fun (after, value) => (after, .ok value))))

/-! ## Attachment and context -/

/-- The blobs of the sections, written in order. -/
def writeSections (db : CellTables) : List HostedContextSection →
    Except MacrError (CellTables × List (HostedContextSection × HostedBlobRef))
  | [] => .ok (db, [])
  | item :: rest => do
    let (db, blob) ← db.writeBlob kernel item.agentRunId .context (.context item)
    let (db, blobs) ← writeSections db rest
    pure (db, (item, blob) :: blobs)

/-- The rows of the first sections. -/
def insertSections (db : CellTables) (now : Timestamp) :
    List (HostedContextSection × HostedBlobRef) → Except MacrError CellTables
  | [] => .ok db
  | (item, blob) :: rest => do
    let db ← db.registerBlob kernel blob now
    let db ← db.insertSection (sectionRow kernel item blob)
    insertSections db now rest

/-- The projection of a new cell. -/
def attachedState (policy : HostedAgentCellPolicy) (request : SemanticContextRequest)
    (now : Timestamp) : HostedAgentCellState where
  agentRunId := policy.agentRunId
  cellRevision := 1
  policyDigest := policy.policyDigest kernel.sha
  semanticRequestDigest := request.requestDigest kernel.sha
  status := .ready
  nextStep := 1
  providerCalls := 0
  toolCalls := 0
  activeWallMs := 0
  currencyCostUsd := 0
  latestCheckpointDigest := none
  final := none
  createdAt := now
  updatedAt := now
  valid := ⟨Nat.one_pos, Nat.one_pos, Rat.le_refl, nofun⟩

/-- The transaction of `attach`. -/
def attachCell (agents : AgentTables) (caller : CellCaller) (db : CellTables)
    (permit : AgentOwnershipPermit) (policy : HostedAgentCellPolicy)
    (request : SemanticContextRequest) (blobs : List (HostedContextSection × HostedBlobRef))
    (eventId : Uuid) : Except MacrError (CellTables × HostedAgentCellState) := do
  let (projection, agentRow) ← verifyPermit kernel agents permit caller.now
  verifyAuthority caller projection (policy.policyDigest kernel.sha) "cell_attach"
  raiseIf (db.cells.find? policy.agentRunId ≠ none)
    (cellStateError "hosted Agent cell already exists")
  raiseIf (agentRow.semanticState.map (fun binding =>
      (binding.ref, binding.digest, binding.revision)) ≠
      some (.semanticGraph request.graphId, request.graphDigest, request.graphRevision))
    (cellStateError "hosted cell semantic request is not AgentRun-pinned")
  let state := attachedState kernel policy request caller.now
  let cells ← require (db.cells.insert? ⟨policy, request, state, state.stateDigest kernel.sha⟩)
    .integrity
  let db := { db with cells := cells }
  let db ← db.insertSections kernel caller.now blobs
  let db ← db.appendEvent kernel none state (.attached ⟨policy.policyDigest kernel.sha,
    request.requestDigest kernel.sha, blobs.map (·.1.sectionDigest kernel.sha)⟩) eventId
  pure (db, state)

/-- `attach`. -/
def attach (agents : AgentTables) (caller : CellCaller) (db : CellTables)
    (permit : AgentOwnershipPermit) (policy : HostedAgentCellPolicy)
    (request : SemanticContextRequest) (items : List HostedContextSection) (eventId : Uuid) :
    Except MacrError (Committed CellTables HostedAgentCellState) := do
  raiseIf (items = [] ∨ ∃ item ∈ items, item.agentRunId ≠ policy.agentRunId)
    (.valueError "sections must contain this AgentRun's context")
  raiseIf (permit.agentRunId ≠ policy.agentRunId ∨ request.agentRunId ≠ policy.agentRunId)
    (cellStateError "hosted cell identities conflict")
  let (db, blobs) ← db.writeSections kernel items
  settled db (attachCell kernel agents caller db permit policy request blobs eventId)

/-- `append_context_section`. The blob is written inside the transaction, and stays. -/
def appendContextSection (agents : AgentTables) (caller : CellCaller) (db : CellTables)
    (permit : AgentOwnershipPermit) (item : HostedContextSection) (eventId : Uuid) :
    Except MacrError (Committed CellTables HostedAgentCellState) := do
  raiseIf (item.agentRunId ≠ permit.agentRunId)
    (.valueError "section must belong to the permitted AgentRun")
  let (projection, _) ← verifyPermit kernel agents permit caller.now
  let row ← db.cellRow kernel.sha permit.agentRunId
  let state ← stateFromRow kernel.sha row
  verifyAuthority caller projection state.policyDigest "context_append"
  raiseIf (state.status ≠ .running) (cellStateError "cell cannot append context in current state")
  raiseIf (db.pendingCounts kernel.sha permit.agentRunId ≠ (0, 0))
    (cellReconciliationError "cell cannot append context while an operation is pending")
  let (db, blob) ← db.writeBlob kernel item.agentRunId .context (.context item)
  settled db do
    let db ← db.registerBlob kernel blob caller.now
    let db ← db.insertSection (sectionRow kernel item blob)
    db.updateState kernel row (.contextAppended (item.sectionDigest kernel.sha)) eventId
      caller.now id

/-! ## Models -/

/-- `mark_pending_reconciliation`; nothing is returned when nothing is pending. -/
def markPendingReconciliation (agents : AgentTables) (caller : CellCaller) (db : CellTables)
    (permit : AgentOwnershipPermit) (eventId : Uuid) :
    Except MacrError (CellTables × Option HostedAgentCellState) := do
  let _ ← verifyPermit kernel agents permit caller.now
  let row ← db.cellRow kernel.sha permit.agentRunId
  let state ← stateFromRow kernel.sha row
  let (pendingModels, pendingTools) := db.pendingCounts kernel.sha permit.agentRunId
  if pendingModels = 0 ∧ pendingTools = 0 then
    pure (db, none)
  else if state.status = .reconciliationRequired then
    pure (db, some state)
  else do
    let (db, next) ← db.updateState kernel row
      (.reconciliationRequired pendingModels pendingTools) eventId caller.now
      (fun current => { current with status := .reconciliationRequired })
    pure (db, some next)

/-- `INSERT INTO hosted_model_dispatches`. -/
def insertDispatch (db : CellTables) (row : HostedDispatchRow) : Except MacrError CellTables := do
  raiseIf (∃ other ∈ db.dispatches.rows,
    other.request.requestDigest kernel.sha = row.request.requestDigest kernel.sha ∨
    (other.request.agentRunId = row.request.agentRunId ∧
      other.request.stepIndex = row.request.stepIndex)) .integrity
  let dispatches ← require (db.dispatches.insert? row) .integrity
  pure { db with dispatches := dispatches }

/-- `begin_model_attempt`. The cell is that of the request. -/
def beginModelAttempt (agents : AgentTables) (caller : CellCaller) (db : CellTables)
    (permit : AgentOwnershipPermit) (request : HostedModelRequest) (eventId : Uuid) :
    Except MacrError (CellTables × HostedAgentCellState) := do
  let (projection, _) ← verifyPermit kernel agents permit caller.now
  let row ← db.cellRow kernel.sha request.agentRunId
  let state ← stateFromRow kernel.sha row
  let policy := row.policy
  verifyAuthority caller projection (policy.policyDigest kernel.sha) "model_dispatch"
  raiseIf (state.status ≠ .ready ∧ state.status ≠ .running)
    (cellStateError "cell cannot dispatch a model in current state")
  raiseIf (db.pendingCounts kernel.sha state.agentRunId ≠ (0, 0))
    (cellReconciliationError "cell has a pending operation")
  raiseIf (request.stepIndex ≠ state.nextStep ∨ request.policyDigest ≠ state.policyDigest ∨
      request.terms ≠ policy.terms ∨ request.agentRunEpoch ≠ permit.epoch)
    (cellStateError "model request is stale or mismatched")
  raiseIf (policy.maxSteps < state.nextStep ∨ policy.maxProviderCalls ≤ state.providerCalls)
    (cellBudgetError "model-call budget is exhausted")
  raiseIf (policy.wallLimitMs ≤ state.activeWallMs)
    (cellBudgetError "active wall budget is exhausted")
  raiseIf (policy.maxCurrencyCostUsd < state.currencyCostUsd)
    (cellBudgetError "currency budget is exhausted")
  raiseIf (request.costCeilingUsd ≠ policy.maxProviderCallCostUsd ∨
      policy.maxCurrencyCostUsd - state.currencyCostUsd < request.costCeilingUsd)
    (cellBudgetError "per-call cost ceiling exceeds remaining budget")
  raiseIf (policy.maxContextBytes < request.contextBytes)
    (cellBudgetError "context byte budget is exceeded")
  let db ← db.insertDispatch kernel ⟨request, caller.now⟩
  db.updateState kernel row (.modelDispatched ⟨request.providerInvocationId,
      request.requestDigest kernel.sha, request.contextDigest, request.costCeilingUsd⟩) eventId
    caller.now (fun current => { current with
      status := .running
      nextStep := state.nextStep + 1
      providerCalls := state.providerCalls + 1 })

/-- `INSERT INTO hosted_model_terminals`. -/
def insertTerminal (db : CellTables) (row : HostedTerminalRow) : Except MacrError CellTables := do
  let terminals ← require (db.terminals.insert? row) .integrity
  pure { db with terminals := terminals }

/-- A proposal a model's bytes are read as, with identifiers. -/
def compiledDecision (content : HostedDecisionContent) : HostedModelDecision := ⟨0, content⟩

/-- The dispatch of an invocation, which must be the permitted run's. -/
def dispatchOf (db : CellTables) (permit : AgentOwnershipPermit) (invocation : Uuid) :
    Except MacrError HostedDispatchRow := do
  let dispatch ← require (db.dispatches.find? invocation)
    (cellStateError "model dispatch evidence is missing")
  raiseIf (dispatch.request.agentRunId ≠ permit.agentRunId)
    (cellStateError "model dispatch evidence is missing")
  pure dispatch

/-- The result's digest and the blobs of a completed terminal. -/
def evidence? (terminal : ModelTerminal) : Option (Digest × BlobKey × BlobKey) :=
  match terminal with
  | .completed result rawBlob decisionBlob =>
    some (result.resultDigest kernel.sha, rawBlob, decisionBlob)
  | .failed .. | .reconciliationRequired .. => none

/-- `finish_model_success`. -/
def finishModelSuccess (agents : AgentTables) (caller : CellCaller) (db : CellTables)
    (permit : AgentOwnershipPermit) (result : HostedModelResult)
    (rawBlob decisionBlob : HostedBlobRef) (eventId : Uuid) :
    Except MacrError (CellTables × HostedAgentCellState) := do
  requireBlob rawBlob permit.agentRunId .modelRaw
  requireBlob decisionBlob permit.agentRunId .modelDecision
  let raw ← db.readBlob kernel rawBlob
  let decision ← db.readBlob kernel decisionBlob
  raiseIf (decision ≠ .modelDecision result.decision)
    (cellStateError "model decision blob conflicts with compiled decision")
  let proposal ← require (match raw with
    | .raw bytes => kernel.readProposal bytes
    | _ => none) (cellStateError "raw model bytes cannot reconstruct the compiled proposal")
  raiseIf ((compiledDecision proposal).proposalDigest kernel.sha ≠
    result.decision.proposalDigest kernel.sha)
    (cellStateError "raw and compiled model proposals conflict")
  let _ ← verifyPermit kernel agents permit caller.now
  let _ ← db.dispatchOf permit result.providerInvocationId
  let row ← db.cellRow kernel.sha permit.agentRunId
  match db.terminals.find? result.providerInvocationId with
  | some existing =>
    raiseIf (evidence? kernel existing.terminal ≠ some (result.resultDigest kernel.sha,
      rawBlob.toBlobKey, decisionBlob.toBlobKey)) (cellStateError "model terminal conflicts")
    let state ← db.readState kernel.sha permit.agentRunId
    pure (db, state)
  | none =>
    raiseIf (result.providerId ≠ row.policy.terms.providerId ∨
      result.modelId ≠ row.policy.terms.modelId) (cellStateError "model result identity conflicts")
    let db ← db.registerBlob kernel rawBlob caller.now
    let db ← db.registerBlob kernel decisionBlob caller.now
    let db ← db.insertTerminal
      { providerInvocationId := result.providerInvocationId
        terminal := .completed result rawBlob.toBlobKey decisionBlob.toBlobKey
        currencyCostUsd := some result.currencyCostUsd
        durationMs := result.durationMs
        networkAttempted := result.networkAttempted
        responseReceived := result.responseReceived
        terminalAt := caller.now }
    let state ← stateFromRow kernel.sha row
    db.updateState kernel row (.modelCompleted ⟨result.providerInvocationId,
        result.resultDigest kernel.sha, result.durationMs, result.currencyCostUsd⟩) eventId
      caller.now (fun current => { current with
        activeWallMs := state.activeWallMs + result.durationMs
        currencyCostUsd := state.currencyCostUsd + result.currencyCostUsd })

/-- How a model call failed. -/
structure ModelFailure where
  /-- `failure_code`. -/
  failureCode : String
  /-- `failure_digest`. -/
  failureDigest : Digest
  /-- `duration_ms`. -/
  durationMs : Nat
  /-- Whether the call may have had an effect that is not known. -/
  ambiguous : Bool
  /-- The cost, if it is known. -/
  currencyCostUsd : Option ℚ
  /-- Whether the network was attempted, if known. -/
  networkAttempted : Option Bool
  /-- Whether a response was received, if known. -/
  responseReceived : Option Bool
deriving DecidableEq

/-- The status a failure leads to. -/
def ModelFailure.cellStatus (failure : ModelFailure) : HostedAgentCellStatus :=
  if failure.ambiguous then .reconciliationRequired else .blocked

/-- The terminal of a failure. -/
def ModelFailure.terminal (failure : ModelFailure) (rawBlob : Option HostedBlobRef) :
    ModelTerminal :=
  if failure.ambiguous then
    .reconciliationRequired failure.failureCode failure.failureDigest (rawBlob.map (·.toBlobKey))
  else .failed failure.failureCode failure.failureDigest (rawBlob.map (·.toBlobKey))

/-- `_register_blob` of the raw bytes of a failure, if they are kept. -/
def registerRaw (db : CellTables) (permit : AgentOwnershipPermit) (now : Timestamp) :
    Option HostedBlobRef → Except MacrError CellTables
  | none => .ok db
  | some blob => do
    requireBlob blob permit.agentRunId .modelRaw
    db.registerBlob kernel blob now

/-- `finish_model_failure`. The cell's status is not looked at. -/
def finishModelFailure (agents : AgentTables) (caller : CellCaller) (db : CellTables)
    (permit : AgentOwnershipPermit) (invocation : Uuid) (failure : ModelFailure)
    (rawBlob : Option HostedBlobRef) (eventId : Uuid) :
    Except MacrError (CellTables × HostedAgentCellState) := do
  raiseIf (failure.currencyCostUsd.any (· < 0))
    (.valueError "currency_cost_usd must be a non-negative number")
  raiseIf (failure.responseReceived = some true ∧ failure.networkAttempted ≠ some true)
    (.valueError "response_received requires network_attempted")
  let _ ← verifyPermit kernel agents permit caller.now
  let _ ← db.dispatchOf permit invocation
  raiseIf (db.terminals.find? invocation ≠ none)
    (cellStateError "model attempt is already terminal")
  let row ← db.cellRow kernel.sha permit.agentRunId
  let db ← db.registerRaw kernel permit caller.now rawBlob
  let db ← db.insertTerminal
    { providerInvocationId := invocation
      terminal := failure.terminal rawBlob
      currencyCostUsd := failure.currencyCostUsd
      durationMs := failure.durationMs
      networkAttempted := failure.networkAttempted
      responseReceived := failure.responseReceived
      terminalAt := caller.now }
  let state ← stateFromRow kernel.sha row
  db.updateState kernel row (.modelFailed ⟨invocation, failure.failureDigest, failure.durationMs,
      failure.currencyCostUsd, failure.networkAttempted, failure.responseReceived,
      failure.cellStatus⟩) eventId
    caller.now (fun current => { current with
      status := failure.cellStatus
      activeWallMs := state.activeWallMs + failure.durationMs
      currencyCostUsd := match failure.currencyCostUsd with
        | none => state.currencyCostUsd
        | some cost => state.currencyCostUsd + cost })

/-! ## Tools -/

/-- `INSERT INTO hosted_tool_requests`. -/
def insertToolRequest (db : CellTables) (row : HostedToolRequestRow) :
    Except MacrError CellTables := do
  raiseIf (row.stepIndex < 1) .integrity
  raiseIf (∃ other ∈ db.toolRequests.rows,
    other.modelRequestDigest = row.modelRequestDigest) .integrity
  let toolRequests ← require (db.toolRequests.insert? row) .integrity
  pure { db with toolRequests := toolRequests }

/-- `begin_tool`. -/
def beginTool (agents : AgentTables) (caller : CellCaller) (db : CellTables)
    (permit : AgentOwnershipPermit) (stepIndex : Nat) (request : HostedToolRequest)
    (argumentsBlob : HostedBlobRef) (proposal : ActionProposal) (admission : ActionAdmission)
    (eventId : Uuid) : Except MacrError (CellTables × HostedAgentCellState) := do
  requireBlob argumentsBlob permit.agentRunId .toolArguments
  let arguments ← db.readBlob kernel argumentsBlob
  raiseIf (arguments ≠ .json request.arguments)
    (cellStateError "tool arguments blob conflicts with model request")
  let (projection, _) ← verifyPermit kernel agents permit caller.now
  let row ← db.cellRow kernel.sha permit.agentRunId
  let state ← stateFromRow kernel.sha row
  let policy := row.policy
  verifyAuthority caller projection (policy.policyDigest kernel.sha) "tool_admission"
  raiseIf (state.status ≠ .running) (cellStateError "cell cannot execute a tool now")
  raiseIf (db.pendingCounts kernel.sha permit.agentRunId ≠ (0, 0))
    (cellReconciliationError "cell has a pending operation")
  raiseIf (stepIndex ≠ state.nextStep - 1) (cellStateError "tool request step is stale")
  raiseIf (policy.maxToolCalls ≤ state.toolCalls) (cellBudgetError "tool-call budget is exhausted")
  raiseIf (policy.wallLimitMs ≤ state.activeWallMs)
    (cellBudgetError "active wall budget is exhausted before tool admission")
  raiseIf (policy.maxCurrencyCostUsd < state.currencyCostUsd)
    (cellBudgetError "currency budget is exceeded before tool admission")
  raiseIf (proposal.actionId ≠ request.requestId ∨ admission.actionId ≠ proposal.actionId ∨
      admission.proposalDigest ≠ proposal.proposalDigest kernel.sha ∨
      admission.policySnapshotDigest ≠ policy.policyDigest kernel.sha)
    (cellStateError "tool admission evidence conflicts")
  let db ← db.registerBlob kernel argumentsBlob caller.now
  let db ← db.insertToolRequest
    { actionId := request.requestId
      agentRunId := permit.agentRunId
      stepIndex := stepIndex
      modelRequestDigest := request.requestDigest kernel.sha
      toolId := request.toolId
      argumentsBlob := argumentsBlob.toBlobKey
      argumentsDigest := request.argumentsDigest kernel.sha
      decision := .admitted proposal admission
      createdAt := caller.now }
  db.updateState kernel row (.toolAdmitted ⟨request.requestId, request.requestDigest kernel.sha,
      admission.admissionDigest kernel.sha⟩) eventId
    caller.now (fun current => { current with toolCalls := state.toolCalls + 1 })

/-- `HostedToolExecutionPermit`. -/
structure ExecutionPermit where
  /-- The action. -/
  actionId : Uuid
  /-- The tool request. -/
  requestDigest : Digest
  /-- The admission. -/
  admissionDigest : Digest
  /-- The owner's lease. -/
  ownershipLeaseId : Uuid
  /-- The owner's token. -/
  ownershipFencingToken : Nat
  /-- The cell after the claim. -/
  cellStateDigest : Digest
  /-- The semantic projection. -/
  semanticProjectionDigest : Digest
deriving DecidableEq

/-- The digest of a claim. -/
def claimDigestOf (permit : AgentOwnershipPermit) (actionId : Uuid)
    (admissionDigest cellStateDigest semanticProjectionDigest : Digest) (claimedAt : Timestamp) :
    Digest :=
  kernel.sha.sha256Id "macr.hosted-tool-execution-claim.v1" (.obj
    [("action_id", .hex actionId), ("admission_digest", .hex admissionDigest),
      ("ownership_lease_id", .hex permit.leaseId),
      ("ownership_fencing_token", .int permit.fencingToken),
      ("cell_state_digest", .hex cellStateDigest),
      ("semantic_projection_digest", .hex semanticProjectionDigest),
      ("claimed_at", .time claimedAt)])

/-- `INSERT INTO hosted_tool_execution_claims`. -/
def insertClaim (db : CellTables) (row : HostedClaimRow) : Except MacrError CellTables := do
  raiseIf (∃ other ∈ db.claims.rows, other.claimDigest = row.claimDigest) .integrity
  let claims ← require (db.claims.insert? row) .integrity
  pure { db with claims := claims }

/-- `claim_tool_execution`. -/
def claimToolExecution (agents : AgentTables) (caller : CellCaller) (db : CellTables)
    (permit : AgentOwnershipPermit) (actionId : Uuid)
    (admissionDigest semanticProjectionDigest : Digest) (eventId : Uuid) :
    Except MacrError (CellTables × HostedAgentCellState × ExecutionPermit) := do
  let (projection, _) ← verifyPermit kernel agents permit caller.now
  let request ← require (db.toolRequests.find? actionId)
    (cellStateError "tool execution has no exact durable admission")
  raiseIf (request.agentRunId ≠ permit.agentRunId ∨
      (request.admitted? kernel.sha).map (·.admissionDigest) ≠ some admissionDigest)
    (cellStateError "tool execution has no exact durable admission")
  raiseIf (db.toolResults.find? actionId ≠ none) (cellStateError "tool action is already terminal")
  raiseIf (db.claims.find? actionId ≠ none)
    (cellStateError "tool execution was already claimed")
  let row ← db.cellRow kernel.sha permit.agentRunId
  let state ← stateFromRow kernel.sha row
  let policy := row.policy
  verifyAuthority caller projection (policy.policyDigest kernel.sha) "tool_execution"
  raiseIf (state.status ≠ .running ∨ policy.maxToolCalls < state.toolCalls ∨
      policy.maxProviderCalls < state.providerCalls ∨ policy.wallLimitMs ≤ state.activeWallMs ∨
      policy.maxCurrencyCostUsd < state.currencyCostUsd)
    (cellBudgetError "tool execution no longer fits current cell state")
  let (db, next) ← db.updateState kernel row (.toolClaimed ⟨actionId, admissionDigest,
    semanticProjectionDigest, permit.fencingToken⟩) eventId caller.now id
  let db ← db.insertClaim
    { actionId := actionId
      admissionDigest := admissionDigest
      ownershipLeaseId := permit.leaseId
      ownershipFencingToken := permit.fencingToken
      cellStateDigest := next.stateDigest kernel.sha
      semanticProjectionDigest := semanticProjectionDigest
      claimDigest := claimDigestOf kernel permit actionId admissionDigest
        (next.stateDigest kernel.sha) semanticProjectionDigest caller.now
      claimedAt := caller.now }
  pure (db, next,
    { actionId := actionId
      requestDigest := request.modelRequestDigest
      admissionDigest := admissionDigest
      ownershipLeaseId := permit.leaseId
      ownershipFencingToken := permit.fencingToken
      cellStateDigest := next.stateDigest kernel.sha
      semanticProjectionDigest := semanticProjectionDigest })

/-- `record_tool_denial`. The cell's status is not looked at. -/
def recordToolDenial (agents : AgentTables) (caller : CellCaller) (db : CellTables)
    (permit : AgentOwnershipPermit) (stepIndex : Nat) (request : HostedToolRequest)
    (argumentsBlob : HostedBlobRef) (reasonCode : String) (reasonDigest : Digest)
    (context : HostedContextSection) (contextBlob : HostedBlobRef) (eventId : Uuid) :
    Except MacrError (CellTables × HostedAgentCellState) := do
  requireBlob argumentsBlob permit.agentRunId .toolArguments
  requireBlob contextBlob permit.agentRunId .context
  let arguments ← db.readBlob kernel argumentsBlob
  let stored ← db.readBlob kernel contextBlob
  raiseIf (arguments ≠ .json request.arguments ∨ stored ≠ .context context)
    (cellStateError "tool denial private evidence conflicts")
  raiseIf (context.agentRunId ≠ permit.agentRunId ∨ context.kind ≠ .toolDenial)
    (.valueError "tool denial context is invalid")
  let _ ← verifyPermit kernel agents permit caller.now
  let row ← db.cellRow kernel.sha permit.agentRunId
  let state ← stateFromRow kernel.sha row
  raiseIf (stepIndex ≠ state.nextStep - 1) (cellStateError "tool denial step is stale")
  let db ← db.registerBlob kernel argumentsBlob caller.now
  let db ← db.registerBlob kernel contextBlob caller.now
  let db ← db.insertToolRequest
    { actionId := request.requestId
      agentRunId := permit.agentRunId
      stepIndex := stepIndex
      modelRequestDigest := request.requestDigest kernel.sha
      toolId := request.toolId
      argumentsBlob := argumentsBlob.toBlobKey
      argumentsDigest := request.argumentsDigest kernel.sha
      decision := .denied reasonCode reasonDigest
      createdAt := caller.now }
  let db ← db.insertSection (sectionRow kernel context contextBlob)
  db.updateState kernel row (.toolDenied ⟨request.requestId, request.requestDigest kernel.sha,
    reasonDigest, context.sectionDigest kernel.sha⟩) eventId caller.now id

/-- `INSERT INTO hosted_tool_results`. -/
def insertToolResult (db : CellTables) (row : HostedToolResultRow) :
    Except MacrError CellTables := do
  raiseIf (row.result.status = .denied ∨ (row.result.status = .failed ∧ row.result.blob ≠ none))
    .integrity
  let toolResults ← require (db.toolResults.insert? row) .integrity
  pure { db with toolResults := toolResults }

/-- The blob part of `finish_tool`: a completed result has its bytes registered, and no other
result has bytes. -/
def registerResult (db : CellTables) (permit : AgentOwnershipPermit) (now : Timestamp)
    (result : HostedToolResultRef) (resultBlob : Option HostedBlobRef) :
    Except MacrError CellTables :=
  match result.status, resultBlob with
  | .completed, none => .error (.valueError "completed tool result lacks its blob")
  | .completed, some blob => do
    requireBlob blob permit.agentRunId .toolResult
    db.registerBlob kernel blob now
  | _, some _ => .error (.valueError "failed tool result cannot carry bytes")
  | _, none => .ok db

/-- The document in the bytes of a result. -/
def resultPayload (db : CellTables) : Option HostedBlobRef → Except MacrError Json
  | none => .ok .null
  | some blob => do
    let content ← db.readBlob kernel blob
    require (contentDocument kernel content) (.valueError "JSONDecodeError")

/-- The body of the section that tells the model a result. -/
def toolResultBody (result : HostedToolResultRef) (payload : Json) : ContextBody :=
  .canonical (.obj [("result_ref", result.toPublicDict kernel.sha), ("payload", payload)])

/-- `finish_tool`. Whose run the section belongs to is not looked at. -/
def finishTool (agents : AgentTables) (caller : CellCaller) (db : CellTables)
    (permit : AgentOwnershipPermit) (result : HostedToolResultRef)
    (resultBlob : Option HostedBlobRef) (context : HostedContextSection)
    (contextBlob : HostedBlobRef) (durationMs : Nat) (eventId : Uuid) :
    Except MacrError (CellTables × HostedAgentCellState) := do
  raiseIf (context.kind ≠ .toolResult ∧ context.kind ≠ .toolDenial)
    (.valueError "tool context has invalid kind")
  let _ ← verifyPermit kernel agents permit caller.now
  let row ← db.cellRow kernel.sha permit.agentRunId
  let request ← require (db.toolRequests.find? result.actionId)
    (cellStateError "tool request evidence is missing")
  raiseIf (request.agentRunId ≠ permit.agentRunId)
    (cellStateError "tool request evidence is missing")
  let admitted ← require (request.admitted? kernel.sha)
    (cellStateError "denied tool cannot gain a result")
  let claim ← require (db.claims.find? result.actionId)
    (cellStateError "tool result has no exact durable execution claim")
  raiseIf (claim.admissionDigest ≠ admitted.admissionDigest ∨
      claim.ownershipLeaseId ≠ permit.leaseId ∨ claim.ownershipFencingToken ≠ permit.fencingToken)
    (cellStateError "tool result has no exact durable execution claim")
  raiseIf (result.requestDigest ≠ request.modelRequestDigest ∨ result.toolId ≠ request.toolId)
    (cellStateError "tool result does not match its request")
  raiseIf (db.toolResults.find? result.actionId ≠ none)
    (cellStateError "tool result is already terminal")
  let db ← db.registerResult kernel permit caller.now result resultBlob
  requireBlob contextBlob permit.agentRunId .context
  let payload ← db.resultPayload kernel resultBlob
  raiseIf ((resultBlob.map fun blob =>
      (⟨blob.blobRef, blob.sha256, blob.byteCount⟩ : ToolResultBlob)) ≠
        (resultBlob.bind fun _ => result.blob) ∨
      context.kind ≠ .toolResult ∨ context.sourceRef ≠ result.evidenceRef ∨
      context.sourceDigest ≠ result.referenceDigest kernel.sha ∨
      context.body ≠ toolResultBody kernel result payload ∨
      context.createdAt ≠ result.observedAt)
    (cellStateError "tool result context does not derive from exact evidence")
  let stored ← db.readBlob kernel contextBlob
  raiseIf (stored ≠ .context context)
    (cellStateError "tool result context does not derive from exact evidence")
  let db ← db.registerBlob kernel contextBlob caller.now
  let db ← db.insertToolResult ⟨result, durationMs⟩
  raiseIf (agents.runs.find? context.agentRunId = none) .integrity
  let db ← db.insertSection (sectionRow kernel context contextBlob)
  let state ← stateFromRow kernel.sha row
  db.updateState kernel row (.toolCompleted ⟨result.actionId, result.referenceDigest kernel.sha,
      context.sectionDigest kernel.sha, durationMs, result.status⟩) eventId
    caller.now (fun current => { current with activeWallMs := state.activeWallMs + durationMs })

end CellTables

end Macr
