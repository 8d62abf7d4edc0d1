import Macr.Cell.Recovery
import Mathlib.Algebra.Order.Ring.Rat

/-!
# What a cell transaction does

A committed call leaves the cells, the events and the evidence alone, attaches a new cell, or moves
one cell along one event and writes the evidence of that event beside it. What an operation
inserts, and what it has checked before, is said here once for each type of event; the blobs, the
files and the cached envelopes carry no evidence.
-/

namespace Macr

open Lib

/-- A cell is moved from its row to a projection along one event. -/
structure CellMoved (kernel : CellKernel) (before after : CellTables) (row : HostedCellRow)
    (next : HostedAgentCellState) (body : CellEventBody) : Prop where
  /-- The cell was read with all its checks. -/
  read : before.cellRow kernel.sha row.state.agentRunId = .ok row
  /-- The event is no attachment. -/
  later : ∀ payload, body ≠ .attached payload
  /-- The projection is the one the event leads to. -/
  fields : next.toCellFields = body.fieldsAfter row.state.toCellFields next.updatedAt
  /-- The row takes the projection. -/
  cells : after.cells.rows = before.cells.rows.map (fun other =>
    if other.state.agentRunId = next.agentRunId then
      { other with state := next, stateDigest := next.stateDigest kernel.sha }
    else other)
  /-- The event goes behind the others. -/
  event : ∃ eventId, after.events.rows = before.events.rows ++ [CellEvent.following kernel.sha
    eventId next body
    (((before.eventsOf next.agentRunId).getLast?.map (·.eventDigest)).getD zeroDigest)]

/-- What a dispatch of a model has been checked against. -/
structure DispatchAllowed (sha : Sha256) (before : CellEvidence) (row : HostedCellRow)
    (request : HostedModelRequest) : Prop where
  /-- The request is for the cell. -/
  run : request.agentRunId = row.state.agentRunId
  /-- The cell is ready or running. -/
  status : row.state.status = .ready ∨ row.state.status = .running
  /-- Nothing is pending. -/
  settled : before.pendingCounts sha row.state.agentRunId = (0, 0)
  /-- The step is the next one. -/
  step : request.stepIndex = row.state.nextStep
  /-- A step and a call are left. -/
  calls : row.state.nextStep ≤ row.policy.maxSteps ∧
    row.state.providerCalls < row.policy.maxProviderCalls
  /-- Time is left. -/
  wall : (row.state.activeWallMs : Int) < row.policy.wallLimitMs
  /-- The ceiling is the policy's. -/
  ceiling : request.costCeilingUsd = row.policy.maxProviderCallCostUsd
  /-- The ceiling fits into what is left. -/
  cost : request.costCeilingUsd ≤ row.policy.maxCurrencyCostUsd - row.state.currencyCostUsd

/-- What the admission of a tool has been checked against. -/
structure ToolAllowed (sha : Sha256) (before : CellEvidence) (row : HostedCellRow)
    (request : HostedToolRequestRow) : Prop where
  /-- The request is for the cell. -/
  run : request.agentRunId = row.state.agentRunId
  /-- The cell is running. -/
  status : row.state.status = .running
  /-- Nothing is pending. -/
  settled : before.pendingCounts sha row.state.agentRunId = (0, 0)
  /-- The step is the last one. -/
  step : request.stepIndex = row.state.nextStep - 1
  /-- A call is left. -/
  calls : row.state.toolCalls < row.policy.maxToolCalls
  /-- Time is left. -/
  wall : (row.state.activeWallMs : Int) < row.policy.wallLimitMs

/-- The evidence that is written with an event of a cell. -/
inductive CellChange (kernel : CellKernel) (before after : CellEvidence) (row : HostedCellRow) :
    CellEventBody → Prop
  /-- A section is appended. -/
  | contextAppended (item : HostedSectionRow)
      (sections : Table (fun row : HostedSectionRow => row.sectionId))
      (inserted : before.sections.insert? item = some sections)
      (written : after = { before with sections := sections })
      (run : item.agentRunId = row.state.agentRunId) (running : row.state.status = .running)
      (settled : before.pendingCounts kernel.sha row.state.agentRunId = (0, 0)) :
      CellChange kernel before after row (.contextAppended item.sectionDigest)
  /-- A model is dispatched. -/
  | modelDispatched (dispatch : HostedDispatchRow)
      (dispatches : Table (fun row : HostedDispatchRow => row.request.providerInvocationId))
      (inserted : before.dispatches.insert? dispatch = some dispatches)
      (written : after = { before with dispatches := dispatches })
      (allowed : DispatchAllowed kernel.sha before row dispatch.request) :
      CellChange kernel before after row (.modelDispatched (dispatch.dispatched kernel.sha))
  /-- A model call has completed. -/
  | modelCompleted (terminal : HostedTerminalRow) (dispatch : HostedDispatchRow)
      (payload : ModelCompleted)
      (terminals : Table (fun row : HostedTerminalRow => row.providerInvocationId))
      (inserted : before.terminals.insert? terminal = some terminals)
      (written : after = { before with terminals := terminals })
      (dispatched : before.dispatches.find? terminal.providerInvocationId = some dispatch)
      (run : dispatch.request.agentRunId = row.state.agentRunId)
      (said : terminal.completed? kernel.sha = some payload)
      (duration : terminal.durationMs = payload.durationMs)
      (cost : terminal.currencyCostUsd = some payload.currencyCostUsd) :
      CellChange kernel before after row (.modelCompleted payload)
  /-- A model call has failed. -/
  | modelFailed (terminal : HostedTerminalRow) (dispatch : HostedDispatchRow)
      (payload : ModelFailed)
      (terminals : Table (fun row : HostedTerminalRow => row.providerInvocationId))
      (inserted : before.terminals.insert? terminal = some terminals)
      (written : after = { before with terminals := terminals })
      (dispatched : before.dispatches.find? terminal.providerInvocationId = some dispatch)
      (run : dispatch.request.agentRunId = row.state.agentRunId)
      (said : terminal.failed? = some payload) :
      CellChange kernel before after row (.modelFailed payload)
  /-- A pending operation is left to a reconciliation. -/
  | reconciliationRequired (written : after = before)
      (pending : before.pendingCounts kernel.sha row.state.agentRunId ≠ (0, 0)) :
      CellChange kernel before after row (.reconciliationRequired
        (before.pendingCounts kernel.sha row.state.agentRunId).1
        (before.pendingCounts kernel.sha row.state.agentRunId).2)
  /-- A tool is admitted. -/
  | toolAdmitted (request : HostedToolRequestRow) (payload : ToolAdmitted)
      (toolRequests : Table (fun row : HostedToolRequestRow => row.actionId))
      (inserted : before.toolRequests.insert? request = some toolRequests)
      (written : after = { before with toolRequests := toolRequests })
      (said : request.admitted? kernel.sha = some payload)
      (positive : 0 < request.stepIndex)
      (allowed : ToolAllowed kernel.sha before row request) :
      CellChange kernel before after row (.toolAdmitted payload)
  /-- A tool is denied. -/
  | toolDenied (request : HostedToolRequestRow) (item : HostedSectionRow) (payload : ToolDenied)
      (toolRequests : Table (fun row : HostedToolRequestRow => row.actionId))
      (sections : Table (fun row : HostedSectionRow => row.sectionId))
      (requested : before.toolRequests.insert? request = some toolRequests)
      (inserted : before.sections.insert? item = some sections)
      (written : after = { before with toolRequests := toolRequests, sections := sections })
      (said : request.denied? = some payload.subject) (section_said : item.sectionDigest =
        payload.sectionDigest) (positive : 0 < request.stepIndex)
      (run : request.agentRunId = row.state.agentRunId)
      (section_run : item.agentRunId = row.state.agentRunId)
      (step : request.stepIndex = row.state.nextStep - 1) :
      CellChange kernel before after row (.toolDenied payload)
  /-- The execution of a tool is claimed. -/
  | toolClaimed (claim : HostedClaimRow) (request : HostedToolRequestRow) (payload : ToolAdmitted)
      (claims : Table (fun row : HostedClaimRow => row.actionId))
      (inserted : before.claims.insert? claim = some claims)
      (written : after = { before with claims := claims })
      (requested : before.toolRequests.find? claim.actionId = some request)
      (run : request.agentRunId = row.state.agentRunId)
      (admitted : request.admitted? kernel.sha = some payload)
      (open_ : before.toolResults.find? claim.actionId = none)
      (running : row.state.status = .running) :
      CellChange kernel before after row (.toolClaimed claim.claimed)
  /-- A tool has ended. -/
  | toolCompleted (result : HostedToolResultRow) (item : HostedSectionRow)
      (request : HostedToolRequestRow) (payload : ToolAdmitted) (claim : HostedClaimRow)
      (toolResults : Table (fun row : HostedToolResultRow => row.result.actionId))
      (sections : Table (fun row : HostedSectionRow => row.sectionId))
      (ended : before.toolResults.insert? result = some toolResults)
      (inserted : before.sections.insert? item = some sections)
      (written : after = { before with toolResults := toolResults, sections := sections })
      (requested : before.toolRequests.find? result.result.actionId = some request)
      (run : request.agentRunId = row.state.agentRunId)
      (admitted : request.admitted? kernel.sha = some payload)
      (claimed : before.claims.find? result.result.actionId = some claim)
      (source : item.sourceDigest = result.result.referenceDigest kernel.sha) :
      CellChange kernel before after row
        (.toolCompleted (result.completedWith kernel.sha item))
  /-- A checkpoint is made. -/
  | checkpointed (checkpoint : HostedCheckpointRow)
      (checkpoints : Table (fun row : HostedCheckpointRow => row.checkpoint.checkpointId))
      (inserted : before.checkpoints.insert? checkpoint = some checkpoints)
      (written : after = { before with checkpoints := checkpoints })
      (run : checkpoint.agentRunId = row.state.agentRunId)
      (revision : checkpoint.cellRevision = row.state.cellRevision + 1)
      (status : row.state.status = .ready ∨ row.state.status = .running ∨
        row.state.status = .blocked)
      (settled : before.pendingCounts kernel.sha row.state.agentRunId = (0, 0)) :
      CellChange kernel before after row (.checkpointed checkpoint.checkpointed)
  /-- The cell is taken up again. -/
  | rehydrated (rehydration : HostedRehydrationRow)
      (rehydrations : Table (fun row : HostedRehydrationRow => row.rehydrationId))
      (inserted : before.rehydrations.insert? rehydration = some rehydrations)
      (written : after = { before with rehydrations := rehydrations })
      (run : rehydration.agentRunId = row.state.agentRunId)
      (revision : rehydration.cellRevision = row.state.cellRevision + 1)
      (status : row.state.status = .checkpointed)
      (settled : before.pendingCounts kernel.sha row.state.agentRunId = (0, 0)) :
      CellChange kernel before after row (.rehydrated rehydration.rehydrated)
  /-- A completion is intended. -/
  | completionIntent (intent : HostedIntentRow)
      (intents : Table (fun row : HostedIntentRow => row.candidateRunId))
      (inserted : before.intents.insert? intent = some intents)
      (written : after = { before with intents := intents })
      (run : intent.agentRunId = row.state.agentRunId)
      (first : ∀ other ∈ before.intents.rows, other.agentRunId ≠ intent.agentRunId)
      (running : row.state.status = .running)
      (settled : before.pendingCounts kernel.sha row.state.agentRunId = (0, 0)) :
      CellChange kernel before after row (.completionIntent intent.intended)
  /-- A completion is prepared. -/
  | completionPrepared (completion : HostedCompletionRow)
      (completions : Table (fun row : HostedCompletionRow => row.candidateRunId))
      (inserted : before.completions.insert? completion = some completions)
      (written : after = { before with completions := completions })
      (run : completion.agentRunId = row.state.agentRunId)
      (first : ∀ other ∈ before.completions.rows, other.agentRunId ≠ completion.agentRunId)
      (unfinished : completion.finalizedAt = none) (running : row.state.status = .running)
      (settled : before.pendingCounts kernel.sha row.state.agentRunId = (0, 0)) :
      CellChange kernel before after row (.completionPrepared completion.prepared)
  /-- A completion is finalized. -/
  | completed (final : FinalCandidate) (now : Timestamp)
      (completions : Table (fun row : HostedCompletionRow => row.candidateRunId))
      (rows : completions.rows = before.completions.rows.map (fun other =>
        if other.agentRunId = row.state.agentRunId ∧ other.finalizedAt = none then
          { other with finalizedAt := some now } else other))
      (written : after = { before with completions := completions })
      (status : row.state.status = .completionPending)
      (candidate : row.state.final = some final) :
      CellChange kernel before after row (.completed ⟨final.captureId, final.answerDigest⟩)

/-- A cell is attached with its first sections. -/
structure CellAttachment (kernel : CellKernel) (before after : CellTables)
    (policy : HostedAgentCellPolicy) (request : SemanticContextRequest) (now : Timestamp)
    (items : List HostedSectionRow) : Prop where
  /-- The run had no cell. -/
  fresh : before.cells.find? policy.agentRunId = none
  /-- Some section is there. -/
  nonempty : items ≠ []
  /-- The sections are the run's. -/
  run : ∀ item ∈ items, item.agentRunId = policy.agentRunId
  /-- The row is added. -/
  cells : after.cells.rows = before.cells.rows ++ [⟨policy, request,
    CellTables.attachedState kernel policy request now,
    (CellTables.attachedState kernel policy request now).stateDigest kernel.sha⟩]
  /-- The sections are added. -/
  written : ∃ sections : Table (fun row : HostedSectionRow => row.sectionId),
    sections.rows = before.sections.rows ++ items ∧
      after.toCellEvidence = { before.toCellEvidence with sections := sections }
  /-- The genesis event is added. -/
  event : ∃ eventId prior, after.events.rows = before.events.rows ++ [CellEvent.following
    kernel.sha eventId (CellTables.attachedState kernel policy request now)
    (.attached ⟨policy.policyDigest kernel.sha, request.requestDigest kernel.sha,
      items.map (·.sectionDigest)⟩) prior] ∧
    prior = ((before.eventsOf policy.agentRunId).getLast?.map (·.eventDigest)).getD zeroDigest

/-- The evidence is written to some value; no cell and no event has changed. -/
structure EvidenceWritten (before after : CellTables) (evidence : CellEvidence) : Prop where
  /-- The evidence. -/
  evidence : after.toCellEvidence = evidence
  /-- The cells. -/
  cells : after.cells = before.cells
  /-- The events. -/
  events : after.events = before.events

/-- Nothing has changed besides the blobs, the files and the envelopes. -/
abbrev Untouched (before after : CellTables) : Prop :=
  EvidenceWritten before after before.toCellEvidence

namespace CellTables

variable {kernel : CellKernel} {before mid after db : CellTables} {evidence : CellEvidence}

/-- Nothing is changed by nothing. -/
theorem untouched_self (db : CellTables) : Untouched db db := ⟨rfl, rfl, rfl⟩

/-! ## Blobs -/

/-- Writing a blob changes the files alone. -/
theorem written_of_writeBlob {run : Uuid} {role : HostedBlobRole} {content : BlobContent}
    {blob : HostedBlobRef} (written : EvidenceWritten before mid evidence)
    (ok : mid.writeBlob kernel run role content = .ok (after, blob)) :
    EvidenceWritten before after evidence := by
  simp only [writeBlob, bind_eq_ok, raiseIf_eq_ok, exists_const, pure_eq_ok, Prod.mk.injEq] at ok
  obtain ⟨_, rfl, _⟩ := ok
  exact ⟨written.evidence, written.cells, written.events⟩

/-- Registering a blob changes the metadata alone. -/
theorem written_of_registerBlob {blob : HostedBlobRef} {now : Timestamp}
    (written : EvidenceWritten before mid evidence)
    (ok : mid.registerBlob kernel blob now = .ok after) :
    EvidenceWritten before after evidence := by
  simp only [registerBlob, bind_eq_ok] at ok
  obtain ⟨_, _, ok⟩ := ok
  split at ok
  · simp only [bind_eq_ok, pure_eq_ok] at ok
    obtain ⟨_, _, rfl⟩ := ok
    exact ⟨written.evidence, written.cells, written.events⟩
  · simp only [bind_eq_ok, raiseIf_eq_ok, exists_const, pure_eq_ok] at ok
    obtain ⟨_, rfl⟩ := ok
    exact written

/-- Keeping the raw bytes of a failure changes the metadata alone. -/
theorem written_of_registerRaw {permit : AgentOwnershipPermit} {now : Timestamp}
    {blob : Option HostedBlobRef} (written : EvidenceWritten before mid evidence)
    (ok : mid.registerRaw kernel permit now blob = .ok after) :
    EvidenceWritten before after evidence := by
  cases blob with
  | none =>
    have same : mid = after := Except.ok.inj ok
    exact same ▸ written
  | some blob =>
    simp only [registerRaw, bind_eq_ok] at ok
    obtain ⟨_, _, registered⟩ := ok
    exact written_of_registerBlob written registered

/-- Keeping the bytes of a result changes the metadata alone. -/
theorem written_of_registerResult {permit : AgentOwnershipPermit} {now : Timestamp}
    {result : HostedToolResultRef} {blob : Option HostedBlobRef}
    (written : EvidenceWritten before mid evidence)
    (ok : mid.registerResult kernel permit now result blob = .ok after) :
    EvidenceWritten before after evidence := by
  unfold registerResult at ok
  split at ok
  · exact absurd ok (by simp)
  · simp only [bind_eq_ok] at ok
    obtain ⟨_, _, registered⟩ := ok
    exact written_of_registerBlob written registered
  · exact absurd ok (by simp)
  · have same : mid = after := Except.ok.inj ok
    exact same ▸ written

/-! ## Rows and events -/

/-- A row read with all its checks is the stored row of the run. -/
theorem find_of_cellRow {sha : Sha256} {run : Uuid} {row : HostedCellRow}
    (read : db.cellRow sha run = .ok row) : db.cells.find? run = some row := by
  simp only [cellRow, bind_eq_ok, require_eq_ok, pure_eq_ok] at read
  obtain ⟨found, lookup, _, _, _, _, _, _, _, _, rfl⟩ := read
  exact lookup

/-- The run of a row that is read. -/
theorem run_of_cellRow {sha : Sha256} {run : Uuid} {row : HostedCellRow}
    (read : db.cellRow sha run = .ok row) : row.state.agentRunId = run :=
  ((db.cells.find?_eq_some run row).mp (find_of_cellRow read)).2

/-- A row that is read, under its own run. -/
theorem read_self {sha : Sha256} {run : Uuid} {row : HostedCellRow}
    (read : db.cellRow sha run = .ok row) : db.cellRow sha row.state.agentRunId = .ok row := by
  rw [run_of_cellRow read]
  exact read

/-- The projection of a row is the row's. -/
@[simp] theorem stateFromRow_eq_ok {sha : Sha256} {row : HostedCellRow}
    {state : HostedAgentCellState} : stateFromRow sha row = .ok state ↔
      row.state.stateDigest sha = row.stateDigest ∧ state = row.state := by
  rw [stateFromRow, bind_eq_ok]
  simp only [raiseIf_eq_ok, pure_eq_ok, ne_eq, not_not, exists_const]
  constructor
  · rintro ⟨digest, rfl⟩
    exact ⟨digest, rfl⟩
  · rintro ⟨digest, rfl⟩
    exact ⟨digest, rfl⟩

/-- A section is inserted behind the others. -/
theorem written_of_insertSection {item : HostedSectionRow}
    (written : EvidenceWritten before mid evidence) (ok : mid.insertSection item = .ok after) :
    ∃ sections, evidence.sections.insert? item = some sections ∧
      EvidenceWritten before after { evidence with sections := sections } := by
  simp only [insertSection, bind_eq_ok, raiseIf_eq_ok, exists_const, require_eq_ok,
    pure_eq_ok] at ok
  obtain ⟨_, sections, inserted, rfl⟩ := ok
  obtain ⟨rfl, cells, events⟩ := written
  exact ⟨sections, inserted, rfl, cells, events⟩

/-- A dispatch is inserted. -/
theorem written_of_insertDispatch {dispatch : HostedDispatchRow}
    (written : EvidenceWritten before mid evidence)
    (ok : mid.insertDispatch kernel dispatch = .ok after) :
    ∃ dispatches, evidence.dispatches.insert? dispatch = some dispatches ∧
      EvidenceWritten before after { evidence with dispatches := dispatches } := by
  simp only [insertDispatch, bind_eq_ok, raiseIf_eq_ok, exists_const, require_eq_ok,
    pure_eq_ok] at ok
  obtain ⟨_, dispatches, inserted, rfl⟩ := ok
  obtain ⟨rfl, cells, events⟩ := written
  exact ⟨dispatches, inserted, rfl, cells, events⟩

/-- A terminal is inserted. -/
theorem written_of_insertTerminal {terminal : HostedTerminalRow}
    (written : EvidenceWritten before mid evidence) (ok : mid.insertTerminal terminal = .ok after) :
    ∃ terminals, evidence.terminals.insert? terminal = some terminals ∧
      EvidenceWritten before after { evidence with terminals := terminals } := by
  simp only [insertTerminal, bind_eq_ok, require_eq_ok, pure_eq_ok] at ok
  obtain ⟨terminals, inserted, rfl⟩ := ok
  obtain ⟨rfl, cells, events⟩ := written
  exact ⟨terminals, inserted, rfl, cells, events⟩

/-- A tool request of a positive step is inserted. -/
theorem written_of_insertToolRequest {request : HostedToolRequestRow}
    (written : EvidenceWritten before mid evidence)
    (ok : mid.insertToolRequest request = .ok after) :
    0 < request.stepIndex ∧
      ∃ toolRequests, evidence.toolRequests.insert? request = some toolRequests ∧
        EvidenceWritten before after { evidence with toolRequests := toolRequests } := by
  simp only [insertToolRequest, bind_eq_ok, raiseIf_eq_ok, exists_const, require_eq_ok, pure_eq_ok,
    not_lt] at ok
  obtain ⟨positive, _, toolRequests, inserted, rfl⟩ := ok
  obtain ⟨rfl, cells, events⟩ := written
  exact ⟨positive, toolRequests, inserted, rfl, cells, events⟩

/-- A claim is inserted. -/
theorem written_of_insertClaim {claim : HostedClaimRow}
    (written : EvidenceWritten before mid evidence) (ok : mid.insertClaim claim = .ok after) :
    ∃ claims, evidence.claims.insert? claim = some claims ∧
      EvidenceWritten before after { evidence with claims := claims } := by
  simp only [insertClaim, bind_eq_ok, raiseIf_eq_ok, exists_const, require_eq_ok,
    pure_eq_ok] at ok
  obtain ⟨_, claims, inserted, rfl⟩ := ok
  obtain ⟨rfl, cells, events⟩ := written
  exact ⟨claims, inserted, rfl, cells, events⟩

/-- A tool's result is inserted. -/
theorem written_of_insertToolResult {result : HostedToolResultRow}
    (written : EvidenceWritten before mid evidence)
    (ok : mid.insertToolResult result = .ok after) :
    ∃ toolResults, evidence.toolResults.insert? result = some toolResults ∧
      EvidenceWritten before after { evidence with toolResults := toolResults } := by
  simp only [insertToolResult, bind_eq_ok, raiseIf_eq_ok, exists_const, require_eq_ok,
    pure_eq_ok] at ok
  obtain ⟨_, toolResults, inserted, rfl⟩ := ok
  obtain ⟨rfl, cells, events⟩ := written
  exact ⟨toolResults, inserted, rfl, cells, events⟩

/-- An event is appended behind the others. -/
theorem appendEvent_eq_ok {current : Option HostedAgentCellState} {next : HostedAgentCellState}
    {body : CellEventBody} {eventId : Uuid}
    (ok : db.appendEvent kernel current next body eventId = .ok after) :
    transitionExpected current next body = .ok () ∧
      ∃ events, db.events.insert? (CellEvent.following kernel.sha eventId next body
          (((db.eventsOf next.agentRunId).getLast?.map (·.eventDigest)).getD zeroDigest)) =
        some events ∧ after = { db with events := events } := by
  simp only [appendEvent, bind_eq_ok, raiseIf_eq_ok, exists_const, require_eq_ok,
    pure_eq_ok] at ok
  obtain ⟨_, expected, _, events, inserted, written⟩ := ok
  exact ⟨expected, events, inserted, written.symm⟩

/-- What `_update_state` does after evidence was written. -/
theorem moved_of_updateState {row : HostedCellRow} {body : CellEventBody} {eventId : Uuid}
    {now : Timestamp} {changes : CellFields → CellFields} {next : HostedAgentCellState}
    {run : Uuid} (read : before.cellRow kernel.sha run = .ok row)
    (written : EvidenceWritten before mid evidence)
    (updated : mid.updateState kernel row body eventId now changes = .ok (after, next)) :
    CellMoved kernel before after row next body ∧ after.toCellEvidence = evidence := by
  simp only [updateState, bind_eq_ok, stateFromRow_eq_ok, raiseIf_eq_ok, exists_const, pure_eq_ok,
    Prod.mk.injEq, HostedAgentCellState.ofFields_eq_ok] at updated
  obtain ⟨current, ⟨digest, rfl⟩, made, _, ended, appended, reached, result, rfl⟩ := updated
  obtain ⟨expected, inserted, stored, rfl⟩ := appendEvent_eq_ok appended
  obtain ⟨later, fields⟩ := transitionExpected_some.mp expected
  subst result
  have only : ∀ other : HostedCellRow, (decide (other.state.agentRunId = made.agentRunId ∧
      other.stateDigest = row.state.stateDigest kernel.sha)) = true →
        other.state.agentRunId = made.agentRunId := fun other met => (of_decide_eq_true met).1
  have found : mid.cells.rows.countP (fun other => decide
      (other.state.agentRunId = made.agentRunId ∧
        other.stateDigest = row.state.stateDigest kernel.sha)) ≠ 0 := by
    rw [not_not.mp reached]
    exact Nat.one_ne_zero
  refine ⟨⟨read_self read, later, fields, ?_, ⟨eventId, ?_⟩⟩, written.evidence⟩
  · rw [← written.cells]
    apply List.map_congr_left
    intro other held
    by_cases same : other.state.agentRunId = made.agentRunId
    · rw [if_pos (mid.cells.met_of_countP found only held same), if_pos same]
      simp only [if_pos same]
    · have unmet : ¬decide (other.state.agentRunId = made.agentRunId ∧
          other.stateDigest = row.state.stateDigest kernel.sha) = true :=
        fun met => same (only other met)
      rw [if_neg unmet]
      simp only [if_neg same]
  · have of_run : before.eventsOf made.agentRunId = mid.eventsOf made.agentRunId := by
      rw [eventsOf, eventsOf, written.events]
    rw [of_run, ← written.events]
    exact Table.rows_of_insert? stored

/-- A moved cell stays moved when no cell and no event changes after it. -/
theorem moved_of_same {row : HostedCellRow} {next : HostedAgentCellState}
    {body : CellEventBody} (moved : CellMoved kernel before mid row next body)
    (cells : after.cells = mid.cells) (events : after.events = mid.events) :
    CellMoved kernel before after row next body := by
  refine ⟨moved.read, moved.later, moved.fields, ?_, ?_⟩
  · rw [cells]
    exact moved.cells
  · rw [events]
    exact moved.event

/-! ## Context -/

/-- The writes of the first sections change the files alone. -/
theorem written_of_writeSections {items : List HostedContextSection}
    {blobs : List (HostedContextSection × HostedBlobRef)}
    (written : EvidenceWritten before mid evidence)
    (ok : mid.writeSections kernel items = .ok (after, blobs)) :
    EvidenceWritten before after evidence ∧ blobs.map (·.1) = items := by
  induction items generalizing mid after blobs with
  | nil =>
    have same : (mid, ([] : List (HostedContextSection × HostedBlobRef))) = (after, blobs) :=
      Except.ok.inj ok
    rw [Prod.mk.injEq] at same
    obtain ⟨rfl, rfl⟩ := same
    exact ⟨written, rfl⟩
  | cons item rest ih =>
    simp only [writeSections, bind_eq_ok, pure_eq_ok, Prod.exists, Prod.mk.injEq] at ok
    obtain ⟨next, blob, first, last, others, later, rfl, rfl⟩ := ok
    obtain ⟨whole, named⟩ := ih (written_of_writeBlob written first) later
    exact ⟨whole, by rw [List.map_cons, named]⟩

/-- The first sections are inserted in their order. -/
theorem written_of_insertSections {now : Timestamp}
    {blobs : List (HostedContextSection × HostedBlobRef)}
    (written : EvidenceWritten before mid evidence)
    (ok : mid.insertSections kernel now blobs = .ok after) :
    ∃ sections : Table (fun row : HostedSectionRow => row.sectionId),
      sections.rows = evidence.sections.rows ++
        blobs.map (fun pair => sectionRow kernel pair.1 pair.2) ∧
      EvidenceWritten before after { evidence with sections := sections } := by
  induction blobs generalizing mid evidence with
  | nil =>
    have same : mid = after := Except.ok.inj ok
    subst same
    exact ⟨evidence.sections, by simp, written⟩
  | cons pair rest ih =>
    simp only [insertSections, bind_eq_ok] at ok
    obtain ⟨next, registered, last, inserted, later⟩ := ok
    obtain ⟨sections, stored, first⟩ :=
      written_of_insertSection (written_of_registerBlob written registered) inserted
    obtain ⟨all, rows, whole⟩ := ih first later
    refine ⟨all, ?_, whole⟩
    rw [rows, Table.rows_of_insert? stored]
    simp

/-- `attach` adds a cell with its first sections. -/
theorem attachment_of_attachCell {agents : AgentTables} {caller : CellCaller}
    {permit : AgentOwnershipPermit} {policy : HostedAgentCellPolicy}
    {request : SemanticContextRequest} {blobs : List (HostedContextSection × HostedBlobRef)}
    {eventId : Uuid} {state : HostedAgentCellState} (some_item : blobs ≠ [])
    (of_run : ∀ pair ∈ blobs, pair.1.agentRunId = policy.agentRunId)
    (written : Untouched before mid)
    (ok : attachCell kernel agents caller mid permit policy request blobs eventId =
      .ok (after, state)) :
    CellAttachment kernel before after policy request caller.now
      (blobs.map (fun pair => sectionRow kernel pair.1 pair.2)) := by
  simp only [attachCell, bind_eq_ok, raiseIf_eq_ok, exists_const, require_eq_ok, pure_eq_ok,
    Prod.exists, Prod.mk.injEq] at ok
  obtain ⟨_, _, _, _, _, absent, _, cells, stored, last, inserted, ended, appended, rfl, _⟩ := ok
  obtain ⟨sections, rows, whole⟩ := written_of_insertSections (untouched_self _) inserted
  obtain ⟨_, events, event, rfl⟩ := appendEvent_eq_ok appended
  have same_events : last.events = before.events := whole.events.trans written.events
  have of_last : last.eventsOf policy.agentRunId = before.eventsOf policy.agentRunId := by
    rw [eventsOf, eventsOf, same_events]
  constructor
  · rw [← written.cells]
    exact not_not.mp absent
  · simpa using some_item
  · intro item member
    obtain ⟨pair, held, rfl⟩ := List.mem_map.mp member
    exact of_run pair held
  · show last.cells.rows = _
    rw [whole.cells, ← written.cells]
    exact Table.rows_of_insert? stored
  · refine ⟨sections, ?_, ?_⟩
    · rw [rows, ← written.evidence]
    · rw [← written.evidence]
      exact whole.evidence
  · refine ⟨eventId, _, ?_, rfl⟩
    rw [Table.rows_of_insert? event, same_events, List.map_map]
    show before.events.rows ++ [CellEvent.following kernel.sha eventId
      (attachedState kernel policy request caller.now) _
      (((last.eventsOf policy.agentRunId).getLast?.map (·.eventDigest)).getD zeroDigest)] = _
    rw [of_last]
    rfl

/-- A transaction behind a write of a file commits, or leaves the file alone. -/
theorem settled_eq_ok {α : Type} {result : Except MacrError (CellTables × α)}
    {answer : Except MacrError α} (ok : settled db result = .ok (after, answer)) :
    (∃ value, result = .ok (after, value) ∧ answer = .ok value) ∨ after = db := by
  have both := Except.ok.inj ok
  cases result with
  | error raised =>
    rw [Except.map, settle, Prod.mk.injEq] at both
    exact .inr both.1.symm
  | ok committed =>
    rw [Except.map, settle, Prod.mk.injEq] at both
    exact .inl ⟨committed.2, by rw [← both.1], both.2.symm⟩

/-- `attach` writes files, and then attaches a cell or raises. -/
theorem effect_of_attach {agents : AgentTables} {caller : CellCaller}
    {permit : AgentOwnershipPermit} {policy : HostedAgentCellPolicy}
    {request : SemanticContextRequest} {items : List HostedContextSection} {eventId : Uuid}
    {answer : Except MacrError HostedAgentCellState}
    (ok : attach kernel agents caller before permit policy request items eventId =
      .ok (after, answer)) :
    Untouched before after ∨
      ∃ rows, CellAttachment kernel before after policy request caller.now rows ∧
        rows.map (·.sourceDigest) = items.map (·.sourceDigest) := by
  simp only [attach, bind_eq_ok, raiseIf_eq_ok, exists_const, Prod.exists, not_or, not_exists,
    not_and, ne_eq, not_not] at ok
  obtain ⟨⟨some_item, of_run⟩, _, mid, blobs, files, ended⟩ := ok
  obtain ⟨written, rfl⟩ := written_of_writeSections (untouched_self before) files
  rcases settled_eq_ok ended with ⟨state, attached, _⟩ | rfl
  · refine .inr ⟨_, attachment_of_attachCell (by simpa using some_item) ?_ written attached, ?_⟩
    · intro pair member
      exact of_run pair.1 (List.mem_map.mpr ⟨pair, member, rfl⟩)
    · rw [List.map_map, List.map_map]
      rfl
  · exact .inl written

/-- `append_context_section` writes a file, and then appends a section or raises. -/
theorem effect_of_appendContextSection {agents : AgentTables} {caller : CellCaller}
    {permit : AgentOwnershipPermit} {item : HostedContextSection} {eventId : Uuid}
    {answer : Except MacrError HostedAgentCellState}
    (ok : appendContextSection kernel agents caller before permit item eventId =
      .ok (after, answer)) :
    Untouched before after ∨
      ∃ row next, CellMoved kernel before after row next
          (.contextAppended (item.sectionDigest kernel.sha)) ∧
        CellChange kernel before.toCellEvidence after.toCellEvidence row
          (.contextAppended (item.sectionDigest kernel.sha)) ∧
        ∃ blob, after.sections.rows = before.sections.rows ++ [sectionRow kernel item blob] := by
  simp only [appendContextSection, bind_eq_ok, raiseIf_eq_ok, exists_const, stateFromRow_eq_ok,
    Prod.exists, ne_eq, not_not] at ok
  obtain ⟨of_run, _, _, _, row, read, _, ⟨_, rfl⟩, _, _, running, pending, mid, blob, file,
    ended⟩ := ok
  have written := written_of_writeBlob (untouched_self before) file
  rcases settled_eq_ok ended with ⟨next, committed, _⟩ | rfl
  · simp only [bind_eq_ok] at committed
    obtain ⟨_, registered, _, inserted, updated⟩ := committed
    obtain ⟨sections, stored, whole⟩ :=
      written_of_insertSection (written_of_registerBlob written registered) inserted
    have run := run_of_cellRow read
    obtain ⟨moved, evidence⟩ := moved_of_updateState read whole updated
    refine .inr ⟨row, next, moved, ?_, blob, ?_⟩
    · exact .contextAppended (sectionRow kernel item blob) sections stored evidence
        (of_run.trans run.symm) running (by rw [run]; exact pending)
    · rw [evidence]
      exact Table.rows_of_insert? stored
  · exact .inl written

/-! ## Models -/

/-- `mark_pending_reconciliation` leaves everything, or leaves what is pending to a
reconciliation. -/
theorem effect_of_markPendingReconciliation {agents : AgentTables} {caller : CellCaller}
    {permit : AgentOwnershipPermit} {eventId : Uuid} {answer : Option HostedAgentCellState}
    (ok : markPendingReconciliation kernel agents caller before permit eventId =
      .ok (after, answer)) :
    (after = before ∧ (answer = none → before.pendingCounts kernel.sha permit.agentRunId = (0, 0)) ∧
      (answer ≠ none → ∃ row, before.cells.find? permit.agentRunId = some row ∧
        row.state.status = .reconciliationRequired)) ∨
    ∃ row next, answer ≠ none ∧ row.state.agentRunId = permit.agentRunId ∧
      CellMoved kernel before after row next (.reconciliationRequired
        (before.pendingCounts kernel.sha row.state.agentRunId).1
        (before.pendingCounts kernel.sha row.state.agentRunId).2) ∧
      CellChange kernel before.toCellEvidence after.toCellEvidence row (.reconciliationRequired
        (before.pendingCounts kernel.sha row.state.agentRunId).1
        (before.pendingCounts kernel.sha row.state.agentRunId).2) := by
  simp only [markPendingReconciliation, bind_eq_ok, stateFromRow_eq_ok] at ok
  obtain ⟨_, _, row, read, _, ⟨_, rfl⟩, ok⟩ := ok
  have run := run_of_cellRow read
  by_cases nothing : (before.pendingCounts kernel.sha permit.agentRunId).1 = 0 ∧
      (before.pendingCounts kernel.sha permit.agentRunId).2 = 0
  · rw [if_pos nothing, pure_eq_ok, Prod.mk.injEq] at ok
    obtain ⟨rfl, rfl⟩ := ok
    exact .inl ⟨rfl, fun _ => Prod.ext nothing.1 nothing.2, fun some => absurd rfl some⟩
  · rw [if_neg nothing] at ok
    by_cases marked : row.state.status = .reconciliationRequired
    · rw [if_pos marked, pure_eq_ok, Prod.mk.injEq] at ok
      obtain ⟨rfl, rfl⟩ := ok
      exact .inl ⟨rfl, fun none => absurd none (by simp),
        fun _ => ⟨row, find_of_cellRow read, marked⟩⟩
    · rw [if_neg marked] at ok
      simp only [bind_eq_ok, pure_eq_ok, Prod.exists, Prod.mk.injEq] at ok
      obtain ⟨_, next, updated, rfl, rfl⟩ := ok
      obtain ⟨moved, evidence⟩ := moved_of_updateState read (untouched_self before) updated
      have pending : before.pendingCounts kernel.sha row.state.agentRunId ≠ (0, 0) := by
        intro same
        rw [run] at same
        exact nothing ⟨by rw [same], by rw [same]⟩
      rw [← run] at moved
      exact .inr ⟨row, next, by simp, run, moved, .reconciliationRequired evidence pending⟩

/-- `begin_model_attempt` dispatches a model. -/
theorem effect_of_beginModelAttempt {agents : AgentTables} {caller : CellCaller}
    {permit : AgentOwnershipPermit} {request : HostedModelRequest} {eventId : Uuid}
    {state : HostedAgentCellState}
    (ok : beginModelAttempt kernel agents caller before permit request eventId =
      .ok (after, state)) :
    ∃ row, CellMoved kernel before after row state
        (.modelDispatched ((HostedDispatchRow.mk request caller.now).dispatched kernel.sha)) ∧
      CellChange kernel before.toCellEvidence after.toCellEvidence row
        (.modelDispatched ((HostedDispatchRow.mk request caller.now).dispatched kernel.sha)) ∧
      DispatchAllowed kernel.sha before.toCellEvidence row request ∧
      after.dispatches.rows = before.dispatches.rows ++ [⟨request, caller.now⟩] := by
  simp only [beginModelAttempt, bind_eq_ok, raiseIf_eq_ok, exists_const, stateFromRow_eq_ok,
    Prod.exists, not_or, not_and, ne_eq, not_not, not_le, not_lt] at ok
  obtain ⟨_, _, _, row, read, _, ⟨_, rfl⟩, _, _, status, pending, ⟨step, _, _, _⟩, ⟨steps, calls⟩,
    wall, _, ⟨ceiling, cost⟩, _, mid, dispatched, updated⟩ := ok
  obtain ⟨dispatches, inserted, written⟩ :=
    written_of_insertDispatch (untouched_self before) dispatched
  obtain ⟨moved, evidence⟩ := moved_of_updateState read written updated
  have allowed : DispatchAllowed kernel.sha before.toCellEvidence row request := by
    refine ⟨(run_of_cellRow read).symm, ?_, pending, step, ⟨steps, calls⟩, wall, ceiling, cost⟩
    by_cases ready : row.state.status = .ready
    · exact .inl ready
    · exact .inr (status ready)
  refine ⟨row, moved, ?_, allowed, ?_⟩
  · exact .modelDispatched ⟨request, caller.now⟩ dispatches inserted evidence allowed
  · rw [evidence]
    exact Table.rows_of_insert? inserted

/-- A dispatch that is asked for is stored and the permitted run's. -/
theorem dispatchOf_eq_ok {permit : AgentOwnershipPermit} {invocation : Uuid}
    {dispatch : HostedDispatchRow} (ok : db.dispatchOf permit invocation = .ok dispatch) :
    db.dispatches.find? invocation = some dispatch ∧
      dispatch.request.agentRunId = permit.agentRunId := by
  simp only [dispatchOf, bind_eq_ok, raiseIf_eq_ok, exists_const, require_eq_ok, pure_eq_ok,
    ne_eq, not_not] at ok
  obtain ⟨_, found, run, rfl⟩ := ok
  exact ⟨found, run⟩

/-- The terminal of a completed call. -/
def completedTerminal (result : HostedModelResult) (rawBlob decisionBlob : HostedBlobRef)
    (now : Timestamp) : HostedTerminalRow where
  providerInvocationId := result.providerInvocationId
  terminal := .completed result rawBlob.toBlobKey decisionBlob.toBlobKey
  currencyCostUsd := some result.currencyCostUsd
  durationMs := result.durationMs
  networkAttempted := result.networkAttempted
  responseReceived := result.responseReceived
  terminalAt := now

/-- The payload of a completed call. -/
def completedPayload (kernel : CellKernel) (result : HostedModelResult) : ModelCompleted :=
  ⟨result.providerInvocationId, result.resultDigest kernel.sha, result.durationMs,
    result.currencyCostUsd⟩

/-- `finish_model_success` finds the terminal, or writes it. -/
theorem effect_of_finishModelSuccess {agents : AgentTables} {caller : CellCaller}
    {permit : AgentOwnershipPermit} {result : HostedModelResult}
    {rawBlob decisionBlob : HostedBlobRef} {eventId : Uuid} {state : HostedAgentCellState}
    (ok : finishModelSuccess kernel agents caller before permit result rawBlob decisionBlob
      eventId = .ok (after, state)) :
    (after = before ∧ before.terminals.find? result.providerInvocationId ≠ none) ∨
      ∃ row, CellMoved kernel before after row state
          (.modelCompleted (completedPayload kernel result)) ∧
        CellChange kernel before.toCellEvidence after.toCellEvidence row
          (.modelCompleted (completedPayload kernel result)) ∧
        after.terminals.rows = before.terminals.rows ++
          [completedTerminal result rawBlob decisionBlob caller.now] := by
  simp only [finishModelSuccess, bind_eq_ok, raiseIf_eq_ok, exists_const] at ok
  obtain ⟨_, _, _, _, _, _, _, _, _, _, _, _, _, _, dispatch, asked, row, read, ok⟩ := ok
  obtain ⟨found, of_run⟩ := dispatchOf_eq_ok asked
  split at ok
  · next existing there =>
    simp only [bind_eq_ok, raiseIf_eq_ok, exists_const, pure_eq_ok, Prod.mk.injEq] at ok
    obtain ⟨_, _, _, rfl, _⟩ := ok
    exact .inl ⟨rfl, by rw [there]; simp⟩
  · simp only [bind_eq_ok, raiseIf_eq_ok, exists_const, stateFromRow_eq_ok] at ok
    obtain ⟨_, _, raw, _, decision, _, terminal, _, ⟨_, rfl⟩, updated⟩ := ok
    obtain ⟨terminals, inserted, written⟩ := written_of_insertTerminal
      (written_of_registerBlob (written_of_registerBlob (untouched_self before) raw) decision)
      terminal
    obtain ⟨moved, evidence⟩ := moved_of_updateState read written updated
    refine .inr ⟨row, moved, ?_, ?_⟩
    · exact .modelCompleted (completedTerminal result rawBlob decisionBlob caller.now) dispatch
        (completedPayload kernel result) terminals inserted evidence found
        (of_run.trans (run_of_cellRow read).symm) rfl rfl rfl
    · rw [evidence]
      exact Table.rows_of_insert? inserted

/-- The terminal of a failed call. -/
def failedTerminal (invocation : Uuid) (failure : ModelFailure) (rawBlob : Option HostedBlobRef)
    (now : Timestamp) : HostedTerminalRow where
  providerInvocationId := invocation
  terminal := failure.terminal rawBlob
  currencyCostUsd := failure.currencyCostUsd
  durationMs := failure.durationMs
  networkAttempted := failure.networkAttempted
  responseReceived := failure.responseReceived
  terminalAt := now

/-- The payload of a failed call. -/
def failedPayload (invocation : Uuid) (failure : ModelFailure) : ModelFailed :=
  ⟨invocation, failure.failureDigest, failure.durationMs, failure.currencyCostUsd,
    failure.networkAttempted, failure.responseReceived, failure.cellStatus⟩

/-- The terminal of a failed call says its payload. -/
theorem failed?_failedTerminal (invocation : Uuid) (failure : ModelFailure)
    (rawBlob : Option HostedBlobRef) (now : Timestamp) :
    (failedTerminal invocation failure rawBlob now).failed? =
      some (failedPayload invocation failure) := by
  obtain ⟨_, _, _, ambiguous, _, _, _⟩ := failure
  cases ambiguous <;> rfl

/-- `finish_model_failure` writes the terminal of a call that had none. -/
theorem effect_of_finishModelFailure {agents : AgentTables} {caller : CellCaller}
    {permit : AgentOwnershipPermit} {invocation : Uuid} {failure : ModelFailure}
    {rawBlob : Option HostedBlobRef} {eventId : Uuid} {state : HostedAgentCellState}
    (ok : finishModelFailure kernel agents caller before permit invocation failure rawBlob
      eventId = .ok (after, state)) :
    ∃ row, CellMoved kernel before after row state
        (.modelFailed (failedPayload invocation failure)) ∧
      CellChange kernel before.toCellEvidence after.toCellEvidence row
        (.modelFailed (failedPayload invocation failure)) ∧
      after.terminals.rows = before.terminals.rows ++
        [failedTerminal invocation failure rawBlob caller.now] := by
  simp only [finishModelFailure, bind_eq_ok, raiseIf_eq_ok, exists_const, stateFromRow_eq_ok] at ok
  obtain ⟨_, _, _, _, dispatch, asked, _, row, read, _, raw, _, terminal, _, ⟨_, rfl⟩,
    updated⟩ := ok
  obtain ⟨found, of_run⟩ := dispatchOf_eq_ok asked
  obtain ⟨terminals, inserted, written⟩ := written_of_insertTerminal
    (written_of_registerRaw (untouched_self before) raw) terminal
  obtain ⟨moved, evidence⟩ := moved_of_updateState read written updated
  refine ⟨row, moved, ?_, ?_⟩
  · exact .modelFailed (failedTerminal invocation failure rawBlob caller.now) dispatch
      (failedPayload invocation failure) terminals inserted evidence found
      (of_run.trans (run_of_cellRow read).symm)
      (failed?_failedTerminal invocation failure rawBlob caller.now)
  · rw [evidence]
    exact Table.rows_of_insert? inserted

/-! ## Tools -/

/-- The row of a tool request under a permit. -/
def requestRow (kernel : CellKernel) (permit : AgentOwnershipPermit) (stepIndex : Nat) (request : HostedToolRequest)
    (argumentsBlob : HostedBlobRef) (decision : ToolDecision) (now : Timestamp) :
    HostedToolRequestRow where
  actionId := request.requestId
  agentRunId := permit.agentRunId
  stepIndex := stepIndex
  modelRequestDigest := request.requestDigest kernel.sha
  toolId := request.toolId
  argumentsBlob := argumentsBlob.toBlobKey
  argumentsDigest := request.argumentsDigest kernel.sha
  decision := decision
  createdAt := now

/-- `begin_tool` admits a tool. -/
theorem effect_of_beginTool {agents : AgentTables} {caller : CellCaller}
    {permit : AgentOwnershipPermit} {stepIndex : Nat} {request : HostedToolRequest}
    {argumentsBlob : HostedBlobRef} {proposal : ActionProposal} {admission : ActionAdmission}
    {eventId : Uuid} {state : HostedAgentCellState}
    (ok : beginTool kernel agents caller before permit stepIndex request argumentsBlob proposal
      admission eventId = .ok (after, state)) :
    ∃ row, CellMoved kernel before after row state (.toolAdmitted ⟨request.requestId,
        request.requestDigest kernel.sha, admission.admissionDigest kernel.sha⟩) ∧
      CellChange kernel before.toCellEvidence after.toCellEvidence row
        (.toolAdmitted ⟨request.requestId, request.requestDigest kernel.sha,
          admission.admissionDigest kernel.sha⟩) ∧
      after.toolRequests.rows = before.toolRequests.rows ++
        [requestRow kernel permit stepIndex request argumentsBlob
          (.admitted proposal admission) caller.now] := by
  simp only [beginTool, bind_eq_ok, raiseIf_eq_ok, exists_const, stateFromRow_eq_ok, Prod.exists,
    ne_eq, not_not, not_le] at ok
  obtain ⟨_, _, _, _, _, _, _, _, row, read, _, ⟨_, rfl⟩, _, _, running, pending, step, calls, wall, _, _, _,
    arguments, _, requested, updated⟩ := ok
  obtain ⟨positive, toolRequests, inserted, written⟩ := written_of_insertToolRequest
    (written_of_registerBlob (untouched_self before) arguments) requested
  obtain ⟨moved, evidence⟩ := moved_of_updateState read written updated
  have run := run_of_cellRow read
  refine ⟨row, moved, ?_, ?_⟩
  · exact .toolAdmitted (requestRow kernel permit stepIndex request argumentsBlob
      (.admitted proposal admission) caller.now) _ toolRequests inserted evidence rfl positive
      ⟨run.symm, running, by rw [run]; exact pending, step, calls, wall⟩
  · rw [evidence]
    exact Table.rows_of_insert? inserted

/-- The row of a claim that leads to a projection. -/
def claimRow (kernel : CellKernel) (permit : AgentOwnershipPermit) (actionId : Uuid)
    (admissionDigest semanticProjectionDigest : Digest) (next : HostedAgentCellState)
    (now : Timestamp) : HostedClaimRow where
  actionId := actionId
  admissionDigest := admissionDigest
  ownershipLeaseId := permit.leaseId
  ownershipFencingToken := permit.fencingToken
  cellStateDigest := next.stateDigest kernel.sha
  semanticProjectionDigest := semanticProjectionDigest
  claimDigest := claimDigestOf kernel permit actionId admissionDigest
    (next.stateDigest kernel.sha) semanticProjectionDigest now
  claimedAt := now

/-- `claim_tool_execution` claims an admitted tool. -/
theorem effect_of_claimToolExecution {agents : AgentTables} {caller : CellCaller}
    {permit : AgentOwnershipPermit} {actionId : Uuid}
    {admissionDigest semanticProjectionDigest : Digest} {eventId : Uuid}
    {state : HostedAgentCellState} {execution : ExecutionPermit}
    (ok : claimToolExecution kernel agents caller before permit actionId admissionDigest
      semanticProjectionDigest eventId = .ok (after, state, execution)) :
    ∃ row, row.state.agentRunId = permit.agentRunId ∧
      CellMoved kernel before after row state (.toolClaimed ⟨actionId, admissionDigest,
        semanticProjectionDigest, permit.fencingToken⟩) ∧
      CellChange kernel before.toCellEvidence after.toCellEvidence row (.toolClaimed ⟨actionId,
        admissionDigest, semanticProjectionDigest, permit.fencingToken⟩) ∧
      after.claims.rows = before.claims.rows ++ [claimRow kernel permit actionId
        admissionDigest semanticProjectionDigest state caller.now] := by
  simp only [claimToolExecution, bind_eq_ok, raiseIf_eq_ok, exists_const, stateFromRow_eq_ok,
    Prod.exists, require_eq_ok, pure_eq_ok, not_or, ne_eq, not_not, Prod.mk.injEq] at ok
  obtain ⟨_, _, _, request, requested, ⟨of_run, admitted⟩, open_, _, row, read, _, ⟨_, rfl⟩, _, _,
    ⟨running, _⟩, mid, next, updated, last, claimed, rfl, rfl, rfl⟩ := ok
  obtain ⟨moved, evidence⟩ := moved_of_updateState read (untouched_self before) updated
  obtain ⟨claims, inserted, written⟩ := written_of_insertClaim (untouched_self mid) claimed
  obtain ⟨payload, said, _⟩ := Option.map_eq_some_iff.mp admitted
  have run := run_of_cellRow read
  rw [evidence] at inserted
  have change : CellChange kernel before.toCellEvidence last.toCellEvidence row _ :=
    .toolClaimed (claimRow kernel permit actionId admissionDigest semanticProjectionDigest next
      caller.now) request payload claims inserted (by rw [written.evidence, evidence]) requested
      (of_run.trans run.symm) said open_ running
  refine ⟨row, run, moved_of_same moved written.cells written.events, change, ?_⟩
  rw [written.evidence]
  exact Table.rows_of_insert? inserted

/-- `record_tool_denial` denies a tool. -/
theorem effect_of_recordToolDenial {agents : AgentTables} {caller : CellCaller}
    {permit : AgentOwnershipPermit} {stepIndex : Nat} {request : HostedToolRequest}
    {argumentsBlob : HostedBlobRef} {reasonCode : String} {reasonDigest : Digest}
    {context : HostedContextSection} {contextBlob : HostedBlobRef} {eventId : Uuid}
    {state : HostedAgentCellState}
    (ok : recordToolDenial kernel agents caller before permit stepIndex request argumentsBlob
      reasonCode reasonDigest context contextBlob eventId = .ok (after, state)) :
    ∃ row, CellMoved kernel before after row state (.toolDenied ⟨request.requestId,
        request.requestDigest kernel.sha, reasonDigest, context.sectionDigest kernel.sha⟩) ∧
      CellChange kernel before.toCellEvidence after.toCellEvidence row
        (.toolDenied ⟨request.requestId, request.requestDigest kernel.sha, reasonDigest,
          context.sectionDigest kernel.sha⟩) ∧
      after.toolRequests.rows = before.toolRequests.rows ++
        [requestRow kernel permit stepIndex request argumentsBlob
          (.denied reasonCode reasonDigest) caller.now] ∧
      after.sections.rows = before.sections.rows ++ [sectionRow kernel context contextBlob] := by
  simp only [recordToolDenial, bind_eq_ok, raiseIf_eq_ok, exists_const, stateFromRow_eq_ok,
    not_or, ne_eq, not_not] at ok
  obtain ⟨_, _, _, _, _, _, _, _, _, ⟨of_run, _⟩, _, _, row, read, _, ⟨_, rfl⟩, step, _, arguments, _,
    registered, _, requested, _, inserted, updated⟩ := ok
  obtain ⟨positive, toolRequests, stored, first⟩ := written_of_insertToolRequest
    (written_of_registerBlob (written_of_registerBlob (untouched_self before) arguments)
      registered) requested
  obtain ⟨sections, added, written⟩ := written_of_insertSection first inserted
  obtain ⟨moved, evidence⟩ := moved_of_updateState read written updated
  have run := run_of_cellRow read
  refine ⟨row, moved, ?_, ?_, ?_⟩
  · exact .toolDenied (requestRow kernel permit stepIndex request argumentsBlob
      (.denied reasonCode reasonDigest) caller.now) (sectionRow kernel context contextBlob) _
      toolRequests sections stored added evidence rfl rfl positive run.symm
      (of_run.trans run.symm) step
  · rw [evidence]
    exact Table.rows_of_insert? stored
  · rw [evidence]
    exact Table.rows_of_insert? added

/-- `finish_tool` ends a claimed tool. -/
theorem effect_of_finishTool {agents : AgentTables} {caller : CellCaller}
    {permit : AgentOwnershipPermit} {result : HostedToolResultRef}
    {resultBlob : Option HostedBlobRef} {context : HostedContextSection}
    {contextBlob : HostedBlobRef} {durationMs : Nat} {eventId : Uuid}
    {state : HostedAgentCellState}
    (ok : finishTool kernel agents caller before permit result resultBlob context contextBlob
      durationMs eventId = .ok (after, state)) :
    ∃ row, row.state.agentRunId = permit.agentRunId ∧
      CellMoved kernel before after row state (.toolCompleted
        ((HostedToolResultRow.mk result durationMs).completedWith kernel.sha
          (sectionRow kernel context contextBlob))) ∧
      CellChange kernel before.toCellEvidence after.toCellEvidence row (.toolCompleted
        ((HostedToolResultRow.mk result durationMs).completedWith kernel.sha
          (sectionRow kernel context contextBlob))) ∧
      after.toolResults.rows = before.toolResults.rows ++ [⟨result, durationMs⟩] ∧
      after.sections.rows = before.sections.rows ++ [sectionRow kernel context contextBlob] := by
  simp only [finishTool, bind_eq_ok, raiseIf_eq_ok, exists_const, stateFromRow_eq_ok,
    require_eq_ok, not_or, ne_eq, not_not] at ok
  obtain ⟨_, _, _, row, read, request, requested, of_run, payload, admitted, claim, claimed, _, _, _,
    _, blob, _, _, _, _, ⟨_, _, _, source, _, _⟩, _, _, _, _, registered, _, ended, _, _, inserted, _, ⟨_, rfl⟩,
    updated⟩ := ok
  obtain ⟨toolResults, stored, first⟩ := written_of_insertToolResult
    (written_of_registerBlob (written_of_registerResult (untouched_self before) blob)
      registered) ended
  obtain ⟨sections, added, written⟩ := written_of_insertSection first inserted
  obtain ⟨moved, evidence⟩ := moved_of_updateState read written updated
  have run := run_of_cellRow read
  refine ⟨row, run, moved, ?_, ?_, ?_⟩
  · exact .toolCompleted ⟨result, durationMs⟩ (sectionRow kernel context contextBlob) request
      payload claim toolResults sections stored added evidence requested
      (of_run.trans run.symm) admitted claimed source
  · rw [evidence]
    exact Table.rows_of_insert? stored
  · rw [evidence]
    exact Table.rows_of_insert? added

/-! ## Checkpoints -/

/-- A new checkpoint is written with its event. -/
theorem effect_of_insertCheckpoint {row : HostedCellRow} {stored : HostedCheckpointRow} {run : Uuid}
    {eventId : Uuid} {now : Timestamp} {changes : CellFields → CellFields}
    {next : HostedAgentCellState} (read : before.cellRow kernel.sha run = .ok row)
    (of_run : stored.agentRunId = run) (revision : stored.cellRevision = row.state.cellRevision + 1)
    (status : row.state.status = .ready ∨ row.state.status = .running ∨
      row.state.status = .blocked)
    (settled : before.pendingCounts kernel.sha run = (0, 0))
    (inserted : before.insertCheckpoint stored = .ok mid)
    (updated : mid.updateState kernel row (.checkpointed stored.checkpointed) eventId now changes =
      .ok (after, next)) :
    CellMoved kernel before after row next (.checkpointed stored.checkpointed) ∧
      CellChange kernel before.toCellEvidence after.toCellEvidence row
        (.checkpointed stored.checkpointed) ∧
      after.checkpoints.rows = before.checkpoints.rows ++ [stored] := by
  simp only [insertCheckpoint, bind_eq_ok, raiseIf_eq_ok, exists_const, require_eq_ok,
    pure_eq_ok] at inserted
  obtain ⟨_, checkpoints, added, rfl⟩ := inserted
  have written : EvidenceWritten before { before with checkpoints := checkpoints }
    { before.toCellEvidence with checkpoints := checkpoints } := ⟨rfl, rfl, rfl⟩
  obtain ⟨moved, evidence⟩ := moved_of_updateState read written updated
  have same := run_of_cellRow read
  refine ⟨moved, ?_, ?_⟩
  · exact .checkpointed stored checkpoints added evidence (of_run.trans same.symm) revision status
      (by rw [same]; exact settled)
  · rw [evidence]
    exact Table.rows_of_insert? added

/-- `create_checkpoint` finds a checkpoint of a cell that is not checkpointed, or writes one that
is new. -/
theorem effect_of_createCheckpoint {agents : AgentTables} {caller : CellCaller}
    {permit : AgentOwnershipPermit} {checkpoint : AgentCheckpoint} {eventId : Uuid}
    {state : HostedAgentCellState} {digest : Digest}
    (ok : createCheckpoint kernel agents caller before permit checkpoint eventId =
      .ok (after, state, digest)) :
    (after = before ∧ state.status ≠ .checkpointed) ∨
      ∃ row stored, row.state.agentRunId = permit.agentRunId ∧
        CellMoved kernel before after row state (.checkpointed stored.checkpointed) ∧
        CellChange kernel before.toCellEvidence after.toCellEvidence row
          (.checkpointed stored.checkpointed) ∧
        after.checkpoints.rows = before.checkpoints.rows ++ [stored] := by
  simp only [createCheckpoint, bind_eq_ok, raiseIf_eq_ok, exists_const, stateFromRow_eq_ok,
    Prod.exists] at ok
  obtain ⟨_, _, _, row, read, _, ⟨_, rfl⟩, _, _, status, pending, _, current, _, ok⟩ := ok
  have run := run_of_cellRow read
  have quiescent : row.state.status = .ready ∨ row.state.status = .running ∨
      row.state.status = .blocked := by
    by_cases ready : row.state.status = .ready
    · exact .inl ready
    · by_cases running : row.state.status = .running
      · exact .inr (.inl running)
      · exact .inr (.inr (by simpa [ready, running] using status))
  split at ok
  · simp only [bind_eq_ok, raiseIf_eq_ok, exists_const, pure_eq_ok, Prod.mk.injEq] at ok
    obtain ⟨_, rfl, rfl, _⟩ := ok
    refine .inl ⟨rfl, fun checkpointed => ?_⟩
    rw [checkpointed] at quiescent
    exact absurd quiescent (by decide)
  · simp only [bind_eq_ok, Prod.exists, pure_eq_ok, Prod.mk.injEq] at ok
    obtain ⟨mid, inserted, _, _, updated, rfl, rfl, rfl⟩ := ok
    exact .inr ⟨row, _, run, effect_of_insertCheckpoint read rfl rfl quiescent
      (not_not.mp pending) inserted updated⟩

/-- A rehydration is written with its event. -/
theorem effect_of_insertRehydration {row : HostedCellRow} {stored : HostedRehydrationRow}
    {run : Uuid} {eventId : Uuid} {now : Timestamp} {changes : CellFields → CellFields}
    {next : HostedAgentCellState} (read : before.cellRow kernel.sha run = .ok row)
    (of_run : stored.agentRunId = run) (revision : stored.cellRevision = row.state.cellRevision + 1)
    (status : row.state.status = .checkpointed)
    (settled : before.pendingCounts kernel.sha run = (0, 0))
    (inserted : before.insertRehydration stored = .ok mid)
    (updated : mid.updateState kernel row (.rehydrated stored.rehydrated) eventId now changes =
      .ok (after, next)) :
    CellMoved kernel before after row next (.rehydrated stored.rehydrated) ∧
      CellChange kernel before.toCellEvidence after.toCellEvidence row
        (.rehydrated stored.rehydrated) := by
  simp only [insertRehydration, bind_eq_ok, raiseIf_eq_ok, exists_const, require_eq_ok,
    pure_eq_ok] at inserted
  obtain ⟨_, _, rehydrations, added, rfl⟩ := inserted
  have written : EvidenceWritten before { before with rehydrations := rehydrations }
    { before.toCellEvidence with rehydrations := rehydrations } := ⟨rfl, rfl, rfl⟩
  obtain ⟨moved, evidence⟩ := moved_of_updateState read written updated
  have same := run_of_cellRow read
  exact ⟨moved, .rehydrated stored rehydrations added evidence (of_run.trans same.symm) revision
    status (by rw [same]; exact settled)⟩

/-- `rehydrate` takes a checkpointed cell up again. -/
theorem effect_of_rehydrate {agents : AgentTables} {caller : CellCaller}
    {permit : AgentOwnershipPermit} {selected : Digest} {rehydrationId eventId : Uuid}
    {state : HostedAgentCellState}
    (ok : rehydrate kernel agents caller before permit selected rehydrationId eventId =
      .ok (after, state)) :
    ∃ (row : HostedCellRow) (stored : HostedRehydrationRow),
      row.state.agentRunId = permit.agentRunId ∧ row.state.status = .checkpointed ∧
      state.status = .running ∧ CellMoved kernel before after row state
        (.rehydrated stored.rehydrated) ∧
      CellChange kernel before.toCellEvidence after.toCellEvidence row
        (.rehydrated stored.rehydrated) := by
  simp only [rehydrate, bind_eq_ok, raiseIf_eq_ok, exists_const, stateFromRow_eq_ok, Prod.exists,
    require_eq_ok, not_or, ne_eq, not_not] at ok
  obtain ⟨_, _, _, row, read, _, ⟨_, rfl⟩, _, _, ⟨status, _⟩, pending, _, _, _, _, _, mid, inserted,
    updated⟩ := ok
  have effect := effect_of_insertRehydration read rfl rfl status pending inserted updated
  have running : state.status = .running := by
    rw [effect.1.fields]
    rfl
  exact ⟨row, _, run_of_cellRow read, status, running, effect⟩

/-! ## Completion -/

/-- An intent is written with its event. -/
theorem effect_of_insertIntent {row : HostedCellRow} {intent : HostedIntentRow} {run : Uuid}
    {eventId : Uuid} {now : Timestamp} {changes : CellFields → CellFields}
    {next : HostedAgentCellState} (read : before.cellRow kernel.sha run = .ok row)
    (of_run : intent.agentRunId = run) (running : row.state.status = .running)
    (settled : before.pendingCounts kernel.sha run = (0, 0))
    (inserted : before.insertIntent intent = .ok mid)
    (updated : mid.updateState kernel row (.completionIntent intent.intended) eventId now changes =
      .ok (after, next)) :
    CellMoved kernel before after row next (.completionIntent intent.intended) ∧
      CellChange kernel before.toCellEvidence after.toCellEvidence row
        (.completionIntent intent.intended) ∧
      after.intents.rows = before.intents.rows ++ [intent] := by
  simp only [insertIntent, bind_eq_ok, raiseIf_eq_ok, exists_const, require_eq_ok, pure_eq_ok,
    not_exists, not_and, not_or] at inserted
  obtain ⟨first, intents, added, rfl⟩ := inserted
  have written : EvidenceWritten before { before with intents := intents }
    { before.toCellEvidence with intents := intents } := ⟨rfl, rfl, rfl⟩
  obtain ⟨moved, evidence⟩ := moved_of_updateState read written updated
  have same := run_of_cellRow read
  refine ⟨moved, ?_, ?_⟩
  · exact .completionIntent intent intents added evidence (of_run.trans same.symm)
      (fun other member => (first other member).1) running (by rw [same]; exact settled)
  · rw [evidence]
    exact Table.rows_of_insert? added

/-- `create_completion_intent` finds the intent, or writes it. -/
theorem effect_of_createCompletionIntent {agents : AgentTables} {caller : CellCaller}
    {permit : AgentOwnershipPermit} {candidateRunId : Uuid} {decision : HostedModelDecision}
    {eventId : Uuid} {digest : Digest}
    (ok : createCompletionIntent kernel agents caller before permit candidateRunId decision
      eventId = .ok (after, digest)) :
    after = before ∨ ∃ row next intent, row.state.agentRunId = permit.agentRunId ∧
      CellMoved kernel before after row next (.completionIntent intent.intended) ∧
      CellChange kernel before.toCellEvidence after.toCellEvidence row
        (.completionIntent intent.intended) ∧
      after.intents.rows = before.intents.rows ++ [intent] := by
  simp only [createCompletionIntent, bind_eq_ok, raiseIf_eq_ok, exists_const, stateFromRow_eq_ok,
    Prod.exists, require_eq_ok, ne_eq, not_not] at ok
  obtain ⟨_, _, _, _, _, _, row, read, _, ⟨_, rfl⟩, _, _, running, pending, _, _, _, _, _, _, ok⟩ := ok
  have run := run_of_cellRow read
  split at ok
  · simp only [bind_eq_ok, raiseIf_eq_ok, exists_const, pure_eq_ok, Prod.mk.injEq] at ok
    obtain ⟨_, rfl, _⟩ := ok
    exact .inl rfl
  · simp only [bind_eq_ok, Prod.exists, pure_eq_ok, Prod.mk.injEq] at ok
    obtain ⟨mid, inserted, _, _, updated, rfl, rfl⟩ := ok
    exact .inr ⟨row, _, _, run, effect_of_insertIntent read rfl running pending inserted updated⟩

/-- Completions are written. -/
theorem written_of_completions
    (completions : Table (fun row : HostedCompletionRow => row.candidateRunId)) :
    EvidenceWritten before { before with completions := completions }
      { before.toCellEvidence with completions := completions } := ⟨rfl, rfl, rfl⟩

/-- A completion is written with its event. -/
theorem effect_of_insertCompletion {row : HostedCellRow} {completion : HostedCompletionRow}
    {run : Uuid} {eventId : Uuid} {now : Timestamp} {changes : CellFields → CellFields}
    {next : HostedAgentCellState} (read : before.cellRow kernel.sha run = .ok row)
    (of_run : completion.agentRunId = run) (unfinished : completion.finalizedAt = none)
    (running : row.state.status = .running)
    (settled : before.pendingCounts kernel.sha run = (0, 0))
    (inserted : before.insertCompletion completion = .ok mid)
    (updated : mid.updateState kernel row (.completionPrepared completion.prepared) eventId now
      changes = .ok (after, next)) :
    CellMoved kernel before after row next (.completionPrepared completion.prepared) ∧
      CellChange kernel before.toCellEvidence after.toCellEvidence row
        (.completionPrepared completion.prepared) ∧
      after.completions.rows = before.completions.rows ++ [completion] := by
  simp only [insertCompletion, bind_eq_ok, raiseIf_eq_ok, exists_const, require_eq_ok, pure_eq_ok,
    not_exists, not_and] at inserted
  obtain ⟨first, completions, added, rfl⟩ := inserted
  obtain ⟨moved, evidence⟩ := moved_of_updateState read (written_of_completions _) updated
  have same := run_of_cellRow read
  refine ⟨moved, ?_, ?_⟩
  · exact .completionPrepared completion completions added evidence (of_run.trans same.symm)
      first unfinished running (by rw [same]; exact settled)
  · rw [evidence]
    exact Table.rows_of_insert? added

/-- `prepare_completion` writes a completion. -/
theorem effect_of_prepareCompletion {agents : AgentTables} {caller : CellCaller}
    {permit : AgentOwnershipPermit} {candidateRunId : Uuid} {capture : CandidateCapture}
    {decision : HostedModelDecision} {evidenceRefs : List EvidenceRef} {eventId : Uuid}
    {state : HostedAgentCellState}
    (ok : prepareCompletion kernel agents caller before permit candidateRunId capture decision
      evidenceRefs eventId = .ok (after, state)) :
    ∃ row completion, row.state.agentRunId = permit.agentRunId ∧
      CellMoved kernel before after row state (.completionPrepared completion.prepared) ∧
      CellChange kernel before.toCellEvidence after.toCellEvidence row
        (.completionPrepared completion.prepared) ∧
      after.completions.rows = before.completions.rows ++ [completion] := by
  simp only [prepareCompletion, bind_eq_ok, raiseIf_eq_ok, exists_const, stateFromRow_eq_ok,
    Prod.exists, require_eq_ok, ne_eq, not_not] at ok
  obtain ⟨_, _, _, _, _, row, read, _, ⟨_, rfl⟩, _, _, running, pending, _, _, _, _, _, _, _, _, _, _, _, _, _, _,
    mid, inserted, updated⟩ := ok
  exact ⟨row, _, run_of_cellRow read, effect_of_insertCompletion read rfl rfl running pending
    inserted updated⟩

/-- `finalize_completion` finds a completed cell, or completes it. -/
theorem effect_of_finalizeCompletion {agents : AgentTables} {caller : CellCaller} {run : Uuid}
    {eventId : Uuid} {state : HostedAgentCellState}
    (ok : finalizeCompletion kernel agents caller before run eventId = .ok (after, state)) :
    after = before ∨ ∃ (row : HostedCellRow) (final : FinalCandidate),
      row.state.agentRunId = run ∧
      CellMoved kernel before after row state (.completed ⟨final.captureId, final.answerDigest⟩) ∧
      CellChange kernel before.toCellEvidence after.toCellEvidence row
        (.completed ⟨final.captureId, final.answerDigest⟩) := by
  simp only [finalizeCompletion, bind_eq_ok, stateFromRow_eq_ok] at ok
  obtain ⟨row, read, _, ⟨_, rfl⟩, ok⟩ := ok
  have same := run_of_cellRow read
  by_cases done : row.state.status = .completed
  · rw [if_pos done, pure_eq_ok, Prod.mk.injEq] at ok
    exact .inl ok.1.symm
  · rw [if_neg done] at ok
    simp only [bind_eq_ok, raiseIf_eq_ok, exists_const, require_eq_ok, Prod.exists, ne_eq,
      not_not] at ok
    obtain ⟨pending, _, _, _, _, _, _, _, _, _, final, candidate, updated⟩ := ok
    obtain ⟨moved, evidence⟩ := moved_of_updateState read (written_of_completions _) updated
    refine .inr ⟨row, final, same, moved, .completed final caller.now _ ?_ evidence pending
      candidate⟩
    rw [same]
    apply List.map_congr_left
    intro other _
    simp only [decide_eq_true_eq]

end CellTables

end Macr
