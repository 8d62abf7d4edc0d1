import Macr.Cell.System
import Macr.Cell.Views

/-!
# Cells that stay readable

Every operation checks a cell before it moves it, and one cell's operations could still make it, or
another cell, unreadable: the tables are joined and ordered by columns that the events do not
follow. What the evidence keeps under operations that come in order is one invariant, and each type
of event adds to both views of its cell alike and leaves the views of the other cells.
-/

namespace Macr

open Lib

/-- The sections and the events are of runs that have a cell. -/
structure SectionsLaid (db : CellTables) : Prop where
  /-- The run of a section has a cell. -/
  sectionRun : ∀ item ∈ db.sections.rows, ∃ row ∈ db.cells.rows,
    row.state.agentRunId = item.agentRunId
  /-- So has that of an event. -/
  eventRun : ∀ event ∈ db.events.rows, ∃ row ∈ db.cells.rows,
    row.state.agentRunId = event.agentRunId

/-- The dispatches go along with the steps, and all but the last of a run have ended. -/
structure ModelsLaid (db : CellTables) : Prop where
  /-- A dispatch is of an earlier step of a cell. -/
  dispatchRun : ∀ dispatch ∈ db.dispatches.rows, ∃ row ∈ db.cells.rows,
    row.state.agentRunId = dispatch.request.agentRunId ∧
      dispatch.request.stepIndex < row.state.nextStep
  /-- A step has one dispatch. -/
  dispatchStep : ∀ first ∈ db.dispatches.rows, ∀ second ∈ db.dispatches.rows,
    first.request.agentRunId = second.request.agentRunId →
      first.request.stepIndex = second.request.stepIndex → first = second
  /-- A dispatch without a terminal is the last of its run. -/
  dispatchOpen : ∀ dispatch ∈ db.dispatches.rows,
    db.terminals.find? dispatch.request.providerInvocationId = none →
      ∀ other ∈ db.dispatches.rows, other.request.agentRunId = dispatch.request.agentRunId →
        other.request.stepIndex ≤ dispatch.request.stepIndex
  /-- A terminal has a dispatch. -/
  terminalOf : ∀ terminal ∈ db.terminals.rows,
    db.dispatches.find? terminal.providerInvocationId ≠ none

/-- The tool requests go along with the steps, and all admitted ones but the last of a run have
ended. -/
structure ToolsLaid (sha : Sha256) (db : CellTables) : Prop where
  /-- A tool request is of an earlier step of a cell. -/
  requestRun : ∀ request ∈ db.toolRequests.rows, ∃ row ∈ db.cells.rows,
    row.state.agentRunId = request.agentRunId ∧ request.stepIndex < row.state.nextStep
  /-- An admitted request without a result is the last admitted one of its run. -/
  requestOpen : ∀ request ∈ db.toolRequests.rows, request.admitted? sha ≠ none →
    db.toolResults.find? request.actionId = none →
      ∀ other ∈ db.toolRequests.rows, other.agentRunId = request.agentRunId →
        other.admitted? sha ≠ none → other.order ≤ request.order
  /-- A claim has an admitted request. -/
  claimOf : ∀ claim ∈ db.claims.rows, ∃ request,
    db.toolRequests.find? claim.actionId = some request ∧ request.admitted? sha ≠ none
  /-- So has a result. -/
  resultOf : ∀ result ∈ db.toolResults.rows, ∃ request,
    db.toolRequests.find? result.result.actionId = some request ∧ request.admitted? sha ≠ none

/-- The checkpoints and the rehydrations are of revisions that a cell has come to. -/
structure RevisionsLaid (db : CellTables) : Prop where
  /-- A checkpoint is of a revision that a cell has come to. -/
  checkpointRun : ∀ checkpoint ∈ db.checkpoints.rows, ∃ row ∈ db.cells.rows,
    row.state.agentRunId = checkpoint.agentRunId ∧
      checkpoint.cellRevision ≤ row.state.cellRevision
  /-- So is a rehydration. -/
  rehydrationRun : ∀ rehydration ∈ db.rehydrations.rows, ∃ row ∈ db.cells.rows,
    row.state.agentRunId = rehydration.agentRunId ∧
      rehydration.cellRevision ≤ row.state.cellRevision

/-- A run has one completion, and a cell that waits for its end has it. -/
structure CompletionsLaid (db : CellTables) : Prop where
  /-- The run of an intent has a cell. -/
  intentRun : ∀ intent ∈ db.intents.rows, ∃ row ∈ db.cells.rows,
    row.state.agentRunId = intent.agentRunId
  /-- So has that of a completion. -/
  completionRun : ∀ completion ∈ db.completions.rows, ∃ row ∈ db.cells.rows,
    row.state.agentRunId = completion.agentRunId
  /-- A run has one completion. -/
  completionOnce : ∀ first ∈ db.completions.rows, ∀ second ∈ db.completions.rows,
    first.agentRunId = second.agentRunId → first = second
  /-- A cell whose completion is pending has it, with its candidate. -/
  completing : ∀ row ∈ db.cells.rows, row.state.status = .completionPending →
    ∃ completion ∈ db.completions.rows, completion.agentRunId = row.state.agentRunId ∧
      completion.finalizedAt = none ∧ row.state.final = some ⟨completion.candidateRunId,
        completion.finalCaptureId, completion.finalAnswerDigest⟩

/-- What the rows of the evidence keep of each other and of the cells. -/
structure EvidenceLaid (sha : Sha256) (db : CellTables) : Prop extends SectionsLaid db,
  ModelsLaid db, ToolsLaid sha db, RevisionsLaid db, CompletionsLaid db

/-- No stored result has the digest as its reference. -/
def Unsourced (sha : Sha256) (db : CellEvidence) (sourceDigest : Digest) : Prop :=
  ∀ stored ∈ db.toolResults.rows, stored.result.referenceDigest sha ≠ sourceDigest

/-- The rows that are written come in order: nothing is said to come from an earlier result, a
result speaks of its own run, and a tool request comes behind those of its step. -/
structure InOrder (sha : Sha256) (before after : CellEvidence) : Prop where
  /-- A new section does not have an earlier result as its source. -/
  unsourced : ∀ item ∈ after.sections.rows, item ∉ before.sections.rows →
    Unsourced sha before item.sourceDigest
  /-- A new result is not the source of an earlier section. -/
  unused : ∀ result ∈ after.toolResults.rows, result ∉ before.toolResults.rows →
    ∀ item ∈ before.sections.rows, item.sourceDigest ≠ result.result.referenceDigest sha
  /-- The section of a new result is of the run of the request. -/
  sameRun : ∀ result ∈ after.toolResults.rows, result ∉ before.toolResults.rows →
    ∀ item ∈ after.sections.rows, item ∉ before.sections.rows →
      ∀ request, before.toolRequests.find? result.result.actionId = some request →
        item.agentRunId = request.agentRunId
  /-- An admitted request comes behind the admitted ones of its step. -/
  admitted : ∀ request ∈ after.toolRequests.rows, request ∉ before.toolRequests.rows →
    ∀ other ∈ before.toolRequests.rows, other.agentRunId = request.agentRunId →
      other.stepIndex = request.stepIndex → request.admitted? sha ≠ none →
        other.admitted? sha ≠ none → other.actionId < request.actionId
  /-- A denied request comes behind the denied ones of its step. -/
  denied : ∀ request ∈ after.toolRequests.rows, request ∉ before.toolRequests.rows →
    ∀ other ∈ before.toolRequests.rows, other.agentRunId = request.agentRunId →
      other.stepIndex = request.stepIndex → request.denied? ≠ none → other.denied? ≠ none →
        other.actionId < request.actionId

/-! ## Events of a cell that moves -/

section Moved

variable {kernel : CellKernel} {before after : CellTables} {row : HostedCellRow}
  {next : HostedAgentCellState} {body : CellEventBody}

/-- The row of a moved cell. -/
def HostedCellRow.movedTo (sha : Sha256) (row : HostedCellRow) (next : HostedAgentCellState) :
    HostedCellRow := { row with state := next, stateDigest := next.stateDigest sha }

/-- A moved cell keeps its run and goes one revision on. -/
theorem CellMoved.advances (moved : CellMoved kernel before after row next body) :
    next.agentRunId = row.state.agentRunId ∧
      next.cellRevision = row.state.cellRevision + 1 := by
  rw [moved.fields]
  cases body <;> exact ⟨rfl, rfl⟩

/-- The rows after a cell has moved: its own, and the others as they were. -/
theorem CellMoved.mem_cells (moved : CellMoved kernel before after row next body)
    {other : HostedCellRow} : other ∈ after.cells.rows ↔
      other = row.movedTo kernel.sha next ∨
        other ∈ before.cells.rows ∧ other.state.agentRunId ≠ row.state.agentRunId := by
  have readable := cellRow_eq_ok.mp moved.read
  rw [moved.cells, List.mem_map, moved.advances.1]
  constructor
  · rintro ⟨old, stored, rfl⟩
    by_cases same : old.state.agentRunId = row.state.agentRunId
    · have equal : old = row := before.cells.eq_of_key stored readable.stored same
      rw [if_pos same, equal]
      exact .inl rfl
    · rw [if_neg same]
      exact .inr ⟨stored, same⟩
  · rintro (rfl | ⟨stored, different⟩)
    · exact ⟨row, readable.stored, if_pos rfl⟩
    · exact ⟨other, stored, if_neg different⟩

/-- The events of another run are as they were. -/
theorem CellMoved.eventsOf_other (moved : CellMoved kernel before after row next body) {run : Uuid}
    (different : row.state.agentRunId ≠ run) : after.eventsOf run = before.eventsOf run := by
  obtain ⟨eventId, rows⟩ := moved.event
  have apart : ¬next.agentRunId = run := by
    rw [moved.advances.1]
    exact different
  unfold CellTables.eventsOf
  rw [rows, List.filter_append]
  simp [CellEvent.following, apart]

/-- The cell's own events have one more behind them. -/
theorem CellMoved.eventsOf_own (moved : CellMoved kernel before after row next body) :
    ∃ eventId, after.eventsOf row.state.agentRunId =
      before.eventsOf row.state.agentRunId ++ [CellEvent.following kernel.sha eventId next body
        (((before.eventsOf row.state.agentRunId).getLast?.map (·.eventDigest)).getD
          zeroDigest)] := by
  obtain ⟨eventId, rows⟩ := moved.event
  have readable := cellRow_eq_ok.mp moved.read
  obtain ⟨of_run, revision⟩ := moved.advances
  refine ⟨eventId, ?_⟩
  rw [of_run] at rows
  rw [CellTables.eventsOf, rows, List.filter_append]
  rw [List.filter_cons_of_pos (by simp [CellEvent.following, of_run]), List.filter_nil]
  apply sortOn_concat
  intro event member
  have earlier := (revision_le_of_replay readable.replayed).2 event (mem_sortOn.mpr member)
  show event.cellRevision ≤ next.cellRevision
  omega

/-- A moved cell can be read when the tables say what its event says behind everything else. -/
theorem CellMoved.readable_own (moved : CellMoved kernel before after row next body)
    (said : after.view kernel.sha row.state.agentRunId =
      (before.view kernel.sha row.state.agentRunId).append (.ofBodies [body])) :
    Readable kernel.sha after (row.movedTo kernel.sha next) := by
  have readable := cellRow_eq_ok.mp moved.read
  obtain ⟨eventId, events⟩ := moved.eventsOf_own
  obtain ⟨of_run, _⟩ := moved.advances
  have bodies : (after.eventsOf row.state.agentRunId).map (·.body) =
      (before.eventsOf row.state.agentRunId).map (·.body) ++ [body] := by
    rw [events, List.map_append]
    rfl
  have same_run : (row.movedTo kernel.sha next).state.agentRunId = row.state.agentRunId := of_run
  constructor
  · exact moved.mem_cells.mpr (.inl rfl)
  · rfl
  · rw [same_run, events]
    exact replay_following readable.replayed moved.later moved.fields of_run
  · rw [same_run, bodies, said, EvidenceView.ofBodies_append, readable.agree]
  · rw [same_run, bodies]
    obtain ⟨attached, once, agrees⟩ := readable.attached
    refine ⟨attached, ?_, ?_⟩
    · have not_attached : body.attached? = none := by
        cases body with
        | attached payload => exact absurd rfl (moved.later payload)
        | _ => rfl
      rw [List.filterMap_append, once]
      simp [not_attached]
    · have policy : next.policyDigest = row.state.policyDigest ∧
          next.semanticRequestDigest = row.state.semanticRequestDigest := by
        rw [moved.fields]
        cases body <;> exact ⟨rfl, rfl⟩
      have within : attached.sectionDigests.length ≤
          (((before.eventsOf row.state.agentRunId).map (·.body)).flatMap
            (·.sectionDigests)).length := by
        have counted := congrArg (fun payload => payload.sectionDigests.length) agrees
        simp only [List.length_take] at counted
        omega
      rw [List.flatMap_append, List.take_append_of_le_length within]
      show attached = ⟨next.policyDigest, next.semanticRequestDigest, _⟩
      rw [policy.1, policy.2]
      exact agrees

/-- Another cell can be read when the tables say of it what they said. -/
theorem CellMoved.readable_other (moved : CellMoved kernel before after row next body)
    {other : HostedCellRow} (readable : Readable kernel.sha before other)
    (different : other.state.agentRunId ≠ row.state.agentRunId)
    (said : after.view kernel.sha other.state.agentRunId =
      before.view kernel.sha other.state.agentRunId) : Readable kernel.sha after other := by
  have events := moved.eventsOf_other (Ne.symm different)
  constructor
  · exact moved.mem_cells.mpr (.inr ⟨readable.stored, different⟩)
  · exact readable.digest
  · rw [events]
    exact readable.replayed
  · rw [events, said]
    exact readable.agree
  · rw [events]
    exact readable.attached

end Moved

end Macr
