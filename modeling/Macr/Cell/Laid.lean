import Macr.Cell.Upkeep

/-!
# The rows of the evidence stay laid out

Each group of tables keeps its order along every event of any cell: a frame lemma for the events
that leave the group alone, and a lemma for each row that can be added to it. With that order kept,
all cells can still be read.
-/

namespace Macr

open Lib

/-- No cell is lost or goes back. -/
def CellsAdvance (before after : CellTables) : Prop :=
  ∀ old ∈ before.cells.rows, ∃ new ∈ after.cells.rows,
    new.state.agentRunId = old.state.agentRunId ∧ old.state.nextStep ≤ new.state.nextStep ∧
      old.state.cellRevision ≤ new.state.cellRevision

section Kept

variable {kernel : CellKernel} {before after : CellTables} {row : HostedCellRow}
  {next : HostedAgentCellState} {body : CellEventBody}

/-- The row of a moved cell is there. -/
theorem CellMoved.own_mem (moved : CellMoved kernel before after row next body) :
    row.movedTo kernel.sha next ∈ after.cells.rows := moved.mem_cells.mpr (.inl rfl)

/-- A cell that is moved goes on. -/
theorem CellMoved.cellsAdvance (moved : CellMoved kernel before after row next body) :
    CellsAdvance before after := by
  intro old stored
  by_cases same : old.state.agentRunId = row.state.agentRunId
  · have equal : old = row :=
      before.cells.eq_of_key stored (cellRow_eq_ok.mp moved.read).stored same
    obtain ⟨of_run, revision⟩ := moved.advances
    refine ⟨row.movedTo kernel.sha next, moved.own_mem, ?_, ?_, ?_⟩
    · rw [equal]
      exact of_run
    · rw [equal]
      show row.state.nextStep ≤ next.nextStep
      rw [moved.fields]
      cases body <;> simp [CellEventBody.fieldsAfter, CellEventBody.changes]
    · rw [equal]
      show row.state.cellRevision ≤ next.cellRevision
      omega
  · exact ⟨old, moved.mem_cells.mpr (.inr ⟨stored, same⟩), rfl, le_refl _, le_refl _⟩

/-- The sections and events stay of runs with a cell. -/
theorem SectionsLaid.kept (laid : SectionsLaid before) (advance : CellsAdvance before after)
    (sections : ∀ item ∈ after.sections.rows, item ∈ before.sections.rows ∨
      ∃ row ∈ after.cells.rows, row.state.agentRunId = item.agentRunId)
    (events : ∀ event ∈ after.events.rows, event ∈ before.events.rows ∨
      ∃ row ∈ after.cells.rows, row.state.agentRunId = event.agentRunId) :
    SectionsLaid after where
  sectionRun := by
    intro item member
    rcases sections item member with held | new
    · obtain ⟨old, stored, of_run⟩ := laid.sectionRun item held
      obtain ⟨later, there, same, _⟩ := advance old stored
      exact ⟨later, there, same.trans of_run⟩
    · exact new
  eventRun := by
    intro event member
    rcases events event member with held | new
    · obtain ⟨old, stored, of_run⟩ := laid.eventRun event held
      obtain ⟨later, there, same, _⟩ := advance old stored
      exact ⟨later, there, same.trans of_run⟩
    · exact new

/-- Model calls that nothing is written of stay as they are. -/
theorem ModelsLaid.frame (laid : ModelsLaid before) (advance : CellsAdvance before after)
    (dispatches : after.dispatches = before.dispatches)
    (terminals : after.terminals = before.terminals) : ModelsLaid after where
  dispatchRun := by
    intro dispatch member
    rw [dispatches] at member
    obtain ⟨old, stored, of_run, earlier⟩ := laid.dispatchRun dispatch member
    obtain ⟨later, there, same, steps, _⟩ := advance old stored
    exact ⟨later, there, same.trans of_run, by omega⟩
  dispatchStep := by
    rw [dispatches]
    exact laid.dispatchStep
  dispatchOpen := by
    rw [dispatches, terminals]
    exact laid.dispatchOpen
  terminalOf := by
    rw [dispatches, terminals]
    exact laid.terminalOf

/-- A dispatch of the next step, where all calls have ended, keeps the model calls. -/
theorem ModelsLaid.dispatch {dispatch : HostedDispatchRow} (laid : ModelsLaid before)
    (moved : CellMoved kernel before after row next body)
    (said : body = .modelDispatched (dispatch.dispatched kernel.sha))
    (inserted : before.dispatches.insert? dispatch = some after.dispatches)
    (terminals : after.terminals = before.terminals)
    (allowed : DispatchAllowed kernel.sha before.toCellEvidence row dispatch.request) :
    ModelsLaid after := by
  have stored := (cellRow_eq_ok.mp moved.read).stored
  have lower : ∀ other ∈ before.dispatches.rows,
      other.request.agentRunId = dispatch.request.agentRunId →
        other.request.stepIndex < dispatch.request.stepIndex := by
    intro other member same
    obtain ⟨old, held, of_run, earlier⟩ := laid.dispatchRun other member
    have equal : old = row :=
      before.cells.eq_of_key held stored (of_run.trans (same.trans allowed.run))
    rw [allowed.step, ← equal]
    exact earlier
  have steps : next.nextStep = row.state.nextStep + 1 := by
    rw [moved.fields, said]
    rfl
  have rows := Table.rows_of_insert? inserted
  constructor
  · intro other member
    rw [rows] at member
    rcases List.mem_append.mp member with held | new
    · obtain ⟨old, listed, of_run, earlier⟩ := laid.dispatchRun other held
      obtain ⟨later, there, same, steps, _⟩ := moved.cellsAdvance old listed
      exact ⟨later, there, same.trans of_run, by omega⟩
    · rw [List.mem_singleton.mp new]
      refine ⟨_, moved.own_mem, moved.advances.1.trans allowed.run.symm, ?_⟩
      show dispatch.request.stepIndex < next.nextStep
      have step := allowed.step
      omega
  · intro first here second there same step
    rw [rows] at here there
    rcases List.mem_append.mp here with held | new
    · rcases List.mem_append.mp there with other | newer
      · exact laid.dispatchStep first held second other same step
      · rw [List.mem_singleton.mp newer] at same step
        have less := lower first held same
        omega
    · rcases List.mem_append.mp there with other | newer
      · rw [List.mem_singleton.mp new] at same step
        have less := lower second other same.symm
        omega
      · rw [List.mem_singleton.mp new, List.mem_singleton.mp newer]
  · intro first here open_ other there same
    rw [rows] at here there
    rw [terminals] at open_
    have ended := (CellEvidence.ended_of_settled allowed.settled).1
    rcases List.mem_append.mp here with held | new
    · rcases List.mem_append.mp there with old | newer
      · exact laid.dispatchOpen first held open_ other old same
      · rw [List.mem_singleton.mp newer] at same
        exact absurd open_ (ended first held (same.symm.trans allowed.run))
    · rw [List.mem_singleton.mp new] at same ⊢
      rcases List.mem_append.mp there with old | newer
      · exact le_of_lt (lower other old same)
      · rw [List.mem_singleton.mp newer]
  · intro terminal member
    rw [terminals] at member
    rw [Table.find?_of_insert? inserted]
    split
    · simp
    · exact laid.terminalOf terminal member

/-- A terminal of a dispatch keeps the model calls. -/
theorem ModelsLaid.terminal {terminal : HostedTerminalRow} {dispatch : HostedDispatchRow}
    (laid : ModelsLaid before) (advance : CellsAdvance before after)
    (inserted : before.terminals.insert? terminal = some after.terminals)
    (dispatches : after.dispatches = before.dispatches)
    (dispatched : before.dispatches.find? terminal.providerInvocationId = some dispatch) :
    ModelsLaid after := by
  have framed : ModelsLaid { after with terminals := before.terminals } :=
    laid.frame advance dispatches rfl
  refine ⟨framed.dispatchRun, framed.dispatchStep, ?_, ?_⟩
  · intro first here open_
    rw [Table.find?_of_insert? inserted] at open_
    split at open_
    · exact absurd open_ (by simp)
    · exact framed.dispatchOpen first here open_
  · intro other member
    rw [Table.rows_of_insert? inserted] at member
    rcases List.mem_append.mp member with held | new
    · exact framed.terminalOf other held
    · rw [List.mem_singleton.mp new, dispatches, dispatched]
      simp

/-- Tools that nothing is written of stay as they are. -/
theorem ToolsLaid.frame {sha : Sha256} (laid : ToolsLaid sha before)
    (advance : CellsAdvance before after) (requests : after.toolRequests = before.toolRequests)
    (claims : after.claims = before.claims) (results : after.toolResults = before.toolResults) :
    ToolsLaid sha after where
  requestRun := by
    intro request member
    rw [requests] at member
    obtain ⟨old, stored, of_run, earlier⟩ := laid.requestRun request member
    obtain ⟨later, there, same, steps, _⟩ := advance old stored
    exact ⟨later, there, same.trans of_run, by omega⟩
  requestOpen := by
    rw [requests, results]
    exact laid.requestOpen
  claimOf := by
    rw [claims, requests]
    exact laid.claimOf
  resultOf := by
    rw [results, requests]
    exact laid.resultOf

/-- A request of the last step keeps the tools: a denied one in any case, an admitted one where all
others have ended and it comes behind those of its step. -/
theorem ToolsLaid.request {request : HostedToolRequestRow} (laid : ToolsLaid kernel.sha before)
    (moved : CellMoved kernel before after row next body)
    (inserted : before.toolRequests.insert? request = some after.toolRequests)
    (claims : after.claims = before.claims) (results : after.toolResults = before.toolResults)
    (of_run : request.agentRunId = row.state.agentRunId) (positive : 0 < request.stepIndex)
    (step : request.stepIndex = row.state.nextStep - 1)
    (admitted : request.admitted? kernel.sha ≠ none →
      before.pendingCounts kernel.sha row.state.agentRunId = (0, 0) ∧
        ∀ other ∈ before.toolRequests.rows, other.agentRunId = request.agentRunId →
          other.admitted? kernel.sha ≠ none → other.order ≤ request.order) :
    ToolsLaid kernel.sha after := by
  have rows := Table.rows_of_insert? inserted
  have found := Table.find?_of_insert? inserted
  have still : ∀ actionId other, before.toolRequests.find? actionId = some other →
      after.toolRequests.find? actionId = some other := by
    intro actionId other lookup
    rw [found, if_neg, lookup]
    rintro rfl
    rw [Table.absent_of_insert? inserted] at lookup
    exact absurd lookup (by simp)
  constructor
  · intro other member
    rw [rows] at member
    rcases List.mem_append.mp member with held | new
    · obtain ⟨old, listed, same_run, earlier⟩ := laid.requestRun other held
      obtain ⟨later, there, same, steps, _⟩ := moved.cellsAdvance old listed
      exact ⟨later, there, same.trans same_run, by omega⟩
    · have stored := (cellRow_eq_ok.mp moved.read).stored
      obtain ⟨later, there, same, steps, _⟩ := moved.cellsAdvance row stored
      rw [List.mem_singleton.mp new]
      exact ⟨later, there, same.trans of_run.symm, by omega⟩
  · intro first here speaks open_ other there same others
    rw [rows] at here there
    rw [results] at open_
    rcases List.mem_append.mp here with held | new
    · rcases List.mem_append.mp there with old | newer
      · exact laid.requestOpen first held speaks open_ other old same others
      · rw [List.mem_singleton.mp newer] at same others
        have ended := (CellEvidence.ended_of_settled (admitted others).1).2
        exact absurd open_ (ended first held (same.symm.trans of_run) speaks)
    · rw [List.mem_singleton.mp new] at same speaks ⊢
      rcases List.mem_append.mp there with old | newer
      · exact (admitted speaks).2 other old same others
      · rw [List.mem_singleton.mp newer]
  · intro claim member
    rw [claims] at member
    obtain ⟨other, lookup, speaks⟩ := laid.claimOf claim member
    exact ⟨other, still _ other lookup, speaks⟩
  · intro result member
    rw [results] at member
    obtain ⟨other, lookup, speaks⟩ := laid.resultOf result member
    exact ⟨other, still _ other lookup, speaks⟩

/-- A claim of an admitted request keeps the tools. -/
theorem ToolsLaid.claim {sha : Sha256} {claim : HostedClaimRow} {request : HostedToolRequestRow}
    (laid : ToolsLaid sha before) (advance : CellsAdvance before after)
    (inserted : before.claims.insert? claim = some after.claims)
    (requests : after.toolRequests = before.toolRequests)
    (results : after.toolResults = before.toolResults)
    (requested : before.toolRequests.find? claim.actionId = some request)
    (admitted : request.admitted? sha ≠ none) : ToolsLaid sha after := by
  have framed : ToolsLaid sha { after with claims := before.claims } :=
    laid.frame advance requests rfl results
  refine ⟨framed.requestRun, framed.requestOpen, ?_, framed.resultOf⟩
  intro other member
  rw [Table.rows_of_insert? inserted] at member
  rcases List.mem_append.mp member with held | new
  · exact framed.claimOf other held
  · rw [List.mem_singleton.mp new, requests]
    exact ⟨request, requested, admitted⟩

/-- The result of an admitted request keeps the tools. -/
theorem ToolsLaid.result {sha : Sha256} {result : HostedToolResultRow}
    {request : HostedToolRequestRow} (laid : ToolsLaid sha before)
    (advance : CellsAdvance before after)
    (inserted : before.toolResults.insert? result = some after.toolResults)
    (requests : after.toolRequests = before.toolRequests) (claims : after.claims = before.claims)
    (requested : before.toolRequests.find? result.result.actionId = some request)
    (admitted : request.admitted? sha ≠ none) : ToolsLaid sha after := by
  have framed : ToolsLaid sha { after with toolResults := before.toolResults } :=
    laid.frame advance requests claims rfl
  refine ⟨framed.requestRun, ?_, framed.claimOf, ?_⟩
  · intro first here speaks open_
    rw [Table.find?_of_insert? inserted] at open_
    split at open_
    · exact absurd open_ (by simp)
    · exact framed.requestOpen first here speaks open_
  · intro other member
    rw [Table.rows_of_insert? inserted] at member
    rcases List.mem_append.mp member with held | new
    · exact framed.resultOf other held
    · rw [List.mem_singleton.mp new, requests]
      exact ⟨request, requested, admitted⟩

/-- Checkpoints and rehydrations of revisions that have been reached stay so. -/
theorem RevisionsLaid.kept (laid : RevisionsLaid before) (advance : CellsAdvance before after)
    (checkpoints : ∀ checkpoint ∈ after.checkpoints.rows, checkpoint ∈ before.checkpoints.rows ∨
      ∃ row ∈ after.cells.rows, row.state.agentRunId = checkpoint.agentRunId ∧
        checkpoint.cellRevision ≤ row.state.cellRevision)
    (rehydrations : ∀ rehydration ∈ after.rehydrations.rows,
      rehydration ∈ before.rehydrations.rows ∨
        ∃ row ∈ after.cells.rows, row.state.agentRunId = rehydration.agentRunId ∧
          rehydration.cellRevision ≤ row.state.cellRevision) : RevisionsLaid after where
  checkpointRun := by
    intro checkpoint member
    rcases checkpoints checkpoint member with held | new
    · obtain ⟨old, stored, of_run, earlier⟩ := laid.checkpointRun checkpoint held
      obtain ⟨later, there, same, _, revisions⟩ := advance old stored
      exact ⟨later, there, same.trans of_run, by omega⟩
    · exact new
  rehydrationRun := by
    intro rehydration member
    rcases rehydrations rehydration member with held | new
    · obtain ⟨old, stored, of_run, earlier⟩ := laid.rehydrationRun rehydration held
      obtain ⟨later, there, same, _, revisions⟩ := advance old stored
      exact ⟨later, there, same.trans of_run, by omega⟩
    · exact new

/-- Completions keep their order when an event is written with its own. -/
theorem CompletionsLaid.kept (laid : CompletionsLaid before)
    (moved : CellMoved kernel before after row next body)
    (change : CellChange kernel before.toCellEvidence after.toCellEvidence row body) :
    CompletionsLaid after := by
  have advance := moved.cellsAdvance
  have own_run : (row.movedTo kernel.sha next).state.agentRunId = row.state.agentRunId :=
    moved.advances.1
  have own_fields : next.status = (body.changes row.state.toCellFields).status ∧
      next.final = (body.changes row.state.toCellFields).final := by
    rw [moved.fields]
    exact ⟨rfl, rfl⟩
  obtain ⟨intents, completions⟩ := change.completions
  have intent_run : ∀ intent ∈ after.intents.rows, ∃ row ∈ after.cells.rows,
      row.state.agentRunId = intent.agentRunId := by
    intro intent member
    rcases intents intent member with held | new
    · obtain ⟨old, stored, of_run⟩ := laid.intentRun intent held
      obtain ⟨later, there, same, _⟩ := advance old stored
      exact ⟨later, there, same.trans of_run⟩
    · exact ⟨_, moved.own_mem, own_run.trans new.symm⟩
  have old_run : ∀ completion ∈ before.completions.rows, ∃ row ∈ after.cells.rows,
      row.state.agentRunId = completion.agentRunId := by
    intro completion member
    obtain ⟨old, stored, of_run⟩ := laid.completionRun completion member
    obtain ⟨later, there, same, _⟩ := advance old stored
    exact ⟨later, there, same.trans of_run⟩
  rcases completions with ⟨same, pending⟩ | ⟨completion, inserted, of_run, first, unfinished, said⟩ |
      ⟨now, final, rows, said⟩
  · refine ⟨intent_run, by rw [same]; exact old_run, by rw [same]; exact laid.completionOnce, ?_⟩
    intro other there status
    rw [same]
    rcases moved.mem_cells.mp there with rfl | ⟨stored, _⟩
    · have stored := (cellRow_eq_ok.mp moved.read).stored
      obtain ⟨held, kept⟩ := pending (own_fields.1.symm.trans status)
      obtain ⟨completion, member, of_run, unfinished, named⟩ := laid.completing row stored held
      exact ⟨completion, member, of_run.trans own_run.symm, unfinished,
        (own_fields.2.trans kept).trans named⟩
    · exact laid.completing other stored status
  · have rows := Table.rows_of_insert? inserted
    refine ⟨intent_run, ?_, ?_, ?_⟩
    · intro other member
      rw [rows] at member
      rcases List.mem_append.mp member with held | new
      · exact old_run other held
      · rw [List.mem_singleton.mp new]
        exact ⟨_, moved.own_mem, own_run.trans of_run.symm⟩
    · intro one here two there same
      rw [rows] at here there
      rcases List.mem_append.mp here with held | new
      · rcases List.mem_append.mp there with old | newer
        · exact laid.completionOnce one held two old same
        · rw [List.mem_singleton.mp newer] at same
          exact absurd same (first one held)
      · rcases List.mem_append.mp there with old | newer
        · rw [List.mem_singleton.mp new] at same
          exact absurd same.symm (first two old)
        · rw [List.mem_singleton.mp new, List.mem_singleton.mp newer]
    · intro other there status
      rw [rows]
      rcases moved.mem_cells.mp there with rfl | ⟨stored, _⟩
      · refine ⟨completion, by simp, of_run.trans own_run.symm, unfinished, ?_⟩
        show next.final = _
        rw [own_fields.2, said]
        rfl
      · obtain ⟨held, member, same, rest⟩ := laid.completing other stored status
        exact ⟨held, List.mem_append_left _ member, same, rest⟩
  · have runs : ∀ other ∈ after.completions.rows, ∃ old ∈ before.completions.rows,
        old.agentRunId = other.agentRunId ∧ other = (if old.agentRunId = row.state.agentRunId ∧
          old.finalizedAt = none then { old with finalizedAt := some now } else old) := by
      intro other member
      rw [rows] at member
      obtain ⟨old, held, assigned⟩ := List.mem_map.mp member
      refine ⟨old, held, ?_, assigned.symm⟩
      rw [← assigned]
      split <;> rfl
    refine ⟨intent_run, ?_, ?_, ?_⟩
    · intro other member
      obtain ⟨old, held, of_run, _⟩ := runs other member
      rw [← of_run]
      exact old_run old held
    · intro one here two there same
      obtain ⟨first, held, first_run, one_is⟩ := runs one here
      obtain ⟨second, listed, second_run, two_is⟩ := runs two there
      have equal := laid.completionOnce first held second listed
        (first_run.trans (same.trans second_run.symm))
      rw [one_is, two_is, equal]
    · intro other there status
      rcases moved.mem_cells.mp there with rfl | ⟨stored, different⟩
      · have ended : next.status = .completed := by
          rw [own_fields.1, said]
          rfl
        exact absurd (ended.symm.trans status) (by decide)
      · obtain ⟨completion, member, of_run, rest⟩ := laid.completing other stored status
        refine ⟨completion, ?_, of_run, rest⟩
        rw [rows]
        refine List.mem_map.mpr ⟨completion, member, if_neg ?_⟩
        rintro ⟨own, _⟩
        exact different (of_run.symm.trans own)

/-- The model calls stay laid out. -/
theorem ModelsLaid.kept (laid : ModelsLaid before)
    (moved : CellMoved kernel before after row next body)
    (change : CellChange kernel before.toCellEvidence after.toCellEvidence row body) :
    ModelsLaid after := by
  rcases change.models with ⟨dispatches, terminals⟩ |
      ⟨dispatch, inserted, terminals, allowed, said⟩ |
      ⟨terminal, dispatch, inserted, dispatches, dispatched, _⟩
  · exact laid.frame moved.cellsAdvance dispatches terminals
  · exact laid.dispatch moved said inserted terminals allowed
  · exact laid.terminal moved.cellsAdvance inserted dispatches dispatched

/-- The tools stay laid out when admitted requests come behind those of their step. -/
theorem EvidenceLaid.toolsKept (laid : EvidenceLaid kernel.sha before)
    (moved : CellMoved kernel before after row next body)
    (order : InOrder kernel.sha before.toCellEvidence after.toCellEvidence)
    (change : CellChange kernel before.toCellEvidence after.toCellEvidence row body) :
    ToolsLaid kernel.sha after := by
  rcases change.tools with ⟨requests, claims, results⟩ |
      ⟨request, inserted, claims, results, of_run, positive, step, said⟩ |
      ⟨claim, request, inserted, requests, results, requested, _, admitted, _⟩ |
      ⟨result, request, inserted, requests, claims, requested, _, admitted, _⟩
  · exact laid.toToolsLaid.frame moved.cellsAdvance requests claims results
  · refine laid.toToolsLaid.request moved inserted claims results of_run positive step ?_
    intro speaks
    rcases said with ⟨payload, _, allowed, _⟩ | ⟨payload, denied, _⟩
    · have stored := (cellRow_eq_ok.mp moved.read).stored
      have earlier := order.admitted request (by simp [Table.rows_of_insert? inserted])
        (Table.not_mem_of_insert? inserted)
      exact ⟨allowed.settled, laid.request_behind stored of_run step
        (fun other member same equal others => earlier other member same equal speaks others)⟩
    · exact absurd (admitted_of_denied denied) speaks
  · exact laid.toToolsLaid.claim moved.cellsAdvance inserted requests results requested admitted
  · exact laid.toToolsLaid.result moved.cellsAdvance inserted requests claims requested admitted

/-- The evidence stays laid out when a cell moves and the rows come in order. -/
theorem EvidenceLaid.kept (laid : EvidenceLaid kernel.sha before)
    (moved : CellMoved kernel before after row next body)
    (order : InOrder kernel.sha before.toCellEvidence after.toCellEvidence)
    (change : CellChange kernel before.toCellEvidence after.toCellEvidence row body) :
    EvidenceLaid kernel.sha after := by
  have advance := moved.cellsAdvance
  obtain ⟨of_run, revision⟩ := moved.advances
  have own : ∀ run, run = row.state.agentRunId → ∃ row ∈ after.cells.rows,
      row.state.agentRunId = run ∧ next.cellRevision ≤ row.state.cellRevision :=
    fun run same => ⟨_, moved.own_mem, of_run.trans same.symm, le_refl _⟩
  have sections : SectionsLaid after := by
    refine laid.toSectionsLaid.kept advance ?_ ?_
    · intro item member
      rcases change.section_run order item member with held | new
      · exact .inl held
      · obtain ⟨later, there, same, _⟩ := own _ new
        exact .inr ⟨later, there, same⟩
    · intro event member
      obtain ⟨eventId, rows⟩ := moved.event
      rw [rows] at member
      rcases List.mem_append.mp member with held | new
      · exact .inl held
      · obtain ⟨later, there, same, _⟩ := own _ of_run
        rw [List.mem_singleton.mp new]
        exact .inr ⟨later, there, same⟩
  have revisions : RevisionsLaid after := by
    obtain ⟨checkpoints, rehydrations⟩ := change.revisions
    refine laid.toRevisionsLaid.kept advance ?_ ?_
    · intro checkpoint member
      rcases checkpoints checkpoint member with held | ⟨new, named⟩
      · exact .inl held
      · obtain ⟨later, there, same, reached⟩ := own _ new
        exact .inr ⟨later, there, same, by omega⟩
    · intro rehydration member
      rcases rehydrations rehydration member with held | ⟨new, named⟩
      · exact .inl held
      · obtain ⟨later, there, same, reached⟩ := own _ new
        exact .inr ⟨later, there, same, by omega⟩
  exact {
    toSectionsLaid := sections
    toModelsLaid := laid.toModelsLaid.kept moved change
    toToolsLaid := laid.toolsKept moved order change
    toRevisionsLaid := revisions
    toCompletionsLaid := laid.toCompletionsLaid.kept moved change }

/-- Every cell can be read. -/
def AllReadable (sha : Sha256) (db : CellTables) : Prop :=
  ∀ row ∈ db.cells.rows, Readable sha db row

/-- All cells can still be read when one moves and the rows come in order. -/
theorem AllReadable.kept (all : AllReadable kernel.sha before)
    (laid : EvidenceLaid kernel.sha before) (moved : CellMoved kernel before after row next body)
    (order : InOrder kernel.sha before.toCellEvidence after.toCellEvidence)
    (change : CellChange kernel before.toCellEvidence after.toCellEvidence row body) :
    AllReadable kernel.sha after := by
  have stored := (cellRow_eq_ok.mp moved.read).stored
  have follows := change.view_follows laid stored order
  intro other member
  rcases moved.mem_cells.mp member with rfl | ⟨held, different⟩
  · apply moved.readable_own
    have said := follows row.state.agentRunId
    rw [if_pos rfl] at said
    exact said
  · apply moved.readable_other (all other held) different
    have said := follows other.state.agentRunId
    rw [if_neg (Ne.symm different), EvidenceView.append_nil] at said
    exact said

end Kept

end Macr
