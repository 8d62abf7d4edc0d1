import Macr.Cell.Readable

/-!
# What an event writes, table by table

The types of events write different tables. For each group of tables that depend on each other, this
says once what any event can do to them, with what has been checked before.
-/

namespace Macr

open Lib

/-! ## What a row says -/

/-- An admitted request is not denied. -/
theorem denied_of_admitted {sha : Sha256} {request : HostedToolRequestRow} {payload : ToolAdmitted}
    (said : request.admitted? sha = some payload) : request.denied? = none := by
  unfold HostedToolRequestRow.admitted? at said
  unfold HostedToolRequestRow.denied?
  cases decision : request.decision with
  | admitted proposal admission => rfl
  | denied code digest =>
    rw [decision] at said
    exact absurd said (by simp)

/-- A denied request is not admitted. -/
theorem admitted_of_denied {sha : Sha256} {request : HostedToolRequestRow}
    {subject : Uuid × Digest × Digest} (said : request.denied? = some subject) :
    request.admitted? sha = none := by
  cases admitted : request.admitted? sha with
  | none => rfl
  | some payload =>
    rw [denied_of_admitted admitted] at said
    exact absurd said (by simp)

/-- A completed terminal is not a failed one. -/
theorem failed_of_completed {sha : Sha256} {terminal : HostedTerminalRow} {payload : ModelCompleted}
    (said : terminal.completed? sha = some payload) : terminal.failed? = none := by
  unfold HostedTerminalRow.completed? at said
  unfold HostedTerminalRow.failed?
  split at said
  · rfl
  · exact absurd said (by simp)
  · exact absurd said (by simp)

/-- A failed terminal is not a completed one. -/
theorem completed_of_failed {sha : Sha256} {terminal : HostedTerminalRow} {payload : ModelFailed}
    (said : terminal.failed? = some payload) : terminal.completed? sha = none := by
  cases completed : terminal.completed? sha with
  | none => rfl
  | some other =>
    rw [failed_of_completed completed] at said
    exact absurd said (by simp)

/-! ## What is written, table by table -/

section Inversion

variable {kernel : CellKernel} {before after : CellEvidence} {row : HostedCellRow}
  {body : CellEventBody}

/-- An event that adds no section leaves the sections. -/
theorem CellChange.same_sections (change : CellChange kernel before after row body)
    (none_added : body.sectionDigests = []) : after.sections = before.sections := by
  cases change with
  | contextAppended | toolDenied | toolCompleted => exact absurd none_added (by simp)
  | modelDispatched | modelCompleted | modelFailed | reconciliationRequired | toolAdmitted
  | toolClaimed | checkpointed | rehydrated | completionIntent | completionPrepared | completed =>
    subst_vars
    rfl

/-- An event that ends no tool leaves the results. -/
theorem CellChange.same_results (change : CellChange kernel before after row body)
    (none_ended : body.toolCompleted? = none) : after.toolResults = before.toolResults := by
  cases change with
  | toolCompleted => exact absurd none_ended (by simp)
  | contextAppended | toolDenied | modelDispatched | modelCompleted | modelFailed
  | reconciliationRequired | toolAdmitted | toolClaimed | checkpointed | rehydrated
  | completionIntent | completionPrepared | completed =>
    subst_vars
    rfl

/-- An event that neither admits nor denies a tool leaves the requests. -/
theorem CellChange.same_requests (change : CellChange kernel before after row body)
    (none_admitted : body.toolAdmitted? = none) (none_denied : body.toolDenied? = none) :
    after.toolRequests = before.toolRequests := by
  cases change with
  | toolAdmitted => exact absurd none_admitted (by simp)
  | toolDenied => exact absurd none_denied (by simp)
  | contextAppended | toolCompleted | modelDispatched | modelCompleted | modelFailed
  | reconciliationRequired | toolClaimed | checkpointed | rehydrated | completionIntent
  | completionPrepared | completed =>
    subst_vars
    rfl

/-- What an event writes of the model calls. -/
theorem CellChange.models (change : CellChange kernel before after row body) :
    (after.dispatches = before.dispatches ∧ after.terminals = before.terminals) ∨
    (∃ dispatch, before.dispatches.insert? dispatch = some after.dispatches ∧
      after.terminals = before.terminals ∧
      DispatchAllowed kernel.sha before row dispatch.request ∧
      body = .modelDispatched (dispatch.dispatched kernel.sha)) ∨
    ∃ terminal dispatch, before.terminals.insert? terminal = some after.terminals ∧
      after.dispatches = before.dispatches ∧
      before.dispatches.find? terminal.providerInvocationId = some dispatch ∧
      dispatch.request.agentRunId = row.state.agentRunId ∧
      ((∃ payload, terminal.completed? kernel.sha = some payload ∧
          terminal.durationMs = payload.durationMs ∧
          terminal.currencyCostUsd = some payload.currencyCostUsd ∧
          body = .modelCompleted payload) ∨
        ∃ payload, terminal.failed? = some payload ∧ body = .modelFailed payload) := by
  cases change with
  | modelDispatched dispatch dispatches inserted written allowed =>
    subst written
    exact .inr (.inl ⟨dispatch, inserted, rfl, allowed, rfl⟩)
  | modelCompleted terminal dispatch payload terminals inserted written dispatched of_run said
      duration cost =>
    subst written
    exact .inr (.inr ⟨terminal, dispatch, inserted, rfl, dispatched, of_run,
      .inl ⟨payload, said, duration, cost, rfl⟩⟩)
  | modelFailed terminal dispatch payload terminals inserted written dispatched of_run said =>
    subst written
    exact .inr (.inr ⟨terminal, dispatch, inserted, rfl, dispatched, of_run,
      .inr ⟨payload, said, rfl⟩⟩)
  | contextAppended | reconciliationRequired | toolAdmitted | toolDenied | toolClaimed
  | toolCompleted | checkpointed | rehydrated | completionIntent | completionPrepared
  | completed =>
    subst_vars
    exact .inl ⟨rfl, rfl⟩

/-- What an event writes of the tools. -/
theorem CellChange.tools (change : CellChange kernel before after row body) :
    (after.toolRequests = before.toolRequests ∧ after.claims = before.claims ∧
      after.toolResults = before.toolResults) ∨
    (∃ request, before.toolRequests.insert? request = some after.toolRequests ∧
      after.claims = before.claims ∧ after.toolResults = before.toolResults ∧
      request.agentRunId = row.state.agentRunId ∧ 0 < request.stepIndex ∧
      request.stepIndex = row.state.nextStep - 1 ∧
      ((∃ payload, request.admitted? kernel.sha = some payload ∧
          ToolAllowed kernel.sha before row request ∧ body = .toolAdmitted payload) ∨
        ∃ payload, request.denied? = some payload.subject ∧ body = .toolDenied payload)) ∨
    (∃ claim request, before.claims.insert? claim = some after.claims ∧
      after.toolRequests = before.toolRequests ∧ after.toolResults = before.toolResults ∧
      before.toolRequests.find? claim.actionId = some request ∧
      request.agentRunId = row.state.agentRunId ∧ request.admitted? kernel.sha ≠ none ∧
      before.toolResults.find? claim.actionId = none ∧ row.state.status = .running ∧
      body = .toolClaimed claim.claimed) ∨
    ∃ result request, before.toolResults.insert? result = some after.toolResults ∧
      after.toolRequests = before.toolRequests ∧ after.claims = before.claims ∧
      before.toolRequests.find? result.result.actionId = some request ∧
      request.agentRunId = row.state.agentRunId ∧ request.admitted? kernel.sha ≠ none ∧
      before.claims.find? result.result.actionId ≠ none ∧
      ∃ item, body = .toolCompleted (result.completedWith kernel.sha item) := by
  cases change with
  | toolAdmitted request payload toolRequests inserted written said positive allowed =>
    subst written
    exact .inr (.inl ⟨request, inserted, rfl, rfl, allowed.run, positive, allowed.step,
      .inl ⟨payload, said, allowed, rfl⟩⟩)
  | toolDenied request item payload toolRequests sections requested inserted written said
      section_said positive of_run section_run step =>
    subst written
    exact .inr (.inl ⟨request, requested, rfl, rfl, of_run, positive, step,
      .inr ⟨payload, said, rfl⟩⟩)
  | toolClaimed claim request payload claims inserted written requested of_run admitted open_
      running =>
    subst written
    exact .inr (.inr (.inl ⟨claim, request, inserted, rfl, rfl, requested, of_run,
      by simp [admitted], open_, running, rfl⟩))
  | toolCompleted result item request payload claim toolResults sections ended inserted written
      requested of_run admitted claimed source =>
    subst written
    exact .inr (.inr (.inr ⟨result, request, ended, rfl, rfl, requested, of_run, by simp [admitted],
      by simp [claimed], item, rfl⟩))
  | contextAppended | modelDispatched | modelCompleted | modelFailed | reconciliationRequired
  | checkpointed | rehydrated | completionIntent | completionPrepared | completed =>
    subst_vars
    exact .inl ⟨rfl, rfl, rfl⟩

/-- The sections an event writes are of its run. -/
theorem CellChange.section_run (order : InOrder kernel.sha before after)
    (change : CellChange kernel before after row body) :
    ∀ item ∈ after.sections.rows, item ∈ before.sections.rows ∨
      item.agentRunId = row.state.agentRunId := by
  intro item member
  cases change with
  | contextAppended added sections inserted written of_run running settled =>
    subst written
    rw [Table.rows_of_insert? inserted] at member
    rcases List.mem_append.mp member with held | new
    · exact .inl held
    · exact .inr (List.mem_singleton.mp new ▸ of_run)
  | toolDenied request added payload toolRequests sections requested inserted written said
      section_said positive of_run section_run step =>
    subst written
    rw [Table.rows_of_insert? inserted] at member
    rcases List.mem_append.mp member with held | new
    · exact .inl held
    · exact .inr (List.mem_singleton.mp new ▸ section_run)
  | toolCompleted result added request payload claim toolResults sections ended inserted written
      requested of_run admitted claimed source =>
    subst written
    by_cases held : item ∈ before.sections.rows
    · exact .inl held
    · have result_new : result ∈ toolResults.rows := by simp [Table.rows_of_insert? ended]
      have same := order.sameRun result result_new (Table.not_mem_of_insert? ended) item member held
        request requested
      exact .inr (same.trans of_run)
  | modelDispatched | modelCompleted | modelFailed | reconciliationRequired | toolAdmitted
  | toolClaimed | checkpointed | rehydrated | completionIntent | completionPrepared | completed =>
    subst_vars
    exact .inl member

/-- The checkpoints and rehydrations an event writes are of the next revision of its run. -/
theorem CellChange.revisions (change : CellChange kernel before after row body) :
    (∀ checkpoint ∈ after.checkpoints.rows, checkpoint ∈ before.checkpoints.rows ∨
      checkpoint.agentRunId = row.state.agentRunId ∧
        checkpoint.cellRevision = row.state.cellRevision + 1) ∧
    ∀ rehydration ∈ after.rehydrations.rows, rehydration ∈ before.rehydrations.rows ∨
      rehydration.agentRunId = row.state.agentRunId ∧
        rehydration.cellRevision = row.state.cellRevision + 1 := by
  cases change with
  | checkpointed added checkpoints inserted written of_run revision status settled =>
    subst written
    refine ⟨?_, fun _ member => .inl member⟩
    intro checkpoint member
    rw [Table.rows_of_insert? inserted] at member
    rcases List.mem_append.mp member with held | new
    · exact .inl held
    · exact .inr (List.mem_singleton.mp new ▸ ⟨of_run, revision⟩)
  | rehydrated added rehydrations inserted written of_run revision status settled =>
    subst written
    refine ⟨fun _ member => .inl member, ?_⟩
    intro rehydration member
    rw [Table.rows_of_insert? inserted] at member
    rcases List.mem_append.mp member with held | new
    · exact .inl held
    · exact .inr (List.mem_singleton.mp new ▸ ⟨of_run, revision⟩)
  | contextAppended | modelDispatched | modelCompleted | modelFailed | reconciliationRequired
  | toolAdmitted | toolDenied | toolClaimed | toolCompleted | completionIntent
  | completionPrepared | completed =>
    subst_vars
    exact ⟨fun _ member => .inl member, fun _ member => .inl member⟩

/-- A failed call leaves its cell blocked or to a reconciliation. -/
theorem status_of_failed {terminal : HostedTerminalRow} {payload : ModelFailed}
    (said : terminal.failed? = some payload) :
    payload.cellStatus = .blocked ∨ payload.cellStatus = .reconciliationRequired := by
  unfold HostedTerminalRow.failed? at said
  split at said
  · exact absurd said (by simp)
  · rw [← Option.some.inj said]
    exact .inl rfl
  · rw [← Option.some.inj said]
    exact .inr rfl

/-- What an event writes of the completions. -/
theorem CellChange.completions (change : CellChange kernel before after row body) :
    (∀ intent ∈ after.intents.rows, intent ∈ before.intents.rows ∨
      intent.agentRunId = row.state.agentRunId) ∧
    ((after.completions = before.completions ∧
        ((body.changes row.state.toCellFields).status = .completionPending →
          row.state.status = .completionPending ∧
            (body.changes row.state.toCellFields).final = row.state.final)) ∨
      (∃ completion, before.completions.insert? completion = some after.completions ∧
        completion.agentRunId = row.state.agentRunId ∧
        (∀ other ∈ before.completions.rows, other.agentRunId ≠ completion.agentRunId) ∧
        completion.finalizedAt = none ∧ body = .completionPrepared completion.prepared) ∨
      ∃ (now : Timestamp) (final : FinalCandidate),
        after.completions.rows = before.completions.rows.map (fun other =>
          if other.agentRunId = row.state.agentRunId ∧ other.finalizedAt = none then
            { other with finalizedAt := some now } else other) ∧
        body = .completed ⟨final.captureId, final.answerDigest⟩) := by
  cases change with
  | completionIntent intent intents inserted written of_run first running settled =>
    subst written
    refine ⟨?_, .inl ⟨rfl, fun pending => ⟨pending, rfl⟩⟩⟩
    intro other member
    rw [Table.rows_of_insert? inserted] at member
    rcases List.mem_append.mp member with held | new
    · exact .inl held
    · exact .inr (List.mem_singleton.mp new ▸ of_run)
  | completionPrepared completion completions inserted written of_run first unfinished running
      settled =>
    subst written
    exact ⟨fun _ member => .inl member,
      .inr (.inl ⟨completion, inserted, of_run, first, unfinished, rfl⟩)⟩
  | completed final now completions rows written status candidate =>
    subst written
    exact ⟨fun _ member => .inl member, .inr (.inr ⟨now, final, rows, rfl⟩)⟩
  | modelFailed terminal dispatch payload terminals inserted written dispatched of_run said =>
    subst written
    refine ⟨fun _ member => .inl member, .inl ⟨rfl, fun pending => ?_⟩⟩
    have status : payload.cellStatus = .completionPending := pending
    rcases status_of_failed said with blocked | unknown
    · exact absurd (blocked.symm.trans status) (by decide)
    · exact absurd (unknown.symm.trans status) (by decide)
  | contextAppended | modelCompleted | toolAdmitted | toolDenied | toolClaimed | toolCompleted =>
    subst_vars
    exact ⟨fun _ member => .inl member, .inl ⟨rfl, fun pending => ⟨pending, rfl⟩⟩⟩
  | modelDispatched | reconciliationRequired | checkpointed | rehydrated =>
    subst_vars
    refine ⟨fun _ member => .inl member, .inl ⟨rfl, fun pending => ?_⟩⟩
    exact absurd pending (by simp [CellEventBody.changes])

end Inversion

end Macr
