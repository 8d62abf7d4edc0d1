import Macr.Cell.Laid

/-!
# Attaching a cell

A run without a cell has no evidence at all, so the cell that is attached is read from its own event
and its own sections.
-/

namespace Macr

open Lib

section Attached

variable {kernel : CellKernel} {before after : CellTables} {policy : HostedAgentCellPolicy}
  {request : SemanticContextRequest} {now : Timestamp} {items : List HostedSectionRow}

/-- A run without a cell has no evidence. -/
theorem EvidenceLaid.silent {sha : Sha256} (laid : EvidenceLaid sha before) {run : Uuid}
    (fresh : ∀ row ∈ before.cells.rows, row.state.agentRunId ≠ run) :
    before.view sha run = .ofBodies [] ∧
      before.events.rows.filter (fun event => event.agentRunId = run) = [] := by
  have none_of : ∀ {α : Type} (rows : List α) (of_run : α → Uuid),
      (∀ item ∈ rows, ∃ row ∈ before.cells.rows, row.state.agentRunId = of_run item) →
        rows.filter (fun item => of_run item = run) = [] := by
    intro α rows of_run celled
    rw [List.filter_eq_nil_iff]
    intro item member
    obtain ⟨row, stored, same⟩ := celled item member
    simpa [← same] using fresh row stored
  have sections := none_of before.sections.rows _ laid.sectionRun
  have events := none_of before.events.rows _ laid.eventRun
  have dispatches := none_of before.dispatches.rows (·.request.agentRunId) (by
    intro dispatch member
    obtain ⟨row, stored, same, _⟩ := laid.dispatchRun dispatch member
    exact ⟨row, stored, same⟩)
  have requests := none_of before.toolRequests.rows (·.agentRunId) (by
    intro request member
    obtain ⟨row, stored, same, _⟩ := laid.requestRun request member
    exact ⟨row, stored, same⟩)
  have checkpoints := none_of before.checkpoints.rows (·.agentRunId) (by
    intro checkpoint member
    obtain ⟨row, stored, same, _⟩ := laid.checkpointRun checkpoint member
    exact ⟨row, stored, same⟩)
  have rehydrations := none_of before.rehydrations.rows (·.agentRunId) (by
    intro rehydration member
    obtain ⟨row, stored, same, _⟩ := laid.rehydrationRun rehydration member
    exact ⟨row, stored, same⟩)
  have intents := none_of before.intents.rows _ laid.intentRun
  have completions := none_of before.completions.rows _ laid.completionRun
  have no_requests : before.toolRequestsOf run = [] := by
    rw [CellEvidence.toolRequestsOf, requests]
    rfl
  have no_terminals : before.terminalsOf run = [] := by
    rw [CellEvidence.terminalsOf, CellEvidence.dispatchesOf, dispatches]
    rfl
  constructor
  · simp [CellEvidence.view, EvidenceView.ofBodies, CellEvidence.sectionsOf, sections,
      CellEvidence.dispatchesOf, dispatches, no_terminals, no_requests, CellEvidence.claimsOf,
      CellEvidence.toolResultsOf, CellEvidence.checkpointsOf, checkpoints,
      CellEvidence.rehydrationsOf, rehydrations, CellEvidence.intentsOf, intents,
      CellEvidence.completionsOf, completions, sortOn]
  · exact events

/-- An attached cell is added to the others. -/
theorem CellAttachment.cellsAdvance
    (attachment : CellAttachment kernel before after policy request now items) :
    CellsAdvance before after := by
  intro old stored
  refine ⟨old, ?_, rfl, le_refl _, le_refl _⟩
  rw [attachment.cells]
  exact List.mem_append_left _ stored

/-- The first sections are all that an attachment adds to a view. -/
theorem CellAttachment.view
    (attachment : CellAttachment kernel before after policy request now items)
    (unsourced : ∀ item ∈ items, Unsourced kernel.sha before.toCellEvidence item.sourceDigest)
    (run : Uuid) : after.view kernel.sha run =
      { before.view kernel.sha run with
        sections := (before.view kernel.sha run).sections ++
          if policy.agentRunId = run then items.map (·.sectionDigest) else [] } := by
  obtain ⟨sections, rows, written⟩ := attachment.written
  rw [written]
  refine EvidenceView.ext ?_ rfl rfl rfl rfl rfl rfl ?_ rfl rfl rfl rfl rfl
  · show (sections.rows.filter _).map _ = _
    rw [rows, List.filter_append, List.map_append]
    by_cases own : policy.agentRunId = run
    · have all : items.filter (fun item => item.agentRunId = run) = items := by
        rw [List.filter_eq_self]
        intro item member
        simpa using (attachment.run item member).trans own
      rw [if_pos own, all]
      rfl
    · have others : items.filter (fun item => item.agentRunId = run) = [] := by
        rw [List.filter_eq_nil_iff]
        intro item member
        simpa [attachment.run item member] using own
      rw [if_neg own, others]
      rfl
  · exact CellEvidence.toolResultsOf_insertSections rows unsourced run

/-- The evidence stays laid out when a cell is attached. -/
theorem EvidenceLaid.attached (laid : EvidenceLaid kernel.sha before)
    (attachment : CellAttachment kernel before after policy request now items) :
    EvidenceLaid kernel.sha after := by
  have advance := attachment.cellsAdvance
  obtain ⟨sections, rows, written⟩ := attachment.written
  obtain ⟨eventId, prior, events, _⟩ := attachment.event
  have own : ∃ row ∈ after.cells.rows, row.state.agentRunId = policy.agentRunId := by
    rw [attachment.cells]
    exact ⟨_, List.mem_append_right _ (List.mem_singleton.mpr rfl), rfl⟩
  have same_completions : after.completions = before.completions :=
    congrArg (·.completions) written
  have same_intents : after.intents = before.intents := congrArg (·.intents) written
  have completions : CompletionsLaid after := by
    refine ⟨?_, ?_, ?_, ?_⟩
    · intro intent member
      rw [same_intents] at member
      obtain ⟨old, stored, of_run⟩ := laid.intentRun intent member
      obtain ⟨later, there, same, _⟩ := advance old stored
      exact ⟨later, there, same.trans of_run⟩
    · intro completion member
      rw [same_completions] at member
      obtain ⟨old, stored, of_run⟩ := laid.completionRun completion member
      obtain ⟨later, there, same, _⟩ := advance old stored
      exact ⟨later, there, same.trans of_run⟩
    · rw [same_completions]
      exact laid.completionOnce
    · intro row member status
      rw [attachment.cells] at member
      rw [same_completions]
      rcases List.mem_append.mp member with held | new
      · exact laid.completing row held status
      · rw [List.mem_singleton.mp new] at status
        exact absurd status (by simp [CellTables.attachedState])
  exact {
    toSectionsLaid := by
      refine laid.toSectionsLaid.kept advance ?_ ?_
      · intro item member
        rw [show after.sections = sections from congrArg (·.sections) written, rows] at member
        rcases List.mem_append.mp member with held | new
        · exact .inl held
        · rw [attachment.run item new]
          exact .inr own
      · intro event member
        rw [events] at member
        rcases List.mem_append.mp member with held | new
        · exact .inl held
        · rw [List.mem_singleton.mp new]
          exact .inr own
    toModelsLaid := laid.toModelsLaid.frame advance (congrArg (·.dispatches) written)
      (congrArg (·.terminals) written)
    toToolsLaid := laid.toToolsLaid.frame advance (congrArg (·.toolRequests) written)
      (congrArg (·.claims) written) (congrArg (·.toolResults) written)
    toRevisionsLaid := by
      refine laid.toRevisionsLaid.kept advance ?_ ?_
      · intro checkpoint member
        rw [show after.checkpoints = _ from congrArg (·.checkpoints) written] at member
        exact .inl member
      · intro rehydration member
        rw [show after.rehydrations = _ from congrArg (·.rehydrations) written] at member
        exact .inl member
    toCompletionsLaid := completions }

/-- All cells can be read when one is attached whose sections do not come from a stored result. -/
theorem AllReadable.attached (all : AllReadable kernel.sha before)
    (laid : EvidenceLaid kernel.sha before)
    (attachment : CellAttachment kernel before after policy request now items)
    (unsourced : ∀ item ∈ items, Unsourced kernel.sha before.toCellEvidence item.sourceDigest) :
    AllReadable kernel.sha after := by
  have fresh := (before.cells.find?_eq_none policy.agentRunId).mp attachment.fresh
  obtain ⟨silent, no_events⟩ := laid.silent fresh
  obtain ⟨eventId, prior, events, chained⟩ := attachment.event
  rw [CellTables.eventsOf, no_events] at chained
  intro row member
  have there := member
  rw [attachment.cells] at member
  rcases List.mem_append.mp member with held | new
  · have said := attachment.view unsourced row.state.agentRunId
    have different : policy.agentRunId ≠ row.state.agentRunId := Ne.symm (fresh row held)
    have readable := all row held
    have same_events : after.eventsOf row.state.agentRunId =
        before.eventsOf row.state.agentRunId := by
      rw [CellTables.eventsOf, events, List.filter_append]
      simp [CellEvent.following, CellTables.attachedState, different, CellTables.eventsOf]
    rw [if_neg different, List.append_nil] at said
    refine ⟨there, readable.digest, ?_, ?_, ?_⟩
    · rw [same_events]
      exact readable.replayed
    · rw [same_events, said]
      exact readable.agree
    · rw [same_events]
      exact readable.attached
  · have own_events : after.eventsOf policy.agentRunId = [CellEvent.following kernel.sha eventId
        (CellTables.attachedState kernel policy request now)
        (.attached ⟨policy.policyDigest kernel.sha, request.requestDigest kernel.sha,
          items.map (·.sectionDigest)⟩) zeroDigest] := by
      rw [CellTables.eventsOf, events, List.filter_append, no_events, chained]
      simp [CellEvent.following, CellTables.attachedState, sortOn]
    rw [List.mem_singleton.mp new] at there ⊢
    refine ⟨there, rfl, ?_, ?_, ?_⟩
    · show replayCellEvents kernel.sha policy.agentRunId (after.eventsOf policy.agentRunId) = _
      rw [own_events]
      exact replay_genesis rfl rfl rfl rfl rfl
    · show after.view kernel.sha policy.agentRunId =
        .ofBodies ((after.eventsOf policy.agentRunId).map (·.body))
      rw [own_events, attachment.view unsourced, if_pos rfl, silent]
      simp [EvidenceView.ofBodies, CellEvent.following]
    · show AttachedBy _ ((after.eventsOf policy.agentRunId).map (·.body))
      rw [own_events]
      refine ⟨_, rfl, ?_⟩
      have whole : (items.map (·.sectionDigest)).take items.length = items.map (·.sectionDigest) :=
        List.take_of_length_le (by simp)
      simp [CellEvent.following, CellTables.attachedState, whole]

end Attached

end Macr
