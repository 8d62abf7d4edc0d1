import Macr.Cell.Additions
import Macr.Cell.Changes

/-!
# The evidence of a cell that moves

What the evidence keeps is what puts each new row behind the others of its run, so the tables' view
goes along with the events; and each type of event keeps it again.
-/

namespace Macr

open Lib

namespace EvidenceLaid

variable {sha : Sha256} {db : CellTables} {row : HostedCellRow}

/-- The dispatches of a cell are of earlier steps. -/
theorem dispatch_lt (laid : EvidenceLaid sha db) (stored : row ∈ db.cells.rows) :
    ∀ dispatch ∈ db.dispatches.rows, dispatch.request.agentRunId = row.state.agentRunId →
      dispatch.request.stepIndex < row.state.nextStep := by
  intro dispatch member of_run
  obtain ⟨other, held, same, earlier⟩ := laid.dispatchRun dispatch member
  have equal : other = row := db.cells.eq_of_key held stored (same.trans of_run)
  rw [equal] at earlier
  exact earlier

/-- The tool requests of a cell are of earlier steps. -/
theorem request_lt (laid : EvidenceLaid sha db) (stored : row ∈ db.cells.rows) :
    ∀ request ∈ db.toolRequests.rows, request.agentRunId = row.state.agentRunId →
      request.stepIndex < row.state.nextStep := by
  intro request member of_run
  obtain ⟨other, held, same, earlier⟩ := laid.requestRun request member
  have equal : other = row := db.cells.eq_of_key held stored (same.trans of_run)
  rw [equal] at earlier
  exact earlier

/-- The checkpoints of a cell are not of later revisions. -/
theorem checkpoint_le (laid : EvidenceLaid sha db) (stored : row ∈ db.cells.rows) :
    ∀ checkpoint ∈ db.checkpoints.rows, checkpoint.agentRunId = row.state.agentRunId →
      checkpoint.cellRevision ≤ row.state.cellRevision := by
  intro checkpoint member of_run
  obtain ⟨other, held, same, earlier⟩ := laid.checkpointRun checkpoint member
  have equal : other = row := db.cells.eq_of_key held stored (same.trans of_run)
  rw [equal] at earlier
  exact earlier

/-- Nor are the rehydrations. -/
theorem rehydration_le (laid : EvidenceLaid sha db) (stored : row ∈ db.cells.rows) :
    ∀ rehydration ∈ db.rehydrations.rows, rehydration.agentRunId = row.state.agentRunId →
      rehydration.cellRevision ≤ row.state.cellRevision := by
  intro rehydration member of_run
  obtain ⟨other, held, same, earlier⟩ := laid.rehydrationRun rehydration member
  have equal : other = row := db.cells.eq_of_key held stored (same.trans of_run)
  rw [equal] at earlier
  exact earlier

/-- The other dispatches of a run are before an open one. -/
theorem before_open_dispatch (laid : EvidenceLaid sha db) {dispatch : HostedDispatchRow}
    (stored : dispatch ∈ db.dispatches.rows)
    (open_ : db.terminals.find? dispatch.request.providerInvocationId = none) :
    ∀ other ∈ db.dispatches.rows, other.request.agentRunId = dispatch.request.agentRunId →
      other ≠ dispatch → other.request.stepIndex < dispatch.request.stepIndex := by
  intro other member of_run different
  have least := laid.dispatchOpen dispatch stored open_ other member of_run
  have apart : other.request.stepIndex ≠ dispatch.request.stepIndex :=
    fun same => different (laid.dispatchStep other member dispatch stored of_run same)
  omega

/-- The other admitted requests of a run are before an open one. -/
theorem before_open_request (laid : EvidenceLaid sha db) {request : HostedToolRequestRow}
    (stored : request ∈ db.toolRequests.rows) (admitted : request.admitted? sha ≠ none)
    (open_ : db.toolResults.find? request.actionId = none) :
    ∀ other ∈ db.toolRequests.rows, other.agentRunId = request.agentRunId → other ≠ request →
      other.admitted? sha ≠ none → other.order < request.order := by
  intro other member of_run different others
  have least := laid.requestOpen request stored admitted open_ other member of_run others
  refine lt_of_le_of_ne least ?_
  intro same
  have action : other.actionId = request.actionId := congrArg (fun order => (ofLex order).2) same
  exact different (db.toolRequests.eq_of_key member stored action)

/-- A claimed request is an admitted one. -/
theorem admitted_of_claim (laid : EvidenceLaid sha db) {request : HostedToolRequestRow}
    (stored : request ∈ db.toolRequests.rows) (claimed : db.claims.find? request.actionId ≠ none) :
    request.admitted? sha ≠ none := by
  obtain ⟨claim, found⟩ := Option.ne_none_iff_exists'.mp claimed
  obtain ⟨member, key⟩ := (db.claims.find?_eq_some _ claim).mp found
  obtain ⟨other, requested, admitted⟩ := laid.claimOf claim member
  obtain ⟨held, same⟩ := (db.toolRequests.find?_eq_some _ other).mp requested
  have equal : other = request := db.toolRequests.eq_of_key held stored (same.trans key)
  rw [← equal]
  exact admitted

/-- A request with a result is an admitted one. -/
theorem admitted_of_result (laid : EvidenceLaid sha db) {request : HostedToolRequestRow}
    (stored : request ∈ db.toolRequests.rows)
    (ended : db.toolResults.find? request.actionId ≠ none) : request.admitted? sha ≠ none := by
  obtain ⟨result, found⟩ := Option.ne_none_iff_exists'.mp ended
  obtain ⟨member, key⟩ := (db.toolResults.find?_eq_some _ result).mp found
  obtain ⟨other, requested, admitted⟩ := laid.resultOf result member
  obtain ⟨held, same⟩ := (db.toolRequests.find?_eq_some _ other).mp requested
  have equal : other = request := db.toolRequests.eq_of_key held stored (same.trans key)
  rw [← equal]
  exact admitted

/-- A claim has a request. -/
theorem requested_of_claim (laid : EvidenceLaid sha db) :
    ∀ claim ∈ db.claims.rows, db.toolRequests.find? claim.actionId ≠ none := by
  intro claim member
  obtain ⟨request, found, _⟩ := laid.claimOf claim member
  simp [found]

/-- So has a result. -/
theorem requested_of_result (laid : EvidenceLaid sha db) :
    ∀ result ∈ db.toolResults.rows, db.toolRequests.find? result.result.actionId ≠ none := by
  intro result member
  obtain ⟨request, found, _⟩ := laid.resultOf result member
  simp [found]

/-- A request of the last step that comes behind those of its step comes behind all of its run. -/
theorem request_behind {told : HostedToolRequestRow → Prop} {request : HostedToolRequestRow}
    (laid : EvidenceLaid sha db) (stored : row ∈ db.cells.rows)
    (of_run : request.agentRunId = row.state.agentRunId)
    (step : request.stepIndex = row.state.nextStep - 1)
    (order : ∀ other ∈ db.toolRequests.rows, other.agentRunId = request.agentRunId →
      other.stepIndex = request.stepIndex → told other → other.actionId < request.actionId) :
    ∀ other ∈ db.toolRequests.rows, other.agentRunId = request.agentRunId → told other →
      other.order ≤ request.order := by
  intro other member same speaks
  have lower := laid.request_lt stored other member (same.trans of_run)
  apply Prod.Lex.le_iff.mpr
  by_cases equal : other.stepIndex = request.stepIndex
  · exact .inr ⟨equal, le_of_lt (order other member same equal speaks)⟩
  · refine .inl ?_
    show other.stepIndex < request.stepIndex
    omega

end EvidenceLaid

/-! ## The tables go along with the events -/

section View

variable {kernel : CellKernel} {before : CellTables} {after : CellEvidence} {row : HostedCellRow}
  {body : CellEventBody}

/-- The tables' view has what an event says behind everything else, for the event's run. -/
def ViewFollows (sha : Sha256) (before after : CellEvidence) (run : Uuid)
    (body : CellEventBody) : Prop :=
  ∀ other, after.view sha other = (before.view sha other).append
    (.ofBodies (if run = other then [body] else []))

/-- A section adds to the sections. -/
theorem view_of_section {item : HostedSectionRow}
    {sections : Table (fun row : HostedSectionRow => row.sectionId)}
    (inserted : before.sections.insert? item = some sections)
    (of_run : item.agentRunId = row.state.agentRunId)
    (unsourced : Unsourced kernel.sha before.toCellEvidence item.sourceDigest) :
    ViewFollows kernel.sha before.toCellEvidence
      { before.toCellEvidence with sections := sections } row.state.agentRunId
      (.contextAppended item.sectionDigest) := by
  intro run
  rw [EvidenceView.append_contextAppended]
  refine EvidenceView.ext ?_ rfl rfl rfl rfl rfl rfl ?_ rfl rfl rfl rfl rfl
  · show (sections.rows.filter _).map _ = _
    rw [CellEvidence.sectionsOf_insert inserted, of_run, List.map_append]
    split <;> rfl
  · exact CellEvidence.toolResultsOf_insertSection inserted unsourced run

/-- A dispatch adds to the dispatches. -/
theorem view_of_dispatch {dispatch : HostedDispatchRow}
    {dispatches : Table (fun row : HostedDispatchRow => row.request.providerInvocationId)}
    (laid : EvidenceLaid kernel.sha before) (stored : row ∈ before.cells.rows)
    (inserted : before.dispatches.insert? dispatch = some dispatches)
    (allowed : DispatchAllowed kernel.sha before.toCellEvidence row dispatch.request) :
    ViewFollows kernel.sha before.toCellEvidence
      { before.toCellEvidence with dispatches := dispatches } row.state.agentRunId
      (.modelDispatched (dispatch.dispatched kernel.sha)) := by
  intro run
  have behind : ∀ other ∈ before.dispatches.rows,
      other.request.agentRunId = dispatch.request.agentRunId →
        other.request.stepIndex ≤ dispatch.request.stepIndex := by
    intro other member same
    rw [allowed.step]
    exact le_of_lt (laid.dispatch_lt stored other member (same.trans allowed.run))
  have terminals := CellEvidence.terminalsOf_insertDispatch inserted behind laid.terminalOf run
  rw [EvidenceView.append_modelDispatched]
  refine EvidenceView.ext rfl ?_ ?_ ?_ rfl rfl rfl rfl rfl rfl rfl rfl rfl
  · show (CellEvidence.dispatchesOf _ run).map _ = _
    rw [CellEvidence.dispatchesOf_insert inserted behind, allowed.run, List.map_append]
    split <;> rfl
  · exact congrArg (fun rows => rows.filterMap (·.completed? kernel.sha)) terminals
  · exact congrArg (fun rows => rows.filterMap (·.failed?)) terminals

/-- A terminal adds what it says to the completed or the failed calls. -/
theorem view_of_terminal {terminal : HostedTerminalRow} {dispatch : HostedDispatchRow}
    {terminals : Table (fun row : HostedTerminalRow => row.providerInvocationId)}
    (laid : EvidenceLaid kernel.sha before)
    (inserted : before.terminals.insert? terminal = some terminals)
    (dispatched : before.dispatches.find? terminal.providerInvocationId = some dispatch)
    (of_run : dispatch.request.agentRunId = row.state.agentRunId) {body : CellEventBody}
    (said : (terminal.completed? kernel.sha = none ∧
        ∃ payload, terminal.failed? = some payload ∧ body = .modelFailed payload) ∨
      terminal.failed? = none ∧
        ∃ payload, terminal.completed? kernel.sha = some payload ∧
          body = .modelCompleted payload) :
    ViewFollows kernel.sha before.toCellEvidence
      { before.toCellEvidence with terminals := terminals } row.state.agentRunId body := by
  intro run
  obtain ⟨stored, key⟩ := (before.dispatches.find?_eq_some _ dispatch).mp dispatched
  have open_ : before.terminals.find? dispatch.request.providerInvocationId = none := by
    rw [key]
    exact Table.absent_of_insert? inserted
  have last := laid.before_open_dispatch stored open_
  have completed := CellEvidence.terminalsOf_insert (·.completed? kernel.sha) inserted dispatched
    last run
  have failed := CellEvidence.terminalsOf_insert (·.failed?) inserted dispatched last run
  rw [of_run] at completed failed
  rcases said with ⟨silent, payload, says_so, rfl⟩ | ⟨silent, payload, says_so, rfl⟩
  · rw [silent, Option.toList_none, ite_self, List.append_nil] at completed
    rw [says_so, Option.toList_some] at failed
    rw [EvidenceView.append_modelFailed]
    exact EvidenceView.ext rfl rfl completed failed rfl rfl rfl rfl rfl rfl rfl rfl rfl
  · rw [says_so, Option.toList_some] at completed
    rw [silent, Option.toList_none, ite_self, List.append_nil] at failed
    rw [EvidenceView.append_modelCompleted]
    exact EvidenceView.ext rfl rfl completed failed rfl rfl rfl rfl rfl rfl rfl rfl rfl

/-- An admission adds to the admissions. -/
theorem view_of_admission {request : HostedToolRequestRow} {payload : ToolAdmitted}
    {toolRequests : Table (fun row : HostedToolRequestRow => row.actionId)}
    (laid : EvidenceLaid kernel.sha before) (stored : row ∈ before.cells.rows)
    (inserted : before.toolRequests.insert? request = some toolRequests)
    (said : request.admitted? kernel.sha = some payload)
    (of_run : request.agentRunId = row.state.agentRunId)
    (step : request.stepIndex = row.state.nextStep - 1)
    (order : ∀ other ∈ before.toolRequests.rows, other.agentRunId = request.agentRunId →
      other.stepIndex = request.stepIndex → other.admitted? kernel.sha ≠ none →
        other.actionId < request.actionId) :
    ViewFollows kernel.sha before.toCellEvidence
      { before.toCellEvidence with toolRequests := toolRequests } row.state.agentRunId
      (.toolAdmitted payload) := by
  intro run
  have admitted := CellEvidence.toolRequestsOf_insert (·.admitted? kernel.sha) inserted
    (fun _ => laid.request_behind stored of_run step order) run
  have denied := CellEvidence.toolRequestsOf_insert (·.denied?) inserted
    (fun speaks => absurd (denied_of_admitted said) speaks) run
  rw [of_run, said, Option.toList_some] at admitted
  rw [denied_of_admitted said, Option.toList_none, ite_self, List.append_nil] at denied
  rw [EvidenceView.append_toolAdmitted]
  refine EvidenceView.ext rfl rfl rfl rfl admitted denied ?_ ?_ rfl rfl rfl rfl rfl
  · exact congrArg (List.map (·.claimed))
      (CellEvidence.claimsOf_insertRequest inserted laid.requested_of_claim run)
  · exact CellEvidence.toolResultsOf_insertRequest inserted laid.requested_of_result run

/-- A denial adds to the denials and to the sections. -/
theorem view_of_denial {request : HostedToolRequestRow} {item : HostedSectionRow}
    {payload : ToolDenied} {toolRequests : Table (fun row : HostedToolRequestRow => row.actionId)}
    {sections : Table (fun row : HostedSectionRow => row.sectionId)}
    (laid : EvidenceLaid kernel.sha before) (stored : row ∈ before.cells.rows)
    (requested : before.toolRequests.insert? request = some toolRequests)
    (inserted : before.sections.insert? item = some sections)
    (said : request.denied? = some payload.subject)
    (section_said : item.sectionDigest = payload.sectionDigest)
    (of_run : request.agentRunId = row.state.agentRunId)
    (section_run : item.agentRunId = row.state.agentRunId)
    (step : request.stepIndex = row.state.nextStep - 1)
    (unsourced : Unsourced kernel.sha before.toCellEvidence item.sourceDigest)
    (order : ∀ other ∈ before.toolRequests.rows, other.agentRunId = request.agentRunId →
      other.stepIndex = request.stepIndex → other.denied? ≠ none →
        other.actionId < request.actionId) :
    ViewFollows kernel.sha before.toCellEvidence
      { before.toCellEvidence with toolRequests := toolRequests, sections := sections }
      row.state.agentRunId (.toolDenied payload) := by
  intro run
  have silent : request.admitted? kernel.sha = none := admitted_of_denied said
  have admitted := CellEvidence.toolRequestsOf_insert (·.admitted? kernel.sha) requested
    (fun speaks => absurd silent speaks) run
  have denied := CellEvidence.toolRequestsOf_insert (·.denied?) requested
    (fun _ => laid.request_behind stored of_run step order) run
  rw [silent, Option.toList_none, ite_self, List.append_nil] at admitted
  rw [of_run, said, Option.toList_some] at denied
  let mid : CellEvidence := { before.toCellEvidence with toolRequests := toolRequests }
  have mid_inserted : mid.sections.insert? item = some sections := inserted
  have mid_unsourced : Unsourced kernel.sha mid item.sourceDigest := unsourced
  rw [EvidenceView.append_toolDenied]
  refine EvidenceView.ext ?_ rfl rfl rfl admitted denied ?_ ?_ rfl rfl rfl rfl rfl
  · show (sections.rows.filter _).map _ = _
    rw [CellEvidence.sectionsOf_insert inserted, section_run, List.map_append]
    split
    · simp only [List.map_cons, List.map_nil, section_said]
      rfl
    · rfl
  · exact congrArg (List.map (·.claimed))
      (CellEvidence.claimsOf_insertRequest requested laid.requested_of_claim run)
  · exact (CellEvidence.toolResultsOf_insertSection mid_inserted mid_unsourced run).trans
      (CellEvidence.toolResultsOf_insertRequest requested laid.requested_of_result run)

/-- A claim adds to the claims. -/
theorem view_of_claim {claim : HostedClaimRow} {request : HostedToolRequestRow}
    {payload : ToolAdmitted} {claims : Table (fun row : HostedClaimRow => row.actionId)}
    (laid : EvidenceLaid kernel.sha before)
    (inserted : before.claims.insert? claim = some claims)
    (requested : before.toolRequests.find? claim.actionId = some request)
    (of_run : request.agentRunId = row.state.agentRunId)
    (admitted : request.admitted? kernel.sha = some payload)
    (open_ : before.toolResults.find? claim.actionId = none) :
    ViewFollows kernel.sha before.toCellEvidence { before.toCellEvidence with claims := claims }
      row.state.agentRunId (.toolClaimed claim.claimed) := by
  intro run
  obtain ⟨listed, key⟩ := (before.toolRequests.find?_eq_some _ request).mp requested
  have earlier := laid.before_open_request listed (by simp [admitted]) (by rw [key]; exact open_)
  have added := CellEvidence.claimsOf_insert inserted requested (fun other member same different
    claimed => earlier other member same different (laid.admitted_of_claim member claimed)) run
  rw [EvidenceView.append_toolClaimed]
  refine EvidenceView.ext rfl rfl rfl rfl rfl rfl ?_ rfl rfl rfl rfl rfl rfl
  show (CellEvidence.claimsOf _ run).map _ = _
  rw [added, of_run, List.map_append]
  split <;> rfl

/-- A result adds to the results and to the sections. -/
theorem view_of_result {result : HostedToolResultRow} {item : HostedSectionRow}
    {request : HostedToolRequestRow} {payload : ToolAdmitted}
    {toolResults : Table (fun row : HostedToolResultRow => row.result.actionId)}
    {sections : Table (fun row : HostedSectionRow => row.sectionId)}
    (laid : EvidenceLaid kernel.sha before)
    (ended : before.toolResults.insert? result = some toolResults)
    (inserted : before.sections.insert? item = some sections)
    (requested : before.toolRequests.find? result.result.actionId = some request)
    (of_run : request.agentRunId = row.state.agentRunId)
    (section_run : item.agentRunId = row.state.agentRunId)
    (admitted : request.admitted? kernel.sha = some payload)
    (source : item.sourceDigest = result.result.referenceDigest kernel.sha)
    (unsourced : Unsourced kernel.sha before.toCellEvidence item.sourceDigest)
    (unused : ∀ other ∈ before.sections.rows,
      other.sourceDigest ≠ result.result.referenceDigest kernel.sha) :
    ViewFollows kernel.sha before.toCellEvidence
      { before.toCellEvidence with toolResults := toolResults, sections := sections }
      row.state.agentRunId (.toolCompleted (result.completedWith kernel.sha item)) := by
  intro run
  obtain ⟨listed, key⟩ := (before.toolRequests.find?_eq_some _ request).mp requested
  have open_ : before.toolResults.find? request.actionId = none := by
    rw [key]
    exact Table.absent_of_insert? ended
  have earlier := laid.before_open_request listed (by simp [admitted]) open_
  have added := CellEvidence.toolResultsOf_insert ended inserted requested
    (fun other member same different answered =>
      earlier other member same different (laid.admitted_of_result member answered))
    source unsourced unused run
  rw [EvidenceView.append_toolCompleted]
  refine EvidenceView.ext ?_ rfl rfl rfl rfl rfl rfl ?_ rfl rfl rfl rfl rfl
  · show (sections.rows.filter _).map _ = _
    rw [CellEvidence.sectionsOf_insert inserted, section_run, List.map_append]
    split <;> rfl
  · rw [of_run] at added
    exact added

/-- A completion that is finalized adds to the finalized ones. -/
theorem view_of_completed {final : FinalCandidate} {now : Timestamp}
    {completions : Table (fun row : HostedCompletionRow => row.candidateRunId)}
    (laid : EvidenceLaid kernel.sha before) (stored : row ∈ before.cells.rows)
    (rows : completions.rows = before.completions.rows.map (fun other =>
      if other.agentRunId = row.state.agentRunId ∧ other.finalizedAt = none then
        { other with finalizedAt := some now } else other))
    (status : row.state.status = .completionPending) (candidate : row.state.final = some final) :
    ViewFollows kernel.sha before.toCellEvidence
      { before.toCellEvidence with completions := completions } row.state.agentRunId
      (.completed ⟨final.captureId, final.answerDigest⟩) := by
  intro run
  obtain ⟨completion, member, of_run, unfinished, named⟩ := laid.completing row stored status
  rw [named, Option.some.injEq] at candidate
  rw [EvidenceView.append_completed]
  let next : CellEvidence := { before.toCellEvidence with completions := completions }
  by_cases own : row.state.agentRunId = run
  · have once : ∀ other ∈ before.completions.rows, other.agentRunId = completion.agentRunId →
        other = completion := fun other held same => laid.completionOnce other held _ member same
    let finished : HostedCompletionRow := { completion with finalizedAt := some now }
    have written : finished ∈ completions.rows := by
      rw [rows]
      exact List.mem_map.mpr ⟨completion, member, if_pos ⟨of_run, unfinished⟩⟩
    have written_once : ∀ other ∈ completions.rows, other.agentRunId = finished.agentRunId →
        other = finished := by
      intro other held same
      rw [rows] at held
      obtain ⟨old, listed, rfl⟩ := List.mem_map.mp held
      have old_run : old.agentRunId = completion.agentRunId := by
        rw [← show finished.agentRunId = completion.agentRunId from rfl, ← same]
        split <;> rfl
      rw [once old listed old_run, if_pos ⟨of_run, unfinished⟩]
    have before_rows := CellEvidence.completionsOf_eq member once
    have after_rows : next.completionsOf finished.agentRunId = [finished] :=
      CellEvidence.completionsOf_eq written written_once
    rw [of_run.trans own] at before_rows
    rw [show finished.agentRunId = run from of_run.trans own] at after_rows
    refine EvidenceView.ext rfl rfl rfl rfl rfl rfl rfl rfl rfl rfl rfl ?_ ?_
    · show (next.completionsOf run).map _ = (before.completionsOf run).map _
      rw [after_rows, before_rows]
      rfl
    · show (next.completionsOf run).filterMap _ = (before.completionsOf run).filterMap _ ++ _
      rw [after_rows, before_rows, if_pos own, ← candidate]
      simp [HostedCompletionRow.finalized?, unfinished, finished]
  · have same_rows : next.completionsOf run = before.completionsOf run := by
      show sortOn _ (completions.rows.filter _) = sortOn _ (before.completions.rows.filter _)
      rw [rows, List.filter_map]
      have kept : before.completions.rows.filter ((fun other => decide (other.agentRunId = run)) ∘
          fun other => if other.agentRunId = row.state.agentRunId ∧ other.finalizedAt = none then
            { other with finalizedAt := some now } else other) =
          before.completions.rows.filter (fun other => other.agentRunId = run) := by
        apply List.filter_congr
        intro other _
        show decide ((if _ then _ else _ : HostedCompletionRow).agentRunId = run) = _
        split <;> rfl
      rw [kept]
      refine congrArg _ ((List.map_congr_left ?_).trans (List.map_id _))
      intro other listed
      have other_run : other.agentRunId = run := by simpa using (List.mem_filter.mp listed).2
      rw [if_neg (fun both => own (both.1.symm.trans other_run))]
      rfl
    rw [if_neg own]
    refine EvidenceView.ext rfl rfl rfl rfl rfl rfl rfl rfl rfl rfl rfl ?_ ?_
    · exact congrArg (List.map (·.prepared)) same_rows
    · rw [List.append_nil]
      exact congrArg (List.filterMap (·.finalized?)) same_rows

/-- What is written with an event is what the event says, behind everything else, for its own run;
and nothing for another. -/
theorem CellChange.view_follows (laid : EvidenceLaid kernel.sha before)
    (stored : row ∈ before.cells.rows) (order : InOrder kernel.sha before.toCellEvidence after)
    (change : CellChange kernel before.toCellEvidence after row body) :
    ViewFollows kernel.sha before.toCellEvidence after row.state.agentRunId body := by
  cases change with
  | contextAppended item sections inserted written of_run running settled =>
    subst written
    have unsourced := order.unsourced item (by simp [Table.rows_of_insert? inserted])
      (Table.not_mem_of_insert? inserted)
    exact view_of_section inserted of_run unsourced
  | modelDispatched dispatch dispatches inserted written allowed =>
    subst written
    exact view_of_dispatch laid stored inserted allowed
  | modelCompleted terminal dispatch payload terminals inserted written dispatched of_run said
      duration cost =>
    subst written
    refine view_of_terminal laid inserted dispatched of_run (.inr ⟨?_, payload, said, rfl⟩)
    exact failed_of_completed said
  | modelFailed terminal dispatch payload terminals inserted written dispatched of_run said =>
    subst written
    refine view_of_terminal laid inserted dispatched of_run (.inl ⟨?_, payload, said, rfl⟩)
    exact completed_of_failed said
  | reconciliationRequired written pending =>
    intro run
    rw [EvidenceView.append_reconciliationRequired, written]
  | toolAdmitted request payload toolRequests inserted written said positive allowed =>
    subst written
    have admitted : request.admitted? kernel.sha ≠ none := by simp [said]
    have earlier := order.admitted request (by simp [Table.rows_of_insert? inserted])
      (Table.not_mem_of_insert? inserted)
    exact view_of_admission laid stored inserted said allowed.run allowed.step
      (fun other member same step others => earlier other member same step admitted others)
  | toolDenied request item payload toolRequests sections requested inserted written said
      section_said positive of_run section_run step =>
    subst written
    have denied : request.denied? ≠ none := by simp [said]
    have earlier := order.denied request (by simp [Table.rows_of_insert? requested])
      (Table.not_mem_of_insert? requested)
    have unsourced := order.unsourced item (by simp [Table.rows_of_insert? inserted])
      (Table.not_mem_of_insert? inserted)
    exact view_of_denial laid stored requested inserted said section_said of_run section_run step
      unsourced (fun other member same step others => earlier other member same step denied others)
  | toolClaimed claim request payload claims inserted written requested of_run admitted open_
      running =>
    subst written
    exact view_of_claim laid inserted requested of_run admitted open_
  | toolCompleted result item request payload claim toolResults sections ended inserted written
      requested of_run admitted claimed source =>
    subst written
    have item_new : item ∈ sections.rows := by simp [Table.rows_of_insert? inserted]
    have item_fresh := Table.not_mem_of_insert? inserted
    have result_new : result ∈ toolResults.rows := by simp [Table.rows_of_insert? ended]
    have result_fresh := Table.not_mem_of_insert? ended
    have section_run := order.sameRun result result_new result_fresh item item_new item_fresh
      request requested
    exact view_of_result laid ended inserted requested of_run (section_run.trans of_run) admitted
      source (order.unsourced item item_new item_fresh)
      (order.unused result result_new result_fresh)
  | checkpointed checkpoint checkpoints inserted written of_run revision status settled =>
    subst written
    intro run
    have behind : ∀ other ∈ before.checkpoints.rows, other.agentRunId = checkpoint.agentRunId →
        other.cellRevision ≤ checkpoint.cellRevision := by
      intro other member same
      have earlier := laid.checkpoint_le stored other member (same.trans of_run)
      omega
    have added := CellEvidence.checkpointsOf_insert inserted behind run
    rw [EvidenceView.append_checkpointed]
    refine EvidenceView.ext rfl rfl rfl rfl rfl rfl rfl rfl ?_ rfl rfl rfl rfl
    show (CellEvidence.checkpointsOf _ run).map _ = _
    rw [added, of_run, List.map_append]
    split <;> rfl
  | rehydrated rehydration rehydrations inserted written of_run revision status settled =>
    subst written
    intro run
    have behind : ∀ other ∈ before.rehydrations.rows, other.agentRunId = rehydration.agentRunId →
        other.cellRevision ≤ rehydration.cellRevision := by
      intro other member same
      have earlier := laid.rehydration_le stored other member (same.trans of_run)
      omega
    have added := CellEvidence.rehydrationsOf_insert inserted behind run
    rw [EvidenceView.append_rehydrated]
    refine EvidenceView.ext rfl rfl rfl rfl rfl rfl rfl rfl rfl ?_ rfl rfl rfl
    show (CellEvidence.rehydrationsOf _ run).map _ = _
    rw [added, of_run, List.map_append]
    split <;> rfl
  | completionIntent intent intents inserted written of_run first running settled =>
    subst written
    intro run
    have added := CellEvidence.intentsOf_insert inserted first run
    rw [EvidenceView.append_completionIntent]
    refine EvidenceView.ext rfl rfl rfl rfl rfl rfl rfl rfl rfl rfl ?_ rfl rfl
    show (CellEvidence.intentsOf _ run).map _ = _
    rw [added, of_run, List.map_append]
    split <;> rfl
  | completionPrepared completion completions inserted written of_run first unfinished running
      settled =>
    subst written
    intro run
    have added := CellEvidence.completionsOf_insert inserted first run
    have quiet : completion.finalized? = none := by
      rw [HostedCompletionRow.finalized?, unfinished]
      rfl
    rw [EvidenceView.append_completionPrepared]
    refine EvidenceView.ext rfl rfl rfl rfl rfl rfl rfl rfl rfl rfl rfl ?_ ?_
    · show (CellEvidence.completionsOf _ run).map _ = _
      rw [added, of_run, List.map_append]
      split <;> rfl
    · show (CellEvidence.completionsOf _ run).filterMap _ = _
      rw [added, of_run, List.filterMap_append]
      split
      · simp only [List.filterMap_cons, quiet, List.filterMap_nil, List.append_nil]
        rfl
      · exact List.append_nil _
  | completed final now completions rows written status candidate =>
    subst written
    exact view_of_completed laid stored rows status candidate

end View

end Macr
