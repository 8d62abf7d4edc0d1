import Macr.Cell.Readable

/-!
# What each event adds

A row that is written with an event goes behind the rows of its run in the order of the view,
because the steps, the revisions and the pending operations of a cell only allow it there. Each
type of event is taken for itself: first what it adds to a view, then what its rows add to the
tables' view, and last that the two are one addition.
-/

namespace Macr

open Lib

/-! ## What an event says -/

namespace EvidenceView

variable (view : EvidenceView) (own : Prop) [Decidable own]

/-- An appended section is a section. -/
theorem append_contextAppended (digest : Digest) :
    view.append (ofBodies (if own then [.contextAppended digest] else [])) =
      { view with sections := view.sections ++ if own then [digest] else [] } := by
  split <;> simp [append, ofBodies]

/-- A dispatch is dispatched. -/
theorem append_modelDispatched (payload : ModelDispatched) :
    view.append (ofBodies (if own then [.modelDispatched payload] else [])) =
      { view with dispatched := view.dispatched ++ if own then [payload] else [] } := by
  split <;> simp [append, ofBodies]

/-- A completed call is completed. -/
theorem append_modelCompleted (payload : ModelCompleted) :
    view.append (ofBodies (if own then [.modelCompleted payload] else [])) =
      { view with modelCompleted := view.modelCompleted ++ if own then [payload] else [] } := by
  split <;> simp [append, ofBodies]

/-- A failed call is failed. -/
theorem append_modelFailed (payload : ModelFailed) :
    view.append (ofBodies (if own then [.modelFailed payload] else [])) =
      { view with modelFailed := view.modelFailed ++ if own then [payload] else [] } := by
  split <;> simp [append, ofBodies]

/-- A reconciliation adds nothing. -/
theorem append_reconciliationRequired (models tools : Nat) :
    view.append (ofBodies (if own then [.reconciliationRequired models tools] else [])) =
      view := by
  split <;> simp [append, ofBodies]

/-- An admission is admitted. -/
theorem append_toolAdmitted (payload : ToolAdmitted) :
    view.append (ofBodies (if own then [.toolAdmitted payload] else [])) =
      { view with admitted := view.admitted ++ if own then [payload] else [] } := by
  split <;> simp [append, ofBodies]

/-- A denial is denied, and its section is one. -/
theorem append_toolDenied (payload : ToolDenied) :
    view.append (ofBodies (if own then [.toolDenied payload] else [])) =
      { view with
        sections := view.sections ++ if own then [payload.sectionDigest] else [],
        denied := view.denied ++ if own then [payload.subject] else [] } := by
  split <;> simp [append, ofBodies]

/-- A claim is claimed. -/
theorem append_toolClaimed (payload : ToolClaimed) :
    view.append (ofBodies (if own then [.toolClaimed payload] else [])) =
      { view with claimed := view.claimed ++ if own then [payload] else [] } := by
  split <;> simp [append, ofBodies]

/-- A result has ended, and its section is one. -/
theorem append_toolCompleted (payload : ToolCompleted) :
    view.append (ofBodies (if own then [.toolCompleted payload] else [])) =
      { view with
        sections := view.sections ++ if own then [payload.sectionDigest] else [],
        ended := view.ended ++ if own then [payload] else [] } := by
  split <;> simp [append, ofBodies]

/-- A checkpoint is one. -/
theorem append_checkpointed (payload : CellCheckpointed) :
    view.append (ofBodies (if own then [.checkpointed payload] else [])) =
      { view with checkpointed := view.checkpointed ++ if own then [payload] else [] } := by
  split <;> simp [append, ofBodies]

/-- A rehydration is one. -/
theorem append_rehydrated (payload : CellRehydrated) :
    view.append (ofBodies (if own then [.rehydrated payload] else [])) =
      { view with rehydrated := view.rehydrated ++ if own then [payload] else [] } := by
  split <;> simp [append, ofBodies]

/-- An intent is one. -/
theorem append_completionIntent (payload : CompletionIntent) :
    view.append (ofBodies (if own then [.completionIntent payload] else [])) =
      { view with intended := view.intended ++ if own then [payload] else [] } := by
  split <;> simp [append, ofBodies]

/-- A prepared completion is prepared. -/
theorem append_completionPrepared (payload : CompletionPrepared) :
    view.append (ofBodies (if own then [.completionPrepared payload] else [])) =
      { view with prepared := view.prepared ++ if own then [payload] else [] } := by
  split <;> simp [append, ofBodies]

/-- A completion is finalized. -/
theorem append_completed (payload : CellCompleted) :
    view.append (ofBodies (if own then [.completed payload] else [])) =
      { view with finalized := view.finalized ++ if own then [payload] else [] } := by
  split <;> simp [append, ofBodies]

end EvidenceView

/-! ## What a row adds to the tables' view -/

namespace CellEvidence

variable {sha : Sha256} {db : CellEvidence}

/-- Where nothing is pending, the calls of a run have ended and its admitted tools have results. -/
theorem ended_of_settled {run : Uuid} (settled : db.pendingCounts sha run = (0, 0)) :
    (∀ dispatch ∈ db.dispatches.rows, dispatch.request.agentRunId = run →
      db.terminals.find? dispatch.request.providerInvocationId ≠ none) ∧
    ∀ request ∈ db.toolRequests.rows, request.agentRunId = run → request.admitted? sha ≠ none →
      db.toolResults.find? request.actionId ≠ none := by
  simp only [pendingCounts, Prod.mk.injEq, List.countP_eq_zero, decide_eq_true_eq, not_and] at settled
  obtain ⟨models, tools⟩ := settled
  refine ⟨models, ?_⟩
  intro request member of_run admitted
  exact tools request member of_run (Option.isSome_iff_ne_none.mpr admitted)

/-- The results of one request with the sections whose source has their digest. -/
def resultsAt (sha : Sha256) (db : CellEvidence) (request : HostedToolRequestRow) :
    List ToolCompleted :=
  match db.toolResults.find? request.actionId with
  | none => []
  | some result =>
    (db.sections.rows.filter
      (fun item => item.sourceDigest = result.result.referenceDigest sha)).map
        (result.completedWith sha)

/-- The results of a run are those of its requests. -/
theorem toolResultsOf_eq (run : Uuid) :
    db.toolResultsOf sha run = (db.toolRequestsOf run).flatMap (db.resultsAt sha) := rfl

/-- A request without a result has none with sections. -/
theorem resultsAt_of_none {request : HostedToolRequestRow}
    (absent : db.toolResults.find? request.actionId = none) : db.resultsAt sha request = [] := by
  rw [resultsAt, absent]

/-- The result of a request with the sections of its source. -/
theorem resultsAt_of_some {request : HostedToolRequestRow} {result : HostedToolResultRow}
    (found : db.toolResults.find? request.actionId = some result) :
    db.resultsAt sha request = (db.sections.rows.filter
      (fun item => item.sourceDigest = result.result.referenceDigest sha)).map
        (result.completedWith sha) := by
  rw [resultsAt, found]

section Sections

variable {item : HostedSectionRow} {sections : Table (fun row : HostedSectionRow => row.sectionId)}

/-- A new section is the last of its run. -/
theorem sectionsOf_insert (inserted : db.sections.insert? item = some sections) (run : Uuid) :
    sections.rows.filter (fun row => row.agentRunId = run) =
      db.sectionsOf run ++ if item.agentRunId = run then [item] else [] := by
  rw [Table.rows_of_insert? inserted, List.filter_append]
  by_cases own : item.agentRunId = run <;> simp [sectionsOf, own]

/-- New sections that are not said to come from a stored result are joined with none. -/
theorem resultsAt_insertSections {items : List HostedSectionRow}
    (rows : sections.rows = db.sections.rows ++ items)
    (unsourced : ∀ item ∈ items, Unsourced sha db item.sourceDigest)
    (request : HostedToolRequestRow) :
    ({ db with sections := sections } : CellEvidence).resultsAt sha request =
      db.resultsAt sha request := by
  let next : CellEvidence := { db with sections := sections }
  show next.resultsAt sha request = _
  cases found : db.toolResults.find? request.actionId with
  | none =>
    have later : next.toolResults.find? request.actionId = none := found
    rw [resultsAt_of_none found, resultsAt_of_none later]
  | some result =>
    have later : next.toolResults.find? request.actionId = some result := found
    have stored := ((db.toolResults.find?_eq_some _ result).mp found).1
    have apart : items.filter (fun item => item.sourceDigest = result.result.referenceDigest sha) =
        [] := by
      rw [List.filter_eq_nil_iff]
      intro item member
      simpa using Ne.symm (unsourced item member result stored)
    rw [resultsAt_of_some found, resultsAt_of_some later]
    show (sections.rows.filter _).map _ = _
    rw [rows, List.filter_append, apart, List.append_nil]

/-- Such sections leave the results of every run. -/
theorem toolResultsOf_insertSections {items : List HostedSectionRow}
    (rows : sections.rows = db.sections.rows ++ items)
    (unsourced : ∀ item ∈ items, Unsourced sha db item.sourceDigest) (run : Uuid) :
    ({ db with sections := sections } : CellEvidence).toolResultsOf sha run =
      db.toolResultsOf sha run :=
  List.flatMap_congr fun request _ => resultsAt_insertSections rows unsourced request

/-- Such a section leaves the results of a request. -/
theorem resultsAt_insertSection (inserted : db.sections.insert? item = some sections)
    (unsourced : Unsourced sha db item.sourceDigest) (request : HostedToolRequestRow) :
    ({ db with sections := sections } : CellEvidence).resultsAt sha request =
      db.resultsAt sha request := by
  apply resultsAt_insertSections (Table.rows_of_insert? inserted)
  intro other member
  rw [List.mem_singleton.mp member]
  exact unsourced

/-- So it leaves the results of every run. -/
theorem toolResultsOf_insertSection (inserted : db.sections.insert? item = some sections)
    (unsourced : Unsourced sha db item.sourceDigest) (run : Uuid) :
    ({ db with sections := sections } : CellEvidence).toolResultsOf sha run =
      db.toolResultsOf sha run :=
  List.flatMap_congr fun request _ => resultsAt_insertSection inserted unsourced request

end Sections

section Dispatches

variable {dispatch : HostedDispatchRow}
  {dispatches : Table (fun row : HostedDispatchRow => row.request.providerInvocationId)}

/-- A dispatch of a step that no earlier one has reached is the last of its run. -/
theorem dispatchesOf_insert (inserted : db.dispatches.insert? dispatch = some dispatches)
    (behind : ∀ other ∈ db.dispatches.rows, other.request.agentRunId = dispatch.request.agentRunId →
      other.request.stepIndex ≤ dispatch.request.stepIndex) (run : Uuid) :
    ({ db with dispatches := dispatches } : CellEvidence).dispatchesOf run =
      db.dispatchesOf run ++ if dispatch.request.agentRunId = run then [dispatch] else [] := by
  show sortOn _ (dispatches.rows.filter _) = _
  rw [Table.rows_of_insert? inserted]
  apply sortOn_filter_concat
  intro own other member of_run
  exact behind other member (of_run.trans own.symm)

/-- A new dispatch has no terminal yet. -/
theorem terminalsOf_insertDispatch (inserted : db.dispatches.insert? dispatch = some dispatches)
    (behind : ∀ other ∈ db.dispatches.rows, other.request.agentRunId = dispatch.request.agentRunId →
      other.request.stepIndex ≤ dispatch.request.stepIndex)
    (terminalOf : ∀ terminal ∈ db.terminals.rows,
      db.dispatches.find? terminal.providerInvocationId ≠ none) (run : Uuid) :
    ({ db with dispatches := dispatches } : CellEvidence).terminalsOf run = db.terminalsOf run := by
  have fresh : db.terminals.find? dispatch.request.providerInvocationId = none := by
    rw [db.terminals.find?_eq_none]
    intro terminal member same
    apply terminalOf terminal member
    rw [same]
    exact Table.absent_of_insert? inserted
  show ((({ db with dispatches := dispatches } : CellEvidence).dispatchesOf run).filterMap
    (fun row => db.terminals.find? row.request.providerInvocationId)) = _
  rw [dispatchesOf_insert inserted behind, List.filterMap_append]
  by_cases own : dispatch.request.agentRunId = run <;> simp [own, fresh, terminalsOf]

end Dispatches

section Terminals

variable {terminal : HostedTerminalRow} {dispatch : HostedDispatchRow}
  {terminals : Table (fun row : HostedTerminalRow => row.providerInvocationId)}

/-- What a new terminal says is the last of its run: no other dispatch is behind an open one. -/
theorem terminalsOf_insert {β : Type} (told : HostedTerminalRow → Option β)
    (inserted : db.terminals.insert? terminal = some terminals)
    (dispatched : db.dispatches.find? terminal.providerInvocationId = some dispatch)
    (last : ∀ other ∈ db.dispatches.rows, other.request.agentRunId = dispatch.request.agentRunId →
      other ≠ dispatch → other.request.stepIndex < dispatch.request.stepIndex) (run : Uuid) :
    (({ db with terminals := terminals } : CellEvidence).terminalsOf run).filterMap told =
      (db.terminalsOf run).filterMap told ++
        if dispatch.request.agentRunId = run then (told terminal).toList else [] := by
  obtain ⟨stored, key⟩ := (db.dispatches.find?_eq_some _ dispatch).mp dispatched
  have fresh := Table.absent_of_insert? inserted
  have found := Table.find?_of_insert? inserted
  have others : ∀ other ∈ db.dispatches.rows, other ≠ dispatch →
      terminals.find? other.request.providerInvocationId =
        db.terminals.find? other.request.providerInvocationId := by
    intro other member different
    rw [found, if_neg]
    intro same
    exact different (db.dispatches.eq_of_key member stored (same.symm.trans key.symm))
  have joined : ∀ table : Table (fun row : HostedTerminalRow => row.providerInvocationId),
      (({ db with terminals := table } : CellEvidence).terminalsOf run).filterMap told =
        (db.dispatchesOf run).filterMap (fun row =>
          (table.find? row.request.providerInvocationId).bind told) := by
    intro table
    exact List.filterMap_filterMap
  rw [joined terminals, show (db.terminalsOf run).filterMap told = _ from joined db.terminals]
  by_cases own : dispatch.request.agentRunId = run
  · have listed : dispatch ∈ db.dispatches.rows.filter (fun row => row.request.agentRunId = run) :=
      List.mem_filter.mpr ⟨stored, by simpa using own⟩
    have distinct := (db.dispatches.nodup_rows).filter
      (fun row => decide (row.request.agentRunId = run))
    rw [if_pos own]
    have added : (db.dispatchesOf run).filterMap (fun row =>
          (terminals.find? row.request.providerInvocationId).bind told) =
        (db.dispatchesOf run).filterMap (fun row =>
          (db.terminals.find? row.request.providerInvocationId).bind told) ++
            ((terminals.find? dispatch.request.providerInvocationId).bind told).toList := by
      refine filterMap_sortOn_given listed distinct ?_ ?_ ?_
      · intro other member different
        rw [others other (List.mem_of_mem_filter member) different]
      · rw [key, fresh]
        rfl
      · intro other member different _
        obtain ⟨held, of_run⟩ := List.mem_filter.mp member
        exact last other held ((by simpa using of_run : other.request.agentRunId = run).trans
          own.symm) different
    rw [added, key, found, if_pos rfl]
    rfl
  · rw [if_neg own, List.append_nil]
    apply List.filterMap_congr
    intro other member
    obtain ⟨held, of_run⟩ := List.mem_filter.mp (mem_sortOn.mp member)
    rw [others other held]
    rintro rfl
    exact own (by simpa using of_run)

end Terminals

section Requests

variable {request : HostedToolRequestRow}
  {toolRequests : Table (fun row : HostedToolRequestRow => row.actionId)}

/-- What a new request says is the last of its run when no request that says something comes
after it. -/
theorem toolRequestsOf_insert {β : Type} (told : HostedToolRequestRow → Option β)
    (inserted : db.toolRequests.insert? request = some toolRequests)
    (behind : told request ≠ none → ∀ other ∈ db.toolRequests.rows,
      other.agentRunId = request.agentRunId → told other ≠ none → other.order ≤ request.order)
    (run : Uuid) :
    (({ db with toolRequests := toolRequests } : CellEvidence).toolRequestsOf run).filterMap told =
      (db.toolRequestsOf run).filterMap told ++
        if request.agentRunId = run then (told request).toList else [] := by
  show (sortOn _ (toolRequests.rows.filter _)).filterMap told = _
  rw [Table.rows_of_insert? inserted]
  apply filterMap_sortOn_filter_concat
  intro own speaks other member of_run
  exact behind speaks other member (of_run.trans own.symm)

/-- A new request has no claim yet. -/
theorem claimsOf_insertRequest (inserted : db.toolRequests.insert? request = some toolRequests)
    (claimOf : ∀ claim ∈ db.claims.rows, db.toolRequests.find? claim.actionId ≠ none) (run : Uuid) :
    ({ db with toolRequests := toolRequests } : CellEvidence).claimsOf run = db.claimsOf run := by
  have fresh : db.claims.find? request.actionId = none := by
    rw [db.claims.find?_eq_none]
    intro claim member same
    apply claimOf claim member
    rw [same]
    exact Table.absent_of_insert? inserted
  have added := toolRequestsOf_insert (fun row => db.claims.find? row.actionId) inserted
    (fun said => absurd fresh said) run
  rw [fresh] at added
  simpa [claimsOf] using added

/-- A new request has no result yet. -/
theorem toolResultsOf_insertRequest
    (inserted : db.toolRequests.insert? request = some toolRequests)
    (resultOf : ∀ result ∈ db.toolResults.rows,
      db.toolRequests.find? result.result.actionId ≠ none) (run : Uuid) :
    ({ db with toolRequests := toolRequests } : CellEvidence).toolResultsOf sha run =
      db.toolResultsOf sha run := by
  have fresh : db.toolResults.find? request.actionId = none := by
    rw [db.toolResults.find?_eq_none]
    intro result member same
    apply resultOf result member
    rw [same]
    exact Table.absent_of_insert? inserted
  have silent : db.resultsAt sha request = [] := resultsAt_of_none fresh
  show (sortOn _ (toolRequests.rows.filter _)).flatMap (db.resultsAt sha) = _
  rw [Table.rows_of_insert? inserted, List.filter_append]
  by_cases own : request.agentRunId = run
  · rw [List.filter_cons_of_pos (by simpa using own), List.filter_nil,
      flatMap_sortOn_concat (fun speaks => absurd silent speaks), silent, List.append_nil]
    rfl
  · rw [List.filter_cons_of_neg (by simpa using own), List.filter_nil, List.append_nil]
    rfl

end Requests

section Claims

variable {claim : HostedClaimRow} {request : HostedToolRequestRow}
  {claims : Table (fun row : HostedClaimRow => row.actionId)}

/-- A new claim is the last of its run: no claimed request comes after an open one. -/
theorem claimsOf_insert (inserted : db.claims.insert? claim = some claims)
    (requested : db.toolRequests.find? claim.actionId = some request)
    (last : ∀ other ∈ db.toolRequests.rows, other.agentRunId = request.agentRunId →
      other ≠ request → db.claims.find? other.actionId ≠ none → other.order < request.order)
    (run : Uuid) :
    ({ db with claims := claims } : CellEvidence).claimsOf run =
      db.claimsOf run ++ if request.agentRunId = run then [claim] else [] := by
  obtain ⟨stored, key⟩ := (db.toolRequests.find?_eq_some _ request).mp requested
  have fresh := Table.absent_of_insert? inserted
  have found := Table.find?_of_insert? inserted
  have others : ∀ other ∈ db.toolRequests.rows, other ≠ request →
      claims.find? other.actionId = db.claims.find? other.actionId := by
    intro other member different
    rw [found, if_neg]
    intro same
    exact different (db.toolRequests.eq_of_key member stored (same.symm.trans key.symm))
  by_cases own : request.agentRunId = run
  · have listed : request ∈ db.toolRequests.rows.filter (fun row => row.agentRunId = run) :=
      List.mem_filter.mpr ⟨stored, by simpa using own⟩
    have distinct := db.toolRequests.nodup_rows.filter (fun row => decide (row.agentRunId = run))
    have added : (db.toolRequestsOf run).filterMap (fun row => claims.find? row.actionId) =
        (db.toolRequestsOf run).filterMap (fun row => db.claims.find? row.actionId) ++
          (claims.find? request.actionId).toList := by
      refine filterMap_sortOn_given listed distinct ?_ ?_ ?_
      · intro other member different
        exact others other (List.mem_of_mem_filter member) different
      · rw [key]
        exact fresh
      · intro other member different claimed
        obtain ⟨held, of_run⟩ := List.mem_filter.mp member
        exact last other held ((by simpa using of_run : other.agentRunId = run).trans own.symm)
          different claimed
    show (db.toolRequestsOf run).filterMap (fun row => claims.find? row.actionId) = _
    rw [added, key, found, if_pos rfl, if_pos own]
    rfl
  · rw [if_neg own, List.append_nil]
    apply List.filterMap_congr
    intro other member
    obtain ⟨held, of_run⟩ := List.mem_filter.mp (mem_sortOn.mp member)
    apply others other held
    rintro rfl
    exact own (by simpa using of_run)

end Claims

section Results

variable {result : HostedToolResultRow} {item : HostedSectionRow} {request : HostedToolRequestRow}
  {toolResults : Table (fun row : HostedToolResultRow => row.result.actionId)}
  {sections : Table (fun row : HostedSectionRow => row.sectionId)}

/-- A new result with its section is the last of its run, when no other section has its source and
its section does not have the source of another result. -/
theorem toolResultsOf_insert (ended : db.toolResults.insert? result = some toolResults)
    (inserted : db.sections.insert? item = some sections)
    (requested : db.toolRequests.find? result.result.actionId = some request)
    (last : ∀ other ∈ db.toolRequests.rows, other.agentRunId = request.agentRunId →
      other ≠ request → db.toolResults.find? other.actionId ≠ none → other.order < request.order)
    (source : item.sourceDigest = result.result.referenceDigest sha)
    (unsourced : Unsourced sha db item.sourceDigest)
    (unused : ∀ other ∈ db.sections.rows,
      other.sourceDigest ≠ result.result.referenceDigest sha) (run : Uuid) :
    ({ db with toolResults := toolResults, sections := sections } : CellEvidence).toolResultsOf
        sha run =
      db.toolResultsOf sha run ++
        if request.agentRunId = run then [result.completedWith sha item] else [] := by
  obtain ⟨stored, key⟩ := (db.toolRequests.find?_eq_some _ request).mp requested
  have fresh := Table.absent_of_insert? ended
  have found := Table.find?_of_insert? ended
  let next : CellEvidence := { db with toolResults := toolResults, sections := sections }
  have others : ∀ other ∈ db.toolRequests.rows, other ≠ request →
      next.resultsAt sha other = db.resultsAt sha other := by
    intro other member different
    have same : toolResults.find? other.actionId = db.toolResults.find? other.actionId := by
      rw [found, if_neg]
      intro equal
      exact different (db.toolRequests.eq_of_key member stored (equal.symm.trans key.symm))
    rw [← resultsAt_insertSection inserted unsourced other]
    show (match toolResults.find? other.actionId with
      | none => []
      | some result => _) = _
    rw [same]
    rfl
  have given : next.resultsAt sha request = [result.completedWith sha item] := by
    have here : toolResults.find? request.actionId = some result := by
      rw [key, found, if_pos rfl]
    have none_before : db.sections.rows.filter (fun other =>
        other.sourceDigest = result.result.referenceDigest sha) = [] := by
      rw [List.filter_eq_nil_iff]
      intro other member
      simpa using unused other member
    rw [show next.resultsAt sha request = _ from resultsAt_of_some here]
    simp [next, Table.rows_of_insert? inserted, List.filter_append, none_before, source]
  have silent : db.resultsAt sha request = [] := by
    apply resultsAt_of_none
    rw [key]
    exact fresh
  show (db.toolRequestsOf run).flatMap (next.resultsAt sha) = _
  rw [toolResultsOf_eq]
  by_cases own : request.agentRunId = run
  · have listed : request ∈ db.toolRequests.rows.filter (fun row => row.agentRunId = run) :=
      List.mem_filter.mpr ⟨stored, by simpa using own⟩
    have distinct := db.toolRequests.nodup_rows.filter (fun row => decide (row.agentRunId = run))
    rw [if_pos own, ← given]
    refine flatMap_sortOn_given listed distinct ?_ silent ?_
    · intro other member different
      exact others other (List.mem_of_mem_filter member) different
    · intro other member different speaks
      obtain ⟨held, of_run⟩ := List.mem_filter.mp member
      refine last other held ((by simpa using of_run : other.agentRunId = run).trans own.symm)
        different ?_
      intro absent
      exact speaks (resultsAt_of_none absent)
  · rw [if_neg own, List.append_nil]
    apply List.flatMap_congr
    intro other member
    obtain ⟨held, of_run⟩ := List.mem_filter.mp (mem_sortOn.mp member)
    apply others other held
    rintro rfl
    exact own (by simpa using of_run)

end Results

section Revisions

/-- A checkpoint of a revision that no earlier one has come to is the last of its run. -/
theorem checkpointsOf_insert {checkpoint : HostedCheckpointRow}
    {checkpoints : Table (fun row : HostedCheckpointRow => row.checkpoint.checkpointId)}
    (inserted : db.checkpoints.insert? checkpoint = some checkpoints)
    (behind : ∀ other ∈ db.checkpoints.rows, other.agentRunId = checkpoint.agentRunId →
      other.cellRevision ≤ checkpoint.cellRevision) (run : Uuid) :
    ({ db with checkpoints := checkpoints } : CellEvidence).checkpointsOf run =
      db.checkpointsOf run ++ if checkpoint.agentRunId = run then [checkpoint] else [] := by
  show sortOn _ (checkpoints.rows.filter _) = _
  rw [Table.rows_of_insert? inserted]
  apply sortOn_filter_concat
  intro own other member of_run
  exact behind other member (of_run.trans own.symm)

/-- So is a rehydration. -/
theorem rehydrationsOf_insert {rehydration : HostedRehydrationRow}
    {rehydrations : Table (fun row : HostedRehydrationRow => row.rehydrationId)}
    (inserted : db.rehydrations.insert? rehydration = some rehydrations)
    (behind : ∀ other ∈ db.rehydrations.rows, other.agentRunId = rehydration.agentRunId →
      other.cellRevision ≤ rehydration.cellRevision) (run : Uuid) :
    ({ db with rehydrations := rehydrations } : CellEvidence).rehydrationsOf run =
      db.rehydrationsOf run ++ if rehydration.agentRunId = run then [rehydration] else [] := by
  show sortOn _ (rehydrations.rows.filter _) = _
  rw [Table.rows_of_insert? inserted]
  apply sortOn_filter_concat
  intro own other member of_run
  exact behind other member (of_run.trans own.symm)

/-- The intent of a run that has none is the last of its run. -/
theorem intentsOf_insert {intent : HostedIntentRow}
    {intents : Table (fun row : HostedIntentRow => row.candidateRunId)}
    (inserted : db.intents.insert? intent = some intents)
    (first : ∀ other ∈ db.intents.rows, other.agentRunId ≠ intent.agentRunId) (run : Uuid) :
    ({ db with intents := intents } : CellEvidence).intentsOf run =
      db.intentsOf run ++ if intent.agentRunId = run then [intent] else [] := by
  show sortOn _ (intents.rows.filter _) = _
  rw [Table.rows_of_insert? inserted]
  apply sortOn_filter_concat
  intro own other member of_run
  exact absurd (of_run.trans own.symm) (first other member)

/-- So is the completion of a run that has none. -/
theorem completionsOf_insert {completion : HostedCompletionRow}
    {completions : Table (fun row : HostedCompletionRow => row.candidateRunId)}
    (inserted : db.completions.insert? completion = some completions)
    (first : ∀ other ∈ db.completions.rows, other.agentRunId ≠ completion.agentRunId)
    (run : Uuid) :
    ({ db with completions := completions } : CellEvidence).completionsOf run =
      db.completionsOf run ++ if completion.agentRunId = run then [completion] else [] := by
  show sortOn _ (completions.rows.filter _) = _
  rw [Table.rows_of_insert? inserted]
  apply sortOn_filter_concat
  intro own other member of_run
  exact absurd (of_run.trans own.symm) (first other member)

/-- The completions of a run that has one. -/
theorem completionsOf_eq {completion : HostedCompletionRow}
    (stored : completion ∈ db.completions.rows)
    (once : ∀ other ∈ db.completions.rows, other.agentRunId = completion.agentRunId →
      other = completion) : db.completionsOf completion.agentRunId = [completion] := by
  have alone : db.completions.rows.filter (fun row => row.agentRunId = completion.agentRunId) =
      [completion] := by
    have distinct := db.completions.nodup_rows.filter
      (fun row => decide (row.agentRunId = completion.agentRunId))
    apply List.Perm.eq_singleton
    rw [List.perm_ext_iff_of_nodup distinct (List.nodup_singleton completion)]
    intro other
    rw [List.mem_filter, List.mem_singleton]
    constructor
    · rintro ⟨member, of_run⟩
      exact once other member (by simpa using of_run)
    · rintro rfl
      exact ⟨stored, by simp⟩
  rw [completionsOf, alone]
  rfl

end Revisions

end CellEvidence

end Macr
