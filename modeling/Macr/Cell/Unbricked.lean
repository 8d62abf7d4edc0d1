import Macr.Cell.Attachment
import Macr.Cell.Rehydration

/-!
# Cells that no operation makes unreadable

The store accepts calls whose rows do not come in the order that reading a cell asks for: a denied
tool may have a smaller identifier than one denied before it in the same step, and a section may name
the result of another tool, of any run, as its source. Where every call comes in order, each cell
can be read in every state; two denials in the wrong order make a cell unreadable.
-/

namespace Macr

open Lib

/-- What makes the rows of a call come in order. -/
def CellCall.InOrder (sha : Sha256) (db : CellEvidence) : CellCall → Prop
  | .attach _ _ _ items _ => ∀ item ∈ items, Unsourced sha db item.sourceDigest
  | .appendContextSection _ item _ => Unsourced sha db item.sourceDigest
  | .beginTool permit stepIndex request _ _ _ _ =>
    ∀ other ∈ db.toolRequests.rows, other.agentRunId = permit.agentRunId →
      other.stepIndex = stepIndex → other.admitted? sha ≠ none → other.actionId < request.requestId
  | .recordToolDenial permit stepIndex request _ _ _ context _ _ =>
    Unsourced sha db context.sourceDigest ∧
      ∀ other ∈ db.toolRequests.rows, other.agentRunId = permit.agentRunId →
        other.stepIndex = stepIndex → other.denied? ≠ none → other.actionId < request.requestId
  | .finishTool permit result _ context _ _ _ =>
    context.agentRunId = permit.agentRunId ∧ Unsourced sha db context.sourceDigest ∧
      ∀ item ∈ db.sections.rows, item.sourceDigest ≠ result.referenceDigest sha
  | _ => True

instance (sha : Sha256) (db : CellEvidence) (sourceDigest : Digest) :
    Decidable (Unsourced sha db sourceDigest) :=
  inferInstanceAs (Decidable (∀ stored ∈ db.toolResults.rows, _))

instance (sha : Sha256) (db : CellEvidence) (call : CellCall) :
    Decidable (call.InOrder sha db) := by
  cases call <;> unfold CellCall.InOrder <;> infer_instance

/-- Every cell can be read, and the evidence is laid out. -/
structure Accepted (sha : Sha256) (db : CellTables) : Prop where
  /-- The cells can be read. -/
  readable : AllReadable sha db
  /-- The evidence is laid out. -/
  laid : EvidenceLaid sha db

section Order

variable {kernel : CellKernel} {before after : CellTables} {row : HostedCellRow}
  {next : HostedAgentCellState} {body : CellEventBody}

/-- What is said of the cells, the events and the evidence stays where they do. -/
theorem Accepted.untouched {sha : Sha256} (accepted : Accepted sha before)
    (untouched : Untouched before after) : Accepted sha after := by
  obtain ⟨evidence, cells, events⟩ := untouched
  obtain ⟨readable, laid⟩ := accepted
  cases before
  cases after
  simp only at evidence cells events
  subst evidence cells events
  constructor
  · intro row stored
    have held := readable row stored
    exact ⟨held.stored, held.digest, held.replayed, held.agree, held.attached⟩
  · exact {
      sectionRun := laid.sectionRun
      eventRun := laid.eventRun
      dispatchRun := laid.dispatchRun
      dispatchStep := laid.dispatchStep
      dispatchOpen := laid.dispatchOpen
      terminalOf := laid.terminalOf
      requestRun := laid.requestRun
      requestOpen := laid.requestOpen
      claimOf := laid.claimOf
      resultOf := laid.resultOf
      checkpointRun := laid.checkpointRun
      rehydrationRun := laid.rehydrationRun
      intentRun := laid.intentRun
      completionRun := laid.completionRun
      completionOnce := laid.completionOnce
      completing := laid.completing }

/-- A cell that moves with its rows in order is accepted with the others. -/
theorem Accepted.moved (accepted : Accepted kernel.sha before)
    (moved : CellMoved kernel before after row next body)
    (change : CellChange kernel before.toCellEvidence after.toCellEvidence row body)
    (order : InOrder kernel.sha before.toCellEvidence after.toCellEvidence) :
    Accepted kernel.sha after :=
  ⟨accepted.readable.kept accepted.laid moved order change,
    accepted.laid.kept moved order change⟩

/-- A cell that is attached is accepted with the others. -/
theorem Accepted.attached {policy : HostedAgentCellPolicy} {request : SemanticContextRequest}
    {now : Timestamp} {items : List HostedSectionRow} (accepted : Accepted kernel.sha before)
    (attachment : CellAttachment kernel before after policy request now items)
    (unsourced : ∀ item ∈ items, Unsourced kernel.sha before.toCellEvidence item.sourceDigest) :
    Accepted kernel.sha after :=
  ⟨accepted.readable.attached accepted.laid attachment unsourced,
    accepted.laid.attached attachment⟩

/-- A table that is the same has no new row. -/
theorem no_new_row {α κ : Type} {key : α → κ} {before after : Table key} (same : after = before) :
    ∀ row ∈ after.rows, row ∉ before.rows → False := by
  intro row member fresh
  rw [same] at member
  exact fresh member

/-- A row that is new in a table with one row more is that row. -/
theorem new_row {α κ : Type} {key : α → κ} {before after : Table key} {added : α}
    (rows : after.rows = before.rows ++ [added]) :
    ∀ row ∈ after.rows, row ∉ before.rows → row = added := by
  intro row member fresh
  rw [rows] at member
  rcases List.mem_append.mp member with held | new
  · exact absurd held fresh
  · exact List.mem_singleton.mp new

/-- An event that adds neither a section nor an admission comes in order. -/
theorem CellChange.inOrder_of_quiet {before after : CellEvidence}
    (change : CellChange kernel before after row body) (no_section : body.sectionDigests = [])
    (no_admission : body.toolAdmitted? = none) : InOrder kernel.sha before after := by
  have no_denial : body.toolDenied? = none := by cases body <;> simp_all
  have no_result : body.toolCompleted? = none := by cases body <;> simp_all
  have sections := no_new_row (change.same_sections no_section)
  have results := no_new_row (change.same_results no_result)
  have requests := no_new_row (change.same_requests no_admission no_denial)
  exact {
    unsourced := fun item member fresh => (sections item member fresh).elim
    unused := fun result member fresh => (results result member fresh).elim
    sameRun := fun result member fresh => (results result member fresh).elim
    admitted := fun request member fresh => (requests request member fresh).elim
    denied := fun request member fresh => (requests request member fresh).elim }

/-- An appended section comes in order when it is not said to come from a stored result. -/
theorem CellChange.inOrder_of_section {before after : CellEvidence} {item : HostedSectionRow}
    {digest : Digest} (change : CellChange kernel before after row (.contextAppended digest))
    (rows : after.sections.rows = before.sections.rows ++ [item])
    (unsourced : Unsourced kernel.sha before item.sourceDigest) :
    InOrder kernel.sha before after := by
  have results := no_new_row (change.same_results rfl)
  have requests := no_new_row (change.same_requests rfl rfl)
  refine ⟨?_, fun result member fresh => (results result member fresh).elim,
    fun result member fresh => (results result member fresh).elim,
    fun request member fresh => (requests request member fresh).elim,
    fun request member fresh => (requests request member fresh).elim⟩
  intro other member fresh
  rw [new_row rows other member fresh]
  exact unsourced

/-- An admission comes in order when it comes behind those of its step. -/
theorem CellChange.inOrder_of_admission {before after : CellEvidence}
    {request : HostedToolRequestRow} {payload : ToolAdmitted}
    (change : CellChange kernel before after row (.toolAdmitted payload))
    (rows : after.toolRequests.rows = before.toolRequests.rows ++ [request])
    (silent : request.denied? = none)
    (behind : ∀ other ∈ before.toolRequests.rows, other.agentRunId = request.agentRunId →
      other.stepIndex = request.stepIndex → other.admitted? kernel.sha ≠ none →
        other.actionId < request.actionId) : InOrder kernel.sha before after := by
  have sections := no_new_row (change.same_sections rfl)
  have results := no_new_row (change.same_results rfl)
  refine ⟨fun item member fresh => (sections item member fresh).elim,
    fun result member fresh => (results result member fresh).elim,
    fun result member fresh => (results result member fresh).elim, ?_, ?_⟩
  · intro added member fresh other held same step _ speaks
    rw [new_row rows added member fresh] at same step ⊢
    exact behind other held same step speaks
  · intro added member fresh other held same step speaks
    rw [new_row rows added member fresh] at speaks
    exact absurd silent speaks

/-- A denial comes in order when it comes behind those of its step, and its section is not said to
come from a stored result. -/
theorem CellChange.inOrder_of_denial {before after : CellEvidence}
    {request : HostedToolRequestRow} {item : HostedSectionRow} {payload : ToolDenied}
    (change : CellChange kernel before after row (.toolDenied payload))
    (rows : after.toolRequests.rows = before.toolRequests.rows ++ [request])
    (sections : after.sections.rows = before.sections.rows ++ [item])
    (silent : request.admitted? kernel.sha = none)
    (unsourced : Unsourced kernel.sha before item.sourceDigest)
    (behind : ∀ other ∈ before.toolRequests.rows, other.agentRunId = request.agentRunId →
      other.stepIndex = request.stepIndex → other.denied? ≠ none →
        other.actionId < request.actionId) : InOrder kernel.sha before after := by
  have results := no_new_row (change.same_results rfl)
  refine ⟨?_, fun result member fresh => (results result member fresh).elim,
    fun result member fresh => (results result member fresh).elim, ?_, ?_⟩
  · intro other member fresh
    rw [new_row sections other member fresh]
    exact unsourced
  · intro added member fresh other held same step speaks
    rw [new_row rows added member fresh] at speaks
    exact absurd silent speaks
  · intro added member fresh other held same step _ speaks
    rw [new_row rows added member fresh] at same step ⊢
    exact behind other held same step speaks

/-- A result comes in order when its section is of its run, no section has its source, and its
section does not have that of a stored result. -/
theorem CellChange.inOrder_of_result {before after : CellEvidence} {result : HostedToolResultRow}
    {item : HostedSectionRow} {payload : ToolCompleted}
    (change : CellChange kernel before after row (.toolCompleted payload))
    (rows : after.toolResults.rows = before.toolResults.rows ++ [result])
    (sections : after.sections.rows = before.sections.rows ++ [item])
    (of_run : item.agentRunId = row.state.agentRunId)
    (unsourced : Unsourced kernel.sha before item.sourceDigest)
    (unused : ∀ other ∈ before.sections.rows,
      other.sourceDigest ≠ result.result.referenceDigest kernel.sha) :
    InOrder kernel.sha before after := by
  have requests := no_new_row (change.same_requests rfl rfl)
  refine ⟨?_, ?_, ?_, fun request member fresh => (requests request member fresh).elim,
    fun request member fresh => (requests request member fresh).elim⟩
  · intro other member fresh
    rw [new_row sections other member fresh]
    exact unsourced
  · intro added member fresh other held
    rw [new_row rows added member fresh]
    exact unused other held
  · intro added member fresh other held new request requested
    rw [new_row sections other held new, of_run]
    rw [new_row rows added member fresh] at requested
    rcases change.tools with ⟨_, _, same⟩ | ⟨_, _, _, same, _⟩ | ⟨_, _, _, _, same, _⟩ |
        ⟨ended, found, inserted, _, _, lookup, run, _⟩
    · exact (no_new_row same added member fresh).elim
    · exact (no_new_row same added member fresh).elim
    · exact (no_new_row same added member fresh).elim
    · have same : ended = result := by
        apply new_row rows ended
        · rw [Table.rows_of_insert? inserted]
          exact List.mem_append_right _ (List.mem_singleton.mpr rfl)
        · exact Table.not_mem_of_insert? inserted
      rw [same, requested] at lookup
      rw [← run, Option.some.inj lookup]

/-- An event that adds no section and no admission leaves all cells accepted. -/
theorem Accepted.moved_quiet (accepted : Accepted kernel.sha before)
    (moved : CellMoved kernel before after row next body)
    (change : CellChange kernel before.toCellEvidence after.toCellEvidence row body)
    (no_section : body.sectionDigests = []) (no_admission : body.toolAdmitted? = none) :
    Accepted kernel.sha after :=
  accepted.moved moved change (change.inOrder_of_quiet no_section no_admission)

end Order

/-! ## Every operation -/

namespace CellTables

variable {kernel : CellKernel} {db : CellTables}

/-- Saving an envelope changes the cache and the metadata alone. -/
theorem untouched_of_saveContextEnvelope {agents : AgentTables} {caller : CellCaller}
    {permit : AgentOwnershipPermit} {inputs : ContextInputs} {document : HostedContextDocument}
    {createdAt : Timestamp} {after : CellTables} {answer : Except MacrError HostedBlobRef}
    (ok : saveContextEnvelope kernel agents caller db permit inputs document createdAt =
      .ok (after, answer)) : Untouched db after := by
  simp only [saveContextEnvelope, bind_eq_ok, Prod.exists] at ok
  obtain ⟨mid, blob, file, ended⟩ := ok
  have written := written_of_writeBlob (untouched_self db) file
  rcases settled_eq_ok ended with ⟨value, saved, _⟩ | rfl
  · simp only [saveEnvelope, bind_eq_ok, raiseIf_eq_ok, exists_const] at saved
    obtain ⟨_, _, _, _, _, _, _, _, _, last, registered, saved⟩ := saved
    have whole := written_of_registerBlob written registered
    split at saved
    · simp only [bind_eq_ok, require_eq_ok, pure_eq_ok, Prod.mk.injEq] at saved
      obtain ⟨envelopes, _, rfl, _⟩ := saved
      exact ⟨whole.evidence, whole.cells, whole.events⟩
    · simp only [bind_eq_ok, raiseIf_eq_ok, exists_const, pure_eq_ok, Prod.mk.injEq] at saved
      obtain ⟨_, rfl, _⟩ := saved
      exact whole
  · exact written

/-- A call whose rows come in order leaves all cells accepted. -/
theorem accepted_of_perform (agents : AgentTables) (caller : CellCaller) {call : CellCall}
    (accepted : Accepted kernel.sha db) (order : call.InOrder kernel.sha db.toCellEvidence) :
    Accepted kernel.sha (db.perform kernel agents caller call) := by
  cases call with
  | writeBlob run role content =>
    refine committed_rule accepted fun after blob ok => ?_
    exact accepted.untouched (written_of_writeBlob (untouched_self db) ok)
  | attach permit policy request items eventId =>
    refine committed_rule accepted fun after answer ok => ?_
    rcases effect_of_attach ok with untouched | ⟨rows, attachment, sources⟩
    · exact accepted.untouched untouched
    · apply accepted.attached attachment
      intro row member
      have listed : row.sourceDigest ∈ items.map (·.sourceDigest) := by
        rw [← sources]
        exact List.mem_map.mpr ⟨row, member, rfl⟩
      obtain ⟨item, held, same⟩ := List.mem_map.mp listed
      rw [← same]
      exact order item held
  | appendContextSection permit item eventId =>
    refine committed_rule accepted fun after answer ok => ?_
    rcases effect_of_appendContextSection ok with untouched | ⟨row, next, moved, change, blob, rows⟩
    · exact accepted.untouched untouched
    · exact accepted.moved moved change (change.inOrder_of_section rows order)
  | markPendingReconciliation permit eventId =>
    refine committed_rule accepted fun after answer ok => ?_
    rcases effect_of_markPendingReconciliation ok with ⟨same, _⟩ | ⟨row, next, _, _, moved, change⟩
    · exact same ▸ accepted
    · exact accepted.moved_quiet moved change rfl rfl
  | beginModelAttempt permit request eventId =>
    refine committed_rule accepted fun after answer ok => ?_
    obtain ⟨row, moved, change, _⟩ := effect_of_beginModelAttempt ok
    exact accepted.moved_quiet moved change rfl rfl
  | finishModelSuccess permit result rawBlob decisionBlob eventId =>
    refine committed_rule accepted fun after answer ok => ?_
    rcases effect_of_finishModelSuccess ok with ⟨same, _⟩ | ⟨row, moved, change, _⟩
    · exact same ▸ accepted
    · exact accepted.moved_quiet moved change rfl rfl
  | finishModelFailure permit invocation failure rawBlob eventId =>
    refine committed_rule accepted fun after answer ok => ?_
    obtain ⟨row, moved, change, _⟩ := effect_of_finishModelFailure ok
    exact accepted.moved_quiet moved change rfl rfl
  | beginTool permit stepIndex request argumentsBlob proposal admission eventId =>
    refine committed_rule accepted fun after answer ok => ?_
    obtain ⟨row, moved, change, rows⟩ := effect_of_beginTool ok
    exact accepted.moved moved change (change.inOrder_of_admission rows rfl order)
  | claimToolExecution permit actionId admissionDigest semanticProjectionDigest eventId =>
    refine committed_rule accepted fun after answer ok => ?_
    obtain ⟨row, _, moved, change, _⟩ := effect_of_claimToolExecution ok
    exact accepted.moved_quiet moved change rfl rfl
  | recordToolDenial permit stepIndex request argumentsBlob reasonCode reasonDigest context
      contextBlob eventId =>
    refine committed_rule accepted fun after answer ok => ?_
    obtain ⟨row, moved, change, rows, sections⟩ := effect_of_recordToolDenial ok
    exact accepted.moved moved change
      (change.inOrder_of_denial rows sections rfl order.1 order.2)
  | finishTool permit result resultBlob context contextBlob durationMs eventId =>
    refine committed_rule accepted fun after answer ok => ?_
    obtain ⟨row, of_run, moved, change, rows, sections⟩ := effect_of_finishTool ok
    exact accepted.moved moved change (change.inOrder_of_result rows sections
      (order.1.trans of_run.symm) order.2.1 order.2.2)
  | createCheckpoint permit checkpoint eventId =>
    refine committed_rule accepted fun after answer ok => ?_
    rcases effect_of_createCheckpoint ok with ⟨same, _⟩ | ⟨row, stored, _, moved, change, _⟩
    · exact same ▸ accepted
    · exact accepted.moved_quiet moved change rfl rfl
  | rehydrate permit selected rehydrationId eventId =>
    refine committed_rule accepted fun after answer ok => ?_
    obtain ⟨row, rehydration, _, _, _, moved, change⟩ := effect_of_rehydrate ok
    exact accepted.moved_quiet moved change rfl rfl
  | createCompletionIntent permit candidateRunId decision eventId =>
    refine committed_rule accepted fun after answer ok => ?_
    rcases effect_of_createCompletionIntent ok with same | ⟨row, next, intent, _, moved, change, _⟩
    · exact same ▸ accepted
    · exact accepted.moved_quiet moved change rfl rfl
  | prepareCompletion permit candidateRunId capture decision evidenceRefs eventId =>
    refine committed_rule accepted fun after answer ok => ?_
    obtain ⟨row, completion, _, moved, change, _⟩ := effect_of_prepareCompletion ok
    exact accepted.moved_quiet moved change rfl rfl
  | finalizeCompletion run eventId =>
    refine committed_rule accepted fun after answer ok => ?_
    rcases effect_of_finalizeCompletion ok with same | ⟨row, final, _, moved, change⟩
    · exact same ▸ accepted
    · exact accepted.moved_quiet moved change rfl rfl
  | saveContextEnvelope permit inputs document createdAt =>
    refine committed_rule accepted fun after answer ok => ?_
    exact accepted.untouched (untouched_of_saveContextEnvelope ok)
  | clearContextCache run => exact accepted.untouched ⟨rfl, rfl, rfl⟩

end CellTables

/-! ## Every run -/

/-- Everything holds of the rows of an empty table. -/
theorem of_mem_empty {α κ : Type} {key : α → κ} {holds : α → Prop} :
    ∀ row ∈ (Table.empty : Table key).rows, holds row :=
  fun _ member => absurd member List.not_mem_nil

/-- A new database has no cell. -/
theorem accepted_initial (sha : Sha256) : Accepted sha CellTables.initial where
  readable := of_mem_empty
  laid := {
    sectionRun := of_mem_empty
    eventRun := of_mem_empty
    dispatchRun := of_mem_empty
    dispatchStep := of_mem_empty
    dispatchOpen := of_mem_empty
    terminalOf := of_mem_empty
    requestRun := of_mem_empty
    requestOpen := of_mem_empty
    claimOf := of_mem_empty
    resultOf := of_mem_empty
    checkpointRun := of_mem_empty
    rehydrationRun := of_mem_empty
    intentRun := of_mem_empty
    completionRun := of_mem_empty
    completionOnce := of_mem_empty
    completing := of_mem_empty }

/-- Every cell of a state is accepted by `_cell_row`. -/
def CellsAccepted (sha : Sha256) (db : CellTables) : Prop :=
  ∀ run row, db.cells.find? run = some row → db.cellRow sha run = .ok row

/-- `_cell_row` accepts the cells that can be read. -/
theorem cellsAccepted_of_accepted {sha : Sha256} {db : CellTables} (accepted : Accepted sha db) :
    CellsAccepted sha db := by
  intro run row found
  obtain ⟨stored, rfl⟩ := (db.cells.find?_eq_some run row).mp found
  exact cellRow_eq_ok.mpr (accepted.readable row stored)

namespace HostedSystem

/-- An action comes in order. -/
def InOrder (kernel : HostedKernel) (system : HostedSystem) : HostedAction → Prop
  | .agent _ => True
  | .cell _ call => call.InOrder kernel.sha system.cell.toCellEvidence

instance (kernel : HostedKernel) (system : HostedSystem) (action : HostedAction) :
    Decidable (InOrder kernel system action) := by
  cases action <;> unfold InOrder <;> infer_instance

/-- The request of the first model call. -/
def sampleModelRequest : HostedModelRequest where
  providerInvocationId := 70
  agentRunId := 1
  agentRunEpoch := 1
  agentStateRevision := 5
  stepIndex := 1
  terms := samplePolicy.terms
  contextBlobRef := .hosted ⟨1, .projection, 0⟩
  contextDigest := 3
  contextBytes := 10
  policyDigest := samplePolicy.policyDigest foldDigest
  costCeilingUsd := 1
  positive := by decide
  nonneg := by decide +kernel

/-- A section about a denied tool. -/
def sampleDenial (request : Uuid) : HostedContextSection where
  sectionId := request
  agentRunId := 1
  kind := .toolDenial
  label := "denied"
  body := .text "denied"
  sourceRef := .text "tool"
  sourceDigest := 5
  createdAt := 8

/-- A tool is denied: its arguments and the section are written, and the denial is recorded. -/
def denyActions (request eventId : Uuid) : List HostedAction :=
  let context := sampleDenial request
  let blob := CellTables.blobRefOf sampleKernel.toCellKernel 1
  [.cell (sampleCaller 8) (.writeBlob 1 .toolArguments (.json .null)),
    .cell (sampleCaller 8) (.writeBlob 1 .context (.context context)),
    .cell (sampleCaller 8) (.recordToolDenial AgentSystem.samplePermit 1 ⟨request, "tool", .null⟩
      (blob .toolArguments (.json .null)) "denied" 5 context (blob .context (.context context))
      eventId)]

/-- A model is called, and a tool is denied. -/
def deniedActions : List HostedAction :=
  attachedActions ++
    [.cell (sampleCaller 8) (.beginModelAttempt AgentSystem.samplePermit sampleModelRequest 2)] ++
    denyActions 60 3

/-- The system in which a tool with a smaller identifier is denied after the first one. -/
def deniedTwice : HostedSystem := (machine sampleKernel).run initial (deniedActions ++ denyActions 50 4)

end HostedSystem

end Macr
