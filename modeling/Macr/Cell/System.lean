import Macr.Cell.Context
import Macr.Cell.Effects
import Macr.Semantic.System

/-!
# The hosted cell system

The cell store shares its database with the agent system. Any number of callers use both; each
call of the cell store is one transaction, and so one action. Beside the store its callers write
blobs, and the envelopes of contexts are saved, cleared and lost.
-/

namespace Macr

open Lib

/-- What the agent system and the cell store take from outside. -/
structure HostedKernel extends SemanticKernel, CellKernel

/-- The calls of the cell store, with what their caller supplies. -/
inductive CellCall where
  /-- `HostedAgentBlobStore.write`. -/
  | writeBlob (run : Uuid) (role : HostedBlobRole) (content : BlobContent)
  /-- `attach`. -/
  | attach (permit : AgentOwnershipPermit) (policy : HostedAgentCellPolicy)
      (request : SemanticContextRequest) (items : List HostedContextSection) (eventId : Uuid)
  /-- `append_context_section`. -/
  | appendContextSection (permit : AgentOwnershipPermit) (item : HostedContextSection)
      (eventId : Uuid)
  /-- `mark_pending_reconciliation`. -/
  | markPendingReconciliation (permit : AgentOwnershipPermit) (eventId : Uuid)
  /-- `begin_model_attempt`. -/
  | beginModelAttempt (permit : AgentOwnershipPermit) (request : HostedModelRequest)
      (eventId : Uuid)
  /-- `finish_model_success`. -/
  | finishModelSuccess (permit : AgentOwnershipPermit) (result : HostedModelResult)
      (rawBlob decisionBlob : HostedBlobRef) (eventId : Uuid)
  /-- `finish_model_failure`. -/
  | finishModelFailure (permit : AgentOwnershipPermit) (invocation : Uuid)
      (failure : CellTables.ModelFailure) (rawBlob : Option HostedBlobRef) (eventId : Uuid)
  /-- `begin_tool`. -/
  | beginTool (permit : AgentOwnershipPermit) (stepIndex : Nat) (request : HostedToolRequest)
      (argumentsBlob : HostedBlobRef) (proposal : ActionProposal) (admission : ActionAdmission)
      (eventId : Uuid)
  /-- `claim_tool_execution`. -/
  | claimToolExecution (permit : AgentOwnershipPermit) (actionId : Uuid)
      (admissionDigest semanticProjectionDigest : Digest) (eventId : Uuid)
  /-- `record_tool_denial`. -/
  | recordToolDenial (permit : AgentOwnershipPermit) (stepIndex : Nat)
      (request : HostedToolRequest) (argumentsBlob : HostedBlobRef) (reasonCode : String)
      (reasonDigest : Digest) (context : HostedContextSection) (contextBlob : HostedBlobRef)
      (eventId : Uuid)
  /-- `finish_tool`. -/
  | finishTool (permit : AgentOwnershipPermit) (result : HostedToolResultRef)
      (resultBlob : Option HostedBlobRef) (context : HostedContextSection)
      (contextBlob : HostedBlobRef) (durationMs : Nat) (eventId : Uuid)
  /-- `create_checkpoint`. -/
  | createCheckpoint (permit : AgentOwnershipPermit) (checkpoint : AgentCheckpoint)
      (eventId : Uuid)
  /-- `rehydrate`. -/
  | rehydrate (permit : AgentOwnershipPermit) (selected : Digest) (rehydrationId eventId : Uuid)
  /-- `create_completion_intent`. -/
  | createCompletionIntent (permit : AgentOwnershipPermit) (candidateRunId : Uuid)
      (decision : HostedModelDecision) (eventId : Uuid)
  /-- `prepare_completion`. -/
  | prepareCompletion (permit : AgentOwnershipPermit) (candidateRunId : Uuid)
      (capture : CandidateCapture) (decision : HostedModelDecision)
      (evidenceRefs : List EvidenceRef) (eventId : Uuid)
  /-- `finalize_completion`. -/
  | finalizeCompletion (run eventId : Uuid)
  /-- `save_context_envelope`. -/
  | saveContextEnvelope (permit : AgentOwnershipPermit) (inputs : ContextInputs)
      (document : HostedContextDocument) (createdAt : Timestamp)
  /-- `clear_context_cache`. -/
  | clearContextCache (run : Uuid)

/-- The agent system with the tables and files of its cells. -/
structure HostedSystem where
  /-- The agent system. -/
  agents : AgentSystem
  /-- The cell store. -/
  cell : CellTables

/-- The actions of the callers. -/
inductive HostedAction where
  /-- An action on the agent system. -/
  | agent (action : AgentAction)
  /-- A call of the cell store. -/
  | cell (caller : CellCaller) (call : CellCall)

namespace CellTables

/-- The state a transaction leaves; a call that raises leaves the one it met. -/
def committed {α : Type} (db : CellTables) : Except MacrError (CellTables × α) → CellTables
  | .ok result => result.1
  | .error _ => db

/-- The state a call leaves. -/
def perform (kernel : CellKernel) (agents : AgentTables) (caller : CellCaller) (db : CellTables) :
    CellCall → CellTables
  | .writeBlob run role content => db.committed (db.writeBlob kernel run role content)
  | .attach permit policy request items eventId =>
    db.committed (attach kernel agents caller db permit policy request items eventId)
  | .appendContextSection permit item eventId =>
    db.committed (appendContextSection kernel agents caller db permit item eventId)
  | .markPendingReconciliation permit eventId =>
    db.committed (markPendingReconciliation kernel agents caller db permit eventId)
  | .beginModelAttempt permit request eventId =>
    db.committed (beginModelAttempt kernel agents caller db permit request eventId)
  | .finishModelSuccess permit result rawBlob decisionBlob eventId =>
    db.committed (finishModelSuccess kernel agents caller db permit result rawBlob decisionBlob
      eventId)
  | .finishModelFailure permit invocation failure rawBlob eventId =>
    db.committed (finishModelFailure kernel agents caller db permit invocation failure rawBlob
      eventId)
  | .beginTool permit stepIndex request argumentsBlob proposal admission eventId =>
    db.committed (beginTool kernel agents caller db permit stepIndex request argumentsBlob proposal
      admission eventId)
  | .claimToolExecution permit actionId admissionDigest semanticProjectionDigest eventId =>
    db.committed (claimToolExecution kernel agents caller db permit actionId admissionDigest
      semanticProjectionDigest eventId)
  | .recordToolDenial permit stepIndex request argumentsBlob reasonCode reasonDigest context
      contextBlob eventId =>
    db.committed (recordToolDenial kernel agents caller db permit stepIndex request argumentsBlob
      reasonCode reasonDigest context contextBlob eventId)
  | .finishTool permit result resultBlob context contextBlob durationMs eventId =>
    db.committed (finishTool kernel agents caller db permit result resultBlob context contextBlob
      durationMs eventId)
  | .createCheckpoint permit checkpoint eventId =>
    db.committed (createCheckpoint kernel agents caller db permit checkpoint eventId)
  | .rehydrate permit selected rehydrationId eventId =>
    db.committed (rehydrate kernel agents caller db permit selected rehydrationId eventId)
  | .createCompletionIntent permit candidateRunId decision eventId =>
    db.committed (createCompletionIntent kernel agents caller db permit candidateRunId decision
      eventId)
  | .prepareCompletion permit candidateRunId capture decision evidenceRefs eventId =>
    db.committed (prepareCompletion kernel agents caller db permit candidateRunId capture decision
      evidenceRefs eventId)
  | .finalizeCompletion run eventId =>
    db.committed (finalizeCompletion kernel agents caller db run eventId)
  | .saveContextEnvelope permit inputs document createdAt =>
    db.committed (saveContextEnvelope kernel agents caller db permit inputs document createdAt)
  | .clearContextCache run => db.clearContextCache run

/-- What every committed result of a call has holds of the state the call leaves. -/
theorem committed_rule {α : Type} {db : CellTables} {result : Except MacrError (CellTables × α)}
    {holds : CellTables → Prop} (raised : holds db)
    (returned : ∀ after value, result = .ok (after, value) → holds after) :
    holds (db.committed result) := by
  cases result with
  | error raised_error => exact raised
  | ok both => exact returned both.1 both.2 rfl

end CellTables

namespace HostedSystem

/-- A new system. -/
def initial : HostedSystem := ⟨.initial, .initial⟩

/-- One action. -/
def step (kernel : HostedKernel) (system : HostedSystem) : HostedAction → HostedSystem
  | .agent action => ⟨system.agents.step kernel.toSemanticKernel action, system.cell⟩
  | .cell caller call => ⟨system.agents,
      system.cell.perform kernel.toCellKernel system.agents.db.agent caller call⟩

/-- The hosted cell system as a machine. -/
def machine (kernel : HostedKernel) : Machine HostedSystem HostedAction := ⟨step kernel⟩

end HostedSystem

end Macr
