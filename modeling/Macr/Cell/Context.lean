import Macr.Cell.Store

/-!
# Context envelopes

What a model is shown at a step is saved under the digest of what it was made from. The saved
envelopes are a cache that can be cleared.
-/

namespace Macr

open Lib

/-- `SemanticContextProjection`, as far as an envelope uses it. -/
structure SemanticContextProjection where
  /-- The run. -/
  agentRunId : Uuid
  /-- `projection_digest`. -/
  projectionDigest : Digest
  /-- `to_public_dict`. -/
  publicDict : Json
deriving DecidableEq

/-- `HostedToolCatalog`: its digest, and the identifier and the document of each tool. -/
structure HostedToolCatalog where
  /-- `catalog_digest`. -/
  catalogDigest : Digest
  /-- `tools`. -/
  tools : List (String × Json)
deriving DecidableEq

/-- What an envelope is made from besides the sections. -/
structure ContextInputs where
  /-- `agent_run_epoch`. -/
  agentRunEpoch : Nat
  /-- `agent_state_revision`. -/
  agentStateRevision : Nat
  /-- The cell's projection, with the step and the counters used. -/
  state : HostedAgentCellState
  /-- `semantic_projection`. -/
  projection : SemanticContextProjection
  /-- The policy. -/
  policy : HostedAgentCellPolicy
  /-- The tools. -/
  catalog : HostedToolCatalog
  /-- `model_result_digests`. -/
  modelResultDigests : List Digest
  /-- `tool_result_digests`. -/
  toolResultDigests : List Digest

namespace CellTables

variable (kernel : CellKernel)

/-- The row `save_context_envelope` inserts. -/
def envelopeRow (inputs : ContextInputs) (document : HostedContextDocument) (blob : HostedBlobRef)
    (createdAt : Timestamp) : HostedEnvelopeRow where
  envelopeDigest := document.envelopeDigest
  agentRunId := inputs.state.agentRunId
  stepIndex := inputs.state.nextStep
  agentRunEpoch := inputs.agentRunEpoch
  agentStateRevision := inputs.agentStateRevision
  semanticProjectionDigest := inputs.projection.projectionDigest
  policyDigest := inputs.policy.policyDigest kernel.sha
  toolCatalogDigest := inputs.catalog.catalogDigest
  causalDigest := document.causalDigest
  blob := blob.toBlobKey
  byteCount := blob.byteCount
  createdAt := createdAt

/-- The transaction of `save_context_envelope`. The permit is checked at the given time. -/
def saveEnvelope (agents : AgentTables) (caller : CellCaller) (db : CellTables)
    (permit : AgentOwnershipPermit) (inputs : ContextInputs) (row : HostedEnvelopeRow)
    (blob : HostedBlobRef) : Except MacrError (CellTables × HostedBlobRef) := do
  let (projection, _) ← verifyPermit kernel agents permit row.createdAt
  let stored ← db.cellRow kernel.sha inputs.state.agentRunId
  let current ← stateFromRow kernel.sha stored
  raiseIf (current ≠ inputs.state ∨ projection.epoch ≠ row.agentRunEpoch ∨
      projection.stateRevision ≠ row.agentStateRevision ∨
      current.policyDigest ≠ row.policyDigest)
    (cellStateError "context envelope inputs changed")
  verifyAuthority caller projection current.policyDigest "context_projection"
  let db ← db.registerBlob kernel blob row.createdAt
  match db.envelopes.find? row.envelopeDigest with
  | none =>
    let envelopes ← require (db.envelopes.insert? row) .integrity
    pure ({ db with envelopes := envelopes }, blob)
  | some existing =>
    raiseIf (existing ≠ row) (cellStateError "context envelope identity conflicts")
    pure (db, blob)

/-- `save_context_envelope`, as the builder calls it. -/
def saveContextEnvelope (agents : AgentTables) (caller : CellCaller) (db : CellTables)
    (permit : AgentOwnershipPermit) (inputs : ContextInputs) (document : HostedContextDocument)
    (createdAt : Timestamp) : Except MacrError (Committed CellTables HostedBlobRef) := do
  let (db, blob) ← db.writeBlob kernel inputs.state.agentRunId .projection (.projection document)
  settled db (saveEnvelope kernel agents caller db permit inputs
    (envelopeRow kernel inputs document blob createdAt) blob)

/-- `clear_context_cache`: the envelopes of a run, the metadata of its projections, and the files
of the projections its envelopes named. -/
def clearContextCache (db : CellTables) (run : Uuid) : CellTables :=
  let named := (db.envelopes.rows.filter (fun row => row.agentRunId = run ∧
    db.blobs.find? row.blob ≠ none)).map (·.blob)
  { db with
    envelopes := db.envelopes.delete (fun row => row.agentRunId = run)
    blobs := db.blobs.delete (fun row => row.key.agentRunId = run ∧ row.key.role = .projection)
    files := db.files.delete (fun file => file.key ∈ named) }

end CellTables

end Macr
