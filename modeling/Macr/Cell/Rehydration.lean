import Macr.Cell.System
import Macr.Semantic.Fencing

/-!
# Checkpoints that are repeated

A checkpoint should stop a cell so that a later owner takes it up as it was, and a call that is
repeated should find what it has done. The store looks at the cell's status before it looks for the
checkpoint, so a repeated call meets the status that the first one has left.
-/

namespace Macr

open Lib

namespace CellTables

variable {kernel : CellKernel} {agents : AgentTables} {db after : CellTables}
  {permit : AgentOwnershipPermit} {checkpoint : AgentCheckpoint} {selected : Digest}

/-- A call of `create_checkpoint` that checkpoints the cell, with what it returns. -/
structure Checkpoints (kernel : CellKernel) (agents : AgentTables) (db : CellTables)
    (permit : AgentOwnershipPermit) (checkpoint : AgentCheckpoint) (after : CellTables)
    (state : HostedAgentCellState) (digest : Digest) : Prop where
  /-- The call returns. -/
  returns : ∃ caller eventId, createCheckpoint kernel agents caller db permit checkpoint eventId =
    .ok (after, state, digest)
  /-- The cell is checkpointed. -/
  checkpointed : state.status = .checkpointed

/-- A call of `rehydrate` that returns. -/
def Rehydrates (kernel : CellKernel) (agents : AgentTables) (db : CellTables)
    (permit : AgentOwnershipPermit) (selected : Digest) (after : CellTables)
    (state : HostedAgentCellState) : Prop :=
  ∃ caller rehydrationId eventId, rehydrate kernel agents caller db permit selected rehydrationId
    eventId = .ok (after, state)

/-- What checkpoints promise to the owner of a cell. -/
structure CheckpointLaw (kernel : CellKernel) (agents : AgentTables) (db : CellTables)
    (permit : AgentOwnershipPermit) : Prop where
  /-- The owner can checkpoint the cell. -/
  creates : ∃ checkpoint after state digest,
    Checkpoints kernel agents db permit checkpoint after state digest
  /-- While the cell is checkpointed, what a snapshot says of it is what the last one says. -/
  stays : ∀ checkpoint after state digest, Checkpoints kernel agents db permit checkpoint after
    state digest → ∀ agents caller call row stored,
      (after.perform kernel agents caller call).cells.find? permit.agentRunId = some row →
      row.state.status = .checkpointed →
      stored ∈ (after.perform kernel agents caller call).checkpoints.rows →
      row.state.latestCheckpointDigest = some stored.checkpointDigest →
        (after.perform kernel agents caller call).snapshot kernel row.state = stored.snapshot
  /-- The checkpoint can be repeated. -/
  checkpoint_again : ∀ checkpoint after state digest, Checkpoints kernel agents db permit
    checkpoint after state digest → ∃ caller eventId,
      createCheckpoint kernel agents caller after permit checkpoint eventId =
        .ok (after, state, digest)
  /-- The counters and the sections are those of before once a later owner has taken it up. -/
  resumes : ∀ checkpoint mid state digest, Checkpoints kernel agents db permit checkpoint mid state
    digest → ∀ laterAgents later selected after resumed,
      Rehydrates kernel laterAgents mid later selected after resumed →
        after.snapshot kernel resumed = mid.snapshot kernel state
  /-- The rehydration can be repeated. -/
  rehydrate_again : ∀ selected after state, Rehydrates kernel agents db permit selected after
    state → Rehydrates kernel agents after permit selected after state

/-- The row of a moved cell holds the projection it was moved to. -/
theorem find_of_moved {row : HostedCellRow} {next : HostedAgentCellState} {body : CellEventBody}
    (moved : CellMoved kernel db after row next body) {run : Uuid} {found : HostedCellRow}
    (of_run : next.agentRunId = run) (lookup : after.cells.find? run = some found) :
    found.state = next := by
  obtain ⟨stored, key⟩ := (after.cells.find?_eq_some run found).mp lookup
  rw [moved.cells] at stored
  obtain ⟨old, _, assigned⟩ := List.mem_map.mp stored
  by_cases same : old.state.agentRunId = next.agentRunId
  · rw [if_pos same] at assigned
    rw [← assigned]
  · rw [if_neg same] at assigned
    have other : found.state.agentRunId ≠ next.agentRunId := by
      rw [← assigned]
      exact same
    exact absurd (key.trans of_run.symm) other

/-- A moved cell keeps its run. -/
theorem run_of_moved {row : HostedCellRow} {next : HostedAgentCellState} {body : CellEventBody}
    (moved : CellMoved kernel db after row next body) :
    next.agentRunId = row.state.agentRunId := by
  rw [moved.fields]
  cases body <;> rfl

/-- No call checkpoints a cell that is checkpointed. -/
theorem status_of_createCheckpoint {caller : CellCaller} {eventId : Uuid}
    {answer : HostedAgentCellState × Digest} {last : CellTables}
    (returned : createCheckpoint kernel agents caller db permit checkpoint eventId =
      .ok (last, answer)) :
    ∃ row, db.cells.find? permit.agentRunId = some row ∧ row.state.status ≠ .checkpointed := by
  simp only [createCheckpoint, bind_eq_ok, raiseIf_eq_ok, exists_const, stateFromRow_eq_ok,
    Prod.exists] at returned
  obtain ⟨_, _, _, row, read, _, ⟨_, rfl⟩, _, _, status, _⟩ := returned
  refine ⟨row, find_of_cellRow read, ?_⟩
  intro checkpointed
  exact status (by rw [checkpointed]; decide)

/-- A checkpoint that is created cannot be created again. -/
theorem createCheckpoint_once {state : HostedAgentCellState} {digest : Digest}
    (made : Checkpoints kernel agents db permit checkpoint after state digest)
    (later : AgentTables) (caller : CellCaller) (eventId : Uuid) (last : CellTables)
    (answer : HostedAgentCellState × Digest) :
    createCheckpoint kernel later caller after permit checkpoint eventId ≠ .ok (last, answer) := by
  intro again
  obtain ⟨first, firstId, returns⟩ := made.returns
  obtain ⟨found, lookup, status⟩ := status_of_createCheckpoint again
  rcases effect_of_createCheckpoint returns with ⟨_, other⟩ | ⟨row, stored, run, moved, _⟩
  · exact other made.checkpointed
  · have same := find_of_moved moved ((run_of_moved moved).trans run) lookup
    exact status (by rw [same]; exact made.checkpointed)

/-- A rehydration cannot be repeated. -/
theorem rehydrate_once {state : HostedAgentCellState}
    (made : Rehydrates kernel agents db permit selected after state) (later : AgentTables)
    (last : CellTables) (answer : HostedAgentCellState) :
    ¬Rehydrates kernel later after permit selected last answer := by
  rintro ⟨caller, rehydrationId, eventId, again⟩
  obtain ⟨_, _, _, returns⟩ := made
  obtain ⟨row, body, run, _, running, moved, _⟩ := effect_of_rehydrate returns
  obtain ⟨found, other, of_run, status, _, read, _⟩ := effect_of_rehydrate again
  have lookup := find_of_cellRow read.read
  rw [of_run] at lookup
  have same := find_of_moved moved ((run_of_moved moved).trans run) lookup
  rw [same, running] at status
  exact absurd status (by decide)

/-- No owner of any cell has what checkpoints promise: whatever was created cannot be created again
and whatever was rehydrated cannot be rehydrated again, by any caller at any time. -/
theorem checkpoints_not_repeatable (kernel : CellKernel) (agents : AgentTables) (db : CellTables)
    (permit : AgentOwnershipPermit) :
    ¬CheckpointLaw kernel agents db permit ∧
      (∀ checkpoint after state digest,
        Checkpoints kernel agents db permit checkpoint after state digest →
          ∀ later caller eventId result,
            createCheckpoint kernel later caller after permit checkpoint eventId ≠ .ok result) ∧
      ∀ selected after state, Rehydrates kernel agents db permit selected after state →
        ∀ later last answer, ¬Rehydrates kernel later after permit selected last answer := by
  refine ⟨?_, ?_, ?_⟩
  · intro law
    obtain ⟨checkpoint, after, state, digest, made⟩ := law.creates
    obtain ⟨caller, eventId, again⟩ :=
      law.checkpoint_again checkpoint after state digest made
    exact createCheckpoint_once made agents caller eventId after (state, digest) again
  · intro checkpoint after state digest made later caller eventId result
    exact createCheckpoint_once made later caller eventId result.1 result.2
  · intro selected after state made later last answer
    exact rehydrate_once made later last answer

end CellTables

/-! ## The checkpoint of a new cell, repeated -/

namespace HostedSystem

/-- A kernel with the built-in rules, no filter and short texts. -/
def sampleKernel : HostedKernel :=
  { AgentSystem.sampleSemanticKernel with
    encodedLength := fun _ => 1
    loads := fun _ => none
    readProposal := fun _ => none }

/-- A caller whose authority is accepted. -/
def sampleCaller (now : Timestamp) : CellCaller := ⟨now, fun _ _ _ _ => .ok ()⟩

/-- The policy of a cell. -/
def samplePolicy : HostedAgentCellPolicy where
  agentRunId := 1
  terms :=
    { providerId := "provider"
      modelId := "model"
      modelTokenPolicyDigest := 1
      providerExecutionProfileDigest := 2
      promptCompilerVersion := "v1"
      delegationClass := .noDelegation
      privacy := .publicLevel
      providerTierBindingDigest := none
      admission := none
      maxLatencySeconds := 60
      maxOutputTokens := 100
      maxProviderContextTokens := 1000 }
  projectRef := "project"
  toolCatalogDigest := 3
  allowedToolIds := ["tool"]
  maxSteps := 4
  maxProviderCalls := 4
  maxToolCalls := 4
  maxActiveWallSeconds := 60
  maxCurrencyCostUsd := 2
  maxProviderCallCostUsd := 1
  maxContextBytes := 1000
  maxRawModelResponseBytes := 1000
  maxToolResultBytes := 1000
  maxFinalOutputBytes := 1000
  revision := 1
  calls_within_steps := by decide
  call_within_total := by decide +kernel
  nonneg := by decide +kernel

/-- The semantic request of a cell. -/
def sampleRequest : SemanticContextRequest where
  agentRunId := 1
  graphId := 9
  graphRevision := 1
  graphDigest := graphContentDigest foldDigest "macr-semantic-registry/v1" 7 [] []
  selection := .null

/-- The first section of a cell. -/
def sampleSection : HostedContextSection where
  sectionId := 30
  agentRunId := 1
  kind := .operatorBrief
  label := "brief"
  body := .text "brief"
  sourceRef := .text "operator"
  sourceDigest := 4
  createdAt := 6

/-- A run is activated, bound to a graph, and given a cell. -/
def attachedActions : List HostedAction :=
  AgentSystem.attachActions.map .agent ++
    [.cell (sampleCaller 7)
      (.attach AgentSystem.samplePermit samplePolicy sampleRequest [sampleSection] 1)]

/-- The system with the new cell. -/
def attachedSystem : HostedSystem := (machine sampleKernel).run initial attachedActions

/-- The checkpoint of the new cell. -/
def sampleCheckpoint : AgentCheckpoint where
  checkpointId := 40
  agentRunId := 1
  agentRunEpoch := 1
  stateRevision := 5
  goal := (AgentSystem.sampleHeader.goal.ref, AgentSystem.sampleHeader.goal.digest)
  authority := AgentSystem.sampleHeader.authority.checkpointPart
  budget := AgentSystem.sampleHeader.budget
  semanticState := ⟨.semanticGraph 9, sampleRequest.graphDigest, 1, Nat.one_pos⟩
  activePlan := none
  worldBasisRefs := []
  memoryBindingDigests := []
  pendingActionRefs := []
  reconciliationRefs := []
  verificationStateDigest :=
    (CellTables.attachedState sampleKernel.toCellKernel samplePolicy sampleRequest 7).stateDigest
      foldDigest
  wakeConditionRef := none
  parentCheckpointDigest := none
  createdAt := 8
  world_bounded := by decide
  memory_distinct := by decide

/-- The first call of `create_checkpoint` checkpoints the new cell. -/
def firstCheckpoint : Except MacrError (CellTables × HostedAgentCellState × Digest) :=
  CellTables.createCheckpoint sampleKernel.toCellKernel attachedSystem.agents.db.agent
    (sampleCaller 8) attachedSystem.cell AgentSystem.samplePermit sampleCheckpoint 2

/-- The status that the first call leads to, and what the second call raises. -/
def repeatedCheckpoint : Option (HostedAgentCellStatus × Option MacrError) :=
  match firstCheckpoint with
  | .error _ => none
  | .ok (after, state, _) =>
    match CellTables.createCheckpoint sampleKernel.toCellKernel attachedSystem.agents.db.agent
      (sampleCaller 9) after AgentSystem.samplePermit sampleCheckpoint 3 with
    | .ok _ => some (state.status, none)
    | .error raised => some (state.status, some raised)

/-- A new cell is checkpointed, and the same call then raises. -/
theorem checkpoint_repeated_raises :
    repeatedCheckpoint =
        some (.checkpointed, some (cellCheckpointError "cell cannot checkpoint now")) ∧
      ¬CellTables.CheckpointLaw sampleKernel.toCellKernel attachedSystem.agents.db.agent
        attachedSystem.cell AgentSystem.samplePermit := by
  refine ⟨by decide +kernel, fun law => ?_⟩
  obtain ⟨checkpoint, after, state, digest, made⟩ := law.creates
  obtain ⟨caller, eventId, again⟩ := law.checkpoint_again checkpoint after state digest made
  exact CellTables.createCheckpoint_once made _ caller eventId after (state, digest) again

end HostedSystem

end Macr
