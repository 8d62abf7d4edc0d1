import Macr.Agent.Sourcing
import Macr.Lib.Indexing
import Macr.Lib.Sorting
import Mathlib.Data.Prod.Lex
import Mathlib.Data.String.Basic
import Mathlib.Order.WithBot

/-!
# The index tables of the agent store

Beside the columns that its operations compare, a row of `agent_runs` has columns copied from the
header, and four tables list the header's bindings. They are written when a run is created, and
again by `rebuild_projection`, which deletes a run's row with all rows that reference it and
derives them from the events. `inspect_projection` compares what is stored with what the events
give. The bindings of a header are constructed sorted by their digests.
-/

namespace Macr

open Lib

/-! ## Rows -/

/-- `binding_digest` of a memory binding. -/
def MemoryBindingRef.bindingDigest (sha : Sha256) (binding : MemoryBindingRef) : Digest :=
  sha.sha256Id "macr.agent.memory-binding.v1" (.obj binding.identityFields)

/-- The text of a reference. -/
def BindingRef.rendered : BindingRef → String
  | .text value => value
  | .semanticGraph graphId => s!"semantic-graph:{uuidText graphId}"

/-- The columns of `agent_runs` that are only written with the row. -/
structure AgentRunColumns where
  /-- The run. -/
  agentRunId : Uuid
  /-- `agent_ref`. -/
  agentRef : String
  /-- `goal_ref`. -/
  goalRef : BindingRef
  /-- `authority_ref`. -/
  authorityRef : String
  /-- `budget_ref`. -/
  budgetRef : BindingRef
  /-- `active_plan_ref`. -/
  activePlanRef : Option BindingRef
  /-- `latest_checkpoint_ref`. -/
  latestCheckpointRef : Option String
  /-- `parent_agent_run_id`. -/
  parentAgentRunId : Option Uuid
  /-- `delegation_ref`. -/
  delegationRef : Option String
  /-- `created_at`. -/
  createdAt : Timestamp
deriving DecidableEq

/-- A row of `agent_goals`, `agent_world_bindings` or `agent_plan_bindings`. -/
structure VersionedBindingRow where
  /-- The run. -/
  agentRunId : Uuid
  /-- What is bound. -/
  ref : BindingRef
  /-- Its digest. -/
  digest : Digest
  /-- Its revision. -/
  revision : Nat
  /-- The digest of the binding. -/
  bindingDigest : Digest
deriving DecidableEq

/-- A row of `agent_memory_bindings`. -/
structure MemoryBindingRow where
  /-- The run. -/
  agentRunId : Uuid
  /-- The memory system. -/
  memorySystemId : String
  /-- Its profile. -/
  profileId : String
  /-- The remembered subject. -/
  subjectRef : String
  /-- The head and its digest, null together. -/
  head : Option (String × Digest)
  /-- The access policy. -/
  accessPolicyRef : String
  /-- The projection policy. -/
  projectionPolicyRef : String
  /-- The digest of the binding. -/
  bindingDigest : Digest
deriving DecidableEq

/-- The columns `_insert_projection` copies from a header. -/
def columnsOf (header : AgentRunHeader) : AgentRunColumns where
  agentRunId := header.agentRunId
  agentRef := header.agentRef
  goalRef := header.goal.ref
  authorityRef := header.authority.sourceId
  budgetRef := header.budget.ref
  activePlanRef := header.activePlan.map (·.ref)
  latestCheckpointRef := none
  parentAgentRunId := header.delegation.map (·.1)
  delegationRef := header.delegation.map (·.2)
  createdAt := header.createdAt

/-- The row of a goal, a world or a plan. -/
def versionedRow (sha : Sha256) (bindingNamespace : String) (agentRunId : Uuid)
    (binding : VersionedBinding) : VersionedBindingRow :=
  ⟨agentRunId, binding.ref, binding.digest, binding.revision,
    binding.bindingDigest sha bindingNamespace⟩

/-- The row of a header's goal. -/
def goalRows (sha : Sha256) (header : AgentRunHeader) : List VersionedBindingRow :=
  [versionedRow sha "macr.agent.goal-binding.v1" header.agentRunId header.goal]

/-- The rows of its worlds. -/
def worldRows (sha : Sha256) (header : AgentRunHeader) : List VersionedBindingRow :=
  header.worldBindings.map (versionedRow sha "macr.agent.world-binding.v1" header.agentRunId)

/-- The rows of its plan. -/
def planRows (sha : Sha256) (header : AgentRunHeader) : List VersionedBindingRow :=
  (header.activePlan.map
    (versionedRow sha "macr.agent.plan-binding.v1" header.agentRunId)).toList

/-- The rows of its memories. -/
def memoryRows (sha : Sha256) (header : AgentRunHeader) : List MemoryBindingRow :=
  header.memoryBindings.map fun binding =>
    { agentRunId := header.agentRunId
      memorySystemId := binding.memorySystemId
      profileId := binding.profileId
      subjectRef := binding.subjectRef
      head := binding.head
      accessPolicyRef := binding.accessPolicyRef
      projectionPolicyRef := binding.projectionPolicyRef
      bindingDigest := binding.bindingDigest sha }

/-- The tables that index headers. -/
structure RunIndexes where
  /-- The copied columns of `agent_runs`. -/
  columns : Table (fun row : AgentRunColumns => row.agentRunId)
  /-- `agent_goals`. -/
  goals : Table (fun row : VersionedBindingRow => (row.agentRunId, row.bindingDigest))
  /-- `agent_world_bindings`. -/
  worlds : Table (fun row : VersionedBindingRow => (row.agentRunId, row.bindingDigest))
  /-- `agent_memory_bindings`. -/
  memories : Table (fun row : MemoryBindingRow => (row.agentRunId, row.bindingDigest))
  /-- `agent_plan_bindings`. -/
  plans : Table (fun row : VersionedBindingRow => (row.agentRunId, row.bindingDigest))

/-- New tables. -/
def RunIndexes.initial : RunIndexes := ⟨.empty, .empty, .empty, .empty, .empty⟩

/-- The rows of a run are deleted. -/
def RunIndexes.deleteRun (indexes : RunIndexes) (agentRunId : Uuid) : RunIndexes where
  columns := indexes.columns.delete (fun row => row.agentRunId = agentRunId)
  goals := indexes.goals.delete (fun row => row.agentRunId = agentRunId)
  worlds := indexes.worlds.delete (fun row => row.agentRunId = agentRunId)
  memories := indexes.memories.delete (fun row => row.agentRunId = agentRunId)
  plans := indexes.plans.delete (fun row => row.agentRunId = agentRunId)

/-- The agent tables with those that index headers. -/
structure IndexedTables where
  /-- The tables the operations work on. -/
  agent : AgentTables
  /-- The tables they only fill. -/
  indexes : RunIndexes

/-! ## Headers -/

/-- `_canonical_bindings`. -/
def canonicalBindings {α : Type} (name : String) (digestOf : α → Digest) (values : List α) :
    Except MacrError (List α) := do
  raiseIf (¬(values.map digestOf).Nodup)
    (.valueError s!"{name} must not contain duplicate bindings")
  pure (sortOn digestOf values)

/-- `AgentRunHeader.__post_init__`, as far as it arranges the bindings. -/
def AgentRunHeader.construct (sha : Sha256) (header : AgentRunHeader) :
    Except MacrError AgentRunHeader := do
  let worlds ← canonicalBindings "world_bindings"
    (·.bindingDigest sha "macr.agent.world-binding.v1") header.worldBindings
  let memories ← canonicalBindings "memory_bindings" (·.bindingDigest sha) header.memoryBindings
  pure { header with worldBindings := worlds, memoryBindings := memories }

/-- The bindings ascend by their digests. -/
structure AgentRunHeader.Constructed (sha : Sha256) (header : AgentRunHeader) : Prop where
  /-- The worlds. -/
  worlds : (worldRows sha header).Pairwise
    (fun left right => left.bindingDigest < right.bindingDigest)
  /-- The memories. -/
  memories : (memoryRows sha header).Pairwise
    (fun left right => left.bindingDigest < right.bindingDigest)

/-! ## Writing -/

/-- `_load_event_chain`. -/
def AgentTables.loadEventChain (db : AgentTables) (agentRunId : Uuid) :
    Except MacrError (List AgentStateEvent) :=
  if db.history agentRunId = [] then
    if db.runs.find? agentRunId = none then
      .error agentRunNotFound
    else
      .error (eventIntegrity "Agent projection has no event chain")
  else
    .ok (db.history agentRunId)

/-- `_expected_outgoing_children`: the lineages that the creation events give a parent. -/
def AgentTables.expectedOutgoingChildren (db : AgentTables) (parentAgentRunId : Uuid) :
    List AgentChildRow :=
  db.events.rows.filterMap fun event =>
    match event.body with
    | .runCreated header =>
      match header.delegation with
      | some (parent, delegationRef) =>
        if parent = parentAgentRunId then
          some ⟨parentAgentRunId, header.agentRunId, delegationRef⟩
        else
          none
      | none => none
    | _ => none

/-- `_rebuild_outgoing_children`. -/
def AgentTables.rebuildOutgoingChildren (db : AgentTables) (parentAgentRunId : Uuid) :
    Except MacrError AgentTables := do
  let expected := db.expectedOutgoingChildren parentAgentRunId
  let children ← require
    ((db.children.delete (fun row => row.parentAgentRunId = parentAgentRunId)).insertAll? expected)
    .integrity
  pure { db with children := children }

namespace IndexedTables

/-- `_insert_projection` with the copied columns. -/
def insertProjection (sha : Sha256) (db : IndexedTables) (projection : AgentRunProjection) :
    Except MacrError IndexedTables := do
  let agent ← db.agent.insertProjection sha projection
  let columns ← require (db.indexes.columns.insertAll? [columnsOf projection.initialHeader])
    .integrity
  pure { agent := agent, indexes := { db.indexes with columns := columns } }

/-- `_insert_bindings`. -/
def insertBindings (sha : Sha256) (db : IndexedTables) (header : AgentRunHeader) :
    Except MacrError IndexedTables := do
  let goals ← require (db.indexes.goals.insertAll? (goalRows sha header)) .integrity
  let worlds ← require (db.indexes.worlds.insertAll? (worldRows sha header)) .integrity
  let memories ← require (db.indexes.memories.insertAll? (memoryRows sha header)) .integrity
  let plans ← require (db.indexes.plans.insertAll? (planRows sha header)) .integrity
  let agent ← db.agent.insertBindings header
  pure
    { agent := agent
      indexes :=
        { db.indexes with goals := goals, worlds := worlds, memories := memories, plans := plans } }

/-- `create_agent_run`. -/
def createAgentRun (kernel : AgentKernel) (fault : String → Bool) (db : IndexedTables)
    (header : AgentRunHeader) (eventId : Uuid) :
    Except MacrError (Committed IndexedTables AgentRunProjection) := do
  let projection ← AgentRunProjection.fromCreationHeader header header.createdAt
  let event ← AgentStateEvent.create kernel eventId projection.agentRunId 0 0 (.runCreated header)
    (projection.stateDigest kernel.sha) header.createdAt
  raiseIf (db.agent.runs.find? projection.agentRunId ≠ none)
    (.agentState "AGENT_RUN_ALREADY_EXISTS" "AgentRun already exists")
  faultAt fault "before_event_insert"
  let agent ← db.agent.insertEvent event
  faultAt fault "after_event_insert"
  let db ← { db with agent := agent }.insertProjection kernel.sha projection
  let db ← db.insertBindings kernel.sha header
  faultAt fault "after_projection_update"
  faultAt fault "before_commit"
  commit db projection

/-- `DELETE FROM agent_runs WHERE agent_run_id = ?`, which deletes the rows that reference it. -/
def deleteRun (db : IndexedTables) (agentRunId : Uuid) : IndexedTables where
  agent :=
    { db.agent with
      runs := db.agent.runs.delete (fun row => row.agentRunId = agentRunId)
      ownership := db.agent.ownership.delete (fun row => row.agentRunId = agentRunId) }
  indexes := db.indexes.deleteRun agentRunId

/-- The update of the binding columns. -/
def rebindRun (db : AgentTables) (agentRunId : Uuid) (binding : Option SemanticStateBinding) :
    AgentTables :=
  { db with
    runs := db.runs.update (fun row => row.agentRunId = agentRunId)
      (fun row => { row with semanticState := binding }) (fun _ => rfl) }

/-- The end of a rebuild: the binding columns are updated when the events have moved them. -/
def rebound (db : AgentTables) (agentRunId : Uuid)
    (binding initialBinding : Option SemanticStateBinding) : AgentTables :=
  if binding ≠ initialBinding then rebindRun db agentRunId binding else db

/-- `rebuild_projection`. -/
def rebuildProjection (kernel : AgentKernel) (fault : String → Bool) (db : IndexedTables)
    (agentRunId : Uuid) (observedAt : Timestamp) :
    Except MacrError (Committed IndexedTables AgentRunProjection) := do
  let events ← db.agent.loadEventChain agentRunId
  let replayed ← replayAgentEvents kernel.sha events
  let replayedSemantic ← replaySemanticBinding replayed.initialHeader.semanticState events
  raiseIf ((db.agent.ownership.find? agentRunId).any (fun owner => observedAt < owner.expiresAt))
    (.agentState "AGENT_REBUILD_BLOCKED"
      "Agent projection rebuild is blocked by an active lease")
  let db ← (db.deleteRun agentRunId).insertProjection kernel.sha replayed
  let db ← db.insertBindings kernel.sha replayed.initialHeader
  let agent ← db.agent.rebuildOutgoingChildren agentRunId
  let agent := rebound agent agentRunId replayedSemantic replayed.initialHeader.semanticState
  faultAt fault "after_projection_update"
  faultAt fault "before_commit"
  commit { db with agent := agent } replayed

end IndexedTables

/-! ## Inspecting -/

/-- `ProjectionInspectionStatus`. -/
inductive ProjectionInspectionStatus where
  | exactMatch
  | missing
  | conflict
deriving DecidableEq, Repr

/-- `ProjectionInspection`. -/
structure ProjectionInspection where
  /-- The run. -/
  agentRunId : Uuid
  /-- What was found. -/
  status : ProjectionInspectionStatus
  /-- The number of events. -/
  eventCount : Nat
  /-- The digest the events give. -/
  replayStateDigest : Digest
  /-- The digest that is stored. -/
  projectionStateDigest : Option Digest
  /-- Why it is no match. -/
  reasonCode : Option String
deriving DecidableEq

/-- What Python compares when it sorts the rows of worlds. -/
def VersionedBindingRow.tuple (row : VersionedBindingRow) : String ×ₗ Digest ×ₗ Nat ×ₗ Digest :=
  toLex (row.ref.rendered, toLex (row.digest, toLex (row.revision, row.bindingDigest)))

/-- What Python compares when it sorts the rows of memories. A missing head is never compared with
a head. -/
def MemoryBindingRow.tuple (row : MemoryBindingRow) :
    String ×ₗ String ×ₗ String ×ₗ WithBot String ×ₗ WithBot Digest ×ₗ String ×ₗ String ×ₗ Digest :=
  toLex (row.memorySystemId, toLex (row.profileId, toLex (row.subjectRef,
    toLex ((row.head.map (·.1) : WithBot String), toLex ((row.head.map (·.2) : WithBot Digest),
      toLex (row.accessPolicyRef, toLex (row.projectionPolicyRef, row.bindingDigest)))))))

/-- Python cannot compare the tuples of two rows: they first differ where one is `None`. -/
def MemoryBindingRow.Incomparable (left right : MemoryBindingRow) : Prop :=
  left.memorySystemId = right.memorySystemId ∧ left.profileId = right.profileId ∧
    left.subjectRef = right.subjectRef ∧ left.head.isSome ≠ right.head.isSome

instance (left right : MemoryBindingRow) : Decidable (left.Incomparable right) :=
  inferInstanceAs (Decidable (_ ∧ _ ∧ _ ∧ _))

/-- `sorted` on the tuples of memories. Rows that agree before the head are neighbours in every
order, so a sort compares a missing head with a head whenever such rows have both. -/
def sortedMemories (rows : List MemoryBindingRow) : Except MacrError (List MemoryBindingRow) := do
  raiseIf (∃ left ∈ rows, ∃ right ∈ rows, left.Incomparable right) (.other "TypeError")
  pure (sortOn MemoryBindingRow.tuple rows)

/-- The stored lineages that name a run. -/
def AgentTables.childRows (db : AgentTables) (agentRunId : Uuid) : List AgentChildRow :=
  db.children.rows.filter
    (fun row => row.childAgentRunId = agentRunId ∨ row.parentAgentRunId = agentRunId)

/-- The lineages a run is expected to have: those of its children, and its own. -/
def AgentTables.expectedChildren (db : AgentTables) (agentRunId : Uuid) (header : AgentRunHeader) :
    List AgentChildRow :=
  db.expectedOutgoingChildren agentRunId ++
    (header.delegation.map (fun (parent, delegationRef) =>
      (⟨parent, agentRunId, delegationRef⟩ : AgentChildRow))).toList

namespace IndexedTables

/-- `_binding_indexes_match`. -/
def bindingIndexesMatch (sha : Sha256) (db : IndexedTables) (projection : AgentRunProjection) :
    Except MacrError Bool := do
  let header := projection.initialHeader
  let runId := projection.agentRunId
  let goals := sortOn VersionedBindingRow.bindingDigest
    (db.indexes.goals.rows.filter (fun row => row.agentRunId = runId))
  let worlds := sortOn VersionedBindingRow.bindingDigest
    (db.indexes.worlds.rows.filter (fun row => row.agentRunId = runId))
  let memories := sortOn MemoryBindingRow.bindingDigest
    (db.indexes.memories.rows.filter (fun row => row.agentRunId = runId))
  let plans := sortOn VersionedBindingRow.bindingDigest
    (db.indexes.plans.rows.filter (fun row => row.agentRunId = runId))
  let children := db.agent.childRows runId
  let expectedMemories ← sortedMemories (memoryRows sha header)
  let expectedChildren := db.agent.expectedChildren runId header
  pure (decide (goals = goalRows sha header) &&
    decide (worlds = sortOn VersionedBindingRow.tuple (worldRows sha header)) &&
    decide (memories = expectedMemories) && decide (plans = planRows sha header) &&
    decide (children ⊆ expectedChildren ∧ expectedChildren ⊆ children))

/-- The reads of `inspect_projection` whose failure makes the projection invalid. -/
def observedProjection (sha : Sha256) (row : AgentRunRow) (events : List AgentStateEvent) :
    Except MacrError (AgentRunProjection × Option SemanticStateBinding) := do
  let projection ← row.projection sha
  let replayedSemantic ← replaySemanticBinding projection.initialHeader.semanticState events
  pure (projection, replayedSemantic)

/-- `inspect_projection`. -/
def inspectProjection (sha : Sha256) (db : IndexedTables) (agentRunId : Uuid) :
    Except MacrError ProjectionInspection := do
  let events ← db.agent.loadEventChain agentRunId
  let replayed ← replayAgentEvents sha events
  match db.agent.runs.find? agentRunId with
  | none =>
    pure ⟨agentRunId, .missing, events.length, replayed.stateDigest sha, none,
      some "PROJECTION_MISSING"⟩
  | some row =>
    match observedProjection sha row events with
    | .error _ =>
      pure ⟨agentRunId, .conflict, events.length, replayed.stateDigest sha, some row.stateDigest,
        some "PROJECTION_INVALID"⟩
    | .ok (projection, replayedSemantic) => do
      let indexesMatch ← db.bindingIndexesMatch sha projection
      let exact : Bool := decide (projection = replayed) && indexesMatch &&
        decide (row.semanticState = replayedSemantic)
      pure
        { agentRunId := agentRunId
          status := if exact then .exactMatch else .conflict
          eventCount := events.length
          replayStateDigest := replayed.stateDigest sha
          projectionStateDigest := some (projection.stateDigest sha)
          reasonCode := if exact then none else some "PROJECTION_MISMATCH" }

end IndexedTables

end Macr
