import Macr.Agent.Events
import Macr.Lib.Table

/-!
# The agent store

Each run has a projection row, a chain of events and at most one ownership row. Every operation
runs in one write transaction: it reads the projection, checks it against the tail of its events
and the caller's expectation, appends one event and moves the row by compare and swap. A fault may
be injected at each marker; a call that raises rolls back. Tables that only index the header's
bindings are left out.
-/

namespace Macr

open Lib

/-- A row of `agent_runs`. -/
structure AgentRunRow where
  /-- Primary key. -/
  agentRunId : Uuid
  /-- `subject_digest`. -/
  subjectDigest : Digest
  /-- `initial_header_json`. -/
  initialHeader : AgentRunHeader
  /-- `state`. -/
  state : AgentRunState
  /-- `state_revision`. -/
  stateRevision : Nat
  /-- `epoch`. -/
  epoch : Nat
  /-- The three `semantic_state` columns, which are null together. -/
  semanticState : Option SemanticStateBinding
  /-- `state_digest`. -/
  stateDigest : Digest
  /-- `updated_at`. -/
  updatedAt : Timestamp
deriving DecidableEq

/-- A row of `agent_ownership`. -/
structure AgentOwnershipRow where
  /-- Primary key. -/
  agentRunId : Uuid
  /-- The owner. -/
  ownerId : String
  /-- The lease. -/
  leaseId : Uuid
  /-- The token of the acquisition. -/
  fencingToken : Nat
  /-- The run's epoch. -/
  epoch : Nat
  /-- When the run was acquired. -/
  acquiredAt : Timestamp
  /-- When the lease expires. -/
  expiresAt : Timestamp
deriving DecidableEq

/-- A row of `agent_children`. -/
structure AgentChildRow where
  /-- The parent run. -/
  parentAgentRunId : Uuid
  /-- The child run. -/
  childAgentRunId : Uuid
  /-- The delegation. -/
  delegationRef : String
deriving DecidableEq

/-- The tables of the agent store. -/
structure AgentTables where
  /-- `agent_runs`. -/
  runs : Table (fun row : AgentRunRow => row.agentRunId)
  /-- `agent_events`, in the order of their sequence. -/
  events : Table (fun event : AgentStateEvent => event.eventId)
  /-- `agent_ownership`. -/
  ownership : Table (fun row : AgentOwnershipRow => row.agentRunId)
  /-- `agent_children`. -/
  children : Table (fun row : AgentChildRow => (row.parentAgentRunId, row.childAgentRunId))
  /-- `agent_fencing_counter`. -/
  fencingCounter : Nat

/-- `AgentProjectionConflictError`. -/
def projectionConflict (message : String) : MacrError :=
  .agentState "AGENT_PROJECTION_CONFLICT" message

/-- `AgentOwnershipConflictError`. -/
def ownershipConflict (message : String) : MacrError :=
  .agentState "AGENT_OWNERSHIP_CONFLICT" message

/-- `StaleAgentRunEpochError`. -/
def staleEpoch (message : String) : MacrError := .agentState "STALE_AGENT_RUN_EPOCH" message

/-- `AgentRunNotFoundError`. -/
def agentRunNotFound : MacrError := .agentState "AGENT_RUN_NOT_FOUND" "AgentRun was not found"

/-- `_fault`: the injector may raise at a marker. -/
def faultAt (fault : String → Bool) (marker : String) : Except MacrError Unit :=
  raiseIf (fault marker = true) (.other "InjectedFault")

@[simp] theorem faultAt_eq_ok {fault : String → Bool} {marker : String} {value : Unit} :
    faultAt fault marker = .ok value ↔ fault marker = false := by
  simp [faultAt]

/-- The columns `_insert_projection` writes. -/
def AgentRunRow.ofProjection (sha : Sha256) (projection : AgentRunProjection) : AgentRunRow where
  agentRunId := projection.agentRunId
  subjectDigest := projection.subjectDigest
  initialHeader := projection.initialHeader
  state := projection.state
  stateRevision := projection.stateRevision
  epoch := projection.epoch
  semanticState := projection.initialHeader.semanticState
  stateDigest := projection.stateDigest sha
  updatedAt := projection.updatedAt

/-- `_projection_from_row`. -/
def AgentRunRow.projection (sha : Sha256) (row : AgentRunRow) :
    Except MacrError AgentRunProjection :=
  if valid : row.initialHeader.IsCreation ∧ 0 < row.stateRevision then do
    let projection : AgentRunProjection :=
      ⟨row.initialHeader, row.state, row.stateRevision, row.epoch, row.updatedAt, valid.1, valid.2⟩
    raiseIf (projection.agentRunId ≠ row.agentRunId)
      (projectionConflict "Agent projection identity is invalid")
    raiseIf (projection.subjectDigest ≠ row.subjectDigest)
      (projectionConflict "Agent projection subject is invalid")
    raiseIf (projection.stateDigest sha ≠ row.stateDigest)
      (projectionConflict "Agent projection digest is invalid")
    pure projection
  else
    .error (projectionConflict "Agent projection is invalid")

namespace AgentTables

/-- A new database. -/
def initial : AgentTables := ⟨Table.empty, Table.empty, Table.empty, Table.empty, 0⟩

/-- The events of a run in the order of their sequence. -/
def history (db : AgentTables) (agentRunId : Uuid) : List AgentStateEvent :=
  db.events.rows.filter (fun event => event.agentRunId = agentRunId)

/-- `_require_matching_tail`. -/
def requireMatchingTail (sha : Sha256) (db : AgentTables) (projection : AgentRunProjection) :
    Except MacrError Unit := do
  let tail ← require (db.history projection.agentRunId).getLast?
    (projectionConflict "Agent projection has no event tail")
  raiseIf (tail.afterRevision ≠ projection.stateRevision ∨ tail.epoch ≠ projection.epoch ∨
      tail.stateDigestAfter ≠ projection.stateDigest sha)
    (projectionConflict "Agent projection does not match its event tail")

/-- `_insert_event`. -/
def insertEvent (db : AgentTables) (event : AgentStateEvent) : Except MacrError AgentTables := do
  raiseIf (∃ other ∈ db.events.rows, other.agentRunId = event.agentRunId ∧
    other.afterRevision = event.afterRevision) .integrity
  let events ← require (db.events.insert? event) .integrity
  pure { db with events := events }

/-- `UPDATE agent_runs SET ... WHERE agent_run_id = ? AND state_revision = ? AND epoch = ?`, which
must reach one row. -/
def swapRun (db : AgentTables) (agentRunId : Uuid) (revision epoch : Nat)
    (assign : AgentRunRow → AgentRunRow) (keeps : ∀ row, (assign row).agentRunId = row.agentRunId)
    (message : String) : Except MacrError AgentTables := do
  let met (row : AgentRunRow) : Bool :=
    row.agentRunId = agentRunId ∧ row.stateRevision = revision ∧ row.epoch = epoch
  raiseIf (db.runs.rows.countP met ≠ 1) (projectionConflict message)
  pure { db with runs := db.runs.update met assign keeps }

/-- `_insert_projection`. -/
def insertProjection (sha : Sha256) (db : AgentTables) (projection : AgentRunProjection) :
    Except MacrError AgentTables := do
  let runs ← require (db.runs.insert? (.ofProjection sha projection)) .integrity
  pure { db with runs := runs }

/-- The part of `_insert_bindings` that can refuse: the lineage of a delegated run. -/
def insertBindings (db : AgentTables) (header : AgentRunHeader) : Except MacrError AgentTables :=
  match header.delegation with
  | none => pure db
  | some (parent, delegationRef) => do
    let _ ← require (db.runs.find? parent)
      (projectionConflict "Agent child lineage parent projection is missing")
    let child : AgentChildRow := ⟨parent, header.agentRunId, delegationRef⟩
    -- INSERT OR IGNORE: a stored lineage is kept and compared.
    let children := (db.children.insert? child).getD db.children
    let lineage := children.find? (parent, header.agentRunId)
    raiseIf (lineage.map (·.delegationRef) ≠ some delegationRef)
      (projectionConflict "Agent child lineage conflicts with creation header")
    pure { db with children := children }

/-- `DELETE FROM agent_ownership WHERE agent_run_id = ?`. -/
def deleteOwnership (db : AgentTables) (agentRunId : Uuid) : AgentTables :=
  { db with ownership := db.ownership.delete (fun row => row.agentRunId = agentRunId) }

/-- `INSERT INTO agent_ownership`. -/
def insertOwnership (db : AgentTables) (row : AgentOwnershipRow) :
    Except MacrError AgentTables := do
  raiseIf (∃ other ∈ db.ownership.rows, other.leaseId = row.leaseId) .integrity
  let ownership ← require (db.ownership.insert? row) .integrity
  pure { db with ownership := ownership }

/-- `create_agent_run`. -/
def createAgentRun (kernel : AgentKernel) (fault : String → Bool) (db : AgentTables)
    (header : AgentRunHeader) (eventId : Uuid) :
    Except MacrError (Committed AgentTables AgentRunProjection) := do
  let projection ← AgentRunProjection.fromCreationHeader header header.createdAt
  let event ← AgentStateEvent.create kernel eventId projection.agentRunId 0 0 (.runCreated header)
    (projection.stateDigest kernel.sha) header.createdAt
  raiseIf (db.runs.find? projection.agentRunId ≠ none)
    (.agentState "AGENT_RUN_ALREADY_EXISTS" "AgentRun already exists")
  faultAt fault "before_event_insert"
  let db ← db.insertEvent event
  faultAt fault "after_event_insert"
  let db ← db.insertProjection kernel.sha projection
  let db ← db.insertBindings header
  faultAt fault "after_projection_update"
  faultAt fault "before_commit"
  commit db projection

/-- The first checks of every operation on a run: the row, its tail, and the caller's expected
revision and epoch. -/
def currentProjection (sha : Sha256) (db : AgentTables) (agentRunId : Uuid)
    (expectedRevision expectedEpoch : Nat) : Except MacrError AgentRunProjection := do
  let row ← require (db.runs.find? agentRunId) agentRunNotFound
  let current ← row.projection sha
  db.requireMatchingTail sha current
  raiseIf (current.stateRevision ≠ expectedRevision)
    (.agentState "STALE_AGENT_RUN_REVISION" "AgentRun revision is stale")
  raiseIf (current.epoch ≠ expectedEpoch) (staleEpoch "AgentRun epoch is stale")
  pure current

/-- The event an operation appends, checked to lead to the projection it writes. -/
def nextEvent (kernel : AgentKernel) (current next : AgentRunProjection) (body : AgentEventBody)
    (eventId : Uuid) (message : String) : Except MacrError AgentStateEvent := do
  let event ← AgentStateEvent.create kernel eventId current.agentRunId next.epoch
    current.stateRevision body (next.stateDigest kernel.sha) next.updatedAt
  let applied ← applyAgentEvent kernel.sha (some current) event
  raiseIf (applied ≠ next) (projectionConflict message)
  pure event

/-- `_transition_unowned`. -/
def transitionUnowned (kernel : AgentKernel) (fault : String → Bool) (db : AgentTables)
    (agentRunId : Uuid) (expectedState targetState : AgentRunState)
    (expectedRevision expectedEpoch : Nat) (body : AgentEventBody) (createdAt : Timestamp)
    (eventId : Uuid) : Except MacrError (Committed AgentTables AgentRunProjection) := do
  raiseIf (expectedRevision < 1) (.valueError "expected_revision must be a positive integer")
  let current ← db.currentProjection kernel.sha agentRunId expectedRevision expectedEpoch
  raiseIf (current.state ≠ expectedState) (.agentState "ILLEGAL_AGENT_RUN_TRANSITION"
    "AgentRun state does not match the named operation")
  raiseIf (db.ownership.find? agentRunId ≠ none)
    (ownershipConflict "AgentRun has active ownership")
  requirePhaseBTransition current.state targetState
  let next := current.next targetState current.epoch createdAt
  let event ← nextEvent kernel current next body eventId
    "Agent transition event does not produce projection"
  faultAt fault "before_event_insert"
  let db ← db.insertEvent event
  faultAt fault "after_event_insert"
  let db ← db.swapRun agentRunId expectedRevision expectedEpoch
    (fun row => { row with
      state := next.state
      stateRevision := next.stateRevision
      epoch := next.epoch
      stateDigest := next.stateDigest kernel.sha
      updatedAt := next.updatedAt }) (fun _ => rfl)
    "Agent projection compare-and-swap failed"
  faultAt fault "after_projection_update"
  faultAt fault "before_commit"
  commit db next

/-- `_permit_from_row`. -/
def permitFromRow (row : AgentOwnershipRow) (revision : Nat) :
    Except MacrError AgentOwnershipPermit :=
  AgentOwnershipPermit.create row.agentRunId row.ownerId row.leaseId row.fencingToken row.epoch revision row.acquiredAt
    row.expiresAt

/-- The rest of `_acquire_ownership` once the run is free. -/
def takeOwnership (kernel : AgentKernel) (fault : String → Bool) (db : AgentTables)
    (current : AgentRunProjection) (candidate : AgentOwnershipPermit)
    (expectedRevision expectedEpoch : Nat) (eventId : Uuid) :
    Except MacrError (Committed AgentTables AgentOwnershipPermit) := do
  let fencingToken := db.fencingCounter + 1
  let db := { db with fencingCounter := fencingToken }
  let next := current.next current.state (current.epoch + 1) candidate.acquiredAt
  let permit ← AgentOwnershipPermit.create candidate.agentRunId candidate.ownerId
    candidate.leaseId fencingToken next.epoch next.stateRevision candidate.acquiredAt
    candidate.expiresAt
  let event ← nextEvent kernel current next
    (.ownerAcquired permit.ownerId permit.leaseId permit.fencingToken permit.expiresAt) eventId
    "ownership event does not produce Agent projection"
  faultAt fault "before_event_insert"
  let db ← db.insertEvent event
  faultAt fault "after_event_insert"
  let db ← db.swapRun candidate.agentRunId expectedRevision expectedEpoch
    (fun row => { row with
      stateRevision := next.stateRevision
      epoch := next.epoch
      stateDigest := next.stateDigest kernel.sha
      updatedAt := next.updatedAt }) (fun _ => rfl)
    "Agent ownership compare-and-swap failed"
  let db ← db.insertOwnership
    { agentRunId := permit.agentRunId
      ownerId := permit.ownerId
      leaseId := permit.leaseId
      fencingToken := permit.fencingToken
      epoch := permit.epoch
      acquiredAt := permit.acquiredAt
      expiresAt := permit.expiresAt }
  faultAt fault "after_projection_update"
  faultAt fault "before_commit"
  commit db permit

/-- `_acquire_ownership`. -/
def acquireOwnership (kernel : AgentKernel) (fault : String → Bool) (db : AgentTables)
    (agentRunId : Uuid) (ownerId : String) (expectedRevision expectedEpoch : Nat)
    (observedAt expiresAt : Timestamp) (leaseId eventId : Uuid) :
    Except MacrError (Committed AgentTables AgentOwnershipPermit) := do
  raiseIf (expectedRevision < 1) (.valueError "expected_revision must be a positive integer")
  let candidate ← AgentOwnershipPermit.create agentRunId ownerId leaseId 1
    (max 1 (expectedEpoch + 1)) (expectedRevision + 1) observedAt expiresAt
  let current ← db.currentProjection kernel.sha agentRunId expectedRevision expectedEpoch
  raiseIf (current.state.ownable = false) (.agentState "ILLEGAL_AGENT_RUN_TRANSITION"
    "AgentRun state cannot acquire ownership")
  match db.ownership.find? agentRunId with
  | some ownership =>
    if ownership.expiresAt ≤ candidate.acquiredAt then
      takeOwnership kernel fault (db.deleteOwnership agentRunId) current candidate expectedRevision
        expectedEpoch eventId
    else if ownership.ownerId = candidate.ownerId then
      .ok (db, permitFromRow ownership current.stateRevision)
    else
      .error (ownershipConflict "AgentRun is held by another owner")
  | none =>
    takeOwnership kernel fault db current candidate expectedRevision expectedEpoch eventId

/-- `_require_permit_row`, with the row it has checked. -/
def requirePermitRow (row : Option AgentOwnershipRow) (permit : AgentOwnershipPermit)
    (observedAt : Option Timestamp) : Except MacrError AgentOwnershipRow := do
  let row ← require row (ownershipConflict "AgentRun has no current owner")
  raiseIf (row.fencingToken ≠ permit.fencingToken)
    (.agentState "STALE_AGENT_FENCING_TOKEN" "Agent ownership fencing token is stale")
  raiseIf (row.epoch ≠ permit.epoch) (staleEpoch "Agent ownership epoch is stale")
  raiseIf (row.ownerId ≠ permit.ownerId ∨ row.leaseId ≠ permit.leaseId ∨
      row.agentRunId ≠ permit.agentRunId)
    (ownershipConflict "Agent ownership permit does not match")
  raiseIf (observedAt.any (fun observed => row.expiresAt ≤ observed))
    (.agentState "AGENT_LEASE_EXPIRED" "Agent ownership lease has expired")
  pure row

/-- `_renew_ownership`. The returned permit is made after the commit. -/
def renewOwnership (db : AgentTables) (permit : AgentOwnershipPermit)
    (observedAt expiresAt : Timestamp) :
    Except MacrError (Committed AgentTables AgentOwnershipPermit) := do
  let renewed ← AgentOwnershipPermit.create permit.agentRunId permit.ownerId permit.leaseId
    permit.fencingToken permit.epoch permit.revision permit.acquiredAt expiresAt
  let row ← requirePermitRow (db.ownership.find? permit.agentRunId) permit (some observedAt)
  raiseIf (renewed.expiresAt ≤ row.expiresAt)
    (ownershipConflict "Agent ownership renewal must extend the current lease")
  let projection ← require (db.runs.find? permit.agentRunId)
    (projectionConflict "Agent ownership has no projection")
  raiseIf (projection.epoch ≠ permit.epoch) (staleEpoch "AgentRun epoch is stale")
  .ok ({ db with
      ownership := db.ownership.update (fun other => other.agentRunId = permit.agentRunId)
        (fun other => { other with expiresAt := renewed.expiresAt }) (fun _ => rfl) },
    AgentOwnershipPermit.create renewed.agentRunId renewed.ownerId renewed.leaseId
      renewed.fencingToken renewed.epoch projection.stateRevision renewed.acquiredAt
      renewed.expiresAt)

/-- `_release_ownership`. -/
def releaseOwnership (db : AgentTables) (permit : AgentOwnershipPermit) :
    Except MacrError (Committed AgentTables Unit) := do
  let _ ← requirePermitRow (db.ownership.find? permit.agentRunId) permit none
  commit (db.deleteOwnership permit.agentRunId) ()

/-- `_transition_owned`. -/
def transitionOwned (kernel : AgentKernel) (fault : String → Bool) (db : AgentTables)
    (permit : AgentOwnershipPermit) (expectedStates : List AgentRunState)
    (targetState : AgentRunState) (expectedRevision expectedEpoch : Nat) (body : AgentEventBody)
    (createdAt : Timestamp) (eventId : Uuid) :
    Except MacrError (Committed AgentTables AgentRunProjection) := do
  raiseIf (expectedRevision < 1) (.valueError "expected_revision must be a positive integer")
  let current ← db.currentProjection kernel.sha permit.agentRunId expectedRevision expectedEpoch
  let _ ← requirePermitRow (db.ownership.find? permit.agentRunId) permit (some createdAt)
  raiseIf (current.state ∉ expectedStates) (.agentState "ILLEGAL_AGENT_RUN_TRANSITION"
    "AgentRun state does not match the named owned operation")
  requirePhaseBTransition current.state targetState
  let next := current.next targetState current.epoch createdAt
  let event ← nextEvent kernel current next body eventId
    "owned Agent event does not produce projection"
  faultAt fault "before_event_insert"
  let db ← db.insertEvent event
  faultAt fault "after_event_insert"
  let db ← db.swapRun permit.agentRunId expectedRevision expectedEpoch
    (fun row => { row with
      state := next.state
      stateRevision := next.stateRevision
      stateDigest := next.stateDigest kernel.sha
      updatedAt := next.updatedAt }) (fun _ => rfl)
    "owned Agent compare-and-swap failed"
  let db := if next.state.isTerminal then db.deleteOwnership permit.agentRunId else db
  faultAt fault "after_projection_update"
  faultAt fault "before_commit"
  commit db next

/-! ## The agent half of a semantic transaction -/

/-- `_build_event`. -/
def buildSemanticEvent (kernel : AgentKernel) (current : AgentRunProjection)
    (advance : SemanticAdvance) (createdAt : Timestamp) (eventId : Uuid) :
    Except MacrError AgentStateEvent :=
  nextEvent kernel current (current.next current.state current.epoch createdAt)
    (.semanticStateAdvanced advance) eventId
    "semantic binding event does not produce Agent projection"

/-- The payload of a semantic event. -/
def requireSemanticAdvance : AgentEventBody → Except MacrError SemanticAdvance
  | .semanticStateAdvanced advance => .ok advance
  | _ => .error (.valueError "event must be a semantic-state AgentStateEvent")

/-- `_commit_on_connection`. -/
def commitSemanticEvent (kernel : AgentKernel) (fault : String → Bool) (db : AgentTables)
    (current : AgentRunProjection) (event : AgentStateEvent) (newBinding : SemanticStateBinding)
    (expectedRevision expectedEpoch : Nat) :
    Except MacrError (AgentTables × AgentRunProjection) := do
  let advance ← requireSemanticAdvance event.body
  raiseIf (expectedRevision < 1) (.valueError "expected_revision must be a positive integer")
  let row ← require (db.runs.find? current.agentRunId) agentRunNotFound
  let observed ← row.projection kernel.sha
  db.requireMatchingTail kernel.sha observed
  raiseIf (observed ≠ current ∨ observed.stateRevision ≠ expectedRevision)
    (.agentState "STALE_AGENT_RUN_REVISION" "AgentRun revision is stale")
  raiseIf (observed.epoch ≠ expectedEpoch) (staleEpoch "AgentRun epoch is stale")
  raiseIf (advance.previousBinding ≠ row.semanticState)
    (projectionConflict "semantic binding event previous binding conflicts")
  raiseIf (advance.newBinding ≠ newBinding)
    (projectionConflict "semantic binding event new binding conflicts")
  let next ← applyAgentEvent kernel.sha (some current) event
  let db ← db.insertEvent event
  faultAt fault "after_agent_event"
  let db ← db.swapRun current.agentRunId expectedRevision expectedEpoch
    (fun row => { row with
      stateRevision := next.stateRevision
      stateDigest := next.stateDigest kernel.sha
      updatedAt := next.updatedAt
      semanticState := some newBinding }) (fun _ => rfl)
    "semantic binding Agent compare-and-swap failed"
  faultAt fault "after_agent_binding"
  pure (db, next)

end AgentTables

end Macr
