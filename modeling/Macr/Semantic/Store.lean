import Macr.Agent.Store
import Macr.Semantic.Patch

/-!
# The semantic store

A graph has one head and a row for each revision, with the nodes and relations that are active in
it. Records are stored once, by digest, and a revision refers to them. The agent tables are in the
same database, and a commit moves a graph's head and the committing run's binding in one write
transaction. Columns that repeat a stored record are left out where nothing compares them.
-/

namespace Macr

open Lib

/-! ## Rows -/

/-- A row of `semantic_graphs`. -/
structure SemanticGraphRow where
  /-- Primary key. -/
  graphId : Uuid
  /-- The scope. -/
  scopeRef : String
  /-- The version of the registry. -/
  registryVersion : String
  /-- The digest of the registry. -/
  registryDigest : Digest
  /-- The run that created it. -/
  createdByAgentRunId : Uuid
  /-- When. -/
  createdAt : Timestamp
deriving DecidableEq

/-- A row of `semantic_graph_heads`. -/
structure SemanticGraphHeadRow where
  /-- Primary key. -/
  graphId : Uuid
  /-- `current_revision`. -/
  currentRevision : Nat
  /-- `current_graph_digest`. -/
  currentGraphDigest : Digest
  /-- `head_json`. -/
  head : SemanticGraphHead
deriving DecidableEq

/-- A row of `semantic_graph_revision_nodes` or `semantic_graph_revision_relations`. -/
structure MembershipRow where
  /-- The graph. -/
  graphId : Uuid
  /-- The revision. -/
  graphRevision : Nat
  /-- `node_id` or `relation_id`. -/
  recordId : String
  /-- `record_digest` or `relation_digest`. -/
  recordDigest : Digest
deriving DecidableEq

/-- A row of `semantic_nodes` or `semantic_relations`. -/
structure RecordRow (α : Type) where
  /-- The graph. -/
  graphId : Uuid
  /-- The digest of the record. -/
  recordDigest : Digest
  /-- The revision that stored it. -/
  createdRevision : Nat
  /-- The record. -/
  record : α
deriving DecidableEq

/-- `SemanticCommitEvent`, a row of `semantic_events`. -/
structure SemanticCommitEvent where
  /-- Its identifier. -/
  semanticEventId : Uuid
  /-- The graph. -/
  graphId : Uuid
  /-- The new revision. -/
  graphRevision : Nat
  /-- The digest of the new revision. -/
  graphDigest : Digest
  /-- The committing run. -/
  agentRunId : Uuid
  /-- The committed proposal. -/
  proposalDigest : Digest
  /-- The committed patch. -/
  patchDigest : Digest
  /-- The authority. -/
  authorizationDigest : Digest
  /-- When it was committed. -/
  createdAt : Timestamp
deriving DecidableEq

/-- The states of a proposal. -/
inductive SemanticProposalState where
  | proposed
  | validationFailed
  | committed
deriving DecidableEq, Repr

/-- `SemanticProposalRecord`, a row of `semantic_patches`. -/
structure SemanticProposalRecord where
  /-- The proposal. -/
  proposal : SemanticPatchProposalRequest
  /-- Its state. -/
  state : SemanticProposalState
  /-- The digest of its compilation. -/
  compiledDigest : Option Digest
  /-- The code of its failure. -/
  failureCode : Option String
  /-- When it was proposed. -/
  createdAt : Timestamp
  /-- When it was decided. -/
  terminalAt : Option Timestamp
deriving DecidableEq

/-- `SemanticAttachReceipt`, a row of `semantic_attach_receipts`. -/
structure SemanticAttachReceipt where
  /-- The operation. -/
  operationId : Uuid
  /-- The digest of the request. -/
  requestDigest : Digest
  /-- The run. -/
  agentRunId : Uuid
  /-- The graph. -/
  graphId : Uuid
  /-- The attached revision. -/
  graphRevision : Nat
  /-- Its digest. -/
  graphDigest : Digest
  /-- The run's revision afterwards. -/
  agentStateRevision : Nat
  /-- The run's event. -/
  agentEventId : Uuid
  /-- The digest of the permit. -/
  ownershipPermitDigest : Digest
  /-- The authority. -/
  authorizationDigest : Digest
  /-- When it was attached. -/
  attachedAt : Timestamp
deriving DecidableEq

/-- `SemanticCommitReceipt`, a row of `semantic_commit_receipts`. -/
structure SemanticCommitReceipt where
  /-- The commit. -/
  commitId : Uuid
  /-- The digest of the request. -/
  requestDigest : Digest
  /-- The committed proposal. -/
  proposalId : Uuid
  /-- Its digest. -/
  proposalDigest : Digest
  /-- The graph. -/
  graphId : Uuid
  /-- The new revision. -/
  graphRevision : Nat
  /-- Its digest. -/
  graphDigest : Digest
  /-- The committing run. -/
  agentRunId : Uuid
  /-- The run's revision afterwards. -/
  agentStateRevision : Nat
  /-- The event of the graph. -/
  semanticEventId : Uuid
  /-- The event of the run. -/
  agentEventId : Uuid
  /-- The committed patch. -/
  patchDigest : Digest
  /-- When it was committed. -/
  committedAt : Timestamp
deriving DecidableEq

/-! ## Tables -/

/-- The key of a revision. -/
abbrev SemanticGraphRevision.key (row : SemanticGraphRevision) : Uuid × Nat :=
  (row.graphId, row.graphRevision)

/-- The key of a membership. -/
abbrev MembershipRow.key (row : MembershipRow) : Uuid × Nat × String :=
  (row.graphId, row.graphRevision, row.recordId)

/-- The key of a record. -/
abbrev RecordRow.key {α : Type} (row : RecordRow α) : Uuid × Digest :=
  (row.graphId, row.recordDigest)

/-- The semantic tables. -/
structure SemanticTables where
  /-- `semantic_graphs`. -/
  graphs : Table (fun row : SemanticGraphRow => row.graphId)
  /-- `semantic_graph_heads`. -/
  heads : Table (fun row : SemanticGraphHeadRow => row.graphId)
  /-- `semantic_graph_revisions`. -/
  revisions : Table SemanticGraphRevision.key
  /-- `semantic_graph_revision_nodes`. -/
  revisionNodes : Table MembershipRow.key
  /-- `semantic_graph_revision_relations`. -/
  revisionRelations : Table MembershipRow.key
  /-- `semantic_nodes`. -/
  nodes : Table (RecordRow.key (α := SemanticNode))
  /-- `semantic_relations`. -/
  relations : Table (RecordRow.key (α := SemanticRelation))
  /-- `semantic_events`. -/
  events : Table (fun event : SemanticCommitEvent => event.semanticEventId)
  /-- `semantic_patches`. -/
  patches : Table (fun row : SemanticProposalRecord => row.proposal.proposalId)
  /-- `semantic_attach_receipts`. -/
  attachReceipts : Table (fun row : SemanticAttachReceipt => row.operationId)
  /-- `semantic_commit_receipts`. -/
  commitReceipts : Table (fun row : SemanticCommitReceipt => row.commitId)

/-- The database the agent store and the semantic store share. -/
structure AgentDb where
  /-- The agent tables. -/
  agent : AgentTables
  /-- The semantic tables. -/
  semantic : SemanticTables

namespace SemanticTables

/-- New tables. -/
def initial : SemanticTables :=
  ⟨.empty, .empty, .empty, .empty, .empty, .empty, .empty, .empty, .empty, .empty, .empty⟩

/-- `get_graph_head`. -/
def getGraphHead (sha : Sha256) (db : SemanticTables) (graphId : Uuid) :
    Except MacrError SemanticGraphHead := do
  let notFound : MacrError :=
    .semanticState "SEMANTIC_GRAPH_NOT_FOUND" "semantic graph was not found"
  let graph ← require (db.graphs.find? graphId) notFound
  let row ← require (db.heads.find? graphId) notFound
  raiseIf (row.head.graphId ≠ graph.graphId ∨ row.head.graphRevision ≠ row.currentRevision ∨
      row.head.graphDigest sha ≠ row.currentGraphDigest ∨
      row.head.registryVersion ≠ graph.registryVersion ∨
      row.head.registryDigest ≠ graph.registryDigest)
    (graphDigestMismatch "semantic graph head projection conflicts")
  pure row.head

/-- The memberships of a revision in the order of their digests. -/
def membersOf (memberships : Table MembershipRow.key) (graphId : Uuid) (graphRevision : Nat) :
    List MembershipRow :=
  (memberships.rows.filter
      (fun row => row.graphId = graphId ∧ row.graphRevision = graphRevision)).mergeSort
    (fun left right => decide (left.recordDigest ≤ right.recordDigest))

/-- `_active_nodes_on_connection`. -/
def activeNodes (db : SemanticTables) (graphId : Uuid) (graphRevision : Nat) :
    List SemanticNode :=
  (membersOf db.revisionNodes graphId graphRevision).filterMap
    (fun row => (db.nodes.find? (graphId, row.recordDigest)).map (·.record))

/-- `_active_relations_on_connection`. -/
def activeRelations (db : SemanticTables) (graphId : Uuid) (graphRevision : Nat) :
    List SemanticRelation :=
  (membersOf db.revisionRelations graphId graphRevision).filterMap
    (fun row => (db.relations.find? (graphId, row.recordDigest)).map (·.record))

/-- `INSERT INTO semantic_graph_revision_nodes` and its sibling. -/
def insertMember (memberships : Table MembershipRow.key) (row : MembershipRow) :
    Except MacrError (Table MembershipRow.key) :=
  require (memberships.insert? row) .integrity

/-- The insertion of a record, or the comparison with the record stored under its digest. -/
def storeRecord {α : Type} [DecidableEq α] (records : Table (RecordRow.key (α := α)))
    (row : RecordRow α) (message : String) : Except MacrError (Table (RecordRow.key (α := α))) :=
  match records.find? row.key with
  | none => require (records.insert? row) .integrity
  | some existing =>
    if existing.record = row.record then
      .ok records
    else
      .error (.semanticState "SEMANTIC_PATCH_CONFLICT" message)

/-- `save_proposal`. The class of the conflict error is not imported where it is raised. -/
def saveProposal (sha : Sha256) (db : SemanticTables) (record : SemanticProposalRecord) :
    Except MacrError (Committed SemanticTables SemanticProposalRecord) :=
  match db.patches.find? record.proposal.proposalId with
  | some observed =>
    if observed = record then commit db observed else .error (.other "NameError")
  | none => do
    raiseIf (∃ other ∈ db.patches.rows,
      other.proposal.proposalDigest sha = record.proposal.proposalDigest sha) .integrity
    let patches ← require (db.patches.insert? record) .integrity
    commit { db with patches := patches } record

end SemanticTables

namespace AgentDb

/-- A new database. -/
def initial : AgentDb := ⟨.initial, .initial⟩

/-- `create_graph`. -/
def createGraph (kernel : SemanticKernel) (db : AgentDb) (graphId : Uuid) (scopeRef : String)
    (createdByAgentRunId : Uuid) (createdAt : Timestamp) :
    Except MacrError (Committed AgentDb SemanticGraphHead) := do
  raiseIf (kernel.containsLocalPath scopeRef)
    (.valueError "semantic graph scope contains a path-like value")
  let head ← SemanticGraphHead.createEmpty kernel.registry graphId scopeRef createdByAgentRunId
    createdAt
  let revision ← SemanticGraphRevision.fromInitialHead kernel.sha head
  let _ ← require (db.agent.runs.find? head.createdByAgentRunId)
    (.semanticState "SEMANTIC_GRAPH_NOT_FOUND" "semantic graph creator AgentRun was not found")
  raiseIf (db.semantic.graphs.find? head.graphId ≠ none)
    (.semanticState "SEMANTIC_GRAPH_ALREADY_EXISTS" "semantic graph already exists")
  let graphs ← require (db.semantic.graphs.insert?
    { graphId := head.graphId
      scopeRef := head.scopeRef
      registryVersion := head.registryVersion
      registryDigest := head.registryDigest
      createdByAgentRunId := head.createdByAgentRunId
      createdAt := head.createdAt }) .integrity
  let heads ← require (db.semantic.heads.insert?
    { graphId := head.graphId
      currentRevision := head.graphRevision
      currentGraphDigest := head.graphDigest kernel.sha
      head := head }) .integrity
  let revisions ← require (db.semantic.revisions.insert? revision) .integrity
  commit { db with semantic :=
    { db.semantic with graphs := graphs, heads := heads, revisions := revisions } } head

/-- `_validate_agent`. -/
def validateAgent (kernel : SemanticKernel) (db : AgentDb) (agentRunId : Uuid)
    (expectedRevision expectedEpoch : Nat) (permit : AgentOwnershipPermit)
    (authorizationReference : AuthorityBinding) (observedAt : Timestamp) :
    Except MacrError (AgentRunProjection × Option SemanticStateBinding) := do
  let permitInvalid (message : String) : MacrError :=
    .semanticState "SEMANTIC_COMMIT_PERMIT_INVALID" message
  let row ← require (db.agent.runs.find? agentRunId)
    (.semanticState "SEMANTIC_AGENT_BINDING_CONFLICT" "AgentRun was not found")
  let current ← row.projection kernel.sha
  db.agent.requireMatchingTail kernel.sha current
  raiseIf (current.state ≠ .active) (permitInvalid "AgentRun is not active")
  raiseIf (current.stateRevision ≠ expectedRevision ∨ current.epoch ≠ expectedEpoch)
    (permitInvalid "AgentRun revision or epoch is stale")
  match AgentTables.requirePermitRow (db.agent.ownership.find? agentRunId) permit
      (some observedAt) with
  | .error _ => .error (permitInvalid "Agent ownership permit is invalid")
  | .ok _ => do
    raiseIf (permit.agentRunId ≠ agentRunId)
      (permitInvalid "Agent ownership permit targets another run")
    raiseIf (authorizationReference ≠ current.initialHeader.authority)
      (.semanticState "SEMANTIC_COMMIT_AUTHORITY_INVALID"
        "external semantic commit authority is invalid")
    pure (current, row.semanticState)

/-- `_head_on_connection`. -/
def headOnConnection (db : AgentDb) (graphId : Uuid) : Except MacrError SemanticGraphHead := do
  let row ← require (db.semantic.heads.find? graphId)
    (headStale "semantic graph head is missing")
  pure row.head

/-- `SemanticAgentBindingConflictError`. -/
def bindingConflict (message : String) : MacrError :=
  .semanticState "SEMANTIC_AGENT_BINDING_CONFLICT" message

/-! ## Attaching a graph -/

/-- The arguments of `attach_graph`. -/
structure AttachRequest where
  /-- The run. -/
  agentRunId : Uuid
  /-- The graph. -/
  graphId : Uuid
  /-- The expected head. -/
  graphRevision : Nat
  /-- Its digest. -/
  graphDigest : Digest
  /-- The run's expected revision. -/
  expectedAgentRevision : Nat
  /-- The run's expected epoch. -/
  expectedAgentEpoch : Nat
  /-- The permit. -/
  permit : AgentOwnershipPermit
  /-- The authority. -/
  authorizationReference : AuthorityBinding
  /-- The idempotency key. -/
  operationId : Uuid
  /-- The identifier of the run's event. -/
  agentEventId : Uuid
deriving DecidableEq

/-- `_attach_request_digest`. -/
def AttachRequest.requestDigest (sha : Sha256) (request : AttachRequest) : Digest :=
  sha.sha256Id "macr.semantic.attach-request.v1" (.obj
    [("operation_id", .hex request.operationId), ("agent_run_id", .hex request.agentRunId),
      ("graph_id", .hex request.graphId), ("graph_revision", .int request.graphRevision),
      ("graph_digest", .hex request.graphDigest),
      ("expected_agent_revision", .int request.expectedAgentRevision),
      ("expected_agent_epoch", .int request.expectedAgentEpoch),
      ("ownership_permit_digest", .hex (request.permit.digest sha)),
      ("authorization_reference", .obj request.authorizationReference.referenceFields),
      ("agent_event_id", .hex request.agentEventId)])

/-- `attach_graph`, at a clock reading. -/
def attachGraph (kernel : SemanticKernel) (fault : String → Bool) (db : AgentDb)
    (request : AttachRequest) (now : Timestamp) :
    Except MacrError (Committed AgentDb SemanticAttachReceipt) := do
  raiseIf (request.graphRevision < 1) (.valueError "graph_revision must be a positive integer")
  raiseIf (request.expectedAgentRevision < 1)
    (.valueError "expected_agent_revision must be a positive integer")
  let requestDigest := request.requestDigest kernel.sha
  match db.semantic.attachReceipts.find? request.operationId with
  | some receipt =>
    if receipt.requestDigest ≠ requestDigest then
      .error (bindingConflict "semantic attach operation ID conflicts with existing receipt")
    else
      commit db receipt
  | none => do
    let (current, binding) ← db.validateAgent kernel request.agentRunId
      request.expectedAgentRevision request.expectedAgentEpoch request.permit
      request.authorizationReference now
    let head ← db.headOnConnection request.graphId
    raiseIf (head.graphRevision ≠ request.graphRevision ∨
        head.graphDigest kernel.sha ≠ request.graphDigest)
      (headStale "semantic graph attach head is stale")
    let target := head.toSemanticStateBinding kernel.sha
    raiseIf (binding ≠ none)
      (bindingConflict "AgentRun is already bound; replay the original attach operation")
    let event ← AgentTables.buildSemanticEvent kernel.toAgentKernel current
      { operationKind := .attach
        operationId := request.operationId
        previousBinding := none
        newBinding := target
        proposalDigest := none
        patchDigest := none
        registryDigest := head.registryDigest
        authorizationDigest := request.authorizationReference.digest } now request.agentEventId
    let (agent, next) ← db.agent.commitSemanticEvent kernel.toAgentKernel (fun _ => false) current
      event target request.expectedAgentRevision request.expectedAgentEpoch
    faultAt fault "before_attach_receipt"
    let receipt : SemanticAttachReceipt :=
      { operationId := request.operationId
        requestDigest := requestDigest
        agentRunId := request.agentRunId
        graphId := head.graphId
        graphRevision := target.revision
        graphDigest := target.digest
        agentStateRevision := next.stateRevision
        agentEventId := event.eventId
        ownershipPermitDigest := request.permit.digest kernel.sha
        authorizationDigest := request.authorizationReference.digest
        attachedAt := now }
    raiseIf (∃ other ∈ db.semantic.attachReceipts.rows,
      other.requestDigest = receipt.requestDigest ∨ other.agentEventId = receipt.agentEventId)
      .integrity
    let attachReceipts ← require (db.semantic.attachReceipts.insert? receipt) .integrity
    faultAt fault "before_attach_commit"
    commit { agent := agent, semantic := { db.semantic with attachReceipts := attachReceipts } }
      receipt

/-! ## Committing a patch -/

/-- `_write_compiled`: the records, the revision, its memberships and the event. -/
def writeCompiled (kernel : SemanticKernel) (db : SemanticTables) (head : SemanticGraphHead)
    (request : SemanticCommitRequest) (compiled : CompiledSemanticPatch)
    (event : SemanticCommitEvent) (committedAt : Timestamp) :
    Except MacrError (SemanticTables × SemanticGraphHead) := do
  let nodes ← compiled.addedNodes.foldlM (fun records node =>
    SemanticTables.storeRecord records
      ⟨head.graphId, node.recordDigest kernel.sha, compiled.nextGraphRevision, node⟩
      "semantic node digest conflicts with existing record") db.nodes
  let relations ← compiled.addedRelations.foldlM (fun records relation =>
    SemanticTables.storeRecord records
      ⟨head.graphId, relation.relationDigest kernel.sha, compiled.nextGraphRevision, relation⟩
      "semantic relation digest conflicts with existing record") db.relations
  let nextHead ← SemanticGraphHead.create head.graphId head.scopeRef compiled.nextGraphRevision
    head.registryVersion head.registryDigest
    (compiled.activeNodes.map (·.recordDigest kernel.sha))
    (compiled.activeRelations.map (·.relationDigest kernel.sha)) head.createdByAgentRunId
    head.createdAt committedAt
  let revision ← SemanticGraphRevision.create kernel.sha head.graphId compiled.nextGraphRevision
    compiled.nextGraphDigest (some (head.graphRevision, head.graphDigest kernel.sha))
    (some (request.proposal.patch.patchDigest kernel.sha)) head.registryVersion
    head.registryDigest nextHead.activeNodeRecordDigests nextHead.activeRelationDigests committedAt
  let revisions ← require (db.revisions.insert? revision) .integrity
  let revisionNodes ← compiled.activeNodes.foldlM (fun memberships node =>
    SemanticTables.insertMember memberships
      ⟨head.graphId, compiled.nextGraphRevision, node.nodeId, node.recordDigest kernel.sha⟩)
    db.revisionNodes
  let revisionRelations ← compiled.activeRelations.foldlM (fun memberships relation =>
    SemanticTables.insertMember memberships
      ⟨head.graphId, compiled.nextGraphRevision, relation.relationId,
        relation.relationDigest kernel.sha⟩) db.revisionRelations
  let events ← require (db.events.insert? event) .integrity
  pure ({ db with
      nodes := nodes
      relations := relations
      revisions := revisions
      revisionNodes := revisionNodes
      revisionRelations := revisionRelations
      events := events }, nextHead)

/-- `UPDATE semantic_graph_heads ...` by compare and swap, which must reach one row. -/
def swapHead (sha : Sha256) (db : SemanticTables) (head nextHead : SemanticGraphHead) :
    Except MacrError SemanticTables := do
  let met (row : SemanticGraphHeadRow) : Bool :=
    row.graphId = head.graphId ∧ row.currentRevision = head.graphRevision ∧
      row.currentGraphDigest = head.graphDigest sha
  raiseIf (db.heads.rows.countP met ≠ 1) (headStale "semantic graph head compare-and-swap failed")
  pure { db with
    heads := db.heads.update met
      (fun row => { row with
        currentRevision := nextHead.graphRevision
        currentGraphDigest := nextHead.graphDigest sha
        head := nextHead }) (fun _ => rfl) }

/-- `UPDATE semantic_patches SET state = 'committed' ...`. -/
def commitProposal (db : SemanticTables) (proposalId : Uuid) (now : Timestamp) : SemanticTables :=
  { db with
    patches := db.patches.update
      (fun row => row.proposal.proposalId = proposalId ∧ row.state = .proposed)
      (fun row => { row with state := .committed, terminalAt := some now }) (fun _ => rfl) }

/-- `INSERT INTO semantic_commit_receipts`. -/
def insertReceipt (db : SemanticTables) (receipt : SemanticCommitReceipt) :
    Except MacrError SemanticTables := do
  raiseIf (∃ other ∈ db.commitReceipts.rows, other.requestDigest = receipt.requestDigest ∨
    other.semanticEventId = receipt.semanticEventId ∨ other.agentEventId = receipt.agentEventId)
    .integrity
  let commitReceipts ← require (db.commitReceipts.insert? receipt) .integrity
  pure { db with commitReceipts := commitReceipts }

/-- The checks of `commit_patch` that lead to a compiled patch: the run, the head, the run's
binding, the stored proposal and its compilation. -/
def compileRequest (kernel : SemanticKernel) (db : AgentDb) (request : SemanticCommitRequest)
    (permit : AgentOwnershipPermit) (now : Timestamp) :
    Except MacrError (AgentRunProjection × Option SemanticStateBinding × SemanticGraphHead ×
      CompiledSemanticPatch) := do
  let (current, binding) ← db.validateAgent kernel request.proposal.agentRunId
    request.expectedAgentRevision request.expectedAgentEpoch permit request.authorizationReference
    now
  let head ← db.headOnConnection request.proposal.graphId
  raiseIf (head.graphRevision ≠ request.proposal.baseGraphRevision ∨
      head.graphDigest kernel.sha ≠ request.proposal.baseGraphDigest ∨
      head.registryVersion ≠ request.proposal.registryVersion ∨
      head.registryDigest ≠ request.proposal.registryDigest)
    (headStale "semantic graph commit head is stale")
  raiseIf (binding ≠ some (head.toSemanticStateBinding kernel.sha))
    (bindingConflict "AgentRun is not pinned to semantic commit base")
  let record ← require (db.semantic.patches.find? request.proposal.proposalId)
    (patchInvalid "semantic proposal was not found")
  raiseIf (record.state ≠ .proposed ∨
      record.proposal.proposalDigest kernel.sha ≠ request.proposal.proposalDigest kernel.sha ∨
      record.proposal.patch ≠ request.proposal.patch)
    (patchInvalid "stored semantic proposal does not match commit request")
  let compiled ← kernel.compile head record.proposal
    (db.semantic.activeNodes head.graphId head.graphRevision)
    (db.semantic.activeRelations head.graphId head.graphRevision)
  raiseIf (some (compiled.compiledDigest kernel.sha) ≠ record.compiledDigest)
    (patchInvalid "semantic proposal compilation has drifted")
  pure (current, binding, head, compiled)

/-- `commit_patch`, at a clock reading. -/
def commitPatch (kernel : SemanticKernel) (fault : String → Bool) (db : AgentDb)
    (request : SemanticCommitRequest) (permit : AgentOwnershipPermit)
    (semanticEventId agentEventId : Uuid) (now : Timestamp) :
    Except MacrError (Committed AgentDb SemanticCommitReceipt) := do
  raiseIf (permit.digest kernel.sha ≠ request.ownershipPermitDigest)
    (.semanticState "SEMANTIC_COMMIT_PERMIT_INVALID"
      "semantic commit permit digest does not match")
  let requestDigest := request.requestDigest kernel.sha
  let proposalDigest := request.proposal.proposalDigest kernel.sha
  let patchDigest := request.proposal.patch.patchDigest kernel.sha
  match db.semantic.commitReceipts.find? request.commitId with
  | some receipt =>
    if receipt.requestDigest ≠ requestDigest then
      .error (.semanticState "SEMANTIC_PATCH_CONFLICT"
        "semantic commit ID conflicts with existing receipt")
    else
      commit db receipt
  | none => do
    let (current, binding, head, compiled) ← db.compileRequest kernel request permit now
    let (semantic, nextHead) ← writeCompiled kernel db.semantic head request compiled
      { semanticEventId := semanticEventId
        graphId := head.graphId
        graphRevision := compiled.nextGraphRevision
        graphDigest := compiled.nextGraphDigest
        agentRunId := request.proposal.agentRunId
        proposalDigest := proposalDigest
        patchDigest := patchDigest
        authorizationDigest := request.authorizationReference.digest
        createdAt := now } now
    faultAt fault "after_semantic_records"
    let semantic ← swapHead kernel.sha semantic head nextHead
    faultAt fault "after_graph_head"
    let target := nextHead.toSemanticStateBinding kernel.sha
    let event ← AgentTables.buildSemanticEvent kernel.toAgentKernel current
      { operationKind := .commit
        operationId := request.commitId
        previousBinding := binding
        newBinding := target
        proposalDigest := some proposalDigest
        patchDigest := some patchDigest
        registryDigest := request.proposal.registryDigest
        authorizationDigest := request.authorizationReference.digest } now agentEventId
    let (agent, next) ← db.agent.commitSemanticEvent kernel.toAgentKernel fault current event
      target request.expectedAgentRevision request.expectedAgentEpoch
    let semantic := commitProposal semantic request.proposal.proposalId now
    faultAt fault "before_receipt"
    let receipt : SemanticCommitReceipt :=
      { commitId := request.commitId
        requestDigest := requestDigest
        proposalId := request.proposal.proposalId
        proposalDigest := proposalDigest
        graphId := nextHead.graphId
        graphRevision := nextHead.graphRevision
        graphDigest := nextHead.graphDigest kernel.sha
        agentRunId := request.proposal.agentRunId
        agentStateRevision := next.stateRevision
        semanticEventId := semanticEventId
        agentEventId := event.eventId
        patchDigest := patchDigest
        committedAt := now }
    let semantic ← insertReceipt semantic receipt
    faultAt fault "before_commit"
    commit { agent := agent, semantic := semantic } receipt

end AgentDb

/-! ## Proposing a patch -/

/-- Where a call of `propose_patch` is: each stage ends in one read of the database, and the last
in its write. The values read so far are carried along. -/
inductive ProposeStage where
  /-- The head is read. -/
  | head
  /-- The head is read again for the nodes. -/
  | nodeRevision (head : SemanticGraphHead)
  /-- The nodes of the revision are read. -/
  | nodes (head : SemanticGraphHead) (graphRevision : Nat)
  /-- The head is read again for the relations. -/
  | relationRevision (head : SemanticGraphHead) (nodes : List SemanticNode)
  /-- The relations of the revision are read, and the patch is compiled. -/
  | relations (head : SemanticGraphHead) (nodes : List SemanticNode) (graphRevision : Nat)
  /-- The record is saved. -/
  | save (record : SemanticProposalRecord)

/-- The record of a compilation: of its digest, or of the code it failed with. Another error is
raised. -/
def SemanticProposalRecord.ofCompilation (sha : Sha256) (proposal : SemanticPatchProposalRequest)
    (now : Timestamp) : Except MacrError CompiledSemanticPatch →
      Except MacrError SemanticProposalRecord
  | .ok compiled => .ok ⟨proposal, .proposed, some (compiled.compiledDigest sha), none, now, none⟩
  | .error (.semanticState code _) =>
    .ok ⟨proposal, .validationFailed, none, some code, now, some now⟩
  | .error error => .error error

/-- What a stage of `propose_patch` leads to: the next stage, or the end of the call. -/
inductive ProposeTurn where
  | proceed (stage : ProposeStage)
  | finish (db : SemanticTables) (outcome : Except MacrError SemanticProposalRecord)

/-- The first read of `propose_patch`: a stored proposal is returned or refused. -/
def beginPropose (db : SemanticTables) (proposal : SemanticPatchProposalRequest) : ProposeTurn :=
  match db.patches.find? proposal.proposalId with
  | none => .proceed .head
  | some existing =>
    if existing.proposal = proposal then
      .finish db (.ok existing)
    else
      .finish db (.error (.semanticState "SEMANTIC_PATCH_CONFLICT"
        "semantic proposal ID conflicts with existing proposal"))

/-- A stage of `propose_patch` after the first read. -/
def stepPropose (kernel : SemanticKernel) (db : SemanticTables)
    (proposal : SemanticPatchProposalRequest) (now : Timestamp) : ProposeStage → ProposeTurn
  | .head =>
    match db.getGraphHead kernel.sha proposal.graphId with
    | .ok head => .proceed (.nodeRevision head)
    | .error error => .finish db (.error error)
  | .nodeRevision head =>
    match db.getGraphHead kernel.sha proposal.graphId with
    | .ok again => .proceed (.nodes head again.graphRevision)
    | .error error => .finish db (.error error)
  | .nodes head graphRevision =>
    .proceed (.relationRevision head (db.activeNodes proposal.graphId graphRevision))
  | .relationRevision head nodes =>
    match db.getGraphHead kernel.sha proposal.graphId with
    | .ok again => .proceed (.relations head nodes again.graphRevision)
    | .error error => .finish db (.error error)
  | .relations head nodes graphRevision =>
    let relations := db.activeRelations proposal.graphId graphRevision
    match SemanticProposalRecord.ofCompilation kernel.sha proposal now
        (kernel.compile head proposal nodes relations) with
    | .ok record => .proceed (.save record)
    | .error error => .finish db (.error error)
  | .save record =>
    let (after, outcome) := settle db (db.saveProposal kernel.sha record)
    .finish after outcome

end Macr
