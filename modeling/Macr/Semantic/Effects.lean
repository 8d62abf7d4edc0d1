import Macr.Agent.Sourcing
import Macr.Semantic.System

/-!
# Effects on the semantic store

What a committed `create_graph`, `attach_graph` or `commit_patch` has checked and written, said
once. The invariants of the graphs' histories, of the graphs' contents and of ownership are derived
from these facts and from the effects on the agent tables.
-/

namespace Macr

open Lib

/-- A run is active under the permit of its current owner, whose lease lasts past the observed
time. -/
structure AgentDb.Validated (sha : Sha256) (db : AgentDb) (agentRunId : Uuid)
    (permit : AgentOwnershipPermit) (observedAt : Timestamp) (row : AgentRunRow)
    (owner : AgentOwnershipRow) (current : AgentRunProjection) : Prop where
  /-- The row is the run's. -/
  stored : row ∈ db.agent.runs.rows
  /-- It is found under the identifier. -/
  run : row.agentRunId = agentRunId
  /-- It reads as the projection. -/
  holds : row.Holds sha current
  /-- The run is active. -/
  active : row.state = .active
  /-- The permit is for the run. -/
  target : permit.agentRunId = agentRunId
  /-- The owner's row is stored. -/
  owned : owner ∈ db.agent.ownership.rows
  /-- It grants the permit. -/
  grants : owner.Grants permit
  /-- It has not expired. -/
  lasting : observedAt < owner.expiresAt

namespace AgentDb

variable {kernel : SemanticKernel} {fault : String → Bool} {db after : AgentDb}

/-- A validation that passes finds an active run and its owner. -/
theorem validateAgent_eq_ok {agentRunId : Uuid} {expectedRevision expectedEpoch : Nat}
    {permit : AgentOwnershipPermit} {authorizationReference : AuthorityBinding}
    {observedAt : Timestamp} {current : AgentRunProjection}
    {binding : Option SemanticStateBinding}
    (validated : db.validateAgent kernel agentRunId expectedRevision expectedEpoch permit
      authorizationReference observedAt = .ok (current, binding)) :
    ∃ row owner, db.Validated kernel.sha agentRunId permit observedAt row owner current ∧
      binding = row.semanticState := by
  simp only [validateAgent, bind_eq_ok, require_eq_ok, raiseIf_eq_ok, exists_const, ne_eq,
    not_not, not_or] at validated
  obtain ⟨row, found, projection, read, _, _, active, _, validated⟩ := validated
  obtain ⟨stored, named⟩ := (db.agent.runs.find?_eq_some _ _).mp found
  have holds := AgentRunRow.projection_eq_ok read
  split at validated
  · exact absurd validated (by simp)
  · rename_i owner met
    simp only [bind_eq_ok, raiseIf_eq_ok, exists_const, pure_eq_ok, not_not,
      Prod.mk.injEq] at validated
    obtain ⟨target, _, rfl, rfl⟩ := validated
    obtain ⟨owned, grants, lasting⟩ := AgentTables.requirePermitRow_eq_ok met
    refine ⟨row, owner, ?_, rfl⟩
    exact
      { stored := stored
        run := named
        holds := holds
        active := holds.state.trans active
        target := target
        owned := ((db.agent.ownership.find?_eq_some _ _).mp owned).1
        grants := grants
        lasting := lasting observedAt rfl }

/-- A head that is read is that of a stored row of the graph. -/
theorem headOnConnection_eq_ok {graphId : Uuid} {head : SemanticGraphHead}
    (read : db.headOnConnection graphId = .ok head) :
    ∃ row ∈ db.semantic.heads.rows, row.graphId = graphId ∧ row.head = head := by
  simp only [headOnConnection, bind_eq_ok, require_eq_ok, pure_eq_ok] at read
  obtain ⟨row, found, rfl⟩ := read
  obtain ⟨stored, named⟩ := (db.semantic.heads.find?_eq_some _ _).mp found
  exact ⟨row, stored, named, rfl⟩

end AgentDb

/-! ## Moving a run's binding -/

/-- A run's binding has moved along a semantic event. -/
structure SemanticMove (sha : Sha256) (before after : AgentTables) (row moved : AgentRunRow)
    (event : AgentStateEvent) (advance : SemanticAdvance) : Prop where
  /-- The run has moved along the event. -/
  advanced : Advanced sha before after row moved event
  /-- The event is semantic. -/
  body : event.body = .semanticStateAdvanced advance
  /-- The run is bound to what the event names. -/
  bound : moved.semanticState = some advance.newBinding
  /-- The owners stay. -/
  ownership : after.ownership = before.ownership
  /-- The counter stays. -/
  counter : after.fencingCounter = before.fencingCounter

/-- A move of a binding keeps the state of the run. -/
theorem SemanticMove.state {sha : Sha256} {before after : AgentTables} {row moved : AgentRunRow}
    {event : AgentStateEvent} {advance : SemanticAdvance}
    (move : SemanticMove sha before after row moved event advance) : moved.state = row.state := by
  obtain ⟨current, projection, holds, applied, written⟩ := move.advanced.applied
  have continues := continues_of_apply applied
  have kept : projection.state = current.state := continues.kept (by rw [move.body]; rfl)
  rw [written.state, holds.state, kept]

/-- A move of the binding of a run that has not ended is an effect without an acquisition. -/
theorem SemanticMove.effect {sha : Sha256} {before after : AgentTables} {row moved : AgentRunRow}
    {event : AgentStateEvent} {advance : SemanticAdvance}
    (move : SemanticMove sha before after row moved event advance)
    (running : row.state.isTerminal = false) : AgentEffect sha before after := by
  refine .advanced move.advanced (by rw [move.body]; rfl) ?_ move.counter
  rw [move.state, running, move.ownership]
  rfl

/-- A semantic event built on a projection and committed moves the binding of its run. -/
theorem semanticMove_of_commit {kernel : AgentKernel} {fault : String → Bool}
    {db after : AgentTables} {current next : AgentRunProjection} {advance : SemanticAdvance}
    {createdAt : Timestamp} {eventId : Uuid} {event : AgentStateEvent}
    {newBinding : SemanticStateBinding} {expectedRevision expectedEpoch : Nat} {row : AgentRunRow}
    (stored : row ∈ db.runs.rows) (holds : row.Holds kernel.sha current)
    (built : AgentTables.buildSemanticEvent kernel current advance createdAt eventId = .ok event)
    (done : db.commitSemanticEvent kernel fault current event newBinding expectedRevision
      expectedEpoch = .ok (after, next)) :
    ∃ moved, SemanticMove kernel.sha db after row moved event advance ∧
      advance.newBinding = newBinding ∧ event.eventId = eventId := by
  obtain ⟨body, identifier, _⟩ := AgentTables.nextEvent_eq_ok built
  obtain ⟨other, moved, found, named, advanced, semantic, binding, bound, ownership, counter⟩ :=
    AgentTables.advanced_of_commitSemanticEvent done
  obtain rfl : advance = found := AgentEventBody.semanticStateAdvanced.inj (body.symm.trans semantic)
  have same : other = row :=
    db.runs.eq_of_key advanced.stored stored (named.trans holds.agentRunId.symm)
  subst same
  exact ⟨moved, ⟨advanced, body, bound.trans (congrArg some binding.symm), ownership, counter⟩,
    binding, identifier⟩

/-! ## Attaching -/

/-- A graph has been attached to a run. -/
structure GraphAttached (sha : Sha256) (before after : AgentDb) (request : AgentDb.AttachRequest)
    (now : Timestamp) (receipt : SemanticAttachReceipt) : Prop where
  /-- The operation is new. -/
  fresh : ∀ other ∈ before.semantic.attachReceipts.rows, other.operationId ≠ request.operationId
  /-- An active, unbound run under its owner's permit is bound to a stored head. -/
  bound : ∃ row owner current headRow moved event advance,
    before.Validated sha request.agentRunId request.permit now row owner current ∧
      row.semanticState = none ∧ headRow ∈ before.semantic.heads.rows ∧
      headRow.graphId = request.graphId ∧
      advance.newBinding = headRow.head.toSemanticStateBinding sha ∧
      SemanticMove sha before.agent after.agent row moved event advance
  /-- The receipt is the operation's. -/
  operation : receipt.operationId = request.operationId
  /-- It records the request. -/
  requested : receipt.requestDigest = request.requestDigest sha
  /-- The receipt is stored. -/
  receipts : after.semantic.attachReceipts.rows =
    before.semantic.attachReceipts.rows ++ [receipt]
  /-- The other semantic tables stay. -/
  others : after.semantic =
    { before.semantic with attachReceipts := after.semantic.attachReceipts }

namespace AgentDb

variable {kernel : SemanticKernel} {fault : String → Bool} {db after : AgentDb}

/-- `attach_graph` attaches the graph, or finds the receipt of the same request and writes
nothing. -/
theorem attachGraph_eq_ok {request : AttachRequest} {now : Timestamp}
    {outcome : Except MacrError SemanticAttachReceipt}
    (done : db.attachGraph kernel fault request now = .ok (after, outcome)) :
    ∃ receipt, outcome = .ok receipt ∧
      ((after = db ∧ receipt ∈ db.semantic.attachReceipts.rows ∧
          receipt.operationId = request.operationId ∧
          receipt.requestDigest = request.requestDigest kernel.sha) ∨
        GraphAttached kernel.sha db after request now receipt) := by
  simp only [attachGraph, bind_eq_ok, raiseIf_eq_ok, exists_const] at done
  obtain ⟨_, _, done⟩ := done
  split at done
  · rename_i receipt found
    obtain ⟨stored, named⟩ := (db.semantic.attachReceipts.find?_eq_some _ _).mp found
    split at done
    · exact absurd done (by simp)
    · rename_i same
      simp only [commit_eq_ok, Prod.mk.injEq] at done
      exact ⟨receipt, done.2, .inl ⟨done.1, stored, named, not_not.mp same⟩⟩
  · rename_i absent
    simp only [bind_eq_ok, raiseIf_eq_ok, faultAt_eq_ok, require_eq_ok, exists_const, ne_eq,
      not_not, not_or, commit_eq_ok, Prod.mk.injEq, Table.insert?_eq_some] at done
    obtain ⟨⟨current, binding⟩, validated, head, read, _, unbound, event, built, ⟨agent, next⟩,
      committed, _, _, _, ⟨_, rfl⟩, _, rfl, rfl⟩ := done
    simp only at unbound
    subst unbound
    obtain ⟨row, owner, valid, unbound⟩ := validateAgent_eq_ok validated
    obtain ⟨headRow, held, named, rfl⟩ := headOnConnection_eq_ok read
    obtain ⟨moved, move, _⟩ := semanticMove_of_commit valid.stored valid.holds built committed
    refine ⟨_, rfl, .inr ?_⟩
    exact
      { fresh := (db.semantic.attachReceipts.find?_eq_none _).mp absent
        bound := ⟨row, owner, current, headRow, moved, event, _, valid, unbound.symm, held, named,
          rfl, move⟩
        operation := rfl
        requested := rfl
        receipts := rfl
        others := rfl }

end AgentDb

/-! ## Committing -/

/-- The head of a graph has been replaced. -/
def SemanticTables.HeadReplaced (sha : Sha256) (before after : SemanticTables)
    (headRow : SemanticGraphHeadRow) (next : SemanticGraphHead) : Prop :=
  after.heads.rows = before.heads.rows.map (fun other =>
    if other.graphId = headRow.graphId then
      { other with
        currentRevision := next.graphRevision
        currentGraphDigest := next.graphDigest sha
        head := next }
    else other)

/-- A record is stored under its digest. -/
def RecordStored {α : Type} (records : Table (RecordRow.key (α := α))) (graphId : Uuid)
    (digest : Digest) (record : α) : Prop :=
  ∃ row ∈ records.rows, row.graphId = graphId ∧ row.recordDigest = digest ∧ row.record = record

/-- Records have been stored where they were not. -/
structure RecordsStored {α : Type} (before after : Table (RecordRow.key (α := α)))
    (graphId : Uuid) (digestOf : α → Digest) (items : List α) : Prop where
  /-- No row is lost. -/
  kept : ∀ row ∈ before.rows, row ∈ after.rows
  /-- A new row is one of the records under its digest. -/
  origin : ∀ row ∈ after.rows, row ∈ before.rows ∨ row.recordDigest = digestOf row.record
  /-- Every record is stored. -/
  stored : ∀ item ∈ items, RecordStored after graphId (digestOf item) item

/-- The loop that stores records. -/
theorem recordsStored_of_foldlM {α : Type} [DecidableEq α] {graphId : Uuid}
    {digestOf : α → Digest} {revision : Nat} {message : String} {items : List α}
    {before after : Table (RecordRow.key (α := α))}
    (done : items.foldlM (fun records item => SemanticTables.storeRecord records
      ⟨graphId, digestOf item, revision, item⟩ message) before = .ok after) :
    RecordsStored before after graphId digestOf items := by
  induction items generalizing before with
  | nil =>
    rw [List.foldlM_nil, pure_eq_ok] at done
    subst done
    exact ⟨fun _ held => held, fun _ held => .inl held, by simp⟩
  | cons item rest ih =>
    simp only [List.foldlM_cons, bind_eq_ok] at done
    obtain ⟨mid, first, later⟩ := done
    have tail := ih later
    have head : (∀ row ∈ before.rows, row ∈ mid.rows) ∧
        (∀ row ∈ mid.rows, row ∈ before.rows ∨ row.recordDigest = digestOf row.record) ∧
        RecordStored mid graphId (digestOf item) item := by
      unfold SemanticTables.storeRecord at first
      split at first
      · simp only [require_eq_ok, Table.insert?_eq_some] at first
        obtain ⟨_, rfl⟩ := first
        refine ⟨?_, ?_, ⟨graphId, digestOf item, revision, item⟩, by simp, rfl, rfl, rfl⟩
        · intro row held
          exact List.mem_append_left _ held
        · intro row held
          rcases List.mem_append.mp held with earlier | new
          · exact .inl earlier
          · rw [List.mem_singleton.mp new]
            exact .inr rfl
      · rename_i existing found
        split at first
        · rename_i same
          obtain rfl := Except.ok.inj first
          obtain ⟨held, key⟩ := (before.find?_eq_some _ _).mp found
          have graph : existing.graphId = graphId := congrArg (·.1) key
          have digest : existing.recordDigest = digestOf item := congrArg (·.2) key
          exact ⟨fun _ held => held, fun _ held => .inl held, existing, held, graph, digest, same⟩
        · exact absurd first (by simp)
    obtain ⟨kept, origin, row, held, facts⟩ := head
    refine ⟨fun row held => tail.kept row (kept row held), ?_, ?_⟩
    · intro row held
      rcases tail.origin row held with earlier | new
      · exact origin row earlier
      · exact .inr new
    · intro other member
      rcases List.mem_cons.mp member with rfl | later
      · exact ⟨row, tail.kept row held, facts⟩
      · exact tail.stored other later

/-- The loop that inserts memberships appends them. -/
theorem rows_of_insertMembers {α : Type} {memberOf : α → MembershipRow} {items : List α}
    {before after : Table MembershipRow.key}
    (done : items.foldlM (fun memberships item =>
      SemanticTables.insertMember memberships (memberOf item)) before = .ok after) :
    after.rows = before.rows ++ items.map memberOf := by
  induction items generalizing before with
  | nil =>
    rw [List.foldlM_nil, pure_eq_ok] at done
    simp [done]
  | cons item rest ih =>
    simp only [List.foldlM_cons, bind_eq_ok] at done
    obtain ⟨mid, first, later⟩ := done
    simp only [SemanticTables.insertMember, require_eq_ok, Table.insert?_eq_some] at first
    obtain ⟨_, rfl⟩ := first
    rw [ih later, Table.insert_rows, List.append_assoc, List.map_cons, List.singleton_append]

/-- The heads are stored under the graphs they describe. -/
def SemanticTables.HeadsNamed (db : SemanticTables) : Prop :=
  ∀ row ∈ db.heads.rows, row.head.graphId = row.graphId

/-- A compare and swap of a stored head replaces it. -/
theorem headReplaced_of_swapHead {sha : Sha256} {db after : SemanticTables}
    {headRow : SemanticGraphHeadRow} {next : SemanticGraphHead} (named : db.HeadsNamed)
    (held : headRow ∈ db.heads.rows)
    (swapped : AgentDb.swapHead sha db headRow.head next = .ok after) :
    db.HeadReplaced sha after headRow next ∧ ∃ heads, after = { db with heads := heads } := by
  simp only [AgentDb.swapHead, bind_eq_ok, raiseIf_eq_ok, exists_const, pure_eq_ok,
    not_not] at swapped
  obtain ⟨one, rfl⟩ := swapped
  refine ⟨?_, _, rfl⟩
  obtain ⟨met, member, meets⟩ := List.countP_pos_iff.mp (Nat.one_pos.trans_eq one.symm)
  simp only [decide_eq_true_eq] at meets
  have same : met = headRow :=
    db.heads.eq_of_key member held (meets.1.trans (named headRow held))
  subst same
  simp only [SemanticTables.HeadReplaced, Table.update]
  apply List.map_congr_left
  intro other stored
  by_cases own : other.graphId = met.graphId
  · have equal := db.heads.eq_of_key stored member own
    subst equal
    rw [if_pos own, if_pos (decide_eq_true meets)]
  · have apart : ¬other.graphId = met.head.graphId :=
      fun equal => own (equal.trans (named met member))
    simp [own, apart]

/-- The head, revision and event a compiled patch leads to, and the rows written for them. -/
structure CompiledWritten (kernel : SemanticKernel) (before after : SemanticTables)
    (head next : SemanticGraphHead) (compiled : CompiledSemanticPatch)
    (revision : SemanticGraphRevision) (event : SemanticCommitEvent) : Prop where
  /-- The graph stays. -/
  graphId : next.graphId = head.graphId
  /-- The scope stays. -/
  scopeRef : next.scopeRef = head.scopeRef
  /-- The registry stays. -/
  registry : next.registryVersion = head.registryVersion ∧ next.registryDigest = head.registryDigest
  /-- The creation stays. -/
  creation : next.createdByAgentRunId = head.createdByAgentRunId ∧
    next.createdAt = head.createdAt ∧ ¬next.updatedAt < next.createdAt
  /-- The content is the compiled one. -/
  content : digestTuple "active_node_record_digests"
      (compiled.activeNodes.map (·.recordDigest kernel.sha)) = .ok next.activeNodeRecordDigests ∧
    digestTuple "active_relation_digests"
      (compiled.activeRelations.map (·.relationDigest kernel.sha)) = .ok next.activeRelationDigests
  /-- The revision has the content and the time of the head. -/
  revised : revision.activeNodeRecordDigests = next.activeNodeRecordDigests ∧
    revision.activeRelationDigests = next.activeRelationDigests ∧
    revision.committedAt = next.updatedAt
  /-- The revision is the next. -/
  graphRevision : next.graphRevision = compiled.nextGraphRevision
  /-- The digest is the compiled one. -/
  graphDigest : next.graphDigest kernel.sha = compiled.nextGraphDigest
  /-- The revision is the head's. -/
  revisionKey : revision.key = (head.graphId, compiled.nextGraphRevision)
  /-- So is its digest. -/
  revisionDigest : revision.graphDigest = compiled.nextGraphDigest
  /-- Its parent is the head before. -/
  parent : revision.parent = some (head.graphRevision, head.graphDigest kernel.sha)
  /-- The revision is new. -/
  freshRevision : ∀ other ∈ before.revisions.rows, other.key ≠ revision.key
  /-- It is stored. -/
  revisions : after.revisions.rows = before.revisions.rows ++ [revision]
  /-- The nodes are members of the revision. -/
  revisionNodes : after.revisionNodes.rows = before.revisionNodes.rows ++
    compiled.activeNodes.map (fun node =>
      ⟨head.graphId, compiled.nextGraphRevision, node.nodeId, node.recordDigest kernel.sha⟩)
  /-- So are the relations. -/
  revisionRelations : after.revisionRelations.rows = before.revisionRelations.rows ++
    compiled.activeRelations.map (fun relation =>
      ⟨head.graphId, compiled.nextGraphRevision, relation.relationId,
        relation.relationDigest kernel.sha⟩)
  /-- The added nodes are stored. -/
  nodes : RecordsStored before.nodes after.nodes head.graphId (·.recordDigest kernel.sha)
    compiled.addedNodes
  /-- The added relations are stored. -/
  relations : RecordsStored before.relations after.relations head.graphId
    (·.relationDigest kernel.sha) compiled.addedRelations
  /-- The event is new. -/
  freshEvent : ∀ other ∈ before.events.rows, other.semanticEventId ≠ event.semanticEventId
  /-- It is stored. -/
  events : after.events.rows = before.events.rows ++ [event]
  /-- The other tables stay. -/
  others : after.graphs = before.graphs ∧ after.heads = before.heads ∧
    after.patches = before.patches ∧ after.attachReceipts = before.attachReceipts ∧
    after.commitReceipts = before.commitReceipts

/-- A compiled patch has the digest of the head it leads to. -/
theorem SemanticKernel.nextGraphDigest_of_compile {kernel : SemanticKernel}
    {head : SemanticGraphHead} {proposal : SemanticPatchProposalRequest}
    {nodes : List SemanticNode} {relations : List SemanticRelation}
    {compiled : CompiledSemanticPatch}
    (made : kernel.compile head proposal nodes relations = .ok compiled) :
    compiled.base = head ∧
      calculateGraphDigest kernel.sha head.registryVersion head.registryDigest
        (compiled.activeNodes.map (·.recordDigest kernel.sha))
        (compiled.activeRelations.map (·.relationDigest kernel.sha)) =
          .ok compiled.nextGraphDigest := by
  simp only [SemanticKernel.compile, bind_eq_ok, raiseIf_eq_ok, exists_const, pure_eq_ok] at made
  obtain ⟨_, _, _, _, _, _, _, _, _, _, _, _, digest, calculated, rfl⟩ := made
  exact ⟨rfl, calculated⟩

/-- `_write_compiled` writes what the compiled patch leads to. -/
theorem compiledWritten_of_write {kernel : SemanticKernel} {db after : SemanticTables}
    {head next : SemanticGraphHead} {request : SemanticCommitRequest}
    {compiled : CompiledSemanticPatch} {event : SemanticCommitEvent} {now : Timestamp}
    (digest : calculateGraphDigest kernel.sha head.registryVersion head.registryDigest
      (compiled.activeNodes.map (·.recordDigest kernel.sha))
      (compiled.activeRelations.map (·.relationDigest kernel.sha)) = .ok compiled.nextGraphDigest)
    (done : AgentDb.writeCompiled kernel db head request compiled event now = .ok (after, next)) :
    ∃ revision, CompiledWritten kernel db after head next compiled revision event := by
  simp only [AgentDb.writeCompiled, bind_eq_ok, require_eq_ok, Table.insert?_eq_some,
    pure_eq_ok, Prod.mk.injEq] at done
  obtain ⟨nodes, nodesStored, relations, relationsStored, nextHead, headMade, revision,
    revisionMade, revisions, ⟨freshRevision, rfl⟩, revisionNodes, nodesInserted,
    revisionRelations, relationsInserted, events, ⟨freshEvent, rfl⟩, rfl, rfl⟩ := done
  obtain ⟨graph, scope, number, version, registry, nodeTuple, relationTuple⟩ :=
    SemanticGraphHead.create_eq_ok headMade
  obtain ⟨revisionGraph, revisionNumber, revisionDigest, parent, _⟩ :=
    SemanticGraphRevision.create_eq_ok revisionMade
  obtain ⟨createdBy, createdAt, updatedAt, ordered⟩ := SemanticGraphHead.times_of_create headMade
  obtain ⟨revisedNodes, revisedRelations, committedAt⟩ :=
    SemanticGraphRevision.content_of_create revisionMade
  rw [digestTuple_digestTuple nodeTuple] at revisedNodes
  rw [digestTuple_digestTuple relationTuple] at revisedRelations
  refine ⟨revision, ?_⟩
  exact
    { graphId := graph
      scopeRef := scope
      registry := ⟨version, registry⟩
      creation := ⟨createdBy, createdAt, by rw [createdAt, updatedAt]; exact ordered⟩
      content := ⟨nodeTuple, relationTuple⟩
      revised := ⟨(Except.ok.inj revisedNodes).symm, (Except.ok.inj revisedRelations).symm,
        committedAt.trans updatedAt.symm⟩
      graphRevision := number
      graphDigest := by
        simp only [calculateGraphDigest, nodeTuple, relationTuple, bind_eq_ok, pure_eq_ok,
          Except.ok.injEq, exists_eq_left'] at digest
        rw [SemanticGraphHead.graphDigest, version, registry, digest]
      revisionKey := by rw [SemanticGraphRevision.key, revisionGraph, revisionNumber]
      revisionDigest := revisionDigest
      parent := parent
      freshRevision := fun other member same =>
        freshRevision (List.mem_map.mpr ⟨other, member, same⟩)
      revisions := rfl
      revisionNodes := rows_of_insertMembers nodesInserted
      revisionRelations := rows_of_insertMembers relationsInserted
      nodes := recordsStored_of_foldlM nodesStored
      relations := recordsStored_of_foldlM relationsStored
      freshEvent := fun other member same => freshEvent (List.mem_map.mpr ⟨other, member, same⟩)
      events := rfl
      others := ⟨rfl, rfl, rfl, rfl, rfl⟩ }

/-- The columns a proposal has after its commit. -/
def SemanticProposalRecord.commit (record : SemanticProposalRecord) (now : Timestamp) :
    SemanticProposalRecord :=
  { record with state := .committed, terminalAt := some now }

/-- The values a commit has read and computed. -/
structure CommitParts where
  /-- The row of the head it has replaced. -/
  headRow : SemanticGraphHeadRow
  /-- The stored proposal. -/
  record : SemanticProposalRecord
  /-- Its compilation. -/
  compiled : CompiledSemanticPatch
  /-- The next head. -/
  next : SemanticGraphHead
  /-- The next revision. -/
  revision : SemanticGraphRevision
  /-- The event of the graph. -/
  event : SemanticCommitEvent

/-- A patch has been committed. -/
structure PatchCommitted (kernel : SemanticKernel) (before after : AgentDb)
    (request : SemanticCommitRequest) (permit : AgentOwnershipPermit) (now : Timestamp)
    (receipt : SemanticCommitReceipt) (parts : CommitParts) : Prop where
  /-- The commit is new. -/
  fresh : ∀ other ∈ before.semantic.commitReceipts.rows, other.commitId ≠ request.commitId
  /-- The head is that of the request's graph. -/
  held : parts.headRow ∈ before.semantic.heads.rows ∧
    parts.headRow.graphId = request.proposal.graphId
  /-- The head is the request's base. -/
  based : parts.headRow.head.graphRevision = request.proposal.baseGraphRevision ∧
    parts.headRow.head.graphDigest kernel.sha = request.proposal.baseGraphDigest
  /-- An active run under its owner's permit, bound to the head, is bound to the next one. -/
  bound : ∃ row owner current moved event advance,
    before.Validated kernel.sha request.proposal.agentRunId permit now row owner current ∧
      row.semanticState = some (parts.headRow.head.toSemanticStateBinding kernel.sha) ∧
      advance.newBinding = parts.next.toSemanticStateBinding kernel.sha ∧
      SemanticMove kernel.sha before.agent after.agent row moved event advance
  /-- The proposal is stored, as proposed. -/
  proposed : parts.record ∈ before.semantic.patches.rows ∧ parts.record.state = .proposed ∧
    parts.record.proposal.proposalId = request.proposal.proposalId ∧
    parts.record.proposal.proposalDigest kernel.sha =
      request.proposal.proposalDigest kernel.sha ∧
    parts.record.proposal.patch = request.proposal.patch
  /-- It compiles against the head and its active records. -/
  compiles : kernel.compile parts.headRow.head parts.record.proposal
    (before.semantic.activeNodes parts.headRow.head.graphId parts.headRow.head.graphRevision)
    (before.semantic.activeRelations parts.headRow.head.graphId
      parts.headRow.head.graphRevision) = .ok parts.compiled
  /-- What the compilation leads to is written. -/
  written : ∃ mid, CompiledWritten kernel before.semantic mid parts.headRow.head parts.next
      parts.compiled parts.revision parts.event ∧
    after.semantic =
      { mid with
        heads := after.semantic.heads
        patches := after.semantic.patches
        commitReceipts := after.semantic.commitReceipts }
  /-- The head is replaced. -/
  heads : before.semantic.HeadReplaced kernel.sha after.semantic parts.headRow parts.next
  /-- The event is the commit's. -/
  evented : parts.event.graphId = parts.headRow.head.graphId ∧
    parts.event.graphRevision = parts.compiled.nextGraphRevision ∧
    parts.event.graphDigest = parts.compiled.nextGraphDigest ∧
    parts.event.proposalDigest = parts.record.proposal.proposalDigest kernel.sha
  /-- The proposal is committed. -/
  patches : after.semantic.patches.rows = before.semantic.patches.rows.map (fun other =>
    if other.proposal.proposalId = parts.record.proposal.proposalId then other.commit now
    else other)
  /-- The receipt is the commit's. -/
  recorded : receipt.commitId = request.commitId ∧
    receipt.requestDigest = request.requestDigest kernel.sha ∧
    receipt.proposalId = parts.record.proposal.proposalId ∧
    receipt.proposalDigest = parts.record.proposal.proposalDigest kernel.sha ∧
    receipt.graphId = parts.headRow.head.graphId ∧
    receipt.graphRevision = parts.compiled.nextGraphRevision ∧
    receipt.graphDigest = parts.compiled.nextGraphDigest ∧
    receipt.semanticEventId = parts.event.semanticEventId
  /-- It is stored. -/
  receipts : after.semantic.commitReceipts.rows =
    before.semantic.commitReceipts.rows ++ [receipt]

namespace AgentDb

variable {kernel : SemanticKernel} {fault : String → Bool} {db after : AgentDb}

/-- The checks that lead to a compiled patch. -/
theorem compileRequest_eq_ok {request : SemanticCommitRequest} {permit : AgentOwnershipPermit}
    {now : Timestamp} {current : AgentRunProjection} {binding : Option SemanticStateBinding}
    {head : SemanticGraphHead} {compiled : CompiledSemanticPatch}
    (compiles : db.compileRequest kernel request permit now =
      .ok (current, binding, head, compiled)) :
    ∃ row owner headRow record,
      db.Validated kernel.sha request.proposal.agentRunId permit now row owner current ∧
      binding = row.semanticState ∧
      row.semanticState = some (head.toSemanticStateBinding kernel.sha) ∧
      headRow ∈ db.semantic.heads.rows ∧ headRow.graphId = request.proposal.graphId ∧
      headRow.head = head ∧ head.graphRevision = request.proposal.baseGraphRevision ∧
      head.graphDigest kernel.sha = request.proposal.baseGraphDigest ∧
      record ∈ db.semantic.patches.rows ∧ record.state = .proposed ∧
      record.proposal.proposalId = request.proposal.proposalId ∧
      record.proposal.proposalDigest kernel.sha = request.proposal.proposalDigest kernel.sha ∧
      record.proposal.patch = request.proposal.patch ∧
      kernel.compile head record.proposal
        (db.semantic.activeNodes head.graphId head.graphRevision)
        (db.semantic.activeRelations head.graphId head.graphRevision) = .ok compiled := by
  simp only [compileRequest, bind_eq_ok, raiseIf_eq_ok, require_eq_ok, exists_const, ne_eq,
    not_not, not_or, pure_eq_ok, Prod.mk.injEq] at compiles
  obtain ⟨⟨projection, bound⟩, validated, graphHead, read, ⟨number, base, _⟩, pinned, record, found,
    ⟨proposed, digest, patch⟩, result, compiled_ok, _, rfl, rfl, rfl, rfl⟩ := compiles
  obtain ⟨row, owner, valid, same⟩ := validateAgent_eq_ok validated
  obtain ⟨headRow, held, named, rfl⟩ := headOnConnection_eq_ok read
  obtain ⟨stored, identifier⟩ := (db.semantic.patches.find?_eq_some _ _).mp found
  exact ⟨row, owner, headRow, record, valid, same, same.symm.trans pinned, held, named, rfl, number,
    base, stored, proposed, identifier, digest, patch, compiled_ok⟩

/-- An inserted receipt is last. -/
theorem insertReceipt_eq_ok {semantic final : SemanticTables} {receipt : SemanticCommitReceipt}
    (inserted : insertReceipt semantic receipt = .ok final) :
    ∃ receipts, final = { semantic with commitReceipts := receipts } ∧
      receipts.rows = semantic.commitReceipts.rows ++ [receipt] := by
  simp only [insertReceipt, bind_eq_ok, raiseIf_eq_ok, require_eq_ok, exists_const, pure_eq_ok,
    Table.insert?_eq_some] at inserted
  obtain ⟨_, receipts, ⟨_, rfl⟩, rfl⟩ := inserted
  exact ⟨_, rfl, rfl⟩

/-- `commit_patch` commits the patch, or finds the receipt of the same request and writes
nothing. -/
theorem commitPatch_eq_ok {request : SemanticCommitRequest} {permit : AgentOwnershipPermit}
    {semanticEventId agentEventId : Uuid} {now : Timestamp}
    {outcome : Except MacrError SemanticCommitReceipt} (named : db.semantic.HeadsNamed)
    (done : db.commitPatch kernel fault request permit semanticEventId agentEventId now =
      .ok (after, outcome)) :
    permit.digest kernel.sha = request.ownershipPermitDigest ∧ ∃ receipt, outcome = .ok receipt ∧
      ((after = db ∧ receipt ∈ db.semantic.commitReceipts.rows ∧
          receipt.commitId = request.commitId ∧
          receipt.requestDigest = request.requestDigest kernel.sha) ∨
        ∃ parts, PatchCommitted kernel db after request permit now receipt parts) := by
  simp only [commitPatch, bind_eq_ok, raiseIf_eq_ok, exists_const, ne_eq, not_not] at done
  obtain ⟨permitted, done⟩ := done
  refine ⟨permitted, ?_⟩
  split at done
  · rename_i receipt found
    obtain ⟨stored, identifier⟩ := (db.semantic.commitReceipts.find?_eq_some _ _).mp found
    split at done
    · exact absurd done (by simp)
    · rename_i same
      simp only [commit_eq_ok, Prod.mk.injEq] at done
      exact ⟨receipt, done.2, .inl ⟨done.1, stored, identifier, not_not.mp same⟩⟩
  · rename_i absent
    simp only [bind_eq_ok, faultAt_eq_ok, exists_const, commit_eq_ok, Prod.mk.injEq] at done
    obtain ⟨⟨current, binding, head, compiled⟩, compiles, ⟨mid, next⟩, wrote, _, swapped, swap, _,
      event, built, ⟨agent, projection⟩, committed, _, final, inserted, _, rfl, rfl⟩ := done
    obtain ⟨row, owner, headRow, record, valid, rfl, pinned, held, graph, rfl, number, start, stored,
      proposed, identifier, digest, patch, compiled_ok⟩ := compileRequest_eq_ok compiles
    obtain ⟨base, calculated⟩ := SemanticKernel.nextGraphDigest_of_compile compiled_ok
    obtain ⟨revision, written⟩ := compiledWritten_of_write calculated wrote
    obtain ⟨moved, move, _⟩ := semanticMove_of_commit valid.stored valid.holds built committed
    obtain ⟨graphs, heads, patches, attaches, commits⟩ := written.others
    have midNamed : mid.HeadsNamed := by
      rw [SemanticTables.HeadsNamed, heads]
      exact named
    have midHeld : headRow ∈ mid.heads.rows := by rw [heads]; exact held
    obtain ⟨replaced, newHeads, rfl⟩ := headReplaced_of_swapHead midNamed midHeld swap
    obtain ⟨receipts, rfl, grown⟩ := insertReceipt_eq_ok inserted
    refine ⟨_, rfl, .inr ⟨⟨headRow, record, compiled, next, revision,
      { semanticEventId := semanticEventId
        graphId := headRow.head.graphId
        graphRevision := compiled.nextGraphRevision
        graphDigest := compiled.nextGraphDigest
        agentRunId := request.proposal.agentRunId
        proposalDigest := request.proposal.proposalDigest kernel.sha
        patchDigest := request.proposal.patch.patchDigest kernel.sha
        authorizationDigest := request.authorizationReference.digest
        createdAt := now }⟩, ?_⟩⟩
    have same_heads : mid.heads.rows = db.semantic.heads.rows := congrArg (·.rows) heads
    exact
      { fresh := (db.semantic.commitReceipts.find?_eq_none _).mp absent
        held := ⟨held, graph⟩
        based := ⟨number, start⟩
        bound := ⟨row, owner, current, moved, event, _, valid, pinned, rfl, move⟩
        proposed := ⟨stored, proposed, identifier, digest, patch⟩
        compiles := compiled_ok
        written := ⟨mid, written, rfl⟩
        heads := by
          rw [SemanticTables.HeadReplaced, ← same_heads]
          exact replaced
        evented := ⟨rfl, rfl, rfl, digest.symm⟩
        patches := by
          simp only [commitProposal, Table.update, patches, identifier]
          apply List.map_congr_left
          intro other member
          by_cases same : other.proposal.proposalId = request.proposal.proposalId
          · have equal := db.semantic.patches.eq_of_key member stored (same.trans identifier.symm)
            have state : other.state = .proposed := by rw [equal]; exact proposed
            rw [if_pos same, if_pos (by simp [same, state])]
            rfl
          · rw [if_neg same, if_neg (by simp [same])]
        recorded := ⟨rfl, rfl, identifier.symm, digest.symm, written.graphId, written.graphRevision,
          written.graphDigest, rfl⟩
        receipts := by rw [← commits]; exact grown }

end AgentDb

/-- A patch that compiles is one for the head. -/
theorem SemanticKernel.base_of_compile {kernel : SemanticKernel} {head : SemanticGraphHead}
    {proposal : SemanticPatchProposalRequest} {nodes : List SemanticNode}
    {relations : List SemanticRelation} {compiled : CompiledSemanticPatch}
    (made : kernel.compile head proposal nodes relations = .ok compiled) :
    proposal.graphId = head.graphId ∧ proposal.baseGraphRevision = head.graphRevision ∧
      proposal.baseGraphDigest = head.graphDigest kernel.sha := by
  simp only [SemanticKernel.compile, SemanticKernel.requireBase, bind_eq_ok, raiseIf_eq_ok,
    exists_const, ne_eq, not_or, not_not] at made
  exact made.1.1

namespace PatchCommitted

variable {kernel : SemanticKernel} {before after : AgentDb} {request : SemanticCommitRequest}
  {permit : AgentOwnershipPermit} {now : Timestamp} {receipt : SemanticCommitReceipt}
  {parts : CommitParts}

/-- The next revision follows the head. -/
theorem nextGraphRevision
    (commit : PatchCommitted kernel before after request permit now receipt parts) :
    parts.compiled.nextGraphRevision = parts.headRow.head.graphRevision + 1 := by
  rw [CompiledSemanticPatch.nextGraphRevision,
    (SemanticKernel.nextGraphDigest_of_compile commit.compiles).1]

/-- The revision is stored last. -/
theorem revisions
    (commit : PatchCommitted kernel before after request permit now receipt parts) :
    after.semantic.revisions.rows = before.semantic.revisions.rows ++ [parts.revision] := by
  obtain ⟨mid, written, same⟩ := commit.written
  rw [same]
  exact written.revisions

/-- The event is stored last. -/
theorem events
    (commit : PatchCommitted kernel before after request permit now receipt parts) :
    after.semantic.events.rows = before.semantic.events.rows ++ [parts.event] := by
  obtain ⟨mid, written, same⟩ := commit.written
  rw [same]
  exact written.events

/-- The graphs stay. -/
theorem graphs
    (commit : PatchCommitted kernel before after request permit now receipt parts) :
    after.semantic.graphs = before.semantic.graphs := by
  obtain ⟨mid, written, same⟩ := commit.written
  rw [same]
  exact written.others.1

/-- A head afterwards is one before, or the next. -/
theorem mem_heads
    (commit : PatchCommitted kernel before after request permit now receipt parts)
    {row : SemanticGraphHeadRow} (member : row ∈ after.semantic.heads.rows) :
    (row ∈ before.semantic.heads.rows ∧ row.graphId ≠ parts.headRow.graphId) ∨
      row = ⟨parts.headRow.graphId, parts.next.graphRevision, parts.next.graphDigest kernel.sha,
        parts.next⟩ := by
  rw [commit.heads] at member
  obtain ⟨old, held, rfl⟩ := List.mem_map.mp member
  by_cases same : old.graphId = parts.headRow.graphId
  · rw [if_pos same, same]
    exact .inr rfl
  · rw [if_neg same]
    exact .inl ⟨held, same⟩

/-- A proposal afterwards is another one before, or the committed one. -/
theorem mem_patches
    (commit : PatchCommitted kernel before after request permit now receipt parts)
    {record : SemanticProposalRecord} :
    record ∈ after.semantic.patches.rows ↔
      (record ∈ before.semantic.patches.rows ∧
        record.proposal.proposalId ≠ parts.record.proposal.proposalId) ∨
      record = parts.record.commit now := by
  have stored := commit.proposed.1
  rw [commit.patches, List.mem_map]
  constructor
  · rintro ⟨old, held, rfl⟩
    by_cases same : old.proposal.proposalId = parts.record.proposal.proposalId
    · rw [if_pos same, before.semantic.patches.eq_of_key held stored same]
      exact .inr rfl
    · rw [if_neg same]
      exact .inl ⟨held, same⟩
  · rintro (⟨held, other⟩ | rfl)
    · exact ⟨record, held, if_neg other⟩
    · exact ⟨parts.record, stored, if_pos rfl⟩

end PatchCommitted

/-! ## Creating a graph -/

/-- A graph has been created with its first revision. -/
structure GraphCreated (sha : Sha256) (before after : AgentDb) (graph : SemanticGraphRow)
    (headRow : SemanticGraphHeadRow) (revision : SemanticGraphRevision) : Prop where
  /-- The agent tables stay. -/
  agent : after.agent = before.agent
  /-- The graph is new. -/
  fresh : ∀ other ∈ before.semantic.graphs.rows, other.graphId ≠ headRow.graphId
  /-- The row is the head's. -/
  named : headRow.head.graphId = headRow.graphId ∧ graph.graphId = headRow.graphId ∧
    headRow.currentRevision = headRow.head.graphRevision ∧
    headRow.currentGraphDigest = headRow.head.graphDigest sha
  /-- The head is the first revision. -/
  first : headRow.head.graphRevision = 1
  /-- The graph has the head's scope. -/
  scopeRef : graph.scopeRef = headRow.head.scopeRef
  /-- The graph has the head's registry. -/
  registry : graph.registryVersion = headRow.head.registryVersion ∧
    graph.registryDigest = headRow.head.registryDigest
  /-- The graph has the head's creation. -/
  columns : graph.createdByAgentRunId = headRow.head.createdByAgentRunId ∧
    graph.createdAt = headRow.head.createdAt ∧ headRow.head.updatedAt = headRow.head.createdAt
  /-- The head and the revision are empty. -/
  empty : headRow.head.activeNodeRecordDigests = [] ∧ headRow.head.activeRelationDigests = [] ∧
    revision.activeNodeRecordDigests = [] ∧ revision.activeRelationDigests = []
  /-- The revision is committed with the head. -/
  committedAt : revision.committedAt = headRow.head.createdAt
  /-- The revision is the head's. -/
  revisionKey : revision.key = (headRow.graphId, 1)
  /-- So is its digest. -/
  revisionDigest : revision.graphDigest = headRow.head.graphDigest sha
  /-- It has no parent. -/
  parent : revision.parent = none
  /-- It is new. -/
  freshRevision : ∀ other ∈ before.semantic.revisions.rows, other.key ≠ revision.key
  /-- The graph is stored. -/
  graphs : after.semantic.graphs.rows = before.semantic.graphs.rows ++ [graph]
  /-- The head is stored. -/
  heads : after.semantic.heads.rows = before.semantic.heads.rows ++ [headRow]
  /-- The revision is stored. -/
  revisions : after.semantic.revisions.rows = before.semantic.revisions.rows ++ [revision]
  /-- The other semantic tables stay. -/
  others : after.semantic =
    { before.semantic with
      graphs := after.semantic.graphs
      heads := after.semantic.heads
      revisions := after.semantic.revisions }

namespace AgentDb

variable {kernel : SemanticKernel} {fault : String → Bool} {db after : AgentDb}

/-- `create_graph` creates the graph. -/
theorem createGraph_eq_ok {graphId createdByAgentRunId : Uuid} {scopeRef : String}
    {createdAt : Timestamp} {outcome : Except MacrError SemanticGraphHead}
    (done : db.createGraph kernel graphId scopeRef createdByAgentRunId createdAt =
      .ok (after, outcome)) :
    ∃ graph headRow revision, GraphCreated kernel.sha db after graph headRow revision ∧
      outcome = .ok headRow.head := by
  simp only [createGraph, SemanticGraphHead.createEmpty, SemanticGraphRevision.fromInitialHead,
    bind_eq_ok, raiseIf_eq_ok, require_eq_ok, exists_const, ne_eq, not_not, commit_eq_ok,
    Table.insert?_eq_some, Prod.mk.injEq] at done
  obtain ⟨_, head, made, revision, ⟨first, revisionMade⟩, _, _, absent, _, ⟨_, rfl⟩, _, ⟨_, rfl⟩, _,
    ⟨freshRevision, rfl⟩, rfl, rfl⟩ := done
  obtain ⟨revisionGraph, revisionNumber, revisionDigest, parent, _⟩ :=
    SemanticGraphRevision.create_eq_ok revisionMade
  obtain ⟨_, _, _, _, _, nodes, relations⟩ := SemanticGraphHead.create_eq_ok made
  obtain ⟨_, createdAt, updatedAt, _⟩ := SemanticGraphHead.times_of_create made
  obtain ⟨revisedNodes, revisedRelations, committedAt⟩ :=
    SemanticGraphRevision.content_of_create revisionMade
  rw [digestTuple_nil] at nodes relations
  have noNodes : head.activeNodeRecordDigests = [] := (Except.ok.inj nodes).symm
  have noRelations : head.activeRelationDigests = [] := (Except.ok.inj relations).symm
  rw [noNodes, digestTuple_nil] at revisedNodes
  rw [noRelations, digestTuple_nil] at revisedRelations
  refine ⟨⟨head.graphId, head.scopeRef, head.registryVersion, head.registryDigest,
      head.createdByAgentRunId, head.createdAt⟩,
    ⟨head.graphId, head.graphRevision, head.graphDigest kernel.sha, head⟩, revision, ?_, rfl⟩
  exact
    { agent := rfl
      fresh := (db.semantic.graphs.find?_eq_none _).mp absent
      named := ⟨rfl, rfl, rfl, rfl⟩
      first := first
      scopeRef := rfl
      registry := ⟨rfl, rfl⟩
      columns := ⟨rfl, rfl, updatedAt.trans createdAt.symm⟩
      empty := ⟨noNodes, noRelations, (Except.ok.inj revisedNodes).symm,
        (Except.ok.inj revisedRelations).symm⟩
      committedAt := committedAt
      revisionKey := by rw [SemanticGraphRevision.key, revisionGraph, revisionNumber]
      revisionDigest := revisionDigest
      parent := parent
      freshRevision := fun other member same =>
        freshRevision (List.mem_map.mpr ⟨other, member, same⟩)
      graphs := rfl
      heads := rfl
      revisions := rfl
      others := rfl }

/-! ## The calls -/

/-- A committed transaction of the agent tables. -/
theorem onAgent_eq_ok {α : Type} {wrap : α → AgentOutcome}
    {result : Except MacrError (Committed AgentTables α)} {outcome : Except MacrError AgentOutcome}
    (done : db.onAgent wrap result = .ok (after, outcome)) :
    ∃ agent value, result = .ok (agent, value) ∧ after = { db with agent := agent } ∧
      outcome = value.map wrap := by
  cases result with
  | error raised => exact absurd done (by simp [onAgent, Except.map])
  | ok committed =>
    simp only [onAgent, Except.map, Except.ok.injEq, Prod.mk.injEq] at done
    exact ⟨committed.1, committed.2, rfl, done.1.symm, done.2.symm⟩

/-- A committed transaction of the database. -/
theorem onDb_eq_ok {α : Type} {wrap : α → AgentOutcome}
    {result : Except MacrError (Committed AgentDb α)} {outcome : Except MacrError AgentOutcome}
    (done : onDb wrap result = .ok (after, outcome)) :
    ∃ value, result = .ok (after, value) ∧ outcome = value.map wrap := by
  cases result with
  | error raised => exact absurd done (by simp [onDb, Except.map])
  | ok committed =>
    simp only [onDb, Except.map, Except.ok.injEq, Prod.mk.injEq] at done
    obtain ⟨rfl, rfl⟩ := done
    exact ⟨committed.2, rfl, rfl⟩

/-- What a committed call does to the semantic tables. -/
inductive SemanticEffect (kernel : SemanticKernel) (before after : AgentDb) : Prop where
  /-- Nothing. -/
  | idle (same : after.semantic = before.semantic)
  /-- A graph is created. -/
  | created {graph : SemanticGraphRow} {headRow : SemanticGraphHeadRow}
      {revision : SemanticGraphRevision}
      (creation : GraphCreated kernel.sha before after graph headRow revision)
  /-- A graph is attached. -/
  | attached {request : AttachRequest} {now : Timestamp} {receipt : SemanticAttachReceipt}
      (attachment : GraphAttached kernel.sha before after request now receipt)
  /-- A patch is committed. -/
  | committed {request : SemanticCommitRequest} {permit : AgentOwnershipPermit} {now : Timestamp}
      {receipt : SemanticCommitReceipt} {parts : CommitParts}
      (commit : PatchCommitted kernel before after request permit now receipt parts)

/-- What a committed call does to both halves of the database. -/
theorem effects_of_perform {call : AgentCall} {outcome : Except MacrError AgentOutcome}
    (named : db.semantic.HeadsNamed) (done : db.perform kernel call = .ok (after, outcome)) :
    AgentEffect kernel.sha db.agent after.agent ∧ SemanticEffect kernel db after := by
  cases call with
  | createAgentRun fault header eventId =>
    obtain ⟨agent, _, made, rfl, _⟩ := onAgent_eq_ok done
    exact ⟨AgentTables.effect_of_createAgentRun made, .idle rfl⟩
  | transitionUnowned fault agentRunId expectedState targetState expectedRevision expectedEpoch
      body createdAt eventId =>
    obtain ⟨agent, _, made, rfl, _⟩ := onAgent_eq_ok done
    exact ⟨AgentTables.effect_of_transitionUnowned made, .idle rfl⟩
  | acquireOwnership fault agentRunId ownerId expectedRevision expectedEpoch observedAt expiresAt
      leaseId eventId =>
    obtain ⟨agent, _, made, rfl, _⟩ := onAgent_eq_ok done
    exact ⟨AgentTables.effect_of_acquireOwnership made, .idle rfl⟩
  | renewOwnership permit observedAt expiresAt =>
    obtain ⟨agent, _, made, rfl, _⟩ := onAgent_eq_ok done
    exact ⟨AgentTables.effect_of_renewOwnership made, .idle rfl⟩
  | releaseOwnership permit =>
    obtain ⟨agent, _, made, rfl, _⟩ := onAgent_eq_ok done
    exact ⟨AgentTables.effect_of_releaseOwnership made, .idle rfl⟩
  | transitionOwned fault permit expectedStates targetState expectedRevision expectedEpoch body
      createdAt eventId =>
    obtain ⟨agent, _, made, rfl, _⟩ := onAgent_eq_ok done
    exact ⟨AgentTables.effect_of_transitionOwned made, .idle rfl⟩
  | createGraph graphId scopeRef createdByAgentRunId createdAt =>
    obtain ⟨_, made, _⟩ := onDb_eq_ok done
    obtain ⟨graph, headRow, revision, creation, _⟩ := createGraph_eq_ok made
    exact ⟨.idle creation.agent, .created creation⟩
  | attachGraph fault request now =>
    obtain ⟨_, made, _⟩ := onDb_eq_ok done
    obtain ⟨receipt, _, ⟨rfl, _⟩ | attachment⟩ := attachGraph_eq_ok made
    · exact ⟨.idle rfl, .idle rfl⟩
    · obtain ⟨row, _, _, _, _, _, _, valid, _, _, _, _, move⟩ := attachment.bound
      exact ⟨move.effect (by rw [valid.active]; rfl), .attached attachment⟩
  | commitPatch fault request permit semanticEventId agentEventId now =>
    obtain ⟨_, made, _⟩ := onDb_eq_ok done
    obtain ⟨_, receipt, _, ⟨rfl, _⟩ | ⟨parts, commit⟩⟩ := commitPatch_eq_ok named made
    · exact ⟨.idle rfl, .idle rfl⟩
    · obtain ⟨row, _, _, _, _, _, valid, _, _, move⟩ := commit.bound
      exact ⟨move.effect (by rw [valid.active]; rfl), .committed commit⟩

end AgentDb

/-! ## Heads keep their names -/

/-- The heads stay stored under the graphs they describe. -/
theorem AgentDb.SemanticEffect.headsNamed {kernel : SemanticKernel} {before after : AgentDb}
    (named : before.semantic.HeadsNamed) (effect : AgentDb.SemanticEffect kernel before after) :
    after.semantic.HeadsNamed := by
  cases effect with
  | idle same => rw [same]; exact named
  | @created graph headRow _ creation =>
    intro row member
    rw [creation.heads] at member
    rcases List.mem_append.mp member with earlier | new
    · exact named row earlier
    · rw [List.mem_singleton.mp new]
      exact creation.named.1
  | attached attachment =>
    rw [attachment.others]
    exact named
  | @committed _ _ _ _ parts commit =>
    obtain ⟨mid, written, _⟩ := commit.written
    intro row member
    rw [commit.heads] at member
    obtain ⟨old, held, rfl⟩ := List.mem_map.mp member
    by_cases same : old.graphId = parts.headRow.graphId
    · rw [if_pos same]
      show parts.next.graphId = old.graphId
      rw [written.graphId, named parts.headRow commit.held.1, same]
    · rw [if_neg same]
      exact named old held

/-! ## Steps of the system -/

/-- A new proposal has been saved. -/
structure ProposalSaved (sha : Sha256) (before after : SemanticTables)
    (record : SemanticProposalRecord) : Prop where
  /-- It has not been committed. -/
  uncommitted : record.state ≠ .committed
  /-- Its digest is new. -/
  fresh : ∀ other ∈ before.patches.rows,
    other.proposal.proposalDigest sha ≠ record.proposal.proposalDigest sha
  /-- It is stored. -/
  patches : after.patches.rows = before.patches.rows ++ [record]
  /-- The other tables stay. -/
  others : after = { before with patches := after.patches }

/-- What a step of the system does to the database. -/
inductive AgentDb.Effect (kernel : SemanticKernel) (before after : AgentDb) : Prop where
  /-- A call has committed, or nothing has changed. -/
  | call (agent : AgentEffect kernel.sha before.agent after.agent)
      (semantic : AgentDb.SemanticEffect kernel before after)
  /-- A proposal has been saved. -/
  | saved {record : SemanticProposalRecord} (agent : after.agent = before.agent)
      (save : ProposalSaved kernel.sha before.semantic after.semantic record)

/-- Nothing changes. -/
theorem AgentDb.Effect.none {kernel : SemanticKernel} {db : AgentDb} :
    AgentDb.Effect kernel db db :=
  .call (.idle rfl) (.idle rfl)

/-- A stage that saves a record saves one that has not been committed. -/
def ProposeStage.Uncommitted : ProposeStage → Prop
  | .save record => record.state ≠ .committed
  | _ => True

/-- A record of a compilation has not been committed. -/
theorem SemanticProposalRecord.uncommitted_of_ofCompilation {sha : Sha256}
    {proposal : SemanticPatchProposalRequest} {now : Timestamp}
    {result : Except MacrError CompiledSemanticPatch} {record : SemanticProposalRecord}
    (made : ofCompilation sha proposal now result = .ok record) : record.state ≠ .committed := by
  unfold ofCompilation at made
  split at made
  · rw [← Except.ok.inj made]
    simp
  · rw [← Except.ok.inj made]
    simp
  · exact absurd made (by simp)

/-- `save_proposal` stores a new record or leaves the tables alone. -/
theorem SemanticTables.saved_of_saveProposal (sha : Sha256) (db : SemanticTables)
    {record : SemanticProposalRecord} (uncommitted : record.state ≠ .committed) :
    (settle db (db.saveProposal sha record)).1 = db ∨
      ProposalSaved sha db (settle db (db.saveProposal sha record)).1 record := by
  cases done : db.saveProposal sha record with
  | error raised => exact .inl rfl
  | ok result =>
    obtain ⟨after, outcome⟩ := result
    unfold saveProposal at done
    split at done
    · split at done
      · simp only [commit_eq_ok, Prod.mk.injEq] at done
        exact .inl done.1
      · exact absurd done (by simp)
    · simp only [bind_eq_ok, raiseIf_eq_ok, require_eq_ok, exists_const, commit_eq_ok,
        Table.insert?_eq_some, Prod.mk.injEq, not_exists, not_and] at done
      obtain ⟨fresh, _, ⟨_, rfl⟩, rfl, _⟩ := done
      exact .inr ⟨uncommitted, fresh, rfl, rfl⟩

/-- A turn saves no committed record, and the next stage will not. -/
theorem effect_of_stepPropose (kernel : SemanticKernel) (db : SemanticTables)
    (proposal : SemanticPatchProposalRequest) (now : Timestamp) {stage : ProposeStage}
    (uncommitted : stage.Uncommitted) :
    ((AgentSystem.turned db (stepPropose kernel db proposal now stage)).1 = db ∨
        ∃ record, ProposalSaved kernel.sha db
          (AgentSystem.turned db (stepPropose kernel db proposal now stage)).1 record) ∧
      ∀ next, (AgentSystem.turned db (stepPropose kernel db proposal now stage)).2 = some next →
        next.Uncommitted := by
  generalize turn : AgentSystem.turned db (stepPropose kernel db proposal now stage) = turned
  obtain ⟨after, next⟩ := turned
  cases stage with
  | head =>
    simp only [stepPropose] at turn
    split at turn <;> simp only [AgentSystem.turned, Prod.mk.injEq] at turn <;>
      obtain ⟨rfl, rfl⟩ := turn <;> simp [ProposeStage.Uncommitted]
  | nodeRevision head =>
    simp only [stepPropose] at turn
    split at turn <;> simp only [AgentSystem.turned, Prod.mk.injEq] at turn <;>
      obtain ⟨rfl, rfl⟩ := turn <;> simp [ProposeStage.Uncommitted]
  | nodes head graphRevision =>
    simp only [stepPropose, AgentSystem.turned, Prod.mk.injEq] at turn
    obtain ⟨rfl, rfl⟩ := turn
    simp [ProposeStage.Uncommitted]
  | relationRevision head nodes =>
    simp only [stepPropose] at turn
    split at turn <;> simp only [AgentSystem.turned, Prod.mk.injEq] at turn <;>
      obtain ⟨rfl, rfl⟩ := turn <;> simp [ProposeStage.Uncommitted]
  | relations head nodes graphRevision =>
    simp only [stepPropose] at turn
    split at turn
    · rename_i record made
      simp only [AgentSystem.turned, Prod.mk.injEq] at turn
      obtain ⟨rfl, rfl⟩ := turn
      refine ⟨.inl rfl, ?_⟩
      rintro stage ⟨rfl⟩
      exact SemanticProposalRecord.uncommitted_of_ofCompilation made
    · simp only [AgentSystem.turned, Prod.mk.injEq] at turn
      obtain ⟨rfl, rfl⟩ := turn
      simp
  | save record =>
    simp only [stepPropose, AgentSystem.turned, Prod.mk.injEq] at turn
    obtain ⟨rfl, rfl⟩ := turn
    refine ⟨?_, by simp⟩
    rcases SemanticTables.saved_of_saveProposal kernel.sha db uncommitted with same | save
    · exact .inl same
    · exact .inr ⟨record, save⟩

/-- Heads are stored under their graphs, and no call of `propose_patch` is about to save a
committed record. -/
structure AgentSystem.Formed (system : AgentSystem) : Prop where
  /-- The heads. -/
  named : system.db.semantic.HeadsNamed
  /-- The calls. -/
  uncommitted : ∀ call ∈ system.proposals, ∀ stage, call.stage = some stage → stage.Uncommitted

namespace AgentSystem

variable {kernel : SemanticKernel}

/-- A new system is formed. -/
theorem formed_initial : initial.Formed := by
  constructor
  · intro row member
    exact absurd member (by simp [initial, AgentDb.initial, SemanticTables.initial])
  · intro call member
    exact absurd member (by simp [initial])

/-- The first read of `propose_patch` writes nothing. -/
theorem turned_beginPropose (db : SemanticTables) (proposal : SemanticPatchProposalRequest) :
    (turned db (beginPropose db proposal)).1 = db ∧
      ∀ stage, (turned db (beginPropose db proposal)).2 = some stage → stage.Uncommitted := by
  unfold beginPropose
  split
  · simp [turned, ProposeStage.Uncommitted]
  · split <;> simp [turned]

/-- A step has one of the effects. -/
theorem effect_of_step {system : AgentSystem} (formed : system.Formed) (action : AgentAction) :
    AgentDb.Effect kernel system.db (step kernel system action).db := by
  cases action with
  | call call =>
    simp only [step]
    cases done : system.db.perform kernel call with
    | error raised => exact .none
    | ok result =>
      obtain ⟨after, outcome⟩ := result
      obtain ⟨agent, semantic⟩ := AgentDb.effects_of_perform formed.named done
      exact .call agent semantic
  | propose proposal now =>
    have same : (step kernel system (.propose proposal now)).db = system.db := by
      simp only [step, (turned_beginPropose system.db.semantic proposal).1]
    rw [same]
    exact .none
  | proceed index =>
    simp only [step]
    split
    · rename_i proposal now stage found
      have member := List.mem_of_getElem? found
      have uncommitted : stage.Uncommitted := formed.uncommitted _ member stage rfl
      have turn := effect_of_stepPropose kernel system.db.semantic proposal now uncommitted
      rcases turn.1 with same | ⟨record, save⟩
      · rw [same]
        exact .none
      · exact .saved rfl save
    · exact .none

/-- An effect keeps the heads under their graphs. -/
theorem headsNamed_of_effect {before after : AgentDb} (named : before.semantic.HeadsNamed)
    (effect : AgentDb.Effect kernel before after) : after.semantic.HeadsNamed := by
  cases effect with
  | call _ semantic => exact semantic.headsNamed named
  | saved _ save =>
    rw [save.others]
    exact named

/-- A step keeps the system formed. -/
theorem formed_step {system : AgentSystem} (formed : system.Formed) (action : AgentAction) :
    (step kernel system action).Formed := by
  refine ⟨headsNamed_of_effect formed.named (effect_of_step formed action), ?_⟩
  cases action with
  | call call => exact formed.uncommitted
  | propose proposal now =>
    intro call member stage later
    rcases List.mem_append.mp member with earlier | new
    · exact formed.uncommitted call earlier stage later
    · rw [List.mem_singleton.mp new] at later
      exact (turned_beginPropose system.db.semantic proposal).2 stage later
  | proceed index =>
    simp only [step]
    split
    · rename_i proposal now stage found
      have held := List.mem_of_getElem? found
      have uncommitted : stage.Uncommitted := formed.uncommitted _ held stage rfl
      intro call member next later
      rcases List.mem_or_eq_of_mem_set member with earlier | rfl
      · exact formed.uncommitted call earlier next later
      · have turn := effect_of_stepPropose kernel system.db.semantic proposal now uncommitted
        exact turn.2 next later
    · exact formed.uncommitted

end AgentSystem

end Macr
