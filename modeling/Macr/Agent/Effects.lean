import Macr.Agent.Store

/-!
# Effects of the agent store

What a committed operation can do to the agent tables, said once: nothing, create a run with its
first event, move one run along one event, acquire a run, prolong a lease or give one up. Every
invariant of the store is derived from these six effects.
-/

namespace Macr

open Lib

/-- The columns of a row are those of a projection. -/
structure AgentRunRow.Holds (sha : Sha256) (row : AgentRunRow) (projection : AgentRunProjection) :
    Prop where
  /-- The identifier. -/
  agentRunId : row.agentRunId = projection.agentRunId
  /-- The subject. -/
  subjectDigest : row.subjectDigest = projection.subjectDigest
  /-- The header. -/
  initialHeader : row.initialHeader = projection.initialHeader
  /-- The state. -/
  state : row.state = projection.state
  /-- The revision. -/
  stateRevision : row.stateRevision = projection.stateRevision
  /-- The epoch. -/
  epoch : row.epoch = projection.epoch
  /-- The digest. -/
  stateDigest : row.stateDigest = projection.stateDigest sha
  /-- The time of the last event. -/
  updatedAt : row.updatedAt = projection.updatedAt

/-- A row read as a projection holds it. -/
theorem AgentRunRow.projection_eq_ok {sha : Sha256} {row : AgentRunRow}
    {projection : AgentRunProjection} (read : row.projection sha = .ok projection) :
    row.Holds sha projection := by
  unfold AgentRunRow.projection at read
  split at read
  · simp only [bind_eq_ok, raiseIf_eq_ok, exists_const, pure_eq_ok, ne_eq, not_not] at read
    obtain ⟨identity, subject, digest, rfl⟩ := read
    exact ⟨identity.symm, subject.symm, rfl, rfl, rfl, rfl, digest.symm, rfl⟩
  · exact absurd read (by simp)

/-- A row holds one projection. -/
theorem AgentRunRow.Holds.unique {sha : Sha256} {row : AgentRunRow}
    {left right : AgentRunProjection} (first : row.Holds sha left) (second : row.Holds sha right) :
    left = right := by
  obtain ⟨leftHeader, leftState, leftRevision, leftEpoch, leftTime, _, _⟩ := left
  obtain ⟨rightHeader, rightState, rightRevision, rightEpoch, rightTime, _, _⟩ := right
  have header := first.initialHeader.symm.trans second.initialHeader
  have state := first.state.symm.trans second.state
  have revision := first.stateRevision.symm.trans second.stateRevision
  have epoch := first.epoch.symm.trans second.epoch
  have time := first.updatedAt.symm.trans second.updatedAt
  simp only at header state revision epoch time
  subst header state revision epoch time
  rfl

/-- A new row holds the projection it was written from. -/
theorem AgentRunRow.holds_ofProjection (sha : Sha256) (projection : AgentRunProjection) :
    (AgentRunRow.ofProjection sha projection).Holds sha projection :=
  ⟨rfl, rfl, rfl, rfl, rfl, rfl, rfl, rfl⟩

/-- An ownership row is that of a permit. -/
structure AgentOwnershipRow.Grants (owner : AgentOwnershipRow) (permit : AgentOwnershipPermit) :
    Prop where
  /-- The run. -/
  agentRunId : owner.agentRunId = permit.agentRunId
  /-- The token. -/
  fencingToken : owner.fencingToken = permit.fencingToken
  /-- The epoch. -/
  epoch : owner.epoch = permit.epoch
  /-- The owner. -/
  ownerId : owner.ownerId = permit.ownerId
  /-- The lease. -/
  leaseId : owner.leaseId = permit.leaseId

/-- The semantic binding after an event. -/
def AgentEventBody.bindingAfter (body : AgentEventBody) (binding : Option SemanticStateBinding) :
    Option SemanticStateBinding :=
  match body with
  | .semanticStateAdvanced advance => some advance.newBinding
  | _ => binding

/-- Only a semantic event moves the binding. -/
theorem AgentEventBody.bindingAfter_of_other {body : AgentEventBody}
    {binding : Option SemanticStateBinding}
    (other : ∀ advance, body ≠ .semanticStateAdvanced advance) :
    body.bindingAfter binding = binding := by
  cases body with
  | semanticStateAdvanced advance => exact absurd rfl (other advance)
  | _ => rfl

/-- No state is among its own successors. -/
theorem AgentRunState.not_mem_successors (state : AgentRunState) : state ∉ state.successors := by
  cases state <;> simp [successors]

/-- An event along a transition of the state is a lifecycle event to its target. -/
theorem Continues.targetState_of_moved {sha : Sha256} {current next : AgentRunProjection}
    {event : AgentStateEvent} (continues : Continues sha current event next)
    (allowed : next.state ∈ current.state.successors) :
    event.body.targetState = some next.state := by
  cases lifecycle : event.body.targetState with
  | some target => rw [(continues.moved target lifecycle).1]
  | none =>
    rw [continues.kept lifecycle] at allowed
    exact absurd allowed (AgentRunState.not_mem_successors _)

/-- A lifecycle event is no semantic event. -/
theorem AgentEventBody.not_semantic_of_targetState {body : AgentEventBody}
    {target : AgentRunState} (lifecycle : body.targetState = some target) :
    ∀ advance, body ≠ .semanticStateAdvanced advance := by
  intro advance semantic
  simp [semantic, targetState] at lifecycle

/-- A run has been created with its first event. -/
structure Created (sha : Sha256) (before after : AgentTables) (row : AgentRunRow)
    (event : AgentStateEvent) : Prop where
  /-- The event starts the chain and leads to the row. -/
  applied : ∃ projection, applyAgentEvent sha none event = .ok projection ∧
    row.Holds sha projection
  /-- The event is the row's. -/
  run : event.agentRunId = row.agentRunId
  /-- It acquires nothing and binds nothing. -/
  created : ∃ header, event.body = .runCreated header
  /-- The header's binding is stored. -/
  binding : row.semanticState = row.initialHeader.semanticState
  /-- No row of the run was stored. -/
  new : ∀ other ∈ before.runs.rows, other.agentRunId ≠ row.agentRunId
  /-- The event's identifier is new. -/
  fresh : ∀ other ∈ before.events.rows, other.eventId ≠ event.eventId
  /-- The row is stored. -/
  runs : after.runs.rows = before.runs.rows ++ [row]
  /-- The event is stored. -/
  events : after.events.rows = before.events.rows ++ [event]
  /-- The lineage of the header is stored. -/
  children : ∀ child, child ∈ after.children.rows ↔ child ∈ before.children.rows ∨
    child.childAgentRunId = row.agentRunId ∧
      row.initialHeader.delegation = some (child.parentAgentRunId, child.delegationRef)

/-- A run has moved along an event. -/
structure Advanced (sha : Sha256) (before after : AgentTables) (row next : AgentRunRow)
    (event : AgentStateEvent) : Prop where
  /-- The row was stored. -/
  stored : row ∈ before.runs.rows
  /-- The event leads from the row to the next one. -/
  applied : ∃ current projection, row.Holds sha current ∧
    applyAgentEvent sha (some current) event = .ok projection ∧ next.Holds sha projection
  /-- A semantic event starts from the row's binding. -/
  previous : ∀ advance, event.body = .semanticStateAdvanced advance →
    advance.previousBinding = row.semanticState
  /-- The binding follows the event. -/
  binding : next.semanticState = event.body.bindingAfter row.semanticState
  /-- The event's identifier is new. -/
  fresh : ∀ other ∈ before.events.rows, other.eventId ≠ event.eventId
  /-- The row is replaced. -/
  runs : after.runs.rows =
    before.runs.rows.map (fun other => if other.agentRunId = row.agentRunId then next else other)
  /-- The event is stored. -/
  events : after.events.rows = before.events.rows ++ [event]
  /-- The lineages stay. -/
  children : after.children = before.children

/-- A move continues the projection that the row holds. -/
theorem Advanced.continues {sha : Sha256} {before after : AgentTables} {row next : AgentRunRow}
    {event : AgentStateEvent} (advance : Advanced sha before after row next event) :
    ∃ current projection, row.Holds sha current ∧ next.Holds sha projection ∧
      Continues sha current event projection := by
  obtain ⟨current, projection, holds, applied, written⟩ := advance.applied
  exact ⟨current, projection, holds, written, continues_of_apply applied⟩

/-- A move keeps the run's identifier. -/
theorem Advanced.agentRunId {sha : Sha256} {before after : AgentTables} {row next : AgentRunRow}
    {event : AgentStateEvent} (advance : Advanced sha before after row next event) :
    next.agentRunId = row.agentRunId := by
  obtain ⟨current, projection, holds, written, continues⟩ := advance.continues
  rw [written.agentRunId, holds.agentRunId]
  exact congrArg (·.agentRunId) continues.header

/-- The next row is stored. -/
theorem Advanced.next_mem {sha : Sha256} {before after : AgentTables} {row next : AgentRunRow}
    {event : AgentStateEvent} (advance : Advanced sha before after row next event) :
    next ∈ after.runs.rows := by
  rw [advance.runs]
  exact List.mem_map.mpr ⟨row, advance.stored, if_pos rfl⟩

/-- The rows of other runs stay stored. -/
theorem Advanced.other_mem {sha : Sha256} {before after : AgentTables} {row next other : AgentRunRow}
    {event : AgentStateEvent} (advance : Advanced sha before after row next event)
    (held : other ∈ before.runs.rows) (apart : other.agentRunId ≠ row.agentRunId) :
    other ∈ after.runs.rows := by
  rw [advance.runs]
  exact List.mem_map.mpr ⟨other, held, if_neg apart⟩

/-- The move of a run does not depend on the owners. -/
theorem Advanced.of_same {sha : Sha256} {before after start finish : AgentTables}
    {row next : AgentRunRow} {event : AgentStateEvent}
    (advance : Advanced sha before after row next event)
    (runs_before : start.runs = before.runs) (events_before : start.events = before.events)
    (runs_after : finish.runs = after.runs) (events_after : finish.events = after.events)
    (children_before : start.children = before.children)
    (children_after : finish.children = after.children) :
    Advanced sha start finish row next event where
  stored := by rw [runs_before]; exact advance.stored
  applied := advance.applied
  previous := advance.previous
  binding := advance.binding
  fresh := by rw [events_before]; exact advance.fresh
  runs := by rw [runs_after, runs_before]; exact advance.runs
  events := by rw [events_after, events_before]; exact advance.events
  children := by rw [children_after, children_before]; exact advance.children

/-- What a committed operation can do to the agent tables. -/
inductive AgentEffect (sha : Sha256) (before after : AgentTables) : Prop where
  /-- Nothing. -/
  | idle (same : after = before)
  /-- A run is created. -/
  | created {row : AgentRunRow} {event : AgentStateEvent}
      (creation : Created sha before after row event)
      (ownership : after.ownership = before.ownership)
      (counter : after.fencingCounter = before.fencingCounter)
  /-- A run moves along an event that acquires nothing; a terminal run loses its owner. -/
  | advanced {row next : AgentRunRow} {event : AgentStateEvent}
      (advance : Advanced sha before after row next event)
      (tokenless : event.body.acquiredToken = none)
      (ownership : after.ownership.rows =
        if next.state.isTerminal then
          before.ownership.rows.filter (fun other => other.agentRunId ≠ row.agentRunId)
        else before.ownership.rows)
      (counter : after.fencingCounter = before.fencingCounter)
  /-- A run is acquired under the next token. -/
  | acquired {row next : AgentRunRow} {event : AgentStateEvent} {owner : AgentOwnershipRow}
      (advance : Advanced sha before after row next event)
      (token : event.body.acquiredToken = some owner.fencingToken)
      (drawn : owner.fencingToken = before.fencingCounter + 1)
      (run : owner.agentRunId = row.agentRunId)
      (epoch : owner.epoch = next.epoch)
      (ownership : after.ownership.rows =
        before.ownership.rows.filter (fun other => other.agentRunId ≠ row.agentRunId) ++ [owner])
      (counter : after.fencingCounter = before.fencingCounter + 1)
  /-- A lease is prolonged. -/
  | renewed {owner : AgentOwnershipRow} (expiresAt : Timestamp)
      (held : owner ∈ before.ownership.rows)
      (ownership : after.ownership.rows = before.ownership.rows.map (fun other =>
        if other.agentRunId = owner.agentRunId then { other with expiresAt := expiresAt } else other))
      (runs : after.runs = before.runs) (events : after.events = before.events)
      (counter : after.fencingCounter = before.fencingCounter)
      (children : after.children = before.children)
  /-- A lease is given up. -/
  | released {owner : AgentOwnershipRow} (held : owner ∈ before.ownership.rows)
      (ownership : after.ownership.rows =
        before.ownership.rows.filter (fun other => other.agentRunId ≠ owner.agentRunId))
      (runs : after.runs = before.runs) (events : after.events = before.events)
      (counter : after.fencingCounter = before.fencingCounter)
      (children : after.children = before.children)

namespace AgentTables

variable {kernel : AgentKernel} {fault : String → Bool} {db : AgentTables}

/-! ## The parts of an operation -/

/-- The first checks of an operation on a run find its row, whose projection has the expected
revision and epoch. -/
theorem currentProjection_eq_ok {sha : Sha256} {agentRunId : Uuid}
    {expectedRevision expectedEpoch : Nat} {current : AgentRunProjection}
    (read : db.currentProjection sha agentRunId expectedRevision expectedEpoch = .ok current) :
    ∃ row ∈ db.runs.rows, row.agentRunId = agentRunId ∧ row.Holds sha current ∧
      current.stateRevision = expectedRevision ∧ current.epoch = expectedEpoch := by
  simp only [currentProjection, bind_eq_ok, require_eq_ok, raiseIf_eq_ok, exists_const, pure_eq_ok,
    ne_eq, not_not] at read
  obtain ⟨row, found, projection, holds, _, _, revision, epoch, rfl⟩ := read
  obtain ⟨stored, named⟩ := (db.runs.find?_eq_some _ _).mp found
  exact ⟨row, stored, named, AgentRunRow.projection_eq_ok holds, revision, epoch⟩

/-- The appended event has the given payload and leads to the written projection. -/
theorem nextEvent_eq_ok {current next : AgentRunProjection} {body : AgentEventBody}
    {eventId : Uuid} {message : String} {event : AgentStateEvent}
    (made : nextEvent kernel current next body eventId message = .ok event) :
    event.body = body ∧ event.eventId = eventId ∧
      applyAgentEvent kernel.sha (some current) event = .ok next := by
  simp only [nextEvent, bind_eq_ok, raiseIf_eq_ok, exists_const, pure_eq_ok, ne_eq,
    not_not] at made
  obtain ⟨created, fields, applied, leads, same, rfl⟩ := made
  obtain ⟨identifier, _, bodySame, _⟩ := AgentStateEvent.create_eq_ok fields
  exact ⟨bodySame, identifier, same ▸ leads⟩

/-- An inserted event is new and last. -/
theorem insertEvent_eq_ok {event : AgentStateEvent} {after : AgentTables}
    (inserted : db.insertEvent event = .ok after) :
    (∀ other ∈ db.events.rows, other.eventId ≠ event.eventId) ∧
      after.events.rows = db.events.rows ++ [event] ∧ after.runs = db.runs ∧
      after.ownership = db.ownership ∧ after.fencingCounter = db.fencingCounter ∧
      after.children = db.children := by
  simp only [insertEvent, bind_eq_ok, require_eq_ok, raiseIf_eq_ok, exists_const, pure_eq_ok,
    Table.insert?_eq_some] at inserted
  obtain ⟨_, events, ⟨fresh, rfl⟩, rfl⟩ := inserted
  refine ⟨fun other member same => fresh ?_, rfl, rfl, rfl, rfl, rfl⟩
  exact List.mem_map.mpr ⟨other, member, same⟩

/-- A compare and swap that reaches a row of the run assigns to that row alone. -/
theorem swapRun_eq_ok {agentRunId : Uuid} {revision epoch : Nat} {assign : AgentRunRow → AgentRunRow}
    {keeps : ∀ row, (assign row).agentRunId = row.agentRunId} {message : String}
    {after : AgentTables} {row : AgentRunRow}
    (swapped : db.swapRun agentRunId revision epoch assign keeps message = .ok after)
    (stored : row ∈ db.runs.rows) (named : row.agentRunId = agentRunId)
    (current : row.stateRevision = revision ∧ row.epoch = epoch) :
    after.runs.rows = db.runs.rows.map
        (fun other => if other.agentRunId = row.agentRunId then assign row else other) ∧
      after.events = db.events ∧ after.ownership = db.ownership ∧
      after.fencingCounter = db.fencingCounter ∧ after.children = db.children := by
  simp only [swapRun, bind_eq_ok, raiseIf_eq_ok, exists_const, pure_eq_ok] at swapped
  obtain ⟨_, rfl⟩ := swapped
  refine ⟨?_, rfl, rfl, rfl, rfl⟩
  simp only [Table.update]
  apply List.map_congr_left
  intro other held
  by_cases same : other.agentRunId = row.agentRunId
  · have equal := db.runs.eq_of_key held stored same
    subst equal
    simp [named, current.1, current.2]
  · have apart : ¬other.agentRunId = agentRunId := fun equal => same (equal.trans named.symm)
    simp [same, apart]

/-- An event and a compare and swap that writes the projection it leads to move the run. -/
theorem advanced_of_swapRun {mid after : AgentTables} {agentRunId : Uuid}
    {current next : AgentRunProjection} {event : AgentStateEvent}
    {assign : AgentRunRow → AgentRunRow}
    {keeps : ∀ row, (assign row).agentRunId = row.agentRunId} {message : String}
    {row : AgentRunRow} (stored : row ∈ db.runs.rows) (named : row.agentRunId = agentRunId)
    (holds : row.Holds kernel.sha current)
    (applied : applyAgentEvent kernel.sha (some current) event = .ok next)
    (inserted : db.insertEvent event = .ok mid)
    (swapped : mid.swapRun agentRunId current.stateRevision current.epoch assign keeps message =
      .ok after)
    (writes : (assign row).Holds kernel.sha next)
    (previous : ∀ advance, event.body = .semanticStateAdvanced advance →
      advance.previousBinding = row.semanticState)
    (binding : (assign row).semanticState = event.body.bindingAfter row.semanticState) :
    Advanced kernel.sha db after row (assign row) event ∧ after.ownership = db.ownership ∧
      after.fencingCounter = db.fencingCounter := by
  obtain ⟨fresh, events, runs, ownership, counter, children⟩ := insertEvent_eq_ok inserted
  have midStored : row ∈ mid.runs.rows := by rw [runs]; exact stored
  obtain ⟨swappedRuns, swappedEvents, swappedOwnership, swappedCounter, swappedChildren⟩ :=
    swapRun_eq_ok swapped midStored named ⟨holds.stateRevision, holds.epoch⟩
  refine ⟨?_, swappedOwnership.trans ownership, swappedCounter.trans counter⟩
  exact
    { stored := stored
      applied := ⟨current, next, holds, applied, writes⟩
      previous := previous
      binding := binding
      fresh := fresh
      runs := by rw [swappedRuns, runs]
      events := by rw [swappedEvents, events]
      children := by rw [swappedChildren, children] }

/-- A lineage that is inserted unless its key is stored, and then compared, is stored beside the
others. -/
theorem mem_children_of_inserted {child other : AgentChildRow}
    (compared : (((db.children.insert? child).getD db.children).find?
      (child.parentAgentRunId, child.childAgentRunId)).map (·.delegationRef) =
        some child.delegationRef) :
    other ∈ ((db.children.insert? child).getD db.children).rows ↔
      other ∈ db.children.rows ∨ other = child := by
  cases inserted : db.children.insert? child with
  | some children =>
    rw [Option.getD_some, Table.rows_of_insert? inserted, List.mem_append, List.mem_singleton]
  | none =>
    rw [inserted, Option.getD_none] at compared
    obtain ⟨row, found, same⟩ := Option.map_eq_some_iff.mp compared
    obtain ⟨stored, key⟩ := (db.children.find?_eq_some _ _).mp found
    obtain ⟨parent, run⟩ := Prod.ext_iff.mp key
    have kept : child ∈ db.children.rows := by
      obtain ⟨_, _, _⟩ := row
      obtain ⟨_, _, _⟩ := child
      simp only at parent run same
      subst parent run same
      exact stored
    rw [Option.getD_none]
    constructor
    · exact .inl
    · rintro (old | rfl)
      · exact old
      · exact kept

/-- The bindings of a header only touch the lineage. -/
theorem insertBindings_eq_ok {header : AgentRunHeader} {after : AgentTables}
    (inserted : db.insertBindings header = .ok after) :
    after.runs = db.runs ∧ after.events = db.events ∧ after.ownership = db.ownership ∧
      after.fencingCounter = db.fencingCounter ∧
      ∀ child, child ∈ after.children.rows ↔ child ∈ db.children.rows ∨
        child.childAgentRunId = header.agentRunId ∧
          header.delegation = some (child.parentAgentRunId, child.delegationRef) := by
  unfold insertBindings at inserted
  split at inserted
  · rename_i alone
    rw [← pure_eq_ok.mp inserted]
    exact ⟨rfl, rfl, rfl, rfl, by simp [alone]⟩
  · rename_i parent delegationRef delegated
    simp only [bind_eq_ok, require_eq_ok, raiseIf_eq_ok, exists_const, pure_eq_ok,
      not_not, ne_eq] at inserted
    obtain ⟨_, _, compared, rfl⟩ := inserted
    refine ⟨rfl, rfl, rfl, rfl, ?_⟩
    intro child
    rw [mem_children_of_inserted compared, delegated]
    obtain ⟨_, _, _⟩ := child
    simp only [AgentChildRow.mk.injEq, Option.some.injEq, Prod.mk.injEq]
    constructor
    · rintro (old | ⟨rfl, rfl, rfl⟩)
      · exact .inl old
      · exact .inr ⟨rfl, rfl, rfl⟩
    · rintro (old | ⟨rfl, rfl, rfl⟩)
      · exact .inl old
      · exact .inr ⟨rfl, rfl, rfl⟩

/-- An inserted owner is last. -/
theorem insertOwnership_eq_ok {owner : AgentOwnershipRow} {after : AgentTables}
    (inserted : db.insertOwnership owner = .ok after) :
    after.ownership.rows = db.ownership.rows ++ [owner] ∧ after.runs = db.runs ∧
      after.events = db.events ∧ after.fencingCounter = db.fencingCounter ∧
      after.children = db.children := by
  simp only [insertOwnership, bind_eq_ok, require_eq_ok, raiseIf_eq_ok, exists_const, pure_eq_ok,
    Table.insert?_eq_some] at inserted
  obtain ⟨_, ownership, ⟨_, rfl⟩, rfl⟩ := inserted
  exact ⟨rfl, rfl, rfl, rfl, rfl⟩

/-! ## The operations -/

/-- `create_agent_run` creates a run of the header. -/
theorem created_of_createAgentRun {header : AgentRunHeader} {eventId : Uuid} {after : AgentTables}
    {outcome : Except MacrError AgentRunProjection}
    (done : db.createAgentRun kernel fault header eventId = .ok (after, outcome)) :
    ∃ row event, Created kernel.sha db after row event ∧ row.initialHeader = header ∧
      after.ownership = db.ownership ∧ after.fencingCounter = db.fencingCounter := by
  simp only [createAgentRun, bind_eq_ok, raiseIf_eq_ok, faultAt_eq_ok, exists_const, commit_eq_ok,
    insertProjection, require_eq_ok, pure_eq_ok, ne_eq, not_not, Prod.mk.injEq,
    Table.insert?_eq_some] at done
  obtain ⟨projection, begun, event, made, _, _, first, inserted, _, second,
    ⟨runs, ⟨new, rfl⟩, rfl⟩, third, bound, _, _, rfl, _⟩ := done
  obtain ⟨fresh, events, firstRuns, firstOwnership, firstCounter, firstChildren⟩ :=
    insertEvent_eq_ok inserted
  obtain ⟨thirdRuns, thirdEvents, thirdOwnership, thirdCounter, thirdChildren⟩ :=
    insertBindings_eq_ok bound
  have header_same : projection.initialHeader = header :=
    (AgentRunProjection.fromCreationHeader_eq_ok begun).1
  simp only [AgentStateEvent.create, bind_eq_ok, pure_eq_ok] at made
  obtain ⟨_, _, _, _, rfl⟩ := made
  have creation : Created kernel.sha db after (.ofProjection kernel.sha projection) _ :=
    { applied := by
        refine ⟨projection, ?_, AgentRunRow.holds_ofProjection kernel.sha projection⟩
        simp [applyAgentEvent, continueAgentRun, begun, bind, Except.bind, raiseIf, pure,
          Except.pure]
      run := rfl
      created := ⟨header, rfl⟩
      binding := rfl
      new := by
        intro other member same
        rw [firstRuns] at new
        exact new (List.mem_map.mpr ⟨other, member, same⟩)
      fresh := fresh
      runs := by rw [thirdRuns, Table.insert_rows, firstRuns]
      events := by rw [thirdEvents, events]
      children := by
        intro child
        rw [thirdChildren, ← header_same]
        show child ∈ first.children.rows ∨ _ ↔ _
        rw [firstChildren]
        rfl }
  exact ⟨_, _, creation, header_same, thirdOwnership.trans firstOwnership,
    thirdCounter.trans firstCounter⟩

/-- `create_agent_run` creates a run. -/
theorem effect_of_createAgentRun {header : AgentRunHeader} {eventId : Uuid} {after : AgentTables}
    {outcome : Except MacrError AgentRunProjection}
    (done : db.createAgentRun kernel fault header eventId = .ok (after, outcome)) :
    AgentEffect kernel.sha db after := by
  obtain ⟨_, _, creation, _, ownership, counter⟩ := created_of_createAgentRun done
  exact .created creation ownership counter

/-- The event of a transition of the state moves the run, acquires nothing and binds nothing. -/
theorem advanced_of_transition {mid after : AgentTables} {agentRunId : Uuid}
    {current : AgentRunProjection} {targetState : AgentRunState} {body : AgentEventBody}
    {createdAt : Timestamp} {eventId : Uuid} {message other : String} {event : AgentStateEvent}
    {assign : AgentRunRow → AgentRunRow}
    {keeps : ∀ row, (assign row).agentRunId = row.agentRunId}
    {expectedRevision expectedEpoch : Nat}
    (read : db.currentProjection kernel.sha agentRunId expectedRevision expectedEpoch =
      .ok current)
    (allowed : targetState ∈ current.state.successors)
    (made : nextEvent kernel current (current.next targetState current.epoch createdAt) body eventId
      message = .ok event)
    (inserted : db.insertEvent event = .ok mid)
    (swapped : mid.swapRun agentRunId expectedRevision expectedEpoch assign keeps other =
      .ok after)
    (writes : ∀ row : AgentRunRow, row.Holds kernel.sha current →
      (assign row).Holds kernel.sha (current.next targetState current.epoch createdAt) ∧
        (assign row).semanticState = row.semanticState) :
    ∃ row ∈ db.runs.rows, row.agentRunId = agentRunId ∧
      (assign row).state = targetState ∧
      Advanced kernel.sha db after row (assign row) event ∧
      event.body.acquiredToken = none ∧ after.ownership = db.ownership ∧
        after.fencingCounter = db.fencingCounter := by
  obtain ⟨row, stored, named, holds, rfl, rfl⟩ := currentProjection_eq_ok read
  obtain ⟨_, _, applied⟩ := nextEvent_eq_ok made
  have continues := continues_of_apply applied
  have lifecycle := continues.targetState_of_moved allowed
  have other_kind := AgentEventBody.not_semantic_of_targetState lifecycle
  obtain ⟨written, bound⟩ := writes row holds
  obtain ⟨advance, ownership, counter⟩ :=
    advanced_of_swapRun stored named holds applied inserted swapped written
      (fun advance semantic => absurd semantic (other_kind advance))
      (bound.trans (AgentEventBody.bindingAfter_of_other other_kind).symm)
  exact ⟨row, stored, named, written.state, advance,
    AgentEventBody.acquiredToken_of_targetState lifecycle, ownership, counter⟩

/-- A transition without an owner moves the run. -/
theorem effect_of_transitionUnowned {agentRunId : Uuid} {expectedState targetState : AgentRunState}
    {expectedRevision expectedEpoch : Nat} {body : AgentEventBody} {createdAt : Timestamp}
    {eventId : Uuid} {after : AgentTables} {outcome : Except MacrError AgentRunProjection}
    (done : db.transitionUnowned kernel fault agentRunId expectedState targetState expectedRevision
      expectedEpoch body createdAt eventId = .ok (after, outcome)) :
    AgentEffect kernel.sha db after := by
  simp only [transitionUnowned, bind_eq_ok, raiseIf_eq_ok, faultAt_eq_ok, exists_const,
    commit_eq_ok, requirePhaseBTransition_eq_ok, ne_eq, not_not, Prod.mk.injEq] at done
  obtain ⟨_, current, read, _, free, allowed, event, made, _, mid, inserted, _, last, swapped, _, _,
    rfl, _⟩ := done
  obtain ⟨row, _, named, _, advance, tokenless, ownership, counter⟩ :=
    advanced_of_transition read allowed made inserted swapped (fun row holds =>
      ⟨⟨holds.agentRunId, holds.subjectDigest, holds.initialHeader, rfl, rfl, rfl, rfl, rfl⟩, rfl⟩)
  refine .advanced advance tokenless ?_ counter
  rw [ownership]
  split
  · refine (List.filter_eq_self.mpr ?_).symm
    intro owner held
    have absent := (db.ownership.find?_eq_none _).mp free owner held
    rw [named]
    exact decide_eq_true absent
  · rfl

/-- A transition of an owned run moves the run; a terminal one loses its owner. -/
theorem effect_of_transitionOwned {permit : AgentOwnershipPermit}
    {expectedStates : List AgentRunState} {targetState : AgentRunState}
    {expectedRevision expectedEpoch : Nat} {body : AgentEventBody} {createdAt : Timestamp}
    {eventId : Uuid} {after : AgentTables} {outcome : Except MacrError AgentRunProjection}
    (done : db.transitionOwned kernel fault permit expectedStates targetState expectedRevision
      expectedEpoch body createdAt eventId = .ok (after, outcome)) :
    AgentEffect kernel.sha db after := by
  simp only [transitionOwned, bind_eq_ok, raiseIf_eq_ok, faultAt_eq_ok, exists_const,
    commit_eq_ok, requirePhaseBTransition_eq_ok, not_not, Prod.mk.injEq] at done
  obtain ⟨_, current, read, _, _, _, allowed, event, made, _, mid, inserted, _, last, swapped, _, _,
    rfl, _⟩ := done
  obtain ⟨row, _, named, reached, advance, tokenless, ownership, counter⟩ :=
    advanced_of_transition read allowed made inserted swapped (fun row holds =>
      ⟨⟨holds.agentRunId, holds.subjectDigest, holds.initialHeader, rfl, rfl, holds.epoch, rfl, rfl⟩,
        rfl⟩)
  have terminal_same : (current.next targetState current.epoch createdAt).state = targetState := rfl
  rw [terminal_same]
  by_cases terminal : targetState.isTerminal = true
  · rw [if_pos terminal]
    refine .advanced (advance.of_same rfl rfl rfl rfl rfl rfl) tokenless ?_ counter
    rw [reached, if_pos terminal]
    simp [deleteOwnership, Table.delete, ownership, named]
  · rw [if_neg terminal]
    refine .advanced advance tokenless ?_ counter
    rw [reached, if_neg terminal, ownership]

/-- An acquisition of a run whose owner has been removed acquires it under the next token. -/
theorem effect_of_takeOwnership {start : AgentTables} {current : AgentRunProjection}
    {candidate : AgentOwnershipPermit} {expectedRevision expectedEpoch : Nat} {eventId : Uuid}
    {after : AgentTables} {outcome : Except MacrError AgentOwnershipPermit}
    (read : start.currentProjection kernel.sha candidate.agentRunId expectedRevision expectedEpoch =
      .ok current)
    (done : db.takeOwnership kernel fault current candidate expectedRevision expectedEpoch eventId =
      .ok (after, outcome))
    (runs : db.runs = start.runs) (events : db.events = start.events)
    (counter : db.fencingCounter = start.fencingCounter)
    (children : db.children = start.children)
    (freed : db.ownership.rows =
      start.ownership.rows.filter (fun other => other.agentRunId ≠ candidate.agentRunId)) :
    AgentEffect kernel.sha start after := by
  simp only [takeOwnership, bind_eq_ok, faultAt_eq_ok, exists_const, commit_eq_ok,
    Prod.mk.injEq] at done
  obtain ⟨permit, granted, event, made, _, mid, inserted, _, last, swapped, final, owned, _, _,
    rfl, _⟩ := done
  obtain ⟨run, _, _, token, epoch, _, _, _⟩ := AgentOwnershipPermit.create_eq_ok granted
  obtain ⟨row, stored, named, holds, rfl, rfl⟩ := currentProjection_eq_ok read
  obtain ⟨body, _, applied⟩ := nextEvent_eq_ok made
  obtain ⟨ownership, finalRuns, finalEvents, finalCounter, finalChildren⟩ :=
    insertOwnership_eq_ok owned
  have acquires : event.body.acquiredToken = some permit.fencingToken := by
    rw [body, AgentEventBody.acquiredToken]
  have other_kind : ∀ advance, event.body ≠ .semanticStateAdvanced advance := by
    intro advance semantic
    rw [body] at semantic
    exact absurd semantic (by simp)
  have stored_drawn : row ∈ (AgentTables.mk db.runs db.events db.ownership db.children
      (db.fencingCounter + 1)).runs.rows := by
    show row ∈ db.runs.rows
    rw [runs]
    exact stored
  obtain ⟨advance, lastOwnership, lastCounter⟩ :=
    advanced_of_swapRun stored_drawn named holds applied inserted swapped
      ⟨holds.agentRunId, holds.subjectDigest, holds.initialHeader, holds.state, rfl, rfl, rfl, rfl⟩
      (fun advance semantic => absurd semantic (other_kind advance))
      (AgentEventBody.bindingAfter_of_other other_kind).symm
  have drawn : permit.fencingToken = start.fencingCounter + 1 := by rw [token, counter]
  have counted : after.fencingCounter = start.fencingCounter + 1 := by
    rw [finalCounter, lastCounter]
    show db.fencingCounter + 1 = _
    rw [counter]
  have lastOwners : last.ownership.rows =
      start.ownership.rows.filter (fun other => other.agentRunId ≠ row.agentRunId) := by
    rw [lastOwnership, named]
    exact freed
  rw [lastOwners] at ownership
  have whole := advance.of_same runs.symm events.symm finalRuns finalEvents children.symm
    finalChildren
  exact .acquired whole acquires drawn (run.trans named.symm) epoch ownership counted

/-- `_acquire_ownership` acquires the run or leaves the tables alone. -/
theorem effect_of_acquireOwnership {agentRunId : Uuid} {ownerId : String}
    {expectedRevision expectedEpoch : Nat} {observedAt expiresAt : Timestamp}
    {leaseId eventId : Uuid} {after : AgentTables}
    {outcome : Except MacrError AgentOwnershipPermit}
    (done : db.acquireOwnership kernel fault agentRunId ownerId expectedRevision expectedEpoch
      observedAt expiresAt leaseId eventId = .ok (after, outcome)) :
    AgentEffect kernel.sha db after := by
  simp only [acquireOwnership, bind_eq_ok, raiseIf_eq_ok, exists_const] at done
  obtain ⟨_, candidate, made, current, read, _, done⟩ := done
  have run : candidate.agentRunId = agentRunId := (AgentOwnershipPermit.create_eq_ok made).1
  rw [← run] at read
  split at done
  · split at done
    · refine effect_of_takeOwnership read done rfl rfl rfl rfl ?_
      simp [deleteOwnership, Table.delete, run]
    · split at done
      · simp only [Except.ok.injEq, Prod.mk.injEq] at done
        exact .idle done.1.symm
      · exact absurd done (by simp)
  · rename_i free
    refine effect_of_takeOwnership read done rfl rfl rfl rfl ?_
    refine (List.filter_eq_self.mpr ?_).symm
    intro owner held
    have absent := (db.ownership.find?_eq_none _).mp free owner held
    rw [run]
    exact decide_eq_true absent

/-- A permit row that passes grants the permit, and has not expired at the observed time. -/
theorem requirePermitRow_eq_ok {row : Option AgentOwnershipRow} {permit : AgentOwnershipPermit}
    {observedAt : Option Timestamp} {owner : AgentOwnershipRow}
    (met : requirePermitRow row permit observedAt = .ok owner) :
    row = some owner ∧ owner.Grants permit ∧
      ∀ observed, observedAt = some observed → observed < owner.expiresAt := by
  simp only [requirePermitRow, bind_eq_ok, require_eq_ok, raiseIf_eq_ok, exists_const, pure_eq_ok,
    ne_eq, not_not, not_or] at met
  obtain ⟨found, rfl, token, epoch, ⟨owned, lease, run⟩, lasting, rfl⟩ := met
  refine ⟨rfl, ⟨run, token, epoch, owned, lease⟩, ?_⟩
  intro observed same
  simpa [same] using lasting

/-- `_renew_ownership` prolongs the lease of the permit. -/
theorem effect_of_renewOwnership {permit : AgentOwnershipPermit}
    {observedAt expiresAt : Timestamp} {after : AgentTables}
    {outcome : Except MacrError AgentOwnershipPermit}
    (done : db.renewOwnership permit observedAt expiresAt = .ok (after, outcome)) :
    AgentEffect kernel.sha db after := by
  simp only [renewOwnership, bind_eq_ok, require_eq_ok, raiseIf_eq_ok, exists_const,
    Except.ok.injEq, Prod.mk.injEq] at done
  obtain ⟨renewed, _, owner, met, _, _, _, _, rfl, _⟩ := done
  obtain ⟨found, grants, _⟩ := requirePermitRow_eq_ok met
  have held := ((db.ownership.find?_eq_some _ _).mp found).1
  refine .renewed renewed.expiresAt held ?_ rfl rfl rfl rfl
  simp [Table.update, grants.agentRunId]

/-- `_release_ownership` removes the owner of the permit. -/
theorem effect_of_releaseOwnership {permit : AgentOwnershipPermit} {after : AgentTables}
    {outcome : Except MacrError Unit}
    (done : db.releaseOwnership permit = .ok (after, outcome)) :
    AgentEffect kernel.sha db after := by
  simp only [releaseOwnership, bind_eq_ok, commit_eq_ok, Prod.mk.injEq] at done
  obtain ⟨owner, met, rfl, _⟩ := done
  obtain ⟨found, grants, _⟩ := requirePermitRow_eq_ok met
  have held := ((db.ownership.find?_eq_some _ _).mp found).1
  refine .released held ?_ rfl rfl rfl rfl
  simp [deleteOwnership, Table.delete, grants.agentRunId]

/-- `_commit_on_connection` moves the run along the semantic event; the run's binding becomes the
new one. -/
theorem advanced_of_commitSemanticEvent {current next : AgentRunProjection}
    {event : AgentStateEvent} {newBinding : SemanticStateBinding}
    {expectedRevision expectedEpoch : Nat} {after : AgentTables}
    (done : db.commitSemanticEvent kernel fault current event newBinding expectedRevision
      expectedEpoch = .ok (after, next)) :
    ∃ row moved advance, row.agentRunId = current.agentRunId ∧
      Advanced kernel.sha db after row moved event ∧ event.body = .semanticStateAdvanced advance ∧
      advance.newBinding = newBinding ∧ moved.semanticState = some newBinding ∧
      after.ownership = db.ownership ∧ after.fencingCounter = db.fencingCounter := by
  simp only [commitSemanticEvent, bind_eq_ok, require_eq_ok, raiseIf_eq_ok, faultAt_eq_ok,
    exists_const, pure_eq_ok, ne_eq, not_not, not_or, Prod.mk.injEq] at done
  obtain ⟨advance, semantic, _, row, found, observed, read, _, _, ⟨rfl, rfl⟩, rfl, previous, rfl,
    projection, applied, mid, inserted, _, last, swapped, _, rfl, rfl⟩ := done
  obtain ⟨stored, named⟩ := (db.runs.find?_eq_some _ _).mp found
  have holds := AgentRunRow.projection_eq_ok read
  have body : event.body = .semanticStateAdvanced advance := by
    cases kind : event.body <;> simp_all [requireSemanticAdvance]
  have continues := continues_of_apply applied
  have kept : projection.state = observed.state := continues.kept (by rw [body]; rfl)
  have counted : projection.epoch = observed.epoch := by
    rw [continues.counted, body]
    rfl
  obtain ⟨moved, ownership, counter⟩ :=
    advanced_of_swapRun stored named holds applied inserted swapped
      ⟨holds.agentRunId.trans (congrArg (·.agentRunId) continues.header).symm,
        holds.subjectDigest.trans (congrArg (·.subjectDigest) continues.header).symm,
        holds.initialHeader.trans continues.header.symm, holds.state.trans kept.symm, rfl,
        holds.epoch.trans counted.symm, rfl, rfl⟩
      (by
        intro other same
        rw [body] at same
        rw [← AgentEventBody.semanticStateAdvanced.inj same]
        exact previous)
      (by rw [body]; rfl)
  exact ⟨row, _, advance, named, moved, body, rfl, rfl, ownership, counter⟩

end AgentTables

end Macr
