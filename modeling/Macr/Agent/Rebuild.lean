import Macr.Agent.Indexes

/-!
# Rebuilding a projection

A rebuild deletes a run's row with everything that references it and derives all of it from the
run's events. Where each row is what its events replay to and the index tables list the headers,
the derived rows are the deleted ones. Only the ownership row is not derived.
-/

namespace Macr

open Lib

/-! ## Listed headers -/

namespace RunIndexes

/-- The index tables list the headers of the rows. -/
structure Lists (sha : Sha256) (rows : List AgentRunRow) (indexes : RunIndexes) : Prop where
  /-- The copied columns. -/
  columns : Indexes AgentRunColumns.agentRunId AgentRunRow.agentRunId
    (fun row => [columnsOf row.initialHeader]) rows indexes.columns
  /-- The goals. -/
  goals : Indexes VersionedBindingRow.agentRunId AgentRunRow.agentRunId
    (fun row => goalRows sha row.initialHeader) rows indexes.goals
  /-- The worlds. -/
  worlds : Indexes VersionedBindingRow.agentRunId AgentRunRow.agentRunId
    (fun row => worldRows sha row.initialHeader) rows indexes.worlds
  /-- The memories. -/
  memories : Indexes MemoryBindingRow.agentRunId AgentRunRow.agentRunId
    (fun row => memoryRows sha row.initialHeader) rows indexes.memories
  /-- The plans. -/
  plans : Indexes VersionedBindingRow.agentRunId AgentRunRow.agentRunId
    (fun row => planRows sha row.initialHeader) rows indexes.plans

/-- The rows of a header have been appended. -/
structure Grown (sha : Sha256) (header : AgentRunHeader) (before after : RunIndexes) : Prop where
  /-- The copied columns. -/
  columns : after.columns.rows = before.columns.rows ++ [columnsOf header]
  /-- The goals. -/
  goals : after.goals.rows = before.goals.rows ++ goalRows sha header
  /-- The worlds. -/
  worlds : after.worlds.rows = before.worlds.rows ++ worldRows sha header
  /-- The memories. -/
  memories : after.memories.rows = before.memories.rows ++ memoryRows sha header
  /-- The plans. -/
  plans : after.plans.rows = before.plans.rows ++ planRows sha header

/-- The tables have the same rows. -/
structure SameRows (before after : RunIndexes) : Prop where
  /-- The copied columns. -/
  columns : after.columns.rows.Perm before.columns.rows
  /-- The goals. -/
  goals : after.goals.rows.Perm before.goals.rows
  /-- The worlds. -/
  worlds : after.worlds.rows.Perm before.worlds.rows
  /-- The memories. -/
  memories : after.memories.rows.Perm before.memories.rows
  /-- The plans. -/
  plans : after.plans.rows.Perm before.plans.rows

variable {sha : Sha256} {rows others : List AgentRunRow} {before after : RunIndexes}
  {row : AgentRunRow}

/-- New tables list no headers. -/
theorem lists_initial : initial.Lists sha [] :=
  ⟨.empty, .empty, .empty, .empty, .empty⟩

/-- Rows of the same runs and headers are listed alike. -/
theorem Lists.of_headers (held : before.Lists sha rows)
    (known : ∀ other ∈ others, ∃ row ∈ rows,
      row.agentRunId = other.agentRunId ∧ row.initialHeader = other.initialHeader)
    (kept : ∀ row ∈ rows, ∃ other ∈ others, other.agentRunId = row.agentRunId) :
    before.Lists sha others := by
  have alike : ∀ {α : Type} (rowsOf : AgentRunHeader → List α), ∀ other ∈ others, ∃ row ∈ rows,
      row.agentRunId = other.agentRunId ∧
        rowsOf row.initialHeader = rowsOf other.initialHeader := by
    intro α rowsOf other member
    obtain ⟨row, stored, name, header⟩ := known other member
    exact ⟨row, stored, name, congrArg rowsOf header⟩
  exact
    { columns := held.columns.of_records (alike fun header => [columnsOf header]) kept
      goals := held.goals.of_records (alike (goalRows sha)) kept
      worlds := held.worlds.of_records (alike (worldRows sha)) kept
      memories := held.memories.of_records (alike (memoryRows sha)) kept
      plans := held.plans.of_records (alike (planRows sha)) kept }

/-- The rows a header gives a table are its run's. -/
theorem rows_named {header : AgentRunHeader} {agentRunId : Uuid}
    (named : header.agentRunId = agentRunId) :
    (∀ column ∈ [columnsOf header], column.agentRunId = agentRunId) ∧
      (∀ goal ∈ goalRows sha header, goal.agentRunId = agentRunId) ∧
      (∀ world ∈ worldRows sha header, world.agentRunId = agentRunId) ∧
      (∀ memory ∈ memoryRows sha header, memory.agentRunId = agentRunId) ∧
      ∀ plan ∈ planRows sha header, plan.agentRunId = agentRunId := by
  subst named
  refine ⟨?_, ?_, ?_, ?_, ?_⟩
  · simp [columnsOf]
  · simp [goalRows, versionedRow]
  · intro world member
    obtain ⟨binding, _, rfl⟩ := List.mem_map.mp member
    rfl
  · intro memory member
    obtain ⟨binding, _, rfl⟩ := List.mem_map.mp member
    rfl
  · intro plan member
    rw [planRows, Option.mem_toList, Option.map_eq_some_iff] at member
    obtain ⟨binding, _, rfl⟩ := member
    rfl

/-- The header of a new row is listed when its rows are appended. -/
theorem Lists.appended (held : before.Lists sha rows)
    (grown : Grown sha row.initialHeader before after)
    (named : row.initialHeader.agentRunId = row.agentRunId)
    (fresh : ∀ other ∈ rows, other.agentRunId ≠ row.agentRunId) :
    after.Lists sha (rows ++ [row]) := by
  obtain ⟨columns, goals, worlds, memories, plans⟩ := @rows_named sha _ _ named
  exact
    { columns := held.columns.appended fresh columns grown.columns
      goals := held.goals.appended fresh goals grown.goals
      worlds := held.worlds.appended fresh worlds grown.worlds
      memories := held.memories.appended fresh memories grown.memories
      plans := held.plans.appended fresh plans grown.plans }

/-- The rows of a listed header that are deleted and appended again are the rows there were. -/
theorem Lists.sameRows (held : before.Lists sha rows) (stored : row ∈ rows)
    (grown : Grown sha row.initialHeader (before.deleteRun row.agentRunId) after) :
    SameRows before after where
  columns := held.columns.perm_of_rebuilt stored grown.columns
  goals := held.goals.perm_of_rebuilt stored grown.goals
  worlds := held.worlds.perm_of_rebuilt stored grown.worlds
  memories := held.memories.perm_of_rebuilt stored grown.memories
  plans := held.plans.perm_of_rebuilt stored grown.plans

/-- The headers are listed again. -/
theorem Lists.rebuilt (held : before.Lists sha rows)
    (distinct : ∀ other ∈ rows, other.agentRunId = row.agentRunId → other = row)
    (stored : row ∈ rows)
    (grown : Grown sha row.initialHeader (before.deleteRun row.agentRunId) after) :
    after.Lists sha rows := by
  have alike : ∀ {α : Type} (rowsOf : AgentRunHeader → List α), ∀ other ∈ rows,
      other.agentRunId = row.agentRunId →
        rowsOf other.initialHeader = rowsOf row.initialHeader := by
    intro α rowsOf other member same
    rw [distinct other member same]
  exact
    { columns := held.columns.rebuilt (alike fun header => [columnsOf header]) stored grown.columns
      goals := held.goals.rebuilt (alike (goalRows sha)) stored grown.goals
      worlds := held.worlds.rebuilt (alike (worldRows sha)) stored grown.worlds
      memories := held.memories.rebuilt (alike (memoryRows sha)) stored grown.memories
      plans := held.plans.rebuilt (alike (planRows sha)) stored grown.plans }

end RunIndexes

/-! ## Creation events -/

/-- An event applied to a run creates none. -/
theorem not_runCreated_of_apply {sha : Sha256} {current next : AgentRunProjection}
    {event : AgentStateEvent} (applied : applyAgentEvent sha (some current) event = .ok next)
    (header : AgentRunHeader) : event.body ≠ .runCreated header := by
  intro created
  simp [applyAgentEvent, continueAgentRun, created, raiseIf, bind, Except.bind] at applied

/-- The creation events of a chain have one header. -/
structure ChainHeader (events : List AgentStateEvent) (state : Option AgentRunProjection) :
    Prop where
  /-- Before the first event there is no state. -/
  empty : state = none → events = []
  /-- A creation event has the state's header. -/
  only : ∀ projection, state = some projection → ∀ event ∈ events, ∀ header,
    event.body = .runCreated header → header = projection.initialHeader
  /-- There is a creation event. -/
  found : ∀ projection, state = some projection →
    ∃ event ∈ events, event.body = .runCreated projection.initialHeader

/-- An applied event continues the chain. -/
theorem ChainHeader.turn {sha : Sha256} {events : List AgentStateEvent}
    {mid : Option AgentRunProjection} {event : AgentStateEvent} {next : AgentRunProjection}
    (chain : ChainHeader events mid) (applied : applyAgentEvent sha mid event = .ok next) :
    ChainHeader (events ++ [event]) (some next) := by
  cases mid with
  | none =>
    obtain rfl := chain.empty rfl
    have body := (begins_of_apply applied).1
    refine ⟨by simp, ?_, ?_⟩
    · rintro projection ⟨rfl⟩ other member header created
      have same : other = event := by simpa using member
      rw [same, body] at created
      exact (AgentEventBody.runCreated.inj created).symm
    · rintro projection ⟨rfl⟩
      exact ⟨event, by simp, body⟩
  | some current =>
    have kept := (continues_of_apply applied).header
    have later := not_runCreated_of_apply applied
    refine ⟨by simp, ?_, ?_⟩
    · rintro projection ⟨rfl⟩ other member header created
      rcases List.mem_append.mp member with old | new
      · rw [kept]
        exact chain.only current rfl other old header created
      · rw [List.mem_singleton.mp new] at created
        exact absurd created (later header)
    · rintro projection ⟨rfl⟩
      obtain ⟨other, old, created⟩ := chain.found current rfl
      exact ⟨other, List.mem_append_left _ old, by rw [kept]; exact created⟩

/-- A chain that replays has one header. -/
theorem chainHeader_of_replay {sha : Sha256} {events : List AgentStateEvent}
    {projection : AgentRunProjection}
    (replayed : replayAgentEvents sha events = .ok projection) :
    ChainHeader events (some projection) := by
  have empty : ChainHeader [] none := ⟨fun _ => rfl, by simp, by simp⟩
  exact (agentEventLog sha).replayFrom_induction empty
    (fun _ _ _ _ chain applied => chain.turn applied) (replayAgentEvents_eq_ok.mp replayed).2

namespace AgentTables

variable {sha : Sha256} {db : AgentTables}

/-- The creation events of a sourced database are those of its rows. -/
theorem Sourced.mem_created (held : db.Sourced sha) {header : AgentRunHeader} :
    (∃ event ∈ db.events.rows, event.body = .runCreated header) ↔
      ∃ row ∈ db.runs.rows, row.initialHeader = header := by
  constructor
  · rintro ⟨event, member, created⟩
    obtain ⟨row, stored, run⟩ := held.known event member
    obtain ⟨projection, replayed, holds⟩ := held.replayed row stored
    have here : event ∈ db.history row.agentRunId :=
      List.mem_filter.mpr ⟨member, decide_eq_true run.symm⟩
    have same := (chainHeader_of_replay replayed).only projection rfl event here header created
    exact ⟨row, stored, holds.initialHeader.trans same.symm⟩
  · rintro ⟨row, stored, rfl⟩
    obtain ⟨projection, replayed, holds⟩ := held.replayed row stored
    obtain ⟨event, here, created⟩ := (chainHeader_of_replay replayed).found projection rfl
    exact ⟨event, (List.mem_filter.mp here).1, by rw [created, holds.initialHeader]⟩

/-- A stored row is of its header's run. -/
theorem Sourced.named (held : db.Sourced sha) {row : AgentRunRow} (stored : row ∈ db.runs.rows) :
    row.initialHeader.agentRunId = row.agentRunId := by
  obtain ⟨projection, _, holds⟩ := held.replayed row stored
  rw [holds.agentRunId, holds.initialHeader]
  rfl

/-- A lineage is that of a stored row. -/
def LineageOf (child : AgentChildRow) (row : AgentRunRow) : Prop :=
  child.childAgentRunId = row.agentRunId ∧
    row.initialHeader.delegation = some (child.parentAgentRunId, child.delegationRef)

/-- The expected children of a parent are the lineages of the stored rows that name it. -/
theorem Sourced.mem_expectedOutgoingChildren (held : db.Sourced sha) {parent : Uuid}
    {child : AgentChildRow} :
    child ∈ db.expectedOutgoingChildren parent ↔
      child.parentAgentRunId = parent ∧ ∃ row ∈ db.runs.rows, LineageOf child row := by
  have read : child ∈ db.expectedOutgoingChildren parent ↔ child.parentAgentRunId = parent ∧
      ∃ header, (∃ event ∈ db.events.rows, event.body = .runCreated header) ∧
        child.childAgentRunId = header.agentRunId ∧
        header.delegation = some (child.parentAgentRunId, child.delegationRef) := by
    obtain ⟨named, run, reference⟩ := child
    simp only [expectedOutgoingChildren, List.mem_filterMap]
    constructor
    · rintro ⟨event, member, made⟩
      split at made
      · rename_i header created
        split at made
        · rename_i other delegationRef delegated
          split at made
          · rename_i same
            subst same
            simp only [Option.some.injEq, AgentChildRow.mk.injEq] at made
            obtain ⟨rfl, rfl, rfl⟩ := made
            exact ⟨rfl, header, ⟨event, member, created⟩, rfl, delegated⟩
          · cases made
        · cases made
      · cases made
    · rintro ⟨rfl, header, ⟨event, member, created⟩, rfl, delegated⟩
      refine ⟨event, member, ?_⟩
      simp [created, delegated]
  rw [read]
  constructor
  · rintro ⟨same, header, created, run, delegated⟩
    obtain ⟨row, stored, rfl⟩ := held.mem_created.mp created
    exact ⟨same, row, stored, run.trans (held.named stored), delegated⟩
  · rintro ⟨same, row, stored, run, delegated⟩
    exact ⟨same, row.initialHeader, held.mem_created.mpr ⟨row, stored, rfl⟩,
      run.trans (held.named stored).symm, delegated⟩

/-- The order of the rows does not matter. -/
theorem Sourced.perm {after : AgentTables} (held : db.Sourced sha)
    (runs : after.runs.rows.Perm db.runs.rows) (events : after.events = db.events) :
    after.Sourced sha := by
  have same : ∀ run, after.history run = db.history run := by
    intro run
    simp only [history, events]
  constructor
  · intro row member
    rw [same]
    exact held.replayed row (runs.mem_iff.mp member)
  · intro row member
    rw [same]
    exact held.bound row (runs.mem_iff.mp member)
  · intro event member
    rw [events] at member
    obtain ⟨row, stored, run⟩ := held.known event member
    exact ⟨row, runs.mem_iff.mpr stored, run⟩

end AgentTables

namespace IndexedTables

variable {kernel : AgentKernel} {sha : Sha256} {fault : String → Bool} {db : IndexedTables}

/-- The index tables list the headers of the rows, the lineages are theirs, and their bindings are
constructed. -/
structure Indexed (sha : Sha256) (db : IndexedTables) : Prop where
  /-- The index tables. -/
  listed : db.indexes.Lists sha db.agent.runs.rows
  /-- The lineages. -/
  children : ∀ child, child ∈ db.agent.children.rows ↔
    ∃ row ∈ db.agent.runs.rows, AgentTables.LineageOf child row
  /-- The bindings ascend by their digests. -/
  constructed : ∀ row ∈ db.agent.runs.rows, row.initialHeader.Constructed sha

/-- An inserted projection is appended with its columns. -/
theorem insertProjection_eq_ok {projection : AgentRunProjection} {after : IndexedTables}
    (done : db.insertProjection sha projection = .ok after) :
    db.agent.insertProjection sha projection = .ok after.agent ∧
      ∃ columns, db.indexes.columns.insertAll? [columnsOf projection.initialHeader] =
          some columns ∧
        after.indexes = { db.indexes with columns := columns } := by
  simp only [insertProjection, bind_eq_ok, require_eq_ok, pure_eq_ok] at done
  obtain ⟨agent, inserted, columns, listed, rfl⟩ := done
  exact ⟨inserted, columns, listed, rfl⟩

/-- The rows of an inserted projection and of its header are appended. -/
theorem grown_of_inserted {projection : AgentRunProjection} {middle after : IndexedTables}
    (projected : db.insertProjection sha projection = .ok middle)
    (bound : middle.insertBindings sha projection.initialHeader = .ok after) :
    db.agent.insertProjection sha projection = .ok middle.agent ∧
      middle.agent.insertBindings projection.initialHeader = .ok after.agent ∧
      RunIndexes.Grown sha projection.initialHeader db.indexes after.indexes := by
  obtain ⟨inserted, columns, copied, same⟩ := insertProjection_eq_ok projected
  simp only [insertBindings, bind_eq_ok, require_eq_ok, pure_eq_ok] at bound
  obtain ⟨goals, goal, worlds, world, memories, memory, plans, plan, agent, lineage, rfl⟩ := bound
  rw [same] at goal world memory plan
  refine ⟨inserted, lineage, ?_⟩
  exact
    { columns := by
        show middle.indexes.columns.rows = _
        rw [same]
        exact Table.rows_of_insertAll? copied
      goals := Table.rows_of_insertAll? goal
      worlds := Table.rows_of_insertAll? world
      memories := Table.rows_of_insertAll? memory
      plans := Table.rows_of_insertAll? plan }

/-- A run that is created with its index rows is created in the agent tables. -/
theorem createAgentRun_eq_ok {header : AgentRunHeader} {eventId : Uuid} {after : IndexedTables}
    {outcome : Except MacrError AgentRunProjection}
    (done : db.createAgentRun kernel fault header eventId = .ok (after, outcome)) :
    db.agent.createAgentRun kernel fault header eventId = .ok (after.agent, outcome) ∧
      RunIndexes.Grown kernel.sha header db.indexes after.indexes := by
  simp only [createAgentRun, bind_eq_ok, raiseIf_eq_ok, faultAt_eq_ok, exists_const, commit_eq_ok,
    Prod.mk.injEq] at done
  obtain ⟨projection, begun, event, made, absent, before, first, inserted, between, second,
    projected, third, bound, late, last, rfl, rfl⟩ := done
  have same := (AgentRunProjection.fromCreationHeader_eq_ok begun).1
  rw [← same] at bound
  obtain ⟨row, lineage, grown⟩ := grown_of_inserted projected bound
  rw [same] at lineage grown
  refine ⟨?_, grown⟩
  simp only [AgentTables.createAgentRun, bind_eq_ok, raiseIf_eq_ok, faultAt_eq_ok, exists_const,
    commit_eq_ok, Prod.mk.injEq]
  exact ⟨projection, begun, event, made, absent, before, first, inserted, between, second.agent,
    row, after.agent, lineage, late, last, rfl, rfl⟩

/-- A read chain is a history that is not empty. -/
theorem loadEventChain_eq_ok {db : AgentTables} {agentRunId : Uuid}
    {events : List AgentStateEvent} (read : db.loadEventChain agentRunId = .ok events) :
    events = db.history agentRunId ∧ events ≠ [] := by
  unfold AgentTables.loadEventChain at read
  split at read
  · split at read <;> cases read
  · rename_i some_event
    obtain rfl := Except.ok.inj read
    exact ⟨rfl, some_event⟩

/-- The read chain of a sourced database is that of a stored row, which replays to it. -/
theorem row_of_chain (sourced : db.agent.Sourced sha) {agentRunId : Uuid}
    {events : List AgentStateEvent} {replayed : AgentRunProjection}
    (read : db.agent.loadEventChain agentRunId = .ok events)
    (replay : replayAgentEvents sha events = .ok replayed) :
    ∃ row ∈ db.agent.runs.rows, row.agentRunId = agentRunId ∧ row.Holds sha replayed ∧
      replaySemanticBinding replayed.initialHeader.semanticState events =
        .ok row.semanticState := by
  obtain ⟨rfl, some_event⟩ := loadEventChain_eq_ok read
  obtain ⟨event, here⟩ := List.exists_mem_of_ne_nil _ some_event
  obtain ⟨member, run⟩ := List.mem_filter.mp here
  obtain ⟨row, stored, name⟩ := sourced.known event member
  have named : row.agentRunId = agentRunId := name.trans (of_decide_eq_true run)
  subst named
  obtain ⟨projection, same, holds⟩ := sourced.replayed row stored
  obtain rfl := Except.ok.inj (replay.symm.trans same)
  refine ⟨row, stored, rfl, holds, ?_⟩
  rw [← holds.initialHeader]
  exact sourced.bound row stored

/-- A row is what its projection and its binding write. -/
theorem ofProjection_of_holds {row : AgentRunRow} {projection : AgentRunProjection}
    (holds : row.Holds sha projection) :
    { AgentRunRow.ofProjection sha projection with semanticState := row.semanticState } = row := by
  obtain ⟨agentRunId, subjectDigest, initialHeader, state, stateRevision, epoch, stateDigest,
    updatedAt⟩ := holds
  cases row
  simp only [AgentRunRow.ofProjection, AgentRunRow.mk.injEq]
  exact ⟨agentRunId.symm, subjectDigest.symm, initialHeader.symm, state.symm, stateRevision.symm,
    epoch.symm, trivial, stateDigest.symm, updatedAt.symm⟩

/-- A rebuild leaves every table as it was, but for the run's owner. -/
structure Rebuilt (before after : IndexedTables) (agentRunId : Uuid) : Prop where
  /-- The rows of the runs. -/
  runs : after.agent.runs.rows.Perm before.agent.runs.rows
  /-- The events. -/
  events : after.agent.events = before.agent.events
  /-- The counter. -/
  counter : after.agent.fencingCounter = before.agent.fencingCounter
  /-- The owners of other runs. -/
  ownership : after.agent.ownership =
    before.agent.ownership.delete (fun row => row.agentRunId = agentRunId)
  /-- The lineages. -/
  children : after.agent.children.rows.Perm before.agent.children.rows
  /-- The tables that index headers. -/
  indexes : RunIndexes.SameRows before.indexes after.indexes

/-- Rebuilt lineages replace those of the parent. -/
theorem rebuildOutgoingChildren_eq_ok {db after : AgentTables} {parent : Uuid}
    (done : db.rebuildOutgoingChildren parent = .ok after) :
    ∃ children, after = { db with children := children } ∧
      children.rows = (db.children.delete (fun row => row.parentAgentRunId = parent)).rows ++
        db.expectedOutgoingChildren parent := by
  simp only [AgentTables.rebuildOutgoingChildren, bind_eq_ok, require_eq_ok, pure_eq_ok] at done
  obtain ⟨children, inserted, rfl⟩ := done
  exact ⟨children, rfl, Table.rows_of_insertAll? inserted⟩

/-- The binding of the last row after a rebuild is the replayed one. -/
theorem runs_of_rebound {db : AgentTables} {agentRunId : Uuid} {rest : List AgentRunRow}
    {row : AgentRunRow} {binding initialBinding : Option SemanticStateBinding}
    (runs : db.runs.rows = rest ++ [row]) (named : row.agentRunId = agentRunId)
    (apart : ∀ other ∈ rest, other.agentRunId ≠ agentRunId)
    (first : row.semanticState = initialBinding) :
    (rebound db agentRunId binding initialBinding).runs.rows =
      rest ++ [{ row with semanticState := binding }] := by
  have kept : rest.map (fun other : AgentRunRow => if decide (other.agentRunId = agentRunId) then
      { other with semanticState := binding } else other) = rest := by
    conv_rhs => rw [← List.map_id rest]
    apply List.map_congr_left
    intro other member
    rw [if_neg (by simpa using apart other member)]
    rfl
  unfold rebound
  split
  · simp only [rebindRun, Table.update, runs, List.map_append, kept, List.map_singleton, named,
      decide_true, if_true]
  · rename_i unmoved
    rw [runs, not_not.mp unmoved, ← first]

/-- The update of the binding columns only touches the rows of the runs. -/
theorem others_of_rebound (db : AgentTables) (agentRunId : Uuid)
    (binding initialBinding : Option SemanticStateBinding) :
    (rebound db agentRunId binding initialBinding).events = db.events ∧
      (rebound db agentRunId binding initialBinding).ownership = db.ownership ∧
      (rebound db agentRunId binding initialBinding).fencingCounter = db.fencingCounter ∧
      (rebound db agentRunId binding initialBinding).children = db.children := by
  unfold rebound
  split <;> exact ⟨rfl, rfl, rfl, rfl⟩

/-- The lineages of a rebuild are those there were. -/
theorem children_of_rebuilt {before second : AgentTables} {row : AgentRunRow}
    {children : Table (fun child : AgentChildRow =>
      (child.parentAgentRunId, child.childAgentRunId))} {parent : Uuid}
    (sourced : before.Sourced sha)
    (held : ∀ child, child ∈ before.children.rows ↔
      ∃ row ∈ before.runs.rows, AgentTables.LineageOf child row)
    (stored : row ∈ before.runs.rows) (events : second.events = before.events)
    (lineage : ∀ child, child ∈ second.children.rows ↔ child ∈ before.children.rows ∨
      AgentTables.LineageOf child row)
    (rows : children.rows = (second.children.delete
      (fun child => child.parentAgentRunId = parent)).rows ++
        second.expectedOutgoingChildren parent) :
    children.rows.Perm before.children.rows := by
  have expected : second.expectedOutgoingChildren parent =
      before.expectedOutgoingChildren parent := by
    simp only [AgentTables.expectedOutgoingChildren, events]
  apply (List.perm_ext_iff_of_nodup children.nodup_rows before.children.nodup_rows).mpr
  intro child
  rw [rows, List.mem_append, Table.mem_delete, expected, sourced.mem_expectedOutgoingChildren,
    lineage]
  constructor
  · rintro (⟨old | own, _⟩ | ⟨_, derived⟩)
    · exact old
    · exact (held child).mpr ⟨row, stored, own⟩
    · exact (held child).mpr derived
  · intro old
    by_cases same : child.parentAgentRunId = parent
    · exact .inr ⟨same, (held child).mp old⟩
    · exact .inl ⟨.inl old, decide_eq_false same⟩

/-- The rows of a rebuild that commits are the rows there were. -/
theorem rebuildProjection_eq_ok {agentRunId : Uuid} {observedAt : Timestamp}
    {after : IndexedTables} {outcome : Except MacrError AgentRunProjection}
    (sourced : db.agent.Sourced kernel.sha) (indexed : db.Indexed kernel.sha)
    (done : db.rebuildProjection kernel fault agentRunId observedAt = .ok (after, outcome)) :
    Rebuilt db after agentRunId ∧ after.indexes.Lists kernel.sha db.agent.runs.rows ∧
      ∃ row ∈ db.agent.runs.rows, ∃ projection, row.agentRunId = agentRunId ∧
        row.Holds kernel.sha projection ∧ outcome = .ok projection := by
  simp only [rebuildProjection, bind_eq_ok, raiseIf_eq_ok, faultAt_eq_ok, exists_const,
    commit_eq_ok, Prod.mk.injEq] at done
  obtain ⟨events, read, replayed, replay, binding, bindings, _, middle, projected, second, bound,
    agent, lineages, _, _, rfl, rfl⟩ := done
  obtain ⟨row, stored, rfl, holds, stateful⟩ := row_of_chain sourced read replay
  obtain rfl := Except.ok.inj (bindings.symm.trans stateful)
  obtain ⟨inserted, lineage, grown⟩ := grown_of_inserted projected bound
  simp only [AgentTables.insertProjection, bind_eq_ok, require_eq_ok, pure_eq_ok] at inserted
  obtain ⟨runs, rowInserted, made⟩ := inserted
  obtain ⟨secondRuns, secondEvents, secondOwnership, secondCounter, secondChildren⟩ :=
    AgentTables.insertBindings_eq_ok lineage
  obtain ⟨children, rebuilt, childRows⟩ := rebuildOutgoingChildren_eq_ok lineages
  rw [← holds.initialHeader] at grown
  have agentRuns : agent.runs.rows =
      (db.agent.runs.delete (fun other => other.agentRunId = row.agentRunId)).rows ++
        [.ofProjection kernel.sha replayed] := by
    rw [rebuilt]
    show second.agent.runs.rows = _
    rw [secondRuns, ← made]
    exact Table.rows_of_insert? rowInserted
  have runsAfter : (rebound agent row.agentRunId row.semanticState
      replayed.initialHeader.semanticState).runs.rows.Perm db.agent.runs.rows := by
    rw [runs_of_rebound agentRuns holds.agentRunId.symm]
    · rw [ofProjection_of_holds holds]
      have again := db.agent.runs.perm_of_delete_append
        (fun other => other.agentRunId = row.agentRunId)
      rw [db.agent.runs.filter_key stored] at again
      exact again
    · intro other member
      have kept := ((db.agent.runs.mem_delete _ _).mp member).2
      exact of_decide_eq_false kept
    · rfl
  obtain ⟨keptEvents, keptOwnership, keptCounter, keptChildren⟩ :=
    others_of_rebound agent row.agentRunId row.semanticState replayed.initialHeader.semanticState
  refine ⟨⟨runsAfter, ?_, ?_, ?_, ?_, ?_⟩, ?_, row, stored, replayed, rfl, holds, rfl⟩
  · show (rebound _ _ _ _).events = _
    rw [keptEvents, rebuilt]
    show second.agent.events = _
    rw [secondEvents, ← made]
    rfl
  · show (rebound _ _ _ _).fencingCounter = _
    rw [keptCounter, rebuilt]
    show second.agent.fencingCounter = _
    rw [secondCounter, ← made]
    rfl
  · show (rebound _ _ _ _).ownership = _
    rw [keptOwnership, rebuilt]
    show second.agent.ownership = _
    rw [secondOwnership, ← made]
    rfl
  · show (rebound _ _ _ _).children.rows.Perm _
    rw [keptChildren, rebuilt]
    apply children_of_rebuilt sourced indexed.children stored _ _ childRows
    · rw [secondEvents, ← made]
      rfl
    · intro child
      rw [secondChildren, ← made, ← holds.initialHeader, sourced.named stored]
      rfl
  · exact indexed.listed.sameRows stored grown
  · exact indexed.listed.rebuilt
      (fun other member same => db.agent.runs.eq_of_key member stored same) stored grown

/-! ## Rows of other operations -/

/-- The row of a header that is created is listed. -/
theorem Indexed.created {header : AgentRunHeader} {after : IndexedTables} {row : AgentRunRow}
    {event : AgentStateEvent} (held : db.Indexed sha)
    (creation : Created sha db.agent after.agent row event)
    (grown : RunIndexes.Grown sha header db.indexes after.indexes)
    (same : row.initialHeader = header) (constructed : header.Constructed sha) :
    after.Indexed sha := by
  have named : row.initialHeader.agentRunId = row.agentRunId := by
    obtain ⟨projection, _, holds⟩ := creation.applied
    rw [holds.agentRunId, holds.initialHeader]
    rfl
  subst same
  refine ⟨?_, ?_, ?_⟩
  · rw [creation.runs]
    exact held.listed.appended grown named creation.new
  · intro child
    rw [creation.children, held.children, creation.runs]
    constructor
    · rintro (⟨other, stored, lineage⟩ | own)
      · exact ⟨other, List.mem_append_left _ stored, lineage⟩
      · exact ⟨row, by simp, own⟩
    · rintro ⟨other, stored, lineage⟩
      rcases List.mem_append.mp stored with old | new
      · exact .inl ⟨other, old, lineage⟩
      · rw [List.mem_singleton.mp new] at lineage
        exact .inr lineage
  · intro other stored
    rw [creation.runs] at stored
    rcases List.mem_append.mp stored with old | new
    · exact held.constructed other old
    · rw [List.mem_singleton.mp new]
      exact constructed

/-- Rows that keep their runs and headers are listed as before. -/
theorem Indexed.of_headers {after : AgentTables} (held : db.Indexed sha)
    (known : ∀ other ∈ after.runs.rows, ∃ row ∈ db.agent.runs.rows,
      row.agentRunId = other.agentRunId ∧ row.initialHeader = other.initialHeader)
    (kept : ∀ row ∈ db.agent.runs.rows, ∃ other ∈ after.runs.rows,
      other.agentRunId = row.agentRunId ∧ other.initialHeader = row.initialHeader)
    (children : after.children = db.agent.children) :
    Indexed sha ⟨after, db.indexes⟩ := by
  refine ⟨held.listed.of_headers known ?_, ?_, ?_⟩
  · intro row stored
    obtain ⟨other, present, same, _⟩ := kept row stored
    exact ⟨other, present, same⟩
  · intro child
    show child ∈ after.children.rows ↔ _
    rw [children, held.children]
    constructor
    · rintro ⟨row, stored, run, delegated⟩
      obtain ⟨other, present, same, header⟩ := kept row stored
      exact ⟨other, present, run.trans same.symm, by rw [header]; exact delegated⟩
    · rintro ⟨other, present, run, delegated⟩
      obtain ⟨row, stored, same, header⟩ := known other present
      exact ⟨row, stored, run.trans same.symm, by rw [header]; exact delegated⟩
  · intro other present
    obtain ⟨row, stored, _, header⟩ := known other present
    rw [← header]
    exact held.constructed row stored

/-- A move of a run keeps the headers. -/
theorem Indexed.advanced {after : AgentTables} {row next : AgentRunRow} {event : AgentStateEvent}
    (held : db.Indexed sha) (advance : Advanced sha db.agent after row next event) :
    Indexed sha ⟨after, db.indexes⟩ := by
  have header : next.initialHeader = row.initialHeader := by
    obtain ⟨current, projection, holds, written, continues⟩ := advance.continues
    rw [written.initialHeader, continues.header, holds.initialHeader]
  apply held.of_headers _ _ advance.children
  · intro other present
    rw [advance.runs] at present
    obtain ⟨old, stored, rfl⟩ := List.mem_map.mp present
    by_cases same : old.agentRunId = row.agentRunId
    · rw [if_pos same]
      exact ⟨row, advance.stored, advance.agentRunId.symm, header.symm⟩
    · rw [if_neg same]
      exact ⟨old, stored, rfl, rfl⟩
  · intro old stored
    by_cases same : old.agentRunId = row.agentRunId
    · obtain rfl := db.agent.runs.eq_of_key stored advance.stored same
      exact ⟨next, advance.next_mem, advance.agentRunId, header⟩
    · exact ⟨old, advance.other_mem stored same, rfl, rfl⟩

/-- An operation that adds no run keeps the headers. -/
theorem Indexed.step {after : AgentTables} (held : db.Indexed sha)
    (effect : AgentEffect sha db.agent after)
    (count : after.runs.rows.length = db.agent.runs.rows.length) :
    Indexed sha ⟨after, db.indexes⟩ := by
  have same : after.runs = db.agent.runs → after.children = db.agent.children →
      Indexed sha ⟨after, db.indexes⟩ := by
    intro runs children
    apply held.of_headers _ _ children <;> intro row stored
    · exact ⟨row, by rw [← runs]; exact stored, rfl, rfl⟩
    · exact ⟨row, by rw [runs]; exact stored, rfl, rfl⟩
  cases effect with
  | idle unchanged => exact same (by rw [unchanged]) (by rw [unchanged])
  | created creation _ _ =>
    rw [creation.runs, List.length_append, List.length_singleton] at count
    omega
  | advanced advance _ _ _ => exact held.advanced advance
  | acquired advance _ _ _ _ _ _ => exact held.advanced advance
  | renewed _ _ _ runs _ _ children => exact same runs children
  | released _ _ runs _ _ children => exact same runs children

/-- A rebuild keeps the index tables and the chains in step with the rows. -/
theorem rebuilt_indexed {agentRunId : Uuid} {observedAt : Timestamp} {after : IndexedTables}
    {outcome : Except MacrError AgentRunProjection}
    (sourced : db.agent.Sourced kernel.sha) (indexed : db.Indexed kernel.sha)
    (done : db.rebuildProjection kernel fault agentRunId observedAt = .ok (after, outcome)) :
    after.agent.Sourced kernel.sha ∧ after.Indexed kernel.sha := by
  obtain ⟨rebuilt, listed, _⟩ := rebuildProjection_eq_ok sourced indexed done
  refine ⟨sourced.perm rebuilt.runs rebuilt.events, ?_, ?_, ?_⟩
  · exact listed.of_headers
      (fun other present => ⟨other, rebuilt.runs.mem_iff.mp present, rfl, rfl⟩)
      (fun row stored => ⟨row, rebuilt.runs.mem_iff.mpr stored, rfl⟩)
  · intro child
    rw [rebuilt.children.mem_iff, indexed.children]
    simp only [rebuilt.runs.mem_iff]
  · intro row stored
    exact indexed.constructed row (rebuilt.runs.mem_iff.mp stored)

end IndexedTables

end Macr
