import Macr.Agent.Rebuild
import Macr.Semantic.Proposals
import Macr.Semantic.Rebuild

/-!
# The indexed agent system

The agent system together with the tables that index headers and with the two operations that
delete rows and derive them again. In every run the derived rows are the deleted ones.
-/

namespace Macr

open Lib

/-- The agent system and the tables that index headers. -/
structure IndexedSystem where
  /-- The agent system. -/
  agents : AgentSystem
  /-- The index tables. -/
  indexes : RunIndexes

/-- The actions of the callers, with the rebuilding ones. -/
inductive IndexedAction where
  /-- An action of the agent system. -/
  | agent (action : AgentAction)
  /-- `rebuild_projection`. -/
  | rebuildProjection (fault : String → Bool) (agentRunId : Uuid) (observedAt : Timestamp)
  /-- `rebuild_graph_head`. -/
  | rebuildGraphHead (graphId : Uuid)

namespace IndexedSystem

/-- A new system. -/
def initial : IndexedSystem := ⟨.initial, .initial⟩

/-- The agent tables with the index tables. -/
def tables (system : IndexedSystem) : IndexedTables :=
  ⟨system.agents.db.agent, system.indexes⟩

/-- The system with other agent and index tables. -/
def withTables (system : IndexedSystem) (tables : IndexedTables) : IndexedSystem where
  agents := { system.agents with db := { system.agents.db with agent := tables.agent } }
  indexes := tables.indexes

/-- The system with other semantic tables. -/
def withSemantic (system : IndexedSystem) (semantic : SemanticTables) : IndexedSystem :=
  { system with
    agents := { system.agents with db := { system.agents.db with semantic := semantic } } }

/-- The creation of a run from the arguments of its header. -/
def create (kernel : SemanticKernel) (tables : IndexedTables) (fault : String → Bool)
    (arguments : AgentRunHeader) (eventId : Uuid) :
    Except MacrError (Committed IndexedTables AgentRunProjection) := do
  let header ← arguments.construct kernel.sha
  tables.createAgentRun kernel.toAgentKernel fault header eventId

/-- One action. -/
def step (kernel : SemanticKernel) (system : IndexedSystem) : IndexedAction → IndexedSystem
  | .agent (.call (.createAgentRun fault arguments eventId)) =>
    system.withTables (settle system.tables (create kernel system.tables fault arguments eventId)).1
  | .agent action => { system with agents := system.agents.step kernel action }
  | .rebuildProjection fault agentRunId observedAt =>
    system.withTables (settle system.tables
      (system.tables.rebuildProjection kernel.toAgentKernel fault agentRunId observedAt)).1
  | .rebuildGraphHead graphId =>
    system.withSemantic (settle system.agents.db.semantic
      (system.agents.db.semantic.rebuildGraphHead kernel.sha graphId)).1

/-- The indexed system as a machine. -/
def machine (kernel : SemanticKernel) : Machine IndexedSystem IndexedAction := ⟨step kernel⟩

end IndexedSystem

/-! ## Constructed headers -/

/-- Canonical bindings ascend by their digests. -/
theorem canonicalBindings_eq_ok {α : Type} {name : String} {digestOf : α → Digest}
    {values bindings : List α} (made : canonicalBindings name digestOf values = .ok bindings) :
    bindings.Pairwise (fun left right => digestOf left < digestOf right) := by
  simp only [canonicalBindings, bind_eq_ok, raiseIf_eq_ok, exists_const, pure_eq_ok,
    not_not] at made
  obtain ⟨distinct, rfl⟩ := made
  have ordered : (sortOn digestOf values).Pairwise
      (fun left right => digestOf left ≤ digestOf right) := sortOn_pairwise values
  have apart : (sortOn digestOf values).Pairwise
      (fun left right => digestOf left ≠ digestOf right) :=
    List.pairwise_map.mp (((sortOn_perm digestOf values).map digestOf).nodup_iff.mpr distinct)
  exact (ordered.and apart).imp fun both => lt_of_le_of_ne both.1 both.2

/-- The bindings of a constructed header ascend by their digests. -/
theorem AgentRunHeader.construct_eq_ok {sha : Sha256} {arguments header : AgentRunHeader}
    (made : arguments.construct sha = .ok header) : header.Constructed sha := by
  simp only [construct, bind_eq_ok, pure_eq_ok] at made
  obtain ⟨worlds, world, memories, memory, rfl⟩ := made
  exact ⟨List.pairwise_map.mpr (canonicalBindings_eq_ok world),
    List.pairwise_map.mpr (canonicalBindings_eq_ok memory)⟩

/-! ## The number of runs -/

namespace AgentTables

variable {kernel : AgentKernel} {fault : String → Bool} {db after : AgentTables}

/-- A compare and swap adds no run. -/
theorem length_of_swapRun {agentRunId : Uuid} {revision epoch : Nat}
    {assign : AgentRunRow → AgentRunRow}
    {keeps : ∀ row, (assign row).agentRunId = row.agentRunId} {message : String}
    (swapped : db.swapRun agentRunId revision epoch assign keeps message = .ok after) :
    after.runs.rows.length = db.runs.rows.length := by
  simp only [swapRun, bind_eq_ok, raiseIf_eq_ok, exists_const, pure_eq_ok] at swapped
  obtain ⟨_, rfl⟩ := swapped
  exact List.length_map _

/-- An event and a compare and swap add no run. -/
theorem length_of_moved {middle : AgentTables} {event : AgentStateEvent} {agentRunId : Uuid}
    {revision epoch : Nat} {assign : AgentRunRow → AgentRunRow}
    {keeps : ∀ row, (assign row).agentRunId = row.agentRunId} {message : String}
    (inserted : db.insertEvent event = .ok middle)
    (swapped : middle.swapRun agentRunId revision epoch assign keeps message = .ok after) :
    after.runs.rows.length = db.runs.rows.length := by
  obtain ⟨_, _, runs, _⟩ := insertEvent_eq_ok inserted
  rw [length_of_swapRun swapped, runs]

/-- An acquisition adds no run. -/
theorem length_of_takeOwnership {current : AgentRunProjection} {candidate : AgentOwnershipPermit}
    {expectedRevision expectedEpoch : Nat} {eventId : Uuid}
    {outcome : Except MacrError AgentOwnershipPermit}
    (done : db.takeOwnership kernel fault current candidate expectedRevision expectedEpoch eventId =
      .ok (after, outcome)) : after.runs.rows.length = db.runs.rows.length := by
  simp only [takeOwnership, bind_eq_ok, faultAt_eq_ok, exists_const, commit_eq_ok,
    Prod.mk.injEq] at done
  obtain ⟨_, _, _, _, _, _, inserted, _, _, swapped, _, owned, _, _, rfl, _⟩ := done
  obtain ⟨_, finalRuns, _⟩ := insertOwnership_eq_ok owned
  rw [finalRuns, length_of_moved inserted swapped]

end AgentTables

namespace AgentDb

variable {kernel : SemanticKernel} {db after : AgentDb}

/-- Only the creation of a run adds one. -/
theorem length_of_perform {call : AgentCall} {outcome : Except MacrError AgentOutcome}
    (named : db.semantic.HeadsNamed)
    (other : ∀ fault header eventId, call ≠ .createAgentRun fault header eventId)
    (done : db.perform kernel call = .ok (after, outcome)) :
    after.agent.runs.rows.length = db.agent.runs.rows.length := by
  cases call with
  | createAgentRun fault header eventId => exact absurd rfl (other fault header eventId)
  | transitionUnowned =>
    obtain ⟨agent, _, made, rfl, _⟩ := onAgent_eq_ok done
    simp only [AgentTables.transitionUnowned, bind_eq_ok, raiseIf_eq_ok, faultAt_eq_ok,
      exists_const, commit_eq_ok, requirePhaseBTransition_eq_ok, Prod.mk.injEq] at made
    obtain ⟨_, _, _, _, _, _, _, _, _, _, inserted, _, _, swapped, _, _, rfl, _⟩ := made
    exact AgentTables.length_of_moved inserted swapped
  | acquireOwnership =>
    obtain ⟨agent, _, made, rfl, _⟩ := onAgent_eq_ok done
    simp only [AgentTables.acquireOwnership, bind_eq_ok, raiseIf_eq_ok, exists_const] at made
    obtain ⟨_, _, _, _, _, _, made⟩ := made
    split at made
    · split at made
      · have taken := AgentTables.length_of_takeOwnership made
        exact taken
      · split at made
        · simp only [Except.ok.injEq, Prod.mk.injEq] at made
          rw [← made.1]
        · cases made
    · exact AgentTables.length_of_takeOwnership made
  | renewOwnership =>
    obtain ⟨agent, _, made, rfl, _⟩ := onAgent_eq_ok done
    simp only [AgentTables.renewOwnership, bind_eq_ok, require_eq_ok, raiseIf_eq_ok, exists_const,
      Except.ok.injEq, Prod.mk.injEq] at made
    obtain ⟨_, _, _, _, _, _, _, _, rfl, _⟩ := made
    rfl
  | releaseOwnership =>
    obtain ⟨agent, _, made, rfl, _⟩ := onAgent_eq_ok done
    simp only [AgentTables.releaseOwnership, bind_eq_ok, commit_eq_ok, Prod.mk.injEq] at made
    obtain ⟨_, _, rfl, _⟩ := made
    rfl
  | transitionOwned =>
    obtain ⟨agent, _, made, rfl, _⟩ := onAgent_eq_ok done
    simp only [AgentTables.transitionOwned, bind_eq_ok, raiseIf_eq_ok, faultAt_eq_ok,
      exists_const, commit_eq_ok, requirePhaseBTransition_eq_ok, Prod.mk.injEq] at made
    obtain ⟨_, _, _, _, _, _, _, _, _, _, _, inserted, _, last, swapped, _, _, rfl, _⟩ := made
    have moved := AgentTables.length_of_moved inserted swapped
    show (if _ then last.deleteOwnership _ else last).runs.rows.length = _
    split
    · exact moved
    · exact moved
  | createGraph =>
    obtain ⟨_, made, _⟩ := onDb_eq_ok done
    obtain ⟨_, _, _, creation, _⟩ := createGraph_eq_ok made
    rw [creation.agent]
  | attachGraph =>
    obtain ⟨_, made, _⟩ := onDb_eq_ok done
    obtain ⟨_, _, ⟨rfl, _⟩ | attachment⟩ := attachGraph_eq_ok made
    · rfl
    · obtain ⟨_, _, _, _, _, _, _, _, _, _, _, _, move⟩ := attachment.bound
      rw [move.advanced.runs, List.length_map]
  | commitPatch =>
    obtain ⟨_, made, _⟩ := onDb_eq_ok done
    obtain ⟨_, _, _, ⟨rfl, _⟩ | ⟨_, commit⟩⟩ := commitPatch_eq_ok named made
    · rfl
    · obtain ⟨_, _, _, _, _, _, _, _, _, move⟩ := commit.bound
      rw [move.advanced.runs, List.length_map]

end AgentDb

/-! ## Rebuilt heads -/

namespace SemanticTables

variable {sha : Sha256} {db after : SemanticTables}

/-- A head that is rebuilt was stored, and is stored again. -/
theorem rebuildGraphHead_eq_ok {graphId : Uuid} {outcome : Except MacrError SemanticGraphHead}
    (linear : db.Linear sha) (held : db.Rebuildable sha)
    (done : db.rebuildGraphHead sha graphId = .ok (after, outcome)) :
    ∃ headRow ∈ db.heads.rows, headRow.graphId = graphId ∧ outcome = .ok headRow.head ∧
      ∃ heads, after = { db with heads := heads } ∧ heads.rows.Perm db.heads.rows := by
  have found : ∃ headRow ∈ db.heads.rows, headRow.graphId = graphId := by
    simp only [rebuildGraphHead, bind_eq_ok, require_eq_ok] at done
    obtain ⟨_, _, latest, last, _⟩ := done
    obtain ⟨revision, member, _⟩ := List.mem_map.mp (List.max?_mem last)
    obtain ⟨stored, named⟩ := mem_revisionsOf.mp member
    obtain ⟨headRow, present, same⟩ := linear.headed revision stored
    exact ⟨headRow, present, same.trans named⟩
  obtain ⟨headRow, stored, rfl⟩ := found
  obtain ⟨heads, rebuilt, perm⟩ := rebuildGraphHead_of_headed linear held stored
  rw [rebuilt] at done
  simp only [Except.ok.injEq, Prod.mk.injEq] at done
  obtain ⟨rfl, rfl⟩ := done
  exact ⟨headRow, stored, rfl, rfl, heads, rfl, perm⟩

/-- The graph of a rebuildable head has the head's registry. -/
theorem Rebuildable.registered (held : db.Rebuildable sha) (named : db.HeadsNamed) :
    db.Registered := by
  intro headRow stored
  obtain ⟨graph, present, _, _, founded⟩ := held.heads headRow stored
  exact ⟨graph, present, founded.graphId.trans (named headRow stored), founded.registry⟩

/-- The order of the heads does not matter. -/
theorem Linear.of_heads {heads : Table (fun row : SemanticGraphHeadRow => row.graphId)}
    (held : db.Linear sha) (perm : heads.rows.Perm db.heads.rows) :
    SemanticTables.Linear sha { db with heads := heads } where
  named := fun row stored => held.named row (perm.mem_iff.mp stored)
  graphs := fun row stored => held.graphs row (perm.mem_iff.mp stored)
  headed := by
    intro revision stored
    obtain ⟨row, present, same⟩ := held.headed revision stored
    exact ⟨row, perm.mem_iff.mpr present, same⟩
  linked := held.linked
  last := fun row stored => held.last row (perm.mem_iff.mp stored)

end SemanticTables

/-! ## Runs -/

namespace IndexedSystem

variable {kernel : SemanticKernel} {system : IndexedSystem}

/-- The graphs are linear, stored and rebuildable, the runs are what their events replay to, and
the index tables list their headers. -/
structure Lawful (kernel : SemanticKernel) (system : IndexedSystem) : Prop where
  /-- The graphs. -/
  graphical : AgentSystem.Graphical kernel system.agents
  /-- Their heads. -/
  rebuildable : system.agents.db.semantic.Rebuildable kernel.sha
  /-- The runs. -/
  sourced : system.agents.db.agent.Sourced kernel.sha
  /-- The index tables. -/
  indexed : system.tables.Indexed kernel.sha

/-- A new system is lawful. -/
theorem lawful_initial : initial.Lawful kernel where
  graphical := AgentSystem.graphical_initial
  rebuildable := SemanticTables.rebuildable_initial
  sourced := AgentTables.sourced_initial
  indexed := by
    refine ⟨RunIndexes.lists_initial, ?_, ?_⟩
    · intro child
      constructor
      · intro member
        exact absurd member (by simp [initial, tables, AgentSystem.initial, AgentDb.initial,
          AgentTables.initial])
      · rintro ⟨row, stored, _⟩
        exact absurd stored (by simp [initial, tables, AgentSystem.initial, AgentDb.initial,
          AgentTables.initial])
    · intro row stored
      exact absurd stored (by simp [initial, tables, AgentSystem.initial, AgentDb.initial,
        AgentTables.initial])

/-- An action of the agent system keeps what only depends on its own tables. -/
theorem Lawful.agents (held : system.Lawful kernel) (action : AgentAction) :
    AgentSystem.Graphical kernel (system.agents.step kernel action) ∧
      (system.agents.step kernel action).db.semantic.Rebuildable kernel.sha ∧
      (system.agents.step kernel action).db.agent.Sourced kernel.sha := by
  have effect : AgentDb.Effect kernel system.agents.db (system.agents.step kernel action).db :=
    AgentSystem.effect_of_step held.graphical.formed action
  exact ⟨AgentSystem.graphical_step system.agents action held.graphical,
    held.rebuildable.step held.graphical.linear held.graphical.stored effect,
    held.sourced.step (AgentSystem.agentEffect_of_effect effect)⟩

/-- An action that creates no run keeps the system lawful. -/
theorem Lawful.acted (held : system.Lawful kernel) {action : AgentAction}
    (other : ∀ fault header eventId, action ≠ .call (.createAgentRun fault header eventId)) :
    Lawful kernel { system with agents := system.agents.step kernel action } := by
  obtain ⟨graphical, rebuildable, sourced⟩ := held.agents action
  have effect : AgentDb.Effect kernel system.agents.db (system.agents.step kernel action).db :=
    AgentSystem.effect_of_step held.graphical.formed action
  refine ⟨graphical, rebuildable, sourced, ?_⟩
  apply held.indexed.step (AgentSystem.agentEffect_of_effect effect)
  cases action with
  | propose => rfl
  | proceed =>
    simp only [AgentSystem.step]
    split <;> rfl
  | call call =>
    show (settle system.agents.db (system.agents.db.perform kernel call)).1.agent.runs.rows.length =
      _
    cases done : system.agents.db.perform kernel call with
    | error raised => rfl
    | ok result =>
      apply AgentDb.length_of_perform held.graphical.formed.named _ done
      intro fault header eventId same
      exact other fault header eventId (congrArg AgentAction.call same)

/-- The creation of a run keeps the system lawful. -/
theorem Lawful.created (held : system.Lawful kernel) {fault : String → Bool}
    {arguments : AgentRunHeader} {eventId : Uuid} {after : IndexedTables}
    {outcome : Except MacrError AgentRunProjection}
    (done : create kernel system.tables fault arguments eventId = .ok (after, outcome)) :
    (system.withTables after).Lawful kernel := by
  simp only [create, bind_eq_ok] at done
  obtain ⟨header, made, done⟩ := done
  obtain ⟨created, grown⟩ := IndexedTables.createAgentRun_eq_ok done
  obtain ⟨row, event, creation, same, _⟩ := AgentTables.created_of_createAgentRun created
  have reached : system.agents.step kernel (.call (.createAgentRun fault header eventId)) =
      (system.withTables after).agents := by
    have performed : system.agents.db.perform kernel (.createAgentRun fault header eventId) =
        .ok ({ system.agents.db with agent := after.agent }, outcome.map .projection) := by
      show Except.map _ (system.tables.agent.createAgentRun _ _ _ _) = _
      rw [created]
      rfl
    simp only [AgentSystem.step, performed]
    rfl
  obtain ⟨graphical, rebuildable, sourced⟩ :=
    held.agents (.call (.createAgentRun fault header eventId))
  rw [reached] at graphical rebuildable sourced
  exact ⟨graphical, rebuildable, sourced, held.indexed.created creation grown same
    (AgentRunHeader.construct_eq_ok made)⟩

/-- A rebuilt projection keeps the system lawful. -/
theorem Lawful.rebuilt (held : system.Lawful kernel) {fault : String → Bool} {agentRunId : Uuid}
    {observedAt : Timestamp} {after : IndexedTables}
    {outcome : Except MacrError AgentRunProjection}
    (done : system.tables.rebuildProjection kernel.toAgentKernel fault agentRunId observedAt =
      .ok (after, outcome)) : (system.withTables after).Lawful kernel := by
  obtain ⟨sourced, indexed⟩ := IndexedTables.rebuilt_indexed held.sourced held.indexed done
  refine ⟨⟨⟨held.graphical.formed.named, held.graphical.formed.uncommitted⟩,
    held.graphical.linear, held.graphical.stored⟩, held.rebuildable, sourced, indexed⟩

/-- A rebuilt head keeps the system lawful. -/
theorem Lawful.headed (held : system.Lawful kernel) {graphId : Uuid} {after : SemanticTables}
    {outcome : Except MacrError SemanticGraphHead}
    (done : system.agents.db.semantic.rebuildGraphHead kernel.sha graphId = .ok (after, outcome)) :
    (system.withSemantic after).Lawful kernel := by
  obtain ⟨_, _, _, _, heads, rfl, perm⟩ :=
    SemanticTables.rebuildGraphHead_eq_ok held.graphical.linear held.rebuildable done
  have linear := held.graphical.linear.of_heads perm
  have same : SemanticTables.SameGraphs system.agents.db.semantic
      { system.agents.db.semantic with heads := heads } := ⟨rfl, rfl, rfl, rfl, rfl, rfl⟩
  exact ⟨⟨⟨linear.named, held.graphical.formed.uncommitted⟩, linear,
    same.graphsStored held.graphical.stored⟩, held.rebuildable.of_same same perm, held.sourced,
    held.indexed⟩

/-- Every step keeps the system lawful. -/
theorem lawful_step (system : IndexedSystem) (action : IndexedAction)
    (held : system.Lawful kernel) : ((machine kernel).step system action).Lawful kernel := by
  cases action with
  | agent action =>
    by_cases creates : ∃ fault header eventId,
        action = .call (.createAgentRun fault header eventId)
    · obtain ⟨fault, arguments, eventId, rfl⟩ := creates
      show (system.withTables (settle _ (create _ _ _ _ _)).1).Lawful kernel
      cases done : create kernel system.tables fault arguments eventId with
      | error raised => exact held
      | ok result => exact held.created done
    · have acted : Lawful kernel { system with agents := system.agents.step kernel action } :=
        held.acted fun fault header eventId same => creates ⟨fault, header, eventId, same⟩
      cases action with
      | call call =>
        cases call with
        | createAgentRun fault header eventId => exact absurd ⟨fault, header, eventId, rfl⟩ creates
        | _ => exact acted
      | _ => exact acted
  | rebuildProjection fault agentRunId observedAt =>
    show (system.withTables (settle _ (system.tables.rebuildProjection _ _ _ _)).1).Lawful kernel
    cases done : system.tables.rebuildProjection kernel.toAgentKernel fault agentRunId
        observedAt with
    | error raised => exact held
    | ok result => exact held.rebuilt done
  | rebuildGraphHead graphId =>
    show (system.withSemantic
      (settle _ (system.agents.db.semantic.rebuildGraphHead _ _)).1).Lawful kernel
    cases done : system.agents.db.semantic.rebuildGraphHead kernel.sha graphId with
    | error raised => exact held
    | ok result => exact held.headed done

/-- Every reachable system is lawful. -/
theorem lawful_run (actions : List IndexedAction) :
    ((machine kernel).run initial actions).Lawful kernel :=
  (machine kernel).run_invariant_all lawful_step lawful_initial actions

/-- The head that can be read is the one that is rebuilt and stored. -/
def HeadRestored (sha : Sha256) (db : SemanticTables) (graphId : Uuid) (head : SemanticGraphHead) :
    Prop :=
  ∃ heads, db.rebuildGraphHead sha graphId = .ok ({ db with heads := heads }, .ok head) ∧
    heads.rows.Perm db.heads.rows ∧
    SemanticTables.getGraphHead sha { db with heads := heads } graphId = .ok head

/-- In every run, with rebuilds between the other operations, `rebuild_graph_head` returns and
stores the head that `get_graph_head` returned, and a `rebuild_projection` that commits leaves the
rows of the runs with all columns, the bindings and the lineages as they were. -/
theorem rebuilding_restores (kernel : SemanticKernel) (actions : List IndexedAction) :
    (∀ graphId head,
      ((machine kernel).run initial actions).agents.db.semantic.getGraphHead kernel.sha graphId =
          .ok head →
        HeadRestored kernel.sha ((machine kernel).run initial actions).agents.db.semantic graphId
          head) ∧
      ∀ fault agentRunId observedAt after outcome,
        ((machine kernel).run initial actions).tables.rebuildProjection kernel.toAgentKernel fault
            agentRunId observedAt = .ok (after, outcome) →
          IndexedTables.Rebuilt ((machine kernel).run initial actions).tables after agentRunId := by
  have held : ((machine kernel).run initial actions).Lawful kernel := lawful_run actions
  generalize (machine kernel).run initial actions = system at held ⊢
  constructor
  · intro graphId head read
    have found := read
    simp only [SemanticTables.getGraphHead, bind_eq_ok, require_eq_ok, raiseIf_eq_ok,
      exists_const, pure_eq_ok] at found
    obtain ⟨_, _, headRow, present, _, rfl⟩ := found
    obtain ⟨stored, rfl⟩ := (Table.find?_eq_some _ _ _).mp present
    obtain ⟨heads, rebuilt, perm⟩ := SemanticTables.rebuildGraphHead_of_headed
      held.graphical.linear held.rebuildable stored
    have again := held.headed rebuilt
    refine ⟨heads, rebuilt, perm, ?_⟩
    exact SemanticTables.getGraphHead_of_headed again.graphical.linear
      (again.rebuildable.registered again.graphical.linear.named) (perm.mem_iff.mpr stored)
  · intro fault agentRunId observedAt after outcome done
    exact (IndexedTables.rebuildProjection_eq_ok held.sourced held.indexed done).1

/-- The first commit in the indexed system. -/
def committedActions : List IndexedAction := AgentSystem.firstCommit.map .agent

/-- After the first commit the head and, once the lease has expired, the run can be rebuilt. -/
theorem rebuilding_restores_of_committed :
    (∃ head, HeadRestored foldDigest ((machine AgentSystem.sampleSemanticKernel).run initial
        committedActions).agents.db.semantic 9 head) ∧
      ∃ after, IndexedTables.Rebuilt ((machine AgentSystem.sampleSemanticKernel).run initial
        committedActions).tables after 1 := by
  obtain ⟨heads, runs⟩ := rebuilding_restores AgentSystem.sampleSemanticKernel committedActions
  have readable : (((machine AgentSystem.sampleSemanticKernel).run initial
      committedActions).agents.db.semantic.getGraphHead foldDigest 9).isOk = true := by
    decide +kernel
  have rebuildable : (((machine AgentSystem.sampleSemanticKernel).run initial
      committedActions).tables.rebuildProjection AgentSystem.sampleSemanticKernel.toAgentKernel
        AgentSystem.noFault 1 100).isOk = true := by
    decide +kernel
  constructor
  · cases read : ((machine AgentSystem.sampleSemanticKernel).run initial
        committedActions).agents.db.semantic.getGraphHead foldDigest 9 with
    | error raised =>
      rw [read] at readable
      cases readable
    | ok head => exact ⟨head, heads 9 head read⟩
  · cases done : ((machine AgentSystem.sampleSemanticKernel).run initial
        committedActions).tables.rebuildProjection AgentSystem.sampleSemanticKernel.toAgentKernel
          AgentSystem.noFault 1 100 with
    | error raised =>
      rw [done] at rebuildable
      cases rebuildable
    | ok result => exact ⟨result.1, runs AgentSystem.noFault 1 100 result.1 result.2 done⟩

end IndexedSystem

end Macr
