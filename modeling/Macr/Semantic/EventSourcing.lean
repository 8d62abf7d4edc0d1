import Macr.Semantic.Effects

/-!
# Event sourcing over whole runs

In every run of the agent system each AgentRun is what its events replay to, and a run that has
reached a terminal state stays in it.
-/

namespace Macr

open Lib

/-- The agent tables agree with their events. -/
structure AgentTables.EventSourced (sha : Sha256) (db : AgentTables) : Prop where
  /-- Every event is that of a stored run. -/
  known : ∀ event ∈ db.events.rows, ∃ row ∈ db.runs.rows, row.agentRunId = event.agentRunId
  /-- The revisions of a run's events run from one without gaps. -/
  revisions : ∀ row ∈ db.runs.rows, (db.history row.agentRunId).map (·.afterRevision) =
    List.range' 1 (db.history row.agentRunId).length
  /-- The projection columns are those of the replayed projection. -/
  replayed : ∀ row ∈ db.runs.rows, ∃ projection,
    replayAgentEvents sha (db.history row.agentRunId) = .ok projection ∧ row.Holds sha projection
  /-- The binding columns are those of the replayed binding. -/
  bound : ∀ row ∈ db.runs.rows,
    replaySemanticBinding row.initialHeader.semanticState (db.history row.agentRunId) =
      .ok row.semanticState
  /-- Between consecutive states lies a lifecycle event along an allowed transition, or an event
  that keeps the state. -/
  transitions : ∀ row ∈ db.runs.rows, ∀ i event, (db.history row.agentRunId)[i]? = some event →
    0 < i → ∃ previous next,
      replayAgentEvents sha ((db.history row.agentRunId).take i) = .ok previous ∧
      replayAgentEvents sha ((db.history row.agentRunId).take (i + 1)) = .ok next ∧
      ((event.body.targetState = some next.state ∧ next.state ∈ previous.state.successors) ∨
        (event.body.targetState = none ∧ next.state = previous.state))
  /-- The epoch is the number of acquisitions. -/
  epochs : ∀ row ∈ db.runs.rows,
    row.epoch = (db.history row.agentRunId).countP (·.body.acquiredToken.isSome)

/-- Rows in step with their chains agree with their events. -/
theorem AgentTables.Sourced.eventSourced {sha : Sha256} {db : AgentTables}
    (sourced : db.Sourced sha) : db.EventSourced sha where
  known := sourced.known
  revisions := by
    intro row stored
    obtain ⟨projection, replayed, _⟩ := sourced.replayed row stored
    exact (chainNumbers_of_replay (replayAgentEvents_eq_ok.mp replayed).2).revisions
  replayed := sourced.replayed
  bound := sourced.bound
  transitions := by
    intro row stored i event place later
    obtain ⟨projection, replayed, _⟩ := sourced.replayed row stored
    exact AgentTables.transition_of_replay replayed place later
  epochs := by
    intro row stored
    obtain ⟨projection, replayed, holds⟩ := sourced.replayed row stored
    have numbers := chainNumbers_of_replay (replayAgentEvents_eq_ok.mp replayed).2
    rw [holds.epoch, numbers.epoch projection rfl]

namespace AgentSystem

variable {kernel : SemanticKernel}

/-- What an effect on the database does to the agent tables. -/
theorem agentEffect_of_effect {before after : AgentDb}
    (effect : AgentDb.Effect kernel before after) :
    AgentEffect kernel.sha before.agent after.agent := by
  cases effect with
  | call agent _ => exact agent
  | saved agent _ => exact .idle agent

/-- A formed system whose rows are in step with their chains. -/
structure Sourced (kernel : SemanticKernel) (system : AgentSystem) : Prop where
  /-- The system is formed. -/
  formed : system.Formed
  /-- The agent tables are sourced. -/
  sourced : system.db.agent.Sourced kernel.sha

/-- Every step keeps rows and chains in step. -/
theorem sourced_step (system : AgentSystem) (action : AgentAction)
    (held : Sourced kernel system) : Sourced kernel ((machine kernel).step system action) := by
  have moved : AgentDb.Effect kernel system.db ((machine kernel).step system action).db :=
    effect_of_step held.formed action
  exact ⟨formed_step held.formed action, held.sourced.step (agentEffect_of_effect moved)⟩

/-- Every reachable system has rows in step with their chains. -/
theorem sourced_run (actions : List AgentAction) :
    Sourced kernel ((machine kernel).run initial actions) := by
  have keep : ∀ system action, Sourced kernel system →
      Sourced kernel ((machine kernel).step system action) :=
    fun system action held => sourced_step system action held
  exact (machine kernel).run_invariant_all keep
    ⟨formed_initial, AgentTables.sourced_initial⟩ actions

/-- In every run of the system, with faults at any markers, the events of each AgentRun have the
revisions from one on, replay to the projection row and to the binding columns, pass along allowed
transitions, and count the epoch by acquisitions; a terminal state is never left. -/
theorem agent_event_sourcing (kernel : SemanticKernel) (actions : List AgentAction) :
    (((machine kernel).run initial actions).db.agent).EventSourced kernel.sha ∧
      ∀ later run state, state.isTerminal = true →
        (((machine kernel).run initial actions).db.agent).InState run state →
          (((machine kernel).run initial (actions ++ later)).db.agent).InState run state := by
  refine ⟨(sourced_run actions).sourced.eventSourced, ?_⟩
  intro later run state terminal held
  rw [Machine.run_append]
  have keep : ∀ system action,
      (system.Formed ∧ system.db.agent.InState run state) →
        ((machine kernel).step system action).Formed ∧
          ((machine kernel).step system action).db.agent.InState run state := by
    intro system action held
    have moved : AgentDb.Effect kernel system.db ((machine kernel).step system action).db :=
      effect_of_step held.1 action
    exact ⟨formed_step held.1 action,
      AgentTables.inState_of_effect terminal held.2 (agentEffect_of_effect moved)⟩
  exact ((machine kernel).run_invariant_all keep ⟨(sourced_run actions).formed, held⟩ later).2

end AgentSystem

end Macr
