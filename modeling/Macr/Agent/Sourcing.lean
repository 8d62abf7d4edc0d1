import Macr.Agent.Effects

/-!
# Agent event sourcing

The rows of `agent_runs` and the chains of `agent_events` are written by separate statements. Here
each row is what its chain replays to: the projection columns by `replay_agent_events`, the binding
columns by `replay_semantic_binding`. What a replay says of a chain follows from one application;
that rows and chains stay in step follows from the effects of an operation.
-/

namespace Macr

open Lib

/-! ## What a chain says -/

/-- An event that starts a chain creates the run it names. -/
theorem begins_of_apply {sha : Sha256} {event : AgentStateEvent} {next : AgentRunProjection}
    (applied : applyAgentEvent sha none event = .ok next) :
    event.body = .runCreated next.initialHeader ∧ event.agentRunId = next.agentRunId ∧
      event.afterRevision = 1 ∧ next.stateRevision = 1 ∧ next.epoch = 0 ∧
      next.state = .created := by
  simp only [applyAgentEvent, bind_eq_ok, raiseIf_eq_ok, exists_const, pure_eq_ok, ne_eq,
    not_not] at applied
  obtain ⟨projection, begun, run, _, rfl⟩ := applied
  unfold continueAgentRun at begun
  split at begun
  · split at begun
    · rename_i header body
      simp only [bind_eq_ok, raiseIf_eq_ok, exists_const, not_or, not_not] at begun
      obtain ⟨⟨_, after, _⟩, made⟩ := begun
      obtain ⟨same, state, revision, epoch, _⟩ := AgentRunProjection.fromCreationHeader_eq_ok made
      exact ⟨by rw [body, same], run.symm, after, revision, epoch, state⟩
    · exact absurd begun (by simp)
  · rename_i impossible
    exact absurd impossible (by simp)

/-- The numbers of a chain: its revisions run from one, and the state it leads to has their count
as its revision and the count of acquisitions as its epoch. -/
structure ChainNumbers (events : List AgentStateEvent) (state : Option AgentRunProjection) :
    Prop where
  /-- Revisions run from one. -/
  revisions : events.map (·.afterRevision) = List.range' 1 events.length
  /-- Before the first event there is no state. -/
  empty : state = none → events = []
  /-- The revision counts the events. -/
  stateRevision : ∀ projection, state = some projection →
    projection.stateRevision = events.length
  /-- The epoch counts the acquisitions. -/
  epoch : ∀ projection, state = some projection →
    projection.epoch = events.countP (·.body.acquiredToken.isSome)
  /-- The events are the run's. -/
  runs : ∀ projection, state = some projection →
    ∀ event ∈ events, event.agentRunId = projection.agentRunId

/-- An applied event continues the numbers. -/
theorem ChainNumbers.turn {sha : Sha256} {events : List AgentStateEvent}
    {mid : Option AgentRunProjection} {event : AgentStateEvent} {next : AgentRunProjection}
    (numbers : ChainNumbers events mid) (applied : applyAgentEvent sha mid event = .ok next) :
    ChainNumbers (events ++ [event]) (some next) := by
  cases mid with
  | none =>
    obtain rfl := numbers.empty rfl
    obtain ⟨body, run, after, revision, epoch, _⟩ := begins_of_apply applied
    have token : event.body.acquiredToken = none := by rw [body]; rfl
    refine ⟨by simp [after], by simp, ?_, ?_, ?_⟩
    all_goals rintro other ⟨rfl⟩
    · simp [revision]
    · simp [epoch, token]
    · simp [run]
  | some current =>
    have continues := continues_of_apply applied
    have length := numbers.stateRevision current rfl
    have after : event.afterRevision = events.length + 1 := by rw [continues.revision, length]
    have same_run : next.agentRunId = current.agentRunId :=
      congrArg (·.agentRunId) continues.header
    refine ⟨?_, by simp, ?_, ?_, ?_⟩
    · rw [List.map_append, numbers.revisions, List.length_append, List.map_singleton, after]
      simp [List.range'_concat, Nat.add_comm]
    all_goals rintro other ⟨rfl⟩
    · simp [continues.stateRevision, length]
    · rw [continues.counted, numbers.epoch current rfl, List.countP_append, List.countP_singleton]
    · intro earlier member
      rw [same_run]
      rcases List.mem_append.mp member with held | new
      · exact numbers.runs current rfl earlier held
      · rw [List.mem_singleton.mp new]
        exact continues.run

/-- A chain that replays has its numbers. -/
theorem chainNumbers_of_replay {sha : Sha256} {events : List AgentStateEvent}
    {finish : Option AgentRunProjection}
    (replayed : (agentEventLog sha).replayFrom none events = .ok finish) :
    ChainNumbers events finish := by
  have empty : ChainNumbers [] none := ⟨rfl, fun _ => rfl, by simp, by simp, by simp⟩
  exact (agentEventLog sha).replayFrom_induction empty
    (fun _ _ _ _ numbers applied => numbers.turn applied) replayed

/-- A replay of bindings with one more event. -/
theorem replaySemanticBinding_concat {initialBinding mid : Option SemanticStateBinding}
    {events : List AgentStateEvent} {event : AgentStateEvent}
    (before : replaySemanticBinding initialBinding events = .ok mid)
    (previous : ∀ advance, event.body = .semanticStateAdvanced advance →
      advance.previousBinding = mid) :
    replaySemanticBinding initialBinding (events ++ [event]) =
      .ok (event.body.bindingAfter mid) := by
  unfold replaySemanticBinding at before ⊢
  rw [List.foldlM_append, before]
  refine bind_eq_ok.mpr ⟨mid, rfl, bind_eq_ok.mpr ⟨event.body.bindingAfter mid, ?_, rfl⟩⟩
  cases body : event.body with
  | semanticStateAdvanced advance =>
    have unmoved : ¬advance.previousBinding ≠ mid := fun moved => moved (previous advance body)
    simp only [body]
    exact bind_eq_ok.mpr ⟨(), raiseIf_eq_ok.mpr unmoved, rfl⟩
  | _ =>
    simp only [body]
    rfl

/-! ## Rows and chains -/

/-- Every row of `agent_runs` is what its chain replays to, and every event is a row's. -/
structure AgentTables.Sourced (sha : Sha256) (db : AgentTables) : Prop where
  /-- The projection columns. -/
  replayed : ∀ row ∈ db.runs.rows, ∃ projection,
    replayAgentEvents sha (db.history row.agentRunId) = .ok projection ∧ row.Holds sha projection
  /-- The binding columns. -/
  bound : ∀ row ∈ db.runs.rows,
    replaySemanticBinding row.initialHeader.semanticState (db.history row.agentRunId) =
      .ok row.semanticState
  /-- Events belong to runs. -/
  known : ∀ event ∈ db.events.rows, ∃ row ∈ db.runs.rows, row.agentRunId = event.agentRunId

namespace AgentTables

variable {sha : Sha256} {before after : AgentTables}

/-- A new database is sourced. -/
theorem sourced_initial : initial.Sourced sha := by
  constructor <;> intro held member <;> exact absurd member (by simp [initial])

/-- The tables of runs and events decide whether they agree. -/
theorem Sourced.of_same (held : before.Sourced sha) (runs : after.runs = before.runs)
    (events : after.events = before.events) : after.Sourced sha := by
  have same : ∀ run, after.history run = before.history run := by
    intro run
    simp only [history, events]
  refine ⟨?_, ?_, ?_⟩
  · simpa only [runs, same] using held.replayed
  · simpa only [runs, same] using held.bound
  · simpa only [runs, events] using held.known

/-- An appended event extends the chain of its run. -/
theorem history_of_append {event : AgentStateEvent}
    (events : after.events.rows = before.events.rows ++ [event]) (run : Uuid) :
    after.history run =
      if event.agentRunId = run then before.history run ++ [event] else before.history run := by
  by_cases same : event.agentRunId = run <;> simp [history, events, List.filter_append, same]

/-- A chain whose events have new identifiers replays one event further. -/
theorem replay_concat {run : Uuid} {event : AgentStateEvent}
    {current next : AgentRunProjection}
    (replayed : replayAgentEvents sha (before.history run) = .ok current)
    (fresh : ∀ other ∈ before.events.rows, other.eventId ≠ event.eventId)
    (applied : applyAgentEvent sha (some current) event = .ok next) :
    replayAgentEvents sha (before.history run ++ [event]) = .ok next := by
  obtain ⟨distinct, chain⟩ := replayAgentEvents_eq_ok.mp replayed
  refine replayAgentEvents_eq_ok.mpr ⟨?_, ?_⟩
  · rw [List.map_append, List.map_singleton]
    refine distinct.append (List.nodup_singleton _) (List.disjoint_singleton.mpr ?_)
    intro repeated
    obtain ⟨other, member, same⟩ := List.mem_map.mp repeated
    exact fresh other (List.mem_of_mem_filter member) same
  · exact (agentEventLog sha).replayFrom_concat chain applied

/-- A created run is sourced by its first event. -/
theorem Sourced.created {row : AgentRunRow} {event : AgentStateEvent} (held : before.Sourced sha)
    (creation : Created sha before after row event) : after.Sourced sha := by
  obtain ⟨projection, applied, holds⟩ := creation.applied
  have empty : before.history row.agentRunId = [] := by
    rw [history, List.filter_eq_nil_iff]
    intro other member same
    obtain ⟨stored, present, named⟩ := held.known other member
    have run : other.agentRunId = row.agentRunId := by simpa using same
    exact creation.new stored present (named.trans run)
  have grown : after.history row.agentRunId = [event] := by
    rw [history_of_append creation.events, if_pos creation.run, empty, List.nil_append]
  have kept : ∀ other ∈ before.runs.rows,
      after.history other.agentRunId = before.history other.agentRunId := by
    intro other member
    rw [history_of_append creation.events, if_neg]
    intro same
    exact creation.new other member (same.symm.trans creation.run)
  refine ⟨?_, ?_, ?_⟩
  · intro stored member
    rw [creation.runs] at member
    rcases List.mem_append.mp member with earlier | new
    · rw [kept stored earlier]
      exact held.replayed stored earlier
    · rw [List.mem_singleton.mp new, grown]
      refine ⟨projection, replayAgentEvents_eq_ok.mpr ⟨by simp, ?_⟩, holds⟩
      have started : (agentEventLog sha).replayFrom none [] = .ok none := rfl
      exact (agentEventLog sha).replayFrom_concat started applied
  · intro stored member
    rw [creation.runs] at member
    rcases List.mem_append.mp member with earlier | new
    · rw [kept stored earlier]
      exact held.bound stored earlier
    · obtain ⟨header, body⟩ := creation.created
      rw [List.mem_singleton.mp new, grown, creation.binding]
      simp [replaySemanticBinding, body, pure, Except.pure, bind, Except.bind]
  · intro other member
    rw [creation.events] at member
    rcases List.mem_append.mp member with earlier | new
    · obtain ⟨stored, present, named⟩ := held.known other earlier
      exact ⟨stored, by rw [creation.runs]; exact List.mem_append_left _ present, named⟩
    · refine ⟨row, by rw [creation.runs]; simp, ?_⟩
      rw [List.mem_singleton.mp new, creation.run]

/-- A run that has moved along an event is sourced by its longer chain. -/
theorem Sourced.advanced {row next : AgentRunRow} {event : AgentStateEvent}
    (held : before.Sourced sha) (advance : Advanced sha before after row next event) :
    after.Sourced sha := by
  obtain ⟨current, projection, holds, applied, written⟩ := advance.applied
  have continues := continues_of_apply applied
  have event_run : event.agentRunId = row.agentRunId :=
    continues.run.trans holds.agentRunId.symm
  have header : next.initialHeader = row.initialHeader := by
    rw [written.initialHeader, continues.header, holds.initialHeader]
  have next_run := advance.agentRunId
  have grown : after.history row.agentRunId = before.history row.agentRunId ++ [event] := by
    rw [history_of_append advance.events, if_pos event_run]
  have kept : ∀ run, run ≠ row.agentRunId → after.history run = before.history run := by
    intro run other
    rw [history_of_append advance.events, if_neg]
    exact fun same => other (same.symm.trans event_run)
  refine ⟨?_, ?_, ?_⟩
  · intro stored member
    rw [advance.runs] at member
    obtain ⟨old, present, rfl⟩ := List.mem_map.mp member
    by_cases same : old.agentRunId = row.agentRunId
    · obtain ⟨replay, replayed, replay_holds⟩ := held.replayed row advance.stored
      obtain rfl := replay_holds.unique holds
      rw [if_pos same, next_run, grown]
      exact ⟨projection, replay_concat replayed advance.fresh applied, written⟩
    · rw [if_neg same, kept _ same]
      exact held.replayed old present
  · intro stored member
    rw [advance.runs] at member
    obtain ⟨old, present, rfl⟩ := List.mem_map.mp member
    by_cases same : old.agentRunId = row.agentRunId
    · rw [if_pos same, next_run, grown, header, advance.binding]
      exact replaySemanticBinding_concat (held.bound row advance.stored) advance.previous
    · rw [if_neg same, kept _ same]
      exact held.bound old present
  · intro other member
    rw [advance.events] at member
    rcases List.mem_append.mp member with earlier | new
    · obtain ⟨stored, held_row, named⟩ := held.known other earlier
      by_cases same : stored.agentRunId = row.agentRunId
      · exact ⟨next, advance.next_mem, next_run.trans (same.symm.trans named)⟩
      · exact ⟨stored, advance.other_mem held_row same, named⟩
    · rw [List.mem_singleton.mp new]
      exact ⟨next, advance.next_mem, next_run.trans event_run.symm⟩

/-- Every effect keeps rows and chains in step. -/
theorem Sourced.step (held : before.Sourced sha) (effect : AgentEffect sha before after) :
    after.Sourced sha := by
  cases effect with
  | idle same => rw [same]; exact held
  | created creation _ _ => exact held.created creation
  | advanced advance _ _ _ => exact held.advanced advance
  | acquired advance _ _ _ _ _ _ => exact held.advanced advance
  | renewed _ _ _ runs events _ => exact held.of_same runs events
  | released _ _ runs events _ => exact held.of_same runs events

/-! ## States -/

/-- Each event after the first leads from the state before it to the state after it along a
transition when it is a lifecycle event, and keeps the state otherwise. -/
theorem transition_of_replay {events : List AgentStateEvent} {projection : AgentRunProjection}
    (replayed : replayAgentEvents sha events = .ok projection) {i : Nat} {event : AgentStateEvent}
    (place : events[i]? = some event) (later : 0 < i) :
    ∃ previous next, replayAgentEvents sha (events.take i) = .ok previous ∧
      replayAgentEvents sha (events.take (i + 1)) = .ok next ∧
      ((event.body.targetState = some next.state ∧ next.state ∈ previous.state.successors) ∨
        (event.body.targetState = none ∧ next.state = previous.state)) := by
  obtain ⟨distinct, chain⟩ := replayAgentEvents_eq_ok.mp replayed
  have prefix_distinct : ∀ n, ((events.take n).map (·.eventId)).Nodup := by
    intro n
    exact distinct.sublist ((List.take_sublist n events).map _)
  obtain ⟨mid, next, earlier, applied, reached⟩ :=
    (agentEventLog sha).apply_of_replayFrom chain place
  have applied' : applyAgentEvent sha mid event = .ok next := applied
  cases mid with
  | none =>
    have empty := (chainNumbers_of_replay earlier).empty rfl
    have bound := (List.getElem?_eq_some_iff.mp place).1
    have length : (events.take i).length = 0 := by rw [empty]; rfl
    rw [List.length_take] at length
    omega
  | some previous =>
    refine ⟨previous, next, replayAgentEvents_eq_ok.mpr ⟨prefix_distinct i, earlier⟩,
      replayAgentEvents_eq_ok.mpr ⟨prefix_distinct (i + 1), reached⟩, ?_⟩
    have continues := continues_of_apply applied'
    cases lifecycle : event.body.targetState with
    | none => exact .inr ⟨rfl, continues.kept lifecycle⟩
    | some target =>
      obtain ⟨same, allowed⟩ := continues.moved target lifecycle
      exact .inl ⟨congrArg some same.symm, by rw [same]; exact allowed⟩

/-- A move of a run in a terminal state keeps its state. -/
theorem state_of_terminal {row next : AgentRunRow} {event : AgentStateEvent}
    (advance : Advanced sha before after row next event) (terminal : row.state.isTerminal = true) :
    next.state = row.state := by
  obtain ⟨current, projection, holds, written, continues⟩ := advance.continues
  cases lifecycle : event.body.targetState with
  | none => rw [written.state, holds.state, continues.kept lifecycle]
  | some target =>
    have allowed := (continues.moved target lifecycle).2
    rw [← holds.state, AgentRunState.successors_of_isTerminal terminal] at allowed
    exact absurd allowed (by simp)

/-- A run is in a state. -/
def InState (db : AgentTables) (agentRunId : Uuid) (state : AgentRunState) : Prop :=
  ∃ row ∈ db.runs.rows, row.agentRunId = agentRunId ∧ row.state = state

/-- A move of one run keeps every run that is in a terminal state. -/
theorem inState_of_advanced {row next : AgentRunRow} {event : AgentStateEvent}
    (advance : Advanced sha before after row next event) {run : Uuid} {state : AgentRunState}
    (terminal : state.isTerminal = true) (held : before.InState run state) :
    after.InState run state := by
  obtain ⟨stored, member, rfl, rfl⟩ := held
  by_cases same : stored.agentRunId = row.agentRunId
  · have equal := before.runs.eq_of_key member advance.stored same
    subst equal
    exact ⟨next, advance.next_mem, advance.agentRunId, state_of_terminal advance terminal⟩
  · exact ⟨stored, advance.other_mem member same, rfl, rfl⟩

/-- A run in a terminal state stays in it. -/
theorem inState_of_effect {run : Uuid} {state : AgentRunState}
    (terminal : state.isTerminal = true) (held : before.InState run state)
    (effect : AgentEffect sha before after) : after.InState run state := by
  cases effect with
  | idle same => rw [same]; exact held
  | created creation _ _ =>
    obtain ⟨row, member, facts⟩ := held
    exact ⟨row, by rw [creation.runs]; exact List.mem_append_left _ member, facts⟩
  | advanced advance _ _ _ => exact inState_of_advanced advance terminal held
  | acquired advance _ _ _ _ _ _ => exact inState_of_advanced advance terminal held
  | renewed _ _ _ runs _ _ => rw [InState, runs]; exact held
  | released _ _ runs _ _ => rw [InState, runs]; exact held

end AgentTables

end Macr
