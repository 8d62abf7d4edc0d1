import Macr.Cell.Effects
import Mathlib.Algebra.GroupWithZero.Nat

/-!
# What a cell is read from

Reading a cell compares two views of its evidence: the one its events give and the one the tables
give. Both are lists in the order of the events, so a cell that is moved along an event stays
readable exactly when the tables say in addition what the event says, behind everything else.
-/

namespace Macr

open Lib

attribute [simp] CellEventBody.sectionDigests CellEventBody.modelDispatched?
  CellEventBody.modelCompleted? CellEventBody.modelFailed? CellEventBody.toolAdmitted?
  CellEventBody.toolDenied? CellEventBody.toolClaimed? CellEventBody.toolCompleted?
  CellEventBody.checkpointed? CellEventBody.rehydrated? CellEventBody.completionIntent?
  CellEventBody.completionPrepared? CellEventBody.completed?

/-- What the events of a run, or its evidence tables, say in their order. -/
@[ext]
structure EvidenceView where
  /-- The digests of the sections. -/
  sections : List Digest
  /-- The model calls dispatched. -/
  dispatched : List ModelDispatched
  /-- The model calls completed. -/
  modelCompleted : List ModelCompleted
  /-- The model calls failed. -/
  modelFailed : List ModelFailed
  /-- The tools admitted. -/
  admitted : List ToolAdmitted
  /-- The tools denied. -/
  denied : List (Uuid × Digest × Digest)
  /-- The executions claimed. -/
  claimed : List ToolClaimed
  /-- The tools ended. -/
  ended : List ToolCompleted
  /-- The checkpoints. -/
  checkpointed : List CellCheckpointed
  /-- The rehydrations. -/
  rehydrated : List CellRehydrated
  /-- The intents. -/
  intended : List CompletionIntent
  /-- The completions prepared. -/
  prepared : List CompletionPrepared
  /-- The completions finalized. -/
  finalized : List CellCompleted

namespace EvidenceView

/-- One view behind another. -/
def append (first second : EvidenceView) : EvidenceView where
  sections := first.sections ++ second.sections
  dispatched := first.dispatched ++ second.dispatched
  modelCompleted := first.modelCompleted ++ second.modelCompleted
  modelFailed := first.modelFailed ++ second.modelFailed
  admitted := first.admitted ++ second.admitted
  denied := first.denied ++ second.denied
  claimed := first.claimed ++ second.claimed
  ended := first.ended ++ second.ended
  checkpointed := first.checkpointed ++ second.checkpointed
  rehydrated := first.rehydrated ++ second.rehydrated
  intended := first.intended ++ second.intended
  prepared := first.prepared ++ second.prepared
  finalized := first.finalized ++ second.finalized

/-- The view that events give. -/
def ofBodies (bodies : List CellEventBody) : EvidenceView where
  sections := bodies.flatMap (·.sectionDigests)
  dispatched := bodies.filterMap (·.modelDispatched?)
  modelCompleted := bodies.filterMap (·.modelCompleted?)
  modelFailed := bodies.filterMap (·.modelFailed?)
  admitted := bodies.filterMap (·.toolAdmitted?)
  denied := (bodies.filterMap (·.toolDenied?)).map (·.subject)
  claimed := bodies.filterMap (·.toolClaimed?)
  ended := bodies.filterMap (·.toolCompleted?)
  checkpointed := bodies.filterMap (·.checkpointed?)
  rehydrated := bodies.filterMap (·.rehydrated?)
  intended := bodies.filterMap (·.completionIntent?)
  prepared := bodies.filterMap (·.completionPrepared?)
  finalized := bodies.filterMap (·.completed?)

/-- More events give their view behind that of the first. -/
theorem ofBodies_append (first second : List CellEventBody) :
    ofBodies (first ++ second) = (ofBodies first).append (ofBodies second) := by
  simp [ofBodies, append]

/-- No event adds nothing. -/
theorem append_nil (view : EvidenceView) : view.append (ofBodies []) = view := by
  simp [ofBodies, append]

end EvidenceView

/-- The view that the tables give of a run. -/
def CellEvidence.view (sha : Sha256) (db : CellEvidence) (run : Uuid) : EvidenceView where
  sections := (db.sectionsOf run).map (·.sectionDigest)
  dispatched := (db.dispatchesOf run).map (·.dispatched sha)
  modelCompleted := (db.terminalsOf run).filterMap (·.completed? sha)
  modelFailed := (db.terminalsOf run).filterMap (·.failed?)
  admitted := (db.toolRequestsOf run).filterMap (·.admitted? sha)
  denied := (db.toolRequestsOf run).filterMap (·.denied?)
  claimed := (db.claimsOf run).map (·.claimed)
  ended := db.toolResultsOf sha run
  checkpointed := (db.checkpointsOf run).map (·.checkpointed)
  rehydrated := (db.rehydrationsOf run).map (·.rehydrated)
  intended := (db.intentsOf run).map (·.intended)
  prepared := (db.completionsOf run).map (·.prepared)
  finalized := (db.completionsOf run).filterMap (·.finalized?)

/-- The events attach the cell once, under its policy and its request, with the first sections. -/
def AttachedBy (state : HostedAgentCellState) (bodies : List CellEventBody) : Prop :=
  ∃ attached, bodies.filterMap (·.attached?) = [attached] ∧
    attached = ⟨state.policyDigest, state.semanticRequestDigest,
      (bodies.flatMap (·.sectionDigests)).take attached.sectionDigests.length⟩

/-- Two lists of one length that agree item by item are equal. -/
theorem subjects_eq_iff {denied : List (Uuid × Digest × Digest)} {payloads : List ToolDenied} :
    (denied.length = payloads.length ∧
      ¬(denied.zip payloads).any (fun pair => pair.2.subject ≠ pair.1) = true) ↔
      denied = payloads.map (·.subject) := by
  induction denied generalizing payloads with
  | nil => cases payloads <;> simp
  | cons first rest ih =>
    cases payloads with
    | nil => simp
    | cons payload others =>
      have later := @ih others
      simp only [List.length_cons, List.zip_cons_cons, List.any_cons, Bool.or_eq_true,
        decide_eq_true_eq, not_or, not_not, List.map_cons, List.cons.injEq, Nat.add_right_cancel_iff]
      constructor
      · rintro ⟨length, same, more⟩
        exact ⟨same.symm, later.mp ⟨length, more⟩⟩
      · rintro ⟨same, more⟩
        obtain ⟨length, agree⟩ := later.mpr more
        exact ⟨length, same.symm, agree⟩

/-- The evidence is verified exactly when both views agree. -/
theorem CellEvidence.verify_eq_ok {sha : Sha256} {db : CellEvidence} {state : HostedAgentCellState}
    {bodies : List CellEventBody} {value : Unit} :
    db.verify sha state bodies = .ok value ↔
      db.view sha state.agentRunId = .ofBodies bodies ∧ AttachedBy state bodies := by
  simp only [CellEvidence.verify, bind_eq_ok, raiseIf_eq_ok, require_eq_ok, exists_const, ne_eq,
    not_not, not_or, view, EvidenceView.ofBodies, EvidenceView.mk.injEq, AttachedBy]
  constructor
  · rintro ⟨sections, attached, once, agrees, dispatched, ⟨completed, failed⟩, ⟨admitted, length⟩,
      denied, claimed, ended, checkpointed, rehydrated, intended, prepared, finalized⟩
    refine ⟨⟨sections, dispatched, completed, failed, admitted, ?_, claimed, ended, checkpointed,
      rehydrated, intended, prepared, finalized⟩, attached, ?_, agrees⟩
    · exact subjects_eq_iff.mp ⟨length, by simpa using denied⟩
    · split at once
      · rename_i only same
        rw [same, Option.some.inj once]
      · exact absurd once (by simp)
  · rintro ⟨⟨sections, dispatched, completed, failed, admitted, denied, claimed, ended,
      checkpointed, rehydrated, intended, prepared, finalized⟩, attached, once, agrees⟩
    obtain ⟨length, agree⟩ := subjects_eq_iff.mpr denied
    refine ⟨sections, attached, by rw [once], agrees, dispatched, ⟨completed, failed⟩,
      ⟨admitted, length⟩, by simpa using agree, claimed, ended, checkpointed, rehydrated, intended,
      prepared, finalized⟩

/-! ## Events -/

/-- What a replay has come to behind some events. -/
structure ReplayedTo (run : Uuid) (events : List CellEvent) (point : ReplayPoint) : Prop where
  /-- The projection is the run's. -/
  run : point.current.agentRunId = run
  /-- It has the revision of the last event. -/
  revision : point.current.cellRevision = point.index
  /-- The digest is that of the last event. -/
  last : point.priorDigest = (events.getLast?.map (·.eventDigest)).getD zeroDigest
  /-- No event has a later revision. -/
  before : ∀ event ∈ events, event.cellRevision ≤ point.index

/-- A turn that succeeds has compared the event with its place. -/
theorem replayTurn_eq_ok {sha : Sha256} {run : Uuid} {before : Option ReplayPoint}
    {event : CellEvent} {point : ReplayPoint} : replayTurn sha run before event = .ok point ↔
      event.Continues sha run ((before.map (·.index)).getD 0 + 1)
        ((before.map (·.priorDigest)).getD zeroDigest) ∧
      transitionExpected (before.map (·.current)) event.stateAfter event.body = .ok () ∧
      point = ⟨(before.map (·.index)).getD 0 + 1, event.eventDigest, event.stateAfter⟩ := by
  simp only [replayTurn, bind_eq_ok, raiseIf_eq_ok, exists_const, pure_eq_ok, not_not]
  constructor
  · rintro ⟨continues, _, expected, rfl⟩
    exact ⟨continues, expected, rfl⟩
  · rintro ⟨continues, expected, rfl⟩
    exact ⟨continues, (), expected, rfl⟩

/-- A replay has come to a point behind its events, or has not begun. -/
def ReplayedBehind (run : Uuid) (events : List CellEvent) (reached : Option ReplayPoint) : Prop :=
  (reached = none → events = []) ∧ ∀ point, reached = some point → ReplayedTo run events point

/-- A replay comes to a point behind its events. -/
theorem replayedBehind_of_replay {sha : Sha256} {run : Uuid} {events : List CellEvent}
    {reached : Option ReplayPoint}
    (replayed : (cellEventLog sha run).replayFrom none events = .ok reached) :
    ReplayedBehind run events reached := by
  refine (cellEventLog sha run).replayFrom_induction ?_ ?_ replayed
  · exact ⟨fun _ => rfl, fun _ none => absurd none (by simp)⟩
  · intro events mid event next inv applied
    refine ⟨fun none => absurd none (by simp), ?_⟩
    intro point same
    rw [← Option.some.inj same]
    obtain ⟨continues, _, rfl⟩ := replayTurn_eq_ok.mp applied
    obtain ⟨place, _, _, _, _, of_run, revision, _⟩ := continues
    refine ⟨of_run, revision, by simp, ?_⟩
    intro other member
    rcases List.mem_append.mp member with held | fresh
    · cases mid with
      | none =>
        rw [inv.1 rfl] at held
        exact absurd held (by simp)
      | some before =>
        have earlier := (inv.2 before rfl).before other held
        show other.cellRevision ≤ before.index + 1
        omega
    · rw [List.mem_singleton.mp fresh, place]

/-- A replay of events succeeds exactly when they lead to a point with the projection. -/
theorem replayCellEvents_eq_ok {sha : Sha256} {run : Uuid} {events : List CellEvent}
    {state : HostedAgentCellState} : replayCellEvents sha run events = .ok state ↔
      ∃ point, (cellEventLog sha run).replayFrom none events = .ok (some point) ∧
        point.current = state := by
  simp only [replayCellEvents, bind_eq_ok, require_eq_ok, pure_eq_ok]
  constructor
  · rintro ⟨_, replayed, point, rfl, same⟩
    exact ⟨point, replayed, same⟩
  · rintro ⟨point, replayed, same⟩
    exact ⟨some point, replayed, point, rfl, same⟩

/-- A replay goes on along an event that follows. -/
theorem replay_following {sha : Sha256} {run : Uuid} {events : List CellEvent}
    {state next : HostedAgentCellState} {body : CellEventBody} {eventId : Uuid}
    (replayed : replayCellEvents sha run events = .ok state)
    (later : ∀ payload, body ≠ .attached payload)
    (fields : next.toCellFields = body.fieldsAfter state.toCellFields next.updatedAt)
    (of_run : next.agentRunId = run) :
    replayCellEvents sha run (events ++ [CellEvent.following sha eventId next body
      ((events.getLast?.map (·.eventDigest)).getD zeroDigest)]) = .ok next := by
  obtain ⟨point, reached, rfl⟩ := replayCellEvents_eq_ok.mp replayed
  have behind := (replayedBehind_of_replay reached).2 point rfl
  have revision : next.cellRevision = point.index + 1 := by
    rw [fields, ← behind.revision]
    rfl
  rw [← behind.last]
  let event := CellEvent.following sha eventId next body point.priorDigest
  have continues : event.Continues sha run (point.index + 1) point.priorDigest := by
    rw [← of_run, ← revision]
    exact CellEvent.following_continues sha eventId next body point.priorDigest
  have turned : replayTurn sha run (some point) event =
      .ok ⟨point.index + 1, event.eventDigest, next⟩ :=
    replayTurn_eq_ok.mpr ⟨continues, transitionExpected_some.mpr ⟨later, fields⟩, rfl⟩
  exact replayCellEvents_eq_ok.mpr
    ⟨_, (cellEventLog sha run).replayFrom_concat reached turned, rfl⟩

/-- A replay begins with an attachment. -/
theorem replay_genesis {sha : Sha256} {next : HostedAgentCellState} {payload : CellAttached}
    {eventId : Uuid} (revision : next.cellRevision = 1) (status : next.status = .ready)
    (step : next.nextStep = 1) (calls : next.providerCalls = 0) (tools : next.toolCalls = 0) :
    replayCellEvents sha next.agentRunId
      [CellEvent.following sha eventId next (.attached payload) zeroDigest] = .ok next := by
  let event := CellEvent.following sha eventId next (.attached payload) zeroDigest
  have continues : event.Continues sha next.agentRunId 1 zeroDigest := by
    rw [← revision]
    exact CellEvent.following_continues sha eventId next (.attached payload) zeroDigest
  have turned : replayTurn sha next.agentRunId none event = .ok ⟨1, event.eventDigest, next⟩ :=
    replayTurn_eq_ok.mpr ⟨continues,
      transitionExpected_none.mpr ⟨⟨payload, rfl⟩, revision, status, step, calls, tools⟩, rfl⟩
  have whole : (cellEventLog sha next.agentRunId).replayFrom none ([] ++ [event]) = .ok (some _) :=
    (cellEventLog sha next.agentRunId).replayFrom_concat rfl turned
  exact replayCellEvents_eq_ok.mpr ⟨_, whole, rfl⟩

/-- No event of a replay has a later revision than its projection. -/
theorem revision_le_of_replay {sha : Sha256} {run : Uuid} {events : List CellEvent}
    {state : HostedAgentCellState} (replayed : replayCellEvents sha run events = .ok state) :
    state.agentRunId = run ∧ ∀ event ∈ events, event.cellRevision ≤ state.cellRevision := by
  obtain ⟨point, reached, rfl⟩ := replayCellEvents_eq_ok.mp replayed
  have behind := (replayedBehind_of_replay reached).2 point rfl
  rw [behind.revision]
  exact ⟨behind.run, behind.before⟩

/-! ## Cells that can be read -/

/-- A cell can be read: what `_cell_row` checks. -/
structure Readable (sha : Sha256) (db : CellTables) (row : HostedCellRow) : Prop where
  /-- The row is stored. -/
  stored : row ∈ db.cells.rows
  /-- Its digest is its projection's. -/
  digest : row.state.stateDigest sha = row.stateDigest
  /-- The events lead to its projection. -/
  replayed : replayCellEvents sha row.state.agentRunId (db.eventsOf row.state.agentRunId) =
    .ok row.state
  /-- The tables say what the events say. -/
  agree : db.view sha row.state.agentRunId =
    .ofBodies ((db.eventsOf row.state.agentRunId).map (·.body))
  /-- The events attach the cell. -/
  attached : AttachedBy row.state ((db.eventsOf row.state.agentRunId).map (·.body))

/-- `_cell_row` accepts exactly the cells that can be read. -/
theorem cellRow_eq_ok {sha : Sha256} {db : CellTables} {row : HostedCellRow} :
    db.cellRow sha row.state.agentRunId = .ok row ↔ Readable sha db row := by
  simp only [CellTables.cellRow, bind_eq_ok, require_eq_ok, CellTables.stateFromRow_eq_ok,
    raiseIf_eq_ok, exists_const, pure_eq_ok, ne_eq, not_not, CellEvidence.verify_eq_ok]
  constructor
  · rintro ⟨_, found, _, ⟨digest, rfl⟩, _, replayed, rfl, agree, rfl⟩
    obtain ⟨stored, _⟩ := (db.cells.find?_eq_some _ _).mp found
    exact ⟨stored, digest, replayed, agree.1, agree.2⟩
  · intro readable
    exact ⟨row, db.cells.find?_self readable.stored, row.state, ⟨readable.digest, rfl⟩, row.state,
      readable.replayed, rfl, ⟨readable.agree, readable.attached⟩, rfl⟩

/-! ## Counters -/

/-- The counters of a cell are those of its evidence: every call and every tool, and no less time
and cost than was recorded. -/
structure Counted (view : EvidenceView) (fields : CellFields) : Prop where
  /-- Each dispatch is one step. -/
  steps : fields.nextStep = view.dispatched.length + 1
  /-- Each dispatch is one call. -/
  calls : fields.providerCalls = view.dispatched.length
  /-- Each admission is one tool. -/
  tools : fields.toolCalls = view.admitted.length
  /-- The time of calls and tools. -/
  wall : (view.modelCompleted.map (·.durationMs)).sum + (view.modelFailed.map (·.durationMs)).sum +
    (view.ended.map (·.durationMs)).sum ≤ fields.activeWallMs
  /-- The cost of calls. -/
  cost : (view.modelCompleted.map (·.currencyCostUsd)).sum +
    (view.modelFailed.map (·.currencyCostUsd.getD 0)).sum ≤ fields.currencyCostUsd

/-- An event counts what it says. -/
theorem Counted.step {view : EvidenceView} {fields : CellFields} (counted : Counted view fields)
    (body : CellEventBody) (updatedAt : Timestamp) :
    Counted (view.append (.ofBodies [body])) (body.fieldsAfter fields updatedAt) := by
  obtain ⟨steps, calls, tools, wall, cost⟩ := counted
  cases body <;> constructor <;>
    simp only [EvidenceView.append, EvidenceView.ofBodies, CellEventBody.fieldsAfter,
      CellEventBody.changes, List.filterMap_cons, List.filterMap_nil, List.map_append,
      List.length_append, List.sum_append] <;> simp <;> grind

/-- A replay has counted its events. -/
def CountedBehind (events : List CellEvent) : Option ReplayPoint → Prop
  | none => events = []
  | some point => Counted (.ofBodies (events.map (·.body))) point.current.toCellFields

/-- What replays is counted. -/
theorem countedBehind_of_replay {sha : Sha256} {run : Uuid} {events : List CellEvent}
    {reached : Option ReplayPoint}
    (replayed : (cellEventLog sha run).replayFrom none events = .ok reached) :
    CountedBehind events reached := by
  refine (cellEventLog sha run).replayFrom_induction rfl ?_ replayed
  intro events mid event next inv applied
  obtain ⟨_, expected, rfl⟩ := replayTurn_eq_ok.mp applied
  cases mid with
  | none =>
    obtain ⟨⟨payload, same⟩, _, _, step, calls, tools⟩ := transitionExpected_none.mp expected
    cases inv
    have cost := event.stateAfter.valid.2.2.1
    constructor <;> simp [EvidenceView.ofBodies, *]
  | some point =>
    obtain ⟨_, fields⟩ := transitionExpected_some.mp expected
    show Counted _ event.stateAfter.toCellFields
    rw [fields, List.map_append, EvidenceView.ofBodies_append]
    exact Counted.step inv event.body event.stateAfter.updatedAt

end Macr
