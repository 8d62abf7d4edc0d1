import Macr.Lib.Table
import Macr.Runtime.EventPayload

/-!
# The event store

A run is a row of `runs` with a dispatch event and, once it is finished, a terminal event. Each of
the two writers checks its payload, then works in one write transaction whose constraints are
those of the tables.
-/

namespace Macr

open Lib

/-- A row of `runs`. -/
structure RunRow where
  /-- Primary key. -/
  runId : Uuid
  /-- Its dispatch event; unique. -/
  dispatchEventId : Uuid
  /-- Its terminal event; unique. -/
  terminalEventId : Option Uuid
  /-- Where it stands. -/
  state : String
  /-- When it was dispatched. -/
  startedAt : Timestamp
  /-- When it ended. -/
  terminalAt : Option Timestamp
deriving DecidableEq

/-- A row of `events`, in the order of `sequence`. -/
structure EventRow where
  /-- Unique. -/
  eventId : Uuid
  /-- The run, if the event has one. -/
  runId : Option Uuid
  /-- What happened. -/
  eventType : String
  /-- When it was stored. -/
  observedAt : Timestamp
  /-- What was stored. -/
  payload : Json
deriving DecidableEq

/-- The event tables of the runtime database. -/
structure EventLog where
  /-- `runs`. -/
  runs : Table RunRow.runId
  /-- `events`. -/
  events : Table EventRow.eventId

namespace EventLog

/-- A new database. -/
def initial : EventLog := ⟨.empty, .empty⟩

/-- An event is the dispatch of a run. -/
def isDispatchOf (runId : Uuid) (event : EventRow) : Prop :=
  event.runId = some runId ∧ event.eventType = OperationalEvent.dispatchRequested.value

instance (runId : Uuid) (event : EventRow) : Decidable (isDispatchOf runId event) :=
  inferInstanceAs (Decidable (_ ∧ _))

/-- `_insert_event`, with the reference to `runs` and `events_one_dispatch_per_run`. -/
def insertEvent (log : EventLog) (event : EventRow) : Except MacrError EventLog := do
  raiseIf (∃ runId ∈ event.runId, log.runs.find? runId = none) .integrity
  raiseIf (∃ runId ∈ event.runId, isDispatchOf runId event ∧
    ∃ other ∈ log.events.rows, isDispatchOf runId other) .integrity
  let events ← require (log.events.insert? event) .integrity
  pure { log with events := events }

/-- The insertions of a dispatch. -/
def insertRun (log : EventLog) (row : RunRow) (event : EventRow) : Except MacrError EventLog := do
  raiseIf (∃ other ∈ log.runs.rows, other.dispatchEventId = row.dispatchEventId) .integrity
  let runs ← require (log.runs.insert? row) .integrity
  { log with runs := runs }.insertEvent event

/-- `start_run`. -/
def startRun (log : EventLog) (now : Timestamp) (runId dispatchEventId : Uuid) (payload : Payload) :
    Except MacrError (Committed EventLog Unit) := do
  let document ← canonicalOperationalJson .dispatchRequested payload
  let log ← onIntegrity (.eventStoreConflict "run dispatch already exists")
    (log.insertRun ⟨runId, dispatchEventId, none, "dispatched", now, none⟩
      ⟨dispatchEventId, some runId, OperationalEvent.dispatchRequested.value, now, document⟩)
  commit log ()

/-- The row of a finished run. -/
def finishedRow (terminalEventId : Uuid) (state : String) (now : Timestamp) (row : RunRow) :
    RunRow :=
  { row with terminalEventId := some terminalEventId, state := state, terminalAt := some now }

/-- The writes of a terminal. -/
def insertTerminal (log : EventLog) (now : Timestamp) (runId terminalEventId : Uuid)
    (state : String) (document : Json) : Except MacrError EventLog := do
  let log ← log.insertEvent
    ⟨terminalEventId, some runId, OperationalEvent.candidateCompleted.value, now, document⟩
  raiseIf (∃ other ∈ log.runs.rows, other.terminalEventId = some terminalEventId) .integrity
  pure { log with
    runs := log.runs.update (fun row => row.runId = runId) (finishedRow terminalEventId state now) }

/-- `finish_run`. -/
def finishRun (log : EventLog) (now : Timestamp) (runId terminalEventId : Uuid) (state : String)
    (payload : Payload) : Except MacrError (Committed EventLog Unit) := do
  raiseIf (strip state = "") (.valueError "terminal state must be a non-empty string")
  let document ← canonicalOperationalJson .candidateCompleted payload
  let row ← require (log.runs.find? runId)
    (.eventStoreConflict "terminal event has no dispatch run")
  raiseIf (row.terminalEventId ≠ none)
    (.eventStoreConflict "terminal event already exists for run")
  let log ← onIntegrity (.eventStoreConflict "terminal event conflicts with ledger")
    (log.insertTerminal now runId terminalEventId (strip state) document)
  commit log ()

/-- `read_events` of a run. -/
def readEvents (log : EventLog) (runId : Uuid) : List EventRow :=
  log.events.rows.filter (fun event => event.runId = some runId)

/-! ## What the writers write -/

variable {log next : EventLog} {now : Timestamp} {runId dispatchEventId terminalEventId : Uuid}
  {payload : Payload} {done : Committed EventLog Unit}

/-- An inserted event is the last row, and no event had its identifier. -/
theorem insertEvent_eq_ok {event : EventRow} (inserted : log.insertEvent event = .ok next) :
    next.runs = log.runs ∧ next.events.rows = log.events.rows ++ [event] ∧
      (∀ other ∈ log.events.rows, other.eventId ≠ event.eventId) ∧
      (∀ runId ∈ event.runId, (log.runs.find? runId).isSome) ∧
      ∀ runId ∈ event.runId, isDispatchOf runId event →
        ∀ other ∈ log.events.rows, ¬isDispatchOf runId other := by
  simp only [insertEvent, bind_eq_ok, raiseIf_eq_ok, exists_const, require_eq_ok, pure_eq_ok,
    not_exists, not_and] at inserted
  obtain ⟨referred, single, events, inserted, rfl⟩ := inserted
  refine ⟨rfl, Table.rows_of_insert? inserted, Table.fresh_of_insert? inserted, ?_, ?_⟩
  · intro runId named
    exact Option.isSome_iff_ne_none.mpr (referred runId named)
  · exact fun runId named dispatch other stored => single runId named dispatch other stored

/-- What a started run leaves in the log. -/
structure Started (log next : EventLog) (now : Timestamp) (runId dispatchEventId : Uuid)
    (payload : Payload) : Prop where
  /-- The payload passes. -/
  admitted : canonicalOperationalJson .dispatchRequested payload = .ok (.obj payload)
  /-- The run was not there. -/
  absent : ∀ row ∈ log.runs.rows, row.runId ≠ runId
  /-- Its dispatch event was not there. -/
  unused : ∀ event ∈ log.events.rows, event.eventId ≠ dispatchEventId
  /-- Nor any other dispatch of it. -/
  undispatched : ∀ event ∈ log.events.rows, ¬isDispatchOf runId event
  /-- The run is the last. -/
  runs : next.runs.rows = log.runs.rows ++ [⟨runId, dispatchEventId, none, "dispatched", now, none⟩]
  /-- Its dispatch is the last event. -/
  events : next.events.rows = log.events.rows ++
    [⟨dispatchEventId, some runId, OperationalEvent.dispatchRequested.value, now, .obj payload⟩]

/-- A canonical payload is the payload. -/
theorem canonicalOperationalJson_eq_ok {event : OperationalEvent} {document : Json}
    (canonical : canonicalOperationalJson event payload = .ok document) :
    document = .obj payload := by
  simp only [canonicalOperationalJson, canonicalPayload, bind_eq_ok, pure_eq_ok] at canonical
  obtain ⟨_, _, _, _, _, _, same⟩ := canonical
  exact same.symm

/-- A run that is started leaves its row and its dispatch. -/
theorem startRun_eq_ok (started : log.startRun now runId dispatchEventId payload = .ok done) :
    Started log done.1 now runId dispatchEventId payload ∧ done.2 = .ok () := by
  simp only [startRun, insertRun, bind_eq_ok, onIntegrity_eq_ok, raiseIf_eq_ok, exists_const,
    require_eq_ok, commit_eq_ok] at started
  obtain ⟨document, canonical, written, ⟨_, runs, inserted, event⟩, rfl⟩ := started
  have same := canonicalOperationalJson_eq_ok canonical
  subst same
  obtain ⟨keptRuns, events, fresh, _, single⟩ := insertEvent_eq_ok event
  refine ⟨⟨canonical, ?_, fresh, ?_, ?_, events⟩, rfl⟩
  · exact Table.fresh_of_insert? inserted
  · exact single runId rfl ⟨rfl, rfl⟩
  · rw [keptRuns]
    exact Table.rows_of_insert? inserted

/-- What a finished run leaves in the log. -/
structure Finished (log next : EventLog) (now : Timestamp) (runId terminalEventId : Uuid)
    (state : String) (payload : Payload) : Prop where
  /-- The payload passes. -/
  admitted : canonicalOperationalJson .candidateCompleted payload = .ok (.obj payload)
  /-- The run was there, without a terminal. -/
  open_ : ∃ row ∈ log.runs.rows, row.runId = runId ∧ row.terminalEventId = none
  /-- Its terminal event was not there. -/
  unused : ∀ event ∈ log.events.rows, event.eventId ≠ terminalEventId
  /-- The run has its terminal. -/
  runs : next.runs = log.runs.update (fun row => row.runId = runId)
    (finishedRow terminalEventId (strip state) now)
  /-- Its terminal is the last event. -/
  events : next.events.rows = log.events.rows ++
    [⟨terminalEventId, some runId, OperationalEvent.candidateCompleted.value, now, .obj payload⟩]

/-- A run that is finished leaves its terminal. -/
theorem finishRun_eq_ok {state : String}
    (ended : log.finishRun now runId terminalEventId state payload = .ok done) :
    Finished log done.1 now runId terminalEventId state payload ∧ done.2 = .ok () := by
  simp only [finishRun, insertTerminal, bind_eq_ok, onIntegrity_eq_ok, raiseIf_eq_ok, exists_const,
    require_eq_ok, pure_eq_ok, commit_eq_ok, ne_eq, not_not] at ended
  obtain ⟨_, document, canonical, row, found, unfinished, _, ⟨written, event, _, rfl⟩, rfl⟩ := ended
  have same := canonicalOperationalJson_eq_ok canonical
  subst same
  obtain ⟨keptRuns, events, fresh, _, _⟩ := insertEvent_eq_ok event
  obtain ⟨stored, named⟩ := (log.runs.find?_eq_some _ _).mp found
  refine ⟨⟨canonical, ⟨row, stored, named, unfinished⟩, fresh, ?_, events⟩, rfl⟩
  rw [keptRuns]

end EventLog
end Macr
