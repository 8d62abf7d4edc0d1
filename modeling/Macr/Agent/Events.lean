import Macr.Agent.Contracts
import Macr.Lib.EventLog

/-!
# Agent events

Every change of an agent run is an event that continues the run's chain. An event carries one
payload shape for its type, so an event whose payload has another shape cannot be built. The
interpreter `applyAgentEvent` checks each event against the state it continues; replaying a chain
also refuses a repeated event identifier.
-/

namespace Macr

open Lib

/-- The payload of a lifecycle event with a reason. -/
structure EventReason where
  /-- `reason_code`. -/
  reasonCode : String
  /-- `reason_digest`. -/
  reasonDigest : Digest
deriving DecidableEq

/-- `operation_kind` of a semantic event. -/
inductive SemanticOperationKind where
  | attach
  | commit
deriving DecidableEq, Repr

/-- The payload of `agent.semantic_state_advanced`. -/
structure SemanticAdvance where
  /-- Whether a graph is attached or a patch committed. -/
  operationKind : SemanticOperationKind
  /-- The operation's identifier. -/
  operationId : Uuid
  /-- The binding before. -/
  previousBinding : Option SemanticStateBinding
  /-- The binding after. -/
  newBinding : SemanticStateBinding
  /-- The committed proposal. -/
  proposalDigest : Option Digest
  /-- The committed patch. -/
  patchDigest : Option Digest
  /-- The registry of the graph. -/
  registryDigest : Digest
  /-- The authority of the operation. -/
  authorizationDigest : Digest
deriving DecidableEq

/-- `AgentEventType` with the payload of the type. -/
inductive AgentEventBody where
  | runCreated (initialHeader : AgentRunHeader)
  | runAdmitted (reason : EventReason)
  | ownerAcquired (ownerId : String) (leaseId : Uuid) (fencingToken : Nat) (expiresAt : Timestamp)
  | runActivated (reason : EventReason)
  | blocked (reason : EventReason)
  | completed (evidenceRef : String) (evidenceDigest : Digest)
  | failed (reason : EventReason)
  | cancelled (reason : EventReason)
  | semanticStateAdvanced (advance : SemanticAdvance)
deriving DecidableEq

/-- `_TARGET_STATE`. -/
def AgentEventBody.targetState : AgentEventBody → Option AgentRunState
  | .runAdmitted _ => some .admitted
  | .runActivated _ => some .active
  | .blocked _ => some .blocked
  | .completed _ _ => some .completed
  | .failed _ => some .failed
  | .cancelled _ => some .cancelled
  | .runCreated _ | .ownerAcquired _ _ _ _ | .semanticStateAdvanced _ => none

/-- The token of an acquisition. -/
def AgentEventBody.acquiredToken : AgentEventBody → Option Nat
  | .ownerAcquired _ _ fencingToken _ => some fencingToken
  | _ => none

/-- `AgentStateEvent`. -/
structure AgentStateEvent where
  /-- Its identifier. -/
  eventId : Uuid
  /-- The run. -/
  agentRunId : Uuid
  /-- The run's epoch after it. -/
  epoch : Nat
  /-- The run's revision before it. -/
  beforeRevision : Nat
  /-- The run's revision after it. -/
  afterRevision : Nat
  /-- Its type and payload. -/
  body : AgentEventBody
  /-- The digest of the projection after it. -/
  stateDigestAfter : Digest
  /-- When it was made. -/
  createdAt : Timestamp
  /-- It advances the revision by one. -/
  succeeds : afterRevision = beforeRevision + 1
deriving DecidableEq

/-- What the records of a kernel are hashed with, and which event payloads its filter of texts
admits: bounded texts without paths, credentials or content. -/
structure AgentKernel where
  /-- SHA-256. -/
  sha : Sha256
  /-- `_validate_content_free` and the bounds on texts. -/
  contentFree : AgentEventBody → Bool

/-- The rules on payloads that relate their fields. -/
def payloadRules : AgentEventBody → Except MacrError Unit
  | .runCreated initialHeader =>
    raiseIf (¬initialHeader.IsCreation)
      (.valueError "AgentRun creation requires exactly CREATED/revision 1/epoch 0")
  | .ownerAcquired _ _ fencingToken _ =>
    raiseIf (fencingToken < 1) (.valueError "fencing_token must be a positive integer")
  | .semanticStateAdvanced advance =>
    match advance.operationKind with
    | .attach =>
      raiseIf (advance.proposalDigest ≠ none ∨ advance.patchDigest ≠ none)
        (.valueError "attach cannot carry proposal or patch digest")
    | .commit =>
      raiseIf (advance.proposalDigest = none ∨ advance.patchDigest = none)
        (.valueError "commit requires proposal and patch digests")
  | _ => .ok ()

/-- `_validated_payload`. -/
def validatedPayload (kernel : AgentKernel) (body : AgentEventBody) : Except MacrError Unit := do
  payloadRules body
  raiseIf (¬kernel.contentFree body) (.valueError "Agent event payload is not admitted")

/-- The rules on an event's time that its payload sets. -/
def timeRules (createdAt : Timestamp) : AgentEventBody → Except MacrError Unit
  | .runCreated initialHeader =>
    raiseIf (createdAt ≠ initialHeader.createdAt)
      (.valueError "creation event timestamp must match initial header")
  | .ownerAcquired _ _ _ expiresAt =>
    raiseIf (expiresAt ≤ createdAt)
      (.valueError "ownership expiry must be after event timestamp")
  | _ => .ok ()

/-- `AgentStateEvent.__post_init__`, for an event that follows a revision. -/
def AgentStateEvent.create (kernel : AgentKernel) (eventId agentRunId : Uuid)
    (epoch beforeRevision : Nat) (body : AgentEventBody) (stateDigestAfter : Digest)
    (createdAt : Timestamp) : Except MacrError AgentStateEvent := do
  validatedPayload kernel body
  timeRules createdAt body
  pure ⟨eventId, agentRunId, epoch, beforeRevision, beforeRevision + 1, body, stateDigestAfter,
    createdAt, rfl⟩

/-- `AgentEventIntegrityError`. -/
def eventIntegrity (message : String) : MacrError :=
  .agentState "AGENT_EVENT_INTEGRITY_ERROR" message

/-- The projection an event leads to, before the last two checks of `apply_agent_event`. -/
def continueAgentRun (current : Option AgentRunProjection) (event : AgentStateEvent) :
    Except MacrError AgentRunProjection :=
  match current with
  | none =>
    match event.body with
    | .runCreated initialHeader => do
      raiseIf (event.beforeRevision ≠ 0 ∨ event.afterRevision ≠ 1 ∨ event.epoch ≠ 0)
        (eventIntegrity "Agent event chain must begin with creation")
      AgentRunProjection.fromCreationHeader initialHeader event.createdAt
    | _ => .error (eventIntegrity "Agent event chain must begin with creation")
  | some current => do
    raiseIf (event.body matches .runCreated _)
      (eventIntegrity "AgentRun cannot contain two creation events")
    raiseIf (event.agentRunId ≠ current.agentRunId)
      (eventIntegrity "Agent event run identity does not match")
    raiseIf (event.beforeRevision ≠ current.stateRevision ∨
        event.afterRevision ≠ current.stateRevision + 1)
      (eventIntegrity "Agent event revision does not continue chain")
    match event.body.targetState with
    | some target =>
      raiseIf (event.epoch ≠ current.epoch)
        (eventIntegrity "Agent event epoch does not match current epoch")
      raiseIf (target ∉ current.state.successors)
        (eventIntegrity "Agent event lifecycle transition is invalid")
      pure (current.next target event.epoch event.createdAt)
    | none =>
      if event.body.acquiredToken.isSome then do
        raiseIf (current.state.ownable = false)
          (eventIntegrity "Agent owner acquisition is invalid for current state")
        raiseIf (event.epoch ≠ current.epoch + 1)
          (eventIntegrity "owner acquisition must advance epoch")
        pure (current.next current.state event.epoch event.createdAt)
      else do
        raiseIf (event.epoch ≠ current.epoch)
          (eventIntegrity "semantic binding event epoch does not match current epoch")
        pure (current.next current.state event.epoch event.createdAt)

/-- `apply_agent_event`. -/
def applyAgentEvent (sha : Sha256) (current : Option AgentRunProjection)
    (event : AgentStateEvent) : Except MacrError AgentRunProjection := do
  let projection ← continueAgentRun current event
  raiseIf (projection.agentRunId ≠ event.agentRunId)
    (eventIntegrity "Agent creation identity does not match event")
  raiseIf (projection.stateDigest sha ≠ event.stateDigestAfter)
    (eventIntegrity "Agent event state digest does not match projection")
  pure projection

/-- The interpreter of agent events. -/
def agentEventLog (sha : Sha256) : Lib.EventLog AgentRunProjection AgentStateEvent MacrError :=
  ⟨applyAgentEvent sha⟩

/-- `replay_agent_events`. A repeated identifier is refused where it occurs. -/
def replayAgentEvents (sha : Sha256) (events : List AgentStateEvent) :
    Except MacrError AgentRunProjection := do
  let (_, current) ← events.foldlM (fun (seen, current) event => do
      raiseIf (event.eventId ∈ seen)
        (eventIntegrity "Agent event chain contains duplicate event ID")
      let next ← applyAgentEvent sha current event
      pure (event.eventId :: seen, some next))
    (([] : List Uuid), (none : Option AgentRunProjection))
  require current (eventIntegrity "Agent event chain is empty")

/-- `replay_semantic_binding`. -/
def replaySemanticBinding (initialBinding : Option SemanticStateBinding)
    (events : List AgentStateEvent) : Except MacrError (Option SemanticStateBinding) :=
  events.foldlM (fun current event =>
    match event.body with
    | .semanticStateAdvanced advance => do
      raiseIf (advance.previousBinding ≠ current)
        (eventIntegrity "semantic binding event previous binding does not match")
      pure (some advance.newBinding)
    | _ => pure current) initialBinding

/-! ## Replays -/

/-- A replay succeeds exactly on a chain without repeated identifiers that the interpreter
accepts. -/
theorem replayAgentEvents_eq_ok {sha : Sha256} {events : List AgentStateEvent}
    {projection : AgentRunProjection} :
    replayAgentEvents sha events = .ok projection ↔
      (events.map (·.eventId)).Nodup ∧
        (agentEventLog sha).replayFrom none events = .ok (some projection) := by
  have fold : ∀ (rest : List AgentStateEvent) (seen : List Uuid)
      (current finish : Option AgentRunProjection),
      (∃ after, rest.foldlM (fun (seen, current) event => do
          raiseIf (event.eventId ∈ seen)
            (eventIntegrity "Agent event chain contains duplicate event ID")
          let next ← applyAgentEvent sha current event
          pure (event.eventId :: seen, some next)) (seen, current) = .ok (after, finish)) ↔
        (rest.map (·.eventId)).Nodup ∧ (∀ event ∈ rest, event.eventId ∉ seen) ∧
          (agentEventLog sha).replayFrom current rest = .ok finish := by
    intro rest
    induction rest with
    | nil =>
      intro seen current finish
      simp [Lib.EventLog.replayFrom, pure, Except.pure]
    | cons event rest ih =>
      intro seen current finish
      simp only [List.foldlM_cons, bind_eq_ok, raiseIf_eq_ok, pure_eq_ok, exists_const,
        List.map_cons, List.nodup_cons, List.forall_mem_cons]
      constructor
      · rintro ⟨after, _, ⟨fresh, next, applied, rfl⟩, later⟩
        obtain ⟨distinct, unseen, replayed⟩ := (ih _ _ _).mp ⟨after, later⟩
        refine ⟨⟨?_, distinct⟩, ⟨fresh, fun other member => ?_⟩, ?_⟩
        · intro repeated
          obtain ⟨other, member, same⟩ := List.mem_map.mp repeated
          exact unseen other member (by rw [same]; exact List.mem_cons_self)
        · exact fun earlier => unseen other member (List.mem_cons_of_mem _ earlier)
        · have applied' : (agentEventLog sha).apply current event = .ok next := applied
          rw [Lib.EventLog.replayFrom, applied']
          exact replayed
      · rintro ⟨⟨new, distinct⟩, ⟨fresh, unseen⟩, replayed⟩
        rw [Lib.EventLog.replayFrom] at replayed
        cases applied : (agentEventLog sha).apply current event with
        | error raised =>
          rw [applied] at replayed
          exact absurd replayed (by simp)
        | ok next =>
          rw [applied] at replayed
          have apart : ∀ other ∈ rest, other.eventId ∉ event.eventId :: seen := by
            intro other member repeated
            rcases List.mem_cons.mp repeated with same | earlier
            · exact new (List.mem_map.mpr ⟨other, member, same⟩)
            · exact unseen other member earlier
          obtain ⟨after, later⟩ := (ih _ _ _).mpr ⟨distinct, apart, replayed⟩
          exact ⟨after, _, ⟨fresh, next, applied, rfl⟩, later⟩
  have whole := fold events [] none (some projection)
  simp only [List.not_mem_nil, not_false_iff, implies_true, true_and] at whole
  rw [← whole]
  simp only [replayAgentEvents, bind_eq_ok, require_eq_ok]
  constructor
  · rintro ⟨⟨after, current⟩, folded, rfl⟩
    exact ⟨after, folded⟩
  · rintro ⟨after, folded⟩
    exact ⟨(after, some projection), folded, rfl⟩

/-! ## What an event does -/

/-- A created event has the fields it was made from. -/
theorem AgentStateEvent.create_eq_ok {kernel : AgentKernel} {eventId agentRunId : Uuid}
    {epoch beforeRevision : Nat} {body : AgentEventBody} {stateDigestAfter : Digest}
    {createdAt : Timestamp} {event : AgentStateEvent}
    (made : create kernel eventId agentRunId epoch beforeRevision body stateDigestAfter createdAt =
      .ok event) :
    event.eventId = eventId ∧ event.agentRunId = agentRunId ∧ event.body = body ∧
      event.createdAt = createdAt := by
  simp only [create, bind_eq_ok, pure_eq_ok] at made
  obtain ⟨_, _, _, _, rfl⟩ := made
  exact ⟨rfl, rfl, rfl, rfl⟩

/-- An event that is applied to a run continues the run: it keeps the header, has the next
revision and its own time, and either moves the state along a transition, or keeps the state and
counts an acquisition in the epoch. -/
structure Continues (sha : Sha256) (current : AgentRunProjection) (event : AgentStateEvent)
    (next : AgentRunProjection) : Prop where
  /-- The header stays. -/
  header : next.initialHeader = current.initialHeader
  /-- The event is the run's. -/
  run : event.agentRunId = current.agentRunId
  /-- The event has the next revision. -/
  revision : event.afterRevision = current.stateRevision + 1
  /-- So has the projection. -/
  stateRevision : next.stateRevision = current.stateRevision + 1
  /-- The epochs agree. -/
  epoch : next.epoch = event.epoch
  /-- The time is the event's. -/
  updatedAt : next.updatedAt = event.createdAt
  /-- The epoch counts acquisitions. -/
  counted : next.epoch = current.epoch + if event.body.acquiredToken.isSome then 1 else 0
  /-- A lifecycle event moves the state along a transition. -/
  moved : ∀ target, event.body.targetState = some target →
    next.state = target ∧ target ∈ current.state.successors
  /-- Another event keeps it. -/
  kept : event.body.targetState = none → next.state = current.state
  /-- Only an ownable run is acquired. -/
  ownable : event.body.acquiredToken.isSome = true → current.state.ownable = true
  /-- The digest is the projection's. -/
  digest : event.stateDigestAfter = next.stateDigest sha

/-- A lifecycle event acquires nothing. -/
theorem AgentEventBody.acquiredToken_of_targetState {body : AgentEventBody}
    {target : AgentRunState} (lifecycle : body.targetState = some target) :
    body.acquiredToken = none := by
  cases body <;> simp_all [targetState, acquiredToken]

/-- An applied event continues its run. -/
theorem continues_of_apply {sha : Sha256} {current next : AgentRunProjection}
    {event : AgentStateEvent} (applied : applyAgentEvent sha (some current) event = .ok next) :
    Continues sha current event next := by
  simp only [applyAgentEvent, bind_eq_ok, raiseIf_eq_ok, exists_const, pure_eq_ok, ne_eq,
    not_not] at applied
  obtain ⟨projection, continued, _, digest, rfl⟩ := applied
  simp only [continueAgentRun, bind_eq_ok, raiseIf_eq_ok, exists_const, ne_eq, not_not,
    not_or] at continued
  obtain ⟨_, run, ⟨_, revision⟩, continued⟩ := continued
  cases lifecycle : event.body.targetState with
  | some target =>
    have unacquired := AgentEventBody.acquiredToken_of_targetState lifecycle
    simp only [lifecycle, bind_eq_ok, raiseIf_eq_ok, exists_const, pure_eq_ok,
      not_not] at continued
    obtain ⟨epoch, allowed, rfl⟩ := continued
    exact
      { header := rfl, run := run, revision := revision, stateRevision := rfl, epoch := rfl
        updatedAt := rfl
        counted := by rw [unacquired]; exact epoch
        moved := by
          intro other same
          rw [lifecycle] at same
          obtain rfl := Option.some.inj same
          exact ⟨rfl, allowed⟩
        kept := by
          intro none
          rw [lifecycle] at none
          exact absurd none (by simp)
        ownable := by
          intro acquires
          rw [unacquired] at acquires
          exact absurd acquires (by simp)
        digest := digest.symm }
  | none =>
    simp only [lifecycle] at continued
    by_cases acquires : event.body.acquiredToken.isSome = true
    · simp only [acquires, if_true, bind_eq_ok, raiseIf_eq_ok, exists_const, pure_eq_ok,
        not_not, Bool.not_eq_false] at continued
      obtain ⟨ownable, epoch, rfl⟩ := continued
      exact
        { header := rfl, run := run, revision := revision, stateRevision := rfl, epoch := rfl
          updatedAt := rfl
          counted := by rw [if_pos acquires]; exact epoch
          moved := by
            intro other same
            rw [lifecycle] at same
            exact absurd same (by simp)
          kept := fun _ => rfl
          ownable := fun _ => ownable
          digest := digest.symm }
    · simp only [acquires, if_false, bind_eq_ok, raiseIf_eq_ok, exists_const, pure_eq_ok,
        not_not, Bool.false_eq_true] at continued
      obtain ⟨epoch, rfl⟩ := continued
      exact
        { header := rfl, run := run, revision := revision, stateRevision := rfl, epoch := rfl
          updatedAt := rfl
          counted := by rw [if_neg acquires]; exact epoch
          moved := by
            intro other same
            rw [lifecycle] at same
            exact absurd same (by simp)
          kept := fun _ => rfl
          ownable := fun impossible => absurd impossible acquires
          digest := digest.symm }

end Macr
