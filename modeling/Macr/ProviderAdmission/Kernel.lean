import Macr.ProviderAdmission.Control
import Macr.RuntimeDb
import Mathlib.Algebra.Group.Nat.Defs

/-!
# The admission kernel's request operations

Each operation is given as the body of its write transaction, on the database found under the
lock and with the clock readings it makes. What an operation checks before it takes the lock is
in the kernel's calls. A grant, a transport start and a terminal all begin by validating the
provider's control row; admission and transport start also expire overdue requests first.
-/

namespace Macr

open Lib

namespace ProviderAdmissionKernel

variable (sha : Sha256) (kernel : ProviderAdmissionKernel)

/-- `ProviderAdmissionKernel._row_matches_request`. -/
def rowMatchesRequest (row : RequestRow) (request : ProviderAdmissionRequest)
    (policyDigest : Digest) : Bool :=
  row.providerId = request.providerId ∧
    row.projectBindingDigest = request.projectBindingDigest ∧
    row.admissionLane = request.lane ∧
    row.runId = request.runId ∧
    row.authorityDigest = request.authorization.digest ∧
    row.authorityEpoch = request.authorization.epoch ∧
    row.taskDigest = request.taskDigest ∧
    row.memberDigest = request.memberDigest ∧
    row.providerTierBindingDigest = request.providerTierBindingDigest ∧
    row.policyDigest = policyDigest

/-- `ProviderAdmissionKernel._permit_from_row`, with the checks of the permit's constructor. -/
def permitFromRow (row : RequestRow) : Except MacrError ProviderAdmissionPermit := do
  let token ← require (row.fencingToken.filter (fun token => 1 ≤ token ∧ token < 2 ^ 63))
    (.valueError "permit fencing_token must be between 1 and 9223372036854775807")
  let acquiredAt ← require row.grantedAt
    (.providerAdmissionConflict "provider admission timestamp is invalid")
  pure ⟨row.requestId, row.providerId, row.projectBindingDigest, row.admissionLane, row.runId,
    row.authorityDigest, row.authorityEpoch, row.taskDigest, row.memberDigest,
    row.providerTierBindingDigest, row.policyDigest, token, acquiredAt, row.expiresAt⟩

/-- The permit repeats the row. -/
def permitMatchesRow (permit : ProviderAdmissionPermit) (row : RequestRow) : Bool :=
  row.providerId = permit.providerId ∧
    row.projectBindingDigest = permit.projectBindingDigest ∧
    row.admissionLane = permit.admissionLane ∧
    row.runId = permit.runId ∧
    row.authorityDigest = permit.authorityDigest ∧
    row.authorityEpoch = permit.authorityEpoch ∧
    row.taskDigest = permit.taskDigest ∧
    row.memberDigest = permit.memberDigest ∧
    row.providerTierBindingDigest = permit.providerTierBindingDigest ∧
    row.policyDigest = permit.policyDigest ∧
    row.fencingToken = some permit.fencingToken ∧
    row.grantedAt = some permit.acquiredAt ∧
    row.expiresAt = permit.expiresAt

/-- `ProviderAdmissionKernel._require_permit_row`. -/
def requirePermitRow (tables : AdmissionTables) (permit : ProviderAdmissionPermit) :
    Except MacrError RequestRow :=
  require ((tables.requests.find? permit.requestId).filter (permitMatchesRow permit))
    (.providerAdmissionConflict "provider admission permit identity is invalid")

/-- The condition `request_id=? AND state=?` of an update. -/
def rowIn (requestId : Uuid) (state : RequestState) (row : RequestRow) : Bool :=
  row.requestId = requestId ∧ row.state = state

/-- The control change of a half-open probe that is cancelled. -/
def cancelChange (state : ControlRow) (reason : Signal) (requestId : Uuid) : ControlChange where
  transitionKind := .halfOpenCancelled
  effectiveTarget := state.effectiveTarget
  circuitState := .open
  lastSignal := reason
  requestId := some requestId

/-- `ProviderAdmissionKernel._cancel_granted_row`. -/
def cancelGrantedRow (tables : AdmissionTables) (row : RequestRow) (state : ControlRow)
    (now : Timestamp) (reason : Signal) : Except MacrError AdmissionTables := do
  raiseIf (row.state ≠ .granted)
    (.providerAdmissionConflict "provider admission request is not an unused grant")
  let tables ← tables.decrementProject row.providerId row.projectBindingDigest now
  raiseIf (tables.requests.rows.countP (rowIn row.requestId .granted) ≠ 1)
    (.providerAdmissionConflict "provider admission grant cancellation lost ownership")
  let tables := tables.updateRequests (rowIn row.requestId .granted)
    (·.cancelled now)
  if state.circuitState = .halfOpen then
    let (tables, _) ← kernel.appendControlTransition sha tables (some state)
      (cancelChange state reason row.requestId) now kernel.policy
    pure tables
  else
    pure tables

/-- One turn of the loop of `_expire`, over the tables and the first dispatched request found
expired. -/
def expireRow (state : ControlRow) (now : Timestamp) (found : AdmissionTables × Option Uuid)
    (row : RequestRow) : Except MacrError (AdmissionTables × Option Uuid) :=
  if now < row.expiresAt then
    pure found
  else
    match row.state with
    | .waiting =>
      pure (found.1.updateRequests (rowIn row.requestId .waiting)
        (·.cancelled now), found.2)
    | .granted => do
      let tables ← kernel.cancelGrantedRow sha found.1 row state now .halfOpenProbeExpired
      pure (tables, found.2)
    | _ =>
      pure (found.1.updateRequests (rowIn row.requestId .dispatched)
        (·.expired now), some (found.2.getD row.requestId))

/-- The requests of a provider that can expire. -/
def expiring (tables : AdmissionTables) (providerId : String) : List RequestRow :=
  tables.requests.rows.filter (fun row => row.providerId = providerId ∧
    (row.state = .waiting ∨ row.state = .granted ∨ row.state = .dispatched))

/-- An expired dispatch stops no sibling: its capacity stays reserved and the circuit closed. -/
def expiryIsolated (policy : ProviderAdmissionPolicy) (state : ControlRow) : Bool :=
  policy.uncertainDispatchScope = .capacityReservation ∧ state.circuitState = .closed

/-- The control change of an expired dispatch. -/
def expiryChange (policy : ProviderAdmissionPolicy) (state : ControlRow) (requestId : Uuid) :
    ControlChange where
  transitionKind :=
    if expiryIsolated policy state then .dispatchExpiredIsolated else .permitExpired
  effectiveTarget := state.effectiveTarget
  circuitState := if expiryIsolated policy state then .closed else .open
  lastSignal := if expiryIsolated policy state then .dispatchExpiredIsolated else .permitExpired
  requestId := some requestId

/-- `ProviderAdmissionKernel._expire`. -/
def expire (tables : AdmissionTables) (now : Timestamp) : Except MacrError AdmissionTables := do
  let state ← kernel.validatedState sha tables
  let (tables, expired) ← (expiring tables kernel.policy.providerId).foldlM
    (kernel.expireRow sha state now) (tables, none)
  match expired with
  | none => pure tables
  | some requestId =>
    let (tables, _) ← kernel.appendControlTransition sha tables (some state)
      (expiryChange kernel.policy state requestId) now kernel.policy
    pure tables

/-- The order in which waiting requests are served: the project granted longest ago first, then
the request waiting longest. -/
def servedBefore (tables : AdmissionTables) (left right : RequestRow) : Bool :=
  let lastGrant := fun (row : RequestRow) =>
    ((tables.project? row.providerId row.projectBindingDigest).map (·.lastGrantSequence)).getD 0
  lastGrant left < lastGrant right ∨
    (lastGrant left = lastGrant right ∧
      (left.requestedAt < right.requestedAt ∨
        (left.requestedAt = right.requestedAt ∧ left.requestId < right.requestId)))

/-- The waiting requests whose project is below the policy's cap. -/
def eligible (tables : AdmissionTables) : List RequestRow :=
  tables.requests.rows.filter (fun row =>
    row.providerId = kernel.policy.providerId ∧ row.state = .waiting ∧
      tables.projectActive row.providerId row.projectBindingDigest + 1 ≤
        kernel.policy.perProjectCap)

/-- The lane served next: interactive unless it was served last, otherwise the other lanes where
one waits. -/
def laneRows (lastGrantedLane : Option AdmissionLane) (rows : List RequestRow) :
    List RequestRow :=
  let interactive := rows.filter (fun row => row.admissionLane = .interactive)
  let nonInteractive := rows.filter (fun row => row.admissionLane ≠ .interactive)
  if ¬interactive.isEmpty ∧ lastGrantedLane ≠ some .interactive then
    interactive
  else if ¬nonInteractive.isEmpty then
    nonInteractive
  else
    interactive

/-- The first of some rows in the order of service. -/
def firstServed (tables : AdmissionTables) : List RequestRow → Option RequestRow
  | [] => none
  | row :: rest =>
    match firstServed tables rest with
    | none => some row
    | some best => if servedBefore tables best row then some best else some row

/-- `ProviderAdmissionKernel._selected_waiting`. -/
def selectedWaiting (tables : AdmissionTables) (state : ControlRow) : Option RequestRow :=
  firstServed tables (laneRows state.lastGrantedLane (kernel.eligible tables))

/-- The row `try_admit` inserts. -/
def waitingRow (request : ProviderAdmissionRequest) (ttlSeconds : Nat) (now : Timestamp) :
    RequestRow where
  requestId := request.requestId
  providerId := request.providerId
  projectBindingDigest := request.projectBindingDigest
  admissionLane := request.lane
  runId := request.runId
  authorityDigest := request.authorization.digest
  authorityEpoch := request.authorization.epoch
  taskDigest := request.taskDigest
  memberDigest := request.memberDigest
  providerTierBindingDigest := request.providerTierBindingDigest
  policyDigest := kernel.policy.policyDigest sha
  requestedAt := now
  expiresAt := now.addSeconds ttlSeconds
  toRequestProgress := .waiting

/-- The insertion of a request, whose identifier and run are both unique. -/
def insertRequest (tables : AdmissionTables) (row : RequestRow) :
    Except MacrError AdmissionTables := do
  raiseIf (∃ other ∈ tables.requests.rows, other.runId = row.runId) .integrity
  let requests ← require (tables.requests.insert? row) .integrity
  pure { tables with requests := requests }

/-- The capacity in force. -/
def effectiveCapacity (state : ControlRow) : Nat :=
  if state.circuitState = .halfOpen then 1 else state.effectiveTarget

/-- The writes of a grant to the project and the control row. -/
def reserve (tables : AdmissionTables) (state : ControlRow) (request : ProviderAdmissionRequest)
    (now : Timestamp) : AdmissionTables :=
  let sequence := state.grantSequence + 1
  let tables := tables.incrementProject request.providerId request.projectBindingDigest sequence
    now
  { tables with
    states := tables.states.update (fun row => row.providerId = request.providerId)
      (fun row => { row with
        grantSequence := sequence
        lastGrantedLane := some request.lane
        updatedAt := now }) }

/-- The writes of a grant. -/
def grant (db : RuntimeDb) (state : ControlRow) (request : ProviderAdmissionRequest)
    (now : Timestamp) : RuntimeDb :=
  let token := db.fencingCounter + 1
  { db with
    fencingCounter := token
    admission := (reserve db.admission state request now).updateRequests
      (rowIn request.requestId .waiting) (·.granted token now) }

/-- The part of `try_admit` that follows the insertion or the recognition of a waiting row. -/
def grantIfServed (db : RuntimeDb) (state : ControlRow) (request : ProviderAdmissionRequest)
    (now : Timestamp) : Except MacrError (Committed RuntimeDb ProviderAdmissionPermit) :=
  if effectiveCapacity state < db.admission.activeUnits request.providerId + 1 then
    commitRaise db (.providerAdmissionBusy "provider admission capacity is busy")
  else if (kernel.selectedWaiting db.admission state).map (·.requestId) ≠
      some request.requestId then
    commitRaise db
      (.providerAdmissionBusy "provider admission request is waiting for its fair turn")
  else
    let db := grant db state request now
    .ok (db, do
      let row ← require (db.admission.requests.find? request.requestId)
        (.typeError "'NoneType' object is not subscriptable")
      permitFromRow row)

/-- The write transaction of `ProviderAdmissionKernel.try_admit`. -/
def tryAdmit (db : RuntimeDb) (request : ProviderAdmissionRequest) (ttlSeconds : Nat)
    (now : Timestamp) : Except MacrError (Committed RuntimeDb ProviderAdmissionPermit) := do
  let tables ← kernel.expire sha db.admission now
  let db := { db with admission := tables }
  let state ← kernel.validatedState sha tables
  if state.circuitState = .open then
    commitRaise db (.providerAdmissionReconciliation
      "provider admission circuit requires reconciliation")
  else if state.circuitState = .halfOpen ∧
      some (request.bindingDigest sha) ≠ state.halfOpenProbeRequestDigest then
    commitRaise db (.providerAdmissionReconciliation
      "provider admission half-open slot is bound to another probe")
  else if kernel.policy.uncertainDispatchScope = .global ∧
      0 < tables.countRequests request.providerId (· = .reconciliationRequired) then
    commitRaise db (.providerAdmissionReconciliation
      "provider admission has unresolved capacity")
  else
    match tables.requests.find? request.requestId with
    | some row => do
      raiseIf (¬rowMatchesRequest row request (kernel.policy.policyDigest sha))
        (.providerAdmissionConflict "provider admission request identity conflicts")
      if row.state = .granted then
        .ok (db, permitFromRow row)
      else do
        raiseIf (row.state ≠ .waiting) (.providerAdmissionConflict
          "provider admission request is already terminal or dispatched")
        kernel.grantIfServed db state request now
    | none => do
      let tables ← insertRequest tables (kernel.waitingRow sha request ttlSeconds now)
      kernel.grantIfServed { db with admission := tables } state request now

/-- The write transaction of `ProviderAdmissionKernel.cancel_before_transport`. -/
def cancelBeforeTransport (db : RuntimeDb) (permit : ProviderAdmissionPermit)
    (now : Timestamp) : Except MacrError (Committed RuntimeDb Unit) := do
  let state ← kernel.validatedState sha db.admission
  let row ← requirePermitRow db.admission permit
  raiseIf (row.state ≠ .granted)
    (.providerAdmissionConflict "provider admission permit cannot be cancelled")
  let tables ← kernel.cancelGrantedRow sha db.admission row state now .halfOpenCancelled
  commit { db with admission := tables } ()

/-- The write transaction of `ProviderAdmissionKernel.cancel_waiting`, which validates no control
row. -/
def cancelWaiting (db : RuntimeDb) (requestId runId : Uuid) (now : Timestamp) :
    Except MacrError (Committed RuntimeDb Bool) :=
  match db.admission.requests.find? requestId with
  | none => commit db false
  | some row => do
    raiseIf (row.runId ≠ runId)
      (.providerAdmissionConflict "provider admission waiting identity is invalid")
    raiseIf (row.state ≠ .waiting)
      (.providerAdmissionConflict "provider admission request is not waiting")
    commit { db with
      admission := db.admission.updateRequests (rowIn requestId .waiting)
        (·.cancelled now) }
      (decide (db.admission.requests.rows.countP (rowIn requestId .waiting) = 1))

/-- What `_verify_authority` and `_verify_authority_locked` ask of a request's authority. -/
def admissionUse (request : ProviderAdmissionRequest) : AuthorityUse where
  providerId := request.providerId
  plane := request.plane
  taskType := request.taskType
  batchId := request.batchId
  memberDigest := request.memberDigest
  providerTierBindingDigest := request.providerTierBindingDigest
  projectBindingDigest := some request.projectBindingDigest
  admissionLane := some request.lane
  providerAdmissionPolicyDigest := some (kernel.policy.policyDigest sha)

/-- A transport start that is refused: the unused grant is cancelled before the error is raised. -/
def refuseTransport (db : RuntimeDb) (row : RequestRow) (state : ControlRow) (now : Timestamp)
    (reason : Signal) (error : MacrError) : Except MacrError (Committed RuntimeDb Unit) := do
  let tables ← kernel.cancelGrantedRow sha db.admission row state now reason
  commitRaise { db with admission := tables } error

/-- The write transaction of `ProviderAdmissionKernel.begin_transport`; the authority store reads
a clock of its own. -/
def beginTransport (db : RuntimeDb) (permit : ProviderAdmissionPermit)
    (request : ProviderAdmissionRequest) (now authorityNow : Timestamp) :
    Except MacrError (Committed RuntimeDb Unit) := do
  let tables ← kernel.expire sha db.admission now
  let db := { db with admission := tables }
  let state ← kernel.validatedState sha tables
  let row ← requirePermitRow tables permit
  if ¬rowMatchesRequest row request (kernel.policy.policyDigest sha) then
    commitRaise db (.providerAdmissionConflict
      "provider admission permit does not match request")
  else if row.state = .reconciliationRequired then
    commitRaise db (.providerAdmissionReconciliation
      "expired provider admission grant requires reconciliation")
  else if row.state ≠ .granted then
    commitRaise db (.providerAdmissionConflict
      "provider admission permit is not a fresh grant")
  else if state.circuitState = .open then
    kernel.refuseTransport sha db row state now .grantBlockedByOpenCircuit
      (.providerAdmissionReconciliation "provider admission circuit opened before transport")
  else if kernel.policy.uncertainDispatchScope = .global ∧
      0 < tables.countRequests permit.providerId (· = .reconciliationRequired) then
    kernel.refuseTransport sha db row state now .grantBlockedByUnresolvedCapacity
      (.providerAdmissionReconciliation "provider admission has unresolved capacity")
  else if state.circuitState = .halfOpen ∧
      some (request.bindingDigest sha) ≠ state.halfOpenProbeRequestDigest then
    kernel.refuseTransport sha db row state now .halfOpenProbeMismatch
      (.providerAdmissionConflict "provider admission permit is not the authorized probe")
  else
    match db.authority.verifyInTransaction sha authorityNow request.authorization
        (kernel.admissionUse sha request) with
    | .error error =>
      -- Only a refused authorization is caught; nothing else can be raised here.
      kernel.refuseTransport sha db row state now .halfOpenAuthorityInvalid error
    | .ok _ =>
      commit { db with
        admission := tables.updateRequests (rowIn permit.requestId .granted)
          (·.dispatched now) } ()

/-- The keyword arguments of `finish`. -/
structure TransportReport where
  /-- Whether the network was attempted; unknown when absent. -/
  networkAttempted : Option Bool
  /-- Whether a response arrived; unknown when absent. -/
  responseReceived : Option Bool
  /-- The provider's HTTP status. -/
  providerHttpStatus : Option Nat
  /-- Whether the terminal event was stored. -/
  terminalPersisted : Bool
  /-- The evidence of the terminal. -/
  terminalEvidenceDigest : Digest
deriving DecidableEq

namespace TransportReport

variable (report : TransportReport)

/-- The outcome of the dispatch is not known. -/
def ambiguous : Bool :=
  !report.terminalPersisted || report.networkAttempted = none ||
    (report.networkAttempted = some true && report.responseReceived ≠ some true)

/-- The status is 429 or 5xx. -/
def providerPressure : Bool :=
  report.providerHttpStatus = some 429 ||
    report.providerHttpStatus.any (fun status => 500 ≤ status && status ≤ 599)

/-- An ambiguous outcome that stops no sibling. -/
def isolatedUncertainty (policy : ProviderAdmissionPolicy) (circuit : CircuitState) : Bool :=
  policy.uncertainDispatchScope = .capacityReservation && !report.providerPressure &&
    report.terminalPersisted && report.networkAttempted = some true &&
    report.responseReceived = some false && circuit = .closed

/-- The signal of the status, where one was received. -/
def httpSignal (otherwise : Signal) : Signal :=
  (report.providerHttpStatus.map Signal.http).getD otherwise

/-- The circuit after an ambiguous finish. -/
def ambiguousCircuit (policy : ProviderAdmissionPolicy) (circuit : CircuitState) : CircuitState :=
  if report.providerPressure then .open
  else if ¬report.terminalPersisted ∨ report.networkAttempted = none then .open
  else if report.isolatedUncertainty policy circuit then .closed
  else .open

/-- The signal of an ambiguous finish. -/
def ambiguousSignal (policy : ProviderAdmissionPolicy) (circuit : CircuitState) : Signal :=
  if report.providerPressure then report.httpSignal .unknownAfterDispatch
  else if ¬report.terminalPersisted ∨ report.networkAttempted = none then .localIntegrityStop
  else if report.isolatedUncertainty policy circuit then .unknownAfterDispatchIsolated
  else .unknownAfterDispatch

/-- The transition kind of an ambiguous finish. -/
def ambiguousKind (policy : ProviderAdmissionPolicy) (circuit : CircuitState) : TransitionKind :=
  if circuit = .halfOpen then .halfOpenFailed
  else if report.ambiguousSignal policy circuit = .unknownAfterDispatchIsolated then
    .unknownAfterDispatchIsolated
  else if report.ambiguousSignal policy circuit = .localIntegrityStop then .localIntegrityStop
  else if report.providerPressure ∧ circuit ≠ .open then .circuitOpened
  else if report.providerPressure then .terminalObservedWhileOpen
  else .unknownAfterDispatch

/-- The circuit after a known finish. A sibling terminal cannot close an existing stop, and only
a provider response to the half-open probe closes a half-open circuit. -/
def knownCircuit (circuit : CircuitState) : CircuitState :=
  match circuit with
  | .open => .open
  | .halfOpen =>
    if ¬report.providerPressure ∧ report.networkAttempted = some true ∧
        report.responseReceived = some true then .closed
    else .open
  | .closed => if report.providerPressure then .open else .closed

/-- The signal of a known finish. -/
def knownSignal : Signal :=
  report.httpSignal
    (if report.networkAttempted = some false then .knownPreNetworkTerminal else .responseReceived)

/-- The transition kind of a known finish. -/
def knownKind (circuit : CircuitState) : TransitionKind :=
  match circuit with
  | .halfOpen => if report.knownCircuit circuit = .closed then .halfOpenSucceeded else .halfOpenFailed
  | .open => .terminalObservedWhileOpen
  | .closed => if report.knownCircuit circuit = .open then .circuitOpened else .terminalObserved

/-- The circuit after a finish. -/
def nextCircuit (policy : ProviderAdmissionPolicy) (circuit : CircuitState) : CircuitState :=
  if report.ambiguous then report.ambiguousCircuit policy circuit else report.knownCircuit circuit

/-- The control change of a finish. -/
def change (policy : ProviderAdmissionPolicy) (state : ControlRow) (requestId : Uuid) :
    ControlChange where
  transitionKind :=
    if report.ambiguous then report.ambiguousKind policy state.circuitState
    else report.knownKind state.circuitState
  effectiveTarget := state.effectiveTarget
  circuitState := report.nextCircuit policy state.circuitState
  lastSignal :=
    if report.ambiguous then report.ambiguousSignal policy state.circuitState
    else report.knownSignal
  requestId := some requestId
  evidenceDigest := some report.terminalEvidenceDigest

end TransportReport

/-- A known terminal gives its unit back; an ambiguous one keeps it reserved. -/
def releaseIfKnown (tables : AdmissionTables) (row : RequestRow) (report : TransportReport)
    (now : Timestamp) : Except MacrError AdmissionTables :=
  if report.ambiguous then .ok tables
  else tables.decrementProject row.providerId row.projectBindingDigest now

/-- The write transaction of `ProviderAdmissionKernel.finish`. -/
def finish (db : RuntimeDb) (permit : ProviderAdmissionPermit) (report : TransportReport)
    (now : Timestamp) : Except MacrError (Committed RuntimeDb Unit) := do
  let state ← kernel.validatedState sha db.admission
  let row ← requirePermitRow db.admission permit
  raiseIf (row.state ≠ .dispatched)
    (.providerAdmissionConflict "provider admission permit has no active transport")
  let tables ← releaseIfKnown db.admission row report now
  let tables := tables.updateRequests (fun other => other.requestId = permit.requestId)
    (·.finished (if report.ambiguous then .reconciliationRequired else .completed) now
      report.terminalEvidenceDigest)
  let (tables, _) ← kernel.appendControlTransition sha tables (some state)
    (report.change kernel.policy state permit.requestId) now kernel.policy
  commit { db with admission := tables } ()

/-- The control change of a resolution. It releases only the named unit: it has no
circuit-control authority and cannot close an open circuit. -/
def resolutionChange (state : ControlRow) (requestId : Uuid) (evidence : Digest) :
    ControlChange where
  transitionKind := .reconciliationResolved
  effectiveTarget := state.effectiveTarget
  circuitState := state.circuitState
  lastSignal := .reconciled
  requestId := some requestId
  evidenceDigest := some evidence

/-- The write transaction of `ProviderAdmissionKernel.resolve_reconciliation`. -/
def resolveReconciliation (db : RuntimeDb) (requestId : Uuid) (evidence : Digest)
    (now : Timestamp) : Except MacrError (Committed RuntimeDb Unit) := do
  let state ← kernel.validatedState sha db.admission
  let row ← require ((db.admission.requests.find? requestId).filter
      (fun row => row.state = .reconciliationRequired))
    (.providerAdmissionConflict "provider admission reconciliation state changed")
  let tables ← db.admission.decrementProject row.providerId row.projectBindingDigest now
  let tables := tables.updateRequests (fun other => other.requestId = requestId)
    (·.reconciled evidence now)
  let (tables, _) ← kernel.appendControlTransition sha tables (some state)
    (resolutionChange state requestId evidence) now kernel.policy
  commit { db with admission := tables } ()

end ProviderAdmissionKernel
end Macr
