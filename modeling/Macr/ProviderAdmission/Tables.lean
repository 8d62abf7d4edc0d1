import Macr.ProviderAdmission.Contracts

/-!
# Provider admission tables

The rows of the five admission tables. A request row is split into what its insertion fixes and
what later updates change, so that no update can touch an identity. A transition row keeps the
receipt it hashes as a value; its columns repeat part of that receipt.
-/

namespace Macr

open Lib

/-- `circuit_state`. -/
inductive CircuitState where
  | closed
  | open
  | halfOpen
deriving DecidableEq, Repr

/-- The stored text of a circuit state. -/
def CircuitState.value : CircuitState → String
  | .closed => "closed"
  | .open => "open"
  | .halfOpen => "half_open"

/-- `state` of an admission request. -/
inductive RequestState where
  | waiting
  | granted
  | dispatched
  | completed
  | cancelled
  | reconciliationRequired
  | reconciled
deriving DecidableEq, Repr

/-- The stored text of a request state. -/
def RequestState.value : RequestState → String
  | .waiting => "waiting"
  | .granted => "granted"
  | .dispatched => "dispatched"
  | .completed => "completed"
  | .cancelled => "cancelled"
  | .reconciliationRequired => "reconciliation_required"
  | .reconciled => "reconciled"

/-- The states that hold a unit of provider capacity. -/
def RequestState.holdsCapacity : RequestState → Bool
  | .granted | .dispatched | .reconciliationRequired => true
  | _ => false

/-- `transition_kind`. -/
inductive TransitionKind where
  | genesis
  | targetActivated
  | policySuperseded
  | halfOpenActivated
  | halfOpenCancelled
  | halfOpenFailed
  | halfOpenSucceeded
  | dispatchExpiredIsolated
  | permitExpired
  | unknownAfterDispatch
  | unknownAfterDispatchIsolated
  | localIntegrityStop
  | circuitOpened
  | terminalObserved
  | terminalObservedWhileOpen
  | reconciliationResolved
deriving DecidableEq, Repr

/-- The stored text of a transition kind. -/
def TransitionKind.value : TransitionKind → String
  | .genesis => "genesis"
  | .targetActivated => "target_activated"
  | .policySuperseded => "policy_superseded"
  | .halfOpenActivated => "half_open_activated"
  | .halfOpenCancelled => "half_open_cancelled"
  | .halfOpenFailed => "half_open_failed"
  | .halfOpenSucceeded => "half_open_succeeded"
  | .dispatchExpiredIsolated => "dispatch_expired_isolated"
  | .permitExpired => "permit_expired"
  | .unknownAfterDispatch => "unknown_after_dispatch"
  | .unknownAfterDispatchIsolated => "unknown_after_dispatch_isolated"
  | .localIntegrityStop => "local_integrity_stop"
  | .circuitOpened => "circuit_opened"
  | .terminalObserved => "terminal_observed"
  | .terminalObservedWhileOpen => "terminal_observed_while_open"
  | .reconciliationResolved => "reconciliation_resolved"

/-- `last_signal`. -/
inductive Signal where
  | policyInstalled
  | targetActivated
  | policySuperseded
  | policySupersededWithReconciliation
  | halfOpenAuthorized
  | halfOpenProbeExpired
  | halfOpenCancelled
  | grantBlockedByOpenCircuit
  | grantBlockedByUnresolvedCapacity
  | halfOpenProbeMismatch
  | halfOpenAuthorityInvalid
  | dispatchExpiredIsolated
  | permitExpired
  | http (status : Nat)
  | localIntegrityStop
  | unknownAfterDispatch
  | unknownAfterDispatchIsolated
  | knownPreNetworkTerminal
  | responseReceived
  | reconciled
deriving DecidableEq, Repr

/-- The stored text of a signal. -/
def Signal.value : Signal → String
  | .policyInstalled => "policy_installed"
  | .targetActivated => "target_activated"
  | .policySuperseded => "policy_superseded"
  | .policySupersededWithReconciliation => "policy_superseded_with_reconciliation"
  | .halfOpenAuthorized => "half_open_authorized"
  | .halfOpenProbeExpired => "half_open_probe_expired"
  | .halfOpenCancelled => "half_open_cancelled"
  | .grantBlockedByOpenCircuit => "grant_blocked_by_open_circuit"
  | .grantBlockedByUnresolvedCapacity => "grant_blocked_by_unresolved_capacity"
  | .halfOpenProbeMismatch => "half_open_probe_mismatch"
  | .halfOpenAuthorityInvalid => "half_open_authority_invalid"
  | .dispatchExpiredIsolated => "dispatch_expired_isolated"
  | .permitExpired => "permit_expired"
  | .http status => "http_" ++ toString status
  | .localIntegrityStop => "local_integrity_stop"
  | .unknownAfterDispatch => "unknown_after_dispatch"
  | .unknownAfterDispatchIsolated => "unknown_after_dispatch_isolated"
  | .knownPreNetworkTerminal => "known_pre_network_terminal"
  | .responseReceived => "response_received"
  | .reconciled => "reconciled"

/-- A row of `provider_admission_policies`. -/
structure PolicyRow where
  /-- The provider. -/
  providerId : String
  /-- The policy's revision. -/
  revision : Nat
  /-- `body_json`. -/
  body : ProviderAdmissionPolicy
  /-- `body_sha256`. -/
  bodySha256 : Digest
  /-- `policy_digest`. -/
  policyDigest : Digest
  /-- When it was stored. -/
  createdAt : Timestamp
deriving DecidableEq

/-- The primary key of a policy row. -/
abbrev PolicyRow.key (row : PolicyRow) : String × Nat := (row.providerId, row.revision)

/-- A row of `provider_admission_state`. -/
structure ControlRow where
  /-- Primary key. -/
  providerId : String
  /-- The policy in force. -/
  policyDigest : Digest
  /-- The deployment the control state belongs to. -/
  deploymentMode : AdmissionDeploymentMode
  /-- The digest of that deployment. -/
  deploymentDigest : Digest
  /-- The target in force. -/
  effectiveTarget : Nat
  /-- The circuit. -/
  circuitState : CircuitState
  /-- The number of grants made. -/
  grantSequence : Nat
  /-- The lane of the last grant. -/
  lastGrantedLane : Option AdmissionLane
  /-- The one request a half-open circuit admits. -/
  halfOpenProbeRequestDigest : Option Digest
  /-- The revision of the last receipt. -/
  controlRevision : Nat
  /-- The digest of the last receipt. -/
  controlDigest : Digest
  /-- The last receipt's signal. -/
  lastSignal : Signal
  /-- When the row was last written. -/
  updatedAt : Timestamp
deriving DecidableEq

/-- The receipt a control transition hashes. -/
structure ControlBody where
  /-- The provider. -/
  providerId : String
  /-- The policy in force after the transition. -/
  policyDigest : Digest
  /-- The deployment. -/
  deploymentMode : AdmissionDeploymentMode
  /-- The digest of the deployment. -/
  deploymentDigest : Digest
  /-- The receipt's revision. -/
  controlRevision : Nat
  /-- The digest of the receipt before it. -/
  priorControlDigest : Digest
  /-- What happened. -/
  transitionKind : TransitionKind
  /-- The target after the transition. -/
  effectiveTarget : Nat
  /-- The circuit after the transition. -/
  circuitState : CircuitState
  /-- The half-open probe after the transition. -/
  halfOpenProbeRequestDigest : Option Digest
  /-- The signal. -/
  lastSignal : Signal
  /-- The authority it was made under. -/
  authorityDigest : Option Digest
  /-- The binding that named it. -/
  bindingDigest : Option Digest
  /-- The request it is about. -/
  requestId : Option Uuid
  /-- The evidence given. -/
  evidenceDigest : Option Digest
  /-- When it happened. -/
  createdAt : Timestamp
deriving DecidableEq

/-- The document written to `body_json`. -/
def ControlBody.toDict (body : ControlBody) : Json :=
  .obj [("schema", .str "provider_admission_control_transition_v1"),
    ("provider_id", .str body.providerId),
    ("policy_digest", .hex body.policyDigest),
    ("deployment_mode", .str body.deploymentMode.value),
    ("deployment_digest", .hex body.deploymentDigest),
    ("control_revision", .int body.controlRevision),
    ("prior_control_digest", .hex body.priorControlDigest),
    ("transition_kind", .str body.transitionKind.value),
    ("effective_target", .int body.effectiveTarget),
    ("circuit_state", .str body.circuitState.value),
    ("half_open_probe_request_digest", .optHex body.halfOpenProbeRequestDigest),
    ("last_signal", .str body.lastSignal.value),
    ("authority_digest", .optHex body.authorityDigest),
    ("binding_digest", .optHex body.bindingDigest),
    ("request_id", .optHex body.requestId),
    ("evidence_digest", .optHex body.evidenceDigest),
    ("created_at", .time body.createdAt)]

/-- Receipts with one document are for one provider and one revision. -/
theorem ControlBody.place_of_toDict {left right : ControlBody}
    (same : left.toDict = right.toDict) :
    left.providerId = right.providerId ∧ left.controlRevision = right.controlRevision := by
  simp only [toDict, Json.obj.injEq, List.cons.injEq, Prod.mk.injEq, true_and, Json.str.injEq,
    Json.int.injEq, Int.natCast_inj] at same
  exact ⟨same.1, same.2.2.2.2.1⟩

/-- A row of `provider_admission_transitions`. -/
structure TransitionRow where
  /-- The provider. -/
  providerId : String
  /-- The receipt's revision. -/
  controlRevision : Nat
  /-- The digest of the receipt before it. -/
  priorControlDigest : Digest
  /-- What happened. -/
  transitionKind : TransitionKind
  /-- The authority it was made under. -/
  authorityDigest : Option Digest
  /-- The binding that named it. -/
  bindingDigest : Option Digest
  /-- The request it is about. -/
  requestId : Option Uuid
  /-- The evidence given. -/
  evidenceDigest : Option Digest
  /-- `body_json`. -/
  body : ControlBody
  /-- `body_sha256`. -/
  bodySha256 : Digest
  /-- When it happened. -/
  createdAt : Timestamp
deriving DecidableEq

/-- The unique columns of a transition row. -/
abbrev TransitionRow.key (row : TransitionRow) : String × Nat := (row.providerId, row.controlRevision)

/-- A row of `provider_admission_projects`. -/
structure ProjectRow where
  /-- The provider. -/
  providerId : String
  /-- The project. -/
  projectBindingDigest : Digest
  /-- The units the project holds. -/
  activeUnits : Nat
  /-- The grant sequence of its last grant. -/
  lastGrantSequence : Nat
  /-- When the row was last written. -/
  updatedAt : Timestamp
deriving DecidableEq

/-- The primary key of a project row. -/
abbrev ProjectRow.key (row : ProjectRow) : String × Digest := (row.providerId, row.projectBindingDigest)

/-- The columns of a request that its insertion fixes. -/
structure RequestIdentity where
  /-- Primary key. -/
  requestId : Uuid
  /-- The provider. -/
  providerId : String
  /-- The project. -/
  projectBindingDigest : Digest
  /-- The admission lane. -/
  admissionLane : AdmissionLane
  /-- The run. -/
  runId : Uuid
  /-- The authority's digest. -/
  authorityDigest : Digest
  /-- The authority's epoch. -/
  authorityEpoch : Nat
  /-- The task. -/
  taskDigest : Digest
  /-- The plan member. -/
  memberDigest : Option Digest
  /-- The provider tier binding. -/
  providerTierBindingDigest : Option Digest
  /-- The policy it was requested under. -/
  policyDigest : Digest
  /-- When it was requested. -/
  requestedAt : Timestamp
  /-- When it expires. -/
  expiresAt : Timestamp
deriving DecidableEq

/-- The columns of a request that later updates write. -/
structure RequestProgress where
  /-- Its state. -/
  state : RequestState
  /-- The token of its grant. -/
  fencingToken : Option Nat
  /-- When it was granted. -/
  grantedAt : Option Timestamp
  /-- When its transport began. -/
  transportStartedAt : Option Timestamp
  /-- When it ended. -/
  terminalAt : Option Timestamp
  /-- The evidence of its end. -/
  terminalEvidenceDigest : Option Digest
  /-- The evidence of its resolution. -/
  resolutionEvidenceDigest : Option Digest
  /-- When it was resolved. -/
  resolvedAt : Option Timestamp
deriving DecidableEq

/-- A row of `provider_admission_requests`; its capacity unit is always one. -/
structure RequestRow extends RequestIdentity, RequestProgress
deriving DecidableEq

/-- The progress of a request just inserted. -/
def RequestProgress.waiting : RequestProgress :=
  ⟨.waiting, none, none, none, none, none, none, none⟩

namespace RequestProgress

variable (progress : RequestProgress)

/-- `SET state='cancelled', terminal_at=?`. -/
def cancelled (now : Timestamp) : RequestProgress :=
  { progress with state := .cancelled, terminalAt := some now }

/-- `SET state='granted', fencing_token=?, granted_at=?`. -/
def granted (token : Nat) (now : Timestamp) : RequestProgress :=
  { progress with state := .granted, fencingToken := some token, grantedAt := some now }

/-- `SET state='dispatched', transport_started_at=?`. -/
def dispatched (now : Timestamp) : RequestProgress :=
  { progress with state := .dispatched, transportStartedAt := some now }

/-- `SET state='reconciliation_required', terminal_at=?`. -/
def expired (now : Timestamp) : RequestProgress :=
  { progress with state := .reconciliationRequired, terminalAt := some now }

/-- `SET state=?, terminal_at=?, terminal_evidence_digest=?`. -/
def finished (state : RequestState) (now : Timestamp) (evidence : Digest) : RequestProgress :=
  { progress with
    state := state
    terminalAt := some now
    terminalEvidenceDigest := some evidence }

/-- `SET state='reconciled', resolution_evidence_digest=?, resolved_at=?`. -/
def reconciled (evidence : Digest) (now : Timestamp) : RequestProgress :=
  { progress with
    state := .reconciled
    resolutionEvidenceDigest := some evidence
    resolvedAt := some now }

end RequestProgress

/-- The admission tables. -/
structure AdmissionTables where
  /-- `provider_admission_policies`. -/
  policies : Table PolicyRow.key
  /-- `provider_admission_state`. -/
  states : Table ControlRow.providerId
  /-- `provider_admission_transitions`. -/
  transitions : Table TransitionRow.key
  /-- `provider_admission_projects`. -/
  projects : Table ProjectRow.key
  /-- `provider_admission_requests`. -/
  requests : Table (fun row : RequestRow => row.requestId)

/-- The admission tables of a new database. -/
def AdmissionTables.initial : AdmissionTables :=
  ⟨Table.empty, Table.empty, Table.empty, Table.empty, Table.empty⟩

namespace AdmissionTables

/-- `UPDATE provider_admission_requests SET ... WHERE ...`. -/
def updateRequests (tables : AdmissionTables) (condition : RequestRow → Bool)
    (assign : RequestProgress → RequestProgress) : AdmissionTables :=
  { tables with
    requests := tables.requests.update condition
      (fun row => { row with toRequestProgress := assign row.toRequestProgress }) }

/-- The requests of a provider that meet a condition on their state. -/
def countRequests (tables : AdmissionTables) (providerId : String)
    (condition : RequestState → Bool) : Nat :=
  tables.requests.rows.countP (fun row => row.providerId = providerId ∧ condition row.state)

/-- The requests of a provider that hold capacity. -/
def activeUnits (tables : AdmissionTables) (providerId : String) : Nat :=
  tables.countRequests providerId RequestState.holdsCapacity

/-- The requests of a provider and project that hold capacity. -/
def projectActive (tables : AdmissionTables) (providerId : String) (project : Digest) : Nat :=
  tables.requests.rows.countP (fun row =>
    row.providerId = providerId ∧ row.projectBindingDigest = project ∧ row.state.holdsCapacity)

/-- The project row of a provider. -/
def project? (tables : AdmissionTables) (providerId : String) (project : Digest) :
    Option ProjectRow := tables.projects.find? (providerId, project)

/-- `_decrement_project`. -/
def decrementProject (tables : AdmissionTables) (providerId : String) (project : Digest)
    (now : Timestamp) : Except MacrError AdmissionTables := do
  let condition := fun (row : ProjectRow) =>
    decide (row.key = (providerId, project) ∧ 1 ≤ row.activeUnits)
  raiseIf (tables.projects.rows.countP condition ≠ 1)
    (.providerAdmissionConflict "provider admission project capacity is inconsistent")
  pure { tables with
    projects := tables.projects.update condition
      (fun row => { row with activeUnits := row.activeUnits - 1, updatedAt := now }) }

/-- The upsert of a grant's project row. -/
def incrementProject (tables : AdmissionTables) (providerId : String) (project : Digest)
    (sequence : Nat) (now : Timestamp) : AdmissionTables :=
  let first : ProjectRow := ⟨providerId, project, 1, sequence, now⟩
  { tables with
    projects :=
      if fresh : first.key ∉ tables.projects.rows.map ProjectRow.key then
        tables.projects.insert first fresh
      else
        tables.projects.update (fun row => row.key = first.key)
          (fun row => { row with
            activeUnits := row.activeUnits + 1
            lastGrantSequence := sequence
            updatedAt := now }) }

/-! ## Rewriting one request -/

/-- Rewrite the progress of one stored request. -/
def rewriteRequest (tables : AdmissionTables) (row : RequestRow) (progress : RequestProgress) :
    AdmissionTables :=
  tables.updateRequests (fun other => other.requestId = row.requestId) (fun _ => progress)

@[simp] theorem rewriteRequest_policies (tables : AdmissionTables) (row : RequestRow)
    (progress : RequestProgress) : (tables.rewriteRequest row progress).policies = tables.policies :=
  rfl

@[simp] theorem rewriteRequest_states (tables : AdmissionTables) (row : RequestRow)
    (progress : RequestProgress) : (tables.rewriteRequest row progress).states = tables.states := rfl

/-- An update that reaches one stored request alone rewrites it. -/
theorem updateRequests_stored (tables : AdmissionTables) {row : RequestRow}
    (stored : row ∈ tables.requests.rows) (condition : RequestRow → Bool)
    (assign : RequestProgress → RequestProgress) (met : condition row = true)
    (alone : ∀ other, condition other = true → other.requestId = row.requestId) :
    tables.updateRequests condition assign =
      tables.rewriteRequest row (assign row.toRequestProgress) := by
  simp only [rewriteRequest, updateRequests, mk.injEq, true_and]
  apply Table.ext_rows
  apply List.map_congr_left
  intro other held
  by_cases same : other.requestId = row.requestId
  · have equal := tables.requests.eq_of_key held stored same
    subst equal
    simp [met]
  · have unmet : condition other = false := by
      by_contra reached
      exact same (alone other (by simpa using reached))
    simp [unmet, same]

/-- The requests after one is rewritten. -/
theorem mem_rewriteRequest (tables : AdmissionTables) {row : RequestRow}
    (stored : row ∈ tables.requests.rows) (progress : RequestProgress) (other : RequestRow) :
    other ∈ (tables.rewriteRequest row progress).requests.rows ↔
      (other ∈ tables.requests.rows ∧ other.requestId ≠ row.requestId) ∨
        other = { row with toRequestProgress := progress } := by
  simp only [rewriteRequest, updateRequests, Table.mem_update, decide_eq_true_eq]
  constructor
  · rintro ⟨old, held, rfl⟩
    by_cases same : old.requestId = row.requestId
    · have equal := tables.requests.eq_of_key held stored same
      subst equal
      exact Or.inr (by simp)
    · exact Or.inl (by simp [same, held])
  · rintro (⟨held, other_id⟩ | rfl)
    · exact ⟨other, held, by simp [other_id]⟩
    · exact ⟨row, stored, by simp⟩

/-- Rewriting one request moves a count by that request's own change. -/
theorem countP_rewriteRequest (tables : AdmissionTables) {row : RequestRow}
    (stored : row ∈ tables.requests.rows) (progress : RequestProgress)
    (count : RequestRow → Bool) :
    (tables.rewriteRequest row progress).requests.rows.countP count +
        (if count row then 1 else 0) =
      tables.requests.rows.countP count +
        (if count { row with toRequestProgress := progress } then 1 else 0) :=
  tables.requests.countP_update_key
    (fun other => { other with toRequestProgress := progress }) (fun _ => rfl) count stored

/-! ## Project units -/

/-- The units recorded for a project; a project without a row holds none. -/
def recordedUnits (tables : AdmissionTables) (providerId : String) (project : Digest) : Nat :=
  ((tables.project? providerId project).map (·.activeUnits)).getD 0

/-- A decrement that succeeds takes one unit from its own project and leaves the rest. -/
theorem decrementProject_eq_ok {tables next : AdmissionTables} {providerId : String}
    {project : Digest} {now : Timestamp}
    (done : tables.decrementProject providerId project now = .ok next) :
    (next.policies = tables.policies ∧ next.states = tables.states ∧
      next.transitions = tables.transitions ∧ next.requests = tables.requests) ∧
    ∀ provider other, next.recordedUnits provider other +
        (if (provider, other) = (providerId, project) then 1 else 0) =
      tables.recordedUnits provider other := by
  simp only [decrementProject, bind_eq_ok, raiseIf_eq_ok, pure_eq_ok, not_not, exists_const]
    at done
  obtain ⟨one, rfl⟩ := done
  refine ⟨⟨rfl, rfl, rfl, rfl⟩, ?_⟩
  intro provider other
  have held : ∃ row, tables.projects.find? (providerId, project) = some row ∧
      1 ≤ row.activeUnits := by
    have positive : 0 < tables.projects.rows.countP (fun row =>
        decide (row.key = (providerId, project) ∧ 1 ≤ row.activeUnits)) := by
      rw [one]
      exact Nat.one_pos
    obtain ⟨row, stored, met⟩ := List.countP_pos_iff.mp positive
    simp only [decide_eq_true_eq] at met
    exact ⟨row, (tables.projects.find?_eq_some _ _).mpr ⟨stored, met.1⟩, met.2⟩
  obtain ⟨row, found, units⟩ := held
  have key := ((tables.projects.find?_eq_some _ _).mp found).2
  simp only [recordedUnits, project?]
  rw [Table.find?_update]
  by_cases same : (provider, other) = (providerId, project)
  · rw [same, found]
    simp only [key, Option.map_some, true_and, units, decide_true, if_true, Option.getD_some]
    omega
  · rw [if_neg same]
    cases at_other : tables.projects.find? (provider, other) with
    | none => simp
    | some second =>
      obtain ⟨rfl, rfl⟩ := Prod.mk.inj ((tables.projects.find?_eq_some _ _).mp at_other).2
      rw [Prod.mk.injEq] at same
      simp [same]

/-- A decrement of a project that holds a unit succeeds. -/
theorem decrementProject_succeeds (tables : AdmissionTables) (providerId : String)
    (project : Digest) (now : Timestamp)
    (held : 0 < tables.recordedUnits providerId project) :
    ∃ next, tables.decrementProject providerId project now = .ok next := by
  unfold recordedUnits project? at held
  cases found : tables.projects.find? (providerId, project) with
  | none => simp [found] at held
  | some row =>
    simp only [found, Option.map_some, Option.getD_some] at held
    obtain ⟨stored, key⟩ := (tables.projects.find?_eq_some _ _).mp found
    have one : tables.projects.rows.countP (fun row =>
        decide (row.key = (providerId, project) ∧ 1 ≤ row.activeUnits)) = 1 := by
      apply Table.countP_eq_one _ stored
      · simp [key, Nat.one_le_iff_ne_zero.mpr held.ne']
      · intro other met
        simp only [decide_eq_true_eq] at met
        rw [met.1, key]
    simp only [decrementProject]
    rw [raiseIf_bind_of_not (by simpa using one)]
    exact ⟨_, rfl⟩

/-- The upsert of a grant adds one unit to its own project and leaves the rest. -/
theorem recordedUnits_incrementProject (tables : AdmissionTables) (providerId : String)
    (project : Digest) (sequence : Nat) (now : Timestamp) (provider : String) (other : Digest) :
    (tables.incrementProject providerId project sequence now).recordedUnits provider other =
      tables.recordedUnits provider other +
        (if (provider, other) = (providerId, project) then 1 else 0) := by
  simp only [recordedUnits, project?, incrementProject]
  split
  · rename_i fresh
    rw [Table.find?_insert]
    by_cases same : (provider, other) = (providerId, project)
    · have absent : tables.projects.find? (providerId, project) = none := by
        rw [Table.find?_eq_none]
        intro row stored key
        exact fresh (List.mem_map.mpr ⟨row, stored, key⟩)
      rw [if_pos same, same]
      simp [ProjectRow.key, absent]
    · rw [if_neg same]
      simp [ProjectRow.key, Ne.symm same]
  · rename_i held
    simp only [Table.find?_update, Option.map_map]
    by_cases same : (provider, other) = (providerId, project)
    · rw [if_pos same, same]
      obtain ⟨row, stored, key⟩ := List.mem_map.mp (not_not.mp held)
      obtain ⟨rfl, rfl⟩ := Prod.mk.inj key
      simp [tables.projects.find?_self stored]
    · rw [if_neg same]
      cases at_other : tables.projects.find? (provider, other) with
      | none => simp
      | some second =>
        obtain ⟨rfl, rfl⟩ := Prod.mk.inj ((tables.projects.find?_eq_some _ _).mp at_other).2
        rw [Prod.mk.injEq] at same
        simp [same]

end AdmissionTables

end Macr
