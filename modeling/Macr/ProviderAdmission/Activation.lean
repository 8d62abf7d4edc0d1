import Macr.ProviderAdmission.Kernel
import Mathlib.Data.List.Sort
import Mathlib.Algebra.GroupWithZero.Nat

/-!
# The admission kernel's control operations

Installing a policy starts a provider's control chain. A target activation, a policy transition
and a half-open activation each verify an operator's authority again under the write lock,
consume it and append one receipt. A policy transition may carry unresolved capacity across only
when the snapshot it was reviewed against is the one found under the lock.
-/

namespace Macr

open Lib

namespace ProviderAdmissionKernel

variable (sha : Sha256) (kernel : ProviderAdmissionKernel)

/-- `ProviderAdmissionKernel._consume_activation_authority`. -/
def consumeActivationAuthority (tables : AuthorityTables) (reference : AuthorizationReference)
    (now : Timestamp) : Except MacrError AuthorityTables := do
  let condition := fun (row : AuthorityRow) =>
    decide (row.key = reference.key ∧ row.epoch = reference.epoch ∧
      row.bodySha256 = reference.digest ∧ row.revokedAt = none)
  raiseIf (tables.authorities.rows.countP condition ≠ 1)
    (.providerAdmissionConflict "provider admission activation authority was already consumed")
  pure (tables.revokeWhere condition now)

/-- What a target activation asks of its authority. -/
def targetUse (bindingDigest : Digest) : AuthorityUse where
  providerId := kernel.policy.providerId
  plane := "provider_capacity_activation"
  taskType := "provider_capacity_target"
  providerAdmissionTargetDigest := some bindingDigest

/-- What a policy transition asks of its authority. -/
def policyTransitionUse (bindingDigest : Digest) : AuthorityUse where
  providerId := kernel.policy.providerId
  plane := "provider_capacity_activation"
  taskType := "provider_admission_policy_transition"
  providerAdmissionTargetDigest := some bindingDigest

/-- What a half-open activation asks of its authority. -/
def circuitUse (bindingDigest : Digest) : AuthorityUse where
  providerId := kernel.policy.providerId
  plane := "provider_circuit_activation"
  taskType := "provider_circuit_half_open"
  providerAdmissionCircuitDigest := some bindingDigest

/-- What a resolution asks of its authority, from the row it read before the lock. -/
def resolutionUse (row : RequestRow) : AuthorityUse where
  providerId := row.providerId
  plane := "provider_admission_reconciliation"
  taskType := "provider_admission_resolution"
  memberDigest := row.memberDigest
  providerTierBindingDigest := row.providerTierBindingDigest
  projectBindingDigest := some row.projectBindingDigest
  admissionLane := some row.admissionLane
  providerAdmissionPolicyDigest := some row.policyDigest

/-- The states that keep a provider from being idle. -/
def activeOrWaiting (state : RequestState) : Bool :=
  state = .waiting || state.holdsCapacity

/-- The write transaction of `ProviderAdmissionKernel.activate_target`. -/
def activateTarget (db : RuntimeDb) (target : ProviderAdmissionTargetBinding)
    (reference : AuthorizationReference) (now authorityNow : Timestamp) :
    Except MacrError (Committed RuntimeDb Unit) := do
  let state ← kernel.validatedState sha db.admission
  let _ ← db.authority.verifyInTransaction sha authorityNow reference
    (kernel.targetUse (target.bindingDigest sha))
  raiseIf (state.circuitState ≠ .closed) (.providerAdmissionConflict
    "provider admission target cannot change in current state")
  raiseIf (state.effectiveTarget = target.target)
    (.providerAdmissionConflict "provider admission target is already active")
  raiseIf (0 < db.admission.countRequests kernel.policy.providerId activeOrWaiting)
    (.providerAdmissionConflict "provider admission target requires an idle provider")
  let authority ← consumeActivationAuthority db.authority reference now
  let (tables, _) ← kernel.appendControlTransition sha db.admission (some state)
    { transitionKind := .targetActivated
      effectiveTarget := target.target
      circuitState := .closed
      lastSignal := .targetActivated
      authorityDigest := some reference.digest
      bindingDigest := some (target.bindingDigest sha) } now kernel.policy
  commit { db with authority := authority, admission := tables } ()

/-- The snapshot entry of an unresolved request; a request whose terminal evidence is missing
cannot be snapshotted. -/
def snapshotEntry (row : RequestRow) : Except MacrError Json := do
  let evidence ← require row.terminalEvidenceDigest
    (.valueError "terminal_evidence_digest must be a lowercase SHA-256 digest")
  let startedAt ← require row.transportStartedAt
    (.providerAdmissionConflict "provider admission reconciliation row is invalid")
  let terminalAt ← require row.terminalAt
    (.providerAdmissionConflict "provider admission reconciliation row is invalid")
  pure (.obj
    [("request_id", .hex row.requestId),
      ("run_id", .hex row.runId),
      ("project_binding_digest", .hex row.projectBindingDigest),
      ("admission_lane", .str row.admissionLane.value),
      ("authority_digest", .hex row.authorityDigest),
      ("authority_epoch", .int row.authorityEpoch),
      ("task_digest", .hex row.taskDigest),
      ("member_digest", .optHex row.memberDigest),
      ("provider_tier_binding_digest", .optHex row.providerTierBindingDigest),
      ("policy_digest", .hex row.policyDigest),
      ("capacity_unit", .int 1),
      ("state", .str row.state.value),
      ("transport_started_at", .time startedAt),
      ("terminal_at", .time terminalAt),
      ("terminal_evidence_digest", .hex evidence)])

/-- The requests of a provider in some states, ordered by identifier. -/
def requestsById (tables : AdmissionTables) (providerId : String)
    (condition : RequestState → Bool) : List RequestRow :=
  (tables.requests.rows.filter
    (fun row => row.providerId = providerId ∧ condition row.state)).insertionSort
      (fun left right => left.requestId ≤ right.requestId)

/-- The projects of a provider that hold capacity, ordered by binding. -/
def activeProjects (tables : AdmissionTables) (providerId : String) : List ProjectRow :=
  (tables.projects.rows.filter
    (fun row => row.providerId = providerId ∧ 0 < row.activeUnits)).insertionSort
      (fun left right => left.projectBindingDigest ≤ right.projectBindingDigest)

/-- The stored project counts are the counts of the requests that hold capacity. -/
def projectCountsAgree (projects : List ProjectRow) (capacity : List RequestRow) : Bool :=
  projects.all (fun project => project.activeUnits =
    capacity.countP (fun row => row.projectBindingDigest = project.projectBindingDigest)) &&
  capacity.all (fun row =>
    projects.any (fun project => project.projectBindingDigest = row.projectBindingDigest))

/-- `_reconciliation_isolation_snapshot_digest`. -/
def reconciliationIsolationSnapshotDigest (tables : AdmissionTables)
    (policy : ProviderAdmissionPolicy) (state : ControlRow) : Except MacrError Digest := do
  let requests ← (requestsById tables policy.providerId
    (· = .reconciliationRequired)).mapM snapshotEntry
  let projects := activeProjects tables policy.providerId
  let capacity := requestsById tables policy.providerId RequestState.holdsCapacity
  raiseIf (projectCountsAgree projects capacity = false) (.providerAdmissionConflict
    "provider admission reconciliation capacity is inconsistent")
  pure (sha.sha256Id "provider_admission_reconciliation_isolation_snapshot_v1" (.obj
    [("provider_id", .str policy.providerId),
      ("policy_revision", .int policy.revision),
      ("policy_digest", .hex (policy.policyDigest sha)),
      ("deployment_digest", .hex state.deploymentDigest),
      ("effective_target", .int state.effectiveTarget),
      ("circuit_state", .str state.circuitState.value),
      ("control_revision", .int state.controlRevision),
      ("control_digest", .hex state.controlDigest),
      ("last_signal", .str state.lastSignal.value),
      ("requests", .arr requests),
      ("active_capacity", .arr (capacity.map (fun row => .obj
        [("request_id", .hex row.requestId),
          ("project_binding_digest", .hex row.projectBindingDigest),
          ("state", .str row.state.value),
          ("capacity_unit", .int 1)]))),
      ("project_active_counts", .arr (projects.map (fun row => .obj
        [("project_binding_digest", .hex row.projectBindingDigest),
          ("active_units", .int row.activeUnits)])))]))

/-- The accumulators of `_open_episode_is_unknown_only`. -/
structure OpenEpisode where
  /-- The circuit after the receipt before. -/
  previous : Option CircuitState := none
  /-- An open episode is running. -/
  active : Bool := false
  /-- Only unknown outcomes have kept it open. -/
  unknownOnly : Bool := false

/-- A receipt that shows more than an unknown outcome. -/
def endsUnknownOnly (row : TransitionRow) : Bool :=
  row.transitionKind = .circuitOpened || row.transitionKind = .halfOpenFailed ||
    row.transitionKind = .halfOpenCancelled || row.transitionKind = .permitExpired ||
    match row.body.lastSignal with
    | .localIntegrityStop => true
    | .http status => status = 429 || (500 ≤ status && status ≤ 599)
    | _ => false

/-- One turn of the loop of `_open_episode_is_unknown_only`. -/
def OpenEpisode.observe (episode : OpenEpisode) (row : TransitionRow) : OpenEpisode :=
  let current := row.body.circuitState
  if current = .open ∧ episode.previous ≠ some .open then
    ⟨some current, true, row.transitionKind = .unknownAfterDispatch⟩
  else if current ≠ .open then
    ⟨some current, false, false⟩
  else if episode.active ∧ endsUnknownOnly row then
    ⟨some current, episode.active, false⟩
  else
    ⟨some current, episode.active, episode.unknownOnly⟩

/-- `ProviderAdmissionKernel._open_episode_is_unknown_only`. -/
def openEpisodeIsUnknownOnly (tables : AdmissionTables) (providerId : String) : Bool :=
  let rows := (tables.transitions.rows.filter
    (fun row => row.providerId = providerId)).insertionSort
      (fun left right => left.controlRevision ≤ right.controlRevision)
  let episode := rows.foldl OpenEpisode.observe {}
  episode.active && episode.unknownOnly

/-- The policy transitions `supersede_policy` supports. -/
def supportedPairs : List (ProviderAdmissionPolicy × ProviderAdmissionPolicy) :=
  [(glmProviderAdmissionPolicyV1, glmProviderAdmissionPolicyV2),
    (glmProviderAdmissionPolicyV2, glmProviderAdmissionPolicy),
    (grokProviderAdmissionPolicyV1, grokProviderAdmissionPolicy)]

/-- The row a policy is stored under; a stored revision must be this policy. -/
def storePolicy (tables : AdmissionTables) (policy : ProviderAdmissionPolicy) (now : Timestamp)
    (conflict : String) : Except MacrError AdmissionTables :=
  match tables.policies.find? (policy.providerId, policy.revision) with
  | none => do
    raiseIf (∃ row ∈ tables.policies.rows, row.policyDigest = policy.policyDigest sha) .integrity
    let policies ← require (tables.policies.insert?
      ⟨policy.providerId, policy.revision, policy, sha.sha256 policy.toDict,
        policy.policyDigest sha, now⟩) .integrity
    pure { tables with policies := policies }
  | some row => do
    raiseIf (row.body ≠ policy ∨ row.bodySha256 ≠ sha.sha256 policy.toDict ∨
      row.policyDigest ≠ policy.policyDigest sha) (.providerAdmissionConflict conflict)
    pure tables

/-- The snapshot of unresolved capacity found under the lock, where there is any. -/
def currentSnapshot (tables : AdmissionTables) (state : ControlRow) (unresolved : Nat) :
    Except MacrError (Option Digest) :=
  if 0 < unresolved then do
    let digest ← reconciliationIsolationSnapshotDigest sha tables kernel.policy state
    pure (some digest)
  else
    pure none

/-- The write transaction of `ProviderAdmissionKernel.supersede_policy`. -/
def supersedePolicy (db : RuntimeDb) (binding : ProviderAdmissionPolicyTransitionBinding)
    (successor : ProviderAdmissionPolicy) (reference : AuthorizationReference)
    (now authorityNow : Timestamp) : Except MacrError (Committed RuntimeDb Unit) := do
  let providerId := kernel.policy.providerId
  let state ← kernel.validatedState sha db.admission
  let _ ← db.authority.verifyInTransaction sha authorityNow reference
    (kernel.policyTransitionUse (binding.bindingDigest sha))
  let blocking := db.admission.countRequests providerId
    (fun state => state = .waiting || state = .granted || state = .dispatched)
  let unresolved := db.admission.countRequests providerId (· = .reconciliationRequired)
  let semanticsMigration := kernel.policy.uncertainDispatchScope = .global ∧
    successor.uncertainDispatchScope = .capacityReservation
  let snapshot ← kernel.currentSnapshot sha db.admission state unresolved
  let canIsolateExisting := semanticsMigration ∧
    binding.reconciliationSnapshotDigest = snapshot ∧
    binding.reconciliationIsolationEvidenceDigest ≠ none ∧ state.circuitState = .open ∧
    openEpisodeIsUnknownOnly db.admission providerId = true
  let activeUnits := ((db.admission.projects.rows.filter
    (fun row => row.providerId = providerId)).map (·.activeUnits)).sum
  let projectOverCap := db.admission.projects.rows.countP
    (fun row => row.providerId = providerId ∧ successor.perProjectCap < row.activeUnits)
  raiseIf (0 < blocking ∨ activeUnits ≠ unresolved ∨ binding.target < activeUnits ∨
      0 < projectOverCap ∨ (0 < unresolved ∧ ¬canIsolateExisting) ∨
      (unresolved = 0 ∧ (state.circuitState ≠ .closed ∨
        binding.reconciliationSnapshotDigest ≠ none ∨
        binding.reconciliationIsolationEvidenceDigest ≠ none)))
    (.providerAdmissionConflict
      "provider admission policy transition requires an idle or exactly isolatable runtime")
  let tables ← storePolicy sha db.admission successor now
    "provider admission successor policy conflicts"
  let authority ← consumeActivationAuthority db.authority reference now
  let (tables, _) ← kernel.appendControlTransition sha tables (some state)
    { transitionKind := .policySuperseded
      effectiveTarget := binding.target
      circuitState := .closed
      lastSignal :=
        if 0 < unresolved then .policySupersededWithReconciliation else .policySuperseded
      authorityDigest := some reference.digest
      bindingDigest := some (binding.bindingDigest sha)
      evidenceDigest :=
        if 0 < unresolved then binding.reconciliationIsolationEvidenceDigest else none }
    now successor
  commit { db with authority := authority, admission := tables } ()

/-- The write transaction of `ProviderAdmissionKernel.activate_half_open`; both authorities are
verified under the lock, each with a clock reading of its own. -/
def activateHalfOpen (db : RuntimeDb) (binding : ProviderAdmissionCircuitBinding)
    (reference : AuthorizationReference) (probe : ProviderAdmissionRequest)
    (now probeNow authorityNow : Timestamp) : Except MacrError (Committed RuntimeDb Unit) := do
  let state ← kernel.validatedState sha db.admission
  let _ ← db.authority.verifyInTransaction sha probeNow probe.authorization
    (kernel.admissionUse sha probe)
  let _ ← db.authority.verifyInTransaction sha authorityNow reference
    (kernel.circuitUse (binding.bindingDigest sha))
  raiseIf (state.circuitState ≠ .open ∨
      0 < db.admission.countRequests kernel.policy.providerId (· = .reconciliationRequired) ∨
      0 < db.admission.countRequests kernel.policy.providerId
        (fun state => state = .waiting || state = .granted || state = .dispatched) ∨
      ∃ row ∈ db.admission.requests.rows,
        row.requestId = probe.requestId ∨ row.runId = probe.runId)
    (.providerAdmissionConflict "provider admission circuit cannot enter half-open")
  let authority ← consumeActivationAuthority db.authority reference now
  let (tables, _) ← kernel.appendControlTransition sha db.admission (some state)
    { transitionKind := .halfOpenActivated
      effectiveTarget := state.effectiveTarget
      circuitState := .halfOpen
      halfOpenProbeRequestDigest := some binding.probeRequestDigest
      lastSignal := .halfOpenAuthorized
      authorityDigest := some reference.digest
      bindingDigest := some (binding.bindingDigest sha) } now kernel.policy
  commit { db with authority := authority, admission := tables } ()

/-- `ProviderAdmissionKernel._install_policy`, which runs in the constructor. The numbers of
unfinished runs and of dispatch leases are what it reads of the legacy runtime. -/
def installPolicy (db : RuntimeDb) (nonterminalRuns activeDispatchLeases : Nat)
    (now : Timestamp) : Except MacrError (Committed RuntimeDb Unit) := do
  let state := db.admission.states.find? kernel.policy.providerId
  raiseIf (state = none ∧ (0 < nonterminalRuns ∨ 0 < activeDispatchLeases))
    (.providerAdmissionConflict
      "provider admission bootstrap requires a quiescent legacy runtime")
  let tables ← storePolicy sha db.admission kernel.policy now
    "provider admission policy revision conflicts"
  if state = none then do
    let (tables, _) ← kernel.appendControlTransition sha tables none
      { transitionKind := .genesis
        effectiveTarget := kernel.policy.effectiveTarget
        circuitState := .closed
        lastSignal := .policyInstalled } now kernel.policy
    commit { db with admission := tables } ()
  else do
    let _ ← kernel.validatedState sha tables
    commit { db with admission := tables } ()

end ProviderAdmissionKernel
end Macr
